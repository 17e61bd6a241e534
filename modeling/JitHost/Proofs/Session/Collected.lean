import JitHost.Proofs.Engine.Steps
import JitHost.Proofs.Session.Resources

/-!
# What a session collects before it is relocated

Until it is relocated a session only hands sources and symbols on to its engine. If this is one that
compiles and links, then what it has is a matter of the requests alone: the functions of the sources
and the symbols that were registered, each in their own order (`Collected`). Every request adds its
part, or relocates the session, or closes it (`Row.of_collected`), so a session that can still be
relocated after a run has collected what the requests of the run add (`collected_after`).
-/

namespace JitHost

variable {frontEnd : FrontEnd}

namespace SessionRequest

/-- Whether a request is to compile a source. -/
def isCompile : SessionRequest → Bool
  | compile _ => true
  | _ => false

/-- Whether a request is to register symbols, of the caller or of the host. -/
def isImport : SessionRequest → Bool
  | importSymbols _ | importApi => true
  | _ => false

/-- The functions of the source in a request. -/
def functions (frontEnd : FrontEnd) : SessionRequest → List CompiledFunction
  | compile source => frontEnd.functions source
  | _ => []

/-- The symbols that a request registers, which are none if one of them has no name. -/
def registered : SessionRequest → List (String × Address)
  | importSymbols symbols => if symbols.any fun symbol => symbol.1 = "" then [] else symbols
  | importApi => Callback.symbols
  | _ => []

/-- The functions of the source in a request, if the session accepted it. -/
def accepted (frontEnd : FrontEnd) : SessionRequest × SessionResponse → List CompiledFunction
  | (compile source, .done (.ok ())) => frontEnd.functions source
  | _ => []

theorem registered_of_named {symbols : List (String × Address)}
    (hnamed : ∀ symbol ∈ symbols, symbol.1 ≠ "") : (importSymbols symbols).registered = symbols := by
  have hnone : ¬ (symbols.any fun symbol => symbol.1 = "") = true := by
    intro hany
    obtain ⟨symbol, hsymbol, hname⟩ := List.any_eq_true.1 hany
    exact hnamed symbol hsymbol (of_decide_eq_true hname)
  rw [registered, if_neg hnone]

theorem registered_of_unnamed {symbols : List (String × Address)}
    (hunnamed : ∃ symbol ∈ symbols, symbol.1 = "") : (importSymbols symbols).registered = [] := by
  obtain ⟨symbol, hsymbol, hname⟩ := hunnamed
  have hany : (symbols.any fun symbol => symbol.1 = "") = true :=
    List.any_eq_true.2 ⟨symbol, hsymbol, decide_eq_true hname⟩
  rw [registered, if_pos hany]

/-- Only sources have functions. -/
theorem flatMap_functions_filter (requests : List SessionRequest) :
    (requests.filter isCompile).flatMap (functions frontEnd) =
      requests.flatMap (functions frontEnd) := by
  induction requests with
  | nil => rfl
  | cons request rest ih =>
    cases request with
    | compile source =>
      rw [List.filter_cons_of_pos rfl, List.flatMap_cons, List.flatMap_cons, ih]
    | _ =>
      rw [List.filter_cons_of_neg (by simp [isCompile]), List.flatMap_cons, ih]
      rfl

/-- Only imports register symbols. -/
theorem flatMap_registered_filter (requests : List SessionRequest) :
    (requests.filter isImport).flatMap registered = requests.flatMap registered := by
  induction requests with
  | nil => rfl
  | cons request rest ih =>
    cases request with
    | importSymbols symbols | importApi =>
      rw [List.filter_cons_of_pos rfl, List.flatMap_cons, List.flatMap_cons, ih]
    | _ =>
      rw [List.filter_cons_of_neg (by simp [isImport]), List.flatMap_cons, ih]
      rfl

theorem accepted_refused (request : SessionRequest) (e : SessionError) :
    accepted frontEnd (request, request.refused e) = [] := by
  cases request <;> rfl

end SessionRequest

/-- A state in which a session can be relocated allows to compile and to import. -/
theorem SessionState.allowed_of_relocatable {state : SessionState}
    (h : state.refusal? .relocate = none) :
    state.refusal? .compile = none ∧ state.refusal? .importSymbols = none ∧
      state.refusal? .importApi = none := by
  cases state with
  | closed cause => cases cause <;> cases h
  | relocated => cases h
  | fresh | compiled => exact ⟨rfl, rfl, rfl⟩

namespace JitEngine

/-- An engine with functions and with symbols in the order in which they were added, and without a
plan. -/
def holding (frontEnd : FrontEnd) (functions : List CompiledFunction)
    (added : List (String × Address)) : JitEngine frontEnd :=
  ⟨functions, added.reverse, none, none⟩

theorem upToDate_holding (functions : List CompiledFunction) (added : List (String × Address)) :
    (holding frontEnd functions added).UpToDate :=
  fun _ h => nomatch h

/-- Symbols that are added one after another. -/
theorem foldl_addSymbol (functions : List CompiledFunction)
    (added symbols : List (String × Address)) :
    symbols.foldl (fun engine symbol => Engine.addSymbol engine symbol.1 symbol.2)
      (holding frontEnd functions added) = holding frontEnd functions (added ++ symbols) := by
  induction symbols generalizing added with
  | nil => rw [List.foldl_nil, List.append_nil]
  | cons symbol rest ih =>
    have hone : Engine.addSymbol (holding frontEnd functions added) symbol.1 symbol.2 =
        holding frontEnd functions (added ++ [symbol]) := by
      simp [holding, Engine.addSymbol, addSymbol]
    rw [List.foldl_cons, hone, ih, List.append_assoc, List.singleton_append]

/-- A source that compiles in silence adds its functions, no name of which is taken. -/
theorem compile_holding {functions : List CompiledFunction} {added : List (String × Address)}
    (hnames : (functions.map CompiledFunction.name).Nodup) {source : String}
    (hsuccess : ((holding frontEnd functions added).compile source).1 = .success ()) :
    ((holding frontEnd functions added).compile source).2 =
        holding frontEnd (functions ++ frontEnd.functions source) added ∧
      ((functions ++ frontEnd.functions source).map CompiledFunction.name).Nodup := by
  have hstep := step_compile (holding frontEnd functions added) source
  have hnodup := hstep.nodup_functionNames hnames
  generalize (holding frontEnd functions added).compile source = answer at hsuccess hstep hnodup ⊢
  obtain ⟨attempt, next⟩ := answer
  cases hsuccess
  cases hstep with
  | accepted hopen hnew => exact ⟨rfl, hnodup⟩
  | rejected hfailed => cases hfailed

end JitEngine

namespace Session

/-- The functions of all sources that a session accepts in a run. -/
def accepted (s : Session (JitEngine frontEnd)) (requests : List SessionRequest) :
    List CompiledFunction :=
  (requests.zip (s.responses requests)).flatMap (SessionRequest.accepted frontEnd)

/-- A session can be relocated, and its engine has some functions, of different names, and some
symbols, and no plan yet. -/
structure Collected (s : Session (JitEngine frontEnd)) (functions : List CompiledFunction)
    (added : List (String × Address)) : Prop where
  engine : s.engine? = some (.holding frontEnd functions added)
  names : (functions.map CompiledFunction.name).Nodup
  relocatable : s.state.refusal? .relocate = none

theorem collected_new (frontEnd : FrontEnd) :
    (Session.new (JitEngine.new frontEnd)).Collected [] [] :=
  ⟨rfl, List.nodup_nil, rfl⟩

variable {s t : Session (JitEngine frontEnd)} {request : SessionRequest}
  {response : SessionResponse} {functions : List CompiledFunction}
  {added : List (String × Address)}

theorem Collected.functionNames (hs : s.Collected functions added) :
    (JitEngine.holding frontEnd functions added).functionNames.Nodup :=
  hs.names

/-- A request that is refused before relocation is neither a source nor an import. -/
theorem Collected.refused (hs : s.Collected functions added) {operation : Operation}
    {e : SessionError} (hoperation : request.operation? = some operation)
    (hrefused : s.state.refusal? operation = some e) :
    request.functions frontEnd = [] ∧ request.registered = [] := by
  obtain ⟨hcompile, himport, hapi⟩ := SessionState.allowed_of_relocatable hs.relocatable
  cases request with
  | compile source =>
    cases hoperation
    rw [hcompile] at hrefused
    cases hrefused
  | importSymbols symbols =>
    cases hoperation
    rw [himport] at hrefused
    cases hrefused
  | importApi =>
    cases hoperation
    rw [hapi] at hrefused
    cases hrefused
  | _ => exact ⟨rfl, rfl⟩

/-- Before relocation a request adds what it has to add, or it relocates or closes the session. -/
theorem Row.of_collected (h : Row s request response t) (hs : s.Collected functions added) :
    (t.Collected (functions ++ request.functions frontEnd) (added ++ request.registered) ∧
      SessionRequest.accepted frontEnd (request, response) = request.functions frontEnd) ∨
    (∃ memory size place, request = .relocate memory ∧
      Materializes (JitEngine.holding frontEnd functions added) memory size place ∧
      t = s.materializedAt (.holding frontEnd functions added) place size) ∨
    t.isClosed = true := by
  have hkept : s.Collected (functions ++ []) (added ++ []) := by
    rw [List.append_nil, List.append_nil]
    exact hs
  cases h with
  | @refused request operation e hoperation hrefused =>
    obtain ⟨hfunctions, hregistered⟩ := hs.refused hoperation hrefused
    rw [SessionRequest.accepted_refused, hfunctions, hregistered]
    exact .inl ⟨hkept, rfl⟩
  | @compiled engine source hallowed hengine hquiet =>
    rw [hs.engine] at hengine
    cases hengine
    obtain ⟨hnext, hnames⟩ := JitEngine.compile_holding hs.names hquiet
    refine .inl ⟨⟨?_, hnames, rfl⟩, rfl⟩
    simp only [SessionRequest.registered, List.append_nil]
    exact congrArg some hnext
  | @relocated engine memory size place hallowed hengine hsteps =>
    rw [hs.engine] at hengine
    cases hengine
    exact .inr (.inl ⟨memory, size, place, rfl, hsteps, rfl⟩)
  | @imported engine symbols hallowed hengine hnamed =>
    rw [hs.engine] at hengine
    cases hengine
    refine .inl ⟨⟨?_, hkept.names, hs.relocatable⟩, rfl⟩
    rw [told, JitEngine.foldl_addSymbol, SessionRequest.registered_of_named hnamed]
    simp only [SessionRequest.functions, List.append_nil]
  | @unnamed engine symbols hallowed hengine hunnamed =>
    rw [SessionRequest.registered_of_unnamed hunnamed]
    exact .inl ⟨hkept, rfl⟩
  | importedApi hallowed hengine =>
    rw [hs.engine] at hengine
    cases hengine
    refine .inl ⟨⟨?_, hkept.names, hs.relocatable⟩, rfl⟩
    rw [told, JitEngine.foldl_addSymbol]
    simp only [SessionRequest.functions, SessionRequest.registered, List.append_nil]
  | compileFailed | relocationFailed | closed | finalized => exact .inr (.inr rfl)
  | alreadyClosed hclosed => exact .inr (.inr hclosed)
  | _ => exact .inl ⟨⟨hkept.engine, hkept.names, hkept.relocatable⟩, rfl⟩

/-! ## Runs -/

/-- A session that cannot be relocated any more stays so. -/
theorem frozen_after (hs : s.Consistent) (hfrozen : ∃ e, s.state.refusal? .relocate = some e)
    (requests : List SessionRequest) :
    ∃ e, (s.after requests).state.refusal? .relocate = some e := by
  induction requests generalizing s with
  | nil => exact hfrozen
  | cons request rest ih =>
    have hrow := hs.row_perform request
    exact ih (hrow.consistent hs) (hrow.frozen hfrozen).1

theorem collected_after (hs : s.Consistent) (hcollected : s.Collected functions added)
    {requests : List SessionRequest}
    (hafter : (s.after requests).state.refusal? .relocate = none) :
    (s.after requests).Collected
      (functions ++ requests.flatMap (SessionRequest.functions frontEnd))
      (added ++ requests.flatMap SessionRequest.registered) := by
  induction requests generalizing s functions added with
  | nil =>
    rw [List.flatMap_nil, List.flatMap_nil, List.append_nil, List.append_nil]
    exact hcollected
  | cons request rest ih =>
    have hrow := hs.row_perform request
    have hnext := hrow.consistent hs
    -- Once relocated or closed, the session could not be relocated at the end of the run.
    have hopen : ¬ ∃ e, (s.perform request).2.state.refusal? .relocate = some e := by
      intro hfrozen
      obtain ⟨e, he⟩ := frozen_after hnext hfrozen rest
      rw [after, he] at hafter
      cases hafter
    rcases hrow.of_collected hcollected with ⟨hcollected, -⟩ |
      ⟨memory, size, place, -, -, hrelocated⟩ | hclosed
    · rw [after, List.flatMap_cons, List.flatMap_cons, ← List.append_assoc, ← List.append_assoc]
      exact ih hnext hcollected hafter
    · refine absurd ⟨.relocatedSession .relocate, ?_⟩ hopen
      rw [hrelocated]
      rfl
    · obtain ⟨cause, hcause⟩ := exists_cause hclosed
      refine absurd ?_ hopen
      rw [hcause]
      exact SessionState.exists_refusal cause .relocate

end Session

end JitHost
