import JitHost.Proofs.Session.Relocation

/-!
# The lifecycle of a session

`Row` is the table of everything that can be asked of a session: the response, the session after it
and the calls made on the engine, one constructor for each case. A session that has its engine
exactly as long as it is open (`Consistent`) answers every request by one row (`exists_row`), and
what a row says is what the session does (`perform_of_row`). All sessions that are reached from a
fresh one are of this kind (`consistent_after`), so they follow the table, whatever their engine
answers (`FollowsLifecycle`).
-/

namespace JitHost

namespace Session

/-! ## What a session holds -/

/-- A session has an engine unless it is closed, and code exactly while it is relocated. -/
structure Consistent (s : Session σ) : Prop where
  engine : s.engine? = none ↔ s.isClosed = true
  code : s.code?.isSome = true ↔ s.state = .relocated

theorem consistent_new (engine : σ) : (Session.new engine).Consistent := by
  constructor
  · exact ⟨fun h => (nomatch h), fun h => (nomatch h)⟩
  · exact ⟨fun h => (nomatch h), fun h => (nomatch h)⟩

variable {s : Session σ}

theorem isClosed_of_allowed {operation : Operation}
    (hallowed : s.state.refusal? operation = none) : s.isClosed = false := by
  unfold isClosed
  cases hstate : s.state with
  | closed cause =>
    obtain ⟨e, he⟩ := SessionState.exists_refusal cause operation
    rw [hstate, he] at hallowed
    cases hallowed
  | _ => rfl

theorem Consistent.exists_engine (hs : s.Consistent) (hopen : s.isClosed = false) :
    ∃ engine, s.engine? = some engine := by
  cases hengine : s.engine? with
  | none =>
    rw [hs.engine.1 hengine] at hopen
    cases hopen
  | some engine => exact ⟨engine, rfl⟩

/-- An open session with its engine keeps what it holds, whatever was called. -/
theorem Consistent.called (hs : s.Consistent) (hopen : s.isClosed = false) (engine : σ)
    (calls : List EngineCall) : Consistent { s with engine? := some engine, calls := calls } := by
  refine ⟨⟨fun h => (nomatch h), fun h => ?_⟩, hs.code⟩
  have hclosed : s.isClosed = true := h
  rw [hopen] at hclosed
  cases hclosed

theorem consistent_closed (cause : CloseCause) (calls : List EngineCall) :
    Consistent (⟨none, none, .closed cause, calls⟩ : Session σ) :=
  ⟨⟨fun _ => rfl, fun _ => rfl⟩, ⟨fun h => (nomatch h), fun h => (nomatch h)⟩⟩

theorem isClosed_finalize (s : Session σ) : s.finalize.isClosed = true := by
  unfold finalize
  cases hclosed : s.isClosed with
  | true => exact hclosed
  | false => rfl

theorem closesSession_refusal {state : SessionState} {operation : Operation} {e : SessionError}
    (hrefused : state.refusal? operation = some e) : e.closesSession = false := by
  cases state with
  | closed cause => cases cause <;> cases operation <;> cases hrefused <;> rfl
  | _ => cases operation <;> cases hrefused <;> rfl

theorem closesSession_iff_of_kept {e : SessionError} {t : Session σ}
    (hmild : e.closesSession = false) (hkept : t.isClosed = s.isClosed) :
    e.closesSession = true ↔ s.isClosed = false ∧ t.isClosed = true := by
  rw [hmild, hkept]
  constructor
  · intro h
    cases h
  · intro h
    rw [h.1] at h
    cases h.2

/-! ## The table -/

/-- The session after its engine was asked for symbols. -/
def asked (s : Session σ) (names : List String) : Session σ :=
  { s with calls := s.calls ++ names.map .symbol }

theorem afterCall_eq_asked {engine : σ} (hengine : s.engine? = some engine) (name : String) :
    s.afterCall (.symbol name) engine = s.asked [name] := by
  obtain ⟨engine?, code?, state, calls⟩ := s
  cases hengine
  rfl

theorem release_eq_closedBy {engine : σ} (hengine : s.engine? = some engine) (cause : CloseCause) :
    s.release cause = s.closedBy cause [] := by
  obtain ⟨engine?, code?, state, calls⟩ := s
  cases hengine
  simp [release, closedBy]

variable [Engine σ]

/-- The session after its engine was told of symbols. -/
def told (s : Session σ) (engine : σ) (symbols : List (String × Address)) : Session σ :=
  { s with
    engine? := some (symbols.foldl (fun engine symbol =>
      Engine.addSymbol engine symbol.1 symbol.2) engine)
    calls := s.calls ++ symbols.map fun symbol => .add symbol.1 symbol.2 }

/-- Entries with the addresses of the symbols that they name. -/
def overwritten (engine : σ) (entries : List (String × Address)) : List (String × Address) :=
  entries.map fun entry => (entry.1, (Engine.symbol? engine entry.1).getD entry.2)

/-- The table: a session, a request, the response to it and the session after it. A relocation that
fails is at one of four steps, and an export writes the entries before the first missing symbol. -/
inductive Row : Session σ → SessionRequest → SessionResponse → Session σ → Prop where
  | refused {s : Session σ} {request : SessionRequest} {operation : Operation} {e : SessionError}
      (hoperation : request.operation? = some operation)
      (hrefused : s.state.refusal? operation = some e) :
      Row s request (request.refused e) s
  | allowed {s : Session σ} {operation : Operation}
      (hallowed : s.state.refusal? operation = none) :
      Row s (.check operation) (.done (.ok ())) s
  | compiled {s : Session σ} {engine : σ} {source : String}
      (hallowed : s.state.refusal? .compile = none) (hengine : s.engine? = some engine)
      (hquiet : (Engine.compile engine source).1 = ⟨[], .ok ()⟩) :
      Row s (.compile source) (.done (.ok ()))
        { s with
          engine? := some (Engine.compile engine source).2
          state := .compiled
          calls := s.calls ++ [.compile source] }
  | compileFailed {s : Session σ} {engine : σ} {source : String}
      (hallowed : s.state.refusal? .compile = none) (hengine : s.engine? = some engine)
      (hfailed : (Engine.compile engine source).1 ≠ ⟨[], .ok ()⟩) :
      Row s (.compile source)
        (.done (.error (ErrorLog.mk (Engine.compile engine source).1.diagnostics).compileError))
        (s.closedBy .compileFailed [.compile source])
  | relocated {s : Session σ} {engine : σ} {memory : MemoryService} {size : Nat} {place : Address}
      (hallowed : s.state.refusal? .relocate = none) (hengine : s.engine? = some engine)
      (hsteps : Materializes engine memory size place) :
      Row s (.relocate memory) (.size (.ok size)) (s.materializedAt engine place size)
  | relocationFailed {s : Session σ} {engine : σ} {memory : MemoryService}
      {calls : List EngineCall} {log : ErrorLog} {cause : EngineError}
      (hallowed : s.state.refusal? .relocate = none) (hengine : s.engine? = some engine)
      (hfault : RelocationFault engine memory calls log cause) :
      Row s (.relocate memory) (.size (.error (log.relocationError cause)))
        (s.closedBy .relocationFailed calls)
  | imported {s : Session σ} {engine : σ} {symbols : List (String × Address)}
      (hallowed : s.state.refusal? .importSymbols = none) (hengine : s.engine? = some engine)
      (hnamed : ∀ symbol ∈ symbols, symbol.1 ≠ "") :
      Row s (.importSymbols symbols) (.done (.ok ())) (s.told engine symbols)
  | unnamed {s : Session σ} {engine : σ} {symbols : List (String × Address)}
      (hallowed : s.state.refusal? .importSymbols = none) (hengine : s.engine? = some engine)
      (hunnamed : ∃ symbol ∈ symbols, symbol.1 = "") :
      Row s (.importSymbols symbols) (.done (.error (.ofArgument .emptyName))) s
  | importedApi {s : Session σ} {engine : σ}
      (hallowed : s.state.refusal? .importApi = none) (hengine : s.engine? = some engine) :
      Row s .importApi (.done (.ok ())) (s.told engine Callback.symbols)
  | exported {s : Session σ} {engine : σ} {symbols : SymbolMap}
      (hallowed : s.state.refusal? .exportSymbols = none) (hengine : s.engine? = some engine)
      (hfound : ∀ entry ∈ symbols.entries, (Engine.symbol? engine entry.1).isSome = true) :
      Row s (.exportSymbols symbols) (.symbols (.ok ()) ⟨overwritten engine symbols.entries⟩)
        (s.asked (symbols.entries.map Prod.fst))
  | exportStopped {s : Session σ} {engine : σ} {before rest : List (String × Address)}
      {name : String} {address : Address}
      (hallowed : s.state.refusal? .exportSymbols = none) (hengine : s.engine? = some engine)
      (hfound : ∀ entry ∈ before, (Engine.symbol? engine entry.1).isSome = true)
      (hmissing : Engine.symbol? engine name = none) :
      Row s (.exportSymbols ⟨before ++ (name, address) :: rest⟩)
        (.symbols (.error (.symbolNotFound name))
          ⟨overwritten engine before ++ (name, address) :: rest⟩)
        (s.asked (before.map Prod.fst ++ [name]))
  | found {s : Session σ} {engine : σ} {name : String} {address : Address}
      (hallowed : s.state.refusal? .exportSymbols = none) (hengine : s.engine? = some engine)
      (hfound : Engine.symbol? engine name = some address) :
      Row s (.symbol name) (.address (.ok address)) (s.asked [name])
  | missing {s : Session σ} {engine : σ} {name : String}
      (hallowed : s.state.refusal? .exportSymbols = none) (hengine : s.engine? = some engine)
      (hmissing : Engine.symbol? engine name = none) :
      Row s (.symbol name) (.address (.error (.symbolNotFound name))) (s.asked [name])
  | routineFound {s : Session σ} {engine : σ} {name : String} {address : Address}
      (hallowed : s.state.refusal? .exportRoutine = none) (hengine : s.engine? = some engine)
      (hfound : Engine.symbol? engine name = some address) (hnull : address ≠ .null) :
      Row s (.routine name) (.address (.ok address)) (s.asked [name])
  | routineMissing {s : Session σ} {engine : σ} {name : String}
      (hallowed : s.state.refusal? .exportRoutine = none) (hengine : s.engine? = some engine)
      (hmissing : (Engine.symbol? engine name).getD .null = .null) :
      Row s (.routine name) (.address (.error (.symbolNotFound name))) (s.asked [name])
  | closed {s : Session σ} {engine : σ} (hallowed : s.state.refusal? .close = none)
      (hengine : s.engine? = some engine) :
      Row s .close (.done (.ok ())) (s.closedBy .explicit [])
  | finalized {s : Session σ} {engine : σ} (hopen : s.isClosed = false)
      (hengine : s.engine? = some engine) :
      Row s .finalize (.done (.ok ())) (s.closedBy .finalized [])
  | alreadyClosed {s : Session σ} (hclosed : s.isClosed = true) :
      Row s .finalize (.done (.ok ())) s

/-! ## What a row says is what the session does -/

variable {engine : σ}

theorem compile_of_quiet (hallowed : s.state.refusal? .compile = none)
    (hengine : s.engine? = some engine) {source : String}
    (hquiet : (Engine.compile engine source).1 = ⟨[], .ok ()⟩) :
    s.compile source = (.ok (), { s with
      engine? := some (Engine.compile engine source).2
      state := .compiled
      calls := s.calls ++ [.compile source] }) := by
  simp only [compile, engineFor_of_allowed hallowed hengine, hquiet]
  rfl

/-- A compilation that is not silent or does not succeed closes the session. -/
theorem compile_of_failed (hallowed : s.state.refusal? .compile = none)
    (hengine : s.engine? = some engine) {source : String}
    (hfailed : (Engine.compile engine source).1 ≠ ⟨[], .ok ()⟩) :
    s.compile source =
      (.error (ErrorLog.mk (Engine.compile engine source).1.diagnostics).compileError,
        s.closedBy .compileFailed [.compile source]) := by
  simp only [compile, engineFor_of_allowed hallowed hengine]
  generalize Engine.compile engine source = answer at hfailed ⊢
  obtain ⟨⟨diagnostics, outcome⟩, after⟩ := answer
  cases outcome with
  | error cause => rfl
  | ok done =>
    cases diagnostics with
    | nil => exact absurd rfl hfailed
    | cons entry rest => rfl

theorem register_eq_told (hengine : s.engine? = some engine)
    (symbols : List (String × Address)) : s.register engine symbols = s.told engine symbols := by
  induction symbols generalizing s engine with
  | nil =>
    obtain ⟨engine?, code?, state, calls⟩ := s
    cases hengine
    simp [register, told]
  | cons symbol rest ih =>
    rw [register, ih rfl]
    simp [told, afterCall]

theorem importSymbols_of_named (hallowed : s.state.refusal? .importSymbols = none)
    (hengine : s.engine? = some engine) {symbols : List (String × Address)}
    (hnamed : ∀ symbol ∈ symbols, symbol.1 ≠ "") :
    s.importSymbols symbols = (.ok (), s.told engine symbols) := by
  have hnone : ¬ (symbols.any fun symbol => symbol.1 = "") = true := by
    intro hany
    obtain ⟨symbol, hsymbol, hname⟩ := List.any_eq_true.1 hany
    exact hnamed symbol hsymbol (of_decide_eq_true hname)
  simp only [importSymbols, engineFor_of_allowed hallowed hengine, if_neg hnone,
    register_eq_told hengine]

/-- No symbol is imported if one of them has no name. -/
theorem importSymbols_of_unnamed (hallowed : s.state.refusal? .importSymbols = none)
    (hengine : s.engine? = some engine) {symbols : List (String × Address)}
    (hunnamed : ∃ symbol ∈ symbols, symbol.1 = "") :
    s.importSymbols symbols = (.error (.ofArgument .emptyName), s) := by
  obtain ⟨symbol, hsymbol, hname⟩ := hunnamed
  have hsome : (symbols.any fun symbol => symbol.1 = "") = true :=
    List.any_eq_true.2 ⟨symbol, hsymbol, decide_eq_true hname⟩
  simp only [importSymbols, engineFor_of_allowed hallowed hengine, if_pos hsome]

theorem symbol_of_found (hallowed : s.state.refusal? .exportSymbols = none)
    (hengine : s.engine? = some engine) {name : String} {address : Address}
    (hfound : Engine.symbol? engine name = some address) :
    s.symbol name = (.ok address, s.asked [name]) := by
  simp only [symbol, lookup, engineFor_of_allowed hallowed hengine, hfound,
    afterCall_eq_asked hengine]

theorem symbol_of_missing (hallowed : s.state.refusal? .exportSymbols = none)
    (hengine : s.engine? = some engine) {name : String}
    (hmissing : Engine.symbol? engine name = none) :
    s.symbol name = (.error (.symbolNotFound name), s.asked [name]) := by
  simp only [symbol, lookup, engineFor_of_allowed hallowed hengine, hmissing,
    afterCall_eq_asked hengine]

/-- An export of entries that all name symbols goes on with the entries behind them. -/
theorem exportEntries_append (hallowed : s.state.refusal? .exportSymbols = none)
    (hengine : s.engine? = some engine) {before : List (String × Address)}
    (hfound : ∀ entry ∈ before, (Engine.symbol? engine entry.1).isSome = true)
    (rest : List (String × Address)) :
    s.exportEntries (before ++ rest) =
      (((s.asked (before.map Prod.fst)).exportEntries rest).1,
        overwritten engine before ++ ((s.asked (before.map Prod.fst)).exportEntries rest).2.1,
        ((s.asked (before.map Prod.fst)).exportEntries rest).2.2) := by
  -- The calls pile up in the session, which therefore varies in the induction.
  induction before generalizing s with
  | nil => simp [asked, overwritten]
  | cons entry before ih =>
    obtain ⟨name, old⟩ := entry
    obtain ⟨address, haddress⟩ := Option.isSome_iff_exists.1 (hfound (name, old) List.mem_cons_self)
    have hrest : ∀ entry ∈ before, (Engine.symbol? engine entry.1).isSome = true :=
      fun entry hentry => hfound entry (List.mem_cons_of_mem _ hentry)
    have hasked : (s.asked [name]).asked (before.map Prod.fst) =
        s.asked (name :: before.map Prod.fst) := by simp [asked]
    simp only at haddress
    rw [List.cons_append, exportEntries, symbol_of_found hallowed hengine haddress]
    simp only [ih (s := s.asked [name]) hallowed hengine hrest, hasked]
    simp [overwritten, haddress]

theorem exportSymbols_of_found (hallowed : s.state.refusal? .exportSymbols = none)
    (hengine : s.engine? = some engine) {symbols : SymbolMap}
    (hfound : ∀ entry ∈ symbols.entries, (Engine.symbol? engine entry.1).isSome = true) :
    s.exportSymbols symbols = (.ok (), ⟨overwritten engine symbols.entries⟩,
      s.asked (symbols.entries.map Prod.fst)) := by
  have hentries := exportEntries_append hallowed hengine hfound []
  rw [List.append_nil] at hentries
  simp only [exportSymbols, engineFor_of_allowed hallowed hengine, hentries]
  simp [exportEntries]

/-- An export stops at the first name that is no symbol. -/
theorem exportSymbols_of_missing (hallowed : s.state.refusal? .exportSymbols = none)
    (hengine : s.engine? = some engine) {before rest : List (String × Address)} {name : String}
    {address : Address}
    (hfound : ∀ entry ∈ before, (Engine.symbol? engine entry.1).isSome = true)
    (hmissing : Engine.symbol? engine name = none) :
    s.exportSymbols ⟨before ++ (name, address) :: rest⟩ =
      (.error (.symbolNotFound name), ⟨overwritten engine before ++ (name, address) :: rest⟩,
        s.asked (before.map Prod.fst ++ [name])) := by
  have hentries := exportEntries_append hallowed hengine hfound ((name, address) :: rest)
  have hmiss := symbol_of_missing (s := s.asked (before.map Prod.fst)) hallowed hengine hmissing
  simp only [exportSymbols, engineFor_of_allowed hallowed hengine, hentries, exportEntries, hmiss]
  simp [asked]

theorem routine_of_found (hallowed : s.state.refusal? .exportRoutine = none)
    (hengine : s.engine? = some engine) {name : String} {address : Address}
    (hfound : Engine.symbol? engine name = some address) (hnull : address ≠ .null) :
    s.routine name = (.ok address, s.asked [name]) := by
  simp only [routine, lookup, engineFor_of_allowed hallowed hengine, hfound, if_neg hnull,
    afterCall_eq_asked hengine]

theorem routine_of_missing (hallowed : s.state.refusal? .exportRoutine = none)
    (hengine : s.engine? = some engine) {name : String}
    (hmissing : (Engine.symbol? engine name).getD .null = .null) :
    s.routine name = (.error (.symbolNotFound name), s.asked [name]) := by
  simp only [routine, lookup, engineFor_of_allowed hallowed hengine, afterCall_eq_asked hengine]
  cases hsymbol : Engine.symbol? engine name with
  | none => rfl
  | some address =>
    rw [hsymbol, Option.getD_some] at hmissing
    simp only [if_pos hmissing]

/-- Every row of the table is what the session does. -/
theorem perform_of_row {request : SessionRequest} {response : SessionResponse} {t : Session σ}
    (h : Row s request response t) : s.perform request = (response, t) := by
  cases h with
  | refused hoperation hrefused => exact perform_of_refusal hoperation hrefused
  | allowed hallowed => simp only [perform, check_of_allowed hallowed]
  | compiled hallowed hengine hquiet =>
    simp only [perform, compile_of_quiet hallowed hengine hquiet]
  | compileFailed hallowed hengine hfailed =>
    simp only [perform, compile_of_failed hallowed hengine hfailed]
  | relocated hallowed hengine hsteps =>
    simp only [perform, relocate_of_materializes hallowed hengine hsteps]
  | relocationFailed hallowed hengine hfault =>
    simp only [perform, relocate_of_fault hallowed hengine hfault]
  | imported hallowed hengine hnamed =>
    simp only [perform, importSymbols_of_named hallowed hengine hnamed]
  | unnamed hallowed hengine hunnamed =>
    simp only [perform, importSymbols_of_unnamed hallowed hengine hunnamed]
  | importedApi hallowed hengine =>
    simp only [perform, importApi, engineFor_of_allowed hallowed hengine, register_eq_told hengine]
  | exported hallowed hengine hfound =>
    simp only [perform, exportSymbols_of_found hallowed hengine hfound]
  | exportStopped hallowed hengine hfound hmissing =>
    simp only [perform, exportSymbols_of_missing hallowed hengine hfound hmissing]
  | found hallowed hengine hfound =>
    simp only [perform, symbol_of_found hallowed hengine hfound]
  | missing hallowed hengine hmissing =>
    simp only [perform, symbol_of_missing hallowed hengine hmissing]
  | routineFound hallowed hengine hfound hnull =>
    simp only [perform, routine_of_found hallowed hengine hfound hnull]
  | routineMissing hallowed hengine hmissing =>
    simp only [perform, routine_of_missing hallowed hengine hmissing]
  | closed hallowed hengine =>
    have hgate : s.allowClose = .ok () := check_of_allowed hallowed
    simp only [perform, close, hgate, release_eq_closedBy hengine]
  | finalized hopen hengine =>
    simp only [perform, finalize, hopen, release_eq_closedBy hengine]
    rfl
  | alreadyClosed hclosed =>
    simp only [perform, finalize, hclosed]
    rfl

/-! ## Every request has a row -/

/-- Either all names of entries are symbols or there is a first one that is not. -/
theorem found_or_missing (engine : σ) (entries : List (String × Address)) :
    (∀ entry ∈ entries, (Engine.symbol? engine entry.1).isSome = true) ∨
      ∃ before name address rest, entries = before ++ (name, address) :: rest ∧
        (∀ entry ∈ before, (Engine.symbol? engine entry.1).isSome = true) ∧
        Engine.symbol? engine name = none := by
  induction entries with
  | nil => exact .inl fun _ h => (nomatch h)
  | cons entry entries ih =>
    obtain ⟨name, address⟩ := entry
    cases hsymbol : Engine.symbol? engine name with
    | none => exact .inr ⟨[], name, address, entries, rfl, fun _ h => (nomatch h), hsymbol⟩
    | some found =>
      have hhead : (Engine.symbol? engine name).isSome = true := by rw [hsymbol]; rfl
      rcases ih with hall | ⟨before, missing, old, rest, rfl, hbefore, hmissing⟩
      · exact .inl (List.forall_mem_cons.2 ⟨hhead, hall⟩)
      · exact .inr ⟨(name, address) :: before, missing, old, rest, rfl,
          List.forall_mem_cons.2 ⟨hhead, hbefore⟩, hmissing⟩

/-- A request that the state allows has a row, for what the engine answers. -/
theorem exists_row_of_allowed (hengine : s.engine? = some engine) {request : SessionRequest}
    {operation : Operation} (hoperation : request.operation? = some operation)
    (hallowed : s.state.refusal? operation = none) : ∃ response t, Row s request response t := by
  cases request with
  | compile source =>
    cases hoperation
    by_cases hquiet : (Engine.compile engine source).1 = ⟨[], .ok ()⟩
    · exact ⟨_, _, .compiled hallowed hengine hquiet⟩
    · exact ⟨_, _, .compileFailed hallowed hengine hquiet⟩
  | relocate memory =>
    cases hoperation
    rcases materializes_or_fault engine memory with ⟨size, place, hsteps⟩ |
      ⟨calls, log, cause, hfault⟩
    · exact ⟨_, _, .relocated hallowed hengine hsteps⟩
    · exact ⟨_, _, .relocationFailed hallowed hengine hfault⟩
  | importSymbols symbols =>
    cases hoperation
    by_cases hunnamed : ∃ symbol ∈ symbols, symbol.1 = ""
    · exact ⟨_, _, .unnamed hallowed hengine hunnamed⟩
    · exact ⟨_, _, .imported hallowed hengine fun symbol hsymbol hname =>
        hunnamed ⟨symbol, hsymbol, hname⟩⟩
  | importApi =>
    cases hoperation
    exact ⟨_, _, .importedApi hallowed hengine⟩
  | exportSymbols symbols =>
    cases hoperation
    obtain ⟨entries⟩ := symbols
    rcases found_or_missing engine entries with hfound |
      ⟨before, name, address, rest, rfl, hfound, hmissing⟩
    · exact ⟨_, _, .exported hallowed hengine hfound⟩
    · exact ⟨_, _, .exportStopped hallowed hengine hfound hmissing⟩
  | symbol name =>
    cases hoperation
    cases hsymbol : Engine.symbol? engine name with
    | none => exact ⟨_, _, .missing hallowed hengine hsymbol⟩
    | some address => exact ⟨_, _, .found hallowed hengine hsymbol⟩
  | routine name =>
    cases hoperation
    by_cases hmissing : (Engine.symbol? engine name).getD .null = .null
    · exact ⟨_, _, .routineMissing hallowed hengine hmissing⟩
    · cases hsymbol : Engine.symbol? engine name with
      | none =>
        rw [hsymbol] at hmissing
        exact absurd rfl hmissing
      | some address =>
        rw [hsymbol, Option.getD_some] at hmissing
        exact ⟨_, _, .routineFound hallowed hengine hsymbol hmissing⟩
  | check operation =>
    cases hoperation
    exact ⟨_, _, .allowed hallowed⟩
  | close =>
    cases hoperation
    exact ⟨_, _, .closed hallowed hengine⟩
  | finalize => cases hoperation

theorem Consistent.exists_row (hs : s.Consistent) (request : SessionRequest) :
    ∃ response t, Row s request response t := by
  cases hoperation : request.operation? with
  | some operation =>
    cases hrefusal : s.state.refusal? operation with
    | some e => exact ⟨_, _, .refused hoperation hrefusal⟩
    | none =>
      obtain ⟨engine, hengine⟩ := hs.exists_engine (isClosed_of_allowed hrefusal)
      exact exists_row_of_allowed hengine hoperation hrefusal
  | none =>
    cases request with
    | finalize =>
      cases hclosed : s.isClosed with
      | true => exact ⟨_, _, .alreadyClosed hclosed⟩
      | false =>
        obtain ⟨engine, hengine⟩ := hs.exists_engine hclosed
        exact ⟨_, _, .finalized hclosed hengine⟩
    | _ => cases hoperation

/-- What a session does is a row, and no other row is for the same request. -/
theorem Consistent.perform_eq_iff (hs : s.Consistent) (request : SessionRequest)
    (response : SessionResponse) (t : Session σ) :
    s.perform request = (response, t) ↔ Row s request response t := by
  constructor
  · intro hperform
    obtain ⟨response', t', hrow⟩ := hs.exists_row request
    rw [perform_of_row hrow] at hperform
    cases hperform
    exact hrow
  · exact perform_of_row

theorem Consistent.row_perform (hs : s.Consistent) (request : SessionRequest) :
    Row s request (s.perform request).1 (s.perform request).2 :=
  (hs.perform_eq_iff request _ _).1 rfl

/-! ## What every row preserves -/

theorem Row.consistent {request : SessionRequest} {response : SessionResponse} {t : Session σ}
    (h : Row s request response t) (hs : s.Consistent) : t.Consistent := by
  cases h with
  | refused | allowed | unnamed | alreadyClosed => exact hs
  | compiled hallowed =>
    -- There is no code before, since a relocated session refuses to compile.
    refine ⟨⟨fun h => (nomatch h), fun h => (nomatch h)⟩, ⟨fun hcode => ?_, fun h => (nomatch h)⟩⟩
    have hstate := hs.code.1 hcode
    rw [hstate] at hallowed
    cases hallowed
  | compileFailed | relocationFailed | closed | finalized => exact consistent_closed _ _
  | relocated =>
    exact ⟨⟨fun h => (nomatch h), fun h => (nomatch h)⟩, ⟨fun _ => rfl, fun _ => rfl⟩⟩
  | imported hallowed | importedApi hallowed =>
    exact hs.called (isClosed_of_allowed hallowed) _ _
  | exported | exportStopped | found | missing | routineFound | routineMissing =>
    exact ⟨hs.engine, hs.code⟩

theorem consistent_after (engine : σ) (requests : List SessionRequest) :
    ((Session.new engine).after requests).Consistent :=
  after_induction (fun _ request hs => (hs.row_perform request).consistent hs)
    (consistent_new engine) requests

/-- An error says that it closed the session exactly if the session was open before and is closed
after it. -/
theorem Row.closesSession_iff {request : SessionRequest} {response : SessionResponse}
    {t : Session σ} (h : Row s request response t) {e : SessionError}
    (herror : response.error? = some e) :
    e.closesSession = true ↔ s.isClosed = false ∧ t.isClosed = true := by
  cases h with
  | refused hoperation hrefused =>
    rw [SessionRequest.error?_refused, Option.some.injEq] at herror
    subst herror
    exact closesSession_iff_of_kept (closesSession_refusal hrefused) rfl
  | compileFailed hallowed | relocationFailed hallowed =>
    cases herror
    exact ⟨fun _ => ⟨isClosed_of_allowed hallowed, rfl⟩, fun _ => rfl⟩
  | unnamed | exportStopped | missing | routineMissing =>
    cases herror
    exact closesSession_iff_of_kept rfl rfl
  | _ => cases herror

/-! ## Every reachable session -/

/-- What the lifecycle is for a session: it does what the table says, and what follows from it. -/
structure FollowsLifecycle (s : Session σ) : Prop where
  /-- The response and the next session are those of the table. -/
  perform_eq_iff : ∀ request response t,
    s.perform request = (response, t) ↔ Row s request response t
  /-- A request that is refused makes no call and changes nothing. -/
  refused : ∀ request operation e, request.operation? = some operation →
    s.state.refusal? operation = some e → s.perform request = (request.refused e, s)
  /-- A compilation that is allowed leads on if the engine is silent and succeeds, and else closes
  the session. -/
  compile_state : s.state.refusal? .compile = none → ∃ engine, s.engine? = some engine ∧
    ∀ source, ((Engine.compile engine source).1 = ⟨[], .ok ()⟩ ∧
        (s.perform (.compile source)).2.state = .compiled) ∨
      ((Engine.compile engine source).1 ≠ ⟨[], .ok ()⟩ ∧
        (s.perform (.compile source)).2.state = .closed .compileFailed)
  /-- A relocation that is allowed leads on if all of its steps succeed, and else closes the
  session. -/
  relocate_state : s.state.refusal? .relocate = none → ∃ engine, s.engine? = some engine ∧
    ∀ memory, ((∃ size place, Materializes engine memory size place) ∧
        (s.perform (.relocate memory)).2.state = .relocated) ∨
      ((¬ ∃ size place, Materializes engine memory size place) ∧
        (s.perform (.relocate memory)).2.state = .closed .relocationFailed)
  /-- An error that says so is the one that closed the session. -/
  closesSession_iff : ∀ request e, (s.perform request).1.error? = some e →
    (e.closesSession = true ↔ s.isClosed = false ∧ (s.perform request).2.isClosed = true)
  /-- The cause for which a session was closed stays. -/
  cause_stays : ∀ cause, s.state = .closed cause → ∀ later, (s.after later).state = .closed cause
  /-- A finalized session is closed, and finalizing it again changes nothing. -/
  finalize_closes : s.finalize.isClosed = true ∧ s.finalize.finalize = s.finalize

theorem compile_state (hallowed : s.state.refusal? .compile = none)
    (hengine : s.engine? = some engine) (source : String) :
    ((Engine.compile engine source).1 = ⟨[], .ok ()⟩ ∧
        (s.perform (.compile source)).2.state = .compiled) ∨
      ((Engine.compile engine source).1 ≠ ⟨[], .ok ()⟩ ∧
        (s.perform (.compile source)).2.state = .closed .compileFailed) := by
  by_cases hquiet : (Engine.compile engine source).1 = ⟨[], .ok ()⟩
  · refine .inl ⟨hquiet, ?_⟩
    rw [perform_of_row (.compiled hallowed hengine hquiet)]
  · refine .inr ⟨hquiet, ?_⟩
    rw [perform_of_row (.compileFailed hallowed hengine hquiet)]
    rfl

theorem relocate_state (hallowed : s.state.refusal? .relocate = none)
    (hengine : s.engine? = some engine) (memory : MemoryService) :
    ((∃ size place, Materializes engine memory size place) ∧
        (s.perform (.relocate memory)).2.state = .relocated) ∨
      ((¬ ∃ size place, Materializes engine memory size place) ∧
        (s.perform (.relocate memory)).2.state = .closed .relocationFailed) := by
  by_cases hsteps : ∃ size place, Materializes engine memory size place
  · refine .inl ⟨hsteps, ?_⟩
    obtain ⟨size, place, hsteps⟩ := hsteps
    rw [perform_of_row (.relocated hallowed hengine hsteps)]
    rfl
  · refine .inr ⟨hsteps, ?_⟩
    obtain ⟨calls, log, cause, hfault⟩ := (materializes_or_fault engine memory).resolve_left hsteps
    rw [perform_of_row (.relocationFailed hallowed hengine hfault)]
    rfl

/-- Every session that is reached from a fresh one, by any requests and with any engine, follows the
lifecycle. -/
theorem follows_lifecycle (engine : σ) (requests : List SessionRequest) :
    ((Session.new engine).after requests).FollowsLifecycle := by
  have hs := consistent_after engine requests
  constructor
  · exact hs.perform_eq_iff
  · exact fun request operation e hoperation hrefused => perform_of_refusal hoperation hrefused
  · intro hallowed
    obtain ⟨engine, hengine⟩ := hs.exists_engine (isClosed_of_allowed hallowed)
    exact ⟨engine, hengine, Session.compile_state hallowed hengine⟩
  · intro hallowed
    obtain ⟨engine, hengine⟩ := hs.exists_engine (isClosed_of_allowed hallowed)
    exact ⟨engine, hengine, Session.relocate_state hallowed hengine⟩
  · intro request e herror
    exact (hs.row_perform request).closesSession_iff herror
  · intro cause hclosed later
    rw [after_of_closed hclosed]
    exact hclosed
  · refine ⟨isClosed_finalize _, ?_⟩
    rw [finalize, if_pos (isClosed_finalize _)]

end Session

end JitHost
