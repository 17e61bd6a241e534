import JitHost.Command.Error
import JitHost.Proofs.Command.Lines
import JitHost.Proofs.Engine.Batches
import JitHost.Proofs.Session.Collected

/-!
# The labels of failed compilations

An engine that cannot read a source names the line, and in everything else that it says, its linker
and its session included, no line is named (`JitEngine.emitted_said`, `Session.Row.told`). So a
command that reads the line back from the first message of a failed compilation labels this line of
the source exactly if the front end stopped there and the source has the line
(`Session.PointsAtLines`). All other errors of a session are reported as they are.
-/

namespace JitHost

open Text

/-- The message about a source that cannot be read. -/
def SourceFault.text (fault : SourceFault) : String :=
  (Diagnostic.atLine fault.line fault.message).text

/-- Line numbers are machine words. -/
def FrontEnd.CountsInWords (frontEnd : FrontEnd) : Prop :=
  ∀ source fault, frontEnd source = .error fault → fault.line < 2 ^ 64

/-- The line at which a source cannot be read, if there is one and the source has it. -/
def FrontEnd.faultSpan? (frontEnd : FrontEnd) (source : String) : Option Span :=
  match frontEnd source with
  | .ok _ => none
  | .error fault => lineSpan? source fault.line

/-- What there is to say about a source: the line at which it cannot be read and nothing else, or
remarks about its functions. -/
inductive FrontEnd.Says (frontEnd : FrontEnd) (source : String) : List String → Prop where
  | fault {fault : SourceFault} (hread : frontEnd source = .error fault) :
      Says frontEnd source [fault.text]
  | remarks {lines : List String} (hread : ∃ attempts, frontEnd source = .ok attempts)
      (hremarks : ∀ line ∈ lines, Remark line) : Says frontEnd source lines

/-- Remarks one on a line are a remark. -/
theorem remark_linesOr {otherwise : String} {lines : List String} (hotherwise : Remark otherwise)
    (hlines : ∀ line ∈ lines, Remark line) : Remark (linesOr otherwise lines) := by
  cases lines with
  | nil => exact hotherwise
  | cons first rest =>
    have hfirst := hlines first List.mem_cons_self
    rw [linesOr, if_neg (List.cons_ne_nil first rest)]
    cases rest with
    | nil =>
      rw [String.intercalate_singleton]
      exact hfirst
    | cons second rest =>
      rw [String.intercalate_cons_cons, String.append_assoc]
      exact hfirst.further _

variable {frontEnd : FrontEnd}

/-! ## What an engine says -/

theorem remark_of_mem_diagnostics {attempt : FunctionAttempt} {diagnostic : Diagnostic}
    (h : diagnostic ∈ attempt.diagnostics) : Remark diagnostic.text := by
  unfold FunctionAttempt.diagnostics at h
  split at h
  · cases h
  · obtain ⟨message, -, rfl⟩ := List.mem_map.1 h
    exact .inFunction attempt.name message

theorem remark_of_mem_build {functions : List CompiledFunction}
    {external : RelocationTarget → Option Address} {line : String}
    (h : line ∈ (Plan.build functions external).diagnostics) : Remark line := by
  obtain ⟨problem, -, rfl⟩ := List.mem_map.1 h
  exact .link problem

namespace JitEngine

variable {engine : JitEngine frontEnd} {source line : String}

/-- What an engine that takes sources says about one. -/
theorem says_compile (hopen : engine.base? = none) (source : String) :
    frontEnd.Says source (engine.compile source).1.diagnostics := by
  have hcompilation := compilation engine source
  generalize engine.compile source = result at hcompilation ⊢
  cases hcompilation with
  | late hbase =>
    rw [hopen] at hbase
    cases hbase
  | unreadable _ hread => exact .fault hread
  | @rejected attempts report _ hread _ _ =>
    refine .remarks ⟨attempts, hread⟩ ?_
    intro line hline
    obtain ⟨diagnostic, hdiagnostic, rfl⟩ := List.mem_map.1 hline
    rcases List.mem_append.1 hdiagnostic with hfunction | htaken
    · obtain ⟨attempt, -, hmem⟩ := List.mem_flatMap.1 hfunction
      exact remark_of_mem_diagnostics hmem
    · obtain ⟨entry, -, rfl⟩ := List.mem_map.1 htaken
      exact .redefinition entry.2
  | accepted _ hbatch _ =>
    obtain ⟨attempts, hread, -⟩ := hbatch
    exact .remarks ⟨attempts, hread⟩ nofun

/-- An engine whose code has been written says nothing about a source. -/
theorem silent_compile {base : Address} (hbase : engine.base? = some base) (source : String) :
    (engine.compile source).1.diagnostics = [] := by
  rw [compile, hbase]
  rfl

theorem remark_of_mem_ensurePlan (h : line ∈ engine.ensurePlan.1.diagnostics) : Remark line := by
  unfold ensurePlan at h
  split at h
  · cases h
  · exact remark_of_mem_build h

theorem remark_of_mem_imageSize (h : line ∈ (Engine.imageSize engine).1.diagnostics) :
    Remark line :=
  remark_of_mem_ensurePlan h

theorem remark_of_mem_fill {size : Nat} {place : Address} {buffer : Vector UInt8 size}
    (h : line ∈ (Engine.fill engine place buffer).1.diagnostics) : Remark line := by
  have hfill : line ∈ (engine.fill place buffer.toArray).1.diagnostics := h
  unfold fill at hfill
  split at hfill
  · cases hfill
  · simp only at hfill
    split at hfill
    · exact remark_of_mem_ensurePlan hfill
    · split at hfill
      · exact remark_of_mem_ensurePlan hfill
      · rename_i cause _ _
        -- What stopped the writing is said last.
        rcases List.mem_append.1 hfill with hplan | hlast
        · exact remark_of_mem_ensurePlan hplan
        · rw [List.mem_singleton.1 hlast]
          exact .engine cause

/-- Whatever calls are made on an engine, it only makes remarks, other than about a source that it
is given and cannot read. -/
theorem emitted_said (memory : MemoryService) (calls : List EngineCall)
    (engine : JitEngine frontEnd) (line : String) (h : line ∈ Engine.emitted memory engine calls) :
    Remark line ∨ ∃ source fault, .compile source ∈ calls ∧ frontEnd source = .error fault ∧
      line = fault.text := by
  -- What is said later is about a source that is given later, to an engine in another state.
  induction calls generalizing engine with
  | nil => cases h
  | cons call rest ih =>
    have hlater : ∀ {next : JitEngine frontEnd}, line ∈ Engine.emitted memory next rest →
        Remark line ∨ ∃ source fault, .compile source ∈ call :: rest ∧
          frontEnd source = .error fault ∧ line = fault.text := by
      intro next hnext
      refine (ih next hnext).imp_right ?_
      rintro ⟨source, fault, hmem, hfault⟩
      exact ⟨source, fault, List.mem_cons_of_mem _ hmem, hfault⟩
    cases call with
    | compile source =>
      rcases List.mem_append.1 h with hnow | hnext
      · -- An engine whose code has been written no longer looks at sources.
        cases hbase : engine.base? with
        | some base =>
          have hsilent : (Engine.compile engine source).1.diagnostics = [] :=
            silent_compile hbase source
          rw [hsilent] at hnow
          cases hnow
        | none =>
          have hsaid : frontEnd.Says source (Engine.compile engine source).1.diagnostics :=
            says_compile hbase source
          generalize (Engine.compile engine source).1.diagnostics = lines at hsaid hnow
          cases hsaid with
          | @fault fault hread =>
            exact .inr ⟨source, fault, List.mem_cons_self, hread, List.mem_singleton.1 hnow⟩
          | remarks _ hremarks => exact .inl (hremarks line hnow)
      · exact hlater hnext
    | add name address => exact hlater h
    | size =>
      rcases List.mem_append.1 h with hnow | hnext
      · exact .inl (remark_of_mem_imageSize hnow)
      · exact hlater hnext
    | fill count =>
      rcases List.mem_append.1 h with hnow | hnext
      · exact .inl (remark_of_mem_fill hnow)
      · exact hlater hnext
    | symbol name => exact hlater h
    | release => cases h

end JitEngine

/-! ## What a session says -/

namespace Session

variable {s t : Session (JitEngine frontEnd)} {request : SessionRequest}
  {response : SessionResponse} {source : String} {e : SessionError}

/-- The log of a relocation that fails has remarks only. -/
theorem remark_of_fault {engine : JitEngine frontEnd} {memory : MemoryService}
    {calls : List EngineCall} {log : ErrorLog} {cause : EngineError} {line : String}
    (h : RelocationFault engine memory calls log cause) (hline : line ∈ log.entries) :
    Remark line := by
  cases h with
  | sizing | allocation => exact JitEngine.remark_of_mem_imageSize hline
  | filling | sealing =>
    rcases List.mem_append.1 hline with hsizing | hfilling
    · exact JitEngine.remark_of_mem_imageSize hsizing
    · exact JitEngine.remark_of_mem_fill hfilling

/-- A session that takes sources has an engine that takes them. -/
theorem exists_open_engine {requests : List SessionRequest}
    (hallowed : ((Session.new (JitEngine.new frontEnd)).after requests).state.refusal? .compile =
      none) :
    ∃ engine : JitEngine frontEnd,
      ((Session.new (JitEngine.new frontEnd)).after requests).engine? = some engine ∧
        engine.base? = none :=
  ⟨_, (collected_after (consistent_new _) (collected_new frontEnd)
    (SessionState.relocate_of_compile hallowed)).engine, rfl⟩

/-- The errors of all requests but the compilation of a source that cannot be read are remarks. -/
theorem Row.told (h : Row s request response t) (herror : response.error? = some e)
    (hopen : s.state.refusal? .compile = none → ∀ engine, s.engine? = some engine →
      engine.base? = none) :
    Remark e.message ∨ ∃ source fault, request = .compile source ∧
      frontEnd source = .error fault ∧ e.message = fault.text := by
  cases h with
  | refused hoperation hrefused =>
    rw [SessionRequest.error?_refused, Option.some.injEq] at herror
    subst herror
    exact .inl (.session _ (closesSession_refusal hrefused))
  | @compileFailed engine source hallowed hengine hfailed =>
    cases herror
    have hsaid : frontEnd.Says source (Engine.compile engine source).1.diagnostics :=
      JitEngine.says_compile (hopen hallowed engine hengine) source
    rw [ErrorLog.compileError_eq]
    generalize (Engine.compile engine source).1.diagnostics = lines at hsaid
    cases hsaid with
    | @fault fault hread =>
      have hjoined : linesOr "compile error" [fault.text] = fault.text := by
        rw [linesOr, if_neg (List.cons_ne_nil _ _), String.intercalate_singleton]
      exact .inr ⟨source, fault, rfl, hread, hjoined⟩
    | remarks _ hremarks => exact .inl (remark_linesOr .silentCompilation hremarks)
  | @relocationFailed engine memory calls log cause hallowed hengine hfault =>
    cases herror
    rw [ErrorLog.relocationError_eq]
    exact .inl (remark_linesOr (.silentRelocation cause) fun line => remark_of_fault hfault)
  | unnamed | exportStopped | missing | routineMissing =>
    cases herror
    exact .inl (.session _ rfl)
  | _ => cases herror

end Session

/-! ## Labels -/

namespace CommandError

/-- The line to which a failed compilation points is the one at which the source cannot be read. -/
theorem ofSession_compile {source : String} {lines : List String}
    (hlines : frontEnd.CountsInWords) (hsaid : frontEnd.Says source lines) (path : Path)
    (message : String) :
    ofSession path source (.compile lines message) =
      .compile path source (frontEnd.faultSpan? source) message := by
  unfold ofSession FrontEnd.faultSpan?
  cases hsaid with
  | @fault fault hread =>
    have hline : Diagnostic.line? fault.text = some fault.line :=
      Diagnostic.line?_atLine (hlines source fault hread) fault.message
    simp [hread, hline]
  | remarks hread hremarks =>
    obtain ⟨attempts, hattempts⟩ := hread
    cases lines with
    | nil => simp [hattempts]
    | cons first rest =>
      have hnone := (hremarks first List.mem_cons_self).lineless.line?_eq_none
      simp [hattempts, hnone]

end CommandError

/-- The first message about a source is about a line exactly if the source cannot be read there. -/
theorem FrontEnd.Says.head?_iff {source : String} {lines : List String} {line : Nat}
    (h : frontEnd.Says source lines) (hlines : frontEnd.CountsInWords) (hline : line < 2 ^ 64) :
    (∃ message, lines.head? = some (Diagnostic.atLine line message).text) ↔
      ∃ message, frontEnd source = .error ⟨line, message⟩ := by
  have hread : ∀ message, Diagnostic.line? (Diagnostic.atLine line message).text = some line :=
    Diagnostic.line?_atLine hline
  cases h with
  | @fault fault hfault =>
    have hown : Diagnostic.line? fault.text = some fault.line :=
      Diagnostic.line?_atLine (hlines source fault hfault) fault.message
    constructor
    · rintro ⟨message, hhead⟩
      -- Both read back from one text.
      have htext : fault.text = (Diagnostic.atLine line message).text := Option.some.inj hhead
      rw [htext, hread message] at hown
      refine ⟨fault.message, ?_⟩
      rw [hfault, Option.some.inj hown]
    · rintro ⟨message, hother⟩
      cases hfault.symm.trans hother
      exact ⟨message, rfl⟩
  | remarks hok hremarks =>
    constructor
    · rintro ⟨message, hhead⟩
      have hremark := hremarks _ (List.mem_of_mem_head? hhead)
      have hnone := hremark.lineless.line?_eq_none
      cases hnone.symm.trans (hread message)
    · rintro ⟨message, hother⟩
      obtain ⟨attempts, hattempts⟩ := hok
      cases hattempts.symm.trans hother

namespace Session

/-- How the errors of a session lead back to lines of a source. -/
structure PointsAtLines (frontEnd : FrontEnd) (s : Session (JitEngine frontEnd)) : Prop where
  /-- The line in a message about a source that cannot be read is read back, whatever else the
  message says. -/
  read_back : ∀ line message, line < 2 ^ 64 →
    Diagnostic.line? (Diagnostic.atLine line message).text = some line
  /-- No other message names a line, whatever it quotes. -/
  lineless : ∀ text, Remark text → Diagnostic.line? text = none
  /-- There are no other messages: not from an engine and its linker, whatever it is asked, -/
  emitted : ∀ memory calls (engine : JitEngine frontEnd) line,
    line ∈ Engine.emitted memory engine calls → Remark line ∨ ∃ source fault,
      .compile source ∈ calls ∧ frontEnd source = .error fault ∧ line = fault.text
  /-- and not from the session. -/
  told : ∀ request e, (s.perform request).1.error? = some e →
    Remark e.message ∨ ∃ source fault, request = .compile source ∧
      frontEnd source = .error fault ∧ e.message = fault.text
  /-- A compilation that fails tells all messages. The first of them is about a line if the source
  cannot be read there. A command keeps the messages and labels the line, if the source has it, and
  otherwise nothing. -/
  compile : s.check .compile = .ok () → ∀ path source e, (s.compile source).1 = .error e →
    ∃ lines, e = .compile lines (linesOr "compile error" lines) ∧
      (∀ line, line < 2 ^ 64 →
        ((∃ message, lines.head? = some (Diagnostic.atLine line message).text) ↔
          ∃ message, frontEnd source = .error ⟨line, message⟩)) ∧
      CommandError.ofSession path source e =
        .compile path source (frontEnd.faultSpan? source) (linesOr "compile error" lines) ∧
      (CommandError.ofSession path source e).labels =
        ((frontEnd.faultSpan? source).map fun span => ("here", span)).toList
  /-- Any other error is passed on. -/
  others : ∀ path source e, (∀ lines message, e ≠ .compile lines message) →
    CommandError.ofSession path source e = .session e

/-- The errors of every session that is reached from a new one lead back to the lines at which its
front end cannot read a source. -/
theorem failures_point_at_lines {frontEnd : FrontEnd} (hlines : frontEnd.CountsInWords)
    (requests : List SessionRequest) :
    PointsAtLines frontEnd ((Session.new (JitEngine.new frontEnd)).after requests) where
  read_back := fun line message hline => Diagnostic.line?_atLine hline message
  lineless := fun text h => h.lineless.line?_eq_none
  emitted := JitEngine.emitted_said
  told := by
    intro request e herror
    have hrow := (consistent_after (JitEngine.new frontEnd) requests).row_perform request
    refine hrow.told herror ?_
    intro hallowed engine hengine
    obtain ⟨present, hpresent, hopen⟩ := exists_open_engine hallowed
    cases hengine.symm.trans hpresent
    exact hopen
  compile := by
    intro hcheck path source e herror
    have hallowed := check_eq_ok_iff.1 hcheck
    obtain ⟨engine, hengine, hopen⟩ := exists_open_engine hallowed
    have hsaid : frontEnd.Says source (Engine.compile engine source).1.diagnostics :=
      JitEngine.says_compile hopen source
    obtain rfl := compile_eq_error hallowed hengine herror
    have herror' := CommandError.ofSession_compile hlines hsaid path
      (linesOr "compile error" (Engine.compile engine source).1.diagnostics)
    refine ⟨_, rfl, fun line hline => hsaid.head?_iff hlines hline, herror', ?_⟩
    rw [herror']
    cases frontEnd.faultSpan? source <;> rfl
  others := by
    intro path source e hother
    cases e with
    | compile lines message => exact absurd rfl (hother lines message)
    | _ => rfl

/-- A source that cannot be read at its second line, with a message that looks like another one. -/
theorem failures_point_at_second_line :
    PointsAtLines (fun _ => .error ⟨2, "<source>:7: error: expected ':'"⟩)
      ((Session.new (JitEngine.new _)).after [.importApi]) := by
  apply failures_point_at_lines
  intro source fault hread
  cases hread
  decide

end Session

end JitHost
