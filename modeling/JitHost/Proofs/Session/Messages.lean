import JitHost.Engine.Scripted
import JitHost.Proofs.Session.Resources

/-!
# The messages of an attempt

An engine emits messages when it compiles, when it tells its size and when it writes its code.
`Engine.emitted` finds them by making the same calls again, on the engine as it was and with the
same memory, and `Session.emitted` does so for the calls that a request made.

What fails carries exactly what it made the engine emit (`Row.diagnostics_eq`). A compilation that
emits anything closes the session, so nothing was emitted in a run after which a session can still
be relocated (`emittedIn_eq_nil`): the error that closes a session tells all that its engine ever
said (`diagnostics_scoped`).
-/

namespace JitHost

/-- Lines joined to a text, and another text if there is no line. -/
def linesOr (otherwise : String) (lines : List String) : String :=
  if lines = [] then otherwise else "\n".intercalate lines

theorem ErrorLog.compileError_eq (log : ErrorLog) :
    log.compileError = .compile log.entries (linesOr "compile error" log.entries) := by
  obtain ⟨entries⟩ := log
  cases entries <;> rfl

theorem ErrorLog.relocationError_eq (log : ErrorLog) (cause : EngineError) :
    log.relocationError cause =
      .relocation log.entries (linesOr ("relocation error: " ++ cause.message) log.entries) := by
  obtain ⟨entries⟩ := log
  cases entries <;> rfl

/-- Errors for the state of a session come without diagnostics. -/
theorem SessionState.diagnostics_of_refusal {state : SessionState} {operation : Operation}
    {e : SessionError} (h : state.refusal? operation = some e) : e.diagnostics = [] := by
  cases state with
  | closed cause => cases cause <;> cases operation <;> cases h <;> rfl
  | _ => cases operation <;> cases h <;> rfl

/-! ## What an engine emits -/

/-- The place of a new buffer, if there is memory for it. -/
def MemoryService.placeFor (memory : MemoryService) (size : Nat) : Address :=
  match CodeBuffer.allocate memory size with
  | .ok buffer => buffer.place
  | .error _ => CodeBuffer.nowhere

/-- The memory that a request has for code. Only a relocation needs any. -/
def SessionRequest.memory : SessionRequest → MemoryService
  | .relocate memory => memory
  | _ => .fixed .null

section

variable [Engine σ]

/-- The messages that an engine emits in calls that are made one after another, with buffers of zeros
from `memory`. -/
def Engine.emitted (memory : MemoryService) : σ → List EngineCall → List String
  | _, [] => []
  | engine, .compile source :: rest =>
      let answer := Engine.compile engine source
      answer.1.diagnostics ++ emitted memory answer.2 rest
  | engine, .add name address :: rest =>
      emitted memory (Engine.addSymbol engine name address) rest
  | engine, .size :: rest =>
      let answer := Engine.imageSize engine
      answer.1.diagnostics ++ emitted memory answer.2 rest
  | engine, .fill count :: rest =>
      let answer := Engine.fill engine (memory.placeFor count) (Array.replicate count 0).toVector
      answer.1.diagnostics ++ emitted memory answer.2.2 rest
  | engine, .symbol _ :: rest => emitted memory engine rest
  | _, .release :: _ => []

variable {engine : σ} {memory : MemoryService}

theorem Engine.emitted_add (symbols : List (String × Address)) :
    emitted memory engine (symbols.map fun symbol => .add symbol.1 symbol.2) = [] := by
  induction symbols generalizing engine with
  | nil => rfl
  | cons symbol rest ih => exact ih

theorem Engine.emitted_symbol (names : List String) :
    emitted memory engine (names.map .symbol) = [] := by
  induction names with
  | nil => rfl
  | cons name rest ih => exact ih

/-- The messages of a relocation that gets to the fill. -/
theorem Engine.emitted_filling {size : Nat} {place : Address} {rest : List EngineCall}
    (hallocated : CodeBuffer.allocate memory size = .ok (.zeros place size)) :
    emitted memory engine (.size :: .fill size :: rest) =
      (Engine.imageSize engine).1.diagnostics ++
        ((Engine.filling engine place size).1.diagnostics ++
          emitted memory (Engine.filling engine place size).2.2 rest) := by
  have hplace : memory.placeFor size = place := by rw [MemoryService.placeFor, hallocated]; rfl
  simp only [emitted, hplace, Engine.filling]

/-- The log of a relocation that fails has the messages of the calls that it made. -/
theorem RelocationFault.emitted_eq {calls : List EngineCall} {log : ErrorLog}
    {cause : EngineError} (h : RelocationFault engine memory calls log cause) :
    Engine.emitted memory engine (calls ++ [.release]) = log.entries := by
  cases h with
  | sizing | allocation => simp [Engine.emitted]
  | filling _ hallocated | sealing _ hallocated =>
    rw [List.cons_append, List.cons_append, Engine.emitted_filling hallocated]
    simp [Engine.emitted]

end

namespace Session

variable [Engine σ] {s t : Session σ} {request : SessionRequest} {response : SessionResponse}
  {engine : σ} {e : SessionError}

/-- The messages that a request makes the engine of a session emit: those of the calls that were not
there before it. -/
def emitted (s : Session σ) (request : SessionRequest) : List String :=
  match s.engine? with
  | some engine =>
      Engine.emitted request.memory engine ((s.perform request).2.calls.drop s.calls.length)
  | none => []

/-- The messages of a run of requests. -/
def emittedIn (s : Session σ) : List SessionRequest → List String
  | [] => []
  | request :: rest => s.emitted request ++ (s.perform request).2.emittedIn rest

theorem emittedIn_concat (requests : List SessionRequest) (last : SessionRequest) :
    s.emittedIn (requests ++ [last]) = s.emittedIn requests ++ (s.after requests).emitted last := by
  induction requests generalizing s with
  | nil => exact List.append_nil _
  | cons request rest ih =>
    rw [List.cons_append, emittedIn, emittedIn, after, ih, List.append_assoc]

/-! ## Rows -/

/-- What a request emits can be told from the calls that its row adds. -/
theorem Row.emitted_of_calls (h : Row s request response t) (hengine : s.engine? = some engine)
    {calls : List EngineCall} (hcalls : t.calls = s.calls ++ calls) :
    s.emitted request = Engine.emitted request.memory engine calls := by
  simp only [emitted, hengine, perform_of_row h, hcalls, List.drop_left]

/-- A session that stays as it is makes no call. -/
theorem Row.emitted_of_same (h : Row s request response s) : s.emitted request = [] := by
  cases hengine : s.engine? with
  | none => simp only [emitted, hengine]
  | some engine => exact h.emitted_of_calls hengine (List.append_nil _).symm

theorem Row.emitted_of_asked {names : List String} (h : Row s request response (s.asked names))
    (hengine : s.engine? = some engine) : s.emitted request = [] :=
  (h.emitted_of_calls hengine rfl).trans (Engine.emitted_symbol names)

/-- What an error tells is what the request made the engine emit. -/
theorem Row.diagnostics_eq (h : Row s request response t) (herror : response.error? = some e) :
    e.diagnostics = s.emitted request := by
  have hrow := h
  cases h with
  | refused hoperation hrefused =>
    rw [SessionRequest.error?_refused, Option.some.injEq] at herror
    subst herror
    rw [hrow.emitted_of_same, SessionState.diagnostics_of_refusal hrefused]
  | unnamed =>
    cases herror
    exact hrow.emitted_of_same.symm
  | @compileFailed engine source hallowed hengine =>
    cases herror
    have hcalls : (s.closedBy .compileFailed [.compile source]).calls =
        s.calls ++ [.compile source, .release] := List.append_assoc ..
    rw [hrow.emitted_of_calls hengine hcalls, ErrorLog.compileError_eq]
    exact (List.append_nil _).symm
  | @relocationFailed engine memory calls log cause hallowed hengine hfault =>
    cases herror
    have hcalls : (s.closedBy .relocationFailed calls).calls = s.calls ++ (calls ++ [.release]) :=
      List.append_assoc ..
    rw [hrow.emitted_of_calls hengine hcalls, ErrorLog.relocationError_eq]
    exact hfault.emitted_eq.symm
  | exportStopped _ hengine | missing _ hengine | routineMissing _ hengine =>
    cases herror
    exact (hrow.emitted_of_asked hengine).symm
  | _ => cases herror

/-- A session that can be relocated after a request could be so before, and heard nothing. -/
theorem Row.silent (h : Row s request response t) (hopen : t.state.refusal? .relocate = none) :
    s.state.refusal? .relocate = none ∧ s.emitted request = [] := by
  have hrow := h
  cases h with
  | refused | allowed | unnamed | alreadyClosed => exact ⟨hopen, hrow.emitted_of_same⟩
  | @compiled engine source hallowed hengine hquiet =>
    refine ⟨SessionState.relocate_of_compile hallowed, ?_⟩
    rw [hrow.emitted_of_calls hengine rfl, Engine.emitted, hquiet]
    rfl
  | relocated => cases hopen
  | imported _ hengine | importedApi _ hengine =>
    exact ⟨hopen, (hrow.emitted_of_calls hengine rfl).trans (Engine.emitted_add _)⟩
  | exported _ hengine | exportStopped _ hengine | found _ hengine | missing _ hengine
  | routineFound _ hengine | routineMissing _ hengine =>
    exact ⟨hopen, hrow.emitted_of_asked hengine⟩
  | compileFailed | relocationFailed | closed | finalized => cases hopen

/-- Only a session that can be relocated is closed by an error. -/
theorem Row.relocatable_of_closesSession (h : Row s request response t)
    (herror : response.error? = some e) (hcloses : e.closesSession = true) :
    s.state.refusal? .relocate = none := by
  cases h with
  | refused hoperation hrefused =>
    rw [SessionRequest.error?_refused, Option.some.injEq] at herror
    subst herror
    rw [closesSession_refusal hrefused] at hcloses
    cases hcloses
  | compileFailed hallowed => exact SessionState.relocate_of_compile hallowed
  | relocationFailed hallowed => exact hallowed
  | unnamed | exportStopped | missing | routineMissing =>
    cases herror
    cases hcloses
  | _ => cases herror

/-! ## Runs -/

/-- Nothing was emitted in a run that leaves a session which can be relocated. -/
theorem Consistent.emittedIn_eq_nil (hs : s.Consistent) {requests : List SessionRequest}
    (hopen : (s.after requests).state.refusal? .relocate = none) :
    s.state.refusal? .relocate = none ∧ s.emittedIn requests = [] := by
  induction requests generalizing s with
  | nil => exact ⟨hopen, rfl⟩
  | cons request rest ih =>
    have hrow := hs.row_perform request
    obtain ⟨hnext, hrest⟩ := ih (hrow.consistent hs) hopen
    obtain ⟨hfirst, hemitted⟩ := hrow.silent hnext
    refine ⟨hfirst, ?_⟩
    rw [emittedIn, hemitted, hrest, List.append_nil]

/-- A compilation past its gate fails if the engine fails or emits a message. -/
theorem exists_compile_eq_error_iff (hallowed : s.state.refusal? .compile = none)
    (hengine : s.engine? = some engine) (source : String) :
    (∃ e, (s.compile source).1 = .error e) ↔
      (∃ cause, (Engine.compile engine source).1.outcome = .error cause) ∨
        (Engine.compile engine source).1.diagnostics ≠ [] := by
  by_cases hquiet : (Engine.compile engine source).1 = ⟨[], .ok ()⟩
  · rw [compile_of_quiet hallowed hengine hquiet, hquiet]
    simp
  · rw [compile_of_failed hallowed hengine hquiet]
    refine iff_of_true ⟨_, rfl⟩ ?_
    generalize (Engine.compile engine source).1 = attempt at hquiet ⊢
    obtain ⟨diagnostics, outcome⟩ := attempt
    cases outcome with
    | error cause => exact .inl ⟨cause, rfl⟩
    | ok done =>
      -- The engine succeeded, so it must have said something.
      refine .inr ?_
      rintro rfl
      exact hquiet rfl

theorem compile_eq_error (hallowed : s.state.refusal? .compile = none)
    (hengine : s.engine? = some engine) {source : String}
    (herror : (s.compile source).1 = .error e) :
    e = .compile (Engine.compile engine source).1.diagnostics
      (linesOr "compile error" (Engine.compile engine source).1.diagnostics) := by
  by_cases hquiet : (Engine.compile engine source).1 = ⟨[], .ok ()⟩
  · rw [compile_of_quiet hallowed hengine hquiet] at herror
    cases herror
  · rw [compile_of_failed hallowed hengine hquiet, ErrorLog.compileError_eq] at herror
    cases herror
    rfl

/-- A relocation past its gate fails at one of its steps. -/
theorem relocate_eq_error (hallowed : s.state.refusal? .relocate = none)
    (hengine : s.engine? = some engine) {memory : MemoryService}
    (herror : (s.relocate memory).1 = .error e) :
    ∃ calls log cause, RelocationFault engine memory calls log cause ∧
      e = .relocation log.entries
        (linesOr ("relocation error: " ++ cause.message) log.entries) := by
  rcases materializes_or_fault engine memory with ⟨size, place, hsteps⟩ |
    ⟨calls, log, cause, hfault⟩
  · rw [relocate_of_materializes hallowed hengine hsteps] at herror
    cases herror
  · rw [relocate_of_fault hallowed hengine hfault, ErrorLog.relocationError_eq] at herror
    cases herror
    exact ⟨calls, log, cause, hfault, rfl⟩

/-- How the errors of a session that a run has led to tell what its engine emitted. -/
structure ScopesDiagnostics (start : Session σ) (requests : List SessionRequest)
    (s : Session σ) : Prop where
  /-- A compilation past its gate fails exactly if the engine fails or emits a message, and then
  tells the messages of this one attempt. -/
  compile : s.check .compile = .ok () → ∃ engine, s.engine? = some engine ∧ ∀ source,
    ((∃ e, (s.compile source).1 = .error e) ↔
      (∃ cause, (Engine.compile engine source).1.outcome = .error cause) ∨
        (Engine.compile engine source).1.diagnostics ≠ []) ∧
    ∀ e, (s.compile source).1 = .error e →
      e = .compile (Engine.compile engine source).1.diagnostics
        (linesOr "compile error" (Engine.compile engine source).1.diagnostics)
  /-- A relocation past its gate fails at one of its steps, and tells the messages of those that it
  got to, or else what stopped it. -/
  relocate : s.check .relocate = .ok () → ∃ engine, s.engine? = some engine ∧
    ∀ memory e, (s.relocate memory).1 = .error e → ∃ calls log cause,
      RelocationFault engine memory calls log cause ∧
      e = .relocation log.entries (linesOr ("relocation error: " ++ cause.message) log.entries)
  /-- Whatever fails tells all that it made the engine emit, in order. -/
  complete : ∀ request e, (s.perform request).1.error? = some e →
    e.diagnostics = s.emitted request
  /-- An error that closes the session tells everything that was ever emitted, for the run before it
  was silent. -/
  silent_before : ∀ request e, (s.perform request).1.error? = some e → e.closesSession = true →
    start.emittedIn requests = [] ∧ start.emittedIn (requests ++ [request]) = e.diagnostics

/-- The errors of every session that is reached from a new one tell what the engine emitted in the
attempt that failed, whatever the engine emits and however it answers. -/
theorem diagnostics_scoped (engine : σ) (requests : List SessionRequest) :
    ScopesDiagnostics (Session.new engine) requests ((Session.new engine).after requests) := by
  have hs := consistent_after engine requests
  constructor
  · intro hcheck
    have hallowed := check_eq_ok_iff.1 hcheck
    obtain ⟨present, hpresent⟩ := hs.exists_engine (isClosed_of_allowed hallowed)
    refine ⟨present, hpresent, ?_⟩
    intro source
    refine ⟨exists_compile_eq_error_iff hallowed hpresent source, ?_⟩
    intro e herror
    exact compile_eq_error hallowed hpresent herror
  · intro hcheck
    have hallowed := check_eq_ok_iff.1 hcheck
    obtain ⟨present, hpresent⟩ := hs.exists_engine (isClosed_of_allowed hallowed)
    refine ⟨present, hpresent, ?_⟩
    intro memory e herror
    exact relocate_eq_error hallowed hpresent herror
  · intro request e herror
    exact (hs.row_perform request).diagnostics_eq herror
  · intro request e herror hcloses
    have hrow := hs.row_perform request
    have hopen := hrow.relocatable_of_closesSession herror hcloses
    obtain ⟨-, hsilent⟩ := (consistent_new engine).emittedIn_eq_nil hopen
    refine ⟨hsilent, ?_⟩
    rw [emittedIn_concat, hsilent, List.nil_append]
    exact (hrow.diagnostics_eq herror).symm

-- The size is told with a message, and the fill fails with another one.
example : ((Session.new (⟨[], ⟨["sized"], none⟩, 2, ⟨["filled"], some .sealedBuffer⟩, [], none⟩ :
    ScriptedEngine)).relocate (.fixed 4096)).1 =
      .error (.relocation ["sized", "filled"] "sized\nfilled") := by
  rfl

end Session

end JitHost
