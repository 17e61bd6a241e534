import JitHost.Ir.Code
import JitHost.Proofs.Engine.Batches

/-!
# Counts of failures

A source that is refused is refused with a count, and the text of that error calls what is counted
diagnostics. A function that is not compiled counts once, though any number of messages may be about
it. Whatever else is wrong counts as often as it is said: a source that cannot be read, or a name that
is taken. So the count is never zero, and it is the number of messages exactly if the messages about
functions are as many as the functions that failed (`failures_counted`). A front end that never fails
in silence has to leave it at one message for each function; `Ir.frontEnd` never fails in silence, but
it may find two faults in one function (`failures_miscounted`).
-/

namespace JitHost

instance : DecidableEq (Except EngineError Unit)
  | .ok (), .ok () => isTrue rfl
  | .error cause, .error other => decidable_of_iff (cause = other) (by simp)
  | .ok (), .error _ => isFalse (by simp)
  | .error _, .ok () => isFalse (by simp)

/-! ## Functions that fail -/

/-- The functions of a source that are not compiled. A source that cannot be read has none. -/
def FrontEnd.failing (frontEnd : FrontEnd) (source : String) : List FunctionAttempt :=
  match frontEnd source with
  | .ok attempts => attempts.filter FunctionAttempt.failed
  | .error _ => []

/-- What is said about the functions of a source. -/
def FrontEnd.complaints (frontEnd : FrontEnd) (source : String) : List Diagnostic :=
  (frontEnd.failing source).flatMap FunctionAttempt.diagnostics

/-- There is something to say about each function that is not compiled. -/
def FrontEnd.Tells (frontEnd : FrontEnd) : Prop :=
  ∀ source, ∀ attempt ∈ frontEnd.failing source, attempt.diagnostics ≠ []

section

variable {frontEnd : FrontEnd} {source : String} {attempts : List FunctionAttempt}

theorem FrontEnd.failing_of_ok (hread : frontEnd source = .ok attempts) :
    frontEnd.failing source = attempts.filter FunctionAttempt.failed := by
  simp [failing, hread]

theorem FrontEnd.failing_of_error {fault : SourceFault} (hread : frontEnd source = .error fault) :
    frontEnd.failing source = [] := by
  simp [failing, hread]

namespace FunctionAttempt

/-- All messages are about functions that failed. -/
theorem flatMap_diagnostics_failed :
    (attempts.filter failed).flatMap diagnostics = attempts.flatMap diagnostics := by
  induction attempts with
  | nil => rfl
  | cons attempt rest ih =>
    cases hfailed : attempt.failed with
    | true => rw [List.filter_cons_of_pos hfailed, List.flatMap_cons, List.flatMap_cons, ih]
    | false =>
      have hfiltered : ¬ attempt.failed = true := by simp [hfailed]
      rw [List.filter_cons_of_neg hfiltered, List.flatMap_cons, diagnostics_eq_nil hfailed,
        List.nil_append, ih]

theorem length_le_diagnostics (htold : ∀ attempt ∈ attempts, attempt.diagnostics ≠ []) :
    attempts.length ≤ (attempts.flatMap diagnostics).length := by
  induction attempts with
  | nil => exact Nat.le_refl 0
  | cons attempt rest ih =>
    obtain ⟨hfirst, hrest⟩ := List.forall_mem_cons.1 htold
    have hpos := List.length_pos_iff.2 hfirst
    have hle := ih hrest
    rw [List.flatMap_cons, List.length_append, List.length_cons]
    omega

/-- Where something is said about each function, the messages are as many as the functions exactly if
there is one about each. -/
theorem length_diagnostics_eq_iff (htold : ∀ attempt ∈ attempts, attempt.diagnostics ≠ []) :
    (attempts.flatMap diagnostics).length = attempts.length ↔
      ∀ attempt ∈ attempts, attempt.diagnostics.length = 1 := by
  induction attempts with
  | nil => simp
  | cons attempt rest ih =>
    obtain ⟨hfirst, hrest⟩ := List.forall_mem_cons.1 htold
    -- Two messages here are not made up for further right, where nothing is missing.
    have hpos := List.length_pos_iff.2 hfirst
    have hle := length_le_diagnostics hrest
    rw [List.forall_mem_cons, ← ih hrest, List.flatMap_cons, List.length_append, List.length_cons]
    omega

end FunctionAttempt

theorem FrontEnd.complaints_of_ok (hread : frontEnd source = .ok attempts) :
    frontEnd.complaints source = attempts.flatMap FunctionAttempt.diagnostics := by
  rw [complaints, failing_of_ok hread, FunctionAttempt.flatMap_diagnostics_failed]

theorem FrontEnd.complaints_of_error {fault : SourceFault}
    (hread : frontEnd source = .error fault) : frontEnd.complaints source = [] := by
  rw [complaints, failing_of_error hread, List.flatMap_nil]

end

namespace Ir

/-- A function is not compiled for a complaint or for its results, and either is said. -/
theorem Function.messages_ne_nil {f : Function} {verify : Bool} {own : String}
    {messages : List String} (h : f.compile verify own = .error messages) : messages ≠ [] := by
  simp only [Function.compile] at h
  generalize (if verify = true then f.complaints else []) = complaints at h
  split at h
  next hcomplaints =>
    obtain rfl := Except.error.inj h
    simpa using hcomplaints
  next =>
    split at h
    next => cases h
    next =>
      obtain rfl := Except.error.inj h
      simp

theorem frontEnd_tells (verify : Bool) : (frontEnd verify).Tells := by
  intro source attempt hmem
  cases hread : Function.readAll source with
  | error fault =>
    have hfault : frontEnd verify source = .error fault := by
      simp [frontEnd, hread, bind, Except.bind]
    rw [FrontEnd.failing_of_error hfault] at hmem
    cases hmem
  | ok found =>
    have hfound : frontEnd verify source =
        .ok (found.map fun entry => ⟨entry.1.name, entry.1.compile verify entry.2⟩) := by
      simp [frontEnd, hread, bind, Except.bind, pure, Except.pure]
    rw [FrontEnd.failing_of_ok hfound] at hmem
    obtain ⟨hattempt, hfailed⟩ := List.mem_filter.1 hmem
    obtain ⟨⟨f, own⟩, -, rfl⟩ := List.mem_map.1 hattempt
    cases hcompiled : f.compile verify own with
    | ok compiled => simp [FunctionAttempt.failed, FunctionAttempt.function?, hcompiled] at hfailed
    | error messages =>
      simpa [FunctionAttempt.diagnostics, hcompiled] using Function.messages_ne_nil hcompiled

end Ir

namespace JitEngine

variable {frontEnd : FrontEnd}

/-! ## What is counted -/

/-- What is wrong with a source besides functions that are not compiled: it cannot be read, or names
of functions that are compiled are taken. -/
inductive OtherFaults (engine : JitEngine frontEnd) (source : String) : List Diagnostic → Prop where
  | unreadable {fault : SourceFault} (hread : frontEnd source = .error fault) :
      OtherFaults engine source [.atLine fault.line fault.message]
  | taken {attempts : List FunctionAttempt} {report : List (Nat × String)}
      (hread : frontEnd source = .ok attempts)
      (hreport : IsTakenReport engine.functionNames
        ((attempts.filterMap FunctionAttempt.function?).map CompiledFunction.name) report) :
      OtherFaults engine source (report.map fun entry => .redefinition entry.2)

/-- How the count of failures in a source goes with what is said about them. -/
structure CountsFailures (engine : JitEngine frontEnd) (source : String) (said : List String)
    (count : Nat) : Prop where
  /-- All is said, about functions first. Each function counts once and all else as often as it is
  said. -/
  counted : ∃ others, engine.OtherFaults source others ∧
    said = (frontEnd.complaints source ++ others).map Diagnostic.text ∧
    count = (frontEnd.failing source).length + others.length
  /-- Something is counted. -/
  pos : 0 < count
  /-- The messages are counted exactly if those about functions are as many as these functions. -/
  eq_iff : count = said.length ↔
    (frontEnd.complaints source).length = (frontEnd.failing source).length
  /-- If the front end never fails in silence no more is counted than said. -/
  le_of_tells : frontEnd.Tells → count ≤ said.length
  /-- Then the messages are counted exactly if there is one about each function that failed. -/
  eq_iff_of_tells : frontEnd.Tells →
    (count = said.length ↔ ∀ attempt ∈ frontEnd.failing source, attempt.diagnostics.length = 1)

section

variable {engine : JitEngine frontEnd} {source : String}

theorem countsFailures_of_others {others : List Diagnostic}
    (hothers : engine.OtherFaults source others)
    (hwrong : frontEnd.failing source ≠ [] ∨ others ≠ []) :
    engine.CountsFailures source ((frontEnd.complaints source ++ others).map Diagnostic.text)
      ((frontEnd.failing source).length + others.length) := by
  -- What else is wrong is both said and counted, so that only functions make a difference.
  have hlength : ((frontEnd.complaints source ++ others).map Diagnostic.text).length =
      (frontEnd.complaints source).length + others.length := by
    rw [List.length_map, List.length_append]
  have heq : (frontEnd.failing source).length + others.length =
        ((frontEnd.complaints source ++ others).map Diagnostic.text).length ↔
      (frontEnd.complaints source).length = (frontEnd.failing source).length := by
    rw [hlength, Nat.add_right_cancel_iff, eq_comm]
  constructor
  · exact ⟨others, hothers, rfl, rfl⟩
  · rcases hwrong with hfailing | hsaid
    · exact Nat.add_pos_left (List.length_pos_iff.2 hfailing) _
    · exact Nat.add_pos_right _ (List.length_pos_iff.2 hsaid)
  · exact heq
  · intro htells
    rw [hlength]
    exact Nat.add_le_add_right (FunctionAttempt.length_le_diagnostics (htells source)) _
  · intro htells
    exact heq.trans (FunctionAttempt.length_diagnostics_eq_iff (htells source))

theorem Compilation.countsFailures {result : Attempt Unit × JitEngine frontEnd} {cause : EngineError}
    (h : Compilation engine source result) (hopen : engine.base? = none)
    (hrefused : result.1.outcome = .error cause) :
    ∃ count, cause = .compilationFailed count ∧
      engine.CountsFailures source result.1.diagnostics count := by
  cases h with
  | late hbase =>
    rw [hopen] at hbase
    cases hbase
  | unreadable _ hread =>
    -- There are no functions, and what is said is that the source cannot be read.
    obtain rfl := Except.error.inj hrefused
    have hothers : engine.OtherFaults source _ := .unreadable hread
    have hcounts := countsFailures_of_others hothers (.inr (by simp))
    rw [FrontEnd.failing_of_error hread, FrontEnd.complaints_of_error hread] at hcounts
    exact ⟨1, rfl, hcounts⟩
  | @rejected attempts report _ hread hreport hwrong =>
    -- Names are reported only of functions that are compiled, so no function is counted twice.
    obtain rfl := Except.error.inj hrefused
    have hfailing := FrontEnd.failing_of_ok hread
    have hcounts := countsFailures_of_others (.taken hread hreport) (by simpa [hfailing] using hwrong)
    rw [hfailing, FrontEnd.complaints_of_ok hread, List.length_map] at hcounts
    exact ⟨_, rfl, hcounts⟩
  | accepted => cases hrefused

end

/-- An engine that takes sources in refuses one with a count alone, which is the number of messages
exactly where those about functions are as many as the functions that failed. -/
theorem failures_counted {engine : JitEngine frontEnd} {source : String} {cause : EngineError}
    (hopen : engine.base? = none) (hrefused : (engine.compile source).1.outcome = .error cause) :
    ∃ count, cause = .compilationFailed count ∧
      cause.message = "Source failed to compile (" ++ toString count ++ " diagnostics)" ∧
      engine.CountsFailures source (engine.compile source).1.diagnostics count := by
  obtain ⟨count, rfl, hcounts⟩ := (compilation engine source).countsFailures hopen hrefused
  exact ⟨count, rfl, rfl, hcounts⟩

/-- A front end that finds two faults in the first of three functions, of which the other two have
one name. -/
def mixed : FrontEnd := fun _ =>
  .ok [⟨"f", .error ["wrong entry", "wrong result"]⟩, ⟨"g", .ok ([], [])⟩, ⟨"g", .ok ([], [])⟩]

theorem failures_counted_mixed :
    (new mixed).base? = none ∧
    ((new mixed).compile "").1.outcome = .error (.compilationFailed 2) ∧
    (new mixed).CountsFailures "" ((new mixed).compile "").1.diagnostics 2 := by
  have hrefused : ((new mixed).compile "").1.outcome = .error (.compilationFailed 2) := rfl
  obtain ⟨count, hcause, -, hcounts⟩ := failures_counted rfl hrefused
  obtain rfl := EngineError.compilationFailed.inj hcause
  exact ⟨rfl, hrefused, hcounts⟩

/-- Not every count is the number of messages: each of the two parameters of the entry has a type that
the signature does not give it. -/
theorem failures_miscounted : ¬ ∀ (frontEnd : FrontEnd) (engine : JitEngine frontEnd)
    (source : String) (count : Nat), engine.base? = none →
      (engine.compile source).1.outcome = .error (.compilationFailed count) →
      count = (engine.compile source).1.diagnostics.length := by
  intro h
  have hcompiled : ∃ source,
      ((new (Ir.frontEnd true)).compile source).1.outcome = .error (.compilationFailed 1) ∧
      ((new (Ir.frontEnd true)).compile source).1.diagnostics.length = 2 :=
    ⟨"function %bad(i32, i32) -> i64 \x7b\nblock0(v0: i64, v1: i64):\n    return v0\n\x7d\n",
      by decide +kernel⟩
  obtain ⟨source, hrefused, hsaid⟩ := hcompiled
  have hcount := h (Ir.frontEnd true) (new _) source 1 rfl hrefused
  rw [hsaid] at hcount
  exact absurd hcount (by decide)

end JitEngine

end JitHost
