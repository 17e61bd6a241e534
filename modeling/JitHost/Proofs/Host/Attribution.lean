import JitHost.Proofs.Host.Isolation

/-!
# Which call reports a message

A host has one place for a message that was recorded and not yet reported, whoever recorded it, and
a call that runs its function takes what is there when the function returns. `CallTree.notes` is
what bears on that place in one activation: the messages that its own operations record, and the
returns of the functions that it calls.

What an activation leaves to be reported is its first message since the last such return or, if
there was none, the message that it found on entry (`CallTree.pending_ended`). So a call reports the
first message of its own function exactly when no other message comes before it
(`Host.reports_own_iff`). A message recorded ahead of a call is taken by that call, and the function
that recorded it may then end well (`Host.hasty_message_lost`).
-/

namespace JitHost

/-! ## What a run leaves -/

namespace Host

/-- The message that an operation records: what it leaves to be reported where nothing was. -/
def recorded? (h : Host) (operation : StackOperation) : Option String :=
  (({ h with pending := none } : Host).perform operation).2.pending

/-- A call and the host after it, without the history. -/
def called (h : Host) (callee : Address → CallTree) (function : Value) (args : List Value) :
    Except HostError (List Value) × Host :=
  (h.call (fun entry => (callee entry).run) function args []).1

/-- Whether a call runs a function. -/
def runs (h : Host) (function : Value) (args : List Value) : Bool :=
  match function with
  | .function _ => (h.enter args).toBool
  | _ => false

theorem pending_raise_of_some {h : Host} {message : String} (hpending : h.pending = some message)
    (other : String) : (h.raise other).pending = some message := by
  show (h.pending <|> some other) = some message
  rw [hpending]
  rfl

theorem pending_pop (h : Host) : h.pop.2.pending = h.pending := by
  unfold pop
  split <;> rfl

/-- A message that waits to be reported is kept by every operation. -/
theorem pending_perform_of_some {h : Host} {message : String} (hpending : h.pending = some message)
    (operation : StackOperation) : (h.perform operation).2.pending = some message := by
  cases operation with
  | raise other => exact pending_raise_of_some hpending other
  | pop => exact h.pending_pop.trans hpending
  | setTop index =>
    show (h.setTop index).pending = some message
    unfold setTop
    split <;> exact hpending
  | replace index =>
    show (h.replace index).pending = some message
    unfold replace
    cases h.slot? index with
    | none => exact pending_raise_of_some hpending _
    | some place => exact h.pending_pop.trans hpending
  | toText index =>
    show (h.toText index).2.pending = some message
    unfold toText
    cases h.slot? index with
    | none => exact hpending
    | some place =>
      simp only
      split <;> exact hpending
  | getField index key =>
    show (h.getField index key).2.pending = some message
    unfold getField
    cases h.value index with
    | table id => exact hpending
    | _ => exact pending_raise_of_some hpending _
  | setField index key =>
    have hpop := h.pending_pop.trans hpending
    show (h.setField index key).pending = some message
    unfold setField
    cases h.value index with
    | table id =>
      simp only
      cases h.pop.2.heap.set id key h.pop.1 with
      | ok heap => exact hpop
      | error fault => exact pending_raise_of_some hpop _
    | _ => exact pending_raise_of_some hpop _
  | _ => exact hpending

/-- A message is recorded only where there is none. -/
theorem pending_perform (h : Host) (operation : StackOperation) :
    (h.perform operation).2.pending = (h.pending <|> h.recorded? operation) := by
  cases hpending : h.pending with
  | none =>
    -- The host is itself one where nothing is to be reported.
    have hsame : ({ h with pending := none } : Host) = h := by rw [← hpending]
    rw [recorded?, hsame]
    rfl
  | some message => exact pending_perform_of_some hpending operation

end Host

namespace CallTree

/-- The status with which a tree ends and the host it leaves, without the history. -/
def ended (tree : CallTree) (h : Host) : Int × Host := (tree.run h []).1

/-- What bears on the message to be reported. -/
inductive Note where
  | recorded (message : String)
  | returned

/-- What bears on the message to be reported in one activation: the messages that its own
operations record, and the returns of functions that it calls. -/
def notes : CallTree → Host → List Note
  | finish _, _ => []
  | operate operation next, h =>
      ((h.recorded? operation).map Note.recorded).toList ++
        (next (h.perform operation).1).notes (h.perform operation).2
  | call function args callee next, h =>
      (if h.runs function args then [.returned] else []) ++
        (next (h.called callee function args).1).notes (h.called callee function args).2

end CallTree

/-! ## The history does not matter -/

/-- Functions that do the same whatever the history make calls that do. -/
theorem Host.call_fst_congr {f g : Address → Host → Traced (Int × Host)} {log log' : List Event}
    (hfg : ∀ entry inner, (f entry inner log).1 = (g entry inner log').1) (h : Host)
    (function : Value) (args : List Value) :
    (h.call f function args log).1 = (h.call g function args log').1 := by
  cases function with
  | function entry =>
    cases henter : h.enter args with
    | error fault => rw [call_of_no_enter henter, call_of_no_enter henter]
    | ok inner => rw [call_of_enter henter, call_of_enter henter, hfg]
  | _ => rfl

namespace CallTree

/-- What a call of a tree runs: the callee's frame is written down first. -/
def calleeRun (callee : Address → CallTree) (entry : Address) (inner : Host) :
    Traced (Int × Host) := do
  record (.entered inner.frame)
  (callee entry).run inner

theorem run_operate (operation : StackOperation) (next : Reply → CallTree) (h : Host)
    (log : List Event) :
    (operate operation next).run h log =
      (next (h.perform operation).1).run (h.perform operation).2
        (log ++ [.answered (h.perform operation).1 (h.perform operation).2.frame]) := rfl

theorem run_call (function : Value) (args : List Value) (callee : Address → CallTree)
    (next : Except HostError (List Value) → CallTree) (h : Host) (log : List Event) :
    (call function args callee next).run h log =
      (next (h.call (calleeRun callee) function args log).1.1).run
        (h.call (calleeRun callee) function args log).1.2
        ((h.call (calleeRun callee) function args log).2 ++
          [.returned (h.call (calleeRun callee) function args log).1.1
            (h.call (calleeRun callee) function args log).1.2.frame]) := rfl

theorem run_fst_congr (tree : CallTree) (h : Host) (log log' : List Event) :
    (tree.run h log).1 = (tree.run h log').1 := by
  induction tree generalizing h log log' with
  | finish status => rfl
  | operate operation next ih =>
    rw [run_operate, run_operate]
    exact ih _ _ _ _
  | call function args callee next ihCallee ihNext =>
    have hcallee : ∀ entry inner, (calleeRun callee entry inner log).1 =
        (calleeRun callee entry inner log').1 := fun entry inner => ihCallee entry inner _ _
    rw [run_call, run_call, Host.call_fst_congr hcallee]
    exact ihNext _ _ _ _

theorem ended_operate (operation : StackOperation) (next : Reply → CallTree) (h : Host) :
    (operate operation next).ended h =
      (next (h.perform operation).1).ended (h.perform operation).2 := by
  rw [ended, run_operate]
  exact run_fst_congr _ _ _ _

theorem ended_call (function : Value) (args : List Value) (callee : Address → CallTree)
    (next : Except HostError (List Value) → CallTree) (h : Host) :
    (call function args callee next).ended h =
      (next (h.called callee function args).1).ended (h.called callee function args).2 := by
  have hcallee : ∀ entry inner, (calleeRun callee entry inner []).1 =
      ((callee entry).run inner []).1 := fun entry inner => run_fst_congr _ _ _ _
  rw [ended, run_call, Host.call_fst_congr hcallee]
  exact run_fst_congr _ _ _ _

end CallTree

/-! ## What is left to be reported -/

/-- A call that runs its function takes the message. -/
theorem Host.pending_called {h : Host} {callee : Address → CallTree} {function : Value}
    {args : List Value} :
    (h.called callee function args).2.pending =
      if h.runs function args then none else h.pending := by
  cases function with
  | function entry =>
    cases henter : h.enter args with
    | error fault =>
      rw [called, call_of_no_enter henter, runs, henter]
      rfl
    | ok inner =>
      rw [called, call_of_enter henter, runs, henter]
      rfl
  | _ => rfl

namespace CallTree

/-- The message to be reported after a note, with what was to be reported before it. -/
def Note.settle (pending : Option String) : Note → Option String
  | recorded message => pending <|> some message
  | returned => none

/-- The message of a note. -/
def Note.message? : Note → Option String
  | recorded message => some message
  | returned => none

/-- What an activation leaves to be reported. -/
theorem pending_ended (tree : CallTree) (h : Host) :
    (tree.ended h).2.pending = (tree.notes h).foldl Note.settle h.pending := by
  induction tree generalizing h with
  | finish status => rfl
  | operate operation next ih =>
    -- The rest begins with what the operation leaves: at most one more message.
    rw [ended_operate, notes, List.foldl_append, ih, h.pending_perform]
    cases h.recorded? operation with
    | none => cases h.pending <;> rfl
    | some message => rfl
  | call function args callee next ihCallee ihNext =>
    -- Whatever the callee has recorded, nothing is left of it once it has returned.
    rw [ended_call, notes, List.foldl_append, ihNext, Host.pending_called]
    cases h.runs function args <;> rfl

/-- The first message that the operations of an activation itself record. -/
def first? (tree : CallTree) (h : Host) : Option String := (tree.notes h).findSome? Note.message?

section

variable {pending : Option String} {notes before since : List Note}

theorem foldl_settle_of_no_return (h : .returned ∉ notes) :
    notes.foldl Note.settle pending = (pending <|> notes.findSome? Note.message?) := by
  induction notes generalizing pending with
  | nil => cases pending <;> rfl
  | cons note rest ih =>
    have hrest : rest.foldl Note.settle (note.settle pending) =
        (note.settle pending <|> rest.findSome? Note.message?) :=
      ih fun hmem => h (List.mem_cons_of_mem note hmem)
    rw [List.foldl_cons, hrest]
    cases note with
    | recorded message => cases pending <;> rfl
    | returned => exact absurd List.mem_cons_self h

/-- What was there before a function returned does not matter. -/
theorem foldl_settle_of_return (h : .returned ∉ since) :
    (before ++ .returned :: since).foldl Note.settle pending =
      since.findSome? Note.message? := by
  rw [List.foldl_append, List.foldl_cons, foldl_settle_of_no_return h]
  rfl

theorem exists_last_return (h : .returned ∈ notes) :
    ∃ before since : List Note, notes = before ++ .returned :: since ∧ .returned ∉ since := by
  induction notes with
  | nil => cases h
  | cons note rest ih =>
    by_cases hrest : Note.returned ∈ rest
    · obtain ⟨before, since, rfl, hsince⟩ := ih hrest
      exact ⟨note :: before, since, rfl, hsince⟩
    · rcases List.mem_cons.1 h with rfl | hmem
      · exact ⟨[], rest, rfl, hrest⟩
      · exact absurd hmem hrest

/-- No message comes before the first one of an activation: none that it found on entry, and none
of its own that another function took on its return, unless it says the same. -/
structure Undisturbed (pending : Option String) (notes : List Note) : Prop where
  found : .returned ∉ notes → pending = none ∨ pending = notes.findSome? Note.message?
  kept : ∀ before since, notes = before ++ .returned :: since → .returned ∉ since →
    before.findSome? Note.message? = none ∨
      before.findSome? Note.message? = since.findSome? Note.message?

/-- A choice is the second part only if the first is nothing or the same. -/
theorem orElse_eq_right_iff {first second : Option String} :
    (first <|> second) = second ↔ first = none ∨ first = second := by
  cases first with
  | none => exact ⟨fun _ => .inl rfl, fun _ => rfl⟩
  | some message => exact ⟨.inr, fun h => h.resolve_left fun hnone => nomatch hnone⟩

theorem foldl_settle_eq_first_iff :
    notes.foldl Note.settle pending = notes.findSome? Note.message? ↔
      Undisturbed pending notes := by
  have hsplit : ∀ before since : List Note,
      (before ++ .returned :: since).findSome? Note.message? =
        (before.findSome? Note.message? <|> since.findSome? Note.message?) := by
    intro before since
    rw [List.findSome?_append]
    cases before.findSome? Note.message? <;> rfl
  constructor
  · intro h
    refine ⟨fun hnone => ?_, fun before since hnotes hsince => ?_⟩
    · rw [foldl_settle_of_no_return hnone] at h
      exact orElse_eq_right_iff.1 h
    · rw [hnotes, foldl_settle_of_return hsince, hsplit] at h
      exact orElse_eq_right_iff.1 h.symm
  · intro h
    by_cases hreturn : Note.returned ∈ notes
    · obtain ⟨before, since, hnotes, hsince⟩ := exists_last_return hreturn
      have hkept := h.kept before since hnotes hsince
      rw [hnotes, foldl_settle_of_return hsince, hsplit]
      exact (orElse_eq_right_iff.2 hkept).symm
    · rw [foldl_settle_of_no_return hreturn]
      exact orElse_eq_right_iff.2 (h.found hreturn)

end

end CallTree

/-! ## What a call reports -/

namespace Host

/-- A call of a function reports a message: its function ran, and left one that was recorded. -/
def Reports (h : Host) (callee : Address → CallTree) (entry : Address) (args : List Value)
    (message : String) : Prop :=
  (h.called callee (.function entry) args).1 = .error (.raised message) ∧
    ∃ inner, h.enter args = .ok inner ∧ ((callee entry).ended inner).2.pending ≠ none

variable {h inner : Host} {callee : Address → CallTree} {entry : Address} {args : List Value}

/-- A message that was left comes before the status. -/
theorem reports_iff (henter : h.enter args = .ok inner) {message : String} :
    h.Reports callee entry args message ↔
      ((callee entry).ended inner).2.pending = some message := by
  have hcalled : (h.called callee (.function entry) args).1 =
      ((callee entry).ended inner).2.outcome ((callee entry).ended inner).1 := by
    rw [called, call_of_enter henter]
    rfl
  rw [Reports, hcalled, outcome]
  constructor
  · rintro ⟨houtcome, other, hother, hleft⟩
    cases henter.symm.trans hother
    cases hpending : ((callee entry).ended inner).2.pending with
    | none => exact absurd hpending hleft
    | some left =>
      rw [hpending] at houtcome
      cases houtcome
      rfl
  · intro hpending
    rw [hpending]
    exact ⟨rfl, inner, henter, hpending ▸ Option.some_ne_none message⟩

theorem pending_enter (henter : h.enter args = .ok inner) : inner.pending = h.pending := by
  unfold enter at henter
  split at henter
  · cases henter
    rfl
  · cases henter

/-- A call reports the first message of its own function, and no other one, exactly when none comes
before that. -/
theorem reports_own_iff (henter : h.enter args = .ok inner) :
    (∀ message, h.Reports callee entry args message ↔
      (callee entry).first? inner = some message) ↔
        CallTree.Undisturbed h.pending ((callee entry).notes inner) := by
  rw [← CallTree.foldl_settle_eq_first_iff, ← pending_enter henter, ← CallTree.pending_ended]
  constructor
  · intro h
    exact Option.ext fun message => (reports_iff henter).symm.trans (h message)
  · intro h message
    rw [reports_iff henter, h]
    rfl

end Host

/-- A function that records a message and fails. -/
def CallTree.failing : CallTree := .operate (.raise "boom") fun _ => .finish (-1)

/-- Nothing disturbs the message of a function that fails on its own. -/
theorem Host.reports_own_failing :
    (Host.new 8).enter [] = .ok (Host.new 8) ∧
      (Host.new 8).Reports (fun _ => .failing) .null [] "boom" := by
  have henter : (Host.new 8).enter [] = .ok (Host.new 8) := rfl
  have hundisturbed : CallTree.Undisturbed (Host.new 8).pending
      (CallTree.failing.notes (Host.new 8)) := by
    refine ⟨fun _ => .inl rfl, fun before since hnotes _ => ?_⟩
    have hreturn : CallTree.Note.returned ∈ CallTree.failing.notes (Host.new 8) :=
      hnotes ▸ List.mem_append_right before List.mem_cons_self
    cases List.mem_singleton.1 hreturn
  have hown : ∀ message, (Host.new 8).Reports (fun _ => .failing) .null [] message ↔
      CallTree.failing.first? (Host.new 8) = some message :=
    (reports_own_iff henter).2 hundisturbed
  exact ⟨henter, (hown "boom").2 rfl⟩

/-- A function that records a message and then calls one that does nothing. -/
def CallTree.hasty : CallTree :=
  .operate (.raise "outer") fun _ =>
    .call (.function .null) [] (fun _ => .finish 0) fun _ => .finish 0

/-- The function that does nothing reports the message of the other one, which ends well. -/
theorem Host.hasty_message_lost :
    (Host.new 8).enter [] = .ok (Host.new 8) ∧
      CallTree.hasty.first? (Host.new 8) = some "outer" ∧
      ((Host.new 8).called (fun _ => .hasty) (.function .null) []).1 = .ok [] ∧
      (((Host.new 8).raise "outer").called (fun _ => .finish 0) (.function .null) []).1 =
        .error (.raised "outer") ∧
      ¬ ∀ message, (Host.new 8).Reports (fun _ => .hasty) .null [] message ↔
        CallTree.hasty.first? (Host.new 8) = some message := by
  refine ⟨rfl, rfl, rfl, rfl, fun h => ?_⟩
  have hreports := (h "outer").2 rfl
  cases hreports.1

end JitHost
