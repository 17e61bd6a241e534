import JitHost.Proofs.Host.SplitStack

/-!
# Isolation of activations

A `CallTree` is what a native function does in one activation: operations on its frame and calls of
other functions, each chosen after the answers so far, down to any depth. `CallTree.run` runs one on
a host, where all activations share a stack, and `CallTree.runSplit` on a host with a list for each
activation. Both write a history: the frame that every activation finds when it is entered, and the
answer and the frame that every operation and every call leave.

The two agree on every tree (`CallTree.simulates`). So no activation reaches the values of another
one, a call that returns in any way leaves the caller's stack as it was, and its results are the
last values of the callee's frame (`Host.KeepsApart`).
-/

namespace JitHost

/-- What a native function does in one activation: it ends with a status, or it goes on after the
answer of an operation or the outcome of a call. What a called function does in that call is part of
the tree. -/
inductive CallTree where
  | finish (status : Int)
  | operate (operation : StackOperation) (next : Reply → CallTree)
  | call (function : Value) (args : List Value) (callee : Address → CallTree)
      (next : Except HostError (List Value) → CallTree)

/-- An entry of a history, with the frame of the running activation after it. -/
inductive Event where
  | entered (frame : List Value)
  | answered (reply : Reply) (frame : List Value)
  | returned (outcome : Except HostError (List Value)) (frame : List Value)

/-- A computation that writes a history. -/
abbrev Traced := StateM (List Event)

/-- Writes an entry. -/
def record (event : Event) : Traced Unit := modify (· ++ [event])

namespace SplitHost

variable (s : SplitHost)

/-- The host as a called function finds it: the caller waits, and the new list holds the
arguments. -/
def enter (args : List Value) : SplitHost := { s with own := args, waiting := s.own :: s.waiting }

/-- The outcome of the running activation with the given status. -/
def outcome (status : Int) : Except HostError (List Value) :=
  match s.pending with
  | some message => .error (.raised message)
  | none =>
      if status < 0 then
        .error (.raised ("native function failed with status " ++ toString status))
      else if s.own.length < status.toNat then
        .error (.missingResults status.toNat s.own.length)
      else .ok (s.own.drop (s.own.length - status.toNat))

/-- The caller after a call: its list is its own still, only the heap comes from the callee. -/
def resume (callee : SplitHost) : SplitHost := { s with pending := none, heap := callee.heap }

/-- A call of a value; `run` says what the function at an address does. -/
def call [Monad m] (run : Address → SplitHost → m (Int × SplitHost)) (function : Value)
    (args : List Value) : m (Except HostError (List Value) × SplitHost) :=
  match function with
  | .function entry =>
      if s.fits args.length then do
        let (status, callee) ← run entry (s.enter args)
        pure (callee.outcome status, s.resume callee)
      else pure (.error (.stackOverflow s.limit), s)
  | other => pure (.error (.notCallable other.kind), s)

end SplitHost

namespace CallTree

/-- A run on a host, where all activations share one stack. -/
def run : CallTree → Host → Traced (Int × Host)
  | finish status, h => pure (status, h)
  | operate operation next, h => do
      let (reply, h) := h.perform operation
      record (.answered reply h.frame)
      (next reply).run h
  | call function args callee next, h => do
      let (outcome, h) ← h.call (fun entry inner => do
        record (.entered inner.frame)
        (callee entry).run inner) function args
      record (.returned outcome h.frame)
      (next outcome).run h

/-- A run on a host with a list for each activation. -/
def runSplit : CallTree → SplitHost → Traced (Int × SplitHost)
  | finish status, s => pure (status, s)
  | operate operation next, s => do
      let (reply, s) := s.perform operation
      record (.answered reply s.own)
      (next reply).runSplit s
  | call function args callee next, s => do
      let (outcome, s) ← s.call (fun entry inner => do
        record (.entered inner.own)
        (callee entry).runSplit inner) function args
      record (.returned outcome s.own)
      (next outcome).runSplit s

end CallTree

/-! ## Agreement of the two runs -/

/-- A call on the shared stack runs the function between `enter` and `leave`. -/
theorem Host.call_of_enter {h inner : Host} {entry : Address} {args : List Value}
    {f : Address → Host → Traced (Int × Host)} {log : List Event}
    (henter : h.enter args = .ok inner) :
    h.call f (.function entry) args log =
      ((f entry inner log).1.2.leave h.base (f entry inner log).1.1, (f entry inner log).2) := by
  simp only [Host.call, Host.callNative, henter]
  rfl

theorem Host.call_of_no_enter {h : Host} {fault : HostError} {entry : Address}
    {args : List Value} {f : Address → Host → Traced (Int × Host)} {log : List Event}
    (henter : h.enter args = .error fault) :
    h.call f (.function entry) args log = ((.error fault, h), log) := by
  simp only [Host.call, Host.callNative, henter]
  rfl

namespace SplitHost

theorem keeps_perform (s : SplitHost) (operation : StackOperation) :
    (s.perform operation).2.waiting = s.waiting ∧ (s.perform operation).2.limit = s.limit := by
  cases operation with
  | setTop index =>
    simp only [perform, setTop]
    split <;> exact ⟨rfl, rfl⟩
  | replace index =>
    simp only [perform, replace]
    split <;> exact ⟨rfl, rfl⟩
  | toText index =>
    simp only [perform, toText]
    split <;> exact ⟨rfl, rfl⟩
  | getField index key =>
    simp only [perform, getField]
    split <;> exact ⟨rfl, rfl⟩
  | setField index key =>
    simp only [perform, setField]
    split
    · split <;> exact ⟨rfl, rfl⟩
    · exact ⟨rfl, rfl⟩
  | _ => exact ⟨rfl, rfl⟩

/-- The called function finds the arguments on a new frame on top of the stack. -/
theorem enter_join (s : SplitHost) (args : List Value) :
    s.join.enter args =
      if s.fits args.length then .ok (s.enter args).join
      else .error (.stackOverflow s.limit) := by
  unfold Host.enter
  rw [fits_join]
  by_cases hfits : s.fits args.length = true
  · rw [if_pos hfits, if_pos hfits]
    simp [join, enter, below]
  · rw [if_neg hfits, if_neg hfits]
    rfl

/-- A call for whose arguments there is room runs the function. -/
theorem call_of_fits {s : SplitHost} (g : Address → SplitHost → Traced (Int × SplitHost))
    (entry : Address) {args : List Value} (hfits : s.fits args.length = true) (log : List Event) :
    s.call g (.function entry) args log =
      (((g entry (s.enter args) log).1.2.outcome (g entry (s.enter args) log).1.1,
        s.resume (g entry (s.enter args) log).1.2), (g entry (s.enter args) log).2) := by
  simp only [call, if_pos hfits]
  rfl

/-- A call for whose arguments there is no room changes nothing. -/
theorem call_of_not_fits {s : SplitHost} (g : Address → SplitHost → Traced (Int × SplitHost))
    (entry : Address) {args : List Value} (hfits : ¬ s.fits args.length = true)
    (log : List Event) :
    s.call g (.function entry) args log = ((.error (.stackOverflow s.limit), s), log) := by
  simp only [call, if_neg hfits]
  rfl

theorem outcome_join (s : SplitHost) (status : Int) : s.join.outcome status = s.outcome status := by
  unfold Host.outcome outcome
  have hpending : s.join.pending = s.pending := rfl
  rw [hpending, top_join, toList_stack_join, size_stack_join]
  cases s.pending with
  | some message => rfl
  | none =>
    by_cases hneg : status < 0
    · simp only [if_pos hneg]
    · simp only [if_neg hneg]
      by_cases hmissing : s.own.length < status.toNat
      · simp only [if_pos hmissing]
      · simp only [if_neg hmissing]
        -- Results are counted from the top, and there are enough of them above the frame's begin.
        have hplace : s.below.length + s.own.length - status.toNat =
            s.below.length + (s.own.length - status.toNat) := by omega
        rw [hplace, List.drop_append, List.drop_of_length_le (by omega), List.nil_append,
          Nat.add_sub_cancel_left]

/-- When the called function returns, the stack is cut back to what the caller had. -/
theorem leave_join {s callee : SplitHost} (hwaiting : callee.waiting = s.own :: s.waiting)
    (hlimit : callee.limit = s.limit) (status : Int) :
    callee.join.leave s.join.base status = (callee.outcome status, (s.resume callee).join) := by
  -- Under the callee's frame lie the lists of all that wait, the caller's on top.
  have hbelow : callee.below = s.below ++ s.own := by simp [below, hwaiting]
  have hcut : callee.join.stack.take callee.join.base = (s.below ++ s.own).toArray := by
    simp only [join, hbelow, List.take_toArray, List.take_left']
  have hrest : callee.join.limit = s.limit := hlimit
  unfold Host.leave
  rw [outcome_join, hcut, hrest]
  rfl

end SplitHost

/-- A computation on the shared stack does what one on separate lists does, and the latter leaves
the activations that wait as they are. -/
structure Simulates (f : Host → Traced (α × Host)) (g : SplitHost → Traced (α × SplitHost)) :
    Prop where
  join : ∀ s log, f s.join log = (((g s log).1.1, (g s log).1.2.join), (g s log).2)
  waiting : ∀ s log, (g s log).1.2.waiting = s.waiting
  limit : ∀ s log, (g s log).1.2.limit = s.limit

namespace Simulates

variable {f : Host → Traced (α × Host)} {g : SplitHost → Traced (α × SplitHost)}

/-- The entry for the frame that an activation finds may be written first. -/
theorem entered (hfg : Simulates f g) :
    Simulates (fun h => do record (.entered h.frame); f h)
      (fun s => do record (.entered s.own); g s) where
  join s log := by
    show f s.join (log ++ [.entered s.join.frame]) = _
    rw [SplitHost.frame_join]
    exact hfg.join s _
  waiting s log := hfg.waiting s _
  limit s log := hfg.limit s _

/-- An operation may be done first and its answer be used. -/
theorem operate {f : Reply → Host → Traced (α × Host)}
    {g : Reply → SplitHost → Traced (α × SplitHost)} (operation : StackOperation)
    (hnext : ∀ reply, Simulates (f reply) (g reply)) :
    Simulates
      (fun h => do
        let (reply, h) := h.perform operation
        record (.answered reply h.frame)
        f reply h)
      (fun s => do
        let (reply, s) := s.perform operation
        record (.answered reply s.own)
        g reply s) where
  join s log := by
    show f (s.join.perform operation).1 (s.join.perform operation).2
      (log ++ [.answered (s.join.perform operation).1 (s.join.perform operation).2.frame]) = _
    rw [SplitHost.perform_join]
    simp only [SplitHost.frame_join]
    exact (hnext _).join (s.perform operation).2 _
  waiting s log := ((hnext _).waiting (s.perform operation).2 _).trans (s.keeps_perform operation).1
  limit s log := ((hnext _).limit (s.perform operation).2 _).trans (s.keeps_perform operation).2

/-- A call of functions that do the same does the same: the caller's list comes back. -/
theorem call {f : Address → Host → Traced (Int × Host)}
    {g : Address → SplitHost → Traced (Int × SplitHost)}
    (hcallee : ∀ entry, Simulates (f entry) (g entry)) (function : Value) (args : List Value) :
    Simulates (fun h => h.call f function args) (fun s => s.call g function args) where
  join s log := by
    cases function with
    | function entry =>
      have henter := s.enter_join args
      -- Without room for the arguments the function does not run, and nothing changes.
      by_cases hfits : s.fits args.length = true
      · rw [if_pos hfits] at henter
        have hrun := (hcallee entry).join (s.enter args) log
        have hwaiting := (hcallee entry).waiting (s.enter args) log
        have hlimit := (hcallee entry).limit (s.enter args) log
        rw [Host.call_of_enter henter, SplitHost.call_of_fits g entry hfits, hrun,
          SplitHost.leave_join hwaiting hlimit]
      · rw [if_neg hfits] at henter
        rw [Host.call_of_no_enter henter, SplitHost.call_of_not_fits g entry hfits]
    | _ => rfl
  waiting s log := by
    cases function with
    | function entry =>
      by_cases hfits : s.fits args.length = true
      · rw [SplitHost.call_of_fits g entry hfits]
        rfl
      · rw [SplitHost.call_of_not_fits g entry hfits]
    | _ => rfl
  limit s log := by
    cases function with
    | function entry =>
      by_cases hfits : s.fits args.length = true
      · rw [SplitHost.call_of_fits g entry hfits]
        rfl
      · rw [SplitHost.call_of_not_fits g entry hfits]
    | _ => rfl

/-- What follows a call may use its outcome. -/
theorem returned {f : Host → Traced (Except HostError (List Value) × Host)}
    {g : SplitHost → Traced (Except HostError (List Value) × SplitHost)}
    {k : Except HostError (List Value) → Host → Traced (α × Host)}
    {k' : Except HostError (List Value) → SplitHost → Traced (α × SplitHost)}
    (hcall : Simulates f g) (hnext : ∀ outcome, Simulates (k outcome) (k' outcome)) :
    Simulates
      (fun h => do
        let (outcome, h) ← f h
        record (.returned outcome h.frame)
        k outcome h)
      (fun s => do
        let (outcome, s) ← g s
        record (.returned outcome s.own)
        k' outcome s) where
  join s log := by
    show k (f s.join log).1.1 (f s.join log).1.2
      ((f s.join log).2 ++ [.returned (f s.join log).1.1 (f s.join log).1.2.frame]) = _
    rw [hcall.join]
    simp only [SplitHost.frame_join]
    exact (hnext _).join (g s log).1.2 _
  waiting s log := ((hnext _).waiting (g s log).1.2 _).trans (hcall.waiting s log)
  limit s log := ((hnext _).limit (g s log).1.2 _).trans (hcall.limit s log)

end Simulates

/-- Every tree does the same on the shared stack and on separate lists. -/
theorem CallTree.simulates (tree : CallTree) : Simulates tree.run tree.runSplit := by
  -- A call has subtrees for what follows it and for what the callee does at each address.
  induction tree with
  | finish status => exact ⟨fun _ _ => rfl, fun _ _ => rfl, fun _ _ => rfl⟩
  | operate operation next ih => exact .operate operation ih
  | call function args callee next ihCallee ihNext =>
    exact .returned (.call (fun entry => (ihCallee entry).entered) function args) ihNext

/-! ## What a caller relies on -/

/-- A call leaves the caller's list as it was. -/
theorem SplitHost.own_call (s : SplitHost) (g : Address → SplitHost → Traced (Int × SplitHost))
    (function : Value) (args : List Value) (log : List Event) :
    (s.call g function args log).1.2.own = s.own := by
  cases function with
  | function entry =>
    by_cases hfits : s.fits args.length = true
    · rw [call_of_fits g entry hfits]
      rfl
    · rw [call_of_not_fits g entry hfits]
  | _ => rfl

/-- Only a status that is no failure, with as many values in the list, gives results. -/
theorem SplitHost.outcome_eq_ok {s : SplitHost} {status : Int} {values : List Value}
    (h : s.outcome status = .ok values) :
    s.pending = none ∧ 0 ≤ status ∧ status.toNat ≤ s.own.length ∧
      values = s.own.drop (s.own.length - status.toNat) := by
  unfold outcome at h
  cases hpending : s.pending with
  | some message =>
    rw [hpending] at h
    cases h
  | none =>
    rw [hpending] at h
    by_cases hneg : status < 0
    · simp [hneg] at h
    · by_cases hmissing : s.own.length < status.toNat
      · simp [hneg, hmissing] at h
      · simp only [if_neg hneg, if_neg hmissing, Except.ok.injEq] at h
        exact ⟨rfl, by omega, by omega, h.symm⟩

/-- The frame of a host begins on its stack. -/
def Host.WellFramed (h : Host) : Prop := h.base ≤ h.stack.size

theorem SplitHost.wellFramed_join (s : SplitHost) : s.join.WellFramed := by
  show s.join.base ≤ s.join.stack.size
  rw [size_stack_join]
  exact Nat.le_add_right _ _

/-- What it is for a host to keep activations apart. -/
structure Host.KeepsApart (h : Host) : Prop where
  /-- An operation answers, and changes the frame, as if the frame were a list of its own. -/
  perform_eq : ∀ operation, (h.perform operation).1 = (h.split.perform operation).1 ∧
    (h.perform operation).2.frame = (h.split.perform operation).2.own
  /-- So does a whole tree, in every activation: the history, the status, and the host left. -/
  run_eq : ∀ (tree : CallTree) log, tree.run h log =
    (((tree.runSplit h.split log).1.1, (tree.runSplit h.split log).1.2.join),
      (tree.runSplit h.split log).2)
  /-- The frame left is the activation's list. -/
  frame_run : ∀ (tree : CallTree) log,
    (tree.run h log).1.2.frame = (tree.runSplit h.split log).1.2.own
  /-- The frame of the host left begins on its stack again. -/
  wellFramed_run : ∀ (tree : CallTree) log, (tree.run h log).1.2.WellFramed
  /-- A called function starts with its arguments, and its frame begins on the stack. -/
  enter_eq : ∀ args inner, h.enter args = .ok inner → inner.frame = args ∧ inner.WellFramed
  /-- Every call gives the caller its frame back, whatever the outcome. -/
  call_keeps : ∀ (callee : Address → CallTree) function args log,
    (h.call (fun entry => (callee entry).run) function args log).1.2.stack = h.stack ∧
      (h.call (fun entry => (callee entry).run) function args log).1.2.base = h.base
  /-- The results of a call are the last values of the frame that the called function left. -/
  call_ok : ∀ (callee : Address → CallTree) function args log values,
    (h.call (fun entry => (callee entry).run) function args log).1.1 = .ok values →
      ∃ entry inner status after, function = .function entry ∧ h.enter args = .ok inner ∧
        ((callee entry).run inner log).1 = (status, after) ∧
        0 ≤ status ∧ status.toNat ≤ after.frame.length ∧
        values = after.frame.drop (after.frame.length - status.toNat)

section

variable {h : Host} (hframed : h.WellFramed)

include hframed

theorem Host.perform_split (operation : StackOperation) :
    h.perform operation =
      ((h.split.perform operation).1, (h.split.perform operation).2.join) := by
  have hperform := h.split.perform_join operation
  rw [h.join_split hframed] at hperform
  exact hperform

theorem CallTree.run_split (tree : CallTree) (log : List Event) :
    tree.run h log =
      (((tree.runSplit h.split log).1.1, (tree.runSplit h.split log).1.2.join),
        (tree.runSplit h.split log).2) := by
  have hrun := tree.simulates.join h.split log
  rw [h.join_split hframed] at hrun
  exact hrun

theorem Host.enter_split (args : List Value) :
    h.enter args =
      if h.split.fits args.length then .ok (h.split.enter args).join
      else .error (.stackOverflow h.split.limit) := by
  have henter := h.split.enter_join args
  rw [h.join_split hframed] at henter
  exact henter

theorem Host.call_split (callee : Address → CallTree) (function : Value) (args : List Value)
    (log : List Event) :
    h.call (fun entry => (callee entry).run) function args log =
      (((h.split.call (fun entry => (callee entry).runSplit) function args log).1.1,
        (h.split.call (fun entry => (callee entry).runSplit) function args log).1.2.join),
        (h.split.call (fun entry => (callee entry).runSplit) function args log).2) := by
  have hcall := (Simulates.call (fun entry => (callee entry).simulates) function args).join
    h.split log
  rw [h.join_split hframed] at hcall
  exact hcall

/-- The stack under and in the caller's frame is what it was. -/
theorem Host.call_keeps_stack (callee : Address → CallTree) (function : Value)
    (args : List Value) (log : List Event) :
    (h.call (fun entry => (callee entry).run) function args log).1.2.stack = h.stack ∧
      (h.call (fun entry => (callee entry).run) function args log).1.2.base = h.base := by
  -- On separate lists only the callee's own list goes, so all that makes up the stack is kept.
  let g := fun entry : Address => (callee entry).runSplit
  have hown := h.split.own_call g function args log
  have hwaiting := (Simulates.call (fun entry => (callee entry).simulates) function args).waiting
    h.split log
  have hbelow : (h.split.call g function args log).1.2.below = h.split.below := by
    unfold SplitHost.below
    rw [hwaiting]
  rw [Host.call_split hframed]
  have hstack : (h.split.call g function args log).1.2.join.stack = h.split.join.stack := by
    show (_ ++ _ : List Value).toArray = (_ ++ _ : List Value).toArray
    rw [hbelow, hown]
  have hbase : (h.split.call g function args log).1.2.join.base = h.split.join.base := by
    show List.length _ = List.length _
    rw [hbelow]
  rw [h.join_split hframed] at hstack hbase
  exact ⟨hstack, hbase⟩

/-- Results come from the end of the frame that the called function left. -/
theorem Host.call_results (callee : Address → CallTree) (function : Value) (args : List Value)
    (log : List Event) (values : List Value)
    (hok : (h.call (fun entry => (callee entry).run) function args log).1.1 = .ok values) :
    ∃ entry inner status after, function = .function entry ∧ h.enter args = .ok inner ∧
      ((callee entry).run inner log).1 = (status, after) ∧
      0 ≤ status ∧ status.toNat ≤ after.frame.length ∧
      values = after.frame.drop (after.frame.length - status.toNat) := by
  rw [Host.call_split hframed] at hok
  cases function with
  | function entry =>
    have henter := Host.enter_split hframed args
    by_cases hfits : h.split.fits args.length = true
    · rw [if_pos hfits] at henter
      rw [SplitHost.call_of_fits _ entry hfits] at hok
      obtain ⟨-, hstatus, hcount, hvalues⟩ := SplitHost.outcome_eq_ok hok
      have hrun := (callee entry).simulates.join (h.split.enter args) log
      refine ⟨entry, _, _, _, rfl, henter, congrArg Prod.fst hrun, hstatus, ?_, ?_⟩
      · rw [SplitHost.frame_join]
        exact hcount
      · rw [SplitHost.frame_join]
        exact hvalues
    · rw [SplitHost.call_of_not_fits _ entry hfits] at hok
      cases hok
  | _ => cases hok

end

/-- Activations are kept apart on a new host and on every host whose frame begins on its stack,
which operations, calls and whole runs preserve. -/
theorem Host.frames_isolated :
    (∀ limit, (Host.new limit).WellFramed) ∧ ∀ h : Host, h.WellFramed → h.KeepsApart := by
  refine ⟨fun limit => Nat.le_refl 0, fun h hframed => ?_⟩
  refine
    { perform_eq := ?_, run_eq := CallTree.run_split hframed, frame_run := ?_
      wellFramed_run := ?_, enter_eq := ?_, call_keeps := Host.call_keeps_stack hframed
      call_ok := Host.call_results hframed }
  · intro operation
    rw [Host.perform_split hframed]
    exact ⟨rfl, SplitHost.frame_join _⟩
  · intro tree log
    rw [CallTree.run_split hframed]
    exact SplitHost.frame_join _
  · intro tree log
    rw [CallTree.run_split hframed]
    exact SplitHost.wellFramed_join _
  · intro args inner henter
    rw [Host.enter_split hframed] at henter
    by_cases hfits : h.split.fits args.length = true
    · rw [if_pos hfits] at henter
      cases henter
      exact ⟨SplitHost.frame_join _, SplitHost.wellFramed_join _⟩
    · rw [if_neg hfits] at henter
      cases henter

/-- A function that pops more than it was given, moves what is left and fails. -/
def CallTree.greedy : CallTree :=
  .operate .pop fun _ => .operate .pop fun _ => .operate (.setTop (-5)) fun _ =>
    .operate (.push .nil) fun _ => .operate (.replace (-2)) fun _ => .finish (-1)

/-- The call of a greedy function on a host with two frames: the caller's values stay. -/
theorem Host.frames_isolated_greedy :
    let h : Host := ⟨#[.boolean true, .boolean false], 1, 8, none, .empty⟩
    h.WellFramed ∧
      (h.call (fun _ => CallTree.greedy.run) (.function .null) [.nil] []).1.2.frame =
        [.boolean false] := by
  intro h
  have hframed : h.WellFramed := by
    show 1 ≤ 2
    decide
  obtain ⟨hstack, hbase⟩ :=
    (Host.frames_isolated.2 h hframed).call_keeps (fun _ => CallTree.greedy) (.function .null)
      [.nil] []
  refine ⟨hframed, ?_⟩
  rw [Host.frame, hstack, hbase]
  rfl

end JitHost
