import JitHost.Proofs.Host.Attribution

/-!
# No message is lost or reported twice

`CallTree.journal` lists what bears on the message to be reported in a whole run, at every depth and
in the order of time: messages that are raised, calls that return after their functions have run, and
calls that are refused. Its outcomes are those of the run's history (`outcomes_run`).

Each entry finds what the one before it left (`Settled`), so a message that is kept waits until the
next call returns, and what a call takes was kept after the call before it returned. Over a whole run
the messages kept are the messages reported, in the same order, and at most one that still waits
(`Settled.conserved`). `messages_accounted` says this of every host and every run, and which calls
are refused.
-/

namespace JitHost

/-! ## One call -/

namespace Host

/-- The outcome of a function that ran and left a host: a message that waits comes before a status
that means failure, and such a status before missing results. -/
inductive Verdict (left : Host) (status : Int) : Except HostError (List Value) → Prop where
  | reported {message : String} (hpending : left.pending = some message) :
      Verdict left status (.error (.raised message))
  | failed (hpending : left.pending = none) (hstatus : status < 0) :
      Verdict left status
        (.error (.raised ("native function failed with status " ++ toString status)))
  | missing (hpending : left.pending = none) (hstatus : 0 ≤ status)
      (hfew : left.top < status.toNat) :
      Verdict left status (.error (.missingResults status.toNat left.top))
  | ended (hpending : left.pending = none) (hstatus : 0 ≤ status)
      (hresults : status.toNat ≤ left.top) :
      Verdict left status (.ok (left.stack.toList.drop (left.stack.size - status.toNat)))

theorem verdict_outcome (left : Host) (status : Int) :
    left.Verdict status (left.outcome status) := by
  unfold outcome
  cases hpending : left.pending with
  | some message => exact .reported hpending
  | none =>
    by_cases hstatus : status < 0
    · simp only [if_pos hstatus]
      exact .failed hpending hstatus
    · simp only [if_neg hstatus]
      by_cases hfew : left.top < status.toNat
      · rw [if_pos hfew]
        exact .missing hpending (Int.not_lt.1 hstatus) hfew
      · rw [if_neg hfew]
        exact .ended hpending (Int.not_lt.1 hstatus) (Nat.not_lt.1 hfew)

/-- Why a call does not run a function: the value is none, or its arguments do not fit. -/
inductive Refuses (h : Host) (function : Value) (args : List Value) : HostError → Prop where
  | notCallable (hother : ∀ entry, function ≠ .function entry) :
      Refuses h function args (.notCallable function.kind)
  | stackOverflow {entry : Address} (hfunction : function = .function entry)
      (hfull : h.fits args.length = false) : Refuses h function args (.stackOverflow h.limit)

variable {h inner : Host} {callee : Address → CallTree} {function : Value} {entry : Address}
  {args : List Value} {fault : HostError}

/-- A call that is refused runs nothing, whatever its function would do, and changes nothing. -/
theorem Refuses.call_eq (hrefuses : h.Refuses function args fault) {m : Type → Type} [Monad m]
    (run : Address → Host → m (Int × Host)) :
    h.call run function args = pure (.error fault, h) := by
  cases hrefuses with
  | notCallable hother =>
    cases function with
    | function entry => exact absurd rfl (hother entry)
    | _ => rfl
  | stackOverflow hfunction hfull =>
    subst hfunction
    simp only [call, callNative, enter, hfull, Bool.false_eq_true, if_false]

theorem Refuses.called_eq (hrefuses : h.Refuses function args fault) :
    h.called callee function args = (.error fault, h) := by
  rw [called, hrefuses.call_eq]
  rfl

theorem called_of_enter (henter : h.enter args = .ok inner) :
    h.called callee (.function entry) args =
      ((callee entry).ended inner).2.leave h.base ((callee entry).ended inner).1 := by
  rw [called, call_of_enter henter]
  rfl

/-- A call runs its function or is refused. -/
theorem entered_or_refused (h : Host) (function : Value) (args : List Value) :
    (∃ entry inner, function = .function entry ∧ h.enter args = .ok inner) ∨
      ∃ fault, h.Refuses function args fault := by
  cases function with
  | function entry =>
    cases hfits : h.fits args.length with
    | true => exact .inl ⟨entry, _, rfl, if_pos hfits⟩
    | false => exact .inr ⟨_, .stackOverflow rfl hfits⟩
  | _ => exact .inr ⟨_, .notCallable fun _ hfunction => nomatch hfunction⟩

end Host

/-- The errors of calls that are refused. -/
def HostError.isRefusal : HostError → Bool
  | notCallable _ | stackOverflow _ => true
  | _ => false

/-- A function that ran does not end with such an error. -/
theorem Host.Verdict.not_refusal {left : Host} {status : Int} {fault : HostError}
    (h : left.Verdict status (.error fault)) : fault.isRefusal = false := by
  cases h <;> rfl

/-- The errors of refusal are those of calls that are refused. -/
theorem Host.called_eq_refusal_iff {h : Host} {callee : Address → CallTree} {function : Value}
    {args : List Value} {fault : HostError} (hfault : fault.isRefusal = true) :
    (h.called callee function args).1 = .error fault ↔ h.Refuses function args fault := by
  constructor
  · intro hcalled
    rcases h.entered_or_refused function args with ⟨entry, inner, rfl, henter⟩ | ⟨other, hother⟩
    · rw [Host.called_of_enter henter] at hcalled
      have houtcome : ((callee entry).ended inner).2.outcome ((callee entry).ended inner).1 =
          .error fault := hcalled
      have hverdict := ((callee entry).ended inner).2.verdict_outcome ((callee entry).ended inner).1
      rw [houtcome] at hverdict
      rw [hverdict.not_refusal] at hfault
      cases hfault
    · rw [hother.called_eq] at hcalled
      cases hcalled
      exact hother
  · intro hrefuses
    rw [hrefuses.called_eq]

/-! ## Journals -/

/-- What bears on the message to be reported, with the hosts before and after it: a message is
raised, a call returns after its function ran and left a host, or a call is refused. -/
inductive Incident where
  | raised (before : Host) (message : String) (after : Host)
  | returned (left : Host) (status : Int) (outcome : Except HostError (List Value)) (after : Host)
  | refused (before : Host) (outcome : Except HostError (List Value)) (after : Host)

namespace Incident

/-- The message that waits before an incident. -/
def found? : Incident → Option String
  | raised host _ _ | returned host _ _ _ | refused host _ _ => host.pending

/-- The message that waits after an incident. -/
def left? : Incident → Option String
  | raised _ _ host | returned _ _ _ host | refused _ _ host => host.pending

/-- The message that begins to wait: one that is raised while none waits. -/
def kept? : Incident → Option String
  | raised before message _ => if before.pending = none then some message else none
  | _ => none

/-- The message that a returning call takes. -/
def taken? : Incident → Option String
  | returned left _ _ _ => left.pending
  | _ => none

/-- Whether a call returns after its function ran. -/
def isReturn : Incident → Bool
  | returned _ _ _ _ => true
  | _ => false

/-- The outcome of a call. -/
def outcome? : Incident → Option (Except HostError (List Value))
  | raised _ _ _ => none
  | returned _ _ outcome _ | refused _ outcome _ => some outcome

/-- What an incident does with the message that waits. -/
inductive Settles : Incident → Prop where
  | raised {before after : Host} {message : String}
      (hafter : after.pending = (before.pending <|> some message)) :
      Settles (.raised before message after)
  | returned {left after : Host} {status : Int} {outcome : Except HostError (List Value)}
      (hverdict : left.Verdict status outcome) (hafter : after.pending = none) :
      Settles (.returned left status outcome after)
  | refused {host : Host} {function : Value} {args : List Value} {fault : HostError}
      (hrefuses : host.Refuses function args fault) :
      Settles (.refused host (.error fault) host)

end Incident

/-- The outcome that an entry of a history tells. -/
def Event.outcome? : Event → Option (Except HostError (List Value))
  | returned outcome _ => some outcome
  | _ => none

/-- The incidents of a call: those of the function, as `journal` has them, and then the return of the
call, or its refusal. -/
def Host.callIncidents (h : Host) (callee : Address → CallTree)
    (journal : Address → Host → List Incident) (function : Value) (args : List Value) :
    List Incident :=
  let (outcome, after) := h.called callee function args
  match function, h.enter args with
  | .function entry, .ok inner =>
      let (status, left) := (callee entry).ended inner
      journal entry inner ++ [.returned left status outcome after]
  | _, _ => [.refused h outcome after]

section

variable {h inner : Host} {callee : Address → CallTree} {function : Value} {entry : Address}
  {args : List Value} {journal : Address → Host → List Incident} {fault : HostError}

theorem Host.callIncidents_of_enter (henter : h.enter args = .ok inner) :
    h.callIncidents callee journal (.function entry) args =
      journal entry inner ++
        [.returned ((callee entry).ended inner).2 ((callee entry).ended inner).1
          (h.called callee (.function entry) args).1
          (h.called callee (.function entry) args).2] := by
  simp only [callIncidents, henter]

theorem Host.callIncidents_of_refuses (hrefuses : h.Refuses function args fault) :
    h.callIncidents callee journal function args = [.refused h (.error fault) h] := by
  have hcalled : h.called callee function args = (.error fault, h) := hrefuses.called_eq
  cases hrefuses with
  | notCallable hother =>
    cases function with
    | function entry => exact absurd rfl (hother entry)
    | _ => rfl
  | stackOverflow hfunction hfull =>
    subst hfunction
    have henter : h.enter args = .error (.stackOverflow h.limit) := if_neg (by simp [hfull])
    simp only [callIncidents, hcalled, henter]

end

namespace CallTree

/-- The incidents of a run in the order of time, those of called functions included. -/
def journal : CallTree → Host → List Incident
  | finish _, _ => []
  | operate operation next, h =>
      ((h.recorded? operation).map fun message =>
          Incident.raised h message (h.perform operation).2).toList ++
        (next (h.perform operation).1).journal (h.perform operation).2
  | call function args callee next, h =>
      h.callIncidents callee (fun entry inner => (callee entry).journal inner) function args ++
        (next (h.called callee function args).1).journal (h.called callee function args).2

/-- The outcomes in a journal are those that the history of the run tells. -/
theorem outcomes_run (tree : CallTree) (h : Host) (log : List Event) :
    (tree.run h log).2.filterMap Event.outcome? =
      log.filterMap Event.outcome? ++ (tree.journal h).filterMap Incident.outcome? := by
  induction tree generalizing h log with
  | finish status => exact (List.append_nil _).symm
  | operate operation next ih =>
    have hraised : ((h.recorded? operation).map fun message => Incident.raised h message
        (h.perform operation).2).toList.filterMap Incident.outcome? = [] := by
      cases h.recorded? operation <;> rfl
    rw [run_operate, ih, journal, List.filterMap_append, List.filterMap_append, hraised]
    simp [Event.outcome?]
  | call function args callee next ihCallee ihNext =>
    have hcallee : ∀ entry inner, (calleeRun callee entry inner log).1 =
        ((callee entry).run inner []).1 := fun entry inner => run_fst_congr _ _ _ _
    have hcalled : (h.call (calleeRun callee) function args log).1 =
        h.called callee function args := Host.call_fst_congr hcallee h function args
    rw [run_call, ihNext, hcalled, List.filterMap_append]
    rcases h.entered_or_refused function args with ⟨entry, inner, rfl, henter⟩ | ⟨fault, hrefuses⟩
    · have hlog : (h.call (calleeRun callee) (.function entry) args log).2 =
          ((callee entry).run inner (log ++ [.entered inner.frame])).2 := by
        rw [Host.call_of_enter henter]
        rfl
      rw [hlog, ihCallee, journal, Host.callIncidents_of_enter henter]
      simp [Event.outcome?, Incident.outcome?]
    · have hlog : (h.call (calleeRun callee) function args log).2 = log := by
        rw [hrefuses.call_eq]
        rfl
      rw [hlog, journal, Host.callIncidents_of_refuses hrefuses, hrefuses.called_eq]
      simp [Event.outcome?, Incident.outcome?]

end CallTree

/-! ## What waits from one incident to the next -/

/-- Incidents that follow one another: each finds waiting what the one before it left. -/
inductive Settled : Option String → List Incident → Option String → Prop where
  | nil {found : Option String} : Settled found [] found
  | cons {found left : Option String} {incident : Incident} {rest : List Incident}
      (hsettles : incident.Settles) (hfound : incident.found? = found)
      (hrest : Settled incident.left? rest left) : Settled found (incident :: rest) left

namespace Settled

variable {found middle left : Option String} {journal earlier since : List Incident}
  {message : String}

theorem append (h : Settled found earlier middle) (hsince : Settled middle since left) :
    Settled found (earlier ++ since) left := by
  induction h with
  | nil => exact hsince
  | cons hsettles hfound hrest ih => exact .cons hsettles hfound (ih hsince)

theorem split (h : Settled found (earlier ++ since) left) :
    ∃ middle, Settled found earlier middle ∧ Settled middle since left := by
  induction earlier generalizing found with
  | nil => exact ⟨found, .nil, h⟩
  | cons incident rest ih =>
    cases h with
    | cons hsettles hfound hrest =>
      obtain ⟨middle, hearlier, hsince⟩ := ih hrest
      exact ⟨middle, .cons hsettles hfound hearlier, hsince⟩

theorem settles_of_mem (h : Settled found journal left) {incident : Incident}
    (hmem : incident ∈ journal) : incident.Settles := by
  induction h with
  | nil => cases hmem
  | cons hsettles hfound hrest ih =>
    rcases List.mem_cons.1 hmem with rfl | hmem
    · exact hsettles
    · exact ih hmem

/-- The messages kept are, after the one found, the messages taken and the one left. -/
theorem conserved (h : Settled found journal left) :
    found.toList ++ journal.filterMap Incident.kept? =
      journal.filterMap Incident.taken? ++ left.toList := by
  induction h with
  | nil => rw [List.filterMap_nil, List.filterMap_nil, List.append_nil, List.nil_append]
  | cons hsettles hfound hrest ih =>
    subst hfound
    rw [List.filterMap_cons, List.filterMap_cons]
    cases hsettles with
    | @raised before after message hafter =>
      simp only [Incident.left?, hafter] at ih
      cases hpending : before.pending with
      | none => simpa [Incident.found?, Incident.kept?, Incident.taken?, hpending] using ih
      | some other => simpa [Incident.found?, Incident.kept?, Incident.taken?, hpending] using ih
    | @returned callee after status outcome hverdict hafter =>
      -- A return takes what waits, and behind it nothing does.
      simp only [Incident.left?, hafter] at ih
      cases hpending : callee.pending with
      | none => simpa [Incident.found?, Incident.kept?, Incident.taken?, hpending] using ih
      | some taken => simpa [Incident.found?, Incident.kept?, Incident.taken?, hpending] using ih
    | refused hrefuses => exact ih

/-- Until a call returns, a message waits. -/
theorem waits (h : Settled (some message) journal left)
    (hnone : ∀ incident ∈ journal, incident.isReturn = false) : left = some message := by
  induction journal with
  | nil =>
    cases h
    rfl
  | cons incident rest ih =>
    cases h with
    | cons hsettles hfound hrest =>
      have hwaits : incident.left? = some message := by
        cases hsettles with
        | @raised before after other hafter =>
          show after.pending = some message
          rw [hafter, show before.pending = some message from hfound]
          rfl
        | returned hverdict hafter => cases hnone _ List.mem_cons_self
        | refused hrefuses => exact hfound
      rw [hwaits] at hrest
      exact ih hrest fun other hother => hnone other (List.mem_cons_of_mem incident hother)

end Settled

/-- Where a message that waits comes from: it was raised while none waited, or it was found at the
beginning, and no call has returned since. -/
inductive ComesFrom (found : Option String) (journal : List Incident) (message : String) :
    Prop where
  | raised {earlier since : List Incident} {before after : Host}
      (heq : journal = earlier ++ .raised before message after :: since)
      (hpending : before.pending = none)
      (hsince : ∀ incident ∈ since, incident.isReturn = false)
  | found (hfound : found = some message)
      (hsince : ∀ incident ∈ journal, incident.isReturn = false)

theorem Settled.comesFrom {found left : Option String} {journal : List Incident} {message : String}
    (h : Settled found journal left) (hleft : left = some message) :
    ComesFrom found journal message := by
  induction h with
  | nil => exact .found hleft fun _ hmem => nomatch hmem
  | @cons found left incident rest hsettles hfound hrest ih =>
    cases ih hleft with
    | @raised earlier since before after heq hpending hsince =>
      have hcons : incident :: rest =
          (incident :: earlier) ++ .raised before message after :: since := by
        rw [heq]
        rfl
      exact .raised hcons hpending hsince
    | found hwaits hsince =>
      -- No call returns behind this incident, so it has left the message itself.
      cases hsettles with
      | @raised before after other hafter =>
        have hchoice : (before.pending <|> some other) = some message := hafter.symm.trans hwaits
        cases hpending : before.pending with
        | none =>
          rw [hpending] at hchoice
          cases hchoice
          exact .raised (List.nil_append _).symm hpending hsince
        | some waiting =>
          rw [hpending] at hchoice
          exact .found (hfound.symm.trans (hpending.trans hchoice))
            (List.forall_mem_cons.2 ⟨rfl, hsince⟩)
      | @returned callee after status outcome hverdict hafter =>
        cases hafter.symm.trans hwaits
      | refused hrefuses =>
        exact .found (hfound.symm.trans hwaits) (List.forall_mem_cons.2 ⟨rfl, hsince⟩)

namespace CallTree

/-- The incidents of a run follow one another, from what waits before it to what it leaves. -/
theorem settled_journal (tree : CallTree) (h : Host) :
    Settled h.pending (tree.journal h) (tree.ended h).2.pending := by
  induction tree generalizing h with
  | finish status => exact .nil
  | operate operation next ih =>
    rw [ended_operate, journal]
    refine Settled.append ?_ (ih _ _)
    have hperform := h.pending_perform operation
    cases hrecorded : h.recorded? operation with
    | none =>
      rw [hrecorded] at hperform
      have hsame : (h.perform operation).2.pending = h.pending := by
        rw [hperform]
        cases h.pending <;> rfl
      rw [hsame]
      exact .nil
    | some message =>
      rw [hrecorded] at hperform
      exact .cons (.raised hperform) rfl .nil
  | call function args callee next ihCallee ihNext =>
    rw [ended_call]
    rcases h.entered_or_refused function args with ⟨entry, inner, rfl, henter⟩ | ⟨fault, hrefuses⟩
    · rw [journal, Host.callIncidents_of_enter henter, ← Host.pending_enter henter]
      refine Settled.append (Settled.append (ihCallee entry inner) ?_) (ihNext _ _)
      rw [Host.called_of_enter henter]
      exact .cons (.returned (Host.verdict_outcome _ _) rfl) rfl .nil
    · rw [journal, Host.callIncidents_of_refuses hrefuses, hrefuses.called_eq]
      exact .cons (.refused hrefuses) rfl (ihNext _ _)

end CallTree

/-! ## The account of a run -/

/-- No message of a journal is lost or reported twice, from what waits before it to what waits
after it. -/
structure Accounted (found : Option String) (journal : List Incident) (left : Option String) :
    Prop where
  /-- The messages kept are reported in their order, after the one found and before the one left. -/
  conserved : found.toList ++ journal.filterMap Incident.kept? =
    journal.filterMap Incident.taken? ++ left.toList
  /-- A message raised while none waits is reported by the next call that returns, -/
  reported : ∀ earlier before message after between callee status outcome caller later,
    journal = earlier ++ .raised before message after ::
      (between ++ .returned callee status outcome caller :: later) →
    before.pending = none → (∀ incident ∈ between, incident.isReturn = false) →
      callee.pending = some message ∧ outcome = .error (.raised message)
  /-- or waits at the end if none returns. -/
  waiting : ∀ earlier before message after since,
    journal = earlier ++ .raised before message after :: since → before.pending = none →
      (∀ incident ∈ since, incident.isReturn = false) → left = some message
  /-- No call reports a message from before the return of an earlier one. -/
  comesFrom : ∀ earlier callee status outcome caller later,
    journal = earlier ++ .returned callee status outcome caller :: later →
      ∀ message, callee.pending = some message → ComesFrom found earlier message
  /-- A message raised while another waits is dropped. -/
  dropped : ∀ before message after, .raised before message after ∈ journal →
    ∀ other, before.pending = some other → after.pending = some other
  /-- Nothing waits when a call has returned, -/
  cleared : ∀ callee status outcome caller,
    .returned callee status outcome caller ∈ journal → caller.pending = none
  /-- and its outcome is what its function left. -/
  verdict : ∀ callee status outcome caller,
    .returned callee status outcome caller ∈ journal → callee.Verdict status outcome
  /-- Calls that are refused change nothing. -/
  refused : ∀ before outcome after, .refused before outcome after ∈ journal →
    after = before ∧ ∃ fault : HostError, outcome = .error fault ∧ fault.isRefusal = true

theorem Settled.accounted {found left : Option String} {journal : List Incident}
    (h : Settled found journal left) : Accounted found journal left where
  conserved := h.conserved
  reported := by
    rintro earlier before message after between callee status outcome caller later rfl hnone hbetween
    obtain ⟨middle, -, hraised⟩ := h.split
    cases hraised with
    | cons hsettles hfound hrest =>
      obtain ⟨waiting, hwaiting, hreturned⟩ := hrest.split
      cases hsettles with
      | raised hafter =>
        rw [hnone] at hafter
        have hleft : waiting = some message := by
          apply Settled.waits _ hbetween
          rw [← show after.pending = some message from hafter]
          exact hwaiting
        cases hreturned with
        | cons hsettles hfound hrest =>
          have hpending : callee.pending = some message := hfound.trans hleft
          refine ⟨hpending, ?_⟩
          cases hsettles with
          | returned hverdict hcleared =>
            cases hverdict with
            | reported hother =>
              cases hother.symm.trans hpending
              rfl
            | failed hother => cases hother.symm.trans hpending
            | missing hother => cases hother.symm.trans hpending
            | ended hother => cases hother.symm.trans hpending
  waiting := by
    rintro earlier before message after since rfl hnone hsince
    obtain ⟨middle, -, hraised⟩ := h.split
    cases hraised with
    | cons hsettles hfound hrest =>
      cases hsettles with
      | raised hafter =>
        rw [hnone] at hafter
        apply Settled.waits _ hsince
        rw [← show after.pending = some message from hafter]
        exact hrest
  comesFrom := by
    rintro earlier callee status outcome caller later rfl message hpending
    obtain ⟨middle, hearlier, hreturned⟩ := h.split
    cases hreturned with
    | cons hsettles hfound hrest => exact hearlier.comesFrom (hfound.symm.trans hpending)
  dropped := by
    intro before message after hmem other hpending
    cases h.settles_of_mem hmem with
    | raised hafter =>
      rw [hafter, hpending]
      rfl
  cleared := by
    intro callee status outcome caller hmem
    cases h.settles_of_mem hmem with
    | returned hverdict hafter => exact hafter
  verdict := by
    intro callee status outcome caller hmem
    cases h.settles_of_mem hmem with
    | returned hverdict hafter => exact hverdict
  refused := by
    intro before outcome after hmem
    cases h.settles_of_mem hmem with
    | refused hrefuses => exact ⟨rfl, _, rfl, by cases hrefuses <;> rfl⟩

/-- How a host deals with messages, in runs and in single calls. -/
structure Host.AccountsForMessages (h : Host) : Prop where
  /-- The journal of every run leads from the message that waits before it to the one that the run
  leaves, and loses none. -/
  run : ∀ tree : CallTree, Accounted h.pending (tree.journal h) (tree.ended h).2.pending
  /-- A journal tells the outcomes of all calls that the history of the run tells. -/
  outcomes : ∀ (tree : CallTree) log, (tree.run h log).2.filterMap Event.outcome? =
    log.filterMap Event.outcome? ++ (tree.journal h).filterMap Incident.outcome?
  /-- Nothing waits after a call that ran its function. -/
  cleared : ∀ callee function args, h.runs function args = true →
    (h.called callee function args).2.pending = none
  /-- A call ends as one that is refused if it is refused, -/
  refuses_iff : ∀ callee function args fault, HostError.isRefusal fault = true →
    ((h.called callee function args).1 = .error fault ↔ h.Refuses function args fault)
  /-- and then runs nothing, whatever its function would do, and changes nothing. -/
  refused : ∀ function args fault, h.Refuses function args fault →
    ∀ (m : Type → Type) [Monad m] (run : Address → Host → m (Int × Host)),
      h.call run function args = pure (.error fault, h)
  /-- A call of a function overflows the stack exactly if its arguments do not fit. -/
  stackOverflow_iff : ∀ callee entry args,
    (h.called callee (.function entry) args).1 = .error (.stackOverflow h.limit) ↔
      h.fits args.length = false

/-- Every host accounts for its messages. -/
theorem Host.messages_accounted (h : Host) : h.AccountsForMessages where
  run := fun tree => (tree.settled_journal h).accounted
  outcomes := fun tree log => tree.outcomes_run h log
  cleared := fun callee function args hruns => by rw [Host.pending_called, if_pos hruns]
  refuses_iff := fun callee function args fault hfault => Host.called_eq_refusal_iff hfault
  refused := fun function args fault hrefuses m _ run => hrefuses.call_eq run
  stackOverflow_iff := fun callee entry args => by
    rw [Host.called_eq_refusal_iff rfl]
    constructor
    · intro hrefuses
      cases hrefuses with
      | stackOverflow hfunction hfull => exact hfull
    · exact fun hfull => .stackOverflow rfl hfull

end JitHost
