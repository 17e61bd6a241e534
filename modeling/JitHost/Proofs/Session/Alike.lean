import JitHost.Proofs.Session.Lifecycle

/-!
# Sessions that cannot be told apart

What a session answers is decided by its engine, its code and its state. Sessions that agree on these
(`Alike`) may have come about by different requests, but they give the same responses to whatever is
asked of them from then on (`Alike.responses_eq`).
-/

namespace JitHost

namespace Session

/-- Two sessions hold the same and are in the same state. -/
structure Alike (s t : Session σ) : Prop where
  engine : s.engine? = t.engine?
  code : s.code? = t.code?
  state : s.state = t.state

variable [Engine σ] {s t s' : Session σ}

/-- What one session may do, another one that is alike may do as well. -/
theorem Row.alike {request : SessionRequest} {response : SessionResponse}
    (h : Row s request response s') (halike : Alike s t) :
    ∃ t', Row t request response t' ∧ Alike s' t' := by
  obtain ⟨engine?, code?, state, calls⟩ := s
  obtain ⟨engine?', code?', state', calls'⟩ := t
  obtain ⟨hengine, hcode, hstate⟩ := halike
  -- The two differ at most in the calls that were made, on which no row depends.
  cases hengine
  cases hcode
  cases hstate
  cases h with
  | refused hoperation hrefused => exact ⟨_, .refused hoperation hrefused, rfl, rfl, rfl⟩
  | allowed hallowed => exact ⟨_, .allowed hallowed, rfl, rfl, rfl⟩
  | compiled hallowed hengine hquiet =>
    exact ⟨_, .compiled hallowed hengine hquiet, rfl, rfl, rfl⟩
  | compileFailed hallowed hengine hfailed =>
    exact ⟨_, .compileFailed hallowed hengine hfailed, rfl, rfl, rfl⟩
  | relocated hallowed hengine hsteps =>
    exact ⟨_, .relocated hallowed hengine hsteps, rfl, rfl, rfl⟩
  | relocationFailed hallowed hengine hfault =>
    exact ⟨_, .relocationFailed hallowed hengine hfault, rfl, rfl, rfl⟩
  | imported hallowed hengine hnamed =>
    exact ⟨_, .imported hallowed hengine hnamed, rfl, rfl, rfl⟩
  | unnamed hallowed hengine hunnamed =>
    exact ⟨_, .unnamed hallowed hengine hunnamed, rfl, rfl, rfl⟩
  | importedApi hallowed hengine => exact ⟨_, .importedApi hallowed hengine, rfl, rfl, rfl⟩
  | exported hallowed hengine hfound =>
    exact ⟨_, .exported hallowed hengine hfound, rfl, rfl, rfl⟩
  | exportStopped hallowed hengine hfound hmissing =>
    exact ⟨_, .exportStopped hallowed hengine hfound hmissing, rfl, rfl, rfl⟩
  | found hallowed hengine hfound => exact ⟨_, .found hallowed hengine hfound, rfl, rfl, rfl⟩
  | missing hallowed hengine hmissing =>
    exact ⟨_, .missing hallowed hengine hmissing, rfl, rfl, rfl⟩
  | routineFound hallowed hengine hfound hnull =>
    exact ⟨_, .routineFound hallowed hengine hfound hnull, rfl, rfl, rfl⟩
  | routineMissing hallowed hengine hmissing =>
    exact ⟨_, .routineMissing hallowed hengine hmissing, rfl, rfl, rfl⟩
  | closed hallowed hengine => exact ⟨_, .closed hallowed hengine, rfl, rfl, rfl⟩
  | finalized hopen hengine => exact ⟨_, .finalized hopen hengine, rfl, rfl, rfl⟩
  | alreadyClosed hclosed => exact ⟨_, .alreadyClosed hclosed, rfl, rfl, rfl⟩

theorem Alike.perform (halike : Alike s t) (hs : s.Consistent) (request : SessionRequest) :
    (s.perform request).1 = (t.perform request).1 ∧
      Alike (s.perform request).2 (t.perform request).2 := by
  obtain ⟨t', hrow, hnext⟩ := (hs.row_perform request).alike halike
  rw [perform_of_row hrow]
  exact ⟨rfl, hnext⟩

theorem Alike.responses_eq (halike : Alike s t) (hs : s.Consistent)
    (requests : List SessionRequest) : s.responses requests = t.responses requests := by
  induction requests generalizing s t with
  | nil => rfl
  | cons request rest ih =>
    obtain ⟨hresponse, hnext⟩ := halike.perform hs request
    rw [responses, responses, hresponse, ih hnext ((hs.row_perform request).consistent hs)]

end Session

end JitHost
