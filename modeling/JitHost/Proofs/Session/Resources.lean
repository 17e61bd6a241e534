import JitHost.Engine.Scripted
import JitHost.Proofs.Session.Lifecycle

/-!
# The resources of a session

A session holds its engine until it is closed, and code only while it is relocated. The code is then
what the engine wrote in the one relocation of the run that succeeded (`code_of_after`), and
nothing that is asked of the session changes it until it is given up (`after_of_relocated`).
-/

namespace JitHost

theorem SessionRequest.size?_refused (request : SessionRequest) (e : SessionError) :
    (request.refused e).size? = none := by
  cases request <;> rfl

/-- A session that may compile may relocate. -/
theorem SessionState.relocate_of_compile {state : SessionState}
    (h : state.refusal? .compile = none) : state.refusal? .relocate = none := by
  cases state with
  | closed cause => cases cause <;> cases h
  | relocated => cases h
  | _ => rfl

namespace Session

theorem exists_cause {s : Session σ} (hclosed : s.isClosed = true) :
    ∃ cause, s.state = .closed cause := by
  unfold isClosed at hclosed
  cases hstate : s.state with
  | closed cause => exact ⟨cause, rfl⟩
  | _ =>
    rw [hstate] at hclosed
    cases hclosed

variable [Engine σ] {s t : Session σ} {request : SessionRequest} {response : SessionResponse}

/-! ## Rows -/

/-- A session that cannot be relocated any more answers no size and stays so. -/
theorem Row.frozen (h : Row s request response t)
    (hfrozen : ∃ e, s.state.refusal? .relocate = some e) :
    (∃ e, t.state.refusal? .relocate = some e) ∧ response.size? = none := by
  cases h with
  | refused => exact ⟨hfrozen, SessionRequest.size?_refused _ _⟩
  | compiled hallowed =>
    obtain ⟨e, he⟩ := hfrozen
    rw [SessionState.relocate_of_compile hallowed] at he
    cases he
  | relocated hallowed =>
    obtain ⟨e, he⟩ := hfrozen
    rw [hallowed] at he
    cases he
  | compileFailed | relocationFailed | closed | finalized =>
    exact ⟨SessionState.exists_refusal _ _, rfl⟩
  | _ => exact ⟨hfrozen, rfl⟩

/-- A relocated session keeps its code or gives it up. -/
theorem Row.of_relocated (h : Row s request response t) (hstate : s.state = .relocated) :
    (t.state = .relocated ∧ t.code? = s.code?) ∨ (t.isClosed = true ∧ t.code? = none) := by
  cases h with
  | compiled hallowed | relocated hallowed =>
    rw [hstate] at hallowed
    cases hallowed
  | compileFailed | relocationFailed | closed | finalized => exact .inr ⟨rfl, rfl⟩
  | _ => exact .inl ⟨hstate, rfl⟩

/-- A session comes to be relocated by a relocation that succeeds. -/
theorem Row.of_unrelocated (h : Row s request response t) (hstate : s.state ≠ .relocated) :
    (t.state ≠ .relocated ∧ response.size? = none) ∨
      ∃ memory engine size place, request = .relocate memory ∧ s.engine? = some engine ∧
        Materializes engine memory size place ∧ response = .size (.ok size) ∧
        t = s.materializedAt engine place size := by
  cases h with
  | refused => exact .inl ⟨hstate, SessionRequest.size?_refused _ _⟩
  | compiled | compileFailed | relocationFailed | closed | finalized =>
    exact .inl ⟨fun h => (nomatch h), rfl⟩
  | relocated hallowed hengine hsteps =>
    exact .inr ⟨_, _, _, _, rfl, hengine, hsteps, rfl, rfl⟩
  | _ => exact .inl ⟨hstate, rfl⟩

/-! ## Runs -/

/-- The sizes that the relocations of a run answered. -/
def sizes (s : Session σ) (requests : List SessionRequest) : List Nat :=
  (s.responses requests).filterMap SessionResponse.size?

theorem sizes_cons (s : Session σ) (request : SessionRequest) (rest : List SessionRequest) :
    s.sizes (request :: rest) =
      (s.perform request).1.size?.toList ++ (s.perform request).2.sizes rest := by
  unfold sizes
  rw [responses, List.filterMap_cons]
  cases (s.perform request).1.size? <;> rfl

theorem sizes_of_frozen (hs : s.Consistent)
    (hfrozen : ∃ e, s.state.refusal? .relocate = some e) (requests : List SessionRequest) :
    s.sizes requests = [] := by
  induction requests generalizing s with
  | nil => rfl
  | cons request rest ih =>
    have hrow := hs.row_perform request
    obtain ⟨hnext, hsize⟩ := hrow.frozen hfrozen
    rw [sizes_cons, hsize, ih (hrow.consistent hs) hnext]
    rfl

/-- Whatever is asked of a relocated session, it keeps its code until it is closed. -/
theorem after_of_relocated (hs : s.Consistent) (hstate : s.state = .relocated)
    (requests : List SessionRequest) :
    ((s.after requests).state = .relocated ∧ (s.after requests).code? = s.code?) ∨
      ((s.after requests).isClosed = true ∧ (s.after requests).code? = none) := by
  induction requests generalizing s with
  | nil => exact .inl ⟨hstate, rfl⟩
  | cons request rest ih =>
    have hrow := hs.row_perform request
    rw [after]
    rcases hrow.of_relocated hstate with ⟨hnext, hcode⟩ | ⟨hclosed, hnone⟩
    · rw [← hcode]
      exact ih (hrow.consistent hs) hnext
    · -- What is closed does not change, so the rest of the run is of no account.
      obtain ⟨cause, hcause⟩ := exists_cause hclosed
      rw [after_of_closed hcause]
      exact .inr ⟨hclosed, hnone⟩

/-- The code of a session after a run: what an engine wrote in a relocation of the run, the only one
that succeeded. -/
structure CodeOf (s : Session σ) (requests : List SessionRequest) (size : Nat)
    (code : CodeBuffer) : Prop where
  relocation : ∃ before memory rest engine place, requests = before ++ .relocate memory :: rest ∧
    (s.after before).engine? = some engine ∧ Materializes engine memory size place ∧
    code = { Engine.filled engine place size with executable := true }
  only : s.sizes requests = [size]

/-- A run that relocates a session goes through one relocation that succeeds, and the code is from
there. -/
theorem code_of_after (hs : s.Consistent) (hstate : s.state ≠ .relocated)
    {requests : List SessionRequest} (hafter : (s.after requests).state = .relocated) :
    ∃ size code, (s.after requests).code? = some code ∧ CodeOf s requests size code := by
  induction requests generalizing s with
  | nil => exact absurd hafter hstate
  | cons request rest ih =>
    have hrow := hs.row_perform request
    have hnext := hrow.consistent hs
    rw [after] at hafter ⊢
    -- Either the rest of the run relocates the session or this request does, and then the rest
    -- neither relocates it again nor changes the code.
    rcases hrow.of_unrelocated hstate with ⟨hstill, hsize⟩ |
      ⟨memory, engine, size, place, rfl, hengine, hsteps, hresponse, hsession⟩
    · obtain ⟨size, code, hcode, ⟨before, memory, rest', engine, place, rfl, hengine, hsteps,
        hwritten⟩, honly⟩ := ih hnext hstill hafter
      refine ⟨size, code, hcode, ⟨request :: before, memory, rest', engine, place, rfl, hengine,
        hsteps, hwritten⟩, ?_⟩
      rw [sizes_cons, hsize, honly]
      rfl
    · have hrelocated : (s.perform (.relocate memory)).2.state = .relocated := by
        rw [hsession]
        rfl
      refine ⟨size, { Engine.filled engine place size with executable := true }, ?_,
        ⟨[], memory, rest, engine, place, rfl, hengine, hsteps, rfl⟩, ?_⟩
      · rcases after_of_relocated hnext hrelocated rest with ⟨-, hkept⟩ | ⟨hclosed, -⟩
        · rw [hkept, hsession]
          rfl
        · obtain ⟨cause, hcause⟩ := exists_cause hclosed
          rw [hcause] at hafter
          cases hafter
      · rw [sizes_cons, hresponse, sizes_of_frozen hnext ⟨_, by rw [hrelocated]; rfl⟩]
        rfl

example : ((Session.new (⟨[], .quiet, 2, .quiet, [], none⟩ : ScriptedEngine)).after
    [.compile "", .relocate (.fixed 4096), .compile ""]).code? = some ⟨4096, #[0, 1], true⟩ := by
  rfl

/-! ## Every reachable session -/

/-- The resources of a session that a run has led to from another one. -/
structure HoldsResources (start : Session σ) (requests : List SessionRequest) (s : Session σ) :
    Prop where
  /-- The engine is gone exactly when the session is closed. -/
  engine_iff : s.engine? = none ↔ s.isClosed = true
  /-- The code is there exactly while the session is relocated. -/
  code_iff : s.code?.isSome = true ↔ s.state = .relocated
  /-- It is what the engine wrote to zeros in the relocation that succeeded, and as long as that one
  answered. -/
  code_of : s.state = .relocated → ∃ size code, s.code? = some code ∧ s.codeSize? = some size ∧
    CodeOf start requests size code
  /-- Later requests leave it as it is until the session is closed. -/
  code_kept : s.state = .relocated → ∀ later,
    ((s.after later).state = .relocated ∧ (s.after later).code? = s.code?) ∨
      ((s.after later).isClosed = true ∧ (s.after later).code? = none)

theorem CodeOf.size_eq {requests : List SessionRequest} {size : Nat} {code : CodeBuffer}
    (h : CodeOf s requests size code) : code.size = size := by
  obtain ⟨-, -, -, engine, place, -, -, -, rfl⟩ := h.relocation
  show (Engine.filling engine place size).2.1.toArray.size = size
  rw [Vector.size_toArray, Array.size_replicate]

/-- Every run of requests leaves a session with the resources of its state, whatever the engine and
the memory answer. -/
theorem holds_resources (engine : σ) (requests : List SessionRequest) :
    HoldsResources (Session.new engine) requests ((Session.new engine).after requests) := by
  have hs := consistent_after engine requests
  constructor
  · exact hs.engine
  · exact hs.code
  · intro hstate
    obtain ⟨size, code, hcode, hof⟩ :=
      code_of_after (consistent_new engine) (fun h => nomatch h) hstate
    refine ⟨size, code, hcode, ?_, hof⟩
    rw [codeSize?, hcode, Option.map_some, hof.size_eq]
  · exact after_of_relocated hs

end Session

end JitHost
