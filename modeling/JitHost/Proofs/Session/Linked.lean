import JitHost.Proofs.Engine.Visibility
import JitHost.Proofs.Session.Collected

/-!
# What a session holds once it is relocated

A relocation of an engine that compiles and links succeeds only if its functions could be planned, and
it leaves the image of the plan (`JitEngine.UpToDate.plan_of_materializes`). From then on the session
holds this image, and its engine the plan (`Linked`), until it is closed (`linked_after`): every
request that could drop the plan is refused. So a session that a run has relocated is linked from just
the functions that it accepted in the run (`exists_linked_after`).
-/

namespace JitHost

variable {frontEnd : FrontEnd}

/-! ## The engine -/

namespace JitEngine

/-- A filling is a fill of zeros by the engine that was asked for the size. -/
theorem filling_eq (engine : JitEngine frontEnd) (place : Address) (size : Nat) :
    (Engine.filling engine place size).1 =
        (engine.imageSize.2.fill place (Array.replicate size 0)).1 ∧
      (Engine.filled engine place size).bytes =
        (engine.imageSize.2.fill place (Array.replicate size 0)).2.1 ∧
      (Engine.filling engine place size).2.2 =
        (engine.imageSize.2.fill place (Array.replicate size 0)).2.2 :=
  ⟨rfl, rfl, rfl⟩

theorem external_plan (engine : JitEngine frontEnd) (plan? : Option Plan) :
    ({ engine with plan? } : JitEngine frontEnd).external = engine.external := by
  funext target
  cases target <;> rfl

/-- A relocation that succeeds leaves the image of the plan for all functions. -/
theorem UpToDate.plan_of_materializes {engine : JitEngine frontEnd} (h : engine.UpToDate)
    {memory : MemoryService} {size : Nat} {place : Address}
    (hsteps : Materializes engine memory size place) :
    ∃ plan, Plan.build engine.functions engine.external = .success plan ∧ plan.size = size ∧
      plan.apply engine.functions place (Array.replicate size 0) =
        (.ok (), (Engine.filled engine place size).bytes) ∧
      (Engine.filling engine place size).2.2 =
        { engine with plan? := some plan, base? := some place } := by
  obtain ⟨hresult, hbytes, hnext⟩ := filling_eq engine place size
  have hsizing : engine.imageSize.1.outcome = .ok size := hsteps.sizing
  have hfilling := hsteps.filling
  have hsized := h.step_imageSize
  have hupToDate : engine.imageSize.2.UpToDate := h.ensurePlan
  rw [hresult] at hfilling
  rw [hbytes, hnext]
  generalize engine.imageSize = answer at hsizing hfilling hsized hupToDate ⊢
  obtain ⟨attempt, planned⟩ := answer
  cases hsized with
  | unsized hplan hfailed =>
    rw [hfailed] at hsizing
    cases hsizing
  | @sized plan hplan =>
    cases hsizing
    -- The plan is at hand now, and so it is the one that the fill applies.
    have hfill := hupToDate.step_fill place (Array.replicate plan.size 0)
    generalize ({ engine with plan? := some plan } : JitEngine frontEnd).fill place
      (Array.replicate plan.size 0) = answer at hfilling hfill ⊢
    obtain ⟨result, bytes, next⟩ := answer
    simp only at hfilling hfill ⊢
    cases hfill with
    | filled hopen hplanned hwritten =>
      rw [external_plan, hplan] at hplanned
      cases hplanned
      exact ⟨plan, hplan, rfl, hwritten, rfl⟩
    | full hbase => cases hfilling
    | unlinked hopen hplanned hfailed | unwritten hopen hplanned hwritten hfailed =>
      rw [hfailed] at hfilling
      cases hfilling

end JitEngine

/-! ## The session -/

namespace Session

/-- A session is relocated and holds the image of functions that its engine linked with symbols. -/
structure Linked (s : Session (JitEngine frontEnd)) (functions : List CompiledFunction)
    (added : List (String × Address)) (plan : Plan) (code : CodeBuffer) : Prop where
  state : s.state = .relocated
  image : s.code? = some code
  engine : s.engine? = some { JitEngine.holding frontEnd functions added with
    plan? := some plan
    base? := some code.place }
  names : (functions.map CompiledFunction.name).Nodup
  built : Plan.build functions (JitEngine.holding frontEnd functions added).external =
    .success plan
  size : plan.size = code.size
  written : plan.apply functions code.place (Array.replicate code.size 0) = (.ok (), code.bytes)

variable {s t : Session (JitEngine frontEnd)} {functions : List CompiledFunction}
  {added : List (String × Address)} {plan : Plan} {code : CodeBuffer}

/-- A relocation that succeeds links what the session has collected. -/
theorem Collected.linked (hs : s.Collected functions added) {memory : MemoryService} {size : Nat}
    {place : Address}
    (hsteps : Materializes (JitEngine.holding frontEnd functions added) memory size place) :
    ∃ plan code, (s.materializedAt (.holding frontEnd functions added) place size).Linked
        functions added plan code ∧
      code.size = size ∧ CodeBuffer.allocate memory size = .ok (.zeros code.place size) := by
  obtain ⟨plan, hbuilt, hsize, hwritten, hnext⟩ :=
    (JitEngine.upToDate_holding functions added).plan_of_materializes hsteps
  have hlength : (Engine.filled (JitEngine.holding frontEnd functions added) place size).bytes.size =
      size := by
    have happlied := plan.size_apply (JitEngine.holding frontEnd functions added).functions place
      (Array.replicate size 0)
    rw [hwritten] at happlied
    exact happlied.trans Array.size_replicate
  refine ⟨plan, _, ⟨rfl, rfl, congrArg some hnext, hs.names, hbuilt, ?_, ?_⟩, hlength,
    hsteps.allocation⟩
  · exact hsize.trans hlength.symm
  · simp only [CodeBuffer.size, hlength]
    exact hwritten

section

variable {request : SessionRequest} {response : SessionResponse}

/-- A session that cannot be relocated any more accepts no source. -/
theorem Row.accepted_of_frozen (h : Row s request response t)
    (hfrozen : ∃ e, s.state.refusal? .relocate = some e) :
    SessionRequest.accepted frontEnd (request, response) = [] := by
  cases h with
  | refused => exact SessionRequest.accepted_refused _ _
  | compiled hallowed =>
    obtain ⟨e, he⟩ := hfrozen
    rw [SessionState.relocate_of_compile hallowed] at he
    cases he
  | _ => rfl

/-- A linked session stays so until it is closed. -/
theorem Row.linked (h : Row s request response t) (hs : s.Linked functions added plan code) :
    t.Linked functions added plan code ∨ t.isClosed = true := by
  obtain ⟨hstate, hcode, hengine, hnames, hbuilt, hsize, hwritten⟩ := hs
  cases h with
  | compiled hallowed | relocated hallowed | imported hallowed | importedApi hallowed =>
    rw [hstate] at hallowed
    cases hallowed
  | compileFailed | relocationFailed | closed | finalized => exact .inr rfl
  | _ => exact .inl ⟨hstate, hcode, hengine, hnames, hbuilt, hsize, hwritten⟩

end

theorem accepted_of_frozen (hs : s.Consistent)
    (hfrozen : ∃ e, s.state.refusal? .relocate = some e) (requests : List SessionRequest) :
    s.accepted requests = [] := by
  induction requests generalizing s with
  | nil => rfl
  | cons request rest ih =>
    have hrow := hs.row_perform request
    have hrest := ih (hrow.consistent hs) (hrow.frozen hfrozen).1
    show SessionRequest.accepted frontEnd (request, (s.perform request).1) ++
      (s.perform request).2.accepted rest = []
    rw [hrow.accepted_of_frozen hfrozen, hrest]
    rfl

theorem linked_after (hs : s.Consistent) (hlinked : s.Linked functions added plan code)
    (requests : List SessionRequest) :
    (s.after requests).Linked functions added plan code ∨ (s.after requests).isClosed = true := by
  induction requests generalizing s with
  | nil => exact .inl hlinked
  | cons request rest ih =>
    have hrow := hs.row_perform request
    rcases hrow.linked hlinked with hnext | hclosed
    · exact ih (hrow.consistent hs) hnext
    · obtain ⟨cause, hcause⟩ := exists_cause hclosed
      rw [after, after_of_closed hcause]
      exact .inr hclosed

/-- A run that relocates a session links the functions that were accepted in it, in memory that it was
given. -/
theorem exists_linked_after (hs : s.Consistent) (hcollected : s.Collected functions added)
    {requests : List SessionRequest} (hafter : (s.after requests).state = .relocated) :
    ∃ added plan code memory,
      (s.after requests).Linked (functions ++ s.accepted requests) added plan code ∧
        .relocate memory ∈ requests ∧
        CodeBuffer.allocate memory code.size = .ok (.zeros code.place code.size) := by
  induction requests generalizing s functions added with
  | nil =>
    have hrelocatable := hcollected.relocatable
    rw [after] at hafter
    rw [hafter] at hrelocatable
    cases hrelocatable
  | cons request rest ih =>
    have hrow := hs.row_perform request
    have hnext := hrow.consistent hs
    have haccepted : s.accepted (request :: rest) =
        SessionRequest.accepted frontEnd (request, (s.perform request).1) ++
          (s.perform request).2.accepted rest := rfl
    rw [after] at hafter ⊢
    rw [haccepted]
    rcases hrow.of_collected hcollected with ⟨hcollected, hsame⟩ |
      ⟨memory, size, place, rfl, hsteps, hrelocated⟩ | hclosed
    · obtain ⟨added, plan, code, memory, hlinked, hmem, hallocated⟩ := ih hnext hcollected hafter
      rw [hsame, ← List.append_assoc]
      exact ⟨added, plan, code, memory, hlinked, List.mem_cons_of_mem _ hmem, hallocated⟩
    · obtain ⟨plan, code, hlinked, rfl, hallocated⟩ := hcollected.linked hsteps
      rw [← hrelocated] at hlinked
      -- Nothing is accepted from here on, and what was linked stays.
      have hfrozen : ∃ e, (s.perform (.relocate memory)).2.state.refusal? .relocate = some e :=
        ⟨.relocatedSession .relocate, by rw [hlinked.state]; rfl⟩
      refine ⟨added, plan, code, memory, ?_, List.mem_cons_self, hallocated⟩
      have hnone : SessionRequest.accepted frontEnd
        (.relocate memory, (s.perform (.relocate memory)).1) = [] := rfl
      rw [hnone, accepted_of_frozen hnext hfrozen, List.append_nil, List.append_nil]
      rcases linked_after hnext hlinked rest with hkept | hclosed
      · exact hkept
      · obtain ⟨cause, hcause⟩ := exists_cause hclosed
        rw [hcause] at hafter
        cases hafter
    · obtain ⟨cause, hcause⟩ := exists_cause hclosed
      rw [after_of_closed hcause, hcause] at hafter
      cases hafter

end Session

end JitHost
