import JitHost.Proofs.Engine.PlanCache
import JitHost.Proofs.Link.NameOrder

/-!
# What requests do to an engine

`JitEngine.Step` is the table of what can be asked of an engine that compiles and links: the response
and the engine after it, one constructor for each case. An engine whose plan is up to date answers
every request by one of them (`UpToDate.step_perform`).

What an engine has collected after a run can be read off the requests and the responses: the functions
of the sources that were accepted (`functions_after`), no two of which have the same name
(`nodup_functionNames_after`), and the symbols that were added (`imports_after`).
-/

namespace JitHost

/-- The functions that a front end makes of a source, none if the source cannot be read. -/
def FrontEnd.functions (frontEnd : FrontEnd) (source : String) : List CompiledFunction :=
  match frontEnd source with
  | .ok attempts => attempts.filterMap FunctionAttempt.function?
  | .error _ => []

/-- Nothing is redefined by names that are all different and all new. -/
theorem redefined_eq_nil_iff {defined names : List String} :
    redefined defined names = [] ↔ names.Nodup ∧ ∀ name ∈ names, name ∉ defined := by
  induction names generalizing defined with
  | nil => simp [redefined]
  | cons name rest ih =>
    rw [redefined]
    by_cases htaken : name ∈ defined
    · rw [if_pos htaken]
      constructor
      · intro h
        cases h
      · rintro ⟨-, hnew⟩
        exact absurd htaken (hnew name List.mem_cons_self)
    · rw [if_neg htaken, ih, List.nodup_cons, List.forall_mem_cons]
      constructor
      · rintro ⟨hrest, hnew⟩
        refine ⟨⟨?_, hrest⟩, htaken, ?_⟩
        · intro hmem
          exact hnew name hmem List.mem_cons_self
        · intro other hother hdefined
          exact hnew other hother (List.mem_cons_of_mem _ hdefined)
      · rintro ⟨⟨hfresh, hrest⟩, -, hnew⟩
        refine ⟨hrest, ?_⟩
        intro other hother hdefined
        rcases List.mem_cons.1 hdefined with rfl | hdefined
        · exact hfresh hother
        · exact hnew other hother hdefined

variable {frontEnd : FrontEnd}

namespace JitEngine

/-! ## The table -/

/-- What an engine makes of a request: the response and the engine after it. -/
inductive Step (engine : JitEngine frontEnd) :
    EngineRequest → EngineResponse → JitEngine frontEnd → Prop where
  | accepted {source : String} (hopen : engine.base? = none)
      (hnew : redefined engine.functionNames
        ((frontEnd.functions source).map CompiledFunction.name) = []) :
      Step engine (.compile source) (.compiled (.success ()))
        { engine with
          functions := engine.functions ++ frontEnd.functions source
          plan? := none }
  | rejected {source : String} {attempt : Attempt Unit} {cause : EngineError}
      (hfailed : attempt.outcome = .error cause) :
      Step engine (.compile source) (.compiled attempt) engine
  | added {name : String} {address : Address} :
      Step engine (.addSymbol name address) .added
        { engine with imports := (name, address) :: engine.imports, plan? := none }
  | sized {plan : Plan} (hplan : Plan.build engine.functions engine.external = .success plan) :
      Step engine .imageSize (.sized (.success plan.size)) { engine with plan? := some plan }
  | unsized {attempt : Attempt Nat} {cause : EngineError}
      (hplan : (Plan.build engine.functions engine.external).outcome = .error cause)
      (hfailed : attempt.outcome = .error cause) :
      Step engine .imageSize (.sized attempt) engine
  | filled {place : Address} {buffer bytes : Array UInt8} {plan : Plan}
      (hopen : engine.base? = none)
      (hplan : Plan.build engine.functions engine.external = .success plan)
      (hwritten : plan.apply engine.functions place buffer = (.ok (), bytes)) :
      Step engine (.fill place buffer) (.filled (.success ()) bytes)
        { engine with plan? := some plan, base? := some place }
  | full {place base : Address} {buffer : Array UInt8} (hbase : engine.base? = some base) :
      Step engine (.fill place buffer) (.filled (.failure .alreadyMaterialized) buffer) engine
  | unlinked {place : Address} {buffer : Array UInt8} {attempt : Attempt Unit}
      {cause : EngineError} (hopen : engine.base? = none)
      (hplan : (Plan.build engine.functions engine.external).outcome = .error cause)
      (hfailed : attempt.outcome = .error cause) :
      Step engine (.fill place buffer) (.filled attempt buffer) engine
  | unwritten {place : Address} {buffer bytes : Array UInt8} {plan : Plan}
      {attempt : Attempt Unit} {cause : EngineError} (hopen : engine.base? = none)
      (hplan : Plan.build engine.functions engine.external = .success plan)
      (hwritten : plan.apply engine.functions place buffer = (.error cause, bytes))
      (hfailed : attempt.outcome = .error cause) :
      Step engine (.fill place buffer) (.filled attempt bytes) { engine with plan? := some plan }

variable {engine : JitEngine frontEnd}

theorem step_compile (engine : JitEngine frontEnd) (source : String) :
    Step engine (.compile source) (.compiled (engine.compile source).1)
      (engine.compile source).2 := by
  unfold compile
  cases hopen : engine.base? with
  | some base => exact .rejected rfl
  | none =>
    cases hread : frontEnd source with
    | error fault => exact .rejected rfl
    | ok attempts =>
      have hfunctions : frontEnd.functions source =
          attempts.filterMap FunctionAttempt.function? := by
        rw [FrontEnd.functions, hread]
      simp only [addFunctions]
      by_cases hcount : (attempts.filter FunctionAttempt.failed).length +
          (redefined engine.functionNames ((attempts.filterMap
            FunctionAttempt.function?).map CompiledFunction.name)).length = 0
      · rw [if_pos hcount, ← hfunctions]
        refine .accepted hopen (List.eq_nil_of_length_eq_zero ?_)
        rw [hfunctions]
        exact (Nat.add_eq_zero_iff.1 hcount).2
      · rw [if_neg hcount]
        exact .rejected rfl

/-- Asking for a plan gives a new one, which is kept, or leaves the engine as it is. -/
theorem UpToDate.ensurePlan_cases (h : engine.UpToDate) :
    (∃ plan, Plan.build engine.functions engine.external = .success plan ∧
      engine.ensurePlan = (.success plan, { engine with plan? := some plan })) ∨
    ∃ cause, (Plan.build engine.functions engine.external).outcome = .error cause ∧
      engine.ensurePlan = (Plan.build engine.functions engine.external, engine) := by
  cases hplan : engine.plan? with
  | some plan =>
    refine .inl ⟨plan, h plan hplan, ?_⟩
    obtain ⟨functions, imports, plan?, base?⟩ := engine
    cases hplan
    rfl
  | none =>
    have hensure : engine.ensurePlan = (Plan.build engine.functions engine.external,
        { engine with plan? := (Plan.build engine.functions engine.external).outcome.toOption }) := by
      simp only [JitEngine.ensurePlan, hplan]
    cases houtcome : (Plan.build engine.functions engine.external).outcome with
    | ok plan =>
      have hsuccess := Plan.build_eq_success houtcome
      refine .inl ⟨plan, hsuccess, ?_⟩
      rw [hensure, houtcome, hsuccess]
      rfl
    | error cause =>
      refine .inr ⟨cause, rfl, ?_⟩
      rw [hensure, houtcome]
      obtain ⟨functions, imports, plan?, base?⟩ := engine
      cases hplan
      rfl

theorem UpToDate.step_imageSize (h : engine.UpToDate) :
    Step engine .imageSize (.sized engine.imageSize.1) engine.imageSize.2 := by
  unfold imageSize
  rcases h.ensurePlan_cases with ⟨plan, hplan, hensure⟩ | ⟨cause, hplan, hensure⟩
  · rw [hensure]
    exact .sized hplan
  · rw [hensure]
    refine .unsized hplan ?_
    simp only [Attempt.map, hplan, Except.map]

theorem UpToDate.step_fill (h : engine.UpToDate) (place : Address) (buffer : Array UInt8) :
    Step engine (.fill place buffer)
      (.filled (engine.fill place buffer).1 (engine.fill place buffer).2.1)
      (engine.fill place buffer).2.2 := by
  unfold JitEngine.fill
  cases hopen : engine.base? with
  | some base => exact .full hopen
  | none =>
    rcases h.ensurePlan_cases with ⟨plan, hplan, hensure⟩ | ⟨cause, hplan, hensure⟩
    · rw [hensure]
      simp only [Attempt.success]
      cases hwritten : plan.apply engine.functions place buffer with
      | mk result bytes =>
        cases result with
        | ok done => exact .filled hopen hplan hwritten
        | error cause => exact .unwritten hopen hplan hwritten rfl
    · rw [hensure]
      simp only [hplan]
      exact .unlinked hopen hplan rfl

/-- Every request is answered by a row of the table. -/
theorem UpToDate.step_perform (h : engine.UpToDate) (request : EngineRequest) :
    Step engine request (engine.perform request).1 (engine.perform request).2 := by
  cases request with
  | compile source => exact step_compile engine source
  | addSymbol name address => exact .added
  | imageSize => exact h.step_imageSize
  | fill place buffer => exact h.step_fill place buffer

end JitEngine

/-! ## What runs collect -/

/-- The symbols that a request adds. -/
def EngineRequest.added : EngineRequest → List (String × Address)
  | .addSymbol name address => [(name, address)]
  | _ => []

/-- The functions of the source in a request, if the engine accepted it. -/
def EngineRequest.accepted (frontEnd : FrontEnd) :
    EngineRequest × EngineResponse → List CompiledFunction
  | (.compile source, .compiled ⟨_, .ok ()⟩) => frontEnd.functions source
  | _ => []

namespace JitEngine

/-- The functions of all sources that an engine accepts in a run. -/
def accepted (engine : JitEngine frontEnd) (requests : List EngineRequest) :
    List CompiledFunction :=
  (requests.zip (engine.responses requests)).flatMap (EngineRequest.accepted frontEnd)

variable {engine next : JitEngine frontEnd} {request : EngineRequest} {response : EngineResponse}

/-- No two functions of an engine have the same name. -/
theorem Step.nodup_functionNames (h : Step engine request response next)
    (hnames : engine.functionNames.Nodup) : next.functionNames.Nodup := by
  cases h with
  | @accepted source hopen hnew =>
    obtain ⟨hfresh, hother⟩ := redefined_eq_nil_iff.1 hnew
    unfold functionNames
    rw [List.map_append]
    refine List.nodup_append.2 ⟨hnames, hfresh, ?_⟩
    rintro name hname other hmem rfl
    exact hother name hmem hname
  | _ => exact hnames

theorem Step.functions_eq (h : Step engine request response next) :
    next.functions = engine.functions ++ EngineRequest.accepted frontEnd (request, response) := by
  cases h with
  | accepted => rfl
  | @rejected source attempt cause hfailed =>
    obtain ⟨diagnostics, outcome⟩ := attempt
    cases hfailed
    exact (List.append_nil _).symm
  | _ => exact (List.append_nil _).symm

theorem Step.imports_eq (h : Step engine request response next) :
    next.imports = request.added.reverse ++ engine.imports := by
  cases h <;> rfl

theorem functions_after (h : engine.UpToDate) (requests : List EngineRequest) :
    (engine.after requests).functions = engine.functions ++ engine.accepted requests := by
  induction requests generalizing engine with
  | nil => exact (List.append_nil _).symm
  | cons request rest ih =>
    rw [after, ih (h.perform request), (h.step_perform request).functions_eq, List.append_assoc]
    rfl

theorem imports_after (h : engine.UpToDate) (requests : List EngineRequest) :
    (engine.after requests).imports =
      (requests.flatMap EngineRequest.added).reverse ++ engine.imports := by
  induction requests generalizing engine with
  | nil => rfl
  | cons request rest ih =>
    rw [after, ih (h.perform request), (h.step_perform request).imports_eq, List.flatMap_cons,
      List.reverse_append, List.append_assoc]

theorem nodup_functionNames_after (h : engine.UpToDate) (hnames : engine.functionNames.Nodup)
    (requests : List EngineRequest) : (engine.after requests).functionNames.Nodup := by
  induction requests generalizing engine with
  | nil => exact hnames
  | cons request rest ih =>
    exact ih (h.perform request) ((h.step_perform request).nodup_functionNames hnames)

end JitEngine

end JitHost
