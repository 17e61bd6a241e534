import JitHost.Engine.Jit

/-!
# The plan at hand

An engine that compiles and links keeps the plan of its last linking until a function or a symbol
is added. `PlanlessEngine` is an engine that keeps none and plans anew whenever it is asked for the
size or the code. A plan at hand is always the one that would be built now (`JitEngine.UpToDate`),
so both answer every run of requests with the same outcomes, diagnostics and bytes, and a fill that
fails leaves no trace (`plan_hidden`).
-/

namespace JitHost

/-- What can be asked of an engine that compiles and links; a buffer may hold anything. -/
inductive EngineRequest where
  | compile (source : String)
  | addSymbol (name : String) (address : Address)
  | imageSize
  | fill (place : Address) (buffer : Array UInt8)

/-- What the engine answers; a fill also gives the buffer back. -/
inductive EngineResponse where
  | compiled (attempt : Attempt Unit)
  | added
  | sized (attempt : Attempt Nat)
  | filled (attempt : Attempt Unit) (buffer : Array UInt8)

variable {frontEnd : FrontEnd}

namespace JitEngine

/-- The response to a request and the engine after it. -/
def perform (engine : JitEngine frontEnd) : EngineRequest → EngineResponse × JitEngine frontEnd
  | .compile source => (.compiled (engine.compile source).1, (engine.compile source).2)
  | .addSymbol name address => (.added, engine.addSymbol name address)
  | .imageSize => (.sized engine.imageSize.1, engine.imageSize.2)
  | .fill place buffer =>
      (.filled (engine.fill place buffer).1 (engine.fill place buffer).2.1,
        (engine.fill place buffer).2.2)

/-- The engine after a run of requests. -/
def after (engine : JitEngine frontEnd) : List EngineRequest → JitEngine frontEnd
  | [] => engine
  | request :: rest => (engine.perform request).2.after rest

/-- The responses to a run of requests. -/
def responses (engine : JitEngine frontEnd) : List EngineRequest → List EngineResponse
  | [] => []
  | request :: rest => (engine.perform request).1 :: (engine.perform request).2.responses rest

end JitEngine

/-! ## An engine that keeps no plan -/

/-- An engine with its functions in the order of their definition, the imported symbols, the latest
first, and where the code was written. -/
structure PlanlessEngine (frontEnd : FrontEnd) where
  functions : List CompiledFunction
  imports : List (String × Address)
  base? : Option Address

/-- An engine without the plan it may have at hand. -/
def JitEngine.forget (engine : JitEngine frontEnd) : PlanlessEngine frontEnd :=
  ⟨engine.functions, engine.imports, engine.base?⟩

namespace PlanlessEngine

/-- The engine without functions and imports. -/
def new (frontEnd : FrontEnd) : PlanlessEngine frontEnd := ⟨[], [], none⟩

variable (engine : PlanlessEngine frontEnd)

/-- The same engine as one that has no plan yet. Sources and symbols are taken in as by this one. -/
def bare : JitEngine frontEnd := ⟨engine.functions, engine.imports, none, engine.base?⟩

/-- A new plan for all functions. -/
def plan : Attempt Plan := Plan.build engine.functions engine.bare.external

/-- Writes all code, planned anew, to a buffer that lies at `place`. -/
def fill (place : Address) (buffer : Array UInt8) :
    Attempt Unit × Array UInt8 × PlanlessEngine frontEnd :=
  match engine.base? with
  | some _ => (.failure .alreadyMaterialized, buffer, engine)
  | none =>
      match engine.plan with
      | ⟨diagnostics, .error e⟩ => (⟨diagnostics, .error e⟩, buffer, engine)
      | ⟨diagnostics, .ok plan⟩ =>
          match plan.apply engine.functions place buffer with
          | (.ok (), buffer) =>
              (⟨diagnostics, .ok ()⟩, buffer, { engine with base? := some place })
          | (.error e, buffer) => (⟨diagnostics ++ [e.message], .error e⟩, buffer, engine)

/-- The response to a request and the engine after it. -/
def perform : EngineRequest → EngineResponse × PlanlessEngine frontEnd
  | .compile source =>
      (.compiled (engine.bare.compile source).1, (engine.bare.compile source).2.forget)
  | .addSymbol name address => (.added, (engine.bare.addSymbol name address).forget)
  | .imageSize => (.sized (engine.plan.map Plan.size), engine)
  | .fill place buffer =>
      (.filled (engine.fill place buffer).1 (engine.fill place buffer).2.1,
        (engine.fill place buffer).2.2)

/-- The responses to a run of requests. -/
def responses (engine : PlanlessEngine frontEnd) : List EngineRequest → List EngineResponse
  | [] => []
  | request :: rest => (engine.perform request).1 :: (engine.perform request).2.responses rest

end PlanlessEngine

/-! ## What a plan at hand is -/

/-- A plan that is built is built in silence. -/
theorem Plan.build_eq_success {functions : List CompiledFunction}
    {external : RelocationTarget → Option Address} {plan : Plan}
    (h : (Plan.build functions external).outcome = .ok plan) :
    Plan.build functions external = .success plan := by
  revert h
  unfold Plan.build
  simp only
  split
  case isTrue hproblems =>
    intro h
    cases h
    rw [hproblems]
    rfl
  case isFalse =>
    intro h
    cases h

namespace JitEngine

variable {engine : JitEngine frontEnd}

/-- The plan at hand is the one that would be built now. -/
def UpToDate (engine : JitEngine frontEnd) : Prop :=
  ∀ plan, engine.plan? = some plan →
    Plan.build engine.functions engine.external = .success plan

/-- What lies outside does not depend on the plan at hand. -/
theorem external_bare_forget (engine : JitEngine frontEnd) :
    engine.forget.bare.external = engine.external := by
  funext target
  cases target <;> rfl

theorem plan_forget (engine : JitEngine frontEnd) :
    engine.forget.plan = Plan.build engine.functions engine.external := by
  rw [PlanlessEngine.plan, external_bare_forget]
  rfl

/-- Asking for a plan gives the one that would be built now. -/
theorem UpToDate.attempt_ensurePlan (h : engine.UpToDate) :
    engine.ensurePlan.1 = engine.forget.plan := by
  rw [plan_forget]
  unfold ensurePlan
  cases hplan : engine.plan? with
  | none => rfl
  | some plan => exact (h plan hplan).symm

theorem forget_ensurePlan (engine : JitEngine frontEnd) :
    engine.ensurePlan.2.forget = engine.forget := by
  unfold ensurePlan
  cases engine.plan? <;> rfl

theorem UpToDate.ensurePlan (h : engine.UpToDate) : engine.ensurePlan.2.UpToDate := by
  unfold JitEngine.ensurePlan
  cases hplan : engine.plan? with
  | some plan => exact h
  | none =>
    intro plan hkept
    cases houtcome : (Plan.build engine.functions engine.external).outcome with
    | error e =>
      simp only [houtcome] at hkept
      cases hkept
    | ok built =>
      simp only [houtcome] at hkept
      cases hkept
      exact Plan.build_eq_success houtcome

/-- Whether the code was written does not change the plan. -/
theorem UpToDate.written (h : engine.UpToDate) (base? : Option Address) :
    ({ engine with base? } : JitEngine frontEnd).UpToDate := by
  intro plan hplan
  have hexternal : ({ engine with base? } : JitEngine frontEnd).external = engine.external := by
    funext target
    cases target <;> rfl
  rw [hexternal]
  exact h plan hplan

/-! ## Step by step -/

theorem addFunctions_bare (engine : JitEngine frontEnd) (attempts : List FunctionAttempt) :
    engine.forget.bare.addFunctions attempts =
      ((engine.addFunctions attempts).1, (engine.addFunctions attempts).2.forget.bare) := by
  have hnames : engine.forget.bare.functionNames = engine.functionNames := rfl
  unfold addFunctions
  simp only [hnames]
  split
  · rfl
  · rfl

/-- What becomes of a source does not depend on the plan at hand. -/
theorem compile_bare (engine : JitEngine frontEnd) (source : String) :
    engine.forget.bare.compile source =
      ((engine.compile source).1, (engine.compile source).2.forget.bare) := by
  have hbase : engine.forget.bare.base? = engine.base? := rfl
  unfold compile
  rw [hbase]
  cases engine.base? with
  | some base => rfl
  | none =>
    cases frontEnd source with
    | error fault => rfl
    | ok attempts => exact addFunctions_bare engine attempts

/-- Functions that are added drop the plan, and a source that is refused changes nothing. -/
theorem UpToDate.compile (h : engine.UpToDate) (source : String) :
    (engine.compile source).2.UpToDate := by
  unfold JitEngine.compile
  cases engine.base? with
  | some base => exact h
  | none =>
    cases frontEnd source with
    | error fault => exact h
    | ok attempts =>
      simp only [addFunctions]
      split
      · exact fun plan hplan => nomatch hplan
      · exact h

/-- A fill does what one with a new plan does. -/
theorem UpToDate.fill_forget (h : engine.UpToDate) (place : Address) (buffer : Array UInt8) :
    engine.forget.fill place buffer = ((engine.fill place buffer).1,
      (engine.fill place buffer).2.1, (engine.fill place buffer).2.2.forget) := by
  have hbase : engine.forget.base? = engine.base? := rfl
  have hattempt := h.attempt_ensurePlan
  have hforget := engine.forget_ensurePlan
  unfold fill PlanlessEngine.fill
  rw [hbase]
  cases engine.base? with
  | some base => rfl
  | none =>
    rw [← hattempt, ← hforget]
    generalize engine.ensurePlan = planned
    obtain ⟨⟨diagnostics, outcome⟩, planned⟩ := planned
    cases outcome with
    | error e => rfl
    | ok plan =>
      simp only [forget]
      generalize plan.apply planned.functions place buffer = written
      obtain ⟨result, bytes⟩ := written
      cases result <;> rfl

theorem UpToDate.fill (h : engine.UpToDate) (place : Address) (buffer : Array UInt8) :
    (engine.fill place buffer).2.2.UpToDate := by
  have hplanned := h.ensurePlan
  unfold JitEngine.fill
  cases engine.base? with
  | some base => exact h
  | none =>
    generalize engine.ensurePlan = planned at hplanned ⊢
    obtain ⟨⟨diagnostics, outcome⟩, planned⟩ := planned
    cases outcome with
    | error e => exact hplanned
    | ok plan =>
      simp only
      generalize plan.apply planned.functions place buffer = written
      obtain ⟨result, bytes⟩ := written
      cases result with
      | error e => exact hplanned
      | ok done => exact hplanned.written (some place)

/-- A fill that fails, at whatever step, leaves the functions, the symbols and the place of the code
as they were. -/
theorem forget_fill_of_error {place : Address} {buffer : Array UInt8} {cause : EngineError}
    (hfailed : (engine.fill place buffer).1.outcome = .error cause) :
    (engine.fill place buffer).2.2.forget = engine.forget := by
  have hforget := engine.forget_ensurePlan
  revert hfailed
  unfold JitEngine.fill
  cases engine.base? with
  | some base => exact fun _ => rfl
  | none =>
    generalize engine.ensurePlan = planned at hforget ⊢
    obtain ⟨⟨diagnostics, outcome⟩, planned⟩ := planned
    cases outcome with
    | error e => exact fun _ => hforget
    | ok plan =>
      simp only
      generalize plan.apply planned.functions place buffer = written
      obtain ⟨result, bytes⟩ := written
      cases result with
      | error e => exact fun _ => hforget
      | ok done => exact fun hfailed => nomatch hfailed

theorem UpToDate.perform (h : engine.UpToDate) (request : EngineRequest) :
    (engine.perform request).2.UpToDate := by
  cases request with
  | compile source => exact h.compile source
  | addSymbol name address => exact fun plan hplan => nomatch hplan
  | imageSize => exact h.ensurePlan
  | fill place buffer => exact h.fill place buffer

/-- Every request is answered as by an engine that keeps no plan. -/
theorem UpToDate.perform_forget (h : engine.UpToDate) (request : EngineRequest) :
    engine.forget.perform request =
      ((engine.perform request).1, (engine.perform request).2.forget) := by
  cases request with
  | compile source =>
    simp only [PlanlessEngine.perform, JitEngine.perform, compile_bare]
    rfl
  | addSymbol name address => rfl
  | imageSize =>
    simp only [PlanlessEngine.perform, JitEngine.perform, imageSize, h.attempt_ensurePlan,
      forget_ensurePlan]
  | fill place buffer =>
    simp only [PlanlessEngine.perform, JitEngine.perform, h.fill_forget]

/-! ## Runs -/

theorem UpToDate.responses_forget (h : engine.UpToDate) (requests : List EngineRequest) :
    engine.responses requests = engine.forget.responses requests := by
  induction requests generalizing engine with
  | nil => rfl
  | cons request rest ih =>
    rw [responses, PlanlessEngine.responses, h.perform_forget, ih (h.perform request)]

theorem upToDate_new (frontEnd : FrontEnd) : (new frontEnd).UpToDate :=
  fun _ hplan => nomatch hplan

theorem UpToDate.after (h : engine.UpToDate) (requests : List EngineRequest) :
    (engine.after requests).UpToDate := by
  induction requests generalizing engine with
  | nil => exact h
  | cons request rest ih => exact ih (h.perform request)

/-- What it is for an engine that its plan does not show. -/
structure HidesPlan (engine : JitEngine frontEnd) : Prop where
  /-- Requests are answered as by an engine that plans anew for each of them. -/
  responses_eq : ∀ requests, engine.responses requests = engine.forget.responses requests
  /-- A fill that fails leaves the code unwritten that was so, and whatever is asked later is
  answered as if it had not been tried. -/
  fill_failed : ∀ place buffer cause, (engine.fill place buffer).1.outcome = .error cause →
    (engine.fill place buffer).2.2.base? = engine.base? ∧
      ∀ later, (engine.fill place buffer).2.2.responses later = engine.responses later

/-- A new engine answers every run of requests as one that keeps no plan, and no engine that it
becomes on the way shows its plan, whatever the front end makes of sources. -/
theorem plan_hidden (frontEnd : FrontEnd) :
    (∀ requests, (new frontEnd).responses requests =
      (PlanlessEngine.new frontEnd).responses requests) ∧
    ∀ requests, ((new frontEnd).after requests).HidesPlan := by
  refine ⟨(upToDate_new frontEnd).responses_forget, fun requests => ?_⟩
  have h := (upToDate_new frontEnd).after requests
  refine ⟨h.responses_forget, fun place buffer cause hfailed => ?_⟩
  have hforget := forget_fill_of_error hfailed
  refine ⟨congrArg PlanlessEngine.base? hforget, fun later => ?_⟩
  rw [(h.fill place buffer).responses_forget, hforget, h.responses_forget]

end JitEngine

end JitHost
