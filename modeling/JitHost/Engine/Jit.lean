import JitHost.Diagnostic
import JitHost.Engine.Basic
import JitHost.Engine.Routine
import JitHost.Link.Patch

/-!
# Engines that compile and link

Such an engine turns each source into compiled functions with a front end,
which is a parameter, collects them with the imported symbols, and links all of
them when it is asked for the size or the code. The plan of the last linking is
kept until a function or a symbol is added. Once the code has been written the
engine takes no more sources.
-/

namespace JitHost

/-- Why a source text has no functions: the line at which it cannot be read. -/
structure SourceFault where
  line : Nat
  message : String
  deriving DecidableEq

/-- What a front end makes of one function of a source: its code and
relocations, or the messages about what is wrong with it. -/
structure FunctionAttempt where
  name : String
  result : Except (List String) (List UInt8 × List Relocation)

/-- What turns source texts into compiled functions. -/
abbrev FrontEnd := String → Except SourceFault (List FunctionAttempt)

namespace FunctionAttempt

/-- The function that was compiled. -/
def function? (t : FunctionAttempt) : Option CompiledFunction :=
  match t.result with
  | .ok (code, relocations) => some ⟨t.name, code, relocations⟩
  | .error _ => none

/-- The diagnostics about a function. -/
def diagnostics (t : FunctionAttempt) : List Diagnostic :=
  match t.result with
  | .ok _ => []
  | .error messages => messages.map (.inFunction t.name)

/-- Whether a function was not compiled. -/
def failed (t : FunctionAttempt) : Bool := t.function?.isNone

end FunctionAttempt

/-- The names that are taken already when they come up: each name that is in
`defined` or stands further left. -/
def redefined (defined : List String) : List String → List String
  | [] => []
  | name :: rest =>
      if name ∈ defined then name :: redefined defined rest
      else redefined (name :: defined) rest

/-- An engine with the given front end: its functions in the order of their
definition, the imported symbols, the latest first, the plan if it is up to date,
and where the code was written. -/
structure JitEngine (frontEnd : FrontEnd) where
  functions : List CompiledFunction
  imports : List (String × Address)
  plan? : Option Plan
  base? : Option Address

namespace JitEngine

variable {frontEnd : FrontEnd}

/-- The engine without functions and imports. -/
def new (frontEnd : FrontEnd) : JitEngine frontEnd := ⟨[], [], none, none⟩

variable (engine : JitEngine frontEnd)

/-- The names of the functions, in the order of their definition. -/
def functionNames : List String := engine.functions.map CompiledFunction.name

/-- The address of what no function defines. Routines of the compiler are built
in unless a symbol of their name is imported. -/
def external : RelocationTarget → Option Address
  | .symbol name => engine.imports.lookup name
  | .routine name => engine.imports.lookup name <|> Routine.address? name
  | .here _ => none

/-- The error of a number of failures. -/
def failures (diagnostics : List Diagnostic) (count : Nat) : Attempt Unit :=
  ⟨diagnostics.map Diagnostic.text, .error (.compilationFailed count)⟩

/-- Adds functions if all were compiled and no name is taken. -/
def addFunctions (attempts : List FunctionAttempt) : Attempt Unit × JitEngine frontEnd :=
  let compiled := attempts.filterMap FunctionAttempt.function?
  let again := redefined engine.functionNames (compiled.map CompiledFunction.name)
  let count := (attempts.filter FunctionAttempt.failed).length + again.length
  if count = 0 then
    (.success (), { engine with functions := engine.functions ++ compiled, plan? := none })
  else
    (failures (attempts.flatMap FunctionAttempt.diagnostics ++ again.map .redefinition) count,
      engine)

/-- Compiles a source text. -/
def compile (source : String) : Attempt Unit × JitEngine frontEnd :=
  match engine.base? with
  | some _ => (.failure .alreadyMaterialized, engine)
  | none =>
      match frontEnd source with
      | .error fault => (failures [.atLine fault.line fault.message] 1, engine)
      | .ok attempts => engine.addFunctions attempts

/-- Imports a symbol. A later import of a name takes the place of an earlier
one. -/
def addSymbol (name : String) (address : Address) : JitEngine frontEnd :=
  { engine with imports := (name, address) :: engine.imports, plan? := none }

/-- The plan for all functions: the one at hand, or else a new one, which is
kept. -/
def ensurePlan : Attempt Plan × JitEngine frontEnd :=
  match engine.plan? with
  | some plan => (.success plan, engine)
  | none =>
      let attempt := Plan.build engine.functions engine.external
      (attempt, { engine with plan? := attempt.outcome.toOption })

/-- The number of bytes of all code. -/
def imageSize : Attempt Nat × JitEngine frontEnd :=
  let (attempt, engine) := engine.ensurePlan
  (attempt.map Plan.size, engine)

/-- Writes all code to a buffer that lies at `place`. -/
def fill (place : Address) (buffer : Array UInt8) :
    Attempt Unit × Array UInt8 × JitEngine frontEnd :=
  match engine.base? with
  | some _ => (.failure .alreadyMaterialized, buffer, engine)
  | none =>
      let (attempt, engine) := engine.ensurePlan
      match attempt.outcome with
      | .error e => (⟨attempt.diagnostics, .error e⟩, buffer, engine)
      | .ok plan =>
          match plan.apply engine.functions place buffer with
          | (.ok (), buffer) =>
              (⟨attempt.diagnostics, .ok ()⟩, buffer, { engine with base? := some place })
          | (.error e, buffer) =>
              (⟨attempt.diagnostics ++ [e.message], .error e⟩, buffer, engine)

theorem size_fill (place : Address) (buffer : Array UInt8) :
    (engine.fill place buffer).2.1.size = buffer.size := by
  unfold fill
  split
  · rfl
  · simp only
    split
    · rfl
    · rename_i plan _
      have size := plan.size_apply engine.ensurePlan.2.functions place buffer
      split <;> rename_i h <;> rw [h] at size <;> exact size

/-- Where a function lies: known after the code was written, from the plan at
hand. -/
def symbol? (name : String) : Option Address := do
  let base ← engine.base?
  let plan ← engine.plan?
  let offset ← plan.symbolOffset? name
  return base.after offset

instance : Engine (JitEngine frontEnd) where
  compile := compile
  addSymbol := addSymbol
  imageSize := imageSize
  fill engine place buffer :=
    let filled := engine.fill place buffer.toArray
    (filled.1, ⟨filled.2.1, by rw [size_fill, buffer.size_toArray]⟩, filled.2.2)
  symbol? := symbol?

end JitEngine

end JitHost
