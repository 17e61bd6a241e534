import JitHost.Engine.Error
import JitHost.Link.Relocation

/-!
# Link plans

A plan places compiled functions one after another, each on a boundary of 16
bytes, and resolves every relocation to a place in the image or to an address
outside. `Plan.build` reports every problem before it fails: each relocation that
cannot be applied, and each name that is not defined once.
-/

namespace JitHost

/-- The boundary on which functions begin. -/
def functionAlignment : Nat := 16

/-- The least multiple of `alignment` that is not below `value`. -/
def alignUp (value alignment : Nat) : Nat := (value + alignment - 1) / alignment * alignment

/-- What a relocation refers to after layout: a place in the image or an address
outside of it. -/
inductive ResolvedTarget where
  | inside (offset : Nat)
  | outside (address : Address)
  deriving DecidableEq

/-- Why functions cannot be linked. Places in the image are counted from its
start. -/
inductive LinkProblem where
  | unsupported (kind : RelocationKind) (function : String) (place : Nat)
  | misplaced (kind : RelocationKind) (function : String) (offset place : Nat)
  | undefined (name : String)
  deriving DecidableEq

namespace LinkProblem

/-- The diagnostic for a problem. -/
def message : LinkProblem → String
  | unsupported kind function _ =>
      "unsupported relocation " ++ kind.text ++ " in function '" ++ function ++ "'"
  | misplaced kind function offset _ =>
      "relocation " ++ kind.text ++ " at offset " ++ Text.hex offset ++
        " lies outside function '" ++ function ++ "'"
  | undefined name => "undefined symbol '" ++ name ++ "'"

/-- The name that a problem misses. -/
def missing? : LinkProblem → Option String
  | undefined name => some name
  | _ => none

/-- The error of a relocation that cannot be applied. -/
def error? : LinkProblem → Option EngineError
  | unsupported kind function place =>
      some (.relocationFailed kind.text place ("unsupported in function '" ++ function ++ "'"))
  | misplaced kind function _ place =>
      some (.relocationFailed kind.text place
        ("patch site lies outside function '" ++ function ++ "'"))
  | undefined _ => none

/-- Problems without the names that an earlier one misses already. -/
def distinct (seen : List String) : List LinkProblem → List LinkProblem
  | [] => []
  | undefined name :: rest =>
      if name ∈ seen then distinct seen rest
      else undefined name :: distinct (name :: seen) rest
  | problem :: rest => problem :: distinct seen rest

/-- The error that stands for all problems: the first relocation that cannot be
applied, or else all missing names. -/
def summary (problems : List LinkProblem) : EngineError :=
  (problems.findSome? error?).getD (.unresolvedSymbols (problems.filterMap missing?))

end LinkProblem

/-- Where functions lie, what their relocations refer to, and how long the image
is. -/
structure Plan where
  starts : List Nat
  targets : List (List ResolvedTarget)
  symbols : List (String × Nat)
  size : Nat

namespace Plan

/-- The starts of functions placed from `cursor` on. -/
def startsFrom (cursor : Nat) : List CompiledFunction → List Nat
  | [] => []
  | function :: rest =>
      let start := alignUp cursor functionAlignment
      start :: startsFrom (start + function.code.length) rest

/-- The end of functions placed from `cursor` on. -/
def endFrom (cursor : Nat) : List CompiledFunction → Nat
  | [] => cursor
  | function :: rest => endFrom (alignUp cursor functionAlignment + function.code.length) rest

/-- The offset of the last symbol with a name. -/
def lastOffset? (symbols : List (String × Nat)) (name : String) : Option Nat :=
  symbols.reverse.lookup name

/-- What a target refers to. Functions of the image come before what lies
outside, except for runtime routines, which always lie outside. -/
def resolve (symbols : List (String × Nat)) (external : RelocationTarget → Option Address)
    (start : Nat) (target : RelocationTarget) : Except LinkProblem ResolvedTarget :=
  let outside (name : String) : Except LinkProblem ResolvedTarget :=
    match external target with
    | some address => .ok (.outside address)
    | none => .error (.undefined name)
  match target with
  | .here offset => .ok (.inside (start + offset))
  | .symbol name =>
      match lastOffset? symbols name with
      | some offset => .ok (.inside offset)
      | none => outside name
  | .routine name => outside name

/-- Checks one relocation of a function: its kind, its place, which has to lie in
the function's own code, and its target. -/
def inspect (symbols : List (String × Nat)) (external : RelocationTarget → Option Address)
    (function : CompiledFunction) (start : Nat) (r : Relocation) :
    Except LinkProblem ResolvedTarget :=
  match r.kind.width? with
  | none => .error (.unsupported r.kind function.name (start + r.offset))
  | some width =>
      if function.code.length < r.offset + width then
        .error (.misplaced r.kind function.name r.offset (start + r.offset))
      else resolve symbols external start r.target

/-- The problems among results, in order. -/
def problemsOf (results : List (Except LinkProblem ResolvedTarget)) : List LinkProblem :=
  results.filterMap fun
    | .error problem => some problem
    | .ok _ => none

/-- The targets among results, in order. -/
def targetsOf (results : List (Except LinkProblem ResolvedTarget)) : List ResolvedTarget :=
  results.filterMap fun
    | .error _ => none
    | .ok target => some target

/-- Places functions and resolves their relocations. `external` gives the address
of what no function defines. -/
def build (functions : List CompiledFunction)
    (external : RelocationTarget → Option Address) : Attempt Plan :=
  let starts := startsFrom 0 functions
  let symbols := (functions.map CompiledFunction.name).zip starts
  let results := (functions.zip starts).map fun (function, start) =>
    function.relocations.map (inspect symbols external function start)
  let problems := LinkProblem.distinct [] (results.flatMap problemsOf)
  ⟨problems.map LinkProblem.message,
    if problems = [] then .ok ⟨starts, results.map targetsOf, symbols, endFrom 0 functions⟩
    else .error (LinkProblem.summary problems)⟩

/-- The offset of the function with a name. -/
def symbolOffset? (plan : Plan) (name : String) : Option Nat := lastOffset? plan.symbols name

end Plan

end JitHost
