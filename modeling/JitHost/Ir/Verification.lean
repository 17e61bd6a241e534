import JitHost.Ir.Flow
import JitHost.Ir.Opcode

/-!
# Verification

What is wrong with a function that could be read: blocks that do not end as they
should, references to blocks that do not exist, values used where they are not
defined yet, and values of wrong types. Some complaints end the verification.
-/

namespace JitHost.Ir

/-- A complaint about a function; after a fatal one there are no more. -/
structure Complaint where
  message : String
  fatal : Bool

/-- The complaints up to the first fatal one. -/
def upToFatal : List Complaint → List Complaint
  | [] => []
  | c :: rest => if c.fatal then [c] else c :: upToFatal rest

/-- A complaint if a condition does not hold. -/
def complainUnless (holds fatal : Bool) (message : String) : List Complaint :=
  if holds then [] else [⟨message, fatal⟩]

/-- The name of a type. -/
def Ty.name (ty : Ty) : String :=
  ((Ty.table.find? fun entry => entry.2 = ty).map Prod.fst).getD ""

/-- The types that an operand may have: one, or those of a set. -/
inductive Requirement where
  | exactly (ty : Ty)
  | among (types : TypeSet)

/-- Whether a type is what is required. -/
def Requirement.meets (ty : Ty) : Requirement → Bool
  | exactly wanted => ty = wanted
  | among types => types.contains ty

namespace Operation

/-- What is required of the operands that are always there, at a controlling
type. -/
def requirements (control : Ty) : Operation → List (Nat × Requirement)
  | unary _ x | addImm x _ | compareImm _ x _ | slotStore x _ _ | callIndirect _ x _
  | branch x _ _ => [(x, .exactly control)]
  | binary op x y =>
      [(x, .exactly control), (y, if op.isShift then .among .int else .exactly control)]
  | compare _ x y | compareFloat _ x y => [(x, .exactly control), (y, .exactly control)]
  | select c x y => [(c, .among .int), (x, .exactly control), (y, .exactly control)]
  | fused x y z => [(x, .exactly control), (y, .exactly control), (z, .exactly control)]
  | cast _ _ x => [(x, .among .int)]
  | load _ _ address _ => [(address, .among .address)]
  | store _ x address _ => [(x, .exactly control), (address, .among .address)]
  | _ => []

end Operation

namespace Function

variable (f : Function)

/-- Where values are defined: the number of the block, and how far into it;
parameters are defined before the first instruction. -/
def definitions : List (Nat × Nat × Nat) :=
  f.blocks.flatMap fun block =>
    block.params.map (fun param => (param.1, block.number, 0)) ++
      (block.body.zipIdx 1).flatMap fun (instruction, place) =>
        instruction.results.map fun result => (result, block.number, place)

/-- Complaints about the parameters of the entry, which are those of the
function. -/
def entryComplaints : List Complaint :=
  match f.blocks with
  | [] => []
  | entry :: _ =>
      let found := entry.params.map Prod.snd
      if found.length ≠ f.signature.params.length then
        [⟨"entry block parameters (" ++ toString found.length ++
          ") must match function signature (" ++ toString f.signature.params.length ++ ")", true⟩]
      else
        (found.zip f.signature.params).flatMap fun (ty, wanted) =>
          complainUnless (ty = wanted) false ("entry block parameter has type " ++ ty.name ++
            ", expected " ++ wanted.name)

/-- Complaints about the use of values before their definition. A value has to be
defined on every way to its use. -/
def useComplaints (reachable : List Nat) (definitions : List (Nat × Nat × Nat))
    (block place : Nat) (operation : Operation) : List Complaint :=
  if block ∈ reachable then
    operation.operands.flatMap fun x =>
      let defined := match definitions.lookup x with
        | some (home, made) => if home = block then made < place else f.dominates home block
        | none => false
      complainUnless defined true ("uses value v" ++ toString x ++ " from non-dominating place")
  else []

/-- Complaints about the blocks that an operation refers to. -/
def targetComplaints (operation : Operation) : List Complaint :=
  operation.targets.flatMap fun target =>
    let entry := (f.blocks.head?.map Block.number) = some target.block
    complainUnless (f.block? target.block).isSome true
      ("invalid block reference block" ++ toString target.block) ++
    complainUnless (!entry) true
      ("invalid reference to entry block block" ++ toString target.block)

/-- Complaints about values given for parameters of the given types. -/
def argumentComplaints (wanted : List Ty) (args : List Nat) : List Complaint :=
  ((args.zip wanted).flatMap fun (x, ty) =>
    complainUnless (f.type? x = some ty) false
      ("arg v" ++ toString x ++ " has wrong type, expected " ++ ty.name)) ++
  complainUnless (args.length = wanted.length) false
    ("mismatched argument count: got " ++ toString args.length ++ ", expected " ++
      toString wanted.length)

/-- The values that an operation hands over, with the types of what takes them. -/
def handedOver : Operation → List (List Ty × List Nat)
  | .call callee args =>
      match f.callees.lookup callee with
      | some (_, signature) => [(signature.params, args)]
      | none => []
  | .callIndirect number _ args =>
      match f.signatures.lookup number with
      | some signature => [(signature.params, args)]
      | none => []
  | .ret args => [(f.signature.results, args)]
  | operation => operation.targets.filterMap fun target =>
      (f.block? target.block).map fun block => (block.params.map Prod.snd, target.args)

/-- The controlling type of an instruction, for operations that have one. -/
def controlOf? (instruction : Instruction) : Option Ty :=
  if instruction.operation.controlledByOperand then
    instruction.operation.controlOperand?.bind f.type?
  else instruction.results.head?.bind f.type?

/-- Complaints about the types of an instruction. -/
def typeComplaints (instruction : Instruction) : List Complaint :=
  let operation := instruction.operation
  let control := (f.controlOf? instruction).getD .i64
  let controlled := match operation.controlTypes? with
    | some types => complainUnless (types.contains control) false
        ("has an invalid controlling type " ++ control.name)
    | none => []
  let fixed := (operation.requirements control).flatMap fun (x, requirement) =>
    complainUnless (((f.type? x).map fun ty => requirement.meets ty).getD false) false
      ("arg v" ++ toString x ++ " has wrong type")
  let handed := (f.handedOver operation).flatMap fun (wanted, args) =>
    f.argumentComplaints wanted args
  let special := match operation with
    | .symbolAddress ty _ => complainUnless (ty = .i64) false
        "global_value instruction with wrong type"
    | _ => []
  controlled ++ fixed ++ handed ++ special

/-- Complaints about the instruction at a place of a block. -/
def instructionComplaints (reachable : List Nat) (definitions : List (Nat × Nat × Nat))
    (block : Block) (place : Nat) (instruction : Instruction) : List Complaint :=
  let operation := instruction.operation
  let last := place = block.body.length
  complainUnless (!operation.isTerminator || last) true
    "a terminator instruction was encountered before the end of its block" ++
  complainUnless (operation.isTerminator || !last) true
    "block does not end in a terminator instruction" ++
  f.useComplaints reachable definitions block.number place operation ++
  f.targetComplaints operation ++
  f.typeComplaints instruction ++
  match operation with
  | .store readonly .. => complainUnless (!readonly) true "a store cannot be readonly"
  | _ => []

/-- Complaints about a block. -/
def blockComplaints (reachable : List Nat) (definitions : List (Nat × Nat × Nat))
    (block : Block) : List Complaint :=
  complainUnless (block.body ≠ []) true
    ("block" ++ toString block.number ++ " cannot be empty") ++
  (block.body.zipIdx 1).flatMap fun (instruction, place) =>
    f.instructionComplaints reachable definitions block place instruction

/-- All complaints about a function. If there are any about its entry, nothing
else is looked at. -/
def complaints : List Complaint :=
  let entry := f.entryComplaints
  if entry.isEmpty then
    let reachable := f.reached none
    let definitions := f.definitions
    upToFatal (f.blocks.flatMap (f.blockComplaints reachable definitions))
  else entry

end Function

end JitHost.Ir
