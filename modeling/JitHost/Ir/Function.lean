import JitHost.Ir.Token
import JitHost.Link.Relocation

/-!
# Functions of the intermediate representation

A function has a signature, declarations of what it uses, and blocks of
instructions. A block has parameters and ends in one instruction that leaves it.
Values are numbered, and each is defined once, as a parameter or as a result.
-/

namespace JitHost.Ir

/-- Operations on one value that keep its type. -/
inductive UnaryOp where
  | ineg
  | bnot
  | fneg
  | fabs
  | sqrt
  | ceil
  | floor
  | trunc
  | nearest
  deriving DecidableEq, Repr

/-- Operations on two values of one type. -/
inductive BinaryOp where
  | iadd
  | isub
  | imul
  | band
  | bor
  | bxor
  | ishl
  | ushr
  | sshr
  | smin
  | umax
  | fadd
  | fsub
  | fmul
  | fdiv
  | fmin
  | fmax
  deriving DecidableEq, Repr

/-- Conversions to another type. -/
inductive CastOp where
  | signExtend
  | zeroExtend
  | reduce
  | ofSigned
  deriving DecidableEq, Repr

/-- How two integers are compared. -/
inductive IntCondition where
  | eq
  | ne
  | slt
  | sle
  | sgt
  | sge
  | ult
  | ule
  | ugt
  | uge
  deriving DecidableEq, Repr

/-- How two floating-point numbers are compared: whether each of the four cases
less, equal, greater and unordered makes the condition true. -/
structure FloatCondition where
  less : Bool
  equal : Bool
  greater : Bool
  unordered : Bool
  deriving DecidableEq, Repr

/-- A block to continue with, and the values of its parameters. -/
structure BlockCall where
  block : Nat
  args : List Nat
  deriving DecidableEq, Repr

/-- What an instruction does. Numbers of values, slots, symbols, signatures and
functions refer to the enclosing function. -/
inductive Operation where
  | intConst (ty : Ty) (value : Nat)
  | floatConst (pattern : Nat)
  | unary (op : UnaryOp) (x : Nat)
  | binary (op : BinaryOp) (x y : Nat)
  | addImm (x : Nat) (imm : Int)
  | compare (condition : IntCondition) (x y : Nat)
  | compareImm (condition : IntCondition) (x : Nat) (imm : Int)
  | compareFloat (condition : FloatCondition) (x y : Nat)
  | select (c x y : Nat)
  | fused (x y z : Nat)
  | cast (op : CastOp) (ty : Ty) (x : Nat)
  | load (ty : Ty) (safe : Bool) (address : Nat) (offset : Int)
  | store (readonly : Bool) (x address : Nat) (offset : Int)
  | slotLoad (ty : Ty) (slot : Nat) (offset : Int)
  | slotStore (x slot : Nat) (offset : Int)
  | slotAddress (ty : Ty) (slot : Nat) (offset : Int)
  | symbolAddress (ty : Ty) (symbol : Nat)
  | functionAddress (ty : Ty) (function : Nat)
  | call (function : Nat) (args : List Nat)
  | callIndirect (signature callee : Nat) (args : List Nat)
  | jump (target : BlockCall)
  | branch (c : Nat) (nonzero zero : BlockCall)
  | ret (args : List Nat)
  deriving DecidableEq, Repr

namespace Operation

/-- The values that an operation uses, in order. -/
def operands : Operation → List Nat
  | intConst .. | floatConst _ | slotLoad .. | slotAddress .. | symbolAddress ..
  | functionAddress .. => []
  | unary _ x | addImm x _ | compareImm _ x _ | cast _ _ x | load _ _ x _ | slotStore x _ _ =>
      [x]
  | binary _ x y | compare _ x y | compareFloat _ x y | store _ x y _ => [x, y]
  | select x y z | fused x y z => [x, y, z]
  | call _ args | ret args => args
  | callIndirect _ callee args => callee :: args
  | jump target => target.args
  | branch c nonzero zero => c :: nonzero.args ++ zero.args

/-- The blocks that an operation may continue with. -/
def targets : Operation → List BlockCall
  | jump target => [target]
  | branch _ nonzero zero => [nonzero, zero]
  | _ => []

/-- Whether an operation leaves its block. -/
def isTerminator : Operation → Bool
  | jump _ | branch .. | ret _ => true
  | _ => false

/-- Whether an operation does more than give its results. -/
def hasEffect : Operation → Bool
  | load _ safe _ _ => !safe
  | store .. | slotStore .. | call .. | callIndirect .. => true
  | operation => operation.isTerminator

end Operation

/-- An instruction: its results, its operation, and the line of the operation. -/
structure Instruction where
  results : List Nat
  operation : Operation
  line : Nat
  deriving DecidableEq, Repr

/-- A block. -/
structure Block where
  number : Nat
  params : List (Nat × Ty)
  body : List Instruction
  deriving DecidableEq, Repr

/-- The types of a function's parameters and results. -/
structure Signature where
  params : List Ty
  results : List Ty
  deriving DecidableEq, Repr

/-- Something outside of a function; `near` says that it lies close to the
code. -/
structure Import where
  target : RelocationTarget
  near : Bool
  deriving DecidableEq

/-- A function. Declared things carry their numbers. -/
structure Function where
  name : String
  signature : Signature
  slots : List (Nat × Nat)
  symbols : List (Nat × Import × Int)
  signatures : List (Nat × Signature)
  callees : List (Nat × Import × Signature)
  blocks : List Block
  types : List (Nat × Ty)

namespace Function

variable (f : Function)

/-- The block with a number. -/
def block? (number : Nat) : Option Block := f.blocks.find? fun block => block.number = number

/-- The type of a value. -/
def type? (value : Nat) : Option Ty := f.types.lookup value

end Function

end JitHost.Ir
