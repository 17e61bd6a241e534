import JitHost.Ir.Function

/-!
# Opcodes

The words for operations, the form of their operands, and the types that each is
made for. An operation works at one controlling type: that of one of its operands,
or the one written after its word.
-/

namespace JitHost.Ir

/-- The form in which the operands of an operation are written. -/
inductive Form where
  | intConst
  | floatConst
  | unary (op : UnaryOp)
  | binary (op : BinaryOp)
  | addImm
  | compare
  | compareImm
  | compareFloat
  | select
  | fused
  | cast (op : CastOp)
  | load
  | store
  | slotLoad
  | slotStore
  | slotAddress
  | symbolAddress
  | functionAddress
  | call
  | callIndirect
  | jump
  | branch
  | ret
  deriving DecidableEq, Repr

/-- The words for operations. -/
def Form.table : List (String × Form) := [
  ("iconst", .intConst), ("f64const", .floatConst),
  ("ineg", .unary .ineg), ("bnot", .unary .bnot), ("fneg", .unary .fneg),
  ("fabs", .unary .fabs), ("sqrt", .unary .sqrt), ("ceil", .unary .ceil),
  ("floor", .unary .floor), ("trunc", .unary .trunc), ("nearest", .unary .nearest),
  ("iadd", .binary .iadd), ("isub", .binary .isub), ("imul", .binary .imul),
  ("band", .binary .band), ("bor", .binary .bor), ("bxor", .binary .bxor),
  ("ishl", .binary .ishl), ("ushr", .binary .ushr), ("sshr", .binary .sshr),
  ("smin", .binary .smin), ("umax", .binary .umax),
  ("fadd", .binary .fadd), ("fsub", .binary .fsub), ("fmul", .binary .fmul),
  ("fdiv", .binary .fdiv), ("fmin", .binary .fmin), ("fmax", .binary .fmax),
  ("iadd_imm", .addImm), ("icmp", .compare), ("icmp_imm", .compareImm),
  ("fcmp", .compareFloat), ("select", .select), ("fma", .fused),
  ("sextend", .cast .signExtend), ("uextend", .cast .zeroExtend), ("ireduce", .cast .reduce),
  ("fcvt_from_sint", .cast .ofSigned),
  ("load", .load), ("store", .store), ("stack_load", .slotLoad), ("stack_store", .slotStore),
  ("stack_addr", .slotAddress), ("symbol_value", .symbolAddress),
  ("func_addr", .functionAddress), ("call", .call), ("call_indirect", .callIndirect),
  ("jump", .jump), ("brif", .branch), ("return", .ret)]

/-- The words for comparisons of integers. -/
def IntCondition.table : List (String × IntCondition) := [
  ("eq", .eq), ("ne", .ne), ("slt", .slt), ("sle", .sle), ("sgt", .sgt), ("sge", .sge),
  ("ult", .ult), ("ule", .ule), ("ugt", .ugt), ("uge", .uge)]

/-- The words for comparisons of floating-point numbers, with the cases less,
equal, greater and unordered. -/
def FloatCondition.table : List (String × FloatCondition) := [
  ("ord", ⟨true, true, true, false⟩), ("uno", ⟨false, false, false, true⟩),
  ("eq", ⟨false, true, false, false⟩), ("ne", ⟨true, false, true, true⟩),
  ("one", ⟨true, false, true, false⟩), ("ueq", ⟨false, true, false, true⟩),
  ("lt", ⟨true, false, false, false⟩), ("le", ⟨true, true, false, false⟩),
  ("gt", ⟨false, false, true, false⟩), ("ge", ⟨false, true, true, false⟩),
  ("ult", ⟨true, false, false, true⟩), ("ule", ⟨true, true, false, true⟩),
  ("ugt", ⟨false, false, true, true⟩), ("uge", ⟨false, true, true, true⟩)]

/-- Sets of types. -/
inductive TypeSet where
  | int
  | wideInt
  | float
  | address
  | any
  deriving DecidableEq, Repr

/-- Whether a type is in a set. -/
def TypeSet.contains : TypeSet → Ty → Bool
  | int, ty => ty.isInt
  | wideInt, ty => ty.isInt && ty ≠ .i8
  | float, ty => ty.isFloat
  | address, ty => ty = .i32 || ty = .i64
  | any, _ => true

/-- The types that an operation on one value is made for. -/
def UnaryOp.types : UnaryOp → TypeSet
  | ineg => .int
  | bnot => .any
  | _ => .float

/-- The types that an operation on two values is made for. -/
def BinaryOp.types : BinaryOp → TypeSet
  | band | bor | bxor => .any
  | fadd | fsub | fmul | fdiv | fmin | fmax => .float
  | _ => .int

/-- Whether the second operand of an operation may have another type than the
first one. -/
def BinaryOp.isShift : BinaryOp → Bool
  | ishl | ushr | sshr => true
  | _ => false

/-- The types that a conversion may give. -/
def CastOp.types : CastOp → TypeSet
  | signExtend | zeroExtend => .wideInt
  | reduce => .int
  | ofSigned => .float

namespace Operation

/-- The types that may control an operation; operations that do not depend on a
type have none. -/
def controlTypes? : Operation → Option TypeSet
  | intConst .. | addImm .. | compare .. | compareImm .. | branch .. => some .int
  | unary op _ => some op.types
  | binary op .. => some op.types
  | compareFloat .. | fused .. => some .float
  | select .. | load .. | store .. | slotLoad .. | slotStore .. | symbolAddress .. => some .any
  | cast op .. => some op.types
  | slotAddress .. | functionAddress .. | callIndirect .. => some .address
  | floatConst _ | call .. | jump _ | ret _ => none

/-- The operand whose type controls an operation if no type is written. -/
def controlOperand? : Operation → Option Nat
  | unary _ x | binary _ x _ | addImm x _ | compare _ x _ | compareImm _ x _
  | compareFloat _ x _ | select _ x _ | fused x _ _ | store _ x _ _ | slotStore x _ _
  | callIndirect _ x _ | branch x _ _ => some x
  | _ => none

/-- Whether an operation takes its controlling type from its operand also where
another type is written. -/
def controlledByOperand : Operation → Bool
  | compare .. | compareImm .. | compareFloat .. | store .. | slotStore .. | callIndirect ..
  | branch .. => true
  | _ => false

/-- The types of the results of an operation of a function at a type. -/
def resultTypes (f : Function) (control : Ty) : Operation → List Ty
  | floatConst _ => [.f64]
  | compare .. | compareImm .. | compareFloat .. => [.i8]
  | call callee _ =>
      match f.callees.lookup callee with
      | some (_, signature) => signature.results
      | none => []
  | callIndirect signature _ _ =>
      match f.signatures.lookup signature with
      | some signature => signature.results
      | none => []
  | store .. | slotStore .. | jump _ | branch .. | ret _ => []
  | _ => [control]

end Operation

end JitHost.Ir
