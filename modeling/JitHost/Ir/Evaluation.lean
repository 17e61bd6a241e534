import JitHost.Ir.Function
import JitHost.Number.Arithmetic

/-!
# Evaluation of operations

The results of operations on bit patterns. Integers wrap around at the width of
their type, and floating-point numbers are rounded once.
-/

namespace JitHost.Ir

open Number

/-- The floating-point format of a type. -/
def Ty.format : Ty → Format
  | .f32 => .single
  | _ => .double

/-- A pattern cut to the width of a type. -/
def Ty.cut (ty : Ty) (pattern : Nat) : Nat := pattern % 2 ^ ty.width

/-- The signed integer of a pattern. -/
def Ty.toInt (ty : Ty) (pattern : Nat) : Int := (pattern : Int).bmod (2 ^ ty.width)

/-- The pattern of an integer. -/
def Ty.ofInt (ty : Ty) (value : Int) : Nat := (value % 2 ^ ty.width).toNat

/-- The pattern with every bit changed. -/
def Ty.complement (ty : Ty) (pattern : Nat) : Nat := 2 ^ ty.width - 1 - ty.cut pattern

/-- The result of an operation on one value. -/
def UnaryOp.eval (ty : Ty) (x : Nat) : UnaryOp → Nat
  | ineg => ty.ofInt (-x)
  | bnot => ty.complement x
  | fneg => ty.format.neg x
  | fabs => ty.format.abs x
  | sqrt => ty.format.sqrt x
  | ceil => ty.format.integral .up x
  | floor => ty.format.integral .down x
  | trunc => ty.format.integral .zero x
  | nearest => ty.format.integral .nearest x

/-- The result of an operation on two values. Shifts go by the second one modulo
the width of the first. -/
def BinaryOp.eval (ty : Ty) (x y : Nat) : BinaryOp → Nat
  | iadd => ty.cut (x + y)
  | isub => ty.ofInt (x - y)
  | imul => ty.cut (x * y)
  | band => x &&& y
  | bor => x ||| y
  | bxor => x ^^^ y
  | ishl => ty.cut (x <<< (y % ty.width))
  | ushr => x >>> (y % ty.width)
  | sshr => ty.ofInt (ty.toInt x >>> (y % ty.width))
  | smin => if ty.toInt y < ty.toInt x then y else x
  | umax => max x y
  | fadd => ty.format.add x y
  | fsub => ty.format.sub x y
  | fmul => ty.format.mul x y
  | fdiv => ty.format.div x y
  | fmin => ty.format.min x y
  | fmax => ty.format.max x y

/-- The result of a conversion of a value of type `source`. -/
def CastOp.eval (source ty : Ty) (x : Nat) : CastOp → Nat
  | signExtend => ty.ofInt (source.toInt x)
  | zeroExtend => x
  | reduce => ty.cut x
  | ofSigned => ty.format.ofInt (source.toInt x)

/-- Whether a condition holds for two integers. -/
def IntCondition.holds (ty : Ty) (x y : Nat) : IntCondition → Bool
  | eq => x = y
  | ne => x ≠ y
  | slt => ty.toInt x < ty.toInt y
  | sle => ty.toInt x ≤ ty.toInt y
  | sgt => ty.toInt y < ty.toInt x
  | sge => ty.toInt y ≤ ty.toInt x
  | ult => x < y
  | ule => x ≤ y
  | ugt => y < x
  | uge => y ≤ x

/-- Whether a condition holds for two floating-point numbers. -/
def FloatCondition.holds (condition : FloatCondition) (ty : Ty) (x y : Nat) : Bool :=
  match ty.format.compare? x y with
  | none => condition.unordered
  | some .lt => condition.less
  | some .eq => condition.equal
  | some .gt => condition.greater

end JitHost.Ir
