import JitHost.Number.Arithmetic

/-!
# Numbers of the host

The host's numbers are 64-bit floating-point numbers, kept as bit patterns so
that two numbers can be told apart also where they compare equal. `Double.same`
is the numeric comparison: both zeros are the same number, and what is not a
number is not the same as anything.
-/

namespace JitHost.Number

/-- A 64-bit floating-point number. -/
structure Double where
  bits : UInt64
  deriving DecidableEq, Inhabited

/-- A 32-bit floating-point number. -/
structure Single where
  bits : UInt32
  deriving DecidableEq, Inhabited

namespace Double

/-- The number with the given pattern. -/
def ofPattern (pattern : Nat) : Double := ⟨UInt64.ofNat pattern⟩

/-- The pattern of a number. -/
def pattern (x : Double) : Nat := x.bits.toNat

/-- Positive zero. -/
def zero : Double := ⟨0⟩

/-- Whether a number is not a number. -/
def isNaN (x : Double) : Bool := Format.double.isNaN x.pattern

/-- Whether a number is one of the two zeros. -/
def isZero (x : Double) : Bool := Format.double.magnitude x.pattern = 0

/-- Whether two numbers compare equal. -/
def same (x y : Double) : Bool :=
  !x.isNaN && !y.isNaN && (x.bits == y.bits || (x.isZero && y.isZero))

/-- The number nearest to an integer. -/
def ofInt (value : Int) : Double := ofPattern (Format.double.ofInt value)

/-- The value of an integral number, none if it has a fraction or none at all. -/
def toInt? (x : Double) : Option Int :=
  match Format.double.datum x.pattern with
  | .finite negative m e =>
      if 0 ≤ e then some (Format.signed negative m e.toNat)
      else
        let unit := 2 ^ (-e).toNat
        if m % unit = 0 then some (Format.signed negative (m / unit) 0) else none
  | _ => none

end Double

namespace Single

/-- The number with the given pattern. -/
def ofPattern (pattern : Nat) : Single := ⟨UInt32.ofNat pattern⟩

/-- The pattern of a number. -/
def pattern (x : Single) : Nat := x.bits.toNat

end Single

end JitHost.Number
