import JitHost.Number.Double

/-!
# Decimal notation of numbers

`Decimal.magnitude` reads a decimal as the nearest 64-bit number, and
`Decimal.shortest` finds the decimal with the fewest digits that is read back as
a given number. The search asks the reader itself whether a candidate reads
back, so the two agree by construction.
-/

namespace JitHost.Number

/-- The decimal `digits * 10 ^ exponent`. -/
structure Decimal where
  digits : Nat
  exponent : Int
  deriving DecidableEq, Repr

namespace Decimal

/-- The magnitude of the 64-bit number nearest to a decimal. Exponents so large
or so small that they decide the answer alone are answered first, which keeps
the powers of ten in proportion to the text. -/
def magnitude (d : Decimal) : Nat :=
  if d.digits = 0 then 0
  else if 400 < d.exponent then Format.double.infinity
  else if d.exponent + d.digits.log2 < -400 then 0
  else if 0 ≤ d.exponent then
    Format.double.roundMagnitude (d.digits * 10 ^ d.exponent.toNat) 1
  else Format.double.roundMagnitude d.digits (10 ^ (-d.exponent).toNat)

/-- Numerator and denominator of a finite magnitude. -/
def ratio (magnitude : Nat) : Nat × Nat :=
  let (m, e) := Format.double.finiteParts magnitude
  scaleDown m 1 (-e)

/-- The number of decimal digits of a natural number, none for zero. -/
def digitCount (n : Nat) : Nat :=
  if h : n = 0 then 0 else digitCount (n / 10) + 1
termination_by n
decreasing_by omega

/-- The exponent `p` with `10 ^ (p - 1) ≤ num / den < 10 ^ p`, for a positive
quotient: the number of digits before the decimal point, or less the number of
zeros after it. -/
def pointPosition (num den : Nat) : Int :=
  if den ≤ num then digitCount (num / den)
  else 1 - (digitCount ((den + num - 1) / num - 1) : Int)

/-- The decimal on the grid `10 ^ exponent` that reads back as `magnitude`: the
neighbour below or above, the nearer one if both do, and the one above if they
are equally near. -/
def onGrid? (magnitude num den : Nat) (exponent : Int) : Option Decimal :=
  let (n, d) :=
    if 0 ≤ exponent then (num, den * 10 ^ exponent.toNat)
    else (num * 10 ^ (-exponent).toNat, den)
  let below : Decimal := ⟨n / d, exponent⟩
  let above : Decimal := ⟨n / d + 1, exponent⟩
  let reads (c : Decimal) : Bool := c.magnitude = magnitude
  match reads below, reads above with
  | true, true => some (if 2 * (n % d) < d then below else above)
  | true, false => some below
  | false, true => some above
  | false, false => none

/-- A decimal without the zeros at the end of its digits. -/
def trimZeros (digits : Nat) (exponent : Int) : Decimal :=
  if h : digits = 0 ∨ digits % 10 ≠ 0 then ⟨digits, exponent⟩
  else trimZeros (digits / 10) (exponent + 1)
termination_by digits
decreasing_by omega

/-- All digits of a finite magnitude. -/
def exact (magnitude : Nat) : Decimal :=
  let (m, e) := Format.double.finiteParts magnitude
  if 0 ≤ e then ⟨m * 2 ^ e.toNat, 0⟩ else ⟨m * 5 ^ (-e).toNat, e⟩

/-- The decimal with the fewest digits that reads back as a finite positive
magnitude; of those the nearest. Seventeen digits always suffice, and all digits
would if they did not. -/
def shortest (magnitude : Nat) : Decimal :=
  let (num, den) := ratio magnitude
  let point := pointPosition num den
  let found := (List.range 17).findSome? fun n =>
    onGrid? magnitude num den (point - (n + 1 : Nat))
  let d := found.getD (exact magnitude)
  trimZeros d.digits d.exponent

end Decimal

end JitHost.Number
