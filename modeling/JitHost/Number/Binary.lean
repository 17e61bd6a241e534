import JitHost.Word

/-!
# Binary floating-point formats

A format is given by its precision and the width of its exponent field. A bit
pattern is a natural number; `Format.datum` says what it stands for, and
`Format.roundMagnitude` gives the pattern nearest to a quotient of natural
numbers, a half going to the even pattern. Every operation of the library on
floating-point numbers computes an exact value first and rounds it once with
this function.
-/

namespace JitHost.Number

/-- A binary interchange format: the number of significand digits, the leading
one included, and the number of digits of the exponent field. -/
structure Format where
  precision : Nat
  exponentBits : Nat
  deriving DecidableEq, Repr

/-- The 64-bit format. -/
def Format.double : Format := ⟨53, 11⟩

/-- The 32-bit format. -/
def Format.single : Format := ⟨24, 8⟩

/-- What a bit pattern stands for. A finite number is
`significand * 2 ^ exponent`, with its sign kept apart so that both zeros have
one. -/
inductive Datum where
  | nan
  | infinite (negative : Bool)
  | finite (negative : Bool) (significand : Nat) (exponent : Int)
  deriving DecidableEq, Repr

namespace Format

variable (f : Format)

/-- Exponent of the least positive number. -/
def leastExponent : Int := 3 - (2 ^ (f.exponentBits - 1) : Nat) - f.precision

/-- The significand of the least normal number. -/
def hiddenBit : Nat := 2 ^ (f.precision - 1)

/-- The pattern of positive infinity; every greater magnitude is not a number. -/
def infinity : Nat := (2 ^ f.exponentBits - 1) * f.hiddenBit

/-- The weight of the sign in a pattern. -/
def signBit : Nat := 2 ^ f.exponentBits * f.hiddenBit

/-- The bit that marks a quiet not-a-number. -/
def quietBit : Nat := 2 ^ (f.precision - 2)

/-- The pattern that an invalid operation gives. -/
def invalid : Nat := f.signBit + f.infinity + f.quietBit

/-- A pattern less its sign. -/
def magnitude (bits : Nat) : Nat := bits % f.signBit

/-- The sign of a pattern. -/
def negative (bits : Nat) : Bool := bits / f.signBit % 2 = 1

/-- Whether a pattern is not a number. -/
def isNaN (bits : Nat) : Bool := f.infinity < f.magnitude bits

/-- The pattern with the given sign and magnitude. -/
def withSign (negative : Bool) (magnitude : Nat) : Nat :=
  if negative then f.signBit + magnitude else magnitude

/-- The value of a finite magnitude. A zero exponent field has no hidden bit. -/
def finiteParts (magnitude : Nat) : Nat × Int :=
  let field := magnitude / f.hiddenBit
  let fraction := magnitude % f.hiddenBit
  if field = 0 then (fraction, f.leastExponent)
  else (fraction + f.hiddenBit, f.leastExponent + field - 1)

/-- What a pattern stands for. -/
def datum (bits : Nat) : Datum :=
  let magnitude := f.magnitude bits
  if f.infinity < magnitude then .nan
  else if magnitude = f.infinity then .infinite (f.negative bits)
  else
    let (significand, exponent) := f.finiteParts magnitude
    .finite (f.negative bits) significand exponent

end Format

/-- The natural number nearest to `num / den`; a half goes to the even one. -/
def roundHalfEven (num den : Nat) : Nat :=
  let quotient := num / den
  let rest := num % den
  if 2 * rest < den then quotient
  else if den < 2 * rest then quotient + 1
  else if quotient % 2 = 0 then quotient
  else quotient + 1

/-- Numerator and denominator of `num / den * 2 ^ (-exponent)`. -/
def scaleDown (num den : Nat) (exponent : Int) : Nat × Nat :=
  if 0 ≤ exponent then (num, den * 2 ^ exponent.toNat)
  else (num * 2 ^ (-exponent).toNat, den)

namespace Format

variable (f : Format)

/-- Exponent of the last place of numbers near the positive `num / den`. The
binary logarithms place the quotient within two powers of two; one comparison
decides between them. -/
def lastPlace (num den : Nat) : Int :=
  let estimate := max f.leastExponent ((num.log2 : Int) - den.log2 - f.precision)
  let (n, d) := scaleDown num den estimate
  if n / d < 2 ^ f.precision then estimate else estimate + 1

/-- The magnitude `significand * 2 ^ exponent`. A significand that has reached
the next power of two carries into the exponent field by itself, and what is
too large becomes infinite. -/
def pack (significand : Nat) (exponent : Int) : Nat :=
  min ((exponent - f.leastExponent).toNat * f.hiddenBit + significand) f.infinity

/-- The magnitude nearest to `num / den`. -/
def roundMagnitude (num den : Nat) : Nat :=
  if num = 0 then 0
  else
    let exponent := f.lastPlace num den
    let (n, d) := scaleDown num den exponent
    f.pack (roundHalfEven n d) exponent

/-- The pattern nearest to `significand * 2 ^ exponent` with the given sign. -/
def ofDyadic (negative : Bool) (significand : Nat) (exponent : Int) : Nat :=
  let (num, den) := scaleDown significand 1 (-exponent)
  f.withSign negative (f.roundMagnitude num den)

/-- The pattern nearest to an integer. -/
def ofInt (value : Int) : Nat :=
  f.ofDyadic (value < 0) value.natAbs 0

end Format

end JitHost.Number
