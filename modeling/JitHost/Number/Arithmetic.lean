import JitHost.Number.Binary

/-!
# Floating-point arithmetic

Addition, multiplication, division, square root, fused multiply-add, rounding
to an integer and comparison on bit patterns of any format. Each operation
computes its exact result over the integers and rounds it once; the cases for
infinities, zeros and not-a-number come first. An operand that is not a number
is answered with itself, made quiet.
-/

namespace JitHost.Number

/-- The natural number whose square is the greatest one not above `n`. -/
def squareRoot (n : Nat) : Nat :=
  if h : n = 0 then 0
  else
    let r := 2 * squareRoot (n / 4)
    if (r + 1) * (r + 1) ≤ n then r + 1 else r
termination_by n
decreasing_by omega

/-- Which integer a number is rounded to. -/
inductive Direction where
  | down
  | up
  | zero
  | nearest
  deriving DecidableEq, Repr

namespace Format

variable (f : Format)

/-- A not-a-number pattern made quiet. -/
def quiet (bits : Nat) : Nat :=
  if bits / f.quietBit % 2 = 1 then bits else bits + f.quietBit

/-- The pattern with the opposite sign. -/
def neg (bits : Nat) : Nat := f.withSign (!f.negative bits) (f.magnitude bits)

/-- The pattern with a positive sign. -/
def abs (bits : Nat) : Nat := f.magnitude bits

/-- The signed integer `±significand * 2 ^ shift`. -/
def signed (negative : Bool) (significand : Nat) (shift : Nat) : Int :=
  let value : Int := (significand * 2 ^ shift : Nat)
  if negative then -value else value

/-- The exact sum of two finite numbers, rounded. A sum of zero is negative only
if both terms are. -/
def addFinite (s : Bool) (m : Nat) (e : Int) (t : Bool) (n : Nat) (g : Int) : Nat :=
  let k := min e g
  let sum := signed s m (e - k).toNat + signed t n (g - k).toNat
  if sum = 0 then f.withSign (s && t) 0
  else f.ofDyadic (sum < 0) sum.natAbs k

/-- The sum of two numbers. -/
def add (a b : Nat) : Nat :=
  match f.datum a, f.datum b with
  | .nan, _ => f.quiet a
  | _, .nan => f.quiet b
  | .infinite s, .infinite t => if s = t then a else f.invalid
  | .infinite _, .finite .. => a
  | .finite .., .infinite _ => b
  | .finite s m e, .finite t n g => f.addFinite s m e t n g

/-- The difference of two numbers. -/
def sub (a b : Nat) : Nat := if f.isNaN b then f.add a b else f.add a (f.neg b)

/-- The product of two numbers. -/
def mul (a b : Nat) : Nat :=
  match f.datum a, f.datum b with
  | .nan, _ => f.quiet a
  | _, .nan => f.quiet b
  | .infinite s, .infinite t => f.withSign (s != t) f.infinity
  | .infinite s, .finite t n _ =>
      if n = 0 then f.invalid else f.withSign (s != t) f.infinity
  | .finite s m _, .infinite t =>
      if m = 0 then f.invalid else f.withSign (s != t) f.infinity
  | .finite s m e, .finite t n g => f.ofDyadic (s != t) (m * n) (e + g)

/-- The quotient of two numbers. -/
def div (a b : Nat) : Nat :=
  match f.datum a, f.datum b with
  | .nan, _ => f.quiet a
  | _, .nan => f.quiet b
  | .infinite _, .infinite _ => f.invalid
  | .infinite s, .finite t _ _ => f.withSign (s != t) f.infinity
  | .finite s _ _, .infinite t => f.withSign (s != t) 0
  | .finite s m e, .finite t n g =>
      if n = 0 then
        if m = 0 then f.invalid else f.withSign (s != t) f.infinity
      else
        let (num, den) := scaleDown m n (g - e)
        f.withSign (s != t) (f.roundMagnitude num den)

/-- The square root of a positive dyadic number, rounded. The radicand is scaled
by an even power of two until its root has two digits more than the format; one
further digit says whether the root is exact. -/
def sqrtFinite (m : Nat) (e : Int) : Nat :=
  let odd := (e % 2).toNat
  let radicand := m * 2 ^ odd
  let extra := 2 * f.precision + 4 - radicand.log2
  let digits := (extra + 1) / 2
  let scaled := radicand * 4 ^ digits
  let root := squareRoot scaled
  let sticky := if root * root = scaled then 0 else 1
  f.ofDyadic false (2 * root + sticky) ((e - odd) / 2 - digits - 1)

/-- The square root of a number. -/
def sqrt (a : Nat) : Nat :=
  match f.datum a with
  | .nan => f.quiet a
  | .infinite s => if s then f.invalid else a
  | .finite s m e =>
      if m = 0 then a else if s then f.invalid else f.sqrtFinite m e

/-- `a * b + c`, rounded once. -/
def fma (a b c : Nat) : Nat :=
  match f.datum a, f.datum b, f.datum c with
  | .nan, _, _ => f.quiet a
  | _, .nan, _ => f.quiet b
  | .finite s m e, .finite t n g, .finite u k h =>
      f.addFinite (s != t) (m * n) (e + g) u k h
  | .finite .., .finite .., _ => if f.isNaN c then f.quiet c else c
  | _, _, .nan => f.quiet c
  | _, _, .infinite _ => f.add (f.mul a b) c
  | _, _, .finite .. => f.mul a b

/-- The integer that a finite number is rounded to, less its sign. -/
def integralPart (direction : Direction) (negative : Bool) (m : Nat) (unit : Nat) : Nat :=
  let quotient := m / unit
  match direction with
  | .zero => quotient
  | .down => if negative ∧ m % unit ≠ 0 then quotient + 1 else quotient
  | .up => if ¬negative ∧ m % unit ≠ 0 then quotient + 1 else quotient
  | .nearest => roundHalfEven m unit

/-- A number rounded to an integer in the given direction; the sign is kept, also
that of a zero. -/
def integral (direction : Direction) (a : Nat) : Nat :=
  match f.datum a with
  | .nan => f.quiet a
  | .infinite _ => a
  | .finite s m e =>
      if 0 ≤ e then a
      else f.ofDyadic s (integralPart direction s m (2 ^ (-e).toNat)) 0

/-- A number's place among the numbers: the signed magnitude of its pattern. -/
def rank (a : Nat) : Int :=
  if f.negative a then -(f.magnitude a : Int) else f.magnitude a

/-- The order of two numbers, none if either is not one. -/
def compare? (a b : Nat) : Option Ordering :=
  if f.isNaN a || f.isNaN b then none else some (compare (f.rank a) (f.rank b))

/-- The lesser of two numbers; a negative zero is less than a positive one. -/
def min (a b : Nat) : Nat :=
  if f.isNaN a then f.quiet a
  else if f.isNaN b then f.quiet b
  else if f.rank a < f.rank b then a
  else if f.rank b < f.rank a then b
  else if f.negative a then a else b

/-- The greater of two numbers; a positive zero is greater than a negative one. -/
def max (a b : Nat) : Nat :=
  if f.isNaN a then f.quiet a
  else if f.isNaN b then f.quiet b
  else if f.rank a < f.rank b then b
  else if f.rank b < f.rank a then a
  else if f.negative a then b else a

end Format

end JitHost.Number
