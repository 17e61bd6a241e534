import JitHost.Number.Decimal
import JitHost.Text.Digits

/-!
# The written form of numbers

`Double.read?` accepts the words for infinity and for not a number in any case,
and digits with an optional sign, point and exponent. `Double.positional` writes
the shortest digits without an exponent, `Double.general` writes very large and
very small numbers with one, and `Double.text` is the form that values take when
they are converted to strings.
-/

namespace JitHost.Number

open Text

namespace Double

/-- A number from its sign and magnitude. -/
def ofMagnitude (negative : Bool) (magnitude : Nat) : Double :=
  ofPattern (Format.double.withSign negative magnitude)

/-- The exponent after an exponent mark: an optional sign and at least one
digit, up to the end of the text. -/
def readExponent? (text : List Char) : Option Int :=
  let (negative, digits) := match text with
    | '-' :: rest => (true, rest)
    | '+' :: rest => (false, rest)
    | rest => (false, rest)
  if digits = [] ∨ !digits.all Char.isDigit then none
  else
    let value : Int := digitsValue digits
    some (if negative then -value else value)

/-- The magnitude of an unsigned numeral: digits with an optional point, at
least one digit in all, then an optional exponent. -/
def readNumeral? (text : List Char) : Option Nat :=
  let whole := text.takeWhile Char.isDigit
  let (fraction, tail) := match text.dropWhile Char.isDigit with
    | '.' :: rest => (rest.takeWhile Char.isDigit, rest.dropWhile Char.isDigit)
    | rest => ([], rest)
  if whole = [] ∧ fraction = [] then none
  else
    let value (exponent : Int) : Nat :=
      Decimal.magnitude ⟨digitsValue (whole ++ fraction), exponent - fraction.length⟩
    match tail with
    | [] => some (value 0)
    | c :: rest =>
        if c = 'e' ∨ c = 'E' then (readExponent? rest).map value else none

/-- The magnitude of an unsigned number or of a word for one. -/
def readMagnitude? (text : List Char) : Option Nat :=
  match readNumeral? text with
  | some magnitude => some magnitude
  | none =>
      let word := String.ofList (text.map Char.toLower)
      if word = "inf" ∨ word = "infinity" then some Format.double.infinity
      else if word = "nan" then some (Format.double.infinity + Format.double.quietBit)
      else none

/-- The number that a text stands for, none if it is not a number's written
form. No blanks are allowed. -/
def read? (text : String) : Option Double :=
  match text.toList with
  | '-' :: rest => (readMagnitude? rest).map (ofMagnitude true)
  | '+' :: rest => (readMagnitude? rest).map (ofMagnitude false)
  | rest => (readMagnitude? rest).map (ofMagnitude false)

end Double

namespace Decimal

/-- The digits of a decimal. -/
def digitText (d : Decimal) : List Char := Nat.toDigits 10 d.digits

/-- A decimal without an exponent, with at least `places` digits after the
point; the point is left out where no digit follows. -/
def positional (d : Decimal) (places : Nat) : String :=
  let digits := d.digitText
  let whole : Int := digits.length + d.exponent
  let (front, back) :=
    if 0 ≤ d.exponent then (digits ++ List.replicate d.exponent.toNat '0', [])
    else if 0 < whole then (digits.take whole.toNat, digits.drop whole.toNat)
    else (['0'], List.replicate (-whole).toNat '0' ++ digits)
  let back := back ++ List.replicate (places - back.length) '0'
  String.ofList (if back = [] then front else front ++ '.' :: back)

/-- A decimal with one digit before the point and an exponent. -/
def scientific (d : Decimal) : String :=
  let digits := d.digitText
  let power : Int := d.exponent + digits.length - 1
  let front := match digits with
    | [] => []
    | [c] => [c]
    | c :: rest => c :: '.' :: rest
  String.ofList front ++ "e" ++ toString power

end Decimal

namespace Double

/-- The sign in front of a number's digits. -/
def signText (x : Double) : String := if Format.double.negative x.pattern then "-" else ""

/-- A number written by `layout`; zero has the one digit `0`. -/
def textWith (layout : Decimal → String) (x : Double) : String :=
  let magnitude := Format.double.magnitude x.pattern
  if x.isNaN then "NaN"
  else if magnitude = Format.double.infinity then x.signText ++ "inf"
  else x.signText ++ layout (if magnitude = 0 then ⟨0, 0⟩ else Decimal.shortest magnitude)

/-- The shortest digits that read back, without an exponent. -/
def positional (x : Double) : String := x.textWith fun d => d.positional 0

/-- The shortest digits that read back, with at least one place after the point,
or with an exponent from `10 ^ 16` up and below `10 ^ (-4)`. -/
def general (x : Double) : String :=
  x.textWith fun d =>
    let point : Int := d.exponent + d.digitText.length
    if d.digits ≠ 0 ∧ (16 < point ∨ point < -3) then d.scientific else d.positional 1

/-- The text a number is converted to: an integer below `10 ^ 15` is written as
one, which leaves a zero without its sign, and anything else by `positional`. -/
def text (x : Double) : String :=
  match x.toInt? with
  | some value => if value.natAbs < 10 ^ 15 then toString value else x.positional
  | none => x.positional

end Double

end JitHost.Number
