import JitHost.Word

/-!
# Digits

Numbers written with digits. A letter stands for a digit from ten on, in either
case when read and in lower case when written.
-/

namespace JitHost.Text

/-- The value of a digit in a base. -/
def digit? (base : Nat) (c : Char) : Option Nat :=
  let value :=
    if c.isDigit then c.toNat - '0'.toNat
    else if 'a' ≤ c ∧ c ≤ 'z' then c.toNat - 'a'.toNat + 10
    else if 'A' ≤ c ∧ c ≤ 'Z' then c.toNat - 'A'.toNat + 10
    else base
  if value < base then some value else none

/-- The value of one or more digits in a base. -/
def natural? (base : Nat) (digits : List Char) : Option Nat :=
  if digits = [] then none
  else digits.foldlM (fun value c => (digit? base c).map fun d => base * value + d) 0

/-- The value of a string of decimal digits. -/
def digitsValue (digits : List Char) : Nat :=
  digits.foldl (fun value c => 10 * value + (c.toNat - '0'.toNat)) 0

/-- The number that digits stand for: at least one, with an optional plus sign,
of a value that a machine word holds. -/
def readCount? (text : List Char) : Option Nat :=
  let digits := match text with
    | '+' :: rest => rest
    | rest => rest
  if digits = [] ∨ !digits.all Char.isDigit then none
  else
    let value := digitsValue digits
    if value < 2 ^ 64 then some value else none

/-- The lower-case hexadecimal digits of a number. -/
def hexDigits (n : Nat) : String := String.ofList (Nat.toDigits 16 n)

/-- A number in hexadecimal with its mark. -/
def hex (n : Nat) : String := "0x" ++ hexDigits n

/-- The hexadecimal digits of a number, with zeros before them up to a width. -/
def hexPadded (width n : Nat) : String :=
  let digits := Nat.toDigits 16 n
  String.ofList (List.replicate (width - digits.length) '0' ++ digits)

end JitHost.Text
