import JitHost.Engine.Jit
import JitHost.Ir.Token
import JitHost.Number.Binary
import JitHost.Text.Digits

/-!
# Reading pieces

A cursor goes through the pieces of a text one token at a time. It remembers the
line of the last piece that it has looked at, comments included, which is the
line that faults are reported at.
-/

namespace JitHost.Ir

open Text

/-- A place among pieces: those not yet looked at, the token that has been looked
at but not taken, with its begin and end, the line of the last piece looked at,
the end of the last token taken, and whether a stray character was met. -/
structure Cursor where
  rest : List Piece
  ahead : Option (Token × Nat × Nat)
  line : Nat
  stop : Nat
  stray : Bool

/-- Reading from a cursor. -/
abbrev Read := StateT Cursor (Except SourceFault)

namespace Cursor

/-- A cursor in front of pieces. -/
def start (pieces : List Piece) : Cursor := ⟨pieces, none, 0, 0, false⟩

/-- Looks at pieces up to a token, a stray character or the end. -/
def pull (c : Cursor) : List Piece → Cursor
  | [] => { c with rest := [] }
  | piece :: rest =>
      match piece.content with
      | .token t =>
          { c with rest, ahead := some (t, piece.start, piece.stop), line := piece.line }
      | .comment => pull { c with line := piece.line } rest
      | .stray => { c with rest, line := piece.line, stray := true }

end Cursor

namespace Read

/-- Reports a fault at the current line. -/
def fail (message : String) : Read α := fun c => .error ⟨c.line, message⟩

/-- The line of the last piece looked at. -/
def line : Read Nat := return (← get).line

/-- The next token with its begin and end, none at the end or in front of a stray
character. -/
def look : Read (Option (Token × Nat × Nat)) := do
  let c ← get
  let c := if c.ahead.isSome then c else c.pull c.rest
  set c
  return c.ahead

/-- The next token. -/
def peek : Read (Option Token) := return (← look).map fun (t, _) => t

/-- Takes the token that was looked at. -/
def take : Read Unit := modify fun c =>
  match c.ahead with
  | some (_, _, stop) => { c with ahead := none, stop }
  | none => c

/-- Takes the next token if it is the given one. -/
def accept (t : Token) : Read Bool := do
  if (← peek) = some t then
    take
    return true
  else return false

/-- Takes the next token if it is of some kind. -/
def take? (kind : Token → Option α) : Read (Option α) := do
  match (← peek).bind kind with
  | some a =>
      take
      return some a
  | none => return none

/-- Takes the next token, which has to be of some kind. -/
def expect (kind : Token → Option α) (message : String) : Read α := do
  match ← take? kind with
  | some a => return a
  | none => fail message

/-- Takes a mark. -/
def expectMark (c : Char) : Read Unit :=
  expect (fun t => if t = .mark c then some () else none) ("expected '" ++ c.toString ++ "'")

/-- The number of an entity of a kind. -/
def numberOf (kind : Entity) : Token → Option Nat
  | .entity found number => if found = kind then some number else none
  | _ => none

/-- The type in a type token. -/
def typeOf : Token → Option Ty
  | .ty ty => some ty
  | _ => none

/-- The text of a word token. -/
def wordOf : Token → Option String
  | .word text => some text
  | _ => none

/-- The text of an integer token. -/
def integerOf : Token → Option String
  | .integer text => some text
  | _ => none

/-- The text of a number token with a fraction. -/
def floatOf : Token → Option String
  | .float text => some text
  | _ => none

/-- The value of an optional result, or a fault. -/
def need (message : String) : Option α → Read α
  | some a => pure a
  | none => fail message

end Read

/-! ## Numbers -/

/-- A sign, negative or not, and the text after it. -/
def splitSign : List Char → Bool × List Char
  | '-' :: text => (true, text)
  | '+' :: text => (false, text)
  | text => (false, text)

/-- Digits without the underscores that group them. -/
def ungrouped (digits : List Char) : List Char := digits.filter (· ≠ '_')

/-- A 64-bit immediate: hexadecimal of up to sixteen digits, or decimal. The range
is that of signed and that of unsigned words together; a negative number may not
wrap to a positive one. -/
def immediate? (text : String) : Option Int :=
  let (negative, body) := splitSign text.toList
  let magnitude := match body with
    | '0' :: 'x' :: digits =>
        let digits := ungrouped digits
        if 16 < digits.length then none else natural? 16 digits
    | digits => natural? 10 (ungrouped digits)
  magnitude.bind fun value =>
    if 2 ^ 64 ≤ value then none
    else if negative then if value ≤ 2 ^ 63 then some (-value) else none
    else some ((value : Int).bmod (2 ^ 64))

/-- An immediate of fewer than 64 bits, as a pattern. The digits without their
sign have to fit, and a negative number may not wrap to a positive one. -/
def shortImmediate? (width : Nat) (text : String) : Option Nat :=
  let (negative, body) := splitSign text.toList
  let magnitude := match body with
    | '0' :: 'x' :: digits => natural? 16 (ungrouped digits)
    | digits => natural? 10 digits
  magnitude.bind fun value =>
    if 2 ^ width ≤ value then none
    else if negative then
      if value ≤ 2 ^ (width - 1) then some ((2 ^ width - value) % 2 ^ width) else none
    else some value

/-- A signed 32-bit offset, which has a sign. -/
def offset? (text : String) : Option Int :=
  (immediate? text).bind fun value =>
    if -2 ^ 31 ≤ value ∧ value < 2 ^ 31 then some value else none

open Number in
/-- The pattern of a hexadecimal significand times a power of two, which the
format has to hold exactly. -/
def exactPattern? (f : Format) (significand : Nat) (exponent : Int) : Option Nat :=
  if significand = 0 then some 0
  else
    let pattern := f.ofDyadic false significand exponent
    match f.datum pattern with
    | .finite _ m e =>
        let least := min e exponent
        if m * 2 ^ (e - least).toNat = significand * 2 ^ (exponent - least).toNat then
          some pattern
        else none
    | _ => none

open Number in
/-- The pattern of a floating-point constant: zero, a special word, or
hexadecimal digits with an optional point and an optional power of two. -/
def floatPattern? (f : Format) (text : String) : Option Nat :=
  let (negative, body) := splitSign text.toList
  let magnitude := match body with
    | ['0', '.', '0'] => some 0
    | ['I', 'n', 'f'] => some f.infinity
    | ['N', 'a', 'N'] => some (f.infinity + f.quietBit)
    | '0' :: 'x' :: digits => do
        let significand := digits.takeWhile (· ≠ 'p')
        let whole := significand.takeWhile (· ≠ '.')
        let places := (significand.drop whole.length).drop 1
        let value ← natural? 16 (whole ++ places)
        let power ← match digits.dropWhile (· ≠ 'p') with
          | [] => some 0
          | _ :: power =>
              let (negative, power) := splitSign power
              (natural? 10 power).map fun n => if negative then -(n : Int) else n
        if power < -2 ^ 15 ∨ 2 ^ 15 ≤ power ∨ 32 < whole.length + places.length then none
        else exactPattern? f value (power - 4 * places.length)
    | _ => none
  magnitude.map (f.withSign negative)

end JitHost.Ir
