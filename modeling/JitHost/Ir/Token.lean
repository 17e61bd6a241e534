import JitHost.Text.Digits

/-!
# Tokens of the intermediate representation

A text of the intermediate representation is a sequence of tokens, comments and
characters that begin no token. Every piece knows its line and its place in the
text. Words that end in a number name entities, such as the third value or the
type of 64 bits.
-/

namespace JitHost.Ir

/-- The types of values. -/
inductive Ty where
  | i8
  | i16
  | i32
  | i64
  | f32
  | f64
  deriving DecidableEq, Repr

namespace Ty

/-- All types with their names. -/
def table : List (String × Ty) :=
  [("i8", i8), ("i16", i16), ("i32", i32), ("i64", i64), ("f32", f32), ("f64", f64)]

/-- The number of bits of a type. -/
def width : Ty → Nat
  | i8 => 8
  | i16 => 16
  | i32 | f32 => 32
  | i64 | f64 => 64

/-- Whether a type has integers. -/
def isInt : Ty → Bool
  | f32 | f64 => false
  | _ => true

/-- Whether a type has floating-point numbers. -/
def isFloat (ty : Ty) : Bool := !ty.isInt

end Ty

/-- The kinds of numbered entities. -/
inductive Entity where
  | value
  | block
  | slot
  | symbol
  | signature
  | function
  | namespace
  deriving DecidableEq, Repr

namespace Entity

/-- The kind that a word's letters stand for. -/
def ofLetters? (letters : String) : Option Entity :=
  [("v", value), ("block", block), ("ss", slot), ("gv", symbol), ("sig", signature),
    ("fn", function), ("u", Entity.namespace)].lookup letters

end Entity

/-- A token. Numbers keep their text. -/
inductive Token where
  | mark (c : Char)
  | arrow
  | integer (text : String)
  | float (text : String)
  | ty (ty : Ty)
  | entity (kind : Entity) (number : Nat)
  | name (text : String)
  | word (text : String)
  deriving DecidableEq, Repr

/-- A piece of a text: a token, or a comment, which is passed over, or a character
that begins no token. -/
inductive Content where
  | token (t : Token)
  | comment
  | stray
  deriving DecidableEq, Repr

/-- A piece with its line, counted from one, and the places of its begin and end,
counted in characters. -/
structure Piece where
  content : Content
  line : Nat
  start : Nat
  stop : Nat
  deriving Repr

/-- Characters of words. -/
def isWordChar (c : Char) : Bool := c.isAlphanum || c = '_'

/-- Characters that may follow the first one of a number. -/
def isNumberChar (c : Char) : Bool := isWordChar c || c = '-' || c = '.'

/-- Characters that are tokens of their own. -/
def isMark (c : Char) : Bool := c ∈ "()\x7b\x7d[],.:=!*".toList

/-- Blanks between tokens. -/
def isGap (c : Char) : Bool := c = ' ' || ('\x09' ≤ c && c ≤ '\x0d')

/-- The letters of a word and the number at its end, written without needless
zeros. -/
def splitNumber? (word : List Char) : Option (String × Nat) :=
  let digits := (word.reverse.takeWhile Char.isDigit).reverse
  let number := Text.digitsValue digits
  if digits = [] ∨ (1 < digits.length ∧ digits.head? = some '0') ∨ 2 ^ 32 ≤ number then none
  else some (String.ofList (word.take (word.length - digits.length)), number)

/-- The token of a word: a type, an entity, or the word itself. -/
def wordToken (word : List Char) : Token :=
  let text := String.ofList word
  match Ty.table.lookup text with
  | some ty => .ty ty
  | none =>
      match splitNumber? word with
      | some (letters, number) =>
          match Entity.ofLetters? letters with
          | some kind => .entity kind number
          | none => .word text
      | none => .word text

/-- Whether a text begins with one of the words for special numbers. -/
def startsSpecial : List Char → Bool
  | 'N' :: 'a' :: 'N' :: _ => true
  | 'I' :: 'n' :: 'f' :: _ => true
  | _ => false

/-- The token of a number that `sign` precedes, and its length. A point or a
special word makes it a floating-point number. -/
def numberToken (sign text : List Char) : Token × Nat :=
  let body := text.takeWhile isNumberChar
  let whole := String.ofList (sign ++ body)
  (if '.' ∈ body ∨ startsSpecial text then .float whole else .integer whole,
    sign.length + body.length)

/-- What a sign begins: an arrow, a number, or a mark. -/
def signToken (c : Char) (text : List Char) : Token × Nat :=
  match c, text with
  | '-', '>' :: _ => (.arrow, 2)
  | _, d :: _ => if d.isAlphanum ∨ d = '.' then numberToken [c] text else (.mark c, 1)
  | _, [] => numberToken [c] text

/-- The content of the piece that begins with a character, and its length. -/
def scanPiece (c : Char) (text : List Char) : Content × Nat :=
  let token (scanned : Token × Nat) : Content × Nat := (.token scanned.1, scanned.2)
  if c = ';' then (.comment, 1 + (text.takeWhile (· ≠ '\n')).length)
  else if c = '-' ∨ c = '+' then token (signToken c text)
  else if isMark c then token (.mark c, 1)
  else if c.isDigit ∨ startsSpecial (c :: text) then token (numberToken [] (c :: text))
  else if c = '%' then
    let name := text.takeWhile isWordChar
    token (.name (String.ofList name), 1 + name.length)
  else if isWordChar c then
    let word := c :: text.takeWhile isWordChar
    token (wordToken word, word.length)
  else (.stray, 1)

/-- The pieces of a text that begins on a line and at a place. Every piece has at
least one character. -/
def piecesFrom (line place : Nat) : List Char → List Piece
  | [] => []
  | c :: text =>
      if isGap c then piecesFrom (if c = '\n' then line + 1 else line) (place + 1) text
      else
        let (content, length) := scanPiece c text
        ⟨content, line, place, place + length⟩ ::
          piecesFrom line (place + length) (text.drop (length - 1))
termination_by text => text.length
decreasing_by
  · simp
  · simp only [List.length_drop, List.length_cons]
    omega

/-- The pieces of a text. -/
def pieces (text : String) : List Piece := piecesFrom 1 0 text.toList

end JitHost.Ir
