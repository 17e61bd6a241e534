import JitHost.Text.Blank

/-!
# Lines of a text

A text is cut after each line feed. `lineSpan?` gives the place of a line in
bytes, without the line feeds and carriage returns at its end.
-/

namespace JitHost.Text

/-- A range of bytes. -/
structure Span where
  offset : Nat
  length : Nat
  deriving DecidableEq, Repr

/-- The pieces of a text, each with the line feed that ends it. The last piece
has none if the text does not end in one. -/
def pieces : List Char → List (List Char)
  | [] => []
  | c :: rest =>
      if c = '\n' then [c] :: pieces rest
      else
        match pieces rest with
        | [] => [[c]]
        | piece :: others => (c :: piece) :: others

/-- The length of characters in bytes. -/
def byteLength (text : List Char) : Nat := text.foldl (fun size c => size + c.utf8Size) 0

/-- Whether a character ends lines. -/
def isLineEnd (c : Char) : Bool := c = '\n' || c = '\r'

/-- The place of the `line`-th of some pieces that begin at `offset`; lines are
counted from one. -/
def spanFrom? (offset : Nat) : List (List Char) → Nat → Option Span
  | [], _ => none
  | _ :: _, 0 => none
  | piece :: _, 1 => some ⟨offset, byteLength (dropLastWhile isLineEnd piece)⟩
  | piece :: others, line + 2 => spanFrom? (offset + byteLength piece) others (line + 1)

/-- The place of a line in a text. -/
def lineSpan? (source : String) (line : Nat) : Option Span :=
  spanFrom? 0 (pieces source.toList) line

end JitHost.Text
