import JitHost.Toml.Scalar

/-!
# Reading TOML documents

`read?` gives the entries of a document, none if the text breaks the grammar or
the rules for tables. Values nest to a limited depth.
-/

namespace JitHost.Toml

open Scan

/-- A comment up to the end of its line. -/
def comment : Scan Unit := do
  char '#'
  let _ ← takeWhile isPlain

/-- The end of a line or of the text. -/
def lineEnd : Scan Unit := newline <|> atEnd

/-- What may stand after the content of a line. -/
def lineRest : Scan Unit := do
  spaces
  let _ ← optional comment
  lineEnd

/-- Blanks, line ends and comments, maybe none. -/
def gap : Scan Unit := do
  let _ ← many (newline <|> (do let _ ← takeWhile1 isSpace) <|> comment)

/-- Characters of keys without quotes. -/
def isKeyChar (c : Char) : Bool := c.isAlphanum || c = '_' || c = '-'

/-- How deep containers may nest and how many parts a dotted key may have. -/
def depthLimit : Nat := 79

/-- A key without dots, with the blanks around it. -/
def simpleKey : Scan String := do
  spaces
  let key ← basicString <|> literalString <|> takeWhile1 isKeyChar
  spaces
  return String.ofList key

/-- A dotted key: its path and its last part. -/
def key : Scan (List String × String) := do
  let parts ← separated simpleKey (char '.')
  if depthLimit < parts.length then failure
  else
    match parts.getLast? with
    | none => failure
    | some last => return (parts.dropLast, last)

/-- An assignment with a value read by `value`. -/
def assignment (value : Scan Value) : Scan (List String × String × Value) := do
  let (path, last) ← key
  char '='
  spaces
  return (path, last, ← value)

/-- An array with elements read by `element`. -/
def array (element : Scan Value) : Scan Value := do
  char '['
  let elements ← separated (gap *> element <* gap) (char ',')
  if elements.length ≠ 0 then
    let _ ← optional (char ',')
  gap
  char ']'
  return .array elements

/-- An inline table with values read by `value`. -/
def inlineTable (value : Scan Value) : Scan Value := do
  char '\x7b'
  let assignments ← separated (assignment value <* spaces) (char ',')
  spaces
  char '\x7d'
  match Value.ofAssignments assignments with
  | some table => return table
  | none => failure

/-- A value in which containers nest to at most the given depth. -/
def value : Nat → Scan Value
  | 0 => scalar
  | depth + 1 => scalar <|> array (value depth) <|> inlineTable (value depth)

/-- A header: one pair of brackets for a table, two for an element of a list. -/
def header : Scan Line :=
  (do
    chars ['[', '[']
    let (path, last) ← key
    chars [']', ']']
    return .element path last) <|>
  (do
    char '['
    let (path, last) ← key
    char ']'
    return .header path last)

/-- A line with its end. -/
def line : Scan Line := do
  spaces
  (do newline; return .blank) <|>
    (do comment; lineEnd; return .blank) <|>
    (do
      let found ← header <|> do
        let (path, last, value) ← assignment (value depthLimit)
        return .assignment path last value
      lineRest
      return found)

/-- A whole document; a byte order mark in front of it is passed over. -/
def document : Scan (List Line) := do
  let _ ← optional (char '\uFEFF')
  let lines ← many line
  spaces
  atEnd
  return lines

/-- The entries of a document. -/
def read? (text : String) : Option Entries := do
  let (lines, _) ← document text.toList
  Document.build lines

end JitHost.Toml
