import JitHost.Number.Literal
import JitHost.Toml.Scan
import JitHost.Toml.Value

/-!
# TOML scalars

Strings of the four forms, integers in four bases, numbers with a fraction or an
exponent, and dates and times.
-/

namespace JitHost.Toml

open Number Text Scan

/-- Blanks within a line. -/
def isSpace (c : Char) : Bool := c = ' ' || c = '\t'

/-- Characters that stand for themselves everywhere: no controls but the tab. -/
def isPlain (c : Char) : Bool := c = '\t' || (0x20 ≤ c.toNat && c.toNat ≠ 0x7F)

/-- Blanks, maybe none. -/
def spaces : Scan Unit := do
  let _ ← takeWhile isSpace

/-- The end of a line. -/
def newline : Scan Unit := char '\n' <|> chars ['\r', '\n']

/-! ## Strings -/

/-- The value of digits in a base. -/
def digitsIn (base : Nat) (digits : List Char) : Nat := (natural? base digits).getD 0

/-- The character with the code point in the next `width` digits. -/
def codePoint (width : Nat) : Scan Char := do
  let value := digitsIn 16 (← count (fun c => (digit? 16 c).isSome) width)
  if value.isValidChar then return Char.ofNat value else failure

/-- A character after a backslash. -/
def escaped : Scan Char := do
  char '\\'
  match ← next with
  | 'b' => return '\x08'
  | 't' => return '\t'
  | 'n' => return '\n'
  | 'f' => return '\x0c'
  | 'r' => return '\r'
  | '"' => return '"'
  | '\\' => return '\\'
  | 'u' => codePoint 4
  | 'U' => codePoint 8
  | _ => failure

/-- A character of a basic string. -/
def basicChar : Scan Char :=
  satisfy (fun c => isPlain c && c ≠ '"' && c ≠ '\\') <|> escaped

/-- A character of a literal string. -/
def literalChar : Scan Char := satisfy fun c => isPlain c && c ≠ '\''

/-- A basic string on one line. -/
def basicString : Scan (List Char) := do
  char '"'
  let body ← many basicChar
  char '"'
  return body

/-- A literal string on one line. -/
def literalString : Scan (List Char) := do
  char '\''
  let body ← many literalChar
  char '\''
  return body

/-- A backslash at the end of a line, which drops all blanks and line ends up to
the next other character. -/
def continuation : Scan Unit := do
  char '\\'
  spaces
  newline
  let _ ← many (newline <|> (do let _ ← takeWhile1 isSpace))

/-- A piece of a basic string on several lines. Every line end counts as a line
feed. -/
def basicPiece : Scan (List Char) :=
  (do return [← basicChar]) <|> (do newline; return ['\n']) <|> (do continuation; return [])

/-- A piece of a literal string on several lines. -/
def literalPiece : Scan (List Char) :=
  (do return [← literalChar]) <|> (do newline; return ['\n'])

/-- One or two quotes before something else. -/
def fewQuotes (quote : Char) (follower : Scan Unit) : Scan (List Char) :=
  (do
    chars [quote, quote]
    peek follower
    return [quote, quote]) <|>
  (do
    char quote
    peek follower
    return [quote])

/-- A string between three quotes on each side. A line end right at its begin is
dropped, and up to two quotes may stand anywhere, also right before its end. -/
def multiline (quote : Char) (piece : Scan (List Char)) : Scan (List Char) := do
  let fence := chars [quote, quote, quote]
  fence
  let _ ← optional newline
  let pieces ← many (piece <|> fewQuotes quote (do let _ ← piece))
  let last ← optional (fewQuotes quote fence)
  fence
  return pieces.flatten ++ last.getD []

/-- A string of any form. -/
def string : Scan Value := do
  let body ← multiline '"' basicPiece <|> basicString <|>
    multiline '\'' literalPiece <|> literalString
  return .text (String.ofList body)

/-! ## Numbers -/

/-- Whether a sign is negative. -/
def sign : Scan Bool := (do char '-'; return true) <|> (do char '+'; return false) <|> pure false

/-- Digits with single underscores between them. -/
def digitRun (p : Char → Bool) : Scan (List Char) := do
  let first ← satisfy p
  let rest ← many (satisfy p <|> (do char '_'; satisfy p))
  return first :: rest

/-- Decimal digits without needless zeros in front. -/
def wholeDigits : Scan (List Char) :=
  (do
    peek (do let _ ← satisfy fun c => c.isDigit && c ≠ '0')
    digitRun Char.isDigit) <|>
  (do char '0'; return ['0'])

/-- An integer that fits in 64 bits. -/
def fitting (value : Int) : Scan Value :=
  if -2 ^ 63 ≤ value ∧ value < 2 ^ 63 then return .integer value else failure

/-- An integer after the mark of its base. -/
def basedInteger (mark : Char) (base : Nat) : Scan Value := do
  chars ['0', mark]
  let digits ← digitRun fun c => (digit? base c).isSome
  fitting (digitsIn base digits)

/-- An integer. -/
def integer : Scan Value :=
  basedInteger 'x' 16 <|> basedInteger 'o' 8 <|> basedInteger 'b' 2 <|> do
    let negative ← sign
    let value : Int := digitsValue (← wholeDigits)
    fitting (if negative then -value else value)

/-- An exponent with its mark. -/
def exponent : Scan (List Char) := do
  char 'e' <|> char 'E'
  let negative ← sign
  let digits ← digitRun Char.isDigit
  return 'e' :: (if negative then ['-'] else []) ++ digits

/-- A fraction with its point. -/
def fraction : Scan (List Char) := do
  char '.'
  return '.' :: (← digitRun Char.isDigit)

/-- A number with a fraction, an exponent or both. Positive ones that are too
large are refused. -/
def floatNumeral : Scan Value := do
  let negative ← sign
  let whole ← wholeDigits
  let tail ← exponent <|> do
    let places ← fraction
    return places ++ ((← optional exponent).getD [])
  match Double.readNumeral? (whole ++ tail) with
  | none => failure
  | some magnitude =>
      if magnitude = Format.double.infinity ∧ negative = false then failure
      else return .float (Double.ofMagnitude negative magnitude)

/-- One of the words for infinity and for not a number. -/
def floatWord : Scan Value := do
  let negative ← sign
  let magnitude ← (do chars ['i', 'n', 'f']; return Format.double.infinity) <|>
    (do chars ['n', 'a', 'n']; return Format.double.infinity + Format.double.quietBit)
  return .float (Double.ofMagnitude negative magnitude)

/-! ## Dates and times -/

/-- A number of exactly `width` digits between two bounds. -/
def bounded (width least greatest : Nat) : Scan Nat := do
  let value := digitsValue (← count Char.isDigit width)
  if least ≤ value ∧ value ≤ greatest then return value else failure

/-- The number of days of a month. -/
def daysIn (year month : Nat) : Nat :=
  if month = 2 then
    if year % 4 = 0 ∧ (year % 100 ≠ 0 ∨ year % 400 = 0) then 29 else 28
  else if month ∈ [4, 6, 9, 11] then 30
  else 31

/-- A day of a year. -/
def day : Scan Unit := do
  let year ← bounded 4 0 9999
  char '-'
  let month ← bounded 2 1 12
  char '-'
  let _ ← bounded 2 1 (daysIn year month)

/-- A time of day; its last minute may have a leap second. -/
def time : Scan Unit := do
  let _ ← bounded 2 0 23
  char ':'
  let _ ← bounded 2 0 59
  char ':'
  let _ ← bounded 2 0 60
  let _ ← optional (do char '.'; takeWhile1 Char.isDigit)

/-- The distance of a time zone. -/
def zone : Scan Unit :=
  char 'Z' <|> char 'z' <|> do
    char '+' <|> char '-'
    let _ ← bounded 2 0 23
    char ':'
    let _ ← bounded 2 0 59

/-- A date, a time or both. -/
def moment : Scan Value := do
  (do
    day
    let _ ← optional do
      char 'T' <|> char 't' <|> char ' '
      time
      let _ ← optional zone) <|> time
  return .date

/-! ## Scalars -/

/-- A truth value. -/
def boolean : Scan Value :=
  (do chars ['t', 'r', 'u', 'e']; return .boolean true) <|>
  (do chars ['f', 'a', 'l', 's', 'e']; return .boolean false)

/-- A value without parts. Longer forms of what begins with digits come first. -/
def scalar : Scan Value :=
  string <|> boolean <|> moment <|> floatNumeral <|> floatWord <|> integer

end JitHost.Toml
