import JitHost.Text.Digits
import JitHost.Text.Unshown

/-!
# Quoted text

The form of a string in a diagnostic print: between double quotes, with the
usual escapes, and a number for every character that would not show.
-/

namespace JitHost.Text

/-- A character inside quoted text. -/
def quoteChar (c : Char) : String :=
  if c = '\x00' then "\\0"
  else if c = '\t' then "\\t"
  else if c = '\r' then "\\r"
  else if c = '\n' then "\\n"
  else if c = '"' then "\\\""
  else if c = '\\' then "\\\\"
  else if isUnshown c then "\\u\x7b" ++ hexDigits c.toNat ++ "\x7d"
  else c.toString

/-- Text between quotes. -/
def quote (text : String) : String :=
  "\"" ++ String.join (text.toList.map quoteChar) ++ "\""

end JitHost.Text
