/-!
# Blank characters

The characters with the property White_Space, and text without the blanks at its
two ends.
-/

namespace JitHost.Text

/-- Whether a character is white space: the property White_Space has these 25
characters. -/
def isBlank (c : Char) : Bool :=
  let n := c.toNat
  (0x9 ≤ n && n ≤ 0xD) || n == 0x20 || n == 0x85 || n == 0xA0 || n == 0x1680 ||
    (0x2000 ≤ n && n ≤ 0x200A) || n == 0x2028 || n == 0x2029 || n == 0x202F ||
    n == 0x205F || n == 0x3000

/-- What the core library takes for white space is blank. -/
theorem isBlank_of_isWhitespace (c : Char) (h : c.isWhitespace = true) : isBlank c = true := by
  simp only [Char.isWhitespace, Bool.or_eq_true, decide_eq_true_eq] at h
  rcases h with ((rfl | rfl) | rfl) | rfl <;> decide

/-- A list without its last elements as long as they satisfy `p`. -/
def dropLastWhile (p : Char → Bool) (text : List Char) : List Char :=
  (text.reverse.dropWhile p).reverse

/-- Text without the blanks at its ends. -/
def trimBlanks (text : String) : String :=
  String.ofList (dropLastWhile isBlank (text.toList.dropWhile isBlank))

end JitHost.Text
