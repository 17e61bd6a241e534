import JitHost.Text.Digits

/-!
# Scanners

A scanner takes something off the front of a text or refuses. A choice tries its
second scanner on the same text if the first refuses, and a repetition ends where
its scanner refuses or takes nothing.
-/

namespace JitHost

/-- Takes an `α` off the front of a text. -/
abbrev Scan := StateT (List Char) Option

namespace Scan

/-- The next character. -/
def next : Scan Char := fun
  | [] => none
  | c :: rest => some (c, rest)

/-- The next character, which has to satisfy `p`. -/
def satisfy (p : Char → Bool) : Scan Char := do
  let c ← next
  if p c then return c else failure

/-- A given character. -/
def char (c : Char) : Scan Unit := do
  let _ ← satisfy (· = c)

/-- Given characters. -/
def chars : List Char → Scan Unit
  | [] => pure ()
  | c :: rest => do
      char c
      chars rest

/-- The end of the text. -/
def atEnd : Scan Unit := fun
  | [] => some ((), [])
  | _ :: _ => none

/-- What comes next, left in place. -/
def peek (p : Scan α) : Scan α := fun text => (p text).map fun (a, _) => (a, text)

/-- The characters that satisfy `p`, as many as there are. -/
def takeWhile (p : Char → Bool) : Scan (List Char) := fun text =>
  some (text.takeWhile p, text.dropWhile p)

/-- At least one character that satisfies `p`. -/
def takeWhile1 (p : Char → Bool) : Scan (List Char) := do
  let taken ← takeWhile p
  if taken = [] then failure else return taken

/-- All that a scanner takes from a text one after another, and what is left. -/
def repeated (p : Scan α) (text : List Char) : List α × List Char :=
  match p text with
  | none => ([], text)
  | some (a, rest) =>
      if rest.length < text.length then
        let (more, rest) := repeated p rest
        (a :: more, rest)
      else ([], text)
termination_by text.length

/-- Repeats a scanner. -/
def many (p : Scan α) : Scan (List α) := fun text => some (repeated p text)

/-- Repeats a scanner, with another one between each two. -/
def separated (p : Scan α) (separator : Scan Unit) : Scan (List α) := do
  match ← optional p with
  | none => return []
  | some first => return first :: (← many (separator *> p))

/-- A given number of characters that satisfy `p`. -/
def count (p : Char → Bool) : Nat → Scan (List Char)
  | 0 => pure []
  | n + 1 => do
      let c ← satisfy p
      return c :: (← count p n)

end Scan

end JitHost
