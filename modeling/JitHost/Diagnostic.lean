import JitHost.Text.Digits

/-!
# Diagnostics about a source text

A diagnostic names the source it is about and, if it is about the form of the
text, a line. `Diagnostic.text` writes it and `Diagnostic.line?` finds the line
number of a written one.
-/

namespace JitHost

open Text

/-- What is wrong with a source text. -/
inductive Diagnostic where
  | atLine (line : Nat) (message : String)
  | inFunction (name message : String)
  | redefinition (name : String)
  deriving DecidableEq

namespace Diagnostic

/-- The word for the source text. -/
def sourceMark : String := "<source>:"

/-- A diagnostic as it is reported. -/
def text : Diagnostic → String
  | atLine line message => sourceMark ++ toString line ++ ": error: " ++ message
  | inFunction name message =>
      sourceMark ++ " error: in function '" ++ name ++ "': " ++ message
  | redefinition name => sourceMark ++ " error: redefinition of '" ++ name ++ "'"

/-- The text after another one that begins it. -/
def after? : List Char → List Char → Option (List Char)
  | [], text => some text
  | _ :: _, [] => none
  | c :: cs, d :: ds => if c = d then after? cs ds else none

/-- The line number of a reported diagnostic: what stands between the mark of the
source and the next colon, if that is a number. -/
def line? (diagnostic : String) : Option Nat :=
  (after? sourceMark.toList diagnostic.toList).bind fun rest =>
    if ':' ∈ rest then readCount? (rest.takeWhile (· ≠ ':')) else none

end Diagnostic

end JitHost
