import JitHost.Address

/-!
# Compiled functions and their relocations

A compiled function is its name, its code and the places in the code that depend
on where things lie. Each such place has a kind, which says what is written
there, a target and an addend.
-/

namespace JitHost

/-- The kinds of relocations. Those that can be applied have constructors, every
other one is kept by its name. -/
inductive RelocationKind where
  | abs4
  | abs8
  | x86PCRel4
  | x86CallPCRel4
  | x86CallPLTRel4
  | arm64Call
  | other (name : String)
  deriving DecidableEq

namespace RelocationKind

/-- The kind with a name. -/
def ofName (name : String) : RelocationKind :=
  if name = "Abs4" then abs4
  else if name = "Abs8" then abs8
  else if name = "X86PCRel4" then x86PCRel4
  else if name = "X86CallPCRel4" then x86CallPCRel4
  else if name = "X86CallPLTRel4" then x86CallPLTRel4
  else if name = "Arm64Call" then arm64Call
  else other name

/-- The name of a kind that cannot be applied, as messages show it: without the
mark of its architecture. -/
def shortName (name : String) : String :=
  if name = "Arm32Call" then "Call"
  else if name = "Aarch64Ld64GotLo12Nc" then "Aarch64AdrGotLo12Nc"
  else
    match name.toList with
    | 'X' :: '8' :: '6' :: rest => String.ofList rest
    | 'S' :: '3' :: '9' :: '0' :: 'x' :: rest => String.ofList rest
    | _ => name

/-- A kind as messages show it. -/
def text : RelocationKind → String
  | abs4 => "Abs4"
  | abs8 => "Abs8"
  | x86PCRel4 => "PCRel4"
  | x86CallPCRel4 => "CallPCRel4"
  | x86CallPLTRel4 => "CallPLTRel4"
  | arm64Call => "Call"
  | other name => shortName name

/-- The number of bytes that a kind rewrites, none if it cannot be applied. -/
def width? : RelocationKind → Option Nat
  | abs8 => some 8
  | abs4 | x86PCRel4 | x86CallPCRel4 | x86CallPLTRel4 | arm64Call => some 4
  | other _ => none

/-- The kinds that write a distance in a field of 32 bits. -/
def isDistance : RelocationKind → Bool
  | x86PCRel4 | x86CallPCRel4 | x86CallPLTRel4 => true
  | _ => false

/-- The kinds that count from the site. -/
def isRelative (kind : RelocationKind) : Bool := kind.isDistance || kind == arm64Call

end RelocationKind

/-- What a relocation refers to: a named symbol, a runtime routine that the
compiler calls on its own, or a place in the same function. -/
inductive RelocationTarget where
  | symbol (name : String)
  | routine (name : String)
  | here (offset : Nat)
  deriving DecidableEq

/-- A place in a function's code that depends on where things lie. -/
structure Relocation where
  offset : Nat
  kind : RelocationKind
  target : RelocationTarget
  addend : Int
  deriving DecidableEq

/-- The machine code of one function, not yet placed. -/
structure CompiledFunction where
  name : String
  code : List UInt8
  relocations : List Relocation
  deriving DecidableEq

end JitHost
