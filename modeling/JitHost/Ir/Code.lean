import JitHost.Ir.Reader
import JitHost.Ir.Verification
import JitHost.Text.Bytes
import JitHost.Word

/-!
# Code of functions

The code of a function is its own text, preceded by its length, and then a table
with one entry for each thing outside that the function uses. The entries are
written when the function is linked: an address, or for what lies close to the
code the distance from the end of the entry's field. `frontEnd` makes code of
all functions of a text, and `Loaded.read?` reads it back.
-/

namespace JitHost.Ir

open Text

/-- Something outside of a function that it uses, by the number of its
declaration. -/
inductive Reference where
  | callee (number : Nat)
  | symbol (number : Nat)
  deriving DecidableEq, Repr

/-- What an operation refers to. -/
def Operation.reference? : Operation → Option Reference
  | call number _ | functionAddress _ number => some (.callee number)
  | symbolAddress _ number => some (.symbol number)
  | _ => none

/-- The instructions of a list that matter: those with an effect, and those with
a result that a later one uses. Also the values that they use. -/
def liveInstructions : List Instruction → List Instruction × List Nat
  | [] => ([], [])
  | instruction :: rest =>
      let (kept, used) := liveInstructions rest
      if instruction.operation.hasEffect || instruction.results.any (· ∈ used) then
        (instruction :: kept, instruction.operation.operands ++ used)
      else (kept, used)

namespace Function

variable (f : Function)

/-- What a function refers to, in the order of its layout. -/
def references : List Reference :=
  ((liveInstructions (f.layout.flatMap Block.body)).1.filterMap fun instruction =>
    instruction.operation.reference?).eraseDups

/-- The declaration of a reference, with what is added to its address. -/
def declaration? : Reference → Option (Import × Int)
  | .callee number => (f.callees.lookup number).map fun (found, _) => (found, 0)
  | .symbol number => f.symbols.lookup number

/-- The relocation of the table entry at a place. -/
def relocation? (place : Nat) (reference : Reference) : Option Relocation :=
  (f.declaration? reference).map fun (found, addend) =>
    if found.near then ⟨place, .x86CallPCRel4, found.target, addend - 4⟩
    else ⟨place, .abs8, found.target, addend⟩

/-- The code of a function with the given text, and its relocations. -/
def code (text : String) : List UInt8 × List Relocation :=
  let bytes := Bytes.ofText text
  let references := f.references
  (littleEndian 8 bytes.length ++ bytes ++ List.replicate (8 * references.length) 0,
    (references.zipIdx).filterMap fun (reference, k) =>
      f.relocation? (8 + bytes.length + 8 * k) reference)

/-- Whether the results of a signature fit in registers: two integers and two
floating-point numbers do. -/
def fitsRegisters (signature : Signature) : Bool :=
  (signature.results.filter Ty.isInt).length ≤ 2 &&
    (signature.results.filter Ty.isFloat).length ≤ 2

/-- Compiles a function with the given text. -/
def compile (verify : Bool) (text : String) :
    Except (List String) (List UInt8 × List Relocation) :=
  let complaints := if verify then f.complaints else []
  if complaints ≠ [] then .error (complaints.map Complaint.message)
  else if (f.signature :: f.signatures.map Prod.snd).all fitsRegisters then .ok (f.code text)
  else .error ["Unsupported feature: Too many return values to fit in registers"]

end Function

/-- Reads and compiles all functions of a text. -/
def frontEnd (verify : Bool) : FrontEnd := fun text => do
  let found ← Function.readAll text
  return found.map fun (f, own) => ⟨f.name, f.compile verify own⟩

/-- A function that has been loaded: what it is and the addresses of what it refers
to, its types by value, and how many values it may have. -/
structure Loaded where
  function : Function
  addresses : List (Reference × Address)
  types : Array Ty
  valueCount : Nat

namespace Loaded

/-- The address in the table entry of a reference at a place of the code, which
lies at `base`. -/
def entryAddress (f : Function) (base : Address) (code : Array UInt8) (place : Nat)
    (reference : Reference) : Address :=
  match f.declaration? reference with
  | some (⟨_, true⟩, _) =>
      let distance := (ofLittleEndian (readAt code place 4) : Int).bmod (2 ^ 32)
      UInt64.ofInt (base.toNat + place + 4 + distance)
  | _ => UInt64.ofNat (ofLittleEndian (readAt code place 8))

/-- Reads the function at a place of code that lies at `base`. -/
def read? (base : Address) (code : Array UInt8) (start : Nat) : Option Loaded := do
  let length := ofLittleEndian (readAt code start 8)
  let text ← Bytes.text? (readAt code (start + 8) length)
  match Function.readAll text with
  | .ok [(f, _)] =>
      let table := start + 8 + length
      let addresses := (f.references.zipIdx).map fun (reference, k) =>
        (reference, entryAddress f base code (table + 8 * k) reference)
      let count := (f.types.map fun entry => entry.1 + 1).foldl max 0
      let types := f.types.foldl (fun types entry => types.setIfInBounds entry.1 entry.2)
        (Array.replicate count .i64)
      return ⟨f, addresses, types, count⟩
  | _ => none

end Loaded

end JitHost.Ir
