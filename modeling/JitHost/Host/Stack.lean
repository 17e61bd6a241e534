import JitHost.Host.Error
import JitHost.Value.Heap

/-!
# The value stack

All activations of native functions share one stack. The running one sees the
values from `base` up, its frame: index 1 is the first of them, and negative
indices count down from the top. An operation that fails records a message; the
first one recorded is kept until a call reports it.
-/

namespace JitHost

open Text

/-- The state of the host: the stack, where the current frame begins, how many
values may lie on the stack, the message recorded and not yet reported, and the
tables. -/
structure Host where
  stack : Array Value
  base : Nat
  limit : Nat
  pending : Option String
  heap : Heap

namespace Host

/-- The number of values a stack may hold unless it is configured otherwise. -/
def defaultLimit : Nat := 1000000

/-- A host with an empty stack on which `limit` values fit. -/
def new (limit : Nat) : Host := ⟨#[], 0, limit, none, .empty⟩

variable (h : Host)

/-- The number of values in the frame. -/
def top : Nat := h.stack.size - h.base

/-- The values of the frame, the first one first. -/
def frame : List Value := h.stack.toList.drop h.base

/-- A value on top of the frame. -/
def push (value : Value) : Host := { h with stack := h.stack.push value }

/-- The top value of the frame and the frame without it; nil if it is empty. -/
def pop : Value × Host :=
  if h.base < h.stack.size then
    (h.stack.back?.getD .nil, { h with stack := h.stack.pop })
  else (.nil, h)

/-- The place on the stack of a valid index. -/
def slot? (index : Int) : Option Nat :=
  if 0 < index then
    let place := h.base + (index.toNat - 1)
    if place < h.stack.size then some place else none
  else if index < 0 then
    let back := index.natAbs
    if back ≤ h.stack.size - h.base then some (h.stack.size - back) else none
  else none

/-- The value at a valid index. -/
def get? (index : Int) : Option Value := (h.slot? index).bind fun place => h.stack[place]?

/-- The value at an index, nil if the index is not valid. -/
def value (index : Int) : Value := (h.get? index).getD .nil

/-- The kind of the value at an index. -/
def kind (index : Int) : Kind := (h.value index).kind

/-- Records a message unless one is recorded already. -/
def raise (message : String) : Host :=
  { h with pending := h.pending <|> some message }

/-- The stack cut or filled with nil to a size. -/
def resize (size : Nat) : Host :=
  { h with stack := h.stack.take size ++ Array.replicate (size - h.stack.size) .nil }

/-- Sets the size of the frame. A negative index `-n - 1` drops `n` values, at
most as many as there are. -/
def setTop (index : Int) : Host :=
  if 0 ≤ index then h.resize (h.base + index.toNat)
  else h.resize (max (h.stack.size - (index.natAbs - 1)) h.base)

/-- Moves the top value to an index. -/
def replace (index : Int) : Host :=
  match h.slot? index with
  | none => h.raise ("invalid stack index " ++ toString index)
  | some place =>
      let (value, rest) := h.pop
      { rest with stack := rest.stack.setIfInBounds place value }

/-- Whether `extra` more values fit on the stack. -/
def fits (extra : Nat) : Bool := h.stack.size + extra ≤ h.limit

/-- The string at an index; a number there is first replaced by its text. -/
def toText (index : Int) : Option Bytes × Host :=
  match h.slot? index with
  | none => (none, h)
  | some place =>
      match h.stack[place]? with
      | some (.string bytes) => (some bytes, h)
      | some (.number n) =>
          let bytes := Bytes.ofText n.text
          (some bytes, { h with stack := h.stack.setIfInBounds place (.string bytes) })
      | _ => (none, h)

/-- The message for a value that is not a table. -/
def indexFault (kind : Kind) : String := "attempt to index a " ++ kind.name ++ " value"

/-- Pushes the value under `key` of the table at an index, nil if there is no
table; also gives the kind of what was pushed. -/
def getField (index : Int) (key : Value) : Kind × Host :=
  match h.value index with
  | .table id =>
      let found := h.heap.get id key
      (found.kind, h.push found)
  | other => (.nil, (h.raise (indexFault other.kind)).push .nil)

/-- Pops a value and assigns it to `key` of the table that was at an index. -/
def setField (index : Int) (key : Value) : Host :=
  let target := h.value index
  let (value, rest) := h.pop
  match target with
  | .table id =>
      match rest.heap.set id key value with
      | .ok heap => { rest with heap }
      | .error fault => rest.raise fault.message
  | other => rest.raise (indexFault other.kind)

/-- Pushes a new table. -/
def createTable : Host :=
  let (id, heap) := h.heap.create .empty
  { h with heap, stack := h.stack.push (.table id) }

end Host

end JitHost
