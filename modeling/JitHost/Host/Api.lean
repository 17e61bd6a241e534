import JitHost.Host.Stack

/-!
# The callbacks of compiled code

Compiled code works on the host through nineteen callbacks. Each has a name,
under which code refers to it, an address, and a meaning on the host. Strings
come in as optional byte strings, none standing for the null pointer, and are
read up to their first zero byte.
-/

namespace JitHost

open Number Text

/-- The callbacks, in the order in which they are offered to a session. -/
inductive Callback where
  | checkStack
  | pushNumber
  | toNumber
  | setTop
  | getTop
  | error
  | pushBoolean
  | toBoolean
  | toText
  | toPointer
  | pushString
  | getField
  | setField
  | pushNil
  | rawGetPointer
  | rawSetPointer
  | pushValue
  | createTable
  | replace
  deriving DecidableEq, Repr

namespace Callback

/-- All callbacks in order. -/
def all : List Callback := [
  checkStack, pushNumber, toNumber, setTop, getTop, error, pushBoolean, toBoolean, toText,
  toPointer, pushString, getField, setField, pushNil, rawGetPointer, rawSetPointer,
  pushValue, createTable, replace]

/-- The name of a callback. -/
def name : Callback → String
  | checkStack => "host_checkstack"
  | pushNumber => "host_pushnumber"
  | toNumber => "host_tonumberx"
  | setTop => "host_settop"
  | getTop => "host_gettop"
  | error => "host_error"
  | pushBoolean => "host_pushboolean"
  | toBoolean => "host_toboolean"
  | toText => "host_tolstring"
  | toPointer => "host_topointer"
  | pushString => "host_pushstring"
  | getField => "host_getfield"
  | setField => "host_setfield"
  | pushNil => "host_pushnil"
  | rawGetPointer => "host_rawgetp"
  | rawSetPointer => "host_rawsetp"
  | pushValue => "host_pushvalue"
  | createTable => "host_createtable"
  | replace => "host_replace"

/-- Where the callbacks lie, 16 bytes apart. -/
def firstAddress : Address := 0x550000000000

/-- The address of a callback. -/
def address (callback : Callback) : Address :=
  firstAddress.after (16 * all.idxOf callback)

/-- The callback at an address. -/
def at? (place : Address) : Option Callback := all.find? fun callback => callback.address = place

/-- The names of the callbacks with their addresses. -/
def symbols : List (String × Address) := all.map fun callback => (callback.name, callback.address)

end Callback

namespace Host

variable (h : Host)

/-- Whether `extra` more values fit; fewer than none always counts as none. -/
def checkStack (extra : Int) : Bool := h.fits extra.toNat

/-- The number at an index, and whether there is one; zero if there is none. -/
def toNumber (index : Int) : Double × Bool :=
  match (h.value index).toNumber? with
  | some n => (n, true)
  | none => (.zero, false)

/-- The truth of the value at an index. -/
def toBoolean (index : Int) : Bool := (h.value index).isTruthy

/-- Records a message from compiled code; the answer is the status that the code
is to return. -/
def error (message : Option Bytes) : Int × Host :=
  match message with
  | none => (-1, h.raise "error")
  | some bytes => (-1, h.raise (Bytes.lossy (Bytes.untilZero bytes)))

/-- The object at an index. -/
def identityAt (index : Int) : Identity := (h.value index).identity

/-- Pushes a copy of a string, nil for the null pointer. Also gives the copy. -/
def pushString (text : Option Bytes) : Option Bytes × Host :=
  match text with
  | none => (none, h.push .nil)
  | some bytes =>
      let copy := Bytes.untilZero bytes
      (some copy, h.push (.string copy))

/-- A string as a key; the null pointer reads as the empty string. -/
def textKey (key : Option Bytes) : Value := .string (Bytes.untilZero (key.getD []))

/-- Pushes a field named by a string; gives the kind of its value. -/
def getTextField (index : Int) (key : Option Bytes) : Kind × Host :=
  h.getField index (textKey key)

/-- Pops a value into a field named by a string. -/
def setTextField (index : Int) (key : Option Bytes) : Host := h.setField index (textKey key)

/-- Pushes a field named by a pointer; gives the kind of its value. -/
def getPointerField (index : Int) (key : Address) : Kind × Host :=
  h.getField index (.pointer key)

/-- Pops a value into a field named by a pointer. -/
def setPointerField (index : Int) (key : Address) : Host := h.setField index (.pointer key)

/-- Pushes the value at an index once more. -/
def pushValue (index : Int) : Host := h.push (h.value index)

end Host

end JitHost
