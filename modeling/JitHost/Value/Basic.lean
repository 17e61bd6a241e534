import JitHost.Address
import JitHost.Number.Literal
import JitHost.Text.Bytes
import JitHost.Text.Blank

/-!
# Values of the host

A value is nil, a boolean, a number, a byte string, a table, a pointer or a
function. Tables live in a heap and a value holds the name of one, so that two
values may be the same table; functions are told apart by their entry address.
-/

namespace JitHost

open Number Text

/-- The name of a table in the heap. -/
structure TableId where
  index : Nat
  deriving DecidableEq, Inhabited

/-- The kinds of values. -/
inductive Kind where
  | nil
  | boolean
  | pointer
  | number
  | string
  | table
  | function
  deriving DecidableEq, Repr

/-- The word for a kind. -/
def Kind.name : Kind → String
  | .nil => "nil"
  | .boolean => "boolean"
  | .pointer => "pointer"
  | .number => "number"
  | .string => "string"
  | .table => "table"
  | .function => "function"

/-- The number by which compiled code knows a kind. -/
def Kind.tag : Kind → Nat
  | .nil => 0
  | .boolean => 1
  | .pointer => 2
  | .number => 3
  | .string => 4
  | .table => 5
  | .function => 6

/-- A value. -/
inductive Value where
  | nil
  | boolean (b : Bool)
  | number (n : Double)
  | string (bytes : Bytes)
  | table (id : TableId)
  | pointer (address : Address)
  | function (entry : Address)
  deriving DecidableEq, Inhabited

/-- What a value is as an object: nothing, an address, a table, or the bytes of
a string. -/
inductive Identity where
  | none
  | address (address : Address)
  | table (id : TableId)
  | text (bytes : Bytes)
  deriving DecidableEq

/-- Whether there is nothing, or nothing but the null address. -/
def Identity.isNull : Identity → Bool
  | none => true
  | address a => a = .null
  | _ => false

namespace Value

/-- The kind of a value. -/
def kind : Value → Kind
  | nil => .nil
  | boolean _ => .boolean
  | number _ => .number
  | string _ => .string
  | table _ => .table
  | pointer _ => .pointer
  | function _ => .function

/-- Text as a string value. -/
def ofText (text : String) : Value := string (Bytes.ofText text)

/-- Only nil and false count as false. -/
def isTruthy : Value → Bool
  | nil => false
  | boolean b => b
  | _ => true

/-- The number that a value stands for: itself, or what a string reads as
without the blanks around it. -/
def toNumber? : Value → Option Double
  | number n => some n
  | string bytes => (Bytes.text? bytes).bind fun text => Double.read? (trimBlanks text)
  | _ => none

/-- The value of an argument on a command line: a number if it reads as one
without any change, or else a string. -/
def ofArgument (text : String) : Value :=
  match Double.read? text with
  | some n => number n
  | none => ofText text

/-- The text of a well-formed string. -/
def text? : Value → Option String
  | string bytes => Bytes.text? bytes
  | _ => none

/-- The table of a table value. -/
def table? : Value → Option TableId
  | table id => some id
  | _ => none

/-- The address of a pointer. -/
def pointer? : Value → Option Address
  | pointer address => some address
  | _ => none

/-- The object behind a value. -/
def identity : Value → Identity
  | table id => .table id
  | pointer address => .address address
  | function entry => .address entry
  | string bytes => .text bytes
  | _ => .none

/-- Raw equality: numbers compare by value, strings by their bytes, tables,
pointers and functions by identity, and values of different kinds differ. -/
def same : Value → Value → Bool
  | nil, nil => true
  | boolean a, boolean b => a == b
  | number a, number b => a.same b
  | string a, string b => a == b
  | table a, table b => a == b
  | pointer a, pointer b => a == b
  | function a, function b => a == b
  | _, _ => false

end Value

end JitHost
