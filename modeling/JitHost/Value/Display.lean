import JitHost.Value.Heap
import JitHost.Text.Quoted

/-!
# The printed form of values

`Value.display` is the plain form of a value and `Value.describe` the form for
diagnostics, which names the kind and quotes strings. Where a table or a function
lies is not for this library to say: both forms are given the text for it.
-/

namespace JitHost

open Number Text

/-- How the places of tables and functions are written. -/
structure Labels where
  table : TableId → String
  function : Address → String

/-- Every table by its number in the heap, every function by its address. -/
def Labels.numeric : Labels where
  table id := hex (id.index + 1)
  function entry := entry.text

namespace Value

/-- The plain form of a value. -/
def display (labels : Labels) : Value → String
  | nil => "nil"
  | boolean b => if b then "true" else "false"
  | number n => n.text
  | string bytes => Bytes.lossy bytes
  | table id => "table: " ++ labels.table id
  | pointer address => "pointer: " ++ address.text
  | function entry => "function: " ++ labels.function entry

/-- The form of a value for diagnostics. A table is shown by its place and size,
since it may contain itself. -/
def describe (labels : Labels) (heap : Heap) : Value → String
  | nil => "Nil"
  | boolean b => "Boolean(" ++ (if b then "true" else "false") ++ ")"
  | number n => "Number(" ++ n.general ++ ")"
  | string bytes => "String(" ++ quote (Bytes.lossy bytes) ++ ")"
  | table id =>
      "Table(Table(" ++ labels.table id ++ ", " ++ toString (heap.table id).size ++ " entries))"
  | pointer address => "Pointer(" ++ address.text ++ ")"
  | function entry => "Function(function: " ++ labels.function entry ++ ")"

end Value

end JitHost
