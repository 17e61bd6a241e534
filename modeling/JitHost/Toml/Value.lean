import JitHost.Number.Double

/-!
# TOML values

The values of a TOML document, and the rules by which its lines build up one
table: a key is assigned once, a table has at most one header, a table that was
made by dotted keys has none, and an inline table is complete where it stands.
-/

namespace JitHost.Toml

/-- How a table came about: on the way to a header, by dotted keys, by its own
header, or written inline. -/
inductive Origin where
  | implied
  | dotted
  | header
  | inline
  deriving DecidableEq, Repr

/-- A value. Dates and times are checked where they are read and then all alike.
`tables` is a list of tables with headers of their own. -/
inductive Value where
  | text (s : String)
  | integer (n : Int)
  | float (x : Number.Double)
  | boolean (b : Bool)
  | date
  | array (elements : List Value)
  | table (origin : Origin) (entries : List (String × Value))
  | tables (elements : List (List (String × Value)))

/-- The entries of a table in order. -/
abbrev Entries := List (String × Value)

namespace Entries

/-- Entries with another value for a key that is present. -/
def replace (key : String) (value : Value) (entries : Entries) : Entries :=
  entries.map fun entry => if entry.1 = key then (key, value) else entry

/-- A list of tables with its last one changed. -/
def changeLast (change : Entries → Option Entries) (elements : List Entries) :
    Option (List Entries) :=
  match elements.getLast? with
  | none => none
  | some last => (change last).map fun last => elements.dropLast ++ [last]

/-- Assigns a value to a key below a path of dotted keys. The tables on the path
may be implied ones, but the last has to be made by dotted keys. -/
def assign : List String → String → Value → Entries → Option Entries
  | [], key, value, entries =>
      if (entries.lookup key).isSome then none else some (entries ++ [(key, value)])
  | step :: path, key, value, entries =>
      match entries.lookup step with
      | none =>
          (assign path key value []).map fun inner =>
            entries ++ [(step, .table .dotted inner)]
      | some (.table .dotted inner) =>
          (assign path key value inner).map fun inner =>
            entries.replace step (.table .dotted inner)
      | some (.table .implied inner) =>
          if path = [] then none
          else
            (assign path key value inner).map fun inner =>
              entries.replace step (.table .implied inner)
      | some (.tables elements) =>
          if path = [] then none
          else
            (changeLast (assign path key value) elements).map fun elements =>
              entries.replace step (.tables elements)
      | some _ => none

/-- Changes the entries of the table that a header's path leads to. Tables that
are missing on the way are implied; a list of tables is entered at its last. -/
def changeAt (change : Entries → Option Entries) : List String → Entries → Option Entries
  | [], entries => change entries
  | step :: path, entries =>
      match entries.lookup step with
      | none =>
          (changeAt change path []).map fun inner =>
            entries ++ [(step, .table .implied inner)]
      | some (.table origin inner) =>
          if origin = .inline then none
          else
            (changeAt change path inner).map fun inner =>
              entries.replace step (.table origin inner)
      | some (.tables elements) =>
          (changeLast (changeAt change path) elements).map fun elements =>
            entries.replace step (.tables elements)
      | some _ => none

/-- Opens the table of a header among its siblings: a new one or one that was
only implied. -/
def openTable (key : String) (entries : Entries) : Option Entries :=
  match entries.lookup key with
  | none => some (entries ++ [(key, .table .header [])])
  | some (.table .implied inner) => some (entries.replace key (.table .header inner))
  | some _ => none

/-- Adds an empty table to a list of tables among its siblings. -/
def openElement (key : String) (entries : Entries) : Option Entries :=
  match entries.lookup key with
  | none => some (entries ++ [(key, .tables [[]])])
  | some (.tables elements) => some (entries.replace key (.tables (elements ++ [[]])))
  | some _ => none

end Entries

/-- A line of a document: an assignment to a key below a path, or a header that
names a table or a list of tables. -/
inductive Line where
  | assignment (path : List String) (key : String) (value : Value)
  | header (path : List String) (key : String)
  | element (path : List String) (key : String)
  | blank

/-- A document as far as it is built up: all entries and the path of the header
in force. -/
structure Document where
  root : Entries
  place : List String

namespace Document

/-- The document with one more line, none if the line breaks the rules. -/
def add (d : Document) : Line → Option Document
  | .blank => some d
  | .assignment path key value =>
      (d.root.changeAt (Entries.assign path key value) d.place).map fun root =>
        { d with root }
  | .header path key =>
      (d.root.changeAt (Entries.openTable key) path).map fun root =>
        ⟨root, path ++ [key]⟩
  | .element path key =>
      (d.root.changeAt (Entries.openElement key) path).map fun root =>
        ⟨root, path ++ [key]⟩

/-- The entries of a document with the given lines. -/
def build (lines : List Line) : Option Entries :=
  (lines.foldlM add ⟨[], []⟩).map Document.root

end Document

/-- The table of an inline list of assignments. -/
def Value.ofAssignments (assignments : List (List String × String × Value)) : Option Value :=
  (assignments.foldlM (fun entries (path, key, value) => Entries.assign path key value entries)
    []).map (.table .inline)

end JitHost.Toml
