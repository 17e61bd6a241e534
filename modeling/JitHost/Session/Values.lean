import JitHost.Session.Symbols
import JitHost.Value.Heap

/-!
# Sessions and host values

The operations of a session on arguments that are values of the host: sources
and names are strings, symbols are tables from names to pointers. The state of
the session is looked at before the argument.
-/

namespace JitHost

open Text

/-- The contents of a table argument. -/
def Value.expectTable (operation : Operation) (v : Value) : Except SessionError TableId :=
  match v with
  | .table id => .ok id
  | other => .error (.ofArgument (.kind operation .table other.kind))

/-- A string argument as text; `fault` is the error for one that is not
well formed. -/
def Value.expectText (operation : Operation) (fault : ArgumentFault) (v : Value) :
    Except SessionError String :=
  match v with
  | .string bytes =>
      match Bytes.text? bytes with
      | some text => .ok text
      | none => .error (.ofArgument fault)
  | other => .error (.ofArgument (.kind operation .string other.kind))

/-- A name argument. -/
def Value.expectName (operation : Operation) (v : Value) : Except SessionError String :=
  v.expectText operation (.symbolText operation)

/-- An entry of a table of imports: a name and a pointer. -/
def importEntry (pair : Value × Value) : Except SessionError (String × Address) :=
  match pair.1.expectName .importSymbols with
  | .error e => .error e
  | .ok name =>
      match pair.2 with
      | .pointer address => .ok (name, address)
      | other => .error (.ofArgument (.notAPointer name other.kind))

/-- The entries of a table of imports, or the error of the first bad one. -/
def importEntries : List (Value × Value) → Except SessionError (List (String × Address))
  | [] => .ok []
  | pair :: rest =>
      match importEntry pair with
      | .error e => .error e
      | .ok entry => (importEntries rest).map (entry :: ·)

namespace Session

variable [Engine σ] (s : Session σ)

/-- Compiles the source in a string value. -/
def compileValue (source : Value) : Except SessionError Unit × Session σ :=
  match s.check .compile with
  | .error e => (.error e, s)
  | .ok () =>
      match source.expectText .compile .sourceText with
      | .error e => (.error e, s)
      | .ok text => s.compile text

/-- Imports a table from names to pointers. -/
def importTable (heap : Heap) (symbols : Value) : Except SessionError Unit × Session σ :=
  match s.check .importSymbols with
  | .error e => (.error e, s)
  | .ok () =>
      match symbols.expectTable .importSymbols with
      | .error e => (.error e, s)
      | .ok id =>
          match importEntries (heap.table id).pairs with
          | .error e => (.error e, s)
          | .ok entries => s.importSymbols entries

/-- Writes pointers to symbols under the given keys of a table, up to the first
key that names none. -/
def exportKeys (id : TableId) :
    Session σ → Heap → List Value → Except SessionError Unit × Heap × Session σ
  | s, heap, [] => (.ok (), heap, s)
  | s, heap, key :: rest =>
      match key.expectName .exportSymbols with
      | .error e => (.error e, heap, s)
      | .ok name =>
          match s.symbol name with
          | (.error e, s) => (.error e, heap, s)
          | (.ok address, s) =>
              let table := (heap.table id).assignOrSkip (.ofText name, .pointer address)
              exportKeys id s (heap.update id table) rest

/-- Replaces every value of a table with the pointer to the symbol that its key
names. -/
def exportTable (heap : Heap) (symbols : Value) : Except SessionError Unit × Heap × Session σ :=
  match s.check .exportSymbols with
  | .error e => (.error e, heap, s)
  | .ok () =>
      match symbols.expectTable .exportSymbols with
      | .error e => (.error e, heap, s)
      | .ok id => exportKeys id s heap (heap.table id).keys

/-- A compiled function as a value that the host can call. -/
def routineValue (name : Value) : Except SessionError Value × Session σ :=
  match s.check .exportRoutine with
  | .error e => (.error e, s)
  | .ok () =>
      match name.expectName .exportRoutine with
      | .error e => (.error e, s)
      | .ok name =>
          match s.routine name with
          | (.ok entry, s) => (.ok (.function entry), s)
          | (.error e, s) => (.error e, s)

end Session

end JitHost
