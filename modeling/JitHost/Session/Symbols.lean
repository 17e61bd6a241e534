import JitHost.Host.Api
import JitHost.Session.Basic

/-!
# Symbols of a session

Before relocation addresses are made known to the engine under names, checked
all together first. After relocation the addresses of symbols are read one at a
time, or written into a map from names to addresses.
-/

namespace JitHost

/-- A map from names to addresses in the order in which the names were added. -/
structure SymbolMap where
  entries : List (String × Address)
  deriving DecidableEq

namespace SymbolMap

/-- Entries with an address assigned to a name, which takes the last place if it
is new. -/
def assign (name : String) (address : Address) :
    List (String × Address) → List (String × Address)
  | [] => [(name, address)]
  | entry :: rest =>
      if entry.1 = name then (name, address) :: rest else entry :: assign name address rest

/-- The map built by a list of assignments. -/
def ofPairs (pairs : List (String × Address)) : SymbolMap :=
  ⟨pairs.foldl (fun entries pair => assign pair.1 pair.2 entries) []⟩

end SymbolMap

namespace Session

variable [Engine σ]

/-- Makes symbols known to the engine, in order. -/
def register : Session σ → σ → List (String × Address) → Session σ
  | s, _, [] => s
  | s, engine, (name, address) :: rest =>
      let engine := Engine.addSymbol engine name address
      register (s.afterCall (.add name address) engine) engine rest

variable (s : Session σ)

/-- Imports symbols unless one of them has no name. -/
def importSymbols (symbols : List (String × Address)) : Except SessionError Unit × Session σ :=
  match s.engineFor .importSymbols with
  | .error e => (.error e, s)
  | .ok engine =>
      if symbols.any fun symbol => symbol.1 = "" then (.error (.ofArgument .emptyName), s)
      else (.ok (), s.register engine symbols)

/-- Imports the callbacks of the host. -/
def importApi : Except SessionError Unit × Session σ :=
  match s.engineFor .importApi with
  | .error e => (.error e, s)
  | .ok engine => (.ok (), s.register engine Callback.symbols)

/-- Asks the engine for a symbol. -/
def lookup (operation : Operation) (name : String) : Except SessionError Address × Session σ :=
  match s.engineFor operation with
  | .error e => (.error e, s)
  | .ok engine =>
      (match Engine.symbol? engine name with
        | some address => .ok address
        | none => .error (.symbolNotFound name),
        s.afterCall (.symbol name) engine)

/-- The address of a symbol. -/
def symbol (name : String) : Except SessionError Address × Session σ :=
  s.lookup .exportSymbols name

/-- Writes addresses over the entries of a map up to the first name that is not
a symbol. -/
def exportEntries : Session σ → List (String × Address) →
    Except SessionError Unit × List (String × Address) × Session σ
  | s, [] => (.ok (), [], s)
  | s, (name, address) :: rest =>
      match s.symbol name with
      | (.error e, s) => (.error e, (name, address) :: rest, s)
      | (.ok found, s) =>
          let (result, entries, s) := exportEntries s rest
          (result, (name, found) :: entries, s)

/-- Overwrites every address of a map with that of the symbol which its name
stands for. -/
def exportSymbols (symbols : SymbolMap) : Except SessionError Unit × SymbolMap × Session σ :=
  match s.engineFor .exportSymbols with
  | .error e => (.error e, symbols, s)
  | .ok _ =>
      let (result, entries, s) := s.exportEntries symbols.entries
      (result, ⟨entries⟩, s)

/-- The entry of a compiled function; the null address is none. -/
def routine (name : String) : Except SessionError Address × Session σ :=
  match s.lookup .exportRoutine name with
  | (.ok address, s) =>
      if address = .null then (.error (.symbolNotFound name), s) else (.ok address, s)
  | (.error e, s) => (.error e, s)

end Session

end JitHost
