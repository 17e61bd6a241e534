import JitHost.Command.Error
import JitHost.Config.Reader
import JitHost.Files.FileSystem
import JitHost.Host.Call
import JitHost.Ir.Native
import JitHost.Session.Values

/-!
# Commands on a program

A command reads the settings and the source, compiles the source in a session,
and then reports on it, looks up symbols, or relocates the code and calls a
routine with arguments.
-/

namespace JitHost

open Ir

/-- The name of files with settings. -/
def settingsFile : String := "quill.toml"

/-- The engine that commands use. -/
abbrev CommandEngine (settings : EngineSettings) := JitEngine (frontEnd settings.verify)

/-- Reads a file as text. -/
def readSource {m : Type → Type} [Monad m] (fs : FileSystem m) (path : Path) :
    m (Except CommandError String) := do
  return match ← fs.readText? path with
    | some text => .ok text
    | none => .error (.file path "reading")

/-- The settings in the file at a path. -/
def loadSettingsFile {m : Type → Type} [Monad m] (fs : FileSystem m) (path : Path) :
    m (Except CommandError Settings) := do
  match ← readSource fs path with
  | .error e => return .error e
  | .ok text =>
      return match Settings.read? text with
        | some settings => .ok settings
        | none => .error (.settings path)

/-- The settings for a source file: those of a given file, or those of the nearest
file above the source, or the standard ones. -/
def loadSettings {m : Type → Type} [Monad m] (fs : FileSystem m) (given : Option Path)
    (source : Path) : m (Except CommandError Settings) := do
  match given with
  | some path => loadSettingsFile fs path
  | none =>
      match ← fs.nearestFile? settingsFile source with
      | some path => loadSettingsFile fs path
      | none => return .ok .standard

/-- A program that has been compiled: its settings, its session, and its
source. -/
structure Prepared where
  settings : Settings
  session : Session (CommandEngine settings.engine)
  path : Path
  source : String

/-- Compiles a source in a new session, with or without the callbacks. -/
def Prepared.compile (settings : Settings) (api : Bool) (path : Path) (source : String) :
    Except CommandError Prepared := do
  let fresh : Session (CommandEngine settings.engine) := Session.new (JitEngine.new _)
  let session ← if api then
      match fresh.importApi with
      | (.ok (), session) => .ok session
      | (.error e, _) => .error (.session e)
    else .ok fresh
  match session.compileValue (.ofText source) with
  | (.ok (), session) => return ⟨settings, session, path, source⟩
  | (.error e, _) => .error (.ofSession path source e)

/-- Reads and compiles a program. `api` says whether it may use the callbacks; if
it is not given the settings say so. -/
def prepare {m : Type → Type} [Monad m] (fs : FileSystem m) (path : Path)
    (given : Option Path) (api : Option Bool) : m (Except CommandError Prepared) := do
  match ← loadSettings fs given path with
  | .error e => return .error e
  | .ok settings =>
      match ← readSource fs path with
      | .error e => return .error e
      | .ok source =>
          return Prepared.compile settings (api.getD settings.run.api) path source

namespace Prepared

/-- The place of a command's code. -/
def memory : MemoryService := .fixed 0x7f0000000000

/-- The number of functions of a program. -/
def functionCount (p : Prepared) : Nat :=
  (p.session.engine?.map fun engine => engine.functionNames.length).getD 0

/-- The program with its code relocated. -/
def relocate (p : Prepared) : Except CommandError Prepared :=
  match p.session.relocate memory with
  | (.ok _, session) => .ok { p with session }
  | (.error e, _) => .error (.ofSession p.path p.source e)

/-- The addresses of symbols of a program, in the order in which they are first
named. -/
def symbols (p : Prepared) (names : List String) : Except CommandError SymbolMap := do
  let p ← p.relocate
  match p.session.exportSymbols (.ofPairs (names.map fun name => (name, .null))) with
  | (.ok (), found, _) => return found
  | (.error e, _, _) => .error (.session e)

/-- The functions of a program whose code has been relocated. -/
def loaded (p : Prepared) : List (Address × Loaded) :=
  match p.session.engine?, p.session.code? with
  | some engine, some code => loadFunctions engine code
  | _, _ => []

/-- Calls a routine of a program with arguments. Gives its results and the tables
that they may name. -/
def call (p : Prepared) (entry : Option String) (args : List String) :
    Except CommandError (List Value × Heap) := do
  let p ← p.relocate
  let name := entry.getD p.settings.run.entry
  match p.session.routineValue (.ofText name) with
  | (.error e, _) => .error (.session e)
  | (.ok routine, session) =>
      let host := Host.new p.settings.host.stackLimit
      let program : Program := ⟨p.loaded, fun _ => none⟩
      let ((outcome, host), _) :=
        (host.call program.native routine (args.map Value.ofArgument)).run (.new [])
      match outcome, session.close with
      | .error e, _ => .error (.host e)
      | .ok _, (.error e, _) => .error (.session e)
      | .ok values, (.ok (), _) => return (values, host.heap)

end Prepared

/-- Whether a program that refuses the callbacks is to have them. -/
def apiChoice (noApi : Bool) : Option Bool := if noApi then some false else none

/-- Reads a program and calls a routine of it. -/
def runFile {m : Type → Type} [Monad m] (fs : FileSystem m) (path : Path)
    (given : Option Path) (entry : Option String) (noApi : Bool) (args : List String) :
    m (Except CommandError (List Value × Heap)) := do
  return (← prepare fs path given (apiChoice noApi)).bind fun p => p.call entry args

/-- Reads a program and looks up symbols of it. -/
def symbolsOfFile {m : Type → Type} [Monad m] (fs : FileSystem m) (path : Path)
    (given : Option Path) (names : List String) (noApi : Bool) :
    m (Except CommandError SymbolMap) := do
  return (← prepare fs path given (apiChoice noApi)).bind fun p => p.symbols names

/-- Reads a program and counts its functions. -/
def checkFile {m : Type → Type} [Monad m] (fs : FileSystem m) (path : Path)
    (given : Option Path) : m (Except CommandError Nat) := do
  return (← prepare fs path given none).map Prepared.functionCount

end JitHost
