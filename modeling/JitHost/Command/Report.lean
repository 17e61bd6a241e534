import JitHost.Command.Arguments
import JitHost.Command.Program
import JitHost.Command.Usage
import JitHost.Value.Display

/-!
# Reports of commands

What a command line prints and with which status it ends: 0 when it has done what
it was asked for, 1 when that failed, and 2 when the command line is wrong.
-/

namespace JitHost

/-- What a command leaves behind: its status, its output, and the notes beside
it. -/
structure Report where
  status : Nat
  output : String
  notes : List String
  deriving DecidableEq

namespace Report

/-- The lowest verbosity at which successful commands leave notes. -/
def noteLevel : Int := 2

/-- The report of a failed command. -/
def ofError (error : CommandError) : Report := ⟨1, "", [error.code, error.message]⟩

/-- The report of a command line that asks for nothing to be done. -/
def ofStop : Stop → Report
  | .help verb? => ⟨0, helpText verb?, []⟩
  | .misuse fault => ⟨2, "", ["error: " ++ fault.message]⟩

/-- The report of a successful command on a file. -/
def success (verbosity : Int) (file : Path) (lines : List String) : Report where
  status := 0
  output := String.join (lines.map (· ++ "\n"))
  notes := if noteLevel ≤ verbosity then ["compiled " ++ file] else []

/-- The report of a command on a file, given how its result is printed. -/
def ofResult (verbosity : Int) (file : Path) (lines : α → List String) :
    Except CommandError α → Report
  | .ok result => success verbosity file (lines result)
  | .error error => ofError error

/-- The line that reports a file without diagnostics. -/
def checkedLine (file : Path) (functions : Nat) : String :=
  "✅ " ++ file ++ " checked successfully (" ++ toString functions ++ " functions)."

/-- The line for the address of a symbol. -/
def symbolLine (symbol : String × Address) : String := symbol.1 ++ "\t" ++ symbol.2.text

end Report

/-- Does what a command asks for. -/
def Invocation.perform {m : Type → Type} [Monad m] (fs : FileSystem m) (i : Invocation) :
    m Report := do
  match i.request with
  | .run file entry noApi args =>
      return .ofResult i.verbosity file
        (fun result => result.1.map (Value.display .numeric))
        (← runFile fs file i.config? entry noApi args)
  | .check file =>
      return .ofResult i.verbosity file (fun count => [Report.checkedLine file count])
        (← checkFile fs file i.config?)
  | .symbols file names noApi =>
      return .ofResult i.verbosity file (fun found => found.entries.map Report.symbolLine)
        (← symbolsOfFile fs file i.config? names noApi)

/-- Carries out a command line. -/
def commandLine {m : Type → Type} [Monad m] (fs : FileSystem m) (args : List String) :
    m Report :=
  match Invocation.read args with
  | .error stop => return .ofStop stop
  | .ok invocation => invocation.perform fs

end JitHost
