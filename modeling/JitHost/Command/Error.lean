import JitHost.Diagnostic
import JitHost.Files.Path
import JitHost.Host.Error
import JitHost.Session.Error
import JitHost.Text.Lines

/-!
# Errors of commands

What can go wrong in a command, each with its message, the code of its kind, and
where in the source it is.
-/

namespace JitHost

open Text

/-- What can go wrong in a command. -/
inductive CommandError where
  | compile (path : Path) (source : String) (span? : Option Span) (message : String)
  | file (path : Path) (operation : String)
  | settings (path : Path)
  | session (error : SessionError)
  | host (error : HostError)
  deriving DecidableEq

namespace CommandError

/-- The message of an error. -/
def message : CommandError → String
  | compile _ _ _ message => message
  | file path operation => "Failed " ++ operation ++ ": " ++ path
  | settings path => "Invalid config file " ++ path
  | session error => error.message
  | host error => "Runtime error: " ++ error.message

/-- The code of an error's kind. -/
def code : CommandError → String
  | compile .. => "quill::cli::compile_error"
  | file .. => "quill::cli::io_error"
  | settings _ => "quill::cli::config_error"
  | session _ => "quill::cli::session_error"
  | host _ => "quill::cli::runtime_error"

/-- Whether an error comes with help. -/
def hasHelp : CommandError → Bool
  | settings _ => true
  | _ => false

/-- The places in the source that an error points to, with their labels. -/
def labels : CommandError → List (String × Span)
  | compile _ _ (some span) _ => [("here", span)]
  | _ => []

/-- The error of a command whose session failed on a source text. A failed
compilation points to the line that its first diagnostic names. -/
def ofSession (path : Path) (source : String) : SessionError → CommandError
  | .compile diagnostics message =>
      let span := do
        let line ← Diagnostic.line? (← diagnostics.head?)
        lineSpan? source line
      compile path source span message
  | error => session error

end CommandError

end JitHost
