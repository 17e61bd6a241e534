import JitHost.Engine.Error
import JitHost.Value.Basic

/-!
# Errors of a session

A session refuses an operation that its state does not allow, fails when its
engine fails, and misses symbols. Arguments that come from the host may have the
wrong kind.
-/

namespace JitHost

/-- The operations of a session. -/
inductive Operation where
  | compile
  | relocate
  | importSymbols
  | importApi
  | exportSymbols
  | exportRoutine
  | close
  deriving DecidableEq, Repr

namespace Operation

/-- The words for an operation. -/
def name : Operation → String
  | compile => "compile"
  | relocate => "relocate"
  | importSymbols => "import"
  | importApi => "import api"
  | exportSymbols => "export"
  | exportRoutine => "export routine"
  | close => "close"

/-- The words for an operation at the begin of a sentence. -/
def title (operation : Operation) : String :=
  match operation.name.toList with
  | [] => ""
  | c :: rest => String.ofList (c.toUpper :: rest)

/-- Exports read from a session, everything else is applied to it. -/
def preposition : Operation → String
  | exportSymbols | exportRoutine => "from"
  | _ => "to"

end Operation

/-- What is wrong with an argument of an operation. -/
inductive ArgumentFault where
  | kind (operation : Operation) (expected found : Kind)
  | sourceText
  | symbolText (operation : Operation)
  | notAPointer (name : String) (found : Kind)
  | emptyName
  deriving DecidableEq

/-- The text for a wrong argument. -/
def ArgumentFault.message : ArgumentFault → String
  | kind operation expected found =>
      operation.name ++ ": " ++ expected.name ++ " expected, got " ++ found.name
  | sourceText => "compile: source must be valid UTF-8"
  | symbolText operation => operation.name ++ ": symbol names must be valid UTF-8"
  | notAPointer name found =>
      "import: '" ++ name ++ "' must map to a pointer, got " ++ found.name
  | emptyName => "import: symbol names must not be empty"

/-- What a session operation can fail with. Failures of compilation and of
relocation carry the diagnostics of the attempt. -/
inductive SessionError where
  | compile (diagnostics : List String) (message : String)
  | relocation (diagnostics : List String) (message : String)
  | closedSession (operation : Operation)
  | relocatedSession (operation : Operation)
  | notRelocated (operation : Operation)
  | symbolNotFound (name : String)
  | type (text : String)
  | doubleClose
  | engineStart (error : EngineError)
  deriving DecidableEq

namespace SessionError

/-- The message about an operation that the state of the session forbids. -/
def refusal (operation : Operation) (session : String) : String :=
  operation.title ++ " " ++ operation.preposition ++ " " ++ session ++ " session"

/-- The message of an error. -/
def message : SessionError → String
  | compile _ message => message
  | relocation _ message => message
  | closedSession operation => refusal operation "a closed"
  | relocatedSession operation => refusal operation "a relocated"
  | notRelocated operation => refusal operation "an unrelocated"
  | symbolNotFound name => "Can't find symbol '" ++ name ++ "' in the session"
  | type text => "Type error: " ++ text
  | doubleClose => "Don't close a session twice"
  | engineStart error => "Failed to create the compiler engine: " ++ error.message

/-- The diagnostics that come with an error. -/
def diagnostics : SessionError → List String
  | compile diagnostics _ => diagnostics
  | relocation diagnostics _ => diagnostics
  | _ => []

/-- Whether the failing operation also closed the session. -/
def closesSession : SessionError → Bool
  | compile .. => true
  | relocation .. => true
  | _ => false

/-- The error for a wrong argument. -/
def ofArgument (fault : ArgumentFault) : SessionError := type fault.message

end SessionError

end JitHost
