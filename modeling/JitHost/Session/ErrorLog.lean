import JitHost.Session.Error

/-!
# Logs of diagnostics

The diagnostics of one attempt to compile or to relocate, in the order of their
emission, and the errors made of them.
-/

namespace JitHost

/-- The diagnostics of one attempt. -/
structure ErrorLog where
  entries : List String
  deriving DecidableEq

namespace ErrorLog

/-- The log without entries. -/
def empty : ErrorLog := ⟨[]⟩

variable (log : ErrorLog)

/-- One more diagnostic. -/
def push (entry : String) : ErrorLog := ⟨log.entries ++ [entry]⟩

/-- More diagnostics. -/
def append (entries : List String) : ErrorLog := ⟨log.entries ++ entries⟩

/-- The number of entries. -/
def size : Nat := log.entries.length

/-- Whether there is no entry. -/
def isEmpty : Bool := log.entries.isEmpty

/-- The last entry. -/
def last? : Option String := log.entries.getLast?

/-- All entries, one on a line. -/
def joined : String := "\n".intercalate log.entries

/-- The error of a failed compilation. -/
def compileError : SessionError :=
  .compile log.entries (if log.isEmpty then "compile error" else log.joined)

/-- The error of a failed relocation, which `cause` stopped. -/
def relocationError (cause : EngineError) : SessionError :=
  .relocation log.entries
    (if log.isEmpty then "relocation error: " ++ cause.message else log.joined)

end ErrorLog

end JitHost
