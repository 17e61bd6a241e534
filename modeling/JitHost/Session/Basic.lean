import JitHost.Engine.Basic
import JitHost.Engine.CodeBuffer
import JitHost.Session.ErrorLog

/-!
# Sessions

A session takes one engine through one cycle: sources are compiled and symbols
imported, then all code is relocated into a buffer, then its symbols are read,
and at the end everything is released. Each operation looks at the state first,
so that a closed session never touches its engine or its buffer again.
-/

namespace JitHost

/-- Why a session is closed: on request, after a failure, or because its owner
went away. -/
inductive CloseCause where
  | explicit
  | compileFailed
  | relocationFailed
  | finalized
  deriving DecidableEq, Repr

/-- How far a session has come. -/
inductive SessionState where
  | fresh
  | compiled
  | relocated
  | closed (cause : CloseCause)
  deriving DecidableEq, Repr

/-- The text for a cause. -/
def CloseCause.text : CloseCause → String
  | explicit => "Explicit"
  | compileFailed => "CompileFailed"
  | relocationFailed => "RelocationFailed"
  | finalized => "Finalized"

/-- The text for a state. -/
def SessionState.text : SessionState → String
  | fresh => "Fresh"
  | compiled => "Compiled"
  | relocated => "Relocated"
  | closed cause => "Closed(" ++ cause.text ++ ")"

/-- A call that a session makes on its engine, the last one its release. -/
inductive EngineCall where
  | compile (source : String)
  | add (name : String) (address : Address)
  | size
  | fill (count : Nat)
  | symbol (name : String)
  | release
  deriving DecidableEq

/-- A session: its engine and its code as long as it has them, its state, and
the calls made on the engine so far. -/
structure Session (σ : Type) where
  engine? : Option σ
  code? : Option CodeBuffer
  state : SessionState
  calls : List EngineCall

namespace Session

/-- A fresh session on an engine. -/
def new (engine : σ) : Session σ := ⟨some engine, none, .fresh, []⟩

variable (s : Session σ)

/-- Whether a session is closed. -/
def isClosed : Bool :=
  match s.state with
  | .closed _ => true
  | _ => false

/-- The number of bytes of code, once relocated. -/
def codeSize? : Option Nat := s.code?.map CodeBuffer.size

/-- Where the code lies, once relocated. -/
def codePlace? : Option Address := s.code?.map CodeBuffer.place

/-- Allows an operation that changes what the engine will produce only before
relocation. -/
def allowChange (operation : Operation) : Except SessionError Unit :=
  match s.state with
  | .fresh | .compiled => .ok ()
  | .relocated => .error (.relocatedSession operation)
  | .closed _ => .error (.closedSession operation)

/-- Allows an operation that reads addresses only between relocation and the
end. -/
def allowRead (operation : Operation) : Except SessionError Unit :=
  match s.state with
  | .fresh | .compiled => .error (.notRelocated operation)
  | .relocated => .ok ()
  | .closed _ => .error (.closedSession operation)

/-- Allows to close a session that is open. -/
def allowClose : Except SessionError Unit :=
  match s.state with
  | .closed .explicit => .error .doubleClose
  | .closed _ => .error (.closedSession .close)
  | _ => .ok ()

/-- Whether the state allows an operation. -/
def check (operation : Operation) : Except SessionError Unit :=
  match operation with
  | .exportSymbols | .exportRoutine => s.allowRead operation
  | .close => s.allowClose
  | _ => s.allowChange operation

/-- The engine, for an operation that the state allows. -/
def engineFor (operation : Operation) : Except SessionError σ :=
  match s.check operation with
  | .error e => .error e
  | .ok () =>
      match s.engine? with
      | some engine => .ok engine
      | none => .error (.closedSession operation)

/-- The session after a call on its engine, which is `engine` since. -/
def afterCall (call : EngineCall) (engine : σ) : Session σ :=
  { s with engine? := some engine, calls := s.calls ++ [call] }

/-- The session closed: the code and then the engine are given up. -/
def release (cause : CloseCause) : Session σ where
  engine? := none
  code? := none
  state := .closed cause
  calls := if s.engine?.isSome then s.calls ++ [.release] else s.calls

/-- Closes the session. -/
def close : Except SessionError Unit × Session σ :=
  match s.allowClose with
  | .error e => (.error e, s)
  | .ok () => (.ok (), s.release .explicit)

/-- Closes the session if it is open: what happens when its owner goes away. -/
def finalize : Session σ := if s.isClosed then s else s.release .finalized

variable [Engine σ]

/-- Compiles a source text. An engine that fails or emits a diagnostic closes the
session. -/
def compile (source : String) : Except SessionError Unit × Session σ :=
  match s.engineFor .compile with
  | .error e => (.error e, s)
  | .ok engine =>
      let (attempt, engine) := Engine.compile engine source
      let s := s.afterCall (.compile source) engine
      match attempt.outcome, attempt.diagnostics with
      | .ok (), [] => (.ok (), { s with state := .compiled })
      | _, entries => (.error (ErrorLog.mk entries).compileError, s.release .compileFailed)

/-- Closes the session after a failed relocation. -/
def failRelocation (log : ErrorLog) (cause : EngineError) : Except SessionError Nat × Session σ :=
  (.error (log.relocationError cause), s.release .relocationFailed)

/-- Has the engine write its code to a new buffer of `size` bytes. -/
def materialize (memory : MemoryService) (engine : σ) (log : ErrorLog) (size : Nat) :
    Except SessionError Nat × Session σ :=
  match CodeBuffer.allocate memory size with
  | .error cause => s.failRelocation log cause
  | .ok buffer =>
      match buffer.writable with
      | .error cause => s.failRelocation log cause
      | .ok bytes =>
          let (attempt, code, engine) := Engine.fill engine buffer.place bytes.toVector
          let s := s.afterCall (.fill bytes.size) engine
          let log := log.append attempt.diagnostics
          match attempt.outcome with
          | .error cause => s.failRelocation log cause
          | .ok () =>
              match { buffer with bytes := code.toArray }.makeExecutable memory with
              | .error cause => s.failRelocation log cause
              | .ok buffer => (.ok size, { s with code? := some buffer, state := .relocated })

/-- Relocates all code into a buffer of the size that the engine asks for, and
answers with this size. Any failure closes the session. -/
def relocate (memory : MemoryService) : Except SessionError Nat × Session σ :=
  match s.engineFor .relocate with
  | .error e => (.error e, s)
  | .ok engine =>
      let (attempt, engine) := Engine.imageSize engine
      let s := s.afterCall .size engine
      match attempt.outcome with
      | .error cause => s.failRelocation ⟨attempt.diagnostics⟩ cause
      | .ok size => s.materialize memory engine ⟨attempt.diagnostics⟩ size

end Session

end JitHost
