import JitHost.Address
import JitHost.Engine.Error

/-!
# Code buffers

A code buffer is memory for machine code. It can be written until it is made
executable, and never again afterwards. Memory comes from a service whose answers
the library does not decide: where a new mapping lies, or why there is none. An
empty buffer needs no memory.
-/

namespace JitHost

/-- What answers requests for memory: the place of a mapping of some bytes, and
whether a mapping can be made executable. -/
structure MemoryService where
  map : Nat → Except String Address
  protect : Address → Except String Unit

namespace MemoryService

/-- The answer to a request for more memory than can be addressed. -/
def exhausted : String := "Cannot allocate memory (os error 12)"

/-- A service that puts every mapping at one place and refuses those of
`2 ^ 50` bytes and more. -/
def fixed (place : Address) : MemoryService where
  map size := if size < 2 ^ 50 then .ok place else .error exhausted
  protect _ := .ok ()

end MemoryService

/-- Memory for code: where it lies, its bytes, and whether it is executable. -/
structure CodeBuffer where
  place : Address
  bytes : Array UInt8
  executable : Bool

namespace CodeBuffer

/-- The place of empty buffers, where nothing is ever read. -/
def nowhere : Address := 1

/-- A buffer of zeros. -/
def allocate (memory : MemoryService) (size : Nat) : Except EngineError CodeBuffer :=
  if size = 0 then .ok ⟨nowhere, #[], false⟩
  else
    match memory.map size with
    | .ok place => .ok ⟨place, Array.replicate size 0, false⟩
    | .error reason => .error (.memory reason)

variable (buffer : CodeBuffer)

/-- The number of bytes. -/
def size : Nat := buffer.bytes.size

/-- Whether there are no bytes. -/
def isEmpty : Bool := buffer.size = 0

/-- The bytes, if they may be written. -/
def writable : Except EngineError (Array UInt8) :=
  if buffer.executable then .error .sealedBuffer else .ok buffer.bytes

/-- The buffer with code that can be run and no longer be written. -/
def makeExecutable (memory : MemoryService) : Except EngineError CodeBuffer :=
  if buffer.executable ∨ buffer.isEmpty then .ok { buffer with executable := true }
  else
    match memory.protect buffer.place with
    | .ok () => .ok { buffer with executable := true }
    | .error reason => .error (.memory reason)

end CodeBuffer

end JitHost
