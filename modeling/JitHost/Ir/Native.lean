import JitHost.Engine.CodeBuffer
import JitHost.Ir.Machine

/-!
# Compiled functions as native functions

The functions of an engine whose code has been written can be called by the host:
each gets the host as its only argument and returns the number of its results.
-/

namespace JitHost.Ir

/-- The functions of an engine in the code that it has written. -/
def loadFunctions {frontEnd : FrontEnd} (engine : JitEngine frontEnd)
    (code : CodeBuffer) : List (Address × Loaded) :=
  engine.functionNames.filterMap fun name => do
    let address ← engine.symbol? name
    let loaded ← Loaded.read? code.place code.bytes (address - code.place).toNat
    return (address, loaded)

/-- Where running code is told that the host lies. -/
def hostPlace : Nat := 0x600000000000

/-- The message about code that cannot go on. -/
def stuckMessage : String := "compiled code cannot continue"

/-- Runs a compiled function as a native one. -/
def Program.native (program : Program) (entry : Address) (h : Host) :
    StateM Memory (Int × Host) := fun memory =>
  match program.call? entry (.int hostPlace) ⟨memory, h⟩ with
  | some (results, world) => ((results.half 0, world.host), world.memory)
  | none => ((0, h.raise stuckMessage), memory)

end JitHost.Ir
