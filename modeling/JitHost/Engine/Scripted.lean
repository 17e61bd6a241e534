import JitHost.Engine.Basic

/-!
# Scripted engines

An engine that follows a script: every attempt emits given diagnostics and then
succeeds or fails as the script says. It writes a counting pattern for code, and
its symbols lie at given offsets once a fill has succeeded.
-/

namespace JitHost

/-- What a scripted engine does in one attempt. -/
structure Act where
  diagnostics : List String
  error? : Option EngineError

namespace Act

/-- The act that says nothing and succeeds. -/
def quiet : Act := ⟨[], none⟩

/-- An act as an attempt that gives `value` if it succeeds. -/
def attempt (act : Act) (value : α) : Attempt α :=
  ⟨act.diagnostics, match act.error? with
    | none => .ok value
    | some error => .error error⟩

end Act

/-- An engine that follows a script: the acts of the coming compilations, of the
size and of the fill, the size, and the offsets of symbols, none for a symbol at
the null address. -/
structure ScriptedEngine where
  compiles : List Act
  sizing : Act
  size : Nat
  filling : Act
  symbols : List (String × Option Nat)
  base? : Option Address

namespace ScriptedEngine

/-- The byte at a place of the counting pattern. -/
def patternByte (place : Nat) : UInt8 := UInt8.ofNat place

instance : Engine ScriptedEngine where
  compile engine _ :=
    ((engine.compiles.headD .quiet).attempt (),
      { engine with compiles := engine.compiles.tail })
  addSymbol engine _ _ := engine
  imageSize engine := (engine.sizing.attempt engine.size, engine)
  fill engine place _ :=
    (engine.filling.attempt (), Vector.ofFn fun i => patternByte i.val,
      if engine.filling.error?.isNone then { engine with base? := some place } else engine)
  symbol? engine name :=
    engine.base?.bind fun base => (engine.symbols.lookup name).map fun
      | some offset => base.after offset
      | none => .null

end ScriptedEngine

end JitHost
