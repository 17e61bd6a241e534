import JitHost.Text.Quoted

/-!
# Errors of a compiler engine

An attempt of an engine emits diagnostics in order and then succeeds or fails
with one error, which classifies the failure.
-/

namespace JitHost

/-- Why a compiler setting was refused. -/
inductive SettingFault where
  | badName (name : String)
  | badType
  | badValue (expected : String)
  deriving DecidableEq

/-- The message of a refused setting. -/
def SettingFault.message : SettingFault → String
  | badName name => "No existing setting named '" ++ name ++ "'"
  | badType => "Trying to set a setting with the wrong type"
  | badValue expected => "Unexpected value for a setting, expected " ++ expected

/-- What can go wrong in a compiler engine. -/
inductive EngineError where
  | unsupportedHost (text : String)
  | settings (fault : SettingFault)
  | targetSetup (text : String)
  | compilationFailed (count : Nat)
  | unresolvedSymbols (names : List String)
  | relocationFailed (kind : String) (offset : Nat) (reason : String)
  | bufferTooSmall (needed provided : Nat)
  | sealedBuffer
  | alreadyMaterialized
  | memory (text : String)
  deriving DecidableEq

/-- The message of an engine error. -/
def EngineError.message : EngineError → String
  | unsupportedHost text => "Unsupported host architecture or features: " ++ text
  | settings fault => "Failed to configure Cranelift settings: " ++ fault.message
  | targetSetup text => "ISA setup failed: " ++ text
  | compilationFailed count =>
      "Source failed to compile (" ++ toString count ++ " diagnostics)"
  | unresolvedSymbols names => "Unresolved symbols: " ++ ", ".intercalate names
  | relocationFailed kind offset reason =>
      "Relocation " ++ kind ++ " at offset " ++ Text.hex offset ++ " could not be applied: " ++
        reason
  | bufferTooSmall needed provided =>
      "Code buffer too small: need " ++ toString needed ++ " bytes, got " ++ toString provided
  | sealedBuffer => "Code buffer is already executable and can no longer be written"
  | alreadyMaterialized => "Code was already materialized"
  | memory text => "Executable memory error: " ++ text

/-- The diagnostics of one attempt, in the order of their emission, and how it
ended. -/
structure Attempt (α : Type) where
  diagnostics : List String
  outcome : Except EngineError α

namespace Attempt

/-- An attempt that says nothing and succeeds. -/
def success (value : α) : Attempt α := ⟨[], .ok value⟩

/-- An attempt that says nothing and fails. -/
def failure (error : EngineError) : Attempt α := ⟨[], .error error⟩

/-- An attempt with its result changed. -/
def map (f : α → β) (attempt : Attempt α) : Attempt β :=
  ⟨attempt.diagnostics, attempt.outcome.map f⟩

end Attempt

end JitHost
