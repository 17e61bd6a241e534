import JitHost.Host.Stack

/-!
# Settings

What can be configured: how hard the engine optimises and whether it verifies its
input, how large the value stack may be, and which routine a run calls with or
without the callbacks of the host.
-/

namespace JitHost

/-- How the engine optimises. -/
inductive OptLevel where
  | none
  | speed
  | speedAndSize
  deriving DecidableEq, Repr

namespace OptLevel

/-- All levels. -/
def all : List OptLevel := [none, speed, speedAndSize]

/-- The word for a level. -/
def setting : OptLevel → String
  | none => "none"
  | speed => "speed"
  | speedAndSize => "speed_and_size"

/-- The level that a word stands for. -/
def ofSetting? (word : String) : Option OptLevel := all.find? fun level => level.setting = word

end OptLevel

/-- Settings of the engine. -/
structure EngineSettings where
  optLevel : OptLevel
  verify : Bool
  deriving DecidableEq

/-- Settings of the host. -/
structure HostSettings where
  stackLimit : Nat
  deriving DecidableEq

/-- Settings of a run: the routine to call, and whether compiled code may use the
callbacks. -/
structure RunSettings where
  entry : String
  api : Bool
  deriving DecidableEq

/-- All settings. -/
structure Settings where
  engine : EngineSettings
  host : HostSettings
  run : RunSettings
  deriving DecidableEq

/-- The engine's settings where nothing else is said. -/
def EngineSettings.standard : EngineSettings := ⟨.speed, true⟩

/-- The host's settings where nothing else is said. -/
def HostSettings.standard : HostSettings := ⟨Host.defaultLimit⟩

/-- A run's settings where nothing else is said. -/
def RunSettings.standard : RunSettings := ⟨"main", true⟩

/-- The settings where nothing else is said. -/
def Settings.standard : Settings := ⟨.standard, .standard, .standard⟩

end JitHost
