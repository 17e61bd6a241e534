import JitHost.Config.Settings
import JitHost.Toml.Reader

/-!
# Reading settings

Settings are read from the sections of a TOML document. A section is a table with
its settings by name, or an array with its settings by position. What a section
leaves out keeps its standard value, and names that mean nothing are passed over.
-/

namespace JitHost

namespace Toml.Value

/-- A truth value. -/
def boolean? : Value → Option Bool
  | boolean b => some b
  | _ => none

/-- A text. -/
def text? : Value → Option String
  | text s => some s
  | _ => none

/-- An integer that is not negative. -/
def count? : Value → Option Nat
  | integer n => if 0 ≤ n then some n.toNat else none
  | _ => none

/-- Whether a value is a container without contents. -/
def isEmptyContainer : Value → Bool
  | array elements => elements.isEmpty
  | table _ entries => entries.isEmpty
  | tables elements => elements.isEmpty
  | _ => false

/-- A level of optimisation: its word, or a table with an empty container under
its word alone. -/
def optLevel? : Value → Option OptLevel
  | text word => OptLevel.ofSetting? word
  | table _ [(word, content)] =>
      if content.isEmptyContainer then OptLevel.ofSetting? word else none
  | _ => none

/-- The settings of a section whose settings have these names. A date has no
settings. -/
def fields? (names : List String) : Value → Option Entries
  | table _ entries => some entries
  | array elements => some (names.zip elements)
  | tables elements => some (names.zip (elements.map (table .header)))
  | date => some []
  | _ => none

end Toml.Value

namespace Toml.Entries

/-- The setting with a name, `standard` if it is left out. -/
def get? (entries : Entries) (name : String) (read : Value → Option α) (standard : α) :
    Option α :=
  match entries.lookup name with
  | none => some standard
  | some value => read value

end Toml.Entries

open Toml

/-- The section about the engine. -/
def EngineSettings.read? (part : Toml.Value) : Option EngineSettings := do
  let fields ← part.fields? ["opt_level", "verify"]
  let optLevel ← fields.get? "opt_level" Toml.Value.optLevel? standard.optLevel
  let verify ← fields.get? "verify" Toml.Value.boolean? standard.verify
  return ⟨optLevel, verify⟩

/-- The section about the host. -/
def HostSettings.read? (part : Toml.Value) : Option HostSettings := do
  let fields ← part.fields? ["stack_limit"]
  return ⟨← fields.get? "stack_limit" Toml.Value.count? standard.stackLimit⟩

/-- The section about runs. -/
def RunSettings.read? (part : Toml.Value) : Option RunSettings := do
  let fields ← part.fields? ["entry", "api"]
  let entry ← fields.get? "entry" Toml.Value.text? standard.entry
  let api ← fields.get? "api" Toml.Value.boolean? standard.api
  return ⟨entry, api⟩

/-- The settings in a document. -/
def Settings.read? (text : String) : Option Settings := do
  let fields ← Toml.read? text
  let engine ← fields.get? "engine" EngineSettings.read? .standard
  let host ← fields.get? "host" HostSettings.read? .standard
  let run ← fields.get? "run" RunSettings.read? .standard
  return ⟨engine, host, run⟩

/-- The settings of the engine in a document; other sections are not looked at. -/
def EngineSettings.readDocument? (text : String) : Option EngineSettings := do
  let fields ← Toml.read? text
  fields.get? "engine" EngineSettings.read? .standard

end JitHost
