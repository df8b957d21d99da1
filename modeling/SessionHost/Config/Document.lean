import SessionHost.Config.Basic
import SessionHost.Toml.Codec

namespace SessionHost

/-!
# The configuration as a document

A configuration document has five sections, each with settings of its own.
What it does not name keeps its default, and what it names beyond them is
passed over.

Writing gives every setting that has a value, so a document that was written
reads back as the same configuration.  A number or a path may be such that no
document has room for it, and then the configuration cannot be written.
-/

/-- Read what may be missing. -/
def Toml.setting {α : Type} (read : Item → Option α) (default : α) : Option Item → Option α
  | none => some default
  | some item => read item

namespace HostConfig

open Toml (Decoder Item Entries setting)

/-! ## Reading -/

def libraryOf (decoder : Decoder) (item : Item) : Option (Option Path) := do
  let settings ← decoder.fields? ["library"] item
  setting (fun item => (decoder.text? item).map fun text => some (Bytes.ofString text)) none
    (settings "library")

def registryOf (decoder : Decoder) (item : Item) : Option RegistryConfig := do
  let settings ← decoder.fields? ["chunk_size", "max_sessions"] item
  let default : RegistryConfig := {}
  let chunkSize ← setting decoder.number? default.chunkSize (settings "chunk_size")
  let maxSessions ← setting (fun item => (decoder.number? item).map some) default.maxSessions
    (settings "max_sessions")
  return { chunkSize, maxSessions }

def consoleOf (decoder : Decoder) (item : Item) : Option ConsoleConfig := do
  let settings ← decoder.fields? ["prompt", "max_input", "shutdown_sentence"] item
  let default : ConsoleConfig := {}
  let prompt ← setting decoder.text? default.prompt (settings "prompt")
  let maxInput ← setting decoder.number? default.maxInput (settings "max_input")
  let shutdownSentence ← setting decoder.text? default.shutdownSentence
    (settings "shutdown_sentence")
  return { prompt, maxInput, shutdownSentence }

/-- A level by its name. -/
def levelNamed (decoder : Decoder) (item : Item) : Option Level :=
  (decoder.choice? (Level.all.map (·.name)) item).bind Level.ofName?

def levelOf (decoder : Decoder) (item : Item) : Option Level := do
  let settings ← decoder.fields? ["level"] item
  setting (levelNamed decoder) .default (settings "level")

def interruptsOf (decoder : Decoder) (item : Item) : Option Bool := do
  let settings ← decoder.fields? ["enabled"] item
  setting decoder.flag? true (settings "enabled")

/-- The configuration that the sections of a document give. -/
def ofEntries (decoder : Decoder) (entries : Entries) : Option HostConfig := do
  let library ← setting (libraryOf decoder) none (entries.find? "engine")
  let registry ← setting (registryOf decoder) {} (entries.find? "registry")
  let console ← setting (consoleOf decoder) {} (entries.find? "console")
  let level ← setting (levelOf decoder) .default (entries.find? "log")
  let interrupts ← setting (interruptsOf decoder) true (entries.find? "interrupt")
  return { library, registry, console, level, interrupts }

end HostConfig

/-- Why a document gives no configuration. -/
inductive ParseFault where
  /-- The document is malformed. -/
  | malformed
  /-- A known setting has a value of a kind that it cannot have. -/
  | unsuitable
deriving DecidableEq, Repr

def ParseFault.message : ParseFault → String
  | malformed => "the document is not well-formed TOML"
  | unsuitable => "a setting has a value that it cannot have"

namespace HostConfig

/-- Read a configuration document. -/
def parse (toml : Toml.Codec) (document : String) : Except ParseFault HostConfig :=
  match toml.read document with
  | none => .error .malformed
  | some entries =>
    match ofEntries toml.toDecoder entries with
    | none => .error .unsuitable
    | some config => .ok config

/-! ## Writing -/

open Toml (Section Setting)

def pathSetting (name : String) (value : Path) : Setting :=
  ⟨name, .path value⟩

def numberSetting (name : String) (value : Nat) : Setting :=
  ⟨name, .number value⟩

def textSetting (name : String) (value : String) : Setting :=
  ⟨name, .text value⟩

/-- The settings of a configuration, section by section.  What has no value is left out. -/
def sections (config : HostConfig) : List Section :=
  [⟨"engine", config.library.toList.map (pathSetting "library")⟩,
    ⟨"registry", numberSetting "chunk_size" config.registry.chunkSize ::
      config.registry.maxSessions.toList.map (numberSetting "max_sessions")⟩,
    ⟨"console", [textSetting "prompt" config.console.prompt,
      numberSetting "max_input" config.console.maxInput,
      textSetting "shutdown_sentence" config.console.shutdownSentence]⟩,
    ⟨"log", [textSetting "level" config.level.name]⟩,
    ⟨"interrupt", [⟨"enabled", .flag config.interrupts⟩]⟩]

/-- The document of a configuration. -/
def render (toml : Toml.Codec) (config : HostConfig) : Except Toml.WriteFault String :=
  toml.write config.sections

end HostConfig

end SessionHost
