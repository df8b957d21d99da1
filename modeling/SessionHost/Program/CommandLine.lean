import SessionHost.Config.Basic
import SessionHost.Text.Styled
import SessionHost.Text.Utf8

namespace SessionHost

/-!
# The command line

The host declares its options and what may stand behind them, and leaves it to a
library to take a command line apart.  Its own options come first.  From the first
argument on that is none of them everything belongs to the engine and is passed on
as it stands, whatever it looks like.

The host knows only what was found, or has a message to show, and shows the help and
the version as the library words them.
-/

def hyphen : UInt8 := 0x2D

def equalsSign : UInt8 := 0x3D

/-! ## What is declared -/

/-- What an option does. -/
inductive OptionAction where
  /-- It takes a value, for which this name stands in messages.  Where texts are
  listed, the value must be one of them. -/
  | value (shown : String) (possible : List String)
  | flag
  | help
  | version
deriving DecidableEq, Repr

/-- An option; its name stands behind two hyphens. -/
structure OptionDeclaration where
  name : String
  action : OptionAction
  /-- What it is for. -/
  about : String
deriving DecidableEq, Repr

/-- The arguments that belong to no option. -/
structure ArgsDeclaration where
  /-- The name that stands for them in messages. -/
  shown : String
  about : String
  /-- From the first of them on, every argument is one of them. -/
  trailingVarArg : Bool
  /-- They may begin with a hyphen. -/
  allowHyphenValues : Bool
deriving DecidableEq, Repr

structure CommandDeclaration where
  name : String
  version : String
  about : String
  options : List OptionDeclaration
  args : ArgsDeclaration
deriving DecidableEq, Repr

/-! ## What is found -/

structure Matches where
  /-- The options that were given a value, in their order. -/
  values : List (String × Bytes) := []
  /-- The flags that were given. -/
  flags : List String := []
  /-- The arguments that belong to no option. -/
  args : List String := []
deriving DecidableEq, Repr

namespace Matches

/-- The value that the option of a name was given. -/
def value? (found : Matches) (name : String) : Option Bytes :=
  found.values.lookup name

end Matches

/-- What a command line comes to. -/
inductive Finding where
  | matched (found : Matches)
  /-- The help was asked for. -/
  | help (text : Styled)
  | version (text : String)
deriving DecidableEq, Repr

/-- A library that takes command lines apart. -/
structure ArgumentParser where
  /-- What the arguments come to that stand behind the name of a program, or what is
  to be said against them. -/
  parse : CommandDeclaration → (program : Bytes) → List Bytes → Except Styled Finding

/-! ## The host's own -/

/-- What a command line asks for. -/
structure CommandLine where
  /-- The configuration file to load. -/
  config : Option Path := none
  /-- The engine library to load. -/
  engine : Option Path := none
  level : Option Level := none
  /-- Show the configuration instead of running. -/
  printConfig : Bool := false
  /-- The engine's own arguments. -/
  args : List String := []
deriving DecidableEq, Repr

namespace CommandLine

def configOption : OptionDeclaration where
  name := "config"
  action := .value "FILE" []
  about := "Configuration file (default: ~/.config/jsm/config.toml)"

def engineOption : OptionDeclaration where
  name := "engine"
  action := .value "PATH" []
  about := "Engine library to load (JEPATH takes precedence)"

def levelOption : OptionDeclaration where
  name := "log-level"
  action := .value "LEVEL" (Level.all.map Level.name)
  about := "Log level for host diagnostics on stderr"

def printOption : OptionDeclaration where
  name := "print-config"
  action := .flag
  about := "Print the effective configuration and exit"

def declaration : CommandDeclaration where
  name := programName
  version := programVersion
  about := "Console host for a dynamically loaded interpreter engine\n\n" ++
    "Everything from the first engine argument on is passed to the engine untouched, " ++
    "`-jprofile` included."
  options := [configOption, engineOption, levelOption, printOption,
    ⟨"help", .help, "Print help"⟩, ⟨"version", .version, "Print version"⟩]
  args :=
    { shown := "ARGS"
      about := "Arguments for the engine session"
      trailingVarArg := true
      allowHyphenValues := true }

/-- The command line that was found. -/
def ofMatches (found : Matches) : CommandLine where
  config := found.value? configOption.name
  engine := found.value? engineOption.name
  level := (found.value? levelOption.name).bind fun value =>
    (Utf8.decode? value).bind Level.ofName?
  printConfig := found.flags.contains printOption.name
  args := found.args

end CommandLine

end SessionHost
