import SessionHost.Console.Bridge
import SessionHost.Registry.Basic
import SessionHost.Storage.Path

namespace SessionHost

/-!
# The configuration of a host

Every setting has a default, so the empty configuration is a complete one.
The engine library may be named in three places: by an environment variable,
which wins, by the configuration, or not at all, and then it is the library
beside the host binary.
-/

/-- The name of the program. -/
def programName : String := "jsm"

def programVersion : String := "0.1.0"

structure HostConfig where
  /-- The engine library; where none is named, it lies beside the binary. -/
  library : Option Path := none
  registry : RegistryConfig := {}
  console : ConsoleConfig := {}
  /-- The level of the diagnostics that are shown. -/
  level : Level := .default
  /-- Route interrupt signals to the session's break cell. -/
  interrupts : Bool := true
deriving DecidableEq, Repr

namespace HostConfig

/-- The environment variable that names the engine library. -/
def libraryVariable : String := "JEPATH"

/-- The library that lies beside the binary. -/
def defaultLibrary : String := "libj.so"

/-- The library that was named, if one was.  An empty variable names none. -/
def namedLibrary? (config : HostConfig) (environmental : Option Bytes) : Option Path :=
  environmental.filter (!·.isEmpty) <|> config.library

/-- The library to load. -/
def libraryPath (config : HostConfig) (environmental : Option Bytes) (binDir : Path) : Path :=
  (config.namedLibrary? environmental).getD (binDir.join defaultLibrary)

end HostConfig

end SessionHost
