import SessionHost.Config.Document
import SessionHost.Storage.Tree

namespace SessionHost

/-!
# Configuration files

A configuration is loaded from a file that is named, or else from the user's
own file, whose directory the environment determines.  A user without such a
file has the default configuration; a file that was named must exist.

Saving first makes the directory of the file, then writes the document, and
only then looks at the file itself.
-/

/-- The variables that a process was started with. -/
abbrev Environment := List (String × Bytes)

namespace Environment

def find? (environment : Environment) (name : String) : Option Bytes :=
  environment.lookup name

/-- A variable that is UTF-8; any other counts as missing. -/
def text? (environment : Environment) (name : String) : Option Path :=
  (environment.find? name).filter fun value => (Utf8.decode? value).isSome

/-- Set a variable, or remove it. -/
def set (environment : Environment) (name : String) (value : Option Bytes) : Environment :=
  environment.filter (·.1 != name) ++ (value.map (name, ·)).toList

end Environment

inductive ConfigError where
  | file (cause : FileError)
  | parse (cause : ParseFault)
  | render (cause : Toml.WriteFault)
  /-- The environment names no directory for the user's configuration. -/
  | noDirectory
deriving DecidableEq, Repr

namespace ConfigError

/-- The text of the error below this one, if there is one. -/
def source? : ConfigError → Option String
  | file cause => some cause.message
  | parse cause => some cause.message
  | render cause => some cause.message
  | noDirectory => none

def message : ConfigError → String
  | file cause => "IO error: " ++ cause.message
  | parse cause => "Config parse error: " ++ cause.message
  | render cause => "Config serialize error: " ++ cause.message
  | noDirectory => "Cannot determine config directory"

/-- The text of the error, followed by that of the error below it. -/
def chain (error : ConfigError) : String :=
  String.intercalate ": " (error.message :: error.source?.toList)

end ConfigError

namespace HostConfig

/-! ## The user's file -/

/-- The directory of the user's configuration. -/
def userDirectory? (environment : Environment) : Option Path :=
  ((environment.text? "XDG_CONFIG_HOME").map (·.join programName)) <|>
  ((environment.text? "HOME").map fun home => (home.join ".config").join programName) <|>
  ((environment.text? "APPDATA").map (·.join programName))

def userFile? (environment : Environment) : Option Path :=
  (userDirectory? environment).map (·.join "config.toml")

/-! ## Loading -/

/-- Load a file, which must exist. -/
def load (toml : Toml.Codec) (tree : FileTree) (path : Path) : Except ConfigError HostConfig :=
  match tree.readText path with
  | .error error => .error (.file error)
  | .ok document => (parse toml document).mapError .parse

/-- Load the user's file, if there is one. -/
def loadUser (toml : Toml.Codec) (tree : FileTree) (environment : Environment) :
    Except ConfigError HostConfig :=
  match userFile? environment with
  | none => .ok {}
  | some path => if tree.has path then load toml tree path else .ok {}

/-! ## Saving -/

/-- Make the directory that a file is to lie in. -/
def makeRoom (tree : FileTree) (path : Path) : Option FileError × FileTree :=
  match path.parent? with
  | none => (none, tree)
  | some directory =>
    if directory.isEmpty || tree.has directory then (none, tree)
    else tree.makeAll directory

/-- Save a configuration, and say what is wrong if that fails.  The directory
is made before the document is. -/
def save (toml : Toml.Codec) (config : HostConfig) (tree : FileTree) (path : Path) :
    Option ConfigError × FileTree :=
  match makeRoom tree path with
  | (some error, tree) => (some (.file error), tree)
  | (none, tree) =>
    match config.render toml with
    | .error error => (some (.render error), tree)
    | .ok document =>
      match tree.write path (Bytes.ofString document) with
      | .error error => (some (.file error), tree)
      | .ok written => (none, written)

/-- Save a configuration as the user's own. -/
def saveUser (toml : Toml.Codec) (config : HostConfig) (tree : FileTree)
    (environment : Environment) : Option ConfigError × FileTree :=
  match userFile? environment with
  | none => (some .noDirectory, tree)
  | some path => config.save toml tree path

end HostConfig

end SessionHost
