import SessionHost.Text.Quoted
import SessionHost.Text.Utf8

namespace SessionHost

/-!
# The bootstrap sentence

The first sentence of a console session publishes the command line as the
list `ARGV_z_` and the directory of the host binary as `BINPATH_z_`, and then
runs the startup profile that the first argument selects.  All user text
stands inside quoted literals, so what lies outside them depends only on the
mode and on how many arguments there are.
-/

/-- What a new session runs after its command line has been published. -/
inductive StartupMode where
  /-- The profile script that lies beside the host binary. -/
  | profile
  /-- The script that the argument after the profile flag names. -/
  | scriptProfile
  /-- Nothing, when the profile flag stands alone. -/
  | noProfile
deriving DecidableEq, Repr

namespace StartupMode

/-- The script that `profile` runs, relative to the binary directory. -/
def script : String := "profile.ijs"

/-- The argument that selects another profile, or none. -/
def flag : String := "-jprofile"

/-- The mode that the user arguments select; the program name is not one of
them, and only a flag in first place counts. -/
def ofArgs : List String → StartupMode
  | [] => profile
  | [first] => if first = flag then noProfile else profile
  | first :: _ :: _ => if first = flag then scriptProfile else profile

def name : StartupMode → String
  | profile => "Profile"
  | scriptProfile => "ScriptProfile"
  | noProfile => "NoProfile"

/-- The part of the sentence that runs the profile. -/
def opening : StartupMode → String
  | profile => "(3 : '0!:0 y')<BINPATH,'/" ++ script ++ "'"
  | scriptProfile => "(3 : '0!:0 y')2\x7bARGV"
  | noProfile => "i.0 0"

end StartupMode

/-- What the bootstrap sentence publishes. -/
structure Bootstrap where
  mode : StartupMode
  /-- The program path, followed by the user arguments. -/
  argv : List String
  binDir : String
deriving DecidableEq, Repr

namespace Bootstrap

/-- A list of boxed literals.  A single item is made a list of one with `,<`. -/
def argvLiteral (items : List String) : String :=
  let list := String.intercalate ";" (items.map Quoted.literal)
  if items.length = 1 then ",<" ++ list else list

/-- The bootstrap of a program and its arguments.  A directory that is not
UTF-8 is published lossily decoded. -/
def ofCommand (program : String) (args : List String) (binDir : Bytes) : Bootstrap where
  mode := StartupMode.ofArgs args
  argv := program :: args
  binDir := Utf8.decodeLossy binDir

/-- The sentence itself; the engine reads it from right to left. -/
def sentence (bootstrap : Bootstrap) : String :=
  bootstrap.mode.opening ++ "[ARGV_z_=:" ++ argvLiteral bootstrap.argv ++
    "[BINPATH_z_=:'" ++ Quoted.escape bootstrap.binDir ++ "'"

end Bootstrap

end SessionHost
