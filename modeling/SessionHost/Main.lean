import SessionHost.Engine.Scripted
import SessionHost.Program.Options
import SessionHost.Program.Run
import SessionHost.Toml.Document

/-!
# The program

This is where a run meets the outside: arguments, environment, the one
configuration file that it may read, and its two output streams.  Native
libraries are out of reach from here, so every engine library is reported as
one that cannot be loaded, and no run gets as far as reading its input.
-/

namespace SessionHost

namespace Invocation

/-- The variables that a run looks at. -/
def knownVariables : List String :=
  ["XDG_CONFIG_HOME", "HOME", "APPDATA", "NO_COLOR", "CLICOLOR_FORCE",
    HostConfig.libraryVariable, Loader.listVariable]

/-- The known variables that are set. -/
def readEnvironment : IO Environment := do
  let settings ← knownVariables.mapM fun name => do
    let value ← IO.getEnv name
    return value.map fun text => (name, Bytes.ofString text)
  return settings.filterMap id

/-- A tree that holds the file of a path, if it can be read. -/
def treeWith (path : Path) : IO FileTree := do
  match Utf8.decode? path with
  | none => return {}
  | some name =>
    try
      let content ← IO.FS.readBinFile name
      let (_, tree) := HostConfig.makeRoom {} path
      return (tree.write path content.toList).toOption.getD tree
    catch _ => return {}

end Invocation

end SessionHost

open SessionHost in
def main (args : List String) : IO UInt32 := do
  let args := args.map Bytes.ofString
  let environment ← Invocation.readEnvironment
  let program := Bytes.ofString programName
  let tree ← match Invocation.configFile? .ofOptions program args environment with
    | none => pure {}
    | some path => Invocation.treeWith path
  let invocation : Invocation Scripted.Library :=
    { parser := .ofOptions, toml := Toml.codec, program, args, environment, tree,
      binDir := Path.here, input := [], engine := .ofScript {}, steps := 0 }
  let outcome := invocation.run
  let output ← IO.getStdout
  output.write (ByteArray.mk outcome.output.toArray)
  output.flush
  IO.eprint outcome.errors
  match outcome.ending with
  | .exited status => return (exitCode status).toUInt32
  | .killed signal => return (128 + signal).toUInt32
  | .unending => return 1
