import SessionHost.Config.File
import SessionHost.Engine.Library
import SessionHost.Host.Driver
import SessionHost.Program.CommandLine

namespace SessionHost

/-!
# A run of the program

A run reads its command line, settles the configuration, loads the engine
library, and then hosts one console session until the engine asks to exit.
Everything it says about its own work goes to the error stream; the diagnostics
begin only once the configuration has told their level.

The engine's exit request ends the process at once, with the status that it
carries, and nothing is taken down before that.
-/

/-- What a process is started with. -/
structure Invocation (σ : Type) where
  /-- What the program takes its command line apart with. -/
  parser : ArgumentParser
  /-- What it reads and writes its configuration with. -/
  toml : Toml.Codec
  /-- The name under which the program was called. -/
  program : Bytes
  args : List Bytes
  environment : Environment
  tree : FileTree
  /-- The directory of the host binary. -/
  binDir : Path
  /-- Everything that the standard input will ever give. -/
  input : Bytes
  /-- How the engine behaves, whichever library holds it. -/
  engine : σ
  /-- How many steps the console loop may take. -/
  steps : Nat

/-- How a process ends. -/
inductive Ending where
  | exited (status : Int32)
  | killed (signal : Nat)
  /-- It does not end within its steps. -/
  | unending
deriving DecidableEq, Repr

structure Outcome where
  ending : Ending
  output : Bytes := []
  errors : String := ""
  journal : List Entry := []
deriving DecidableEq, Repr

/-- Whether messages are styled.  The streams of a run are no terminals, so they
are not, unless the environment insists. -/
def Environment.coloured (environment : Environment) : Bool :=
  !(environment.find? "NO_COLOR").any (!·.isEmpty) &&
    (environment.find? "CLICOLOR_FORCE").any (· != Bytes.ofString "0")

/-- The exit code that the system reports for a status: its low eight bits. -/
def exitCode (status : Int32) : Nat :=
  (status.toInt % 256).toNat

namespace Invocation

variable {σ : Type}

/-! ## Configuration -/

/-- The configuration file's settings, or what is wrong with it. -/
def loadConfig (invocation : Invocation σ) (line : CommandLine) : Except String HostConfig :=
  match line.config with
  | some path =>
    (HostConfig.load invocation.toml invocation.tree path).mapError fun error =>
      "Failed to load config: " ++ Utf8.decodeLossy path ++ ": " ++ error.chain
  | none =>
    (HostConfig.loadUser invocation.toml invocation.tree invocation.environment).mapError
      fun error => "Failed to load user config: " ++ error.chain

end Invocation

/-- The command line's options go over the file's settings. -/
def HostConfig.override (config : HostConfig) (line : CommandLine) : HostConfig :=
  { config with
    library := line.engine <|> config.library
    level := line.level.getD config.level }

/-! ## Endings -/

/-- The line for an error that ends the program. -/
def failureLine (text : String) : String :=
  programName ++ ": " ++ text ++ "\n"

/-- What is said last. -/
def terminating (status : Int32) : Log.Record :=
  Log.debug "terminating" [("status", toString status.toInt)]

/-- The end of a run whose diagnostics have begun. -/
structure Closing where
  level : Level
  log : List Log.Record
  output : Bytes := []
  journal : List Entry := []

namespace Closing

/-- An end with a status. -/
def exited (closing : Closing) (status : Int32) : Outcome where
  ending := .exited status
  output := closing.output
  errors := Log.render closing.level (closing.log ++ [terminating status])
  journal := closing.journal

/-- An end with an error, which is said before the last diagnostics. -/
def failed (closing : Closing) (text : String) : Outcome where
  ending := .exited 1
  output := closing.output
  errors := Log.render closing.level closing.log ++ failureLine text ++
    Log.render closing.level [terminating 1]
  journal := closing.journal

/-- An end that gives no time for a last word. -/
def cut (closing : Closing) (ending : Ending) : Outcome where
  ending
  output := closing.output
  errors := Log.render closing.level closing.log
  journal := closing.journal

end Closing

/-- The text of a driver's error with that of the one below it. -/
def DriverError.chain : DriverError → String
  | registry cause =>
    "Library initialization failure: " ++ (registry cause).message ++ ": " ++ cause.message
  | error => error.message

/-! ## The session -/

namespace Invocation

variable {σ : Type} [Engine σ]

/-- Host the session.  The console is the standard streams, and its exit hook
ends the process. -/
def serve (invocation : Invocation σ) (config : HostConfig) (line : CommandLine)
    (log : List Log.Record) (host : Host σ) : Outcome :=
  let bootstrap := Bootstrap.ofCommand (Utf8.decodeLossy invocation.program) line.args
    invocation.binDir
  let options : DriverOptions := ⟨Bytes.ofString config.console.prompt, config.interrupts⟩
  let closing (host : Host σ) : Closing :=
    ⟨config.level, log ++ host.log.reverse, host.bridges.flatMap (·.sink.contents),
      host.journal.reverse⟩
  match Host.serve invocation.steps 0 options bootstrap host with
  | .ok (.ok status) host => (closing host).exited status
  | .ok (.error error) host => (closing host).failed error.chain
  | .error (.exited status) host => (closing host).exited status
  | .error (.killed signal) host => (closing host).cut (.killed signal)
  | .error .unwound host => (closing host).cut .unending
  | .error .stuck host => (closing host).cut .unending

/-- Load the engine and make the session table. -/
def start (invocation : Invocation σ) (config : HostConfig) (line : CommandLine) : Outcome :=
  let path := config.libraryPath (invocation.environment.find? HostConfig.libraryVariable)
    invocation.binDir
  let loader := Loader.ofList invocation.binDir (invocation.environment.find? Loader.listVariable)
  let (failure, loading) := loadLibrary invocation.tree loader path
  let log := Log.debug (programName ++ " " ++ programVersion ++ " starting") [] :: loading
  match failure with
  | some error => Closing.failed { level := config.level, log } error.message
  | none =>
    let console := Bridge.onStreams (.ofChunks 8192 [invocation.input]) {} false config.console
      .terminate
    match Host.init invocation.engine Memory.machine config.registry [console] with
    | .error error => Closing.failed { level := config.level, log } error.message
    | .ok host =>
      invocation.serve config line log
        ({ host with undisposed := .fatal }.say
          [Log.debug "console attached to standard streams" [("interactive", "false")]])

/-- What the command line asks for, once it could be read. -/
def carryOut (invocation : Invocation σ) (line : CommandLine) : Outcome :=
  match invocation.loadConfig line with
  | .error text => { ending := .exited 1, errors := failureLine text }
  | .ok config =>
    let config := config.override line
    if line.printConfig then
      match config.render invocation.toml with
      | .ok document => { ending := .exited 0, output := Bytes.ofString document }
      | .error fault =>
        { ending := .exited 1, errors := failureLine (ConfigError.render fault).chain }
    else invocation.start config line

/-- The only file besides the engine library that a run may read: the
configuration file that was named, or else the user's own. -/
def configFile? (parser : ArgumentParser) (program : Bytes) (args : List Bytes)
    (environment : Environment) : Option Path :=
  match parser.parse CommandLine.declaration program args with
  | .ok (.matched found) =>
    (CommandLine.ofMatches found).config <|> HostConfig.userFile? environment
  | _ => none

/-- Run the program. -/
def run (invocation : Invocation σ) : Outcome :=
  match invocation.parser.parse CommandLine.declaration invocation.program invocation.args with
  | .error message =>
    { ending := .exited 2, errors := message.write invocation.environment.coloured ++ "
" }
  | .ok (.help text) =>
    { ending := .exited 0
      output := Bytes.ofString (text.write invocation.environment.coloured) }
  | .ok (.version text) => { ending := .exited 0, output := Bytes.ofString text }
  | .ok (.matched found) => invocation.carryOut (.ofMatches found)

end Invocation

end SessionHost
