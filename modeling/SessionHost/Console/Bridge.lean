import SessionHost.Console.Sink
import SessionHost.Console.Source
import SessionHost.Engine.Call
import SessionHost.Interrupt.Counter
import SessionHost.Log

namespace SessionHost

/-!
# The console bridge

A bridge turns an engine's requests into console operations.  Output is
written verbatim and flushed.  Input is read a line at a time behind a prompt.
The end of the input means one of two things: on a console that nobody sits
at it latches, and every request from then on gets the shutdown sentence; on
an interactive one it asks the bound session for a break and reading goes on.

The functions here are pure.  What they have to say for the diagnostics comes
back as records, in the order in which it was said.
-/

open Log (Record)

structure ConsoleConfig where
  /-- Written before each read of the main loop. -/
  prompt : String := "   "
  /-- The most bytes that one request delivers; zero is read as one. -/
  maxInput : Nat := 30000
  /-- What is returned once the input is exhausted. -/
  shutdownSentence : String := "2!:55''"
deriving DecidableEq, Repr

/-- What happens after an exit event has been recorded. -/
inductive ExitHook where
  | ignore
  /-- Keep the status of every event. -/
  | record
  /-- End the process with the event's status. -/
  | terminate
deriving DecidableEq, Repr

structure Bridge where
  source : Source
  sink : Sink := {}
  interactive : Bool := false
  maxInput : Nat := 30000
  shutdown : Bytes
  /-- The input has ended for good; no further read is made. -/
  exhausted : Bool := false
  /-- Whose break cell an interactive end of input goes to. -/
  cancel : Option Counter := none
  /-- The status of the first exit event. -/
  exitStatus : Option Int32 := none
  hook : ExitHook := .ignore
  /-- The statuses that a recording hook has seen, the latest first. -/
  hooked : List Int32 := []
deriving DecidableEq, Repr

namespace Bridge

/-- A bridge over the given streams.  The shutdown sentence ends at its first
NUL, because nothing behind one could reach an engine. -/
def onStreams (source : Source) (sink : Sink) (interactive : Bool) (config : ConsoleConfig)
    (hook : ExitHook) : Bridge where
  source
  sink
  interactive
  maxInput := max config.maxInput 1
  shutdown := (Bytes.ofString config.shutdownSentence).cutAtNul
  hook

/-- Write to the console on the host's own behalf. -/
def say (bridge : Bridge) (bytes : Bytes) : Bridge × List Record :=
  let (fault, sink) := bridge.sink.put bytes
  ({ bridge with sink },
    match fault with
    | none => []
    | some fault => [Log.warn ("failed to write to console: " ++ fault.message) []])

/-! ## Output events -/

/-- Show an engine's text. -/
def display (bridge : Bridge) (kind : OutputKind) (payload : Bytes) : Bridge × List Record :=
  let (fault, sink) := bridge.sink.put payload
  ({ bridge with sink },
    match fault with
    | none => []
    | some fault =>
      [Log.warn ("failed to write engine output: " ++ fault.message) [("kind", kind.name)]])

/-- Record an exit event.  Only the first status is kept. -/
def recordExit (bridge : Bridge) (status : Int32) : Bridge × List Record :=
  let (fault, sink) := bridge.sink.flush
  let shown := toString status.toInt
  let flushing := match fault with
    | none => []
    | some fault => [Log.warn ("failed to flush console output: " ++ fault.message) []]
  let recording := match bridge.exitStatus with
    | none => []
    | some _ => [Log.debug "exit already recorded" [("status", shown)]]
  ({ bridge with sink, exitStatus := some (bridge.exitStatus.getD status) },
    flushing ++ recording ++ [Log.info "engine requested exit" [("status", shown)]])

/-- Invoke the exit hook for an event.  A recording hook keeps the status. -/
def invokeHook (bridge : Bridge) (status : Int32) : Bridge :=
  { bridge with
    hooked := if bridge.hook = .record then status :: bridge.hooked else bridge.hooked }

/-- An exit event: it is recorded, and then the hook is invoked. -/
def exit (bridge : Bridge) (status : Int32) : Bridge × List Record :=
  let (bridge, records) := bridge.recordExit status
  (bridge.invokeHook status, records)

/-! ## Input requests -/

/-- The outcome of one request for a line. -/
structure Turn where
  bridge : Bridge
  /-- The line, or nothing where the request never comes back. -/
  line : Option Bytes
  /-- The break cell of the bound counter after the request. -/
  cell : Option UInt8
  log : List Record
deriving DecidableEq, Repr

/-- Where a request stands between two attempts to read. -/
structure Waiting where
  bridge : Bridge
  cell : Option UInt8
  /-- The latest record first. -/
  log : List Record
deriving DecidableEq, Repr

namespace Waiting

/-- An end of input on a console that nobody sits at: latch it. -/
def shutDown (waiting : Waiting) : Turn where
  bridge := { waiting.bridge with exhausted := true }
  line := some waiting.bridge.shutdown
  cell := waiting.cell
  log := (Log.debug "input exhausted, requesting shutdown" [] :: waiting.log).reverse

/-- An interactive end of input: a new line on the console, and one more
request for a break if a counter is bound. -/
def breakOff (waiting : Waiting) : Waiting :=
  let (bridge, said) := waiting.bridge.say [lineFeed]
  let log := said.reverse ++ waiting.log
  match waiting.cell with
  | none => ⟨bridge, none, log⟩
  | some value =>
    ⟨bridge, some (value + 1), Log.debug "end of interactive input, break requested"
      [("value", toString (value + 1).toNat)] :: log⟩

/-- What an end of input, or a fault that counts as one, leads to. -/
def ended (waiting : Waiting) : Except Turn Waiting :=
  if waiting.bridge.interactive then .ok waiting.breakOff else .error waiting.shutDown

/-- One attempt to read a line: either it settles the request, or the request
goes on waiting. -/
def attempt (waiting : Waiting) : Except Turn Waiting :=
  let (reading, source) := waiting.bridge.source.readLine waiting.bridge.maxInput
  let waiting := { waiting with bridge := { waiting.bridge with source } }
  match reading with
  | .line bytes => .error ⟨waiting.bridge, some bytes, waiting.cell, waiting.log.reverse⟩
  | .ended => waiting.ended
  | .failed cause =>
    let record := Log.warn ("failed to read console input: " ++ cause.message) []
    { waiting with log := record :: waiting.log }.ended

/-- Read until there is a line to deliver.  Every attempt that finds none has
used up an event of the source's script, so as many attempts as there are
events, and one more, decide the matter: if they all fail, then so does every
later one. -/
def await : (attempts : Nat) → Waiting → Turn
  | 0, waiting => ⟨waiting.bridge, none, waiting.cell, waiting.log.reverse⟩
  | attempts + 1, waiting =>
    match waiting.attempt with
    | .error turn => turn
    | .ok waiting => waiting.await attempts

end Waiting

/-- Prompt for the next line.  The cell is that of the bound counter.  Once
the input is exhausted nothing is written and nothing is read. -/
def nextLine (bridge : Bridge) (prompt : Bytes) (cell : Option UInt8) : Turn :=
  if bridge.exhausted then ⟨bridge, some bridge.shutdown, cell, []⟩
  else
    let (bridge, said) := bridge.say prompt
    Waiting.await (bridge.source.script.length + 1) ⟨bridge, cell, said.reverse⟩

/-- The debugging text of a bridge. -/
def describe (bridge : Bridge) : String :=
  let status := match bridge.exitStatus with
    | none => "None"
    | some status => "Some(" ++ toString status.toInt ++ ")"
  "CallbackBridge \x7b interactive: " ++ toString bridge.interactive ++ ", max_input: " ++
    toString bridge.maxInput ++ ", exit_status: " ++ status ++ ", .. \x7d"

end Bridge

end SessionHost
