import SessionHost.Bootstrap
import SessionHost.Host.Session

namespace SessionHost

/-!
# The console loop

A driver creates one session, wires its callbacks to a bridge, submits the
bootstrap sentence and then alternates between reading a line and submitting
it.  Statuses that the engine returns are not looked at: the loop ends only
with the first exit event on the bridge, and the state of a driver is read off
its session and that event.

A loop over an arbitrary engine may go on for ever, so `run` is told how many
steps it may take.
-/

inductive DriverState where
  | init
  | running
  | terminated (status : Int32)
deriving DecidableEq, Repr

inductive DriverError where
  | registry (cause : RegistryError)
  | alreadyStarted
  | notStarted
  /-- The sentence to submit holds a NUL. -/
  | interiorNul
deriving DecidableEq, Repr

def DriverError.message : DriverError → String
  | registry cause => "failed to create engine session: " ++ cause.message
  | alreadyStarted => "driver already started"
  | notStarted => "driver has no session; call start first"
  | interiorNul => "sentence contains a NUL byte"

namespace Host

variable {σ : Type}

/-- The status of the first exit event on a bridge. -/
def exitStatus? (host : Host σ) (bridge : BridgeId) : Option Int32 :=
  host.bridges[bridge]?.bind (·.exitStatus)

/-- The state of a driver.  An exit event on its bridge ends it, started or
not. -/
def stateOf (host : Host σ) (driver : Driver) : DriverState :=
  match host.exitStatus? driver.bridge, driver.active with
  | some status, _ => .terminated status
  | none, none => .init
  | none, some _ => .running

/-- Route interrupt signals to a counter's cell. -/
def takeInterrupts (host : Host σ) (counter : Counter) : Host σ :=
  host.install.arm counter

variable [Engine σ]

/-- Let go of everything that a driver holds: the handler first, then its
lease, its route and its guard. -/
def dismiss (host : Host σ) (driver : Driver) : Host σ :=
  match driver.active with
  | none => host
  | some active =>
    let host := if active.interrupt.isSome then host.uninstall else host
    let host := (host.reap active.session).unregister active.route
    match active.interrupt with
    | none => host
    | some counter => (host.disarm counter).reap counter.session

/-- Bind a new session's counter to a bridge, and make it the interrupt target
if it is to be.  A session without a counter cannot be interrupted. -/
def attach (host : Host σ) (bridge : BridgeId) (session : SessionId)
    (counter interrupt : Option Counter) : Host σ :=
  let host := match counter with
    | none => host.say [Log.warn "engine instance exposes no break cell, interrupts disabled"
        [("session", toString session)]]
    | some _ => host
  let host := host.setCancelTarget bridge counter
  match interrupt with
  | none => host
  | some counter => host.takeInterrupts counter

/-- Wire a new session to a driver's bridge: the route, the callback table,
the cancel target and the interrupt target. -/
def wire (driver : Driver) (session : SessionId) (handle : Handle) : Hosting σ Active := do
  let route ← modifyGet (·.register (.at handle) driver.bridge)
  call handle (.setCallbacks .console)
  let host ← get
  let counter := host.resolve session
  let interrupt := if driver.options.handleInterrupts then counter else none
  set (host.attach driver.bridge session counter interrupt)
  return ⟨session, route, interrupt⟩

/-- Create the session, wire it and submit the bootstrap sentence once.  The
refusals come in a fixed order, and none of them leaves anything behind. -/
def start (driver : Driver) (bootstrap : Bootstrap) :
    Hosting σ (Except DriverError SessionId × Driver) := do
  if driver.active.isSome then return (.error .alreadyStarted, driver)
  let sentence := Bytes.ofString bootstrap.sentence
  if sentence.hasNul then return (.error .interiorNul, driver)
  match ← acquire with
  | .error error => return (.error (.registry error), driver)
  | .ok id =>
    let host ← get
    match host.registry.sessions[id]? with
    | none => return (.error (.registry (.sessionNotFound id)), driver)
    | some session =>
      let active ← wire driver id session.handle
      modify (·.say [Log.debug "submitting bootstrap sentence"
        [("session", toString id), ("mode", bootstrap.mode.name)]])
      let status ← call session.handle (.execute sentence)
      modify (·.say [Log.debug "bootstrap sentence finished"
        [("session", toString id), ("status", toString status.toInt)]])
      return (.ok id, { driver with active := some active })

/-- Read one line and submit it. -/
def step (driver : Driver) : Hosting σ (Except DriverError Unit) := do
  match driver.active with
  | none => return .error .notStarted
  | some active =>
    let line ← readLine driver.bridge driver.options.prompt
    if line.hasNul then return .error .interiorNul
    let _ ← callSession active.session (.execute line)
    return .ok ()

/-- Step until an exit event is recorded, for at most the given number of
steps, and return its status. -/
def run (steps : Nat) (driver : Driver) : Hosting σ (Except DriverError Int32) := do
  let host ← get
  match host.exitStatus? driver.bridge with
  | some status => return .ok status
  | none =>
    match steps with
    | 0 => throw .stuck
    | steps + 1 =>
      match ← step driver with
      | .error error => return .error error
      | .ok () => run steps driver

/-- A session table that is owned by what unwinds goes with it, unannounced. -/
def owningTable {α : Type} (action : Hosting σ α) : Hosting σ α := fun host =>
  match action host with
  | .error .unwound host => .error .unwound { host with opened := false }
  | result => result

/-- Start a driver, run it until the engine exits, let go of it and shut the
session table down. -/
def serve (steps : Nat) (bridge : BridgeId) (options : DriverOptions) (bootstrap : Bootstrap) :
    Hosting σ (Except DriverError Int32) := do
  let (started, driver) ← owningTable (start { bridge, options } bootstrap)
  let result ← match started with
    | .error error => pure (.error error)
    | .ok _ => run steps driver
  modify fun host => (host.dismiss driver).shutDown
  return result

end Host

end SessionHost
