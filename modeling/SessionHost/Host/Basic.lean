import SessionHost.Console.Bridge
import SessionHost.Engine.Conversation
import SessionHost.Host.Bindings

namespace SessionHost

/-!
# The state of a host

A host is everything one process holds: the session table, the break cells
that its engines share with it, the routing table for callbacks, the armed
interrupt target, and whatever was handed out and is still held.  Sessions are
kept alive by references, and a reference is always a value in one of the
fields here.  There is no count to keep in step with them: how many references
a session has is read off the state.

Every call that reaches an engine enters the journal, and every diagnostic
enters the log, each in front of those that came before it.
-/

open Log (Record)

/-- Where a callback comes from.  Every address that belongs to no instance is
as good as any other. -/
inductive Address where
  | at (handle : Handle)
  | elsewhere
deriving DecidableEq, Repr

/-- How an address is written in diagnostics. -/
def Address.text : Address → String
  | .at handle => toString (handle + 1)
  | .elsewhere => "0"

/-- The number of a console bridge. -/
abbrev BridgeId := Nat

/-- The registration of a bridge for an address. -/
structure Route where
  address : Address
  bridge : BridgeId
deriving DecidableEq, Repr

/-- What a started driver holds. -/
structure Active where
  /-- The driver's lease on its session. -/
  session : SessionId
  route : Route
  /-- The counter it armed, if it routes interrupts. -/
  interrupt : Option Counter
deriving DecidableEq, Repr

structure DriverOptions where
  /-- Written before each line that the main loop reads. -/
  prompt : Bytes
  /-- Route interrupt signals to the session's break cell. -/
  handleInterrupts : Bool := true
deriving DecidableEq, Repr

/-- A console loop over one session. -/
structure Driver where
  bridge : BridgeId
  options : DriverOptions
  active : Option Active := none
deriving DecidableEq, Repr

/-- One entry of the journal. -/
inductive Entry where
  /-- The factory was asked, and gave this instance or none. -/
  | created (handle : Option Handle)
  | called (handle : Handle) (call : Call)
  | freed (handle : Handle)
  /-- Something the engine recorded about itself. -/
  | noted (handle : Handle) (note : Note)
deriving DecidableEq, Repr

/-- What an interrupt signal does where no handler is installed. -/
inductive Undisposed where
  /-- It is not even raised. -/
  | withheld
  /-- It ends the process. -/
  | fatal
deriving DecidableEq, Repr

structure Host (σ : Type) where
  /-- The engine library's own state. -/
  engine : σ
  /-- The break cell of every instance ever made, where it has one. -/
  cells : Array (Option UInt8) := #[]
  registry : Registry
  /-- The session table has not been shut down. -/
  opened : Bool := true
  bridges : List Bridge
  /-- Which bridge takes the callbacks of an address, at most one each. -/
  routing : List Route := []
  /-- The instance whose cell interrupt signals go to. -/
  target : Option Handle := none
  /-- Every counter that was ever armed.  A handler may still be about to use
  a target it loaded before, so these are held for good. -/
  pinned : List Counter := []
  /-- The interrupt handler is installed. -/
  handler : Bool := false
  undisposed : Undisposed := .withheld
  leases : Bindings SessionId := []
  counters : Bindings Counter := []
  /-- Guards that disarm what they armed when they are dropped. -/
  guards : Bindings Counter := []
  routes : Bindings Route := []
  drivers : Bindings Driver := []
  /-- The latest entry first. -/
  journal : List Entry := []
  /-- The latest record first. -/
  log : List Record := []

/-- Why a host does not come back from what it was doing. -/
inductive Halt where
  /-- The process ended itself. -/
  | exited (status : Int32)
  /-- A signal ended the process. -/
  | killed (signal : Nat)
  /-- A factory unwound through the caller. -/
  | unwound
  /-- Nothing that could still happen would let it go on. -/
  | stuck
deriving DecidableEq, Repr

/-- A computation of a host.  Where it halts, the state is the one it had
reached. -/
abbrev Hosting (σ : Type) := EStateM Halt (Host σ)

namespace Host

variable {σ : Type}

/-- A host with an empty session table, if there is room for one. -/
def init (engine : σ) (memory : Memory) (config : RegistryConfig) (bridges : List Bridge) :
    Except RegistryError (Host σ) :=
  match Registry.init memory config with
  | .error error => .error error
  | .ok registry => .ok
    { engine, registry, bridges
      log := [Log.debug "session registry initialised"
        [("capacity", toString registry.capacity)]] }

def say (host : Host σ) (records : List Record) : Host σ :=
  { host with log := records.reverse ++ host.log }

def enter (host : Host σ) (entry : Entry) : Host σ :=
  { host with journal := entry :: host.journal }

/-! ## Bridges -/

/-- Put a bridge back after it was used. -/
def setBridge (host : Host σ) (id : BridgeId) (bridge : Bridge) : Host σ :=
  { host with bridges := host.bridges.set id bridge }

/-- Whether a driver still needs the session table. -/
def isShared (host : Host σ) : Bool :=
  !host.drivers.isEmpty

/-- Whether a driver or a route still needs a bridge. -/
def isBridgeShared (host : Host σ) (id : BridgeId) : Bool :=
  (host.routing ++ host.routes.held).any (·.bridge == id) ||
    host.drivers.held.any (·.bridge == id)

end Host

end SessionHost
