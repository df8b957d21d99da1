import SessionHost.Client.Holding

namespace SessionHost

/-!
# What a client may ask of a host

An operation names the things it works on and the name under which its result
is to be kept.  `perform` is the one step function for all of them: a run of
a host is a list of operations performed one after another.  An operation that
is refused changes nothing but the diagnostics, the creation lock that was
found abandoned, and the storage that was reserved before the factory failed.
-/

inductive Operation where
  | acquire
  | lookup (id : Int) (keepAs : Option String)
  | release (id : Int)
  | incrementBreak (id : Int)
  /-- A call into the engine by session id. -/
  | forward (id : Int) (call : Call)
  /-- A call into the engine through a lease. -/
  | through (lease : String) (call : Call)
  | shutDown
  /-- Let go of the session table without shutting it down. -/
  | dropTable
  /-- Let go of a bridge that nothing else holds. -/
  | dropBridge (bridge : BridgeId)
  /-- Let go of everything. -/
  | close
  | drop (name : String)
  | resolve (lease : String) (keepAs : String)
  | cloneCounter (counter : String) (keepAs : String)
  | cancel (counter : String) (times : Nat)
  | arm (counter : String) (keepAs : String)
  | deliver
  | install
  | uninstall
  | raise
  /-- Text of a class, shown on a bridge. -/
  | display (bridge : BridgeId) (code : Int32) (payload : Bytes)
  | exit (bridge : BridgeId) (status : Int32)
  | readLine (bridge : BridgeId) (prompt : Bytes)
  /-- Bind a bridge's end-of-input requests; an unknown counter unbinds them. -/
  | setCancelTarget (bridge : BridgeId) (counter : String)
  | register (address : Address) (bridge : BridgeId) (keepAs : String)
  /-- The output callback, as an engine would use it. -/
  | output (address : Address) (code : Int32) (argument : OutputArgument)
  /-- The input callback, as an engine would use it. -/
  | input (address : Address) (prompt : Option Bytes)
  | driver (bridge : BridgeId) (options : DriverOptions) (keepAs : String)
  | start (driver : String) (bootstrap : Bootstrap)
  | step (driver : String)
  /-- Run a driver for at most so many steps. -/
  | run (driver : String) (steps : Nat)
  /-- Run a session from start to end on a driver of its own. -/
  | serve (bridge : BridgeId) (options : DriverOptions) (bootstrap : Bootstrap) (steps : Nat)
deriving DecidableEq, Repr

/-- What an operation gives back. -/
inductive Answer where
  | done
  | noSuchName
  /-- The session table has been shut down. -/
  | noRegistry
  /-- A driver still holds the session table. -/
  | shared
  /-- Text for a lease that holds a NUL. -/
  | interiorNul
  | refused (cause : RegistryError)
  | notForwarded (cause : ForwardError)
  | driverRefused (cause : DriverError)
  | session (id : SessionId)
  | result (call : Call) (value : call.Result)
  /-- The value of a break cell, if there is one. -/
  | cell (value : Option UInt8)
  | flag (value : Bool)
  | line (bytes : Bytes)
  | status (status : Int32)

namespace Host

variable {σ : Type} [Engine σ]

/-- Do something that needs the session table. -/
def withTable (action : Hosting σ Answer) : Hosting σ Answer := do
  let host ← get
  if host.opened then action else return .noRegistry

/-- Put a driver back under the name it already has. -/
def replaceDriver (host : Host σ) (name : String) (driver : Driver) : Host σ :=
  { host with drivers := host.drivers.bind name driver }

/-- An operation on the counter of a name. -/
def withCounter (name : String) (action : Counter → Hosting σ Answer) : Hosting σ Answer := do
  let host ← get
  match host.counters.find? name with
  | none => return .noSuchName
  | some counter => action counter

/-- An operation on the driver of a name. -/
def withDriver (name : String) (action : Driver → Hosting σ Answer) : Hosting σ Answer := do
  let host ← get
  match host.drivers.find? name with
  | none => return .noSuchName
  | some driver => action driver

/-- An operation on the lease of a name. -/
def withLease (name : String) (action : SessionId → Hosting σ Answer) : Hosting σ Answer := do
  let host ← get
  match host.leases.find? name with
  | none => return .noSuchName
  | some session => action session

/-- Perform one operation. -/
def perform : Operation → Hosting σ Answer
  | .acquire => withTable do
    match ← acquire with
    | .ok id => return .session id
    | .error error => return .refused error
  | .lookup id keepAs => withTable do
    let host ← get
    match host.registry.lookup id with
    | .error error => return .refused error
    | .ok session =>
      match keepAs with
      | none => return .session session
      | some name =>
        set (host.keepLease name session)
        return .session session
  | .release id => withTable do
    match ← modifyGet (·.release id) with
    | .ok _ => return .done
    | .error error => return .refused error
  | .incrementBreak id => withTable do
    match ← modifyGet (·.incrementBreak id) with
    | .ok value => return .cell value
    | .error error => return .refused error
  | .forward id call => withTable do
    match ← forward id call with
    | .ok value => return .result call value
    | .error error => return .notForwarded error
  | .through lease call => withLease lease fun session => do
    if call.isSendable then
      match ← callSession session call with
      | some value => return .result call value
      | none => return .noSuchName
    else return .interiorNul
  | .shutDown => withTable do
    let host ← get
    if host.isShared then return .shared
    set host.shutDown
    return .done
  | .dropTable => withTable do
    let host ← get
    if host.isShared then return .shared
    set { host with opened := false }
    return .done
  | .dropBridge bridge => do
    let host ← get
    if host.isBridgeShared bridge then return .shared
    set (host.setCancelTarget bridge none)
    return .done
  | .close => do
    modify close
    return .done
  | .drop name => return .flag (← modifyGet (·.dropNamed name))
  | .resolve lease keepAs => withLease lease fun session => do
    let host ← get
    match host.resolve session with
    | none => return .cell none
    | some counter =>
      set (host.keepCounter keepAs counter)
      return .cell (host.cell? counter.handle)
  | .cloneCounter name keepAs => withCounter name fun counter => do
    modify (·.keepCounter keepAs counter)
    return .done
  | .cancel name times => withCounter name fun counter =>
    return .cell (← modifyGet fun host => host.bumpTimes times counter.handle)
  | .arm name keepAs => withCounter name fun counter => do
    modify fun host => (host.arm counter).keepGuard keepAs counter
    return .done
  | .deliver => return .flag (← modifyGet deliver)
  | .install => do
    modify install
    return .flag true
  | .uninstall => do
    modify uninstall
    return .flag true
  | .raise => return .flag (← raise)
  | .display bridge code payload => do
    modify (·.display bridge (.ofCode code) payload)
    return .done
  | .exit bridge status => do
    exitEvent bridge status
    return .done
  | .readLine bridge prompt => return .line (← readLine bridge prompt)
  | .setCancelTarget bridge name => do
    let host ← get
    let counter := host.counters.find? name
    set (host.setCancelTarget bridge counter)
    return .flag counter.isSome
  | .register address bridge keepAs => do
    modify fun host =>
      let (route, host) := host.register address bridge
      host.keepRoute keepAs route
    return .done
  | .output address code argument => do
    outputCallback address code argument
    return .done
  | .input address prompt => return .line (← inputCallback address prompt)
  | .driver bridge options keepAs => withTable do
    modify (·.keepDriver keepAs { bridge, options })
    return .done
  | .start name bootstrap => withDriver name fun driver => do
    let (started, driver) ← start driver bootstrap
    modify (·.replaceDriver name driver)
    match started with
    | .ok id => return .session id
    | .error error => return .driverRefused error
  | .step name => withDriver name fun driver => do
    match ← step driver with
    | .ok () => return .done
    | .error error => return .driverRefused error
  | .run name steps => withDriver name fun driver => do
    match ← run steps driver with
    | .ok status => return .status status
    | .error error => return .driverRefused error
  | .serve bridge options bootstrap steps => withTable do
    let host ← get
    if host.isShared then return .shared
    match ← serve steps bridge options bootstrap with
    | .ok status => return .status status
    | .error error => return .driverRefused error

end Host

end SessionHost
