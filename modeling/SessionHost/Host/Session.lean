import SessionHost.Host.Callback

namespace SessionHost

/-!
# Sessions of a host

Creating a session asks the engine's factory between the two halves of the
table's work; a factory that unwinds takes the caller with it and leaves the
creation lock abandoned.  Calls by id look the session up first and only then
look at the text that is to be sent, so an unknown id is reported even when
the text could not have been sent either.
-/

/-- Why a call by id was not made. -/
inductive ForwardError where
  | session (cause : RegistryError)
  /-- The sentence or name holds a NUL. -/
  | interiorNul
deriving DecidableEq, Repr

def ForwardError.message : ForwardError → String
  | session cause => cause.message
  | interiorNul => "text passed to the engine contains a NUL byte"

namespace Host

variable {σ : Type}

/-- Give an instance the next session id. -/
def enterSession (host : Host σ) (handle : Handle) : SessionId × Host σ :=
  let id := host.registry.size
  let host := { host with registry := host.registry.enter handle }
  (id, (host.enter (.created (some handle))).say
    [Log.debug "session created" [("session", toString id)]])

/-- Take in what the factory made.  Only an instance consumes an id. -/
def takeCreation (creation : Creation) : Hosting σ (Except RegistryError SessionId) := do
  match creation with
  | .fresh cell =>
    modifyGet fun host =>
      let handle := host.cells.size
      let (id, host) := { host with cells := host.cells.push cell }.enterSession handle
      (.ok id, host)
  | .again handle =>
    modifyGet fun host =>
      let (id, host) := host.enterSession handle
      (.ok id, host)
  | .nothing =>
    modify (·.enter (.created none))
    return .error (.allocationFailure .noInstance)
  | .unwound =>
    modify fun host => { host with registry := { host.registry with abandoned := true } }
    throw .unwound

/-- Create a session. -/
def acquire [Engine σ] : Hosting σ (Except RegistryError SessionId) := do
  let (ready, growth) ← modifyGet fun host =>
    let (ready, registry) := host.registry.prepare
    let grown := host.registry.growths < registry.growths
    ((ready, if grown then some registry.capacity else none), { host with registry })
  match ready with
  | .error error =>
    if error = .lockAbandoned then
      modify (·.say [Log.warn "session registry lock was abandoned by a panicking holder" []])
    return .error error
  | .ok () =>
    if let some capacity := growth then
      modify (·.say [Log.debug "session table grown" [("capacity", toString capacity)]])
    let creation ← modifyGet fun host =>
      let (creation, engine) := Engine.create host.engine host.cells.size
      (creation, { host with engine })
    takeCreation creation

/-- Release a session: its id leads nowhere from now on, and the instance goes
with its last lease. -/
def release [Engine σ] (host : Host σ) (raw : Int) : Except RegistryError SessionId × Host σ :=
  match host.registry.release raw with
  | (.error error, _) => (.error error, host)
  | (.ok id, registry) =>
    (.ok id, ({ host with registry }.say [Log.debug "session released"
      [("session", toString id), ("leases", toString (host.holders id))]]).reap id)

/-- One request for a break by id. -/
def incrementBreak (host : Host σ) (raw : Int) : Except RegistryError (Option UInt8) × Host σ :=
  match host.registry.lookup raw with
  | .error error => (.error error, host)
  | .ok id =>
    match host.resolve id with
    | none => (.ok none, host)
    | some counter =>
      let (value, host) := host.bump counter.handle
      (.ok value, host)

/-- Drop the session table.  Sessions that were never released are not torn
down with it. -/
def shutDown (host : Host σ) : Host σ :=
  { host with opened := false }.say [Log.debug "session registry shut down"
    [("sessions", toString host.registry.size), ("live", toString host.registry.live)]]

variable [Engine σ]

/-- Call into the engine through a lease. -/
def callSession (id : SessionId) (request : Call) : Hosting σ (Option request.Result) := do
  let host ← get
  match host.registry.sessions[id]? with
  | none => return none
  | some session => some <$> call session.handle request

/-- Call into the engine by id. -/
def forward (raw : Int) (request : Call) : Hosting σ (Except ForwardError request.Result) := do
  let host ← get
  match host.registry.lookup raw with
  | .error error => return .error (.session error)
  | .ok id =>
    if request.isSendable then
      match ← callSession id request with
      | some result => return .ok result
      | none => return .error (.session (.sessionNotFound raw))
    else return .error .interiorNul

end Host

end SessionHost
