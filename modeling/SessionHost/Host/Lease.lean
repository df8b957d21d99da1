import SessionHost.Host.Interrupt

namespace SessionHost

/-!
# References and teardown

A released session is torn down when the last reference to it goes.  Whoever
lets go of a reference calls `reap` on its session; the teardown then happens
there or not at all.  A session that was never released is never torn down,
and a pinned one never loses its last reference.
-/

namespace Driver

/-- The references that a driver holds: its lease, and the armed counter. -/
def references (driver : Driver) : List SessionId :=
  match driver.active with
  | none => []
  | some active => active.session :: (active.interrupt.map (·.session)).toList

end Driver

namespace Host

variable {σ : Type}

/-- Every reference to a session that is held anywhere, once for each. -/
def references (host : Host σ) : List SessionId :=
  host.leases.held ++ host.counters.held.map (·.session) ++ host.guards.held.map (·.session) ++
    host.pinned.map (·.session) ++
    host.bridges.filterMap (fun bridge => bridge.cancel.map (·.session)) ++
    host.drivers.held.flatMap (·.references)

/-- How many references to a session are held. -/
def holders (host : Host σ) (session : SessionId) : Nat :=
  host.references.count session

variable [Engine σ]

/-- Have the engine tear an instance down. -/
def free (host : Host σ) (id : SessionId) (handle : Handle) : Host σ :=
  let (status, engine) := Engine.free host.engine handle
  { host.enter (.freed handle) with
    engine
    registry := host.registry.update id fun session => { session with freed := true } }.say
      [Log.debug "engine instance freed"
        [("session", toString id), ("status", toString status.toInt)]]

/-- Tear a session down if it was released and nothing holds it any more. -/
def reap (host : Host σ) (id : SessionId) : Host σ :=
  match host.registry.sessions[id]? with
  | none => host
  | some session =>
    if session.released && !session.freed && host.holders id == 0 then
      host.free id session.handle
    else host

/-- Reap the session of a reference that may not have been there. -/
def reap? (host : Host σ) : Option SessionId → Host σ
  | none => host
  | some id => host.reap id

/-- Bind a bridge's end-of-input requests to a counter, or to none. -/
def setCancelTarget (host : Host σ) (id : BridgeId) (counter : Option Counter) : Host σ :=
  match host.bridges[id]? with
  | none => host
  | some bridge =>
    (host.setBridge id { bridge with cancel := counter }).reap? (bridge.cancel.map (·.session))

end Host

end SessionHost
