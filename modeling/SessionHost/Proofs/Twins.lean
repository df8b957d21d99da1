import SessionHost.Proofs.FailedCreations

namespace SessionHost

/-!
# Hosts with different pasts

Two hosts may have the same sessions, bridges and drivers, and everything else that they
hold, and yet one of them has said and done more than the other, and has more storage in
reserve.  Such hosts are twins.  What is armed, routed, shown, kept and let go of on both of
them leaves twins behind, because none of it looks at a journal, at a log or at storage.
-/

namespace Registry

/-- All of a table but its storage. -/
structure Contents where
  memory : Memory
  chunkSize : Nat
  maxSessions : Option Nat
  abandoned : Bool
  sessions : Array Session
deriving DecidableEq, Repr

def contents (registry : Registry) : Contents where
  memory := registry.memory
  chunkSize := registry.chunkSize
  maxSessions := registry.maxSessions
  abandoned := registry.abandoned
  sessions := registry.sessions

/-- A table with these contents, extended for one more session. -/
theorem extended_of_contents {registry other : Registry}
    (same : other.contents = registry.contents) : other.extended = registry.extended := by
  cases registry
  cases other
  cases same
  rfl

/-- Tables with the same contents give the same answer to a creation, and they still have
the same contents.  Where they are ready, they even have the same storage. -/
theorem prepare_of_contents {registry other : Registry} (roomy : registry.Roomy)
    (roomyOther : other.Roomy) (same : other.contents = registry.contents) :
    other.prepare.1 = registry.prepare.1 ∧
      other.prepare.2.contents = registry.prepare.2.contents ∧
      (registry.prepare.1 = .ok () → other.prepare.2 = registry.prepare.2) := by
  have extended := extended_of_contents same
  have abandoned : other.abandoned = registry.abandoned := congrArg Contents.abandoned same
  have limit : other.limit? = registry.limit? := by
    rw [limit?, limit?]
    exact congrArg (fun contents : Contents =>
      contents.maxSessions.filter fun limit => limit ≤ contents.sessions.size) same
  have reserved : other.memory.reserve other.needed = registry.memory.reserve registry.needed :=
    congrArg (fun contents : Contents => contents.memory.reserve
      (contents.chunkSize * (contents.sessions.size / contents.chunkSize + 1))) same
  rw [prepare_eq roomy, prepare_eq roomyOther, abandoned, limit, reserved, extended]
  split
  · refine ⟨rfl, ?_, fun impossible => by cases impossible⟩
    exact congrArg (fun contents : Contents => { contents with abandoned := false }) same
  · cases registry.limit? with
    | some limit => exact ⟨rfl, same, fun impossible => by cases impossible⟩
    | none =>
        cases registry.memory.reserve registry.needed with
        | error cause => exact ⟨rfl, same, fun impossible => by cases impossible⟩
        | ok _ => exact ⟨rfl, rfl, fun _ => rfl⟩

end Registry

namespace Host

variable {σ : Type} {past other : List Entry} {host twin : Host σ}

/-- Two hosts that differ in their storage and in what they have said and done, and in
nothing else.  The journals go back to different pasts, and agree in what came since. -/
structure Twins (past other : List Entry) (host twin : Host σ) : Prop where
  engine : twin.engine = host.engine
  cells : twin.cells = host.cells
  contents : twin.registry.contents = host.registry.contents
  opened : twin.opened = host.opened
  bridges : twin.bridges = host.bridges
  routing : twin.routing = host.routing
  target : twin.target = host.target
  pinned : twin.pinned = host.pinned
  handler : twin.handler = host.handler
  undisposed : twin.undisposed = host.undisposed
  leases : twin.leases = host.leases
  counters : twin.counters = host.counters
  guards : twin.guards = host.guards
  routes : twin.routes = host.routes
  drivers : twin.drivers = host.drivers
  journal : ∃ entries, host.journal = entries ++ past ∧ twin.journal = entries ++ other
  roomy : host.registry.Roomy
  roomyTwin : twin.registry.Roomy

namespace Twins

variable (twins : Twins past other host twin)

include twins

/-! ## What twins have in common -/

theorem sessions : twin.registry.sessions = host.registry.sessions :=
  congrArg Registry.Contents.sessions twins.contents

theorem abandoned : twin.registry.abandoned = host.registry.abandoned :=
  congrArg Registry.Contents.abandoned twins.contents

theorem bridgeAt? (address : Address) : twin.bridgeAt? address = host.bridgeAt? address := by
  rw [Host.bridgeAt?, Host.bridgeAt?, twins.routing]

theorem cell? (handle : Handle) : twin.cell? handle = host.cell? handle := by
  rw [Host.cell?, Host.cell?, twins.cells]

theorem lookup (raw : Int) : twin.registry.lookup raw = host.registry.lookup raw :=
  Registry.lookup_of_sessions twins.sessions raw

theorem resolve (session : SessionId) : twin.resolve session = host.resolve session := by
  simp only [Host.resolve, twins.sessions, twins.cell?]

theorem exitStatus? (bridge : BridgeId) : twin.exitStatus? bridge = host.exitStatus? bridge := by
  rw [Host.exitStatus?, Host.exitStatus?, twins.bridges]

theorem holders (session : SessionId) : twin.holders session = host.holders session := by
  simp only [Host.holders, Host.references, twins.leases, twins.counters, twins.guards,
    twins.pinned, twins.bridges, twins.drivers]

theorem isShared : twin.isShared = host.isShared := by
  rw [Host.isShared, Host.isShared, twins.drivers]

theorem isBridgeShared (id : BridgeId) : twin.isBridgeShared id = host.isBridgeShared id := by
  rw [Host.isBridgeShared, Host.isBridgeShared, twins.routing, twins.routes, twins.drivers]

/-! ## Changes of the state -/

/-- Diagnostics may even differ. -/
theorem say (records recordsTwin : List Log.Record) :
    Twins past other (host.say records) (twin.say recordsTwin) :=
  { twins with }

theorem enter (entry : Entry) : Twins past other (host.enter entry) (twin.enter entry) := by
  rcases twins.journal with ⟨entries, said, saidTwin⟩
  exact { twins with
    journal := ⟨entry :: entries, congrArg (entry :: ·) said, congrArg (entry :: ·) saidTwin⟩ }

theorem setBridge (id : BridgeId) (bridge : Bridge) :
    Twins past other (host.setBridge id bridge) (twin.setBridge id bridge) :=
  { twins with bridges := congrArg (·.set id bridge) twins.bridges }

theorem setCell (handle : Handle) (value : UInt8) :
    Twins past other (host.setCell handle value) (twin.setCell handle value) :=
  { twins with cells := congrArg (·.modify handle (·.map fun _ => value)) twins.cells }

theorem withEngine (engine : σ) :
    Twins past other { host with engine } { twin with engine } :=
  { twins with engine := rfl }

theorem closed : Twins past other { host with opened := false } { twin with opened := false } :=
  { twins with opened := rfl }

/-- A session is changed in place. -/
theorem update (id : SessionId) (change : Session → Session) :
    Twins past other { host with registry := host.registry.update id change }
      { twin with registry := twin.registry.update id change } :=
  { twins with
    contents := congrArg (fun contents : Registry.Contents =>
      { contents with sessions := contents.sessions.modify id change }) twins.contents
    roomy := Registry.roomy_update twins.roomy id change
    roomyTwin := Registry.roomy_update twins.roomyTwin id change }

/-- The creation lock is left in a state. -/
theorem abandon (abandoned : Bool) :
    Twins past other { host with registry := { host.registry with abandoned } }
      { twin with registry := { twin.registry with abandoned } } :=
  { twins with
    contents := congrArg (fun contents : Registry.Contents => { contents with abandoned })
      twins.contents
    roomy := Registry.roomy_abandon twins.roomy abandoned
    roomyTwin := Registry.roomy_abandon twins.roomyTwin abandoned }

/-! ## Interrupts -/

theorem install : Twins past other host.install twin.install :=
  { twins with handler := rfl }

theorem uninstall : Twins past other host.uninstall twin.uninstall :=
  { twins with handler := rfl }

theorem arm (counter : Counter) : Twins past other (host.arm counter) (twin.arm counter) :=
  { twins with pinned := congrArg (· ++ [counter]) twins.pinned, target := rfl }

theorem disarm (counter : Counter) :
    Twins past other (host.disarm counter) (twin.disarm counter) := by
  rw [Host.disarm, Host.disarm, twins.target]
  split
  · exact { twins with target := rfl }
  · exact twins

theorem takeInterrupts (counter : Counter) :
    Twins past other (host.takeInterrupts counter) (twin.takeInterrupts counter) :=
  twins.install.arm counter

theorem bumpTimes (times : Nat) (handle : Handle) :
    (twin.bumpTimes times handle).1 = (host.bumpTimes times handle).1 ∧
      Twins past other (host.bumpTimes times handle).2 (twin.bumpTimes times handle).2 := by
  rw [Host.bumpTimes, Host.bumpTimes, twins.cell?]
  cases host.cell? handle with
  | none => exact ⟨rfl, twins⟩
  | some value =>
      dsimp only
      split
      · exact ⟨rfl, twins⟩
      · exact ⟨rfl, twins.setCell handle _⟩

theorem bump (handle : Handle) :
    (twin.bump handle).1 = (host.bump handle).1 ∧
      Twins past other (host.bump handle).2 (twin.bump handle).2 := by
  rw [← bumpTimes_one, ← bumpTimes_one]
  exact twins.bumpTimes 1 handle

theorem deliver :
    twin.deliver.1 = host.deliver.1 ∧ Twins past other host.deliver.2 twin.deliver.2 := by
  rw [Host.deliver, Host.deliver, twins.target]
  cases host.target with
  | none => exact ⟨rfl, twins⟩
  | some handle => exact ⟨rfl, (twins.bump handle).2⟩

theorem incrementBreak (raw : Int) :
    (twin.incrementBreak raw).1 = (host.incrementBreak raw).1 ∧
      Twins past other (host.incrementBreak raw).2 (twin.incrementBreak raw).2 := by
  rw [Host.incrementBreak, Host.incrementBreak, twins.lookup]
  cases host.registry.lookup raw with
  | error error => exact ⟨rfl, twins⟩
  | ok id =>
      dsimp only
      rw [twins.resolve]
      cases host.resolve id with
      | none => exact ⟨rfl, twins⟩
      | some counter =>
          rcases twins.bump counter.handle with ⟨value, bumped⟩
          exact ⟨congrArg Except.ok value, bumped⟩

/-! ## Routes -/

theorem register (address : Address) (bridge : BridgeId) :
    Twins past other (host.register address bridge).2 (twin.register address bridge).2 :=
  { twins with
    routing := congrArg (fun routing : List Route =>
      (routing.filter fun other : Route => other.address != address) ++ [⟨address, bridge⟩])
      twins.routing }

theorem unregister (route : Route) :
    Twins past other (host.unregister route) (twin.unregister route) := by
  rw [Host.unregister, Host.unregister, twins.bridgeAt?]
  split
  · exact { twins with
      routing := congrArg (fun routing : List Route =>
        routing.filter fun other : Route => other.address != route.address) twins.routing }
  · exact twins

/-! ## Events on a bridge -/

theorem display (id : BridgeId) (kind : OutputKind) (payload : Bytes) :
    Twins past other (host.display id kind payload) (twin.display id kind payload) := by
  rw [Host.display, Host.display, twins.bridges]
  cases host.bridges[id]? with
  | none => exact twins
  | some bridge => exact (twins.setBridge id _).say _ _

end Twins

variable [Engine σ]

namespace Twins

variable (twins : Twins past other host twin)

include twins

/-! ## Letting go -/

theorem free (id : SessionId) (handle : Handle) :
    Twins past other (host.free id handle) (twin.free id handle) := by
  rw [Host.free, Host.free, twins.engine]
  exact (((twins.enter (.freed handle)).withEngine _).update id _).say _ _

theorem reap (id : SessionId) : Twins past other (host.reap id) (twin.reap id) := by
  rw [Host.reap, Host.reap, twins.sessions, twins.holders]
  cases host.registry.sessions[id]? with
  | none => exact twins
  | some session =>
      dsimp only
      split
      · exact twins.free id session.handle
      · exact twins

theorem reap? (id : Option SessionId) : Twins past other (host.reap? id) (twin.reap? id) := by
  cases id with
  | none => exact twins
  | some id => exact twins.reap id

theorem setCancelTarget (id : BridgeId) (counter : Option Counter) :
    Twins past other (host.setCancelTarget id counter) (twin.setCancelTarget id counter) := by
  rw [Host.setCancelTarget, Host.setCancelTarget, twins.bridges]
  cases host.bridges[id]? with
  | none => exact twins
  | some bridge => exact (twins.setBridge id _).reap? _

theorem attach (bridge : BridgeId) (session : SessionId) (counter interrupt : Option Counter) :
    Twins past other (host.attach bridge session counter interrupt)
      (twin.attach bridge session counter interrupt) := by
  cases counter with
  | none =>
      have bound (records : List Log.Record) :=
        (twins.say records records).setCancelTarget bridge none
      cases interrupt with
      | none => exact bound _
      | some target => exact (bound _).takeInterrupts target
  | some counter =>
      have bound := twins.setCancelTarget bridge (some counter)
      cases interrupt with
      | none => exact bound
      | some target => exact bound.takeInterrupts target

theorem letGoGuard (counter : Counter) :
    Twins past other (host.letGoGuard counter) (twin.letGoGuard counter) :=
  (twins.disarm counter).reap counter.session

theorem dismiss (driver : Driver) :
    Twins past other (host.dismiss driver) (twin.dismiss driver) := by
  rw [Host.dismiss, Host.dismiss]
  cases driver.active with
  | none => exact twins
  | some active =>
      cases active with
      | mk session route interrupt =>
          cases interrupt with
          | none => exact (twins.reap session).unregister route
          | some counter =>
              exact ((twins.uninstall.reap session).unregister route).letGoGuard counter

omit [Engine σ] in
theorem shutDown : Twins past other host.shutDown twin.shutDown :=
  twins.closed.say _ _

theorem release (raw : Int) :
    (twin.release raw).1 = (host.release raw).1 ∧
      Twins past other (host.release raw).2 (twin.release raw).2 := by
  rw [Host.release, Host.release, Registry.release, Registry.release, twins.lookup]
  cases host.registry.lookup raw with
  | error error => exact ⟨rfl, twins⟩
  | ok id => exact ⟨rfl, ((twins.update id _).say _ _).reap id⟩

/-! ## What a client keeps and drops -/

theorem keepLease (name : String) (session : SessionId) :
    Twins past other (host.keepLease name session) (twin.keepLease name session) := by
  have bound : Twins past other { host with leases := host.leases.bind name session }
      { twin with leases := twin.leases.bind name session } :=
    { twins with leases := congrArg (·.bind name session) twins.leases }
  rw [Host.keepLease, Host.keepLease, congrArg (·.find? name) twins.leases]
  exact bound.reap? _

theorem keepCounter (name : String) (counter : Counter) :
    Twins past other (host.keepCounter name counter) (twin.keepCounter name counter) := by
  have bound : Twins past other { host with counters := host.counters.bind name counter }
      { twin with counters := twin.counters.bind name counter } :=
    { twins with counters := congrArg (·.bind name counter) twins.counters }
  rw [Host.keepCounter, Host.keepCounter, congrArg (·.find? name) twins.counters]
  cases host.counters.find? name with
  | none => exact bound
  | some displaced => exact bound.reap displaced.session

theorem keepGuard (name : String) (counter : Counter) :
    Twins past other (host.keepGuard name counter) (twin.keepGuard name counter) := by
  have bound : Twins past other { host with guards := host.guards.bind name counter }
      { twin with guards := twin.guards.bind name counter } :=
    { twins with guards := congrArg (·.bind name counter) twins.guards }
  rw [Host.keepGuard, Host.keepGuard, congrArg (·.find? name) twins.guards]
  cases host.guards.find? name with
  | none => exact bound
  | some displaced => exact bound.letGoGuard displaced

omit [Engine σ] in
theorem keepRoute (name : String) (route : Route) :
    Twins past other (host.keepRoute name route) (twin.keepRoute name route) := by
  have bound : Twins past other { host with routes := host.routes.bind name route }
      { twin with routes := twin.routes.bind name route } :=
    { twins with routes := congrArg (·.bind name route) twins.routes }
  rw [Host.keepRoute, Host.keepRoute, congrArg (·.find? name) twins.routes]
  cases host.routes.find? name with
  | none => exact bound
  | some displaced => exact bound.unregister displaced

omit [Engine σ] in
theorem replaceDriver (name : String) (driver : Driver) :
    Twins past other (host.replaceDriver name driver) (twin.replaceDriver name driver) :=
  { twins with drivers := congrArg (·.bind name driver) twins.drivers }

theorem keepDriver (name : String) (driver : Driver) :
    Twins past other (host.keepDriver name driver) (twin.keepDriver name driver) := by
  have bound := twins.replaceDriver name driver
  rw [Host.keepDriver, Host.keepDriver, congrArg (·.find? name) twins.drivers]
  cases host.drivers.find? name with
  | none => exact bound
  | some displaced => exact bound.dismiss displaced

/-! ## Dropping a name -/

theorem dropGuard? (name : String) :
    Option.Rel (Twins past other) (host.dropGuard? name) (twin.dropGuard? name) := by
  rw [Host.dropGuard?, Host.dropGuard?, congrArg (·.find? name) twins.guards]
  cases host.guards.find? name with
  | none => exact .none
  | some counter =>
      have removed : Twins past other { host with guards := host.guards.remove name }
          { twin with guards := twin.guards.remove name } :=
        { twins with guards := congrArg (·.remove name) twins.guards }
      exact .some (removed.letGoGuard counter)

theorem dropCounter? (name : String) :
    Option.Rel (Twins past other) (host.dropCounter? name) (twin.dropCounter? name) := by
  rw [Host.dropCounter?, Host.dropCounter?, congrArg (·.find? name) twins.counters]
  cases host.counters.find? name with
  | none => exact .none
  | some counter =>
      have removed : Twins past other { host with counters := host.counters.remove name }
          { twin with counters := twin.counters.remove name } :=
        { twins with counters := congrArg (·.remove name) twins.counters }
      exact .some (removed.reap counter.session)

theorem dropDriver? (name : String) :
    Option.Rel (Twins past other) (host.dropDriver? name) (twin.dropDriver? name) := by
  rw [Host.dropDriver?, Host.dropDriver?, congrArg (·.find? name) twins.drivers]
  cases host.drivers.find? name with
  | none => exact .none
  | some driver =>
      have removed : Twins past other { host with drivers := host.drivers.remove name }
          { twin with drivers := twin.drivers.remove name } :=
        { twins with drivers := congrArg (·.remove name) twins.drivers }
      exact .some (removed.dismiss driver)

omit [Engine σ] in
theorem dropRoute? (name : String) :
    Option.Rel (Twins past other) (host.dropRoute? name) (twin.dropRoute? name) := by
  rw [Host.dropRoute?, Host.dropRoute?, congrArg (·.find? name) twins.routes]
  cases host.routes.find? name with
  | none => exact .none
  | some route =>
      have removed : Twins past other { host with routes := host.routes.remove name }
          { twin with routes := twin.routes.remove name } :=
        { twins with routes := congrArg (·.remove name) twins.routes }
      exact .some (removed.unregister route)

theorem dropLease? (name : String) :
    Option.Rel (Twins past other) (host.dropLease? name) (twin.dropLease? name) := by
  rw [Host.dropLease?, Host.dropLease?, congrArg (·.find? name) twins.leases]
  cases host.leases.find? name with
  | none => exact .none
  | some session =>
      have removed : Twins past other { host with leases := host.leases.remove name }
          { twin with leases := twin.leases.remove name } :=
        { twins with leases := congrArg (·.remove name) twins.leases }
      exact .some (removed.reap session)

theorem dropNamed (name : String) :
    (twin.dropNamed name).1 = (host.dropNamed name).1 ∧
      Twins past other (host.dropNamed name).2 (twin.dropNamed name).2 := by
  have either {first second firstTwin secondTwin : Option (Host σ)}
      (rel : Option.Rel (Twins past other) first firstTwin)
      (relSecond : Option.Rel (Twins past other) second secondTwin) :
      Option.Rel (Twins past other) (first <|> second) (firstTwin <|> secondTwin) := by
    cases rel with
    | none => exact relSecond
    | some twins => exact .some twins
  have dropped := either (twins.dropGuard? name) (either (twins.dropCounter? name)
    (either (twins.dropDriver? name) (either (twins.dropRoute? name) (twins.dropLease? name))))
  unfold Host.dropNamed
  revert dropped
  generalize (host.dropGuard? name <|> host.dropCounter? name <|> host.dropDriver? name <|>
    host.dropRoute? name <|> host.dropLease? name) = next
  generalize (twin.dropGuard? name <|> twin.dropCounter? name <|> twin.dropDriver? name <|>
    twin.dropRoute? name <|> twin.dropLease? name) = nextTwin
  intro dropped
  cases dropped with
  | none => exact ⟨rfl, twins⟩
  | some twins => exact ⟨rfl, twins⟩

end Twins

omit [Engine σ] in
/-- The induction is on the things that are let go of. -/
theorem foldl_twins {α : Type} {step : Host σ → α → Host σ}
    (steps : ∀ {host twin : Host σ} entry, Twins past other host twin →
      Twins past other (step host entry) (step twin entry))
    {entries entriesTwin : List α} (same : entriesTwin = entries)
    (twins : Twins past other host twin) :
    Twins past other (entries.foldl step host) (entriesTwin.foldl step twin) := by
  subst same
  induction entriesTwin generalizing host twin with
  | nil => exact twins
  | cons entry rest inductionHypothesis => exact inductionHypothesis (steps entry twins)

omit [Engine σ] in
theorem dropEach_twins {drop? : Host σ → String → Option (Host σ)}
    (drops : ∀ {host twin : Host σ} name, Twins past other host twin →
      Option.Rel (Twins past other) (drop? host name) (drop? twin name))
    {names namesTwin : List String} (same : namesTwin = names)
    (twins : Twins past other host twin) :
    Twins past other (dropEach drop? names host) (dropEach drop? namesTwin twin) := by
  apply foldl_twins _ same twins
  intro host twin name twins
  have left {next nextTwin : Option (Host σ)}
      (dropped : Option.Rel (Twins past other) next nextTwin) :
      Twins past other (next.getD host) (nextTwin.getD twin) := by
    cases dropped with
    | none => exact twins
    | some twins => exact twins
  exact left (drops name twins)

namespace Twins

variable (twins : Twins past other host twin)

include twins

theorem close : Twins past other host.close twin.close := by
  have guards := dropEach_twins (fun name twins => twins.dropGuard? name)
    (congrArg (·.map Prod.fst) twins.guards) twins
  have counters := dropEach_twins (fun name twins => twins.dropCounter? name)
    (congrArg (·.map Prod.fst) guards.counters) guards
  have drivers := dropEach_twins (fun name twins => twins.dropDriver? name)
    (congrArg (·.map Prod.fst) counters.drivers) counters
  have routes := dropEach_twins (fun name twins => twins.dropRoute? name)
    (congrArg (·.map Prod.fst) drivers.routes) drivers
  have leases := dropEach_twins (fun name twins => twins.dropLease? name)
    (congrArg (·.map Prod.fst) routes.leases) routes
  exact foldl_twins (fun bridge twins => twins.setCancelTarget bridge none)
    (congrArg (fun bridges => List.range bridges.length) leases.bridges) leases.closed

end Twins

end Host

end SessionHost
