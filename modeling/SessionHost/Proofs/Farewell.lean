import SessionHost.Proofs.Recounting
import SessionHost.Proofs.Routing
import SessionHost.Proofs.Teardown
import SessionHost.Engine.Recording

namespace SessionHost

/-!
# What a served session leaves behind

To serve a session is to start a driver, to run it and to let go of it.  A driver that
starts rigs up four things that do not belong to it: the table has its session, the
routing table has an entry for its instance, and the interrupt target, the pins and the
handler have its counter, if it routes interrupts and the instance has a break cell.
What the engine does while it is called changes none of them, nor whether an instance has
a cell, so it is known at the end what there is to be undone.

The entry and the handler go in any case, and the target goes because it is still the
driver's own.  The session and the pin stay.  A start that fails has rigged up nothing.
-/

namespace Host

variable {σ : Type} {host before after created next : Host σ}

/-- What a driver sets up for its session outside of itself. -/
structure Rigging where
  /-- The instances of all sessions. -/
  handles : List Handle
  routing : List Route
  target : Option Handle
  pinned : List Counter
  handler : Bool

def rigging (host : Host σ) : Rigging where
  handles := host.handles
  routing := host.routing
  target := host.target
  pinned := host.pinned
  handler := host.handler

namespace Rigging

/-- A session more. -/
def entered (rigging : Rigging) (handle : Handle) : Rigging :=
  { rigging with handles := rigging.handles ++ [handle] }

/-- The callbacks of an address go to a bridge. -/
def routed (rigging : Rigging) (route : Route) : Rigging :=
  { rigging with
    routing := (rigging.routing.filter fun other : Route => other.address != route.address) ++
      [route] }

/-- Interrupts go to a counter, if there is one. -/
def taking (rigging : Rigging) : Option Counter → Rigging
  | none => rigging
  | some counter =>
    { rigging with
      handler := true
      target := some counter.handle
      pinned := rigging.pinned ++ [counter] }

/-- The callbacks of an address go nowhere. -/
def unrouted (rigging : Rigging) (address : Address) : Rigging :=
  { rigging with
    routing := rigging.routing.filter fun other : Route => other.address != address }

/-- Interrupts do not go to a counter's cell. -/
def disarmed (rigging : Rigging) (counter : Counter) : Rigging :=
  { rigging with
    target := if rigging.target = some counter.handle then none else rigging.target }

/-- Interrupts go nowhere, if they went to a counter. -/
def untaking (rigging : Rigging) : Option Counter → Rigging
  | none => rigging
  | some counter => { rigging.disarmed counter with handler := false }

variable (rigging : Rigging) (interrupt : Option Counter)

/-! Whether there is a counter makes no difference to the sessions and to the routes. -/

@[simp]
theorem taking_handles : (rigging.taking interrupt).handles = rigging.handles := by
  cases interrupt with
  | none => rfl
  | some counter => rfl

@[simp]
theorem taking_routing : (rigging.taking interrupt).routing = rigging.routing := by
  cases interrupt with
  | none => rfl
  | some counter => rfl

@[simp]
theorem untaking_handles : (rigging.untaking interrupt).handles = rigging.handles := by
  cases interrupt with
  | none => rfl
  | some counter => rfl

@[simp]
theorem untaking_routing : (rigging.untaking interrupt).routing = rigging.routing := by
  cases interrupt with
  | none => rfl
  | some counter => rfl

end Rigging

/-! ## Single changes -/

theorem rigging_of_served {handle : Handle} (served : Served handle before after) :
    after.rigging = before.rigging := by
  have registry : after.registry = before.registry := congrArg Estate.registry served.estate
  have routing : after.routing = before.routing := congrArg Estate.routing served.estate
  have target : after.target = before.target := congrArg Estate.target served.estate
  have pinned : after.pinned = before.pinned := congrArg Estate.pinned served.estate
  have handler : after.handler = before.handler := congrArg Estate.handler served.estate
  unfold rigging handles
  rw [registry, routing, target, pinned, handler]

theorem length_handles (host : Host σ) : host.handles.length = host.registry.size := by
  unfold handles
  rw [List.length_map, Array.length_toList]
  rfl

theorem handles_of_sessions (same : after.registry.sessions = before.registry.sessions) :
    after.handles = before.handles := by
  unfold handles
  rw [same]

theorem enterSession_rigging (host : Host σ) (handle : Handle) :
    (host.enterSession handle).2.rigging = host.rigging.entered handle := by
  have handles : (host.enterSession handle).2.handles = host.handles ++ [handle] := by
    have sessions : (host.enterSession handle).2.registry.sessions =
        host.registry.sessions.push { handle } := rfl
    unfold Host.handles
    rw [sessions, Array.toList_push, List.map_append]
    rfl
  exact congrArg (fun handles => { host.rigging with handles }) handles

/-- What the factory gave is in the table, and nothing else is different. -/
theorem takeCreation_of_ok {creation : Creation} {answer : Except RegistryError SessionId}
    (taken : takeCreation creation host = .ok answer next) :
    match answer with
    | .error _ => next.rigging = host.rigging
    | .ok id => id = host.registry.size ∧ ∃ handle, next.rigging = host.rigging.entered handle := by
  cases creation with
  | fresh cell =>
      cases taken
      exact ⟨rfl, _, enterSession_rigging { host with cells := host.cells.push cell } _⟩
  | again handle =>
      cases taken
      exact ⟨rfl, _, enterSession_rigging host handle⟩
  | nothing =>
      cases taken
      exact rfl
  | unwound => cases taken

theorem unregister_rigging (route : Route)
    (routed : host.bridgeAt? route.address = some route.bridge) :
    (host.unregister route).rigging = host.rigging.unrouted route.address := by
  unfold unregister
  rw [if_pos routed]
  rfl

theorem disarm_rigging (host : Host σ) (counter : Counter) :
    (host.disarm counter).rigging = host.rigging.disarmed counter := by
  have target : host.rigging.target = host.target := rfl
  unfold disarm Rigging.disarmed
  rw [target]
  by_cases own : host.target = some counter.handle
  · rw [if_pos own, if_pos own]
    rfl
  · rw [if_neg own, if_neg own]
    rfl

variable [Engine σ]

theorem acquire_of_ok {answer : Except RegistryError SessionId}
    (acquired : acquire host = .ok answer next) :
    match answer with
    | .error _ => next.rigging = host.rigging
    | .ok id => id = host.registry.size ∧ ∃ handle, next.rigging = host.rigging.entered handle := by
  have sessions := Registry.prepare_sessions host.registry
  have size : host.registry.prepare.2.size = host.registry.size := congrArg Array.size sessions
  have handles (records : List Log.Record) (engine : σ) :
      (({ host with registry := host.registry.prepare.2, engine } : Host σ).say records).rigging =
        host.rigging :=
    congrArg (fun handles => { host.rigging with handles }) (handles_of_sessions sessions)
  cases ready : host.registry.prepare.1 with
  | error error =>
      rcases acquire_of_refused ready with ⟨records, refused⟩
      rw [acquired] at refused
      cases refused
      exact handles records host.engine
  | ok _ =>
      rcases acquire_of_ready ready with ⟨records, taken⟩
      rw [acquired] at taken
      have taken := takeCreation_of_ok taken.symm
      rw [handles] at taken
      cases answer with
      | error error => exact taken
      | ok id =>
          rw [← size]
          exact taken

theorem reap_rigging (host : Host σ) (id : SessionId) : (host.reap id).rigging = host.rigging := by
  apply reap_keeps fun next => next.rigging = host.rigging
  · intro session found
    have handles : (host.free id session.handle).handles = host.handles := by
      apply List.ext_getElem?
      intro position
      rw [getElem?_handles, getElem?_handles, getElem?_free]
      split
      · rw [Option.map_map]
        rfl
      · rfl
    exact congrArg (fun handles => { host.rigging with handles }) handles
  · rfl

theorem setCancelTarget_rigging (host : Host σ) (bridge : BridgeId) (counter : Option Counter) :
    (host.setCancelTarget bridge counter).rigging = host.rigging :=
  setCancelTarget_keeps (fun next => next.rigging = host.rigging) (fun _ _ => rfl)
    (fun next session same => (reap_rigging next session).trans same) rfl

theorem attach_rigging (host : Host σ) (bridge : BridgeId) (session : SessionId)
    (counter interrupt : Option Counter) :
    (host.attach bridge session counter interrupt).rigging = host.rigging.taking interrupt := by
  have bound (next : Host σ) (same : next.rigging = host.rigging) :
      (next.setCancelTarget bridge counter).rigging = host.rigging :=
    (setCancelTarget_rigging next bridge counter).trans same
  have taken (next : Host σ) (same : next.rigging = host.rigging) :
      (match interrupt with
        | none => next
        | some counter => next.takeInterrupts counter).rigging = host.rigging.taking interrupt := by
    cases interrupt with
    | none => exact same
    | some counter => exact congrArg (·.taking (some counter)) same
  unfold attach
  cases counter with
  | none => exact taken _ (bound _ rfl)
  | some held => exact taken _ (bound _ rfl)

/-- A driver that is let go of while its route is in the table. -/
theorem dismiss_rigging {driver : Driver} {active : Active} (running : driver.active = some active)
    (routed : host.bridgeAt? active.route.address = some active.route.bridge) :
    (host.dismiss driver).rigging =
      (host.rigging.unrouted active.route.address).untaking active.interrupt := by
  have parted (middle : Host σ) (same : middle.routing = host.routing) :
      ((middle.reap active.session).unregister active.route).rigging =
        middle.rigging.unrouted active.route.address := by
    have reaped := reap_rigging middle active.session
    have still : (middle.reap active.session).bridgeAt? active.route.address =
        some active.route.bridge := by
      have routing : (middle.reap active.session).routing = host.routing :=
        (congrArg Rigging.routing reaped).trans same
      unfold bridgeAt? at routed ⊢
      rw [routing]
      exact routed
    rw [unregister_rigging active.route still, reaped]
  unfold dismiss
  rw [running]
  dsimp only
  cases active.interrupt with
  | none => exact parted host rfl
  | some counter =>
      have removed := parted host.uninstall rfl
      refine (reap_rigging _ counter.session).trans ((disarm_rigging _ counter).trans ?_)
      exact congrArg (·.disarmed counter) removed

/-! ## Which instances have a cell -/

theorem step_celled (driver : Driver) (host : Host σ) :
    Hosting.Leaves (step driver) host (Celled host) := by
  have unchanged : Celled host host := fun _ => rfl
  unfold step
  cases driver.active with
  | none => exact unchanged
  | some active =>
      apply (readLine_celled host driver.bridge driver.options.prompt).bind
      intro line asked celled
      split
      · exact celled
      · have called : Hosting.Leaves (callSession active.session (.execute line)) asked
            (Celled host) := by
          unfold callSession
          rw [Hosting.leaves_get_bind]
          cases asked.registry.sessions[active.session]? with
          | none => exact celled
          | some session =>
              rw [Hosting.leaves_map]
              exact (call_celled _ asked).mono fun _ => celled.trans
        exact called.bind fun _ _ later => later

/-- The induction is on the steps that may still be taken. -/
theorem run_celled (driver : Driver) (steps : Nat) (host : Host σ) :
    Hosting.Leaves (run steps driver) host (Celled host) := by
  have unchanged (host : Host σ) : Celled host host := fun _ => rfl
  induction steps generalizing host with
  | zero =>
      unfold run
      rw [Hosting.leaves_get_bind]
      cases host.exitStatus? driver.bridge with
      | some status => exact unchanged host
      | none => exact unchanged host
  | succ steps inductionHypothesis =>
      unfold run
      rw [Hosting.leaves_get_bind]
      cases host.exitStatus? driver.bridge with
      | some status => exact unchanged host
      | none =>
          apply (step_celled driver host).bind
          intro answer stepped celled
          cases answer with
          | error error => exact celled
          | ok _ => exact (inductionHypothesis stepped).mono fun _ => celled.trans

/-! ## A driver from start to end -/

/-- What a start sets up for a new session.  A counter is armed if interrupts are to be
routed and the instance has a break cell. -/
structure Rigged (bridge : BridgeId) (options : DriverOptions) (before after : Host σ)
    (handle : Handle) (interrupt : Option Counter) : Prop where
  rigging : after.rigging =
    ((before.rigging.entered handle).routed ⟨.at handle, bridge⟩).taking interrupt
  interrupt : interrupt =
    if options.handleInterrupts = true ∧ (after.cell? handle).isSome = true then
      some ⟨before.registry.size, handle⟩
    else none

omit [Engine σ] in
theorem resolve_eq {id : SessionId} {session : Session}
    (found : host.registry.sessions[id]? = some session) :
    host.resolve id =
      if (host.cell? session.handle).isSome = true then some ⟨id, session.handle⟩ else none := by
  unfold resolve
  rw [found]
  dsimp only
  cases host.cell? session.handle with
  | none => rfl
  | some value => rfl

theorem wire_rigging {driver : Driver} {id : SessionId} {session : Session} {active : Active}
    (found : host.registry.sessions[id]? = some session)
    (wired : wire driver id session.handle host = .ok active next) :
    ∃ interrupt, active = ⟨id, ⟨.at session.handle, driver.bridge⟩, interrupt⟩ ∧
      next.rigging =
        (host.rigging.routed ⟨.at session.handle, driver.bridge⟩).taking interrupt ∧
      interrupt = if driver.options.handleInterrupts = true ∧
          (next.cell? session.handle).isSome = true then some ⟨id, session.handle⟩ else none := by
  unfold wire at wired
  rcases Hosting.bind_eq_ok wired with ⟨route, _, registered, wired⟩
  cases registered
  rcases Hosting.bind_eq_ok wired with ⟨_, called, wiring, wired⟩
  rw [Hosting.get_bind, Hosting.set_bind] at wired
  cases wired
  have served : Served session.handle _ called := (call_served _ _).of_ok wiring
  have registry : called.registry = host.registry := congrArg Estate.registry served.estate
  have same : called.rigging = host.rigging.routed ⟨.at session.handle, driver.bridge⟩ :=
    rigging_of_served served
  have resolved : called.resolve id = _ := resolve_eq (by rw [registry]; exact found)
  refine ⟨_, rfl, ?_, ?_⟩
  · rw [attach_rigging, same]
  · have cell : ((called.attach driver.bridge id (called.resolve id)
        (if driver.options.handleInterrupts then called.resolve id else none)).cell?
          session.handle) = called.cell? session.handle := by
      unfold cell?
      rw [attach_cells]
    rw [cell, resolved]
    cases driver.options.handleInterrupts with
    | false => simp
    | true => simp

/-- A start sets up everything for the session that it has created, or nothing. -/
theorem start_rigging {bridge : BridgeId} {options : DriverOptions} {bootstrap : Bootstrap}
    {answer : Except DriverError SessionId} {driver : Driver}
    (started : start { bridge, options } bootstrap host = .ok (answer, driver) next) :
    match answer with
    | .error _ => driver.active = none ∧ next.rigging = host.rigging
    | .ok id => id = host.registry.size ∧ ∃ handle interrupt,
        driver.active = some ⟨id, ⟨.at handle, bridge⟩, interrupt⟩ ∧
          Rigged bridge options host next handle interrupt := by
  unfold start at started
  dsimp only [Option.isSome] at started
  rw [if_neg Bool.false_ne_true] at started
  split at started
  · cases started
    exact ⟨rfl, rfl⟩
  rcases Hosting.bind_eq_ok started with ⟨acquisition, created, acquired, started⟩
  have creation := acquire_of_ok acquired
  cases acquisition with
  | error error =>
      cases started
      exact ⟨rfl, creation⟩
  | ok id =>
      rcases creation with ⟨rfl, handle, entered⟩
      dsimp only at started
      have handles : created.handles = host.handles ++ [handle] := congrArg Rigging.handles entered
      have last : created.handles[host.registry.size]? = some handle := by
        rw [handles, ← length_handles]
        exact List.getElem?_concat_length ..
      rw [getElem?_handles] at last
      rcases Option.map_eq_some_iff.mp last with ⟨session, found, rfl⟩
      rw [Hosting.get_bind, found] at started
      rcases Hosting.bind_eq_ok started with ⟨active, wired, wiring, started⟩
      rw [Hosting.modify_bind] at started
      rcases Hosting.bind_eq_ok started with ⟨code, executed, bootstrapped, started⟩
      rw [Hosting.modify_bind] at started
      cases started
      rcases wire_rigging found wiring with ⟨interrupt, rfl, rigging, armed⟩
      have served : Served session.handle _ executed := (call_served _ _).of_ok bootstrapped
      have celled : Celled _ executed := (call_celled _ _).of_ok bootstrapped
      refine ⟨rfl, session.handle, interrupt, rfl, ?_, ?_⟩
      · have same : executed.rigging = wired.rigging := (rigging_of_served served).trans rfl
        rw [← entered]
        exact same.trans rigging
      · have cell : (executed.cell? session.handle).isSome = (wired.cell? session.handle).isSome :=
          celled session.handle
        rw [← cell] at armed
        exact armed

omit [Engine σ] in
theorem Rigged.handles {bridge : BridgeId} {options : DriverOptions} {handle : Handle}
    {interrupt : Option Counter} (rigged : Rigged bridge options before host handle interrupt) :
    host.handles = before.handles ++ [handle] :=
  (congrArg Rigging.handles rigged.rigging).trans (Rigging.taking_handles _ interrupt)

omit [Engine σ] in
/-- The address of the new session leads to the driver's bridge, and every other one
where it led before. -/
theorem Rigged.routes {bridge : BridgeId} {options : DriverOptions} {handle : Handle}
    {interrupt : Option Counter} (rigged : Rigged bridge options before host handle interrupt)
    (address : Address) :
    host.bridgeAt? address =
      if address = .at handle then some bridge else before.bridgeAt? address := by
  have routing : host.routing = (before.register (.at handle) bridge).2.routing :=
    (congrArg Rigging.routing rigged.rigging).trans (Rigging.taking_routing _ interrupt)
  rw [← bridgeAt?_register]
  unfold bridgeAt?
  rw [routing]

/-- What is left of a session that was started and let go of: the callbacks of its
instance go nowhere, and everybody else's go where they went before.  If a counter was
armed, it is pinned, there is no target and no handler, and if not, all that is as before. -/
structure Cleared (options : DriverOptions) (before after : Host σ) (handle : Handle) : Prop where
  handles : after.handles = before.handles ++ [handle]
  routing : ∀ address, after.bridgeAt? address =
    if address = .at handle then none else before.bridgeAt? address
  armed : options.handleInterrupts = true → (after.cell? handle).isSome = true →
    after.target = none ∧ after.handler = false ∧
      after.pinned = before.pinned ++ [⟨before.registry.size, handle⟩]
  unarmed : options.handleInterrupts = false ∨ after.cell? handle = none →
    after.target = before.target ∧ after.handler = before.handler ∧ after.pinned = before.pinned

/-- What a service leaves of a session, by how its start came out. -/
def Leftover (options : DriverOptions) (before after : Host σ) (result : Except DriverError Int32) :
    Except DriverError SessionId → Prop
  | .error error => result = .error error ∧ after.rigging = before.rigging
  | .ok id => id = before.registry.size ∧ ∃ handle, Cleared options before after handle

omit [Engine σ] in
theorem cleared_of_rigged {bridge : BridgeId} {options : DriverOptions} {handle : Handle}
    {interrupt : Option Counter} (rigged : Rigged bridge options before host handle interrupt)
    (dismissed : after.rigging = (host.rigging.unrouted (.at handle)).untaking interrupt)
    (cells : after.cells = host.cells) : Cleared options before after handle := by
  have cell : after.cell? handle = host.cell? handle := by
    unfold cell?
    rw [cells]
  have isArmed := rigged.interrupt
  rw [← cell] at isArmed
  constructor
  · have kept : after.handles = host.handles :=
      (congrArg Rigging.handles dismissed).trans (Rigging.untaking_handles _ interrupt)
    exact kept.trans rigged.handles
  · intro address
    have routing : after.routing =
        host.routing.filter fun other : Route => other.address != .at handle :=
      (congrArg Rigging.routing dismissed).trans (Rigging.untaking_routing _ interrupt)
    have routes := rigged.routes address
    unfold bridgeAt? at routes ⊢
    rw [routing, find?_without]
    by_cases own : address = .at handle
    · rw [if_pos own, if_pos own]
      rfl
    · rw [if_neg own] at routes ⊢
      rw [if_neg own]
      exact routes
  · intro routes celled
    rw [if_pos ⟨routes, celled⟩] at isArmed
    rw [isArmed] at dismissed rigged
    have taken : host.rigging.target = some handle := congrArg Rigging.target rigged.rigging
    have target : after.target = if host.rigging.target = some handle then none else _ :=
      congrArg Rigging.target dismissed
    rw [if_pos taken] at target
    have pinned : after.pinned = host.rigging.pinned := congrArg Rigging.pinned dismissed
    exact ⟨target, congrArg Rigging.handler dismissed,
      pinned.trans (congrArg Rigging.pinned rigged.rigging)⟩
  · intro unarmed
    have none : interrupt = none := by
      rw [isArmed, if_neg]
      rintro ⟨routes, celled⟩
      rcases unarmed with unrouted | bare
      · rw [unrouted] at routes
        cases routes
      · rw [bare] at celled
        cases celled
    rw [none] at dismissed rigged
    have untouched : after.rigging = ((before.rigging.entered handle).routed
        ⟨.at handle, bridge⟩).unrouted (.at handle) :=
      dismissed.trans (congrArg (Rigging.unrouted · (.at handle)) rigged.rigging)
    exact ⟨congrArg Rigging.target untouched, congrArg Rigging.handler untouched,
      congrArg Rigging.pinned untouched⟩

/-- Nothing of what was set up changes while the driver runs. -/
theorem Rigged.of_run {bridge : BridgeId} {options : DriverOptions} {handle : Handle}
    {interrupt : Option Counter} {driver : Driver} {active : Active} {last : Host σ} {steps : Nat}
    {result : Except DriverError Int32}
    (rigged : Rigged bridge options before host handle interrupt)
    (running : driver.active = some active) (own : active.session = before.registry.size)
    (ran : run steps driver host = .ok result last) :
    Rigged bridge options before last handle interrupt := by
  have entered : host.handles[active.session]? = some handle := by
    rw [rigged.handles, own, ← length_handles]
    exact List.getElem?_concat_length ..
  rw [getElem?_handles] at entered
  rcases Option.map_eq_some_iff.mp entered with ⟨session, found, rfl⟩
  have served : Served session.handle host last := (run_served running found steps).of_ok ran
  have celled : Celled host last := (run_celled driver steps host).of_ok ran
  refine ⟨(rigging_of_served served).trans rigged.rigging, ?_⟩
  rw [celled session.handle]
  exact rigged.interrupt

/-- Serving a session undoes what its driver has set up, however it comes back. -/
theorem leftover_of_serve {steps : Nat} {bridge : BridgeId} {options : DriverOptions}
    {bootstrap : Bootstrap} {result : Except DriverError Int32}
    (served : serve steps bridge options bootstrap host = .ok result after) :
    after.opened = false ∧ ∃ started driver next,
      start { bridge, options } bootstrap host = .ok (started, driver) next ∧
        Leftover options host after result started := by
  unfold serve at served
  rcases Hosting.bind_eq_ok served with ⟨⟨started, driver⟩, next, starting, served⟩
  have starting : start { bridge, options } bootstrap host = .ok (started, driver) next := by
    unfold owningTable at starting
    split at starting
    · cases starting
    · exact starting
  have rigging := start_rigging starting
  cases started with
  | error error =>
      rcases rigging with ⟨idle, same⟩
      cases served
      refine ⟨rfl, _, _, next, starting, rfl, ?_⟩
      have unchanged : (next.dismiss driver).rigging = next.rigging := by
        unfold dismiss
        rw [idle]
      exact unchanged.trans same
  | ok id =>
      rcases rigging with ⟨rfl, handle, interrupt, running, rigged⟩
      rcases Hosting.bind_eq_ok served with ⟨outcome, last, ran, served⟩
      dsimp only at served
      rw [Hosting.modify_bind] at served
      cases served
      refine ⟨rfl, _, _, next, starting, rfl, handle, ?_⟩
      have still := rigged.of_run running rfl ran
      have routed := still.routes (.at handle)
      rw [if_pos rfl] at routed
      exact cleared_of_rigged still (dismiss_rigging running routed) (dismiss_cells last _)

/-- Whatever a host has been through, and whatever the engine does: when a service
comes back, with a status or with an error, the table is shut down, and what its driver
had set up is undone.  A start that failed has left everything as it was.  The engine was
asked to tear down exactly the sessions that are marked for that, and all of these were
released. -/
theorem serve_cleans_up {first : Host σ} (starts : first.Starts) (operations : List Operation)
    {steps : Nat} {bridge : BridgeId} {options : DriverOptions} {bootstrap : Bootstrap}
    {result : Except DriverError Int32}
    (served : serve steps bridge options bootstrap (first.afterAll operations) = .ok result after) :
    after.opened = false ∧
      (∃ started driver next,
        start { bridge, options } bootstrap (first.afterAll operations) =
            .ok (started, driver) next ∧
          Leftover options (first.afterAll operations) after result started) ∧
      (∀ (id : SessionId) (session : Session), after.registry.sessions[id]? = some session →
        session.freed = true → session.released = true) ∧
      ∀ handle, after.journal.count (.freed handle) = after.registry.tornDown handle := by
  have settled : (first.afterAll operations).Settled := settled_afterAll starts.settled operations
  have accounts : after.Settled :=
    ((serve_advance settled steps bridge options bootstrap).of_ok served).accounts
  rcases leftover_of_serve served with ⟨closed, leftover⟩
  refine ⟨closed, leftover, ?_, accounts.counted⟩
  intro id session found freed
  exact (accounts.safe id session found freed).1

/-- What a host has been through whose first session is the target. -/
def armedBefore : List Operation :=
  [.acquire, .lookup 0 (some "lease"), .resolve "lease" "counter", .arm "counter" "guard"]

/-- Serving one line that makes the engine exit. -/
theorem serve_one_line :
    ∃ first : Host Recording.Recorder,
      Host.init { reactions := [("bye", .exit 7)] } Memory.machine {}
          [Bridge.onStreams { script := [.chunk [98, 121, 101, 10]] } {} false {} .ignore] =
            .ok first ∧
        (first.afterAll armedBefore).handles = [0] ∧ (first.afterAll armedBefore).target = some 0 ∧
        (match serve 2 0 { prompt := [62] } ⟨.noProfile, [], ""⟩ (first.afterAll armedBefore) with
          | .ok (.ok status) after =>
            status == 7 && after.handles == [0, 1] && (after.cell? 1).isSome
          | _ => false) = true :=
  ⟨_, rfl, by decide, by decide, by decide +kernel⟩

/-- A driver takes the interrupts from the session that had them, and does not give them
back. -/
theorem serve_cleans_up_behind_armed :
    ∃ first after : Host Recording.Recorder, first.Starts ∧
      (first.afterAll armedBefore).target = some 0 ∧
      serve 2 0 { prompt := [62] } ⟨.noProfile, [], ""⟩ (first.afterAll armedBefore) =
          .ok (.ok 7) after ∧
        after.opened = false ∧ after.bridgeAt? (.at 1) = none ∧ after.target = none ∧
        after.handler = false := by
  rcases serve_one_line with ⟨first, initial, single, armed, outcome⟩
  have starts : first.Starts :=
    ⟨_, Memory.machine, {}, _, first, first.undisposed, by decide, initial, rfl⟩
  split at outcome
  · next status after served =>
      simp only [Bool.and_eq_true, beq_iff_eq] at outcome
      rcases outcome with ⟨⟨rfl, handles⟩, celled⟩
      rcases serve_cleans_up starts armedBefore served with
        ⟨closed, ⟨started, driver, next, _, leftover⟩, _, _⟩
      cases started with
      | error error => cases leftover.1
      | ok id =>
          rcases leftover with ⟨_, handle, cleared⟩
          have grown := cleared.handles
          rw [handles, single] at grown
          obtain rfl : handle = 1 := by simpa using grown.symm
          have disarmed := cleared.armed rfl celled
          have unrouted := cleared.routing (.at 1)
          rw [if_pos rfl] at unrouted
          exact ⟨first, after, starts, armed, served, closed, unrouted, disarmed.1, disarmed.2.1⟩
  · cases outcome

end Host

end SessionHost
