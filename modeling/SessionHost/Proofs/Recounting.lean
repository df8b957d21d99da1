import SessionHost.Proofs.Requests

namespace SessionHost

/-!
# What operations do to break cells

Most of what a client can ask of a host touches no cell.  A creation makes one, a
call lets its engine do to cells what it does during the conversation, and the rest
is requests for a break.  What an operation does to the cells is read off the state
before it, along the course that the operation then takes, and a run does what its
operations do, one after another.
-/

namespace Host

variable {σ : Type} {host : Host σ}

/-! ## What touches no cell -/

@[simp]
theorem register_cells (host : Host σ) (address : Address) (bridge : BridgeId) :
    (host.register address bridge).2.cells = host.cells :=
  rfl

@[simp]
theorem say_cells (host : Host σ) (records : List Log.Record) : (host.say records).cells = host.cells :=
  rfl

@[simp]
theorem unregister_cells (host : Host σ) (route : Route) : (host.unregister route).cells = host.cells := by
  unfold unregister
  split
  · rfl
  · rfl

@[simp]
theorem disarm_cells (host : Host σ) (counter : Counter) : (host.disarm counter).cells = host.cells := by
  unfold disarm
  split
  · rfl
  · rfl

theorem letGo_cells {α : Type} {held : Option α} {letGo : α → Host σ}
    (keeps : ∀ thing, (letGo thing).cells = host.cells) :
    ((held.map letGo).getD host).cells = host.cells := by
  cases held with
  | none => rfl
  | some thing => exact keeps thing

@[simp]
theorem keepRoute_cells (host : Host σ) (name : String) (route : Route) :
    (host.keepRoute name route).cells = host.cells := by
  unfold keepRoute
  cases host.routes.find? name with
  | none => rfl
  | some displaced => simp

theorem foldl_cells {α : Type} {step : Host σ → α → Host σ}
    (steps : ∀ host entry, (step host entry).cells = host.cells) (entries : List α) (host : Host σ) :
    (entries.foldl step host).cells = host.cells := by
  induction entries generalizing host with
  | nil => rfl
  | cons entry rest inductionHypothesis =>
      exact (inductionHypothesis (step host entry)).trans (steps host entry)

theorem dropEach_cells {drop? : Host σ → String → Option (Host σ)}
    (drops : ∀ host name, ((drop? host name).getD host).cells = host.cells) (names : List String)
    (host : Host σ) : (dropEach drop? names host).cells = host.cells :=
  foldl_cells drops names host

section Holding

variable [Engine σ]

@[simp]
theorem reap_cells (host : Host σ) (id : SessionId) : (host.reap id).cells = host.cells :=
  reap_keeps (fun after => after.cells = host.cells) (fun _ _ => rfl) rfl

@[simp]
theorem reap?_cells (host : Host σ) (id : Option SessionId) : (host.reap? id).cells = host.cells := by
  cases id with
  | none => rfl
  | some id => exact reap_cells host id

@[simp]
theorem setCancelTarget_cells (host : Host σ) (id : BridgeId) (counter : Option Counter) :
    (host.setCancelTarget id counter).cells = host.cells :=
  setCancelTarget_keeps (fun after => after.cells = host.cells) (fun _ _ => rfl)
    (fun next session same => (reap_cells next session).trans same) rfl

@[simp]
theorem attach_cells (host : Host σ) (bridge : BridgeId) (session : SessionId)
    (counter interrupt : Option Counter) :
    (host.attach bridge session counter interrupt).cells = host.cells :=
  attach_keeps (fun after => after.cells = host.cells) (fun _ _ same => same)
    (fun next same => (setCancelTarget_cells next bridge counter).trans same)
    (fun _ same _ _ => same) rfl

@[simp]
theorem dismiss_cells (host : Host σ) (driver : Driver) : (host.dismiss driver).cells = host.cells := by
  have uninstalled : host.uninstall.cells = host.cells := rfl
  unfold dismiss
  cases driver.active with
  | none => rfl
  | some active =>
      dsimp only
      cases active.interrupt with
      | none => simp
      | some counter => simp [uninstalled]

@[simp]
theorem letGoGuard_cells (host : Host σ) (counter : Counter) :
    (host.letGoGuard counter).cells = host.cells := by
  simp [letGoGuard]

@[simp]
theorem letGoCounter_cells (host : Host σ) (counter : Counter) :
    (host.letGoCounter counter).cells = host.cells := by
  simp [letGoCounter]

@[simp]
theorem keepLease_cells (host : Host σ) (name : String) (session : SessionId) :
    (host.keepLease name session).cells = host.cells := by
  simp [keepLease]

@[simp]
theorem keepCounter_cells (host : Host σ) (name : String) (counter : Counter) :
    (host.keepCounter name counter).cells = host.cells := by
  unfold keepCounter
  cases host.counters.find? name with
  | none => rfl
  | some displaced => simp

@[simp]
theorem keepGuard_cells (host : Host σ) (name : String) (counter : Counter) :
    (host.keepGuard name counter).cells = host.cells := by
  unfold keepGuard
  cases host.guards.find? name with
  | none => rfl
  | some displaced => simp

@[simp]
theorem keepDriver_cells (host : Host σ) (name : String) (driver : Driver) :
    (host.keepDriver name driver).cells = host.cells := by
  unfold keepDriver
  cases host.drivers.find? name with
  | none => rfl
  | some displaced => simp

theorem dropNamed_cells (host : Host σ) (name : String) :
    (host.dropNamed name).2.cells = host.cells := by
  unfold dropNamed dropGuard? dropCounter? dropDriver? dropRoute? dropLease?
  cases host.guards.find? name with
  | some counter => simp
  | none =>
  cases host.counters.find? name with
  | some counter => simp
  | none =>
  cases host.drivers.find? name with
  | some driver => simp
  | none =>
  cases host.routes.find? name with
  | some route => simp
  | none =>
  cases host.leases.find? name with
  | some session => simp
  | none => rfl

theorem close_cells (host : Host σ) : host.close.cells = host.cells := by
  have guards (host : Host σ) (name : String) : ((host.dropGuard? name).getD host).cells = host.cells :=
    letGo_cells fun counter => letGoGuard_cells _ counter
  have counters (host : Host σ) (name : String) :
      ((host.dropCounter? name).getD host).cells = host.cells :=
    letGo_cells fun counter => letGoCounter_cells _ counter
  have drivers (host : Host σ) (name : String) :
      ((host.dropDriver? name).getD host).cells = host.cells :=
    letGo_cells fun driver => dismiss_cells _ driver
  have routes (host : Host σ) (name : String) : ((host.dropRoute? name).getD host).cells = host.cells :=
    letGo_cells fun route => unregister_cells _ route
  have leases (host : Host σ) (name : String) : ((host.dropLease? name).getD host).cells = host.cells :=
    letGo_cells fun session => reap_cells _ session
  unfold close
  rw [foldl_cells fun host bridge => setCancelTarget_cells host bridge none]
  dsimp only
  rw [dropEach_cells leases, dropEach_cells routes, dropEach_cells drivers, dropEach_cells counters,
    dropEach_cells guards]

theorem release_cells (host : Host σ) (raw : Int) : (host.release raw).2.cells = host.cells := by
  cases looked : host.registry.lookup raw with
  | error error => rw [release_of_refused looked]
  | ok id =>
      rcases release_of_found looked with ⟨records, released⟩
      rw [released]
      exact reap_cells _ id

end Holding

/-! ## What operations do to cells -/

section Events

variable [Engine σ]

/-- The cell that a creation makes.  An instance that was made before keeps its own. -/
def creation (host : Host σ) : List CellEvent :=
  match host.registry.prepare.1, (Engine.create host.engine host.cells.size).1 with
  | .ok (), .fresh cell => [.made host.cells.size cell]
  | _, _ => []

/-- A call into the instance of a session. -/
def sessionCellEvents (id : SessionId) (request : Call) (host : Host σ) : List CellEvent :=
  (host.registry.sessions[id]?).elim [] fun session => cellEventsDuring session.handle request host

/-- A call by id. -/
def forwardCellEvents (raw : Int) (request : Call) (host : Host σ) : List CellEvent :=
  match host.registry.lookup raw with
  | .error _ => []
  | .ok id => if request.isSendable then sessionCellEvents id request host else []

/-- A driver that starts makes a session and calls into it twice. -/
def startCellEvents (driver : Driver) (bootstrap : Bootstrap) (host : Host σ) : List CellEvent :=
  let sentence := Bytes.ofString bootstrap.sentence
  if driver.active.isSome || sentence.hasNul then []
  else host.creation ++ ensuing acquire host fun answer entered =>
    match answer with
    | .error _ => []
    | .ok id =>
      (entered.registry.sessions[id]?).elim [] fun session =>
        cellEventsDuring session.handle (.setCallbacks .console)
            (entered.register (.at session.handle) driver.bridge).2 ++
          ensuing (wire driver id session.handle) entered fun _ wired =>
            cellEventsDuring session.handle (.execute sentence)
              (wired.say [Log.debug "submitting bootstrap sentence"
                [("session", toString id), ("mode", bootstrap.mode.name)]])

/-- A driver that steps asks for a line and submits it. -/
def stepCellEvents (driver : Driver) (host : Host σ) : List CellEvent :=
  driver.active.elim [] fun active =>
    host.breaksAt driver.bridge ++
      ensuing (readLine driver.bridge driver.options.prompt) host fun line asked =>
        if line.hasNul then [] else sessionCellEvents active.session (.execute line) asked

def runCellEvents : Nat → Driver → Host σ → List CellEvent
  | 0, _, _ => []
  | steps + 1, driver, host =>
    match host.exitStatus? driver.bridge with
    | some _ => []
    | none => stepCellEvents driver host ++ ensuing (step driver) host fun answer after =>
      match answer with
      | .error _ => []
      | .ok () => runCellEvents steps driver after

def serveCellEvents (steps : Nat) (bridge : BridgeId) (options : DriverOptions)
    (bootstrap : Bootstrap) (host : Host σ) : List CellEvent :=
  startCellEvents { bridge, options } bootstrap host ++
    ensuing (owningTable (start { bridge, options } bootstrap)) host fun answer after =>
      match answer.1 with
      | .error _ => []
      | .ok _ => runCellEvents steps answer.2 after

/-- What happens to the cells during an operation, up to where it halts if it does. -/
def cellEvents (host : Host σ) : Operation → List CellEvent
  | .acquire => if host.opened then host.creation else []
  | .incrementBreak raw => if host.opened then host.breakById raw else []
  | .forward raw call => if host.opened then forwardCellEvents raw call host else []
  | .through lease call => (host.leases.find? lease).elim [] fun session =>
    if call.isSendable then sessionCellEvents session call host else []
  | .cancel name times => (host.counters.find? name).elim [] fun counter =>
    .replicate times (.requested counter.handle)
  | .deliver => host.delivery
  | .raise => host.raising
  | .readLine bridge _ => host.breaksAt bridge
  | .input address _ => host.breaksFor address
  | .start name bootstrap => (host.drivers.find? name).elim [] fun driver =>
    startCellEvents driver bootstrap host
  | .step name => (host.drivers.find? name).elim [] fun driver => stepCellEvents driver host
  | .run name steps => (host.drivers.find? name).elim [] fun driver =>
    runCellEvents steps driver host
  | .serve bridge options bootstrap steps =>
    if host.opened then
      if host.isShared then [] else serveCellEvents steps bridge options bootstrap host
    else []
  | _ => []

/-! ## Parts of operations -/

theorem acquire_recounts (host : Host σ) : Recounts acquire host host.creation := by
  unfold Recounts Hosting.Leaves Hosting.Leads creation
  cases ready : host.registry.prepare.1 with
  | error error =>
      rcases acquire_of_refused ready with ⟨records, outcome⟩
      rw [outcome]
      exact CellsFollow.refl host.cells
  | ok _ =>
      rcases acquire_of_ready ready with ⟨records, outcome⟩
      rw [outcome]
      dsimp only
      cases (Engine.create host.engine host.cells.size).1 with
      | fresh cell => exact CellsFollow.made host.cells cell
      | again handle => exact CellsFollow.refl host.cells
      | nothing => exact CellsFollow.refl host.cells
      | unwound => exact CellsFollow.refl host.cells

theorem callSession_recounts (id : SessionId) (request : Call) (host : Host σ) :
    Recounts (callSession id request) host (sessionCellEvents id request host) := by
  unfold callSession sessionCellEvents Recounts
  rw [Hosting.leaves_get_bind]
  cases host.registry.sessions[id]? with
  | none => exact CellsFollow.refl host.cells
  | some session => exact (Hosting.leaves_map _ _).mpr (call_recounts session.handle request host)

theorem forward_recounts (raw : Int) (request : Call) (host : Host σ) :
    Recounts (forward raw request) host (forwardCellEvents raw request host) := by
  unfold forward forwardCellEvents Recounts
  rw [Hosting.leaves_get_bind]
  cases host.registry.lookup raw with
  | error error => exact CellsFollow.refl host.cells
  | ok id =>
      dsimp only
      split
      · apply (callSession_recounts id request host).bind_untouched
        intro answer next
        cases answer with
        | none => rfl
        | some result => rfl
      · exact CellsFollow.refl host.cells

theorem wire_recounts (driver : Driver) (session : SessionId) (handle : Handle) (host : Host σ) :
    Recounts (wire driver session handle) host
      (cellEventsDuring handle (.setCallbacks .console)
        (host.register (.at handle) driver.bridge).2) := by
  unfold wire Recounts
  rw [Hosting.leaves_modifyGet_bind]
  apply (call_recounts handle _ (host.register (.at handle) driver.bridge).2).bind_untouched
  intro _ wired
  rw [Hosting.leaves_get_bind]
  exact attach_cells wired _ _ _ _

theorem start_recounts (driver : Driver) (bootstrap : Bootstrap) (host : Host σ) :
    Recounts (start driver bootstrap) host (startCellEvents driver bootstrap host) := by
  unfold start startCellEvents
  dsimp only
  cases driver.active.isSome with
  | true => exact CellsFollow.refl host.cells
  | false =>
  cases (Bytes.ofString bootstrap.sentence).hasNul with
  | true => exact CellsFollow.refl host.cells
  | false =>
  simp only [Bool.false_eq_true, if_false, Bool.or_false]
  apply (acquire_recounts host).bind
  intro answer entered
  cases answer with
  | error error => exact CellsFollow.refl entered.cells
  | ok id =>
      unfold Recounts
      rw [Hosting.leaves_get_bind]
      dsimp only
      cases entered.registry.sessions[id]? with
      | none => exact CellsFollow.refl entered.cells
      | some session =>
          apply (wire_recounts driver id session.handle entered).bind
          intro active wired
          exact (call_recounts session.handle _ (wired.say _)).bind_untouched fun _ _ => rfl

theorem step_recounts (driver : Driver) (host : Host σ) :
    Recounts (step driver) host (stepCellEvents driver host) := by
  unfold step stepCellEvents
  cases driver.active with
  | none => exact CellsFollow.refl host.cells
  | some active =>
      apply (readLine_recounts host _ _).bind
      intro line asked
      split
      · exact CellsFollow.refl asked.cells
      · exact (callSession_recounts active.session (.execute line) asked).bind_untouched fun _ _ => rfl

/-- The induction is on the steps that may still be taken. -/
theorem run_recounts (steps : Nat) (driver : Driver) (host : Host σ) :
    Recounts (run steps driver) host (runCellEvents steps driver host) := by
  induction steps generalizing host with
  | zero =>
      unfold run runCellEvents Recounts
      rw [Hosting.leaves_get_bind]
      cases host.exitStatus? driver.bridge with
      | some status => exact CellsFollow.refl host.cells
      | none => exact CellsFollow.refl host.cells
  | succ steps inductionHypothesis =>
      unfold run runCellEvents Recounts
      rw [Hosting.leaves_get_bind]
      cases host.exitStatus? driver.bridge with
      | some status => exact CellsFollow.refl host.cells
      | none =>
          apply (step_recounts driver host).bind
          intro answer next
          cases answer with
          | error error => exact CellsFollow.refl next.cells
          | ok _ => exact inductionHypothesis next

theorem serve_recounts (steps : Nat) (bridge : BridgeId) (options : DriverOptions)
    (bootstrap : Bootstrap) (host : Host σ) :
    Recounts (serve steps bridge options bootstrap) host
      (serveCellEvents steps bridge options bootstrap host) := by
  have started : Recounts (owningTable (start { bridge, options } bootstrap)) host
      (startCellEvents { bridge, options } bootstrap host) :=
    leads_owningTable (start_recounts { bridge, options } bootstrap host) fun _ => id
  have ended (driver : Driver) (last : Host σ) : (last.dismiss driver).shutDown.cells = last.cells :=
    dismiss_cells last driver
  apply started.bind
  rintro ⟨answer, driver⟩ next
  cases answer with
  | error error =>
      exact Recounts.of_untouched (ended driver next)
  | ok id =>
      apply (run_recounts steps driver next).bind_untouched
      intro result last
      exact ended driver last

/-! ## Whole operations -/

omit [Engine σ] in
theorem withTable_recounts {action : Hosting σ Answer} {events : List CellEvent}
    (recounts : Recounts action host events) :
    Recounts (withTable action) host (if host.opened then events else []) := by
  unfold withTable Recounts
  rw [Hosting.leaves_get_bind]
  cases host.opened with
  | false => exact CellsFollow.refl host.cells
  | true => exact recounts

omit [Engine σ] in
theorem withLease_recounts {name : String} {action : SessionId → Hosting σ Answer}
    {events : SessionId → List CellEvent}
    (recounts : ∀ session, Recounts (action session) host (events session)) :
    Recounts (withLease name action) host ((host.leases.find? name).elim [] events) := by
  unfold withLease Recounts
  rw [Hosting.leaves_get_bind]
  cases host.leases.find? name with
  | none => exact CellsFollow.refl host.cells
  | some session => exact recounts session

omit [Engine σ] in
theorem withCounter_recounts {name : String} {action : Counter → Hosting σ Answer}
    {events : Counter → List CellEvent}
    (recounts : ∀ counter, Recounts (action counter) host (events counter)) :
    Recounts (withCounter name action) host ((host.counters.find? name).elim [] events) := by
  unfold withCounter Recounts
  rw [Hosting.leaves_get_bind]
  cases host.counters.find? name with
  | none => exact CellsFollow.refl host.cells
  | some counter => exact recounts counter

omit [Engine σ] in
theorem withDriver_recounts {name : String} {action : Driver → Hosting σ Answer}
    {events : Driver → List CellEvent}
    (recounts : ∀ driver, Recounts (action driver) host (events driver)) :
    Recounts (withDriver name action) host ((host.drivers.find? name).elim [] events) := by
  unfold withDriver Recounts
  rw [Hosting.leaves_get_bind]
  cases host.drivers.find? name with
  | none => exact CellsFollow.refl host.cells
  | some driver => exact recounts driver

theorem perform_recounts (operation : Operation) (host : Host σ) :
    Recounts (perform operation) host (host.cellEvents operation) := by
  have unchanged : Untouched host host := rfl
  cases operation with
  | acquire =>
      apply withTable_recounts
      apply (acquire_recounts host).bind_untouched
      intro answer next
      cases answer with
      | ok id => rfl
      | error error => rfl
  | lookup raw keepAs =>
      apply Recounts.of_untouched
      apply leaves_withTable unchanged
      rw [Hosting.leaves_get_bind]
      cases host.registry.lookup raw with
      | error error => rfl
      | ok id =>
          cases keepAs with
          | none => rfl
          | some name => exact keepLease_cells host name id
  | release raw =>
      apply Recounts.of_untouched
      apply leaves_withTable unchanged
      rw [Hosting.leaves_modifyGet_bind]
      cases (host.release raw).1 with
      | ok id => exact release_cells host raw
      | error error => exact release_cells host raw
  | incrementBreak raw =>
      apply withTable_recounts
      unfold Recounts
      rw [Hosting.leaves_modifyGet_bind]
      cases (host.incrementBreak raw).1 with
      | ok value => exact incrementBreak_follows host raw
      | error error => exact incrementBreak_follows host raw
  | forward raw call =>
      apply withTable_recounts
      apply (forward_recounts raw call host).bind_untouched
      intro answer next
      cases answer with
      | ok value => rfl
      | error error => rfl
  | through lease call =>
      apply withLease_recounts
      intro session
      split
      · apply (callSession_recounts session call host).bind_untouched
        intro answer next
        cases answer with
        | none => rfl
        | some value => rfl
      · exact CellsFollow.refl host.cells
  | shutDown =>
      apply Recounts.of_untouched
      apply leaves_withTable unchanged
      rw [Hosting.leaves_get_bind]
      split
      · rfl
      · rfl
  | dropTable =>
      apply Recounts.of_untouched
      apply leaves_withTable unchanged
      rw [Hosting.leaves_get_bind]
      split
      · rfl
      · rfl
  | dropBridge bridge =>
      apply Recounts.of_untouched
      unfold perform
      rw [Hosting.leaves_get_bind]
      split
      · rfl
      · exact setCancelTarget_cells host bridge none
  | close => exact Recounts.of_untouched (close_cells host)
  | drop name => exact Recounts.of_untouched (dropNamed_cells host name)
  | resolve lease keepAs =>
      apply Recounts.of_untouched
      apply leaves_withLease unchanged
      intro session _
      rw [Hosting.leaves_get_bind]
      cases host.resolve session with
      | none => rfl
      | some counter => exact keepCounter_cells host keepAs counter
  | cloneCounter name keepAs =>
      apply Recounts.of_untouched
      apply leaves_withCounter unchanged
      intro counter _
      exact keepCounter_cells host keepAs counter
  | cancel name times =>
      apply withCounter_recounts
      intro counter
      exact bumpTimes_follows times host counter.handle
  | arm name keepAs =>
      apply Recounts.of_untouched
      apply leaves_withCounter unchanged
      intro counter _
      exact keepGuard_cells (host.arm counter) keepAs counter
  | deliver => exact deliver_follows host
  | install => exact Recounts.of_untouched rfl
  | uninstall => exact Recounts.of_untouched rfl
  | raise => exact (raise_recounts host).bind_untouched fun _ _ => rfl
  | display bridge code payload => exact Recounts.of_untouched (display_cells host bridge _ payload)
  | exit bridge status =>
      exact Recounts.of_untouched ((exitEvent_cells host bridge status).bind fun _ _ => id)
  | readLine bridge prompt => exact (readLine_recounts host bridge prompt).bind_untouched fun _ _ => rfl
  | setCancelTarget bridge name => exact Recounts.of_untouched (setCancelTarget_cells host bridge _)
  | register address bridge keepAs =>
      exact Recounts.of_untouched (keepRoute_cells (host.register address bridge).2 keepAs _)
  | output address code argument =>
      exact Recounts.of_untouched ((outputCallback_cells host address code argument).bind fun _ _ => id)
  | input address prompt =>
      exact (inputCallback_recounts host address prompt).bind_untouched fun _ _ => rfl
  | driver bridge options keepAs =>
      apply Recounts.of_untouched
      apply leaves_withTable unchanged
      exact keepDriver_cells host keepAs { bridge, options }
  | start name bootstrap =>
      apply withDriver_recounts
      intro driver
      apply (start_recounts driver bootstrap host).bind_untouched
      rintro ⟨started, later⟩ next
      cases started with
      | ok id => rfl
      | error error => rfl
  | step name =>
      apply withDriver_recounts
      intro driver
      apply (step_recounts driver host).bind_untouched
      intro answer next
      cases answer with
      | ok _ => rfl
      | error error => rfl
  | run name steps =>
      apply withDriver_recounts
      intro driver
      apply (run_recounts steps driver host).bind_untouched
      intro answer next
      cases answer with
      | ok status => rfl
      | error error => rfl
  | serve bridge options bootstrap steps =>
      apply withTable_recounts
      unfold Recounts
      rw [Hosting.leaves_get_bind]
      split
      · exact CellsFollow.refl host.cells
      · apply (serve_recounts steps bridge options bootstrap host).bind_untouched
        intro answer next
        cases answer with
        | ok status => rfl
        | error error => rfl

theorem after_follows (host : Host σ) (operation : Operation) :
    CellsFollow (host.cellEvents operation) host.cells (host.after operation).cells :=
  after_of_leaves (perform_recounts operation host)

end Events

end Host

end SessionHost
