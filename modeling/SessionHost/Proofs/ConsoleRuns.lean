import SessionHost.Proofs.ConsoleEvents

namespace SessionHost

/-!
# What happens on the consoles during a run

A driver calls into the session that it starts, and into the same session with each line
that it reads.  A client shows text and asks for lines itself, uses the callbacks, and calls
into sessions that it knows.  All of these are requests here, and a run is a list of them.
The events of a run on one bridge are what the run does to that bridge, whatever else it
does.
-/

open Happening (act)

namespace Host

variable {σ : Type} [Engine σ] {host : Host σ} {handle : Handle}

/-! ## Drivers -/

/-- A factory that unwinds does not end the process. -/
theorem acquire_tells (host : Host σ) : Tells acquire host [] := by
  refine (acquire_creates host).mono ?_ ?_
  · intro _ after created
    exact told_nothing created.bridges
  · rintro _ after ⟨rfl, created⟩
    exact told_nothing created.bridges

theorem bridges_setCancelTarget (host : Host σ) (id : BridgeId) (counter : Option Counter) :
    (host.setCancelTarget id counter).bridges = host.bridges.modify id (·.meet (.bound counter)) := by
  cases found : host.bridges[id]? with
  | none =>
      rw [setCancelTarget, found]
      exact (bridges_of_missing found _).symm
  | some bridge =>
      have changed := bridges_setBridge found (·.meet (.bound counter))
      rw [setCancelTarget, found]
      dsimp only
      cases bridge.cancel with
      | none => exact changed
      | some displaced => exact (reap_still _ displaced.session).bridges.trans changed

theorem bridges_attach (host : Host σ) (bridge : BridgeId) (session : SessionId)
    (counter interrupt : Option Counter) :
    (host.attach bridge session counter interrupt).bridges =
      host.bridges.modify bridge (·.meet (.bound counter)) := by
  unfold attach
  cases counter with
  | none =>
      have bound (records : List Log.Record) :=
        bridges_setCancelTarget (host.say records) bridge none
      cases interrupt with
      | none => exact bound _
      | some armed => exact bound _
  | some target =>
      have bound := bridges_setCancelTarget host bridge (some target)
      cases interrupt with
      | none => exact bound
      | some armed => exact bound

/-- What happens while a new session is wired to a driver's bridge. -/
def wireHappenings (driver : Driver) (session : SessionId) (handle : Handle) (host : Host σ) :
    List Happening :=
  let registered := (host.register (.at handle) driver.bridge).2
  happeningsDuring handle (.setCallbacks .console) registered ++
    ensuing (call handle (.setCallbacks .console)) registered fun _ answered =>
      [⟨driver.bridge, .bound (answered.resolve session)⟩]

theorem wire_tells (driver : Driver) (session : SessionId) (handle : Handle) (host : Host σ) :
    Tells (wire driver session handle) host (wireHappenings driver session handle host) := by
  rw [Tells, wire, wireHappenings, Hosting.leads_bind, Hosting.leads_modifyGet]
  refine Tells.of_step rfl (Tells.bind (call_tells handle _ _) ?_)
  intro _ answered
  rw [Tells, Hosting.leads_bind, Hosting.leads_get]
  exact told_one (bridges_attach answered _ _ _ _) rfl

/-- What happens while a driver starts. -/
def startHappenings (driver : Driver) (bootstrap : Bootstrap) (host : Host σ) : List Happening :=
  let sentence := Bytes.ofString bootstrap.sentence
  if driver.active.isSome || sentence.hasNul then []
  else ensuing acquire host fun answer entered =>
    match answer with
    | .error _ => []
    | .ok id =>
      (entered.registry.sessions[id]?).elim [] fun session =>
        wireHappenings driver id session.handle entered ++
          ensuing (wire driver id session.handle) entered fun _ wired =>
            happeningsDuring session.handle (.execute sentence)
              (wired.say [Log.debug "submitting bootstrap sentence"
                [("session", toString id), ("mode", bootstrap.mode.name)]])

theorem start_tells (driver : Driver) (bootstrap : Bootstrap) (host : Host σ) :
    Tells (start driver bootstrap) host (startHappenings driver bootstrap host) := by
  unfold start startHappenings
  dsimp only
  cases driver.active.isSome with
  | true => exact told_nothing rfl
  | false =>
  cases (Bytes.ofString bootstrap.sentence).hasNul with
  | true => exact told_nothing rfl
  | false =>
  simp only [Bool.false_eq_true, if_false, Bool.or_false]
  apply (acquire_tells host).bind
  intro answer entered
  cases answer with
  | error error => exact told_nothing rfl
  | ok id =>
      rw [Tells, Hosting.leads_bind, Hosting.leads_get]
      dsimp only
      cases entered.registry.sessions[id]? with
      | none => exact told_nothing rfl
      | some session =>
          apply (wire_tells driver id session.handle entered).bind
          intro active wired
          rw [Tells, Hosting.leads_bind, Hosting.leads_modify]
          refine Tells.of_step rfl ?_
          exact (call_tells session.handle _ (wired.say _)).bind_nothing
            fun _ _ => told_nothing rfl

/-- What happens while a driver takes a step. -/
def stepHappenings (driver : Driver) (host : Host σ) : List Happening :=
  driver.active.elim [] fun active =>
    ⟨driver.bridge, .asked driver.options.prompt⟩ ::
      ensuing (readLine driver.bridge driver.options.prompt) host fun line asked =>
        if line.hasNul then [] else sessionHappenings active.session (.execute line) asked

theorem step_tells (driver : Driver) (host : Host σ) :
    Tells (step driver) host (stepHappenings driver host) := by
  rw [step, stepHappenings]
  cases driver.active with
  | none => exact told_nothing rfl
  | some active =>
      apply (readLine_tells host driver.bridge driver.options.prompt).bind
      intro line asked
      split
      · exact told_nothing rfl
      · exact (callSession_tells active.session (.execute line) asked).bind_nothing
          fun _ _ => told_nothing rfl

/-- What happens while a driver runs for at most so many steps. -/
def runHappenings : Nat → Driver → Host σ → List Happening
  | 0, _, _ => []
  | steps + 1, driver, host =>
    match host.exitStatus? driver.bridge with
    | some _ => []
    | none => stepHappenings driver host ++ ensuing (step driver) host fun answer after =>
      match answer with
      | .error _ => []
      | .ok () => runHappenings steps driver after

/-- The induction is on the steps that may still be taken. -/
theorem run_tells (steps : Nat) (driver : Driver) (host : Host σ) :
    Tells (run steps driver) host (runHappenings steps driver host) := by
  induction steps generalizing host with
  | zero =>
      rw [Tells, run, runHappenings, Hosting.leads_bind, Hosting.leads_get]
      cases host.exitStatus? driver.bridge with
      | some status => exact told_nothing rfl
      | none => exact told_nothing rfl
  | succ steps inductionHypothesis =>
      rw [Tells, run, runHappenings, Hosting.leads_bind, Hosting.leads_get]
      cases host.exitStatus? driver.bridge with
      | some status => exact told_nothing rfl
      | none =>
          apply (step_tells driver host).bind
          intro answer next
          cases answer with
          | error error => exact told_nothing rfl
          | ok _ => exact inductionHypothesis next

end Host

/-! ## Runs -/

/-- What reaches the consoles of a host: callbacks, events and requests for input, drivers,
and calls into engines. -/
inductive ConsoleRequest where
  /-- The output callback. -/
  | output (address : Address) (code : Int32) (argument : OutputArgument)
  | display (bridge : BridgeId) (kind : OutputKind) (payload : Bytes)
  | exit (bridge : BridgeId) (status : Int32)
  /-- A request for a line, on the bridge or by way of the address. -/
  | line (bridge : BridgeId) (address : Address) (request : LineRequest)
  | start (driver : String) (bootstrap : Bootstrap)
  | step (driver : String)
  /-- A driver runs for at most so many steps. -/
  | run (driver : String) (steps : Nat)
  /-- A call by session id. -/
  | forward (session : Int) (call : Call)
  | through (lease : String) (call : Call)

namespace Host

variable {σ : Type} {host : Host σ}

/-- What a request for a line makes happen, whichever way it comes in. -/
def lineHappenings (host : Host σ) (id : BridgeId) (address : Address) :
    LineRequest → List Happening
  | .text prompt => [⟨id, .asked (Bytes.ofString prompt)⟩]
  | .bytes prompt => [⟨id, .asked prompt⟩]
  | .callback prompt => host.inputHappenings address prompt

theorem answer_tells (host : Host σ) (id : BridgeId) (address : Address) (request : LineRequest) :
    Tells (answer id address request) host (host.lineHappenings id address request) := by
  cases request with
  | text prompt =>
      have read : Tells (readText id prompt) host [⟨id, .asked (Bytes.ofString prompt)⟩] :=
        (readLine_tells host id _).bind_nothing fun _ _ => told_nothing rfl
      exact read.bind_nothing fun _ _ => told_nothing rfl
  | bytes prompt => exact (readLine_tells host id prompt).bind_nothing fun _ _ => told_nothing rfl
  | callback prompt =>
      exact (inputCallback_tells host address prompt).bind_nothing fun _ _ => told_nothing rfl

variable [Engine σ]

/-- Do what is asked, whatever comes of it. -/
def attend : ConsoleRequest → Hosting σ Unit
  | .output address code argument => outputCallback address code argument
  | .display bridge kind payload => modify (·.display bridge kind payload)
  | .exit bridge status => exitEvent bridge status
  | .line bridge address request => (fun _ => ()) <$> answer bridge address request
  | .start name bootstrap => (fun _ => ()) <$> perform (.start name bootstrap)
  | .step name => (fun _ => ()) <$> perform (.step name)
  | .run name steps => (fun _ => ()) <$> perform (.run name steps)
  | .forward raw call => (fun _ => ()) <$> perform (.forward raw call)
  | .through lease call => (fun _ => ()) <$> perform (.through lease call)

/-- What happens on the consoles while a host does what it is asked. -/
def happenings (host : Host σ) : ConsoleRequest → List Happening
  | .output address code argument => host.outputHappenings address code argument
  | .display bridge _ payload => [⟨bridge, .shown payload⟩]
  | .exit bridge status => [⟨bridge, .exited status⟩]
  | .line bridge address request => host.lineHappenings bridge address request
  | .start name bootstrap => (host.drivers.find? name).elim [] fun driver =>
    startHappenings driver bootstrap host
  | .step name => (host.drivers.find? name).elim [] fun driver => stepHappenings driver host
  | .run name steps => (host.drivers.find? name).elim [] fun driver =>
    runHappenings steps driver host
  | .forward raw call => if host.opened then forwardHappenings raw call host else []
  | .through lease call => (host.leases.find? lease).elim [] fun session =>
    if call.isSendable then sessionHappenings session call host else []

omit [Engine σ] in
theorem withTable_tells {action : Hosting σ Answer} {own : List Happening}
    (tells : Tells action host own) :
    Tells (withTable action) host (if host.opened then own else []) := by
  rw [Tells, withTable, Hosting.leads_bind, Hosting.leads_get]
  cases host.opened with
  | false => exact told_nothing rfl
  | true => exact tells

omit [Engine σ] in
theorem withDriver_tells {name : String} {action : Driver → Hosting σ Answer}
    {own : Driver → List Happening} (tells : ∀ driver, Tells (action driver) host (own driver)) :
    Tells (withDriver name action) host ((host.drivers.find? name).elim [] own) := by
  rw [Tells, withDriver, Hosting.leads_bind, Hosting.leads_get]
  cases host.drivers.find? name with
  | none => exact told_nothing rfl
  | some driver => exact tells driver

omit [Engine σ] in
theorem withLease_tells {name : String} {action : SessionId → Hosting σ Answer}
    {own : SessionId → List Happening}
    (tells : ∀ session, Tells (action session) host (own session)) :
    Tells (withLease name action) host ((host.leases.find? name).elim [] own) := by
  rw [Tells, withLease, Hosting.leads_bind, Hosting.leads_get]
  cases host.leases.find? name with
  | none => exact told_nothing rfl
  | some session => exact tells session

theorem performed_tells {operation : Operation} {own : List Happening}
    (tells : Tells (perform operation) host own) :
    Tells ((fun _ => ()) <$> perform operation) host own :=
  (Hosting.leads_map _ _).mpr tells

theorem attend_tells (host : Host σ) (request : ConsoleRequest) :
    Tells (attend request) host (host.happenings request) := by
  cases request with
  | output address code argument => exact outputCallback_tells host address code argument
  | display bridge kind payload => exact display_told host bridge kind payload
  | exit bridge status => exact exitEvent_tells host bridge status
  | line bridge address request =>
      exact (Hosting.leads_map _ _).mpr (answer_tells host bridge address request)
  | start name bootstrap =>
      apply performed_tells
      apply withDriver_tells
      intro driver
      apply (start_tells driver bootstrap host).bind_nothing
      rintro ⟨started, later⟩ next
      cases started with
      | ok id => exact told_nothing rfl
      | error error => exact told_nothing rfl
  | step name =>
      apply performed_tells
      apply withDriver_tells
      intro driver
      apply (step_tells driver host).bind_nothing
      intro answer next
      cases answer with
      | ok _ => exact told_nothing rfl
      | error error => exact told_nothing rfl
  | run name steps =>
      apply performed_tells
      apply withDriver_tells
      intro driver
      apply (run_tells steps driver host).bind_nothing
      intro answer next
      cases answer with
      | ok status => exact told_nothing rfl
      | error error => exact told_nothing rfl
  | forward raw call =>
      apply performed_tells
      apply withTable_tells
      apply (forward_tells raw call host).bind_nothing
      intro answer next
      cases answer with
      | ok value => exact told_nothing rfl
      | error error => exact told_nothing rfl
  | through lease call =>
      apply performed_tells
      apply withLease_tells
      intro session
      split
      · apply (callSession_tells session call host).bind_nothing
        intro answer next
        cases answer with
        | none => exact told_nothing rfl
        | some value => exact told_nothing rfl
      · exact told_nothing rfl

/-- The host behind a run of requests. -/
def afterRequests (host : Host σ) (requests : List ConsoleRequest) : Host σ :=
  requests.foldl (fun host request => leftBy (attend request) host) host

/-- What happens on the consoles during a run of requests. -/
def courseOf (host : Host σ) : List ConsoleRequest → List Happening
  | [] => []
  | request :: rest => host.happenings request ++ courseOf (leftBy (attend request) host) rest

theorem bridges_leftBy_attend (host : Host σ) (request : ConsoleRequest) :
    (leftBy (attend request) host).bridges = (host.happenings request).foldl act host.bridges :=
  leftBy_of_leaves (Hosting.Leads.mono (attend_tells host request) (fun _ _ => Told.bridges)
    fun _ _ => Told.bridges)

theorem bridges_afterRequests (host : Host σ) (requests : List ConsoleRequest) :
    (host.afterRequests requests).bridges = (host.courseOf requests).foldl act host.bridges := by
  induction requests generalizing host with
  | nil => rfl
  | cons request rest inductionHypothesis =>
      rw [courseOf, List.foldl_append, ← bridges_leftBy_attend]
      exact inductionHypothesis (leftBy (attend request) host)

/-- The events on one bridge during a run of requests. -/
def eventsOn (host : Host σ) (id : BridgeId) (requests : List ConsoleRequest) :
    List ConsoleEvent :=
  Happening.on id (host.courseOf requests)

/-- Whatever a run was, a bridge behind it is the one from before with its events carried
out on it one after another. -/
theorem bridge_afterRequests (host : Host σ) (id : BridgeId) (requests : List ConsoleRequest) :
    (host.afterRequests requests).bridges[id]? =
      host.bridges[id]?.map fun bridge => (host.eventsOn id requests).foldl Bridge.meet bridge := by
  rw [bridges_afterRequests]
  exact Happening.getElem?_foldl_act _ _ id

end Host

end SessionHost
