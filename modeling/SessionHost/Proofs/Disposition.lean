import SessionHost.Proofs.Arming
import SessionHost.Proofs.Driving
import SessionHost.Proofs.Teardown

namespace SessionHost

/-!
# The disposition of the interrupt signal

A driver that starts installs the handler and then arms its counter, and a driver
that is let go of removes the handler and then disarms what it armed.  The target
is looked at before it is taken away, the handler is not.  So a driver whose
counter was replaced as the target by a younger driver's takes the handler from the
younger one, whose next signal meets the default disposition.  A driver that routes
no interrupts, and one that is let go of while its own cell is the target, does no
such harm.
-/

/-- What may be done with drivers. -/
inductive DriverRequest where
  | create (bridge : BridgeId) (options : DriverOptions) (name : String)
  | start (name : String) (bootstrap : Bootstrap)
  | drop (name : String)

def DriverRequest.operation : DriverRequest → Operation
  | create bridge options name => .driver bridge options name
  | start name bootstrap => .start name bootstrap
  | drop name => .drop name

namespace Host

variable {σ : Type}

/-- An armed target has its handler. -/
def Handled (host : Host σ) : Prop :=
  host.target.isSome → host.handler = true

/-- The driver armed an instance, and by now another one is the target. -/
def Outdated (host : Host σ) (driver : Driver) : Prop :=
  ∃ counter, driver.armed? = some counter ∧
    ∃ handle, host.target = some handle ∧ handle ≠ counter.handle

/-- The driver that a request lets go of. -/
def letsGo? (host : Host σ) : DriverRequest → Option Driver
  | .create _ _ name => if host.opened then host.drivers.find? name else none
  | .start _ _ => none
  | .drop name => host.drivers.find? name

variable {host before after first second third : Host σ}

/-- The posture is the same, or the handler was installed and something armed. -/
def Takes (before after : Host σ) : Prop :=
  after.posture = before.posture ∨
    ∃ handle, after.posture = { before.posture with handler := true, target := some handle }

theorem Takes.of_same (same : after.posture = before.posture) : Takes before after :=
  Or.inl same

theorem Takes.trans (earlier : Takes first second) (later : Takes second third) :
    Takes first third := by
  rcases later with same | ⟨handle, taken⟩
  · unfold Takes
    rw [same]
    exact earlier
  · refine Or.inr ⟨handle, ?_⟩
    rw [taken]
    rcases earlier with same | ⟨_, taken⟩
    · rw [same]
    · rw [taken]

theorem Takes.handled (takes : Takes before after) (handled : before.Handled) : after.Handled := by
  rcases takes with same | ⟨handle, taken⟩
  · have target : after.target = before.target := congrArg Posture.target same
    have handler : after.handler = before.handler := congrArg Posture.handler same
    unfold Handled
    rw [target, handler]
    exact handled
  · intro _
    exact congrArg Posture.handler taken

theorem posture_of_served {handle : Handle} (served : Served handle before after) :
    after.posture = before.posture := by
  have handler : after.handler = before.handler := congrArg Estate.handler served.estate
  have target : after.target = before.target := congrArg Estate.target served.estate
  have guards : after.guards = before.guards := congrArg Estate.guards served.estate
  have counters : after.counters = before.counters := congrArg Estate.counters served.estate
  unfold posture
  rw [handler, target, guards, counters]

theorem unregister_posture (host : Host σ) (route : Route) :
    (host.unregister route).posture = host.posture := by
  unfold unregister
  split
  · rfl
  · rfl

variable [Engine σ]

theorem acquire_posture (host : Host σ) :
    Hosting.Leaves acquire host (·.posture = host.posture) := by
  apply (acquire_leaves_created host).mono
  intro after created
  rw [Creates] at created
  rw [created]
  rfl

theorem attach_takes (host : Host σ) (bridge : BridgeId) (session : SessionId)
    (counter interrupt : Option Counter) :
    Takes host (host.attach bridge session counter interrupt) := by
  apply attach_keeps (Takes host)
  · intro next records takes
    exact takes.trans (.of_same rfl)
  · intro next takes
    refine takes.trans (.of_same ?_)
    exact setCancelTarget_keeps (fun bound => bound.posture = next.posture) (fun _ _ => rfl)
      (fun bound id same => (reap_posture bound id).trans same) rfl
  · intro next takes held _
    exact takes.trans (Or.inr ⟨held.handle, rfl⟩)
  · exact .of_same rfl

theorem wire_takes (driver : Driver) (session : SessionId) (handle : Handle) (host : Host σ) :
    Hosting.Leaves (wire driver session handle) host (Takes host) := by
  have routed : Takes host (host.register (.at handle) driver.bridge).2 := .of_same rfl
  unfold wire Hosting.Leaves
  simp only [Hosting.leads_bind, Hosting.leads_modifyGet]
  refine Hosting.Leads.mono (call_served _ _) ?_ fun _ _ served =>
    routed.trans (.of_same (posture_of_served served))
  intro _ wired served
  exact routed.trans ((Takes.of_same (posture_of_served served)).trans (attach_takes wired _ _ _ _))

/-- Wherever a start stops, it has either taken no interrupts or installed the
handler for those it takes. -/
theorem start_takes (driver : Driver) (bootstrap : Bootstrap) (host : Host σ) :
    Hosting.Leaves (start driver bootstrap) host (Takes host) := by
  have unchanged : Takes host host := .of_same rfl
  unfold start
  split
  · exact unchanged
  dsimp only
  split
  · exact unchanged
  refine Hosting.Leaves.bind ((acquire_posture host).mono fun _ => .of_same) ?_
  intro answer entered created
  cases answer with
  | error error => exact created
  | ok id =>
      rw [Hosting.leaves_get_bind]
      cases entered.registry.sessions[id]? with
      | none => exact created
      | some session =>
          refine Hosting.Leaves.bind
            ((wire_takes driver id session.handle entered).mono fun _ => created.trans) ?_
          intro active wired wiring
          have submitting (records : List Log.Record) : Takes host (wired.say records) :=
            wiring.trans (.of_same rfl)
          rw [Hosting.leaves_modify_bind]
          refine Hosting.Leaves.bind ((call_served _ _).mono fun _ served =>
            (submitting _).trans (.of_same (posture_of_served served))) ?_
          intro status executed executing
          have finishing : Takes executed _ := .of_same rfl
          exact executing.trans finishing

/-! ## Letting go of a driver -/

theorem dismiss_posture (host : Host σ) (driver : Driver) :
    (host.dismiss driver).posture =
      match driver.armed? with
      | none => host.posture
      | some counter => { host.posture.without counter with handler := false } := by
  unfold dismiss Driver.armed?
  cases driver.active with
  | none => rfl
  | some active =>
      rcases active with ⟨session, route, interrupt⟩
      have parted (host : Host σ) :
          ((host.reap session).unregister route).posture = host.posture :=
        (unregister_posture _ route).trans (reap_posture host session)
      cases interrupt with
      | none => exact parted host
      | some counter =>
          refine (letGoGuard_posture _ counter).trans ?_
          exact congrArg (Posture.without · counter) (parted host.uninstall)

/-- A driver that is let go of leaves the target its handler, unless its own target
was replaced. -/
theorem dismiss_handled_iff (handled : host.Handled) (driver : Driver) :
    (host.dismiss driver).Handled ↔ ¬ host.Outdated driver := by
  have posture := dismiss_posture host driver
  unfold Outdated
  cases armed : driver.armed? with
  | none =>
      rw [armed] at posture
      have kept : (host.dismiss driver).Handled := (Takes.of_same posture).handled handled
      simpa using kept
  | some counter =>
      rw [armed] at posture
      have handler : (host.dismiss driver).handler = false := congrArg Posture.handler posture
      have target : (host.dismiss driver).target =
          if host.target = some counter.handle then none else host.target :=
        congrArg Posture.target posture
      unfold Handled
      rw [handler, target]
      cases host.target with
      | none => simp
      | some handle =>
          by_cases own : handle = counter.handle
          · simp [own]
          · simp [own]

/-! ## Requests -/

/-- Nothing has a name but drivers, leases and routes. -/
structure Bare (host : Host σ) : Prop where
  guards : host.guards = []
  counters : host.counters = []

omit [Engine σ] in
theorem Bare.of_takes (bare : before.Bare) (takes : Takes before after) : after.Bare := by
  have names : after.posture.guards = before.posture.guards ∧
      after.posture.counters = before.posture.counters := by
    rcases takes with same | ⟨handle, taken⟩
    · rw [same]
      exact ⟨rfl, rfl⟩
    · rw [taken]
      exact ⟨rfl, rfl⟩
  exact ⟨names.1.trans bare.guards, names.2.trans bare.counters⟩

theorem Bare.dismiss (bare : host.Bare) (driver : Driver) : (host.dismiss driver).Bare := by
  have posture := dismiss_posture host driver
  have names : (host.dismiss driver).posture.guards = host.posture.guards ∧
      (host.dismiss driver).posture.counters = host.posture.counters := by
    rw [posture]
    cases driver.armed? with
    | none => exact ⟨rfl, rfl⟩
    | some counter => exact ⟨rfl, rfl⟩
  exact ⟨names.1.trans bare.guards, names.2.trans bare.counters⟩

/-- Where a driver is let go of, nothing else happens to the posture; and where none
is, interrupts are taken or not. -/
def Follows (host : Host σ) (gone : Option Driver) (next : Host σ) : Prop :=
  match gone with
  | none => Takes host next
  | some driver => next.posture = (host.dismiss driver).posture

theorem keepDriver_follows (name : String) {driver : Driver} :
    host.Follows (host.drivers.find? name) (host.keepDriver name driver) := by
  unfold keepDriver
  cases host.drivers.find? name with
  | none => exact Takes.of_same rfl
  | some displaced => exact (dismiss_posture _ displaced).trans (dismiss_posture host displaced).symm

theorem create_follows (bridge : BridgeId) (options : DriverOptions) (name : String) :
    Hosting.Leaves (perform (.driver bridge options name)) host
      (host.Follows (host.letsGo? (.create bridge options name))) := by
  unfold letsGo? perform withTable
  rw [Hosting.leaves_get_bind]
  split
  · exact keepDriver_follows name
  · exact Takes.of_same rfl

theorem start_follows (name : String) (bootstrap : Bootstrap) :
    Hosting.Leaves (perform (.start name bootstrap)) host
      (host.Follows (host.letsGo? (.start name bootstrap))) := by
  apply leaves_withDriver (Takes.of_same rfl)
  intro driver _
  refine Hosting.Leaves.bind (start_takes driver bootstrap host) ?_
  rintro ⟨started, driver'⟩ next takes
  have replaced : Takes host (next.replaceDriver name driver') := takes.trans (.of_same rfl)
  cases started with
  | ok id => exact replaced
  | error error => exact replaced

theorem drop_follows (bare : host.Bare) (name : String) :
    Hosting.Leaves (perform (.drop name)) host (host.Follows (host.letsGo? (.drop name))) := by
  have guards : host.dropGuard? name = none := by
    unfold dropGuard?
    rw [bare.guards]
    rfl
  have counters : host.dropCounter? name = none := by
    unfold dropCounter?
    rw [bare.counters]
    rfl
  have dropped : host.Follows (host.drivers.find? name) (host.dropNamed name).2 := by
    unfold dropNamed
    rw [guards, counters]
    cases driven : host.drivers.find? name with
    | some driver =>
        have drivers : host.dropDriver? name =
            some ({ host with drivers := host.drivers.remove name }.dismiss driver) := by
          unfold dropDriver?
          rw [driven, Option.map_some]
        rw [drivers]
        exact (dismiss_posture _ driver).trans (dismiss_posture host driver).symm
    | none =>
        have drivers : host.dropDriver? name = none := by
          unfold dropDriver?
          rw [driven, Option.map_none]
        rw [drivers]
        cases routed : host.dropRoute? name with
        | some after =>
            rcases Option.map_eq_some_iff.mp routed with ⟨route, _, rfl⟩
            exact Takes.of_same (unregister_posture _ route)
        | none =>
            cases leased : host.dropLease? name with
            | some after =>
                rcases Option.map_eq_some_iff.mp leased with ⟨session, _, rfl⟩
                exact Takes.of_same (reap_posture _ session)
            | none => exact Takes.of_same rfl
  exact dropped

theorem request_follows (bare : host.Bare) (request : DriverRequest) :
    host.Follows (host.letsGo? request) (host.after request.operation) := by
  cases request with
  | create bridge options name => exact after_of_leaves (create_follows bridge options name)
  | start name bootstrap => exact after_of_leaves (start_follows name bootstrap)
  | drop name => exact after_of_leaves (drop_follows bare name)

theorem request_bare (bare : host.Bare) (request : DriverRequest) :
    (host.after request.operation).Bare := by
  have follows := request_follows bare request
  cases gone : host.letsGo? request with
  | none =>
      rw [gone] at follows
      exact bare.of_takes follows
  | some driver =>
      rw [gone] at follows
      exact (bare.dismiss driver).of_takes (.of_same follows)

/-- A request leaves the target its handler, unless it lets go of an outdated driver. -/
theorem request_handled_iff (bare : host.Bare) (handled : host.Handled)
    (request : DriverRequest) :
    (host.after request.operation).Handled ↔
      ∀ driver ∈ host.letsGo? request, ¬ host.Outdated driver := by
  have follows := request_follows bare request
  cases gone : host.letsGo? request with
  | none =>
      rw [gone] at follows
      have kept : (host.after request.operation).Handled := Takes.handled follows handled
      simpa using kept
  | some driver =>
      rw [gone] at follows
      have posture : (host.after request.operation).posture = (host.dismiss driver).posture :=
        follows
      have same : (host.after request.operation).Handled ↔ (host.dismiss driver).Handled :=
        ⟨(Takes.of_same posture.symm).handled, (Takes.of_same posture).handled⟩
      rw [same, dismiss_handled_iff handled]
      simp

/-- No outdated driver is let go of. -/
def Orderly (host : Host σ) : List DriverRequest → Prop
  | [] => True
  | request :: rest =>
    (∀ driver ∈ host.letsGo? request, ¬ host.Outdated driver) ∧
      (host.after request.operation).Orderly rest

theorem handled_afterAll (bare : host.Bare) (handled : host.Handled)
    (requests : List DriverRequest) (orderly : host.Orderly requests) :
    (host.afterAll (requests.map (·.operation))).Bare ∧
      (host.afterAll (requests.map (·.operation))).Handled := by
  induction requests generalizing host with
  | nil => exact ⟨bare, handled⟩
  | cons request rest inductionHypothesis =>
      rcases orderly with ⟨now, later⟩
      exact inductionHypothesis (request_bare bare request)
        ((request_handled_iff bare handled request).mpr now) later

omit [Engine σ] in
/-- A signal reaches an armed target if there is a handler. -/
theorem raise_of_handled (handled : host.Handled) {handle : Handle}
    (armed : host.target = some handle) : raise host = .ok true (host.bump handle).2 := by
  have handler : host.handler = true := handled (by simp [armed])
  have delivered : host.deliver.2 = (host.bump handle).2 := by
    unfold deliver
    rw [armed]
  unfold raise
  rw [Hosting.get_bind, if_pos handler, ← delivered]
  rfl

/-- Drivers are created, started and let go of, and up to some point no outdated
driver was let go of.  Then a signal at that point goes to the cell of the target, if
there is one, and the request that comes next leaves an armed target its handler if
and only if it does not let go of an outdated driver. -/
theorem handler_kept_iff {first : Host σ} (starts : first.Starts)
    (requests : List DriverRequest) (orderly : first.Orderly requests) (request : DriverRequest) :
    (∀ handle, (first.afterAll (requests.map (·.operation))).target = some handle →
      raise (first.afterAll (requests.map (·.operation))) =
        .ok true ((first.afterAll (requests.map (·.operation))).bump handle).2) ∧
      (((first.afterAll (requests.map (·.operation))).after request.operation).Handled ↔
        ∀ driver ∈ (first.afterAll (requests.map (·.operation))).letsGo? request,
          ¬ (first.afterAll (requests.map (·.operation))).Outdated driver) := by
  have initially : first.Bare ∧ first.Handled := by
    rcases starts.fields with ⟨engine, registry, bridges, undisposed, log, _, _, rfl⟩
    exact ⟨⟨rfl, rfl⟩, fun armed => by cases armed⟩
  rcases handled_afterAll initially.1 initially.2 requests orderly with ⟨bare, handled⟩
  exact ⟨fun handle => raise_of_handled handled, request_handled_iff bare handled request⟩

/-- Two drivers are started, and a signal reaches the younger one.  Then the older
one is let go of, and the younger one has lost its handler. -/
theorem handler_lost_to_older_driver :
    ∃ first : Host Recording.Recorder,
      Host.init {} Memory.machine {}
          [Bridge.onStreams { script := [] } {} false {} .ignore,
            Bridge.onStreams { script := [] } {} false {} .ignore] = .ok first ∧
        first.Starts ∧
        raise (first.afterAll [.driver 0 { prompt := [] } "older",
            .driver 1 { prompt := [] } "younger", .start "older" ⟨.noProfile, [], ""⟩,
            .start "younger" ⟨.noProfile, [], ""⟩]) =
          .ok true ((first.afterAll [.driver 0 { prompt := [] } "older",
            .driver 1 { prompt := [] } "younger", .start "older" ⟨.noProfile, [], ""⟩,
            .start "younger" ⟨.noProfile, [], ""⟩]).bump 1).2 ∧
        ¬ ((first.afterAll [.driver 0 { prompt := [] } "older",
          .driver 1 { prompt := [] } "younger", .start "older" ⟨.noProfile, [], ""⟩,
          .start "younger" ⟨.noProfile, [], ""⟩]).after (.drop "older")).Handled := by
  have starts (first : Host Recording.Recorder)
      (initial : Host.init {} Memory.machine {}
        [Bridge.onStreams { script := [] } {} false {} .ignore,
          Bridge.onStreams { script := [] } {} false {} .ignore] = .ok first) : first.Starts :=
    ⟨{}, Memory.machine, {}, _, first, first.undisposed, by decide, initial, rfl⟩
  have nobody (host : Host Recording.Recorder) (request : DriverRequest)
      (none : host.letsGo? request = none) :
      ∀ driver ∈ host.letsGo? request, ¬ host.Outdated driver := by
    intro driver gone
    rw [none] at gone
    cases gone
  have kept := handler_kept_iff (starts _ rfl)
    [.create 0 { prompt := [] } "older", .create 1 { prompt := [] } "younger",
      .start "older" ⟨.noProfile, [], ""⟩, .start "younger" ⟨.noProfile, [], ""⟩]
    ⟨nobody _ _ rfl, nobody _ _ rfl, nobody _ _ rfl, nobody _ _ rfl, trivial⟩ (.drop "older")
  refine ⟨_, rfl, starts _ rfl, kept.1 1 (by decide +kernel), ?_⟩
  intro handled
  exact kept.2.mp handled
    { bridge := 0
      options := { prompt := [] }
      active := some ⟨0, ⟨.at 0, 0⟩, some ⟨0, 0⟩⟩ }
    (by decide +kernel) ⟨⟨0, 0⟩, rfl, 1, by decide +kernel, by decide⟩

/-- The younger driver still has its counter armed, and its cell is the target, but a
signal is not taken and the cell is not touched. -/
theorem younger_driver_unhandled :
    ∃ first : Host Recording.Recorder,
      Host.init {} Memory.machine {}
          [Bridge.onStreams { script := [] } {} false {} .ignore,
            Bridge.onStreams { script := [] } {} false {} .ignore] = .ok first ∧
        (first.afterAll [.driver 0 { prompt := [] } "older",
          .driver 1 { prompt := [] } "younger", .start "older" ⟨.noProfile, [], ""⟩,
          .start "younger" ⟨.noProfile, [], ""⟩, .drop "older"]).target = some 1 ∧
        (first.afterAll [.driver 0 { prompt := [] } "older",
          .driver 1 { prompt := [] } "younger", .start "older" ⟨.noProfile, [], ""⟩,
          .start "younger" ⟨.noProfile, [], ""⟩, .drop "older"]).handler = false ∧
        (first.afterAll [.driver 0 { prompt := [] } "older",
          .driver 1 { prompt := [] } "younger", .start "older" ⟨.noProfile, [], ""⟩,
          .start "younger" ⟨.noProfile, [], ""⟩, .drop "older", .raise]).cell? 1 = some 0 :=
  ⟨_, rfl, by decide +kernel, by decide +kernel, by decide +kernel⟩

end Host

end SessionHost
