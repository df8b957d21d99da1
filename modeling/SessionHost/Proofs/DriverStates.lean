import SessionHost.Proofs.Arming
import SessionHost.Proofs.ConsoleRuns

namespace SessionHost

/-!
# The states of a driver

The state of a driver is read off two things: whether it has a session, and the exit status
of its bridge.  Nothing that is asked of a host takes a driver away that is kept under a
name, nor its session.  So as long as a status that is settled stays settled, the driver
goes on from its initial state by way of the running one to a final one, and never back.
-/

/-- The later of two states of a driver is the same, or it lies further on: from the initial
state by way of the running one to a final one, which stays what it is. -/
def DriverState.Onward : DriverState → DriverState → Prop
  | .init, _ => True
  | .running, later => later ≠ .init
  | .terminated status, later => later = .terminated status

/-- What a driver has become: it is on its bridge still, and it has a session if it had one. -/
structure Driver.Becomes (driver later : Driver) : Prop where
  bridge : later.bridge = driver.bridge
  active : driver.active.isSome → later.active.isSome

theorem Driver.Becomes.refl (driver : Driver) : driver.Becomes driver :=
  ⟨rfl, id⟩

theorem Bindings.find?_bind {α : Type} (bindings : Bindings α) (name other : String) (thing : α) :
    (bindings.bind name thing).find? other =
      if other = name then some thing else bindings.find? other := by
  have removed := find?_remove bindings name other
  rw [find?] at removed
  rw [bind, find?, List.lookup_append, removed]
  by_cases same : other = name
  · rw [if_pos same, if_pos same, List.lookup_cons, same, beq_self_eq_true]
    rfl
  · rw [if_neg same, if_neg same, List.lookup_cons, beq_false_of_ne same]
    exact Option.or_none ..

namespace Host

variable {σ : Type} {host before after : Host σ} {handle : Handle}

/-- The drivers that are kept under names stay as they are. -/
def SameDrivers (before after : Host σ) : Prop :=
  after.drivers = before.drivers

theorem sameDrivers_of_served (served : Served handle before after) : SameDrivers before after :=
  congrArg Estate.drivers served.estate

/-- The host of which drivers are kept has served an engine or a console. -/
theorem leaves_sameDrivers {α : Type} {action : Hosting σ α}
    (served : Hosting.Leaves action host (Served 0 host)) :
    Hosting.Leaves action host (SameDrivers host) :=
  served.mono fun _ => sameDrivers_of_served

theorem sameDrivers_bind {α β : Type} {first : Hosting σ α} {next : α → Hosting σ β}
    (same : Hosting.Leaves first host (SameDrivers host))
    (onward : ∀ value middle, Hosting.Leaves (next value) middle (SameDrivers middle)) :
    Hosting.Leaves (first >>= next) host (SameDrivers host) := by
  apply same.bind
  intro value middle reached
  apply (onward value middle).mono
  intro last kept
  exact Eq.trans kept reached

section Calls

variable [Engine σ]

theorem call_sameDrivers (handle : Handle) (request : Call) (host : Host σ) :
    Hosting.Leaves (call handle request) host (SameDrivers host) :=
  (call_served request host).mono fun _ => sameDrivers_of_served

theorem callSession_sameDrivers (id : SessionId) (request : Call) (host : Host σ) :
    Hosting.Leaves (callSession id request) host (SameDrivers host) := by
  rw [callSession, Hosting.leaves_get_bind]
  cases host.registry.sessions[id]? with
  | none => exact rfl
  | some session => exact (Hosting.leaves_map _ _).mpr (call_sameDrivers session.handle request host)

theorem forward_sameDrivers (raw : Int) (request : Call) (host : Host σ) :
    Hosting.Leaves (forward raw request) host (SameDrivers host) := by
  rw [forward, Hosting.leaves_get_bind]
  cases host.registry.lookup raw with
  | error error => exact rfl
  | ok id =>
      dsimp only
      split
      · apply sameDrivers_bind (callSession_sameDrivers id request host)
        intro answer next
        cases answer with
        | none => exact rfl
        | some result => exact rfl
      · exact rfl

theorem acquire_sameDrivers (host : Host σ) :
    Hosting.Leaves acquire host (SameDrivers host) :=
  (acquire_leaves_created host).mono fun _ created => created.drivers

theorem attach_sameDrivers (host : Host σ) (bridge : BridgeId) (session : SessionId)
    (counter interrupt : Option Counter) :
    SameDrivers host (host.attach bridge session counter interrupt) := by
  apply attach_keeps (SameDrivers host)
  · intro next records same
    exact same
  · intro next same
    exact Eq.trans (setCancelTarget_drivers bridge counter) same
  · intro next same held armed
    exact same
  · rfl

theorem wire_sameDrivers (driver : Driver) (session : SessionId) (handle : Handle)
    (host : Host σ) : Hosting.Leaves (wire driver session handle) host (SameDrivers host) := by
  rw [wire, Hosting.leaves_modifyGet_bind]
  refine sameDrivers_bind
    (call_sameDrivers handle _ (host.register (.at handle) driver.bridge).2) ?_
  intro _ wired
  exact attach_sameDrivers wired _ _ _ _

theorem step_sameDrivers (driver : Driver) (host : Host σ) :
    Hosting.Leaves (step driver) host (SameDrivers host) := by
  rw [step]
  cases driver.active with
  | none => exact rfl
  | some active =>
      apply sameDrivers_bind (leaves_sameDrivers (readLine_served host _ _))
      intro line asked
      split
      · exact rfl
      · exact sameDrivers_bind (callSession_sameDrivers active.session _ asked) fun _ _ => rfl

/-- The induction is on the steps that may still be taken. -/
theorem run_sameDrivers (steps : Nat) (driver : Driver) (host : Host σ) :
    Hosting.Leaves (run steps driver) host (SameDrivers host) := by
  induction steps generalizing host with
  | zero =>
      rw [run, Hosting.leaves_get_bind]
      cases host.exitStatus? driver.bridge with
      | some status => exact rfl
      | none => exact rfl
  | succ steps inductionHypothesis =>
      rw [run, Hosting.leaves_get_bind]
      cases host.exitStatus? driver.bridge with
      | some status => exact rfl
      | none =>
          apply sameDrivers_bind (step_sameDrivers driver host)
          intro answer next
          cases answer with
          | error error => exact rfl
          | ok _ => exact inductionHypothesis next

/-- A driver that starts is kept by whoever started it. -/
theorem start_becomes (driver : Driver) (bootstrap : Bootstrap) (host : Host σ) :
    Hosting.Leads (start driver bootstrap) host
      (fun answer after => SameDrivers host after ∧ driver.Becomes answer.2)
      fun _ => SameDrivers host := by
  rw [start]
  split
  · exact ⟨rfl, Driver.Becomes.refl driver⟩
  dsimp only
  split
  · exact ⟨rfl, Driver.Becomes.refl driver⟩
  rw [Hosting.leads_bind]
  refine Hosting.Leads.mono (acquire_sameDrivers host) ?_ fun _ _ => id
  intro answer entered created
  cases answer with
  | error error => exact ⟨created, Driver.Becomes.refl driver⟩
  | ok id =>
      simp only [Hosting.leads_bind, Hosting.leads_get]
      cases entered.registry.sessions[id]? with
      | none => exact ⟨created, Driver.Becomes.refl driver⟩
      | some session =>
          simp only [Hosting.leads_bind, Hosting.leads_modify, Hosting.leads_pure]
          refine Hosting.Leads.mono (wire_sameDrivers driver id session.handle entered) ?_
            fun _ _ wiring => Eq.trans wiring created
          intro active wired wiring
          have ready : SameDrivers host wired := Eq.trans wiring created
          refine Hosting.Leads.mono (call_sameDrivers session.handle _ (wired.say _)) ?_
            fun _ _ called => Eq.trans called ready
          intro status executed called
          exact ⟨Eq.trans called ready, rfl, fun _ => rfl⟩

/-- What a driver has become is kept under its name. -/
def Drives (name : String) (driver : Driver) (host : Host σ) : Prop :=
  ∃ later, host.drivers.find? name = some later ∧ driver.Becomes later

/-- Nothing that is asked of a host takes a driver or its session away. -/
theorem attend_drives {name : String} {driver : Driver}
    (found : host.drivers.find? name = some driver) (request : ConsoleRequest) :
    Hosting.Leaves (attend request) host (Drives name driver) := by
  have stays {action : Hosting σ Unit} (same : Hosting.Leaves action host (SameDrivers host)) :
      Hosting.Leaves action host (Drives name driver) := by
    apply same.mono
    intro after kept
    exact ⟨driver, by rw [kept]; exact found, Driver.Becomes.refl driver⟩
  have performed {operation : Operation}
      (same : Hosting.Leaves (perform operation) host (SameDrivers host)) :
      Hosting.Leaves ((fun _ => ()) <$> perform operation) host (Drives name driver) :=
    stays ((Hosting.leaves_map _ _).mpr same)
  have unchanged : SameDrivers host host := rfl
  cases request with
  | output address code argument =>
      exact stays (leaves_sameDrivers (outputCallback_served host address code argument))
  | display bridge kind payload =>
      exact stays (leaves_sameDrivers (display_served host bridge kind payload))
  | exit bridge status => exact stays (leaves_sameDrivers (exitEvent_served host bridge status))
  | line bridge address request =>
      apply stays
      apply (Hosting.leaves_map _ _).mpr
      cases request with
      | text prompt =>
          have read := leaves_sameDrivers (readLine_served host bridge (Bytes.ofString prompt))
          exact sameDrivers_bind (sameDrivers_bind read fun _ _ => rfl) fun _ _ => rfl
      | bytes prompt =>
          exact sameDrivers_bind (leaves_sameDrivers (readLine_served host bridge prompt))
            fun _ _ => rfl
      | callback prompt =>
          exact sameDrivers_bind (leaves_sameDrivers (inputCallback_served host address prompt))
            fun _ _ => rfl
  | start other bootstrap =>
      apply (Hosting.leaves_map _ _).mpr
      rw [perform, withDriver, Hosting.leaves_get_bind]
      cases here : host.drivers.find? other with
      | none => exact ⟨driver, found, Driver.Becomes.refl driver⟩
      | some started =>
          refine (Hosting.leads_bind _ _).mpr
            (Hosting.Leads.mono (start_becomes started bootstrap host) ?_ ?_)
          · rintro ⟨answer, later⟩ after ⟨same, becomes⟩
            have replaced : Drives name driver (after.replaceDriver other later) := by
              rw [Drives, replaceDriver, Bindings.find?_bind, same, found]
              by_cases this : name = other
              · subst other
                rw [found] at here
                cases here
                exact ⟨later, if_pos rfl, becomes⟩
              · exact ⟨driver, if_neg this, Driver.Becomes.refl driver⟩
            cases answer with
            | ok id => exact replaced
            | error error => exact replaced
          · intro halt after same
            exact ⟨driver, by rw [same]; exact found, Driver.Becomes.refl driver⟩
  | step other =>
      apply performed
      apply leaves_withDriver unchanged
      intro stepped _
      apply sameDrivers_bind (step_sameDrivers stepped host)
      intro answer next
      cases answer with
      | ok _ => exact rfl
      | error error => exact rfl
  | run other steps =>
      apply performed
      apply leaves_withDriver unchanged
      intro runner _
      apply sameDrivers_bind (run_sameDrivers steps runner host)
      intro answer next
      cases answer with
      | ok status => exact rfl
      | error error => exact rfl
  | forward raw call =>
      apply performed
      apply leaves_withTable unchanged
      apply sameDrivers_bind (forward_sameDrivers raw call host)
      intro answer next
      cases answer with
      | ok value => exact rfl
      | error error => exact rfl
  | through lease call =>
      apply performed
      apply leaves_withLease unchanged
      intro session _
      split
      · apply sameDrivers_bind (callSession_sameDrivers session call host)
        intro answer next
        cases answer with
        | none => exact rfl
        | some value => exact rfl
      · exact rfl

/-! ## Runs -/

theorem afterRequests_append (host : Host σ) (earlier later : List ConsoleRequest) :
    host.afterRequests (earlier ++ later) = (host.afterRequests earlier).afterRequests later :=
  List.foldl_append

theorem afterRequests_drives {name : String} {driver : Driver} {host : Host σ}
    (drives : Drives name driver host) (requests : List ConsoleRequest) :
    Drives name driver (host.afterRequests requests) := by
  induction requests generalizing host with
  | nil => exact drives
  | cons request rest inductionHypothesis =>
      rcases drives with ⟨middle, found, becomes⟩
      rcases leftBy_of_leaves (attend_drives found request) with ⟨later, kept, further⟩
      apply inductionHypothesis
      exact ⟨later, kept, further.bridge.trans becomes.bridge,
        fun started => further.active (becomes.active started)⟩

omit [Engine σ] in
theorem stateOf_onward {driver later : Driver} (becomes : driver.Becomes later)
    (stays : ∀ status, before.exitStatus? driver.bridge = some status →
      after.exitStatus? driver.bridge = some status) :
    (before.stateOf driver).Onward (after.stateOf later) := by
  rw [stateOf, stateOf, becomes.bridge]
  cases settled : before.exitStatus? driver.bridge with
  | some status =>
      rw [stays status settled]
      rfl
  | none =>
      cases active : driver.active with
      | none => trivial
      | some session =>
          have started := becomes.active (by rw [active]; rfl)
          cases after.exitStatus? driver.bridge with
          | some status => exact fun back => nomatch back
          | none =>
              cases still : later.active with
              | none =>
                  rw [still] at started
                  cases started
              | some session => exact fun back => nomatch back

end Calls

end Host

end SessionHost
