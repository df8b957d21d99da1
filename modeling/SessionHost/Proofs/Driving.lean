import SessionHost.Proofs.Launch

namespace SessionHost

/-!
# Calls and loops

A call by id, a call through a lease and the loop of a driver all reach one
session, which is found in the table before anything is asked of it.  While
they last the table does not change, so the session is there for each call of
a loop as it was for the first.  A driver that is not running reaches nothing.
-/

namespace Host

variable {σ : Type} [Engine σ] {host : Host σ} {reached : Option SessionId}

/-! ## Calls -/

theorem callSession_served {id : SessionId} {session : Session}
    (found : host.registry.sessions[id]? = some session) (request : Call) :
    Hosting.Leaves (callSession id request) host (Served session.handle host) := by
  unfold callSession Hosting.Leaves
  simp only [Hosting.leads_bind, Hosting.leads_get, found, Hosting.leads_map]
  exact call_served request host

/-- A session that stands can be called. -/
theorem callSession_visit (settled : host.Settled) {id : SessionId} (stands : host.Standing id)
    (request : Call) : Hosting.Leaves (callSession id request) host (Visit (some id) host) := by
  rcases stands with ⟨session, found, standing⟩
  apply (callSession_served found request).mono
  intro next served
  exact Visit.of_served settled served found rfl standing

theorem forward_visit (settled : host.Settled) (raw : Int) (request : Call) :
    Hosting.Leaves (forward raw request) host (Visit (host.registry.lookup raw).toOption host) := by
  unfold forward Hosting.Leaves
  simp only [Hosting.leads_bind, Hosting.leads_get]
  cases found : host.registry.lookup raw with
  | error error => exact Visit.of_advance (Advance.refl settled)
  | ok id =>
      have stands := settled.standing_of_lookup found
      dsimp only
      split
      · apply (callSession_visit settled stands request).bind
        intro answer next visit
        cases answer with
        | none => exact visit
        | some result => exact visit
      · rcases stands with ⟨session, here, standing⟩
        exact Visit.of_served settled (Served.refl host) here rfl standing

/-! ## Loops -/

/-- A driver that is not running refuses to step. -/
theorem step_of_idle {driver : Driver} (idle : driver.active = none) :
    step driver host = .ok (.error .notStarted) host := by
  unfold step
  rw [idle]
  rfl

/-- The step of a running driver serves its session. -/
theorem step_served {driver : Driver} {active : Active} (running : driver.active = some active)
    {session : Session} (found : host.registry.sessions[active.session]? = some session) :
    Hosting.Leaves (step driver) host (Served session.handle host) := by
  unfold step
  rw [running]
  apply (readLine_served host _ _).bind
  intro line asked served
  have registry : asked.registry = host.registry := congrArg Estate.registry served.estate
  split
  · exact served
  · rw [← registry] at found
    have called := (callSession_served found (.execute line)).mono fun _ => served.trans
    exact called.bind fun _ _ later => later

/-- The induction is on the steps that may still be taken. -/
theorem run_served {driver : Driver} {active : Active} (running : driver.active = some active)
    {session : Session} (found : host.registry.sessions[active.session]? = some session)
    (steps : Nat) : Hosting.Leaves (run steps driver) host (Served session.handle host) := by
  induction steps generalizing host with
  | zero =>
      unfold run Hosting.Leaves
      simp only [Hosting.leads_bind, Hosting.leads_get]
      cases host.exitStatus? driver.bridge with
      | some status => exact Served.refl host
      | none => exact Served.refl host
  | succ steps inductionHypothesis =>
      unfold run Hosting.Leaves
      simp only [Hosting.leads_bind, Hosting.leads_get]
      cases host.exitStatus? driver.bridge with
      | some status => exact Served.refl host
      | none =>
          apply (step_served running found).bind
          intro answer next served
          cases answer with
          | error error => exact served
          | ok _ =>
              have registry : next.registry = host.registry :=
                congrArg Estate.registry served.estate
              rw [← registry] at found
              exact (inductionHypothesis found).mono fun _ later => served.trans later

theorem run_of_idle {driver : Driver} (idle : driver.active = none) (steps : Nat) :
    Hosting.Leaves (run steps driver) host (· = host) := by
  unfold run Hosting.Leaves
  simp only [Hosting.leads_bind, Hosting.leads_get]
  cases host.exitStatus? driver.bridge with
  | some status => rfl
  | none =>
      cases steps with
      | zero => rfl
      | succ steps =>
          simp only [Hosting.leads_bind]
          unfold Hosting.Leads
          rw [step_of_idle idle]
          rfl

/-- The session that a driver's loop calls into. -/
theorem active_mem_references {driver : Driver} {active : Active}
    (running : driver.active = some active) : active.session ∈ driver.references := by
  simp [Driver.references, running]

theorem step_visit (settled : host.Settled) {driver : Driver}
    (stands : ∀ id ∈ driver.references, host.Standing id) :
    Hosting.Leaves (step driver) host (Visit (driver.active.map (·.session)) host) := by
  cases running : driver.active with
  | none =>
      unfold Hosting.Leaves Hosting.Leads
      rw [step_of_idle running]
      exact Visit.of_advance (Advance.refl settled)
  | some active =>
      rcases stands _ (active_mem_references running) with ⟨session, found, standing⟩
      exact (step_served running found).mono
        fun _ served => Visit.of_served settled served found rfl standing

theorem run_visit (settled : host.Settled) {driver : Driver}
    (stands : ∀ id ∈ driver.references, host.Standing id) (steps : Nat) :
    Hosting.Leaves (run steps driver) host (Visit (driver.active.map (·.session)) host) := by
  cases running : driver.active with
  | none =>
      apply (run_of_idle running steps).mono
      rintro _ rfl
      exact Visit.of_advance (Advance.refl settled)
  | some active =>
      rcases stands _ (active_mem_references running) with ⟨session, found, standing⟩
      exact (run_served running found steps).mono
        fun _ served => Visit.of_served settled served found rfl standing

/-! ## A session from start to end -/

/-- The driver of a served session is nobody's but the service's own, and it is
let go of at the end. -/
theorem serve_advance (settled : host.Settled) (steps : Nat) (bridge : BridgeId)
    (options : DriverOptions) (bootstrap : Bootstrap) :
    Hosting.Leaves (serve steps bridge options bootstrap) host
      (Advance (some host.registry.size) [] host) := by
  have closed (next : Host σ) (launch : Launch (some host.registry.size) host next) :
      Launch (some host.registry.size) host { next with opened := false } :=
    launch.trans ⟨Advance.of_references launch.advance.accounts rfl rfl rfl
      launch.advance.accounts.named, rfl⟩
  have ended {last : Host σ} (driver : Driver)
      (advance : Advance (some host.registry.size) [] host last) :
      Advance (some host.registry.size) [] host (last.dismiss driver).shutDown := by
    have dismissed : Advance (some host.registry.size) [] last (last.dismiss driver) :=
      dismiss_advance (advance.accounts.weaken (by simp))
    have shut : Advance (some host.registry.size) [] (last.dismiss driver)
        (last.dismiss driver).shutDown :=
      Advance.of_references dismissed.accounts rfl rfl rfl dismissed.accounts.named
    exact advance.trans (dismissed.trans shut)
  unfold serve Hosting.Leaves
  rw [Hosting.leads_bind]
  refine Hosting.Leads.mono
    (leads_owningTable (start_launch settled { bridge, options } bootstrap) closed) ?_
    fun _ _ launch => launch.advance
  rintro ⟨started, driver⟩ next ⟨launch, either⟩
  have leased : ∀ id ∈ driver.references, id = host.registry.size ∧ next.Standing id := by
    intro id listed
    rcases either with rfl | ⟨_, stands, all⟩
    · cases listed
    · have same := all id listed
      exact ⟨same, same ▸ stands⟩
  have reaches : ∀ id ∈ driver.active.map (·.session), id ∈ some host.registry.size := by
    intro id listed
    rcases Option.map_eq_some_iff.mp listed with ⟨active, running, rfl⟩
    exact congrArg some (leased _ (active_mem_references running)).1.symm
  cases started with
  | error error => exact ended driver launch.advance
  | ok id =>
      simp only [Hosting.leads_bind]
      refine Hosting.Leads.mono
        (run_visit launch.advance.accounts (fun id listed => (leased id listed).2) steps) ?_ ?_
      · intro result last visit
        exact ended driver (launch.advance.trans (visit.advance.widen reaches))
      · intro halt last visit
        exact launch.advance.trans (visit.advance.widen reaches)

end Host

end SessionHost
