import SessionHost.Engine.Recording
import SessionHost.Proofs.Driving

namespace SessionHost

/-!
# Teardown

The operations of a client each advance the accounts, so the accounts are
settled wherever a run may stop: exactly the released sessions that nothing
holds have been torn down.  A release is the one operation that releases, and
only the session it names.
-/

namespace Host

variable {σ : Type}

/-- How a host starts: with an empty table and with bridges that are bound to
nothing yet. -/
def Starts (host : Host σ) : Prop :=
  ∃ (engine : σ) (memory : Memory) (config : RegistryConfig) (bridges : List Bridge)
    (created : Host σ) (undisposed : Undisposed),
    (∀ bridge ∈ bridges, bridge.cancel = none) ∧
      Host.init engine memory config bridges = .ok created ∧ host = { created with undisposed }

/-- The session that an operation calls into, if it calls into one. -/
def addressee (host : Host σ) : Operation → Option SessionId
  | .forward raw _ => (host.registry.lookup raw).toOption
  | .through lease _ => host.leases.find? lease
  | .step driver => (host.drivers.find? driver).bind fun driver => driver.active.map (·.session)
  | .run driver _ => (host.drivers.find? driver).bind fun driver => driver.active.map (·.session)
  | .start _ _ => some host.registry.size
  | .serve _ _ _ _ => some host.registry.size
  | _ => none

/-- Whether an operation releases a session. -/
def Releases (host : Host σ) (operation : Operation) (id : SessionId) : Prop :=
  operation = .release id ∧ host.opened = true

/-- What an operation does to the sessions that there are: their instances stay
the same, a release is all that releases them, and none of them comes back.  The
engine is called through the addressee only, which is not torn down by then. -/
structure Progress (operation : Operation) (before after : Host σ) : Prop where
  sessions : ∀ (id : SessionId) (session : Session),
    before.registry.sessions[id]? = some session →
      ∃ later : Session, after.registry.sessions[id]? = some later ∧
        later.handle = session.handle ∧
        (later.released = true ↔ session.released = true ∨ before.Releases operation id) ∧
        (session.freed = true → later.freed = true)
  entered : ∀ (id : SessionId) (session : Session), before.registry.sessions[id]? = none →
    after.registry.sessions[id]? = some session → session.released = false
  journal : ∃ entries, after.journal = entries ++ before.journal ∧
    ∀ handle call, Entry.called handle call ∈ entries →
      ∃ (id : SessionId) (session : Session), before.addressee operation = some id ∧
        after.registry.sessions[id]? = some session ∧ session.handle = handle ∧
        session.freed = false

/-- All that a host has at the start is its engine, its table without sessions and
its unbound bridges. -/
theorem Starts.fields {host : Host σ} (starts : host.Starts) :
    ∃ (engine : σ) (registry : Registry) (bridges : List Bridge) (undisposed : Undisposed)
      (log : List Log.Record), registry.sessions = #[] ∧
        (∀ bridge ∈ bridges, bridge.cancel = none) ∧
        host = { engine, registry, bridges, undisposed, log } := by
  rcases starts with ⟨engine, memory, config, bridges, created, undisposed, unbound, opened, rfl⟩
  unfold Host.init at opened
  split at opened
  · cases opened
  · next registry initial =>
      cases opened
      exact ⟨engine, registry, bridges, undisposed, _, Registry.init_sessions initial, unbound, rfl⟩

theorem Starts.settled {host : Host σ} (starts : host.Starts) : host.Settled := by
  rcases starts.fields with ⟨engine, registry, bridges, undisposed, log, empty, unbound, rfl⟩
  have cancels : bridges.filterMap (fun bridge => bridge.cancel.map (·.session)) = [] := by
    apply List.filterMap_eq_nil_iff.mpr
    intro bridge listed
    rw [unbound bridge listed]
    rfl
  constructor
  · intro id session found
    simp [empty] at found
  · intro id session found
    simp [empty] at found
  · intro id held
    rw [holders_eq] at held
    simp [cancels, Bindings.held] at held
  · intro handle
    simp [Registry.tornDown, empty]
  · exact ⟨List.nodup_nil, List.nodup_nil, List.nodup_nil, List.nodup_nil⟩

/-- A visit to the addressee is progress of an operation that is no release. -/
theorem Visit.progress {operation : Operation} {before after : Host σ}
    (visit : Visit (before.addressee operation) before after)
    (keeps : ∀ id, ¬ before.Releases operation id) : Progress operation before after where
  sessions := by
    intro id session found
    rcases visit.advance.sessions id session found with ⟨later, atLater, handle, released, freed⟩
    refine ⟨later, atLater, handle, ?_, freed⟩
    rw [released]
    exact ⟨Or.inl, fun either => either.resolve_right (keeps id)⟩
  entered := visit.advance.entered
  journal := by
    rcases visit.advance.journal with ⟨entries, growth, calls⟩
    refine ⟨entries, growth, ?_⟩
    intro handle call listed
    rcases calls handle call listed with ⟨id, session, isReached, found, same⟩
    exact ⟨id, session, isReached, found, same, visit.spares id isReached session found⟩

variable {host : Host σ}

section Naming

variable {property : Host σ → Prop}

theorem leaves_withTable {action : Hosting σ Answer} (closed : property host)
    (opened : Hosting.Leaves action host property) :
    Hosting.Leaves (withTable action) host property := by
  unfold withTable Hosting.Leaves
  simp only [Hosting.leads_bind, Hosting.leads_get]
  split
  · exact opened
  · exact closed

theorem leaves_withLease {name : String} {action : SessionId → Hosting σ Answer}
    (unknown : property host)
    (known : ∀ session, host.leases.find? name = some session →
      Hosting.Leaves (action session) host property) :
    Hosting.Leaves (withLease name action) host property := by
  unfold withLease Hosting.Leaves
  simp only [Hosting.leads_bind, Hosting.leads_get]
  cases found : host.leases.find? name with
  | none => exact unknown
  | some session => exact known session found

theorem leaves_withCounter {name : String} {action : Counter → Hosting σ Answer}
    (unknown : property host)
    (known : ∀ counter, host.counters.find? name = some counter →
      Hosting.Leaves (action counter) host property) :
    Hosting.Leaves (withCounter name action) host property := by
  unfold withCounter Hosting.Leaves
  simp only [Hosting.leads_bind, Hosting.leads_get]
  cases found : host.counters.find? name with
  | none => exact unknown
  | some counter => exact known counter found

theorem leaves_withDriver {name : String} {action : Driver → Hosting σ Answer}
    (unknown : property host)
    (known : ∀ driver, host.drivers.find? name = some driver →
      Hosting.Leaves (action driver) host property) :
    Hosting.Leaves (withDriver name action) host property := by
  unfold withDriver Hosting.Leaves
  simp only [Hosting.leads_bind, Hosting.leads_get]
  cases found : host.drivers.find? name with
  | none => exact unknown
  | some driver => exact known driver found

end Naming

/-- Consoles, cells and signals are nobody's in particular, so nobody is visited. -/
theorem leaves_visit_of_served {α : Type} {action : Hosting σ α} (settled : host.Settled)
    (served : ∀ handle, Hosting.Leaves action host (Served handle host)) :
    Hosting.Leaves action host (Visit none host) :=
  (Hosting.Leaves.all served).mono fun _ all => Visit.of_advance (Advance.of_quiet settled all)

/-! ## Releasing -/

/-- A session that is marked as released is owed a look. -/
theorem accounts_of_marked (settled : host.Settled) {id : SessionId} {session : Session}
    (found : host.registry.sessions[id]? = some session) :
    AccountsBut [id] (host.marked id) where
  safe := by
    intro other later atOther freed
    replace atOther := (Registry.getElem?_marked host.registry id other).symm.trans atOther
    split at atOther
    · rcases Option.map_eq_some_iff.mp atOther with ⟨before, atBefore, rfl⟩
      exact ⟨rfl, (settled.safe other before atBefore freed).2⟩
    · exact settled.safe other later atOther freed
  prompt := by
    intro other later atOther released unheld notOwed
    replace atOther := (Registry.getElem?_marked host.registry id other).symm.trans atOther
    rw [if_neg fun same => notOwed (by simp [same])] at atOther
    exact settled.prompt other later atOther released unheld (by simp)
  known := by
    intro other held
    have bound := settled.known other held
    simpa [marked, Registry.marked, Registry.update] using bound
  counted := by
    intro handle
    have released := Registry.tornDown_release found handle
    exact (settled.counted handle).trans released.symm
  named := settled.named

/-- Nothing has to be done to make progress where there is nothing to release. -/
theorem progress_of_unchanged {operation : Operation}
    (released : ∀ (id : SessionId) (session : Session),
      host.registry.sessions[id]? = some session → host.Releases operation id →
        session.released = true) : Progress operation host host where
  sessions := by
    intro id session found
    refine ⟨session, found, rfl, ⟨Or.inl, ?_⟩, fun freed => freed⟩
    rintro (already | releases)
    · exact already
    · exact released id session found releases
  entered := fun _ _ absent found => by cases absent.symm.trans found
  journal := ⟨[], rfl, by simp⟩

/-- A release is progress by the mark, whatever is torn down after it. -/
theorem progress_of_marked {id : SessionId} {after : Host σ} (opened : host.opened = true)
    (advance : Advance none [] (host.marked id) after) : Progress (.release id) host after where
  sessions := by
    intro other session found
    have marking := Registry.getElem?_marked host.registry id other
    rw [found] at marking
    have releases : host.Releases (.release id) other ↔ id = other := by
      constructor
      · rintro ⟨same, _⟩
        injection same with same
        exact Int.ofNat.inj same
      · rintro rfl
        exact ⟨rfl, opened⟩
    rw [releases]
    by_cases same : id = other
    · rw [if_pos same, Option.map_some] at marking
      rcases advance.sessions other _ marking with ⟨later, atLater, handle, released, freed⟩
      exact ⟨later, atLater, handle, by simp [released, same], freed⟩
    · rw [if_neg same] at marking
      rcases advance.sessions other _ marking with ⟨later, atLater, handle, released, freed⟩
      exact ⟨later, atLater, handle, by simp [released, same], freed⟩
  entered := by
    intro other session absent found
    refine advance.entered other session ?_ found
    refine (Registry.getElem?_marked host.registry id other).trans ?_
    rw [absent, Option.map_none, ite_self]
  journal := by
    rcases advance.journal with ⟨entries, growth, calls⟩
    refine ⟨entries, growth, ?_⟩
    intro handle call listed
    rcases calls handle call listed with ⟨_, _, impossible, _⟩
    cases impossible

/-- A release that is refused has nothing to release. -/
theorem released_of_refused {raw : Int} {error : RegistryError} {id : SessionId}
    {session : Session} (refused : host.registry.lookup raw = .error error)
    (found : host.registry.sessions[id]? = some session)
    (releases : host.Releases (.release raw) id) : session.released = true := by
  rcases releases with ⟨same, _⟩
  injection same with same
  subst raw
  apply Bool.of_not_eq_false
  intro unreleased
  have looked : host.registry.lookup id = .ok id :=
    Registry.lookup_eq_ok_iff.mpr ⟨Int.natCast_nonneg id, rfl, session, found, unreleased⟩
  rw [looked] at refused
  cases refused

/-! ## The other operations -/

/-- The session of a driver's loop is held by the driver. -/
theorem standing_of_driven (settled : host.Settled) (name : String) :
    ∀ id ∈ (host.drivers.find? name).bind fun driver => driver.active.map (·.session),
      host.Standing id := by
  intro id listed
  rcases Option.bind_eq_some_iff.mp listed with ⟨driver, found, isActive⟩
  rcases Option.map_eq_some_iff.mp isActive with ⟨active, running, rfl⟩
  exact settled.standing_of_driver found _ (active_mem_references running)

theorem standing_of_looked (settled : host.Settled) (raw : Int) :
    ∀ id ∈ (host.registry.lookup raw).toOption, host.Standing id := by
  intro id listed
  cases looked : host.registry.lookup raw with
  | error error =>
      rw [looked] at listed
      cases listed
  | ok other =>
      rw [looked] at listed
      cases listed
      exact settled.standing_of_lookup looked

/-- The session that is about to be created is not there yet. -/
theorem visit_of_entered {after : Host σ}
    (advance : Advance (some host.registry.size) [] host after) :
    Visit (some host.registry.size) host after :=
  Visit.of_entered advance (Array.getElem?_eq_none (Nat.le_refl _))

variable [Engine σ]

theorem perform_acquire_visit (settled : host.Settled) :
    Hosting.Leaves (perform .acquire) host (Visit none host) := by
  apply leaves_withTable (Visit.of_advance (Advance.refl settled))
  unfold Hosting.Leaves
  rw [Hosting.leads_bind]
  refine Hosting.Leads.mono (acquire_launch none settled) ?_
    fun _ _ launch => Visit.of_advance launch.advance
  rintro answer next ⟨launch, _⟩
  cases answer with
  | ok id => exact Visit.of_advance launch.advance
  | error error => exact Visit.of_advance launch.advance

theorem perform_lookup_visit (settled : host.Settled) (raw : Int) (keepAs : Option String) :
    Hosting.Leaves (perform (.lookup raw keepAs)) host (Visit none host) := by
  have unchanged : Visit none host host := Visit.of_advance (Advance.refl settled)
  apply leaves_withTable unchanged
  unfold Hosting.Leaves
  simp only [Hosting.leads_bind, Hosting.leads_get]
  cases found : host.registry.lookup raw with
  | error error => exact unchanged
  | ok session =>
      cases keepAs with
      | none => exact unchanged
      | some name =>
          exact Visit.of_advance (keepLease_advance settled name (settled.standing_of_lookup found))

theorem perform_incrementBreak_visit (settled : host.Settled) (raw : Int) :
    Hosting.Leaves (perform (.incrementBreak raw)) host (Visit none host) := by
  apply leaves_withTable (Visit.of_advance (Advance.refl settled))
  have bumped : Visit none host (host.incrementBreak raw).2 :=
    Visit.of_advance (Advance.of_quiet settled fun _ => incrementBreak_served host raw)
  unfold Hosting.Leaves
  simp only [Hosting.leads_bind, Hosting.leads_modifyGet]
  cases (host.incrementBreak raw).1 with
  | ok value => exact bumped
  | error error => exact bumped

theorem perform_forward_visit (settled : host.Settled) (raw : Int) (call : Call) :
    Hosting.Leaves (perform (.forward raw call)) host
      (Visit (host.registry.lookup raw).toOption host) := by
  apply leaves_withTable (Visit.stay settled (standing_of_looked settled raw))
  apply (forward_visit settled raw call).bind
  intro answer next visit
  cases answer with
  | ok value => exact visit
  | error error => exact visit

theorem perform_through_visit (settled : host.Settled) (lease : String) (call : Call) :
    Hosting.Leaves (perform (.through lease call)) host (Visit (host.leases.find? lease) host) := by
  have listed : ∀ id ∈ host.leases.find? lease, host.Standing id :=
    fun _ found => settled.standing_of_lease found
  apply leaves_withLease (Visit.stay settled listed)
  intro session found
  simp only [found] at listed ⊢
  split
  · apply (callSession_visit settled (listed session rfl) call).bind
    intro answer next visit
    cases answer with
    | none => exact visit
    | some value => exact visit
  · exact Visit.stay settled listed

theorem perform_resolve_visit (settled : host.Settled) (lease keepAs : String) :
    Hosting.Leaves (perform (.resolve lease keepAs)) host (Visit none host) := by
  have unchanged : Visit none host host := Visit.of_advance (Advance.refl settled)
  apply leaves_withLease unchanged
  intro session found
  unfold Hosting.Leaves
  simp only [Hosting.leads_bind, Hosting.leads_get]
  cases resolved : host.resolve session with
  | none => exact unchanged
  | some counter =>
      have stands : host.Standing counter.session :=
        (resolve_session resolved).symm ▸ settled.standing_of_lease found
      exact Visit.of_advance (keepCounter_advance settled keepAs stands)

theorem perform_start_visit (settled : host.Settled) (name : String) (bootstrap : Bootstrap) :
    Hosting.Leaves (perform (.start name bootstrap)) host
      (Visit (some host.registry.size) host) := by
  apply leaves_withDriver (visit_of_entered (Advance.refl settled))
  intro driver found
  unfold Hosting.Leaves
  simp only [Hosting.leads_bind, Hosting.leads_modify]
  refine Hosting.Leads.mono (start_replace_advance settled found bootstrap) ?_
    fun _ _ => visit_of_entered
  rintro ⟨started, driver⟩ next advance
  cases started with
  | ok id => exact visit_of_entered advance
  | error error => exact visit_of_entered advance

theorem perform_step_visit (settled : host.Settled) (name : String) :
    Hosting.Leaves (perform (.step name)) host (Visit (host.addressee (.step name)) host) := by
  apply leaves_withDriver (Visit.stay settled (standing_of_driven settled name))
  intro driver found
  simp only [found, Option.bind_some]
  apply (step_visit settled (settled.standing_of_driver found)).bind
  intro answer next visit
  cases answer with
  | ok _ => exact visit
  | error error => exact visit

theorem perform_run_visit (settled : host.Settled) (name : String) (steps : Nat) :
    Hosting.Leaves (perform (.run name steps)) host
      (Visit (host.addressee (.run name steps)) host) := by
  apply leaves_withDriver (Visit.stay settled (standing_of_driven settled name))
  intro driver found
  simp only [found, Option.bind_some]
  apply (run_visit settled (settled.standing_of_driver found) steps).bind
  intro answer next visit
  cases answer with
  | ok status => exact visit
  | error error => exact visit

theorem perform_serve_visit (settled : host.Settled) (bridge : BridgeId) (options : DriverOptions)
    (bootstrap : Bootstrap) (steps : Nat) :
    Hosting.Leaves (perform (.serve bridge options bootstrap steps)) host
      (Visit (some host.registry.size) host) := by
  have unserved : Visit (some host.registry.size) host host :=
    visit_of_entered (Advance.refl settled)
  apply leaves_withTable unserved
  unfold Hosting.Leaves
  simp only [Hosting.leads_bind, Hosting.leads_get]
  split
  · exact unserved
  have served := (serve_advance settled steps bridge options bootstrap).mono
    fun _ => visit_of_entered
  apply served.bind
  intro answer next visit
  cases answer with
  | ok status => exact visit
  | error error => exact visit

/-- Every operation but a release visits its addressee, or nobody. -/
theorem perform_visit (settled : host.Settled) (operation : Operation)
    (keeps : ∀ raw, operation ≠ .release raw) :
    Hosting.Leaves (perform operation) host (Visit (host.addressee operation) host) := by
  have unchanged : Visit none host host := Visit.of_advance (Advance.refl settled)
  cases operation with
  | acquire => exact perform_acquire_visit settled
  | lookup raw keepAs => exact perform_lookup_visit settled raw keepAs
  | release raw => exact absurd rfl (keeps raw)
  | incrementBreak raw => exact perform_incrementBreak_visit settled raw
  | forward raw call => exact perform_forward_visit settled raw call
  | through lease call => exact perform_through_visit settled lease call
  | shutDown =>
      apply leaves_withTable unchanged
      unfold Hosting.Leaves
      simp only [Hosting.leads_bind, Hosting.leads_get]
      split
      · exact unchanged
      · exact Visit.of_advance (Advance.of_references settled rfl rfl rfl settled.named)
  | dropTable =>
      apply leaves_withTable unchanged
      unfold Hosting.Leaves
      simp only [Hosting.leads_bind, Hosting.leads_get]
      split
      · exact unchanged
      · exact Visit.of_advance (Advance.of_references settled rfl rfl rfl settled.named)
  | dropBridge bridge =>
      unfold perform Hosting.Leaves
      simp only [Hosting.leads_bind, Hosting.leads_get]
      split
      · exact unchanged
      · exact Visit.of_advance (setCancelTarget_advance settled bridge (by simp))
  | close => exact Visit.of_advance (close_advance settled)
  | drop name => exact Visit.of_advance (dropNamed_advance settled name)
  | resolve lease keepAs => exact perform_resolve_visit settled lease keepAs
  | cloneCounter name keepAs =>
      apply leaves_withCounter unchanged
      intro counter found
      exact Visit.of_advance (keepCounter_advance settled keepAs (settled.standing_of_counter found))
  | cancel name times =>
      apply leaves_withCounter unchanged
      intro counter _
      exact Visit.of_advance
        (Advance.of_quiet settled fun _ => bumpTimes_served times host counter.handle)
  | arm name keepAs =>
      apply leaves_withCounter unchanged
      intro counter found
      have stands := settled.standing_of_counter found
      have armed : Advance none [] host (host.arm counter) := arm_advance settled stands
      exact Visit.of_advance (armed.trans (keepGuard_advance armed.accounts keepAs stands))
  | deliver => exact Visit.of_advance (Advance.of_quiet settled fun _ => deliver_served host)
  | install => exact Visit.of_advance (install_advance settled)
  | uninstall => exact Visit.of_advance (uninstall_advance settled)
  | raise =>
      have raised := leaves_visit_of_served settled fun _ => raise_served host
      exact raised.bind fun _ _ visit => visit
  | display bridge code payload =>
      exact Visit.of_advance
        (Advance.of_quiet settled fun _ => display_served host bridge _ payload)
  | exit bridge status =>
      have exited := leaves_visit_of_served settled fun _ => exitEvent_served host bridge status
      exact exited.bind fun _ _ visit => visit
  | readLine bridge prompt =>
      have read := leaves_visit_of_served settled fun _ => readLine_served host bridge prompt
      exact read.bind fun _ _ visit => visit
  | setCancelTarget bridge name =>
      refine Visit.of_advance (setCancelTarget_advance settled bridge ?_)
      intro counter found
      exact settled.standing_of_counter found
  | register address bridge keepAs =>
      have registered : Advance none [] host (host.register address bridge).2 :=
        register_advance settled address bridge
      exact Visit.of_advance
        (registered.trans (keepRoute_advance registered.accounts keepAs ⟨address, bridge⟩))
  | output address code argument =>
      have shown := leaves_visit_of_served settled
        fun _ => outputCallback_served host address code argument
      exact shown.bind fun _ _ visit => visit
  | input address prompt =>
      have read := leaves_visit_of_served settled fun _ => inputCallback_served host address prompt
      exact read.bind fun _ _ visit => visit
  | driver bridge options keepAs =>
      apply leaves_withTable unchanged
      exact Visit.of_advance (keepDriver_advance settled keepAs rfl)
  | start name bootstrap => exact perform_start_visit settled name bootstrap
  | step name => exact perform_step_visit settled name
  | run name steps => exact perform_run_visit settled name steps
  | serve bridge options bootstrap steps =>
      exact perform_serve_visit settled bridge options bootstrap steps

/-- A release releases its session and looks at it. -/
theorem release_progress (settled : host.Settled) (raw : Int) :
    Hosting.Leaves (perform (.release raw)) host
      fun next => next.Settled ∧ Progress (.release raw) host next := by
  unfold perform withTable Hosting.Leaves
  simp only [Hosting.leads_bind, Hosting.leads_get]
  split
  · next opened =>
      simp only [Hosting.leads_bind, Hosting.leads_modifyGet]
      cases looked : host.registry.lookup raw with
      | error error =>
          rw [release_of_refused looked]
          exact ⟨settled, progress_of_unchanged fun _ _ => released_of_refused looked⟩
      | ok id =>
          rcases Registry.lookup_eq_ok_iff.mp looked with ⟨nonnegative, same, session, found, _⟩
          have raws : raw = id := by omega
          subst raws
          rcases release_of_found looked with ⟨records, released⟩
          have said : Advance none [id] (host.marked id) ((host.marked id).say records) :=
            say_advance (accounts_of_marked settled found) records
          have reaped : Advance none [] (host.marked id) (((host.marked id).say records).reap id) :=
            said.trans (reap_advance said.accounts)
          rw [released]
          exact ⟨reaped.accounts, progress_of_marked opened reaped⟩
  · next closed =>
      refine ⟨settled, progress_of_unchanged ?_⟩
      intro id session _ releases
      exact absurd releases.2 closed

/-! ## Runs -/

theorem perform_progress (settled : host.Settled) (operation : Operation) :
    (host.after operation).Settled ∧ Progress operation host (host.after operation) := by
  by_cases releasing : ∃ raw, operation = .release raw
  · rcases releasing with ⟨raw, rfl⟩
    exact after_of_leaves (release_progress settled raw)
  · have keeps : ∀ raw, operation ≠ .release raw := not_exists.mp releasing
    have visit := after_of_leaves (perform_visit settled operation keeps)
    exact ⟨visit.advance.accounts, visit.progress fun id releases => keeps id releases.1⟩

/-- The accounts are settled wherever a run may stop. -/
theorem settled_afterAll (settled : host.Settled) (operations : List Operation) :
    (host.afterAll operations).Settled :=
  afterAll_of_preserved Settled (fun _ operation settled => (perform_progress settled operation).1)
    settled operations

/-- After any run, a session is torn down if and only if it was released and
nothing holds it.  The engine was asked once for each session that is torn down
and for no other.  Whatever operation comes next makes progress from there: only
a release releases, nothing that was torn down comes back, and no call goes
through a session that has been torn down. -/
theorem teardown_exactly_once {first : Host σ} (starts : first.Starts)
    (operations : List Operation) :
    (∀ (id : SessionId) (session : Session),
      (first.afterAll operations).registry.sessions[id]? = some session →
        (session.freed = true ↔
          session.released = true ∧ (first.afterAll operations).holders id = 0)) ∧
      (∀ handle, (first.afterAll operations).journal.count (.freed handle) =
        (first.afterAll operations).registry.tornDown handle) ∧
      ∀ operation, Progress operation (first.afterAll operations)
        ((first.afterAll operations).after operation) := by
  have settled : (first.afterAll operations).Settled := settled_afterAll starts.settled operations
  refine ⟨?_, settled.counted, fun operation => (perform_progress settled operation).2⟩
  intro id session found
  constructor
  · exact settled.safe id session found
  · rintro ⟨released, unheld⟩
    exact settled.prompt id session found released unheld (by simp)

/-- A lease keeps a released session until it is dropped, and then the engine is
asked to tear it down. -/
theorem teardown_with_last_lease :
    ∃ first : Host Recording.Recorder,
      Host.init {} Memory.machine {} [] = .ok first ∧ first.Starts ∧
        (first.afterAll [.acquire, .lookup 0 (some "lease"), .release 0]).journal.count
          (.freed 0) = 0 ∧
        (first.afterAll [.acquire, .lookup 0 (some "lease"), .release 0,
          .drop "lease"]).journal.count (.freed 0) = 1 := by
  have starts (first : Host Recording.Recorder)
      (initial : Host.init {} Memory.machine {} [] = .ok first) : first.Starts :=
    ⟨{}, Memory.machine, {}, [], first, first.undisposed, by simp, initial, rfl⟩
  refine ⟨_, rfl, starts _ rfl, ?_, ?_⟩
  · rw [(teardown_exactly_once (starts _ rfl) _).2.1]
    decide
  · rw [(teardown_exactly_once (starts _ rfl) _).2.1]
    decide

end Host

end SessionHost
