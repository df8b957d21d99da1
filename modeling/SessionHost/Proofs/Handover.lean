import SessionHost.Proofs.Custody

namespace SessionHost

/-!
# Custody through the operations

A counter that a client keeps, or that a driver arms, was made by looking at a
session of the same state, or it was in custody already.  A counter that is
dropped or displaced leaves custody, and nothing that follows from letting go of
it takes another one in.  So every operation leaves custody in order, provided
that it was in order before, also where the operation halts.
-/

namespace Host

variable {σ : Type} [Engine σ] {host : Host σ}

/-! ## Keeping under a name -/

theorem reap?_custody (host : Host σ) (id : Option SessionId) : Custody host (host.reap? id) := by
  cases id with
  | none => exact Custody.refl host
  | some id => exact reap_custody host id

theorem keepLease_custody (host : Host σ) (name : String) (session : SessionId) :
    Custody host (host.keepLease name session) := by
  have bound : Custody host { host with leases := host.leases.bind name session } :=
    Custody.of_same rfl rfl
  exact bound.trans (reap?_custody _ _)

theorem keepCounter_custody (name : String) {counter : Counter} (knows : host.Knows counter) :
    Custody host (host.keepCounter name counter) := by
  have bound : Custody host { host with counters := host.counters.bind name counter } :=
    Custody.of_taken rfl [counter]
      (heldCounters_subset (Bindings.held_bind_subset _ _ _) (List.subset_append_right _ _)
        (List.subset_append_right _ _) (List.subset_append_right _ _)
        (List.subset_append_right _ _))
      (by simpa using knows)
  unfold keepCounter
  cases host.counters.find? name with
  | none => exact bound
  | some displaced => exact bound.trans (reap_custody _ displaced.session)

theorem keepGuard_custody (name : String) {counter : Counter} (knows : host.Knows counter) :
    Custody host (host.keepGuard name counter) := by
  have bound : Custody host { host with guards := host.guards.bind name counter } :=
    Custody.of_taken rfl [counter]
      (heldCounters_subset (List.subset_append_right _ _) (Bindings.held_bind_subset _ _ _)
        (List.subset_append_right _ _) (List.subset_append_right _ _)
        (List.subset_append_right _ _))
      (by simpa using knows)
  unfold keepGuard
  cases host.guards.find? name with
  | none => exact bound
  | some displaced => exact bound.trans (letGoGuard_custody _ displaced)

omit [Engine σ] in
theorem keepRoute_custody (host : Host σ) (name : String) (route : Route) :
    Custody host (host.keepRoute name route) := by
  have bound : Custody host { host with routes := host.routes.bind name route } :=
    Custody.of_same rfl rfl
  unfold keepRoute
  cases host.routes.find? name with
  | none => exact bound
  | some displaced => exact bound.trans (unregister_custody _ displaced)

omit [Engine σ] in
theorem replaceDriver_custody (name : String) {driver : Driver}
    (knows : ∀ counter ∈ driver.armed?, host.Knows counter) :
    Custody host (host.replaceDriver name driver) := by
  have armed : (host.drivers.bind name driver).held.filterMap (·.armed?) ⊆
      driver.armed?.toList ++ host.drivers.held.filterMap (·.armed?) := by
    have bound := List.filterMap_subset Driver.armed?
      (Bindings.held_bind_subset host.drivers name driver)
    cases isArmed : driver.armed? with
    | none => simpa [isArmed] using bound
    | some counter => simpa [isArmed] using bound
  exact Custody.of_taken rfl driver.armed?.toList
    (heldCounters_subset (List.subset_append_right _ _) (List.subset_append_right _ _)
      (List.subset_append_right _ _) (List.subset_append_right _ _) armed)
    fun counter listed => knows counter (Option.mem_toList.mp listed)

/-- A new driver has armed nothing yet. -/
theorem keepDriver_custody (host : Host σ) (name : String) {driver : Driver}
    (idle : driver.active = none) : Custody host (host.keepDriver name driver) := by
  have bound : Custody host { host with drivers := host.drivers.bind name driver } :=
    replaceDriver_custody name (by simp [Driver.armed?, idle])
  unfold keepDriver
  cases host.drivers.find? name with
  | none => exact bound
  | some displaced => exact bound.trans (dismiss_custody _ displaced)

/-! ## Dropping a name -/

theorem dropLease?_custody {after : Host σ} {name : String}
    (dropped : host.dropLease? name = some after) : Custody host after := by
  rcases Option.map_eq_some_iff.mp dropped with ⟨session, found, rfl⟩
  have removed : Custody host { host with leases := host.leases.remove name } :=
    Custody.of_same rfl rfl
  exact removed.trans (reap_custody _ session)

theorem dropCounter?_custody {after : Host σ} {name : String}
    (dropped : host.dropCounter? name = some after) : Custody host after := by
  rcases Option.map_eq_some_iff.mp dropped with ⟨counter, found, rfl⟩
  have removed : Custody host { host with counters := host.counters.remove name } :=
    Custody.of_taken rfl []
      (heldCounters_subset (Bindings.held_remove_subset _ _) (List.Subset.refl _)
        (List.Subset.refl _) (List.Subset.refl _) (List.Subset.refl _))
      (by simp)
  exact removed.trans (reap_custody _ counter.session)

theorem dropGuard?_custody {after : Host σ} {name : String}
    (dropped : host.dropGuard? name = some after) : Custody host after := by
  rcases Option.map_eq_some_iff.mp dropped with ⟨counter, found, rfl⟩
  have removed : Custody host { host with guards := host.guards.remove name } :=
    Custody.of_taken rfl []
      (heldCounters_subset (List.Subset.refl _) (Bindings.held_remove_subset _ _)
        (List.Subset.refl _) (List.Subset.refl _) (List.Subset.refl _))
      (by simp)
  exact removed.trans (letGoGuard_custody _ counter)

omit [Engine σ] in
theorem dropRoute?_custody {after : Host σ} {name : String}
    (dropped : host.dropRoute? name = some after) : Custody host after := by
  rcases Option.map_eq_some_iff.mp dropped with ⟨route, found, rfl⟩
  have removed : Custody host { host with routes := host.routes.remove name } :=
    Custody.of_same rfl rfl
  exact removed.trans (unregister_custody _ route)

theorem dropDriver?_custody {after : Host σ} {name : String}
    (dropped : host.dropDriver? name = some after) : Custody host after := by
  rcases Option.map_eq_some_iff.mp dropped with ⟨driver, found, rfl⟩
  have removed : Custody host { host with drivers := host.drivers.remove name } :=
    Custody.of_taken rfl []
      (heldCounters_subset (List.Subset.refl _) (List.Subset.refl _) (List.Subset.refl _)
        (List.Subset.refl _)
        (List.filterMap_subset Driver.armed? (Bindings.held_remove_subset _ _)))
      (by simp)
  exact removed.trans (dismiss_custody _ driver)

theorem dropNamed_custody (host : Host σ) (name : String) :
    Custody host (host.dropNamed name).2 := by
  unfold dropNamed
  cases guarded : host.dropGuard? name with
  | some after => exact dropGuard?_custody guarded
  | none =>
  cases counted : host.dropCounter? name with
  | some after => exact dropCounter?_custody counted
  | none =>
  cases driven : host.dropDriver? name with
  | some after => exact dropDriver?_custody driven
  | none =>
  cases routed : host.dropRoute? name with
  | some after => exact dropRoute?_custody routed
  | none =>
  cases leased : host.dropLease? name with
  | some after => exact dropLease?_custody leased
  | none => exact Custody.refl host

omit [Engine σ] in
theorem foldl_custody {α : Type} (step : Host σ → α → Host σ)
    (steps : ∀ host entry, Custody host (step host entry)) (entries : List α) (host : Host σ) :
    Custody host (entries.foldl step host) := by
  induction entries generalizing host with
  | nil => exact Custody.refl host
  | cons entry rest inductionHypothesis =>
      exact (steps host entry).trans (inductionHypothesis (step host entry))

omit [Engine σ] in
theorem dropEach_custody {drop? : Host σ → String → Option (Host σ)}
    (drops : ∀ {host after : Host σ} {name : String}, drop? host name = some after →
      Custody host after) (names : List String) (host : Host σ) :
    Custody host (dropEach drop? names host) := by
  refine foldl_custody _ ?_ names host
  intro host name
  cases dropped : drop? host name with
  | none => exact Custody.refl host
  | some after => exact drops dropped

theorem close_custody (host : Host σ) : Custody host host.close := by
  unfold close
  dsimp only
  have guards : Custody host (dropEach dropGuard? (host.guards.map Prod.fst) host) :=
    dropEach_custody dropGuard?_custody _ host
  generalize dropEach dropGuard? (host.guards.map Prod.fst) host = unguarded at guards ⊢
  have counters : Custody host
      (dropEach dropCounter? (unguarded.counters.map Prod.fst) unguarded) :=
    guards.trans (dropEach_custody dropCounter?_custody _ unguarded)
  generalize dropEach dropCounter? (unguarded.counters.map Prod.fst) unguarded = uncounted
    at counters ⊢
  have drivers : Custody host (dropEach dropDriver? (uncounted.drivers.map Prod.fst) uncounted) :=
    counters.trans (dropEach_custody dropDriver?_custody _ uncounted)
  generalize dropEach dropDriver? (uncounted.drivers.map Prod.fst) uncounted = undriven
    at drivers ⊢
  have routes : Custody host (dropEach dropRoute? (undriven.routes.map Prod.fst) undriven) :=
    drivers.trans (dropEach_custody dropRoute?_custody _ undriven)
  generalize dropEach dropRoute? (undriven.routes.map Prod.fst) undriven = unrouted at routes ⊢
  have leases : Custody host (dropEach dropLease? (unrouted.leases.map Prod.fst) unrouted) :=
    routes.trans (dropEach_custody dropLease?_custody _ unrouted)
  generalize dropEach dropLease? (unrouted.leases.map Prod.fst) unrouted = unleased at leases ⊢
  have table : Custody unleased { unleased with opened := false } := Custody.of_same rfl rfl
  refine leases.trans (table.trans (foldl_custody _ ?_ _ _))
  intro middle bridge
  exact setCancelTarget_custody bridge (by simp)

/-! ## Creating and releasing -/

omit [Engine σ] in
theorem enterSession_custody (host : Host σ) (handle : Handle) :
    Custody host (host.enterSession handle).2 where
  sessions := by
    have table : (host.enterSession handle).2.handles = host.handles ++ [handle] := by
      unfold handles enterSession Registry.enter
      simp [enter, say]
    exact ⟨[handle], table, produced_enter _ (.created (some handle))⟩
  cells := fun _ => id
  pinned := List.prefix_rfl
  counters := fun _ => Or.inl
  target := fun _ => Or.inl

omit [Engine σ] in
theorem takeCreation_custody (creation : Creation) (host : Host σ) :
    Hosting.Leaves (takeCreation creation) host (Custody host) := by
  cases creation with
  | fresh cell =>
      have larger : Custody host { host with cells := host.cells.push cell } := by
        refine ⟨⟨[], (List.append_nil _).symm, (List.append_nil _).symm⟩, ?_, List.prefix_rfl,
          fun _ => Or.inl, fun _ => Or.inl⟩
        intro handle celled
        have bound : handle < host.cells.size := by
          apply Decidable.byContradiction
          intro outside
          rw [cell?, Array.getElem?_eq_none (Nat.le_of_not_lt outside)] at celled
          cases celled
        have kept : (host.cells.push cell)[handle]? = host.cells[handle]? :=
          Array.getElem?_push_lt bound |>.trans (Array.getElem?_eq_getElem bound).symm
        unfold cell? at celled ⊢
        rw [kept]
        exact celled
      exact larger.trans (enterSession_custody _ _)
  | again handle => exact enterSession_custody host handle
  | nothing =>
      have noted : Custody host (host.enter (.created none)) := by
        refine ⟨⟨[], (List.append_nil _).symm, ?_⟩, fun _ => id, List.prefix_rfl,
          fun _ => Or.inl, fun _ => Or.inl⟩
        exact produced_enter host (.created none)
      exact noted
  | unwound => exact Custody.of_same rfl rfl

theorem acquire_custody (host : Host σ) : Hosting.Leaves acquire host (Custody host) := by
  have prepared (engine : σ) (records : List Log.Record) :
      Custody host
        ({ host with registry := host.registry.prepare.2, engine }.say records) := by
    have sessions := Registry.prepare_sessions host.registry
    refine Custody.of_same ?_ rfl
    unfold fixtures handles say
    rw [sessions]
    rfl
  cases ready : host.registry.prepare.1 with
  | error error =>
      rcases acquire_of_refused ready with ⟨records, outcome⟩
      unfold Hosting.Leaves Hosting.Leads
      rw [outcome]
      exact prepared host.engine records
  | ok _ =>
      rcases acquire_of_ready ready with ⟨records, outcome⟩
      unfold Hosting.Leaves Hosting.Leads
      rw [outcome]
      exact (takeCreation_custody _ _).mono fun _ => (prepared _ records).trans

theorem release_custody (host : Host σ) (raw : Int) : Custody host (host.release raw).2 := by
  cases looked : host.registry.lookup raw with
  | error error =>
      rw [release_of_refused looked]
      exact Custody.refl host
  | ok id =>
      rcases release_of_found looked with ⟨records, released⟩
      have marked : Custody host ((host.marked id).say records) := by
        have handles : ((host.marked id).say records).handles = host.handles :=
          Registry.handles_marked host.registry id
        refine Custody.of_same ?_ rfl
        unfold fixtures
        rw [handles]
        rfl
      rw [released]
      exact marked.trans (reap_custody _ id)

/-! ## Starting a driver -/

/-- What is bound and armed was known before, and stays so. -/
theorem attach_custody (bridge : BridgeId) (session : SessionId)
    {counter interrupt : Option Counter}
    (bound : ∀ held ∈ counter, host.Knows held) (armed : ∀ held ∈ interrupt, host.Knows held) :
    Custody host (host.attach bridge session counter interrupt) := by
  apply attach_keeps (Custody host)
  · intro next records custody
    exact custody.trans (say_custody next records)
  · intro next custody
    exact custody.trans
      (setCancelTarget_custody bridge fun held listed => (bound held listed).mono custody)
  · intro next custody held listed
    exact custody.trans (takeInterrupts_custody ((armed held listed).mono custody))
  · exact Custody.refl host

theorem wire_custody (driver : Driver) (session : SessionId) (handle : Handle) (host : Host σ) :
    Hosting.Leads (wire driver session handle) host
      (fun active next => Custody host next ∧ ∀ counter ∈ active.interrupt, next.Knows counter)
      (fun _ next => Custody host next) := by
  have routed : Custody host (host.register (.at handle) driver.bridge).2 :=
    Custody.of_same rfl rfl
  unfold wire
  simp only [Hosting.leads_bind, Hosting.leads_modifyGet]
  refine Hosting.Leads.mono (call_custody _ _) ?_ fun _ _ => routed.trans
  intro _ wired called
  have bound : ∀ held ∈ wired.resolve session, wired.Knows held := fun _ => knows_of_resolve
  have armed : ∀ held ∈ (if driver.options.handleInterrupts then wired.resolve session else none),
      wired.Knows held := by
    intro held listed
    split at listed
    · exact bound held listed
    · cases listed
  have attached : Custody wired _ := attach_custody driver.bridge session bound armed
  refine ⟨routed.trans (called.trans attached), ?_⟩
  intro counter listed
  exact (armed counter listed).mono attached

/-- A started driver has armed a counter of the state it was started in. -/
theorem start_custody (driver : Driver) (bootstrap : Bootstrap) (host : Host σ) :
    Hosting.Leads (start driver bootstrap) host
      (fun answer next => Custody host next ∧
        (answer.2 = driver ∨ ∀ counter ∈ answer.2.armed?, next.Knows counter))
      (fun _ next => Custody host next) := by
  have unchanged : Custody host host := Custody.refl host
  unfold start
  split
  · exact ⟨unchanged, Or.inl rfl⟩
  dsimp only
  split
  · exact ⟨unchanged, Or.inl rfl⟩
  rw [Hosting.leads_bind]
  refine Hosting.Leads.mono (acquire_custody host) ?_ fun _ _ created => created
  intro answer entered created
  cases answer with
  | error error => exact ⟨created, Or.inl rfl⟩
  | ok id =>
      simp only [Hosting.leads_bind, Hosting.leads_get]
      cases found : entered.registry.sessions[id]? with
      | none => exact ⟨created, Or.inl rfl⟩
      | some session =>
          simp only [Hosting.leads_bind, Hosting.leads_modify, Hosting.leads_pure]
          refine Hosting.Leads.mono (wire_custody driver id session.handle entered) ?_
            fun _ _ wiring => created.trans wiring
          rintro active wired ⟨wiring, armed⟩
          refine Hosting.Leads.mono (call_custody _ _) ?_ fun _ _ called =>
            created.trans (wiring.trans ((say_custody wired _).trans called))
          intro status executed called
          have since (records : List Log.Record) : Custody wired (executed.say records) :=
            (say_custody wired _).trans (called.trans (say_custody executed records))
          exact ⟨created.trans (wiring.trans (since _)),
            Or.inr fun counter listed => (armed counter listed).mono (since _)⟩

/-! ## Calls and loops -/

theorem callSession_custody (id : SessionId) (request : Call) (host : Host σ) :
    Hosting.Leaves (callSession id request) host (Custody host) := by
  unfold callSession
  rw [Hosting.leaves_get_bind]
  cases host.registry.sessions[id]? with
  | none => exact Custody.refl host
  | some session => exact (Hosting.leaves_map _ _).mpr (call_custody request host)

theorem forward_custody (raw : Int) (request : Call) (host : Host σ) :
    Hosting.Leaves (forward raw request) host (Custody host) := by
  unfold forward
  rw [Hosting.leaves_get_bind]
  cases host.registry.lookup raw with
  | error error => exact Custody.refl host
  | ok id =>
      dsimp only
      split
      · apply (callSession_custody id request host).bind
        intro answer next custody
        cases answer with
        | none => exact custody
        | some result => exact custody
      · exact Custody.refl host

theorem step_custody (driver : Driver) (host : Host σ) :
    Hosting.Leaves (step driver) host (Custody host) := by
  unfold step
  cases driver.active with
  | none => exact Custody.refl host
  | some active =>
      apply (readLine_custody host _ _).bind
      intro line asked reading
      split
      · exact reading
      · have called := (callSession_custody active.session (.execute line) asked).mono
          fun _ => reading.trans
        exact called.bind fun _ _ custody => custody

/-- The induction is on the steps that may still be taken. -/
theorem run_custody (driver : Driver) (steps : Nat) (host : Host σ) :
    Hosting.Leaves (run steps driver) host (Custody host) := by
  induction steps generalizing host with
  | zero =>
      unfold run
      rw [Hosting.leaves_get_bind]
      cases host.exitStatus? driver.bridge with
      | some status => exact Custody.refl host
      | none => exact Custody.refl host
  | succ steps inductionHypothesis =>
      unfold run
      rw [Hosting.leaves_get_bind]
      cases host.exitStatus? driver.bridge with
      | some status => exact Custody.refl host
      | none =>
          apply (step_custody driver host).bind
          intro answer next stepped
          cases answer with
          | error error => exact stepped
          | ok _ => exact (inductionHypothesis next).mono fun _ => stepped.trans

theorem serve_custody (steps : Nat) (bridge : BridgeId) (options : DriverOptions)
    (bootstrap : Bootstrap) (host : Host σ) :
    Hosting.Leaves (serve steps bridge options bootstrap) host (Custody host) := by
  have ended (driver : Driver) (last : Host σ) (custody : Custody host last) :
      Custody host (last.dismiss driver).shutDown := by
    have shut : Custody (last.dismiss driver) (last.dismiss driver).shutDown :=
      Custody.of_same rfl rfl
    exact custody.trans ((dismiss_custody last driver).trans shut)
  unfold serve Hosting.Leaves
  rw [Hosting.leads_bind]
  refine Hosting.Leads.mono
    (leads_owningTable (start_custody { bridge, options } bootstrap host)
      fun _ custody => custody.trans (Custody.of_same rfl rfl)) ?_ fun _ _ custody => custody
  rintro ⟨started, driver⟩ next ⟨custody, _⟩
  cases started with
  | error error => exact ended driver next custody
  | ok id =>
      simp only [Hosting.leads_bind]
      refine Hosting.Leads.mono (run_custody driver steps next) ?_ fun _ _ => custody.trans
      intro result last ran
      exact ended driver last (custody.trans ran)

/-! ## Operations -/

/-- Custody is in order: every counter that is held anywhere fits its session. -/
def InCustody (host : Host σ) : Prop :=
  ∀ counter ∈ host.heldCounters, host.Knows counter

omit [Engine σ] in
theorem InCustody.knows_of_named (inCustody : host.InCustody) {name : String} {counter : Counter}
    (found : host.counters.find? name = some counter) : host.Knows counter := by
  apply inCustody
  simp [heldCounters, Bindings.mem_held_of_find found]

omit [Engine σ] in
theorem InCustody.knows_of_driven (inCustody : host.InCustody) {name : String} {driver : Driver}
    (found : host.drivers.find? name = some driver) :
    ∀ counter ∈ driver.armed?, host.Knows counter := by
  intro counter armed
  have held := Bindings.mem_held_of_find found
  exact inCustody counter (List.mem_append_right _ (List.mem_filterMap.mpr ⟨driver, held, armed⟩))

omit [Engine σ] in
theorem InCustody.after {next : Host σ} (inCustody : host.InCustody) (custody : Custody host next) :
    next.InCustody := by
  intro counter held
  rcases custody.counters counter held with held | knows
  · exact (inCustody counter held).mono custody
  · exact knows

theorem perform_lookup_custody (raw : Int) (keepAs : Option String) (host : Host σ) :
    Hosting.Leaves (perform (.lookup raw keepAs)) host (Custody host) := by
  apply leaves_withTable (Custody.refl host)
  rw [Hosting.leaves_get_bind]
  cases host.registry.lookup raw with
  | error error => exact Custody.refl host
  | ok session =>
      cases keepAs with
      | none => exact Custody.refl host
      | some name => exact keepLease_custody host name session

theorem perform_resolve_custody (lease keepAs : String) (host : Host σ) :
    Hosting.Leaves (perform (.resolve lease keepAs)) host (Custody host) := by
  apply leaves_withLease (Custody.refl host)
  intro session found
  rw [Hosting.leaves_get_bind]
  cases resolved : host.resolve session with
  | none => exact Custody.refl host
  | some counter => exact keepCounter_custody keepAs (knows_of_resolve resolved)

theorem perform_start_custody (inCustody : host.InCustody) (name : String)
    (bootstrap : Bootstrap) :
    Hosting.Leaves (perform (.start name bootstrap)) host (Custody host) := by
  apply leaves_withDriver (Custody.refl host)
  intro driver found
  unfold Hosting.Leaves
  simp only [Hosting.leads_bind, Hosting.leads_modify]
  refine Hosting.Leads.mono (start_custody driver bootstrap host) ?_ fun _ _ custody => custody
  rintro ⟨started, driver'⟩ next ⟨custody, either⟩
  have knows : ∀ counter ∈ driver'.armed?, next.Knows counter := by
    rcases either with rfl | knows
    · exact fun counter armed => (inCustody.knows_of_driven found counter armed).mono custody
    · exact knows
  have replaced : Custody host (next.replaceDriver name driver') :=
    custody.trans (replaceDriver_custody name knows)
  cases started with
  | ok id => exact replaced
  | error error => exact replaced

/-- Every operation, wherever it stops, is a stretch of custody. -/
theorem perform_custody (inCustody : host.InCustody) (operation : Operation) :
    Hosting.Leaves (perform operation) host (Custody host) := by
  have unchanged : Custody host host := Custody.refl host
  cases operation with
  | acquire =>
      apply leaves_withTable unchanged
      apply (acquire_custody host).bind
      intro answer next custody
      cases answer with
      | ok id => exact custody
      | error error => exact custody
  | lookup raw keepAs => exact perform_lookup_custody raw keepAs host
  | release raw =>
      apply leaves_withTable unchanged
      rw [Hosting.leaves_modifyGet_bind]
      cases (host.release raw).1 with
      | ok id => exact release_custody host raw
      | error error => exact release_custody host raw
  | incrementBreak raw =>
      apply leaves_withTable unchanged
      have bumped : Custody host (host.incrementBreak raw).2 :=
        custody_of_quiet (fun _ => incrementBreak_served host raw)
          (incrementBreak_celled host raw)
      rw [Hosting.leaves_modifyGet_bind]
      cases (host.incrementBreak raw).1 with
      | ok value => exact bumped
      | error error => exact bumped
  | forward raw call =>
      apply leaves_withTable unchanged
      apply (forward_custody raw call host).bind
      intro answer next custody
      cases answer with
      | ok value => exact custody
      | error error => exact custody
  | through lease call =>
      apply leaves_withLease unchanged
      intro session _
      split
      · apply (callSession_custody session call host).bind
        intro answer next custody
        cases answer with
        | none => exact custody
        | some value => exact custody
      · exact unchanged
  | shutDown =>
      apply leaves_withTable unchanged
      rw [Hosting.leaves_get_bind]
      split
      · exact unchanged
      · exact Custody.of_same rfl rfl
  | dropTable =>
      apply leaves_withTable unchanged
      rw [Hosting.leaves_get_bind]
      split
      · exact unchanged
      · exact Custody.of_same rfl rfl
  | dropBridge bridge =>
      unfold perform
      rw [Hosting.leaves_get_bind]
      split
      · exact unchanged
      · exact setCancelTarget_custody bridge (by simp)
  | close => exact close_custody host
  | drop name => exact dropNamed_custody host name
  | resolve lease keepAs => exact perform_resolve_custody lease keepAs host
  | cloneCounter name keepAs =>
      apply leaves_withCounter unchanged
      intro counter found
      exact keepCounter_custody keepAs (inCustody.knows_of_named found)
  | cancel name times =>
      apply leaves_withCounter unchanged
      intro counter _
      exact custody_of_quiet (fun _ => bumpTimes_served times host counter.handle)
        (bumpTimes_celled times host counter.handle)
  | arm name keepAs =>
      apply leaves_withCounter unchanged
      intro counter found
      have knows := inCustody.knows_of_named found
      have armed := arm_custody knows
      exact armed.trans (keepGuard_custody keepAs (knows.mono armed))
  | deliver => exact custody_of_quiet (fun _ => deliver_served host) (deliver_celled host)
  | install => exact Custody.of_same rfl rfl
  | uninstall => exact Custody.of_same rfl rfl
  | raise =>
      exact (leaves_custody (fun _ => raise_served host)
        (raise_celled host)).bind fun _ _ custody => custody
  | display bridge code payload =>
      exact custody_of_quiet (fun _ => display_served host bridge _ payload)
        (display_celled host bridge _ payload)
  | exit bridge status =>
      exact (leaves_custody (fun _ => exitEvent_served host bridge status)
        (exitEvent_celled host bridge status)).bind fun _ _ custody => custody
  | readLine bridge prompt =>
      exact (readLine_custody host bridge prompt).bind fun _ _ custody => custody
  | setCancelTarget bridge name =>
      exact setCancelTarget_custody bridge fun _ found => inCustody.knows_of_named found
  | register address bridge keepAs =>
      have registered : Custody host (host.register address bridge).2 := Custody.of_same rfl rfl
      exact registered.trans (keepRoute_custody _ keepAs ⟨address, bridge⟩)
  | output address code argument =>
      exact (leaves_custody (fun _ => outputCallback_served host address code argument)
        (outputCallback_celled host address code argument)).bind fun _ _ custody => custody
  | input address prompt =>
      exact (leaves_custody (fun _ => inputCallback_served host address prompt)
        (inputCallback_celled host address prompt)).bind fun _ _ custody => custody
  | driver bridge options keepAs =>
      apply leaves_withTable unchanged
      exact keepDriver_custody host keepAs rfl
  | start name bootstrap => exact perform_start_custody inCustody name bootstrap
  | step name =>
      apply leaves_withDriver unchanged
      intro driver _
      apply (step_custody driver host).bind
      intro answer next custody
      cases answer with
      | ok _ => exact custody
      | error error => exact custody
  | run name steps =>
      apply leaves_withDriver unchanged
      intro driver _
      apply (run_custody driver steps host).bind
      intro answer next custody
      cases answer with
      | ok status => exact custody
      | error error => exact custody
  | serve bridge options bootstrap steps =>
      apply leaves_withTable unchanged
      rw [Hosting.leaves_get_bind]
      split
      · exact unchanged
      apply (serve_custody steps bridge options bootstrap host).bind
      intro answer next custody
      cases answer with
      | ok status => exact custody
      | error error => exact custody

end Host

end SessionHost
