import SessionHost.Proofs.Advance

namespace SessionHost

/-!
# Giving and taking references

References are given out when something is kept under a name, when a counter is
bound to a bridge, when a counter is armed, and when a driver starts.  They are
taken back when a name is dropped or displaced, when a bridge is bound to
something else, and when a driver is let go.  In each case the references that
were lost are looked at right afterwards, so the accounts are settled again.

A reference is only ever given to a session that stands.
-/

namespace Host

/-- Replacing one element of a list exchanges what it stands for. -/
theorem count_filterMap_set {α β : Type} [BEq β] (view : α → Option β) (wanted : β)
    {entries : List α} {position : Nat} {old : α} (found : entries[position]? = some old)
    (new : α) :
    ((entries.set position new).filterMap view).count wanted + (view old).toList.count wanted =
      (entries.filterMap view).count wanted + (view new).toList.count wanted := by
  have split (entry : α) (rest : List α) :
      (List.filterMap view (entry :: rest)).count wanted =
        (view entry).toList.count wanted + (rest.filterMap view).count wanted := by
    rw [List.filterMap_cons]
    cases view entry with
    | none => simp
    | some value => simp [List.count_cons, Nat.add_comm]
  induction entries generalizing position with
  | nil => cases found
  | cons entry rest inductionHypothesis =>
      cases position with
      | zero =>
          simp only [List.getElem?_cons_zero, Option.some.injEq] at found
          subst entry
          rw [List.set_cons_zero, split, split]
          omega
      | succ position =>
          have there : rest[position]? = some old := by simpa using found
          have later := inductionHypothesis there
          rw [List.set_cons_succ, split, split]
          omega

variable {σ : Type} {reached : Option SessionId} {owed : List SessionId} {host : Host σ}

/-- Arming pins a counter. -/
theorem arm_advance (accounts : AccountsBut owed host) {counter : Counter}
    (stands : host.Standing counter.session) : Advance reached owed host (host.arm counter) := by
  refine Advance.exchange accounts [counter.session] [] rfl rfl accounts.named ?_ (by simpa using stands)
  intro id
  have pinned : (host.arm counter).pinned = host.pinned ++ [counter] := rfl
  rw [holders_eq, holders_eq, pinned, List.map_append, List.count_append, List.map_singleton]
  simp only [arm, List.count_nil]
  omega

theorem disarm_advance (accounts : AccountsBut owed host) (counter : Counter) :
    Advance reached owed host (host.disarm counter) := by
  unfold disarm
  split
  · exact Advance.of_references accounts rfl rfl rfl accounts.named
  · exact Advance.refl accounts

theorem register_advance (accounts : AccountsBut owed host) (address : Address)
    (bridge : BridgeId) : Advance reached owed host (host.register address bridge).2 :=
  Advance.of_references accounts rfl rfl rfl accounts.named

theorem unregister_advance (accounts : AccountsBut owed host) (route : Route) :
    Advance reached owed host (host.unregister route) := by
  unfold unregister
  split
  · exact Advance.of_references accounts rfl rfl rfl accounts.named
  · exact Advance.refl accounts

theorem install_advance (accounts : AccountsBut owed host) :
    Advance reached owed host host.install :=
  Advance.of_references accounts rfl rfl rfl accounts.named

theorem uninstall_advance (accounts : AccountsBut owed host) :
    Advance reached owed host host.uninstall :=
  Advance.of_references accounts rfl rfl rfl accounts.named

theorem takeInterrupts_advance (accounts : AccountsBut owed host) {counter : Counter}
    (stands : host.Standing counter.session) :
    Advance reached owed host (host.takeInterrupts counter) := by
  have installed : Advance reached owed host host.install := install_advance accounts
  exact installed.trans (arm_advance installed.accounts stands)

theorem keepRoute_advance (accounts : AccountsBut owed host) (name : String) (route : Route) :
    Advance reached owed host (host.keepRoute name route) := by
  have bound : Advance reached owed host
      { host with routes := host.routes.bind name route } :=
    Advance.of_references accounts rfl rfl rfl accounts.named
  unfold keepRoute
  cases host.routes.find? name with
  | none => exact bound
  | some displaced => exact bound.trans (unregister_advance bound.accounts displaced)

theorem dropRoute?_advance {after : Host σ} {name : String} (accounts : AccountsBut owed host)
    (dropped : host.dropRoute? name = some after) : Advance reached owed host after := by
  rcases Option.map_eq_some_iff.mp dropped with ⟨route, found, rfl⟩
  have removed : Advance reached owed host { host with routes := host.routes.remove name } :=
    Advance.of_references accounts rfl rfl rfl accounts.named
  exact removed.trans (unregister_advance removed.accounts route)

/-- The references of a driver that is bound to a name come in, and those of the
driver that had the name go out. -/
theorem bindDriver_advance (accounts : AccountsBut owed host) (name : String) (driver : Driver)
    (stands : ∀ id ∈ driver.references, host.Standing id) :
    Advance reached ((host.drivers.find? name).toList.flatMap (·.references) ++ owed) host
      { host with drivers := host.drivers.bind name driver } := by
  refine Advance.exchange accounts driver.references _ rfl rfl
    ⟨accounts.named.leases, accounts.named.counters, accounts.named.guards,
      Bindings.distinct_bind accounts.named.drivers name driver⟩ ?_ stands
  intro id
  have removed := ((Bindings.held_perm_remove accounts.named.drivers name).flatMap_right
    (·.references)).count_eq id
  rw [List.flatMap_append, List.count_append] at removed
  rw [holders_eq, holders_eq]
  simp only [Bindings.held_bind, List.flatMap_append, List.flatMap_singleton, List.count_append]
  omega

/-- A driver that is put back under its name with what it gained loses nothing
by that. -/
theorem replaceDriver_advance (settled : host.Settled) {name : String} {old new : Driver}
    (found : host.drivers.find? name = some old)
    (stands : ∀ id ∈ new.references, host.Standing id)
    (kept : ∀ id ∈ old.references, id ∈ new.references) :
    Advance reached [] host (host.replaceDriver name new) := by
  have bound : Advance reached (old.references ++ []) host (host.replaceDriver name new) := by
    have exchanged : Advance reached ((host.drivers.find? name).toList.flatMap (·.references) ++ [])
        host (host.replaceDriver name new) := bindDriver_advance settled name new stands
    rw [found, Option.toList_some, List.flatMap_singleton] at exchanged
    exact exchanged
  refine { bound with accounts := { bound.accounts with prompt := ?_ } }
  intro id session here released unheld _
  apply bound.accounts.prompt id session here released unheld
  intro owed
  rw [List.append_nil] at owed
  have held : new ∈ (host.replaceDriver name new).drivers.held := by
    simp [replaceDriver, Bindings.held_bind]
  have listed : id ∈ (host.replaceDriver name new).references :=
    List.mem_append_right _ (List.mem_flatMap.mpr ⟨new, held, kept id owed⟩)
  exact List.count_eq_zero.mp unheld listed

/-- Steps that each settle the accounts settle them all together. -/
theorem foldl_advance {α : Type} (step : Host σ → α → Host σ)
    (steps : ∀ host entry, AccountsBut owed host → Advance reached owed host (step host entry))
    (entries : List α) (accounts : AccountsBut owed host) :
    Advance reached owed host (entries.foldl step host) := by
  induction entries generalizing host with
  | nil => exact Advance.refl accounts
  | cons entry rest inductionHypothesis =>
      have stepped := steps host entry accounts
      exact stepped.trans (inductionHypothesis stepped.accounts)

theorem dropEach_advance {drop? : Host σ → String → Option (Host σ)}
    (drops : ∀ {host after : Host σ} {name : String}, AccountsBut owed host →
      drop? host name = some after → Advance reached owed host after)
    (names : List String) (accounts : AccountsBut owed host) :
    Advance reached owed host (dropEach drop? names host) := by
  refine foldl_advance _ ?_ names accounts
  intro host name accounts
  cases dropped : drop? host name with
  | none => exact Advance.refl accounts
  | some after => exact drops accounts dropped

variable [Engine σ]

/-- Binding a bridge to another counter, or to none. -/
theorem setCancelTarget_advance (accounts : AccountsBut owed host) (id : BridgeId)
    {counter : Option Counter} (stands : ∀ bound ∈ counter, host.Standing bound.session) :
    Advance reached owed host (host.setCancelTarget id counter) := by
  unfold setCancelTarget
  cases found : host.bridges[id]? with
  | none => exact Advance.refl accounts
  | some bridge =>
      have bound : Advance reached ((bridge.cancel.map (·.session)).toList ++ owed) host
          (host.setBridge id { bridge with cancel := counter }) := by
        refine Advance.exchange accounts (counter.map (·.session)).toList _ rfl rfl accounts.named ?_ ?_
        · intro session
          have exchanged := count_filterMap_set
            (fun bridge : Bridge => bridge.cancel.map (·.session)) session found
            { bridge with cancel := counter }
          rw [holders_eq, holders_eq]
          simp only [setBridge] at exchanged ⊢
          omega
        · intro session listed
          rcases Option.map_eq_some_iff.mp (Option.mem_toList.mp listed) with ⟨one, isBound, rfl⟩
          exact stands one isBound
      exact bound.trans (reap?_advance bound.accounts)

/-! ## Letting go -/

theorem letGoGuard_advance {counter : Counter}
    (accounts : AccountsBut (counter.session :: owed) host) :
    Advance reached owed host (host.letGoGuard counter) := by
  have disarmed : Advance reached (counter.session :: owed) host (host.disarm counter) :=
    disarm_advance accounts counter
  exact disarmed.trans (reap_advance disarmed.accounts)

theorem dismiss_advance {driver : Driver} (accounts : AccountsBut (driver.references ++ owed) host) :
    Advance reached owed host (host.dismiss driver) := by
  unfold dismiss
  cases running : driver.active with
  | none =>
      have nothing : driver.references = [] := by simp [Driver.references, running]
      rw [nothing] at accounts
      exact Advance.refl accounts
  | some active =>
      rcases active with ⟨session, route, interrupt⟩
      cases interrupt with
      | none =>
          have lease : driver.references = [session] := by simp [Driver.references, running]
          rw [lease] at accounts
          have reaped : Advance reached owed host (host.reap session) := reap_advance accounts
          exact reaped.trans (unregister_advance reaped.accounts route)
      | some counter =>
          have both : driver.references = [session, counter.session] := by
            simp [Driver.references, running]
          rw [both] at accounts
          have removed : Advance reached (session :: counter.session :: owed) host host.uninstall :=
            uninstall_advance accounts
          have reaped : Advance reached (counter.session :: owed) host (host.uninstall.reap session) :=
            removed.trans (reap_advance removed.accounts)
          have routed : Advance reached (counter.session :: owed) host
              ((host.uninstall.reap session).unregister route) :=
            reaped.trans (unregister_advance reaped.accounts route)
          exact routed.trans (letGoGuard_advance routed.accounts)

/-! ## Binding names -/

theorem keepLease_advance (accounts : AccountsBut owed host) (name : String) {session : SessionId}
    (stands : host.Standing session) :
    Advance reached owed host (host.keepLease name session) := by
  have bound : Advance reached ((host.leases.find? name).toList ++ owed) host
      { host with leases := host.leases.bind name session } := by
    refine Advance.exchange accounts [session] _ rfl rfl
      ⟨Bindings.distinct_bind accounts.named.leases name session, accounts.named.counters,
        accounts.named.guards, accounts.named.drivers⟩ ?_ (by simpa using stands)
    intro id
    have removed := (Bindings.held_perm_remove accounts.named.leases name).count_eq id
    rw [List.count_append] at removed
    rw [holders_eq, holders_eq]
    simp only [Bindings.held_bind, List.count_append]
    omega
  exact bound.trans (reap?_advance bound.accounts)

theorem keepCounter_advance (accounts : AccountsBut owed host) (name : String) {counter : Counter}
    (stands : host.Standing counter.session) :
    Advance reached owed host (host.keepCounter name counter) := by
  have bound : Advance reached (((host.counters.find? name).map (·.session)).toList ++ owed) host
      { host with counters := host.counters.bind name counter } := by
    refine Advance.exchange accounts [counter.session] _ rfl rfl
      ⟨accounts.named.leases, Bindings.distinct_bind accounts.named.counters name counter,
        accounts.named.guards, accounts.named.drivers⟩ ?_ (by simpa using stands)
    intro id
    have removed := ((Bindings.held_perm_remove accounts.named.counters name).map
      (·.session)).count_eq id
    rw [List.map_append, List.count_append, ← Option.toList_map] at removed
    rw [holders_eq, holders_eq]
    simp only [Bindings.held_bind, List.map_append, List.map_singleton, List.count_append]
    omega
  unfold keepCounter
  cases displaced : host.counters.find? name with
  | none =>
      rw [displaced] at bound
      exact bound
  | some other =>
      rw [displaced] at bound
      exact bound.trans (reap_advance bound.accounts)

theorem keepGuard_advance (accounts : AccountsBut owed host) (name : String) {counter : Counter}
    (stands : host.Standing counter.session) :
    Advance reached owed host (host.keepGuard name counter) := by
  have bound : Advance reached (((host.guards.find? name).map (·.session)).toList ++ owed) host
      { host with guards := host.guards.bind name counter } := by
    refine Advance.exchange accounts [counter.session] _ rfl rfl
      ⟨accounts.named.leases, accounts.named.counters,
        Bindings.distinct_bind accounts.named.guards name counter, accounts.named.drivers⟩ ?_
      (by simpa using stands)
    intro id
    have removed := ((Bindings.held_perm_remove accounts.named.guards name).map
      (·.session)).count_eq id
    rw [List.map_append, List.count_append, ← Option.toList_map] at removed
    rw [holders_eq, holders_eq]
    simp only [Bindings.held_bind, List.map_append, List.map_singleton, List.count_append]
    omega
  unfold keepGuard
  cases displaced : host.guards.find? name with
  | none =>
      rw [displaced] at bound
      exact bound
  | some other =>
      rw [displaced] at bound
      exact bound.trans (letGoGuard_advance bound.accounts)

/-- A new driver holds nothing yet. -/
theorem keepDriver_advance (accounts : AccountsBut owed host) (name : String) {driver : Driver}
    (idle : driver.active = none) : Advance reached owed host (host.keepDriver name driver) := by
  have nothing : driver.references = [] := by simp [Driver.references, idle]
  have bound : Advance reached ((host.drivers.find? name).toList.flatMap (·.references) ++ owed)
      host { host with drivers := host.drivers.bind name driver } :=
    bindDriver_advance accounts name driver (by simp [nothing])
  unfold keepDriver
  cases displaced : host.drivers.find? name with
  | none =>
      rw [displaced] at bound
      exact bound
  | some other =>
      rw [displaced, Option.toList_some, List.flatMap_singleton] at bound
      exact bound.trans (dismiss_advance bound.accounts)

/-! ## Dropping names -/

theorem dropLease?_advance {after : Host σ} {name : String} (accounts : AccountsBut owed host)
    (dropped : host.dropLease? name = some after) : Advance reached owed host after := by
  rcases Option.map_eq_some_iff.mp dropped with ⟨session, found, rfl⟩
  have removed : Advance reached (session :: owed) host
      { host with leases := host.leases.remove name } := by
    refine Advance.exchange accounts [] [session] rfl rfl
      ⟨Bindings.distinct_remove accounts.named.leases name, accounts.named.counters,
        accounts.named.guards, accounts.named.drivers⟩ ?_ (by simp)
    intro id
    have parts := (Bindings.held_perm_remove accounts.named.leases name).count_eq id
    rw [found, Option.toList_some, List.count_append] at parts
    rw [holders_eq, holders_eq]
    simp only [List.count_nil]
    omega
  exact removed.trans (reap_advance removed.accounts)

theorem dropCounter?_advance {after : Host σ} {name : String} (accounts : AccountsBut owed host)
    (dropped : host.dropCounter? name = some after) : Advance reached owed host after := by
  rcases Option.map_eq_some_iff.mp dropped with ⟨counter, found, rfl⟩
  have removed : Advance reached (counter.session :: owed) host
      { host with counters := host.counters.remove name } := by
    refine Advance.exchange accounts [] [counter.session] rfl rfl
      ⟨accounts.named.leases, Bindings.distinct_remove accounts.named.counters name,
        accounts.named.guards, accounts.named.drivers⟩ ?_ (by simp)
    intro id
    have parts := ((Bindings.held_perm_remove accounts.named.counters name).map
      (·.session)).count_eq id
    rw [found, Option.toList_some, List.map_append, List.map_singleton, List.count_append] at parts
    rw [holders_eq, holders_eq]
    simp only [List.count_nil]
    omega
  exact removed.trans (reap_advance removed.accounts)

theorem dropGuard?_advance {after : Host σ} {name : String} (accounts : AccountsBut owed host)
    (dropped : host.dropGuard? name = some after) : Advance reached owed host after := by
  rcases Option.map_eq_some_iff.mp dropped with ⟨counter, found, rfl⟩
  have removed : Advance reached (counter.session :: owed) host
      { host with guards := host.guards.remove name } := by
    refine Advance.exchange accounts [] [counter.session] rfl rfl
      ⟨accounts.named.leases, accounts.named.counters,
        Bindings.distinct_remove accounts.named.guards name, accounts.named.drivers⟩ ?_ (by simp)
    intro id
    have parts := ((Bindings.held_perm_remove accounts.named.guards name).map
      (·.session)).count_eq id
    rw [found, Option.toList_some, List.map_append, List.map_singleton, List.count_append] at parts
    rw [holders_eq, holders_eq]
    simp only [List.count_nil]
    omega
  exact removed.trans (letGoGuard_advance removed.accounts)

theorem dropDriver?_advance {after : Host σ} {name : String} (accounts : AccountsBut owed host)
    (dropped : host.dropDriver? name = some after) : Advance reached owed host after := by
  rcases Option.map_eq_some_iff.mp dropped with ⟨driver, found, rfl⟩
  have removed : Advance reached (driver.references ++ owed) host
      { host with drivers := host.drivers.remove name } := by
    refine Advance.exchange accounts [] _ rfl rfl
      ⟨accounts.named.leases, accounts.named.counters, accounts.named.guards,
        Bindings.distinct_remove accounts.named.drivers name⟩ ?_ (by simp)
    intro id
    have parts := ((Bindings.held_perm_remove accounts.named.drivers name).flatMap_right
      (·.references)).count_eq id
    rw [found, Option.toList_some, List.flatMap_append, List.flatMap_singleton,
      List.count_append] at parts
    rw [holders_eq, holders_eq]
    simp only [List.count_nil]
    omega
  exact removed.trans (dismiss_advance removed.accounts)

theorem dropNamed_advance (accounts : AccountsBut owed host) (name : String) :
    Advance reached owed host (host.dropNamed name).2 := by
  unfold dropNamed
  cases guarded : host.dropGuard? name with
  | some after => exact dropGuard?_advance accounts guarded
  | none =>
  cases counted : host.dropCounter? name with
  | some after => exact dropCounter?_advance accounts counted
  | none =>
  cases driven : host.dropDriver? name with
  | some after => exact dropDriver?_advance accounts driven
  | none =>
  cases routed : host.dropRoute? name with
  | some after => exact dropRoute?_advance accounts routed
  | none =>
  cases leased : host.dropLease? name with
  | some after => exact dropLease?_advance accounts leased
  | none => exact Advance.refl accounts

/-! ## Letting go of everything -/

theorem close_advance (accounts : AccountsBut owed host) : Advance reached owed host host.close := by
  unfold close
  dsimp only
  have guards : Advance reached owed host
      (dropEach dropGuard? (host.guards.map Prod.fst) host) :=
    dropEach_advance dropGuard?_advance _ accounts
  generalize dropEach dropGuard? (host.guards.map Prod.fst) host = unguarded at guards ⊢
  have counters : Advance reached owed host
      (dropEach dropCounter? (unguarded.counters.map Prod.fst) unguarded) :=
    guards.trans (dropEach_advance dropCounter?_advance _ guards.accounts)
  generalize dropEach dropCounter? (unguarded.counters.map Prod.fst) unguarded = uncounted
    at counters ⊢
  have drivers : Advance reached owed host
      (dropEach dropDriver? (uncounted.drivers.map Prod.fst) uncounted) :=
    counters.trans (dropEach_advance dropDriver?_advance _ counters.accounts)
  generalize dropEach dropDriver? (uncounted.drivers.map Prod.fst) uncounted = undriven
    at drivers ⊢
  have routes : Advance reached owed host
      (dropEach dropRoute? (undriven.routes.map Prod.fst) undriven) :=
    drivers.trans (dropEach_advance dropRoute?_advance _ drivers.accounts)
  generalize dropEach dropRoute? (undriven.routes.map Prod.fst) undriven = unrouted at routes ⊢
  have leases : Advance reached owed host
      (dropEach dropLease? (unrouted.leases.map Prod.fst) unrouted) :=
    routes.trans (dropEach_advance dropLease?_advance _ routes.accounts)
  generalize dropEach dropLease? (unrouted.leases.map Prod.fst) unrouted = unleased at leases ⊢
  have table : Advance reached owed host { unleased with opened := false } :=
    leases.trans (Advance.of_references leases.accounts rfl rfl rfl leases.accounts.named)
  refine table.trans (foldl_advance _ ?_ _ table.accounts)
  intro middle bridge settled
  exact setCancelTarget_advance settled bridge (by simp)

end Host

end SessionHost
