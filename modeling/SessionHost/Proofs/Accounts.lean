import SessionHost.Proofs.Service
import SessionHost.Proofs.Table

namespace SessionHost

/-!
# The accounts of references

A session is torn down when it has been released and nothing holds it any
more.  There is no stored count that could go wrong; what can go wrong is that
somebody lets go of a reference and nobody looks, or that a reference appears
on a session that is already gone.

Both show in the accounts.  Between two operations they are settled: exactly
the released sessions without a holder are torn down.  Within an operation some
sessions may be owed a look, because a reference to them was given up and the
look comes afterwards.  `AccountsBut owed` says that only those are open.  An
exchange of references adds to what is owed, and reaping takes from it.
-/

/-! ## Names -/

namespace Bindings

variable {α : Type}

/-- No two things have one name. -/
def Distinct (bindings : Bindings α) : Prop :=
  (bindings.map Prod.fst).Nodup

theorem distinct_remove {bindings : Bindings α} (distinct : bindings.Distinct) (name : String) :
    (bindings.remove name).Distinct :=
  distinct.sublist (List.Sublist.map _ List.filter_sublist)

theorem distinct_bind {bindings : Bindings α} (distinct : bindings.Distinct) (name : String)
    (thing : α) : (bindings.bind name thing).Distinct := by
  unfold Distinct bind
  rw [List.map_append, List.nodup_append]
  refine ⟨distinct_remove distinct name, by simp, ?_⟩
  intro other listed last isLast
  rcases List.mem_map.mp listed with ⟨entry, kept, rfl⟩
  have different := (List.mem_filter.mp kept).2
  simp only [List.map_cons, List.map_nil, List.mem_singleton] at isLast
  subst isLast
  simpa using different

theorem held_bind (bindings : Bindings α) (name : String) (thing : α) :
    (bindings.bind name thing).held = (bindings.remove name).held ++ [thing] := by
  simp [held, bind]

theorem mem_held_of_find {bindings : Bindings α} {name : String} {thing : α}
    (found : bindings.find? name = some thing) : thing ∈ bindings.held := by
  rcases List.lookup_eq_some_iff.mp found with ⟨before, after, rfl, _⟩
  simp [held]

theorem remove_of_not_mem {bindings : Bindings α} {name : String}
    (absent : name ∉ bindings.map Prod.fst) : bindings.remove name = bindings := by
  apply List.filter_eq_self.mpr
  intro entry listed
  have different : entry.1 ≠ name := by
    intro same
    exact absent (List.mem_map.mpr ⟨entry, listed, same⟩)
  simpa using different

/-- Removing a name gives back exactly the thing it stood for. -/
theorem held_perm_remove {bindings : Bindings α} (distinct : bindings.Distinct) (name : String) :
    bindings.held.Perm ((bindings.find? name).toList ++ (bindings.remove name).held) := by
  induction bindings with
  | nil => exact List.Perm.refl _
  | cons entry rest inductionHypothesis =>
      rcases entry with ⟨key, thing⟩
      rcases List.nodup_cons.mp distinct with ⟨fresh, restDistinct⟩
      by_cases same : key = name
      · subst key
        have removed : Bindings.remove ((name, thing) :: rest) name = rest := by
          unfold remove
          rw [List.filter_cons_of_neg (by simp)]
          exact remove_of_not_mem fresh
        have found : Bindings.find? ((name, thing) :: rest) name = some thing :=
          List.lookup_cons_self
        rw [removed, found]
        exact List.Perm.refl _
      · have removed : Bindings.remove ((key, thing) :: rest) name =
            (key, thing) :: Bindings.remove rest name :=
          List.filter_cons_of_pos (by simpa using same)
        have found : Bindings.find? ((key, thing) :: rest) name = Bindings.find? rest name := by
          have reversed : (name == key) = false := by simpa using Ne.symm same
          simp only [Bindings.find?, List.lookup_cons, reversed]
        rw [removed, found]
        exact ((inductionHypothesis restDistinct).cons thing).trans List.perm_middle.symm

end Bindings

/-! ## Holders -/

namespace Host

variable {σ : Type}

theorem references_of_estate {before after : Host σ} (same : after.estate = before.estate) :
    after.references = before.references := by
  have cancels (host : Host σ) :
      host.bridges.filterMap (fun bridge => bridge.cancel.map (·.session)) =
        host.estate.terms.filterMap (fun terms => terms.cancel.map (·.session)) := by
    unfold estate
    rw [List.filterMap_map]
    rfl
  have parts (host : Host σ) : host.references =
      host.estate.leases.held ++ host.estate.counters.held.map (·.session) ++
        host.estate.guards.held.map (·.session) ++ host.estate.pinned.map (·.session) ++
        host.estate.terms.filterMap (fun terms => terms.cancel.map (·.session)) ++
        host.estate.drivers.held.flatMap (·.references) := by
    rw [← cancels]
    rfl
  rw [parts, parts, same]

theorem holders_eq (host : Host σ) (id : SessionId) :
    host.holders id =
      host.leases.held.count id + (host.counters.held.map (·.session)).count id +
        (host.guards.held.map (·.session)).count id + (host.pinned.map (·.session)).count id +
        (host.bridges.filterMap (fun bridge => bridge.cancel.map (·.session))).count id +
        (host.drivers.held.flatMap (·.references)).count id := by
  unfold holders references
  simp only [List.count_append]

/-- A session of this id exists and has not been torn down. -/
def Standing (host : Host σ) (id : SessionId) : Prop :=
  ∃ session, host.registry.sessions[id]? = some session ∧ session.freed = false

/-- Everything that is kept has a name of its own among its kind. -/
structure DistinctNames (leases : Bindings SessionId) (counters guards : Bindings Counter)
    (drivers : Bindings Driver) : Prop where
  leases : leases.Distinct
  counters : counters.Distinct
  guards : guards.Distinct
  drivers : drivers.Distinct

abbrev Named (host : Host σ) : Prop :=
  DistinctNames host.leases host.counters host.guards host.drivers

theorem named_of_estate {before after : Host σ} (named : before.Named)
    (same : after.estate = before.estate) : after.Named := by
  have leases : after.leases = before.leases := congrArg Estate.leases same
  have counters : after.counters = before.counters := congrArg Estate.counters same
  have guards : after.guards = before.guards := congrArg Estate.guards same
  have drivers : after.drivers = before.drivers := congrArg Estate.drivers same
  unfold Named
  rw [leases, counters, guards, drivers]
  exact named

/-- The accounts are settled for all sessions but those that are owed a look. -/
structure AccountsBut (owed : List SessionId) (host : Host σ) : Prop where
  /-- Nothing is torn down too early. -/
  safe : ∀ id session, host.registry.sessions[id]? = some session → session.freed = true →
    session.released = true ∧ host.holders id = 0
  /-- Nothing is forgotten, apart from what is owed. -/
  prompt : ∀ id session, host.registry.sessions[id]? = some session → session.released = true →
    host.holders id = 0 → id ∉ owed → session.freed = true
  /-- A reference is to a session of the table. -/
  known : ∀ id, 0 < host.holders id → id < host.registry.sessions.size
  /-- The engine was asked once for every session that is torn down. -/
  counted : ∀ handle, host.journal.count (.freed handle) = host.registry.tornDown handle
  named : host.Named

/-- The accounts are settled. -/
abbrev Settled (host : Host σ) : Prop :=
  AccountsBut [] host

namespace AccountsBut

variable {owed : List SessionId} {before after host : Host σ}

theorem weaken (accounts : AccountsBut owed host) {more : List SessionId}
    (larger : ∀ id ∈ owed, id ∈ more) : AccountsBut more host :=
  { accounts with
    prompt := fun id session found released unheld notOwed =>
      accounts.prompt id session found released unheld fun listed => notOwed (larger id listed) }

/-- Whatever is held stands. -/
theorem standing (accounts : AccountsBut owed host) {id : SessionId} (held : 0 < host.holders id) :
    host.Standing id := by
  have bound := accounts.known id held
  refine ⟨host.registry.sessions[id], Array.getElem?_eq_getElem bound, ?_⟩
  apply Bool.eq_false_iff.mpr
  intro freed
  have unheld := (accounts.safe id _ (Array.getElem?_eq_getElem bound) freed).2
  omega

theorem standing_of_mem (accounts : AccountsBut owed host) {id : SessionId}
    (listed : id ∈ host.references) : host.Standing id :=
  accounts.standing (List.count_pos_iff.mpr listed)

theorem standing_of_lease (accounts : AccountsBut owed host) {name : String} {id : SessionId}
    (found : host.leases.find? name = some id) : host.Standing id := by
  have held := Bindings.mem_held_of_find found
  exact accounts.standing_of_mem (by simp [references, held])

theorem standing_of_counter (accounts : AccountsBut owed host) {name : String}
    {counter : Counter} (found : host.counters.find? name = some counter) :
    host.Standing counter.session := by
  have held := List.mem_map_of_mem (f := Counter.session) (Bindings.mem_held_of_find found)
  exact accounts.standing_of_mem (by simp only [references, List.mem_append, held, or_true, true_or])

theorem standing_of_driver (accounts : AccountsBut owed host) {name : String} {driver : Driver}
    (found : host.drivers.find? name = some driver) :
    ∀ id ∈ driver.references, host.Standing id := by
  intro id listed
  have held := Bindings.mem_held_of_find found
  exact accounts.standing_of_mem
    (List.mem_append_right _ (List.mem_flatMap.mpr ⟨driver, held, listed⟩))

/-- An unreleased session stands. -/
theorem standing_of_unreleased (accounts : AccountsBut owed host) {id : SessionId}
    {session : Session} (found : host.registry.sessions[id]? = some session)
    (unreleased : session.released = false) : host.Standing id := by
  refine ⟨session, found, ?_⟩
  apply Bool.eq_false_iff.mpr
  intro freed
  rw [(accounts.safe id session found freed).1] at unreleased
  cases unreleased

/-- An id that is found stands. -/
theorem standing_of_lookup (accounts : AccountsBut owed host) {raw : Int} {id : SessionId}
    (found : host.registry.lookup raw = .ok id) : host.Standing id := by
  rcases Registry.lookup_eq_ok_iff.mp found with ⟨_, _, session, here, unreleased⟩
  exact accounts.standing_of_unreleased here unreleased

/-- An exchange of references.  What was gained must stand, and what was lost is
owed a look. -/
theorem exchange (accounts : AccountsBut owed before) (gained lost : List SessionId)
    (sessions : after.registry.sessions = before.registry.sessions)
    (journal : ∀ handle,
      after.journal.count (.freed handle) = before.journal.count (.freed handle))
    (named : after.Named)
    (balance : ∀ id, after.holders id + lost.count id = before.holders id + gained.count id)
    (stands : ∀ id ∈ gained, before.Standing id) :
    AccountsBut (lost ++ owed) after where
  safe := by
    intro id session found freed
    rw [sessions] at found
    have early := accounts.safe id session found freed
    refine ⟨early.1, ?_⟩
    have notGained : gained.count id = 0 := by
      apply List.count_eq_zero.mpr
      intro listed
      rcases stands id listed with ⟨same, foundSame, standing⟩
      rw [found, Option.some.injEq] at foundSame
      subst same
      rw [standing] at freed
      cases freed
    have equation := balance id
    omega
  prompt := by
    intro id session found released unheld notOwed
    rw [sessions] at found
    rcases not_or.mp (fun either => notOwed (List.mem_append.mpr either)) with ⟨notLost, notBefore⟩
    have noLoss : lost.count id = 0 := List.count_eq_zero.mpr notLost
    have equation := balance id
    exact accounts.prompt id session found released (by omega) notBefore
  known := by
    intro id held
    rw [sessions]
    by_cases isGained : id ∈ gained
    · rcases stands id isGained with ⟨session, found, _⟩
      exact (Array.getElem?_eq_some_iff.mp found).1
    · have noGain : gained.count id = 0 := List.count_eq_zero.mpr isGained
      have equation := balance id
      exact accounts.known id (by omega)
  counted := by
    intro handle
    rw [journal, accounts.counted]
    unfold Registry.tornDown
    rw [sessions]
  named := named

/-- A change that concerns no reference. -/
theorem of_estate (accounts : AccountsBut owed before) (same : after.estate = before.estate)
    (journal : ∀ handle,
      after.journal.count (.freed handle) = before.journal.count (.freed handle)) :
    AccountsBut owed after := by
  have holders (id : SessionId) : after.holders id = before.holders id := by
    unfold Host.holders
    rw [references_of_estate same]
  have registry : after.registry = before.registry := congrArg Estate.registry same
  refine accounts.exchange [] [] (by rw [registry]) journal
    (named_of_estate accounts.named same) ?_ (by simp)
  intro id
  rw [holders]

theorem of_served {handle : Handle} (accounts : AccountsBut owed before)
    (served : Served handle before after) : AccountsBut owed after := by
  apply accounts.of_estate served.estate
  intro other
  rcases served.journal with ⟨entries, growth, uses⟩
  have none : entries.count (.freed other) = 0 := by
    apply List.count_eq_zero.mpr
    intro listed
    exact uses _ listed
  rw [growth, List.count_append, none, Nat.zero_add]

end AccountsBut

end Host

end SessionHost
