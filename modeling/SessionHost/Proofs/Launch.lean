import SessionHost.Proofs.Exchange
import SessionHost.Proofs.Lifetime

namespace SessionHost

/-!
# Creating and driving a session

The session that a driver creates is held by nobody while it is being wired:
the driver comes to hold it only when it is put back under its name.  That is
sound because a session that was just entered is unreleased, and nothing that
happens during a start releases it.  `Launch` is an advance that in addition
leaves the named drivers alone, so that the started driver replaces exactly the
idle one it was.
-/

namespace Host

variable {σ : Type}

/-- An advance that leaves the named drivers alone. -/
structure Launch (reached : Option SessionId) (before after : Host σ) : Prop where
  advance : Advance reached [] before after
  drivers : after.drivers = before.drivers

/-- An unreleased session of an instance. -/
def Fresh (host : Host σ) (id : SessionId) (handle : Handle) : Prop :=
  ∃ session, host.registry.sessions[id]? = some session ∧ session.handle = handle ∧
    session.released = false

variable {reached : Option SessionId} {first second third host : Host σ}

theorem Launch.trans (earlier : Launch reached first second) (later : Launch reached second third) :
    Launch reached first third :=
  ⟨earlier.advance.trans later.advance, later.drivers.trans earlier.drivers⟩

theorem Fresh.stands {owed : List SessionId} {id : SessionId} {handle : Handle}
    (fresh : host.Fresh id handle) (accounts : AccountsBut owed host) : host.Standing id := by
  rcases fresh with ⟨session, found, _, unreleased⟩
  exact accounts.standing_of_unreleased found unreleased

/-- An advance releases nothing. -/
theorem Fresh.advance {owed : List SessionId} {id : SessionId} {handle : Handle}
    (fresh : first.Fresh id handle) (advance : Advance reached owed first second) :
    second.Fresh id handle := by
  rcases fresh with ⟨session, found, same, unreleased⟩
  rcases advance.sessions id session found with ⟨later, foundLater, handle', released, _⟩
  exact ⟨later, foundLater, handle'.trans same, released.trans unreleased⟩

/-! ## Entering a session -/

theorem getElem?_enterSession (host : Host σ) (handle : Handle) (id : SessionId) :
    (host.enterSession handle).2.registry.sessions[id]? =
      if id = host.registry.size then some { handle } else host.registry.sessions[id]? :=
  Array.getElem?_push

/-- Nothing is owed to a session that was just entered. -/
theorem settled_enterSession (settled : host.Settled) (handle : Handle) :
    (host.enterSession handle).2.Settled := by
  have holders (id : SessionId) :
      (host.enterSession handle).2.holders id = host.holders id := rfl
  constructor
  · intro id session found freed
    rw [getElem?_enterSession] at found
    rw [holders]
    split at found
    · cases found
      cases freed
    · exact settled.safe id session found freed
  · intro id session found released unheld
    rw [getElem?_enterSession] at found
    rw [holders] at unheld
    split at found
    · cases found
      cases released
    · exact settled.prompt id session found released unheld
  · intro id held
    rw [holders] at held
    have bound := settled.known id held
    have size : (host.enterSession handle).2.registry.sessions.size = host.registry.size + 1 :=
      Array.size_push _
    rw [size]
    exact Nat.lt_succ_of_lt bound
  · intro other
    have table : (host.enterSession handle).2.registry = host.registry.enter handle := rfl
    rw [table, Registry.tornDown_enter, ← settled.counted]
    exact List.count_cons_of_ne (by simp)
  · exact ⟨settled.named.leases, settled.named.counters, settled.named.guards,
      settled.named.drivers⟩

theorem enterSession_launch (settled : host.Settled) (handle : Handle) :
    Launch reached host (host.enterSession handle).2 ∧
      (host.enterSession handle).2.Fresh host.registry.size handle := by
  refine ⟨⟨⟨settled_enterSession settled handle, ?_, ?_, ?_⟩, rfl⟩, ?_⟩
  · intro id session found
    have old : id ≠ host.registry.size := Nat.ne_of_lt (Array.getElem?_eq_some_iff.mp found).1
    refine ⟨session, ?_, rfl, rfl, fun freed => freed⟩
    rw [getElem?_enterSession, if_neg old, found]
  · intro id session absent found
    rw [getElem?_enterSession, absent] at found
    split at found
    · cases found
      rfl
    · cases found
  · exact ⟨[.created (some handle)], rfl, by simp⟩
  · exact ⟨{ handle }, by rw [getElem?_enterSession, if_pos rfl], rfl, rfl⟩

theorem takeCreation_launch (reached : Option SessionId) (settled : host.Settled)
    (creation : Creation) :
    Hosting.Leads (takeCreation creation) host
      (fun answer next => Launch reached host next ∧
        ∀ id, answer = .ok id → id = host.registry.size ∧ ∃ handle, next.Fresh id handle)
      (fun _ next => Launch reached host next) := by
  cases creation with
  | fresh cell =>
      have larger : Launch reached host { host with cells := host.cells.push cell } :=
        ⟨Advance.of_references settled rfl rfl rfl settled.named, rfl⟩
      have entered : Launch reached _ _ ∧ _ :=
        enterSession_launch larger.advance.accounts host.cells.size
      refine ⟨larger.trans entered.1, ?_⟩
      intro id isNew
      cases isNew
      exact ⟨rfl, _, entered.2⟩
  | again handle =>
      have entered : Launch reached _ _ ∧ _ := enterSession_launch settled handle
      refine ⟨entered.1, ?_⟩
      intro id isNew
      cases isNew
      exact ⟨rfl, _, entered.2⟩
  | nothing =>
      have noted : Launch reached host (host.enter (.created none)) := by
        refine ⟨⟨settled.of_estate rfl ?_, ?_, ?_, ?_⟩, rfl⟩
        · intro handle
          exact List.count_cons_of_ne (by simp)
        · intro id session found
          exact ⟨session, found, rfl, rfl, fun freed => freed⟩
        · intro id session absent found
          cases absent.symm.trans found
        · exact ⟨[.created none], rfl, by simp⟩
      refine ⟨noted, ?_⟩
      intro id impossible
      cases impossible
  | unwound => exact ⟨Advance.of_references settled rfl rfl rfl settled.named, rfl⟩

/-- Creating a session: on success it has the next id and is unreleased. -/
theorem acquire_launch [Engine σ] (reached : Option SessionId) (settled : host.Settled) :
    Hosting.Leads acquire host
      (fun answer next => Launch reached host next ∧
        ∀ id, answer = .ok id → id = host.registry.size ∧ ∃ handle, next.Fresh id handle)
      (fun _ next => Launch reached host next) := by
  have sessions := Registry.prepare_sessions host.registry
  have size : host.registry.prepare.2.size = host.registry.size := congrArg Array.size sessions
  cases prepared : host.registry.prepare.1 with
  | error error =>
      rcases acquire_of_refused prepared with ⟨records, outcome⟩
      unfold Hosting.Leads
      rw [outcome]
      refine ⟨⟨Advance.of_references settled sessions rfl rfl settled.named, rfl⟩, ?_⟩
      intro id impossible
      cases impossible
  | ok ready =>
      rcases acquire_of_ready prepared with ⟨records, outcome⟩
      have asked : Launch reached host
          ({ host with
              registry := host.registry.prepare.2
              engine := (Engine.create host.engine host.cells.size).2 }.say records) :=
        ⟨Advance.of_references settled sessions rfl rfl settled.named, rfl⟩
      unfold Hosting.Leads
      rw [outcome]
      refine Hosting.Leads.mono
        (takeCreation_launch reached asked.advance.accounts _) ?_ ?_
      · rintro answer next ⟨launch, isNew⟩
        refine ⟨asked.trans launch, ?_⟩
        intro id same
        rw [← size]
        exact isNew id same
      · intro halt next launch
        exact asked.trans launch

/-! ## Starting a driver -/

theorem resolve_session {id : SessionId} {counter : Counter}
    (resolved : host.resolve id = some counter) : counter.session = id := by
  unfold resolve at resolved
  split at resolved
  · cases resolved
  · rcases Option.map_eq_some_iff.mp resolved with ⟨_, _, rfl⟩
    rfl

/-- A call into the session that is being launched. -/
theorem Launch.serve {id : SessionId} {handle : Handle} (launch : Launch (some id) first second)
    (fresh : first.Fresh id handle) (served : Served handle second third) :
    Launch (some id) first third := by
  rcases fresh.advance launch.advance with ⟨session, found, same, _⟩
  refine ⟨launch.advance.trans (Advance.of_served launch.advance.accounts served found same), ?_⟩
  have drivers : third.drivers = second.drivers := congrArg Estate.drivers served.estate
  exact drivers.trans launch.drivers

theorem setCancelTarget_drivers [Engine σ] (id : BridgeId) (counter : Option Counter) :
    (host.setCancelTarget id counter).drivers = host.drivers := by
  apply setCancelTarget_keeps fun next => next.drivers = host.drivers
  · intro bridge found
    rfl
  · intro next session same
    exact reap_keeps (fun reaped => reaped.drivers = host.drivers) (fun _ _ => same) same
  · rfl

variable [Engine σ]

/-- The counters that are bound and armed are those of the new session, which
stays unreleased even where binding displaces the last holder of another one. -/
theorem attach_launch (settled : host.Settled) (bridge : BridgeId) {id : SessionId}
    {handle : Handle} (fresh : host.Fresh id handle) {counter interrupt : Option Counter}
    (bound : ∀ held ∈ counter, held.session = id) (armed : ∀ held ∈ interrupt, held.session = id) :
    Launch reached host (host.attach bridge id counter interrupt) := by
  have stands (next : Host σ) (launch : Launch reached host next) : next.Standing id :=
    (fresh.advance launch.advance).stands launch.advance.accounts
  apply attach_keeps (Launch reached host)
  · intro next records launch
    exact launch.trans ⟨say_advance launch.advance.accounts records, rfl⟩
  · intro next launch
    refine launch.trans ⟨setCancelTarget_advance launch.advance.accounts bridge ?_,
      setCancelTarget_drivers bridge counter⟩
    intro held listed
    exact (bound held listed).symm ▸ stands next launch
  · intro next launch held listed
    refine launch.trans ⟨takeInterrupts_advance launch.advance.accounts ?_, rfl⟩
    exact (armed held listed).symm ▸ stands next launch
  · exact ⟨Advance.refl settled, rfl⟩

theorem wire_launch (settled : host.Settled) (driver : Driver) {id : SessionId} {handle : Handle}
    (fresh : host.Fresh id handle) :
    Hosting.Leads (wire driver id handle) host
      (fun active next => Launch (some id) host next ∧ active.session = id ∧
        ∀ counter ∈ active.interrupt, counter.session = id)
      (fun _ next => Launch (some id) host next) := by
  have routed : Launch (some id) host (host.register (.at handle) driver.bridge).2 :=
    ⟨register_advance settled (.at handle) driver.bridge, rfl⟩
  unfold wire
  simp only [Hosting.leads_bind, Hosting.leads_modifyGet]
  refine Hosting.Leads.mono (call_served _ _) ?_ fun _ _ => routed.serve fresh
  intro _ wired served
  have called : Launch (some id) host wired := routed.serve fresh served
  have bound : ∀ held ∈ wired.resolve id, held.session = id := fun _ => resolve_session
  have armed : ∀ held ∈ (if driver.options.handleInterrupts then wired.resolve id else none),
      held.session = id := by
    intro held listed
    split at listed
    · exact bound held listed
    · cases listed
  have attached : Launch (some id) _ _ :=
    attach_launch called.advance.accounts driver.bridge (fresh.advance called.advance) bound armed
  exact ⟨called.trans attached, rfl, armed⟩

/-- A start that succeeds gives the driver references to the new session, and
one that does not leaves the driver as it was. -/
theorem start_launch (settled : host.Settled) (driver : Driver) (bootstrap : Bootstrap) :
    Hosting.Leads (start driver bootstrap) host
      (fun answer next => Launch (some host.registry.size) host next ∧
        (answer.2 = driver ∨
          driver.active = none ∧ next.Standing host.registry.size ∧
            ∀ id ∈ answer.2.references, id = host.registry.size))
      (fun _ next => Launch (some host.registry.size) host next) := by
  have unchanged : Launch (some host.registry.size) host host := ⟨Advance.refl settled, rfl⟩
  unfold start
  cases running : driver.active with
  | some active =>
      simp only [Option.isSome, if_true]
      exact ⟨unchanged, Or.inl rfl⟩
  | none =>
      simp only [Option.isSome, Bool.false_eq_true, if_false]
      split
      · exact ⟨unchanged, Or.inl rfl⟩
      rw [Hosting.leads_bind]
      refine Hosting.Leads.mono (acquire_launch _ settled) ?_ fun _ _ launch => launch
      rintro answer entered ⟨created, isNew⟩
      cases answer with
      | error error => exact ⟨created, Or.inl rfl⟩
      | ok id =>
          rcases isNew id rfl with ⟨rfl, handle, fresh⟩
          rcases fresh with ⟨session, found, rfl, unreleased⟩
          have fresh : entered.Fresh host.registry.size session.handle :=
            ⟨session, found, rfl, unreleased⟩
          simp only [Hosting.leads_bind, Hosting.leads_get, found, Hosting.leads_modify,
            Hosting.leads_pure, true_and]
          refine Hosting.Leads.mono (wire_launch created.advance.accounts driver fresh) ?_
            fun _ _ launch => created.trans launch
          rintro active wired ⟨launch, leased, armed⟩
          have submitting (records : List Log.Record) :
              Launch (some host.registry.size) entered (wired.say records) :=
            launch.trans ⟨say_advance launch.advance.accounts records, rfl⟩
          refine Hosting.Leads.mono (call_served _ _) ?_ fun _ _ served =>
            created.trans ((submitting _).serve fresh served)
          intro status executed served
          have submitted := (submitting _).serve fresh served
          have said (records : List Log.Record) :
              Launch (some host.registry.size) entered (executed.say records) :=
            submitted.trans ⟨say_advance submitted.advance.accounts records, rfl⟩
          have stands : executed.Standing host.registry.size :=
            (fresh.advance submitted.advance).stands submitted.advance.accounts
          refine ⟨created.trans (said _), Or.inr ⟨stands, ?_⟩⟩
          intro id listed
          simp only [Driver.references, List.mem_cons, Option.mem_toList,
            Option.map_eq_some_iff] at listed
          rcases listed with rfl | ⟨counter, isArmed, rfl⟩
          · exact leased
          · exact armed counter isArmed

/-! ## Putting a driver back -/

theorem start_replace_advance (settled : host.Settled) {name : String} {driver : Driver}
    (found : host.drivers.find? name = some driver) (bootstrap : Bootstrap) :
    Hosting.Leads (start driver bootstrap) host
      (fun answer next =>
        Advance (some host.registry.size) [] host (next.replaceDriver name answer.2))
      (fun _ next => Advance (some host.registry.size) [] host next) := by
  refine Hosting.Leads.mono (start_launch settled driver bootstrap) ?_
    fun _ _ launch => launch.advance
  rintro ⟨started, after⟩ next ⟨launch, either⟩
  rw [← launch.drivers] at found
  refine launch.advance.trans (replaceDriver_advance launch.advance.accounts found ?_ ?_)
  · intro id listed
    rcases either with rfl | ⟨_, stands, all⟩
    · exact launch.advance.accounts.standing_of_driver found id listed
    · exact all id listed ▸ stands
  · intro id listed
    rcases either with rfl | ⟨idle, _, _⟩
    · exact listed
    · simp [Driver.references, idle] at listed

end Host

end SessionHost
