import SessionHost.Engine.Scripted
import SessionHost.Proofs.Farewell
import SessionHost.Proofs.Lockstep
import SessionHost.Proofs.Storage

namespace SessionHost

/-!
# Starts that fail

A start can fail before anything is done, for the driver or for its sentence, and it can
fail with the creation of its session.  The driver and all that the host holds are then as
they were.  The factory may have been asked in vain, and what was found out of the table on
the way stays: a lock that was found abandoned is in order, and storage that was reserved
is kept.

The second half of the matter is what comes later.  A host on which a start has failed and
one on which it was never tried are twins, so whatever happens from then on, and whenever
the start is tried again, it goes as a first one does.
-/

theorem Memory.reserve_of_le {memory : Memory} {fewer slots : Nat} (le : fewer ≤ slots)
    (reserved : memory.reserve slots = .ok ()) : memory.reserve fewer = .ok () := by
  unfold reserve at reserved ⊢
  split at reserved
  · cases reserved
  · split at reserved
    · cases reserved
    · next small here =>
        rw [if_neg (by omega), if_neg (by omega)]

namespace Registry

variable {config : RegistryConfig} {registry : Registry}

theorem contents_of_reserve {grown : Registry} (reserved : registry.reserve = .ok grown) :
    grown.contents = registry.contents := by
  unfold reserve at reserved
  split at reserved
  · cases reserved
    rfl
  · split at reserved
    · cases reserved
    · cases reserved
      rfl

/-- A creation that is being prepared sees to the lock and to storage. -/
theorem prepare_contents (registry : Registry) :
    registry.prepare.2.contents =
      { registry.contents with abandoned := registry.prepare.2.abandoned } := by
  unfold prepare
  split
  · rfl
  · cases slot : registry.reserveSlot with
    | error cause => rfl
    | ok grown =>
        have kept := contents_of_reserve (reserve_of_reserveSlot slot).2
        dsimp only
        rw [← kept]
        rfl

theorem roomy_of_chunked (chunked : registry.Chunked config) {memory : Memory}
    (reserved : memory.reserve registry.capacity = .ok ()) : { registry with memory }.Roomy where
  chunk := by
    rw [chunked.chunk]
    exact Nat.le_max_right _ _
  reserved := reserved
  capacity := by
    rw [chunked.capacity, chunked.chunk]
  filled := by
    rw [chunked.chunk]
    exact chunked.filled
  fits := chunked.fits

end Registry

namespace Host

variable {σ : Type} [Engine σ] {first host after : Host σ} {driver later : Driver}
  {bootstrap : Bootstrap} {error : DriverError}

/-! ## What a refusal leaves behind -/

/-- All that a refused start may have changed: the lock and the storage of the table, and
the diagnostics.  If the factory was asked, then once and in vain. -/
structure Unmoved (before after : Host σ) : Prop where
  rest : after =
    { before with
      engine := after.engine
      registry := after.registry
      journal := after.journal
      log := after.log }
  contents : after.registry.contents =
    { before.registry.contents with abandoned := after.registry.abandoned }
  asked : after.engine = before.engine ∧ after.journal = before.journal ∨
    after.engine = (Engine.create before.engine before.cells.size).2 ∧
      after.journal = .created none :: before.journal

theorem Unmoved.refl (host : Host σ) : Unmoved host host where
  rest := rfl
  contents := rfl
  asked := .inl ⟨rfl, rfl⟩

theorem Unmoved.sessions (unmoved : Unmoved host after) :
    after.registry.sessions = host.registry.sessions :=
  congrArg Registry.Contents.sessions unmoved.contents

theorem unmoved_of_refused {cause : RegistryError}
    (refused : acquire host = .ok (.error cause) after) : Unmoved host after := by
  have contents := Registry.prepare_contents host.registry
  cases prepared : host.registry.prepare.1 with
  | error reason =>
      rcases acquire_of_refused prepared with ⟨records, outcome⟩
      rw [outcome] at refused
      cases refused
      exact ⟨rfl, contents, .inl ⟨rfl, rfl⟩⟩
  | ok ready =>
      rcases acquire_of_ready prepared with ⟨records, outcome⟩
      rw [outcome] at refused
      cases created : (Engine.create host.engine host.cells.size).1 with
      | nothing =>
          rw [created] at refused
          cases refused
          exact ⟨rfl, contents, .inr ⟨rfl, rfl⟩⟩
      | fresh cell =>
          rw [created] at refused
          cases refused
      | again handle =>
          rw [created] at refused
          cases refused
      | unwound =>
          rw [created] at refused
          cases refused

/-- A session that was just created is in the table. -/
theorem found_of_acquired {id : SessionId} (acquired : acquire host = .ok (.ok id) after) :
    ∃ session, after.registry.sessions[id]? = some session := by
  rcases acquire_of_ok acquired with ⟨rfl, handle, entered⟩
  have handles : after.handles = host.handles ++ [handle] := congrArg Rigging.handles entered
  have last : after.handles[host.registry.size]? = some handle := by
    rw [handles, ← length_handles]
    exact List.getElem?_concat_length ..
  rw [getElem?_handles] at last
  rcases Option.map_eq_some_iff.mp last with ⟨session, found, _⟩
  exact ⟨session, found⟩

/-- A start that comes back has refused for the driver, for the sentence or for the table,
in this order, or its session was created. -/
theorem start_cases {answer : Except DriverError SessionId}
    (started : start driver bootstrap host = .ok (answer, later) after) :
    if driver.active.isSome then
      answer = .error .alreadyStarted ∧ later = driver ∧ after = host
    else if (Bytes.ofString bootstrap.sentence).hasNul then
      answer = .error .interiorNul ∧ later = driver ∧ after = host
    else
      (∃ cause, answer = .error (.registry cause) ∧ later = driver ∧
          acquire host = .ok (.error cause) after) ∨
        ∃ id created, answer = .ok id ∧ later.active.isSome ∧
          acquire host = .ok (.ok id) created := by
  unfold start at started
  split at started
  · next active =>
      cases started
      rw [if_pos active]
      exact ⟨rfl, rfl, rfl⟩
  · next idle =>
      rw [if_neg idle]
      dsimp only at started
      split at started
      · next torn =>
          cases started
          rw [if_pos torn]
          exact ⟨rfl, rfl, rfl⟩
      · next whole =>
          rw [if_neg whole]
          rcases Hosting.bind_eq_ok started with ⟨created, next, acquired, started⟩
          cases created with
          | error cause =>
              cases started
              exact .inl ⟨cause, rfl, rfl, acquired⟩
          | ok id =>
              -- from here on nothing is refused, for the session is there
              rcases found_of_acquired acquired with ⟨session, found⟩
              dsimp only at started
              rw [Hosting.get_bind, found] at started
              rcases Hosting.bind_eq_ok started with ⟨active, wired, _, started⟩
              rw [Hosting.modify_bind] at started
              rcases Hosting.bind_eq_ok started with ⟨code, executed, _, started⟩
              rw [Hosting.modify_bind] at started
              cases started
              exact .inr ⟨id, next, rfl, rfl, acquired⟩

/-- A start that fails gives its driver back, and what it has left is all that happened. -/
theorem start_of_error
    (failed : start driver bootstrap host = .ok (.error error, later) after) :
    later = driver ∧ Unmoved host after ∧
      (driver.active.isSome ∨ (Bytes.ofString bootstrap.sentence).hasNul → after = host) := by
  have refusal := start_cases failed
  split at refusal
  · rcases refusal with ⟨_, rfl, rfl⟩
    exact ⟨rfl, Unmoved.refl after, fun _ => rfl⟩
  · next idle =>
      split at refusal
      · rcases refusal with ⟨_, rfl, rfl⟩
        exact ⟨rfl, Unmoved.refl after, fun _ => rfl⟩
      · next whole =>
          rcases refusal with ⟨cause, _, rfl, refused⟩ | ⟨id, created, answered, _⟩
          · exact ⟨rfl, unmoved_of_refused refused,
              fun either => (either.elim idle whole).elim⟩
          · cases answered

/-! ## Trying again -/

omit [Engine σ] in
/-- The host as it would be if a start that failed had not been tried: as before, but for
what is not the host's own, which is the engine, and for the lock that was found
abandoned. -/
def untried (host after : Host σ) : Host σ :=
  { host with
    engine := after.engine
    registry := { host.registry with abandoned := after.registry.abandoned } }

/-- A host on which a start failed and one on which it was not tried are twins, whatever
memory there is for the table as it stands. -/
theorem twins_of_unmoved {config : RegistryConfig} (chunked : host.registry.Chunked config)
    (chunkedAfter : after.registry.Chunked config)
    (grows : host.registry.growths ≤ after.registry.growths) (unmoved : Unmoved host after)
    {memory : Memory} (reserved : memory.reserve after.registry.capacity = .ok ()) :
    Twins host.journal after.journal ((host.untried after).onMachine memory)
      (after.onMachine memory) := by
  have fewer : host.registry.capacity ≤ after.registry.capacity := by
    rw [chunked.capacity, chunkedAfter.capacity]
    exact Nat.mul_le_mul_left _ (Nat.succ_le_succ grows)
  have roomy : ((host.untried after).onMachine memory).registry.Roomy :=
    Registry.roomy_of_chunked (chunked.abandon after.registry.abandoned)
      (Memory.reserve_of_le fewer reserved)
  have contents := congrArg (fun contents : Registry.Contents => { contents with memory })
    unmoved.contents
  have same {α : Type} (field : Host σ → α) : field after = field _ :=
    congrArg field unmoved.rest
  exact {
    engine := rfl
    cells := same Host.cells
    contents := contents
    opened := same Host.opened
    bridges := same Host.bridges
    routing := same Host.routing
    target := same Host.target
    pinned := same Host.pinned
    handler := same Host.handler
    undisposed := same Host.undisposed
    leases := same Host.leases
    counters := same Host.counters
    guards := same Host.guards
    routes := same Host.routes
    drivers := same Host.drivers
    journal := ⟨[], rfl, rfl⟩
    roomy := roomy
    roomyTwin := Registry.roomy_of_chunked chunkedAfter reserved }

theorem chunked_of_run (starts : first.Starts) (moves : List (Memory × Operation))
    (memory : Memory) :
    ∃ config, ((first.afterAllOn moves).onMachine memory).registry.Chunked config := by
  rcases starts with ⟨engine, start, config, bridges, created, undisposed, _, opened, rfl⟩
  refine ⟨config, ?_⟩
  have initial : created.registry.Chunked config := by
    unfold Host.init at opened
    split at opened
    · cases opened
    · next registry initial =>
        cases opened
        exact Registry.init_chunked initial
  have chunked := (afterAllOn_storing moves { created with undisposed } initial).1
  exact (onMachine_storing _ memory chunked).1

/-- A start that fails changes nothing that the host holds: it gives out no id, every
lookup answers as it did, and routes, interrupts, bridges and the driver are as they were.
The engine is called in nothing, and its factory is asked once at most, and not at all
where the driver was started or the sentence holds a NUL.

A driver that was not started then is one that never was.  Whatever is done from then on,
and whatever memory there is as long as the table has its place in it, a later start goes
as it would if the one that failed had not been tried.  It comes back with the same or
halts for the same reason, it adds the same to the journal, and it leaves the same behind;
and once its session is created it is not refused. -/
theorem failed_start (starts : first.Starts) (moves : List (Memory × Operation))
    {memory : Memory} (here : host = (first.afterAllOn moves).onMachine memory)
    (failed : start driver bootstrap host = .ok (.error error, later) after) :
    later = driver ∧ after.stateOf later = host.stateOf driver ∧ Unmoved host after ∧
      after.registry.size = host.registry.size ∧
      (∀ raw, after.registry.lookup raw = host.registry.lookup raw) ∧
      (driver.active.isSome ∨ (Bytes.ofString bootstrap.sentence).hasNul → after = host) ∧
      (driver.active = none → ∀ memory, memory.reserve after.registry.capacity = .ok () →
        ∀ operations again,
          Hosting.Alike (Twins host.journal after.journal)
              (start { bridge := driver.bridge, options := driver.options } again
                (((host.untried after).onMachine memory).afterAll operations))
              (start later again ((after.onMachine memory).afterAll operations)) ∧
            ∀ id created answer next last, (Bytes.ofString again.sentence).hasNul = false →
              acquire ((after.onMachine memory).afterAll operations) = .ok (.ok id) created →
              start later again ((after.onMachine memory).afterAll operations) =
                .ok (answer, next) last →
              answer = .ok id ∧ next.active.isSome) := by
  rcases chunked_of_run starts moves memory with ⟨config, chunked⟩
  rw [← here] at chunked
  rcases start_of_error failed with ⟨rfl, unmoved, unasked⟩
  have bridges : after.bridges = host.bridges := by
    rw [unmoved.rest]
  have stored : Storing config host after :=
    (storing_frame.start_related later bootstrap host).of_ok failed
  refine ⟨rfl, ?_, unmoved, congrArg Array.size unmoved.sessions,
    Registry.lookup_of_sessions unmoved.sessions, unasked, ?_⟩
  · rw [stateOf, stateOf, exitStatus?, exitStatus?, bridges]
  · intro idle memory reserved operations again
    have fresh : later = { bridge := later.bridge, options := later.options } := by
      rw [← idle]
    have twins := twins_of_unmoved chunked (stored chunked).1 (stored chunked).2 unmoved reserved
    rw [← fresh]
    refine ⟨start_twins later again (afterAll_twins operations twins), ?_⟩
    intro id created answer next last whole acquired started
    have course := start_cases started
    rw [idle, whole, if_neg (by simp), if_neg (by simp), acquired] at course
    rcases course with ⟨cause, _, _, refused⟩ | ⟨other, _, answered, active, same⟩
    · cases refused
    · cases same
      exact ⟨answered, active⟩

/-- A driver on the first bridge that was not started. -/
def idle : Driver :=
  { bridge := 0, options := { prompt := [62] } }

/-- What comes of the start of an idle driver in a full table where the factory gives
nothing, and of another one after a signal. -/
theorem start_twice :
    ∃ first : Host Scripted.Library,
      Host.init (.ofScript { creations := [.withCell 0, .nothing] }) Memory.machine
          { chunkSize := 1 } [Bridge.onStreams { script := [] } {} false {} .ignore] =
            .ok first ∧
        (match start idle ⟨.noProfile, [], ""⟩
            ((first.afterAllOn [(Memory.machine, .acquire)]).onMachine Memory.machine) with
          | .ok (.error error, _) after =>
            error == .registry (.allocationFailure .noInstance) && after.registry.capacity == 2 &&
              (match start idle ⟨.noProfile, [], ""⟩
                  ((after.onMachine Memory.machine).afterAll [.raise]) with
                | .ok (.ok id, _) _ => id == 1
                | _ => false)
          | _ => false) = true :=
  ⟨_, rfl, by decide +kernel⟩

/-- The start fails for the factory, though the table has grown, and the next one goes as if
it were the first. -/
theorem failed_start_before_another :
    ∃ (first host after : Host Scripted.Library) (later : Driver), first.Starts ∧
      host = (first.afterAllOn [(Memory.machine, .acquire)]).onMachine Memory.machine ∧
      start idle ⟨.noProfile, [], ""⟩ host =
        .ok (.error (.registry (.allocationFailure .noInstance)), later) after ∧
      after.registry.capacity = 2 ∧ later = idle ∧ Unmoved host after ∧
      (match start later ⟨.noProfile, [], ""⟩
          ((after.onMachine Memory.machine).afterAll [.raise]) with
        | .ok (.ok id, _) _ => id == 1
        | _ => false) = true ∧
      Hosting.Alike (Twins host.journal after.journal)
        (start idle ⟨.noProfile, [], ""⟩
          (((host.untried after).onMachine Memory.machine).afterAll [.raise]))
        (start later ⟨.noProfile, [], ""⟩
          ((after.onMachine Memory.machine).afterAll [.raise])) := by
  rcases start_twice with ⟨first, initial, outcome⟩
  have starts : first.Starts :=
    ⟨_, Memory.machine, _, _, first, first.undisposed, by decide, initial, rfl⟩
  split at outcome
  · next error later after failed =>
      simp only [Bool.and_eq_true, beq_iff_eq] at outcome
      rcases outcome with ⟨⟨rfl, grown⟩, again⟩
      rcases failed_start starts [(Memory.machine, .acquire)] rfl failed with
        ⟨rfl, _, unmoved, _, _, _, retried⟩
      have room : Memory.machine.reserve after.registry.capacity = .ok () := by
        rw [grown]
        rfl
      exact ⟨first, _, after, idle, starts, rfl, failed, grown, rfl, unmoved, again,
        (retried rfl Memory.machine room [.raise] ⟨.noProfile, [], ""⟩).1⟩
  · cases outcome

end Host

end SessionHost
