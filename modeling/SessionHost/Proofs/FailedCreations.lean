import SessionHost.Engine.Scripted
import SessionHost.Proofs.Frames

namespace SessionHost

/-!
# Creations that fail

A creation can fail before the factory is asked, at the limit or for want of
storage, and after it, when the factory gives no instance.  No session is entered
either way, so no id is given out and every lookup answers as it did.

Storage is another matter.  It is reserved before the factory is asked and it is
not given back, so a creation that fails where the sessions fill the table leaves
one more chunk behind.  That needs a view of the table that holds in every state:
its storage is a number of whole chunks, and only the last of them has room.
-/

namespace Registry

/-- A lookup sees nothing of a table but its sessions. -/
theorem lookup_of_sessions {registry other : Registry} (same : other.sessions = registry.sessions)
    (raw : Int) : other.lookup raw = registry.lookup raw := by
  unfold lookup
  rw [same]

/-- A table that refuses an allocation stays as it is. -/
theorem prepare_of_failed {registry : Registry} (roomy : registry.Roomy) {cause : AllocationCause}
    (failed : registry.prepare.1 = .error (.allocationFailure cause)) :
    registry.prepare.2 = registry ∧ cause ≠ .noInstance := by
  rw [prepare_eq roomy] at failed ⊢
  split at failed
  · cases failed
  · next standing =>
      rw [if_neg standing]
      cases reached : registry.limit? with
      | some limit =>
          simp only [reached] at failed
          cases failed
          exact ⟨rfl, fun impossible => by cases impossible⟩
      | none =>
          simp only [reached] at failed
          cases reserved : registry.memory.reserve registry.needed with
          | error refusal =>
              simp only [reserved] at failed
              cases failed
              exact ⟨rfl, Memory.reserve_ne_noInstance reserved⟩
          | ok _ =>
              simp only [reserved] at failed
              cases failed

end Registry

namespace Host

variable {σ : Type} [Engine σ] {first host after : Host σ}

/-- Storage stays in order along everything that a host does. -/
theorem roomy_frame :
    Frame fun before after : Host σ => before.registry.Roomy → after.registry.Roomy where
  refl := fun _ => id
  trans := fun earlier later => later ∘ earlier
  aside := by
    intro before after same roomy
    have table : after.registry = before.registry := congrArg Substance.registry same
    rw [table]
    exact roomy
  served := by
    intro handle before after served roomy
    have table : after.registry = before.registry := congrArg Estate.registry served.estate
    rw [table]
    exact roomy
  bound := fun _ _ roomy => roomy
  marked := fun _ id roomy => Registry.roomy_update roomy id _
  freed := fun _ id _ _ roomy => Registry.roomy_update roomy id _
  created := by
    intro host
    unfold Hosting.Leaves Hosting.Leads
    cases prepared : host.registry.prepare.1 with
    | error error =>
        rcases acquire_of_refused prepared with ⟨records, outcome⟩
        rw [outcome]
        exact Registry.roomy_prepare
    | ok ready =>
        rcases acquire_of_ready prepared with ⟨records, outcome⟩
        have entered (handle : Handle) (roomy : host.registry.Roomy) :
            (host.registry.prepare.2.enter handle).Roomy := by
          rcases Registry.prepare_of_ready roomy prepared with ⟨extended, reserved⟩
          rw [extended]
          exact Registry.roomy_enter roomy reserved handle
        rw [outcome]
        cases (Engine.create host.engine host.cells.size).1 with
        | fresh cell => exact entered _
        | again handle => exact entered handle
        | nothing => exact Registry.roomy_prepare
        | unwound => exact fun roomy => Registry.roomy_abandon (Registry.roomy_prepare roomy) true

omit [Engine σ] in
theorem roomy_of_starts (starts : first.Starts) : first.registry.Roomy := by
  rcases starts with ⟨engine, memory, config, bridges, created, undisposed, _, opened, rfl⟩
  unfold Host.init at opened
  split at opened
  · cases opened
  · next registry initial =>
      cases opened
      exact Registry.init_roomy initial

/-- A creation that fails keeps the storage that was reserved for it. -/
theorem registry_of_failed (roomy : host.registry.Roomy) {cause : AllocationCause}
    (failed : acquire host = .ok (.error (.allocationFailure cause)) after) :
    after.registry =
      if cause = .noInstance ∧ host.registry.size = host.registry.capacity
        then host.registry.grown
        else host.registry := by
  cases prepared : host.registry.prepare.1 with
  | error error =>
      rcases acquire_of_refused prepared with ⟨records, outcome⟩
      rw [outcome] at failed
      cases failed
      rcases Registry.prepare_of_failed roomy prepared with ⟨kept, silent⟩
      rw [if_neg fun both => silent both.1]
      exact kept
  | ok ready =>
      rcases acquire_of_ready prepared with ⟨records, outcome⟩
      rw [outcome] at failed
      cases created : (Engine.create host.engine host.cells.size).1 with
      | fresh cell =>
          rw [created] at failed
          cases failed
      | again handle =>
          rw [created] at failed
          cases failed
      | unwound =>
          rw [created] at failed
          cases failed
      | nothing =>
          rw [created] at failed
          cases failed
          have extended := (Registry.prepare_of_ready roomy prepared).1
          rw [roomy.extended_eq] at extended
          simp only [true_and]
          exact extended

/-- A creation that fails gives out no id and leaves every lookup as it was.  It
leaves the whole table as it was unless the factory was asked for an instance when
the table was full, and then storage has grown by one chunk. -/
theorem failed_creation (starts : first.Starts) (operations : List Operation)
    {cause : AllocationCause}
    (failed : acquire (first.afterAll operations) = .ok (.error (.allocationFailure cause)) after) :
    after.registry.size = (first.afterAll operations).registry.size ∧
      (∀ raw, after.registry.lookup raw = (first.afterAll operations).registry.lookup raw) ∧
      after.registry =
        if cause = .noInstance ∧
            (first.afterAll operations).registry.size =
              (first.afterAll operations).registry.capacity
          then (first.afterAll operations).registry.grown
          else (first.afterAll operations).registry := by
  have roomy : (first.afterAll operations).registry.Roomy :=
    roomy_frame.afterAll_related operations first (roomy_of_starts starts)
  have registry := registry_of_failed roomy failed
  have sessions : after.registry.sessions = (first.afterAll operations).registry.sessions := by
    rw [registry]
    split
    · rfl
    · rfl
  exact ⟨congrArg Array.size sessions, Registry.lookup_of_sessions sessions, registry⟩

/-- The factory gives nothing while there is room, and then nothing while there is
none. -/
theorem failed_creation_with_room :
    ∃ first : Host Scripted.Library,
      Host.init (.ofScript { creations := [.nothing, .withCell 0, .nothing] }) Memory.machine
          { chunkSize := 1 } [] = .ok first ∧
        (first.after .acquire).registry = first.registry ∧
        (first.afterAll [.acquire, .acquire, .acquire]).registry =
          (first.afterAll [.acquire, .acquire]).registry.grown := by
  have starts (first : Host Scripted.Library)
      (initial : Host.init (.ofScript { creations := [.nothing, .withCell 0, .nothing] })
        Memory.machine { chunkSize := 1 } [] = .ok first) : first.Starts :=
    ⟨_, Memory.machine, { chunkSize := 1 }, [], first, first.undisposed, by decide, initial, rfl⟩
  refine ⟨_, rfl, ?_, ?_⟩
  · exact (failed_creation (starts _ rfl) [] rfl).2.2.trans (by decide)
  · exact (failed_creation (starts _ rfl) [.acquire, .acquire] rfl).2.2.trans (by decide)

/-- The second creation fails, for the factory gives no instance, and no id is given
out; but the table has grown by a chunk. -/
theorem full_table_grows_without_session :
    ∃ first : Host Scripted.Library,
      Host.init (.ofScript { creations := [.withCell 0, .nothing] }) Memory.machine
          { chunkSize := 1 } [] = .ok first ∧
        (first.after .acquire).outcome .acquire =
          .ok (.refused (.allocationFailure .noInstance)) ∧
        (first.after .acquire).registry.capacity = 1 ∧
        (first.after .acquire).registry.growths = 0 ∧
        (first.afterAll [.acquire, .acquire]).registry.size = 1 ∧
        (first.afterAll [.acquire, .acquire]).registry.capacity = 2 ∧
        (first.afterAll [.acquire, .acquire]).registry.growths = 1 :=
  ⟨_, rfl, rfl, rfl, rfl, rfl, rfl, rfl⟩

end Host

end SessionHost
