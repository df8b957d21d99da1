import SessionHost.Proofs.FailedCreations

namespace SessionHost

/-!
# Storage by chunks

Storage is reserved one chunk at a time, and only where the sessions fill what there is.
A machine may refuse it at one time and grant it at another, and what was reserved for a
session stays where the factory then makes none.  So what is known of storage must not
rest on the machine, nor on creations that come about: it is known of the table between
any two operations, however each of them came out and whatever memory there was for it.

The number of growths is bounded from both sides by the number of sessions.  A creation
that fails in the factory leaves room behind, and as long as no session takes it up the
bounds leave no choice: storage is what it was.
-/

namespace Registry

variable {config : RegistryConfig} {memory : Memory} {registry : Registry}

/-- What is reserved of a table, and how often that was done again. -/
structure Storage where
  capacity : Nat
  growths : Nat
deriving DecidableEq, Repr

def storage (registry : Registry) : Storage where
  capacity := registry.capacity
  growths := registry.growths

/-- A table has storage in whole chunks, of which only the last one may have room, and it
has no more sessions than it may have.  Unlike a `Roomy` table, it need not be one that
the machine would grant again. -/
structure Chunked (config : RegistryConfig) (registry : Registry) : Prop where
  chunk : registry.chunkSize = max config.chunkSize 1
  maxSessions : registry.maxSessions = config.maxSessions
  capacity : registry.capacity = max config.chunkSize 1 * (registry.growths + 1)
  filled : max config.chunkSize 1 * registry.growths ≤ registry.size
  fits : registry.size ≤ registry.capacity
  limited : ∀ limit, config.maxSessions = some limit → registry.size ≤ limit

theorem init_chunked (initial : Registry.init memory config = .ok registry) :
    registry.Chunked config := by
  unfold Registry.init at initial
  dsimp only at initial
  split at initial
  · cases initial
  · cases initial
    exact ⟨rfl, rfl, (Nat.mul_one _).symm, Nat.zero_le _, Nat.zero_le _, fun _ _ => Nat.zero_le _⟩

namespace Chunked

theorem grown (chunked : registry.Chunked config) (full : registry.size = registry.capacity) :
    registry.grown.Chunked config where
  chunk := chunked.chunk
  maxSessions := chunked.maxSessions
  capacity := by
    rw [Registry.grown, chunked.capacity, chunked.chunk]
    exact (Nat.mul_succ _ _).symm
  filled := by
    have filled : registry.capacity ≤ registry.size := Nat.le_of_eq full.symm
    rw [chunked.capacity] at filled
    exact filled
  fits := Nat.le_trans chunked.fits (Nat.le_add_right _ _)
  limited := chunked.limited

/-- There is room for one session more, and it may be made. -/
theorem enter (chunked : registry.Chunked config) (room : registry.size < registry.capacity)
    (below : registry.limit? = none) (handle : Handle) :
    (registry.enter handle).Chunked config := by
  have size : (registry.enter handle).size = registry.size + 1 := Array.size_push _
  refine ⟨chunked.chunk, chunked.maxSessions, chunked.capacity, ?_, ?_, ?_⟩
  · rw [size]
    exact Nat.le_succ_of_le chunked.filled
  · rw [size]
    exact room
  · intro limit limits
    rw [← chunked.maxSessions] at limits
    have unreached : registry.sessions.size < limit := by
      simpa [limit?, limits, Option.filter] using below
    rw [size]
    exact unreached

theorem update (chunked : registry.Chunked config) (id : SessionId)
    (change : Session → Session) : (registry.update id change).Chunked config := by
  refine ⟨chunked.chunk, chunked.maxSessions, chunked.capacity, ?_, ?_, ?_⟩
  · rw [size_update]
    exact chunked.filled
  · rw [size_update]
    exact chunked.fits
  · rw [size_update]
    exact chunked.limited

theorem abandon (chunked : registry.Chunked config) (abandoned : Bool) :
    { registry with abandoned }.Chunked config :=
  ⟨chunked.chunk, chunked.maxSessions, chunked.capacity, chunked.filled, chunked.fits,
    chunked.limited⟩

/-- Where there is room left, storage does not change before a session takes it up. -/
theorem storage_eq {later : Registry} (chunked : registry.Chunked config)
    (stays : later.Chunked config) (room : registry.size < registry.capacity)
    (onward : registry.growths ≤ later.growths) (same : later.size = registry.size) :
    later.storage = registry.storage := by
  have within : max config.chunkSize 1 * later.growths <
      max config.chunkSize 1 * (registry.growths + 1) := by
    calc max config.chunkSize 1 * later.growths
      _ ≤ later.size := stays.filled
      _ = registry.size := same
      _ < registry.capacity := room
      _ = max config.chunkSize 1 * (registry.growths + 1) := chunked.capacity
  have growths : later.growths = registry.growths :=
    Nat.le_antisymm (Nat.le_of_lt_succ (Nat.lt_of_mul_lt_mul_left within)) onward
  rw [storage, storage, stays.capacity, chunked.capacity, growths]

end Chunked

/-! ## Making room -/

/-- The table has its storage as before, or it was full and has one more chunk of it. -/
def Extends (before after : Registry) : Prop :=
  after.storage = before.storage ∨
    before.size = before.capacity ∧ after.storage = before.grown.storage

theorem growths_of_extends {before after : Registry} (grows : Extends before after) :
    before.growths ≤ after.growths := by
  rcases grows with same | ⟨_, grown⟩
  · exact Nat.le_of_eq (congrArg Storage.growths same).symm
  · have once : after.growths = before.growths + 1 := congrArg Storage.growths grown
    omega

/-- What making room comes to. -/
theorem reserve_cases (chunked : registry.Chunked config) {next : Registry}
    (reserved : registry.reserve = .ok next) :
    next = registry ∧ registry.size < registry.capacity ∨
      next = registry.grown ∧ registry.size = registry.capacity := by
  unfold reserve at reserved
  split at reserved
  · next room =>
      cases reserved
      exact .inl ⟨rfl, room⟩
  · next crowded =>
      have full : registry.size = registry.capacity :=
        Nat.le_antisymm chunked.fits (Nat.le_of_not_lt crowded)
      split at reserved
      · cases reserved
      · cases reserved
        have capacity : registry.sessions.size = registry.capacity := full
        rw [capacity]
        exact .inr ⟨rfl, full⟩

theorem reserve_ne_noInstance {cause : AllocationCause}
    (refused : registry.reserve = .error cause) : cause ≠ .noInstance := by
  unfold reserve at refused
  split at refused
  · cases refused
  · split at refused
    · next reason refusal =>
        cases refused
        exact Memory.reserve_ne_noInstance refusal
    · cases refused

/-- A slot is there for the taking where the limit allows it and there is room. -/
theorem reserve_of_reserveSlot {next : Registry} (reserved : registry.reserveSlot = .ok next) :
    registry.limit? = none ∧ registry.reserve = .ok next := by
  unfold reserveSlot at reserved
  split at reserved
  · cases reserved
  · next below => exact ⟨below, reserved⟩

theorem reserveSlot_ne_noInstance {cause : AllocationCause}
    (refused : registry.reserveSlot = .error cause) : cause ≠ .noInstance := by
  unfold reserveSlot at refused
  split at refused
  · cases refused
    exact fun impossible => by cases impossible
  · exact reserve_ne_noInstance refused

/-- A table that refuses a creation changes in nothing but its lock. -/
theorem prepare_of_error {error : RegistryError} (refused : registry.prepare.1 = .error error) :
    (∃ abandoned, registry.prepare.2 = { registry with abandoned }) ∧
      error ≠ .allocationFailure .noInstance := by
  unfold prepare at refused ⊢
  split at refused
  · next abandoned =>
      cases refused
      rw [if_pos abandoned]
      exact ⟨⟨false, rfl⟩, by simp⟩
  · next standing =>
      rw [if_neg standing]
      cases slot : registry.reserveSlot with
      | error cause =>
          rw [slot] at refused
          cases refused
          have silent := reserveSlot_ne_noInstance slot
          exact ⟨⟨registry.abandoned, rfl⟩, by simpa using silent⟩
      | ok next =>
          rw [slot] at refused
          cases refused

/-- A table that goes on to the factory has room and may have one session more. -/
theorem prepare_of_ok (chunked : registry.Chunked config) (ready : registry.prepare.1 = .ok ()) :
    registry.prepare.2.Chunked config ∧ registry.prepare.2.size < registry.prepare.2.capacity ∧
      registry.prepare.2.limit? = none ∧ Extends registry registry.prepare.2 := by
  unfold prepare at ready ⊢
  split at ready
  · cases ready
  · next standing =>
      rw [if_neg standing]
      cases slot : registry.reserveSlot with
      | error cause =>
          rw [slot] at ready
          cases ready
      | ok next =>
          rcases reserve_of_reserveSlot slot with ⟨below, reserved⟩
          rcases reserve_cases chunked reserved with ⟨rfl, room⟩ | ⟨rfl, full⟩
          · exact ⟨chunked, room, below, .inl rfl⟩
          · have more : registry.grown.size < registry.grown.capacity := by
              have positive : 0 < registry.chunkSize := by
                rw [chunked.chunk]
                exact Nat.le_max_right _ _
              exact Nat.lt_of_le_of_lt (Nat.le_of_eq full) (Nat.lt_add_of_pos_right positive)
            exact ⟨chunked.grown full, more, below, .inr ⟨full, rfl⟩⟩

end Registry

namespace Host

variable {σ : Type} {config : RegistryConfig} {host before after next : Host σ}

/-- The storage of the session table stays in order, and it does not shrink. -/
def Storing (config : RegistryConfig) (before after : Host σ) : Prop :=
  before.registry.Chunked config →
    after.registry.Chunked config ∧ before.registry.growths ≤ after.registry.growths

theorem onMachine_storing (host : Host σ) (memory : Memory) :
    Storing config host (host.onMachine memory) := by
  intro chunked
  exact ⟨⟨chunked.chunk, chunked.maxSessions, chunked.capacity, chunked.filled, chunked.fits,
    chunked.limited⟩, Nat.le_refl _⟩

variable [Engine σ]

/-! ## Creations -/

/-- A creation takes one more chunk of storage at most, and none where there is room.  If
the factory was asked and gave no instance, there is room afterwards. -/
theorem acquire_chunked (chunked : host.registry.Chunked config) :
    Hosting.Leads acquire host
      (fun answer next =>
        (next.registry.Chunked config ∧ host.registry.Extends next.registry) ∧
          (answer = .error (.allocationFailure .noInstance) →
            next.registry.size < next.registry.capacity))
      fun _ next =>
        (next.registry.Chunked config ∧ host.registry.Extends next.registry) ∧
          next.registry.size < next.registry.capacity := by
  unfold Hosting.Leads
  cases prepared : host.registry.prepare.1 with
  | error error =>
      rcases acquire_of_refused prepared with ⟨records, outcome⟩
      rcases Registry.prepare_of_error prepared with ⟨⟨abandoned, kept⟩, silent⟩
      rw [outcome, kept]
      exact ⟨⟨chunked.abandon abandoned, .inl rfl⟩,
        fun unmade => absurd (Except.error.inj unmade) silent⟩
  | ok ready =>
      rcases acquire_of_ready prepared with ⟨records, outcome⟩
      rcases Registry.prepare_of_ok chunked prepared with ⟨stays, room, below, grows⟩
      rw [outcome]
      cases (Engine.create host.engine host.cells.size).1 with
      | fresh cell =>
          exact ⟨⟨stays.enter room below _, grows⟩, fun impossible => by cases impossible⟩
      | again handle =>
          exact ⟨⟨stays.enter room below handle, grows⟩, fun impossible => by cases impossible⟩
      | nothing => exact ⟨⟨stays, grows⟩, fun _ => room⟩
      | unwound => exact ⟨⟨stays.abandon true, grows⟩, room⟩

theorem acquire_extends (chunked : host.registry.Chunked config) :
    Hosting.Leaves acquire host fun next =>
      next.registry.Chunked config ∧ host.registry.Extends next.registry :=
  (acquire_chunked chunked).mono (fun _ _ => And.left) fun _ _ => And.left

/-- Storage that cannot be reserved is not there afterwards. -/
theorem acquire_of_unreserved {cause : AllocationCause}
    (unreserved : host.registry.reserve = .error cause) :
    ∃ error next, acquire host = .ok (.error error) next ∧
      next.registry.storage = host.registry.storage ∧
      (host.registry.abandoned = false → host.registry.limit? = none →
        error = .allocationFailure cause) := by
  have refused : ∃ error, host.registry.prepare.1 = .error error ∧
      (host.registry.abandoned = false → host.registry.limit? = none →
        error = .allocationFailure cause) := by
    unfold Registry.prepare Registry.reserveSlot
    rw [unreserved]
    cases host.registry.abandoned with
    | true => exact ⟨_, rfl, fun impossible => by cases impossible⟩
    | false =>
        cases host.registry.limit? with
        | some limit => exact ⟨_, rfl, fun _ impossible => by cases impossible⟩
        | none => exact ⟨_, rfl, fun _ _ => rfl⟩
  rcases refused with ⟨error, prepared, isCause⟩
  rcases acquire_of_refused prepared with ⟨records, outcome⟩
  rcases (Registry.prepare_of_error prepared).1 with ⟨abandoned, kept⟩
  refine ⟨error, _, outcome, ?_, isCause⟩
  rw [kept]
  rfl

/-- The factory was asked for an instance, and it made none or unwound. -/
def Unmade (host next : Host σ) : Prop :=
  acquire host = .ok (.error (.allocationFailure .noInstance)) next ∨
    acquire host = .error .unwound next

theorem chunked_of_unmade (chunked : host.registry.Chunked config) (unmade : Unmade host next) :
    next.registry.Chunked config ∧ next.registry.size < next.registry.capacity := by
  have created := acquire_chunked chunked
  rcases unmade with refused | unwound
  · rcases created.of_ok refused with ⟨⟨stays, _⟩, room⟩
    exact ⟨stays, room rfl⟩
  · unfold Hosting.Leads at created
    rw [unwound] at created
    exact ⟨created.1.1, created.2⟩

/-! ## Runs -/

/-- Storage stays in order along everything that a host does. -/
theorem storing_frame : Frame (Storing config : Host σ → Host σ → Prop) where
  refl := fun _ chunked => ⟨chunked, Nat.le_refl _⟩
  trans := by
    intro first second third earlier later chunked
    rcases earlier chunked with ⟨chunked, fewer⟩
    exact ⟨(later chunked).1, Nat.le_trans fewer (later chunked).2⟩
  aside := by
    intro before after same chunked
    have table : after.registry = before.registry := congrArg Substance.registry same
    rw [table]
    exact ⟨chunked, Nat.le_refl _⟩
  served := by
    intro handle before after served chunked
    have table : after.registry = before.registry := congrArg Estate.registry served.estate
    rw [table]
    exact ⟨chunked, Nat.le_refl _⟩
  bound := fun _ _ chunked => ⟨chunked, Nat.le_refl _⟩
  marked := fun _ id chunked => ⟨chunked.update id _, Nat.le_refl _⟩
  freed := fun _ id _ _ chunked => ⟨chunked.update id _, Nat.le_refl _⟩
  created := by
    intro host
    have extended (chunked : host.registry.Chunked config) := acquire_extends chunked
    unfold Hosting.Leaves Hosting.Leads at extended ⊢
    cases outcome : acquire host with
    | ok answer next =>
        simp only [outcome] at extended
        exact fun chunked =>
          ⟨(extended chunked).1, Registry.growths_of_extends (extended chunked).2⟩
    | error halt next =>
        simp only [outcome] at extended
        exact fun chunked =>
          ⟨(extended chunked).1, Registry.growths_of_extends (extended chunked).2⟩

/-- The state that an operation leaves behind where it has this memory. -/
def afterOn (host : Host σ) (move : Memory × Operation) : Host σ :=
  (host.onMachine move.1).after move.2

/-- The state at the end of a run over memory that may change. -/
def afterAllOn (host : Host σ) (moves : List (Memory × Operation)) : Host σ :=
  moves.foldl afterOn host

theorem afterAllOn_storing (moves : List (Memory × Operation)) (host : Host σ) :
    Storing config host (host.afterAllOn moves) := by
  apply storing_frame.foldl_related
  intro host move
  exact storing_frame.trans (onMachine_storing host move.1)
    (after_of_leaves (storing_frame.perform_related move.2 _))

/-- What a creation makes of storage, wherever it is tried again. -/
structure Sparing (host : Host σ) : Prop where
  /-- There is one more chunk at most, and none where there is room. -/
  grows : Hosting.Leaves acquire host fun next => host.registry.Extends next.registry
  /-- Storage that cannot be reserved leaves things as they are. -/
  unreserved : ∀ cause, host.registry.reserve = .error cause →
    ∃ error next, acquire host = .ok (.error error) next ∧
      next.registry.storage = host.registry.storage ∧
      (host.registry.abandoned = false → host.registry.limit? = none →
        error = .allocationFailure cause)
  /-- What was reserved for a session that the factory did not make serves the next
  creation for its place, whatever comes in between. -/
  unmade : ∀ next, Unmade host next → ∀ (moves : List (Memory × Operation)) (memory : Memory),
    (next.afterAllOn moves).registry.size = next.registry.size →
      Hosting.Leaves acquire ((next.afterAllOn moves).onMachine memory) fun last =>
        last.registry.storage = next.registry.storage

theorem sparing_of_chunked (chunked : host.registry.Chunked config) : host.Sparing where
  grows := (acquire_extends chunked).mono fun _ => And.right
  unreserved := fun _ => acquire_of_unreserved
  unmade := by
    intro next unmade moves memory same
    rcases chunked_of_unmade chunked unmade with ⟨stays, room⟩
    rcases afterAllOn_storing moves next stays with ⟨later, onward⟩
    have storage := stays.storage_eq later room onward same
    have chunkedOn := (onMachine_storing (next.afterAllOn moves) memory later).1
    apply (acquire_extends chunkedOn).mono
    rintro last ⟨_, kept | ⟨full, _⟩⟩
    · exact kept.trans storage
    · have full : (next.afterAllOn moves).registry.size =
          (next.afterAllOn moves).registry.capacity := full
      have capacity : (next.afterAllOn moves).registry.capacity = next.registry.capacity :=
        congrArg Registry.Storage.capacity storage
      omega

/-- Storage is always in whole chunks, and it is never more than one chunk ahead of the
sessions, of which there are no more than configured.  So it is after any run, whatever
memory there was for each operation, whatever the factory made of it and whoever unwound.
Another chunk is taken only for a session that does not fit, once for each such session,
and storage that cannot be reserved leaves things as they are. -/
theorem storage_grows_when_full {engine : σ} {memory : Memory} {bridges : List Bridge}
    {first : Host σ} (opened : Host.init engine memory config bridges = .ok first)
    (moves : List (Memory × Operation)) :
    (first.afterAllOn moves).registry.Chunked config ∧
      ∀ memory, ((first.afterAllOn moves).onMachine memory).Sparing := by
  have initial : first.registry.Chunked config := by
    unfold Host.init at opened
    split at opened
    · cases opened
    · next registry initial =>
        cases opened
        exact Registry.init_chunked initial
  have chunked := (afterAllOn_storing moves first initial).1
  refine ⟨chunked, ?_⟩
  intro memory
  exact sparing_of_chunked (onMachine_storing _ memory chunked).1

/-- Three creations, of which the second one finds no memory. -/
def starved : List (Memory × Operation) :=
  [(Memory.machine, .acquire), (⟨1⟩, .acquire), (Memory.machine, .acquire)]

/-- In a table that grows by one slot at a time, the second creation finds no memory and
the third makes room in vain.  The fourth unwinds, and when its lock has been found
abandoned the next creation takes the place that was kept for it. -/
theorem storage_grows_when_full_once :
    ∃ first next : Host Scripted.Library,
      Host.init (.ofScript { creations := [.withCell 0, .nothing, .unwind] }) Memory.machine
          { chunkSize := 0, maxSessions := some 2 } [] = .ok first ∧
        (first.afterAllOn (starved.take 2)).registry.storage = ⟨1, 0⟩ ∧
        (first.afterAllOn starved).registry.storage = ⟨2, 1⟩ ∧
        (first.afterAllOn starved).registry.size = 1 ∧
        (first.afterAllOn starved).registry.Chunked { chunkSize := 0, maxSessions := some 2 } ∧
        Unmade ((first.afterAllOn starved).onMachine Memory.machine) next ∧
        (next.afterAllOn [(⟨1⟩, .acquire), (Memory.machine, .acquire)]).registry.size = 2 ∧
        Hosting.Leaves acquire ((next.afterAllOn [(⟨1⟩, .acquire)]).onMachine Memory.machine)
          fun last => last.registry.storage = next.registry.storage := by
  have opened : Host.init (Scripted.Library.ofScript
      { creations := [.withCell 0, .nothing, .unwind] }) Memory.machine
        { chunkSize := 0, maxSessions := some 2 } [] = .ok _ := rfl
  have law := storage_grows_when_full opened starved
  refine ⟨_, _, opened, by decide +kernel, by decide +kernel, by decide +kernel, law.1, .inr rfl,
    by decide +kernel, ?_⟩
  exact (law.2 Memory.machine).unmade _ (.inr rfl) [(⟨1⟩, .acquire)] Memory.machine
    (by decide +kernel)

end Host

end SessionHost
