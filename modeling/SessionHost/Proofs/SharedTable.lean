import Mathlib.Data.List.Basic
import SessionHost.Proofs.Lifetime
import SessionHost.Registry.Shared

namespace SessionHost

/-!
# The creation lock among threads

Nobody but the holder of the creation lock adds to the table, so the slot that it
reserved is still free when it appends.  Everything else follows from that: the ids
come one after another, the table never moves under an append, and a release that
came in between is there afterwards.
-/

namespace Registry

/-! ## The parts of a creation -/

/-- A creation from start to end, where the factory comes back. -/
def created (registry : Registry) (made : Option Handle) :
    Except RegistryError SessionId × Registry :=
  match registry.prepare, made with
  | (.error error, registry), _ => (.error error, registry)
  | (.ok (), registry), none => (.error (.allocationFailure .noInstance), registry)
  | (.ok (), registry), some handle => (.ok registry.size, registry.enter handle)

/-- The half of a creation before the factory is a look at the lock and then the
reservation. -/
theorem prepare_eq_reserveSlot (registry : Registry) :
    registry.prepare =
      if registry.abandoned then (.error .lockAbandoned, { registry with abandoned := false })
      else match registry.reserveSlot with
        | .error cause => (.error (.allocationFailure cause), registry)
        | .ok grown => (.ok (), grown) := by
  unfold prepare reserveSlot
  cases registry.limit? with
  | some limit => rfl
  | none => rfl

theorem reserveSlot_eq_ok {registry grown : Registry} (roomy : registry.Roomy)
    (reserved : registry.reserveSlot = .ok grown) :
    grown = registry.extended ∧ registry.memory.reserve registry.needed = .ok () := by
  unfold reserveSlot at reserved
  split at reserved
  · cases reserved
  · rw [reserve_eq roomy] at reserved
    cases outcome : registry.memory.reserve registry.needed with
    | error cause =>
        rw [outcome] at reserved
        cases reserved
    | ok _ =>
        rw [outcome] at reserved
        cases reserved
        exact ⟨rfl, rfl⟩

theorem append_of_room {registry : Registry} (room : registry.size < registry.capacity)
    (handle : Handle) : registry.append handle = (false, registry.enter handle) :=
  if_pos room

theorem roomy_of_room {registry : Registry} (roomy : registry.Roomy)
    (room : registry.size < registry.capacity) (handle : Handle) :
    (registry.enter handle).Roomy := by
  have size : (registry.enter handle).size = registry.size + 1 := Array.size_push _
  refine ⟨⟨roomy.chunk, roomy.capacity, ?_, ?_⟩, roomy.reserved⟩
  · rw [size]
    exact Nat.le_succ_of_le roomy.filled
  · rw [size]
    exact room

end Registry

namespace SharedTable

/-! ## Steps -/

/-- A thread that goes on to another stage is at this stage. -/
@[simp]
theorem stage_advance_self (shared : SharedTable) (thread : ThreadId) (stage : Stage) :
    (shared.advance thread stage).stage thread = stage :=
  if_pos rfl

/-- The other threads stay where they are. -/
theorem stage_advance_of_ne (different : other ≠ thread) (shared : SharedTable) (stage : Stage) :
    (shared.advance thread stage).stage other = shared.stage other :=
  if_neg different

/-- A thread that stays where it is. -/
theorem stage_advance_eq_self (shared : SharedTable) (thread : ThreadId) :
    (shared.advance thread (shared.stage thread)).stage = shared.stage := by
  funext other
  by_cases same : other = thread
  · subst other
    exact stage_advance_self ..
  · exact stage_advance_of_ne same ..

/-- What a step that was taken can have been. -/
inductive Stepped (shared : SharedTable) (thread : ThreadId) : SharedTable → Prop
  | lookup (raw : Int) : Stepped shared thread (shared.lookup thread raw)
  | release (raw : Int) : Stepped shared thread (shared.release thread raw)
  | lock (idle : shared.stage thread = .idle) (free : shared.holder = none) :
      Stepped shared thread (shared.lock thread)
  | reserve (locked : shared.stage thread = .locked) : Stepped shared thread (shared.reserve thread)
  | create (reserved : shared.stage thread = .reserved) (made : Option Handle) :
      Stepped shared thread (shared.create thread made)
  | unwind (reserved : shared.stage thread = .reserved) :
      Stepped shared thread (shared.unwind thread)
  | append {handle : Handle} (made : shared.stage thread = .made handle) :
      Stepped shared thread (shared.append thread handle)
  | leave {answer : Except RegistryError SessionId}
      (leaving : shared.stage thread = .leaving answer) :
      Stepped shared thread (shared.leave thread answer)
  | letGo (abandoned : shared.stage thread = .abandoned) :
      Stepped shared thread (shared.letGo thread)
  | clear (clearing : shared.stage thread = .clearing) : Stepped shared thread (shared.clear thread)

variable {shared next : SharedTable} {thread : ThreadId}

theorem lock_stage (shared : SharedTable) (thread : ThreadId) :
    ∃ stage : Stage, (stage = .locked ∨ stage = .abandoned) ∧
      shared.lock thread = { shared.advance thread stage with holder := some thread } := by
  refine ⟨_, ?_, rfl⟩
  split
  · exact .inr rfl
  · exact .inl rfl

theorem release_of_refused {raw : Int} {error : RegistryError}
    (looked : shared.registry.lookup raw = .error error) (thread : ThreadId) :
    shared.release thread raw = shared.record (.released thread raw (.error error)) := by
  unfold release Registry.release
  rw [looked]

theorem release_of_found {raw : Int} {id : SessionId}
    (looked : shared.registry.lookup raw = .ok id) (thread : ThreadId) :
    shared.release thread raw = { shared with registry := shared.registry.marked id }.record
      (.released thread raw (.ok id)) := by
  unfold release Registry.release
  rw [looked]
  rfl

theorem append_of_room (room : shared.registry.size < shared.registry.capacity) (thread : ThreadId)
    (handle : Handle) :
    shared.append thread handle =
      { shared.advance thread (.leaving (.ok shared.registry.size)) with
        registry := shared.registry.enter handle }.record
          (.appended thread shared.registry.size handle false) := by
  unfold append
  rw [Registry.append_of_room room]

theorem stepped_of_step {move : Move} (taken : shared.step thread move = some next) :
    Stepped shared thread next := by
  unfold step at taken
  split at taken
  · cases taken
    exact .lookup _
  · cases taken
    exact .release _
  · next idle =>
      split at taken
      · next free =>
          cases taken
          exact .lock idle (Option.isNone_iff_eq_none.mp free)
      · cases taken
  · next locked =>
      cases taken
      exact .reserve locked
  · next reserved =>
      cases taken
      exact .create reserved _
  · next reserved =>
      cases taken
      exact .unwind reserved
  · next made =>
      cases taken
      exact .append made
  · next leaving =>
      cases taken
      exact .leave leaving
  · next abandoned =>
      cases taken
      exact .letGo abandoned
  · next clearing =>
      cases taken
      exact .clear clearing
  · cases taken

/-- What every step preserves holds at the end of every run. -/
theorem run_of_preserved (property : SharedTable → Prop)
    (preserved : ∀ {shared next thread}, property shared → Stepped shared thread next →
      property next)
    {moves : List (ThreadId × Move)} {last : SharedTable} (initially : property shared)
    (ran : shared.run moves = some last) : property last := by
  induction moves generalizing shared with
  | nil =>
      cases ran
      exact initially
  | cons first later inductionHypothesis =>
      rcases first with ⟨thread, move⟩
      rcases Option.bind_eq_some_iff.mp ran with ⟨next, taken, ran⟩
      exact inductionHypothesis (preserved initially (stepped_of_step taken)) ran

/-! ## The creation lock -/

namespace Stage

/-- A thread at this stage holds the creation lock. -/
def holds : Stage → Bool
  | idle => false
  | clearing => false
  | _ => true

/-- A thread at this stage counts on a free slot. -/
def hasSlot : Stage → Bool
  | reserved => true
  | made _ => true
  | _ => false

theorem holds_of_hasSlot {stage : Stage} (hasSlot : stage.hasSlot = true) :
    stage.holds = true := by
  cases stage with
  | reserved => rfl
  | made handle => rfl
  | _ => cases hasSlot

end Stage

/-- The threads that are in the midst of a creation hold the creation lock, so there
is at most one, and the slot that it reserved is free. -/
structure Exclusive (shared : SharedTable) : Prop where
  roomy : shared.registry.Roomy
  holding : ∀ thread, (shared.stage thread).holds = true ↔ shared.holder = some thread
  slot : ∀ thread, (shared.stage thread).hasSlot = true →
    shared.registry.size < shared.registry.capacity

namespace Exclusive

theorem holder_eq (exclusive : shared.Exclusive) {stage : Stage}
    (reached : shared.stage thread = stage) (holds : stage.holds = true) :
    shared.holder = some thread := by
  rw [← reached] at holds
  exact (exclusive.holding thread).mp holds

theorem holder_ne (exclusive : shared.Exclusive) {stage : Stage}
    (reached : shared.stage thread = stage) (outside : stage.holds = false) :
    shared.holder ≠ some thread := by
  intro held
  have holds := (exclusive.holding thread).mpr held
  rw [reached, outside] at holds
  cases holds

/-- The holder of the lock goes on to another stage, and keeps the lock or lets go
of it. -/
theorem onward (exclusive : shared.Exclusive) (held : shared.holder = some thread) {stage : Stage}
    (advanced : next.stage = (shared.advance thread stage).stage)
    (holder : next.holder = if stage.holds then some thread else none)
    (roomy : next.registry.Roomy)
    (slot : stage.hasSlot = true → next.registry.size < next.registry.capacity) :
    next.Exclusive := by
  have others {other : ThreadId} (different : other ≠ thread) :
      (shared.stage other).holds = false := by
    apply Bool.eq_false_iff.mpr
    intro holds
    have same := held.symm.trans ((exclusive.holding other).mp holds)
    exact different (Option.some.inj same).symm
  refine ⟨roomy, ?_, ?_⟩
  · intro other
    rw [advanced, holder]
    by_cases same : other = thread
    · subst other
      rw [stage_advance_self]
      cases stage.holds with
      | true => simp
      | false => simp
    · rw [stage_advance_of_ne same, others same]
      have different : thread ≠ other := Ne.symm same
      split
      · simp [different]
      · simp
  · intro other
    rw [advanced]
    by_cases same : other = thread
    · subst other
      rw [stage_advance_self]
      exact slot
    · rw [stage_advance_of_ne same]
      intro hasSlot
      have holds := Stage.holds_of_hasSlot hasSlot
      rw [others same] at holds
      cases holds

/-- The table of a thread that holds no lock changes neither size nor storage. -/
theorem aside (exclusive : shared.Exclusive) {stage : Stage}
    (advanced : next.stage = (shared.advance thread stage).stage)
    (holding : stage.holds = true ↔ next.holder = some thread)
    (others : ∀ other, other ≠ thread → (shared.holder = some other ↔ next.holder = some other))
    (slotless : stage.hasSlot = false) (roomy : next.registry.Roomy)
    (size : next.registry.size = shared.registry.size)
    (capacity : next.registry.capacity = shared.registry.capacity) : next.Exclusive := by
  refine ⟨roomy, ?_, ?_⟩
  · intro other
    rw [advanced]
    by_cases same : other = thread
    · subst other
      rw [stage_advance_self]
      exact holding
    · rw [stage_advance_of_ne same, exclusive.holding other]
      exact others other same
  · intro other
    rw [advanced, size, capacity]
    by_cases same : other = thread
    · subst other
      rw [stage_advance_self, slotless]
      intro impossible
      cases impossible
    · rw [stage_advance_of_ne same]
      exact exclusive.slot other

theorem stepped (exclusive : shared.Exclusive) (taken : Stepped shared thread next) :
    next.Exclusive := by
  cases taken with
  | lookup raw => exact ⟨exclusive.roomy, exclusive.holding, exclusive.slot⟩
  | release raw =>
      cases looked : shared.registry.lookup raw with
      | error error =>
          rw [release_of_refused looked]
          exact ⟨exclusive.roomy, exclusive.holding, exclusive.slot⟩
      | ok id =>
          rw [release_of_found looked]
          refine ⟨Registry.roomy_update exclusive.roomy id _, exclusive.holding, ?_⟩
          intro other hasSlot
          have room := exclusive.slot other hasSlot
          rw [← Registry.size_update shared.registry id _] at room
          exact room
  | lock idle free =>
      rcases lock_stage shared thread with ⟨stage, stages, locked⟩
      have held : stage.holds = true := by rcases stages with rfl | rfl <;> rfl
      have slotless : stage.hasSlot = false := by rcases stages with rfl | rfl <;> rfl
      rw [locked]
      refine exclusive.aside rfl (iff_of_true held rfl) ?_ slotless exclusive.roomy rfl rfl
      intro other different
      have different : thread ≠ other := Ne.symm different
      simp [free, different]
  | reserve locked =>
      have held := exclusive.holder_eq locked rfl
      unfold reserve
      split
      · exact exclusive.onward held rfl held exclusive.roomy (fun impossible => by cases impossible)
      · next grown reserved =>
          rcases Registry.reserveSlot_eq_ok exclusive.roomy reserved with ⟨rfl, granted⟩
          refine exclusive.onward held rfl held (Registry.roomy_extended exclusive.roomy granted) ?_
          exact fun _ => Nat.lt_mul_div_succ shared.registry.size exclusive.roomy.chunk
  | create reserved made =>
      have held := exclusive.holder_eq reserved rfl
      have room := exclusive.slot thread (by rw [reserved]; rfl)
      cases made with
      | none =>
          exact exclusive.onward held rfl held exclusive.roomy fun impossible => by cases impossible
      | some handle => exact exclusive.onward held rfl held exclusive.roomy fun _ => room
  | unwind reserved =>
      have held := exclusive.holder_eq reserved rfl
      exact exclusive.onward held rfl rfl (Registry.roomy_abandon exclusive.roomy true)
        fun impossible => by cases impossible
  | @append handle made =>
      have held := exclusive.holder_eq made rfl
      have room := exclusive.slot thread (by rw [made]; rfl)
      rw [append_of_room room]
      exact exclusive.onward held rfl held (Registry.roomy_of_room exclusive.roomy room handle)
        fun impossible => by cases impossible
  | leave leaving =>
      have held := exclusive.holder_eq leaving rfl
      exact exclusive.onward held rfl rfl exclusive.roomy fun impossible => by cases impossible
  | letGo abandoned =>
      have held := exclusive.holder_eq abandoned rfl
      exact exclusive.onward held rfl rfl exclusive.roomy fun impossible => by cases impossible
  | clear clearing =>
      have free := exclusive.holder_ne clearing rfl
      exact exclusive.aside rfl (iff_of_false Bool.false_ne_true free) (fun _ _ => Iff.rfl) rfl
        (Registry.roomy_abandon exclusive.roomy false) rfl rfl

end Exclusive

/-! ## A creation that nobody interferes with -/

/-- What a host's own creations come to, where the factory comes back. -/
theorem created_of_acquire {σ : Type} [Engine σ] {host after : Host σ}
    {answer : Except RegistryError SessionId} (acquired : Host.acquire host = .ok answer after) :
    ∃ made, host.registry.created made = (answer, after.registry) := by
  unfold Registry.created
  cases prepared : host.registry.prepare with
  | mk ready grown =>
      cases ready with
      | error error =>
          rcases Host.acquire_of_refused (congrArg Prod.fst prepared) with ⟨records, refused⟩
          rw [acquired, prepared] at refused
          cases refused
          exact ⟨none, rfl⟩
      | ok _ =>
          rcases Host.acquire_of_ready (congrArg Prod.fst prepared) with ⟨records, entered⟩
          rw [acquired, prepared] at entered
          cases creation : (Engine.create host.engine host.cells.size).1 with
          | fresh cell =>
              rw [creation] at entered
              cases entered
              exact ⟨some host.cells.size, rfl⟩
          | again handle =>
              rw [creation] at entered
              cases entered
              exact ⟨some handle, rfl⟩
          | nothing =>
              rw [creation] at entered
              cases entered
              exact ⟨none, rfl⟩
          | unwound =>
              rw [creation] at entered
              cases entered

/-- A thread that is alone completes its creation, which comes out as if there were no
steps in between. -/
theorem run_alone (exclusive : shared.Exclusive) (idle : shared.stage thread = .idle)
    (free : shared.holder = none) (made : Option Handle) :
    ∃ (moves : List Move) (events : List Event),
      shared.run (moves.map (thread, ·)) = some
        { shared with
          registry := (shared.registry.created made).2
          events := shared.events ++ events } ∧
      events.getLast? = some (.returned thread (shared.registry.created made).1) := by
  have settled : (fun other => if other = thread then .idle else shared.stage other) =
      shared.stage := by
    rw [← idle]
    exact stage_advance_eq_self shared thread
  have overtaken (last before : Stage) (rest : ThreadId → Stage) :
      (fun other => if other = thread then last else if other = thread then before else rest other) =
        fun other => if other = thread then last else rest other := by
    funext other
    by_cases same : other = thread
    · simp only [if_pos same]
    · simp only [if_neg same]
  have whole := Registry.prepare_eq_reserveSlot shared.registry
  unfold Registry.created
  cases abandoned : shared.registry.abandoned with
  | true =>
      rw [abandoned, if_pos rfl] at whole
      rw [whole]
      refine ⟨[.lock, .unlock, .clear], [.returned thread (.error .lockAbandoned)], ?_, rfl⟩
      simp [run, step, lock, letGo, clear, advance, record, idle, free, abandoned, overtaken, settled]
  | false =>
      rw [abandoned, if_neg Bool.false_ne_true] at whole
      rw [whole]
      cases reserved : shared.registry.reserveSlot with
      | error cause =>
          refine ⟨[.lock, .reserve, .unlock],
            [.returned thread (.error (.allocationFailure cause))], ?_, rfl⟩
          simp [run, step, lock, reserve, leave, advance, record, idle, free, abandoned, reserved,
            overtaken, settled]
      | ok grown =>
          rcases Registry.reserveSlot_eq_ok exclusive.roomy reserved with ⟨rfl, _⟩
          have room : shared.registry.extended.size < shared.registry.extended.capacity :=
            Nat.lt_mul_div_succ shared.registry.size exclusive.roomy.chunk
          cases made with
          | none =>
              refine ⟨[.lock, .reserve, .create none, .unlock],
                [.returned thread (.error (.allocationFailure .noInstance))], ?_, rfl⟩
              simp [run, step, lock, reserve, create, leave, advance, record, idle, free,
                abandoned, reserved, overtaken, settled]
          | some handle =>
              refine ⟨[.lock, .reserve, .create (some handle), .append, .unlock],
                [.appended thread shared.registry.extended.size handle false,
                  .returned thread (.ok shared.registry.extended.size)], ?_, rfl⟩
              have appended := Registry.append_of_room room handle
              simp [run, step, lock, reserve, create, append, leave, advance, record, idle, free,
                abandoned, reserved, appended, overtaken, settled]

end SharedTable

end SessionHost
