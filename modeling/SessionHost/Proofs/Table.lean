import SessionHost.Registry.Basic

namespace SessionHost

/-!
# Entries of the session table

The table only grows at its end, and entries are changed in place, so what is
known of an entry stays known until that very entry is changed.
-/

/-- A machine refuses storage, and it does not speak for the factory. -/
theorem Memory.reserve_ne_noInstance {memory : Memory} {slots : Nat} {cause : AllocationCause}
    (refused : memory.reserve slots = .error cause) : cause ≠ .noInstance := by
  unfold reserve at refused
  split at refused
  · cases refused
    exact fun impossible => by cases impossible
  · split at refused
    · cases refused
      exact fun impossible => by cases impossible
    · cases refused

namespace Registry

/-! ## Changing an entry -/

theorem getElem?_update (registry : Registry) (id other : SessionId) (change : Session → Session) :
    (registry.update id change).sessions[other]? =
      if id = other then registry.sessions[other]?.map change else registry.sessions[other]? :=
  Array.getElem?_modify

theorem size_update (registry : Registry) (id : SessionId) (change : Session → Session) :
    (registry.update id change).size = registry.size :=
  Array.size_modify

/-- A table with one session marked as released. -/
def marked (registry : Registry) (id : SessionId) : Registry :=
  registry.update id fun session => { session with released := true }

theorem getElem?_marked (registry : Registry) (id other : SessionId) :
    (registry.marked id).sessions[other]? =
      if id = other then
        registry.sessions[other]?.map fun session => { session with released := true }
      else registry.sessions[other]? :=
  getElem?_update registry id other _

/-- A mark leaves every instance where it is. -/
theorem handles_marked (registry : Registry) (id : SessionId) :
    (registry.marked id).sessions.toList.map (·.handle) =
      registry.sessions.toList.map (·.handle) := by
  apply List.ext_getElem?
  intro other
  rw [List.getElem?_map, List.getElem?_map, Array.getElem?_toList, Array.getElem?_toList,
    getElem?_marked]
  split
  · rw [Option.map_map]
    rfl
  · rfl

theorem update_sessions_of_found {registry : Registry} {id : SessionId} {session : Session}
    (found : registry.sessions[id]? = some session) (change : Session → Session) :
    ∃ bound, (registry.update id change).sessions = registry.sessions.set id (change session) bound := by
  rcases Array.getElem?_eq_some_iff.mp found with ⟨bound, here⟩
  refine ⟨bound, ?_⟩
  apply Array.ext_getElem?
  intro other
  rw [getElem?_update, Array.getElem?_set]
  by_cases same : id = other
  · subst other
    simp only [if_true, found, Option.map_some]
  · simp only [if_neg same]

/-! ## Counting torn down sessions -/

/-- How many sessions of an instance have been torn down. -/
def tornDown (registry : Registry) (handle : Handle) : Nat :=
  registry.sessions.countP fun session => session.freed && session.handle == handle

/-- Marking a session as released leaves the count alone. -/
theorem tornDown_release {registry : Registry} {id : SessionId} {session : Session}
    (found : registry.sessions[id]? = some session) (handle : Handle) :
    (registry.marked id).tornDown handle = registry.tornDown handle := by
  rcases update_sessions_of_found found fun session => { session with released := true } with
    ⟨bound, updated⟩
  have here : registry.sessions[id] = session := (Array.getElem?_eq_some_iff.mp found).2
  unfold tornDown marked
  rw [updated, Array.countP_set, here]
  dsimp only
  split
  · next counted =>
      have positive : 0 < registry.sessions.countP
          fun session => session.freed && session.handle == handle :=
        Array.countP_pos_iff.mpr ⟨session, here ▸ Array.getElem_mem bound, counted⟩
      omega
  · rfl

/-- Tearing a session down counts once, for its own instance. -/
theorem tornDown_free {registry : Registry} {id : SessionId} {session : Session}
    (found : registry.sessions[id]? = some session) (standing : session.freed = false)
    (handle : Handle) :
    (registry.update id fun session => { session with freed := true }).tornDown handle =
      registry.tornDown handle + if session.handle = handle then 1 else 0 := by
  rcases update_sessions_of_found found fun session => { session with freed := true } with
    ⟨bound, updated⟩
  have here : registry.sessions[id] = session := (Array.getElem?_eq_some_iff.mp found).2
  unfold tornDown
  rw [updated, Array.countP_set, here, standing]
  simp only [Bool.false_and, Bool.false_eq_true, if_false, Nat.sub_zero, Bool.true_and, beq_iff_eq]

/-- A new session has not been torn down. -/
theorem tornDown_enter (registry : Registry) (handle other : Handle) :
    (registry.enter handle).tornDown other = registry.tornDown other := by
  simp [tornDown, enter]

/-! ## Finding an entry -/

/-- An id is found exactly as long as its session is in the table unreleased. -/
theorem lookup_eq_ok_iff {registry : Registry} {raw : Int} {id : SessionId} :
    registry.lookup raw = .ok id ↔
      0 ≤ raw ∧ raw.toNat = id ∧
        ∃ session, registry.sessions[id]? = some session ∧ session.released = false := by
  unfold lookup sessionId
  by_cases negative : 0 ≤ raw
  · rw [if_pos negative]
    cases found : registry.sessions[raw.toNat]? with
    | none =>
        constructor
        · intro impossible
          simp only [found] at impossible
          cases impossible
        · rintro ⟨_, rfl, session, impossible, _⟩
          rw [found] at impossible
          cases impossible
    | some session =>
        simp only [found]
        cases released : session.released with
        | true =>
            constructor
            · intro impossible
              cases impossible
            · rintro ⟨_, rfl, other, same, unreleased⟩
              rw [found, Option.some.injEq] at same
              subst other
              rw [released] at unreleased
              cases unreleased
        | false =>
            constructor
            · intro here
              cases here
              exact ⟨negative, rfl, session, found, released⟩
            · rintro ⟨_, rfl, _⟩
              rfl
  · rw [if_neg negative]
    constructor
    · intro impossible
      cases impossible
    · rintro ⟨nonnegative, _⟩
      exact absurd nonnegative negative

/-- Whatever is not found is reported under the id that was asked for. -/
theorem lookup_eq_error {registry : Registry} {raw : Int} {error : RegistryError}
    (refused : registry.lookup raw = .error error) : error = .sessionNotFound raw := by
  unfold lookup sessionId at refused
  by_cases negative : 0 ≤ raw
  · rw [if_pos negative] at refused
    cases found : registry.sessions[raw.toNat]? with
    | none =>
        simp only [found] at refused
        cases refused
        rfl
    | some session =>
        simp only [found] at refused
        split at refused
        · cases refused
          rfl
        · cases refused
  · rw [if_neg negative] at refused
    cases refused
    rfl

/-! ## Preparing an entry -/

/-- A table starts without sessions. -/
theorem init_sessions {memory : Memory} {config : RegistryConfig} {registry : Registry}
    (initial : Registry.init memory config = .ok registry) : registry.sessions = #[] := by
  unfold Registry.init at initial
  dsimp only at initial
  split at initial
  · cases initial
  · cases initial
    rfl

/-- A table starts with its creation lock in order. -/
theorem init_abandoned {memory : Memory} {config : RegistryConfig} {registry : Registry}
    (initial : Registry.init memory config = .ok registry) : registry.abandoned = false := by
  unfold Registry.init at initial
  dsimp only at initial
  split at initial
  · cases initial
  · cases initial
    rfl

theorem sessions_of_reserve {registry grown : Registry} (reserved : registry.reserve = .ok grown) :
    grown.sessions = registry.sessions := by
  unfold reserve at reserved
  split at reserved
  · cases reserved
    rfl
  · split at reserved
    · cases reserved
    · cases reserved
      rfl

theorem prepare_sessions (registry : Registry) : registry.prepare.2.sessions = registry.sessions := by
  unfold prepare reserveSlot
  split
  · rfl
  · cases registry.limit? with
    | some limit => rfl
    | none =>
        dsimp only
        cases reserved : registry.reserve with
        | error cause => rfl
        | ok grown => exact sessions_of_reserve reserved

/-! ## Storage -/

/-- Storage is a number of whole chunks, of which only the last one may have
room left. -/
structure InChunks (registry : Registry) : Prop where
  chunk : 0 < registry.chunkSize
  capacity : registry.capacity = registry.chunkSize * (registry.growths + 1)
  filled : registry.chunkSize * registry.growths ≤ registry.size
  fits : registry.size ≤ registry.capacity

/-- Storage is in chunks, and the machine would grant all of it again. -/
structure Roomy (registry : Registry) : Prop extends InChunks registry where
  reserved : registry.memory.reserve registry.capacity = .ok ()

/-- The slots that there must be for one more session. -/
def needed (registry : Registry) : Nat :=
  registry.chunkSize * (registry.size / registry.chunkSize + 1)

/-- The table with as much storage as one more session needs. -/
def extended (registry : Registry) : Registry :=
  { registry with
    capacity := registry.needed
    growths := registry.size / registry.chunkSize }

/-- The table with one more chunk of storage. -/
def grown (registry : Registry) : Registry :=
  { registry with
    capacity := registry.capacity + registry.chunkSize
    growths := registry.growths + 1 }

theorem init_roomy {memory : Memory} {config : RegistryConfig} {registry : Registry}
    (initial : Registry.init memory config = .ok registry) : registry.Roomy := by
  unfold Registry.init at initial
  dsimp only at initial
  split at initial
  · cases initial
  · next reserved =>
      cases initial
      refine ⟨⟨?_, ?_, ?_, ?_⟩, reserved⟩
      · exact Nat.le_max_right _ _
      · exact (Nat.mul_one _).symm
      · exact Nat.zero_le _
      · exact Nat.zero_le _

namespace InChunks

variable {registry : Registry}

theorem chunks_of_room (chunks : registry.InChunks) (room : registry.size < registry.capacity) :
    registry.size / registry.chunkSize = registry.growths := by
  apply Nat.div_eq_of_lt_le
  · rw [Nat.mul_comm]
    exact chunks.filled
  · rw [Nat.mul_comm, ← chunks.capacity]
    exact room

theorem chunks_of_full (chunks : registry.InChunks) (full : registry.size = registry.capacity) :
    registry.size / registry.chunkSize = registry.growths + 1 := by
  rw [full, chunks.capacity]
  exact Nat.mul_div_cancel_left _ chunks.chunk

/-- One more session needs one more chunk exactly where there is no room left. -/
theorem extended_eq (chunks : registry.InChunks) :
    registry.extended =
      if registry.size = registry.capacity then registry.grown else registry := by
  split
  · next full =>
      simp only [extended, needed, grown, chunks.chunks_of_full full, Nat.mul_succ, chunks.capacity]
  · next unfilled =>
      have room : registry.size < registry.capacity := Nat.lt_of_le_of_ne chunks.fits unfilled
      simp only [extended, needed, chunks.chunks_of_room room, ← chunks.capacity]

/-- The machine is asked only where the sessions fill what there is, and then for
the storage that is needed. -/
theorem reserve_eq (chunks : registry.InChunks) :
    registry.reserve =
      if registry.size < registry.capacity then .ok registry.extended
      else (registry.memory.reserve registry.needed).map fun _ => registry.extended := by
  rw [chunks.extended_eq]
  unfold reserve
  by_cases room : registry.size < registry.capacity
  · rw [if_pos room, if_neg (Nat.ne_of_lt room)]
    exact if_pos room
  · have full : registry.size = registry.capacity :=
      Nat.le_antisymm chunks.fits (Nat.le_of_not_lt room)
    have needed : registry.capacity + registry.chunkSize = registry.needed := by
      rw [Registry.needed, chunks.chunks_of_full full, Nat.mul_succ, ← chunks.capacity]
    have grown : registry.grown = { registry with
        capacity := registry.needed, growths := registry.growths + 1 } := by
      rw [← needed]
      rfl
    rw [if_neg room, if_pos full, grown, ← needed]
    unfold size at full room
    rw [if_neg room, full]
    cases registry.memory.reserve (registry.capacity + registry.chunkSize) with
    | error cause => rfl
    | ok _ => rfl

theorem extended (chunks : registry.InChunks) : registry.extended.InChunks := by
  refine ⟨chunks.chunk, rfl, Nat.mul_div_le _ _, ?_⟩
  exact Nat.le_of_lt (Nat.lt_mul_div_succ registry.size chunks.chunk)

/-- There is room for one session more in a table that was extended. -/
theorem enter (chunks : registry.InChunks) (handle : Handle) :
    (registry.extended.enter handle).InChunks := by
  have size : (registry.extended.enter handle).size = registry.size + 1 := Array.size_push _
  refine ⟨chunks.chunk, rfl, ?_, ?_⟩
  · rw [size]
    exact Nat.le_succ_of_le chunks.extended.filled
  · rw [size]
    exact Nat.lt_mul_div_succ registry.size chunks.chunk

theorem update (chunks : registry.InChunks) (id : SessionId) (change : Session → Session) :
    (registry.update id change).InChunks := by
  refine ⟨chunks.chunk, chunks.capacity, ?_, ?_⟩
  · rw [size_update]
    exact chunks.filled
  · rw [size_update]
    exact chunks.fits

/-- The whole of the first half of a creation. -/
theorem prepare_eq (chunks : registry.InChunks) :
    registry.prepare =
      if registry.abandoned then (.error .lockAbandoned, { registry with abandoned := false })
      else match registry.limit? with
        | some limit => (.error (.allocationFailure (.limitReached limit)), registry)
        | none =>
          if registry.size < registry.capacity then (.ok (), registry.extended)
          else match registry.memory.reserve registry.needed with
            | .error cause => (.error (.allocationFailure cause), registry)
            | .ok () => (.ok (), registry.extended) := by
  unfold prepare reserveSlot
  rw [chunks.reserve_eq]
  cases registry.limit? with
  | some limit => rfl
  | none =>
      by_cases room : registry.size < registry.capacity
      · simp only [if_pos room]
      · simp only [if_neg room]
        cases registry.memory.reserve registry.needed with
        | error cause => rfl
        | ok _ => rfl

end InChunks

/-- Where the machine would grant again what there is, it may as well be asked every
time. -/
theorem reserve_eq {registry : Registry} (roomy : registry.Roomy) :
    registry.reserve = (registry.memory.reserve registry.needed).map fun _ => registry.extended := by
  rw [roomy.toInChunks.reserve_eq]
  split
  · next room =>
      have needed : registry.needed = registry.capacity := by
        rw [Registry.needed, roomy.chunks_of_room room, ← roomy.capacity]
      rw [needed, roomy.reserved]
      rfl
  · rfl

theorem roomy_extended {registry : Registry} (roomy : registry.Roomy)
    (reserved : registry.memory.reserve registry.needed = .ok ()) : registry.extended.Roomy :=
  ⟨roomy.toInChunks.extended, reserved⟩

theorem roomy_enter {registry : Registry} (roomy : registry.Roomy)
    (reserved : registry.memory.reserve registry.needed = .ok ()) (handle : Handle) :
    (registry.extended.enter handle).Roomy :=
  ⟨roomy.toInChunks.enter handle, reserved⟩

theorem roomy_abandon {registry : Registry} (roomy : registry.Roomy) (abandoned : Bool) :
    { registry with abandoned }.Roomy :=
  ⟨⟨roomy.chunk, roomy.capacity, roomy.filled, roomy.fits⟩, roomy.reserved⟩

theorem roomy_update {registry : Registry} (roomy : registry.Roomy) (id : SessionId)
    (change : Session → Session) : (registry.update id change).Roomy :=
  ⟨roomy.toInChunks.update id change, roomy.reserved⟩

/-- The first half of a creation that may ask the machine every time. -/
theorem prepare_eq {registry : Registry} (roomy : registry.Roomy) :
    registry.prepare =
      if registry.abandoned then (.error .lockAbandoned, { registry with abandoned := false })
      else match registry.limit? with
        | some limit => (.error (.allocationFailure (.limitReached limit)), registry)
        | none =>
          match registry.memory.reserve registry.needed with
          | .error cause => (.error (.allocationFailure cause), registry)
          | .ok () => (.ok (), registry.extended) := by
  unfold prepare reserveSlot
  rw [reserve_eq roomy]
  cases registry.limit? with
  | some limit => rfl
  | none =>
      cases registry.memory.reserve registry.needed with
      | error cause => rfl
      | ok _ => rfl

/-- Refusing or making room keeps storage in order. -/
theorem roomy_prepare {registry : Registry} (roomy : registry.Roomy) :
    registry.prepare.2.Roomy := by
  rw [prepare_eq roomy]
  split
  · exact roomy_abandon roomy false
  · cases registry.limit? with
    | some limit => exact roomy
    | none =>
        cases reserved : registry.memory.reserve registry.needed with
        | error cause => exact roomy
        | ok _ => exact roomy_extended roomy reserved

/-- A table that is ready for one more session has room for it. -/
theorem prepare_of_ready {registry : Registry} (roomy : registry.Roomy)
    (ready : registry.prepare.1 = .ok ()) :
    registry.prepare.2 = registry.extended ∧
      registry.memory.reserve registry.needed = .ok () := by
  rw [prepare_eq roomy] at ready ⊢
  split at ready
  · cases ready
  · next standing =>
      rw [if_neg standing]
      cases reached : registry.limit? with
      | some limit =>
          simp only [reached] at ready
          cases ready
      | none =>
          simp only [reached] at ready
          cases reserved : registry.memory.reserve registry.needed with
          | error refusal =>
              simp only [reserved] at ready
              cases ready
          | ok _ => exact ⟨rfl, rfl⟩

end Registry

end SessionHost
