import SessionHost.Engine.Recording
import SessionHost.Proofs.Ledger

namespace SessionHost

/-!
# The session table over a whole run

What the session table does next is settled by what was asked of it so far and
what it answered, by its configuration, by what the factory does, and by the memory
that there is just then.  The history of a run records the requests with their
outcomes; the specification reads off it which creation comes next and which ids are
valid.
-/

/-- What may be asked of the session table. -/
inductive TableRequest where
  | acquire
  | lookup (raw : Int) (keepAs : Option String)
  | release (raw : Int)
  | incrementBreak (raw : Int)
  | forward (raw : Int) (call : Call)

def TableRequest.operation : TableRequest → Operation
  | acquire => .acquire
  | lookup raw keepAs => .lookup raw keepAs
  | release raw => .release raw
  | incrementBreak raw => .incrementBreak raw
  | forward raw call => .forward raw call

/-- A request and what came of it. -/
structure TableEvent where
  request : TableRequest
  outcome : Except Halt Answer

/-- The creation gave out an id. -/
def TableEvent.isCreation : TableEvent → Bool
  | ⟨.acquire, .ok (.session _)⟩ => true
  | _ => false

/-- The factory was asked for an instance, whatever came of it. -/
def TableEvent.isAsking : TableEvent → Bool
  | ⟨.acquire, .ok (.session _)⟩ => true
  | ⟨.acquire, .ok (.refused (.allocationFailure .noInstance))⟩ => true
  | ⟨.acquire, .error .unwound⟩ => true
  | _ => false

/-- The events of a run, the latest first. -/
abbrev TableHistory := List TableEvent

namespace TableHistory

/-- How many ids have been given out. -/
def issued (history : TableHistory) : Nat :=
  history.countP TableEvent.isCreation

/-- How many slots were reserved.  There are those of one more session before the
factory is asked for it, and they stay. -/
def reserved (chunk : Nat) : TableHistory → Nat
  | [] => chunk
  | event :: earlier =>
    if event.isAsking then chunk * (issued earlier / chunk + 1) else reserved chunk earlier

/-- The last creation unwound out of the factory. -/
def unwound : TableHistory → Bool
  | [] => false
  | ⟨.acquire, .error .unwound⟩ :: _ => true
  | ⟨.acquire, _⟩ :: _ => false
  | _ :: earlier => unwound earlier

/-- An id was released. -/
def Released (history : TableHistory) (raw : Int) : Prop :=
  ⟨.release raw, .ok .done⟩ ∈ history

/-- An id was given out and has not been released. -/
def Valid (history : TableHistory) (raw : Int) : Prop :=
  0 ≤ raw ∧ raw < history.issued ∧ ¬ history.Released raw

/-- Why the factory is not even asked, in the order in which the causes count:
an unwound creation that nobody was told of, the limit, and the storage for one
more chunk.  Storage that was reserved before is not asked for again. -/
def refusal? (memory : Memory) (config : RegistryConfig) (history : TableHistory) :
    Option RegistryError :=
  if history.unwound then some .lockAbandoned
  else match config.maxSessions.filter (· ≤ history.issued) with
    | some limit => some (.allocationFailure (.limitReached limit))
    | none =>
      let chunk := max config.chunkSize 1
      if history.issued < history.reserved chunk then none
      else match memory.reserve (chunk * (history.issued / chunk + 1)) with
        | .error cause => some (.allocationFailure cause)
        | .ok () => none

end TableHistory

/-- What a creation comes to. -/
structure Acquisition (σ : Type) where
  outcome : Except Halt Answer
  engine : σ
  /-- What it adds to the journal. -/
  entries : List Entry

namespace TableHistory

variable {σ : Type} [Engine σ]

/-- The creation that comes next.  The factory is asked at most once. -/
def acquisition (memory : Memory) (config : RegistryConfig) (history : TableHistory)
    (host : Host σ) : Acquisition σ :=
  match history.refusal? memory config with
  | some error => ⟨.ok (.refused error), host.engine, []⟩
  | none =>
    let (creation, engine) := Engine.create host.engine host.cells.size
    match creation with
    | .fresh _ => ⟨.ok (.session history.issued), engine, [.created (some host.cells.size)]⟩
    | .again handle => ⟨.ok (.session history.issued), engine, [.created (some handle)]⟩
    | .nothing => ⟨.ok (.refused (.allocationFailure .noInstance)), engine, [.created none]⟩
    | .unwound => ⟨.error .unwound, engine, []⟩

end TableHistory

namespace Host

variable {σ : Type}

/-! ## The ledger and the history -/

/-- A ledger shows what the history says of it. -/
structure Ledger.Agrees (ledger : Ledger) (config : RegistryConfig) (history : TableHistory) :
    Prop where
  opened : ledger.opened = true
  chunk : ledger.registry.chunkSize = max config.chunkSize 1
  limit : ledger.registry.maxSessions = config.maxSessions
  chunks : ledger.registry.InChunks
  capacity : ledger.registry.capacity = history.reserved (max config.chunkSize 1)
  unwound : ledger.registry.abandoned = history.unwound
  issued : ledger.registry.size = history.issued
  produced : ledger.produced = ledger.registry.sessions.toList.map (·.handle)
  released : ∀ (id : SessionId) (session : Session),
    ledger.registry.sessions[id]? = some session →
      (session.released = true ↔ history.Released id)
  known : ∀ raw, history.Released raw → raw < history.issued

variable {memory : Memory} {config : RegistryConfig} {history : TableHistory} {ledger : Ledger}
  {host : Host σ}

theorem init_agrees {engine : σ} {bridges : List Bridge}
    (initial : Host.init engine memory config bridges = .ok host) :
    host.ledger.Agrees config [] := by
  unfold Host.init at initial
  cases opened : Registry.init memory config with
  | error error =>
      rw [opened] at initial
      cases initial
  | ok registry =>
      rw [opened] at initial
      cases initial
      have roomy := Registry.init_roomy opened
      have empty : registry.unmarked.sessions = #[] := by
        unfold Registry.unmarked
        dsimp only
        rw [Registry.init_sessions opened, Array.map_empty]
      have none (id : SessionId) : registry.unmarked.sessions[id]? = none := by
        rw [empty]
        rfl
      have issued : registry.unmarked.size = 0 := congrArg Array.size empty
      have produced : [] = registry.unmarked.sessions.toList.map (·.handle) := by
        rw [empty]
        rfl
      unfold Registry.init at opened
      dsimp only at opened
      split at opened
      · cases opened
      · cases opened
        refine ⟨rfl, rfl, rfl, (Registry.inChunks_unmarked _).mpr roomy.toInChunks, rfl, rfl,
          issued, produced, ?_, ?_⟩
        · intro id session found
          cases (none id).symm.trans found
        · intro raw released
          cases released

/-- An event that neither creates nor releases is no news to the ledger. -/
theorem Ledger.Agrees.extend (agrees : ledger.Agrees config history)
    {event : TableEvent} (noCreation : event.request ≠ .acquire)
    (noRelease : ∀ raw, event ≠ ⟨.release raw, .ok .done⟩) :
    ledger.Agrees config (event :: history) := by
  have unwound : TableHistory.unwound (event :: history) = history.unwound := by
    rcases event with ⟨request, outcome⟩
    cases request with
    | acquire => exact absurd rfl noCreation
    | lookup _ _ => rfl
    | release _ => rfl
    | incrementBreak _ => rfl
    | forward _ _ => rfl
  have issued : TableHistory.issued (event :: history) = history.issued := by
    apply List.countP_cons_of_neg
    rcases event with ⟨request, outcome⟩
    cases request with
    | acquire => exact absurd rfl noCreation
    | lookup _ _ => exact Bool.false_ne_true
    | release _ => exact Bool.false_ne_true
    | incrementBreak _ => exact Bool.false_ne_true
    | forward _ _ => exact Bool.false_ne_true
  have unasked : event.isAsking = false := by
    rcases event with ⟨request, outcome⟩
    cases request with
    | acquire => exact absurd rfl noCreation
    | lookup _ _ => rfl
    | release _ => rfl
    | incrementBreak _ => rfl
    | forward _ _ => rfl
  have releases (raw : Int) :
      TableHistory.Released (event :: history) raw ↔ history.Released raw := by
    constructor
    · intro listed
      rcases List.mem_cons.mp listed with same | listed
      · exact absurd same.symm (noRelease raw)
      · exact listed
    · exact List.mem_cons_of_mem event
  refine { agrees with capacity := ?_, unwound := ?_, issued := ?_, released := ?_, known := ?_ }
  · rw [TableHistory.reserved, unasked]
    exact agrees.capacity
  · rw [unwound]
    exact agrees.unwound
  · rw [issued]
    exact agrees.issued
  · intro id session found
    rw [releases]
    exact agrees.released id session found
  · intro raw released
    rw [issued]
    exact agrees.known raw ((releases raw).mp released)

theorem released_cons_acquire (outcome : Except Halt Answer) (raw : Int) :
    TableHistory.Released (⟨.acquire, outcome⟩ :: history) raw ↔ history.Released raw := by
  constructor
  · intro listed
    rcases List.mem_cons.mp listed with same | listed
    · injection same with impossible
      cases impossible
    · exact listed
  · exact List.mem_cons_of_mem _

/-- The storage that one more session needs, as the history tells it. -/
theorem Ledger.Agrees.needed (agrees : ledger.Agrees config history) :
    ledger.registry.needed =
      max config.chunkSize 1 * (history.issued / max config.chunkSize 1 + 1) := by
  rw [Registry.needed, agrees.chunk, agrees.issued]

/-- A creation that gave out no id, though it may have taken storage. -/
theorem Ledger.Agrees.failed (agrees : ledger.Agrees config history)
    {outcome : Except Halt Answer} {capacity growths : Nat} {abandoned : Bool}
    (chunks : { ledger.registry with capacity, growths }.InChunks)
    (reserved : capacity =
      TableHistory.reserved (max config.chunkSize 1) (⟨.acquire, outcome⟩ :: history))
    (noId : TableEvent.isCreation ⟨.acquire, outcome⟩ = false)
    (unwound : TableHistory.unwound (⟨.acquire, outcome⟩ :: history) = abandoned) :
    Ledger.Agrees
      { ledger with registry := { ledger.registry with capacity, growths, abandoned } } config
      (⟨.acquire, outcome⟩ :: history) := by
  have issued : TableHistory.issued (⟨.acquire, outcome⟩ :: history) = history.issued :=
    List.countP_cons_of_neg (by simp [noId])
  refine ⟨agrees.opened, agrees.chunk, agrees.limit,
    ⟨chunks.chunk, chunks.capacity, chunks.filled, chunks.fits⟩, reserved, unwound.symm, ?_,
    agrees.produced, ?_, ?_⟩
  · rw [issued]
    exact agrees.issued
  · intro id session found
    rw [released_cons_acquire]
    exact agrees.released id session found
  · intro raw released
    rw [issued]
    exact agrees.known raw ((released_cons_acquire outcome raw).mp released)

/-- A creation that gave out the next id. -/
theorem Ledger.Agrees.created (agrees : ledger.Agrees config history)
    (idle : ledger.registry.abandoned = false) (handle : Handle) (id : SessionId) :
    Ledger.Agrees
      { ledger with
        registry := ledger.registry.extended.enter handle
        produced := ledger.produced ++ [handle] }
      config (⟨.acquire, .ok (.session id)⟩ :: history) := by
  have issued : TableHistory.issued (⟨.acquire, .ok (.session id)⟩ :: history) =
      history.issued + 1 := List.countP_cons_of_pos rfl
  refine ⟨agrees.opened, agrees.chunk, agrees.limit, agrees.chunks.enter handle, agrees.needed,
    idle, ?_, ?_, ?_, ?_⟩
  · rw [issued, ← agrees.issued]
    exact Array.size_push _
  · rw [agrees.produced]
    simp [Registry.enter, Registry.extended]
  · intro other session found
    rw [released_cons_acquire]
    have pushed : (if other = ledger.registry.size then some { handle }
        else ledger.registry.sessions[other]?) = some session := by
      rw [← found]
      exact Array.getElem?_push.symm
    split at pushed
    · next isNew =>
        cases pushed
        constructor
        · intro impossible
          cases impossible
        · intro released
          have bound := agrees.known other released
          rw [isNew, agrees.issued] at bound
          exact absurd bound (Int.lt_irrefl _)
    · exact agrees.released other session pushed
  · intro raw released
    rw [issued]
    have bound := agrees.known raw ((released_cons_acquire _ raw).mp released)
    omega

/-- A release of an id that was found. -/
theorem Ledger.Agrees.release (agrees : ledger.Agrees config history) {raw : Int}
    {id : SessionId} (found : ledger.registry.lookup raw = .ok id) :
    Ledger.Agrees { ledger with registry := ledger.registry.marked id } config
      (⟨.release raw, .ok .done⟩ :: history) := by
  rcases Registry.lookup_eq_ok_iff.mp found with ⟨nonnegative, same, session, here, _⟩
  have cast : raw = id := by omega
  subst cast
  have issued : TableHistory.issued (⟨.release id, .ok .done⟩ :: history) = history.issued :=
    List.countP_cons_of_neg Bool.false_ne_true
  have releases (other : Int) :
      TableHistory.Released (⟨.release id, .ok .done⟩ :: history) other ↔
        other = id ∨ history.Released other := by
    unfold TableHistory.Released
    simp
  have size : (ledger.registry.marked id).size = ledger.registry.size :=
    Registry.size_update ledger.registry id _
  refine ⟨agrees.opened, agrees.chunk, agrees.limit, agrees.chunks.update id _, agrees.capacity,
    agrees.unwound, ?_, ?_, ?_, ?_⟩
  · rw [issued, size]
    exact agrees.issued
  · exact agrees.produced.trans (Registry.handles_marked ledger.registry id).symm
  · intro other later found
    rw [Registry.getElem?_marked] at found
    rw [releases]
    split at found
    · next same =>
        rcases Option.map_eq_some_iff.mp found with ⟨before, _, rfl⟩
        exact ⟨fun _ => Or.inl (congrArg Int.ofNat same.symm), fun _ => rfl⟩
    · next different =>
        rw [agrees.released other later found]
        constructor
        · exact Or.inr
        · rintro (same | released)
          · exact absurd (Int.ofNat.inj same).symm different
          · exact released
  · intro other released
    rw [issued]
    rcases (releases other).mp released with rfl | released
    · have bound := (Array.getElem?_eq_some_iff.mp here).1
      have issued : id < history.issued := Nat.lt_of_lt_of_eq bound agrees.issued
      exact Int.ofNat_lt.mpr issued
    · exact agrees.known other released

/-- The table finds the valid ids. -/
theorem lookup_of_valid (agrees : host.ledger.Agrees config history) {raw : Int}
    (valid : history.Valid raw) : host.registry.lookup raw = .ok raw.toNat := by
  rcases valid with ⟨nonnegative, issued, unreleased⟩
  have bound : raw.toNat < host.ledger.registry.sessions.size := by
    have size := agrees.issued
    unfold Registry.size at size
    omega
  have found := Array.getElem?_eq_getElem bound
  rw [← Registry.lookup_unmarked]
  refine Registry.lookup_eq_ok_iff.mpr ⟨nonnegative, rfl, _, found, ?_⟩
  apply Bool.eq_false_iff.mpr
  intro released
  have isReleased := (agrees.released _ _ found).mp released
  rw [Int.toNat_of_nonneg nonnegative] at isReleased
  exact unreleased isReleased

/-- The table finds no other ids. -/
theorem lookup_of_invalid (agrees : host.ledger.Agrees config history) {raw : Int}
    (invalid : ¬ history.Valid raw) :
    host.registry.lookup raw = .error (.sessionNotFound raw) := by
  cases looked : host.registry.lookup raw with
  | error error => rw [Registry.lookup_eq_error looked]
  | ok id =>
      rw [← Registry.lookup_unmarked] at looked
      rcases Registry.lookup_eq_ok_iff.mp looked with ⟨nonnegative, same, session, found, unreleased⟩
      have cast : (id : Int) = raw := by omega
      refine absurd ⟨nonnegative, ?_, ?_⟩ invalid
      · have bound := (Array.getElem?_eq_some_iff.mp found).1
        have size := agrees.issued
        unfold Registry.size at size
        have issued : id < history.issued := Nat.lt_of_lt_of_eq bound size
        rw [← cast]
        exact Int.ofNat_lt.mpr issued
      · intro released
        rw [← cast] at released
        rw [(agrees.released id session found).mpr released] at unreleased
        cases unreleased

/-- What stands in the way of a creation never speaks for the factory. -/
theorem noInstance_ne_refusal? {error : RegistryError}
    (refusal : history.refusal? memory config = some error) :
    error ≠ .allocationFailure .noInstance := by
  unfold TableHistory.refusal? at refusal
  dsimp only at refusal
  split at refusal
  · cases refusal
    simp
  · split at refusal
    · cases refusal
      simp
    · split at refusal
      · cases refusal
      · split at refusal
        · next cause failed =>
            cases refusal
            simpa using Memory.reserve_ne_noInstance failed
        · cases refusal

/-- The first half of a creation refuses just where the history says so.  What
it leaves behind is a table without an abandoned lock, extended if need be. -/
theorem prepare_of_agrees (agrees : host.ledger.Agrees config history)
    (machine : host.registry.memory = memory) :
    match history.refusal? memory config with
    | some error =>
      host.registry.prepare = (.error error, { host.registry with abandoned := false })
    | none => host.registry.prepare = (.ok (), host.registry.extended) ∧
        host.registry.abandoned = false := by
  subst machine
  have size : host.registry.size = history.issued :=
    (Registry.size_unmarked host.registry).symm.trans agrees.issued
  have chunks : host.registry.InChunks :=
    (Registry.inChunks_unmarked host.registry).mp agrees.chunks
  have abandoned : host.registry.abandoned = history.unwound := agrees.unwound
  have capacity : host.registry.capacity = history.reserved (max config.chunkSize 1) :=
    agrees.capacity
  have limit : host.registry.limit? = config.maxSessions.filter (· ≤ history.issued) := by
    have configured : host.registry.maxSessions = config.maxSessions := agrees.limit
    unfold Registry.limit?
    rw [configured]
    exact congrArg (fun size => config.maxSessions.filter fun limit => limit ≤ size) size
  have needed : host.registry.needed =
      max config.chunkSize 1 * (history.issued / max config.chunkSize 1 + 1) :=
    (Registry.needed_unmarked host.registry).symm.trans agrees.needed
  have room : (host.registry.size < host.registry.capacity) =
      (history.issued < history.reserved (max config.chunkSize 1)) := by
    rw [size, capacity]
  have same (idle : history.unwound = false) :
      { host.registry with abandoned := false } = host.registry := by
    rw [← idle, ← abandoned]
  unfold TableHistory.refusal?
  dsimp only
  rw [chunks.prepare_eq, abandoned, limit, needed]
  simp only [room]
  cases idle : history.unwound with
  | true => rfl
  | false =>
      simp only [Bool.false_eq_true, if_false]
      rw [same idle]
      cases config.maxSessions.filter (· ≤ history.issued) with
      | some limit => rfl
      | none =>
          dsimp only
          by_cases there : history.issued < history.reserved (max config.chunkSize 1)
          · simp only [if_pos there]
            exact ⟨trivial, trivial⟩
          · simp only [if_neg there]
            cases host.registry.memory.reserve (max config.chunkSize 1 *
                (history.issued / max config.chunkSize 1 + 1)) with
            | error cause => rfl
            | ok _ => exact ⟨rfl, trivial⟩

/-! ## The specification -/

variable [Engine σ]

/-- Make requests one after another, each with the memory that there is for it, and
record what came of them on top of what was recorded before. -/
def transact (host : Host σ) (history : TableHistory) :
    List (Memory × TableRequest) → TableHistory × Host σ
  | [] => (history, host)
  | (memory, request) :: rest =>
    ((host.onMachine memory).after request.operation).transact
      (⟨request, (host.onMachine memory).outcome request.operation⟩ :: history) rest

/-- What a table whose history is known answers to everything it may be asked, with this
memory. -/
structure Answers (memory : Memory) (config : RegistryConfig) (history : TableHistory)
    (host : Host σ) : Prop where
  acquire :
    host.outcome .acquire = (history.acquisition memory config host).outcome ∧
      (host.after .acquire).engine = (history.acquisition memory config host).engine ∧
      (host.after .acquire).journal =
        (history.acquisition memory config host).entries ++ host.journal
  /-- The factory gave one instance for each id. -/
  produced : host.produced.length = history.issued
  /-- A valid id leads to the very instance that the factory gave for it. -/
  valid : ∀ raw, history.Valid raw → ∃ handle, host.produced[raw.toNat]? = some handle ∧
    (host.registry.sessions[raw.toNat]?.map (·.handle)) = some handle ∧
    (∀ keepAs, host.outcome (.lookup raw keepAs) = .ok (.session raw.toNat)) ∧
    host.outcome (.release raw) = .ok .done ∧
    (∃ value, host.outcome (.incrementBreak raw) = .ok (.cell value)) ∧
    ∀ call : Call, call.isSendable = true →
      ∃ entries, (host.after (.forward raw call)).journal =
        entries ++ .called handle call :: host.journal
  /-- Any other id is reported as it was given, and nothing comes of it. -/
  invalid : ∀ raw, ¬ history.Valid raw →
    (∀ keepAs, host.outcome (.lookup raw keepAs) = .ok (.refused (.sessionNotFound raw)) ∧
      host.after (.lookup raw keepAs) = host) ∧
    (host.outcome (.release raw) = .ok (.refused (.sessionNotFound raw)) ∧
      host.after (.release raw) = host) ∧
    (host.outcome (.incrementBreak raw) = .ok (.refused (.sessionNotFound raw)) ∧
      host.after (.incrementBreak raw) = host) ∧
    ∀ call, host.outcome (.forward raw call) =
        .ok (.notForwarded (.session (.sessionNotFound raw))) ∧
      host.after (.forward raw call) = host

/-! ## Single requests -/

theorem perform_acquire (opened : host.opened = true) :
    perform .acquire host = match acquire host with
      | .ok (.ok id) next => .ok (.session id) next
      | .ok (.error error) next => .ok (.refused error) next
      | .error halt next => .error halt next := by
  rw [perform, withTable_of_opened opened]
  simp only [bind, EStateM.bind]
  cases acquire host with
  | ok answer next =>
      cases answer with
      | ok id => rfl
      | error error => rfl
  | error halt next => rfl

theorem perform_lookup (opened : host.opened = true) (raw : Int) (keepAs : Option String) :
    perform (.lookup raw keepAs) host = match host.registry.lookup raw with
      | .error error => .ok (.refused error) host
      | .ok id => .ok (.session id) (match keepAs with
        | none => host
        | some name => host.keepLease name id) := by
  rw [perform, withTable_of_opened opened, Hosting.get_bind]
  cases host.registry.lookup raw with
  | error error => rfl
  | ok id =>
      cases keepAs with
      | none => rfl
      | some name => rfl

theorem perform_release (opened : host.opened = true) (raw : Int) :
    perform (.release raw) host = match host.release raw with
      | (.error error, next) => .ok (.refused error) next
      | (.ok _, next) => .ok .done next := by
  rw [perform, withTable_of_opened opened, Hosting.modifyGet_bind]
  rcases host.release raw with ⟨answer, next⟩
  cases answer with
  | error error => rfl
  | ok id => rfl

theorem perform_incrementBreak (opened : host.opened = true) (raw : Int) :
    perform (.incrementBreak raw) host = match host.incrementBreak raw with
      | (.error error, next) => .ok (.refused error) next
      | (.ok value, next) => .ok (.cell value) next := by
  rw [perform, withTable_of_opened opened, Hosting.modifyGet_bind]
  rcases host.incrementBreak raw with ⟨answer, next⟩
  cases answer with
  | error error => rfl
  | ok value => rfl

theorem perform_forward_of_refused (opened : host.opened = true) {raw : Int}
    {error : RegistryError} (refused : host.registry.lookup raw = .error error) (call : Call) :
    perform (.forward raw call) host = .ok (.notForwarded (.session error)) host := by
  have answered : forward raw call host = .ok (.error (.session error)) host := by
    unfold forward
    rw [Hosting.get_bind, refused]
    rfl
  rw [perform, withTable_of_opened opened]
  simp only [bind, EStateM.bind, answered]
  rfl

/-- A call by id leaves the ledger alone, and reaches the instance of the id. -/
theorem perform_forward_leaves (opened : host.opened = true) {raw : Int} {id : SessionId}
    (found : host.registry.lookup raw = .ok id) {session : Session}
    (here : host.registry.sessions[id]? = some session) (call : Call) :
    Hosting.Leaves (perform (.forward raw call)) host fun next =>
      next.ledger = host.ledger ∧ (call.isSendable = true →
        ∃ entries, next.journal = entries ++ .called session.handle call :: host.journal) := by
  have called : Hosting.Leaves (callSession id call) host fun next =>
      next.ledger = host.ledger ∧
        ∃ entries, next.journal = entries ++ .called session.handle call :: host.journal := by
    unfold callSession Hosting.Leaves
    simp only [Hosting.leads_bind, Hosting.leads_get, here, Hosting.leads_map]
    apply ((call_served call host).and (call_journal call host)).mono
    rintro next ⟨served, journal⟩
    exact ⟨ledger_of_served served, journal⟩
  rw [perform, leaves_withTable_of_opened opened]
  unfold forward Hosting.Leaves
  simp only [Hosting.leads_bind, Hosting.leads_get, found]
  split
  · rw [Hosting.leads_bind]
    refine Hosting.Leads.mono called ?_ ?_
    · rintro answer next ⟨ledger, journal⟩
      cases answer with
      | none => exact ⟨ledger, fun _ => journal⟩
      | some result => exact ⟨ledger, fun _ => journal⟩
    · rintro _ next ⟨ledger, journal⟩
      exact ⟨ledger, fun _ => journal⟩
  · next refused => exact ⟨rfl, fun sendable => absurd sendable refused⟩

theorem acquire_answers (agrees : host.ledger.Agrees config history)
    (machine : host.registry.memory = memory) :
    (host.outcome .acquire = (history.acquisition memory config host).outcome ∧
      (host.after .acquire).engine = (history.acquisition memory config host).engine ∧
      (host.after .acquire).journal =
        (history.acquisition memory config host).entries ++ host.journal) ∧
      (host.after .acquire).ledger.Agrees config
        (⟨.acquire, host.outcome .acquire⟩ :: history) := by
  have prepared := prepare_of_agrees agrees machine
  unfold outcome after TableHistory.acquisition
  rw [perform_acquire agrees.opened]
  cases refusal : history.refusal? memory config with
  | some error =>
      rw [refusal] at prepared
      rcases acquire_of_refused (congrArg Prod.fst prepared) with ⟨records, refused⟩
      have unasked : TableEvent.isAsking ⟨.acquire, .ok (.refused error)⟩ = false := by
        have silent := noInstance_ne_refusal? refusal
        unfold TableEvent.isAsking
        split
        · next same => cases same
        · next same =>
            cases same
            exact absurd rfl silent
        · next same => cases same
        · rfl
      have reserved : host.registry.capacity = TableHistory.reserved (max config.chunkSize 1)
          (⟨.acquire, .ok (.refused error)⟩ :: history) := by
        rw [TableHistory.reserved, unasked]
        exact agrees.capacity
      rw [refused, prepared]
      exact ⟨⟨rfl, rfl, rfl⟩, agrees.failed agrees.chunks reserved rfl rfl⟩
  | none =>
      rw [refusal] at prepared
      rcases prepared with ⟨prepared, idle⟩
      have size : host.registry.extended.size = history.issued := by
        rw [← agrees.issued]
        exact (Registry.size_unmarked host.registry).symm
      rcases acquire_of_ready (congrArg Prod.fst prepared) with ⟨records, ready⟩
      rw [ready, prepared]
      have created (asked : Host σ) (extended : asked.registry = host.registry.extended)
          (opened : asked.opened = host.opened) (journal : asked.journal = host.journal)
          (handle : Handle) : (asked.enterSession handle).2.ledger.Agrees config
            (⟨.acquire, .ok (.session asked.registry.size)⟩ :: history) := by
        rw [ledger_enterSession extended opened journal]
        exact agrees.created idle handle asked.registry.size
      have failed {outcome : Except Halt Answer} {abandoned : Bool}
          (asked : TableEvent.isAsking ⟨.acquire, outcome⟩ = true)
          (noId : TableEvent.isCreation ⟨.acquire, outcome⟩ = false)
          (unwound : TableHistory.unwound (⟨.acquire, outcome⟩ :: history) = abandoned) :
          Ledger.Agrees { host.ledger with
            registry := { host.registry.extended.unmarked with abandoned } }
            config (⟨.acquire, outcome⟩ :: history) := by
        have reserved : host.ledger.registry.needed =
            TableHistory.reserved (max config.chunkSize 1) (⟨.acquire, outcome⟩ :: history) := by
          rw [TableHistory.reserved, asked]
          exact agrees.needed
        rw [Registry.unmarked_extended]
        exact agrees.failed agrees.chunks.extended reserved noId unwound
      rcases Engine.create host.engine host.cells.size with ⟨creation, engine⟩
      dsimp only
      let asked : Host σ :=
        { host with registry := host.registry.extended, engine }.say records
      cases creation with
      | fresh cell =>
          refine ⟨⟨?_, rfl, rfl⟩,
            created { asked with cells := asked.cells.push cell } rfl rfl rfl host.cells.size⟩
          exact congrArg (fun id => Except.ok (Answer.session id)) size
      | again handle =>
          refine ⟨⟨?_, rfl, rfl⟩, created asked rfl rfl rfl handle⟩
          exact congrArg (fun id => Except.ok (Answer.session id)) size
      | nothing => exact ⟨⟨rfl, rfl, rfl⟩, failed rfl rfl idle.symm⟩
      | unwound => exact ⟨⟨rfl, rfl, rfl⟩, failed rfl rfl rfl⟩

theorem ledger_keepLease (host : Host σ) (name : String) (id : SessionId) :
    (host.keepLease name id).ledger = host.ledger :=
  ledger_reap? { host with leases := host.leases.bind name id } (host.leases.find? name)

/-- Looking up, with or without keeping a lease. -/
theorem lookup_agrees (agrees : host.ledger.Agrees config history) (raw : Int)
    (keepAs : Option String) :
    (host.after (.lookup raw keepAs)).ledger.Agrees config
      (⟨.lookup raw keepAs, host.outcome (.lookup raw keepAs)⟩ :: history) := by
  have same : (host.after (.lookup raw keepAs)).ledger = host.ledger := by
    unfold after
    rw [perform_lookup agrees.opened]
    cases host.registry.lookup raw with
    | error error => rfl
    | ok id =>
        cases keepAs with
        | none => rfl
        | some name => exact ledger_keepLease host name id
  rw [same]
  exact agrees.extend (by simp) (by simp)

theorem incrementBreak_agrees (agrees : host.ledger.Agrees config history) (raw : Int) :
    (host.after (.incrementBreak raw)).ledger.Agrees config
      (⟨.incrementBreak raw, host.outcome (.incrementBreak raw)⟩ :: history) := by
  have served : Served 0 host (host.incrementBreak raw).2 := incrementBreak_served host raw
  have same : (host.after (.incrementBreak raw)).ledger = host.ledger := by
    unfold after
    rw [perform_incrementBreak agrees.opened, ← ledger_of_served served]
    rcases host.incrementBreak raw with ⟨answer, next⟩
    cases answer with
    | error error => rfl
    | ok value => rfl
  rw [same]
  exact agrees.extend (by simp) (by simp)

theorem forward_agrees (agrees : host.ledger.Agrees config history) (raw : Int)
    (call : Call) :
    (host.after (.forward raw call)).ledger.Agrees config
      (⟨.forward raw call, host.outcome (.forward raw call)⟩ :: history) := by
  have same : (host.after (.forward raw call)).ledger = host.ledger := by
    cases looked : host.registry.lookup raw with
    | error error =>
        unfold after
        rw [perform_forward_of_refused agrees.opened looked]
    | ok id =>
        rcases Registry.lookup_eq_ok_iff.mp looked with ⟨_, _, session, here, _⟩
        exact (after_of_leaves (perform_forward_leaves agrees.opened looked here call)).1
  rw [same]
  exact agrees.extend (by simp) (by simp)

theorem release_agrees (agrees : host.ledger.Agrees config history) (raw : Int) :
    (host.after (.release raw)).ledger.Agrees config
      (⟨.release raw, host.outcome (.release raw)⟩ :: history) := by
  unfold after outcome
  rw [perform_release agrees.opened]
  cases looked : host.registry.lookup raw with
  | error error =>
      rw [release_of_refused looked]
      exact agrees.extend (by simp) (by simp)
  | ok id =>
      rcases release_of_found looked with ⟨records, released⟩
      rw [released]
      dsimp only
      rw [ledger_reap]
      rw [← Registry.lookup_unmarked] at looked
      have ledger : ((host.marked id).say records).ledger =
          { host.ledger with registry := host.ledger.registry.marked id } :=
        congrArg (fun registry => { host.ledger with registry })
          (Registry.unmarked_marked host.registry id)
      rw [ledger]
      exact agrees.release looked

/-! ## Whole runs -/

theorem request_agrees (agrees : host.ledger.Agrees config history)
    (request : TableRequest) :
    (host.after request.operation).ledger.Agrees config
      (⟨request, host.outcome request.operation⟩ :: history) := by
  cases request with
  | acquire => exact (acquire_answers agrees rfl).2
  | lookup raw keepAs => exact lookup_agrees agrees raw keepAs
  | release raw => exact release_agrees agrees raw
  | incrementBreak raw => exact incrementBreak_agrees agrees raw
  | forward raw call => exact forward_agrees agrees raw call

/-- What the ledger agrees with settles every answer. -/
theorem answers_of_agrees (agrees : host.ledger.Agrees config history)
    (machine : host.registry.memory = memory) : Answers memory config history host where
  acquire := (acquire_answers agrees machine).1
  produced := by
    have size := agrees.issued
    have produced := congrArg List.length agrees.produced
    rw [List.length_map, Array.length_toList] at produced
    exact produced.trans size
  valid := by
    intro raw valid
    have looked := lookup_of_valid agrees valid
    rcases Registry.lookup_eq_ok_iff.mp looked with ⟨_, _, session, here, _⟩
    have produced : host.produced[raw.toNat]? = some session.handle := by
      have listed := congrArg (·[raw.toNat]?) agrees.produced
      apply Eq.trans listed
      rw [List.getElem?_map, Array.getElem?_toList]
      unfold ledger
      rw [Registry.getElem?_unmarked, here]
      rfl
    refine ⟨session.handle, produced, by rw [here]; rfl, ?_, ?_, ?_, ?_⟩
    · intro keepAs
      unfold outcome
      rw [perform_lookup agrees.opened, looked]
    · rcases release_of_found looked with ⟨records, released⟩
      unfold outcome
      rw [perform_release agrees.opened, released]
    · unfold outcome
      rw [perform_incrementBreak agrees.opened]
      unfold incrementBreak
      rw [looked]
      dsimp only
      cases host.resolve raw.toNat with
      | none => exact ⟨_, rfl⟩
      | some counter => exact ⟨_, rfl⟩
    · intro call sendable
      exact (after_of_leaves (perform_forward_leaves agrees.opened looked here call)).2 sendable
  invalid := by
    intro raw invalid
    have missed := lookup_of_invalid agrees invalid
    refine ⟨?_, ?_, ?_, ?_⟩
    · intro keepAs
      unfold outcome after
      rw [perform_lookup agrees.opened, missed]
      exact ⟨rfl, rfl⟩
    · unfold outcome after
      rw [perform_release agrees.opened, release_of_refused missed]
      exact ⟨rfl, rfl⟩
    · unfold outcome after
      rw [perform_incrementBreak agrees.opened]
      unfold incrementBreak
      rw [missed]
      exact ⟨rfl, rfl⟩
    · intro call
      unfold outcome after
      rw [perform_forward_of_refused agrees.opened missed]
      exact ⟨rfl, rfl⟩

omit [Engine σ] in
/-- The ledger agrees with the history on any machine. -/
theorem agrees_onMachine (agrees : host.ledger.Agrees config history) (memory : Memory) :
    (host.onMachine memory).ledger.Agrees config history :=
  { agrees with chunks := ⟨agrees.chunks.chunk, agrees.chunks.capacity, agrees.chunks.filled,
      agrees.chunks.fits⟩ }

/-- The induction goes through the requests in the order in which they are made. -/
theorem transact_agrees (agrees : host.ledger.Agrees config history)
    (requests : List (Memory × TableRequest)) :
    (host.transact history requests).2.ledger.Agrees config
      (host.transact history requests).1 := by
  induction requests generalizing host history with
  | nil => exact agrees
  | cons move rest inductionHypothesis =>
      exact inductionHypothesis (request_agrees (agrees_onMachine agrees move.1) move.2)

theorem released_transact (requests : List (Memory × TableRequest)) {raw : Int}
    (released : history.Released raw) : (host.transact history requests).1.Released raw := by
  induction requests generalizing host history with
  | nil => exact released
  | cons move rest inductionHypothesis =>
      exact inductionHypothesis (List.mem_cons_of_mem _ released)

/-- After any sequence of requests the answers are those that the history calls
for, whatever memory there was for each of them and is now, and an id that was
released is not valid again, whatever follows. -/
theorem table_answers {engine : σ} {bridges : List Bridge}
    (initial : Host.init engine memory config bridges = .ok host)
    (requests : List (Memory × TableRequest)) :
    (∀ now, Answers now config (host.transact [] requests).1
        ((host.transact [] requests).2.onMachine now)) ∧
      ∀ raw, (host.transact [] requests).1.Released raw → ∀ later,
        ¬ ((host.transact [] requests).2.transact
          (host.transact [] requests).1 later).1.Valid raw := by
  have agrees := transact_agrees (init_agrees initial) requests
  refine ⟨fun now => answers_of_agrees (agrees_onMachine agrees now) rfl, ?_⟩
  intro raw released later valid
  exact valid.2.2 (released_transact later released)

/-- One creation that unwinds and one that is told so, one session at last, and its
release.  There is no memory for a second chunk, and the last creation finds that out
before it asks the factory. -/
theorem table_answers_after_unwinding :
    ∃ first : Host Recording.Recorder,
      Host.init { unwindNext := true } Memory.machine { chunkSize := 0, maxSessions := some 2 }
          [] = .ok first ∧
        (first.transact [] [(⟨1⟩, .acquire)]).2.outcome .acquire = .ok (.refused .lockAbandoned) ∧
        (first.transact [] [(⟨1⟩, .acquire), (⟨1⟩, .acquire)]).2.outcome .acquire =
          .ok (.session 0) ∧
        (first.transact [] [(⟨1⟩, .acquire), (⟨1⟩, .acquire), (⟨0⟩, .acquire)]).2.outcome .acquire =
          .ok (.refused (.allocationFailure .outOfMemory)) ∧
        (first.transact [] [(⟨1⟩, .acquire), (⟨1⟩, .acquire), (⟨0⟩, .acquire),
            (⟨0⟩, .release 0)]).2.outcome (.lookup 0 none) =
          .ok (.refused (.sessionNotFound 0)) := by
  have answers (first : Host Recording.Recorder)
      (initial : Host.init { unwindNext := true } Memory.machine
        { chunkSize := 0, maxSessions := some 2 } [] = .ok first)
      (requests : List (Memory × TableRequest)) (now : Memory) :=
    (table_answers initial requests).1 now
  refine ⟨_, rfl, ?_, ?_, ?_, ?_⟩
  · exact (answers _ rfl [(⟨1⟩, .acquire)] ⟨1⟩).acquire.1.trans rfl
  · exact (answers _ rfl [(⟨1⟩, .acquire), (⟨1⟩, .acquire)] ⟨1⟩).acquire.1.trans rfl
  · exact (answers _ rfl
      [(⟨1⟩, .acquire), (⟨1⟩, .acquire), (⟨0⟩, .acquire)] ⟨0⟩).acquire.1.trans rfl
  · refine ((answers _ rfl [(⟨1⟩, .acquire), (⟨1⟩, .acquire), (⟨0⟩, .acquire),
      (⟨0⟩, .release 0)] ⟨0⟩).invalid 0 ?_).1 none |>.1
    intro valid
    exact valid.2.2 (List.Mem.head _)

end Host

end SessionHost
