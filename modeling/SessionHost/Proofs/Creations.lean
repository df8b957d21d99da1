import SessionHost.Proofs.SharedTable

namespace SessionHost

/-!
# Sessions created by many threads

The sessions of a table that threads share are numbered as they would be without the
threads.  An append follows the reservation of its slot under one hold of the creation
lock, so it finds the slot and the size of the table as the reservation left them.
Lookups and releases, which need no such lock, are answered by the appends and the
releases before them and by nothing else.
-/

namespace SharedTable

variable {shared next : SharedTable} {thread : ThreadId}

/-! ## The ids -/

namespace Event

/-- Which thread entered a session, and under which id. -/
def entry? : Event → Option (ThreadId × SessionId)
  | appended thread id _ _ => some (thread, id)
  | _ => none

/-- Which thread came back with a session, and with which id. -/
def success? : Event → Option (ThreadId × SessionId)
  | returned thread (.ok id) => some (thread, id)
  | _ => none

/-- The instance that was entered. -/
def handle? : Event → Option Handle
  | appended _ _ handle _ => some handle
  | _ => none

/-- The session that was released. -/
def release? : Event → Option SessionId
  | released _ _ (.ok id) => some id
  | _ => none

end Event

/-- The id that a thread is about to come back with. -/
def Stage.success? : Stage → Option SessionId
  | leaving (.ok id) => some id
  | _ => none

/-- Sessions in the order in which they were entered. -/
def entries (shared : SharedTable) : List (ThreadId × SessionId) :=
  shared.events.filterMap Event.entry?

/-- Sessions in the order in which creations came back with them. -/
def successes (shared : SharedTable) : List (ThreadId × SessionId) :=
  shared.events.filterMap Event.success?

/-- The session that was entered by a creation which did not come back yet. -/
def unreturned (shared : SharedTable) : List (ThreadId × SessionId) :=
  match shared.holder with
  | none => []
  | some thread => ((shared.stage thread).success?.map (thread, ·)).toList

/-- Sessions are numbered as they are entered, in slots that were free, and creations
come back in the same order. -/
structure Numbered (shared : SharedTable) : Prop where
  exclusive : shared.Exclusive
  ids : shared.entries.map Prod.snd = List.range shared.registry.size
  returns : shared.successes ++ shared.unreturned = shared.entries
  placed : ∀ thread id handle moved, .appended thread id handle moved ∈ shared.events →
    moved = false

theorem unreturned_of_holder (held : shared.holder = some thread) {stage : Stage}
    (reached : shared.stage thread = stage) :
    shared.unreturned = (stage.success?.map (thread, ·)).toList := by
  unfold unreturned
  rw [held, ← reached]

/-- A thread that lets go of the lock has nothing more to come back with. -/
theorem unreturned_of_onward {stage : Stage}
    (advanced : next.stage = (shared.advance thread stage).stage)
    (holder : next.holder = if stage.holds then some thread else none) :
    next.unreturned = (stage.success?.map (thread, ·)).toList := by
  unfold unreturned
  rw [holder]
  cases stage with
  | idle => rfl
  | clearing => rfl
  | _ =>
      simp only [Stage.holds, if_true]
      rw [advanced, stage_advance_self]

theorem unreturned_of_others (holder : next.holder = shared.holder)
    (same : ∀ other, shared.holder = some other → next.stage other = shared.stage other) :
    next.unreturned = shared.unreturned := by
  unfold unreturned
  rw [holder]
  cases held : shared.holder with
  | none => rfl
  | some other =>
      dsimp only
      rw [same other held]

namespace Numbered

/-- A step that enters no session. -/
theorem quiet (numbered : shared.Numbered) (taken : Stepped shared thread next)
    (size : next.registry.size = shared.registry.size) {news : List Event}
    (events : next.events = shared.events ++ news) (entered : news.filterMap Event.entry? = [])
    (returned : news.filterMap Event.success? ++ next.unreturned = shared.unreturned) :
    next.Numbered := by
  have entries : next.entries = shared.entries := by
    unfold SharedTable.entries
    rw [events, List.filterMap_append, entered, List.append_nil]
  refine ⟨numbered.exclusive.stepped taken, ?_, ?_, ?_⟩
  · rw [entries, size]
    exact numbered.ids
  · rw [entries, ← numbered.returns, ← returned, ← List.append_assoc]
    unfold successes
    rw [events, List.filterMap_append]
  · intro thread id handle moved appended
    rw [events] at appended
    rcases List.mem_append.mp appended with earlier | later
    · exact numbered.placed thread id handle moved earlier
    · cases List.filterMap_eq_nil_iff.mp entered _ later

/-- A step of the holder of the lock that enters no session. -/
theorem onward (numbered : shared.Numbered) (taken : Stepped shared thread next)
    {before after : Stage} (held : shared.holder = some thread)
    (reached : shared.stage thread = before)
    (advanced : next.stage = (shared.advance thread after).stage)
    (holder : next.holder = if after.holds then some thread else none)
    (size : next.registry.size = shared.registry.size) {news : List Event}
    (events : next.events = shared.events ++ news) (entered : news.filterMap Event.entry? = [])
    (returned : news.filterMap Event.success? ++ (after.success?.map (thread, ·)).toList =
      (before.success?.map (thread, ·)).toList) : next.Numbered := by
  refine numbered.quiet taken size events entered ?_
  rw [unreturned_of_onward advanced holder, unreturned_of_holder held reached]
  exact returned

/-- The step that enters a session. -/
theorem entering (numbered : shared.Numbered) (taken : Stepped shared thread next)
    {handle : Handle} (held : shared.holder = some thread)
    (made : shared.stage thread = .made handle)
    (advanced : next.stage =
      (shared.advance thread (.leaving (.ok shared.registry.size))).stage)
    (holder : next.holder = some thread) (size : next.registry.size = shared.registry.size + 1)
    (events : next.events =
      shared.events ++ [.appended thread shared.registry.size handle false]) :
    next.Numbered := by
  have before : shared.unreturned = [] := unreturned_of_holder held made
  have after : next.unreturned = [(thread, shared.registry.size)] :=
    unreturned_of_onward advanced holder
  have entries : next.entries = shared.entries ++ [(thread, shared.registry.size)] := by
    unfold SharedTable.entries
    rw [events, List.filterMap_append]
    rfl
  have successes : next.successes = shared.successes := by
    unfold SharedTable.successes
    rw [events, List.filterMap_append]
    exact List.append_nil _
  have returns := numbered.returns
  rw [before, List.append_nil] at returns
  refine ⟨numbered.exclusive.stepped taken, ?_, ?_, ?_⟩
  · rw [entries, List.map_append, numbered.ids, size, List.range_succ]
    rfl
  · rw [successes, returns, after, entries]
  · intro other id handle moved appended
    rw [events] at appended
    rcases List.mem_append.mp appended with earlier | last
    · exact numbered.placed other id handle moved earlier
    · cases List.mem_singleton.mp last
      rfl

theorem stepped (numbered : shared.Numbered) (taken : Stepped shared thread next) :
    next.Numbered := by
  have exclusive := numbered.exclusive
  have stepped := taken
  cases taken with
  | lookup raw => exact numbered.quiet stepped rfl rfl rfl rfl
  | release raw =>
      cases looked : shared.registry.lookup raw with
      | error error =>
          rw [release_of_refused looked] at stepped ⊢
          exact numbered.quiet stepped rfl rfl rfl rfl
      | ok id =>
          rw [release_of_found looked] at stepped ⊢
          exact numbered.quiet stepped (Registry.size_update _ _ _) rfl rfl rfl
  | lock idle free =>
      rcases lock_stage shared thread with ⟨stage, stages, locked⟩
      rw [locked] at stepped ⊢
      refine numbered.quiet stepped rfl (List.append_nil _).symm rfl ?_
      unfold unreturned
      rw [free]
      rcases stages with rfl | rfl
      · simp [advance, Stage.success?]
      · simp [advance, Stage.success?]
  | reserve locked =>
      have held := exclusive.holder_eq locked rfl
      unfold reserve at stepped ⊢
      cases reserved : shared.registry.reserveSlot with
      | error cause =>
          rw [reserved] at stepped
          exact numbered.onward stepped held locked rfl held rfl (List.append_nil _).symm rfl rfl
      | ok grown =>
          rw [reserved] at stepped
          rcases Registry.reserveSlot_eq_ok exclusive.roomy reserved with ⟨rfl, _⟩
          exact numbered.onward stepped held locked rfl held rfl (List.append_nil _).symm rfl rfl
  | create reserved made =>
      have held := exclusive.holder_eq reserved rfl
      cases made with
      | none =>
          exact numbered.onward stepped held reserved rfl held rfl (List.append_nil _).symm rfl rfl
      | some handle =>
          exact numbered.onward stepped held reserved rfl held rfl (List.append_nil _).symm rfl rfl
  | unwind reserved =>
      have held := exclusive.holder_eq reserved rfl
      exact numbered.onward stepped held reserved rfl rfl rfl rfl rfl rfl
  | @append handle made =>
      have held := exclusive.holder_eq made rfl
      have room := exclusive.slot thread (by rw [made]; rfl)
      rw [append_of_room room] at stepped ⊢
      exact numbered.entering stepped held made rfl held (Array.size_push _) rfl
  | @leave answer leaving =>
      have held := exclusive.holder_eq leaving rfl
      refine numbered.onward stepped held leaving rfl rfl rfl rfl rfl ?_
      cases answer with
      | ok id => rfl
      | error error => rfl
  | letGo abandoned =>
      have held := exclusive.holder_eq abandoned rfl
      exact numbered.onward stepped held abandoned rfl rfl rfl (List.append_nil _).symm rfl rfl
  | clear clearing =>
      refine numbered.quiet stepped rfl rfl rfl ?_
      refine unreturned_of_others rfl ?_
      intro other held
      refine stage_advance_of_ne ?_ ..
      rintro rfl
      exact exclusive.holder_ne clearing rfl held

end Numbered

/-! ## What lookups and releases see -/

/-- An answer by what has happened so far: an id leads to the session that was entered
under it, until the first release that is answered with it. -/
structure Answers (events : List Event) (raw : Int) (answer : Except RegistryError SessionId) :
    Prop where
  found : ∀ id, answer = .ok id ↔
    0 ≤ raw ∧ raw.toNat = id ∧ id < (events.filterMap Event.handle?).length ∧
      id ∉ events.filterMap Event.release?
  refused : ∀ error, answer = .error error → error = .sessionNotFound raw

/-- A lookup or a release is answered by what has happened before. -/
def Truthful (earlier : List Event) : Event → Prop
  | .lookedUp _ raw answer => Answers earlier raw answer
  | .released _ raw answer => Answers earlier raw answer
  | _ => True

/-- The table is what the events make of it, all of them. -/
structure Recorded (events : List Event) (registry : Registry) : Prop where
  handles : events.filterMap Event.handle? = registry.sessions.toList.map (·.handle)
  released : ∀ id, id ∈ events.filterMap Event.release? ↔
    ∃ session, registry.sessions[id]? = some session ∧ session.released = true
  truthful : ∀ (position : Nat) (event : Event), events[position]? = some event →
    Truthful (events.take position) event

namespace Recorded

variable {events : List Event} {registry grown : Registry}

theorem length_handles (recorded : Recorded events registry) :
    (events.filterMap Event.handle?).length = registry.size := by
  rw [recorded.handles, List.length_map]
  rfl

/-- A lookup now is answered by what has happened. -/
theorem answers (recorded : Recorded events registry) (raw : Int) :
    Answers events raw (registry.lookup raw) := by
  refine ⟨?_, fun error => Registry.lookup_eq_error⟩
  intro id
  rw [Registry.lookup_eq_ok_iff, recorded.length_handles, recorded.released]
  constructor
  · rintro ⟨nonnegative, same, session, found, unreleased⟩
    refine ⟨nonnegative, same, (Array.getElem?_eq_some_iff.mp found).1, ?_⟩
    rintro ⟨other, here, released⟩
    cases found.symm.trans here
    rw [released] at unreleased
    cases unreleased
  · rintro ⟨nonnegative, same, bound, unreleased⟩
    have found : registry.sessions[id]? = some registry.sessions[id] :=
      Array.getElem?_eq_getElem bound
    refine ⟨nonnegative, same, _, found, Bool.eq_false_iff.mpr ?_⟩
    intro released
    exact unreleased ⟨_, found, released⟩

theorem of_sessions (recorded : Recorded events registry)
    (same : grown.sessions = registry.sessions) : Recorded events grown := by
  refine ⟨?_, ?_, recorded.truthful⟩
  · rw [same]
    exact recorded.handles
  · rw [same]
    exact recorded.released

theorem truthful_append (recorded : Recorded events registry) {event : Event}
    (truthful : Truthful events event) (position : Nat) (other : Event)
    (found : (events ++ [event])[position]? = some other) :
    Truthful ((events ++ [event]).take position) other := by
  rcases Nat.lt_trichotomy position events.length with before | rfl | behind
  · rw [List.getElem?_append_left before] at found
    rw [List.take_append_of_le_length (Nat.le_of_lt before)]
    exact recorded.truthful position other found
  · rw [List.getElem?_concat_length] at found
    cases found
    rw [List.take_left]
    exact truthful
  · have nothing : (events ++ [event])[position]? = none := by
      apply List.getElem?_eq_none
      rw [List.length_append]
      exact behind
    rw [nothing] at found
    cases found

/-- An event that neither enters a session nor releases one. -/
theorem aside (recorded : Recorded events registry) (event : Event)
    (entered : event.handle? = none) (unreleased : event.release? = none)
    (truthful : Truthful events event) : Recorded (events ++ [event]) registry := by
  refine ⟨?_, ?_, recorded.truthful_append truthful⟩
  · rw [List.filterMap_append, recorded.handles, List.filterMap_cons_none entered]
    exact List.append_nil _
  · intro id
    rw [List.filterMap_append, List.filterMap_cons_none unreleased, List.filterMap_nil,
      List.append_nil]
    exact recorded.released id

theorem entered (recorded : Recorded events registry) (thread : ThreadId) (id : SessionId)
    (handle : Handle) (moved : Bool) :
    Recorded (events ++ [.appended thread id handle moved]) (registry.enter handle) := by
  refine ⟨?_, ?_, recorded.truthful_append trivial⟩
  · rw [List.filterMap_append, recorded.handles]
    unfold Registry.enter
    dsimp only
    rw [Array.toList_push, List.map_append]
    rfl
  · intro other
    have unreleased : (Event.appended thread id handle moved).release? = none := rfl
    rw [List.filterMap_append, List.filterMap_cons_none unreleased, List.filterMap_nil,
      List.append_nil, recorded.released]
    unfold Registry.enter
    dsimp only
    rw [Array.getElem?_push]
    constructor
    · rintro ⟨session, found, released⟩
      have bound := (Array.getElem?_eq_some_iff.mp found).1
      rw [if_neg (Nat.ne_of_lt bound)]
      exact ⟨session, found, released⟩
    · rintro ⟨session, found, released⟩
      split at found
      · cases found
        cases released
      · exact ⟨session, found, released⟩

theorem marked (recorded : Recorded events registry) {raw : Int} {id : SessionId}
    (looked : registry.lookup raw = .ok id) (thread : ThreadId) :
    Recorded (events ++ [.released thread raw (.ok id)]) (registry.marked id) := by
  have answers := recorded.answers raw
  rw [looked] at answers
  refine ⟨?_, ?_, recorded.truthful_append answers⟩
  · rw [List.filterMap_append, Registry.handles_marked, recorded.handles]
    exact List.append_nil _
  · intro other
    have releases : [Event.released thread raw (.ok id)].filterMap Event.release? = [id] := rfl
    rw [List.filterMap_append, releases, List.mem_append, List.mem_singleton, recorded.released,
      Registry.getElem?_marked]
    rcases Registry.lookup_eq_ok_iff.mp looked with ⟨_, _, session, found, _⟩
    by_cases same : id = other
    · subst other
      rw [if_pos rfl, found]
      exact iff_of_true (.inr rfl) ⟨_, rfl, rfl⟩
    · rw [if_neg same]
      have different : other ≠ id := Ne.symm same
      exact or_iff_left different

end Recorded

/-- Neither growing the table nor appending to it loses anything. -/
theorem recorded_stepped (exclusive : shared.Exclusive)
    (recorded : Recorded shared.events shared.registry) (taken : Stepped shared thread next) :
    Recorded next.events next.registry := by
  cases taken with
  | lookup raw => exact recorded.aside _ rfl rfl (recorded.answers raw)
  | release raw =>
      cases looked : shared.registry.lookup raw with
      | error error =>
          have answers := recorded.answers raw
          rw [looked] at answers
          rw [release_of_refused looked]
          exact recorded.aside _ rfl rfl answers
      | ok id =>
          rw [release_of_found looked]
          exact recorded.marked looked thread
  | lock idle free => exact recorded
  | reserve locked =>
      unfold reserve
      cases reserved : shared.registry.reserveSlot with
      | error cause => exact recorded
      | ok grown =>
          rcases Registry.reserveSlot_eq_ok exclusive.roomy reserved with ⟨rfl, _⟩
          exact recorded.of_sessions rfl
  | create reserved made =>
      cases made with
      | none => exact recorded
      | some handle => exact recorded
  | unwind reserved => exact (recorded.aside (.unwound thread) rfl rfl trivial).of_sessions rfl
  | @append handle made =>
      have room := exclusive.slot thread (by rw [made]; rfl)
      rw [append_of_room room]
      exact recorded.entered thread _ handle false
  | leave leaving => exact recorded.aside _ rfl rfl trivial
  | letGo abandoned => exact recorded
  | clear clearing =>
      exact (recorded.aside (.returned thread (.error .lockAbandoned)) rfl rfl trivial).of_sessions rfl

/-! ## Any number of threads -/

theorem numbered_of_init {memory : Memory} {config : RegistryConfig} {registry : Registry}
    (initial : Registry.init memory config = .ok registry) :
    ({ registry } : SharedTable).Numbered := by
  have empty := Registry.init_sessions initial
  have exclusive : ({ registry } : SharedTable).Exclusive := by
    refine ⟨Registry.init_roomy initial, ?_, ?_⟩
    · intro thread
      exact iff_of_false Bool.false_ne_true nofun
    · intro thread impossible
      cases impossible
  refine ⟨exclusive, ?_, rfl, ?_⟩
  · unfold Registry.size
    rw [empty]
    rfl
  · intro thread id handle moved impossible
    cases impossible

theorem recorded_of_init {memory : Memory} {config : RegistryConfig} {registry : Registry}
    (initial : Registry.init memory config = .ok registry) : Recorded [] registry := by
  have empty := Registry.init_sessions initial
  refine ⟨?_, ?_, ?_⟩
  · rw [empty]
    rfl
  · intro id
    rw [empty]
    refine iff_of_false List.not_mem_nil ?_
    rintro ⟨session, impossible, _⟩
    cases impossible
  · intro position event impossible
    cases impossible

/-- However the steps of threads interleave, sessions are numbered from zero in the
order of their appends, and creations come back with exactly these ids in that order,
save for one that still holds the lock.  No append has to move the table.  Lookups and
releases act on what there is at the time, and at the end the table shows every append
and every release. -/
theorem creations_in_order {memory : Memory} {config : RegistryConfig} {registry : Registry}
    (initial : Registry.init memory config = .ok registry) {moves : List (ThreadId × Move)}
    {last : SharedTable} (ran : run { registry } moves = some last) :
    last.entries.map Prod.snd = List.range last.registry.size ∧
      last.successes ++ last.unreturned = last.entries ∧
      (last.holder = none → last.successes.map Prod.snd = List.range last.registry.size) ∧
      (∀ thread id handle moved, .appended thread id handle moved ∈ last.events → moved = false) ∧
      last.registry.capacity = last.registry.chunkSize * (last.registry.growths + 1) ∧
      Recorded last.events last.registry ∧
      ∀ raw, Answers last.events raw (last.registry.lookup raw) := by
  have preserved := run_of_preserved
    (fun shared => shared.Numbered ∧ Recorded shared.events shared.registry)
    (fun kept taken =>
      ⟨kept.1.stepped taken, recorded_stepped kept.1.exclusive kept.2 taken⟩)
    ⟨numbered_of_init initial, recorded_of_init initial⟩ ran
  rcases preserved with ⟨numbered, recorded⟩
  refine ⟨numbered.ids, numbered.returns, ?_, numbered.placed, numbered.exclusive.roomy.capacity,
    recorded, recorded.answers⟩
  intro free
  have returns := numbered.returns
  unfold unreturned at returns
  rw [free, List.append_nil] at returns
  rw [returns]
  exact numbered.ids

/-- Three creations on a table with room for one session.  The second one makes it grow,
and before its append the first session is looked up, released and looked up again.
The third one stops behind its append. -/
def crossing : List (ThreadId × Move) :=
  [(0, .lock), (0, .reserve), (0, .create (some 7)), (0, .append), (0, .unlock),
    (1, .lock), (1, .reserve), (2, .lookup 0), (1, .create (some 9)), (0, .release 0),
    (2, .lookup 0), (1, .append), (1, .unlock),
    (2, .lock), (2, .reserve), (2, .create (some 4)), (2, .append)]

/-- The release that came between a reservation and its append is there at the end. -/
theorem creations_in_order_around_release :
    ∃ registry last, Registry.init Memory.machine { chunkSize := 1 } = .ok registry ∧
      run { registry } crossing = some last ∧
        last.successes = [(0, 0), (1, 1)] ∧ last.unreturned = [(2, 2)] ∧
        last.entries.map Prod.snd = List.range last.registry.size ∧ last.registry.growths = 2 ∧
        last.registry.lookup 0 = .error (.sessionNotFound 0) ∧ last.registry.lookup 1 = .ok 1 := by
  have initial : Registry.init Memory.machine { chunkSize := 1 } = .ok
      { memory := Memory.machine, chunkSize := 1, maxSessions := none, capacity := 1, growths := 0,
        abandoned := false, sessions := #[] } := by decide +kernel
  have outcome := creations_in_order initial (show run _ crossing = some _ from rfl)
  exact ⟨_, _, initial, rfl, rfl, rfl, outcome.1, rfl, rfl, rfl⟩

end SharedTable

end SessionHost
