import SessionHost.Proofs.Forwarding
import SessionHost.Proofs.LateSignals
import SessionHost.Proofs.Recounting

namespace SessionHost

/-!
# The tally of requests

Requests for a break come by ids, through counters, from consoles and with signals,
in any order, and engines clear their cells in between.  Nothing gets lost between
these ways: a cell holds what it was made with, or what its engine wrote to it last,
and one more for each request that was addressed to its instance since then.  A byte
holds no more than that modulo 256.
-/

open CellEvent (act Numbered)

namespace CellEvent

variable {cells : Array (Option UInt8)} {handle : Handle}

/-- What a cell holds, if there is one. -/
def valueIn (cells : Array (Option UInt8)) (handle : Handle) : Option UInt8 :=
  (cells[handle]?).join

theorem valueIn_modify_of_ne {other : Handle} (different : other ≠ handle)
    (change : Option UInt8 → Option UInt8) :
    valueIn (cells.modify other change) handle = valueIn cells handle := by
  unfold valueIn
  rw [Array.getElem?_modify, if_neg different]

/-- An event other than a write adds to a cell what it requests of it. -/
theorem valueIn_act (bound : handle < cells.size) {event : CellEvent}
    (unwritten : ∀ value, event ≠ .written handle value) :
    valueIn (act cells event) handle =
      (valueIn cells handle).map (· + .ofNat ([event].count (.requested handle))) := by
  cases event with
  | made other cell =>
      have kept : valueIn (cells.push cell) handle = valueIn cells handle := by
        unfold valueIn
        rw [Array.getElem?_push_lt bound, Array.getElem?_eq_getElem bound]
      exact kept.trans (map_add_zero _).symm
  | written other value =>
      have different : other ≠ handle := by
        rintro rfl
        exact unwritten value rfl
      exact (valueIn_modify_of_ne different _).trans (map_add_zero _).symm
  | requested other =>
      by_cases same : other = handle
      · subst other
        have counted : [requested handle].count (.requested handle) = 1 := List.count_singleton_self
        rw [counted]
        unfold valueIn act
        rw [Array.getElem?_modify, if_pos rfl]
        cases cells[handle]? with
        | none => rfl
        | some cell => rfl
      · have other : [requested other].count (.requested handle) = 0 := by
          apply List.count_eq_zero.mpr
          simpa using fun again => same again.symm
        rw [other]
        exact (valueIn_modify_of_ne same _).trans (map_add_zero _).symm

/-- As long as nothing is written to a cell, requests add up in it. -/
theorem valueIn_foldl_act {later : List CellEvent} (bound : handle < cells.size)
    (unwritten : ∀ value, .written handle value ∉ later) :
    valueIn (later.foldl act cells) handle =
      (valueIn cells handle).map (· + .ofNat (later.count (.requested handle))) := by
  induction later generalizing cells with
  | nil => exact (map_add_zero _).symm
  | cons event rest inductionHypothesis =>
      have here (value : UInt8) : event ≠ .written handle value := by
        rintro rfl
        exact unwritten value (List.mem_cons_self ..)
      have rest' (value : UInt8) : .written handle value ∉ rest :=
        fun listed => unwritten value (List.mem_cons_of_mem _ listed)
      have counted : ([event] ++ rest).count (.requested handle) =
          [event].count (.requested handle) + rest.count (.requested handle) :=
        List.count_append
      rw [List.foldl_cons, inductionHypothesis (Nat.lt_of_lt_of_le bound (size_act cells event)) rest',
        valueIn_act bound here, map_add_add, ← counted]
      rfl

theorem valueIn_written {old : UInt8} (held : valueIn cells handle = some old) (value : UInt8) :
    valueIn (act cells (.written handle value)) handle = some value := by
  unfold valueIn act
  rw [Array.getElem?_modify, if_pos rfl, Option.join_eq_some_iff.mp held]
  rfl

/-- An instance that has no cell never gets one, and one that has keeps it. -/
theorem isSome_valueIn_foldl_act (later : List CellEvent) (bound : handle < cells.size) :
    (valueIn (later.foldl act cells) handle).isSome = (valueIn cells handle).isSome := by
  have modified (cells : Array (Option UInt8)) (other : Handle) (change : UInt8 → UInt8) :
      (valueIn (cells.modify other (·.map change)) handle).isSome = (valueIn cells handle).isSome := by
    unfold valueIn
    rw [Array.getElem?_modify]
    split
    · cases cells[handle]? with
      | none => rfl
      | some cell => exact Option.isSome_map
    · rfl
  induction later generalizing cells with
  | nil => rfl
  | cons event rest inductionHypothesis =>
      rw [List.foldl_cons, inductionHypothesis (Nat.lt_of_lt_of_le bound (size_act cells event))]
      · cases event with
        | made other cell =>
            unfold valueIn act
            rw [Array.getElem?_push_lt bound, Array.getElem?_eq_getElem bound]
        | written other value => exact modified cells other _
        | requested other => exact modified cells other _

/-- Other cells are left alone. -/
theorem valueIn_act_of_apart {event : CellEvent} (numbered : Numbered cells.size [event])
    (apart : event.subject ≠ handle) : valueIn (act cells event) handle = valueIn cells handle := by
  cases event with
  | made other cell =>
      have different : handle ≠ cells.size := fun same => apart (numbered.1.trans same.symm)
      unfold valueIn act
      rw [Array.getElem?_push, if_neg different]
  | written other value => exact valueIn_modify_of_ne apart _
  | requested other => exact valueIn_modify_of_ne apart _

theorem valueIn_foldl_act_of_apart {events : List CellEvent} (numbered : Numbered cells.size events)
    (apart : ∀ event ∈ events, event.subject ≠ handle) :
    valueIn (events.foldl act cells) handle = valueIn cells handle := by
  induction events generalizing cells with
  | nil => rfl
  | cons event rest inductionHypothesis =>
      rcases numbered_cons.mp numbered with ⟨here, later⟩
      rw [List.foldl_cons,
        inductionHypothesis later fun other listed => apart other (List.mem_cons_of_mem _ listed)]
      exact valueIn_act_of_apart here (apart event (List.mem_cons_self ..))

/-- An instance that is made gets the next number, and its cell holds its first value. -/
theorem valueIn_made {cell : Option UInt8} {later : List CellEvent}
    (numbered : Numbered cells.size (made handle cell :: later)) :
    handle < (act cells (made handle cell)).size ∧
      valueIn (act cells (made handle cell)) handle = cell := by
  unfold act valueIn
  rw [numbered.1, Array.size_push, Array.getElem?_push_size]
  exact ⟨Nat.lt_succ_self _, rfl⟩

/-- An instance that was made has its number below that of the next one. -/
theorem of_made {events : List CellEvent} {cell : Option UInt8}
    (follows : CellsFollow events #[] cells) (listed : .made handle cell ∈ events) :
    handle < cells.size ∧ (valueIn cells handle).isSome = cell.isSome := by
  rcases List.append_of_mem listed with ⟨earlier, later, rfl⟩
  rcases valueIn_made (numbered_append.mp follows.numbered).2 with ⟨bound, first⟩
  rw [follows.cells, List.foldl_append, List.foldl_cons]
  refine ⟨Nat.lt_of_lt_of_le bound (size_foldl_act later _), ?_⟩
  rw [isSome_valueIn_foldl_act later bound, first]

end CellEvent

namespace Host

variable {σ : Type} {host : Host σ}

open CellEvent (valueIn)

/-- The cells hold what the events of a run come to. -/
structure Accounted (host : Host σ) (events : List CellEvent) : Prop where
  /-- A cell that its engine has not written to holds its first value and the requests
  since then. -/
  made : ∀ handle cell earlier later, events = earlier ++ .made handle cell :: later →
    (∀ value, .written handle value ∉ later) →
      host.cell? handle = cell.map (· + .ofNat (later.count (.requested handle)))
  /-- A cell that its engine has written to, be it to clear it, holds the value that was
  written last and the requests since then. -/
  written : ∀ handle first value earlier later,
    events = earlier ++ .written handle value :: later → .made handle (some first) ∈ earlier →
      (∀ value, .written handle value ∉ later) →
        host.cell? handle = some (value + .ofNat (later.count (.requested handle)))
  /-- Nothing that happens gives a cell to an instance that was made without one. -/
  bare : ∀ handle, .made handle none ∈ events → host.cell? handle = none

theorem accounted_of_follows {events : List CellEvent}
    (follows : CellsFollow events #[] host.cells) : host.Accounted events where
  made := by
    rintro handle cell earlier later rfl unwritten
    rcases CellEvent.valueIn_made (CellEvent.numbered_append.mp follows.numbered).2 with
      ⟨bound, first⟩
    have added := CellEvent.valueIn_foldl_act bound unwritten
    rw [first] at added
    unfold cell?
    rw [follows.cells, List.foldl_append]
    exact added
  written := by
    rintro handle first value earlier later rfl made unwritten
    have before : CellsFollow earlier #[] (earlier.foldl act #[]) :=
      ⟨rfl, (CellEvent.numbered_append.mp follows.numbered).1⟩
    rcases CellEvent.of_made before made with ⟨bound, celled⟩
    rcases Option.isSome_iff_exists.mp celled with ⟨old, held⟩
    have added := CellEvent.valueIn_foldl_act
      (Nat.lt_of_lt_of_le bound (CellEvent.size_act _ (.written handle value))) unwritten
    rw [CellEvent.valueIn_written held] at added
    unfold cell?
    rw [follows.cells, List.foldl_append]
    exact added
  bare := by
    intro handle listed
    have same := (CellEvent.of_made follows listed).2
    exact Option.isNone_iff_eq_none.mp (Option.isSome_eq_false_iff.mp same)

variable [Engine σ]

/-- Whom requests are for, and what they are answered with. -/
structure Directs (host : Host σ) : Prop where
  /-- A request by id is for the instance of that session, and it is answered with
  the new value of its cell. -/
  byId : ∀ raw session, host.opened = true → host.Lives raw session →
    host.cellEvents (.incrementBreak raw) = [.requested session.handle] ∧
      host.outcome (.incrementBreak raw) =
        .ok (.cell ((host.after (.incrementBreak raw)).cell? session.handle))
  byCounter : ∀ name counter times, host.counters.find? name = some counter →
    host.cellEvents (.cancel name times) = .replicate times (.requested counter.handle) ∧
      (0 < times → host.outcome (.cancel name times) =
        .ok (.cell ((host.after (.cancel name times)).cell? counter.handle)))
  /-- The requests of a console are for the instance of the bound counter, and the
  value that each of them returned is reported. -/
  byConsole : ∀ id bridge counter value prompt, host.bridges[id]? = some bridge →
    bridge.cancel = some counter → host.cell? counter.handle = some value →
      host.cellEvents (.readLine id prompt) =
          .replicate bridge.breaks (.requested counter.handle) ∧
        (host.after (.readLine id prompt)).log.filter Bridge.isBreakReport =
          (Bridge.breakReports value bridge.breaks).reverse ++
            host.log.filter Bridge.isBreakReport
  /-- A signal is for the target, which is the instance of a counter that was armed. -/
  bySignal : ∀ handle, host.target = some handle → host.Pins handle ∧
    host.cellEvents .deliver = [.requested handle] ∧
      (host.handler = true → host.cellEvents .raise = [.requested handle])
  /-- Every counter that is held anywhere names the instance of its own session, and
  that instance has a cell. -/
  fitting : ∀ counter ∈ host.heldCounters, host.Knows counter
  /-- Nothing comes of a request by id where there is no cell. -/
  bare : ∀ raw session, host.opened = true → host.Lives raw session →
    host.cell? session.handle = none →
      host.outcome (.incrementBreak raw) = .ok (.cell none) ∧
        host.after (.incrementBreak raw) = host
  /-- There is no counter where there is no cell. -/
  unresolved : ∀ lease keepAs id session, host.leases.find? lease = some id →
    host.registry.sessions[id]? = some session → host.cell? session.handle = none →
      host.outcome (.resolve lease keepAs) = .ok (.cell none) ∧
        host.after (.resolve lease keepAs) = host
  /-- An operation leaves the cells of all instances alone that nothing happens to
  during it. -/
  apart : ∀ operation handle,
    (∀ event ∈ host.cellEvents operation, event.subject ≠ handle) →
      (host.after operation).cell? handle = host.cell? handle

/-! ## Single requests -/

omit [Engine σ] in
theorem incrementBreak_of_lives {raw : Int} {session : Session} (lives : host.Lives raw session) :
    host.incrementBreak raw = (.ok (host.bump session.handle).1, (host.bump session.handle).2) := by
  unfold incrementBreak resolve
  rw [lookup_of_lives lives]
  dsimp only
  rw [lives.2.1]
  dsimp only
  cases celled : host.cell? session.handle with
  | none =>
      unfold bump
      rw [celled]
      rfl
  | some value => rfl

omit [Engine σ] in
/-- The answer to requests is what the cell holds afterwards. -/
theorem bumpTimes_answer {times : Nat} (positive : 0 < times) (host : Host σ) (handle : Handle) :
    (host.bumpTimes times handle).2.cell? handle = (host.bumpTimes times handle).1 := by
  have none : times ≠ 0 := Nat.ne_of_gt positive
  unfold bumpTimes
  cases celled : host.cell? handle with
  | none => exact celled
  | some value =>
      dsimp only
      rw [if_neg none]
      dsimp only
      rw [setCell_cell?, celled, Option.map_some, if_pos rfl]

omit [Engine σ] in
theorem withCounter_of_found {name : String} {counter : Counter}
    (found : host.counters.find? name = some counter) (action : Counter → Hosting σ Answer) :
    withCounter name action host = action counter host := by
  unfold withCounter
  rw [Hosting.get_bind, found]

omit [Engine σ] in
theorem withLease_of_found {name : String} {session : SessionId}
    (found : host.leases.find? name = some session) (action : SessionId → Hosting σ Answer) :
    withLease name action host = action session host := by
  unfold withLease
  rw [Hosting.get_bind, found]

theorem perform_cancel {name : String} {counter : Counter}
    (found : host.counters.find? name = some counter) (times : Nat) :
    perform (.cancel name times) host =
      .ok (.cell (host.bumpTimes times counter.handle).1) (host.bumpTimes times counter.handle).2 := by
  rw [perform, withCounter_of_found found]
  rfl

theorem perform_resolve_of_bare {lease : String} {id : SessionId} {session : Session}
    (found : host.leases.find? lease = some id)
    (here : host.registry.sessions[id]? = some session) (bare : host.cell? session.handle = none)
    (keepAs : String) : perform (.resolve lease keepAs) host = .ok (.cell none) host := by
  have unresolved : host.resolve id = none := by
    unfold resolve
    rw [here]
    dsimp only
    rw [bare, Option.map_none]
  rw [perform, withLease_of_found found, Hosting.get_bind, unresolved]
  rfl

omit [Engine σ] in
/-- What a bridge has to say goes to the diagnostics. -/
theorem readLine_log {id : BridgeId} {bridge : Bridge} (found : host.bridges[id]? = some bridge)
    (prompt : Bytes) :
    Hosting.Leaves (readLine id prompt) host fun after =>
      after.log = (bridge.nextLine prompt (bridge.cancel.bind fun counter =>
        host.cell? counter.handle)).log.reverse ++ host.log := by
  unfold readLine
  rw [Hosting.leaves_get_bind, found]
  dsimp only
  rw [Hosting.leaves_set_bind]
  apply leaves_line
  split
  · rfl
  · rfl

theorem directs (inCustody : host.InCustody)
    (armed : ∀ handle, host.target = some handle → host.Pins handle) : host.Directs where
  byId := by
    intro raw session opened lives
    have events : host.cellEvents (.incrementBreak raw) =
        if host.opened then host.breakById raw else [] := rfl
    have answered := bumpTimes_answer Nat.one_pos host session.handle
    rw [bumpTimes_one] at answered
    refine ⟨?_, ?_⟩
    · unfold breakById at events
      rw [events, if_pos opened, lookup_of_lives lives]
      dsimp only
      rw [lives.2.1]
      rfl
    · unfold outcome after
      rw [perform_incrementBreak opened, incrementBreak_of_lives lives]
      dsimp only
      rw [answered]
  byCounter := by
    intro name counter times found
    have events : host.cellEvents (.cancel name times) = (host.counters.find? name).elim []
        fun counter => .replicate times (.requested counter.handle) := rfl
    refine ⟨?_, ?_⟩
    · rw [events, found]
      rfl
    · intro positive
      unfold outcome after
      rw [perform_cancel found]
      dsimp only
      rw [bumpTimes_answer positive]
  byConsole := by
    intro id bridge counter value prompt found bound celled
    have events : host.cellEvents (.readLine id prompt) = host.breaksAt id := rfl
    have logged := readLine_log found prompt
    rw [bound, Option.bind_some, celled] at logged
    refine ⟨?_, ?_⟩
    · unfold breaksAt at events
      rw [events, found]
      dsimp only
      rw [bound]
    · have performed : Hosting.Leaves (perform (.readLine id prompt)) host fun after =>
          after.log = (bridge.nextLine prompt (some value)).log.reverse ++ host.log :=
        logged.bind fun _ _ same => same
      rw [after_of_leaves performed, List.filter_append, List.filter_reverse,
        Bridge.nextLine_reports]
  bySignal := by
    intro handle target
    have delivered : host.delivery = [.requested handle] := by
      unfold delivery
      rw [target]
      rfl
    refine ⟨armed handle target, delivered, ?_⟩
    intro installed
    have events : host.cellEvents .raise = if host.handler then host.delivery else [] := rfl
    rw [events, if_pos installed, delivered]
  fitting := inCustody
  bare := by
    intro raw session opened lives bare
    unfold outcome after
    rw [perform_incrementBreak opened, incrementBreak_of_lives lives]
    unfold bump
    rw [bare]
    exact ⟨rfl, rfl⟩
  unresolved := by
    intro lease keepAs id session found here bare
    unfold outcome after
    rw [perform_resolve_of_bare found here bare]
    exact ⟨rfl, rfl⟩
  apart := by
    intro operation handle apart
    have follows := after_follows host operation
    have same := CellEvent.valueIn_foldl_act_of_apart follows.numbered apart
    rw [← follows.cells] at same
    exact same

end Host

/-! ## Whole runs -/

namespace Interrupted

variable {σ : Type} [Engine σ]

/-- What happens to the cells next.  A handler makes its request with its second step. -/
def cellEvents (state : Interrupted σ) : Event → List CellEvent
  | .perform operation => state.host.cellEvents operation
  | .load => []
  | .loadArmed _ => []
  | .strike position => (state.loaded[position]?.map .requested).toList

/-- What happens to the cells during a run. -/
def cellHistory (state : Interrupted σ) : List Event → List CellEvent
  | [] => []
  | event :: rest => state.cellEvents event ++ (state.after event).cellHistory rest

theorem after_follows (state : Interrupted σ) (event : Event) :
    CellsFollow (state.cellEvents event) state.host.cells (state.after event).host.cells := by
  cases event with
  | perform operation => exact Host.after_follows state.host operation
  | load => exact CellsFollow.refl state.host.cells
  | loadArmed arming => exact CellsFollow.refl state.host.cells
  | strike position =>
      have struck : CellsFollow (state.loaded[position]?.map .requested).toList state.host.cells
          (state.strike position).host.cells := by
        unfold Interrupted.strike
        cases state.loaded[position]? with
        | none => exact CellsFollow.refl state.host.cells
        | some handle => exact Host.bump_follows state.host handle
      exact struck

theorem afterAll_follows (state : Interrupted σ) (events : List Event) :
    CellsFollow (state.cellHistory events) state.host.cells (state.afterAll events).host.cells := by
  induction events generalizing state with
  | nil => exact CellsFollow.refl state.host.cells
  | cons event rest inductionHypothesis =>
      exact (after_follows state event).append (inductionHypothesis (state.after event))

end Interrupted

namespace Host

variable {σ : Type} [Engine σ]

/-- No request for a break is lost, made twice or led astray, whatever is done and in
whatever order, late handlers included. -/
theorem requests_accounted {first : Host σ} (starts : first.Starts) (events : List Event) :
    (first.interrupted events).host.Accounted (Interrupted.cellHistory { host := first } events) ∧
      (first.interrupted events).host.Directs := by
  have empty : first.cells = #[] := by
    rcases starts.fields with ⟨_, _, _, _, _, _, _, rfl⟩
    rfl
  have follows := Interrupted.afterAll_follows { host := first } events
  have safe := ((Interrupted.safe_of_starts starts).afterAll events).1
  rw [empty] at follows
  exact ⟨accounted_of_follows follows, directs safe.inCustody safe.target⟩

/-- Requests by all ways to the first of two instances: one by its id, three through a
clone of its counter, one with a signal and one by a handler that comes late. -/
theorem requests_accounted_by_all_ways :
    ∃ first : Host Recording.Recorder,
      Host.init {} Memory.machine {} [] = .ok first ∧ first.Starts ∧
        (first.interrupted
          [.perform .acquire, .perform .acquire, .perform (.lookup 0 (some "lease")),
            .perform (.resolve "lease" "counter"), .perform (.incrementBreak 0),
            .perform (.cloneCounter "counter" "clone"), .perform (.cancel "clone" 3),
            .perform (.arm "counter" "guard"), .load, .perform .deliver, .strike 0]).host.cell? 0 =
          some 6 := by
  have starting (first : Host Recording.Recorder)
      (initial : Host.init {} Memory.machine {} [] = .ok first) : first.Starts :=
    ⟨{}, Memory.machine, {}, [], first, .withheld, by simp, initial, by
      cases initial
      rfl⟩
  refine ⟨_, rfl, starting _ rfl, ?_⟩
  refine ((requests_accounted (starting _ rfl) _).1.made 0 (some 0) []
    (.made 1 (some 0) :: .replicate 6 (.requested 0)) rfl ?_).trans rfl
  simp

end Host

end SessionHost
