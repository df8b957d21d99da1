import SessionHost.Proofs.Ledger
import SessionHost.Proofs.Teardown

namespace SessionHost

/-!
# The custody of counters

A counter says where a session's instance has its break cell.  It is made by
looking at the session, and from then on it is only passed around: kept under a
name, bound to a bridge, armed, or held by a driver.  So every counter that is
held anywhere still fits its session, because neither sessions nor cells go away.

The interrupt target is the instance of a counter that was armed, and whatever
was armed stays pinned.  `Custody` records what one stretch of an operation may
do to all this: it may take new counters into custody, but only fitting ones,
and it may set the target, but only to what it pins.  The stretches of one
operation compose, and so do the operations of a run.
-/

namespace Bindings

variable {α : Type}

theorem held_remove_subset (bindings : Bindings α) (name : String) :
    (bindings.remove name).held ⊆ bindings.held :=
  List.map_subset _ List.filter_sublist.subset

theorem held_bind_subset (bindings : Bindings α) (name : String) (thing : α) :
    (bindings.bind name thing).held ⊆ [thing] ++ bindings.held := by
  rw [held_bind]
  apply List.append_subset.mpr
  constructor
  · exact List.subset_append_of_subset_right _ (held_remove_subset bindings name)
  · exact List.subset_append_left _ _

end Bindings

/-- The counter that a driver has armed, if it has. -/
def Driver.armed? (driver : Driver) : Option Counter :=
  driver.active.bind (·.interrupt)

namespace Host

variable {σ : Type}

/-- Every counter that is held anywhere. -/
def heldCounters (host : Host σ) : List Counter :=
  host.counters.held ++ host.guards.held ++ host.pinned ++ host.bridges.filterMap (·.cancel) ++
    host.drivers.held.filterMap (·.armed?)

/-- The instances of all sessions, in the order of their ids. -/
def handles (host : Host σ) : List Handle :=
  host.registry.sessions.toList.map (·.handle)

/-- The counter fits its session: it names the session's own instance, and the
instance has a break cell. -/
def Knows (host : Host σ) (counter : Counter) : Prop :=
  host.handles[counter.session]? = some counter.handle ∧ (host.cell? counter.handle).isSome

/-- The instance was armed at some time. -/
def Pins (host : Host σ) (handle : Handle) : Prop :=
  ∃ counter ∈ host.pinned, counter.handle = handle

/-- What custody is about, apart from the counters themselves. -/
structure Fixtures where
  handles : List Handle
  produced : List Handle
  /-- Which instances have a break cell. -/
  celled : Handle → Bool
  pinned : List Counter
  target : Option Handle

def fixtures (host : Host σ) : Fixtures where
  handles := host.handles
  produced := host.produced
  celled := fun handle => (host.cell? handle).isSome
  pinned := host.pinned
  target := host.target

/-- A stretch of an operation that enters what the factory gives, loses no
session, no cell and no pin, takes only fitting counters into custody, and makes
only what is pinned a target. -/
structure Custody (before after : Host σ) : Prop where
  sessions : ∃ entered, after.handles = before.handles ++ entered ∧
    after.produced = before.produced ++ entered
  cells : ∀ handle, (before.cell? handle).isSome → (after.cell? handle).isSome
  pinned : before.pinned <+: after.pinned
  counters : ∀ counter ∈ after.heldCounters, counter ∈ before.heldCounters ∨ after.Knows counter
  target : ∀ handle, after.target = some handle → before.target = some handle ∨ after.Pins handle

variable {before after first second third host : Host σ}

theorem Pins.mono {handle : Handle} (pins : before.Pins handle)
    (grown : before.pinned <+: after.pinned) : after.Pins handle := by
  rcases pins with ⟨counter, pinned, same⟩
  exact ⟨counter, grown.subset pinned, same⟩

theorem getElem?_handles (host : Host σ) (id : SessionId) :
    host.handles[id]? = host.registry.sessions[id]?.map (·.handle) := by
  unfold handles
  rw [List.getElem?_map, Array.getElem?_toList]

theorem heldCounters_of_estate (same : after.estate = before.estate) :
    after.heldCounters = before.heldCounters := by
  have cancels (host : Host σ) : host.bridges.filterMap (·.cancel) =
      host.estate.terms.filterMap (·.cancel) := by
    unfold estate
    rw [List.filterMap_map]
    rfl
  have parts (host : Host σ) : host.heldCounters =
      host.estate.counters.held ++ host.estate.guards.held ++ host.estate.pinned ++
        host.estate.terms.filterMap (·.cancel) ++
          host.estate.drivers.held.filterMap (·.armed?) := by
    rw [← cancels]
    rfl
  rw [parts, parts, same]

/-- What comes into custody comes in at one of five places. -/
theorem heldCounters_subset {taken : List Counter}
    (counters : after.counters.held ⊆ taken ++ before.counters.held)
    (guards : after.guards.held ⊆ taken ++ before.guards.held)
    (pinned : after.pinned ⊆ taken ++ before.pinned)
    (cancels : after.bridges.filterMap (·.cancel) ⊆ taken ++ before.bridges.filterMap (·.cancel))
    (armed : after.drivers.held.filterMap (·.armed?) ⊆
      taken ++ before.drivers.held.filterMap (·.armed?)) :
    after.heldCounters ⊆ taken ++ before.heldCounters := by
  have placed {place : List Counter} (part : place ⊆ before.heldCounters) :
      taken ++ place ⊆ taken ++ before.heldCounters :=
    List.append_subset.mpr
      ⟨List.subset_append_left _ _, List.subset_append_of_subset_right _ part⟩
  unfold heldCounters
  simp only [List.append_subset]
  refine ⟨⟨⟨⟨List.Subset.trans counters (placed ?_), List.Subset.trans guards (placed ?_)⟩,
    List.Subset.trans pinned (placed ?_)⟩, List.Subset.trans cancels (placed ?_)⟩,
    List.Subset.trans armed (placed ?_)⟩
  all_goals
    intro counter listed
    simp [heldCounters, listed]

/-- A counter that was made by looking at a session fits it. -/
theorem knows_of_resolve {id : SessionId} {counter : Counter}
    (resolved : host.resolve id = some counter) : host.Knows counter := by
  unfold resolve at resolved
  split at resolved
  · cases resolved
  · next session found =>
      rcases Option.map_eq_some_iff.mp resolved with ⟨value, cell, rfl⟩
      refine ⟨?_, Option.isSome_of_mem cell⟩
      rw [getElem?_handles, found, Option.map_some]

theorem Knows.mono {counter : Counter} (knows : before.Knows counter)
    (custody : Custody before after) : after.Knows counter := by
  rcases custody.sessions with ⟨entered, grown, _⟩
  refine ⟨?_, custody.cells _ knows.2⟩
  have bound := (List.getElem?_eq_some_iff.mp knows.1).1
  rw [grown, List.getElem?_append_left bound]
  exact knows.1

namespace Custody

/-- A stretch that takes over the counters of a list. -/
theorem of_taken (same : after.fixtures = before.fixtures) (taken : List Counter)
    (held : after.heldCounters ⊆ taken ++ before.heldCounters)
    (knows : ∀ counter ∈ taken, before.Knows counter) : Custody before after := by
  have handles : after.handles = before.handles := congrArg Fixtures.handles same
  have produced : after.produced = before.produced := congrArg Fixtures.produced same
  have celled (handle : Handle) : (after.cell? handle).isSome = (before.cell? handle).isSome :=
    congrFun (congrArg Fixtures.celled same) handle
  have pinned : after.pinned = before.pinned := congrArg Fixtures.pinned same
  have target : after.target = before.target := congrArg Fixtures.target same
  constructor
  · exact ⟨[], by simpa using handles, by simpa using produced⟩
  · intro handle present
    rw [celled, present]
  · exact pinned ▸ List.prefix_rfl
  · intro counter listed
    rcases List.mem_append.mp (held listed) with isTaken | listed
    · refine Or.inr ⟨?_, ?_⟩
      · rw [handles, (knows counter isTaken).1]
      · rw [celled, (knows counter isTaken).2]
    · exact Or.inl listed
  · intro handle armed
    exact Or.inl (target ▸ armed)

/-- Nothing that custody is about changes. -/
theorem of_same (same : after.fixtures = before.fixtures)
    (counters : after.heldCounters = before.heldCounters) : Custody before after := by
  refine of_taken same [] ?_ (by simp)
  rw [counters]
  exact List.Subset.refl _

theorem refl (host : Host σ) : Custody host host :=
  of_same rfl rfl

theorem trans (earlier : Custody first second) (later : Custody second third) :
    Custody first third where
  sessions := by
    rcases earlier.sessions with ⟨entered, handles, produced⟩
    rcases later.sessions with ⟨entered', handles', produced'⟩
    refine ⟨entered ++ entered', ?_, ?_⟩
    · rw [handles', handles, List.append_assoc]
    · rw [produced', produced, List.append_assoc]
  cells := fun handle present => later.cells handle (earlier.cells handle present)
  pinned := earlier.pinned.trans later.pinned
  counters := by
    intro counter held
    rcases later.counters counter held with held | knows
    · exact (earlier.counters counter held).imp id fun knows => knows.mono later
    · exact Or.inr knows
  target := by
    intro handle armed
    rcases later.target handle armed with armed | pins
    · exact (earlier.target handle armed).imp id fun pins => pins.mono later.pinned
    · exact Or.inr pins

end Custody

/-! ## Cells -/

/-- The same instances have break cells, whatever is in them. -/
def Celled (before after : Host σ) : Prop :=
  ∀ handle, (after.cell? handle).isSome = (before.cell? handle).isSome

theorem Celled.trans (earlier : Celled first second) (later : Celled second third) :
    Celled first third :=
  fun handle => (later handle).trans (earlier handle)

theorem setCell_cell? (host : Host σ) (handle other : Handle) (value : UInt8) :
    (host.setCell handle value).cell? other =
      (host.cell? other).map fun old => if handle = other then value else old := by
  unfold cell? setCell
  rw [Array.getElem?_modify]
  split
  · cases host.cells[other]? with
    | none => rfl
    | some cell => cases cell <;> rfl
  · exact Option.map_id'.symm

/-- A request adds one to the cell it is for and leaves all others alone. -/
theorem bump_cell? (host : Host σ) (handle other : Handle) :
    (host.bump handle).2.cell? other =
      (host.cell? other).map fun old => if handle = other then old + 1 else old := by
  unfold bump
  cases published : host.cell? handle with
  | none =>
      by_cases same : handle = other
      · subst other
        rw [published, Option.map_none]
      · simp only [if_neg same]
        exact Option.map_id'.symm
  | some value =>
      refine (setCell_cell? host handle other (value + 1)).trans ?_
      by_cases same : handle = other
      · subst other
        rw [published]
        rfl
      · simp only [if_neg same]

theorem setCell_celled (host : Host σ) (handle : Handle) (value : UInt8) :
    Celled host (host.setCell handle value) := by
  intro other
  rw [setCell_cell?, Option.isSome_map]

theorem bump_celled (host : Host σ) (handle : Handle) : Celled host (host.bump handle).2 := by
  intro other
  rw [bump_cell?, Option.isSome_map]

theorem bumpTimes_celled (times : Nat) (host : Host σ) (handle : Handle) :
    Celled host (host.bumpTimes times handle).2 := by
  unfold bumpTimes
  cases host.cell? handle with
  | none => exact fun _ => rfl
  | some value =>
      dsimp only
      split
      · exact fun _ => rfl
      · exact setCell_celled host handle _

theorem incrementBreak_celled (host : Host σ) (raw : Int) :
    Celled host (host.incrementBreak raw).2 := by
  unfold incrementBreak
  cases host.registry.lookup raw with
  | error error => exact fun _ => rfl
  | ok id =>
      dsimp only
      cases host.resolve id with
      | none => exact fun _ => rfl
      | some counter => exact bump_celled host counter.handle

theorem deliver_celled (host : Host σ) : Celled host host.deliver.2 := by
  unfold deliver
  cases host.target with
  | none => exact fun _ => rfl
  | some handle => exact bump_celled host handle

theorem raise_celled (host : Host σ) : Hosting.Leaves raise host (Celled host) := by
  unfold raise
  rw [Hosting.leaves_get_bind]
  cases host.handler with
  | true => exact deliver_celled host
  | false =>
      cases host.undisposed with
      | withheld => exact fun _ => rfl
      | fatal => exact fun _ => rfl

theorem display_celled (host : Host σ) (id : BridgeId) (kind : OutputKind) (payload : Bytes) :
    Celled host (host.display id kind payload) := by
  unfold display
  cases host.bridges[id]? with
  | none => exact fun _ => rfl
  | some bridge => exact fun _ => rfl

theorem exitEvent_celled (host : Host σ) (id : BridgeId) (status : Int32) :
    Hosting.Leaves (exitEvent id status) host (Celled host) := by
  rw [exitEvent_eq]
  rw [Hosting.leaves_get_bind]
  cases host.bridges[id]? with
  | none => exact fun _ => rfl
  | some bridge =>
      dsimp only
      rw [Hosting.leaves_set_bind]
      split
      · exact fun _ => rfl
      · exact fun _ => rfl

theorem readLine_celled (host : Host σ) (id : BridgeId) (prompt : Bytes) :
    Hosting.Leaves (readLine id prompt) host (Celled host) := by
  unfold readLine
  rw [Hosting.leaves_get_bind]
  cases host.bridges[id]? with
  | none => exact fun _ => rfl
  | some bridge =>
      dsimp only
      rw [Hosting.leaves_set_bind]
      split
      · split
        · exact setCell_celled _ _ _
        · exact fun _ => rfl
      · split
        · exact setCell_celled _ _ _
        · exact fun _ => rfl

theorem outputCallback_celled (host : Host σ) (address : Address) (code : Int32)
    (argument : OutputArgument) :
    Hosting.Leaves (outputCallback address code argument) host (Celled host) := by
  unfold outputCallback
  rw [Hosting.leaves_get_bind]
  cases host.bridgeAt? address with
  | none => exact fun _ => rfl
  | some bridge =>
      dsimp only
      split
      · exact exitEvent_celled host bridge argument.status
      · exact display_celled host bridge _ _

theorem inputCallback_celled (host : Host σ) (address : Address) (prompt : Option Bytes) :
    Hosting.Leaves (inputCallback address prompt) host (Celled host) := by
  unfold inputCallback
  rw [Hosting.leaves_get_bind]
  cases host.bridgeAt? address with
  | none => exact fun _ => rfl
  | some bridge => exact (readLine_celled host bridge _).bind fun _ _ celled => celled

theorem call_celled [Engine σ] {handle : Handle} (request : Call) (host : Host σ) :
    Hosting.Leaves (call handle request) host (Celled host) := by
  have served : Hosting.Leaves
      (converse handle (Engine.respond host.engine handle request.symbol request.arguments))
      (host.enter (.called handle request)) (Celled (host.enter (.called handle request))) :=
    converse_leaves Celled (fun _ _ => rfl) Celled.trans
      (fun host => outputCallback_celled host _) (fun host => inputCallback_celled host _)
      (fun host value => setCell_celled host handle value) raise_celled (fun _ _ _ => rfl) _ _
  exact leads_call.mpr served

/-! ## Stretches -/

theorem fixtures_of_ledger (ledger : after.ledger = before.ledger) (celled : Celled before after)
    (pinned : after.pinned = before.pinned) (target : after.target = before.target) :
    after.fixtures = before.fixtures := by
  have read (host : Host σ) :
      host.handles = host.ledger.registry.sessions.toList.map (·.handle) := by
    unfold handles Host.ledger Registry.unmarked
    rw [Array.toList_map, List.map_map]
    rfl
  have handles : after.handles = before.handles := by rw [read, read, ledger]
  have produced : after.produced = before.produced := congrArg Ledger.produced ledger
  unfold fixtures
  rw [handles, produced, pinned, target, funext celled]

/-- Served by an instance, and every cell still there. -/
theorem custody_of_served {handle : Handle} (served : Served handle before after)
    (celled : Celled before after) : Custody before after := by
  have pinned : after.pinned = before.pinned := congrArg Estate.pinned served.estate
  have target : after.target = before.target := congrArg Estate.target served.estate
  exact Custody.of_same (fixtures_of_ledger (ledger_of_served served) celled pinned target)
    (heldCounters_of_estate served.estate)

/-- What consoles, cells and signals do is done through no instance in particular. -/
theorem custody_of_quiet (served : ∀ handle, Served handle before after)
    (celled : Celled before after) : Custody before after :=
  custody_of_served (served 0) celled

theorem leaves_custody {α : Type} {action : Hosting σ α}
    (served : ∀ handle, Hosting.Leaves action host (Served handle host))
    (celled : Hosting.Leaves action host (Celled host)) :
    Hosting.Leaves action host (Custody host) :=
  ((Hosting.Leaves.all served).and celled).mono fun _ both => custody_of_quiet both.1 both.2

theorem readLine_custody (host : Host σ) (id : BridgeId) (prompt : Bytes) :
    Hosting.Leaves (readLine id prompt) host (Custody host) :=
  leaves_custody (fun _ => readLine_served host id prompt) (readLine_celled host id prompt)

theorem bump_custody (host : Host σ) (handle : Handle) : Custody host (host.bump handle).2 :=
  custody_of_quiet
    (fun _ => Served.of_eq (bump_estate host handle) (bump_journal host handle))
    (bump_celled host handle)

theorem arm_custody {counter : Counter} (knows : host.Knows counter) :
    Custody host (host.arm counter) where
  sessions := ⟨[], (List.append_nil _).symm, (List.append_nil _).symm⟩
  cells := fun _ => id
  pinned := List.prefix_append _ _
  counters := by
    intro other held
    have pinned : host.pinned ++ [counter] ⊆ [counter] ++ host.pinned :=
      List.append_subset.mpr ⟨List.subset_append_right _ _, List.subset_append_left _ _⟩
    have taken : (host.arm counter).heldCounters ⊆ [counter] ++ host.heldCounters :=
      heldCounters_subset (List.subset_append_right _ _) (List.subset_append_right _ _) pinned
        (List.subset_append_right _ _) (List.subset_append_right _ _)
    rcases List.mem_cons.mp (taken held) with rfl | held
    · exact Or.inr knows
    · exact Or.inl held
  target := by
    intro handle armed
    injection armed with same
    exact Or.inr ⟨counter, List.mem_append_right _ (List.mem_singleton.mpr rfl), same⟩

theorem say_custody (host : Host σ) (records : List Log.Record) : Custody host (host.say records) :=
  Custody.of_same rfl rfl

theorem disarm_custody (host : Host σ) (counter : Counter) :
    Custody host (host.disarm counter) := by
  unfold disarm
  split
  · refine ⟨⟨[], (List.append_nil _).symm, (List.append_nil _).symm⟩, fun _ => id,
      List.prefix_rfl, fun _ => Or.inl, ?_⟩
    intro handle armed
    cases armed
  · exact Custody.refl host

theorem takeInterrupts_custody {counter : Counter} (knows : host.Knows counter) :
    Custody host (host.takeInterrupts counter) := by
  have installed : Custody host host.install := Custody.of_same rfl rfl
  exact installed.trans (arm_custody knows)

theorem unregister_custody (host : Host σ) (route : Route) :
    Custody host (host.unregister route) := by
  unfold unregister
  split
  · exact Custody.of_same rfl rfl
  · exact Custody.refl host

variable [Engine σ]

theorem call_custody {handle : Handle} (request : Call) (host : Host σ) :
    Hosting.Leaves (call handle request) host (Custody host) :=
  ((call_served request host).and (call_celled request host)).mono
    fun _ both => custody_of_served both.1 both.2

/-- Tearing a session down takes nothing out of the table. -/
theorem reap_custody (host : Host σ) (id : SessionId) : Custody host (host.reap id) := by
  have celled : Celled host (host.reap id) :=
    reap_keeps (Celled host) (fun _ _ _ => rfl) fun _ => rfl
  have pinned : (host.reap id).pinned = host.pinned :=
    reap_keeps (fun next => next.pinned = host.pinned) (fun _ _ => rfl) rfl
  have target : (host.reap id).target = host.target :=
    reap_keeps (fun next => next.target = host.target) (fun _ _ => rfl) rfl
  have counters : (host.reap id).heldCounters = host.heldCounters :=
    reap_keeps (fun next => next.heldCounters = host.heldCounters) (fun _ _ => rfl) rfl
  exact Custody.of_same (fixtures_of_ledger (ledger_reap host id) celled pinned target) counters

theorem letGoGuard_custody (host : Host σ) (counter : Counter) :
    Custody host (host.letGoGuard counter) :=
  (disarm_custody host counter).trans (reap_custody _ _)

theorem setCancelTarget_custody (id : BridgeId) {counter : Option Counter}
    (knows : ∀ bound ∈ counter, host.Knows bound) :
    Custody host (host.setCancelTarget id counter) := by
  apply setCancelTarget_keeps (Custody host)
  · intro bridge found
    refine Custody.of_taken rfl counter.toList ?_ fun bound listed =>
      knows bound (Option.mem_toList.mp listed)
    have bound : (host.bridges.set id { bridge with cancel := counter }).filterMap (·.cancel) ⊆
        counter.toList ++ host.bridges.filterMap (·.cancel) := by
      intro one listed
      rcases List.mem_filterMap.mp listed with ⟨other, listed, same⟩
      rcases List.mem_or_eq_of_mem_set listed with old | rfl
      · exact List.mem_append_right _ (List.mem_filterMap.mpr ⟨other, old, same⟩)
      · exact List.mem_append_left _ (Option.mem_toList.mpr same)
    exact heldCounters_subset (List.subset_append_right _ _) (List.subset_append_right _ _)
      (List.subset_append_right _ _) bound (List.subset_append_right _ _)
  · intro next session custody
    exact custody.trans (reap_custody next session)
  · exact Custody.refl host

theorem dismiss_custody (host : Host σ) (driver : Driver) : Custody host (host.dismiss driver) := by
  unfold dismiss
  cases driver.active with
  | none => exact Custody.refl host
  | some active =>
      rcases active with ⟨session, route, interrupt⟩
      have parted (host : Host σ) : Custody host ((host.reap session).unregister route) :=
        (reap_custody host session).trans (unregister_custody _ route)
      cases interrupt with
      | none => exact parted host
      | some counter =>
          have removed : Custody host host.uninstall := Custody.of_same rfl rfl
          exact (removed.trans (parted _)).trans (letGoGuard_custody _ counter)

end Host

end SessionHost
