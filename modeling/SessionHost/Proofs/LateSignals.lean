import SessionHost.Engine.Recording
import SessionHost.Proofs.Handover

namespace SessionHost

/-!
# Late signals

The interrupt handler takes two steps.  It loads the target, and then it adds one
to the cell of the instance that it loaded.  Anything may happen in between: the
target is disarmed, the session is released, and the last lease on it is dropped.
A handler that is late would then write to an instance that is gone, if nothing
else held it.

What holds it is the pin.  Whatever becomes the target is pinned before that, and
a pin is a reference that is never given up, so the accounts never let its session
be torn down.  A run here is made of operations and of the two steps, in any order.
Steps that fall into the middle of an operation are put behind it: what was the
target there is among the pins by then, and what has not been torn down by then was
not torn down any earlier.
-/

/-- What may happen next in a run that is interrupted. -/
inductive Event where
  | perform (operation : Operation)
  /-- A handler loads the target. -/
  | load
  /-- A handler has loaded what was armed by this arming, be it in the middle of an
  operation or at any other time. -/
  | loadArmed (arming : Nat)
  /-- The handler of one of the loads takes its second step. -/
  | strike (position : Nat)
deriving DecidableEq, Repr

/-- A host and what handlers have loaded from it. -/
structure Interrupted (σ : Type) where
  host : Host σ
  loaded : List Handle := []

namespace Interrupted

variable {σ : Type}

/-- A handler that finds no target is done. -/
def load (state : Interrupted σ) (target : Option Handle) : Interrupted σ :=
  { state with loaded := state.loaded ++ target.toList }

/-- Add one to the cell that was loaded, whatever has become of its instance. -/
def strike (state : Interrupted σ) (position : Nat) : Interrupted σ :=
  match state.loaded[position]? with
  | none => state
  | some handle => { state with host := (state.host.bump handle).2 }

variable [Engine σ]

def after (state : Interrupted σ) : Event → Interrupted σ
  | .perform operation => { state with host := state.host.after operation }
  | .load => state.load state.host.target
  | .loadArmed arming => state.load (state.host.pinned[arming]?.map (·.handle))
  | .strike position => state.strike position

def afterAll (state : Interrupted σ) (events : List Event) : Interrupted σ :=
  events.foldl after state

end Interrupted

namespace Host

variable {σ : Type} {host : Host σ} {handle : Handle}

/-- Where an interrupted run has got to. -/
def interrupted [Engine σ] (first : Host σ) (events : List Event) : Interrupted σ :=
  Interrupted.afterAll { host := first } events

/-- The engine was never asked to tear the instance down, and its cell is there. -/
def Spares (host : Host σ) (handle : Handle) : Prop :=
  Entry.freed handle ∉ host.journal ∧ (host.cell? handle).isSome

/-- Where no instance has two sessions, a session that stands keeps its instance. -/
theorem unfreed_of_standing (settled : host.Settled) (distinct : host.handles.Nodup)
    {id : SessionId} (found : host.handles[id]? = some handle) (stands : host.Standing id) :
    Entry.freed handle ∉ host.journal := by
  rcases stands with ⟨session, atId, standing⟩
  apply List.count_eq_zero.mp
  rw [settled.counted]
  apply Array.countP_eq_zero.mpr
  intro other listed counted
  rcases Bool.and_eq_true_iff.mp counted with ⟨freed, same⟩
  rcases Array.getElem?_of_mem listed with ⟨position, atPosition⟩
  have again : host.handles[position]? = some handle := by
    rw [getElem?_handles, atPosition, Option.map_some, eq_of_beq same]
  have bound := (List.getElem?_eq_some_iff.mp again).1
  have one : position = id := (List.getElem?_inj bound distinct).mp (again.trans found.symm)
  subst one
  rw [atId, Option.some.injEq] at atPosition
  subst other
  rw [standing] at freed
  cases freed

end Host

namespace Interrupted

open Host

variable {σ : Type} {state : Interrupted σ} {handle : Handle}

/-- Nothing that a handler has loaded, or might load now, can go away. -/
structure Safe (state : Interrupted σ) : Prop where
  settled : state.host.Settled
  inCustody : state.host.InCustody
  /-- The table has exactly what the factory gave. -/
  entered : state.host.handles = state.host.produced
  target : ∀ handle, state.host.target = some handle → state.host.Pins handle
  loaded : ∀ handle ∈ state.loaded, state.host.Pins handle

theorem safe_of_starts {first : Host σ} (starts : first.Starts) : Safe { host := first } := by
  have settled := starts.settled
  rcases starts.fields with ⟨engine, registry, bridges, undisposed, log, empty, unbound, rfl⟩
  have cancels : bridges.filterMap (·.cancel) = [] := List.filterMap_eq_nil_iff.mpr unbound
  refine ⟨settled, ?_, ?_, ?_, ?_⟩
  · intro counter held
    simp [heldCounters, cancels, Bindings.held] at held
  · simp [handles, empty, produced]
  · intro handle armed
    cases armed
  · intro handle listed
    cases listed

/-- The pins of a safe state hold their instances, if the factory never gave one
twice. -/
theorem Safe.spares (safe : state.Safe) (distinct : state.host.produced.Nodup)
    (pins : state.host.Pins handle) : state.host.Spares handle := by
  rcases pins with ⟨counter, pinned, rfl⟩
  have held : counter ∈ state.host.heldCounters := by simp [heldCounters, pinned]
  have reference : counter.session ∈ state.host.references := by
    have listed := List.mem_map_of_mem (f := Counter.session) pinned
    simp only [references, List.mem_append, listed, or_true, true_or]
  rcases safe.inCustody counter held with ⟨found, celled⟩
  rw [← safe.entered] at distinct
  exact ⟨unfreed_of_standing safe.settled distinct found (safe.settled.standing_of_mem reference),
    celled⟩

/-- A stretch of custody that leaves the accounts settled leaves handlers safe. -/
theorem Safe.custody (safe : state.Safe) {next : Host σ} (settled : next.Settled)
    (custody : Custody state.host next) : Safe { state with host := next } where
  settled := settled
  inCustody := safe.inCustody.after custody
  entered := by
    rcases custody.sessions with ⟨entered, handles, produced⟩
    rw [handles, produced, safe.entered]
  target := by
    intro handle armed
    rcases custody.target handle armed with before | pins
    · exact (safe.target handle before).mono custody.pinned
    · exact pins
  loaded := fun handle listed => (safe.loaded handle listed).mono custody.pinned

theorem Safe.load (safe : state.Safe) {target : Option Handle}
    (pins : ∀ handle, target = some handle → state.host.Pins handle) : (state.load target).Safe :=
  { safe with
    loaded := by
      intro handle listed
      rcases List.mem_append.mp listed with before | now
      · exact safe.loaded handle before
      · exact pins handle (Option.mem_toList.mp now) }

theorem strike_custody (state : Interrupted σ) (position : Nat) :
    Custody state.host (state.strike position).host := by
  unfold strike
  cases state.loaded[position]? with
  | none => exact Custody.refl state.host
  | some handle => exact bump_custody state.host handle

theorem Safe.strike (safe : state.Safe) (position : Nat) : (state.strike position).Safe := by
  have custody := strike_custody state position
  unfold Interrupted.strike at custody ⊢
  cases loaded : state.loaded[position]? with
  | none => exact safe
  | some handle =>
      rw [loaded] at custody
      have served : Served 0 state.host (state.host.bump handle).2 :=
        Served.of_eq (bump_estate state.host handle) (bump_journal state.host handle)
      exact safe.custody (safe.settled.of_served served) custody

variable [Engine σ]

/-- Whatever happens next, handlers stay safe and no pin is lost. -/
theorem Safe.after (safe : state.Safe) (event : Event) :
    (state.after event).Safe ∧ state.host.pinned <+: (state.after event).host.pinned := by
  cases event with
  | perform operation =>
      have custody := after_of_leaves (perform_custody safe.inCustody operation)
      have settled := (perform_progress safe.settled operation).1
      exact ⟨safe.custody settled custody, custody.pinned⟩
  | load => exact ⟨safe.load safe.target, List.prefix_rfl⟩
  | loadArmed arming =>
      refine ⟨safe.load ?_, List.prefix_rfl⟩
      intro handle armed
      rcases Option.map_eq_some_iff.mp armed with ⟨counter, found, same⟩
      exact ⟨counter, List.mem_of_getElem? found, same⟩
  | strike position => exact ⟨safe.strike position, (strike_custody state position).pinned⟩

theorem Safe.afterAll (safe : state.Safe) (events : List Event) :
    (state.afterAll events).Safe ∧ state.host.pinned <+: (state.afterAll events).host.pinned := by
  induction events generalizing state with
  | nil => exact ⟨safe, List.prefix_rfl⟩
  | cons event rest inductionHypothesis =>
      rcases safe.after event with ⟨next, grown⟩
      rcases inductionHypothesis next with ⟨last, grownAgain⟩
      exact ⟨last, grown.trans grownAgain⟩

end Interrupted

namespace Host

variable {σ : Type} [Engine σ]

/-- If the factory has given no instance twice, then at any point of any run no
handler has loaded the cell of an instance that was torn down, and its second step
adds one to the cell it loaded and touches no other.  What is the target at a point
of the run, or was armed before it, is spared at that point and at all later ones. -/
theorem late_strike_spared {first : Host σ} (starts : first.Starts) (events later : List Event)
    (distinct : (first.interrupted (events ++ later)).host.produced.Nodup) :
    (∀ position handle, (first.interrupted (events ++ later)).loaded[position]? = some handle →
      (first.interrupted (events ++ later)).host.Spares handle ∧
        ∀ other, (first.interrupted (events ++ later ++ [.strike position])).host.cell? other =
          ((first.interrupted (events ++ later)).host.cell? other).map fun old =>
            if handle = other then old + 1 else old) ∧
      ∀ handle, (first.interrupted events).host.target = some handle ∨
          (first.interrupted events).host.Pins handle →
        (first.interrupted (events ++ later)).host.Spares handle := by
  have reached := ((Interrupted.safe_of_starts starts).afterAll events).1
  have onward : first.interrupted (events ++ later) = (first.interrupted events).afterAll later :=
    List.foldl_append
  rcases reached.afterAll later with ⟨safe, grown⟩
  constructor
  · intro position handle loaded
    have struck : first.interrupted (events ++ later ++ [.strike position]) =
        (first.interrupted (events ++ later)).strike position := List.foldl_append
    rw [struck, Interrupted.strike, loaded]
    rw [onward] at distinct loaded ⊢
    have pins := safe.loaded handle (List.mem_of_getElem? loaded)
    exact ⟨safe.spares distinct pins, fun other => bump_cell? _ handle other⟩
  · intro handle either
    rw [onward] at distinct ⊢
    have pins : (first.interrupted events).host.Pins handle :=
      either.elim (reached.target handle) id
    exact safe.spares distinct (pins.mono grown)

/-- A handler loads the target, and then the guard, the counter and the lease are
dropped and the session is released.  The handler still finds the cell. -/
theorem late_strike_after_release :
    ∃ first : Host Recording.Recorder,
      Host.init {} Memory.machine {} [] = .ok first ∧ first.Starts ∧
        (first.interrupted [.perform .acquire, .perform (.lookup 0 (some "lease")),
          .perform (.resolve "lease" "counter"), .perform (.arm "counter" "guard"), .load,
          .perform (.drop "guard"), .perform (.drop "counter"), .perform (.drop "lease"),
          .perform (.release 0)]).host.target = none ∧
        (first.interrupted [.perform .acquire, .perform (.lookup 0 (some "lease")),
          .perform (.resolve "lease" "counter"), .perform (.arm "counter" "guard"), .load,
          .perform (.drop "guard"), .perform (.drop "counter"), .perform (.drop "lease"),
          .perform (.release 0)]).host.Spares 0 ∧
        (first.interrupted [.perform .acquire, .perform (.lookup 0 (some "lease")),
          .perform (.resolve "lease" "counter"), .perform (.arm "counter" "guard"), .load,
          .perform (.drop "guard"), .perform (.drop "counter"), .perform (.drop "lease"),
          .perform (.release 0), .strike 0]).host.cell? 0 = some 1 := by
  have starts (first : Host Recording.Recorder)
      (initial : Host.init {} Memory.machine {} [] = .ok first) : first.Starts :=
    ⟨{}, Memory.machine, {}, [], first, first.undisposed, by simp, initial, rfl⟩
  have spared := late_strike_spared (starts _ rfl)
    [.perform .acquire, .perform (.lookup 0 (some "lease")),
      .perform (.resolve "lease" "counter"), .perform (.arm "counter" "guard"), .load]
    [.perform (.drop "guard"), .perform (.drop "counter"), .perform (.drop "lease"),
      .perform (.release 0)] (by decide)
  rcases spared.1 0 0 (by decide) with ⟨spares, struck⟩
  refine ⟨_, rfl, starts _ rfl, by decide, spares, ?_⟩
  refine (struck 0).trans ?_
  decide

end Host

end SessionHost
