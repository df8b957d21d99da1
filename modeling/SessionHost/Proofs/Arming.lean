import SessionHost.Engine.Recording
import SessionHost.Proofs.Custody

namespace SessionHost

/-!
# The armed target

Arming a counter makes its cell the target and gives a guard for it.  The target
stays armed until a guard is dropped whose cell is the target.  A guard of another
cell is stale and does nothing.  But a guard knows its own arming by the cell
alone, so any guard of the target's cell disarms it, also one that is older than
the newest and whose successor is still held.
-/

namespace Bindings

variable {α : Type}

theorem find?_remove (bindings : Bindings α) (name other : String) :
    (bindings.remove name).find? other = if other = name then none else bindings.find? other := by
  induction bindings with
  | nil => exact (ite_self none).symm
  | cons entry rest inductionHypothesis =>
      rcases entry with ⟨key, thing⟩
      unfold remove find? at inductionHypothesis ⊢
      rw [List.filter_cons, List.lookup_cons]
      by_cases isKey : key = name
      · subst key
        rw [if_neg (by simp), inductionHypothesis]
        by_cases same : other = name
        · rw [if_pos same, if_pos same]
        · rw [if_neg same, if_neg same, beq_false_of_ne same]
      · rw [if_pos (by simpa using isKey), List.lookup_cons, inductionHypothesis]
        by_cases same : other = key
        · subst other
          rw [if_neg isKey, beq_self_eq_true, if_neg isKey]
        · rw [beq_false_of_ne same]

end Bindings

namespace Host

variable {σ : Type} {host : Host σ}

/-- What decides where a signal goes, and the guards and counters that are kept
under names. -/
structure Posture where
  handler : Bool
  target : Option Handle
  guards : Bindings Counter
  counters : Bindings Counter

def posture (host : Host σ) : Posture where
  handler := host.handler
  target := host.target
  guards := host.guards
  counters := host.counters

/-- The guard of a counter is gone. -/
def Posture.without (posture : Posture) (counter : Counter) : Posture :=
  { posture with target := if posture.target = some counter.handle then none else posture.target }

theorem disarm_posture (host : Host σ) (counter : Counter) :
    (host.disarm counter).posture = host.posture.without counter := by
  unfold disarm Posture.without posture
  dsimp only
  by_cases own : host.target = some counter.handle
  · rw [if_pos own, if_pos own]
  · rw [if_neg own, if_neg own]

variable [Engine σ]

theorem reap_posture (host : Host σ) (id : SessionId) :
    (host.reap id).posture = host.posture :=
  reap_keeps (fun next => next.posture = host.posture) (fun _ _ => rfl) rfl

theorem letGoGuard_posture (host : Host σ) (counter : Counter) :
    (host.letGoGuard counter).posture = host.posture.without counter :=
  (reap_posture _ counter.session).trans (disarm_posture host counter)

theorem letGoGuard_target (host : Host σ) (counter : Counter) :
    (host.letGoGuard counter).target =
      if host.target = some counter.handle then none else host.target :=
  congrArg Posture.target (letGoGuard_posture host counter)

theorem letGoGuard_guards (host : Host σ) (counter : Counter) :
    (host.letGoGuard counter).guards = host.guards :=
  congrArg Posture.guards (letGoGuard_posture host counter)

/-- Dropping guards takes the target away exactly if one of them is of its cell.
The induction is on the names, and a guard that was dropped has no name any more. -/
theorem dropGuards_target (host : Host σ) (names : List String) :
    (dropEach dropGuard? names host).target =
      if ∃ guard ∈ names.filterMap host.guards.find?, host.target = some guard.handle then none
      else host.target := by
  induction names generalizing host with
  | nil => simp [dropEach]
  | cons name rest inductionHypothesis =>
      have onward : dropEach dropGuard? (name :: rest) host =
          dropEach dropGuard? rest ((dropGuard? host name).getD host) := rfl
      rw [onward]
      cases found : host.guards.find? name with
      | none =>
          have missing : dropGuard? host name = none := by
            unfold dropGuard?
            rw [found, Option.map_none]
          rw [missing, Option.getD_none, inductionHypothesis, List.filterMap_cons_none found]
      | some guard =>
          have dropped : dropGuard? host name =
              some ({ host with guards := host.guards.remove name }.letGoGuard guard) := by
            unfold dropGuard?
            rw [found, Option.map_some]
          rw [dropped, Option.getD_some, inductionHypothesis, letGoGuard_target,
            letGoGuard_guards, List.filterMap_cons_some found]
          by_cases own : host.target = some guard.handle
          · simp [own]
          · rw [if_neg own]
            refine ite_congr (propext ?_) (fun _ => rfl) fun _ => rfl
            constructor
            · rintro ⟨other, listed, same⟩
              rcases List.mem_filterMap.mp listed with ⟨key, isKey, atKey⟩
              rw [Bindings.find?_remove] at atKey
              split at atKey
              · cases atKey
              · exact ⟨other, List.mem_cons_of_mem _ (List.mem_filterMap.mpr ⟨key, isKey, atKey⟩),
                  same⟩
            · rintro ⟨other, listed, same⟩
              rcases List.mem_cons.mp listed with rfl | listed
              · exact absurd same own
              · rcases List.mem_filterMap.mp listed with ⟨key, isKey, atKey⟩
                have different : key ≠ name := by
                  rintro rfl
                  rw [found, Option.some.injEq] at atKey
                  exact own (atKey ▸ same)
                refine ⟨other, List.mem_filterMap.mpr ⟨key, isKey, ?_⟩, same⟩
                rw [Bindings.find?_remove, if_neg different, atKey]

/-- The guards that go when a counter is armed under a name and guards of some names
are dropped after that: the one that had the name before, and those that have one of
the names. -/
def guardsGone (host : Host σ) (counter : Counter) (name : String) (dropped : List String) :
    List Counter :=
  (host.guards.find? name).toList ++
    dropped.filterMap (host.guards.bind name counter).find?

/-- A counter is armed, and from then on guards are dropped but nothing is armed. -/
def armedLast (host : Host σ) (counter : Counter) (name : String) (dropped : List String) :
    Host σ :=
  dropEach dropGuard? dropped ((host.arm counter).keepGuard name counter)

theorem armedLast_target (host : Host σ) (counter : Counter) (name : String)
    (dropped : List String) :
    (host.armedLast counter name dropped).target =
      if ∃ guard ∈ host.guardsGone counter name dropped, guard.handle = counter.handle then none
      else some counter.handle := by
  have kept : ((host.arm counter).keepGuard name counter).target =
      if ∃ guard ∈ (host.guards.find? name).toList, guard.handle = counter.handle then none
      else some counter.handle := by
    have names : (host.arm counter).guards.find? name = host.guards.find? name := rfl
    unfold keepGuard
    rw [names]
    cases host.guards.find? name with
    | none => rfl
    | some displaced =>
        refine (letGoGuard_target _ displaced).trans ?_
        simp [arm, eq_comm]
  have bound : ((host.arm counter).keepGuard name counter).guards =
      host.guards.bind name counter := by
    unfold keepGuard
    cases (host.arm counter).guards.find? name with
    | none => rfl
    | some displaced => exact letGoGuard_guards _ displaced
  unfold armedLast guardsGone
  rw [dropGuards_target, kept, bound]
  generalize (host.guards.find? name).toList = displaced
  generalize dropped.filterMap (host.guards.bind name counter).find? = gone
  by_cases own : ∃ guard ∈ displaced, guard.handle = counter.handle
  · rcases own with ⟨guard, listed, same⟩
    have among : ∃ guard ∈ displaced ++ gone, guard.handle = counter.handle :=
      ⟨guard, List.mem_append_left _ listed, same⟩
    have own : ∃ guard ∈ displaced, guard.handle = counter.handle := ⟨guard, listed, same⟩
    rw [if_pos own, if_pos among, ite_self]
  · rw [if_neg own]
    refine ite_congr (propext ?_) (fun _ => rfl) fun _ => rfl
    constructor
    · rintro ⟨guard, listed, same⟩
      exact ⟨guard, List.mem_append_right _ listed, (Option.some.inj same).symm⟩
    · rintro ⟨guard, listed, same⟩
      rcases List.mem_append.mp listed with listed | listed
      · exact absurd ⟨guard, listed, same⟩ own
      · exact ⟨guard, listed, congrArg some same.symm⟩

/-- After the newest arming a request is delivered, and to that counter's cell
alone, exactly until some guard of the same cell is dropped, whether it is the newest
or an older one.  Guards of other cells make no difference. -/
theorem deliver_after_newest (host : Host σ) (counter : Counter) (name : String)
    (dropped : List String) :
    ((host.armedLast counter name dropped).deliver.1 = true ↔
      ∀ guard ∈ host.guardsGone counter name dropped, guard.handle ≠ counter.handle) ∧
    ∀ other, (host.armedLast counter name dropped).deliver.2.cell? other =
      ((host.armedLast counter name dropped).cell? other).map fun value =>
        if (host.armedLast counter name dropped).deliver.1 = true ∧ counter.handle = other then
          value + 1
        else value := by
  have target := armedLast_target host counter name dropped
  by_cases own : ∃ guard ∈ host.guardsGone counter name dropped, guard.handle = counter.handle
  · rw [if_pos own] at target
    have nothing : (host.armedLast counter name dropped).deliver =
        (false, host.armedLast counter name dropped) := by
      unfold deliver
      rw [target]
    rw [nothing]
    constructor
    · constructor
      · intro impossible
        cases impossible
      · rcases own with ⟨guard, listed, same⟩
        intro others
        exact absurd same (others guard listed)
    · intro other
      simp
  · rw [if_neg own] at target
    have delivered : (host.armedLast counter name dropped).deliver =
        (true, ((host.armedLast counter name dropped).bump counter.handle).2) := by
      unfold deliver
      rw [target]
    rw [delivered]
    constructor
    · constructor
      · intro _ guard listed same
        exact own ⟨guard, listed, same⟩
      · intro _
        rfl
    · intro other
      simp only [true_and]
      exact bump_cell? _ counter.handle other

/-- The older of two guards of one counter is dropped while the newer one is held,
and the request that comes then is lost. -/
theorem older_guard_disarms :
    ∃ first : Host Recording.Recorder,
      Host.init {} Memory.machine {} [] = .ok first ∧
        (first.afterAll [.acquire, .lookup 0 (some "lease"), .resolve "lease" "counter",
          .arm "counter" "older", .arm "counter" "newer", .drop "older"]).guards.find? "newer" =
            some ⟨0, 0⟩ ∧
        (first.afterAll [.acquire, .lookup 0 (some "lease"), .resolve "lease" "counter",
          .arm "counter" "older", .arm "counter" "newer", .drop "older"]).outcome .deliver =
            .ok (.flag false) ∧
        (first.afterAll [.acquire, .lookup 0 (some "lease"), .resolve "lease" "counter",
          .arm "counter" "older", .arm "counter" "newer", .drop "older", .deliver]).cell? 0 =
            some 0 :=
  ⟨_, rfl, by decide, rfl, by decide⟩

end Host

end SessionHost
