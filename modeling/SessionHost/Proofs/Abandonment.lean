import SessionHost.Proofs.Creations

namespace SessionHost

/-!
# Reports of an abandoned lock

A factory that unwinds leaves the creation lock abandoned, and a thread that finds
it so comes back with a report.  To let go of the lock that it found abandoned and to
declare it in order are two steps, and other threads may take steps in between.

Nothing is lost by that on the whole: there are at least as many reports as unwound
factories, but for a last one that the lock still tells of.  But threads that take
the lock in between may find it abandoned as well, so one unwound factory may be
reported to each thread once.
-/

namespace SharedTable

variable {shared next last : SharedTable} {thread other : ThreadId}

namespace Event

def isUnwinding : Event → Bool
  | unwound _ => true
  | _ => false

/-- The thread that was told that the lock was abandoned. -/
def reporter? : Event → Option ThreadId
  | returned thread (.error .lockAbandoned) => some thread
  | _ => none

end Event

/-- A thread at this stage has found the lock abandoned, and is going to say so. -/
def Stage.reports : Stage → Bool
  | abandoned => true
  | clearing => true
  | _ => false

/-- How many factories unwound. -/
def unwindings (shared : SharedTable) : Nat :=
  shared.events.countP Event.isUnwinding

/-- The threads that were told that the lock was abandoned, once for each time. -/
def reporters (shared : SharedTable) : List ThreadId :=
  shared.events.filterMap Event.reporter?

/-! ## One step -/

theorem unwindings_of_events {news : List Event} (events : next.events = shared.events ++ news) :
    next.unwindings = shared.unwindings + news.countP Event.isUnwinding := by
  simp only [unwindings, events, List.countP_append]

theorem reporters_of_events {news : List Event} (events : next.events = shared.events ++ news) :
    next.reporters = shared.reporters ++ news.filterMap Event.reporter? := by
  simp only [reporters, events, List.filterMap_append]

theorem unwindings_unwind (shared : SharedTable) (thread : ThreadId) :
    (shared.unwind thread).unwindings = shared.unwindings + 1 := by
  have events : (shared.unwind thread).events = shared.events ++ [.unwound thread] := rfl
  exact unwindings_of_events events

theorem reporters_unwind (shared : SharedTable) (thread : ThreadId) :
    (shared.unwind thread).reporters = shared.reporters := by
  have events : (shared.unwind thread).events = shared.events ++ [.unwound thread] := rfl
  exact (reporters_of_events events).trans (List.append_nil _)

theorem unwindings_clear (shared : SharedTable) (thread : ThreadId) :
    (shared.clear thread).unwindings = shared.unwindings := by
  have events : (shared.clear thread).events =
      shared.events ++ [.returned thread (.error .lockAbandoned)] := rfl
  exact unwindings_of_events events

theorem reporters_clear (shared : SharedTable) (thread : ThreadId) :
    (shared.clear thread).reporters = shared.reporters ++ [thread] := by
  have events : (shared.clear thread).events =
      shared.events ++ [.returned thread (.error .lockAbandoned)] := rfl
  exact reporters_of_events events

/-- A step that is neither an unwinding nor a report, and the stage that the thread
is at after it. -/
structure Silent (shared next : SharedTable) (thread : ThreadId) (stage : Stage) : Prop where
  advanced : next.stage = (shared.advance thread stage).stage
  abandoned : next.registry.abandoned = shared.registry.abandoned
  unwindings : next.unwindings = shared.unwindings
  reporters : next.reporters = shared.reporters
  /-- A thread that works under the lock found it in order. -/
  clean : stage.holds = true → stage.reports = false → shared.registry.abandoned = false
  answer : stage ≠ .leaving (.error .lockAbandoned)
  /-- It found the lock abandoned before, or it does so by this step. -/
  reports : stage.reports = true → (shared.stage thread).reports = true ∨
    shared.stage thread = .idle ∧ shared.registry.abandoned = true
  taking : shared.stage thread = .idle → stage ≠ .idle →
    shared.holder = none ∧ next.holder = some thread

/-- What a step does to the lock and to the reports. -/
inductive Course (shared : SharedTable) (thread : ThreadId) : SharedTable → Prop
  | silent {next : SharedTable} {stage : Stage} (silent : Silent shared next thread stage) :
      Course shared thread next
  | unwound (reserved : shared.stage thread = .reserved) :
      Course shared thread (shared.unwind thread)
  | reported (clearing : shared.stage thread = .clearing) :
      Course shared thread (shared.clear thread)

/-- A thread that works under the lock found it in order, and an answer that tells of
an abandoned lock comes from nowhere else. -/
structure Sound (shared : SharedTable) : Prop where
  exclusive : shared.Exclusive
  clean : ∀ thread, (shared.stage thread).holds = true → (shared.stage thread).reports = false →
    shared.registry.abandoned = false
  answers : ∀ thread, shared.stage thread ≠ .leaving (.error .lockAbandoned)

namespace Sound

/-- A step of a thread that works under the lock, and goes on with that or leaves. -/
theorem working (sound : shared.Sound) {before after : Stage}
    (reached : shared.stage thread = before) (holds : before.holds = true)
    (unreporting : before.reports = false)
    (advanced : next.stage = (shared.advance thread after).stage)
    (abandoned : next.registry.abandoned = shared.registry.abandoned) {news : List Event}
    (events : next.events = shared.events ++ news)
    (unwound : news.countP Event.isUnwinding = 0) (told : news.filterMap Event.reporter? = [])
    (silent : after.reports = false) (answer : after ≠ .leaving (.error .lockAbandoned)) :
    Course shared thread next := by
  have unwindings : next.unwindings = shared.unwindings := by
    rw [unwindings_of_events events, unwound, Nat.add_zero]
  have reporters : next.reporters = shared.reporters := by
    rw [reporters_of_events events, told, List.append_nil]
  have inOrder : shared.registry.abandoned = false :=
    sound.clean thread (by rw [reached]; exact holds) (by rw [reached]; exact unreporting)
  refine .silent ⟨advanced, abandoned, unwindings, reporters, fun _ _ => inOrder, answer, ?_, ?_⟩
  · intro impossible
    rw [silent] at impossible
    cases impossible
  · intro idle
    rw [← reached, idle] at holds
    cases holds

/-- A lookup or a release. -/
theorem apart (sound : shared.Sound) (unmoved : next.stage = shared.stage)
    (abandoned : next.registry.abandoned = shared.registry.abandoned)
    (unwindings : next.unwindings = shared.unwindings)
    (reporters : next.reporters = shared.reporters) : Course shared thread next :=
  .silent
    { advanced := unmoved.trans (stage_advance_eq_self shared thread).symm
      abandoned
      unwindings
      reporters
      clean := sound.clean thread
      answer := sound.answers thread
      reports := .inl
      taking := absurd }

/-- Every step is an unwinding, a report or neither. -/
theorem course (sound : shared.Sound) (taken : Stepped shared thread next) :
    Course shared thread next := by
  have exclusive := sound.exclusive
  have unsaid : shared.events = shared.events ++ [] := (List.append_nil _).symm
  have looked (event : Event) (unwound : event.isUnwinding = false)
      (told : event.reporter? = none) (registry : Registry)
      (abandoned : registry.abandoned = shared.registry.abandoned) :
      Course shared thread ({ shared with registry }.record event) := by
    have events : ({ shared with registry }.record event).events = shared.events ++ [event] := rfl
    refine sound.apart rfl abandoned ?_ ?_
    · rw [unwindings_of_events events, List.countP_singleton, unwound]
      rfl
    · rw [reporters_of_events events, List.filterMap_cons_none told]
      exact List.append_nil _
  cases taken with
  | lookup raw => exact looked _ rfl rfl shared.registry rfl
  | release raw =>
      cases found : shared.registry.lookup raw with
      | error error =>
          rw [release_of_refused found]
          exact looked _ rfl rfl shared.registry rfl
      | ok id =>
          rw [release_of_found found]
          exact looked _ rfl rfl (shared.registry.marked id) rfl
  | lock idle free =>
      cases abandoned : shared.registry.abandoned with
      | true =>
          have found : (shared.lock thread).stage =
              (shared.advance thread .abandoned).stage := by
            simp only [lock, advance, abandoned, if_true]
          exact .silent ⟨found, rfl, rfl, rfl, (by simp [Stage.reports]), (by simp),
            fun _ => .inr ⟨idle, abandoned⟩, fun _ _ => ⟨free, rfl⟩⟩
      | false =>
          have found : (shared.lock thread).stage =
              (shared.advance thread .locked).stage := by
            simp only [lock, advance, abandoned, Bool.false_eq_true, if_false]
          exact .silent ⟨found, rfl, rfl, rfl, fun _ _ => abandoned, (by simp),
            (by simp [Stage.reports]), fun _ _ => ⟨free, rfl⟩⟩
  | reserve locked =>
      unfold reserve
      cases reserved : shared.registry.reserveSlot with
      | error cause => exact sound.working locked rfl rfl rfl rfl unsaid rfl rfl rfl (by simp)
      | ok grown =>
          rcases Registry.reserveSlot_eq_ok exclusive.roomy reserved with ⟨rfl, _⟩
          exact sound.working locked rfl rfl rfl rfl unsaid rfl rfl rfl (by simp)
  | create reserved made =>
      cases made with
      | none => exact sound.working reserved rfl rfl rfl rfl unsaid rfl rfl rfl (by simp)
      | some handle => exact sound.working reserved rfl rfl rfl rfl unsaid rfl rfl rfl (by simp)
  | unwind reserved => exact .unwound reserved
  | @append handle made =>
      have room := exclusive.slot thread (by rw [made]; rfl)
      rw [append_of_room room]
      exact sound.working made rfl rfl rfl rfl rfl rfl rfl rfl (by simp)
  | @leave answer leaving =>
      have told : [Event.returned thread answer].filterMap Event.reporter? = [] := by
        cases answer with
        | ok id => rfl
        | error error =>
            cases error with
            | lockAbandoned => exact absurd leaving (sound.answers thread)
            | sessionNotFound id => rfl
            | allocationFailure cause => rfl
      exact sound.working leaving rfl rfl rfl rfl rfl rfl told rfl (by simp)
  | letGo abandoned =>
      refine .silent ⟨rfl, rfl, rfl, rfl, (by simp [Stage.reports]), (by simp), ?_, ?_⟩
      · intro owed
        rw [abandoned]
        exact .inl rfl
      · intro idle
        rw [abandoned] at idle
        cases idle
  | clear clearing => exact .reported clearing

theorem answers_update (sound : shared.Sound) {stage : Stage}
    (answer : stage ≠ .leaving (.error .lockAbandoned)) (other : ThreadId) :
    (shared.advance thread stage).stage other ≠ .leaving (.error .lockAbandoned) := by
  by_cases same : other = thread
  · subst other
    rw [stage_advance_self]
    exact answer
  · rw [stage_advance_of_ne same]
    exact sound.answers other

theorem stepped (sound : shared.Sound) (taken : Stepped shared thread next) : next.Sound := by
  have exclusive := sound.exclusive.stepped taken
  cases sound.course taken with
  | silent silent =>
      refine ⟨exclusive, ?_, ?_⟩
      · intro other
        rw [silent.advanced, silent.abandoned]
        by_cases same : other = thread
        · subst other
          rw [stage_advance_self]
          exact silent.clean
        · rw [stage_advance_of_ne same]
          exact sound.clean other
      · rw [silent.advanced]
        exact sound.answers_update silent.answer
  | unwound reserved =>
      refine ⟨exclusive, ?_, sound.answers_update nofun⟩
      intro other holds
      cases (exclusive.holding other).mp holds
  | reported clearing => exact ⟨exclusive, fun _ _ _ => rfl, sound.answers_update nofun⟩

end Sound

/-! ## Threads in any order -/

theorem toNat_le_of_imp {first second : Bool} (implies : first = true → second = true) :
    first.toNat ≤ second.toNat := by
  cases first with
  | false => exact Nat.zero_le _
  | true => exact Nat.le_of_eq (congrArg Bool.toNat (implies rfl).symm)

/-- A thread was told of the abandoned lock less often than factories unwound, if it is
going to be told or would be if it took the lock.  All threads together were told at
least that often, but for a last time that the lock still tells of. -/
structure Reported (shared : SharedTable) : Prop where
  sound : shared.Sound
  each : ∀ thread, shared.reporters.count thread +
    ((shared.stage thread).reports || shared.registry.abandoned).toNat ≤ shared.unwindings
  total : shared.unwindings ≤ shared.reporters.length + shared.registry.abandoned.toNat

theorem Reported.stepped (reported : shared.Reported) (taken : Stepped shared thread next) :
    next.Reported := by
  have sound := reported.sound.stepped taken
  cases reported.sound.course taken with
  | silent silent =>
      refine ⟨sound, ?_, ?_⟩
      · intro other
        refine Nat.le_trans (Nat.add_le_add ?_ (toNat_le_of_imp ?_))
          (Nat.le_trans (reported.each other) (Nat.le_of_eq silent.unwindings.symm))
        · exact Nat.le_of_eq (congrArg (List.count other) silent.reporters)
        · rw [silent.advanced, silent.abandoned, Bool.or_eq_true, Bool.or_eq_true]
          by_cases same : other = thread
          · subst other
            rw [stage_advance_self]
            rintro (reports | abandoned)
            · exact (silent.reports reports).imp_right And.right
            · exact .inr abandoned
          · rw [stage_advance_of_ne same]
            exact id
      · rw [silent.unwindings, silent.reporters, silent.abandoned]
        exact reported.total
  | unwound reserved =>
      have inOrder : shared.registry.abandoned = false :=
        reported.sound.clean thread (by rw [reserved]; rfl) (by rw [reserved]; rfl)
      refine ⟨sound, ?_, ?_⟩
      · intro other
        have before := Nat.le_trans (Nat.le_add_right _ _) (reported.each other)
        rw [unwindings_unwind, reporters_unwind]
        exact Nat.add_le_add before (Bool.toNat_le _)
      · have before := reported.total
        rw [inOrder] at before
        rw [unwindings_unwind, reporters_unwind]
        exact Nat.succ_le_succ before
  | reported clearing =>
      have idle : (shared.clear thread).stage = (shared.advance thread .idle).stage := rfl
      have inOrder : (shared.clear thread).registry.abandoned = false := rfl
      refine ⟨sound, ?_, ?_⟩
      · intro other
        have before := reported.each other
        rw [unwindings_clear, reporters_clear, List.count_append, idle, inOrder, Bool.or_false]
        by_cases same : other = thread
        · subst other
          rw [clearing] at before
          rw [stage_advance_self, List.count_singleton_self]
          exact before
        · rw [stage_advance_of_ne same, List.count_cons_of_ne (Ne.symm same)]
          refine Nat.le_trans (Nat.add_le_add_left (toNat_le_of_imp ?_) _) before
          intro reports
          rw [reports, Bool.true_or]
      · have before := reported.total
        rw [unwindings_clear, reporters_clear, List.length_append]
        exact Nat.le_trans before (Nat.add_le_add_left (Bool.toNat_le _) _)

end SharedTable

end SessionHost
