import SessionHost.Proofs.Abandonment

namespace SessionHost

/-!
# Who is told of an abandoned lock

Where no thread takes the creation lock while another one that found it abandoned is
about to declare it in order, there is one report for each factory that unwound, and it
goes to the next thread that takes the lock.  Where threads do, one unwound factory may
be reported twice, and another one not to the next thread: its lock is declared in order
by a thread that had found it abandoned before.
-/

namespace SharedTable

variable {shared next last : SharedTable} {thread other : ThreadId}

/-- What a thread came back with. -/
def Event.answerTo? (thread : ThreadId) : Event → Option (Except RegistryError SessionId)
  | returned other answer => if other = thread then some answer else none
  | _ => none

/-- What a thread first came back with. -/
def firstAnswer? (thread : ThreadId) (events : List Event) :
    Option (Except RegistryError SessionId) :=
  events.findSome? (Event.answerTo? thread)

/-- No thread takes the lock while another one that found it abandoned is about to
declare it in order. -/
def Orderly (shared : SharedTable) : List (ThreadId × Move) → Prop
  | [] => True
  | (thread, move) :: later =>
    (move = .lock → ∀ other, shared.stage other ≠ .clearing) ∧
      ∀ next, shared.step thread move = some next → next.Orderly later

/-! ## Threads that let each other finish -/

/-- Who found the lock abandoned has it declared in order before anybody else takes it:
all other threads are idle, and the lock is still abandoned. -/
structure Prompt (shared : SharedTable) : Prop where
  reported : shared.Reported
  alone : ∀ thread other, (shared.stage thread).reports = true → shared.stage other ≠ .idle →
    other = thread
  standing : ∀ thread, (shared.stage thread).reports = true → shared.registry.abandoned = true
  exact : shared.reporters.length + shared.registry.abandoned.toNat = shared.unwindings

theorem Stage.eq_idle {stage : Stage} (outside : stage.holds ≠ true)
    (finished : stage ≠ .clearing) : stage = .idle := by
  cases stage with
  | idle => rfl
  | clearing => exact absurd rfl finished
  | _ => exact absurd rfl outside

theorem idle_of_free (exclusive : shared.Exclusive) (free : shared.holder = none)
    (finished : shared.stage thread ≠ .clearing) : shared.stage thread = .idle := by
  refine Stage.eq_idle ?_ finished
  intro holds
  have held := (exclusive.holding thread).mp holds
  rw [free] at held
  cases held

namespace Prompt

/-- A thread has finished, and no other one found the lock abandoned. -/
theorem unreporting_update
    (others : ∀ other, other ≠ thread → (shared.stage other).reports = false) (other : ThreadId) :
    ((shared.advance thread .idle).stage other).reports = false := by
  by_cases same : other = thread
  · subst other
    rw [stage_advance_self]
    rfl
  · rw [stage_advance_of_ne same]
    exact others other same

/-- Where nobody found the lock abandoned, all that is left is the count. -/
theorem of_unreporting (reported : shared.Reported)
    (unreporting : ∀ thread, (shared.stage thread).reports = false)
    (exact : shared.reporters.length + shared.registry.abandoned.toNat = shared.unwindings) :
    shared.Prompt := by
  have nobody (thread : ThreadId) : (shared.stage thread).reports ≠ true :=
    Bool.eq_false_iff.mp (unreporting thread)
  exact ⟨reported, fun thread _ reports => absurd reports (nobody thread),
    fun thread reports => absurd reports (nobody thread), exact⟩

/-- Nobody found the lock abandoned while another one works under it. -/
theorem unreporting (prompt : shared.Prompt) (reserved : shared.stage thread = .reserved)
    (other : ThreadId) : (shared.stage other).reports = false := by
  apply Bool.eq_false_iff.mpr
  intro reports
  have same : thread = other := prompt.alone other thread reports (by rw [reserved]; nofun)
  rw [← same, reserved] at reports
  cases reports

theorem stepped (prompt : shared.Prompt) (taken : Stepped shared thread next)
    (orderly : shared.holder = none → next.holder = some thread →
      ∀ other, shared.stage other ≠ .clearing) : next.Prompt := by
  have reported := prompt.reported.stepped taken
  have exclusive := prompt.reported.sound.exclusive
  cases prompt.reported.sound.course taken with
  | @silent _ stage silent =>
      have idle (was : shared.stage thread = .idle) (busy : stage ≠ .idle) (other : ThreadId) :
          shared.stage other = .idle := by
        rcases silent.taking was busy with ⟨free, held⟩
        exact idle_of_free exclusive free (orderly free held other)
      refine ⟨reported, ?_, ?_, ?_⟩
      · intro first second
        rw [silent.advanced]
        by_cases own : first = thread
        · subst first
          by_cases same : second = thread
          · exact fun _ _ => same
          · rw [stage_advance_self, stage_advance_of_ne same]
            intro reports busy
            rcases silent.reports reports with before | ⟨was, _⟩
            · exact prompt.alone thread second before busy
            · have working : stage ≠ .idle := fun idle => by rw [idle] at reports; cases reports
              exact absurd (idle was working second) busy
        · rw [stage_advance_of_ne own]
          by_cases same : second = thread
          · subst second
            rw [stage_advance_self]
            intro reports busy
            by_cases was : shared.stage thread = .idle
            · rw [idle was busy first] at reports
              cases reports
            · exact prompt.alone first thread reports was
          · rw [stage_advance_of_ne same]
            exact prompt.alone first second
      · intro first
        rw [silent.advanced, silent.abandoned]
        by_cases same : first = thread
        · subst first
          rw [stage_advance_self]
          intro reports
          rcases silent.reports reports with before | ⟨_, abandoned⟩
          · exact prompt.standing thread before
          · exact abandoned
        · rw [stage_advance_of_ne same]
          exact prompt.standing first
      · rw [silent.reporters, silent.abandoned, silent.unwindings]
        exact prompt.exact
  | unwound reserved =>
      have inOrder : shared.registry.abandoned = false :=
        prompt.reported.sound.clean thread (by rw [reserved]; rfl) (by rw [reserved]; rfl)
      apply of_unreporting reported
      · exact unreporting_update fun other _ => prompt.unreporting reserved other
      · have before := prompt.exact
        rw [inOrder] at before
        rw [unwindings_unwind, reporters_unwind, ← before]
        rfl
  | reported clearing =>
      have reports : (shared.stage thread).reports = true := by rw [clearing]; rfl
      apply of_unreporting reported
      · apply unreporting_update
        intro other different
        apply Bool.eq_false_iff.mpr
        intro also
        exact different (prompt.alone thread other reports fun idle => by
          rw [idle] at also
          cases also)
      · have before := prompt.exact
        rw [prompt.standing thread reports] at before
        rw [unwindings_clear, reporters_clear, List.length_append, ← before]
        rfl

end Prompt

/-! ## Runs -/

theorem run_append (shared : SharedTable) (first later : List (ThreadId × Move)) :
    shared.run (first ++ later) = (shared.run first).bind (·.run later) := by
  induction first generalizing shared with
  | nil => rfl
  | cons move rest inductionHypothesis =>
      rcases move with ⟨thread, move⟩
      simp only [List.cons_append, run, Option.bind_assoc]
      congr 1
      funext next
      exact inductionHypothesis next

theorem orderly_of_append {first later : List (ThreadId × Move)}
    (orderly : shared.Orderly (first ++ later)) : shared.Orderly first := by
  induction first generalizing shared with
  | nil => trivial
  | cons move rest inductionHypothesis =>
      exact ⟨orderly.1, fun next taken => inductionHypothesis (orderly.2 next taken)⟩

/-- To take the free lock is a move of its own. -/
theorem lock_of_taken {move : Move} (taken : shared.step thread move = some next)
    (free : shared.holder = none) (held : next.holder = some thread) : move = .lock := by
  have unheld (none : next.holder = none) {move : Move} : move = .lock := by
    rw [none] at held
    cases held
  have kept (same : next.holder = shared.holder) {move : Move} : move = .lock :=
    unheld (same.trans free)
  unfold step at taken
  split at taken
  · cases taken
    exact kept rfl
  · cases taken
    exact kept rfl
  · rfl
  · cases taken
    refine kept ?_
    unfold reserve
    split
    · rfl
    · rfl
  · next made _ =>
      cases taken
      cases made with
      | none => exact kept rfl
      | some handle => exact kept rfl
  · cases taken
    exact unheld rfl
  · cases taken
    exact kept rfl
  · cases taken
    exact unheld rfl
  · cases taken
    exact unheld rfl
  · cases taken
    exact kept rfl
  · cases taken

theorem prompt_of_orderly {moves : List (ThreadId × Move)} (prompt : shared.Prompt)
    (orderly : shared.Orderly moves) (ran : shared.run moves = some last) : last.Prompt := by
  induction moves generalizing shared with
  | nil =>
      cases ran
      exact prompt
  | cons first later inductionHypothesis =>
      rcases first with ⟨thread, move⟩
      rcases Option.bind_eq_some_iff.mp ran with ⟨next, taken, ran⟩
      have finished (free : shared.holder = none) (held : next.holder = some thread) :
          ∀ other, shared.stage other ≠ .clearing :=
        orderly.1 (lock_of_taken taken free held)
      exact inductionHypothesis (prompt.stepped (stepped_of_step taken) finished)
        (orderly.2 next taken) ran

/-- The lock is abandoned, and nobody is about to do anything about it. -/
structure Deserted (shared : SharedTable) : Prop where
  abandoned : shared.registry.abandoned = true
  idle : ∀ thread, shared.stage thread = .idle

/-- Behind a factory that unwound everybody is idle, for nobody else was at work and
nobody had a report to make. -/
theorem deserted_of_unwound (prompt : shared.Prompt)
    (taken : shared.step thread .unwind = some next) : next.Deserted := by
  have unwound : shared.stage thread = .reserved ∧ next = shared.unwind thread := by
    cases reached : shared.stage thread with
    | reserved => simpa [step, reached, eq_comm] using taken
    | _ => simp [step, reached] at taken
  rcases unwound with ⟨reserved, rfl⟩
  have exclusive := prompt.reported.sound.exclusive
  have held := exclusive.holder_eq reserved rfl
  refine ⟨rfl, ?_⟩
  intro other
  by_cases same : other = thread
  · subst other
    exact stage_advance_self ..
  · have unmoved : (shared.unwind thread).stage other = shared.stage other :=
      stage_advance_of_ne same ..
    have unreporting := prompt.unreporting reserved other
    rw [unmoved]
    apply Stage.eq_idle
    · intro holds
      have also := (exclusive.holding other).mp holds
      rw [held, Option.some.injEq] at also
      exact same also.symm
    · intro clearing
      rw [clearing] at unreporting
      cases unreporting

/-- Without the lock there is nothing but looking up and releasing. -/
theorem Deserted.run {moves : List (ThreadId × Move)} (deserted : shared.Deserted)
    (unlocking : ∀ move ∈ moves, move.2 ≠ .lock) (ran : shared.run moves = some last) :
    last.Deserted := by
  induction moves generalizing shared with
  | nil =>
      cases ran
      exact deserted
  | cons first later inductionHypothesis =>
      rcases first with ⟨thread, move⟩
      rcases Option.bind_eq_some_iff.mp ran with ⟨next, taken, ran⟩
      have unlocked : move ≠ .lock := unlocking (thread, move) (List.mem_cons_self ..)
      have idle := deserted.idle thread
      refine inductionHypothesis ?_
        (fun move listed => unlocking move (List.mem_cons_of_mem _ listed)) ran
      cases move with
      | lock => exact absurd rfl unlocked
      | lookup raw =>
          simp only [step, Option.some.injEq] at taken
          rw [← taken]
          exact ⟨deserted.abandoned, deserted.idle⟩
      | release raw =>
          simp only [step, Option.some.injEq] at taken
          rw [← taken]
          cases found : shared.registry.lookup raw with
          | error error =>
              rw [release_of_refused found]
              exact ⟨deserted.abandoned, deserted.idle⟩
          | ok id =>
              rw [release_of_found found]
              exact ⟨deserted.abandoned, deserted.idle⟩
      | _ => simp [step, idle] at taken

/-! ## The thread that comes back with the report -/

/-- A thread that found the lock abandoned has come back with nothing since, or first
with a report. -/
def Telling (earlier : List Event) (thread : ThreadId) (shared : SharedTable) : Prop :=
  ∃ news, shared.events = earlier ++ news ∧
    (firstAnswer? thread news = none ∧ (shared.stage thread).reports = true ∨
      firstAnswer? thread news = some (.error .lockAbandoned))

theorem firstAnswer?_returned_of_ne (different : other ≠ thread)
    (answer : Except RegistryError SessionId) :
    firstAnswer? other [.returned thread answer] = none := by
  simp only [firstAnswer?, List.findSome?_singleton, Event.answerTo?, if_neg (Ne.symm different)]

theorem firstAnswer?_returned_self (thread : ThreadId) (answer : Except RegistryError SessionId) :
    firstAnswer? thread [.returned thread answer] = some answer := by
  simp only [firstAnswer?, List.findSome?_singleton, Event.answerTo?, if_true]

/-- A step adds to what happened, and leaves the other threads where they are. -/
theorem others_of_stepped (taken : Stepped shared thread next) :
    ∃ news, next.events = shared.events ++ news ∧ ∀ other, other ≠ thread →
      next.stage other = shared.stage other ∧ firstAnswer? other news = none := by
  have unsaid : shared.events = shared.events ++ [] := (List.append_nil _).symm
  have unmoved (stage : Stage) {other : ThreadId} (different : other ≠ thread) :
      (shared.advance thread stage).stage other = shared.stage other :=
    stage_advance_of_ne different ..
  cases taken with
  | lookup raw => exact ⟨_, rfl, fun _ _ => ⟨rfl, rfl⟩⟩
  | release raw =>
      cases found : shared.registry.lookup raw with
      | error error =>
          rw [release_of_refused found]
          exact ⟨_, rfl, fun _ _ => ⟨rfl, rfl⟩⟩
      | ok id =>
          rw [release_of_found found]
          exact ⟨_, rfl, fun _ _ => ⟨rfl, rfl⟩⟩
  | lock idle free => exact ⟨[], unsaid, fun _ different => ⟨unmoved _ different, rfl⟩⟩
  | reserve locked =>
      unfold reserve
      split
      · exact ⟨[], unsaid, fun _ different => ⟨unmoved _ different, rfl⟩⟩
      · exact ⟨[], unsaid, fun _ different => ⟨unmoved _ different, rfl⟩⟩
  | create reserved made =>
      cases made with
      | none => exact ⟨[], unsaid, fun _ different => ⟨unmoved _ different, rfl⟩⟩
      | some handle => exact ⟨[], unsaid, fun _ different => ⟨unmoved _ different, rfl⟩⟩
  | unwind reserved => exact ⟨_, rfl, fun _ different => ⟨unmoved _ different, rfl⟩⟩
  | append made => exact ⟨_, rfl, fun _ different => ⟨unmoved _ different, rfl⟩⟩
  | @leave answer leaving =>
      exact ⟨[.returned thread answer], rfl, fun _ different =>
        ⟨unmoved _ different, firstAnswer?_returned_of_ne different _⟩⟩
  | letGo abandoned => exact ⟨[], unsaid, fun _ different => ⟨unmoved _ different, rfl⟩⟩
  | clear clearing =>
      exact ⟨[.returned thread (.error .lockAbandoned)], rfl, fun _ different =>
        ⟨unmoved _ different, firstAnswer?_returned_of_ne different _⟩⟩

/-- A thread with a report to make goes on with that. -/
theorem telling_of_own (reports : (shared.stage thread).reports = true)
    (taken : Stepped shared thread next) : Telling shared.events thread next := by
  have unreported {stage : Stage} (reached : shared.stage thread = stage)
      (silent : stage.reports = false) {conclusion : Prop} : conclusion := by
    rw [reached, silent] at reports
    cases reports
  cases taken with
  | lookup raw => exact ⟨_, rfl, .inl ⟨rfl, reports⟩⟩
  | release raw =>
      cases found : shared.registry.lookup raw with
      | error error =>
          rw [release_of_refused found]
          exact ⟨_, rfl, .inl ⟨rfl, reports⟩⟩
      | ok id =>
          rw [release_of_found found]
          exact ⟨_, rfl, .inl ⟨rfl, reports⟩⟩
  | lock idle free => exact unreported idle rfl
  | reserve locked => exact unreported locked rfl
  | create reserved made => exact unreported reserved rfl
  | unwind reserved => exact unreported reserved rfl
  | append made => exact unreported made rfl
  | leave leaving => exact unreported leaving rfl
  | letGo abandoned =>
      refine ⟨[], (List.append_nil _).symm, .inl ⟨rfl, ?_⟩⟩
      have cleared : (shared.letGo thread).stage thread = .clearing :=
        stage_advance_self ..
      rw [cleared]
      rfl
  | clear clearing => exact ⟨_, rfl, .inr (firstAnswer?_returned_self thread _)⟩

theorem Telling.stepped {earlier : List Event} (telling : Telling earlier thread shared)
    (taken : Stepped shared other next) : Telling earlier thread next := by
  rcases telling with ⟨news, happened, ⟨unanswered, reports⟩ | answered⟩
  · have onward : Telling shared.events thread next := by
      by_cases own : thread = other
      · subst other
        exact telling_of_own reports taken
      · rcases others_of_stepped taken with ⟨latest, grown, others⟩
        rcases others thread own with ⟨unmoved, silent⟩
        exact ⟨latest, grown, .inl ⟨silent, by rw [unmoved]; exact reports⟩⟩
    rcases onward with ⟨latest, grown, outcome⟩
    refine ⟨news ++ latest, by rw [grown, happened, List.append_assoc], ?_⟩
    have first : firstAnswer? thread (news ++ latest) = firstAnswer? thread latest := by
      unfold firstAnswer? at unanswered ⊢
      rw [List.findSome?_append, unanswered, Option.none_or]
    rw [first]
    exact outcome
  · rcases others_of_stepped taken with ⟨latest, grown, _⟩
    refine ⟨news ++ latest, by rw [grown, happened, List.append_assoc], .inr ?_⟩
    unfold firstAnswer? at answered ⊢
    rw [List.findSome?_append, answered, Option.some_or]

/-- The next thread that takes the lock behind a factory that unwound finds it
abandoned, and comes back with that. -/
theorem telling_of_next_lock (prompt : shared.Prompt) {between later : List (ThreadId × Move)}
    (unlocking : ∀ move ∈ between, move.2 ≠ .lock)
    (ran : shared.run ((thread, .unwind) :: (between ++ (other, .lock) :: later)) = some last) :
    ∃ found, shared.run ((thread, .unwind) :: (between ++ [(other, .lock)])) = some found ∧
      Telling found.events other last := by
  rcases Option.bind_eq_some_iff.mp ran with ⟨next, unwound, ran⟩
  rw [run_append] at ran
  rcases Option.bind_eq_some_iff.mp ran with ⟨still, waited, ran⟩
  rcases Option.bind_eq_some_iff.mp ran with ⟨found, taken, ran⟩
  have deserted := (deserted_of_unwound prompt unwound).run unlocking waited
  have reports : (found.stage other).reports = true := by
    have idle := deserted.idle other
    simp only [step, idle, Option.ite_none_right_eq_some, Option.some.injEq] at taken
    rw [← taken.2]
    simp only [lock, advance, deserted.abandoned, if_true]
    rfl
  refine ⟨found, ?_, ?_⟩
  · rw [run, unwound, Option.bind_some, run_append, waited, Option.bind_some, run, taken]
    rfl
  · exact run_of_preserved (Telling found.events other) Telling.stepped
      ⟨[], (List.append_nil _).symm, .inl ⟨rfl, reports⟩⟩ ran

/-! ## Reports of unwound factories -/

theorem prompt_of_init {memory : Memory} {config : RegistryConfig} {registry : Registry}
    (initial : Registry.init memory config = .ok registry) : Prompt { registry } := by
  have inOrder : registry.abandoned = false := Registry.init_abandoned initial
  have sound : Sound { registry } := ⟨(numbered_of_init initial).exclusive, nofun, nofun⟩
  have reported : Reported { registry } := by
    refine ⟨sound, ?_, Nat.zero_le _⟩
    intro thread
    simp only [inOrder]
    exact Nat.le_refl 0
  apply Prompt.of_unreporting reported
  · exact fun _ => rfl
  · simp only [inOrder]
    rfl

/-- However the steps of threads interleave, at least as many creations come back with
an abandoned lock as factories unwound, but for a last time that the lock still tells of,
and no thread comes back with it more often than factories unwound.

Where a thread that finds the lock abandoned declares it in order before another one
takes it, there is exactly one report for each factory that unwound, and the next thread
that takes the lock comes back with it. -/
theorem unwindings_reported {memory : Memory} {config : RegistryConfig} {registry : Registry}
    (initial : Registry.init memory config = .ok registry) {moves : List (ThreadId × Move)}
    {last : SharedTable} (ran : run { registry } moves = some last) :
    last.unwindings ≤ last.reporters.length + last.registry.abandoned.toNat ∧
      (∀ thread, last.reporters.count thread ≤ last.unwindings) ∧
      (Orderly { registry } moves →
        last.reporters.length + last.registry.abandoned.toNat = last.unwindings ∧
        ∀ before thread between other later,
          moves = before ++ (thread, .unwind) :: (between ++ (other, .lock) :: later) →
          (∀ move ∈ between, move.2 ≠ .lock) →
          ∃ found, run { registry } (before ++ (thread, .unwind) :: (between ++ [(other, .lock)])) =
              some found ∧
            Telling found.events other last) := by
  have prompt := prompt_of_init initial
  have reported := run_of_preserved Reported Reported.stepped prompt.reported ran
  refine ⟨reported.total, ?_, ?_⟩
  · exact fun thread => Nat.le_trans (Nat.le_add_right _ _) (reported.each thread)
  · intro orderly
    refine ⟨(prompt_of_orderly prompt orderly ran).exact, ?_⟩
    rintro before thread between other later rfl unlocking
    rw [run_append] at ran
    rcases Option.bind_eq_some_iff.mp ran with ⟨middle, begun, ran⟩
    have prompt := prompt_of_orderly prompt (orderly_of_append orderly) begun
    rcases telling_of_next_lock prompt unlocking ran with ⟨found, reached, telling⟩
    refine ⟨found, ?_, telling⟩
    rw [run_append, begun]
    exact reached

theorem orderly_of_step {move : Move} {later : List (ThreadId × Move)}
    (finished : move = .lock → ∀ other, shared.stage other ≠ .clearing)
    (taken : shared.step thread move = some next) (orderly : next.Orderly later) :
    shared.Orderly ((thread, move) :: later) := by
  refine ⟨finished, ?_⟩
  intro other also
  rw [taken, Option.some.injEq] at also
  rw [← also]
  exact orderly

/-- A table with room for one session. -/
def narrow : Registry where
  memory := Memory.machine
  chunkSize := 1
  maxSessions := none
  capacity := 1
  growths := 0
  abandoned := false
  sessions := #[]

theorem init_narrow : Registry.init Memory.machine { chunkSize := 1 } = .ok narrow := by
  decide +kernel

/-- A factory unwinds, a thread lets go of the abandoned lock and declares it in order,
and a third one has a session created. -/
def relayed : List (ThreadId × Move) :=
  [(0, .lock), (0, .reserve), (0, .unwind)] ++
    [(0, .lookup 0), (1, .lock), (1, .unlock), (0, .lookup 0), (1, .clear),
      (2, .lock), (2, .reserve), (2, .create (some 0)), (2, .append), (2, .unlock)]

theorem orderly_relayed : Orderly { registry := narrow } relayed := by
  refine orderly_of_step (fun _ _ => nofun) rfl ?_
  refine orderly_of_step nofun rfl ?_
  refine orderly_of_step nofun rfl ?_
  refine orderly_of_step nofun rfl ?_
  refine orderly_of_step ?_ rfl ?_
  · rintro - (_ | other)
    · nofun
    · nofun
  refine orderly_of_step nofun rfl ?_
  refine orderly_of_step nofun rfl ?_
  refine orderly_of_step nofun rfl ?_
  refine orderly_of_step ?_ rfl ?_
  · rintro - (_ | _ | other)
    · nofun
    · nofun
    · nofun
  refine orderly_of_step nofun rfl ?_
  refine orderly_of_step nofun rfl ?_
  refine orderly_of_step nofun rfl ?_
  exact orderly_of_step nofun rfl trivial

theorem unwindings_reported_when_relayed :
    ∃ last, run { registry := narrow } relayed = some last ∧
      Orderly { registry := narrow } relayed ∧ last.registry.abandoned = false ∧
        last.unwindings = 1 ∧ last.reporters.length = 1 ∧
        firstAnswer? 1 last.events = some (.error .lockAbandoned) ∧
        ∃ found, run { registry := narrow } (relayed.take 5) = some found ∧
          Telling found.events 1 last := by
  have outcome := unwindings_reported init_narrow (show run _ relayed = some _ from rfl)
  rcases outcome.2.2 orderly_relayed with ⟨exact, answered⟩
  exact ⟨_, rfl, orderly_relayed, rfl, rfl, exact, rfl,
    answered [(0, .lock), (0, .reserve)] 0 [(0, .lookup 0)] 1 _ rfl (by simp)⟩

/-- Two threads take the lock one after the other before it is declared in order. -/
def overtaken : List (ThreadId × Move) :=
  [(0, .lock), (0, .reserve), (0, .unwind), (1, .lock), (1, .unlock), (2, .lock), (2, .unlock),
    (1, .clear), (2, .clear)]

/-- Two threads are about to declare the lock in order.  The second one does so over a
factory that unwound after the first one had. -/
def wiped : List (ThreadId × Move) :=
  overtaken.take 8 ++
    [(3, .lock), (3, .reserve), (3, .unwind), (2, .clear),
      (4, .lock), (4, .reserve), (4, .create (some 0)), (4, .append), (4, .unlock)]

/-- One unwound factory may be reported twice, and one may not be reported to the next
thread that takes the lock. -/
theorem unwinding_reported_twice_or_wiped :
    ∃ twice last, run { registry := narrow } overtaken = some twice ∧
      twice.unwindings = 1 ∧ twice.reporters = [1, 2] ∧
      run { registry := narrow } wiped = some last ∧
      last.unwindings = 2 ∧ last.reporters = [1, 2] ∧ firstAnswer? 4 last.events = some (.ok 0) :=
  ⟨_, _, rfl, rfl, rfl, rfl, rfl, rfl, rfl⟩

end SharedTable

end SessionHost
