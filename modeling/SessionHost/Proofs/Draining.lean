import SessionHost.Engine.Recording
import SessionHost.Proofs.Farewell
import SessionHost.Proofs.Marks
import SessionHost.Proofs.ReadFaults
import SessionHost.Proofs.Transcript

namespace SessionHost

/-!
# Loops over input that comes to an end

The loop of a driver has no bound of its own.  It takes another turn until there has been
an exit event, and only the engine raises those.  What bounds it is the input: on a
console that nobody sits at a turn either takes bytes that were left, or it submits the
shutdown sentence.  Bytes that an engine reads for itself are missing from what is left,
and what is left never grows.

So if an engine comes back from every sentence that the loop submits, and raises an exit
event on the shutdown sentence, then the loop comes to its end within one turn for each
byte, and one more.
-/

namespace Source

variable {left : Nat} {buffer : Bytes} {script : List ReadEvent} {tail : Tail}

/-- What is left of a finite script behind a request is what was there without the bytes
that the request has gone through.  If it came back with bytes, it was through these. -/
theorem remaining_of_gathers {gathered : Gathered} {after : Source}
    (gathers : Gathers tail script left buffer gathered after) (closed : tail = .closed) :
    after.tail = .closed ∧ ∃ lost, buffer ++ scripted script = lost ++ after.remaining ∧
      ∀ taken, gathered = .bytes taken → taken = lost := by
  induction gathers with
  | @complete script left buffer reads complete =>
      refine ⟨closed, (cut left buffer).taken, ?_, ?_⟩
      · rw [remaining, ← List.append_assoc, cut_append_rest]
      · rintro taken ⟨⟩
        rfl
  | @closed left buffer reads incomplete isClosed =>
      refine ⟨isClosed, buffer, rfl, ?_⟩
      rintro taken ⟨⟩
      rfl
  | @ended script left buffer reads incomplete =>
      refine ⟨closed, buffer, rfl, ?_⟩
      rintro taken ⟨⟩
      rfl
  | @failed cause script left buffer reads incomplete =>
      refine ⟨closed, buffer, rfl, ?_⟩
      rintro taken ⟨⟩
  | @onward event script bytes left buffer gathered after incomplete brings later
      inductionHypothesis =>
      rcases inductionHypothesis with ⟨stays, lost, whole, given⟩
      have brought : scripted (event :: script) = bytes ++ scripted script := by
        rcases brings with ⟨rfl, rfl⟩ | ⟨rfl, _⟩
        · rfl
        · rfl
      refine ⟨stays, buffer ++ lost, ?_, ?_⟩
      · rw [brought, whole, List.append_assoc]
      · intro taken came
        cases gathered with
        | failed cause => cases came
        | bytes more =>
            cases came
            rw [given more rfl]
  | again incomplete repeats later inductionHypothesis =>
      rw [closed] at repeats
      cases repeats

/-- A request for a line takes nothing back, and a line costs a byte at least. -/
theorem readLine_of_closed {source : Source} (closed : source.tail = .closed) (limit : Nat) :
    ∃ reading after, source.readLine limit = (reading, after) ∧ after.tail = .closed ∧
      after.remaining.length ≤ source.remaining.length ∧
      ∀ line, reading = .line line →
        after.remaining.length < source.remaining.length ∧ line.hasNul = false := by
  have gathers := gathers_gather limit source
  rcases found : source.gather limit with ⟨gathered, after⟩
  rw [found] at gathers
  rcases remaining_of_gathers gathers closed with ⟨stays, lost, whole, given⟩
  have length : source.remaining.length = lost.length + after.remaining.length := by
    rw [remaining, whole, List.length_append]
  rw [readLine, found]
  refine ⟨_, after, rfl, stays, by omega, ?_⟩
  intro line isLine
  cases gathered with
  | failed cause => cases isLine
  | bytes taken =>
      obtain rfl := given taken rfl
      cases taken with
      | nil => cases isLine
      | cons byte rest =>
          cases isLine
          rw [List.length_cons] at length
          exact ⟨by omega, Bytes.hasNul_cutAtNul _⟩

end Source

/-! ## Requests for a line -/

namespace Bridge

/-- A console that nobody sits at, on a device that falls silent in the end. -/
structure Piped (sentence : Bytes) (bridge : Bridge) : Prop where
  unattended : bridge.interactive = false
  closed : bridge.source.tail = .closed
  shutdown : bridge.shutdown = sentence

/-- How many bytes have not been read yet. -/
def unread (bridge : Bridge) : Nat :=
  bridge.source.remaining.length

variable {bridge : Bridge} {sentence : Bytes}

/-- A request on such a console comes back.  It has taken a byte at least, or it comes
back with the shutdown sentence. -/
theorem nextLine_of_piped (piped : bridge.Piped sentence) (prompt : Bytes) (cell : Option UInt8) :
    ∃ line, (bridge.nextLine prompt cell).line = some line ∧
      (bridge.nextLine prompt cell).bridge.Piped sentence ∧
      (bridge.nextLine prompt cell).bridge.unread ≤ bridge.unread ∧
      ((bridge.nextLine prompt cell).bridge.unread < bridge.unread ∧ line.hasNul = false ∨
        line = sentence) := by
  cases unlatched : bridge.exhausted with
  | true =>
      rw [nextLine_of_exhausted unlatched]
      exact ⟨_, rfl, piped, Nat.le_refl _, .inr piped.shutdown⟩
  | false =>
      rcases Source.readLine_of_closed piped.closed bridge.maxInput with
        ⟨reading, after, read, closed, fewer, costs⟩
      cases reading with
      | line line =>
          rcases nextLine_of_line unlatched read prompt with ⟨log, turn⟩
          rw [turn cell]
          exact ⟨line, rfl, ⟨piped.unattended, closed, piped.shutdown⟩, fewer,
            .inl (costs line rfl)⟩
      | ended =>
          rcases nextLine_of_lineless piped.unattended unlatched read (by simp) prompt with
            ⟨log, turn⟩
          rw [turn cell]
          exact ⟨_, rfl, ⟨piped.unattended, closed, piped.shutdown⟩, fewer,
            .inr piped.shutdown⟩
      | failed cause =>
          rcases nextLine_of_lineless piped.unattended unlatched read (by simp) prompt with
            ⟨log, turn⟩
          rw [turn cell]
          exact ⟨_, rfl, ⟨piped.unattended, closed, piped.shutdown⟩, fewer,
            .inr piped.shutdown⟩

end Bridge

namespace Host

variable {σ : Type} {host before after : Host σ} {id : BridgeId} {handle : Handle}
  {sentence : Bytes}

/-- There is such a console at the given place. -/
def Piped (id : BridgeId) (sentence : Bytes) (host : Host σ) : Prop :=
  ∃ bridge, host.bridges[id]? = some bridge ∧ bridge.Piped sentence

/-- How many bytes have not been read yet on a bridge. -/
def unread (host : Host σ) (id : BridgeId) : Nat :=
  (host.bridges[id]?.map Bridge.unread).getD 0

/-- The console stays what it is, and no more is left to be read on it than there was. -/
def Dwindles (id : BridgeId) (sentence : Bytes) (before after : Host σ) : Prop :=
  before.Piped id sentence → after.Piped id sentence ∧ after.unread id ≤ before.unread id

theorem unread_of_found {bridge : Bridge} (found : host.bridges[id]? = some bridge) :
    host.unread id = bridge.unread := by
  rw [unread, found]
  rfl

namespace Dwindles

variable {first second third : Host σ}

theorem trans (earlier : Dwindles id sentence first second)
    (later : Dwindles id sentence second third) : Dwindles id sentence first third := by
  intro piped
  rcases earlier piped with ⟨piped, fewer⟩
  exact ⟨(later piped).1, Nat.le_trans (later piped).2 fewer⟩

theorem of_bridges (same : after.bridges = before.bridges) :
    Dwindles id sentence before after := by
  rintro ⟨bridge, found, piped⟩
  have stays : after.bridges[id]? = some bridge := same ▸ found
  rw [unread_of_found stays, unread_of_found found]
  exact ⟨⟨bridge, stays, piped⟩, Nat.le_refl _⟩

theorem refl (host : Host σ) : Dwindles id sentence host host :=
  of_bridges rfl

/-- A bridge is replaced by one that is no fuller. -/
theorem of_set {other : BridgeId} {bridge later : Bridge}
    (found : before.bridges[other]? = some bridge)
    (put : after.bridges = before.bridges.set other later)
    (dwindles : bridge.Piped sentence → later.Piped sentence ∧ later.unread ≤ bridge.unread) :
    Dwindles id sentence before after := by
  rintro ⟨current, here, piped⟩
  by_cases same : other = id
  · subst same
    rw [found] at here
    cases here
    have replaced : after.bridges[other]? = some later := by
      rw [put]
      exact List.getElem?_set_self (List.getElem?_eq_some_iff.mp found).1
    rw [unread_of_found replaced, unread_of_found found]
    exact ⟨⟨later, replaced, (dwindles piped).1⟩, (dwindles piped).2⟩
  · have stays : after.bridges[id]? = some current := by
      rw [put, List.getElem?_set_ne same]
      exact here
    rw [unread_of_found stays, unread_of_found here]
    exact ⟨⟨current, stays, piped⟩, Nat.le_refl _⟩

end Dwindles

/-! ## What an engine reads -/

theorem readLine_dwindles (host : Host σ) (other : BridgeId) (prompt : Bytes) :
    Hosting.Leaves (readLine other prompt) host (Dwindles id sentence host) := by
  unfold readLine
  rw [Hosting.leaves_get_bind]
  cases found : host.bridges[other]? with
  | none => exact Dwindles.refl host
  | some bridge =>
      dsimp only
      rw [Hosting.leaves_set_bind]
      apply leaves_line
      generalize isTurn : bridge.nextLine prompt _ = turn
      have turned (piped : bridge.Piped sentence) :
          turn.bridge.Piped sentence ∧ turn.bridge.unread ≤ bridge.unread := by
        rcases Bridge.nextLine_of_piped piped prompt _ with ⟨_, _, stays, fewer, _⟩
        rw [isTurn] at stays fewer
        exact ⟨stays, fewer⟩
      refine Dwindles.of_set found ?_ turned
      split
      · rfl
      · rfl

theorem afterTurn_bridges (host : Host σ) (id : BridgeId) (cancel : Option Counter)
    (turn : Bridge.Turn) :
    (host.afterTurn id cancel turn).bridges = host.bridges.set id turn.bridge := by
  unfold afterTurn
  split
  · rfl
  · rfl

/-- A request on such a console returns, with a byte less to be read or with the shutdown
sentence. -/
theorem readLine_of_piped (piped : host.Piped id sentence) (prompt : Bytes) :
    ∃ line asked, readLine id prompt host = .ok line asked ∧ asked.Piped id sentence ∧
      (asked.unread id < host.unread id ∧ line.hasNul = false ∨ line = sentence) := by
  rcases piped with ⟨bridge, found, piped⟩
  have turned := Bridge.nextLine_of_piped piped prompt
    (bridge.cancel.bind fun counter => host.cell? counter.handle)
  generalize isTurn : bridge.nextLine prompt _ = turn at turned
  rcases turned with ⟨line, given, stays, _, costs⟩
  have read := readLine_eq_afterTurn found isTurn
  rw [given] at read
  have put : (host.afterTurn id bridge.cancel turn).bridges[id]? = some turn.bridge := by
    rw [afterTurn_bridges]
    exact getElem?_setBridge found _
  refine ⟨line, _, read, ⟨turn.bridge, put, stays⟩, ?_⟩
  rw [unread_of_found put, unread_of_found found]
  exact costs

theorem outputCallback_dwindles (host : Host σ) (address : Address) (code : Int32)
    (argument : OutputArgument) :
    Hosting.Leaves (outputCallback address code argument) host (Dwindles id sentence host) := by
  unfold outputCallback
  rw [Hosting.leaves_get_bind]
  cases host.bridgeAt? address with
  | none => exact Dwindles.of_bridges rfl
  | some other =>
      dsimp only
      split
      · rw [exitEvent_eq]
        rw [Hosting.leaves_get_bind]
        cases found : host.bridges[other]? with
        | none => exact Dwindles.refl host
        | some bridge =>
            have exited : Dwindles id sentence host
                ((host.setBridge other (bridge.exit argument.status).1).say
                  (bridge.exit argument.status).2) :=
              Dwindles.of_set found rfl fun piped =>
                ⟨⟨piped.unattended, piped.closed, piped.shutdown⟩, Nat.le_refl _⟩
            dsimp only
            rw [Hosting.leaves_set_bind]
            split
            · exact exited
            · exact exited
      · have shown (kind : OutputKind) (payload : Bytes) :
            Dwindles id sentence host (host.display other kind payload) := by
          unfold display
          cases found : host.bridges[other]? with
          | none => exact Dwindles.refl host
          | some bridge =>
              exact Dwindles.of_set found rfl fun piped =>
                ⟨⟨piped.unattended, piped.closed, piped.shutdown⟩, Nat.le_refl _⟩
        exact shown _ _

theorem inputCallback_dwindles (host : Host σ) (address : Address) (prompt : Option Bytes) :
    Hosting.Leaves (inputCallback address prompt) host (Dwindles id sentence host) := by
  unfold inputCallback
  rw [Hosting.leaves_get_bind]
  cases host.bridgeAt? address with
  | none => exact Dwindles.of_bridges rfl
  | some other => exact (readLine_dwindles host other _).bind fun _ _ reached => reached

theorem raise_dwindles (host : Host σ) :
    Hosting.Leaves raise host (Dwindles id sentence host) :=
  (raise_bridges host).mono fun _ => Dwindles.of_bridges

variable [Engine σ]

theorem call_dwindles (handle : Handle) (request : Call) (host : Host σ) :
    Hosting.Leaves (call handle request) host (Dwindles id sentence host) :=
  leads_call.mpr (converse_leaves (Dwindles id sentence) Dwindles.refl Dwindles.trans
    (fun host => outputCallback_dwindles host _) (fun host => inputCallback_dwindles host _)
    (fun _ _ => Dwindles.of_bridges rfl) raise_dwindles (fun _ _ => Dwindles.of_bridges rfl) _ _)

/-! ## The start of a driver -/

omit [Engine σ] in
theorem Dwindles.leaves_bind {α β : Type} {first : Hosting σ α} {next : α → Hosting σ β}
    (dwindles : Hosting.Leaves first host (Dwindles id sentence host))
    (onward : ∀ value middle, Hosting.Leaves (next value) middle (Dwindles id sentence middle)) :
    Hosting.Leaves (first >>= next) host (Dwindles id sentence host) := by
  apply dwindles.bind
  intro value middle reached
  exact (onward value middle).mono fun _ => reached.trans

theorem reap_bridges (host : Host σ) (session : SessionId) :
    (host.reap session).bridges = host.bridges := by
  apply reap_keeps fun next => next.bridges = host.bridges
  · exact fun _ _ => rfl
  · rfl

theorem attach_dwindles (host : Host σ) (bridge : BridgeId) (session : SessionId)
    (counter interrupt : Option Counter) :
    Dwindles id sentence host (host.attach bridge session counter interrupt) := by
  have bound (next : Host σ) :
      Dwindles id sentence next (next.setCancelTarget bridge counter) := by
    apply setCancelTarget_keeps (Dwindles id sentence next)
    · intro current found
      exact Dwindles.of_set found rfl fun piped =>
        ⟨⟨piped.unattended, piped.closed, piped.shutdown⟩, Nat.le_refl _⟩
    · intro later held dwindles
      exact dwindles.trans (Dwindles.of_bridges (reap_bridges later held))
    · exact Dwindles.refl next
  apply attach_keeps (Dwindles id sentence host)
  · exact fun next records dwindles => dwindles.trans (Dwindles.of_bridges rfl)
  · exact fun next dwindles => dwindles.trans (bound next)
  · exact fun next dwindles held _ => dwindles.trans (Dwindles.of_bridges rfl)
  · exact Dwindles.refl host

theorem acquire_dwindles (host : Host σ) :
    Hosting.Leaves acquire host (Dwindles id sentence host) :=
  (acquire_leaves_created host).mono fun _ created =>
    Dwindles.of_bridges created.bridges

theorem wire_dwindles (driver : Driver) (session : SessionId) (handle : Handle) (host : Host σ) :
    Hosting.Leaves (wire driver session handle) host (Dwindles id sentence host) := by
  have registered : Dwindles id sentence host (host.register (.at handle) driver.bridge).2 :=
    Dwindles.of_bridges rfl
  unfold wire
  rw [Hosting.leaves_modifyGet_bind]
  apply (Dwindles.leaves_bind (call_dwindles handle _ _) ?_).mono fun _ => registered.trans
  intro _ wired
  exact attach_dwindles wired _ _ _ _

theorem start_dwindles (driver : Driver) (bootstrap : Bootstrap) (host : Host σ) :
    Hosting.Leaves (start driver bootstrap) host (Dwindles id sentence host) := by
  unfold start
  split
  · exact Dwindles.refl host
  dsimp only
  split
  · exact Dwindles.refl host
  apply Dwindles.leaves_bind (acquire_dwindles host)
  intro answer entered
  cases answer with
  | error error => exact Dwindles.refl entered
  | ok session =>
      rw [Hosting.leaves_get_bind]
      cases entered.registry.sessions[session]? with
      | none => exact Dwindles.refl entered
      | some found =>
          apply Dwindles.leaves_bind (wire_dwindles driver session found.handle entered)
          intro active wired
          rw [Hosting.leaves_modify_bind]
          apply (Dwindles.leaves_bind (call_dwindles found.handle _ _) ?_).mono
            fun _ => (Dwindles.of_bridges rfl).trans
          intro status executed
          exact Dwindles.of_bridges rfl

/-! ## The loop -/

/-- The states between the turns of a driver's loop. -/
inductive Passes (driver : Driver) : Host σ → Host σ → Prop where
  | here (host : Host σ) : Passes driver host host
  | step {host next last : Host σ} (goesOn : host.exitStatus? driver.bridge = none)
      (stepped : step driver host = .ok (.ok ()) next) (later : Passes driver next last) :
      Passes driver host last

/-- In its loop a driver submits a line that it has just read. -/
def Submits (driver : Driver) (host : Host σ) (line : Bytes) (asked : Host σ) : Prop :=
  ∃ between, Passes driver host between ∧ between.exitStatus? driver.bridge = none ∧
    readLine driver.bridge driver.options.prompt between = .ok line asked

/-- The engine comes back from every line that the loop submits to an instance, and raises
an exit event when this is the given sentence. -/
structure Obliging (driver : Driver) (handle : Handle) (sentence : Bytes) (host : Host σ) :
    Prop where
  returns : ∀ {line : Bytes} {asked : Host σ}, Submits driver host line asked →
    ∃ code after, call handle (.execute line) asked = .ok code after
  exits : ∀ {asked after : Host σ} {code : Int32}, Submits driver host sentence asked →
    call handle (.execute sentence) asked = .ok code after →
    (after.exitStatus? driver.bridge).isSome

/-- The loop of a driver comes to its end in so many turns.  Every turn takes bytes that
were left to be read, or it is the last one. -/
inductive Drains (driver : Driver) : Nat → Host σ → Host σ → Prop where
  | ended {host : Host σ} {status : Int32}
      (exited : host.exitStatus? driver.bridge = some status) : Drains driver 0 host host
  | turn {turns : Nat} {host next last : Host σ}
      (goesOn : host.exitStatus? driver.bridge = none)
      (stepped : step driver host = .ok (.ok ()) next)
      (takes : next.unread driver.bridge < host.unread driver.bridge ∨ turns = 0)
      (later : Drains driver turns next last) : Drains driver (turns + 1) host last

variable {driver : Driver} {active : Active} {next last : Host σ}

theorem Obliging.onward (obliging : Obliging driver handle sentence host)
    (goesOn : host.exitStatus? driver.bridge = none)
    (stepped : step driver host = .ok (.ok ()) next) :
    Obliging driver handle sentence next := by
  have submits {line : Bytes} {asked : Host σ} (later : Submits driver next line asked) :
      Submits driver host line asked := by
    rcases later with ⟨between, passes, unseen, read⟩
    exact ⟨between, .step goesOn stepped passes, unseen, read⟩
  exact ⟨fun later => obliging.returns (submits later),
    fun later => obliging.exits (submits later)⟩

theorem callSession_of_call {id : SessionId} (reached : host.handleAt? id = some handle)
    {request : Call} {result : request.Result}
    (called : call handle request host = .ok result next) :
    callSession id request host = .ok (some result) next := by
  rcases Option.map_eq_some_iff.mp reached with ⟨session, found, rfl⟩
  unfold callSession
  rw [Hosting.get_bind, found]
  simp only [Functor.map, EStateM.map, called]

/-- A line without NUL is submitted. -/
theorem step_of_read (running : driver.active = some active)
    (reached : host.handleAt? active.session = some handle) {line : Bytes} {asked : Host σ}
    {code : Int32} (read : readLine driver.bridge driver.options.prompt host = .ok line asked)
    (clean : line.hasNul = false) (called : call handle (.execute line) asked = .ok code next) :
    step driver host = .ok (.ok ()) next := by
  have served : Served handle host asked := (readLine_served host _ _).of_ok read
  rw [← handleAt?_of_served served] at reached
  unfold step
  rw [running]
  dsimp only
  rw [Hosting.bind_of_ok read, clean, if_neg Bool.false_ne_true,
    Hosting.bind_of_ok (callSession_of_call reached called)]
  rfl

/-! ## Rehearsals -/

/-- The turns of a driver until there is an exit event, for at most the given number:
whether the engine comes back in each of them, and exits on the given sentence. -/
def rehearse (driver : Driver) (handle : Handle) (sentence : Bytes) : Nat → Host σ → Bool
  | 0, host => (host.exitStatus? driver.bridge).isSome
  | turns + 1, host =>
    (host.exitStatus? driver.bridge).isSome ||
      match readLine driver.bridge driver.options.prompt host with
      | .error .. => false
      | .ok line asked =>
        match call handle (.execute line) asked with
        | .error .. => false
        | .ok _ after => (line != sentence || (after.exitStatus? driver.bridge).isSome) &&
            rehearse driver handle sentence turns after

/-- A rehearsal goes on until there is an exit event. -/
theorem turn_of_rehearse {turns : Nat} (rehearsed : rehearse driver handle sentence turns host)
    (goesOn : host.exitStatus? driver.bridge = none) :
    ∃ fewer line asked code after,
      readLine driver.bridge driver.options.prompt host = .ok line asked ∧
        call handle (.execute line) asked = .ok code after ∧
        (line = sentence → (after.exitStatus? driver.bridge).isSome) ∧
        rehearse driver handle sentence fewer after := by
  cases turns with
  | zero =>
      rw [rehearse, goesOn] at rehearsed
      cases rehearsed
  | succ turns =>
      rw [rehearse, goesOn, Option.isSome_none, Bool.false_or] at rehearsed
      split at rehearsed
      · cases rehearsed
      · next line asked read =>
          split at rehearsed
          · cases rehearsed
          · next code after called =>
              rcases Bool.and_eq_true_iff.mp rehearsed with ⟨exits, rehearsed⟩
              refine ⟨turns, line, asked, code, after, read, called, ?_, rehearsed⟩
              rintro rfl
              rw [bne_self_eq_false, Bool.false_or] at exits
              exact exits

theorem obliging_of_rehearse (running : driver.active = some active)
    (reached : host.handleAt? active.session = some handle) {turns : Nat}
    (rehearsed : rehearse driver handle sentence turns host) :
    Obliging driver handle sentence host := by
  have returns {line : Bytes} {asked : Host σ} (submits : Submits driver host line asked) :
      ∃ code after, call handle (.execute line) asked = .ok code after ∧
        (line = sentence → (after.exitStatus? driver.bridge).isSome) := by
    rcases submits with ⟨between, passes, unseen, read⟩
    induction passes generalizing turns with
    | here host =>
        rcases turn_of_rehearse rehearsed unseen with
          ⟨_, line', asked', code, after, read', called, exits, _⟩
        rw [read] at read'
        cases read'
        exact ⟨code, after, called, exits⟩
    | @step host next last goesOn stepped later inductionHypothesis =>
        rcases turn_of_rehearse rehearsed goesOn with
          ⟨fewer, line', asked', code, after, read', called, _, rehearsed⟩
        rcases step_of_ok running reached stepped with ⟨_, _, _, readNext, calledNext⟩
        rw [read'] at readNext
        cases readNext
        rw [called] at calledNext
        cases calledNext
        have asking : Served handle host asked' := (readLine_served host _ _).of_ok read'
        have serving : Served handle asked' next := (call_served _ asked').of_ok called
        rw [← handleAt?_of_served (asking.trans serving)] at reached
        exact inductionHypothesis reached rehearsed unseen read
  refine ⟨?_, ?_⟩
  · intro line asked submits
    rcases returns submits with ⟨code, after, called, _⟩
    exact ⟨code, after, called⟩
  · intro asked after code submits called
    rcases returns submits with ⟨_, _, calledAgain, exits⟩
    rw [called] at calledAgain
    cases calledAgain
    exact exits rfl

/-! ## Turns on piped input -/

/-- A turn on a console that nobody sits at succeeds.  It takes bytes that were left to be
read, or the shutdown sentence is submitted and there is an exit event. -/
theorem step_of_piped (running : driver.active = some active)
    (reached : host.handleAt? active.session = some handle)
    (piped : host.Piped driver.bridge sentence) (clean : sentence.hasNul = false)
    (obliging : Obliging driver handle sentence host)
    (goesOn : host.exitStatus? driver.bridge = none) :
    ∃ next, step driver host = .ok (.ok ()) next ∧ next.Piped driver.bridge sentence ∧
      next.handleAt? active.session = some handle ∧
      (next.unread driver.bridge < host.unread driver.bridge ∨
        (next.exitStatus? driver.bridge).isSome) := by
  rcases readLine_of_piped piped driver.options.prompt with ⟨line, asked, read, isPiped, costs⟩
  have submits : Submits driver host line asked := ⟨host, .here host, goesOn, read⟩
  rcases obliging.returns submits with ⟨code, next, called⟩
  rcases (call_dwindles handle _ asked).of_ok called isPiped with ⟨stays, fewer⟩
  have isClean : line.hasNul = false := by
    rcases costs with ⟨_, isClean⟩ | rfl
    · exact isClean
    · exact clean
  have asking : Served handle host asked := (readLine_served host _ _).of_ok read
  have serving : Served handle asked next := (call_served _ asked).of_ok called
  refine ⟨next, step_of_read running reached read isClean called, stays,
    (handleAt?_of_served (asking.trans serving) _).trans reached, ?_⟩
  rcases costs with ⟨taken, _⟩ | rfl
  · exact .inl (Nat.lt_of_le_of_lt fewer taken)
  · exact .inr (obliging.exits submits called)

/-- The induction is on what is left to be read. -/
theorem drains_of_piped (running : driver.active = some active)
    (reached : host.handleAt? active.session = some handle)
    (piped : host.Piped driver.bridge sentence) (clean : sentence.hasNul = false)
    (obliging : Obliging driver handle sentence host) :
    ∃ turns last status, turns ≤ host.unread driver.bridge + 1 ∧ Drains driver turns host last ∧
      last.exitStatus? driver.bridge = some status := by
  generalize left : host.unread driver.bridge = unread
  induction unread using Nat.strongRecOn generalizing host with
  | ind unread inductionHypothesis =>
      cases seen : host.exitStatus? driver.bridge with
      | some status => exact ⟨0, host, status, Nat.zero_le _, .ended seen, seen⟩
      | none =>
          rcases step_of_piped running reached piped clean obliging seen with
            ⟨next, stepped, stays, kept, taken | exited⟩
          · have onward := obliging.onward seen stepped
            rw [left] at taken
            rcases inductionHypothesis _ taken kept stays onward rfl with
              ⟨turns, last, status, bounded, drains, exited⟩
            exact ⟨turns + 1, last, status, by omega,
              .turn seen stepped (.inl (by omega)) drains, exited⟩
          · rcases Option.isSome_iff_exists.mp exited with ⟨status, settled⟩
            exact ⟨1, next, status, by omega, .turn seen stepped (.inr rfl) (.ended settled),
              settled⟩

/-- The loop comes back after these turns, however many more it may take. -/
theorem run_of_drains {turns : Nat} {status : Int32} (drains : Drains driver turns host last)
    (exited : last.exitStatus? driver.bridge = some status) (more : Nat) :
    run (turns + more) driver host = .ok (.ok status) last := by
  induction drains with
  | ended _ => exact run_of_exited exited _
  | @turn turns host next last goesOn stepped takes later inductionHypothesis =>
      rw [Nat.succ_add]
      unfold run
      rw [Hosting.get_bind, goesOn]
      dsimp only
      rw [Hosting.bind_of_ok stepped]
      exact inductionHypothesis exited

/-! ## Piped input -/

/-- A driver that has started on a console that nobody sits at, and whose input is finite,
comes to its end.  It takes one turn at most for each byte that was left to be read before
it started, and one more; every turn takes bytes, or it is the last one.  So it does on
any input with faults and ends in it, and in any state of the console, if its engine comes
back from what the loop submits and exits on the shutdown sentence. -/
theorem run_drains_input {id : BridgeId} {options : DriverOptions} {bootstrap : Bootstrap}
    {session : SessionId} (source : Source) (sink : Sink) (config : ConsoleConfig)
    (hook : ExitHook) (exhausted : Bool) (cancel : Option Counter) (exitStatus : Option Int32)
    (hooked : List Int32) (finite : source.tail = .closed)
    (found : host.bridges[id]? = some
      { Bridge.onStreams source sink false config hook with
        exhausted, cancel, exitStatus, hooked })
    (started : start { bridge := id, options } bootstrap host = .ok (.ok session, driver) next)
    (reached : next.handleAt? session = some handle)
    (obliging :
      Obliging driver handle (Bytes.ofString config.shutdownSentence).cutAtNul next) :
    ∃ turns last status, turns ≤ source.remaining.length + 1 ∧ Drains driver turns next last ∧
      last.exitStatus? id = some status ∧
      ∀ more, run (turns + more) driver next = .ok (.ok status) last := by
  rcases start_of_ok started with ⟨active, _, rfl, _, _⟩
  rcases (start_rigging started).2 with ⟨_, interrupt, running, _⟩
  have isSession : active.session = session := congrArg Active.session (Option.some.inj running)
  rcases (start_dwindles { bridge := id, options } bootstrap host).of_ok started
    ⟨_, found, rfl, finite, rfl⟩ with ⟨stays, fewer⟩
  rw [unread_of_found found] at fewer
  rcases drains_of_piped rfl (isSession ▸ reached) stays (Bytes.hasNul_cutAtNul _) obliging with
    ⟨turns, last, status, bounded, drains, exited⟩
  exact ⟨turns, last, status, Nat.le_trans bounded (Nat.succ_le_succ fewer), drains, exited,
    run_of_drains drains exited⟩

/-- An engine that reads a line of its own when it is given the first one, and exits on the
shutdown sentence, comes back in both turns. -/
theorem start_over_two_lines :
    ∃ first : Host Recording.Recorder,
      Host.init { reactions := [("a", .prompt "?"), ("x", .exit 7)] } Memory.machine {}
          [Bridge.onStreams { script := [.chunk [97, 10, 98, 10], .fault .deviceGone] } {} false
            { shutdownSentence := "x\x00y" } .ignore] = .ok first ∧
        (match start { bridge := 0, options := { prompt := [62] } } ⟨.noProfile, [], ""⟩ first with
          | .ok (.ok session, driver) next => next.handleAt? session == some 0 &&
              rehearse driver 0 [120] 2 next
          | _ => false) = true :=
  ⟨_, rfl, by decide +kernel⟩

/-- The driver of that engine comes to its end in at most five turns. -/
theorem run_drains_two_lines :
    ∃ (first next : Host Recording.Recorder) (driver : Driver) (session : SessionId),
      Host.init { reactions := [("a", .prompt "?"), ("x", .exit 7)] } Memory.machine {}
          [Bridge.onStreams { script := [.chunk [97, 10, 98, 10], .fault .deviceGone] } {} false
            { shutdownSentence := "x\x00y" } .ignore] = .ok first ∧
        start { bridge := 0, options := { prompt := [62] } } ⟨.noProfile, [], ""⟩ first =
          .ok (.ok session, driver) next ∧
        Obliging driver 0 [120] next ∧
        ∃ turns last status, turns ≤ 5 ∧ Drains driver turns next last ∧
          last.exitStatus? 0 = some status ∧
          ∀ more, run (turns + more) driver next = .ok (.ok status) last := by
  rcases start_over_two_lines with ⟨first, opened, outcome⟩
  split at outcome
  · next session driver next started =>
      rcases Bool.and_eq_true_iff.mp outcome with ⟨isReached, rehearsed⟩
      have reached := eq_of_beq isReached
      rcases (start_rigging started).2 with ⟨_, interrupt, running, _⟩
      have obliging := obliging_of_rehearse running reached rehearsed
      have drains := run_drains_input
        { script := [.chunk [97, 10, 98, 10], .fault .deviceGone] } {}
        { shutdownSentence := "x\x00y" } .ignore false none none [] rfl
        (by cases opened; rfl) started reached obliging
      exact ⟨first, next, driver, session, opened, started, obliging, drains⟩
  · cases outcome

end Host

end SessionHost
