import SessionHost.Engine.Recording
import SessionHost.Proofs.Driving
import SessionHost.Proofs.Exits

namespace SessionHost

/-!
# The transcript of a driver

A driver's course is told without its program: it creates a session, wires it,
executes the bootstrap sentence, and then takes turns.  A turn is one request
for a line and the execution of exactly that line, and there is a turn only
while the bridge has seen no exit event.  The course says which calls were
really made and from which states, and the transcript is what can be read off
it: the sentences, and the exit events that the bridge saw during each call.

Three independent records have to agree with the transcript at the end: the
journal, which says what was submitted, the bridge, which keeps the first exit
status it saw, and the status that the driver comes back with.
-/

/-- A sentence that was submitted, and the exit events on the driver's bridge
while it was executed. -/
structure Execution where
  sentence : Bytes
  exits : List Int32

structure Transcript where
  handle : Handle
  /-- The exit events while the callback table was installed. -/
  wiring : List Int32
  bootstrapped : Execution
  /-- One for each line that the driver asked for. -/
  turns : List Execution

namespace Transcript

/-- All executions in order, the bootstrap sentence first. -/
def executions (transcript : Transcript) : List Execution :=
  transcript.bootstrapped :: transcript.turns

def submissions (transcript : Transcript) : List (Handle × Bytes) :=
  transcript.executions.map fun execution => (transcript.handle, execution.sentence)

def exits (transcript : Transcript) : List Int32 :=
  transcript.wiring ++ transcript.executions.flatMap (·.exits)

end Transcript

namespace Host

variable {σ : Type} [Engine σ] {host asked after last : Host σ} {bridge : BridgeId}
  {prompt : Bytes} {handle : Handle} {turns : List Execution}

/-- The turns of a driver's loop: a line is asked for and exactly that line is
executed, for as long as the bridge has seen no exit event. -/
inductive Loop (bridge : BridgeId) (prompt : Bytes) (handle : Handle) :
    Host σ → List Execution → Host σ → Prop where
  | stop {host : Host σ} {status : Int32} (exited : host.exitStatus? bridge = some status) :
      Loop bridge prompt handle host [] host
  | turn {host asked after last : Host σ} {line : Bytes} {code : Int32} {turns : List Execution}
      (goesOn : host.exitStatus? bridge = none)
      (read : readLine bridge prompt host = .ok line asked)
      (executed : call handle (.execute line) asked = .ok code after)
      (later : Loop bridge prompt handle after turns last) :
      Loop bridge prompt handle host
        (⟨line, exitsDuring bridge handle (.execute line) asked⟩ :: turns) last

/-- The whole course of a driver on a bridge. -/
inductive Course (bridge : BridgeId) (options : DriverOptions) (sentence : Bytes) :
    Host σ → Transcript → Host σ → Prop where
  | intro {host created wired executed last : Host σ} {id : SessionId} {session : Session}
      {interrupt : Option Counter} {before after : List Log.Record} {code : Int32}
      {turns : List Execution}
      (acquired : acquire host = .ok (.ok id) created)
      (entered : created.registry.sessions[id]? = some session)
      (wiring : call session.handle (.setCallbacks .console)
        (created.register (.at session.handle) bridge).2 = .ok () wired)
      (bootstrapped : call session.handle (.execute sentence)
        ((wired.attach bridge id (wired.resolve id) interrupt).say before) = .ok code executed)
      (looped : Loop bridge options.prompt session.handle (executed.say after) turns last) :
      Course bridge options sentence host
        { handle := session.handle
          wiring := exitsDuring bridge session.handle (.setCallbacks .console)
            (created.register (.at session.handle) bridge).2
          bootstrapped :=
            { sentence
              exits := exitsDuring bridge session.handle (.execute sentence)
                ((wired.attach bridge id (wired.resolve id) interrupt).say before) }
          turns }
        last

/-! ## The loop -/

/-- A call that comes back: what it submitted, and how the bridge stands. -/
theorem call_of_ok {request : Call} {result : request.Result}
    (called : call handle request host = .ok result after) (bridge : BridgeId) :
    after.submissions = host.submissions ++ (request.sentence?.map (handle, ·)).toList ∧
      after.exitStatus? bridge =
        (host.exitStatus? bridge).or (exitsDuring bridge handle request host).head? :=
  ⟨(call_submissions request host).of_ok called, (call_sees bridge request host).of_ok called⟩

omit [Engine σ] in
theorem readLine_of_ok {line : Bytes} (read : readLine bridge prompt host = .ok line asked) :
    Quiet host asked :=
  (readLine_quiet host bridge prompt).of_ok read

/-- An execution that is followed by others saw no exit event. -/
theorem silent_cons {execution : Execution}
    (unseen : turns ≠ [] → execution.exits = [])
    (silent : ∀ later ∈ turns.dropLast, later.exits = []) :
    ∀ other ∈ (execution :: turns).dropLast, other.exits = [] := by
  intro other listed
  cases turns with
  | nil => cases listed
  | cons next rest =>
      rw [List.dropLast_cons_of_ne_nil (List.cons_ne_nil next rest)] at listed
      rcases List.mem_cons.mp listed with rfl | listed
      · exact unseen (List.cons_ne_nil next rest)
      · exact silent other listed

namespace Loop

/-- The journal has one sentence for each turn, and it is the line that was read. -/
theorem submissions_eq (loop : Loop bridge prompt handle host turns last) :
    last.submissions =
      host.submissions ++ turns.map fun execution => (handle, execution.sentence) := by
  induction loop with
  | stop exited => exact (List.append_nil _).symm
  | turn goesOn read executed later inductionHypothesis =>
      have submitted := (call_of_ok executed bridge).1
      rw [inductionHypothesis, submitted, (readLine_of_ok read).submissions, List.append_assoc]
      rfl

/-- The first exit event of all turns settles the status, unless it was settled before. -/
theorem exitStatus?_eq (loop : Loop bridge prompt handle host turns last) :
    last.exitStatus? bridge =
      (host.exitStatus? bridge).or (turns.flatMap (·.exits)).head? := by
  induction loop with
  | stop exited => exact (Option.or_none ..).symm
  | turn goesOn read executed later inductionHypothesis =>
      have settled := (call_of_ok executed bridge).2
      rw [inductionHypothesis, settled, (readLine_of_ok read).exits, List.flatMap_cons,
        List.head?_append, Option.or_assoc]

theorem goesOn (loop : Loop bridge prompt handle host turns last) (some : turns ≠ []) :
    host.exitStatus? bridge = none := by
  cases loop with
  | stop exited => exact absurd rfl some
  | turn goesOn read executed later => exact goesOn

/-- Only the last turn of a loop sees an exit event. -/
theorem silent (loop : Loop bridge prompt handle host turns last) :
    ∀ execution ∈ turns.dropLast, execution.exits = [] := by
  induction loop with
  | stop exited => exact fun _ listed => by cases listed
  | turn goesOn read executed later inductionHypothesis =>
      refine silent_cons ?_ inductionHypothesis
      intro further
      have unsettled := later.goesOn further
      rw [(call_of_ok executed bridge).2] at unsettled
      exact List.head?_eq_none_iff.mp (Option.or_eq_none_iff.mp unsettled).2

end Loop

/-! ## The whole course -/

/-- The start of a course, from the creation of the session to the end of the
bootstrap sentence. -/
theorem opening_of_ok {created wired executed : Host σ} {answer : Except RegistryError SessionId}
    {id : SessionId} {counter interrupt : Option Counter} {records : List Log.Record}
    {sentence : Bytes} {code : Int32} (acquired : acquire host = .ok answer created)
    (wiring : call handle (.setCallbacks .console)
      (created.register (.at handle) bridge).2 = .ok () wired)
    (bootstrapped : call handle (.execute sentence)
      ((wired.attach bridge id counter interrupt).say records) = .ok code executed) :
    executed.submissions = host.submissions ++ [(handle, sentence)] ∧
      executed.exitStatus? bridge = (host.exitStatus? bridge).or
        (exitsDuring bridge handle (.setCallbacks .console)
            (created.register (.at handle) bridge).2 ++
          exitsDuring bridge handle (.execute sentence)
            ((wired.attach bridge id counter interrupt).say records)).head? := by
  have creation : Quiet host (created.register (.at handle) bridge).2 :=
    ((acquire_quiet host).of_ok acquired).trans ⟨fun _ => rfl, rfl⟩
  have binding : Quiet wired ((wired.attach bridge id counter interrupt).say records) :=
    (attach_quiet wired bridge id counter interrupt).trans (say_quiet _ records)
  have wiring := call_of_ok wiring bridge
  have bootstrapped := call_of_ok bootstrapped bridge
  constructor
  · rw [bootstrapped.1, binding.submissions, wiring.1, creation.submissions]
    simp [Call.sentence?]
  · rw [bootstrapped.2, binding.exits, wiring.2, creation.exits, Option.or_assoc,
      List.head?_append]

namespace Course

variable {options : DriverOptions} {sentence : Bytes} {transcript : Transcript}

theorem submissions_eq (course : Course bridge options sentence host transcript last) :
    last.submissions = host.submissions ++ transcript.submissions := by
  cases course with
  | intro acquired entered wiring bootstrapped looped =>
      rw [looped.submissions_eq]
      have opened := (opening_of_ok acquired wiring bootstrapped).1
      apply (congrArg (· ++ _) opened).trans
      rw [List.append_assoc]
      rfl

theorem exitStatus?_eq (course : Course bridge options sentence host transcript last) :
    last.exitStatus? bridge = (host.exitStatus? bridge).or transcript.exits.head? := by
  cases course with
  | intro acquired entered wiring bootstrapped looped =>
      rw [looped.exitStatus?_eq]
      have opened := (opening_of_ok acquired wiring bootstrapped).2
      apply (congrArg (Option.or · _) opened).trans
      rw [Option.or_assoc, ← List.head?_append, List.append_assoc]
      rfl

/-- There are turns only where the bridge has seen no exit event by the end of
the bootstrap sentence. -/
theorem unseen (course : Course bridge options sentence host transcript last)
    (some : transcript.turns ≠ []) :
    host.exitStatus? bridge = none ∧ transcript.wiring = [] ∧
      transcript.bootstrapped.exits = [] := by
  cases course with
  | intro acquired entered wiring bootstrapped looped =>
      have unsettled := looped.goesOn some
      have opened := (opening_of_ok acquired wiring bootstrapped).2
      rcases Option.or_eq_none_iff.mp (opened.symm.trans unsettled) with ⟨before, during⟩
      exact ⟨before, List.append_eq_nil_iff.mp (List.head?_eq_none_iff.mp during)⟩

/-- Only the last execution of a course sees an exit event. -/
theorem silent (course : Course bridge options sentence host transcript last) :
    ∀ execution ∈ transcript.executions.dropLast, execution.exits = [] := by
  apply silent_cons (fun some => (course.unseen some).2.2)
  cases course with
  | intro acquired entered wiring bootstrapped looped => exact looped.silent

end Course

/-! ## The driver takes this course -/

/-- The instance of a session. -/
def handleAt? (host : Host σ) (id : SessionId) : Option Handle :=
  host.registry.sessions[id]?.map (·.handle)

omit [Engine σ] in
theorem handleAt?_of_served (served : Served handle host after) (id : SessionId) :
    after.handleAt? id = host.handleAt? id := by
  have registry : after.registry = host.registry := congrArg Estate.registry served.estate
  unfold handleAt?
  rw [registry]

theorem reap_handleAt? (host : Host σ) (id other : SessionId) :
    (host.reap id).handleAt? other = host.handleAt? other := by
  apply reap_keeps fun next => next.handleAt? other = host.handleAt? other
  · intro session found
    unfold handleAt?
    rw [getElem?_free]
    split
    · rw [Option.map_map]
      rfl
    · rfl
  · rfl

theorem setCancelTarget_handleAt? (host : Host σ) (bridge : BridgeId) (counter : Option Counter)
    (id : SessionId) : (host.setCancelTarget bridge counter).handleAt? id = host.handleAt? id := by
  apply setCancelTarget_keeps fun next => next.handleAt? id = host.handleAt? id
  · intro found _
    rfl
  · intro next session same
    exact (reap_handleAt? next session id).trans same
  · rfl

theorem attach_handleAt? (host : Host σ) (bridge : BridgeId) (session id : SessionId)
    (counter interrupt : Option Counter) :
    (host.attach bridge session counter interrupt).handleAt? id = host.handleAt? id := by
  apply attach_keeps fun next => next.handleAt? id = host.handleAt? id
  · intro next records same
    exact same
  · intro next same
    exact (setCancelTarget_handleAt? next bridge counter id).trans same
  · intro next same held _
    exact same
  · rfl

theorem callSession_of_ok {id : SessionId} (reached : host.handleAt? id = some handle)
    {request : Call} {answer : Option request.Result}
    (called : callSession id request host = .ok answer after) :
    ∃ result, call handle request host = .ok result after := by
  rcases Option.map_eq_some_iff.mp reached with ⟨session, found, rfl⟩
  unfold callSession at called
  rw [Hosting.get_bind, found] at called
  rcases Hosting.map_eq_ok called with ⟨result, called, _⟩
  exact ⟨result, called⟩

/-- A step that succeeds is one turn. -/
theorem step_of_ok {driver : Driver} {active : Active} (running : driver.active = some active)
    (reached : host.handleAt? active.session = some handle)
    (stepped : step driver host = .ok (.ok ()) after) :
    ∃ line asked code, readLine driver.bridge driver.options.prompt host = .ok line asked ∧
      call handle (.execute line) asked = .ok code after := by
  unfold step at stepped
  rw [running] at stepped
  rcases Hosting.bind_eq_ok stepped with ⟨line, asked, read, submitted⟩
  have served : Served handle host asked := (readLine_served host _ _).of_ok read
  rw [← handleAt?_of_served served] at reached
  split at submitted
  · cases submitted
  · rcases Hosting.bind_eq_ok submitted with ⟨_, _, called, returned⟩
    cases returned
    rcases callSession_of_ok reached called with ⟨code, called⟩
    exact ⟨line, asked, code, read, called⟩

theorem run_of_exited {driver : Driver} {status : Int32}
    (exited : host.exitStatus? driver.bridge = some status) (steps : Nat) :
    run steps driver host = .ok (.ok status) host := by
  unfold run
  rw [Hosting.get_bind, exited]
  rfl

/-- The induction is on the steps that may still be taken. -/
theorem run_of_ok {driver : Driver} {active : Active} (running : driver.active = some active)
    (reached : host.handleAt? active.session = some handle) {steps : Nat} {status : Int32}
    (ran : run steps driver host = .ok (.ok status) last) :
    ∃ turns, Loop driver.bridge driver.options.prompt handle host turns last ∧
      last.exitStatus? driver.bridge = some status := by
  induction steps generalizing host with
  | zero =>
      cases seen : host.exitStatus? driver.bridge with
      | some first =>
          rw [run_of_exited seen] at ran
          cases ran
          exact ⟨[], Loop.stop seen, seen⟩
      | none =>
          unfold run at ran
          rw [Hosting.get_bind, seen] at ran
          cases ran
  | succ steps inductionHypothesis =>
      cases seen : host.exitStatus? driver.bridge with
      | some first =>
          rw [run_of_exited seen] at ran
          cases ran
          exact ⟨[], Loop.stop seen, seen⟩
      | none =>
          unfold run at ran
          rw [Hosting.get_bind, seen] at ran
          rcases Hosting.bind_eq_ok ran with ⟨answer, next, stepped, ran⟩
          cases answer with
          | error error => cases ran
          | ok _ =>
              rcases step_of_ok running reached stepped with ⟨line, asked, code, read, executed⟩
              have asking : Served handle host asked := (readLine_served host _ _).of_ok read
              have serving : Served handle asked next := (call_served _ asked).of_ok executed
              rw [← handleAt?_of_served (asking.trans serving)] at reached
              rcases inductionHypothesis reached ran with ⟨turns, later, exited⟩
              exact ⟨_, Loop.turn seen read executed later, exited⟩

theorem wire_of_ok {driver : Driver} {id : SessionId} {active : Active}
    (wired : wire driver id handle host = .ok active after) :
    active.session = id ∧ ∃ called interrupt,
      call handle (.setCallbacks .console) (host.register (.at handle) driver.bridge).2 =
          .ok () called ∧
        after = called.attach driver.bridge id (called.resolve id) interrupt := by
  unfold wire at wired
  rcases Hosting.bind_eq_ok wired with ⟨route, _, registered, wired⟩
  cases registered
  rcases Hosting.bind_eq_ok wired with ⟨_, called, wiring, wired⟩
  rw [Hosting.get_bind, Hosting.set_bind] at wired
  cases wired
  exact ⟨rfl, called, _, wiring, rfl⟩

/-- A start that succeeds is the start of a course, which goes on with the
driver's loop. -/
theorem start_of_ok {options : DriverOptions} {bootstrap : Bootstrap} {id : SessionId}
    {driver : Driver}
    (started : start { bridge, options } bootstrap host = .ok (.ok id, driver) after) :
    ∃ active handle, driver = { bridge, options, active := some active } ∧
      after.handleAt? active.session = some handle ∧
      ∀ turns last, Loop bridge options.prompt handle after turns last →
        ∃ transcript,
          Course bridge options (Bytes.ofString bootstrap.sentence) host transcript last := by
  unfold start at started
  dsimp only [Option.isSome] at started
  rw [if_neg Bool.false_ne_true] at started
  split at started
  · cases started
  rcases Hosting.bind_eq_ok started with ⟨answer, created, acquired, started⟩
  cases answer with
  | error error => cases started
  | ok id' =>
      dsimp only at started
      cases entered : created.registry.sessions[id']? with
      | none =>
          rw [Hosting.get_bind, entered] at started
          cases started
      | some session =>
          rw [Hosting.get_bind, entered] at started
          rcases Hosting.bind_eq_ok started with ⟨active, ready, wired, started⟩
          rw [Hosting.modify_bind] at started
          rcases Hosting.bind_eq_ok started with ⟨code, executed, bootstrapped, started⟩
          rw [Hosting.modify_bind] at started
          cases started
          rcases wire_of_ok wired with ⟨rfl, called, interrupt, wiring, rfl⟩
          refine ⟨active, session.handle, rfl, ?_, ?_⟩
          · have serving : Served session.handle _ executed := (call_served _ _).of_ok bootstrapped
            have calling : Served session.handle _ called := (call_served _ _).of_ok wiring
            have found : created.handleAt? active.session = some session.handle := by
              unfold handleAt?
              rw [entered]
              rfl
            have kept := (handleAt?_of_served serving active.session).trans
              ((attach_handleAt? called _ _ _ _ _).trans (handleAt?_of_served calling active.session))
            exact kept.trans found
          · intro turns last loop
            exact ⟨_, Course.intro acquired entered wiring bootstrapped loop⟩

/-! ## A session from start to end -/

/-- A driver submits the bootstrap sentence once, and then exactly the lines that
its own requests give it, one for one and in order, whatever its engine does.
There is no request and no submission after the execution during which its
bridge saw the first exit event, and none at all if that was before the first
turn.  It comes back with the status of that event. -/
theorem serve_transcript {steps : Nat} {options : DriverOptions} {bootstrap : Bootstrap}
    {status : Int32}
    (served : serve steps bridge options bootstrap host = .ok (.ok status) after) :
    ∃ transcript last,
      Course bridge options (Bytes.ofString bootstrap.sentence) host transcript last ∧
        after.bridges = last.bridges ∧
        after.submissions = host.submissions ++ transcript.submissions ∧
        some status = (host.exitStatus? bridge).or transcript.exits.head? ∧
        (transcript.turns ≠ [] → host.exitStatus? bridge = none ∧ transcript.wiring = []) ∧
        ∀ execution ∈ transcript.executions.dropLast, execution.exits = [] := by
  unfold serve at served
  rcases Hosting.bind_eq_ok served with ⟨⟨answer, driver⟩, started, starting, served⟩
  cases answer with
  | error error => cases served
  | ok id =>
      rcases Hosting.bind_eq_ok served with ⟨result, last, ran, served⟩
      dsimp only at served
      rw [Hosting.modify_bind] at served
      cases served
      have starting : start { bridge, options } bootstrap host = .ok (.ok id, driver) started := by
        unfold owningTable at starting
        split at starting
        · cases starting
        · exact starting
      rcases start_of_ok starting with ⟨active, handle, rfl, reached, goesOn⟩
      rcases run_of_ok rfl reached ran with ⟨turns, loop, exited⟩
      rcases goesOn turns last loop with ⟨transcript, course⟩
      have still := dismiss_still last { bridge, options, active := some active }
      refine ⟨transcript, last, course, still.bridges,
        still.submissions.trans course.submissions_eq, ?_, ?_, course.silent⟩
      · rw [← course.exitStatus?_eq]
        exact exited.symm
      · intro some
        exact ⟨(course.unseen some).1, (course.unseen some).2.1⟩

/-- What serving three lines comes to where the engine exits on the second. -/
theorem serve_two_lines :
    ∃ first : Host Recording.Recorder,
      Host.init { reactions := [("bye", .exit 7)] } Memory.machine {}
          [Bridge.onStreams { script := [.chunk [49, 10, 98, 121, 101, 10, 50, 10]] } {} false {}
            .ignore] = .ok first ∧
        first.submissions = [] ∧ first.exitStatus? 0 = none ∧
        (match serve 3 0 { prompt := [62] } ⟨.noProfile, [], ""⟩ first with
          | .ok (.ok status) final => status == 7 && final.submissions.map (·.2) ==
              [Bytes.ofString (Bootstrap.sentence ⟨.noProfile, [], ""⟩), [49], [98, 121, 101]]
          | _ => false) = true :=
  ⟨_, rfl, rfl, rfl, by decide +kernel⟩

/-- The engine exits on the second of three lines, and the third is not read. -/
theorem serve_transcript_of_two_lines :
    ∃ first final : Host Recording.Recorder,
      Host.init { reactions := [("bye", .exit 7)] } Memory.machine {}
          [Bridge.onStreams { script := [.chunk [49, 10, 98, 121, 101, 10, 50, 10]] } {} false {}
            .ignore] = .ok first ∧
        serve 3 0 { prompt := [62] } ⟨.noProfile, [], ""⟩ first = .ok (.ok 7) final ∧
        ∃ transcript last,
          Course 0 { prompt := [62] } (Bytes.ofString (Bootstrap.sentence ⟨.noProfile, [], ""⟩))
              first transcript last ∧
            final.bridges = last.bridges ∧
            transcript.executions.map (·.sentence) =
              [Bytes.ofString (Bootstrap.sentence ⟨.noProfile, [], ""⟩), [49], [98, 121, 101]] ∧
            transcript.exits.head? = some 7 := by
  rcases serve_two_lines with ⟨first, initial, unsubmitted, unseen, outcome⟩
  split at outcome
  · next status final served =>
      rcases Bool.and_eq_true_iff.mp outcome with ⟨isSeven, submitted⟩
      have isSeven : status = 7 := eq_of_beq isSeven
      subst isSeven
      rcases serve_transcript served with
        ⟨transcript, last, course, kept, submissions, settled, _, _⟩
      have sentences := eq_of_beq submitted
      rw [submissions, unsubmitted] at sentences
      rw [unseen] at settled
      refine ⟨first, final, initial, served, transcript, last, course, kept, ?_, settled.symm⟩
      rw [← sentences]
      simp [Transcript.submissions]
  · cases outcome

end Host

end SessionHost
