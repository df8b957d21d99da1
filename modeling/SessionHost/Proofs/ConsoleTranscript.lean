import SessionHost.Engine.Recording
import SessionHost.Proofs.ConsoleRuns
import SessionHost.Proofs.EndsOfInput

namespace SessionHost

/-!
# The transcript of a console

Four things write to a console: text of an engine or a client, the prompt of a request for
input, and a line feed for an end of the input at a terminal.  An exit event writes nothing
but flushes.  However these are nested in each other, what is written for one of them does
not depend on the others, only on what the input has to say at that moment and on whether
its end was latched.

The rules of `Shows` give what each event adds to the transcript, from the stream of marks
that the input is, and they leave no choice as long as no request waits for good at a
terminal at which nothing more is typed.  The main statement is that the contents of a
console which takes what it is given are exactly what these rules give for the events of a
run, in their order, and that nothing of it is ever left unflushed.
-/

namespace Sink

variable {sink : Sink}

/-- A sink that takes whatever it is given, and has flushed all of it. -/
structure Sound (sink : Sink) : Prop where
  boundless : sink.Boundless
  flushing : sink.flushFails = false
  flushed : sink.unflushed = 0

theorem flush_of_flushing (flushing : sink.flushFails = false) :
    sink.flush.2 = { sink with flushes := sink.flushes + 1, unflushed := 0 } := by
  rw [flush, if_neg (by simp [flushing])]

theorem Sound.flush (sound : sink.Sound) :
    sink.flush.2.contents = sink.contents ∧ sink.flush.2.Sound := by
  rw [flush_of_flushing sound.flushing]
  exact ⟨rfl, ⟨sound.boundless.room, sound.boundless.accepting⟩, sound.flushing, rfl⟩

theorem Sound.put (sound : sink.Sound) (payload : Bytes) :
    (sink.put payload).2.contents = sink.contents ++ payload ∧ (sink.put payload).2.Sound := by
  rcases sound.boundless.put payload with ⟨shown, stays⟩
  have flushed (after : Sink) (flushing : after.flushFails = false) :
      after.flush.2.flushFails = false ∧ after.flush.2.unflushed = 0 := by
    rw [flush_of_flushing flushing]
    exact ⟨flushing, rfl⟩
  have settled : (sink.put payload).2.flushFails = false ∧ (sink.put payload).2.unflushed = 0 := by
    rw [Sink.put, sound.boundless.write]
    apply flushed
    cases payload with
    | nil => exact sound.flushing
    | cons byte rest => exact sound.flushing
  exact ⟨shown, stays, settled.1, settled.2⟩

theorem Sound.putAll (sound : sink.Sound) (payloads : List Bytes) :
    (sink.putAll payloads).contents = sink.contents ++ payloads.flatten ∧
      (sink.putAll payloads).Sound := by
  refine ⟨sound.boundless.putAll payloads, ?_⟩
  induction payloads generalizing sink with
  | nil => exact sound
  | cons payload rest inductionHypothesis => exact inductionHypothesis (sound.put payload).2

end Sink

open Source (IsPiece closing)

/-- What the input of a console has to say yet, and whether its end was latched. -/
structure Hearing where
  marks : Stream' Mark
  latched : Bool

/-- What an event adds to the transcript of a console, and how it leaves the input.  A
request at a terminal writes its prompt and a line feed for each end of the input in front
of its piece; the end of the input that the piece runs into adds nothing. -/
inductive Shows (interactive : Bool) (limit : Nat) :
    Hearing → ConsoleEvent → Bytes → Hearing → Prop where
  | shown (hearing : Hearing) (payload : Bytes) :
      Shows interactive limit hearing (.shown payload) payload hearing
  | exited (hearing : Hearing) (status : Int32) :
      Shows interactive limit hearing (.exited status) [] hearing
  | bound (hearing : Hearing) (cancel : Option Counter) :
      Shows interactive limit hearing (.bound cancel) [] hearing
  | latched (marks : Stream' Mark) (prompt : Bytes) :
      Shows interactive limit ⟨marks, true⟩ (.asked prompt) [] ⟨marks, true⟩
  /-- There is a piece for the request. -/
  | piece {marks rest : Stream' Mark} {ends : Nat} {piece : Bytes} (some : piece ≠ [])
      (isPiece : IsPiece limit piece) (unattended : interactive = false → ends = 0)
      (next : marks = (.replicate ends .ended ++ piece.map .byte ++ closing limit piece) ++ₛ rest)
      (prompt : Bytes) :
      Shows interactive limit ⟨marks, false⟩ (.asked prompt)
        (prompt ++ .replicate ends lineFeed) ⟨rest, false⟩
  /-- The request finds the end of an input that nobody sits at. -/
  | ended {marks rest : Stream' Mark} (unattended : interactive = false)
      (next : marks = .cons .ended rest) (prompt : Bytes) :
      Shows interactive limit ⟨marks, false⟩ (.asked prompt) prompt ⟨rest, true⟩
  /-- At a terminal at which nothing more is ever typed, the request goes on waiting behind
  the ends that it has found. -/
  | waits {marks rest : Stream' Mark} {ends : Nat} (attended : interactive = true)
      (silent : ∀ value, .byte value ∉ marks)
      (next : marks = .replicate ends .ended ++ₛ rest) (prompt : Bytes) :
      Shows interactive limit ⟨marks, false⟩ (.asked prompt)
        (prompt ++ .replicate ends lineFeed) ⟨rest, false⟩

/-- What events add to the transcript one after another. -/
inductive Transcribes (interactive : Bool) (limit : Nat) :
    Hearing → List ConsoleEvent → Bytes → Hearing → Prop where
  | nil (hearing : Hearing) : Transcribes interactive limit hearing [] [] hearing
  | cons {before between after : Hearing} {event : ConsoleEvent} {events : List ConsoleEvent}
      {first later : Bytes} (shows : Shows interactive limit before event first between)
      (further : Transcribes interactive limit between events later after) :
      Transcribes interactive limit before (event :: events) (first ++ later) after

/-! ## The rules leave no choice -/

/-- A stream begins in at most one way with ends of the input and a piece behind them.  The
induction is on the ends. -/
theorem opening_unique {limit ends others : Nat} {piece other : Bytes} {rest last : Stream' Mark}
    (some : piece ≠ []) (isPiece : IsPiece limit piece)
    (someOther : other ≠ []) (isPieceOther : IsPiece limit other)
    (same : (.replicate ends .ended ++ piece.map .byte ++ closing limit piece) ++ₛ rest =
      (.replicate others .ended ++ other.map .byte ++ closing limit other) ++ₛ last) :
    ends = others ∧ piece = other ∧ rest = last := by
  have heads := congrArg Stream'.head same
  induction ends generalizing others with
  | zero =>
      cases others with
      | zero =>
          have taken := Source.gatherMarks_of_piece isPiece rest
          rw [List.replicate_zero, List.nil_append, List.nil_append] at same
          rw [same, Source.gatherMarks_of_piece isPieceOther last] at taken
          cases taken
          exact ⟨rfl, rfl, rfl⟩
      | succ others =>
          rcases List.exists_cons_of_ne_nil some with ⟨byte, bytes, rfl⟩
          cases heads
  | succ ends inductionHypothesis =>
      cases others with
      | zero =>
          rcases List.exists_cons_of_ne_nil someOther with ⟨byte, bytes, rfl⟩
          cases heads
      | succ others =>
          have behind := congrArg Stream'.tail same
          rcases inductionHypothesis behind (congrArg Stream'.head behind) with
            ⟨rfl, pieces, rests⟩
          exact ⟨rfl, pieces, rests⟩

/-- An event does not wait for good: a request at a terminal has something to come. -/
def Hearing.Answers (interactive : Bool) (hearing : Hearing) (event : ConsoleEvent) : Prop :=
  ∀ prompt, event = .asked prompt → interactive = true → ∃ value, .byte value ∈ hearing.marks

/-- An event adds one thing and leaves the input in one way, unless it waits for good. -/
theorem Shows.unique {interactive : Bool} {limit : Nat} {before after other : Hearing}
    {event : ConsoleEvent} {shown shownOther : Bytes} (answers : before.Answers interactive event)
    (shows : Shows interactive limit before event shown after)
    (again : Shows interactive limit before event shownOther other) :
    shownOther = shown ∧ other = after := by
  cases shows with
  | shown payload =>
      cases again
      exact ⟨rfl, rfl⟩
  | exited status =>
      cases again
      exact ⟨rfl, rfl⟩
  | bound cancel =>
      cases again
      exact ⟨rfl, rfl⟩
  | latched marks prompt =>
      cases again
      exact ⟨rfl, rfl⟩
  | piece some isPiece unattended next prompt =>
      cases again with
      | piece someOther isPieceOther _ nextOther =>
          rcases opening_unique some isPiece someOther isPieceOther (next.symm.trans nextOther) with
            ⟨rfl, rfl, rfl⟩
          exact ⟨rfl, rfl⟩
      | ended alone nextOther =>
          rcases List.exists_cons_of_ne_nil some with ⟨byte, bytes, rfl⟩
          rw [unattended alone] at next
          cases congrArg Stream'.head (next.symm.trans nextOther)
      | waits attended silent _ =>
          rcases answers prompt rfl attended with ⟨value, more⟩
          exact absurd more (silent value)
  | @ended marks rest alone next prompt =>
      cases again with
      | piece someOther _ unattended nextOther =>
          rcases List.exists_cons_of_ne_nil someOther with ⟨byte, bytes, rfl⟩
          rw [unattended alone] at nextOther
          cases congrArg Stream'.head (next.symm.trans nextOther)
      | @ended _ last _ nextOther =>
          have rests : rest = last := congrArg Stream'.tail (next.symm.trans nextOther)
          rw [rests]
          exact ⟨rfl, rfl⟩
      | waits attended _ _ =>
          rw [alone] at attended
          cases attended
  | waits attended silent _ prompt =>
      rcases answers prompt rfl attended with ⟨value, more⟩
      exact absurd more (silent value)

/-- The transcript of events is determined by them and by the input, as long as none of them
waits for good. -/
theorem Transcribes.unique {interactive : Bool} {limit : Nat} {before after other : Hearing}
    {events : List ConsoleEvent} {shown shownOther : Bytes}
    (transcribes : Transcribes interactive limit before events shown after)
    (answers : ∀ earlier event later own between, events = earlier ++ event :: later →
      Transcribes interactive limit before earlier own between →
        between.Answers interactive event)
    (again : Transcribes interactive limit before events shownOther other) :
    shownOther = shown ∧ other = after := by
  induction transcribes generalizing other shownOther with
  | nil hearing =>
      cases again
      exact ⟨rfl, rfl⟩
  | cons shows further inductionHypothesis =>
      cases again with
      | cons showsOther furtherOther =>
          rcases shows.unique (answers [] _ _ _ _ rfl (.nil _)) showsOther with ⟨rfl, rfl⟩
          have onward := inductionHypothesis
            (fun earlier event later own between split transcribed =>
              answers (_ :: earlier) event later _ between (congrArg _ split)
                (.cons shows transcribed)) furtherOther
          exact ⟨congrArg _ onward.1, onward.2⟩

namespace Bridge

open Source (NextPiece)

variable {bridge : Bridge}

/-- A console that takes whatever it is given, over an input that cannot fail. -/
structure Sound (bridge : Bridge) : Prop where
  sink : bridge.sink.Sound
  faultless : ∀ cause, .fault cause ∉ bridge.source.script
  positive : 0 < bridge.maxInput

/-- What the input of a bridge has to say yet. -/
def hearing (bridge : Bridge) : Hearing :=
  ⟨bridge.source.marks, bridge.exhausted⟩

/-- Nothing comes behind an end of the input but more of them.  The induction is on the
attempts that are left. -/
theorem Waiting.await_of_silence {waiting : Waiting}
    (interactive : waiting.bridge.interactive = true) (positive : 0 < waiting.bridge.maxInput)
    (faultless : ∀ cause, .fault cause ∉ waiting.bridge.source.script)
    (silent : ∀ value, .byte value ∉ waiting.bridge.source.marks) (attempts : Nat) :
    ∃ after, after.script <:+ waiting.bridge.source.script ∧
      waiting.bridge.source.marks = .replicate attempts .ended ++ₛ after.marks ∧
      (waiting.await attempts).bridge =
        { waiting.bridge with
          source := after
          sink := waiting.bridge.sink.putAll (.replicate attempts [lineFeed]) } := by
  induction attempts generalizing waiting with
  | zero => exact ⟨waiting.bridge.source, List.suffix_refl _, rfl, rfl⟩
  | succ attempts inductionHypothesis =>
      rw [await_succ, attempt]
      rcases Source.readLine_cases positive waiting.bridge.source with
        ⟨piece, after, _, next⟩ | ⟨after, reading, ended, script, _⟩ |
          ⟨cause, after, _, isFault⟩
      · rcases List.exists_cons_of_ne_nil next.some with ⟨byte, rest, rfl⟩
        have more : .byte byte ∈ waiting.bridge.source.marks := by
          rw [next.marks]
          exact ⟨0, rfl⟩
        exact absurd more (silent byte)
      · let read : Waiting := { waiting with bridge := { waiting.bridge with source := after } }
        have bridge : read.breakOff.bridge =
            { waiting.bridge with
              source := after, sink := (waiting.bridge.sink.put [lineFeed]).2 } :=
          breakOff_bridge read
        have still (cause : ReadFault) : .fault cause ∉ after.script :=
          fun listed => faultless cause (script.mem listed)
        have onward := @inductionHypothesis read.breakOff
        rw [bridge] at onward
        rcases onward interactive positive still
            (fun value more => silent value (by rw [ended]; exact Stream'.mem_cons_of_mem _ more)) with
          ⟨last, further, same, awaited⟩
        refine ⟨last, further.trans script, ?_, ?_⟩
        · rw [ended, same]
          rfl
        · rw [reading]
          dsimp only
          rw [Waiting.ended, if_pos interactive]
          exact awaited
      · exact absurd isFault (faultless cause)

/-- A request at a terminal at which nothing more is ever typed. -/
theorem nextLine_of_silence (interactive : bridge.interactive = true)
    (unlatched : bridge.exhausted = false) (positive : 0 < bridge.maxInput)
    (faultless : ∀ cause, .fault cause ∉ bridge.source.script)
    (silent : ∀ value, .byte value ∉ bridge.source.marks) (prompt : Bytes)
    (cell : Option UInt8) :
    ∃ ends after, after.script <:+ bridge.source.script ∧
      bridge.source.marks = .replicate ends .ended ++ₛ after.marks ∧
      (bridge.nextLine prompt cell).bridge =
        { bridge with
          source := after
          sink := bridge.sink.putAll (prompt :: .replicate ends [lineFeed]) } := by
  have prompted : (bridge.say prompt).1 = { bridge with sink := (bridge.sink.put prompt).2 } := rfl
  rw [nextLine, if_neg (by simp [unlatched])]
  dsimp only
  rw [prompted]
  exact ⟨_, @Waiting.await_of_silence ⟨{ bridge with sink := (bridge.sink.put prompt).2 }, cell, _⟩
    interactive positive faultless silent _⟩

/-- What a request for a line adds to the transcript, and that it leaves a sound console.
The cases are those of the input: latched, at a terminal with or without a byte to come,
and elsewhere with a line or at its end. -/
theorem asked_shows (sound : bridge.Sound) (prompt : Bytes) :
    ∃ shown,
      Shows bridge.interactive bridge.maxInput bridge.hearing (.asked prompt) shown
        (bridge.nextLine prompt none).bridge.hearing ∧
      (bridge.nextLine prompt none).bridge.sink.contents = bridge.sink.contents ++ shown ∧
      (bridge.nextLine prompt none).bridge.Sound := by
  have put := sound.sink.put prompt
  have still {after : Source} (script : after.script <:+ bridge.source.script)
      (cause : ReadFault) : .fault cause ∉ after.script :=
    fun listed => sound.faultless cause (script.mem listed)
  have written (ends : Nat) :
      (bridge.sink.putAll (prompt :: .replicate ends [lineFeed])).contents =
          bridge.sink.contents ++ (prompt ++ .replicate ends lineFeed) ∧
        (bridge.sink.putAll (prompt :: .replicate ends [lineFeed])).Sound := by
    have all := sound.sink.putAll (prompt :: .replicate ends [lineFeed])
    rw [List.flatten_cons, List.flatten_replicate_singleton] at all
    exact all
  cases unlatched : bridge.exhausted with
  | true =>
      have before : bridge.hearing = ⟨bridge.source.marks, true⟩ := by rw [hearing, unlatched]
      rw [nextLine_of_exhausted unlatched, before]
      exact ⟨[], .latched _ prompt, (List.append_nil _).symm, sound⟩
  | false =>
  have before : bridge.hearing = ⟨bridge.source.marks, false⟩ := by rw [hearing, unlatched]
  have behind (after : Source) (sink : Sink) :
      ({ bridge with source := after, sink } : Bridge).hearing = ⟨after.marks, false⟩ := by
    rw [hearing, unlatched]
  rw [before]
  cases interactive : bridge.interactive with
  | true =>
      by_cases more : ∃ value, .byte value ∈ bridge.source.marks
      · rcases more with ⟨value, more⟩
        rcases nextLine_of_byte interactive unlatched sound.positive sound.faultless more prompt
          none with ⟨ends, piece, after, log, next, turn⟩
        rw [turn, behind]
        exact ⟨_, .piece next.some next.isPiece (by nofun) next.marks prompt, (written ends).1,
          (written ends).2, still next.script, sound.positive⟩
      · have silent (value : UInt8) : .byte value ∉ bridge.source.marks :=
          fun listed => more ⟨value, listed⟩
        rcases nextLine_of_silence interactive unlatched sound.positive sound.faultless silent
          prompt none with ⟨ends, after, script, next, turn⟩
        rw [turn, behind]
        exact ⟨_, .waits rfl silent next prompt, (written ends).1, (written ends).2,
          still script, sound.positive⟩
  | false =>
      rcases Source.readLine_cases sound.positive bridge.source with
        ⟨piece, after, reading, next⟩ | ⟨after, reading, ended, script, _⟩ |
          ⟨cause, after, _, isFault⟩
      · rcases nextLine_of_line unlatched reading prompt with ⟨log, turn⟩
        have shows : Shows false bridge.maxInput ⟨bridge.source.marks, false⟩ (.asked prompt)
            (prompt ++ []) ⟨after.marks, false⟩ :=
          .piece next.some next.isPiece (fun _ => rfl) next.marks prompt
        rw [List.append_nil, ← behind after (bridge.sink.put prompt).2] at shows
        rw [turn]
        exact ⟨prompt, shows, put.1, put.2, still next.script, sound.positive⟩
      · rcases nextLine_of_lineless interactive unlatched reading
          (fun line impossible => by cases impossible) prompt with ⟨log, turn⟩
        rw [turn]
        exact ⟨prompt, .ended rfl ended prompt, put.1, put.2, still script, sound.positive⟩
      · exact absurd isFault (sound.faultless cause)

/-- Each event adds to the contents of a console what the rules say. -/
theorem meet_shows (sound : bridge.Sound) (event : ConsoleEvent) :
    ∃ shown,
      Shows bridge.interactive bridge.maxInput bridge.hearing event shown
        (bridge.meet event).hearing ∧
      (bridge.meet event).sink.contents = bridge.sink.contents ++ shown ∧
      (bridge.meet event).Sound := by
  cases event with
  | shown payload =>
      have put := sound.sink.put payload
      exact ⟨payload, .shown _ payload, put.1, put.2, sound.faultless, sound.positive⟩
  | exited status =>
      have flushed := sound.sink.flush
      refine ⟨[], .exited _ status, ?_, flushed.2, sound.faultless, sound.positive⟩
      rw [List.append_nil]
      exact flushed.1
  | asked prompt => exact asked_shows sound prompt
  | bound cancel =>
      exact ⟨[], .bound _ cancel, (List.append_nil _).symm, sound.sink, sound.faultless,
        sound.positive⟩

/-- The induction is on the events. -/
theorem foldl_meet_transcribes (sound : bridge.Sound) (events : List ConsoleEvent) :
    ∃ shown,
      Transcribes bridge.interactive bridge.maxInput bridge.hearing events shown
        (events.foldl meet bridge).hearing ∧
      (events.foldl meet bridge).sink.contents = bridge.sink.contents ++ shown ∧
      (events.foldl meet bridge).Sound := by
  induction events generalizing bridge with
  | nil => exact ⟨[], .nil _, (List.append_nil _).symm, sound⟩
  | cons event rest inductionHypothesis =>
      have interactive := congrArg Terms.interactive (bridge.meet_terms event)
      have limit := congrArg Terms.maxInput (bridge.meet_terms event)
      rcases meet_shows sound event with ⟨first, shows, contents, stays⟩
      rcases inductionHypothesis stays with ⟨later, further, all, last⟩
      rw [show (bridge.meet event).interactive = bridge.interactive from interactive,
        show (bridge.meet event).maxInput = bridge.maxInput from limit] at further
      refine ⟨first ++ later, .cons shows further, ?_, last⟩
      rw [← List.append_assoc, ← contents]
      exact all

end Bridge

namespace Host

variable {σ : Type} [Engine σ] {host : Host σ} {id : BridgeId}

/-- On a console that takes whatever it is given, and over an input that cannot fail, the
transcript of every run is exact: the contents are what was there before, and behind it what
the events of the run add in their order.  An output callback of another class than an exit
event is an event of text, and a null pointer is empty text.  And at any moment everything
that was written has been flushed. -/
theorem console_transcript {bridge : Bridge} (source : Source) (sink : Sink) (interactive : Bool)
    (config : ConsoleConfig) (hook : ExitHook) (exhausted : Bool) (cancel : Option Counter)
    (exitStatus : Option Int32) (hooked : List Int32)
    (console : bridge = { Bridge.onStreams source sink interactive config hook with
      exhausted, cancel, exitStatus, hooked })
    (found : host.bridges[id]? = some bridge) (sound : sink.Sound)
    (faultless : ∀ cause, .fault cause ∉ source.script) (requests : List ConsoleRequest) :
    (∃ last shown, (host.afterRequests requests).bridges[id]? = some last ∧
      last.sink.contents = sink.contents ++ shown ∧
      Transcribes interactive (max config.maxInput 1) ⟨source.marks, exhausted⟩
        (host.eventsOn id requests) shown ⟨last.source.marks, last.exhausted⟩) ∧
      (∀ code argument, code ≠ 5 →
        ConsoleEvent.ofOutput code argument = .shown argument.payload) ∧
      ∀ earlier later, host.eventsOn id requests = earlier ++ later →
        (earlier.foldl Bridge.meet bridge).sink.unflushed = 0 := by
  have whole : bridge.Sound := by
    rw [console]
    exact ⟨sound, faultless, Nat.le_max_right _ _⟩
  refine ⟨?_, ?_, ?_⟩
  · have reached : (host.afterRequests requests).bridges[id]? =
        some ((host.eventsOn id requests).foldl Bridge.meet bridge) := by
      rw [bridge_afterRequests, found]
      rfl
    rcases Bridge.foldl_meet_transcribes whole (host.eventsOn id requests) with
      ⟨shown, transcribes, contents, _⟩
    refine ⟨_, shown, reached, ?_, ?_⟩
    · rw [contents, console]
      rfl
    · rw [console] at transcribes ⊢
      exact transcribes
  · intro code argument other
    have code_eq := OutputKind.code_ofCode code
    rw [ConsoleEvent.ofOutput]
    cases kind : OutputKind.ofCode code with
    | exit =>
        rw [kind] at code_eq
        exact absurd code_eq.symm other
    | _ => rfl
  · intro earlier later _
    rcases Bridge.foldl_meet_transcribes whole earlier with ⟨_, _, _, stays⟩
    exact stays.sink.flushed

/-- A driver that starts and steps, text of two classes, and a request of the host's own. -/
def mixedRequests : List ConsoleRequest :=
  [.start "d" ⟨.noProfile, [], ""⟩, .step "d", .output (.at 0) 1 .null, .exit 0 3,
    .output (.at 0) 2 (.text [33]), .line 0 (.at 0) (.text "%")]

/-- Two lines and a line cut short by an end of the input, with ends between them. -/
def mixedInput : Source where
  script := [.chunk [], .chunk [97, 10], .chunk [], .chunk [98], .chunk [], .chunk [99, 10]]

/-- An engine that asks for input of its own when it is given the first line. -/
theorem mixed_requests :
    ∃ first host : Host Recording.Recorder,
      Host.init { reactions := [("a", .prompt "?")] } Memory.machine {}
          [Bridge.onStreams mixedInput {} true {} .ignore] = .ok first ∧
        host = first.after (.driver 0 { prompt := [62] } "d") ∧
        host.bridges[0]? = some (Bridge.onStreams mixedInput {} true {} .ignore) ∧
        host.eventsOn 0 mixedRequests =
          [.bound (some ⟨0, 0⟩), .asked [62], .asked [63], .shown [], .exited 3, .shown [33],
            .asked [37]] ∧
        ((host.afterRequests mixedRequests).bridges[0]?.map (·.sink.contents)) =
          some [62, 10, 63, 10, 33, 37] :=
  ⟨_, _, rfl, rfl, rfl, by decide +kernel, by decide +kernel⟩

/-- Three prompts, a line feed for each of two ends of the input, and one character of text. -/
theorem console_transcript_of_mixed_requests :
    ∃ (host : Host Recording.Recorder) (bridge last : Bridge) (shown : Bytes),
      bridge = { Bridge.onStreams mixedInput {} true {} .ignore with
        exhausted := false, cancel := none, exitStatus := none, hooked := [] } ∧
      host.bridges[0]? = some bridge ∧ Sink.Sound {} ∧
      (∀ cause, .fault cause ∉ mixedInput.script) ∧
      (host.afterRequests mixedRequests).bridges[0]? = some last ∧
      last.sink.contents = shown ∧ shown = [62, 10, 63, 10, 33, 37] ∧
      Transcribes true 30000 ⟨mixedInput.marks, false⟩
        [.bound (some ⟨0, 0⟩), .asked [62], .asked [63], .shown [], .exited 3, .shown [33],
          .asked [37]] shown ⟨last.source.marks, last.exhausted⟩ := by
  have sound : Sink.Sound {} := ⟨⟨rfl, by decide⟩, rfl, rfl⟩
  have faultless (cause : ReadFault) : .fault cause ∉ mixedInput.script := by simp [mixedInput]
  rcases mixed_requests with ⟨first, host, _, _, found, events, contents⟩
  rcases console_transcript mixedInput {} true {} .ignore false none none [] rfl found sound
    faultless mixedRequests with ⟨⟨last, shown, reached, written, transcribes⟩, _, _⟩
  rw [events] at transcribes
  rw [reached] at contents
  have same : last.sink.contents = [62, 10, 63, 10, 33, 37] := Option.some.inj contents
  have shown_eq : last.sink.contents = shown := written
  exact ⟨host, _, last, shown, rfl, found, sound, faultless, reached, shown_eq,
    shown_eq.symm.trans same, transcribes⟩

end Host

end SessionHost
