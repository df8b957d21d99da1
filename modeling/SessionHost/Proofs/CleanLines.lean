import SessionHost.Engine.Recording
import SessionHost.Proofs.Delivery
import SessionHost.Proofs.Encoding
import SessionHost.Proofs.Requests
import SessionHost.Proofs.Setups
import SessionHost.Proofs.Transcript

namespace SessionHost

/-!
# Lines without NUL

A line comes from one of two places.  It was read, and then it was cut at its
first NUL, or it is the shutdown sentence, which was cut when the bridge was set
up.  Either way there is no NUL in it, so the two precautions that the host takes
against one never bite: the input callback hands out the line itself and not the
empty text in its stead, and a driver never refuses to submit what it was given.

Setups do not change, so this holds of every state that a host can come to, and
also of the states in which an engine asks for input from within a call.
-/

/-! ## What a bridge answers -/

namespace Source

theorem hasNul_of_readLine {source after : Source} {limit : Nat} {line : Bytes}
    (read : source.readLine limit = (.line line, after)) : line.hasNul = false := by
  have found : readingOf (source.gather limit).1 = .line line := congrArg Prod.fst read
  unfold readingOf at found
  split at found
  · cases found
  · cases found
    exact Bytes.hasNul_cutAtNul _
  · cases found

end Source

namespace Bridge

/-- The bridge is as it was made, over some streams. -/
def OnStreams (bridge : Bridge) : Prop :=
  ∃ source sink interactive config hook,
    bridge = onStreams source sink interactive config hook

/-- The setup is that of a bridge over some streams. -/
def Configured (bridge : Bridge) : Prop :=
  ∃ source sink interactive config hook,
    bridge.setup = (Bridge.onStreams source sink interactive config hook).setup

theorem Configured.hasNul_shutdown {bridge : Bridge} (configured : bridge.Configured) :
    bridge.shutdown.hasNul = false := by
  rcases configured with ⟨source, sink, interactive, config, hook, same⟩
  have shutdown : bridge.shutdown = (Bytes.ofString config.shutdownSentence).cutAtNul :=
    congrArg Setup.shutdown same
  rw [shutdown]
  exact Bytes.hasNul_cutAtNul _

namespace Waiting

variable {waiting next : Waiting} {turn : Turn} {line : Bytes}

theorem hasNul_of_ended (clean : waiting.bridge.shutdown.hasNul = false)
    (settled : waiting.ended = .error turn) (answered : turn.line = some line) :
    line.hasNul = false := by
  unfold ended at settled
  split at settled
  · cases settled
  · cases settled
    cases answered
    exact clean

/-- An attempt is settled by a line that was read or by the shutdown sentence. -/
theorem hasNul_of_attempt (clean : waiting.bridge.shutdown.hasNul = false)
    (settled : waiting.attempt = .error turn) (answered : turn.line = some line) :
    line.hasNul = false := by
  unfold attempt at settled
  cases reading : waiting.bridge.source.readLine waiting.bridge.maxInput with
  | mk outcome source =>
      rw [reading] at settled
      cases outcome with
      | line bytes =>
          cases settled
          cases answered
          exact Source.hasNul_of_readLine reading
      | ended =>
          have settled : ended { waiting with bridge := { waiting.bridge with source } } =
            .error turn := settled
          refine hasNul_of_ended ?_ settled answered
          exact clean
      | failed cause =>
          let record := Log.warn ("failed to read console input: " ++ cause.message) []
          have settled : ended ⟨{ waiting.bridge with source }, waiting.cell,
            record :: waiting.log⟩ = .error turn := settled
          refine hasNul_of_ended ?_ settled answered
          exact clean

theorem shutdown_of_attempt (goesOn : waiting.attempt = .ok next) :
    next.bridge.shutdown = waiting.bridge.shutdown := by
  have kept := attempt_keeps waiting
  rw [goesOn] at kept
  exact congrArg Terms.shutdown kept.1

/-- The induction is on the attempts, none of which touches the shutdown sentence. -/
theorem hasNul_of_await (clean : waiting.bridge.shutdown.hasNul = false) (attempts : Nat)
    (answered : (waiting.await attempts).line = some line) : line.hasNul = false := by
  induction attempts generalizing waiting with
  | zero => cases answered
  | succ attempts inductionHypothesis =>
      unfold await at answered
      cases outcome : waiting.attempt with
      | error turn =>
          rw [outcome] at answered
          exact hasNul_of_attempt clean outcome answered
      | ok next =>
          rw [outcome] at answered
          rw [← shutdown_of_attempt outcome] at clean
          exact inductionHypothesis clean answered

end Waiting

/-- A request that comes back gives a line without NUL. -/
theorem hasNul_of_nextLine {bridge : Bridge} (configured : bridge.Configured) {prompt line : Bytes}
    {cell : Option UInt8} (answered : (bridge.nextLine prompt cell).line = some line) :
    line.hasNul = false := by
  have clean := configured.hasNul_shutdown
  unfold nextLine at answered
  split at answered
  · cases answered
    exact clean
  · have clean : (bridge.say prompt).1.shutdown.hasNul = false := clean
    exact Waiting.hasNul_of_await clean _ answered

end Bridge

/-! ## What a host answers -/

/-- A reply in which there is a NUL. -/
def LineRequest.Reply.hasNul : LineRequest.Reply → Bool
  | .text line => line.toList.contains '\x00'
  | .bytes line => line.hasNul

theorem LineRequest.hasNul_reply {line : Bytes} (clean : line.hasNul = false)
    (request : LineRequest) : (request.reply line).hasNul = false := by
  cases request with
  | bytes prompt => exact clean
  | callback prompt => exact clean
  | text prompt =>
      apply Bool.eq_false_iff.mpr
      intro listed
      have zero : 0 ∈ line := Utf8.zero_mem_of_decodeLossy (List.contains_iff_mem.mp listed)
      have dirty : line.hasNul = true := List.any_eq_true.mpr ⟨0, zero, rfl⟩
      rw [clean] at dirty
      cases dirty

namespace Host

variable {σ : Type} {host before after : Host σ} {handle : Handle}

/-- Every bridge was set up over some streams. -/
def Configured (host : Host σ) : Prop :=
  ∀ bridge ∈ host.bridges, bridge.Configured

theorem Configured.of_upheld (configured : before.Configured) (upheld : Upheld before after) :
    after.Configured := by
  intro bridge listed
  have setup : bridge.setup ∈ before.setups := by
    have later : bridge.setup ∈ after.setups := List.mem_map_of_mem listed
    rw [upheld] at later
    exact later
  rcases List.mem_map.mp setup with ⟨earlier, wasListed, same⟩
  unfold Bridge.Configured
  rw [← same]
  exact configured earlier wasListed

theorem hasNul_of_readLine (configured : host.Configured) {id : BridgeId} {prompt line : Bytes}
    (read : readLine id prompt host = .ok line after) : line.hasNul = false := by
  unfold readLine at read
  rw [Hosting.get_bind] at read
  cases found : host.bridges[id]? with
  | none =>
      rw [found] at read
      cases read
      rfl
  | some bridge =>
      rw [found] at read
      dsimp only at read
      rw [Hosting.set_bind] at read
      have isConfigured := configured bridge (List.mem_of_getElem? found)
      generalize isTurn : bridge.nextLine prompt _ = turn at read
      have answered {line : Bytes} (found : turn.line = some line) : line.hasNul = false := by
        rw [← isTurn] at found
        exact Bridge.hasNul_of_nextLine isConfigured found
      cases given : turn.line with
      | none =>
          rw [given] at read
          cases read
      | some line =>
          rw [given] at read
          cases read
          exact answered given

theorem terminated_of_clean {line : Bytes} (clean : line.hasNul = false) :
    line.terminated = line := by
  unfold Bytes.terminated
  rw [clean]
  rfl

/-- The input callback hands out the very line. -/
theorem inputCallback_eq_readLine (configured : host.Configured) {id : BridgeId} {address : Address}
    (routed : host.bridgeAt? address = some id) (prompt : Option Bytes) :
    inputCallback address prompt host = readLine id (prompt.getD []) host := by
  unfold inputCallback
  rw [Hosting.get_bind, routed]
  simp only [bind, EStateM.bind]
  cases read : readLine id (prompt.getD []) host with
  | error halt after => rfl
  | ok line after =>
      have same := terminated_of_clean (hasNul_of_readLine configured read)
      dsimp only
      rw [same]
      rfl

theorem hasNul_of_inputCallback (configured : host.Configured) {address : Address}
    {prompt : Option Bytes} {line : Bytes}
    (read : inputCallback address prompt host = .ok line after) : line.hasNul = false := by
  cases routed : host.bridgeAt? address with
  | some id =>
      rw [inputCallback_eq_readLine configured routed] at read
      exact hasNul_of_readLine configured read
  | none =>
      unfold inputCallback at read
      rw [Hosting.get_bind, routed] at read
      cases read
      decide

/-- Requests for input are answered without NUL, whichever way they come in, and
the input callback hands out what the host itself would have been given. -/
structure NulFree (host : Host σ) : Prop where
  replies : ∀ {id : BridgeId} {address : Address} {request : LineRequest}
    {reply : LineRequest.Reply} {after : Host σ},
    answer id address request host = .ok reply after → reply.hasNul = false
  spelled : ∀ {id : BridgeId} {address : Address}, host.bridgeAt? address = some id →
    ∀ prompt, inputCallback address prompt host = readLine id (prompt.getD []) host

theorem Configured.nulFree (configured : host.Configured) : host.NulFree := by
  constructor
  · intro id address request reply after answered
    cases request with
    | text prompt =>
        rcases Hosting.map_eq_ok answered with ⟨text, decoded, rfl⟩
        rcases Hosting.map_eq_ok decoded with ⟨line, read, rfl⟩
        exact LineRequest.hasNul_reply (hasNul_of_readLine configured read) (.text prompt)
    | bytes prompt =>
        rcases Hosting.map_eq_ok answered with ⟨line, read, rfl⟩
        exact hasNul_of_readLine configured read
    | callback prompt =>
        rcases Hosting.map_eq_ok answered with ⟨line, read, rfl⟩
        exact hasNul_of_inputCallback configured read
  · intro id address routed prompt
    exact inputCallback_eq_readLine configured routed prompt

/-! ## Requests from within a call -/

/-- The states in which an engine asks for input while its conversation is
served. -/
def askings {α : Type} (handle : Handle) : Conversation α → Host σ → List (Host σ)
  | .finished _, _ => []
  | .output code argument next, host =>
    ensuing (outputCallback (.at handle) code argument) host fun _ after =>
      askings handle next after
  | .input prompt next, host =>
    host :: ensuing (inputCallback (.at handle) prompt) host fun line after =>
      askings handle (next line) after
  | .readCell next, host => askings handle (next (host.cell? handle)) host
  | .writeCell value next, host => askings handle next (host.setCell handle value)
  | .signal next, host =>
    ensuing raise host fun handled after => askings handle (next handled) after
  | .note entry next, host => askings handle next (host.enter (.noted handle entry))

theorem mem_ensuing {α β : Type} {action : Hosting σ α} {later : α → Host σ → List β} {entry : β}
    (listed : entry ∈ ensuing action host later) :
    ∃ value after, action host = .ok value after ∧ entry ∈ later value after := by
  unfold ensuing at listed
  split at listed
  · next value after returned => exact ⟨value, after, returned, listed⟩
  · cases listed

/-- The induction is on the conversation, and what carries it is that no request
changes a setup. -/
theorem configured_of_asking {α : Type} (conversation : Conversation α)
    (configured : host.Configured) :
    ∀ asking ∈ askings handle conversation host, asking.Configured := by
  have ensues {β : Type} {request : Hosting σ β} {later : β → Host σ → List (Host σ)}
      {start : Host σ} (configured : start.Configured)
      (served : Hosting.Leaves request start (Served handle start))
      (onward : ∀ value (middle : Host σ), middle.Configured →
        ∀ asking ∈ later value middle, asking.Configured) :
      ∀ asking ∈ ensuing request start later, asking.Configured := by
    intro asking listed
    rcases mem_ensuing listed with ⟨value, middle, returned, listed⟩
    have upheld : Upheld start middle := Upheld.of_served (served.of_ok returned)
    exact onward value middle (configured.of_upheld upheld) asking listed
  induction conversation generalizing host with
  | finished result =>
      intro asking listed
      cases listed
  | output code argument next inductionHypothesis =>
      exact ensues configured (outputCallback_served host _ code argument)
        fun _ middle => inductionHypothesis
  | input prompt next inductionHypothesis =>
      intro asking listed
      rcases List.mem_cons.mp listed with rfl | listed
      · exact configured
      · exact ensues configured (inputCallback_served host _ prompt)
          (fun line middle => inductionHypothesis line) asking listed
  | readCell next inductionHypothesis => exact inductionHypothesis _ configured
  | writeCell value next inductionHypothesis =>
      exact inductionHypothesis (configured.of_upheld (Upheld.of_bridges rfl))
  | signal next inductionHypothesis =>
      exact ensues configured (raise_served host) fun handled middle => inductionHypothesis handled
  | note entry next inductionHypothesis =>
      exact inductionHypothesis (configured.of_upheld (Upheld.of_bridges rfl))

/-! ## A running driver -/

variable [Engine σ]

/-- A driver that is running never refuses to submit what it has read. -/
theorem step_eq_ok (configured : host.Configured) {driver : Driver}
    (running : driver.active.isSome = true) {outcome : Except DriverError Unit}
    (stepped : step driver host = .ok outcome after) : outcome = .ok () := by
  rcases Option.isSome_iff_exists.mp running with ⟨active, isActive⟩
  unfold step at stepped
  rw [isActive] at stepped
  rcases Hosting.bind_eq_ok stepped with ⟨line, asked, read, stepped⟩
  have clean := hasNul_of_readLine configured read
  rw [if_neg (by simp [clean])] at stepped
  rcases Hosting.bind_eq_ok stepped with ⟨answer, called, _, returned⟩
  cases returned
  rfl

/-- The induction is on the steps that may still be taken. -/
theorem run_eq_ok (configured : host.Configured) {driver : Driver}
    (running : driver.active.isSome = true) {steps : Nat} {outcome : Except DriverError Int32}
    (ran : run steps driver host = .ok outcome after) :
    ∃ status, outcome = .ok status ∧ after.exitStatus? driver.bridge = some status := by
  induction steps generalizing host with
  | zero =>
      unfold run at ran
      rw [Hosting.get_bind] at ran
      cases seen : host.exitStatus? driver.bridge with
      | some status =>
          rw [seen] at ran
          cases ran
          exact ⟨status, rfl, seen⟩
      | none =>
          rw [seen] at ran
          cases ran
  | succ steps inductionHypothesis =>
      unfold run at ran
      rw [Hosting.get_bind] at ran
      cases seen : host.exitStatus? driver.bridge with
      | some status =>
          rw [seen] at ran
          cases ran
          exact ⟨status, rfl, seen⟩
      | none =>
          rw [seen] at ran
          rcases Hosting.bind_eq_ok ran with ⟨answer, next, stepped, ran⟩
          have upheld : Upheld host next := (step_upheld driver host).of_ok stepped
          cases step_eq_ok configured running stepped
          exact inductionHypothesis (configured.of_upheld upheld) ran

/-- In every state of a host, steps of the driver are not refused, and a run of it
that comes to an end gives the status of the recorded exit event. -/
structure Unfailing (σ : Type) [Engine σ] (driver : Driver) : Prop where
  steps : ∀ {now after : Host σ} {outcome : Except DriverError Unit}, now.Configured →
    step driver now = .ok outcome after → outcome = .ok () ∧ after.Configured
  runs : ∀ {now after : Host σ} {count : Nat} {outcome : Except DriverError Int32},
    now.Configured → run count driver now = .ok outcome after →
      ∃ status, outcome = .ok status ∧ after.exitStatus? driver.bridge = some status

theorem unfailing_of_running {driver : Driver} (running : driver.active.isSome = true) :
    Unfailing σ driver := by
  constructor
  · intro now after outcome configured stepped
    have upheld : Upheld now after := (step_upheld driver now).of_ok stepped
    exact ⟨step_eq_ok configured running stepped, configured.of_upheld upheld⟩
  · intro now after count outcome configured ran
    exact run_eq_ok configured running ran

/-- What a start gives back is running, if it succeeds. -/
theorem running_of_start {driver started : Driver} {bootstrap : Bootstrap} {id : SessionId}
    (outcome : start driver bootstrap host = .ok (.ok id, started) after) :
    started.active.isSome = true := by
  cases driver with
  | mk bridge options active =>
      cases active with
      | some active => cases outcome
      | none =>
          rcases start_of_ok outcome with ⟨active, handle, rfl, _⟩
          rfl

/-! ## From the first state on -/

omit [Engine σ] in
theorem configured_of_init {engine : σ} {memory : Memory} {config : RegistryConfig}
    {bridges : List Bridge} (streams : ∀ bridge ∈ bridges, bridge.OnStreams)
    (opened : Host.init engine memory config bridges = .ok host) : host.Configured := by
  intro bridge listed
  unfold Host.init at opened
  split at opened
  · cases opened
  · cases opened
    rcases streams bridge listed with ⟨source, sink, interactive, config, hook, rfl⟩
    exact ⟨source, sink, interactive, config, hook, rfl⟩

/-- A host over any streams is configured in all its states, and so are the states
in which an engine asks for input.  In a configured host no reply to a request
holds a NUL, and the input callback hands out the line itself.  A driver that was
started then never refuses to submit what it read, and where a run of it ends, it
ends with the status of the recorded exit event. -/
theorem lines_without_nul {engine : σ} {memory : Memory} {config : RegistryConfig}
    {bridges : List Bridge} {first : Host σ} (streams : ∀ bridge ∈ bridges, bridge.OnStreams)
    (opened : Host.init engine memory config bridges = .ok first) :
    (∀ operations, (first.afterAll operations).Configured) ∧
      ∀ host : Host σ, host.Configured → host.NulFree ∧
        (∀ (α : Type) (handle : Handle) (conversation : Conversation α),
          ∀ asking ∈ askings handle conversation host, asking.Configured ∧ asking.NulFree) ∧
        ∀ driver bootstrap id started next,
          start driver bootstrap host = .ok (.ok id, started) next →
            next.Configured ∧ Unfailing σ started := by
  refine ⟨?_, ?_⟩
  · intro operations
    exact (configured_of_init streams opened).of_upheld (afterAll_upheld operations first)
  · intro host configured
    refine ⟨configured.nulFree, ?_, ?_⟩
    · intro α handle conversation asking listed
      have asks := configured_of_asking conversation configured asking listed
      exact ⟨asks, asks.nulFree⟩
    · intro driver bootstrap id started next outcome
      have upheld : Upheld host next := (start_upheld driver bootstrap host).of_ok outcome
      exact ⟨configured.of_upheld upheld, unfailing_of_running (running_of_start outcome)⟩

/-- What a started engine is given over a stream with a NUL in its only line, where
the shutdown sentence has one as well. -/
theorem start_over_nul :
    ∃ first : Host Recording.Recorder,
      Host.init {} Memory.machine {}
          [Bridge.onStreams { script := [.chunk [97, 0, 98, 10], .fault .deviceGone] } {} false
            { shutdownSentence := "x\x00y" } .ignore] = .ok first ∧
        (match start { bridge := 0, options := { prompt := [62] } } ⟨.noProfile, [], ""⟩ first with
          | .ok (.ok _, _) next =>
            match inputCallback (.at 0) none next with
            | .ok line asked => line == [97] &&
              match inputCallback (.at 0) none asked with
              | .ok line _ => line == [120]
              | _ => false
            | _ => false
          | _ => false) = true :=
  ⟨_, rfl, by decide +kernel⟩

/-- Both the line and the shutdown sentence reach the engine up to their NULs, and the
driver of its session cannot fail. -/
theorem lines_without_nul_over_nul :
    ∃ (first next : Host Recording.Recorder) (id : SessionId) (started : Driver),
      Host.init {} Memory.machine {}
          [Bridge.onStreams { script := [.chunk [97, 0, 98, 10], .fault .deviceGone] } {} false
            { shutdownSentence := "x\x00y" } .ignore] = .ok first ∧
        start { bridge := 0, options := { prompt := [62] } } ⟨.noProfile, [], ""⟩ first =
          .ok (.ok id, started) next ∧
        next.Configured ∧ Unfailing Recording.Recorder started ∧
        ∃ asked last : Host Recording.Recorder,
          inputCallback (.at 0) none next = .ok [97] asked ∧
            inputCallback (.at 0) none asked = .ok [120] last := by
  rcases start_over_nul with ⟨first, opened, outcome⟩
  split at outcome
  · next id started next starting =>
      split at outcome
      · next line asked asking =>
          rcases Bool.and_eq_true_iff.mp outcome with ⟨isLine, outcome⟩
          split at outcome
          · next sentence last latching =>
              have streams := lines_without_nul
                (fun bridge listed => ⟨_, _, _, _, _, List.mem_singleton.mp listed⟩) opened
              have running := (streams.2 first (streams.1 [])).2.2 _ _ _ _ _ starting
              rw [eq_of_beq isLine] at asking
              rw [eq_of_beq outcome] at latching
              exact ⟨first, next, id, started, opened, starting, running.1, running.2,
                asked, last, asking, latching⟩
          · cases outcome
      · cases outcome
  · cases outcome

end Host

end SessionHost
