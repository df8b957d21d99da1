import SessionHost.Proofs.Delivery
import SessionHost.Proofs.Mending
import SessionHost.Proofs.Separation

namespace SessionHost

/-!
# Requests for input over reads that fail

Requests for input on a console whose reads may fail are answered as on one whose input
ends in these places, and lacks the bytes that the faults lose.  The lines, what is
written to the console and the requests for a break are the same, and so is everything
else but what is left to be read and the warnings that a fault leaves in the log.  The
two consoles are run side by side.
-/

namespace Hosting

variable {σ α β : Type} {related : Host σ → Host σ → Prop}

/-- Two computations come out alike: with the same value or halt, and in states that
are related. -/
def Alike (related : Host σ → Host σ → Prop) (first second : EStateM.Result Halt (Host σ) α) :
    Prop :=
  match first, second with
  | .ok value after, .ok other afterOther => value = other ∧ related after afterOther
  | .error halt after, .error other afterOther => halt = other ∧ related after afterOther
  | _, _ => False

/-- Either both computations return, or both of them halt. -/
theorem Alike.cases {first second : EStateM.Result Halt (Host σ) α}
    (alike : Alike related first second) :
    (∃ value after other, first = .ok value after ∧ second = .ok value other ∧
        related after other) ∨
      ∃ halt after other, first = .error halt after ∧ second = .error halt other ∧
        related after other := by
  cases first with
  | ok value after =>
      cases second with
      | ok other afterOther =>
          rcases alike with ⟨rfl, here⟩
          exact .inl ⟨value, after, afterOther, rfl, rfl, here⟩
      | error halt afterOther => exact alike.elim
  | error halt after =>
      cases second with
      | ok other afterOther => exact alike.elim
      | error other afterOther =>
          rcases alike with ⟨rfl, here⟩
          exact .inr ⟨halt, after, afterOther, rfl, rfl, here⟩

theorem Alike.bind {first other : Hosting σ α} {next : α → Hosting σ β} {host calm : Host σ}
    (begun : Alike related (first host) (other calm))
    (onward : ∀ value host calm, related host calm →
      Alike related (next value host) (next value calm)) :
    Alike related ((first >>= next) host) ((other >>= next) calm) := by
  simp only [Bind.bind, EStateM.bind]
  rcases begun.cases with
    ⟨value, after, afterOther, reached, reachedOther, here⟩ |
      ⟨halt, after, afterOther, reached, reachedOther, here⟩
  · rw [reached, reachedOther]
    exact onward value after afterOther here
  · rw [reached, reachedOther]
    exact ⟨rfl, here⟩

section States

variable {host calm : Host σ}

theorem alike_get_bind {next other : Host σ → Hosting σ β} :
    Alike related ((get >>= next) host) ((get >>= other) calm) ↔
      Alike related (next host host) (other calm calm) :=
  Iff.rfl

theorem alike_set_bind {after afterCalm : Host σ} {next other : PUnit → Hosting σ β} :
    Alike related ((set after >>= next) host) ((set afterCalm >>= other) calm) ↔
      Alike related (next ⟨⟩ after) (other ⟨⟩ afterCalm) :=
  Iff.rfl

theorem alike_modify_bind {change changeCalm : Host σ → Host σ} {next other : PUnit → Hosting σ β} :
    Alike related ((modify change >>= next) host) ((modify changeCalm >>= other) calm) ↔
      Alike related (next ⟨⟩ (change host)) (other ⟨⟩ (changeCalm calm)) :=
  Iff.rfl

theorem alike_modifyGet_bind {change changeCalm : Host σ → α × Host σ}
    {next other : α → Hosting σ β} :
    Alike related ((modifyGet change >>= next) host) ((modifyGet changeCalm >>= other) calm) ↔
      Alike related (next (change host).1 (change host).2)
        (other (changeCalm calm).1 (changeCalm calm).2) :=
  Iff.rfl

end States

theorem alike_mapM {action : α → Hosting σ β}
    (each : ∀ entry host calm, related host calm →
      Alike related (action entry host) (action entry calm))
    (entries : List α) {host calm : Host σ} (here : related host calm) :
    Alike related (entries.mapM action host) (entries.mapM action calm) := by
  induction entries generalizing host calm with
  | nil => exact ⟨rfl, here⟩
  | cons entry rest inductionHypothesis =>
      rw [List.mapM_cons]
      refine (each entry host calm here).bind ?_
      intro value host calm here
      refine (inductionHypothesis here).bind ?_
      exact fun values host calm here => ⟨rfl, here⟩

end Hosting

namespace Bridge

/-- A bridge whose reads do not fail.  The bytes that a fault loses are missing. -/
def mended (bridge : Bridge) : Bridge :=
  { bridge with source := bridge.source.mended bridge.maxInput }

/-- A request that waits on a bridge and on the mended one. -/
structure Waiting.Mends (waiting calm : Waiting) : Prop where
  positive : 0 < waiting.bridge.maxInput
  bridge : calm.bridge = waiting.bridge.mended
  cell : calm.cell = waiting.cell

/-- What a request comes to on a bridge and on the mended one. -/
structure Turn.Mends (turn calm : Turn) : Prop where
  positive : 0 < turn.bridge.maxInput
  bridge : calm.bridge = turn.bridge.mended
  line : calm.line = turn.line
  cell : calm.cell = turn.cell

namespace Waiting

theorem Mends.shutDown {waiting calm : Waiting} (mends : waiting.Mends calm) :
    Turn.Mends waiting.shutDown calm.shutDown := by
  refine ⟨mends.positive, ?_, ?_, mends.cell⟩
  · simp only [Waiting.shutDown, mends.bridge]
    rfl
  · simp only [Waiting.shutDown, mends.bridge]
    rfl

theorem Mends.breakOff {waiting calm : Waiting} (mends : waiting.Mends calm) :
    waiting.breakOff.Mends calm.breakOff := by
  refine ⟨?_, ?_, ?_⟩
  · rw [breakOff_bridge]
    exact mends.positive
  · rw [breakOff_bridge, breakOff_bridge, mends.bridge]
    rfl
  · rw [breakOff_cell, breakOff_cell, mends.cell]

theorem await_mends {waiting calm : Waiting} (mends : waiting.Mends calm) (attempts : Nat) :
    (waiting.await attempts).Mends (calm.await attempts) := by
  induction attempts generalizing waiting calm with
  | zero => exact ⟨mends.positive, mends.bridge, rfl, mends.cell⟩
  | succ attempts inductionHypothesis =>
      have onward {waiting calm : Waiting} (mends : waiting.Mends calm) :
          (goOn attempts waiting.ended).Mends (goOn attempts calm.ended) := by
        have sitting : calm.bridge.interactive = waiting.bridge.interactive := by
          rw [mends.bridge]
          rfl
        simp only [ended, sitting]
        cases waiting.bridge.interactive with
        | true => exact inductionHypothesis mends.breakOff
        | false => exact mends.shutDown
      have same : calm.bridge.source.readLine calm.bridge.maxInput =
          ((waiting.bridge.source.readLine waiting.bridge.maxInput).1.mended,
            (waiting.bridge.source.readLine waiting.bridge.maxInput).2.mended
              waiting.bridge.maxInput) := by
        rw [mends.bridge]
        exact Source.readLine_mended mends.positive waiting.bridge.source
      rw [await_succ, await_succ]
      unfold attempt
      rw [same]
      cases waiting.bridge.source.readLine waiting.bridge.maxInput with
      | mk reading source =>
          have read : { calm.bridge with source := source.mended waiting.bridge.maxInput } =
              ({ waiting.bridge with source } : Bridge).mended := by
            rw [mends.bridge]
            rfl
          cases reading with
          | line bytes => exact ⟨mends.positive, read, rfl, mends.cell⟩
          | ended => exact onward ⟨mends.positive, read, mends.cell⟩
          | failed cause => exact onward ⟨mends.positive, read, mends.cell⟩

end Waiting

theorem nextLine_mends {bridge : Bridge} (positive : 0 < bridge.maxInput) (prompt : Bytes)
    (cell : Option UInt8) :
    (bridge.nextLine prompt cell).Mends (bridge.mended.nextLine prompt cell) := by
  have latched : bridge.mended.exhausted = bridge.exhausted := rfl
  unfold nextLine
  rw [latched]
  cases bridge.exhausted with
  | true => exact ⟨positive, rfl, rfl, rfl⟩
  | false =>
      have attempts : (bridge.mended.say prompt).1.source.script.length =
          (bridge.say prompt).1.source.script.length := Source.length_mend _ _
      have prompted : Waiting.Mends ⟨(bridge.say prompt).1, cell, (bridge.say prompt).2.reverse⟩
          ⟨(bridge.mended.say prompt).1, cell, (bridge.mended.say prompt).2.reverse⟩ :=
        ⟨positive, rfl, rfl⟩
      simp only [Bool.false_eq_true, if_false, attempts]
      exact Waiting.await_mends prompted _

end Bridge

namespace Host

variable {σ : Type} {host calm : Host σ} {id : BridgeId} {address : Address}

/-- Two hosts that differ in what is left to be read on one bridge, and in the log.  The
bridge of the second one is that of the first one, mended. -/
structure Mends (id : BridgeId) (address : Address) (host calm : Host σ) : Prop where
  routed : host.bridgeAt? address = some id
  mended : ∃ bridge log, host.bridges[id]? = some bridge ∧ 0 < bridge.maxInput ∧
    calm = { host.setBridge id bridge.mended with log }

/-- What a request for a line leaves behind. -/
def afterTurn (host : Host σ) (id : BridgeId) (cancel : Option Counter) (turn : Bridge.Turn) :
    Host σ :=
  match cancel, turn.cell with
  | some counter, some value =>
      ((host.setBridge id turn.bridge).say turn.log).setCell counter.handle value
  | _, _ => (host.setBridge id turn.bridge).say turn.log

theorem readLine_eq_afterTurn {bridge : Bridge} (found : host.bridges[id]? = some bridge)
    {prompt : Bytes} {turn : Bridge.Turn}
    (turned : bridge.nextLine prompt (bridge.cancel.bind fun counter => host.cell? counter.handle) =
      turn) :
    readLine id prompt host = match turn.line with
      | some line => .ok line (host.afterTurn id bridge.cancel turn)
      | none => .error .stuck (host.afterTurn id bridge.cancel turn) := by
  unfold readLine
  rw [Hosting.get_bind, found]
  dsimp only
  rw [Hosting.set_bind, turned]
  cases turn.line with
  | none => rfl
  | some line => rfl

theorem afterTurn_mends (mends : Mends id address host calm) (cancel : Option Counter)
    {turn calmTurn : Bridge.Turn} (turned : turn.Mends calmTurn) :
    Mends id address (host.afterTurn id cancel turn) (calm.afterTurn id cancel calmTurn) := by
  rcases mends with ⟨routed, bridge, log, found, _, rfl⟩
  have put : (host.setBridge id turn.bridge).bridges[id]? = some turn.bridge :=
    getElem?_setBridge found _
  have overwritten (first : Bridge) : (host.bridges.set id first).set id calmTurn.bridge =
      (host.bridges.set id turn.bridge).set id turn.bridge.mended := by
    rw [List.set_set, List.set_set, turned.bridge]
  unfold afterTurn
  rw [turned.cell]
  split
  · refine ⟨routed, turn.bridge, calmTurn.log.reverse ++ log, put, turned.positive, ?_⟩
    simp only [setBridge, say, setCell, overwritten]
  · refine ⟨routed, turn.bridge, calmTurn.log.reverse ++ log, put, turned.positive, ?_⟩
    simp only [setBridge, say, overwritten]

theorem readLine_mends (mends : Mends id address host calm) (prompt : Bytes) :
    Hosting.Alike (Mends id address) (readLine id prompt host) (readLine id prompt calm) := by
  rcases mends.mended with ⟨bridge, log, found, positive, same⟩
  have foundCalm : calm.bridges[id]? = some bridge.mended := by
    rw [same]
    exact getElem?_setBridge found _
  have cell (counter : Counter) : calm.cell? counter.handle = host.cell? counter.handle := by
    rw [same]
    rfl
  have turned := Bridge.nextLine_mends positive prompt
    (bridge.cancel.bind fun counter => host.cell? counter.handle)
  have turnedCalm : bridge.mended.nextLine prompt
      (bridge.mended.cancel.bind fun counter => calm.cell? counter.handle) =
        bridge.mended.nextLine prompt
          (bridge.cancel.bind fun counter => host.cell? counter.handle) := by
    simp only [cell]
    rfl
  have left := afterTurn_mends mends bridge.cancel turned
  rw [readLine_eq_afterTurn found rfl, readLine_eq_afterTurn foundCalm turnedCalm, turned.line]
  cases (bridge.nextLine prompt
      (bridge.cancel.bind fun counter => host.cell? counter.handle)).line with
  | none => exact ⟨rfl, left⟩
  | some line => exact ⟨rfl, left⟩

theorem answer_mends (request : LineRequest) (mends : Mends id address host calm) :
    Hosting.Alike (Mends id address) (answer id address request host)
      (answer id address request calm) := by
  cases request with
  | text prompt =>
      unfold answer readText
      refine Hosting.Alike.bind (Hosting.Alike.bind (readLine_mends mends _) ?_) ?_
      · exact fun _ _ _ here => ⟨rfl, here⟩
      · exact fun _ _ _ here => ⟨rfl, here⟩
  | bytes prompt =>
      unfold answer
      exact (readLine_mends mends _).bind fun _ _ _ here => ⟨rfl, here⟩
  | callback prompt =>
      have routedCalm : calm.bridgeAt? address = some id := by
        rcases mends with ⟨routed, bridge, log, found, positive, rfl⟩
        exact routed
      have called : Hosting.Alike (Mends id address) (inputCallback address prompt host)
          (inputCallback address prompt calm) := by
        unfold inputCallback
        rw [Hosting.alike_get_bind, mends.routed, routedCalm]
        exact (readLine_mends mends _).bind fun _ _ _ here => ⟨rfl, here⟩
      unfold answer
      exact called.bind fun _ _ _ here => ⟨rfl, here⟩

theorem mends_setBridge {bridge : Bridge} (found : host.bridges[id]? = some bridge)
    (routed : host.bridgeAt? address = some id) (positive : 0 < bridge.maxInput) :
    Mends id address host (host.setBridge id bridge.mended) :=
  ⟨routed, bridge, host.log, found, positive, rfl⟩

/-- Requests to a console come out as if its input ended where a read of it fails, and
as if the bytes that a fault loses were missing: with the same replies, the same output
on the console and the same break cells.  Where faults strike between two pieces only,
nothing is missing. -/
theorem faults_end_input (source : Source) (sink : Sink) (interactive exhausted : Bool)
    (config : ConsoleConfig) (hook : ExitHook) (cancel : Option Counter)
    (exitStatus : Option Int32) (hooked : List Int32)
    (found : host.bridges[id]? = some
      { Bridge.onStreams source sink interactive config hook with
        exhausted, cancel, exitStatus, hooked })
    (routed : host.bridgeAt? address = some id) (requests : List LineRequest) :
    Hosting.Alike (Mends id address) (requests.mapM (answer id address) host)
        (requests.mapM (answer id address) (host.setBridge id
          { Bridge.onStreams (source.mended (max config.maxInput 1)) sink interactive config
              hook with exhausted, cancel, exitStatus, hooked })) ∧
      (source.Spared (max config.maxInput 1) →
        Hosting.Alike (Mends id address) (requests.mapM (answer id address) host)
          (requests.mapM (answer id address) (host.setBridge id
            { Bridge.onStreams source.calmed sink interactive config hook with
              exhausted, cancel, exitStatus, hooked }))) := by
  have positive : 0 < max config.maxInput 1 := Nat.le_max_right _ _
  have alike := Hosting.alike_mapM (fun request _ _ here => answer_mends request here) requests
    (mends_setBridge found routed positive)
  refine ⟨alike, ?_⟩
  intro spared
  rw [← Source.mended_of_spared positive spared]
  exact alike

/-- A host with one console, and with one instance that has a break cell. -/
def consoleOf (interactive : Bool) (script : List ReadEvent) : Host Unit where
  engine := ()
  cells := #[some 0]
  registry := ⟨Memory.machine, 1, none, 1, 0, false, #[]⟩
  bridges := [{ Bridge.onStreams { script } {} interactive
    { maxInput := 2, shutdownSentence := "x" } .ignore with cancel := some ⟨0, 0⟩ }]
  routing := [⟨.at 0, 0⟩]

/-- A read that fails between two lines asks for a break, as an end of the input does. -/
theorem faults_end_input_between_lines :
    ∃ after calm,
      [.bytes [62], .callback none].mapM (answer 0 (.at 0)) (consoleOf true
          [.chunk [97, 10], .fault .deviceGone, .chunk [98], .interrupted, .chunk [99]]) =
        .ok [.bytes [97], .bytes [98, 99]] after ∧
      [.bytes [62], .callback none].mapM (answer 0 (.at 0)) (consoleOf true
          [.chunk [97, 10], .chunk [], .chunk [98], .interrupted, .chunk [99]]) =
        .ok [.bytes [97], .bytes [98, 99]] calm ∧
      after.cells = #[some 1] ∧ Mends 0 (.at 0) after calm := by
  have alike := (faults_end_input
    { script := [.chunk [97, 10], .fault .deviceGone, .chunk [98], .interrupted, .chunk [99]] } {}
    true false { maxInput := 2, shutdownSentence := "x" } .ignore (some ⟨0, 0⟩) none []
    (show (consoleOf true [.chunk [97, 10], .fault .deviceGone, .chunk [98], .interrupted,
      .chunk [99]]).bridges[0]? = some _ from rfl)
    (show (consoleOf true _).bridgeAt? (.at 0) = some 0 from rfl)
    [.bytes [62], .callback none]).2 ⟨rfl, trivial⟩
  exact ⟨_, _, rfl, rfl, rfl, alike.2⟩

/-- A read that fails in the middle of a line loses the bytes that came before it.  An
end of the input delivers them. -/
theorem fault_loses_piece :
    ∃ after calm,
      [.bytes []].mapM (answer 0 (.at 0)) (consoleOf false [.chunk [97], .fault .deviceGone]) =
        .ok [.bytes [120]] after ∧
      [.bytes []].mapM (answer 0 (.at 0)) (consoleOf false [.chunk [97], .chunk []]) =
        .ok [.bytes [97]] calm :=
  ⟨_, _, rfl, rfl⟩

end Host

end SessionHost
