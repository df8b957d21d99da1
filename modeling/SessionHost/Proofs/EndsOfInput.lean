import SessionHost.Proofs.Marks
import SessionHost.Proofs.ReadFaults

namespace SessionHost

/-!
# Ends of input at a terminal

Whoever sits at a console can end its input and go on typing.  What such an end means
depends on where it stands.  Between two pieces it asks the bound session for a break; in
the middle of a piece it delivers what has been typed so far, and asks for nothing.  A
piece that has just become as long as a request allows is over, so an end right behind it
stands between two pieces.

The main statement gives the answer to a request, what is written to the console for it,
and how often a break is asked for, as long as there is still a byte to come.
-/

namespace Source

variable {limit : Nat} {source : Source}

/-- Behind a number of ends of the input comes a piece, and behind the piece what another
source has to say. -/
structure NextPiece (limit : Nat) (source : Source) (ends : Nat) (piece : Bytes)
    (after : Source) : Prop where
  some : piece ≠ []
  isPiece : IsPiece limit piece
  marks : source.marks =
    (.replicate ends .ended ++ piece.map .byte ++ closing limit piece) ++ₛ after.marks
  script : after.script <:+ source.script

theorem NextPiece.ended {next after : Source} {ends : Nat} {piece : Bytes}
    (later : NextPiece limit next ends piece after)
    (ended : source.marks = .cons .ended next.marks) (script : next.script <:+ source.script) :
    NextPiece limit source (ends + 1) piece after where
  some := later.some
  isPiece := later.isPiece
  marks := by
    rw [ended, later.marks, List.replicate_succ]
    rfl
  script := later.script.trans script

/-- A request finds a line, an end of the input or a fault, and each of them is what the
source has to say next. -/
theorem readLine_cases (positive : 0 < limit) (source : Source) :
    (∃ piece after, source.readLine limit = (.line (lineOf piece), after) ∧
        NextPiece limit source 0 piece after) ∨
      (∃ after, source.readLine limit = (.ended, after) ∧
        source.marks = .cons .ended after.marks ∧ after.script <:+ source.script ∧
        ∀ value, .byte value ∈ source.marks → after.script.length < source.script.length) ∨
      ∃ cause after, source.readLine limit = (.failed cause, after) ∧
        .fault cause ∈ source.script := by
  have gathers := gathers_gather limit source
  have marks := gatherMarks_marks limit source
  rcases found : source.gather limit with ⟨gathered, after⟩
  rw [found] at gathers marks
  rw [readLine, found]
  cases gathered with
  | failed cause => exact .inr (.inr ⟨cause, after, rfl, fault_mem_of_gathers gathers rfl⟩)
  | bytes piece =>
      rcases eq_piece_of_gatherMarks marks with ⟨isPiece, same⟩
      have script := script_of_gathers gathers
      cases piece with
      | nil =>
          have unfinished : closing limit [] = [.ended] := if_neg (by simp; omega)
          rw [unfinished] at same
          exact .inr (.inl ⟨after, rfl, same, script, fun value =>
            shorter_of_gathers gathers positive rfl⟩)
      | cons byte rest =>
          exact .inl ⟨byte :: rest, after, rfl, by simp, isPiece, same, script⟩

end Source

namespace Bridge

open Source (NextPiece lineOf)

/-- Reading goes on behind an end of the input until a piece comes.  The induction is on
the attempts that are left, and there is one for each event of the script. -/
theorem Waiting.await_of_byte {waiting : Waiting} (interactive : waiting.bridge.interactive = true)
    (positive : 0 < waiting.bridge.maxInput)
    (faultless : ∀ cause, .fault cause ∉ waiting.bridge.source.script) {value : UInt8}
    (more : .byte value ∈ waiting.bridge.source.marks) {attempts : Nat}
    (enough : waiting.bridge.source.script.length < attempts) :
    ∃ ends piece after log,
      NextPiece waiting.bridge.maxInput waiting.bridge.source ends piece after ∧
      waiting.await attempts =
        ⟨{ waiting.bridge with
            source := after, sink := waiting.bridge.sink.putAll (.replicate ends [lineFeed]) },
          some (lineOf piece), waiting.cell.map (· + .ofNat ends), log⟩ := by
  induction attempts generalizing waiting with
  | zero => exact absurd enough (Nat.not_lt_zero _)
  | succ attempts inductionHypothesis =>
      rw [await_succ, attempt]
      rcases Source.readLine_cases positive waiting.bridge.source with
        ⟨piece, after, reading, next⟩ | ⟨after, reading, ended, script, shorter⟩ |
          ⟨cause, after, _, isFault⟩
      · rw [reading]
        refine ⟨0, piece, after, waiting.log.reverse, next, ?_⟩
        rw [map_add_zero]
        rfl
      · -- the request goes on behind the end, and the script has become shorter
        let read : Waiting := { waiting with bridge := { waiting.bridge with source := after } }
        have bridge : read.breakOff.bridge =
            { waiting.bridge with
              source := after, sink := (waiting.bridge.sink.put [lineFeed]).2 } :=
          breakOff_bridge read
        have cell : read.breakOff.cell = waiting.cell.map (· + .ofNat 1) := breakOff_cell read
        have behind : .byte value ∈ after.marks := by
          rw [ended] at more
          exact (Stream'.eq_or_mem_of_mem_cons more).resolve_left (by simp)
        have still (cause : ReadFault) : .fault cause ∉ after.script :=
          fun listed => faultless cause (script.mem listed)
        have onward := @inductionHypothesis read.breakOff
        rw [bridge, cell] at onward
        rcases onward interactive positive still behind
            (Nat.lt_of_lt_of_le (shorter value more) (Nat.le_of_lt_succ enough)) with
          ⟨ends, piece, last, log, next, awaited⟩
        refine ⟨ends + 1, piece, last, log, next.ended ended script, ?_⟩
        rw [reading]
        dsimp only
        rw [Waiting.ended, if_pos interactive]
        refine Eq.trans awaited ?_
        rw [map_add_add, Nat.add_comm 1 ends]
        rfl
      · exact absurd isFault (faultless cause)

/-- A request at which somebody sits gets the next piece, for one prompt and one line feed
for each end of the input in front of the piece. -/
theorem nextLine_of_byte {bridge : Bridge} (interactive : bridge.interactive = true)
    (unlatched : bridge.exhausted = false) (positive : 0 < bridge.maxInput)
    (faultless : ∀ cause, .fault cause ∉ bridge.source.script) {value : UInt8}
    (more : .byte value ∈ bridge.source.marks) (prompt : Bytes) (cell : Option UInt8) :
    ∃ ends piece after log, NextPiece bridge.maxInput bridge.source ends piece after ∧
      bridge.nextLine prompt cell =
        ⟨{ bridge with
            source := after, sink := bridge.sink.putAll (prompt :: .replicate ends [lineFeed]) },
          some (lineOf piece), cell.map (· + .ofNat ends), log⟩ := by
  have prompted : (bridge.say prompt).1 = { bridge with sink := (bridge.sink.put prompt).2 } := rfl
  rw [nextLine, if_neg (by simp [unlatched])]
  dsimp only
  rw [prompted]
  exact @Waiting.await_of_byte ⟨{ bridge with sink := (bridge.sink.put prompt).2 }, cell, _⟩
    interactive positive faultless value more _ (Nat.lt_succ_self _)

end Bridge

namespace Host

open Source (NextPiece lineOf)

variable {σ : Type} {host : Host σ} {id : BridgeId} {address : Address}

/-- The cells after so many requests for a break to the instance of a bound counter. -/
def cellsAfter (host : Host σ) (cancel : Option Counter) (requests : Nat) :
    Array (Option UInt8) :=
  match cancel with
  | none => host.cells
  | some counter => host.cells.modify counter.handle (·.map (· + .ofNat requests))

/-- What a request leaves behind that added to the cell of the bound counter. -/
theorem afterTurn_of_added (host : Host σ) (id : BridgeId) (cancel : Option Counter)
    (after : Bridge) (line : Option Bytes) (requests : Nat) (log : List Log.Record) :
    host.afterTurn id cancel ⟨after, line,
        (cancel.bind fun counter => host.cell? counter.handle).map (· + .ofNat requests), log⟩ =
      { host with
        bridges := host.bridges.set id after
        cells := host.cellsAfter cancel requests
        log := log.reverse ++ host.log } := by
  cases cancel with
  | none => rfl
  | some counter =>
      cases celled : host.cell? counter.handle with
      | none =>
          simp only [afterTurn, cellsAfter, Option.bind_some, celled, modify_of_bare celled]
          rfl
      | some value =>
          simp only [afterTurn, cellsAfter, Option.bind_some, celled, modify_of_celled celled]
          rfl

/-- A request at a console at which somebody sits is answered with the next piece of the
bytes that follow.  For each end of the input in front of the piece it writes a line feed
behind its prompt, and adds one to the cell of the bound counter.  An end of the input
behind the first byte of the piece only ends the piece.  The console stays as it was, and
nothing else changes but the log. -/
theorem ends_of_input_break (source : Source) (sink : Sink) (config : ConsoleConfig)
    (hook : ExitHook) (cancel : Option Counter) (exitStatus : Option Int32) (hooked : List Int32)
    (found : host.bridges[id]? = some
      { Bridge.onStreams source sink true config hook with cancel, exitStatus, hooked })
    (routed : host.bridgeAt? address = some id)
    (faultless : ∀ cause, .fault cause ∉ source.script) {value : UInt8}
    (more : .byte value ∈ source.marks) (request : LineRequest) :
    ∃ ends piece after written records,
      source.NextPiece (max config.maxInput 1) ends piece after ∧
      written = sink.putAll (request.prompt :: .replicate ends [lineFeed]) ∧
      (sink.Boundless →
        written.contents = sink.contents ++ request.prompt ++ .replicate ends lineFeed) ∧
      answer id address request host = .ok (request.reply (lineOf piece))
        { host with
          bridges := host.bridges.set id
            { Bridge.onStreams after written true config hook with cancel, exitStatus, hooked }
          cells := host.cellsAfter cancel ends
          log := records ++ host.log } := by
  have positive : 0 < max config.maxInput 1 := Nat.le_max_right _ _
  rcases @Bridge.nextLine_of_byte
      { Bridge.onStreams source sink true config hook with cancel, exitStatus, hooked }
      rfl rfl positive faultless value more request.prompt
      (cancel.bind fun counter => host.cell? counter.handle) with
    ⟨ends, piece, after, log, next, turn⟩
  refine ⟨ends, piece, after, _, log.reverse, next, rfl, ?_, ?_⟩
  · intro boundless
    rw [boundless.putAll, List.flatten_cons, List.append_assoc]
    simp [List.flatten_replicate_singleton]
  · have read := readLine_eq_afterTurn found turn
    rw [afterTurn_of_added] at read
    exact answer_of_read routed read (Bytes.hasNul_cutAtNul _)

/-- Two ends of the input around a piece that is as long as a request allows.  The first
one asks for a break, and the second one is left to the next request. -/
theorem ends_of_input_break_around_full_piece :
    ∃ ends piece after last,
      NextPiece 2 { script := [.chunk [], .chunk [97, 98], .chunk [], .chunk [99]] }
        ends piece after ∧
      lineOf piece = [97, 98] ∧
      answer 0 (.at 0) (.bytes [62])
          (consoleOf true [.chunk [], .chunk [97, 98], .chunk [], .chunk [99]]) =
        .ok (.bytes [97, 98]) last ∧
      last.cells = #[some 1] ∧ last.bridges.map (·.sink.contents) = [[62, 10]] := by
  have faultless (cause : ReadFault) : ReadEvent.fault cause ∉
      [.chunk [], .chunk [97, 98], .chunk [], .chunk [99]] := by simp
  have more : Mark.byte 97 ∈ Source.marks
      { script := [.chunk [], .chunk [97, 98], .chunk [], .chunk [99]] } := ⟨1, rfl⟩
  rcases ends_of_input_break
    { script := [.chunk [], .chunk [97, 98], .chunk [], .chunk [99]] } {}
    { maxInput := 2, shutdownSentence := "x" } .ignore (some ⟨0, 0⟩) none []
    (show (consoleOf true [.chunk [], .chunk [97, 98], .chunk [], .chunk [99]]).bridges[0]? =
      some _ from rfl)
    (show (consoleOf true _).bridgeAt? (.at 0) = some 0 from rfl) faultless more
    (.bytes [62]) with
    ⟨ends, piece, after, written, records, next, _, _, answered⟩
  obtain ⟨last, computed, cells, shown⟩ : ∃ last, answer 0 (.at 0) (.bytes [62])
      (consoleOf true [.chunk [], .chunk [97, 98], .chunk [], .chunk [99]]) =
        .ok (.bytes [97, 98]) last ∧
      last.cells = #[some 1] ∧ last.bridges.map (·.sink.contents) = [[62, 10]] :=
    ⟨_, rfl, rfl, rfl⟩
  have line : lineOf piece = [97, 98] := by
    rw [computed] at answered
    injection answered with same
    injection same with same
    exact same.symm
  exact ⟨ends, piece, after, last, next, line, computed, cells, shown⟩

end Host

end SessionHost
