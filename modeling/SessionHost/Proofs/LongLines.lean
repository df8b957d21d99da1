import Mathlib.Data.List.Basic
import Mathlib.Data.List.TakeWhile
import SessionHost.Proofs.Marks
import SessionHost.Proofs.ReadFaults

namespace SessionHost

/-!
# Lines that are longer than a request

A line that does not fit into one request is delivered in pieces.  Every piece but the
last one is as long as a request allows, and the last one ends with the line feed.  So
there are as many pieces as there have to be, and nothing behind the line is touched.

Joined together, the pieces are the line without its terminator, but for one case.  A
carriage return in front of the line feed is dropped from the piece that holds them both.
Where it is the last byte of a piece that is full, the line feed comes alone in the next
one, and the carriage return stays in the line.
-/

namespace Source

variable {limit : Nat} {body buffer stream : Bytes} {following : Stream' Mark}

/-! ## Cuts of a line -/

theorem cut_of_feedless (feedless : lineFeed ∉ buffer.take limit) (long : limit ≤ buffer.length) :
    cut limit buffer = ⟨buffer.take limit, buffer.drop limit, true⟩ := by
  induction limit generalizing buffer with
  | zero =>
      cases buffer with
      | nil => rfl
      | cons byte rest => rfl
  | succ limit inductionHypothesis =>
      cases buffer with
      | nil => cases long
      | cons byte rest =>
          rw [List.take_succ_cons, List.mem_cons, not_or] at feedless
          rw [cut, if_neg (Ne.symm feedless.1),
            inductionHypothesis feedless.2 (Nat.le_of_succ_le_succ long)]
          rfl

theorem cut_of_feed (feedless : lineFeed ∉ body) (room : body.length < limit) (rest : Bytes) :
    cut limit (body ++ lineFeed :: rest) = ⟨body ++ [lineFeed], rest, true⟩ := by
  induction body generalizing limit with
  | nil => exact cut_cons_of_last (.inl rfl) room rest
  | cons byte body inductionHypothesis =>
      rw [List.mem_cons, not_or] at feedless
      rw [List.length_cons] at room
      have more : ¬ (byte = lineFeed ∨ limit = 1) := by
        rintro (feed | one)
        · exact feedless.1 feed.symm
        · omega
      rw [List.cons_append, cut_cons_of_more more (by omega),
        inductionHypothesis feedless.2 (by omega)]
      rfl

theorem split_of_cut (positive : 0 < limit) (more : stream ≠ []) :
    split limit stream = (cut limit stream).taken :: split limit (cut limit stream).rest := by
  have behind : stream.drop (cut limit stream).taken.length = (cut limit stream).rest := by
    calc stream.drop (cut limit stream).taken.length
        = ((cut limit stream).taken ++ (cut limit stream).rest).drop
            (cut limit stream).taken.length := by rw [cut_append_rest]
      _ = (cut limit stream).rest := List.drop_left
  rw [split_of_piece (piece?_eq_cut positive more), behind]

theorem split_of_fitting (feedless : lineFeed ∉ body) (room : body.length < limit) :
    split limit (body ++ [lineFeed]) = [body ++ [lineFeed]] := by
  rw [split_of_cut (Nat.zero_lt_of_lt room) (by simp), cut_of_feed feedless room,
    split_of_end (piece?_nil limit)]

theorem split_of_longer (positive : 0 < limit) (feedless : lineFeed ∉ body)
    (long : limit ≤ body.length) :
    split limit (body ++ [lineFeed]) =
      body.take limit :: split limit (body.drop limit ++ [lineFeed]) := by
  have front : (body ++ [lineFeed]).take limit = body.take limit :=
    List.take_append_of_le_length long
  have cutting : cut limit (body ++ [lineFeed]) =
      ⟨body.take limit, body.drop limit ++ [lineFeed], true⟩ := by
    rw [cut_of_feedless, front, List.drop_append_of_le_length long]
    · rw [front]
      exact fun feed => feedless (List.mem_of_mem_take feed)
    · rw [List.length_append]
      omega
  rw [split_of_cut positive (by simp), cutting]

/-- There are as many pieces as there have to be. -/
theorem length_split (positive : 0 < limit) (feedless : lineFeed ∉ body) :
    (split limit (body ++ [lineFeed])).length = body.length / limit + 1 := by
  induction length : body.length using Nat.strongRecOn generalizing body with
  | ind size inductionHypothesis =>
      subst length
      by_cases long : limit ≤ body.length
      · have rest : (body.drop limit).length = body.length - limit := List.length_drop
        have shorter : body.length - limit < body.length := by omega
        have without : lineFeed ∉ body.drop limit :=
          fun feed => feedless (List.mem_of_mem_drop feed)
        rw [split_of_longer positive feedless long, List.length_cons,
          inductionHypothesis _ shorter without rest, Nat.div_eq_sub_div positive long]
      · have room : body.length < limit := by omega
        rw [split_of_fitting feedless room, Nat.div_eq_of_lt room]
        rfl

/-! ## The lines of pieces -/

theorem cutAtNul_of_clean (clean : body.hasNul = false) : body.cutAtNul = body := by
  rw [Bytes.cutAtNul, List.takeWhile_eq_self_iff]
  intro byte listed
  rw [Bytes.hasNul, List.any_eq_false] at clean
  simpa using clean byte listed

theorem lineOf_of_feedless (feedless : lineFeed ∉ body) (clean : body.hasNul = false) :
    lineOf body = body := by
  have last : body.getLast? ≠ some lineFeed :=
    fun feed => feedless (List.mem_of_getLast? feed)
  rw [lineOf, withoutTerminator, if_neg last, cutAtNul_of_clean clean]

theorem clean_of_subset {part whole : Bytes} (clean : whole.hasNul = false)
    (subset : part ⊆ whole) : part.hasNul = false := by
  rw [Bytes.hasNul, List.any_eq_false] at clean ⊢
  exact fun byte listed => clean byte (subset listed)

theorem lineOf_feed (clean : body.hasNul = false) :
    lineOf (body ++ [lineFeed]) =
      if body.getLast? = some carriageReturn then body.dropLast else body := by
  rw [lineOf, withoutTerminator, if_pos List.getLast?_concat, List.dropLast_concat]
  dsimp only
  split
  · exact cutAtNul_of_clean (clean_of_subset clean (List.dropLast_subset body))
  · exact cutAtNul_of_clean clean

/-- The pieces of a line make up what is in front of its line feed, but for a carriage
return that is in one piece with the line feed.  The induction is on the length, one full
piece at a time. -/
theorem flatten_lineOf_split (positive : 0 < limit) (feedless : lineFeed ∉ body)
    (clean : body.hasNul = false) :
    ((split limit (body ++ [lineFeed])).map lineOf).flatten =
      if body.getLast? = some carriageReturn ∧ ¬ limit ∣ body.length then body.dropLast
      else body := by
  induction length : body.length using Nat.strongRecOn generalizing body with
  | ind size inductionHypothesis =>
      subst length
      by_cases long : limit ≤ body.length
      · have rest : (body.drop limit).length = body.length - limit := List.length_drop
        have front : lineFeed ∉ body.take limit := fun feed => feedless (List.mem_of_mem_take feed)
        have behind : lineFeed ∉ body.drop limit :=
          fun feed => feedless (List.mem_of_mem_drop feed)
        have divides : limit ∣ body.length ↔ limit ∣ body.length - limit := by
          have whole : body.length = limit + (body.length - limit) := by omega
          conv => lhs; rw [whole]
          exact Nat.dvd_add_right (Nat.dvd_refl limit)
        -- a rest that is empty belongs to a length that the limit divides
        have same : (body.drop limit).getLast? = some carriageReturn ∧
              ¬ limit ∣ body.length - limit ↔
            body.getLast? = some carriageReturn ∧ ¬ limit ∣ body.length := by
          rw [List.getLast?_drop, ← divides]
          split
          · next short =>
              have equal : body.length = limit := Nat.le_antisymm short long
              simp [equal]
          · exact Iff.rfl
        rw [split_of_longer positive feedless long, List.map_cons, List.flatten_cons,
          lineOf_of_feedless front (clean_of_subset clean (List.take_subset limit body)),
          inductionHypothesis _ (by omega) behind
            (clean_of_subset clean (List.drop_subset limit body)) rest,
          if_congr same rfl rfl]
        split
        · next returned =>
            have some : body.drop limit ≠ [] := by
              intro nothing
              have last := (same.mpr returned).1
              rw [nothing] at last
              cases last
            rw [← List.dropLast_append_of_ne_nil some, List.take_append_drop]
        · exact List.take_append_drop limit body
      · have room : body.length < limit := by omega
        rw [split_of_fitting feedless room, List.map_singleton, List.flatten_singleton,
          lineOf_feed clean]
        refine if_congr ⟨fun last => ⟨last, fun divides => ?_⟩, And.left⟩ rfl rfl
        have none := List.eq_nil_of_length_eq_zero (Nat.eq_zero_of_dvd_of_lt divides room)
        rw [none] at last
        cases last

/-! ## Requests for a line -/

/-- A request takes the first piece of bytes that end with a line feed, whatever follows. -/
theorem readLine_of_stream {source : Source} (positive : 0 < limit)
    (terminated : stream.getLast? = some lineFeed)
    (input : source.marks = stream.map .byte ++ₛ following) :
    ∃ after, source.readLine limit = (.line (lineOf (cut limit stream).taken), after) ∧
      after.marks = (cut limit stream).rest.map .byte ++ₛ following := by
  rcases List.getLast?_eq_some_iff.mp terminated with ⟨body, rfl⟩
  have complete := complete_of_feed positive body
  have taken := gatherMarks_marks limit source
  rw [input, gatherMarks_of_complete complete] at taken
  rcases gathered : source.gather limit with ⟨piece, after⟩
  rw [gathered, Prod.mk.injEq] at taken
  rcases taken with ⟨rfl, rest⟩
  refine ⟨after, ?_, rest.symm⟩
  rw [readLine, gathered]
  dsimp only
  rw [readingOf_of_some (room_of_complete limit positive complete).2.2]

/-- What a piece leaves of bytes that end with a line feed ends with it too. -/
theorem terminated_rest (terminated : stream.getLast? = some lineFeed) (limit : Nat) :
    (cut limit stream).rest = [] ∨ (cut limit stream).rest.getLast? = some lineFeed := by
  by_cases nothing : (cut limit stream).rest = []
  · exact .inl nothing
  · rw [← cut_append_rest limit stream, List.getLast?_append_of_ne_nil _ nothing] at terminated
    exact .inr terminated

end Source

namespace Host

open Source (split lineOf)

variable {σ : Type} {host : Host σ} {id : BridgeId} {address : Address} {bridge : Bridge}
  {following : Stream' Mark}

theorem setBridge_say (host : Host σ) (id : BridgeId) (first second : Bridge)
    (earlier later : List Log.Record) :
    ((((host.setBridge id first).say earlier).setBridge id second).say later) =
      (host.setBridge id second).say (earlier ++ later) := by
  have bridges : (host.bridges.set id first).set id second = host.bridges.set id second :=
    List.set_set ..
  have log : later.reverse ++ (earlier.reverse ++ host.log) =
      (earlier ++ later).reverse ++ host.log := by
    rw [List.reverse_append, List.append_assoc]
  simp only [setBridge, say, bridges, log]

/-- Requests are answered with the pieces of bytes that end with a line feed, as many as
there are.  The induction is on the requests, and what carries it is that the rest of the
bytes has the rest of the pieces. -/
theorem answers_of_stream (found : host.bridges[id]? = some bridge)
    (routed : host.bridgeAt? address = some id) (unlatched : bridge.exhausted = false)
    (positive : 0 < bridge.maxInput) {stream : Bytes}
    (terminated : stream = [] ∨ stream.getLast? = some lineFeed)
    (input : bridge.source.marks = stream.map .byte ++ₛ following) {requests : List LineRequest}
    (count : requests.length = (split bridge.maxInput stream).length) :
    ∃ after records, after.marks = following ∧
      requests.mapM (answer id address) host =
        .ok (requests.zipWith LineRequest.reply ((split bridge.maxInput stream).map lineOf))
          ((host.setBridge id
            { bridge with
              source := after, sink := bridge.sink.putAll (requests.map (·.prompt)) }).say
            records) := by
  induction requests generalizing host bridge stream with
  | nil =>
      have nothing : stream = [] := by
        by_contra more
        rw [Source.split_of_cut positive more] at count
        cases count
      subst nothing
      refine ⟨bridge.source, [], input, ?_⟩
      have same : host.setBridge id bridge = host := setBridge_self found
      exact congrArg (EStateM.Result.ok []) same.symm
  | cons request rest inductionHypothesis =>
      have more : stream ≠ [] := by
        rintro rfl
        rw [Source.split_of_end (Source.piece?_nil _)] at count
        cases count
      have ends := terminated.resolve_left more
      rcases Source.readLine_of_stream positive ends input with ⟨after, reading, left⟩
      rcases Bridge.nextLine_of_line unlatched reading request.prompt with ⟨log, turn⟩
      have answered := answer_of_turn found routed request turn (Bytes.hasNul_cutAtNul _)
      rw [Source.split_of_cut positive more] at count ⊢
      have foundNext : ((host.setBridge id { (bridge.say request.prompt).1 with source := after
          }).say log).bridges[id]? = some { (bridge.say request.prompt).1 with source := after } :=
        getElem?_setBridge found _
      rcases inductionHypothesis foundNext routed unlatched positive
          (Source.terminated_rest ends _) left (Nat.succ.inj count) with
        ⟨last, records, consumed, later⟩
      refine ⟨last, log ++ records, consumed, ?_⟩
      rw [mapM_cons_of_ok answered later, setBridge_say]
      rfl

/-- What stands behind the text of a line. -/
inductive Terminator where
  | feed
  | returnAndFeed

namespace Terminator

def bytes : Terminator → Bytes
  | feed => [lineFeed]
  | returnAndFeed => [carriageReturn, lineFeed]

/-- What stays of a terminator when a line is read in pieces: the carriage return, where it
fills up a piece and the line feed has to come in the next one. -/
def stray (limit : Nat) (text : Bytes) : Terminator → Bytes
  | feed => []
  | returnAndFeed => if limit ∣ text.length + 1 then [carriageReturn] else []

end Terminator

/-- The text of one line, which an engine can be given as it is. -/
structure IsText (text : Bytes) : Prop where
  feedless : lineFeed ∉ text
  clean : text.hasNul = false
  unreturned : text.getLast? ≠ some carriageReturn

/-- A line has a line feed as its last byte only, and its pieces make up its text. -/
theorem flatten_pieces {limit : Nat} (positive : 0 < limit) {text : Bytes} (isText : IsText text)
    (terminator : Terminator) :
    ∃ body, text ++ terminator.bytes = body ++ [lineFeed] ∧ lineFeed ∉ body ∧
      body.length = text.length + terminator.bytes.length - 1 ∧
      ((split limit (text ++ terminator.bytes)).map lineOf).flatten =
        text ++ terminator.stray limit text := by
  cases terminator with
  | feed =>
      refine ⟨text, rfl, isText.feedless, rfl, ?_⟩
      rw [Terminator.bytes, Source.flatten_lineOf_split positive isText.feedless isText.clean,
        if_neg (fun both => isText.unreturned both.1)]
      exact (List.append_nil text).symm
  | returnAndFeed =>
      have whole : text ++ Terminator.returnAndFeed.bytes =
          (text ++ [carriageReturn]) ++ [lineFeed] := by
        rw [List.append_assoc]
        rfl
      have feedless : lineFeed ∉ text ++ [carriageReturn] := by
        rw [List.mem_append, not_or]
        exact ⟨isText.feedless, by decide⟩
      have clean : Bytes.hasNul (text ++ [carriageReturn]) = false := by
        rw [Bytes.hasNul, List.any_append, Bool.or_eq_false_iff]
        exact ⟨isText.clean, rfl⟩
      have length : (text ++ [carriageReturn]).length = text.length + 1 := List.length_append
      refine ⟨text ++ [carriageReturn], whole, feedless, length, ?_⟩
      rw [whole, Source.flatten_lineOf_split positive feedless clean, length, Terminator.stray,
        List.getLast?_concat, List.dropLast_concat]
      by_cases divides : limit ∣ text.length + 1
      · rw [if_neg (fun both => both.2 divides), if_pos divides]
      · rw [if_pos ⟨rfl, divides⟩, if_neg divides, List.append_nil]

/-- A line is delivered in as many pieces as it takes, to requests of whatever kind, and
what follows the line is left for later requests.  The pieces make up the text of the line,
with nothing of its terminator but a carriage return that was the last byte of a full
piece. -/
theorem long_line_pieces (source : Source) (sink : Sink) (interactive : Bool)
    (config : ConsoleConfig) (hook : ExitHook) (cancel : Option Counter)
    (exitStatus : Option Int32) (hooked : List Int32)
    (found : host.bridges[id]? = some
      { Bridge.onStreams source sink interactive config hook with cancel, exitStatus, hooked })
    (routed : host.bridgeAt? address = some id) {text : Bytes} (isText : IsText text)
    (terminator : Terminator)
    (input : source.marks = (text ++ terminator.bytes).map .byte ++ₛ following) :
    ∃ lines : List Bytes,
      lines.flatten = text ++ terminator.stray (max config.maxInput 1) text ∧
      lines.length =
        (text.length + terminator.bytes.length - 1) / max config.maxInput 1 + 1 ∧
      ∀ requests : List LineRequest, requests.length = lines.length →
        ∃ after records, after.marks = following ∧
          requests.mapM (answer id address) host =
            .ok (requests.zipWith LineRequest.reply lines)
              ((host.setBridge id
                { Bridge.onStreams after (sink.putAll (requests.map (·.prompt))) interactive config
                    hook with cancel, exitStatus, hooked }).say records) := by
  have positive : 0 < max config.maxInput 1 := Nat.le_max_right _ _
  rcases flatten_pieces positive isText terminator with
    ⟨body, whole, feedless, length, flatten⟩
  refine ⟨_, flatten, ?_, ?_⟩
  · rw [List.length_map, whole, Source.length_split positive feedless, length]
  · intro requests count
    have terminated : (text ++ terminator.bytes).getLast? = some lineFeed := by
      rw [whole]
      exact List.getLast?_concat
    rw [List.length_map] at count
    exact answers_of_stream found routed rfl positive (.inr terminated) input count

/-- Two requests for a line that came in three reads.  The piece that is full holds the
text, and the other one holds the terminator. -/
theorem long_line_pieces_of_two_requests :
    ∃ lines : List Bytes, lines.flatten = [97, 98] ∧ lines.length = 2 ∧
      ∃ after records, after.marks = [99].map .byte ++ₛ .const .ended ∧
        [.bytes [62], .callback none].mapM (answer 0 (.at 0))
            (consoleOf false [.chunk [97], .interrupted, .chunk [98, 13], .chunk [10, 99]]) =
          .ok ([.bytes [62], .callback none].zipWith LineRequest.reply lines)
            (((consoleOf false [.chunk [97], .interrupted, .chunk [98, 13],
              .chunk [10, 99]]).setBridge 0
              { Bridge.onStreams after (Sink.putAll {} [[62], []]) false
                  { maxInput := 2, shutdownSentence := "x" } .ignore with
                cancel := some ⟨0, 0⟩ }).say records) := by
  have isText : IsText [97, 98] := ⟨by decide, by decide, by decide⟩
  have input : Source.marks { script := [.chunk [97], .interrupted, .chunk [98, 13],
      .chunk [10, 99]] } = ([97, 98] ++ Terminator.returnAndFeed.bytes).map .byte ++ₛ
        ([99].map .byte ++ₛ .const .ended) := rfl
  rcases long_line_pieces
    { script := [.chunk [97], .interrupted, .chunk [98, 13], .chunk [10, 99]] } {} false
    { maxInput := 2, shutdownSentence := "x" } .ignore (some ⟨0, 0⟩) none []
    (show (consoleOf false [.chunk [97], .interrupted, .chunk [98, 13],
      .chunk [10, 99]]).bridges[0]? = some _ from rfl)
    (show (consoleOf false _).bridgeAt? (.at 0) = some 0 from rfl) isText .returnAndFeed input with
    ⟨lines, flatten, length, pieces⟩
  exact ⟨lines, flatten, length, pieces _ length.symm⟩

/-- A line whose carriage return is the last byte of a full piece.  However many requests
read up to the end of the line, their results do not make up its text. -/
theorem carriage_return_stays_in_line :
    ¬ ∃ (prompts lines : List Bytes) (after : Host Unit),
      (prompts.map LineRequest.bytes).mapM (answer 0 (.at 0))
          (consoleOf false [.chunk [97, 13, 10, 98, 10]]) =
        .ok (lines.map LineRequest.Reply.bytes) after ∧
      after.bridges.map (·.source.marks) = [[98, 10].map .byte ++ₛ .const .ended] ∧
      lines.flatten = [97] := by
  rintro ⟨prompts, lines, after, answered, consumed, flatten⟩
  cases prompts with
  | nil =>
      injection answered with _ same
      subst same
      have first := congrArg (List.map Stream'.head) consumed
      cases first
  | cons prompt rest =>
      have first : ∃ middle, answer 0 (.at 0) (.bytes prompt)
          (consoleOf false [.chunk [97, 13, 10, 98, 10]]) = .ok (.bytes [97, 13]) middle :=
        ⟨_, rfl⟩
      rcases first with ⟨middle, first⟩
      rw [List.map_cons, List.mapM_cons] at answered
      rcases Hosting.bind_eq_ok answered with ⟨reply, _, replied, later⟩
      rcases Hosting.bind_eq_ok later with ⟨replies, _, _, given⟩
      rw [first] at replied
      cases replied
      injection given with given _
      cases lines with
      | nil => cases given
      | cons line lines =>
          injection given with same _
          injection same with same
          rw [← same] at flatten
          cases flatten

end Host

end SessionHost
