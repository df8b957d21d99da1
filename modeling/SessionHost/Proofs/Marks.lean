import Mathlib.Data.Stream.Init
import SessionHost.Proofs.Mending

namespace SessionHost

/-!
# What a source has to say

A source holds some bytes in its buffer and others in its script, and behind the script
there is a tail that never stops.  A request does not see these borders.  To it a source
is one stream without an end, and each mark in the stream is a byte, an end of the input
or a fault.  How the bytes were cut into reads, and which reads were interrupted, has
left no mark.

A request is read off this stream alone here: it takes the bytes of one piece, and with
them the end of the input that cut the piece short.  The main statement says that a
request to a source takes just that, and leaves a source whose stream is the rest.
-/

/-- One thing that a device has to say. -/
inductive Mark where
  | byte (value : UInt8)
  /-- The input ends here, for now. -/
  | ended
  | failed (cause : ReadFault)
deriving DecidableEq, Repr

def ReadEvent.marks : ReadEvent → List Mark
  | chunk [] => [.ended]
  | chunk bytes => bytes.map .byte
  | interrupted => []
  | fault cause => [.failed cause]

def Tail.marks : Tail → Stream' Mark
  | closed => .const .ended
  | repeating line => .cycle ((line ++ [lineFeed]).map .byte) (by simp)

namespace Source

/-- What is still to come from a device. -/
def pending (tail : Tail) (script : List ReadEvent) : Stream' Mark :=
  script.flatMap ReadEvent.marks ++ₛ tail.marks

/-- What is still to come from a source. -/
def marks (source : Source) : Stream' Mark :=
  source.buffer.map .byte ++ₛ pending source.tail source.script

/-- One request for at most `limit` bytes, of a stream. -/
def gatherMarks : (limit : Nat) → Stream' Mark → Gathered × Stream' Mark
  | 0, marks => (.bytes [], marks)
  | limit + 1, marks => match marks.head with
    | .ended => (.bytes [], marks.tail)
    | .failed cause => (.failed cause, marks.tail)
    | .byte value =>
      if value = lineFeed then (.bytes [value], marks.tail)
      else ((gatherMarks limit marks.tail).1.behind [value], (gatherMarks limit marks.tail).2)

variable {limit left : Nat} {buffer taken : Bytes} {script : List ReadEvent} {tail : Tail}
  {cause : ReadFault} {following after : Stream' Mark}

/-! ## Requests of a stream -/

theorem behind_nil (gathered : Gathered) : gathered.behind [] = gathered := by
  cases gathered with
  | bytes taken => rfl
  | failed cause => rfl

theorem behind_behind (first second : Bytes) (gathered : Gathered) :
    (gathered.behind second).behind first = gathered.behind (first ++ second) := by
  cases gathered with
  | bytes taken => exact congrArg Gathered.bytes (List.append_assoc first second taken).symm
  | failed cause => rfl

theorem gatherMarks_ended (here : 0 < left) (following : Stream' Mark) :
    gatherMarks left (.cons .ended following) = (.bytes [], following) := by
  cases left with
  | zero => cases here
  | succ left => rfl

theorem gatherMarks_failed (here : 0 < left) (cause : ReadFault) (following : Stream' Mark) :
    gatherMarks left (.cons (.failed cause) following) = (.failed cause, following) := by
  cases left with
  | zero => cases here
  | succ left => rfl

theorem gatherMarks_feed (limit : Nat) (following : Stream' Mark) :
    gatherMarks (limit + 1) (.cons (.byte lineFeed) following) =
      (.bytes [lineFeed], following) :=
  rfl

theorem gatherMarks_cons (limit : Nat) {value : UInt8} (different : value ≠ lineFeed)
    (following : Stream' Mark) :
    gatherMarks (limit + 1) (.cons (.byte value) following) =
      ((gatherMarks limit following).1.behind [value], (gatherMarks limit following).2) := by
  rw [gatherMarks, Stream'.head_cons, Stream'.tail_cons]
  exact if_neg different

/-- Bytes that complete a request are cut. -/
theorem gatherMarks_of_complete (complete : (cut limit buffer).complete = true)
    (following : Stream' Mark) :
    gatherMarks limit (buffer.map .byte ++ₛ following) =
      (.bytes (cut limit buffer).taken, (cut limit buffer).rest.map .byte ++ₛ following) := by
  induction buffer generalizing limit with
  | nil =>
      cases limit with
      | zero => rfl
      | succ limit => cases complete
  | cons value buffer inductionHypothesis =>
      cases limit with
      | zero => rfl
      | succ limit =>
          rw [List.map_cons, Stream'.cons_append_stream]
          unfold cut at complete ⊢
          split
          · next feed =>
              subst feed
              exact gatherMarks_feed limit _
          · next different =>
              rw [if_neg different] at complete
              rw [gatherMarks_cons limit different, inductionHypothesis complete]
              rfl

/-- Bytes that do not complete a request are taken, and it goes on behind them. -/
theorem gatherMarks_of_incomplete (incomplete : (cut limit buffer).complete = false)
    (following : Stream' Mark) :
    gatherMarks limit (buffer.map .byte ++ₛ following) =
      ((gatherMarks (limit - buffer.length) following).1.behind buffer,
        (gatherMarks (limit - buffer.length) following).2) := by
  induction buffer generalizing limit with
  | nil => exact Prod.ext (behind_nil _).symm rfl
  | cons value buffer inductionHypothesis =>
      cases limit with
      | zero => cases incomplete
      | succ limit =>
          rw [cut] at incomplete
          split at incomplete
          · cases incomplete
          · next different =>
              rw [List.map_cons, Stream'.cons_append_stream, gatherMarks_cons limit different,
                inductionHypothesis incomplete, behind_behind, List.length_cons,
                Nat.add_sub_add_right]
              rfl

/-! ## Requests to a source -/

/-- How a request comes to its end, read by read. -/
inductive Gathers (tail : Tail) :
    List ReadEvent → (left : Nat) → (buffer : Bytes) → Gathered → Source → Prop where
  | complete {script : List ReadEvent} {left : Nat} {buffer : Bytes} (reads : Nat)
      (complete : (cut left buffer).complete = true) :
      Gathers tail script left buffer (.bytes (cut left buffer).taken)
        ⟨(cut left buffer).rest, script, tail, reads⟩
  | closed {left : Nat} {buffer : Bytes} (reads : Nat)
      (incomplete : (cut left buffer).complete = false) (isClosed : tail = .closed) :
      Gathers tail [] left buffer (.bytes buffer) ⟨[], [], tail, reads⟩
  | ended {script : List ReadEvent} {left : Nat} {buffer : Bytes} (reads : Nat)
      (incomplete : (cut left buffer).complete = false) :
      Gathers tail (.chunk [] :: script) left buffer (.bytes buffer) ⟨[], script, tail, reads⟩
  | failed {cause : ReadFault} {script : List ReadEvent} {left : Nat} {buffer : Bytes}
      (reads : Nat) (incomplete : (cut left buffer).complete = false) :
      Gathers tail (.fault cause :: script) left buffer (.failed cause) ⟨[], script, tail, reads⟩
  | onward {event : ReadEvent} {script : List ReadEvent} {bytes : Bytes} {left : Nat}
      {buffer : Bytes} {gathered : Gathered} {after : Source}
      (incomplete : (cut left buffer).complete = false) (brings : ReadsOn event bytes)
      (later : Gathers tail script (left - buffer.length) bytes gathered after) :
      Gathers tail (event :: script) left buffer (gathered.behind buffer) after
  | again {line : Bytes} {left : Nat} {buffer : Bytes} {gathered : Gathered} {after : Source}
      (incomplete : (cut left buffer).complete = false) (repeats : tail = .repeating line)
      (later : Gathers tail [] (left - buffer.length) (line ++ [lineFeed]) gathered after) :
      Gathers tail [] left buffer (gathered.behind buffer) after

/-- Behind a piece that is under way there is room for more. -/
theorem room_left (incomplete : (cut left buffer).complete = false) :
    0 < left - buffer.length := by
  cases left with
  | zero => cases incomplete
  | succ left =>
      exact Nat.sub_pos_of_lt (room_of_incomplete 0 (Nat.succ_pos left) incomplete).2.2

/-- A line feed completes a request that has room for it. -/
theorem complete_of_feed (here : 0 < left) (line : Bytes) :
    (cut left (line ++ [lineFeed])).complete = true := by
  induction line generalizing left with
  | nil => rw [List.nil_append, cut_cons_of_last (.inl rfl) here]
  | cons byte line inductionHypothesis =>
      rw [List.cons_append]
      by_cases last : byte = lineFeed ∨ left = 1
      · rw [cut_cons_of_last last here]
      · rw [cut_cons_of_more last here]
        exact inductionHypothesis (by omega)

theorem gathers_gatherFrom (left : Nat) (tail : Tail) (script : List ReadEvent)
    (buffer : Bytes) (reads : Nat) :
    Gathers tail script left buffer (gatherFrom tail script left buffer reads).1
      (gatherFrom tail script left buffer reads).2 := by
  induction script generalizing left buffer reads with
  | nil =>
      cases complete : (cut left buffer).complete with
      | true =>
          rw [gatherFrom_of_complete complete]
          exact .complete reads complete
      | false =>
          have taken := (cut_of_incomplete complete).1
          cases tail with
          | closed =>
              rw [gatherFrom, if_neg (by simp [complete]), taken]
              exact .closed (reads + 1) complete rfl
          | repeating line =>
              rw [gatherFrom, if_neg (by simp [complete]), taken]
              exact .again complete rfl
                (.complete (reads + 1) (complete_of_feed (room_left complete) line))
  | cons event script inductionHypothesis =>
      cases complete : (cut left buffer).complete with
      | true =>
          rw [gatherFrom_of_complete complete]
          exact .complete reads complete
      | false =>
          have onward {bytes : Bytes} (brings : ReadsOn event bytes) :
              Gathers tail (event :: script) left buffer
                (gatherFrom tail (event :: script) left buffer reads).1
                (gatherFrom tail (event :: script) left buffer reads).2 := by
            rw [gatherFrom_of_incomplete complete brings rfl]
            exact .onward complete brings
              (inductionHypothesis (left - buffer.length) bytes (reads + 1))
          cases event with
          | fault cause =>
              rw [gatherFrom_of_fault complete]
              exact .failed (reads + 1) complete
          | interrupted => exact onward (.inl ⟨rfl, rfl⟩)
          | chunk bytes =>
              cases bytes with
              | nil =>
                  rw [gatherFrom_of_chunkless complete]
                  exact .ended (reads + 1) complete
              | cons byte bytes => exact onward (.inr ⟨rfl, by simp⟩)

theorem gathers_gather (limit : Nat) (source : Source) :
    Gathers source.tail source.script limit source.buffer (source.gather limit).1
      (source.gather limit).2 :=
  gathers_gatherFrom limit source.tail source.script source.buffer source.reads

theorem marks_of_readsOn {event : ReadEvent} {bytes : Bytes} (brings : ReadsOn event bytes) :
    event.marks = bytes.map .byte := by
  rcases brings with ⟨rfl, rfl⟩ | ⟨rfl, some⟩
  · rfl
  · cases bytes with
    | nil => exact absurd rfl some
    | cons byte bytes => rfl

theorem pending_of_readsOn {event : ReadEvent} {bytes : Bytes} (brings : ReadsOn event bytes)
    (tail : Tail) (script : List ReadEvent) :
    pending tail (event :: script) = bytes.map .byte ++ₛ pending tail script := by
  rw [pending, List.flatMap_cons, marks_of_readsOn brings, Stream'.append_append_stream, pending]

theorem pending_closed : pending .closed [] = .cons .ended (pending .closed []) :=
  Stream'.const_eq Mark.ended

theorem pending_repeating (line : Bytes) :
    pending (.repeating line) [] =
      (line ++ [lineFeed]).map .byte ++ₛ pending (.repeating line) [] :=
  Stream'.cycle_eq _ (by simp)

/-- A request takes what it takes of the stream.  The induction is on the reads. -/
theorem gatherMarks_of_gathers {gathered : Gathered} {after : Source}
    (gathers : Gathers tail script left buffer gathered after) :
    gatherMarks left (buffer.map .byte ++ₛ pending tail script) = (gathered, after.marks) := by
  induction gathers with
  | complete reads complete => exact gatherMarks_of_complete complete _
  | closed reads incomplete isClosed =>
      subst isClosed
      rw [gatherMarks_of_incomplete incomplete, pending_closed,
        gatherMarks_ended (room_left incomplete)]
      exact Prod.ext (congrArg Gathered.bytes (List.append_nil _)) rfl
  | @ended script left buffer reads incomplete =>
      have ended : pending tail (.chunk [] :: script) = .cons .ended (pending tail script) := rfl
      rw [gatherMarks_of_incomplete incomplete, ended,
        gatherMarks_ended (room_left incomplete)]
      exact Prod.ext (congrArg Gathered.bytes (List.append_nil _)) rfl
  | @failed cause script left buffer reads incomplete =>
      have failed : pending tail (.fault cause :: script) =
          .cons (.failed cause) (pending tail script) := rfl
      rw [gatherMarks_of_incomplete incomplete, failed,
        gatherMarks_failed (room_left incomplete)]
      rfl
  | onward incomplete brings later inductionHypothesis =>
      rw [gatherMarks_of_incomplete incomplete, pending_of_readsOn brings,
        inductionHypothesis]
  | again incomplete repeats later inductionHypothesis =>
      subst repeats
      rw [gatherMarks_of_incomplete incomplete, pending_repeating,
        inductionHypothesis]

/-- A request to a source takes what it takes of the source's stream, and leaves a source
whose stream is the rest. -/
theorem gatherMarks_marks (limit : Nat) (source : Source) :
    gatherMarks limit source.marks =
      ((source.gather limit).1, (source.gather limit).2.marks) :=
  gatherMarks_of_gathers (gathers_gather limit source)

/-! ## Pieces of a stream -/

/-- What a piece has behind it that belongs to it.  A piece that is complete with its line
feed or with its length has nothing; any other one has the end of the input that it ran
into. -/
def closing (limit : Nat) (piece : Bytes) : List Mark :=
  if piece.getLast? = some lineFeed ∨ piece.length = limit then [] else [.ended]

/-- Bytes that one request can take: no more than its limit, and not beyond a line feed. -/
structure IsPiece (limit : Nat) (piece : Bytes) : Prop where
  bounded : piece.length ≤ limit
  single : lineFeed ∉ piece.dropLast

theorem IsPiece.cons {value : UInt8} (different : value ≠ lineFeed) {piece : Bytes}
    (isPiece : IsPiece limit piece) : IsPiece (limit + 1) (value :: piece) := by
  refine ⟨Nat.succ_le_succ isPiece.bounded, ?_⟩
  cases piece with
  | nil => simp
  | cons next piece =>
      rw [List.dropLast_cons_cons, List.mem_cons, not_or]
      exact ⟨Ne.symm different, isPiece.single⟩

theorem closing_cons {value : UInt8} (different : value ≠ lineFeed) (limit : Nat)
    (piece : Bytes) : closing (limit + 1) (value :: piece) = closing limit piece := by
  unfold closing
  cases piece with
  | nil => simp [different, eq_comm]
  | cons next piece => simp

/-- Bytes that a request of a stream took are a piece, and what it left is the stream
behind the piece and its closing.  The induction is on the limit. -/
theorem eq_piece_of_gatherMarks {marks : Stream' Mark}
    (gathered : gatherMarks limit marks = (.bytes taken, after)) :
    IsPiece limit taken ∧ marks = (taken.map .byte ++ closing limit taken) ++ₛ after := by
  induction limit generalizing marks taken with
  | zero =>
      cases gathered
      exact ⟨⟨Nat.le_refl 0, by simp⟩, rfl⟩
  | succ limit inductionHypothesis =>
      obtain ⟨mark, later, rfl⟩ : ∃ mark later, marks = .cons mark later :=
        ⟨_, _, (Stream'.eta marks).symm⟩
      cases mark with
      | ended =>
          rw [gatherMarks_ended (Nat.succ_pos limit)] at gathered
          cases gathered
          exact ⟨⟨Nat.zero_le _, by simp⟩, rfl⟩
      | failed cause =>
          rw [gatherMarks_failed (Nat.succ_pos limit)] at gathered
          cases gathered
      | byte value =>
          by_cases feed : value = lineFeed
          · subst feed
            rw [gatherMarks_feed] at gathered
            cases gathered
            exact ⟨⟨by simp, by simp⟩, rfl⟩
          · rw [gatherMarks_cons limit feed] at gathered
            rcases found : gatherMarks limit later with ⟨outcome, left⟩
            rw [found] at gathered
            cases outcome with
            | failed cause => cases gathered
            | bytes more =>
                cases gathered
                rcases inductionHypothesis found with ⟨isPiece, same⟩
                refine ⟨isPiece.cons feed, ?_⟩
                rw [List.singleton_append, closing_cons feed, same]
                rfl

theorem IsPiece.behind {value : UInt8} {piece : Bytes}
    (isPiece : IsPiece (limit + 1) (value :: piece)) : IsPiece limit piece := by
  refine ⟨Nat.le_of_succ_le_succ isPiece.bounded, ?_⟩
  cases piece with
  | nil => simp
  | cons next piece =>
      have single := isPiece.single
      rw [List.dropLast_cons_cons, List.mem_cons, not_or] at single
      exact single.2

/-- A piece at the head of a stream, with its closing, is what a request of the stream takes.
The induction is on the piece. -/
theorem gatherMarks_of_piece {piece : Bytes} (isPiece : IsPiece limit piece)
    (after : Stream' Mark) :
    gatherMarks limit ((piece.map .byte ++ closing limit piece) ++ₛ after) =
      (.bytes piece, after) := by
  induction piece generalizing limit with
  | nil =>
      cases limit with
      | zero => rfl
      | succ limit => exact gatherMarks_ended (Nat.succ_pos limit) after
  | cons value piece inductionHypothesis =>
      cases limit with
      | zero => exact absurd isPiece.bounded (Nat.not_succ_le_zero _)
      | succ limit =>
          by_cases feed : value = lineFeed
          · -- nothing comes behind a line feed
            subst feed
            cases piece with
            | nil => exact gatherMarks_feed limit after
            | cons next piece => exact absurd List.mem_cons_self isPiece.single
          · rw [List.map_cons, List.cons_append, Stream'.cons_append_stream,
              closing_cons feed, gatherMarks_cons limit feed, inductionHypothesis isPiece.behind]
            rfl

/-! ## What a request does to a source -/

/-- A request leaves a part of the script. -/
theorem script_of_gathers {gathered : Gathered} {after : Source}
    (gathers : Gathers tail script left buffer gathered after) : after.script <:+ script := by
  induction gathers with
  | complete reads complete => exact List.suffix_refl _
  | closed reads incomplete isClosed => exact List.suffix_refl _
  | ended reads incomplete => exact List.suffix_cons _ _
  | failed reads incomplete => exact List.suffix_cons _ _
  | onward incomplete brings later inductionHypothesis =>
      exact inductionHypothesis.trans (List.suffix_cons _ _)
  | again incomplete repeats later inductionHypothesis => exact inductionHypothesis

theorem failed_behind {gathered : Gathered} {bytes : Bytes}
    (failed : gathered.behind bytes = .failed cause) : gathered = .failed cause := by
  cases gathered with
  | bytes taken => cases failed
  | failed other => exact failed

/-- A fault that a request meets is in the script. -/
theorem fault_mem_of_gathers {gathered : Gathered} {after : Source}
    (gathers : Gathers tail script left buffer gathered after)
    (failed : gathered = .failed cause) : .fault cause ∈ script := by
  induction gathers with
  | complete reads complete => cases failed
  | closed reads incomplete isClosed => cases failed
  | ended reads incomplete => cases failed
  | failed reads incomplete =>
      cases failed
      exact List.mem_cons_self
  | onward incomplete brings later inductionHypothesis =>
      exact List.mem_cons_of_mem _ (inductionHypothesis (failed_behind failed))
  | again incomplete repeats later inductionHypothesis =>
      exact inductionHypothesis (failed_behind failed)

theorem nothing_behind {gathered : Gathered} {bytes : Bytes}
    (nothing : gathered.behind bytes = .bytes []) : bytes = [] ∧ gathered = .bytes [] := by
  cases gathered with
  | failed cause => cases nothing
  | bytes taken =>
      have none : bytes ++ taken = [] := Gathered.bytes.inj nothing
      rcases List.append_eq_nil_iff.mp none with ⟨rfl, rfl⟩
      exact ⟨rfl, rfl⟩

/-- An end of the input is in the script, unless no byte is left at all. -/
theorem shorter_of_gathers {gathered : Gathered} {after : Source}
    (gathers : Gathers tail script left buffer gathered after) (here : 0 < left)
    (nothing : gathered = .bytes []) {value : UInt8}
    (more : .byte value ∈ buffer.map .byte ++ₛ pending tail script) :
    after.script.length < script.length := by
  induction gathers with
  | complete reads complete =>
      exact absurd (Gathered.bytes.inj nothing) (room_of_complete 0 here complete).2.2
  | closed reads incomplete isClosed =>
      subst isClosed
      cases nothing
      rcases more with ⟨position, same⟩
      cases same
  | ended reads incomplete => exact Nat.lt_succ_self _
  | failed reads incomplete => cases nothing
  | onward incomplete brings later inductionHypothesis =>
      rcases nothing_behind nothing with ⟨rfl, none⟩
      rw [List.map_nil, Stream'.nil_append_stream, pending_of_readsOn brings] at more
      exact Nat.lt_succ_of_lt (inductionHypothesis (room_left incomplete) none more)
  | again incomplete repeats later inductionHypothesis =>
      subst repeats
      rcases nothing_behind nothing with ⟨rfl, none⟩
      rw [List.map_nil, Stream'.nil_append_stream, pending_repeating] at more
      exact inductionHypothesis (room_left incomplete) none more

theorem readingOf_of_some (some : taken ≠ []) :
    readingOf (.bytes taken) = .line (lineOf taken) := by
  cases taken with
  | nil => exact absurd rfl some
  | cons byte rest => rfl

end Source

end SessionHost
