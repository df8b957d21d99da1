import SessionHost.Proofs.Pieces

namespace SessionHost

/-!
# Reads that fail

A read that fails counts as an end of the input, with one difference.  An end of the
input delivers the bytes of the piece that is under way; a fault loses them.

So a script with faults reads like one that has ends of the input in their places, and
in which the bytes that the faults lose are missing.  Which bytes these are can be told
from the script alone: pieces end behind a line feed, at the limit and at an end of the
input, and a fault takes away what came behind the last of these.  Where it strikes
between two pieces it loses nothing, and is an end of the input like any other.
-/

/-- An end of the input in place of a fault. -/
def ReadEvent.calmed : ReadEvent → ReadEvent
  | fault _ => chunk []
  | event => event

namespace Source

/-! ## Pieces under way -/

/-- How much room the piece under way has behind some bytes, if it had room for `left`
bytes before them. -/
def room (limit : Nat) : (left : Nat) → Bytes → Nat
  | left, [] => left
  | left, byte :: bytes =>
    if byte = lineFeed ∨ left = 1 then room limit limit bytes else room limit (left - 1) bytes

/-- The bytes up to the end of the last piece that ends among them. -/
def finished (limit : Nat) : (left : Nat) → Bytes → Bytes
  | _, [] => []
  | left, byte :: bytes =>
    if byte = lineFeed ∨ left = 1 then byte :: finished limit limit bytes
    else match finished limit (left - 1) bytes with
      | [] => []
      | further => byte :: further

/-- Whether a fault strikes the piece under way before it has come to an end. -/
def struck : (left : Nat) → List ReadEvent → Bool
  | _, [] => false
  | _, .fault _ :: _ => true
  | left, .interrupted :: script => struck left script
  | _, .chunk [] :: _ => false
  | left, .chunk bytes :: script =>
    !(cut left bytes).complete && struck (left - bytes.length) script

/-- Those of some bytes that no fault loses. -/
def kept (limit left : Nat) (bytes : Bytes) (script : List ReadEvent) : Bytes :=
  if struck (room limit left bytes) script then finished limit left bytes else bytes

/-- A read that brings some bytes or none, and does not end the input. -/
def bringing : Bytes → ReadEvent
  | [] => .interrupted
  | bytes => .chunk bytes

/-- A script that ends the input where another one fails, without the bytes that are
lost by that. -/
def mend (limit : Nat) : (left : Nat) → List ReadEvent → List ReadEvent
  | _, [] => []
  | _, .fault _ :: script => .chunk [] :: mend limit limit script
  | left, .interrupted :: script => .interrupted :: mend limit left script
  | _, .chunk [] :: script => .chunk [] :: mend limit limit script
  | left, .chunk bytes :: script =>
    bringing (kept limit left bytes script) :: mend limit (room limit left bytes) script

/-- A source without faults.  The bytes that a fault loses are missing. -/
def mended (limit : Nat) (source : Source) : Source where
  buffer := kept limit limit source.buffer source.script
  script := mend limit (room limit limit source.buffer) source.script
  tail := source.tail
  reads := source.reads

/-- A source with ends of the input in place of faults. -/
def calmed (source : Source) : Source :=
  { source with script := source.script.map ReadEvent.calmed }

/-- Faults strike between two pieces only. -/
def spares (limit : Nat) : (left : Nat) → List ReadEvent → Prop
  | _, [] => True
  | left, .fault _ :: script => left = limit ∧ spares limit limit script
  | left, .interrupted :: script => spares limit left script
  | _, .chunk [] :: script => spares limit limit script
  | left, .chunk bytes :: script => spares limit (room limit left bytes) script

/-- No piece of a source is lost. -/
def Spared (limit : Nat) (source : Source) : Prop :=
  spares limit (room limit limit source.buffer) source.script

variable {limit left : Nat} {bytes buffer : Bytes} {script : List ReadEvent} {tail : Tail}

/-! ## Cuts and pieces under way -/

theorem cut_cons_of_last {byte : UInt8} (last : byte = lineFeed ∨ left = 1) (here : 0 < left)
    (rest : Bytes) : cut left (byte :: rest) = ⟨[byte], rest, true⟩ := by
  cases left with
  | zero => cases here
  | succ left =>
      rw [cut]
      by_cases feed : byte = lineFeed
      · rw [if_pos feed]
      · rcases last with feed' | one
        · exact absurd feed' feed
        · obtain rfl : left = 0 := Nat.succ.inj one
          rw [if_neg feed]
          cases rest with
          | nil => rfl
          | cons next further => rfl

theorem cut_cons_of_more {byte : UInt8} (more : ¬ (byte = lineFeed ∨ left = 1)) (here : 0 < left)
    (rest : Bytes) :
    cut left (byte :: rest) =
      { cut (left - 1) rest with taken := byte :: (cut (left - 1) rest).taken } := by
  cases left with
  | zero => cases here
  | succ left => rw [cut, if_neg (fun feed => more (.inl feed)), Nat.add_sub_cancel]

theorem room_cons_of_last {byte : UInt8} (last : byte = lineFeed ∨ left = 1) (rest : Bytes) :
    room limit left (byte :: rest) = room limit limit rest := by
  rw [room, if_pos last]

theorem room_cons_of_more {byte : UInt8} (more : ¬ (byte = lineFeed ∨ left = 1)) (rest : Bytes) :
    room limit left (byte :: rest) = room limit (left - 1) rest := by
  rw [room, if_neg more]

theorem finished_cons_of_last {byte : UInt8} (last : byte = lineFeed ∨ left = 1) (rest : Bytes) :
    finished limit left (byte :: rest) = byte :: finished limit limit rest := by
  rw [finished, if_pos last]

theorem finished_cons_of_none {byte : UInt8} (more : ¬ (byte = lineFeed ∨ left = 1)) {rest : Bytes}
    (none : finished limit (left - 1) rest = []) : finished limit left (byte :: rest) = [] := by
  rw [finished, if_neg more, none]

theorem finished_cons_of_some {byte : UInt8} (more : ¬ (byte = lineFeed ∨ left = 1)) {rest : Bytes}
    (some : finished limit (left - 1) rest ≠ []) :
    finished limit left (byte :: rest) = byte :: finished limit (left - 1) rest := by
  rw [finished, if_neg more]
  cases further : finished limit (left - 1) rest with
  | nil => exact absurd further some
  | cons first later => rfl

theorem room_bounds (positive : 0 < limit) (here : 0 < left) (bound : left ≤ limit)
    (bytes : Bytes) : 0 < room limit left bytes ∧ room limit left bytes ≤ limit := by
  induction bytes generalizing left with
  | nil => exact ⟨here, bound⟩
  | cons byte bytes inductionHypothesis =>
      by_cases last : byte = lineFeed ∨ left = 1
      · rw [room_cons_of_last last]
        exact inductionHypothesis positive (Nat.le_refl limit)
      · rw [room_cons_of_more last]
        exact inductionHypothesis (by omega) (by omega)

/-- Behind the piece that a cut completes the next one begins. -/
theorem room_of_complete (limit : Nat) (here : 0 < left)
    (complete : (cut left bytes).complete = true) :
    room limit left bytes = room limit limit (cut left bytes).rest ∧
      finished limit left bytes =
        (cut left bytes).taken ++ finished limit limit (cut left bytes).rest ∧
      (cut left bytes).taken ≠ [] := by
  induction bytes generalizing left with
  | nil =>
      cases left with
      | zero => cases here
      | succ left => cases complete
  | cons byte bytes inductionHypothesis =>
      by_cases last : byte = lineFeed ∨ left = 1
      · rw [cut_cons_of_last last here, room_cons_of_last last, finished_cons_of_last last]
        exact ⟨rfl, rfl, List.cons_ne_nil _ _⟩
      · have further : 0 < left - 1 := by omega
        rw [cut_cons_of_more last here] at complete ⊢
        rcases inductionHypothesis further complete with ⟨room, finished, some⟩
        refine ⟨(room_cons_of_more last bytes).trans room, ?_, List.cons_ne_nil _ _⟩
        have more : Source.finished limit (left - 1) bytes ≠ [] := by
          rw [finished]
          exact List.append_ne_nil_of_left_ne_nil some _
        rw [finished_cons_of_some last more, finished]
        rfl

/-- A piece that a cut does not complete has that much less room, and nothing is
finished. -/
theorem room_of_incomplete (limit : Nat) (here : 0 < left)
    (incomplete : (cut left bytes).complete = false) :
    room limit left bytes = left - bytes.length ∧ finished limit left bytes = [] ∧
      bytes.length < left := by
  induction bytes generalizing left with
  | nil => exact ⟨rfl, rfl, here⟩
  | cons byte bytes inductionHypothesis =>
      by_cases last : byte = lineFeed ∨ left = 1
      · rw [cut_cons_of_last last here] at incomplete
        cases incomplete
      · have further : 0 < left - 1 := by omega
        rw [cut_cons_of_more last here] at incomplete
        rcases inductionHypothesis further incomplete with ⟨room, finished, short⟩
        rw [room_cons_of_more last, room, finished_cons_of_none last finished, List.length_cons]
        exact ⟨by omega, rfl, by omega⟩

/-- Whatever comes behind a completed piece, it is cut off there. -/
theorem cut_taken_append (here : 0 < left) (complete : (cut left bytes).complete = true)
    (more : Bytes) :
    cut left ((cut left bytes).taken ++ more) = ⟨(cut left bytes).taken, more, true⟩ := by
  induction bytes generalizing left with
  | nil =>
      cases left with
      | zero => cases here
      | succ left => cases complete
  | cons byte bytes inductionHypothesis =>
      by_cases last : byte = lineFeed ∨ left = 1
      · rw [cut_cons_of_last last here]
        exact cut_cons_of_last last here more
      · rw [cut_cons_of_more last here] at complete ⊢
        rw [List.cons_append, cut_cons_of_more last here, inductionHypothesis (by omega) complete]

theorem kept_of_complete (here : 0 < left) (complete : (cut left bytes).complete = true) :
    kept limit left bytes script =
      (cut left bytes).taken ++ kept limit limit (cut left bytes).rest script := by
  rcases room_of_complete limit here complete with ⟨room, finished, _⟩
  have whole := cut_append_rest left bytes
  unfold kept
  rw [room, finished]
  split
  · rfl
  · exact whole.symm

theorem kept_nil (limit left : Nat) (script : List ReadEvent) : kept limit left [] script = [] := by
  unfold kept
  split
  · rfl
  · rfl

theorem readsOn_bringing (bytes : Bytes) : ReadsOn (bringing bytes) bytes := by
  cases bytes with
  | nil => exact .inl ⟨rfl, rfl⟩
  | cons byte bytes => exact .inr ⟨rfl, List.cons_ne_nil _ _⟩

theorem struck_chunk (some : bytes ≠ []) :
    struck left (.chunk bytes :: script) =
      (!(cut left bytes).complete && struck (left - bytes.length) script) :=
  struck.eq_5 left bytes script some

theorem mend_chunk (some : bytes ≠ []) :
    mend limit left (.chunk bytes :: script) =
      bringing (kept limit left bytes script) :: mend limit (room limit left bytes) script :=
  mend.eq_5 limit left bytes script some

theorem spares_chunk (some : bytes ≠ []) :
    spares limit left (.chunk bytes :: script) = spares limit (room limit left bytes) script :=
  spares.eq_5 limit left bytes script some

/-! ## One request -/

/-- What a request takes where an end of the input is in the place of a fault. -/
def Gathered.mended : Gathered → Gathered
  | .bytes taken => .bytes taken
  | .failed _ => .bytes []

theorem gatherFrom_of_chunkless (incomplete : (cut left buffer).complete = false) (reads : Nat) :
    gatherFrom tail (.chunk [] :: script) left buffer reads =
      (.bytes buffer, ⟨[], script, tail, reads + 1⟩) := by
  rw [gatherFrom, if_neg (by simp [incomplete]), (cut_of_incomplete incomplete).1]

theorem gatherFrom_of_fault (incomplete : (cut left buffer).complete = false) (cause : ReadFault)
    (reads : Nat) :
    gatherFrom tail (.fault cause :: script) left buffer reads =
      (.failed cause, ⟨[], script, tail, reads + 1⟩) := by
  rw [gatherFrom, if_neg (by simp [incomplete])]

theorem cut_nil (here : 0 < left) : (cut left []).complete = false := by
  cases left with
  | zero => cases here
  | succ left => rfl

/-- A request whose piece a fault strikes finds the end of the input in the mended
script, right away and for whatever room.  The induction is on the reads up to the
fault, which bring nothing there. -/
theorem gatherFrom_of_struck (limit : Nat) (tail : Tail)
    (incomplete : (cut left buffer).complete = false)
    (isStruck : struck (left - buffer.length) script = true) (here : 0 < left) (reads : Nat) :
    ∃ cause after, gatherFrom tail script left buffer reads = (.failed cause, after) ∧
      ∀ other, 0 < other →
        gatherFrom tail (mend limit (left - buffer.length) script) other [] reads =
          (.bytes [], after.mended limit) := by
  have further : 0 < left - buffer.length := by
    have short := (room_of_incomplete limit here incomplete).2.2
    omega
  induction script generalizing left buffer reads with
  | nil => cases isStruck
  | cons event script inductionHypothesis =>
      cases event with
      | fault cause =>
          refine ⟨cause, _, gatherFrom_of_fault incomplete cause reads, ?_⟩
          intro other positive
          rw [mend, gatherFrom_of_chunkless (cut_nil positive), mended, kept_nil]
          rfl
      | interrupted =>
          rcases inductionHypothesis (cut_nil further) isStruck further (reads + 1) further with
            ⟨cause, after, failed, ended⟩
          refine ⟨cause, after, gatherFrom_of_incomplete incomplete (.inl ⟨rfl, rfl⟩) failed, ?_⟩
          intro other positive
          exact gatherFrom_of_incomplete (cut_nil positive) (.inl ⟨rfl, rfl⟩) (ended other positive)
      | chunk bytes =>
          by_cases none : bytes = []
          · rw [none] at isStruck
            cases isStruck
          · rw [struck_chunk none, Bool.and_eq_true, Bool.not_eq_true'] at isStruck
            rcases isStruck with ⟨more, later⟩
            rcases room_of_incomplete limit further more with ⟨room, nothing, short⟩
            have lost : kept limit (left - buffer.length) bytes script = [] := by
              rw [kept, room, if_pos later, nothing]
            rcases inductionHypothesis more later further (reads + 1) (by omega) with
              ⟨cause, after, failed, ended⟩
            refine ⟨cause, after, gatherFrom_of_incomplete incomplete (.inr ⟨rfl, none⟩) failed, ?_⟩
            intro other positive
            rw [mend_chunk none, lost, room]
            exact gatherFrom_of_incomplete (cut_nil positive) (.inl ⟨rfl, rfl⟩)
              (ended other positive)

/-- A request takes the same from the mended script, and leaves the mended rest. -/
def Mending (limit : Nat) (tail : Tail) (script : List ReadEvent) (left : Nat) (buffer : Bytes)
    (reads : Nat) : Prop :=
  gatherFrom tail (mend limit (room limit left buffer) script) left
      (kept limit left buffer script) reads =
    ((gatherFrom tail script left buffer reads).1.mended,
      (gatherFrom tail script left buffer reads).2.mended limit)

theorem mending_of_complete (here : 0 < left) (complete : (cut left buffer).complete = true)
    (reads : Nat) : Mending limit tail script left buffer reads := by
  rcases room_of_complete limit here complete with ⟨room, _, _⟩
  have mended := cut_taken_append here complete (kept limit limit (cut left buffer).rest script)
  rw [← kept_of_complete here complete] at mended
  have still : (cut left (kept limit left buffer script)).complete = true := by rw [mended]
  rw [Mending, gatherFrom_of_complete still, gatherFrom_of_complete complete, mended, room]
  rfl

theorem mending_of_struck (here : 0 < left) (incomplete : (cut left buffer).complete = false)
    (isStruck : struck (left - buffer.length) script = true) (reads : Nat) :
    Mending limit tail script left buffer reads := by
  rcases room_of_incomplete limit here incomplete with ⟨room, nothing, _⟩
  rcases gatherFrom_of_struck limit tail incomplete isStruck here reads with
    ⟨cause, after, failed, ended⟩
  rw [Mending, failed, kept, room, if_pos isStruck, nothing]
  exact ended left here

/-- A request whose piece no fault strikes takes some bytes, or finds the end of the
input. -/
theorem gatherFrom_of_unstruck (tail : Tail) (unstruck : (cut left buffer).complete = false →
      struck (left - buffer.length) script = false) (reads : Nat) :
    ∃ taken after, gatherFrom tail script left buffer reads = (.bytes taken, after) := by
  induction script generalizing left buffer reads with
  | nil =>
      cases complete : (cut left buffer).complete with
      | true => exact ⟨_, _, gatherFrom_of_complete complete reads⟩
      | false =>
          cases tail with
          | closed =>
              rw [gatherFrom, if_neg (by simp [complete])]
              exact ⟨_, _, rfl⟩
          | repeating line =>
              rw [gatherFrom, if_neg (by simp [complete])]
              exact ⟨_, _, rfl⟩
  | cons event script inductionHypothesis =>
      cases complete : (cut left buffer).complete with
      | true => exact ⟨_, _, gatherFrom_of_complete complete reads⟩
      | false =>
          have onward {bytes : Bytes} (brings : ReadsOn event bytes)
              (unstruck : (cut (left - buffer.length) bytes).complete = false →
                struck (left - buffer.length - bytes.length) script = false) :
              ∃ taken after, gatherFrom tail (event :: script) left buffer reads =
                (.bytes taken, after) := by
            rcases inductionHypothesis unstruck (reads + 1) with ⟨taken, after, gathered⟩
            exact ⟨_, after, gatherFrom_of_incomplete complete brings gathered⟩
          have unstruck := unstruck complete
          cases event with
          | fault cause => cases unstruck
          | interrupted => exact onward (.inl ⟨rfl, rfl⟩) fun _ => unstruck
          | chunk bytes =>
              by_cases none : bytes = []
              · rw [none]
                exact ⟨_, _, gatherFrom_of_chunkless complete reads⟩
              · refine onward (.inr ⟨rfl, none⟩) ?_
                intro more
                rw [struck_chunk none, more] at unstruck
                exact unstruck

/-- The induction is on the reads, and the room of the piece under way carries it. -/
theorem mending (here : 0 < left) (reads : Nat) :
    Mending limit tail script left buffer reads := by
  induction script generalizing left buffer reads with
  | nil =>
      cases complete : (cut left buffer).complete with
      | true => exact mending_of_complete here complete reads
      | false =>
          have all : kept limit left buffer [] = buffer := rfl
          rw [Mending, all, mend]
          cases tail with
          | closed =>
              rw [gatherFrom, if_neg (by simp [complete])]
              rfl
          | repeating line =>
              rw [gatherFrom, if_neg (by simp [complete])]
              rfl
  | cons event script inductionHypothesis =>
      cases complete : (cut left buffer).complete with
      | true => exact mending_of_complete here complete reads
      | false =>
          cases isStruck : struck (left - buffer.length) (event :: script) with
          | true => exact mending_of_struck here complete isStruck reads
          | false =>
              rcases room_of_incomplete limit here complete with ⟨room, _, short⟩
              have further : 0 < left - buffer.length := by omega
              have all : kept limit left buffer (event :: script) = buffer := by
                rw [kept, room, isStruck]
                rfl
              -- a read that brings something, in both scripts
              have onward {bytes : Bytes} {mendedEvent : ReadEvent} (brings : ReadsOn event bytes)
                  (mended : mend limit (left - buffer.length) (event :: script) =
                    mendedEvent ::
                      mend limit (Source.room limit (left - buffer.length) bytes) script)
                  (kept : ReadsOn mendedEvent (kept limit (left - buffer.length) bytes script))
                  (unstruck : (cut (left - buffer.length) bytes).complete = false →
                    struck (left - buffer.length - bytes.length) script = false) :
                  Mending limit tail (event :: script) left buffer reads := by
                rcases gatherFrom_of_unstruck tail unstruck (reads + 1) with
                  ⟨taken, after, gathered⟩
                have later : Mending limit tail script (left - buffer.length) bytes (reads + 1) :=
                  inductionHypothesis further (reads + 1)
                rw [Mending, gathered] at later
                rw [Mending, all, room, mended, gatherFrom_of_incomplete complete kept later,
                  gatherFrom_of_incomplete complete brings gathered]
                rfl
              cases event with
              | fault cause => cases isStruck
              | interrupted =>
                  refine onward (.inl ⟨rfl, rfl⟩) rfl ?_ fun _ => isStruck
                  rw [kept_nil]
                  exact .inl ⟨rfl, rfl⟩
              | chunk bytes =>
                  by_cases none : bytes = []
                  · subst none
                    rw [Mending, all, room, mend, gatherFrom_of_chunkless complete,
                      gatherFrom_of_chunkless complete, mended, kept_nil]
                    rfl
                  · refine onward (.inr ⟨rfl, none⟩) (mend_chunk none) ?_ ?_
                    · exact readsOn_bringing _
                    · intro more
                      rw [struck_chunk none, more] at isStruck
                      exact isStruck

/-! ## Requests for lines -/

/-- What a request for a line finds where a fault counts as an end of the input. -/
def Reading.mended : Reading → Reading
  | .line bytes => .line bytes
  | .ended => .ended
  | .failed _ => .ended

theorem readLine_mended (positive : 0 < limit) (source : Source) :
    (source.mended limit).readLine limit =
      ((source.readLine limit).1.mended, (source.readLine limit).2.mended limit) := by
  have same : Mending limit source.tail source.script limit source.buffer source.reads :=
    mending positive source.reads
  have found (gathered : Gathered) : readingOf gathered.mended = (readingOf gathered).mended := by
    cases gathered with
    | failed cause => rfl
    | bytes taken =>
        cases taken with
        | nil => rfl
        | cons byte rest => rfl
  unfold readLine gather
  rw [mended, same]
  exact congrArg (·, _) (found _)

theorem length_mend (script : List ReadEvent) (left : Nat) :
    (mend limit left script).length = script.length := by
  induction script generalizing left with
  | nil => rfl
  | cons event script inductionHypothesis =>
      cases event with
      | fault cause => exact congrArg Nat.succ (inductionHypothesis limit)
      | interrupted => exact congrArg Nat.succ (inductionHypothesis left)
      | chunk bytes =>
          by_cases none : bytes = []
          · subst none
            exact congrArg Nat.succ (inductionHypothesis limit)
          · rw [mend_chunk none]
            exact congrArg Nat.succ (inductionHypothesis _)

/-! ## Faults between pieces -/

theorem finished_of_room (here : 0 < left) (bound : left ≤ limit)
    (full : room limit left bytes = limit) : finished limit left bytes = bytes := by
  induction bytes generalizing left with
  | nil => rfl
  | cons byte bytes inductionHypothesis =>
      by_cases last : byte = lineFeed ∨ left = 1
      · rw [room_cons_of_last last] at full
        rw [finished_cons_of_last last]
        exact congrArg (byte :: ·) (inductionHypothesis (by omega) (Nat.le_refl limit) full)
      · rw [room_cons_of_more last] at full
        have later := inductionHypothesis (by omega) (by omega) full
        have some : bytes ≠ [] := by
          rintro rfl
          rw [room] at full
          omega
        rw [finished_cons_of_some last (by rw [later]; exact some), later]

theorem left_of_spares (here : 0 < left) (bound : left ≤ limit) (spared : spares limit left script)
    (isStruck : struck left script = true) : left = limit := by
  induction script generalizing left with
  | nil => cases isStruck
  | cons event script inductionHypothesis =>
      cases event with
      | fault cause => exact spared.1
      | interrupted => exact inductionHypothesis here bound spared isStruck
      | chunk bytes =>
          by_cases none : bytes = []
          · subst none
            cases isStruck
          · rw [struck_chunk none, Bool.and_eq_true, Bool.not_eq_true'] at isStruck
            rcases room_of_incomplete limit here isStruck.1 with ⟨room, _, short⟩
            rw [spares_chunk none, room] at spared
            have full := inductionHypothesis (by omega) (by omega) spared isStruck.2
            have some : 0 < bytes.length := List.length_pos_iff.mpr none
            omega

theorem kept_of_spares (positive : 0 < limit) (here : 0 < left) (bound : left ≤ limit)
    (spared : spares limit (room limit left bytes) script) :
    kept limit left bytes script = bytes := by
  rcases room_bounds positive here bound bytes with ⟨some, fits⟩
  unfold kept
  split
  · next isStruck => exact finished_of_room here bound (left_of_spares some fits spared isStruck)
  · rfl

theorem mend_of_spares (positive : 0 < limit) (here : 0 < left) (bound : left ≤ limit)
    (spared : spares limit left script) : mend limit left script = script.map ReadEvent.calmed := by
  induction script generalizing left with
  | nil => rfl
  | cons event script inductionHypothesis =>
      have fresh (spared : spares limit limit script) :
          mend limit limit script = script.map ReadEvent.calmed :=
        inductionHypothesis positive (Nat.le_refl limit) spared
      cases event with
      | fault cause => exact congrArg (_ :: ·) (fresh spared.2)
      | interrupted => exact congrArg (_ :: ·) (inductionHypothesis here bound spared)
      | chunk bytes =>
          by_cases none : bytes = []
          · subst none
            exact congrArg (_ :: ·) (fresh spared)
          · rw [spares_chunk none] at spared
            rcases room_bounds positive here bound bytes with ⟨some, fits⟩
            rw [mend_chunk none, kept_of_spares positive here bound spared,
              inductionHypothesis some fits spared, List.map_cons]
            cases bytes with
            | nil => exact absurd rfl none
            | cons byte bytes => rfl

/-- Where faults strike between pieces only, nothing is lost. -/
theorem mended_of_spared (positive : 0 < limit) {source : Source} (spared : source.Spared limit) :
    source.mended limit = source.calmed := by
  rcases room_bounds positive positive (Nat.le_refl limit) source.buffer with ⟨some, fits⟩
  rw [mended, kept_of_spares positive positive (Nat.le_refl limit) spared,
    mend_of_spares positive some fits spared]
  rfl

end Source

end SessionHost
