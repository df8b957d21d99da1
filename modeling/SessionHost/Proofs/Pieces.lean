import SessionHost.Console.Source

namespace SessionHost

/-!
# Lines of a stream

What a request finds depends on the bytes that are left, not on how many of
them are in the buffer and how the others will arrive.  The pieces of a stream
are defined here without a buffer; a source that knows no faults hands out one
piece after another.
-/

namespace Source

/-! ## Pieces -/

/-- Whether a request is satisfied with a prefix of the stream: it ends in a
line feed, it is as long as a request can be, or nothing is left behind it. -/
def satisfies (limit : Nat) (stream candidate : Bytes) : Bool :=
  candidate.getLast? == some lineFeed || candidate.length == limit || candidate == stream

/-- The prefixes of a stream that are not empty, the shortest first. -/
def prefixes (stream : Bytes) : List Bytes :=
  (List.range stream.length).map fun length => stream.take (length + 1)

/-- The shortest prefix that satisfies a request. -/
def piece? (limit : Nat) (stream : Bytes) : Option Bytes :=
  (prefixes stream).find? (satisfies limit stream)

theorem length_of_piece {limit : Nat} {stream piece : Bytes}
    (found : piece? limit stream = some piece) :
    0 < piece.length ∧ piece.length ≤ stream.length := by
  rcases List.mem_map.mp (List.mem_of_find?_eq_some found) with ⟨length, listed, rfl⟩
  have bound := List.mem_range.mp listed
  rw [List.length_take]
  omega

/-- The pieces of a stream, each taken from what the earlier ones leave. -/
def split (limit : Nat) (stream : Bytes) : List Bytes :=
  match _found : piece? limit stream with
  | none => []
  | some piece => piece :: split limit (stream.drop piece.length)
termination_by stream.length
decreasing_by
  have := length_of_piece _found
  rw [List.length_drop]
  omega

/-- The line that a piece holds. -/
def lineOf (piece : Bytes) : Bytes :=
  (withoutTerminator piece).cutAtNul

theorem split_of_piece {limit : Nat} {stream piece : Bytes}
    (found : piece? limit stream = some piece) :
    split limit stream = piece :: split limit (stream.drop piece.length) := by
  rw [split]
  split
  · next absent =>
      rw [found] at absent
      cases absent
  · next other isOther =>
      rw [found] at isOther
      cases isOther
      rfl

theorem split_of_end {limit : Nat} {stream : Bytes} (absent : piece? limit stream = none) :
    split limit stream = [] := by
  rw [split]
  split
  · rfl
  · next other isOther =>
      rw [absent] at isOther
      cases isOther

/-! ## Cuts -/

theorem prefixes_cons (byte : UInt8) (rest : Bytes) :
    prefixes (byte :: rest) = [byte] :: (prefixes rest).map (byte :: ·) := by
  unfold prefixes
  rw [List.length_cons, List.range_succ_eq_map, List.map_cons, List.map_map, List.map_map]
  rfl

/-- Behind a byte that is no line feed the same request goes on, for one byte less. -/
theorem satisfies_cons {byte : UInt8} (different : byte ≠ lineFeed) (limit : Nat)
    (rest candidate : Bytes) :
    satisfies (limit + 1) (byte :: rest) (byte :: candidate) = satisfies limit rest candidate := by
  have noFeed : (byte == lineFeed) = false := by simpa using different
  have turned : (limit == 0) = (0 == limit) := BEq.comm
  unfold satisfies
  cases candidate with
  | nil => simp [noFeed, turned]
  | cons next further => simp [List.getLast?_cons_cons]

theorem piece?_cons (limit : Nat) (byte : UInt8) (rest : Bytes) :
    piece? (limit + 1) (byte :: rest) =
      if byte = lineFeed ∨ limit = 0 ∨ rest = [] then some [byte]
      else (piece? limit rest).map (byte :: ·) := by
  unfold piece?
  rw [prefixes_cons, List.find?_cons]
  by_cases short : byte = lineFeed ∨ limit = 0 ∨ rest = []
  · have satisfied : satisfies (limit + 1) (byte :: rest) [byte] = true := by
      unfold satisfies
      rcases short with rfl | rfl | rfl
      · simp
      · simp
      · simp
    rw [if_pos short, satisfied]
  · rcases not_or.mp short with ⟨different, long⟩
    rcases not_or.mp long with ⟨more, further⟩
    have unsatisfied : satisfies (limit + 1) (byte :: rest) [byte] = false := by
      rw [satisfies_cons different]
      unfold satisfies
      simp [Ne.symm more, further]
    have behind : satisfies (limit + 1) (byte :: rest) ∘ (byte :: ·) = satisfies limit rest :=
      funext (satisfies_cons different limit rest)
    rw [if_neg short, unsatisfied, List.find?_map, behind]

/-- A buffer that holds everything is cut after the first piece. -/
theorem piece?_eq_cut {limit : Nat} (positive : 0 < limit) {stream : Bytes} (more : stream ≠ []) :
    piece? limit stream = some (cut limit stream).taken := by
  induction stream generalizing limit with
  | nil => exact absurd rfl more
  | cons byte rest inductionHypothesis =>
      cases limit with
      | zero => cases positive
      | succ limit =>
          rw [piece?_cons]
          unfold cut
          by_cases feed : byte = lineFeed
          · rw [if_pos (Or.inl feed), if_pos feed]
          · rw [if_neg feed]
            dsimp only
            cases limit with
            | zero =>
                rw [if_pos (by simp)]
                rfl
            | succ limit =>
                cases rest with
                | nil =>
                    rw [if_pos (by simp)]
                    rfl
                | cons next further =>
                    rw [if_neg (by simp [feed]), inductionHypothesis (Nat.succ_pos limit) (by simp)]
                    rfl

theorem piece?_nil (limit : Nat) : piece? limit [] = none := rfl

theorem cut_append_rest (limit : Nat) (buffer : Bytes) :
    (cut limit buffer).taken ++ (cut limit buffer).rest = buffer := by
  induction buffer generalizing limit with
  | nil =>
      cases limit with
      | zero => rfl
      | succ limit => rfl
  | cons byte buffer inductionHypothesis =>
      cases limit with
      | zero => rfl
      | succ limit =>
          unfold cut
          split
          · rfl
          · exact congrArg (byte :: ·) (inductionHypothesis limit)

/-- A cut that is not complete takes the whole buffer, and goes on behind it. -/
theorem cut_of_incomplete {limit : Nat} {buffer : Bytes}
    (incomplete : (cut limit buffer).complete = false) :
    (cut limit buffer).taken = buffer ∧ (cut limit buffer).rest = [] ∧
      ∀ more, cut limit (buffer ++ more) =
        { cut (limit - buffer.length) more with
          taken := buffer ++ (cut (limit - buffer.length) more).taken } := by
  induction buffer generalizing limit with
  | nil =>
      cases limit with
      | zero => cases incomplete
      | succ limit => exact ⟨rfl, rfl, fun _ => rfl⟩
  | cons byte buffer inductionHypothesis =>
      cases limit with
      | zero => cases incomplete
      | succ limit =>
          unfold cut at incomplete
          split at incomplete
          · cases incomplete
          · next different =>
              rcases inductionHypothesis incomplete with ⟨taken, rest, further⟩
              have step (bytes : Bytes) : cut (limit + 1) (byte :: bytes) =
                  { cut limit bytes with taken := byte :: (cut limit bytes).taken } := by
                rw [cut, if_neg different]
              refine ⟨?_, ?_, ?_⟩
              · rw [step, taken]
              · rw [step, rest]
              · intro more
                rw [List.cons_append, step, further, List.length_cons, Nat.add_sub_add_right]
                rfl

/-! ## Sources -/

/-- The bytes that an event brings, unless it ends the request. -/
def ReadsOn (event : ReadEvent) (bytes : Bytes) : Prop :=
  event = .interrupted ∧ bytes = [] ∨ event = .chunk bytes ∧ bytes ≠ []

/-- The bytes that a script has yet to give. -/
def scripted (script : List ReadEvent) : Bytes :=
  script.flatMap fun event => match event with
    | .chunk bytes => bytes
    | _ => []

/-- The bytes that a source has yet to hand out. -/
def remaining (source : Source) : Bytes :=
  source.buffer ++ scripted source.script

theorem gatherFrom_of_complete {tail : Tail} {script : List ReadEvent} {limit : Nat}
    {buffer : Bytes} (complete : (cut limit buffer).complete = true) (reads : Nat) :
    gatherFrom tail script limit buffer reads =
      (.bytes (cut limit buffer).taken, ⟨(cut limit buffer).rest, script, tail, reads⟩) := by
  cases script with
  | nil =>
      unfold gatherFrom
      dsimp only
      rw [if_pos complete]
  | cons event script =>
      unfold gatherFrom
      dsimp only
      rw [if_pos complete]

theorem gatherFrom_of_incomplete {tail : Tail} {script : List ReadEvent} {limit : Nat}
    {buffer : Bytes} (incomplete : (cut limit buffer).complete = false) {event : ReadEvent}
    {bytes : Bytes} (brings : ReadsOn event bytes) {reads : Nat} {gathered : Gathered}
    {after : Source}
    (later : gatherFrom tail script (limit - buffer.length) bytes (reads + 1) = (gathered, after)) :
    gatherFrom tail (event :: script) limit buffer reads = (gathered.behind buffer, after) := by
  have taken := (cut_of_incomplete incomplete).1
  unfold gatherFrom
  dsimp only
  rw [if_neg (by simp [incomplete]), taken]
  rcases brings with ⟨rfl, rfl⟩ | ⟨rfl, some⟩
  · rw [later]
  · cases bytes with
    | nil => exact absurd rfl some
    | cons byte bytes =>
        dsimp only
        rw [later]

end Source

end SessionHost
