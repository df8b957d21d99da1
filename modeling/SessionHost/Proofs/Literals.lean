import SessionHost.Text.Quoted

namespace SessionHost

/-!
# Reading quoted text

A reader that knows about literals takes a sentence apart: it tells what stands
inside literals from the code around them.  A quote in the code opens a literal.
A quote inside a literal either is doubled, and then the literal goes on, or it
ends the literal; which of the two it is shows only at the next character.  So
the reader has three places to be in, and a sentence is complete where it ends
anywhere but inside a literal.

`weave` is the writer's side: stretches of code with literals between them.  The
reader takes every woven text apart into the stretches and the literals it was
made of, as long as no stretch holds a quote and none is empty.  Two literals
that touch would be read as one, because their quotes would look like a doubled
one.
-/

namespace Quoted

/-- Where a reader stands in a sentence. -/
inductive Place where
  | code
  | literal
  /-- Behind a quote inside a literal.  It was the end of the literal unless
  another quote follows. -/
  | quote
deriving DecidableEq, Repr

/-- A sentence that was taken apart. -/
structure Reading where
  /-- The code before each literal, and the code behind the last one. -/
  code : List (List Char)
  /-- What stands inside each literal, as it is written there. -/
  literals : List (List Char)
deriving DecidableEq, Repr

namespace Reading

/-- Read a stretch of code in front of what was read behind it. -/
def putCode (stretch : List Char) (reading : Reading) : Reading :=
  { reading with code := reading.code.modifyHead (stretch ++ ·) }

/-- Read a part of a literal in front of the rest of it. -/
def putLiteral (part : List Char) (reading : Reading) : Reading :=
  { reading with literals := reading.literals.modifyHead (part ++ ·) }

/-- A literal begins here. -/
def opening (reading : Reading) : Reading :=
  { reading with code := [] :: reading.code }

/-- A literal ends here. -/
def closing (reading : Reading) : Reading :=
  { reading with literals := [] :: reading.literals }

/-- A stretch of code and the literal behind it, in front of what was read
behind both. -/
def putPiece (stretch literal : List Char) (reading : Reading) : Reading where
  code := stretch :: reading.code
  literals := literal :: reading.literals

/-- The texts that the literals stand for, if each of them is well formed. -/
def texts? (reading : Reading) : Option (List (List Char)) :=
  reading.literals.mapM decode

@[simp]
theorem putCode_nil (reading : Reading) : reading.putCode [] = reading := by
  cases reading with
  | mk code literals => cases code <;> rfl

@[simp]
theorem putCode_putCode (first second : List Char) (reading : Reading) :
    (reading.putCode second).putCode first = reading.putCode (first ++ second) := by
  cases reading with
  | mk code literals => cases code <;> simp [putCode]

@[simp]
theorem putLiteral_nil (reading : Reading) : reading.putLiteral [] = reading := by
  cases reading with
  | mk code literals => cases literals <;> rfl

@[simp]
theorem putLiteral_putLiteral (first second : List Char) (reading : Reading) :
    (reading.putLiteral second).putLiteral first = reading.putLiteral (first ++ second) := by
  cases reading with
  | mk code literals => cases literals <;> simp [putLiteral]

/-- A whole literal behind a whole stretch. -/
theorem putCode_opening_putLiteral_closing (stretch literal : List Char) (reading : Reading) :
    ((reading.closing.putLiteral literal).opening).putCode stretch =
      reading.putPiece stretch literal := by
  simp [closing, putLiteral, opening, putCode, putPiece]

end Reading

/-- Take a text apart from a place on, or fail if it ends inside a literal. -/
def scan : Place → List Char → Option Reading
  | .code, [] => some ⟨[[]], []⟩
  | .literal, [] => none
  | .quote, [] => some ⟨[[]], [[]]⟩
  | .code, char :: rest =>
    if char = '\'' then (scan .literal rest).map Reading.opening
    else (scan .code rest).map (Reading.putCode [char])
  | .literal, char :: rest =>
    if char = '\'' then scan .quote rest
    else (scan .literal rest).map (Reading.putLiteral [char])
  | .quote, char :: rest =>
    if char = '\'' then (scan .literal rest).map (Reading.putLiteral ['\'', '\''])
    else (scan .code rest).map fun reading => (reading.putCode [char]).closing

/-- Take a whole sentence apart. -/
def read? (sentence : String) : Option Reading :=
  scan .code sentence.toList

/-- Stretches of code with a literal behind each, and a last stretch.  The
literals are given by the texts they stand for. -/
def weave (pieces : List (List Char × List Char)) (last : List Char) : List Char :=
  pieces.foldr (fun piece rest => piece.1 ++ '\'' :: (double piece.2 ++ '\'' :: rest)) last

theorem weave_append_last (pieces : List (List Char × List Char)) (last rest : List Char) :
    weave pieces (last ++ rest) = weave pieces last ++ rest := by
  induction pieces with
  | nil => rfl
  | cons piece pieces inductionHypothesis =>
      unfold weave at inductionHypothesis ⊢
      simp [inductionHypothesis]

/-! ## Doubling and its inverse -/

theorem decode_cons {char : Char} (other : char ≠ '\'') (rest : List Char) :
    decode (char :: rest) = (decode rest).map (char :: ·) := by
  cases rest with
  | nil => simp [decode, other]
  | cons next rest => simp [decode, other]

/-- The text inside a literal is found again. -/
theorem decode_double (text : List Char) : decode (double text) = some text := by
  induction text with
  | nil => rfl
  | cons char rest inductionHypothesis =>
      by_cases quote : char = '\''
      · simp [double, decode, quote, inductionHypothesis]
      · simp [double, quote, decode_cons quote, inductionHypothesis]

theorem mapM_decode_double (texts : List (List Char)) :
    (texts.map double).mapM decode = some texts := by
  induction texts with
  | nil => rfl
  | cons text rest inductionHypothesis =>
      simp [List.mapM_cons, decode_double, inductionHypothesis]

/-! ## The reader on what was woven -/

theorem scan_code {stretch : List Char} (plain : '\'' ∉ stretch) (rest : List Char) :
    scan .code (stretch ++ rest) = (scan .code rest).map (Reading.putCode stretch) := by
  induction stretch with
  | nil =>
      have nothing : Reading.putCode [] = id := funext Reading.putCode_nil
      simp [nothing]
  | cons char stretch inductionHypothesis =>
      rcases List.ne_and_not_mem_of_not_mem_cons plain with ⟨other, plain⟩
      rw [List.cons_append, scan, if_neg other.symm, inductionHypothesis plain, Option.map_map]
      congr 1
      funext reading
      simp

/-- Behind a quote that no other quote follows the literal is over. -/
theorem scan_quote {rest : List Char} (apart : rest.head? ≠ some '\'') :
    scan .quote rest = (scan .code rest).map Reading.closing := by
  cases rest with
  | nil => rfl
  | cons char rest =>
      have other : char ≠ '\'' := by simpa using apart
      rw [scan, scan, if_neg other, if_neg other, Option.map_map]
      rfl

/-- Doubled quotes never end a literal.  The induction is on its text. -/
theorem scan_literal (text rest : List Char) :
    scan .literal (double text ++ '\'' :: rest) =
      (scan .quote rest).map (Reading.putLiteral (double text)) := by
  induction text with
  | nil =>
      have nothing : Reading.putLiteral [] = id := funext Reading.putLiteral_nil
      simp [double, scan, nothing]
  | cons char text inductionHypothesis =>
      by_cases quote : char = '\''
      · rw [double, if_pos quote, List.cons_append, List.cons_append, scan, if_pos rfl, scan,
          if_pos rfl, inductionHypothesis, Option.map_map]
        congr 1
        funext reading
        simp
      · rw [double, if_neg quote, List.cons_append, scan, if_neg quote, inductionHypothesis,
          Option.map_map]
        congr 1
        funext reading
        simp

theorem scan_piece {stretch : List Char} (plain : '\'' ∉ stretch) (text : List Char)
    {rest : List Char} (apart : rest.head? ≠ some '\'') :
    scan .code (stretch ++ '\'' :: (double text ++ '\'' :: rest)) =
      (scan .code rest).map (Reading.putPiece stretch (double text)) := by
  rw [scan_code plain, scan, if_pos rfl, scan_literal, scan_quote apart]
  simp only [Option.map_map]
  congr 1
  funext reading
  exact reading.putCode_opening_putLiteral_closing stretch (double text)

/-- A stretch that keeps the literal in front of it apart from the one behind. -/
def Separates (stretch : List Char) : Prop :=
  stretch ≠ [] ∧ '\'' ∉ stretch

instance (stretch : List Char) : Decidable (Separates stretch) :=
  inferInstanceAs (Decidable (_ ∧ _))

theorem Separates.append {stretch : List Char} (separates : Separates stretch)
    {front : List Char} (plain : '\'' ∉ front) : Separates (front ++ stretch) :=
  ⟨List.append_ne_nil_of_right_ne_nil _ separates.1,
    fun quote => (List.mem_append.mp quote).elim plain separates.2⟩

theorem head?_weave {pieces : List (List Char × List Char)} {last : List Char}
    (separating : ∀ piece ∈ pieces, Separates piece.1) (ending : '\'' ∉ last) :
    (weave pieces last).head? ≠ some '\'' := by
  cases pieces with
  | nil => exact fun first => ending (List.mem_of_head? first)
  | cons piece pieces =>
      rcases piece with ⟨stretch, text⟩
      have separates : Separates stretch := separating (stretch, text) List.mem_cons_self
      cases stretch with
      | nil => exact absurd rfl separates.1
      | cons char stretch =>
          intro first
          rw [weave, List.foldr_cons, List.cons_append, List.head?_cons] at first
          injection first with quote
          exact separates.2 (quote ▸ List.mem_cons_self)

/-- Whatever was woven is taken apart into the same stretches and literals.  The
induction is on the pieces; what is left behind a piece does not begin with a
quote, so the piece's own literal ends where it was closed. -/
theorem scan_weave {pieces : List (List Char × List Char)} {last : List Char}
    (separating : ∀ piece ∈ pieces, Separates piece.1) (ending : '\'' ∉ last) :
    scan .code (weave pieces last) =
      some ⟨pieces.map Prod.fst ++ [last], pieces.map fun piece => double piece.2⟩ := by
  induction pieces with
  | nil =>
      have read := scan_code ending []
      rw [List.append_nil] at read
      simp [weave, read, scan, Reading.putCode]
  | cons piece pieces inductionHypothesis =>
      have later : ∀ other ∈ pieces, Separates other.1 :=
        fun other listed => separating other (List.mem_cons_of_mem piece listed)
      have here := scan_piece (separating piece List.mem_cons_self).2 piece.2
        (head?_weave later ending)
      rw [inductionHypothesis later] at here
      exact here

end Quoted

end SessionHost
