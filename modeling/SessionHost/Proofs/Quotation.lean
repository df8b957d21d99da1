import Mathlib.Data.List.Basic
import SessionHost.Toml.Quoted

namespace SessionHost

/-!
# Quoted text is read back

Whatever a text holds, the form that is chosen for it holds the text too, and a reader
gets it back.  Between double quotes that is so for every text, because everything
that could be in the way is escaped.  Between single quotes nothing can be escaped, and
the form is chosen only where nothing need be.

The delicate part are quotes at the end of text that three quotes close.  There the
reader sees one run of quotes and has to tell those of the text from those of the
closing, which it can as long as the text has two of them at most.
-/

namespace Toml

namespace Quoted

variable {text rest : List Char} {char quote : Char}

/-! ## Runs of quotes -/

theorem quotes_cons_self (quote : Char) (input : List Char) :
    quotes quote (quote :: input) = quotes quote input + 1 := by
  simp [quotes]

theorem quotes_of_head (other : rest.head? ≠ some quote) : quotes quote rest = 0 := by
  cases rest with
  | nil => rfl
  | cons char rest =>
      have different : char ≠ quote := fun same => other (congrArg some same)
      simp [quotes, different]

theorem quotes_replicate (ends : rest.head? ≠ some quote) (count : Nat) :
    quotes quote (List.replicate count quote ++ rest) = count := by
  induction count with
  | zero => exact quotes_of_head ends
  | succ count inductionHypothesis =>
      rw [List.replicate_succ, List.cons_append, quotes_cons_self, inductionHypothesis]

/-- Of a run at the end all but three quotes belong to the text. -/
theorem closeRun_replicate (ends : rest.head? ≠ some quote) {count : Nat} (few : count ≤ 2) :
    closeRun quote (List.replicate (count + 3) quote ++ rest) =
      (List.replicate count quote, rest) := by
  have run : min (quotes quote (List.replicate (count + 3) quote ++ rest)) 5 = count + 3 := by
    rw [quotes_replicate ends]
    omega
  unfold closeRun
  dsimp only
  rw [run, List.drop_left' List.length_replicate]
  rfl

/-! ## Between single quotes -/

/-- No more than so many quotes stand together, if so many stand in front. -/
def Sparse (quote : Char) (most : Nat) : (together : Nat) → List Char → Prop
  | _, [] => True
  | together, char :: rest =>
    if char = quote then together < most ∧ Sparse quote most (together + 1) rest
    else Sparse quote most 0 rest

/-- The induction is on the text; the longest run of all is no shorter than the longest
so far. -/
theorem sparse_of_longestRun {most : Nat} (few : longestRun quote text ≤ most) :
    Sparse quote most 0 text := by
  have fold (longest together : Nat)
      (few : (text.foldl (fun runs next =>
        if next = quote then (max runs.1 (runs.2 + 1), runs.2 + 1) else (runs.1, 0))
          (longest, together)).1 ≤ most) :
      longest ≤ most ∧ Sparse quote most together text := by
    clear * - few
    induction text generalizing longest together with
    | nil => exact ⟨few, trivial⟩
    | cons char rest inductionHypothesis =>
        rw [List.foldl_cons] at few
        dsimp only at few
        unfold Sparse
        by_cases same : char = quote
        · rw [if_pos same] at few ⊢
          rcases inductionHypothesis _ _ few with ⟨longer, sparse⟩
          exact ⟨by omega, by omega, sparse⟩
        · rw [if_neg same] at few ⊢
          exact inductionHypothesis longest 0 few
  exact (fold 0 0 few).2

theorem not_mem_of_sparse {together : Nat} (sparse : Sparse quote 0 together text) :
    quote ∉ text := by
  induction text generalizing together with
  | nil => exact List.not_mem_nil
  | cons char rest inductionHypothesis =>
      unfold Sparse at sparse
      by_cases same : char = quote
      · rw [if_pos same] at sparse
        exact absurd sparse.1 (Nat.not_lt_zero together)
      · rw [if_neg same] at sparse
        rw [List.mem_cons, not_or]
        exact ⟨Ne.symm same, inductionHypothesis sparse⟩

/-- Text that begins with quotes consists of them, or there are too few to end it. -/
theorem run_of_sparse {together : Nat} (sparse : Sparse quote 2 together text)
    (few : together ≤ 2) (closing : List Char) :
    (∃ count, count + together ≤ 2 ∧ text = List.replicate count quote) ∨
      quotes quote (text ++ closing) + together ≤ 2 := by
  induction text generalizing together with
  | nil => exact .inl ⟨0, by omega, rfl⟩
  | cons char rest inductionHypothesis =>
      unfold Sparse at sparse
      by_cases same : char = quote
      · subst same
        rw [if_pos rfl] at sparse
        rcases inductionHypothesis sparse.2 (by omega) with ⟨count, fits, rfl⟩ | short
        · exact .inl ⟨count + 1, by omega, rfl⟩
        · rw [List.cons_append, quotes_cons_self]
          exact .inr (by omega)
      · have other : (char :: rest ++ closing).head? ≠ some quote :=
          fun head => same (Option.some.inj head)
        rw [quotes_of_head other]
        exact .inr (by omega)

theorem not_return_of_isPrintable (printable : isPrintable char = true) : char ≠ '\r' := by
  rintro rfl
  cases printable

theorem readVerbatim_plain {spanning : Bool} (unquoted : char ≠ '\'')
    (allowed : isPrintable char = true ∨ spanning = true ∧ char = '\n') :
    readVerbatim spanning (char :: rest) = push char (readVerbatim spanning rest) := by
  have noReturn : char ≠ '\r' := by
    rcases allowed with printable | ⟨_, rfl⟩
    · exact not_return_of_isPrintable printable
    · decide
  have passes : (isPrintable char || (spanning && decide (char = '\n'))) = true := by
    rcases allowed with printable | ⟨rfl, rfl⟩
    · rw [printable]
      rfl
    · rfl
  rw [readVerbatim.eq_def]
  simp [noReturn, unquoted, passes]

theorem readVerbatim_line (unquoted : '\'' ∉ text)
    (printable : ∀ char ∈ text, isPrintable char = true) (rest : List Char) :
    readVerbatim false (text ++ '\'' :: rest) = some (text, rest) := by
  induction text with
  | nil => rfl
  | cons char text inductionHypothesis =>
      rw [List.mem_cons, not_or] at unquoted
      have read := inductionHypothesis unquoted.2 fun other listed =>
        printable other (List.mem_cons_of_mem _ listed)
      rw [List.cons_append, readVerbatim_plain (Ne.symm unquoted.1)
        (.inl (printable char List.mem_cons_self)), read]
      rfl

theorem readVerbatim_quote (input : List Char) :
    readVerbatim true ('\'' :: input) =
      if quotes '\'' ('\'' :: input) < 3 then push '\'' (readVerbatim true input)
      else some (closeRun '\'' ('\'' :: input)) := by
  rw [readVerbatim.eq_def]
  rfl

/-- A run of quotes that ends the text is taken at once. -/
theorem readVerbatim_run (ends : rest.head? ≠ some '\'') {count : Nat} (few : count ≤ 2) :
    readVerbatim true (List.replicate (count + 3) '\'' ++ rest) =
      some (List.replicate count '\'', rest) := by
  rw [← closeRun_replicate ends few]
  rw [List.replicate_succ, List.cons_append, readVerbatim_quote, quotes_cons_self,
    quotes_replicate ends, if_neg (by omega)]

theorem readVerbatim_lines {together : Nat} (sparse : Sparse '\'' 2 together text)
    (few : together ≤ 2) (printable : ∀ char ∈ text, isPrintable char = true ∨ char = '\n')
    (ends : rest.head? ≠ some '\'') :
    readVerbatim true (text ++ (List.replicate 3 '\'' ++ rest)) = some (text, rest) := by
  induction text generalizing together with
  | nil => exact readVerbatim_run ends (Nat.zero_le 2)
  | cons char text inductionHypothesis =>
      have onward {together : Nat} (sparse : Sparse '\'' 2 together text) (few : together ≤ 2) :=
        inductionHypothesis sparse few fun other listed =>
          printable other (List.mem_cons_of_mem _ listed)
      by_cases quoted : char = '\''
      · subst quoted
        rcases run_of_sparse sparse few (List.replicate 3 '\'' ++ rest) with
          ⟨count, fits, all⟩ | short
        · rw [all, ← List.append_assoc, List.replicate_append_replicate]
          exact readVerbatim_run ends (by omega)
        · unfold Sparse at sparse
          rw [if_pos rfl] at sparse
          rw [List.cons_append] at short ⊢
          rw [readVerbatim_quote, if_pos (by omega), onward sparse.2 (by omega)]
          rfl
      · unfold Sparse at sparse
        rw [if_neg quoted] at sparse
        have allowed : isPrintable char = true ∨ true = true ∧ char = '\n' :=
          (printable char List.mem_cons_self).imp_right fun isBreak => ⟨rfl, isBreak⟩
        rw [List.cons_append, readVerbatim_plain quoted allowed, onward sparse (Nat.zero_le 2)]
        rfl

/-! ## Between double quotes -/

theorem readEscaped_plain (spanning : Bool) (char : Char) (rest : List Char) :
    readEscaped spanning .plain (char :: rest) =
      if char = '\r' && rest.head? = some '\n' && spanning then readEscaped spanning .plain rest
      else if char = '\\' then readEscaped spanning .escaped rest
      else if char = '"' then
        if !spanning then some ([], rest)
        else if quotes '"' (char :: rest) < 3 then push char (readEscaped spanning .plain rest)
        else some (closeRun '"' (char :: rest))
      else if isPrintable char || (spanning && char = '\n') then
        push char (readEscaped spanning .plain rest)
      else none := by
  rw [readEscaped.eq_def]
  rfl

theorem readEscaped_backslash (spanning : Bool) (rest : List Char) :
    readEscaped spanning .plain ('\\' :: rest) = readEscaped spanning .escaped rest := by
  rw [readEscaped_plain]
  rfl

/-- A letter behind a backslash. -/
theorem readEscaped_short (spanning : Bool) {letter meant : Char}
    (means : shortEscape? letter = some meant) (rest : List Char) :
    readEscaped spanning .plain ('\\' :: letter :: rest) =
      push meant (readEscaped spanning .plain rest) := by
  have short : letter ≠ 'u' ∧ letter ≠ 'U' := by
    constructor
    · rintro rfl
      cases means
    · rintro rfl
      cases means
  rw [readEscaped_backslash, readEscaped.eq_def]
  simp [short.1, short.2, means]

theorem hexDigit?_digitChar : ∀ digit < 16,
    hexDigit? (Nat.digitChar digit).toUpper = some digit := by
  decide +kernel

theorem fourDigits_eq : ∀ value < 128, fourDigits value =
    ['0', '0', (Nat.digitChar (value / 16)).toUpper, (Nat.digitChar (value % 16)).toUpper] := by
  decide +kernel

theorem readEscaped_digit (spanning : Bool) {left value digit : Nat}
    (means : hexDigit? char = some digit) (more : 1 < left) (rest : List Char) :
    readEscaped spanning (.codePoint left value) (char :: rest) =
      readEscaped spanning (.codePoint (left - 1) (value * 16 + digit)) rest := by
  rw [readEscaped.eq_def]
  simp [means, Nat.not_le.mpr more]

theorem readEscaped_lastDigit (spanning : Bool) {value digit : Nat} {meant : Char}
    (means : hexDigit? char = some digit) (same : value * 16 + digit = meant.toNat)
    (rest : List Char) :
    readEscaped spanning (.codePoint 1 value) (char :: rest) =
      push meant (readEscaped spanning .plain rest) := by
  have scalar : scalar? (value * 16 + digit) = some meant := by
    unfold scalar?
    rw [same, if_pos (show meant.toNat.isValidChar from meant.valid), Char.ofNat_toNat]
  rw [readEscaped.eq_def]
  simp [means, scalar]

/-- A code point in four digits. -/
theorem readEscaped_codePoint (spanning : Bool) (small : char.toNat < 128) (rest : List Char) :
    readEscaped spanning .plain ('\\' :: 'u' :: fourDigits char.toNat ++ rest) =
      push char (readEscaped spanning .plain rest) := by
  have digits := fourDigits_eq char.toNat small
  have first := hexDigit?_digitChar (char.toNat / 16) (by omega)
  have second := hexDigit?_digitChar (char.toNat % 16) (by omega)
  have zero : hexDigit? '0' = some 0 := rfl
  have same : (char.toNat / 16) * 16 + char.toNat % 16 = char.toNat := Nat.div_add_mod' _ _
  rw [digits, List.cons_append, readEscaped_backslash]
  have opened (rest : List Char) : readEscaped spanning .escaped ('u' :: rest) =
      readEscaped spanning (.codePoint 4 0) rest := by
    rw [readEscaped.eq_def]
    rfl
  simp only [List.cons_append, List.nil_append]
  rw [opened, readEscaped_digit spanning zero (by decide),
    readEscaped_digit spanning zero (by decide), readEscaped_digit spanning first (by decide)]
  exact readEscaped_lastDigit spanning second (by simpa using same) rest

theorem toNat_of_needsEscape (control : needsEscape char = true) : char.toNat < 128 := by
  apply Decidable.byContradiction
  intro large
  have behindSpaces : '\x20' ≤ char := by
    rw [Char.le_def, UInt32.le_iff_toNat_le]
    exact Nat.le_trans (by decide) (Nat.not_lt.mp large)
  have noDelete : char ≠ '\x7F' := by
    rintro rfl
    exact large (by decide)
  have printable : isPrintable char = true := by
    simp [isPrintable, behindSpaces, noDelete]
  simp [needsEscape, printable] at control

/-- Everything that is escaped is read back. -/
theorem readEscaped_sequence (spanning : Bool)
    (escaped : char = '\t' ∨ char = '\n' ∨ char = '\\' ∨ needsEscape char = true)
    (rest : List Char) :
    readEscaped spanning .plain (escapeSequence char ++ rest) =
      push char (readEscaped spanning .plain rest) := by
  unfold escapeSequence
  split
  · exact readEscaped_short spanning rfl rest
  · exact readEscaped_short spanning rfl rest
  · exact readEscaped_short spanning rfl rest
  · exact readEscaped_short spanning rfl rest
  · exact readEscaped_short spanning rfl rest
  · exact readEscaped_short spanning rfl rest
  · next noTab noBreak _ _ noBackslash =>
      rcases escaped with isTab | isBreak | isBackslash | control
      · exact absurd isTab noTab
      · exact absurd isBreak noBreak
      · exact absurd isBackslash noBackslash
      · exact readEscaped_codePoint spanning (toNat_of_needsEscape control) rest

theorem readEscaped_char {spanning : Bool} (unquoted : char ≠ '"') (unescaped : char ≠ '\\')
    (allowed : isPrintable char = true ∨ spanning = true ∧ char = '\n') (rest : List Char) :
    readEscaped spanning .plain (char :: rest) =
      push char (readEscaped spanning .plain rest) := by
  have noReturn : char ≠ '\r' := by
    rcases allowed with printable | ⟨_, rfl⟩
    · exact not_return_of_isPrintable printable
    · decide
  have passes : (isPrintable char || (spanning && decide (char = '\n'))) = true := by
    rcases allowed with printable | ⟨rfl, rfl⟩
    · rw [printable]
      rfl
    · rfl
  rw [readEscaped_plain]
  simp [noReturn, unquoted, unescaped, passes]

/-- How a character other than a quote is written between double quotes. -/
def escapeChar (spanning : Bool) (char : Char) : List Char :=
  if spanning && char = '\n' then [char]
  else if char = '\t' || char = '\n' || char = '\\' || needsEscape char then escapeSequence char
  else [char]

theorem escape_cons {spanning : Bool} (unquoted : char ≠ '"') (together : Nat) (text : List Char) :
    escape spanning together (char :: text) =
      escapeChar spanning char ++ escape spanning 0 text := by
  conv_lhs => unfold escape
  unfold escapeChar
  rw [if_neg unquoted]
  split
  · rfl
  · split
    · rfl
    · rfl

theorem readEscaped_escapeChar {spanning : Bool} (unquoted : char ≠ '"') (rest : List Char) :
    readEscaped spanning .plain (escapeChar spanning char ++ rest) =
      push char (readEscaped spanning .plain rest) := by
  unfold escapeChar
  split
  · next isBreak =>
      rw [Bool.and_eq_true, decide_eq_true_eq] at isBreak
      rcases isBreak with ⟨rfl, rfl⟩
      exact readEscaped_char unquoted (by decide) (.inr ⟨rfl, rfl⟩) rest
  · split
    · next escaped =>
        refine readEscaped_sequence spanning ?_ rest
        simpa [or_assoc] using escaped
    · next plain =>
        simp only [Bool.or_eq_true, decide_eq_true_eq, not_or] at plain
        rcases plain with ⟨⟨⟨_, noBreak⟩, noBackslash⟩, noControl⟩
        have printable : isPrintable char = true := by
          simpa [needsEscape, noBreak] using noControl
        exact readEscaped_char unquoted noBackslash (.inl printable) rest

/-- What stands for a character begins with a backslash, or it is the character. -/
theorem head?_escapeChar (spanning : Bool) (char : Char) (rest : List Char) :
    (escapeChar spanning char ++ rest).head? = some '\\' ∨
      (escapeChar spanning char ++ rest).head? = some char ∧
        (isPrintable char = true ∨ char = '\n') := by
  unfold escapeChar
  split
  · next isBreak =>
      rw [Bool.and_eq_true, decide_eq_true_eq] at isBreak
      exact .inr ⟨rfl, .inr isBreak.2⟩
  · split
    · unfold escapeSequence
      left
      split
      all_goals rfl
    · next plain =>
        simp only [Bool.or_eq_true, decide_eq_true_eq, not_or] at plain
        have allowed : isPrintable char = true ∨ char = '\n' := by
          simpa [needsEscape, or_iff_not_imp_left] using plain.2
        exact .inr ⟨rfl, allowed⟩

theorem head?_escapeChar_ne {other : Char} (different : other ≠ '\\') (spanning : Bool)
    (elsewhere : char ≠ other ∨ other = '\r') (rest : List Char) :
    (escapeChar spanning char ++ rest).head? ≠ some other := by
  intro head
  rcases head?_escapeChar spanning char rest with escaped | ⟨plain, allowed⟩
  · exact different (Option.some.inj (head.symm.trans escaped))
  · have same : char = other := Option.some.inj (plain.symm.trans head)
    rcases elsewhere with unlike | rfl
    · exact unlike same
    · subst same
      rcases allowed with printable | impossible
      · exact not_return_of_isPrintable printable rfl
      · cases impossible

theorem readEscaped_line (text rest : List Char) :
    readEscaped false .plain (escape false 0 text ++ '"' :: rest) = some (text, rest) := by
  induction text with
  | nil => rfl
  | cons char text inductionHypothesis =>
      by_cases quoted : char = '"'
      · subst quoted
        have written : escape false 0 ('"' :: text) = '\\' :: '"' :: escape false 0 text := rfl
        rw [written, List.cons_append, List.cons_append, readEscaped_short false rfl,
          inductionHypothesis]
        rfl
      · rw [escape_cons quoted, List.append_assoc, readEscaped_escapeChar quoted,
          inductionHypothesis]
        rfl

theorem readEscaped_quote (input : List Char) :
    readEscaped true .plain ('"' :: input) =
      if quotes '"' ('"' :: input) < 3 then push '"' (readEscaped true .plain input)
      else some (closeRun '"' ('"' :: input)) := by
  rw [readEscaped_plain]
  rfl

theorem readEscaped_run (ends : rest.head? ≠ some '"') {count : Nat} (few : count ≤ 2) :
    readEscaped true .plain (List.replicate (count + 3) '"' ++ rest) =
      some (List.replicate count '"', rest) := by
  rw [← closeRun_replicate ends few]
  rw [List.replicate_succ, List.cons_append, readEscaped_quote, quotes_cons_self,
    quotes_replicate ends, if_neg (by omega)]

theorem escape_quote {together : Nat} (few : together < 2) (text : List Char) :
    escape true together ('"' :: text) = '"' :: escape true (together + 1) text := by
  conv_lhs => unfold escape
  simp [few]

theorem escape_quote_escaped {together : Nat} (many : ¬ together < 2) (text : List Char) :
    escape true together ('"' :: text) = '\\' :: '"' :: escape true 0 text := by
  conv_lhs => unfold escape
  simp [many]

/-- Of quotes that stand together at most two are written as they are, so written text
that begins with quotes consists of them, or there are too few to end it. -/
theorem run_of_escape {together : Nat} (few : together ≤ 2) (text closing : List Char) :
    (∃ count, count + together ≤ 2 ∧ text = List.replicate count '"' ∧
        escape true together text = List.replicate count '"') ∨
      quotes '"' (escape true together text ++ closing) + together ≤ 2 := by
  induction text generalizing together with
  | nil => exact .inl ⟨0, by omega, rfl, rfl⟩
  | cons char rest inductionHypothesis =>
      by_cases quoted : char = '"'
      · subst quoted
        by_cases more : together < 2
        · rw [escape_quote more]
          rcases inductionHypothesis (show together + 1 ≤ 2 from more) with
            ⟨count, fits, rfl, written⟩ | short
          · exact .inl ⟨count + 1, by omega, rfl, by rw [written]; rfl⟩
          · rw [List.cons_append, quotes_cons_self]
            exact .inr (by omega)
        · rw [escape_quote_escaped more, List.cons_append, quotes_of_head (by simp)]
          exact .inr (by omega)
      · have noQuote := head?_escapeChar_ne (by decide) true (.inl quoted)
        rw [escape_cons quoted, List.append_assoc, quotes_of_head (noQuote _)]
        exact .inr (by omega)

theorem readEscaped_lines {together : Nat} (few : together ≤ 2) (text : List Char)
    (ends : rest.head? ≠ some '"') :
    readEscaped true .plain (escape true together text ++ (List.replicate 3 '"' ++ rest)) =
      some (text, rest) := by
  induction text generalizing together with
  | nil => exact readEscaped_run ends (Nat.zero_le 2)
  | cons char text inductionHypothesis =>
      by_cases quoted : char = '"'
      · subst quoted
        rcases run_of_escape few ('"' :: text) (List.replicate 3 '"' ++ rest) with
          ⟨count, fits, all, written⟩ | short
        · rw [written, all, ← List.append_assoc, List.replicate_append_replicate]
          exact readEscaped_run ends (by omega)
        · by_cases more : together < 2
          · rw [escape_quote more, List.cons_append] at short ⊢
            rw [readEscaped_quote, if_pos (by omega), inductionHypothesis more]
            rfl
          · rw [escape_quote_escaped more, List.cons_append, List.cons_append,
              readEscaped_short true rfl, inductionHypothesis (Nat.zero_le 2)]
            rfl
      · rw [escape_cons quoted, List.append_assoc, readEscaped_escapeChar quoted,
          inductionHypothesis (Nat.zero_le 2)]
        rfl

/-! ## Every form -/

/-- A form can hold the text.  Between double quotes all text can stand. -/
def Style.Holds (text : List Char) : Style → Prop
  | escaped => True
  | escapedLines => True
  | verbatim => '\'' ∉ text ∧ ∀ char ∈ text, isPrintable char = true
  | verbatimLines =>
    Sparse '\'' 2 0 text ∧ ∀ char ∈ text, isPrintable char = true ∨ char = '\n'

theorem Style.of_holds (text : List Char) : (Style.of text).Holds text := by
  have printable (uncontrolled : (!text.any needsEscape) = true) :
      ∀ char ∈ text, isPrintable char = true ∨ char = '\n' := by
    intro char listed
    have plain := List.any_eq_false.mp ((Bool.not_eq_true' _).mp uncontrolled) char listed
    simpa [needsEscape, or_iff_not_imp_left] using plain
  unfold Style.of
  dsimp only
  split
  · trivial
  · split
    · next fits =>
        simp only [Bool.and_eq_true, decide_eq_true_eq] at fits
        rcases fits with ⟨⟨uncontrolled, noBreak⟩, none⟩
        refine ⟨not_mem_of_sparse (sparse_of_longestRun (Nat.le_of_eq none)), ?_⟩
        intro char listed
        refine (printable uncontrolled char listed).resolve_right ?_
        rintro rfl
        have contained := List.contains_iff_mem.mpr listed
        rw [contained] at noBreak
        cases noBreak
    · split
      · trivial
      · split
        · next fits =>
            simp only [Bool.and_eq_true, decide_eq_true_eq] at fits
            exact ⟨sparse_of_longestRun fits.2, printable fits.1⟩
        · split
          · trivial
          · trivial

theorem joined_some (text rest : List Char) :
    joined (some (text, rest)) = some (String.ofList text, rest) :=
  rfl

theorem read_of_escapedLine {input : List Char} (single : ∀ after, input ≠ '"' :: '"' :: after) :
    read ('"' :: input) = joined (readEscaped false .plain input) := by
  unfold read
  split
  · next after same =>
      injection same with _ same
      exact absurd same (single after)
  · next impossible =>
      injection impossible with impossible
      cases impossible
  · rfl

theorem read_of_verbatimLine {input : List Char} (single : ∀ after, input ≠ '\'' :: '\'' :: after) :
    read ('\'' :: input) = joined (readVerbatim false input) := by
  unfold read
  split
  · next impossible =>
      injection impossible with impossible
      cases impossible
  · next after same =>
      injection same with _ same
      exact absurd same (single after)
  · rfl

/-- A line break that was put behind an opening is dropped, and no other. -/
theorem afterOpening_append {content : List Char}
    (begins : '\n' ∉ text → content.head? ≠ some '\n' ∧ content.head? ≠ some '\r') :
    afterOpening ((if text.contains '\n' then ['\n'] else []) ++ content) = content := by
  by_cases lines : '\n' ∈ text
  · rw [if_pos (List.contains_iff_mem.mpr lines)]
    rfl
  · have noLines : ¬ text.contains '\n' = true := fun contained =>
      lines (List.contains_iff_mem.mp contained)
    rw [if_neg noLines, List.nil_append]
    rcases begins lines with ⟨noBreak, noReturn⟩
    unfold afterOpening lineBreak?
    split
    · exact absurd rfl noBreak
    · exact absurd rfl noReturn
    · rfl

theorem read_escaped (text : List Char) (noDouble : rest.head? ≠ some '"') :
    read (Style.escaped.write text ++ rest) = some (String.ofList text, rest) := by
  have written : Style.escaped.write text ++ rest =
      '"' :: (escape false 0 text ++ '"' :: rest) := by
    simp [Style.write]
  have single : ∀ after, escape false 0 text ++ '"' :: rest ≠ '"' :: '"' :: after := by
    intro after same
    cases text with
    | nil =>
        cases same
        exact noDouble rfl
    | cons char text =>
        by_cases quoted : char = '"'
        · subst quoted
          cases same
        · rw [escape_cons quoted, List.append_assoc] at same
          have head := congrArg List.head? same
          exact head?_escapeChar_ne (by decide) false (.inl quoted) _ head
  rw [written, read_of_escapedLine single, readEscaped_line, joined_some]

theorem read_verbatim (holds : Style.verbatim.Holds text) (noSingle : rest.head? ≠ some '\'') :
    read (Style.verbatim.write text ++ rest) = some (String.ofList text, rest) := by
  have written : Style.verbatim.write text ++ rest = '\'' :: (text ++ '\'' :: rest) := by
    simp [Style.write]
  have single : ∀ after, text ++ '\'' :: rest ≠ '\'' :: '\'' :: after := by
    intro after same
    cases text with
    | nil =>
        cases same
        exact noSingle rfl
    | cons char text =>
        have quoted : char = '\'' := (List.cons.inj same).1
        subst quoted
        exact holds.1 List.mem_cons_self
  rw [written, read_of_verbatimLine single, readVerbatim_line holds.1 holds.2, joined_some]

theorem read_escapedLines (text : List Char) (noDouble : rest.head? ≠ some '"') :
    read (Style.escapedLines.write text ++ rest) = some (String.ofList text, rest) := by
  have written : Style.escapedLines.write text ++ rest = '"' :: '"' :: '"' ::
      ((if text.contains '\n' then ['\n'] else []) ++
        (escape true 0 text ++ (List.replicate 3 '"' ++ rest))) := by
    simp [Style.write, opening, List.replicate]
  rw [written, read, afterOpening_append, readEscaped_lines (Nat.zero_le 2) text noDouble,
    joined_some]
  intro lines
  cases text with
  | nil => exact ⟨by simp [escape], by simp [escape]⟩
  | cons char text =>
      rw [List.mem_cons, not_or] at lines
      by_cases quoted : char = '"'
      · subst quoted
        exact ⟨by simp [escape], by simp [escape]⟩
      · rw [escape_cons quoted, List.append_assoc]
        exact ⟨head?_escapeChar_ne (by decide) true (.inl (Ne.symm lines.1)) _,
          head?_escapeChar_ne (by decide) true (.inr rfl) _⟩

theorem read_verbatimLines (holds : Style.verbatimLines.Holds text)
    (noSingle : rest.head? ≠ some '\'') :
    read (Style.verbatimLines.write text ++ rest) = some (String.ofList text, rest) := by
  have written : Style.verbatimLines.write text ++ rest = '\'' :: '\'' :: '\'' ::
      ((if text.contains '\n' then ['\n'] else []) ++
        (text ++ (List.replicate 3 '\'' ++ rest))) := by
    simp [Style.write, opening, List.replicate]
  rw [written, read, afterOpening_append,
    readVerbatim_lines holds.1 (Nat.zero_le 2) holds.2 noSingle, joined_some]
  intro lines
  cases text with
  | nil => exact ⟨by simp, by simp⟩
  | cons char text =>
      rw [List.mem_cons, not_or] at lines
      have printable := (holds.2 char List.mem_cons_self).resolve_right (Ne.symm lines.1)
      have noReturn := not_return_of_isPrintable printable
      exact ⟨by simpa using Ne.symm lines.1, by simpa using noReturn⟩

/-- Text in a form that holds it is read back, if no quote follows. -/
theorem Style.read_write {style : Style} (holds : style.Holds text)
    (noDouble : rest.head? ≠ some '"') (noSingle : rest.head? ≠ some '\'') :
    read (style.write text ++ rest) = some (String.ofList text, rest) := by
  cases style with
  | escaped => exact read_escaped text noDouble
  | verbatim => exact read_verbatim holds noSingle
  | escapedLines => exact read_escapedLines text noDouble
  | verbatimLines => exact read_verbatimLines holds noSingle

/-- Every text that is written is read back, if no quote follows. -/
theorem read_write (text : String) (noDouble : rest.head? ≠ some '"')
    (noSingle : rest.head? ≠ some '\'') : read (write text ++ rest) = some (text, rest) := by
  unfold write
  rw [Style.read_write (Style.of_holds text.toList) noDouble noSingle, String.ofList_toList]

end Quoted

end Toml

end SessionHost
