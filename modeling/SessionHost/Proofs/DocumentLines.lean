import SessionHost.Proofs.DocumentLaws
import SessionHost.Proofs.Quotation
import SessionHost.Toml.Document

namespace SessionHost

/-!
# Lines of a document

A document that the host writes consists of lines of three kinds: blank ones, headers
of one name, and settings.  Each line is read back as the statement that it was written
for, and a blank one as none, so such a document is read line by line, however its lines
are put together.

A number could be mistaken for a date, a time or a float, which are tried first.  None
of them gets beyond the digits.
-/

namespace Toml

variable {rest written : List Char} {value : Nat}

/-! ## Numbers -/

/-- What a decimal digit stands for. -/
def digitValue (char : Char) : Nat :=
  char.toNat - '0'.toNat

theorem ne_of_isDigit {char other : Char} (isDigit : char.isDigit = true)
    (noDigit : other.isDigit = false) : char ≠ other := by
  rintro rfl
  rw [isDigit] at noDigit
  cases noDigit

theorem digit?_of_isDigit {char : Char} (isDigit : char.isDigit = true) :
    Number.digit? 10 char = some (digitValue char) := by
  unfold Char.isDigit at isDigit
  rw [Bool.and_eq_true, decide_eq_true_eq, decide_eq_true_eq] at isDigit
  have low : '0' ≤ char := isDigit.1
  have high : char ≤ '9' := isDigit.2
  have small : char.toNat ≤ 57 := UInt32.le_iff_toNat_le.mp isDigit.2
  have below : char.toNat - 48 < 10 := by omega
  simp [Number.digit?, Quoted.hexDigit?, low, high, below, digitValue]

theorem isDigit_toDigits (value : Nat) : ∀ char ∈ Nat.toDigits 10 value, char.isDigit = true :=
  fun _ => Nat.isDigit_of_mem_toDigits (by decide) (by decide)

/-- Only zero is written with a zero in front. -/
theorem toDigits_eq_zero (zero : (Nat.toDigits 10 value).head? = some '0') :
    Nat.toDigits 10 value = ['0'] := by
  induction value using Nat.strongRecOn with
  | ind value inductionHypothesis =>
      rw [Nat.toDigits_eq_if (by decide)] at zero ⊢
      by_cases small : value < 10
      · rw [if_pos small] at zero ⊢
        exact congrArg ([·]) (Option.some.inj zero)
      · rw [if_neg small, List.head?_append_of_ne_nil _ Nat.toDigits_ne_nil] at zero
        have shorter := inductionHypothesis (value / 10) (by omega) zero
        have back : Nat.ofDigitChars 10 (Nat.toDigits 10 (value / 10)) 0 = value / 10 :=
          Nat.ofDigitChars_toDigits (by decide) (by decide)
        rw [shorter] at back
        have nothing : value / 10 = 0 := back.symm
        omega

namespace Number

theorem moreDigits_append (digits : ∀ char ∈ written, char.isDigit = true) :
    moreDigits 10 (written ++ '\n' :: rest) = (written.map digitValue, '\n' :: rest) := by
  induction written with
  | nil => rfl
  | cons char written inductionHypothesis =>
      have onward := inductionHypothesis fun other listed =>
        digits other (List.mem_cons_of_mem _ listed)
      have isDigit := digit?_of_isDigit (digits char List.mem_cons_self)
      rw [List.cons_append]
      unfold moreDigits
      rw [isDigit, onward]
      rfl

theorem wholePart_toDigits (value : Nat) (rest : List Char) :
    wholePart (Nat.toDigits 10 value ++ '\n' :: rest) =
      some ((Nat.toDigits 10 value).map digitValue, '\n' :: rest) := by
  have allDigits := isDigit_toDigits value
  by_cases zero : (Nat.toDigits 10 value).head? = some '0'
  · rw [toDigits_eq_zero zero]
    rfl
  · cases isWritten : Nat.toDigits 10 value with
    | nil => exact absurd isWritten Nat.toDigits_ne_nil
    | cons char written =>
        rw [isWritten] at zero allDigits
        have positive : char ≠ '0' := fun same => zero (congrArg some same)
        have isDigit := digit?_of_isDigit (allDigits char List.mem_cons_self)
        have more : moreDigits 10 (written ++ '\n' :: rest) =
            (written.map digitValue, '\n' :: rest) :=
          moreDigits_append fun other listed => allDigits other (List.mem_cons_of_mem _ listed)
        rw [List.cons_append]
        unfold wholePart
        split
        · next impossible =>
            exact absurd (List.cons.inj impossible).1 positive
        · unfold digits
          dsimp only
          rw [isDigit, Option.map_some, more]
          rfl

theorem sign_toDigits (value : Nat) (rest : List Char) :
    sign (Nat.toDigits 10 value ++ rest) = (false, Nat.toDigits 10 value ++ rest) := by
  have allDigits := isDigit_toDigits value
  cases isWritten : Nat.toDigits 10 value with
  | nil => exact absurd isWritten Nat.toDigits_ne_nil
  | cons char written =>
      rw [isWritten] at allDigits
      have isDigit := allDigits char List.mem_cons_self
      rw [List.cons_append]
      unfold sign
      split
      · next impossible => exact absurd (List.cons.inj impossible).1 (ne_of_isDigit isDigit rfl)
      · next impossible => exact absurd (List.cons.inj impossible).1 (ne_of_isDigit isDigit rfl)
      · rfl

theorem ofDigits_toDigits (value : Nat) :
    ofDigits 10 ((Nat.toDigits 10 value).map digitValue) = value := by
  have back : Nat.ofDigitChars 10 (Nat.toDigits 10 value) 0 = value :=
    Nat.ofDigitChars_toDigits (by decide) (by decide)
  unfold Nat.ofDigitChars at back
  unfold ofDigits
  rw [List.foldl_map]
  simp only [Nat.mul_comm _ 10]
  exact back

theorem ofDigits_dropWhile (radix : Nat) (digits : List Nat) :
    ofDigits radix (digits.dropWhile (· = 0)) = ofDigits radix digits := by
  induction digits with
  | nil => rfl
  | cons digit digits inductionHypothesis =>
      by_cases zero : digit = 0
      · subst zero
        rw [List.dropWhile_cons_of_pos (by decide), inductionHypothesis]
        unfold ofDigits
        rw [List.foldl_cons, Nat.zero_mul]
      · rw [List.dropWhile_cons_of_neg (by simpa using zero)]

theorem inRange_toDigits (fits : (value : Int) ≤ largest) :
    inRange 10 false ((Nat.toDigits 10 value).map digitValue) = some (value : Int) := by
  have bound : value < 10 ^ 64 := by
    have isLargest : largest = 9223372036854775807 := rfl
    omega
  have short : (Nat.toDigits 10 value).length ≤ mostDigits :=
    (Nat.length_toDigits_le_iff (by decide) (by decide)).mpr bound
  have dropped := (List.dropWhile_suffix (· = 0)
    (l := (Nat.toDigits 10 value).map digitValue)).length_le
  have lowest : smallest ≤ (value : Int) := Int.le_trans (by decide) (Int.natCast_nonneg value)
  unfold inRange
  dsimp only
  rw [List.length_map] at dropped
  rw [if_neg (by omega), ofDigits_dropWhile, ofDigits_toDigits]
  exact if_pos ⟨lowest, fits⟩

/-- Behind a first digit there is another one or the end of the line. -/
theorem toDigits_append_eq_cons (value : Nat) (rest : List Char) :
    ∃ first more, Nat.toDigits 10 value ++ '\n' :: rest = first :: more ∧
      first.isDigit = true ∧ (first = '0' → more = '\n' :: rest) := by
  have allDigits := isDigit_toDigits value
  have zero : (Nat.toDigits 10 value).head? = some '0' → Nat.toDigits 10 value = ['0'] :=
    toDigits_eq_zero
  cases isWritten : Nat.toDigits 10 value with
  | nil => exact absurd isWritten Nat.toDigits_ne_nil
  | cons first written =>
      rw [isWritten] at allDigits zero
      refine ⟨first, _, rfl, allDigits first List.mem_cons_self, ?_⟩
      rintro rfl
      cases zero rfl
      rfl

theorem integer_toDigits (fits : (value : Int) ≤ largest) (rest : List Char) :
    integer (Nat.toDigits 10 value ++ '\n' :: rest) = some ((value : Int), '\n' :: rest) := by
  rcases toDigits_append_eq_cons value rest with ⟨first, more, isWritten, isDigit, alone⟩
  rw [isWritten]
  unfold integer
  split
  · next same =>
      injection same with zero same
      rw [alone zero] at same
      cases same
  · next same =>
      injection same with zero same
      rw [alone zero] at same
      cases same
  · next same =>
      injection same with zero same
      rw [alone zero] at same
      cases same
  · rw [← isWritten, sign_toDigits]
    dsimp only
    rw [wholePart_toDigits]
    simp only [bind, Option.bind]
    rw [inRange_toDigits fits]
    rfl

/-- No fraction and no exponent follows. -/
theorem float?_toDigits (value : Nat) (rest : List Char) :
    float? (Nat.toDigits 10 value ++ '\n' :: rest) = none := by
  have decimal : decimalFloat (Nat.toDigits 10 value ++ '\n' :: rest) = none := by
    unfold decimalFloat
    rw [sign_toDigits]
    dsimp only
    rw [wholePart_toDigits]
    rfl
  have special : specialFloat (Nat.toDigits 10 value ++ '\n' :: rest) = none := by
    rcases toDigits_append_eq_cons value rest with ⟨first, more, isWritten, isDigit, _⟩
    unfold specialFloat
    rw [sign_toDigits]
    dsimp only
    rw [isWritten]
    split
    · next same => exact absurd (List.cons.inj same).1 (ne_of_isDigit isDigit rfl)
    · next same => exact absurd (List.cons.inj same).1 (ne_of_isDigit isDigit rfl)
    · rfl
  unfold float?
  rw [decimal, special]
  rfl

end Number

namespace Moment

/-- Behind so many digits there is another one or the end of the line, and nothing
else. -/
theorem expect_of_fixedDigits (mark : Char) (digits : ∀ char ∈ written, char.isDigit = true)
    (noDigit : mark.isDigit = false) (noBreak : mark ≠ '\n') {count start result : Nat}
    {after : List Char}
    (read : fixedDigits count start (written ++ '\n' :: rest) = some (result, after)) :
    expect mark after = none := by
  induction count generalizing written start with
  | zero =>
      cases read
      cases written with
      | nil => exact if_neg (Ne.symm noBreak)
      | cons char written =>
          exact if_neg (ne_of_isDigit (digits char List.mem_cons_self) noDigit)
  | succ count inductionHypothesis =>
      cases written with
      | nil => cases read
      | cons char written =>
          rw [List.cons_append] at read
          unfold fixedDigits at read
          rw [digit?_of_isDigit (digits char List.mem_cons_self)] at read
          have more : ∀ other ∈ written, other.isDigit = true :=
            fun other listed => digits other (List.mem_cons_of_mem _ listed)
          exact inductionHypothesis more read

theorem fixedDigits_of_twoDigits {low high result : Nat} {input after : List Char}
    (read : twoDigits low high input = some (result, after)) :
    fixedDigits 2 0 input = some (result, after) := by
  unfold twoDigits at read
  rcases Option.bind_eq_some_iff.mp read with ⟨⟨value, behind⟩, found, read⟩
  rw [found]
  dsimp only at read
  split at read
  · exact read
  · cases read

/-- Neither a date nor a time is all digits. -/
theorem read?_toDigits (value : Nat) (rest : List Char) :
    read? (Nat.toDigits 10 value ++ '\n' :: rest) = none := by
  have digits := isDigit_toDigits value
  have date : date? (Nat.toDigits 10 value ++ '\n' :: rest) = none := by
    unfold date?
    cases read : fixedDigits 4 0 (Nat.toDigits 10 value ++ '\n' :: rest) with
    | none => rfl
    | some found =>
        have stops := expect_of_fixedDigits '-' digits rfl (by decide) read
        simp only [bind, Option.bind]
        rw [stops]
  have clock : clock? (Nat.toDigits 10 value ++ '\n' :: rest) = none := by
    unfold clock?
    cases read : twoDigits 0 23 (Nat.toDigits 10 value ++ '\n' :: rest) with
    | none => rfl
    | some found =>
        have stops := expect_of_fixedDigits ':' digits rfl (by decide)
          (fixedDigits_of_twoDigits read)
        simp only [bind, Option.bind]
        rw [stops]
  unfold read? time?
  rw [date, clock]
  rfl

end Moment

/-! ## Values -/

theorem scalar_of_quote {first : Char} (quoted : first = '"' ∨ first = '\'') (more : List Char) :
    scalar (first :: more) =
      (Quoted.read (first :: more)).map fun (text, rest) => (.text text, rest) := by
  rcases quoted with rfl | rfl
  · rfl
  · rfl

theorem scalar_of_isDigit {first : Char} (isDigit : first.isDigit = true) (more : List Char) :
    scalar (first :: more) =
      (((Moment.read? (first :: more)).map fun rest => (.moment, rest)) <|>
      ((Number.float? (first :: more)).map fun rest => (.float, rest)) <|>
      ((Number.integer (first :: more)).map fun (value, rest) => (.integer value, rest))) := by
  have noDouble : first ≠ '"' := ne_of_isDigit isDigit rfl
  have noSingle : first ≠ '\'' := ne_of_isDigit isDigit rfl
  have unquoted : (first = '"' || first = '\'') = false := by simp [noDouble, noSingle]
  unfold scalar
  split
  · next same => exact absurd (List.cons.inj same).1 (ne_of_isDigit isDigit rfl)
  · next same => exact absurd (List.cons.inj same).1 (ne_of_isDigit isDigit rfl)
  · next same =>
      cases same
      rw [unquoted]
      rfl
  · next same => cases same

theorem write_eq_cons (text : String) :
    ∃ first more, Quoted.write text = first :: more ∧ (first = '"' ∨ first = '\'') := by
  unfold Quoted.write
  cases Quoted.Style.of text.toList with
  | escaped => exact ⟨_, _, rfl, .inl rfl⟩
  | verbatim => exact ⟨_, _, rfl, .inr rfl⟩
  | escapedLines => exact ⟨_, _, rfl, .inl rfl⟩
  | verbatimLines => exact ⟨_, _, rfl, .inr rfl⟩

/-- What a value begins with does not look like an array, a table or a blank. -/
theorem Plain.write_eq_cons (plain : Plain) :
    ∃ first more, plain.write = first :: more ∧ isBlank first = false ∧ first ≠ '[' ∧
      first ≠ '\x7B' := by
  cases plain with
  | text content =>
      rcases Toml.write_eq_cons content with ⟨first, more, written, rfl | rfl⟩
      · exact ⟨_, more, written, by decide⟩
      · exact ⟨_, more, written, by decide⟩
  | path bytes =>
      rcases Toml.write_eq_cons (Utf8.decodeLossy bytes) with ⟨first, more, written, rfl | rfl⟩
      · exact ⟨_, more, written, by decide⟩
      · exact ⟨_, more, written, by decide⟩
  | number value =>
      cases isWritten : Nat.toDigits 10 value with
      | nil => exact absurd isWritten Nat.toDigits_ne_nil
      | cons first more =>
          have isDigit : first.isDigit = true :=
            isDigit_toDigits value first (isWritten ▸ List.mem_cons_self)
          have noSpace : first ≠ ' ' := ne_of_isDigit isDigit rfl
          have noTab : first ≠ '\t' := ne_of_isDigit isDigit rfl
          have blank : isBlank first = false := by simp [isBlank, noSpace, noTab]
          exact ⟨first, more, isWritten, blank, ne_of_isDigit isDigit rfl,
            ne_of_isDigit isDigit rfl⟩
  | flag value =>
      cases value with
      | true => exact ⟨_, _, rfl, by decide⟩
      | false => exact ⟨_, _, rfl, by decide⟩

theorem scalar_quoted (content : String) (rest : List Char) :
    scalar (Quoted.write content ++ '\n' :: rest) = some (.text content, '\n' :: rest) := by
  rcases Toml.write_eq_cons content with ⟨first, more, written, quoted⟩
  have read : Quoted.read (Quoted.write content ++ '\n' :: rest) =
      some (content, '\n' :: rest) :=
    Quoted.read_write content (by simp) (by simp)
  rw [written, List.cons_append] at read ⊢
  rw [scalar_of_quote quoted, read]
  rfl

theorem Plain.scalar_write {plain : Plain} (fits : plain.Fits) (rest : List Char) :
    scalar (plain.write ++ '\n' :: rest) = some (plain.item, '\n' :: rest) := by
  cases plain with
  | text content => exact scalar_quoted content rest
  | path bytes => exact scalar_quoted (Utf8.decodeLossy bytes) rest
  | number value =>
      rcases Number.toDigits_append_eq_cons value rest with ⟨first, more, isWritten, isDigit, _⟩
      have moment := Moment.read?_toDigits value rest
      have float := Number.float?_toDigits value rest
      have integer := Number.integer_toDigits fits rest
      unfold Plain.write
      dsimp only
      rw [isWritten] at moment float integer ⊢
      rw [scalar_of_isDigit isDigit, moment, float, integer]
      rfl
  | flag value =>
      cases value with
      | true => rfl
      | false => rfl

theorem Plain.value_write {plain : Plain} (fits : plain.Fits) (depth : Nat) (rest : List Char) :
    Toml.value depth (plain.write ++ '\n' :: rest) = some (plain.item, '\n' :: rest) := by
  rw [← Plain.scalar_write fits rest]
  rcases plain.write_eq_cons with ⟨first, more, written, _, noArray, noTable⟩
  rw [written, List.cons_append]
  cases depth with
  | zero => rfl
  | succ depth =>
      unfold Toml.value
      split
      · next same => exact absurd (List.cons.inj same).1 noArray
      · next same => exact absurd (List.cons.inj same).1 noTable
      · rfl

/-! ## Keys -/

theorem isKeyChar_of_bare {name : String} (bare : Bare name) :
    ∀ char ∈ name.toList, isKeyChar char = true := by
  intro char listed
  unfold Toml.isKeyChar
  rcases bare.2 char listed with letterOrDigit | rfl | rfl
  · unfold Char.isAlphanum Char.isAlpha Char.isUpper Char.isLower Char.isDigit at letterOrDigit
    simp only [Bool.or_eq_true, Bool.and_eq_true, decide_eq_true_eq] at letterOrDigit ⊢
    exact .inl (.inl letterOrDigit)
  · rfl
  · rfl

theorem ne_of_isKeyChar {char other : Char} (isKeyChar : isKeyChar char = true)
    (noKeyChar : Toml.isKeyChar other = false) : char ≠ other := by
  rintro rfl
  rw [isKeyChar] at noKeyChar
  cases noKeyChar

theorem Bare.toList_eq_cons {name : String} (bare : Bare name) :
    ∃ first more, name.toList = first :: more ∧ isKeyChar first = true := by
  cases isName : name.toList with
  | nil => exact absurd isName bare.1
  | cons first more =>
      have isFirst := isKeyChar_of_bare bare first (isName ▸ List.mem_cons_self)
      exact ⟨first, more, rfl, isFirst⟩

theorem keyPart_bare {name : String} (bare : Bare name) {tail : List Char}
    (ends : ∀ char ∈ tail.head?, isKeyChar char = false) :
    keyPart (name.toList ++ tail) = some (name, tail) := by
  have stops : tail.takeWhile isKeyChar = [] ∧ tail.dropWhile isKeyChar = tail := by
    cases tail with
    | nil => exact ⟨rfl, rfl⟩
    | cons char tail =>
        have noKeyChar := ends char rfl
        exact ⟨List.takeWhile_cons_of_neg (by simp [noKeyChar]),
          List.dropWhile_cons_of_neg (by simp [noKeyChar])⟩
  rcases bare.toList_eq_cons with ⟨first, more, isName, isFirst⟩
  have isMore : ∀ char ∈ more, isKeyChar char = true := fun char listed =>
    isKeyChar_of_bare bare char (isName ▸ List.mem_cons_of_mem _ listed)
  have noDouble : first ≠ '"' := ne_of_isKeyChar isFirst (by decide)
  have noSingle : first ≠ '\'' := ne_of_isKeyChar isFirst (by decide)
  have unquoted : (first = '"' || first = '\'') = false := by simp [noDouble, noSingle]
  rw [isName, List.cons_append]
  unfold keyPart
  dsimp only
  rw [unquoted, if_neg Bool.false_ne_true, if_pos isFirst, List.takeWhile_append_of_pos isMore,
    List.dropWhile_append_of_pos isMore, stops.1, stops.2, List.append_nil, ← isName,
    String.ofList_toList]

theorem key_bare {name : String} (bare : Bare name) {tail : List Char}
    (ends : ∀ char ∈ tail.head?, isKeyChar char = false)
    (single : (skipBlanks tail).head? ≠ some '.') :
    key (name.toList ++ tail) = some ([name], skipBlanks tail) := by
  have begins : skipBlanks (name.toList ++ tail) = name.toList ++ tail := by
    rcases bare.toList_eq_cons with ⟨first, more, isName, isFirst⟩
    have noSpace : first ≠ ' ' := ne_of_isKeyChar isFirst (by decide)
    have noTab : first ≠ '\t' := ne_of_isKeyChar isFirst (by decide)
    have blank : isBlank first = false := by simp [isBlank, noSpace, noTab]
    rw [isName, List.cons_append]
    exact List.dropWhile_cons_of_neg (by simp [blank])
  unfold key longestKey keyOfParts
  rw [begins, keyPart_bare bare ends]
  simp only [bind, Option.bind]
  split
  · next same =>
      rw [same] at single
      exact absurd rfl single
  · rfl

/-! ## Lines -/

namespace Line

/-- The statement that a line stands for. -/
def statement? : Line → Option Statement
  | blank => none
  | header name => some (.table [name])
  | entry setting => some (.assignment [setting.name] setting.value.item)

/-- The names of a line need no quotes, and its value has room in a document. -/
def WellFormed : Line → Prop
  | blank => True
  | header name => Bare name
  | entry setting => Bare setting.name ∧ setting.value.Fits

end Line

namespace Statement

theorem read_header {name : String} (bare : Bare name) (rest : List Char) :
    read (codec.line (.header name) ++ rest) = some (.table [name], rest) := by
  rcases bare.toList_eq_cons with ⟨first, more, isName, isFirst⟩
  have noElement : first ≠ '[' := ne_of_isKeyChar isFirst (by decide)
  have single : some ']' ≠ some '.' := by decide
  have found : key (name.toList ++ ']' :: '\n' :: rest) = some ([name], ']' :: '\n' :: rest) :=
    key_bare bare (by simp [isKeyChar]) single
  have written : codec.line (.header name) ++ rest =
      '[' :: (name.toList ++ ']' :: '\n' :: rest) := by
    simp [Codec.line]
  rw [written]
  unfold read
  split
  · next same =>
      rw [isName] at same
      injection same with _ same
      exact absurd (List.cons.inj same).1 noElement
  · next same =>
      injection same with _ same
      subst same
      rw [found]
      rfl
  · next others => exact absurd rfl (others _)

theorem read_entry {setting : Setting} (bare : Bare setting.name) (fits : setting.value.Fits)
    (rest : List Char) :
    read (codec.line (.entry setting) ++ rest) =
      some (.assignment [setting.name] setting.value.item, rest) := by
  rcases bare.toList_eq_cons with ⟨first, more, isName, isFirst⟩
  rcases setting.value.write_eq_cons with ⟨begins, following, isValue, blank, _, _⟩
  have noHeader : first ≠ '[' := ne_of_isKeyChar isFirst (by decide)
  have written : codec.line (.entry setting) ++ rest =
      setting.name.toList ++ ' ' :: '=' :: ' ' :: (setting.value.write ++ '\n' :: rest) := by
    simp [Codec.line, codec]
  have single : some '=' ≠ some '.' := by decide
  have found :
      key (setting.name.toList ++ ' ' :: '=' :: ' ' :: (setting.value.write ++ '\n' :: rest)) =
        some ([setting.name], '=' :: ' ' :: (setting.value.write ++ '\n' :: rest)) :=
    key_bare bare (by simp [isKeyChar]) single
  have begins : skipBlanks (' ' :: (setting.value.write ++ '\n' :: rest)) =
      setting.value.write ++ '\n' :: rest := by
    rw [isValue, List.cons_append]
    unfold skipBlanks
    rw [List.dropWhile_cons_of_pos (by decide), List.dropWhile_cons_of_neg (by simp [blank])]
  rw [written]
  unfold read
  split
  · next same =>
      rw [isName] at same
      exact absurd (List.cons.inj same).1 noHeader
  · next same =>
      rw [isName] at same
      exact absurd (List.cons.inj same).1 noHeader
  · rw [found]
    simp only [bind, Option.bind, expect, if_true]
    rw [begins, Plain.value_write fits]
    rfl

/-- A line that stands for a statement is read as that statement. -/
theorem read_line {line : Line} (wellFormed : line.WellFormed) {statement : Statement}
    (means : line.statement? = some statement) (rest : List Char) :
    read (codec.line line ++ rest) = some (statement, rest) := by
  cases line with
  | blank => cases means
  | header name =>
      cases means
      exact read_header wellFormed rest
  | entry setting =>
      cases means
      exact read_entry wellFormed.1 wellFormed.2 rest

theorem skipLayout_of_begins {first : Char} (begins : first = '[' ∨ isKeyChar first = true)
    (more : List Char) : skipLayout (first :: more) = first :: more := by
  have noKeyChars : ∀ other ∈ [' ', '\t', '\n', '\r', '#'],
      (other != '[' && !isKeyChar other) = true :=
    List.all_eq_true.mp rfl
  have different : ∀ other ∈ [' ', '\t', '\n', '\r', '#'], first ≠ other := by
    rintro other listed rfl
    have neither := noKeyChars first listed
    rcases begins with isHeader | isKey
    · rw [isHeader] at neither
      cases neither
    · rw [isKey, Bool.not_true, Bool.and_false] at neither
      cases neither
  simp only [List.forall_mem_cons] at different
  rcases different with ⟨noSpace, noTab, noBreak, noReturn, noComment, _⟩
  simp [skipLayout, skipLayoutFrom, isBlank, noSpace, noTab, noBreak, noReturn, noComment]

theorem write_eq_cons {line : Line} (wellFormed : line.WellFormed) {statement : Statement}
    (means : line.statement? = some statement) :
    ∃ first more, codec.line line = first :: more ∧ (first = '[' ∨ isKeyChar first = true) := by
  cases line with
  | blank => cases means
  | header name => exact ⟨_, _, rfl, .inl rfl⟩
  | entry setting =>
      rcases Bare.toList_eq_cons wellFormed.1 with ⟨first, more, isName, isFirst⟩
      refine ⟨first, more ++ (" = ".toList ++ setting.value.write ++ ['\n']), ?_, .inr isFirst⟩
      simp [Codec.line, codec, isName]

/-- The induction is on the lines; each of them uses up some of the fuel. -/
theorem readAll_lines {lines : List Line} (wellFormed : ∀ line ∈ lines, line.WellFormed)
    {fuel : Nat} (enough : (lines.flatMap codec.line).length < fuel) :
    readAll fuel (lines.flatMap codec.line) = some (lines.filterMap Line.statement?) := by
  induction lines generalizing fuel with
  | nil =>
      cases fuel with
      | zero => cases enough
      | succ fuel => rfl
  | cons line lines inductionHypothesis =>
      have others := fun other listed => wellFormed other (List.mem_cons_of_mem line listed)
      have isWellFormed := wellFormed line List.mem_cons_self
      rw [List.flatMap_cons, List.length_append] at enough
      rw [List.flatMap_cons]
      cases fuel with
      | zero => cases enough
      | succ fuel =>
          cases means : line.statement? with
          | none =>
              have isBlank : line = .blank := by
                cases line with
                | blank => rfl
                | header name => cases means
                | entry setting => cases means
              subst isBlank
              have onward : readAll (fuel + 1) (lines.flatMap codec.line) =
                  some (lines.filterMap Line.statement?) := inductionHypothesis others (by omega)
              rw [List.filterMap_cons_none means, ← onward]
              rfl
          | some statement =>
              rcases write_eq_cons isWellFormed means with ⟨first, more, written, begins⟩
              have nonempty : 0 < (codec.line line).length := by
                rw [written]
                exact Nat.succ_pos _
              have onward : readAll fuel (lines.flatMap codec.line) =
                  some (lines.filterMap Line.statement?) := inductionHypothesis others (by omega)
              have found := read_line isWellFormed means (lines.flatMap codec.line)
              rw [List.filterMap_cons_some means]
              unfold readAll
              rw [written, List.cons_append] at found ⊢
              rw [skipLayout_of_begins begins]
              dsimp only
              rw [found]
              simp only [bind, Option.bind]
              rw [onward]
              rfl

theorem ofDocument_lines {lines : List Line} (wellFormed : ∀ line ∈ lines, line.WellFormed) :
    ofDocument (String.ofList (lines.flatMap codec.line)) =
      some (lines.filterMap Line.statement?) := by
  have unmarked : withoutMark (lines.flatMap codec.line) = lines.flatMap codec.line := by
    cases lines with
    | nil => rfl
    | cons line lines =>
        rw [List.flatMap_cons]
        cases means : line.statement? with
        | none =>
            cases line with
            | blank => rfl
            | header name => cases means
            | entry setting => cases means
        | some statement =>
            rcases write_eq_cons (wellFormed line List.mem_cons_self) means with
              ⟨first, more, written, begins⟩
            have noMark : first ≠ '\uFEFF' := by
              rintro rfl
              rcases begins with impossible | impossible
              · exact absurd impossible (by decide)
              · exact absurd impossible (by decide)
            rw [written, List.cons_append]
            unfold withoutMark
            split
            · next same => exact absurd (List.cons.inj same).1 noMark
            · rfl
  unfold ofDocument
  rw [String.toList_ofList, unmarked]
  exact readAll_lines wellFormed (Nat.lt_succ_self _)

end Statement

end Toml

end SessionHost
