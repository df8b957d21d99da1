import SessionHost.Text.Utf8
import Mathlib.Data.List.Basic

namespace SessionHost

/-!
# Texts and their encodings

Decoding splits bytes into units, and encoding writes each character as a
sequence of one to four bytes.  The two are inverse: a unit that is a character
is exactly the sequence of that character, and the sequence of a character is
one unit, whatever follows it.  So strict decoding accepts the encodings of
texts and nothing else, and lossy decoding makes no NUL where there was none.

What a leading byte announces depends on its value alone, so the six forms of a
sequence are told apart once, in `Lead.of?_eq`, and everything else is
arithmetic on the values of bytes.
-/

namespace Utf8

open String (utf8EncodeChar)

/-! ## Bytes and their values -/

theorem toNat_byte {value : Nat} (bound : value < 256) : (UInt8.ofNat value).toNat = value := by
  rw [UInt8.toNat_ofNat']
  exact Nat.mod_eq_of_lt bound

/-- The six bits of a continuation byte. -/
theorem toNat_tail (bits : Nat) : (UInt8.ofNat (bits % 64 + 128)).toNat = bits % 64 + 128 :=
  toNat_byte (by omega)

theorem eq_byte (byte : UInt8) {value : Nat} (same : byte.toNat = value) :
    UInt8.ofNat value = byte := by
  rw [← same]
  exact UInt8.ofNat_toNat

theorem le_byte {low byte : UInt8} : low ≤ byte ↔ low.toNat ≤ byte.toNat :=
  UInt8.le_iff_toNat_le

theorem val_ofNat {value : Nat} (valid : value.isValidChar) :
    (Char.ofNat value).val.toNat = value := by
  have encoded : Char.ofNat value = Char.ofNatAux value valid := dif_pos valid
  rw [encoded]
  rfl

theorem utf8EncodeChar_ofNat {value : Nat} (valid : value.isValidChar) :
    utf8EncodeChar (Char.ofNat value) =
      if value ≤ 127 then [.ofNat value]
      else if value ≤ 2047 then [.ofNat (value / 64 % 32 + 192), .ofNat (value % 64 + 128)]
      else if value ≤ 65535 then
        [.ofNat (value / 4096 % 16 + 224), .ofNat (value / 64 % 64 + 128),
          .ofNat (value % 64 + 128)]
      else
        [.ofNat (value / 262144 % 8 + 240), .ofNat (value / 4096 % 64 + 128),
          .ofNat (value / 64 % 64 + 128), .ofNat (value % 64 + 128)] := by
  unfold utf8EncodeChar
  rw [val_ofNat valid]

/-- What a leading byte announces, by the value of the byte. -/
theorem Lead.of?_eq (byte : UInt8) :
    Lead.of? byte =
      if 0xC2 ≤ byte.toNat ∧ byte.toNat ≤ 0xDF then some ⟨1, 0x80, 0xBF, byte.toNat - 0xC0⟩
      else if 0xE0 ≤ byte.toNat ∧ byte.toNat ≤ 0xEF then
        some ⟨2, if byte.toNat = 0xE0 then 0xA0 else 0x80,
          if byte.toNat = 0xED then 0x9F else 0xBF, byte.toNat - 0xE0⟩
      else if 0xF0 ≤ byte.toNat ∧ byte.toNat ≤ 0xF4 then
        some ⟨3, if byte.toNat = 0xF0 then 0x90 else 0x80,
          if byte.toNat = 0xF4 then 0x8F else 0xBF, byte.toNat - 0xF0⟩
      else none := by
  unfold Lead.of?
  simp only [← UInt8.toNat_inj, le_byte]
  simp
  split_ifs <;> first | omega | simp_all

/-! ## Reading what was encoded -/

/-- A continuation byte adds six bits. -/
theorem continuation_succ (count value : Nat) {byte : UInt8} (low : 0x80 ≤ byte.toNat)
    (high : byte.toNat ≤ 0xBF) (rest : Bytes) :
    continuation (count + 1) value (byte :: rest) =
      continuation count (value * 64 + (byte.toNat - 0x80)) rest := by
  conv_lhs => unfold continuation
  rw [if_pos ⟨le_byte.mpr low, le_byte.mpr high⟩]

theorem unit_of_lead {byte second : UInt8} {lead : Lead} (large : 0x80 ≤ byte.toNat)
    (leads : Lead.of? byte = some lead) (low : lead.low ≤ second) (high : second ≤ lead.high)
    (rest : Bytes) :
    unit byte (second :: rest) =
      continuation (lead.following - 1) (lead.bits * 64 + (second.toNat - 0x80)) rest := by
  unfold unit
  have notSingle : ¬ byte < 0x80 := by
    rw [UInt8.lt_iff_toNat_lt]
    exact Nat.not_lt.mpr large
  rw [if_neg notSingle, leads]
  dsimp only
  rw [if_pos ⟨low, high⟩]

theorem unit_one {value : Nat} (high : value ≤ 127) (rest : Bytes) :
    unit (.ofNat value) rest = (some (Char.ofNat value), rest) := by
  have small : UInt8.ofNat value < 0x80 := by
    rw [UInt8.lt_iff_toNat_lt, toNat_byte (by omega)]
    exact Nat.lt_succ_of_le high
  unfold unit
  rw [if_pos small, toNat_byte (by omega)]

theorem unit_two {value : Nat} (low : 127 < value) (high : value ≤ 2047) (rest : Bytes) :
    unit (.ofNat (value / 64 % 32 + 192)) (.ofNat (value % 64 + 128) :: rest) =
      (some (Char.ofNat value), rest) := by
  have first : (UInt8.ofNat (value / 64 % 32 + 192)).toNat = value / 64 + 192 := by
    rw [toNat_byte (by omega)]
    omega
  have second := toNat_tail value
  have leads := Lead.of?_eq (.ofNat (value / 64 % 32 + 192))
  rw [first, if_pos (by omega)] at leads
  have least : 0x80 ≤ UInt8.ofNat (value % 64 + 128) := by
    rw [le_byte, second]
    simp
  have most : UInt8.ofNat (value % 64 + 128) ≤ 0xBF := by
    rw [le_byte, second]
    simp
    omega
  rw [unit_of_lead (by omega) leads least most, second]
  have joined : (value / 64 + 192 - 192) * 64 + (value % 64 + 128 - 128) = value := by omega
  rw [joined]
  rfl

theorem unit_three {value : Nat} (low : 2047 < value) (high : value ≤ 65535)
    (valid : value.isValidChar) (rest : Bytes) :
    unit (.ofNat (value / 4096 % 16 + 224))
        (.ofNat (value / 64 % 64 + 128) :: .ofNat (value % 64 + 128) :: rest) =
      (some (Char.ofNat value), rest) := by
  unfold Nat.isValidChar at valid
  have first : (UInt8.ofNat (value / 4096 % 16 + 224)).toNat = value / 4096 + 224 := by
    rw [toNat_byte (by omega)]
    omega
  have second := toNat_tail (value / 64)
  have third := toNat_tail value
  have leads := Lead.of?_eq (.ofNat (value / 4096 % 16 + 224))
  rw [first, if_neg (by omega), if_pos (by omega)] at leads
  have least : (if value / 4096 + 224 = 0xE0 then 0xA0 else 0x80) ≤
      UInt8.ofNat (value / 64 % 64 + 128) := by
    rw [le_byte, second]
    split
    · simp
      omega
    · simp
  have most : UInt8.ofNat (value / 64 % 64 + 128) ≤
      (if value / 4096 + 224 = 0xED then 0x9F else 0xBF) := by
    rw [le_byte, second]
    split
    · simp
      omega
    · simp
      omega
  rw [unit_of_lead (by omega) leads least most]
  dsimp only
  rw [continuation_succ _ _ (by omega) (by omega), second, third]
  have joined : ((value / 4096 + 224 - 224) * 64 + (value / 64 % 64 + 128 - 128)) * 64 +
      (value % 64 + 128 - 128) = value := by omega
  rw [joined]
  rfl

theorem unit_four {value : Nat} (low : 65535 < value) (valid : value.isValidChar) (rest : Bytes) :
    unit (.ofNat (value / 262144 % 8 + 240))
        (.ofNat (value / 4096 % 64 + 128) :: .ofNat (value / 64 % 64 + 128) ::
          .ofNat (value % 64 + 128) :: rest) =
      (some (Char.ofNat value), rest) := by
  unfold Nat.isValidChar at valid
  have first : (UInt8.ofNat (value / 262144 % 8 + 240)).toNat = value / 262144 + 240 := by
    rw [toNat_byte (by omega)]
    omega
  have second := toNat_tail (value / 4096)
  have third := toNat_tail (value / 64)
  have fourth := toNat_tail value
  have leads := Lead.of?_eq (.ofNat (value / 262144 % 8 + 240))
  rw [first, if_neg (by omega), if_neg (by omega), if_pos (by omega)] at leads
  have least : (if value / 262144 + 240 = 0xF0 then 0x90 else 0x80) ≤
      UInt8.ofNat (value / 4096 % 64 + 128) := by
    rw [le_byte, second]
    split
    · simp
      omega
    · simp
  have most : UInt8.ofNat (value / 4096 % 64 + 128) ≤
      (if value / 262144 + 240 = 0xF4 then 0x8F else 0xBF) := by
    rw [le_byte, second]
    split
    · simp
      omega
    · simp
      omega
  rw [unit_of_lead (by omega) leads least most]
  dsimp only
  rw [continuation_succ _ _ (by omega) (by omega), continuation_succ _ _ (by omega) (by omega),
    second, third, fourth]
  have joined : (((value / 262144 + 240 - 240) * 64 + (value / 4096 % 64 + 128 - 128)) * 64 +
      (value / 64 % 64 + 128 - 128)) * 64 + (value % 64 + 128 - 128) = value := by omega
  rw [joined]
  rfl

/-- The sequence of a character is one unit, whatever follows it. -/
theorem unit_utf8EncodeChar (char : Char) (rest : Bytes) :
    ∃ byte more, utf8EncodeChar char = byte :: more ∧
      unit byte (more ++ rest) = (some char, rest) := by
  have same : Char.ofNat char.val.toNat = char := Char.ofNat_toNat char
  have valid : char.val.toNat.isValidChar := char.valid
  have sequence := utf8EncodeChar_ofNat valid
  rw [same] at sequence
  rw [sequence]
  generalize char.val.toNat = value at same valid
  subst same
  by_cases one : value ≤ 127
  · rw [if_pos one]
    exact ⟨_, _, rfl, unit_one one rest⟩
  rw [if_neg one]
  by_cases two : value ≤ 2047
  · rw [if_pos two]
    exact ⟨_, _, rfl, unit_two (by omega) two rest⟩
  rw [if_neg two]
  by_cases three : value ≤ 65535
  · rw [if_pos three]
    exact ⟨_, _, rfl, unit_three (by omega) three valid rest⟩
  · rw [if_neg three]
    exact ⟨_, _, rfl, unit_four (by omega) valid rest⟩

/-! ## Encoding what was read -/

theorem continuation_zero {value : Nat} {bytes after : Bytes} {char : Char}
    (read : continuation 0 value bytes = (some char, after)) :
    Char.ofNat value = char ∧ bytes = after := by
  simpa [continuation] using read

theorem continuation_eq_some {count value : Nat} {bytes after : Bytes} {char : Char}
    (read : continuation (count + 1) value bytes = (some char, after)) :
    ∃ byte rest, bytes = byte :: rest ∧ 0x80 ≤ byte.toNat ∧ byte.toNat ≤ 0xBF ∧
      continuation count (value * 64 + (byte.toNat - 0x80)) rest = (some char, after) := by
  unfold continuation at read
  cases bytes with
  | nil => cases read
  | cons byte rest =>
      dsimp only at read
      split at read
      · next within => exact ⟨byte, rest, rfl, le_byte.mp within.1, le_byte.mp within.2, read⟩
      · cases read

/-- How many bytes follow the first two of a longer sequence, by the bits that
these two give it.  Overlong forms, surrogates and values past the end are shut
out by now. -/
def Opens (byte : UInt8) (value count : Nat) : Prop :=
  count = 0 ∧ byte.toNat = value / 64 + 192 ∧ 2 ≤ value / 64 ∧ value < 2048 ∨
    count = 1 ∧ byte.toNat = value / 64 + 224 ∧
      (32 ≤ value ∧ value < 864 ∨ 896 ≤ value ∧ value < 1024) ∨
    count = 2 ∧ byte.toNat = value / 64 + 240 ∧ 16 ≤ value ∧ value < 272

theorem opens_of_lead {byte second : UInt8} {lead : Lead} (leads : Lead.of? byte = some lead)
    (low : lead.low ≤ second) (high : second ≤ lead.high) :
    second.toNat = (lead.bits * 64 + (second.toNat - 0x80)) % 64 + 128 ∧
      Opens byte (lead.bits * 64 + (second.toNat - 0x80)) (lead.following - 1) := by
  unfold Opens
  rw [le_byte] at low high
  rw [Lead.of?_eq] at leads
  split at leads
  · rw [Option.some.injEq] at leads
    subst leads
    have low : 0x80 ≤ second.toNat := low
    have high : second.toNat ≤ 0xBF := high
    dsimp only
    omega
  split at leads
  · rw [Option.some.injEq] at leads
    subst leads
    dsimp only at low high ⊢
    have low : (if byte.toNat = 0xE0 then 0xA0 else 0x80) ≤ second.toNat := by
      split at low <;> simp_all
    have high : second.toNat ≤ (if byte.toNat = 0xED then 0x9F else 0xBF) := by
      split at high <;> simp_all
    split at low <;> split at high <;> omega
  split at leads
  · rw [Option.some.injEq] at leads
    subst leads
    dsimp only at low high ⊢
    have low : (if byte.toNat = 0xF0 then 0x90 else 0x80) ≤ second.toNat := by
      split at low <;> simp_all
    have high : second.toNat ≤ (if byte.toNat = 0xF4 then 0x8F else 0xBF) := by
      split at high <;> simp_all
    split at low <;> split at high <;> omega
  · cases leads

theorem unit_eq_some {byte : UInt8} {rest after : Bytes} {char : Char} (large : ¬ byte < 0x80)
    (read : unit byte rest = (some char, after)) :
    ∃ second more value count, rest = second :: more ∧ second.toNat = value % 64 + 128 ∧
      Opens byte value count ∧ continuation count value more = (some char, after) := by
  unfold unit at read
  rw [if_neg large] at read
  split at read
  · next lead second more leads =>
      split at read
      · next within =>
          rcases opens_of_lead leads within.1 within.2 with ⟨low, opens⟩
          exact ⟨second, more, _, _, rfl, low, opens, read⟩
      · cases read
  · cases read

/-- A unit that is a character is the sequence that encodes it. -/
theorem eq_of_unit {byte : UInt8} {rest after : Bytes} {char : Char}
    (read : unit byte rest = (some char, after)) : byte :: rest = utf8EncodeChar char ++ after := by
  by_cases single : byte < 0x80
  · unfold unit at read
    rw [if_pos single] at read
    have small : byte.toNat < 128 := UInt8.lt_iff_toNat_lt.mp single
    simp only [Prod.mk.injEq, Option.some.injEq] at read
    rcases read with ⟨rfl, rfl⟩
    rw [utf8EncodeChar_ofNat (Or.inl (by omega)), if_pos (by omega), UInt8.ofNat_toNat]
    rfl
  rcases unit_eq_some single read with ⟨second, more, value, count, rfl, middle, opens, read⟩
  rcases opens with ⟨rfl, first, low, high⟩ | ⟨rfl, first, range⟩ | ⟨rfl, first, low, high⟩
  · rcases continuation_zero read with ⟨rfl, rfl⟩
    rw [utf8EncodeChar_ofNat (Or.inl (by omega)), if_neg (by omega), if_pos (by omega),
      eq_byte byte (by omega), eq_byte second (by omega)]
    rfl
  · rcases continuation_eq_some read with ⟨third, last, rfl, least, most, read⟩
    rcases continuation_zero read with ⟨rfl, rfl⟩
    rw [utf8EncodeChar_ofNat (by unfold Nat.isValidChar; omega), if_neg (by omega),
      if_neg (by omega), if_pos (by omega), eq_byte byte (by omega),
      eq_byte second (by omega), eq_byte third (by omega)]
    rfl
  · rcases continuation_eq_some read with ⟨third, _, rfl, least, most, read⟩
    rcases continuation_eq_some read with ⟨fourth, last, rfl, least', most', read⟩
    rcases continuation_zero read with ⟨rfl, rfl⟩
    rw [utf8EncodeChar_ofNat (by unfold Nat.isValidChar; omega), if_neg (by omega),
      if_neg (by omega), if_neg (by omega), eq_byte byte (by omega),
      eq_byte second (by omega), eq_byte third (by omega),
      eq_byte fourth (by omega)]
    rfl

/-! ## Whole texts -/

theorem units_nil : units [] = [] := by
  unfold units
  rfl

theorem units_cons (byte : UInt8) (rest : Bytes) :
    units (byte :: rest) = (unit byte rest).1 :: units (unit byte rest).2 := by
  conv_lhs => unfold units

theorem units_flatMap (chars : List Char) :
    units (chars.flatMap utf8EncodeChar) = chars.map some := by
  induction chars with
  | nil => exact units_nil
  | cons char rest inductionHypothesis =>
      rcases unit_utf8EncodeChar char (rest.flatMap utf8EncodeChar) with ⟨byte, more, encoded, read⟩
      rw [List.flatMap_cons, encoded, List.cons_append, units_cons, read, inductionHypothesis,
        List.map_cons]

/-- Bytes of which every unit is a character are the sequences of these. -/
theorem flatMap_of_units {chars : List Char} {bytes : Bytes} (read : units bytes = chars.map some) :
    chars.flatMap utf8EncodeChar = bytes := by
  induction chars generalizing bytes with
  | nil =>
      cases bytes with
      | nil => rfl
      | cons byte rest =>
          rw [units_cons] at read
          cases read
  | cons char chars inductionHypothesis =>
      cases bytes with
      | nil =>
          rw [units_nil] at read
          cases read
      | cons byte rest =>
          rw [units_cons, List.map_cons, List.cons.injEq] at read
          rw [eq_of_unit (Prod.ext read.1 rfl), List.flatMap_cons, inductionHypothesis read.2]

theorem mapM_id_eq_some {units : List (Option Char)} {chars : List Char} :
    units.mapM id = some chars ↔ units = chars.map some := by
  induction units generalizing chars with
  | nil => cases chars <;> simp
  | cons unit rest inductionHypothesis =>
      rw [List.mapM_cons]
      cases unit with
      | none => cases chars <;> simp
      | some first =>
          cases chars with
          | nil => simp [Option.bind_eq_some_iff]
          | cons char chars => simp [← inductionHypothesis, Option.bind_eq_some_iff, and_comm]

/-- Strict decoding accepts the encodings of texts, and nothing else. -/
theorem decode?_eq_some_iff {bytes : Bytes} {text : String} :
    decode? bytes = some text ↔ Bytes.ofString text = bytes := by
  unfold decode? Bytes.ofString
  rw [Option.map_eq_some_iff]
  constructor
  · rintro ⟨chars, read, rfl⟩
    rw [String.toList_ofList]
    exact flatMap_of_units (mapM_id_eq_some.mp read)
  · rintro rfl
    exact ⟨text.toList, mapM_id_eq_some.mpr (units_flatMap text.toList), String.ofList_toList⟩

example : decode? [0xC3, 0xA9] = some "é" :=
  decode?_eq_some_iff.mpr rfl

/-- Where nothing is invalid there is nothing to replace. -/
theorem decodeLossy_ofString (text : String) : decodeLossy (Bytes.ofString text) = text := by
  unfold decodeLossy Bytes.ofString
  rw [units_flatMap, List.map_map]
  exact (congrArg String.ofList (List.map_id text.toList)).trans String.ofList_toList

/-! ## The character NUL -/

theorem continuation_suffix (count value : Nat) (bytes : Bytes) :
    (continuation count value bytes).2 <:+ bytes := by
  induction count generalizing value bytes with
  | zero => exact List.suffix_refl bytes
  | succ count inductionHypothesis =>
      unfold continuation
      cases bytes with
      | nil => exact List.suffix_refl []
      | cons byte rest =>
          dsimp only
          split
          · exact (inductionHypothesis _ rest).trans (List.suffix_cons byte rest)
          · exact List.suffix_refl _

theorem unit_suffix (byte : UInt8) (rest : Bytes) : (unit byte rest).2 <:+ rest := by
  unfold unit
  split
  · exact List.suffix_refl rest
  · split
    · next lead second more leads =>
        split
        · exact (continuation_suffix _ _ more).trans (List.suffix_cons second more)
        · exact List.suffix_refl _
    · exact List.suffix_refl _

/-- Decoding makes no NUL where there was none. -/
theorem zero_mem_of_units {bytes : Bytes} (listed : some '\x00' ∈ units bytes) : 0 ∈ bytes := by
  induction bytes using units.induct with
  | case1 =>
      rw [units_nil] at listed
      cases listed
  | case2 byte rest inductionHypothesis =>
      rw [units_cons, List.mem_cons] at listed
      rcases listed with here | later
      · have sequence : byte :: rest = 0 :: (unit byte rest).2 :=
          eq_of_unit (Prod.ext here.symm rfl)
        rw [sequence]
        exact List.mem_cons_self
      · exact List.mem_cons_of_mem byte ((unit_suffix byte rest).mem (inductionHypothesis later))

theorem zero_mem_of_decodeLossy {bytes : Bytes} (listed : '\x00' ∈ (decodeLossy bytes).toList) :
    0 ∈ bytes := by
  unfold decodeLossy at listed
  rw [String.toList_ofList, List.mem_map] at listed
  rcases listed with ⟨unit, isUnit, same⟩
  cases unit with
  | none => cases same
  | some char =>
      cases same
      exact zero_mem_of_units isUnit

end Utf8

end SessionHost
