import SessionHost.Text.Bytes

namespace SessionHost

/-!
# Reading bytes as UTF-8

Decoding splits a byte string into units.  A unit is either one scalar value
or one maximal invalid part: the longest run of bytes that begins a well
formed sequence and is then broken off, or a single byte that begins none.
Strict decoding refuses any invalid part, and lossy decoding puts one
replacement character in the place of each.
-/

namespace Utf8

/-- What a leading byte announces: how many bytes follow it, which values the
first of them may take, and the payload bits of the leading byte itself.  The
narrowed ranges shut out overlong forms, surrogates and values past the end
of the code space. -/
structure Lead where
  following : Nat
  low : UInt8
  high : UInt8
  bits : Nat

def Lead.of? (byte : UInt8) : Option Lead :=
  if 0xC2 ≤ byte ∧ byte ≤ 0xDF then some ⟨1, 0x80, 0xBF, byte.toNat - 0xC0⟩
  else if byte = 0xE0 then some ⟨2, 0xA0, 0xBF, 0⟩
  else if byte = 0xED then some ⟨2, 0x80, 0x9F, 0xD⟩
  else if 0xE1 ≤ byte ∧ byte ≤ 0xEF then some ⟨2, 0x80, 0xBF, byte.toNat - 0xE0⟩
  else if byte = 0xF0 then some ⟨3, 0x90, 0xBF, 0⟩
  else if byte = 0xF4 then some ⟨3, 0x80, 0x8F, 4⟩
  else if 0xF1 ≤ byte ∧ byte ≤ 0xF3 then some ⟨3, 0x80, 0xBF, byte.toNat - 0xF0⟩
  else none

/-- Read the remaining continuation bytes of a sequence.  A byte that does
not continue it is left for the next unit. -/
def continuation : Nat → Nat → Bytes → Option Char × Bytes
  | 0, value, rest => (some (Char.ofNat value), rest)
  | _ + 1, _, [] => (none, [])
  | count + 1, value, byte :: rest =>
    if 0x80 ≤ byte ∧ byte ≤ 0xBF then
      continuation count (value * 64 + (byte.toNat - 0x80)) rest
    else (none, byte :: rest)

/-- The unit that begins with the given byte, and the bytes after it. -/
def unit (byte : UInt8) (rest : Bytes) : Option Char × Bytes :=
  if byte < 0x80 then (some (Char.ofNat byte.toNat), rest)
  else match Lead.of? byte, rest with
    | some lead, second :: after =>
      if lead.low ≤ second ∧ second ≤ lead.high then
        continuation (lead.following - 1) (lead.bits * 64 + (second.toNat - 0x80)) after
      else (none, rest)
    | _, _ => (none, rest)

theorem continuation_length (count value : Nat) (bytes : Bytes) :
    (continuation count value bytes).2.length ≤ bytes.length := by
  induction count generalizing value bytes with
  | zero => simp [continuation]
  | succ count ih =>
    cases bytes with
    | nil => simp [continuation]
    | cons byte rest =>
      simp only [continuation]
      split
      · exact Nat.le_succ_of_le (ih _ rest)
      · simp

theorem unit_length (byte : UInt8) (rest : Bytes) :
    (unit byte rest).2.length ≤ rest.length := by
  unfold unit
  split
  · simp
  · split
    · split
      · exact Nat.le_succ_of_le (continuation_length _ _ _)
      · simp
    · simp

/-- All units of a byte string, `none` standing for an invalid part. -/
def units : Bytes → List (Option Char)
  | [] => []
  | byte :: rest => (unit byte rest).1 :: units (unit byte rest).2
termination_by bytes => bytes.length
decreasing_by exact Nat.lt_succ_of_le (unit_length byte rest)

/-- The text, if every unit is a scalar value. -/
def decode? (bytes : Bytes) : Option String :=
  ((units bytes).mapM id).map String.ofList

/-- The text with U+FFFD for every maximal invalid part. -/
def decodeLossy (bytes : Bytes) : String :=
  String.ofList ((units bytes).map fun unit => unit.getD '\uFFFD')

end Utf8

end SessionHost
