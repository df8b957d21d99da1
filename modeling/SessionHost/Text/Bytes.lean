namespace SessionHost

/-!
# Bytes

Console input, engine text, file contents and paths are bytes: nothing the
host does with them assumes an encoding.  A piece of text that crosses into
an engine ends at its first NUL, so NUL is the one byte value the host ever
looks for besides the line terminators.
-/

/-- Bytes in the order in which they were read or will be written. -/
abbrev Bytes := List UInt8

namespace Bytes

/-- The UTF-8 encoding of a text. -/
def ofString (text : String) : Bytes :=
  text.toList.flatMap String.utf8EncodeChar

def hasNul (bytes : Bytes) : Bool :=
  bytes.any (· == 0)

/-- What a reader that stops at the first NUL sees. -/
def cutAtNul (bytes : Bytes) : Bytes :=
  bytes.takeWhile (· != 0)

/-- The text that a reader finds in memory.  Without a NUL it would read past
the end. -/
def text? (memory : Bytes) : Option Bytes :=
  if memory.hasNul then some memory.cutAtNul else none

/-- The text in memory, where its length is passed as well. -/
def sizedText? (length : Int64) (memory : Bytes) : Option Bytes :=
  memory.text?.filter fun text => text.length = length.toInt

/-- Text handed across as a NUL-terminated string.  Bytes that already hold a
NUL have no such form, and the empty string stands for them. -/
def terminated (bytes : Bytes) : Bytes :=
  if bytes.hasNul then [] else bytes

theorem hasNul_cutAtNul (bytes : Bytes) : (cutAtNul bytes).hasNul = false := by
  induction bytes with
  | nil => rfl
  | cons byte rest ih =>
    by_cases nul : byte = 0
    · simp [cutAtNul, hasNul, nul]
    · have step : cutAtNul (byte :: rest) = byte :: cutAtNul rest := by
        simp [cutAtNul, nul]
      rw [step]
      simpa [hasNul, nul] using ih

end Bytes

end SessionHost
