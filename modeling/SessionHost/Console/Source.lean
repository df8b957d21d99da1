import SessionHost.Text.Bytes

namespace SessionHost

/-!
# Reading console input by lines

A source is a buffer in front of a device.  The device is asked for more only
when the buffer is empty, and each read yields one event of its script: some
bytes, nothing (which is an end of input, once), an interruption, or a fault.
A request takes bytes up to and including the first line feed, and never more
than its limit; the rest stays in the buffer for the next request.  A fault
loses the bytes that the current request had taken from the buffer before it.
-/

/-- What a device says when it cannot be read. -/
inductive ReadFault where
  | deviceGone
  | wouldBlock
deriving DecidableEq, Repr

def ReadFault.message : ReadFault → String
  | deviceGone => "device gone"
  | wouldBlock => "operation would block"

/-- The outcome of one read from the device. -/
inductive ReadEvent where
  /-- Bytes for the buffer.  No bytes mean that the input has ended for now. -/
  | chunk (bytes : Bytes)
  /-- The read was cut short by a signal and is simply made again. -/
  | interrupted
  | fault (cause : ReadFault)
deriving DecidableEq, Repr

/-- What a device does once its script is used up. -/
inductive Tail where
  /-- Every further read finds the end of the input. -/
  | closed
  /-- Every further read gives this line, with its line feed. -/
  | repeating (line : Bytes)
deriving DecidableEq, Repr

structure Source where
  buffer : Bytes := []
  script : List ReadEvent
  tail : Tail := .closed
  /-- How many reads reached the device. -/
  reads : Nat := 0
deriving DecidableEq, Repr

def lineFeed : UInt8 := 0x0A

def carriageReturn : UInt8 := 0x0D

namespace Source

/-- Bytes in pieces of the given size; the last piece may be shorter. -/
def pieces (size : Nat) (bytes : Bytes) : List Bytes :=
  if _ongoing : 0 < size ∧ bytes ≠ [] then bytes.take size :: pieces size (bytes.drop size)
  else []
termination_by bytes.length
decreasing_by
  have := List.length_pos_iff.mpr _ongoing.2
  rw [List.length_drop]
  omega

/-- A device that hands out each of the given chunks in reads of at most
`size` bytes, and nothing afterwards. -/
def ofChunks (size : Nat) (chunks : List Bytes) : Source where
  script := chunks.flatMap fun chunk =>
    if chunk.isEmpty then [.chunk []] else (pieces size chunk).map .chunk

/-- The part of a buffer that belongs to a request. -/
structure Cut where
  taken : Bytes
  rest : Bytes
  /-- The request needs nothing more: it has its line feed, or its limit. -/
  complete : Bool
deriving DecidableEq, Repr

/-- Cut a buffer after its first line feed or at the limit, whichever comes
first. -/
def cut : (limit : Nat) → (buffer : Bytes) → Cut
  | 0, buffer => ⟨[], buffer, true⟩
  | _ + 1, [] => ⟨[], [], false⟩
  | limit + 1, byte :: buffer =>
    if byte = lineFeed then ⟨[byte], buffer, true⟩
    else
      let here := cut limit buffer
      { here with taken := byte :: here.taken }

/-- What one request takes from a source. -/
inductive Gathered where
  /-- The bytes taken, terminator included; none at an end of input. -/
  | bytes (taken : Bytes)
  | failed (cause : ReadFault)
deriving DecidableEq, Repr

/-- What a request takes that took some bytes before.  A fault loses them. -/
def Gathered.behind (taken : Bytes) : Gathered → Gathered
  | bytes more => bytes (taken ++ more)
  | failed cause => failed cause

/-- Take from the buffer, then from one read after another, until the request
is complete or the device has nothing to give. -/
def gatherFrom (tail : Tail) :
    List ReadEvent → (limit : Nat) → (buffer : Bytes) → (reads : Nat) → Gathered × Source
  | [], limit, buffer, reads =>
    let here := cut limit buffer
    if here.complete then (.bytes here.taken, ⟨here.rest, [], tail, reads⟩)
    else match tail with
      | .closed => (.bytes here.taken, ⟨[], [], tail, reads + 1⟩)
      | .repeating line =>
        let last := cut (limit - here.taken.length) (line ++ [lineFeed])
        (.bytes (here.taken ++ last.taken), ⟨last.rest, [], tail, reads + 1⟩)
  | event :: script, limit, buffer, reads =>
    let here := cut limit buffer
    let further (bytes : Bytes) : Gathered × Source :=
      let (gathered, source) :=
        gatherFrom tail script (limit - here.taken.length) bytes (reads + 1)
      (gathered.behind here.taken, source)
    if here.complete then (.bytes here.taken, ⟨here.rest, event :: script, tail, reads⟩)
    else match event with
      | .chunk [] => (.bytes here.taken, ⟨[], script, tail, reads + 1⟩)
      | .chunk bytes => further bytes
      | .interrupted => further []
      | .fault cause => (.failed cause, ⟨[], script, tail, reads + 1⟩)

/-- One request for at most `limit` bytes. -/
def gather (source : Source) (limit : Nat) : Gathered × Source :=
  gatherFrom source.tail source.script limit source.buffer source.reads

/-- Drop a final line feed, together with a carriage return right before it. -/
def withoutTerminator (piece : Bytes) : Bytes :=
  if piece.getLast? = some lineFeed then
    let body := piece.dropLast
    if body.getLast? = some carriageReturn then body.dropLast else body
  else piece

/-- What a request for a line finds. -/
inductive Reading where
  /-- A line without its terminator, cut at its first NUL. -/
  | line (bytes : Bytes)
  | ended
  | failed (cause : ReadFault)
deriving DecidableEq, Repr

/-- The line of a piece; an empty piece is the end of the input. -/
def readingOf : Gathered → Reading
  | .bytes [] => .ended
  | .bytes piece => .line (withoutTerminator piece).cutAtNul
  | .failed cause => .failed cause

/-- Request one line of at most `limit` bytes, its terminator counted. -/
def readLine (source : Source) (limit : Nat) : Reading × Source :=
  let (gathered, after) := source.gather limit
  (readingOf gathered, after)

end Source

end SessionHost
