import SessionHost.Text.Bytes

namespace SessionHost

/-!
# Writing console output

A sink takes payloads as a whole and counts what has not been flushed yet.  It
may accept only a few bytes per write, which changes nothing as long as it
accepts any; it may be full; and its flush may fail.  A payload that is cut
off by a full sink has its first bytes written all the same.
-/

/-- Why a payload did not reach the console. -/
inductive WriteFault where
  | full
  /-- A write accepted no byte at all. -/
  | nothingAccepted
  | flushFailed
deriving DecidableEq, Repr

def WriteFault.message : WriteFault → String
  | full => "sink full"
  | nothingAccepted => "failed to write whole buffer"
  | flushFailed => "flush failed"

structure Sink where
  /-- The most bytes that one write accepts. -/
  perWrite : Option Nat := none
  /-- How many more bytes the sink takes. -/
  room : Option Nat := none
  flushFails : Bool := false
  /-- What was written, flushed or not, the latest first. -/
  payloads : List Bytes := []
  flushes : Nat := 0
  /-- How many of the bytes written wait for a flush. -/
  unflushed : Nat := 0
deriving DecidableEq, Repr

namespace Sink

/-- Every byte written, in the order in which they were written. -/
def contents (sink : Sink) : Bytes :=
  sink.payloads.reverse.flatten

/-- The part of a payload for which there is room. -/
def fitting (sink : Sink) (payload : Bytes) : Bytes :=
  match sink.room with
  | none => payload
  | some room => payload.take room

def append (sink : Sink) (bytes : Bytes) : Sink :=
  { sink with
    room := sink.room.map (· - bytes.length)
    payloads := bytes :: sink.payloads
    unflushed := sink.unflushed + bytes.length }

/-- Write a payload.  An empty one needs no write and cannot fail. -/
def write (sink : Sink) (payload : Bytes) : Option WriteFault × Sink :=
  let fitting := sink.fitting payload
  if payload.isEmpty then (none, sink)
  else if fitting.isEmpty then (some .full, sink)
  else if sink.perWrite = some 0 then (some .nothingAccepted, sink)
  else if fitting.length < payload.length then (some .full, sink.append fitting)
  else (none, sink.append fitting)

/-- Flush; a flush that fails is still counted, and leaves its bytes waiting. -/
def flush (sink : Sink) : Option WriteFault × Sink :=
  if sink.flushFails then (some .flushFailed, { sink with flushes := sink.flushes + 1 })
  else (none, { sink with flushes := sink.flushes + 1, unflushed := 0 })

/-- Write a payload and flush it.  After a failed write there is no flush. -/
def put (sink : Sink) (payload : Bytes) : Option WriteFault × Sink :=
  match sink.write payload with
  | (some fault, after) => (some fault, after)
  | (none, after) => after.flush

end Sink

end SessionHost
