import SessionHost.Engine.Conversation
import SessionHost.Text.Utf8

namespace SessionHost

/-!
# A recording engine

This engine keeps a record of what it was asked to do and reacts to chosen
sentences with a single callback.  It is meant for looking at a host from the
engine's side.  Its next creation can be made to fail or to unwind, and its
instances can be made without a break cell.
-/

namespace Recording

/-- What the engine does when it executes a chosen sentence. -/
inductive Reaction where
  | print (text : String)
  | exit (status : Int32)
  | prompt (text : String)
deriving DecidableEq, Repr

structure Recorder where
  /-- How many instances were made. -/
  created : Nat := 0
  /-- How many instances were torn down. -/
  freed : Nat := 0
  /-- The sentences executed, lossily decoded, the latest first. -/
  sentences : List String := []
  /-- The lines that prompts have given, lossily decoded, the latest first. -/
  inputs : List String := []
  /-- The last callback table of each instance that was given one. -/
  callbacks : List (Handle × Callbacks) := []
  /-- The chosen sentences; the first entry of a sentence counts. -/
  reactions : List (String × Reaction) := []
  failNext : Bool := false
  /-- A pending unwinding comes before a pending failure. -/
  unwindNext : Bool := false
  /-- Instances made from now on publish no break cell. -/
  withoutCells : Bool := false
deriving DecidableEq, Repr

namespace Recorder

def create (recorder : Recorder) : Creation × Recorder :=
  if recorder.unwindNext then (.unwound, { recorder with unwindNext := false })
  else if recorder.failNext then (.nothing, { recorder with failNext := false })
  else
    (.fresh (if recorder.withoutCells then none else some 0),
      { recorder with created := recorder.created + 1 })

/-- The options of the last callback table of an instance. -/
def options? (recorder : Recorder) (handle : Handle) : Option Int64 :=
  (recorder.callbacks.lookup handle).map (·.options)

def setCallbacks (recorder : Recorder) (handle : Handle) (table : Callbacks) : Recorder :=
  { recorder with
    callbacks := (recorder.callbacks.filter fun entry => entry.1 != handle) ++ [(handle, table)] }

/-- Execute a sentence.  A reaction whose callback was not installed does
nothing. -/
def execute (recorder : Recorder) (handle : Handle) (sentence : Bytes) :
    Conversation (Int32 × Recorder) := do
  let text := Utf8.decodeLossy sentence
  let table := (recorder.callbacks.lookup handle).getD {}
  let recorder := { recorder with sentences := text :: recorder.sentences }
  match recorder.reactions.lookup text with
  | some (.print shown) =>
    if table.output then Conversation.emit 1 (.text (Bytes.ofString shown))
    return (0, recorder)
  | some (.exit status) =>
    if table.output then Conversation.emit 5 (.word status.toInt64)
    return (0, recorder)
  | some (.prompt prompt) =>
    if table.input then
      let line ← Conversation.ask (some (Bytes.ofString prompt))
      return (0, { recorder with inputs := Utf8.decodeLossy line :: recorder.inputs })
    return (0, recorder)
  | none => return (0, recorder)

/-- Answer a call.  Only callback tables and sentences are recorded. -/
def answer (recorder : Recorder) (handle : Handle) :
    (call : Call) → Conversation (call.symbol.Answer × Recorder)
  | .setCallbacks table => return ((), recorder.setCallbacks handle table)
  | .execute sentence => recorder.execute handle sentence
  | .locale => return (some (Bytes.ofString "base"), recorder)
  | .getArray _ => return (0, recorder)
  | .setArray _ data => return (Int64.ofNat data.length, recorder)
  | .getNoun _ noun => return ((0, { noun with type := 4, rank := 0 }), recorder)
  | .setNoun _ noun => return ((0, noun), recorder)
  | .allocateArray _ _ _ => return (0, recorder)
  | .errorText code _ => return ((0, code), recorder)
  | .transpose flag => return (flag.toInt32, recorder)
  | .interrupt => return (0, recorder)
  | .clear => return (0, recorder)
  | .isBusy => return (0, recorder)

end Recorder

instance : Engine Recorder where
  create recorder _ := recorder.create
  respond recorder handle symbol arguments :=
    symbol.answered arguments recorder (recorder.answer handle)
  free recorder _ := (0, { recorder with freed := recorder.freed + 1 })

end Recording

end SessionHost
