import SessionHost.Engine.Conversation

namespace SessionHost

/-!
# A scripted engine library

This engine does what a script tells it to.  The script says what the factory
makes, which locale is reported, and how the engine reacts to a sentence:
which callbacks it uses, which sentences it executes in turn, and the status
it returns.  Names and nouns are stored just well enough to answer for them.

Scripts may ask for sentences within sentences without end, so the library
counts the sentences that it executes.  From a certain number on an execution
is a spent one: it executes no sentence within, and it ends with a request to
exit.  An execution that began before keeps what it may do to its end.
-/

namespace Scripted

/-- What the factory makes. -/
inductive Behaviour where
  | withCell (value : UInt8)
  | withoutCell
  | nothing
  /-- An instance that was made before. -/
  | reuse (handle : Handle)
  | unwind
deriving DecidableEq, Repr

/-- One thing that the engine does while it executes a sentence. -/
inductive Action where
  | output (code : Int32) (text : Option Bytes)
  | exit (status : Int64)
  /-- Ask for a line. -/
  | ask (prompt : Option Bytes)
  /-- Ask for a line and execute it. -/
  | askAndExecute (prompt : Option Bytes)
  | execute (sentence : Bytes)
  /-- Look at the break cell and clear it. -/
  | poll
  /-- Raise an interrupt signal. -/
  | raise
deriving DecidableEq, Repr

/-- What the engine does with a sentence. -/
structure Reaction where
  /-- The sentence that is meant; every sentence if none is given. -/
  trigger : Option Bytes
  actions : List Action
  status : Int32
deriving DecidableEq, Repr

structure Script where
  /-- What the factory makes next; instances with a cell of zero afterwards. -/
  creations : List Behaviour := []
  reactions : List Reaction := []
  locale : Option Bytes := some (Bytes.ofString "base")
deriving DecidableEq, Repr

structure Instance where
  callbacks : Callbacks := {}
  /-- The stored names, with the length of their data. -/
  names : List (Bytes × Nat) := []
  nouns : List (Bytes × Noun) := []
deriving DecidableEq, Repr

structure Library where
  script : Script
  /-- How many instances were made. -/
  created : Nat := 0
  /-- The instances that were told something, by their addresses. -/
  instances : List (Handle × Instance) := []
  /-- How many sentences were executed, in all instances together. -/
  executed : Nat := 0
  /-- How many arrays were allocated, in all instances together. -/
  arrays : Nat := 0
deriving DecidableEq, Repr

namespace Library

def ofScript (script : Script) : Library := { script }

/-- Replace or add the entry of a key. -/
def store {κ α : Type} [BEq κ] (entries : List (κ × α)) (key : κ) (value : α) : List (κ × α) :=
  if entries.any (·.1 == key) then
    entries.map fun entry => if entry.1 == key then (key, value) else entry
  else entries ++ [(key, value)]

/-! ## Instances -/

def instanceAt (library : Library) (handle : Handle) : Instance :=
  (library.instances.lookup handle).getD {}

def updateInstance (library : Library) (handle : Handle) (change : Instance → Instance) :
    Library :=
  { library with
    instances := store library.instances handle (change (library.instanceAt handle)) }

/-- Make what the script says comes next. -/
def create (library : Library) : Creation × Library :=
  let script := library.script
  let fresh (cell : Option UInt8) (creations : List Behaviour) : Creation × Library :=
    (.fresh cell, { library with
      script := { script with creations }
      created := library.created + 1 })
  match script.creations with
  | [] => fresh (some 0) []
  | .withCell value :: rest => fresh (some value) rest
  | .withoutCell :: rest => fresh none rest
  | .nothing :: rest => (.nothing, { library with script := { script with creations := rest } })
  | .reuse handle :: rest =>
    (if handle < library.created then .again handle else .nothing,
      { library with script := { script with creations := rest } })
  | .unwind :: rest => (.unwound, { library with script := { script with creations := rest } })

/-! ## Executing sentences -/

/-- The number of the first sentence whose execution is a spent one. -/
def sentenceLimit : Nat := 60

/-- The status of that exit. -/
def spentStatus : Int64 := 99

/-- Whether the execution that began last is a spent one. -/
def isSpent (library : Library) : Bool :=
  sentenceLimit ≤ library.executed

def reactionTo? (library : Library) (sentence : Bytes) : Option Reaction :=
  library.script.reactions.find? fun reaction =>
    match reaction.trigger with
    | none => true
    | some trigger => trigger == sentence

/-- Ask through the input callback, if there is one. -/
def ask (library : Library) (handle : Handle) (prompt : Option Bytes) :
    Conversation (Option Bytes) := do
  if (library.instanceAt handle).callbacks.input then
    let line ← Conversation.ask (prompt.map Bytes.terminated)
    Conversation.tell (.lineRead line)
    return some line
  else return none

/-- Write through the output callback, if there is one. -/
def emit (library : Library) (handle : Handle) (code : Int32) (argument : OutputArgument) :
    Conversation Unit :=
  if (library.instanceAt handle).callbacks.output then Conversation.emit code argument
  else pure ()

/-- Do one thing.  Sentences within sentences go to `nested`. -/
def act (nested : Bytes → Library → Conversation Library) (handle : Handle)
    (library : Library) : Action → Conversation Library
  | .output code text => do
    library.emit handle code (match text with
      | none => .null
      | some text => .text text.terminated)
    return library
  | .exit status => do
    library.emit handle 5 (.word status)
    return library
  | .ask prompt => do
    let _ ← library.ask handle prompt
    return library
  | .askAndExecute prompt => do
    match ← library.ask handle prompt with
    | none => return library
    | some line => nested line library
  | .execute sentence => nested sentence library
  | .poll => do
    let cell ← Conversation.cell
    Conversation.tell (.polled cell)
    Conversation.setCell 0
    return library
  | .raise => do
    let handled ← Conversation.raise
    Conversation.tell (.raised handled)
    return library

/-- Execute a sentence, nesting at most `depth` levels deep.  Every level
counts a sentence, and a spent execution has no level below it, so a depth of
`sentenceLimit` is never used up. -/
def execute : (depth : Nat) → Handle → Bytes → Library → Conversation (Int32 × Library)
  | 0, _, _, library => return (0, library)
  | depth + 1, handle, sentence, library => do
    let library := { library with executed := library.executed + 1 }
    let spent := library.isSpent
    let reaction := library.reactionTo? sentence
    let nested (sentence : Bytes) (library : Library) : Conversation Library := do
      if spent then return library
      Conversation.tell (.nested sentence)
      let (_, library) ← execute depth handle sentence library
      return library
    let library ← ((reaction.map (·.actions)).getD []).foldlM (act nested handle) library
    if spent then library.emit handle 5 (.word spentStatus)
    return ((reaction.map (·.status)).getD 0, library)

/-! ## The other calls -/

/-- The address of an array; no array without its length on top. -/
def arrayAddress : Int64 := 4096

/-- The address in front of all allocated arrays. -/
def arrayArea : Int64 := 65536

def setArray (library : Library) (handle : Handle) (name data : Bytes) : Int64 × Library :=
  let names := store (library.instanceAt handle).names name data.length
  (Int64.ofNat (data.foldl (fun total byte => total + byte.toNat) names.length),
    library.updateInstance handle fun entry => { entry with names })

/-- A noun that is not stored is left as it was given. -/
def getNoun (library : Library) (handle : Handle) (name : Bytes) (given : Noun) : Int32 × Noun :=
  match (library.instanceAt handle).nouns.lookup name with
  | none => (21, given)
  | some noun => (0, noun)

/-- A negative rank is refused; otherwise the noun is stored, and the caller's
shape and data are overwritten. -/
def setNoun (library : Library) (handle : Handle) (name : Bytes) (noun : Noun) :
    (Int32 × Noun) × Library :=
  if noun.rank < 0 then ((14, noun), library)
  else
    ((0, { noun with shape := 0, data := -1 }),
      library.updateInstance handle fun entry =>
        { entry with nouns := store entry.nouns name noun })

def allocate (library : Library) (type count : Int64) : Int64 × Library :=
  if type < 0 ∨ count < 0 then (0, library)
  else (arrayArea + Int64.ofNat (library.arrays + 1),
    { library with arrays := library.arrays + 1 })

/-- Forget all names and nouns, and say how many there were. -/
def clear (library : Library) (handle : Handle) : Int32 × Library :=
  let entry := library.instanceAt handle
  (Int32.ofNat (entry.names.length + entry.nouns.length),
    library.updateInstance handle fun entry => { entry with names := [], nouns := [] })

/-- The engine's own break request puts two into the cell. -/
def interrupt : Conversation Int32 := do
  match ← Conversation.cell with
  | none => return 1
  | some _ =>
    Conversation.setCell 2
    return 0

/-- Answer a call.  No sentence is being executed when a call arrives, so an
instance is never busy. -/
def answer (library : Library) (handle : Handle) :
    (call : Call) → Conversation (call.symbol.Answer × Library)
  | .setCallbacks table =>
    return ((), library.updateInstance handle fun entry => { entry with callbacks := table })
  | .execute sentence => execute (sentenceLimit + 1) handle sentence library
  | .locale => return (library.script.locale.map Bytes.terminated, library)
  | .getArray name =>
    return (match (library.instanceAt handle).names.lookup name with
      | none => 0
      | some size => arrayAddress + Int64.ofNat size, library)
  | .setArray name data => return library.setArray handle name data
  | .getNoun name noun => return (library.getNoun handle name noun, library)
  | .setNoun name noun => return library.setNoun handle name noun
  | .allocateArray type count _ => return library.allocate type count
  | .errorText code text =>
    return (if code ≤ 0 then (9, text) else (0, 2 * code + 1), library)
  | .transpose flag => return (flag.toInt32, library)
  | .interrupt => do
    let status ← interrupt
    return (status, library)
  | .clear => return library.clear handle
  | .isBusy => return (0, library)

end Library

instance : Engine Library where
  create library _ := library.create
  respond library handle symbol arguments :=
    symbol.answered arguments library (library.answer handle)
  free library _ := (0, library)

end Scripted

end SessionHost
