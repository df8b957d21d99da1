import SessionHost.Engine.Passage

namespace SessionHost

/-!
# Engines and their conversations

An engine is outside the host's control: while it answers a call it may write
output, ask for input, look at its break cell, or be hit by a signal, any
number of times and in any order, and what it does next may depend on what it
was told.  A conversation is the tree of everything it may do.  Each path
through the tree is finite, so every call comes back once all of its requests
have been served.

The break cell is a byte that the engine shares with the host.  It lives on
the host's side of this description, and the engine reads and writes it
through the conversation like everything else it shares.
-/

/-- What an engine records about its own doings, for an observer. -/
inductive Note where
  /-- A line that the input callback gave. -/
  | lineRead (line : Bytes)
  /-- The break cell at a checkpoint, if the instance has one. -/
  | polled (cell : Option UInt8)
  /-- A signal raised inside the engine, and whether a handler took it. -/
  | raised (handled : Bool)
  /-- A sentence that the engine executes from within another one. -/
  | nested (sentence : Bytes)
deriving DecidableEq, Repr

/-- What an engine does while it answers a call. -/
inductive Conversation (α : Type) where
  | finished (result : α)
  /-- The output callback, with the raw code of the event's class. -/
  | output (code : Int32) (argument : OutputArgument) (next : Conversation α)
  /-- The input callback; a null prompt is no prompt. -/
  | input (prompt : Option Bytes) (next : Bytes → Conversation α)
  | readCell (next : Option UInt8 → Conversation α)
  | writeCell (value : UInt8) (next : Conversation α)
  /-- An interrupt signal for the process; the engine learns whether a handler took it. -/
  | signal (next : Bool → Conversation α)
  | note (entry : Note) (next : Conversation α)

namespace Conversation

variable {α β : Type}

/-- Go on with a second conversation where the first one finishes. -/
def bind : Conversation α → (α → Conversation β) → Conversation β
  | finished result, rest => rest result
  | output code argument next, rest => output code argument (next.bind rest)
  | input prompt next, rest => input prompt fun line => (next line).bind rest
  | readCell next, rest => readCell fun cell => (next cell).bind rest
  | writeCell value next, rest => writeCell value (next.bind rest)
  | signal next, rest => signal fun handled => (next handled).bind rest
  | note entry next, rest => note entry (next.bind rest)

instance : Monad Conversation where
  pure := finished
  bind := bind

def emit (code : Int32) (argument : OutputArgument) : Conversation Unit :=
  output code argument (finished ())

def ask (prompt : Option Bytes) : Conversation Bytes :=
  input prompt finished

def cell : Conversation (Option UInt8) :=
  readCell finished

def setCell (value : UInt8) : Conversation Unit :=
  writeCell value (finished ())

def raise : Conversation Bool :=
  signal finished

def tell (entry : Note) : Conversation Unit :=
  note entry (finished ())

end Conversation

/-- What comes out of an engine's factory. -/
inductive Creation where
  /-- A new instance at the address it was offered, with the value of its
  break cell, or no cell. -/
  | fresh (cell : Option UInt8)
  /-- An instance that was made before. -/
  | again (handle : Handle)
  | nothing
  /-- The factory unwound and gave nothing back. -/
  | unwound
deriving DecidableEq, Repr

/-- An engine library, as a behaviour over a state of its own.  Of a call it has the
entry point and what is passed to it, and nothing else. -/
class Engine (σ : Type) where
  /-- Make an instance.  A new one goes to the given address. -/
  create : σ → Handle → Creation × σ
  respond : σ → Handle → (symbol : Symbol) → List Argument → Conversation (symbol.Answer × σ)
  /-- Tear an instance down; the status is the engine's own. -/
  free : σ → Handle → Int32 × σ

/-- A library that knows how to answer every call does so when it has made out which
one it is.  It does nothing about what it cannot make out. -/
def Symbol.answered {σ : Type} (symbol : Symbol) (arguments : List Argument) (engine : σ)
    (answer : (call : Call) → Conversation (call.symbol.Answer × σ)) :
    Conversation (symbol.Answer × σ) :=
  match symbol.call? arguments with
  | none => .finished (symbol.silence, engine)
  | some call =>
    if same : call.symbol = symbol then same ▸ answer call
    else .finished (symbol.silence, engine)

end SessionHost
