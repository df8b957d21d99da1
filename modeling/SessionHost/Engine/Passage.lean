import SessionHost.Engine.Call
import SessionHost.Text.Utf8

namespace SessionHost

/-!
# How a call crosses into a library

A library knows neither lists nor texts.  What it is handed for an argument is a
word, or a place in memory, and how much of the memory is meant is for it to find
out: a text ends at the first NUL, and where a length is wanted it is passed as a
word of its own in front of the memory that it measures.  Words that the library
may write to are lent to it, and the caller reads them again when the call is back.

A text crosses back as bytes up to a NUL, or as a null pointer, and nothing says
that these bytes are UTF-8.
-/

/-- One argument, as an entry point receives it. -/
inductive Argument where
  | word (value : Int64)
  /-- Memory that is read up to the first NUL. -/
  | text (memory : Bytes)
  /-- Memory whose length is passed apart. -/
  | bytes (memory : Bytes)
  | words (memory : List Int64)
  /-- A word that the library may write to, and its value on entry. -/
  | lent (value : Int64)
  | callbacks (table : Callbacks)
deriving DecidableEq, Repr

/-- The descriptors in the order in which they are passed. -/
def Noun.words (noun : Noun) : List Int64 :=
  [noun.type, noun.rank, noun.shape, noun.data]

namespace Argument

/-- A text in memory, with the NUL that ends it. -/
def ofText (bytes : Bytes) : Argument :=
  .text (bytes ++ [0])

/-- The length of something in memory. -/
def ofLength {α : Type} (memory : List α) : Argument :=
  .word (.ofNat memory.length)

end Argument

namespace Call

open Argument (ofText ofLength)

/-- What the entry point of a call receives behind the instance, in the order of
its parameters. -/
def arguments : Call → List Argument
  | setCallbacks table => [.callbacks table]
  | execute sentence => [ofText sentence]
  | locale => []
  | getArray name => [ofLength name, ofText name]
  | setArray name data => [ofLength name, ofText name, ofLength data, .bytes data]
  | getNoun name noun => ofText name :: noun.words.map .lent
  | setNoun name noun => ofText name :: noun.words.map .lent
  | allocateArray type count shape => [.word type, .word count, ofLength shape, .words shape]
  | errorText code address => [.word code, .lent address]
  | transpose flag => [.word flag]
  | interrupt => []
  | clear => []
  | isBusy => []

/-- The words that the caller lends, with the values they have before the call. -/
def lent : Call → List Int64
  | getNoun _ noun => noun.words
  | setNoun _ noun => noun.words
  | errorText _ address => [address]
  | _ => []

/-- The values that the caller finds in the words it lent. -/
def left : (call : Call) → call.Result → List Int64
  | getNoun _ _, (_, noun) => noun.words
  | setNoun _ _, (_, noun) => noun.words
  | errorText _ _, (_, address) => [address]
  | _, _ => []

end Call

/-! ## Answers -/

/-- What a library gives back behind an entry point.  For words that it was lent,
this is what they hold then. -/
abbrev Symbol.Answer : Symbol → Type
  | initialise => Unit
  | setCallbacks => Unit
  | execute => Int32
  | locale => Option Bytes
  | getArray => Int64
  | getNoun => Int32 × Noun
  | setArray => Int64
  | setNoun => Int32 × Noun
  | allocateArray => Int64
  | errorText => Int32 × Int64
  | free => Unit
  | transpose => Int32
  | interrupt => Int32
  | clear => Int32
  | isBusy => Int32

namespace Call

/-- The name of a locale as the caller is given it. -/
def localeText (name : Option Bytes) : Option String :=
  name.map Utf8.decodeLossy

/-- What the caller of a call is given for the library's answer. -/
def received : (call : Call) → call.symbol.Answer → call.Result
  | setCallbacks _, answer => answer
  | execute _, answer => answer
  | locale, answer => localeText answer
  | getArray _, answer => answer
  | setArray _ _, answer => answer
  | getNoun _ _, answer => answer
  | setNoun _ _, answer => answer
  | allocateArray _ _ _, answer => answer
  | errorText _ _, answer => answer
  | transpose _, answer => answer
  | interrupt, answer => answer
  | clear, answer => answer
  | isBusy, answer => answer

end Call

/-! ## On the library's side -/

/-- As much of the memory as was asked for, if there is as much. -/
def measured? {α : Type} (length : Int64) (memory : List α) : Option (List α) :=
  if 0 ≤ length.toInt ∧ length.toInt ≤ memory.length then some (memory.take length.toInt.toNat)
  else none

/-- The call that a library takes an entry point and its arguments for. -/
def Symbol.call? : Symbol → List Argument → Option Call
  | setCallbacks, [.callbacks table] => some (.setCallbacks table)
  | execute, [.text sentence] => sentence.text?.map .execute
  | locale, [] => some .locale
  | getArray, [.word length, .text name] => (name.sizedText? length).map .getArray
  | setArray, [.word length, .text name, .word size, .bytes data] =>
    (name.sizedText? length).bind fun name => (measured? size data).map (.setArray name)
  | getNoun, [.text name, .lent type, .lent rank, .lent shape, .lent data] =>
    name.text?.map (.getNoun · ⟨type, rank, shape, data⟩)
  | setNoun, [.text name, .lent type, .lent rank, .lent shape, .lent data] =>
    name.text?.map (.setNoun · ⟨type, rank, shape, data⟩)
  | allocateArray, [.word type, .word count, .word rank, .words shape] =>
    (measured? rank shape).map (.allocateArray type count)
  | errorText, [.word code, .lent address] => some (.errorText code address)
  | transpose, [.word flag] => some (.transpose flag)
  | interrupt, [] => some .interrupt
  | clear, [] => some .clear
  | isBusy, [] => some .isBusy
  | _, _ => none

/-- What a library gives back that did nothing. -/
def Symbol.silence : (symbol : Symbol) → symbol.Answer
  | initialise | setCallbacks | free => ()
  | locale => none
  | getArray | setArray | allocateArray => 0
  | getNoun | setNoun => (0, {})
  | errorText => (0, 0)
  | execute | transpose | interrupt | clear | isBusy => 0

end SessionHost
