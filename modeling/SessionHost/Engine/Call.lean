import SessionHost.Text.Bytes

namespace SessionHost

/-!
# Calls into an engine

The host knows an engine library by fifteen entry points.  One makes a new
instance and one tears an instance down; the other thirteen take a live
instance and are the calls of this module.  A call carries its arguments as the
caller gives them, and its type of results is computed from the call, so that an
answer always belongs to its question.
-/

/-- The number under which an engine library made an instance.  It stands for
the instance's address: numbers are never used again. -/
abbrev Handle := Nat

/-- The callback table of an instance.  The host has one function for output
and one for input, so a slot is either empty or holds that function.  The
window and poll slots are always empty. -/
structure Callbacks where
  output : Bool := false
  input : Bool := false
  options : Int64 := 0
deriving DecidableEq, Repr

/-- The option that selects the console front end. -/
def consoleOption : Int64 := 3

/-- The table of a console session. -/
def Callbacks.console : Callbacks :=
  ⟨true, true, consoleOption⟩

/-- The descriptors of a named value in multi-dimensional form.  Shape and
data are addresses that the engine owns. -/
structure Noun where
  type : Int64 := 0
  rank : Int64 := 0
  shape : Int64 := 0
  data : Int64 := 0
deriving DecidableEq, Repr

/-- The entry points of an engine library. -/
inductive Symbol where
  | initialise | setCallbacks | execute | locale | getArray | getNoun | setArray
  | setNoun | allocateArray | errorText | free | transpose | interrupt | clear | isBusy
deriving DecidableEq, Repr

namespace Symbol

/-- All entry points, in the order in which a library is searched for them. -/
def all : List Symbol :=
  [initialise, setCallbacks, execute, locale, getArray, getNoun, setArray,
    setNoun, allocateArray, errorText, free, transpose, interrupt, clear, isBusy]

/-- The exported name. -/
def name : Symbol → String
  | initialise => "JInit"
  | setCallbacks => "JSM"
  | execute => "JDo"
  | locale => "JGetLocale"
  | getArray => "JGetA"
  | getNoun => "JGetM"
  | setArray => "JSetA"
  | setNoun => "JSetM"
  | allocateArray => "Jga"
  | errorText => "JErrorTextM"
  | free => "JFree"
  | transpose => "JTranspose"
  | interrupt => "JBreak"
  | clear => "JClear"
  | isBusy => "JIsBusy"

end Symbol

/-- One call on a live instance. -/
inductive Call where
  | setCallbacks (table : Callbacks)
  | execute (sentence : Bytes)
  | locale
  | getArray (name : Bytes)
  | setArray (name : Bytes) (data : Bytes)
  | getNoun (name : Bytes) (noun : Noun)
  | setNoun (name : Bytes) (noun : Noun)
  | allocateArray (type : Int64) (count : Int64) (shape : List Int64)
  | errorText (code : Int64) (text : Int64)
  | transpose (flag : Int64)
  | interrupt
  | clear
  | isBusy
deriving DecidableEq, Repr

namespace Call

/-- What the caller is given back.  Descriptors and the error text address are
both argument and result: the engine may change them in place. -/
abbrev Result : Call → Type
  | setCallbacks _ => Unit
  | execute _ => Int32
  | locale => Option String
  | getArray _ => Int64
  | setArray _ _ => Int64
  | getNoun _ _ => Int32 × Noun
  | setNoun _ _ => Int32 × Noun
  | allocateArray _ _ _ => Int64
  | errorText _ _ => Int32 × Int64
  | transpose _ => Int32
  | interrupt => Int32
  | clear => Int32
  | isBusy => Int32

/-- The entry point that a call goes through. -/
abbrev symbol : Call → Symbol
  | setCallbacks _ => .setCallbacks
  | execute _ => .execute
  | locale => .locale
  | getArray _ => .getArray
  | setArray _ _ => .setArray
  | getNoun _ _ => .getNoun
  | setNoun _ _ => .setNoun
  | allocateArray _ _ _ => .allocateArray
  | errorText _ _ => .errorText
  | transpose _ => .transpose
  | interrupt => .interrupt
  | clear => .clear
  | isBusy => .isBusy

/-- The sentence or name that crosses over as a NUL-terminated string. -/
def text? : Call → Option Bytes
  | execute sentence => some sentence
  | getArray name => some name
  | setArray name _ => some name
  | getNoun name _ => some name
  | setNoun name _ => some name
  | _ => none

/-- Whether the call's text has a form that the engine can be handed. -/
def isSendable (call : Call) : Bool :=
  match call.text? with
  | some text => !text.hasNul
  | none => true

end Call

/-! ## Output -/

/-- The class of an output event. -/
inductive OutputKind where
  | formatted | error | log | system | exit | file
  /-- A code that stands for no known class. -/
  | other (code : Int32)
deriving DecidableEq, Repr

namespace OutputKind

def ofCode (code : Int32) : OutputKind :=
  if code = 1 then formatted
  else if code = 2 then error
  else if code = 3 then log
  else if code = 4 then system
  else if code = 5 then exit
  else if code = 6 then file
  else other code

def code : OutputKind → Int32
  | formatted => 1
  | error => 2
  | log => 3
  | system => 4
  | exit => 5
  | file => 6
  | other code => code

theorem code_ofCode (code : Int32) : (ofCode code).code = code := by
  unfold ofCode
  repeat' split
  all_goals simp_all [OutputKind.code]

/-- The name shown in diagnostics. -/
def name : OutputKind → String
  | formatted => "Formatted"
  | error => "Error"
  | log => "Log"
  | system => "System"
  | exit => "Exit"
  | file => "File"
  | other code => "Other(" ++ toString code.toInt ++ ")"

end OutputKind

/-- The pointer-sized argument of an output callback: text, nothing, or, for
an exit event, the status itself. -/
inductive OutputArgument where
  | null
  | text (payload : Bytes)
  | word (value : Int64)
deriving DecidableEq, Repr

namespace OutputArgument

/-- The bytes to show; a null pointer shows nothing. -/
def payload : OutputArgument → Bytes
  | text payload => payload
  | _ => []

/-- The exit status: the low 32 bits of the pointer, read as signed. -/
def status : OutputArgument → Int32
  | word value => value.toInt32
  | _ => 0

end OutputArgument

end SessionHost
