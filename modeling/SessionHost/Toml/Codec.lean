import SessionHost.Text.Utf8
import SessionHost.Toml.Item

namespace SessionHost

/-!
# Reading and writing documents

The host neither writes nor reads documents itself.  It hands the settings of its
sections to a library, which makes a document of them or refuses to.  From a document
the library makes a table, and out of the items of this table the host asks for values
of the kinds that it has a use for: it is for the library to say which items are such
values, and what is found in an item that stands for several.
-/

namespace Toml

/-! ## What is written -/

/-- A value as the host writes it. -/
inductive Plain where
  | text (content : String)
  /-- A path, which is written as a text. -/
  | path (bytes : Bytes)
  | number (value : Nat)
  | flag (value : Bool)
deriving DecidableEq, Repr

structure Setting where
  name : String
  value : Plain
deriving DecidableEq, Repr

structure Section where
  name : String
  settings : List Setting
deriving DecidableEq, Repr

/-- The largest integer of a document; integers have 64 bits. -/
def Number.largest : Int := Int.pow 2 63 - 1

/-- A document has room for the value. -/
def Plain.Fits : Plain → Prop
  | path bytes => (Utf8.decode? bytes).isSome = true
  | number value => (value : Int) ≤ Number.largest
  | _ => True

instance : DecidablePred Plain.Fits
  | .text _ => inferInstanceAs (Decidable True)
  | .path bytes => inferInstanceAs (Decidable ((Utf8.decode? bytes).isSome = true))
  | .number value => inferInstanceAs (Decidable ((value : Int) ≤ Number.largest))
  | .flag _ => inferInstanceAs (Decidable True)

/-- Why a document is not written. -/
inductive WriteFault where
  /-- A number is larger than any integer of a document. -/
  | outOfRange
  /-- A path is not UTF-8. -/
  | invalidPath
deriving DecidableEq, Repr

def WriteFault.message : WriteFault → String
  | outOfRange => "out-of-range value for u64 type"
  | invalidPath => "path contains invalid UTF-8 characters"

/-! ## The library -/

/-- How a library gives the items of a document as values. -/
structure Decoder where
  /-- What an item holds for each field of a record, whose fields are given in order. -/
  fields? : List String → Item → Option (String → Option Item)
  text? : Item → Option String
  /-- An integer that is not negative. -/
  number? : Item → Option Nat
  flag? : Item → Option Bool
  /-- One name out of several. -/
  choice? : List String → Item → Option String

/-- A library that writes and reads documents. -/
structure Codec extends Decoder where
  /-- How a value is spelled. -/
  spell : Plain → List Char
  /-- The item that a spelling stands for. -/
  item? : List Char → Option Item
  /-- The document of sections. -/
  write : List Section → Except WriteFault String
  /-- The outermost table of a document. -/
  read : String → Option Entries

end Toml

end SessionHost
