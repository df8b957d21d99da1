namespace SessionHost

/-!
# What a document holds

The items of a document form a tree.  A table is a list of named items in the
order in which they were added, and never has two of one name.  How a table
came about decides who may still add to it: one that was written as a value is
closed, one that stands only for the way to another may still get a header of
its own, and one that a dotted key made takes further dotted keys.

Two ways lead to a place in the tree.  A header may pass through tables of
every kind but the closed one, and through the last element of an array of
tables.  A dotted key passes only through tables that have no header.
-/

namespace Toml

/-- How a table came about. -/
inductive Origin where
  /-- By a header of its own, or as an element of an array of tables. -/
  | header
  /-- On the way to the table of a longer header. -/
  | implied
  /-- On the way to the last part of a dotted key. -/
  | dotted
  /-- As a value, between braces. -/
  | braces
deriving DecidableEq, Repr

inductive Item where
  | text (content : String)
  | integer (value : Int)
  | float
  | boolean (value : Bool)
  /-- A date, a time, or both. -/
  | moment
  | array (items : List Item)
  | table (origin : Origin) (entries : List (String × Item))
  /-- An array of tables: the last one, to which headers lead, and those
  before it, the latest of them first. -/
  | tables (earlier : List (List (String × Item))) (last : List (String × Item))
deriving Repr

/-- The named items of a table. -/
abbrev Entries := List (String × Item)

namespace Entries

/-- The item of a name. -/
def find? (entries : Entries) (name : String) : Option Item :=
  entries.lookup name

/-- Replace the item of a name by what the change makes of it, or add what the
change makes of nothing.  A change may refuse. -/
def alter (name : String) (change : Option Item → Option Item) : Entries → Option Entries
  | [] => (change none).map fun item => [(name, item)]
  | entry :: rest =>
    if entry.1 = name then (change (some entry.2)).map fun item => (name, item) :: rest
    else (alter name change rest).map (entry :: ·)

/-- Add an item under a name that is not taken. -/
def add (name : String) (item : Item) (entries : Entries) : Option Entries :=
  entries.alter name fun present =>
    match present with
    | none => some item
    | some _ => none

/-! ## The way of a dotted key -/

/-- Give the place of a dotted key its item. -/
def assign : (key : List String) → Item → Entries → Option Entries
  | [], _, _ => none
  | [name], item, entries => entries.add name item
  | name :: next :: key, item, entries =>
    entries.alter name fun present =>
      match present with
      | none => (assign (next :: key) item []).map (.table .dotted)
      | some (.table .dotted inner) => (assign (next :: key) item inner).map (.table .dotted)
      | some (.table .implied inner) =>
        if key.isEmpty then none
        else (assign (next :: key) item inner).map (.table .implied)
      | some (.tables earlier last) =>
        if key.isEmpty then none
        else (assign (next :: key) item last).map (.tables earlier)
      | some _ => none

/-! ## The way of a header -/

/-- Change the table to which a header leads; tables that are missing on the
way are made. -/
def within : (path : List String) → (Entries → Option Entries) → Entries → Option Entries
  | [], change, entries => change entries
  | name :: path, change, entries =>
    entries.alter name fun present =>
      match present with
      | none => (within path change []).map (.table .implied)
      | some (.table .braces _) => none
      | some (.table origin inner) => (within path change inner).map (.table origin)
      | some (.tables earlier last) => (within path change last).map (.tables earlier)
      | some _ => none

/-- Open the table of a name.  A table has one header at most. -/
def openTable (name : String) (entries : Entries) : Option Entries :=
  entries.alter name fun present =>
    match present with
    | none => some (.table .header [])
    | some (.table .implied inner) => some (.table .header inner)
    | some _ => none

/-- Open one more element of an array of tables. -/
def openElement (name : String) (entries : Entries) : Option Entries :=
  entries.alter name fun present =>
    match present with
    | none => some (.tables [] [])
    | some (.tables earlier last) => some (.tables (last :: earlier) [])
    | some _ => none

end Entries

end Toml

end SessionHost
