import SessionHost.Toml.Printer
import SessionHost.Toml.Statement

namespace SessionHost

/-!
# From statements to a table

Statements are carried out one after another.  A header changes which table
the assignments behind it go to; in front of the first header they go to the
outermost table.  A statement that names something twice, or that adds to what
is closed, makes the whole document malformed.
-/

namespace Toml

/-- The tables that the statements so far have filled. -/
structure Draft where
  root : Entries := []
  /-- Where assignments go. -/
  current : List String := []
deriving Repr

namespace Draft

/-- Let a change happen at the last part of a header's path. -/
def atHeader (draft : Draft) (path : List String) (change : String → Entries → Option Entries) :
    Option Draft :=
  match path.getLast? with
  | none => none
  | some name =>
    (draft.root.within path.dropLast (change name)).map fun root => { root, current := path }

def carryOut (draft : Draft) : Statement → Option Draft
  | .assignment key item =>
    (draft.root.within draft.current (Entries.assign key item)).map fun root =>
      { draft with root }
  | .table path => draft.atHeader path Entries.openTable
  | .element path => draft.atHeader path Entries.openElement

end Draft

/-- The outermost table of a document. -/
def ofStatements (statements : List Statement) : Option Entries :=
  (statements.foldlM Draft.carryOut {}).map (·.root)

/-- Read a document. -/
def parse (document : String) : Option Entries :=
  (Statement.ofDocument document).bind ofStatements

/-- The item that a spelling stands for at the end of a line. -/
def item? (spelling : List Char) : Option Item :=
  match value deepest (spelling ++ ['\n']) with
  | some (item, ['\n']) => some item
  | _ => none

/-! ## Items as values -/

namespace Item

/-- An array holds the fields in their order, and it may be shorter or longer than
that.  A moment counts as a table of nothing that is known. -/
def fields? (names : List String) : Item → Option (String → Option Item)
  | table _ entries => some (Entries.find? entries)
  | array items => some fun name => (names.zip items).lookup name
  | tables earlier last =>
    some fun name => (names.zip ((last :: earlier).reverse.map (table .header))).lookup name
  | moment => some fun _ => none
  | _ => none

def text? : Item → Option String
  | text content => some content
  | _ => none

def number? : Item → Option Nat
  | integer value => if 0 ≤ value then some value.toNat else none
  | _ => none

def flag? : Item → Option Bool
  | boolean value => some value
  | _ => none

/-- An item that holds nothing. -/
def isEmpty : Item → Bool
  | table _ entries => entries.isEmpty
  | array items => items.isEmpty
  | _ => false

/-- A choice is a text, or a table of nothing under that name alone. -/
def choice? (names : List String) : Item → Option String
  | text name => if names.contains name then some name else none
  | table _ [(name, inner)] =>
    if inner.isEmpty && names.contains name then some name else none
  | _ => none

end Item

/-- The library that a host reads and writes documents with. -/
def codec : Codec where
  fields? := Item.fields?
  text? := Item.text?
  number? := Item.number?
  flag? := Item.flag?
  choice? := Item.choice?
  spell := Plain.write
  item?
  write
  read := parse

end Toml

end SessionHost
