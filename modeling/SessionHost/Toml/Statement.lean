import SessionHost.Toml.Item
import SessionHost.Toml.Moment

namespace SessionHost

/-!
# The statements of a document

A document is a sequence of statements, each ended by its line: a key with its
value, the header of a table, or the header of one more element of an array of
tables.  Keys are read first and put to their places later, so a document is
split into statements before anything is known about the tables they fill.

Values may stand within values only so deep, and keys have only so many parts.
Both limits make a document that exceeds them malformed.
-/

namespace Toml

/-- How many parts a key may have. -/
def longestKey : Nat := 79

/-- How deep arrays and tables may stand within each other. -/
def deepest : Nat := 79

/-! ## Keys -/

def isKeyChar (char : Char) : Bool :=
  ('A' ≤ char && char ≤ 'Z') || ('a' ≤ char && char ≤ 'z') || ('0' ≤ char && char ≤ '9') ||
    char = '-' || char = '_'

/-- One part of a key: quoted text, or letters, digits, hyphens and
underscores. -/
def keyPart : Reader String
  | [] => none
  | char :: rest =>
    if char = '"' || char = '\'' then Quoted.readLine (char :: rest)
    else if isKeyChar char then
      some (String.ofList (char :: rest.takeWhile isKeyChar), rest.dropWhile isKeyChar)
    else none

/-- A key of at most so many parts, with the blanks around each of them. -/
def keyOfParts : (most : Nat) → Reader (List String)
  | 0, _ => none
  | most + 1, input => do
    let (part, rest) ← keyPart (skipBlanks input)
    match skipBlanks rest with
    | '.' :: rest =>
      let (parts, rest) ← keyOfParts most rest
      return (part :: parts, rest)
    | rest => return ([part], rest)

def key : Reader (List String) :=
  keyOfParts longestKey

/-! ## Values -/

/-- A value that is not made of others. -/
def scalar (input : List Char) : Option (Item × List Char) :=
  match input with
  | 't' :: 'r' :: 'u' :: 'e' :: rest => some (.boolean true, rest)
  | 'f' :: 'a' :: 'l' :: 's' :: 'e' :: rest => some (.boolean false, rest)
  | char :: _ =>
    if char = '"' || char = '\'' then
      (Quoted.read input).map fun (text, rest) => (.text text, rest)
    else
      ((Moment.read? input).map fun rest => (.moment, rest)) <|>
      ((Number.float? input).map fun rest => (.float, rest)) <|>
      ((Number.integer input).map fun (value, rest) => (.integer value, rest))
  | [] => none

/-- The items of an array up to its closing bracket.  Layout may stand around
each item, and a comma behind the last one.  The fuel is a list at least as
long as the input, of which every item uses up an element; so the input can be
its own fuel and need not be measured. -/
def arrayItems (value : Reader Item) : (fuel : List Char) → Reader (List Item)
  | [], _ => none
  | _ :: fuel, input =>
    match skipLayout input with
    | ']' :: rest => some ([], rest)
    | input => do
      let (item, rest) ← value input
      match skipLayout rest with
      | ',' :: rest =>
        let (items, rest) ← arrayItems value fuel rest
        return (item :: items, rest)
      | ']' :: rest => return ([item], rest)
      | _ => none

/-- The entries of a table between braces, from the first key to the closing
brace.  They stand on one line, and no comma follows the last one.  The fuel is
that of `arrayItems`. -/
def braceEntries (value : Reader Item) :
    (fuel : List Char) → Entries → List Char → Option (Entries × List Char)
  | [], _, _ => none
  | _ :: fuel, entries, input => do
    let (key, rest) ← key input
    let rest ← expect '=' rest
    let (item, rest) ← value (skipBlanks rest)
    let entries ← entries.assign key item
    match skipBlanks rest with
    | ',' :: rest => braceEntries value fuel entries rest
    | '\x7D' :: rest => return (entries, rest)
    | _ => none

/-- A value within which others may stand so deep. -/
def value : (depth : Nat) → Reader Item
  | 0, input => scalar input
  | depth + 1, input =>
    match input with
    | '[' :: rest =>
      (arrayItems (value depth) input rest).map fun (items, rest) => (.array items, rest)
    | '\x7B' :: rest =>
      match skipBlanks rest with
      | '\x7D' :: rest => some (.table .braces [], rest)
      | _ =>
        (braceEntries (value depth) input [] rest).map fun (entries, rest) =>
          (.table .braces entries, rest)
    | input => scalar input

/-! ## Statements -/

inductive Statement where
  | assignment (key : List String) (item : Item)
  | table (path : List String)
  | element (path : List String)
deriving Repr

namespace Statement

/-- One statement with the end of its line. -/
def read : Reader Statement
  | '[' :: '[' :: rest => do
    let (path, rest) ← key rest
    let rest ← expect ']' (← expect ']' rest)
    return (element path, ← lineEnd? rest)
  | '[' :: rest => do
    let (path, rest) ← key rest
    let rest ← expect ']' rest
    return (table path, ← lineEnd? rest)
  | input => do
    let (key, rest) ← key input
    let (item, rest) ← value deepest (skipBlanks (← expect '=' rest))
    return (assignment key item, ← lineEnd? rest)

/-- All statements up to the end.  The fuel is a bound on their number. -/
def readAll : (fuel : Nat) → List Char → Option (List Statement)
  | 0, _ => none
  | fuel + 1, input =>
    match skipLayout input with
    | [] => some []
    | input => do
      let (statement, rest) ← read input
      return statement :: (← readAll fuel rest)

/-- A byte order mark in front of a document does not belong to it. -/
def withoutMark : List Char → List Char
  | '\uFEFF' :: rest => rest
  | input => input

/-- The statements of a document. -/
def ofDocument (document : String) : Option (List Statement) :=
  let input := withoutMark document.toList
  readAll (input.length + 1) input

end Statement

end Toml

end SessionHost
