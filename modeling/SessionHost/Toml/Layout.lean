namespace SessionHost

/-!
# What stands between the words of a document

A configuration document is read as a list of characters.  A reader takes the
front of what is left and gives back the rest, or refuses.  This module holds
the readers of everything that carries no meaning of its own: blanks, line
breaks and comments.  A carriage return counts only together with the line
feed behind it, and no other control character may stand anywhere but in an
escape sequence.
-/

namespace Toml

/-- A reader of one thing: the thing and the rest of the document. -/
abbrev Reader (α : Type) := List Char → Option (α × List Char)

def isBlank (char : Char) : Bool :=
  char = ' ' || char = '\t'

/-- Characters that may stand in comments and quoted text: tabs, and all that
is no control character.  Only the control characters of ASCII are meant. -/
def isPrintable (char : Char) : Bool :=
  char = '\t' || ('\x20' ≤ char && char != '\x7F')

def skipBlanks (input : List Char) : List Char :=
  input.dropWhile isBlank

/-- What follows a character that must come next. -/
def expect (char : Char) : List Char → Option (List Char)
  | [] => none
  | next :: rest => if next = char then some rest else none

/-- What follows a line break. -/
def lineBreak? : List Char → Option (List Char)
  | '\n' :: rest => some rest
  | '\r' :: '\n' :: rest => some rest
  | _ => none

/-- Drop the comment that may stand here, but not the end of its line. -/
def skipComment : List Char → List Char
  | '#' :: rest => rest.dropWhile isPrintable
  | input => input

/-- The rest of a line on which nothing more may be said. -/
def lineEnd? (input : List Char) : Option (List Char) :=
  match skipComment (skipBlanks input) with
  | [] => some []
  | rest => lineBreak? rest

/-- Drop blanks, line breaks and comments.  The flag tells whether a comment
has begun and its line has not ended. -/
def skipLayoutFrom : (commented : Bool) → List Char → List Char
  | _, [] => []
  | commented, char :: rest =>
    if commented && isPrintable char then skipLayoutFrom true rest
    else if isBlank char || char = '\n' then skipLayoutFrom false rest
    else if char = '\r' && rest.head? = some '\n' then skipLayoutFrom false rest
    else if char = '#' then skipLayoutFrom true rest
    else char :: rest

def skipLayout (input : List Char) : List Char :=
  skipLayoutFrom false input

end Toml

end SessionHost
