namespace SessionHost

/-!
# Text without terminal sequences

A text that a user typed may hold sequences that a terminal would obey and not
show.  `plain` takes them out, for a message that is not written to a terminal.

A sequence begins with the escape character.  What follows says of which kind
it is: a short sequence ends with its first character that is not an
intermediate, a control sequence with its final character, a device string
runs until it is broken off, and a command to the operating system is ended by
a bell too.  The escape character begins a new sequence wherever it stands,
and the characters cancel and substitute break off any sequence.

Layout characters do no harm.  They are shown even within the shorter
sequences, and from there on text is shown again, although the sequence is
still unfinished; it goes on behind the next character that cannot be shown.
-/

namespace Terminal

/-- Which part of a sequence comes next, if any. -/
inductive State where
  /-- No sequence has begun, or the last one is finished. -/
  | text
  /-- The kind of the sequence. -/
  | escape
  /-- The end of a short sequence. -/
  | short
  /-- The parameters and the final character of a control sequence. -/
  | control
  /-- The parameters of a device string, of which none has come yet. -/
  | deviceEntry
  /-- The further parameters of a device string. -/
  | deviceParameters
  /-- The intermediate characters of a device string. -/
  | deviceIntermediates
  /-- The contents of a device string, or of a string that nobody reads. -/
  | contents
  /-- A command to the operating system. -/
  | command
deriving DecidableEq, Repr

/-- Tab, line feed, form feed and carriage return. -/
def isLayout (char : Char) : Bool :=
  char = '\t' || char = '\n' || char = '\x0c' || char = '\r'

/-- Whether a character of a text is shown: all but the ASCII controls that are
no layout. -/
def isVisible (char : Char) : Bool :=
  isLayout char || (' ' ≤ char && char != '\x7f')

def isAscii (char : Char) : Bool :=
  char < '\u0080'

/-- An intermediate character of a sequence: a space or a mark up to the slash. -/
def isIntermediate (char : Char) : Bool :=
  ' ' ≤ char && char ≤ '/'

/-- A parameter character: a digit or a mark up to the question mark. -/
def isParameter (char : Char) : Bool :=
  '0' ≤ char && char ≤ '?'

/-- A character that ends a control sequence. -/
def isFinal (char : Char) : Bool :=
  '@' ≤ char && char ≤ '~'

/-- Whether the string terminator is among the bytes that encode a character.
It is one byte, and a string is read by bytes. -/
def hasTerminator (char : Char) : Bool :=
  !isAscii char && (String.utf8EncodeChar char).contains 0x9C

namespace State

/-- The state behind a character whose meaning depends on the state. -/
def after (state : State) (char : Char) : State :=
  match state with
  | text => text
  | escape =>
    if isIntermediate char then short
    else if char = '[' then control
    else if char = ']' then command
    else if char = 'P' then deviceEntry
    else if char = 'X' || char = '^' || char = '_' then contents
    else if isParameter char || isFinal char then text
    else escape
  | short => if isParameter char || isFinal char then text else short
  | control => if isFinal char then text else control
  | deviceEntry =>
    if isIntermediate char then deviceIntermediates
    else if isParameter char then deviceParameters
    else if isFinal char then contents
    else deviceEntry
  | deviceParameters =>
    if isIntermediate char then deviceIntermediates
    else if '<' ≤ char && char ≤ '?' || isFinal char then contents
    else deviceParameters
  | deviceIntermediates =>
    if isParameter char || isFinal char then contents else deviceIntermediates
  | contents => if hasTerminator char then text else contents
  | command => if char = '\x07' then text else command

/-- The state behind a character.  The escape character, cancel and substitute
mean the same in every state. -/
def next (state : State) (char : Char) : State :=
  if char = '\x1b' then escape
  else if char = '\x18' || char = '\x1a' then text
  else state.after char

/-- Whether a character is shown in a state. -/
def shows (state : State) (char : Char) : Bool :=
  match state with
  | text => isVisible char
  | escape | short | control => isLayout char
  | _ => false

end State

/-- The characters that are shown.  Behind a shown character all visible ones
are shown in any state, and one that is not ASCII ends an unfinished sequence. -/
def plainFrom (state : State) (showing : Bool) : List Char → List Char
  | [] => []
  | char :: rest =>
    if showing && isVisible char then
      char :: plainFrom (if isAscii char then state else .text) true rest
    else if state.shows char then char :: plainFrom (state.next char) true rest
    else plainFrom (state.next char) false rest

/-- The text without its terminal sequences, and without the other controls
that cannot be seen. -/
def plain (text : String) : String :=
  String.ofList (plainFrom .text false text.toList)

end Terminal

end SessionHost
