import SessionHost.Text.Terminal

namespace SessionHost

/-!
# Styled text

A message that a person reads may set off some of its parts by a style.  On a
terminal a style is a sequence in front of the part, and behind it one more
sequence ends every style.  Elsewhere the parts stand without a style, and what
a part holds of sequences itself is taken out; so a sequence that is unfinished
in one part does not swallow the next.
-/

/-- How a part of a message is set off. -/
inductive Style where
  | regular
  /-- Something to be typed as it stands. -/
  | literal
  | heading
  /-- The word that announces an error. -/
  | alarm
  /-- Something that was typed and cannot be used. -/
  | invalid
deriving DecidableEq, Repr

namespace Style

/-- The sequences that begin a style: bold, underlined, red, yellow. -/
def opening : Style → String
  | regular => ""
  | literal => "\x1b[1m"
  | heading => "\x1b[1m\x1b[4m"
  | alarm => "\x1b[1m\x1b[31m"
  | invalid => "\x1b[33m"

/-- The sequence that ends a style. -/
def closing : Style → String
  | regular => ""
  | _ => "\x1b[0m"

end Style

/-- A part of a message. -/
structure Span where
  text : String
  style : Style := .regular
deriving DecidableEq, Repr

namespace Span

/-- The part as it is written, with its style or without. -/
def write (coloured : Bool) (span : Span) : String :=
  if coloured then span.style.opening ++ span.text ++ span.style.closing
  else Terminal.plain span.text

end Span

/-- A message in parts. -/
abbrev Styled := List Span

namespace Styled

/-- A message of one regular part. -/
def ofString (text : String) : Styled := [⟨text, .regular⟩]

/-- The whole message as it is written. -/
def write (coloured : Bool) (message : Styled) : String :=
  String.join (message.map (Span.write coloured))

end Styled

end SessionHost
