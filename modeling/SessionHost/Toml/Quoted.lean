import SessionHost.Toml.Layout

namespace SessionHost

/-!
# Quoted text in a document

Text stands between double quotes, where a backslash begins an escape
sequence, or between single quotes, where every character stands for itself.
Either form may be opened and closed by three quotes instead of one; then it
may span lines, a line break right behind the opening does not count, and up
to two of its quotes may stand together inside it.

`Style.of` chooses the plainest form that can hold a text.  Escape sequences
are a last resort, because they are hard to read.
-/

namespace Toml

namespace Quoted

/-! ## Reading -/

def hexDigit? (char : Char) : Option Nat :=
  if '0' ≤ char && char ≤ '9' then some (char.toNat - 48)
  else if 'a' ≤ char && char ≤ 'f' then some (char.toNat - 87)
  else if 'A' ≤ char && char ≤ 'F' then some (char.toNat - 55)
  else none

/-- The character of a code point; surrogates and points past the end of the
code space have none. -/
def scalar? (value : Nat) : Option Char :=
  if value.isValidChar then some (Char.ofNat value) else none

/-- The character that a one-letter escape sequence stands for. -/
def shortEscape? : Char → Option Char
  | 'b' => some '\x08'
  | 't' => some '\t'
  | 'n' => some '\n'
  | 'f' => some '\x0C'
  | 'r' => some '\r'
  | '"' => some '"'
  | '\\' => some '\\'
  | _ => none

/-- Where a reader stands inside text between double quotes. -/
inductive Place where
  | plain
  /-- Right behind a backslash. -/
  | escaped
  /-- In the digits of a code point: so many are still to come, and those read
  so far have this value. -/
  | codePoint (left value : Nat)
  /-- In the blanks behind a backslash that must end its line. -/
  | lineEnding
  /-- Behind such a line: blanks and line breaks are passed over. -/
  | passing
deriving DecidableEq, Repr

/-- How many quotes of a kind stand at the front. -/
def quotes (quote : Char) (input : List Char) : Nat :=
  (input.takeWhile (· = quote)).length

/-- Put a character in front of what is read after it. -/
def push (char : Char) (read : Option (List Char × List Char)) :
    Option (List Char × List Char) :=
  read.map fun (text, rest) => (char :: text, rest)

/-- What a run of three or more quotes leaves of text that three quotes end:
the run's first quotes belong to the text, two of them at most. -/
def closeRun (quote : Char) (input : List Char) : List Char × List Char :=
  let run := min (quotes quote input) 5
  (List.replicate (run - 3) quote, input.drop run)

/-- Read text between double quotes up to and with its end. -/
def readEscaped (spanning : Bool) : Place → Reader (List Char)
  | _, [] => none
  | .escaped, char :: rest =>
    if char = 'u' then readEscaped spanning (.codePoint 4 0) rest
    else if char = 'U' then readEscaped spanning (.codePoint 8 0) rest
    else match shortEscape? char with
      | some meant => push meant (readEscaped spanning .plain rest)
      | none =>
        if !spanning then none
        else if isBlank char then readEscaped spanning .lineEnding rest
        else if char = '\n' then readEscaped spanning .passing rest
        else if char = '\r' && rest.head? = some '\n' then readEscaped spanning .lineEnding rest
        else none
  | .codePoint left value, char :: rest =>
    match hexDigit? char with
    | none => none
    | some digit =>
      if left ≤ 1 then
        match scalar? (value * 16 + digit) with
        | none => none
        | some meant => push meant (readEscaped spanning .plain rest)
      else readEscaped spanning (.codePoint (left - 1) (value * 16 + digit)) rest
  | .lineEnding, char :: rest =>
    if isBlank char then readEscaped spanning .lineEnding rest
    else if char = '\n' then readEscaped spanning .passing rest
    else if char = '\r' && rest.head? = some '\n' then readEscaped spanning .lineEnding rest
    else none
  | place, char :: rest =>
    if place = .passing && (isBlank char || char = '\n') then readEscaped spanning .passing rest
    else if char = '\r' && rest.head? = some '\n' && spanning then readEscaped spanning place rest
    else if char = '\\' then readEscaped spanning .escaped rest
    else if char = '"' then
      if !spanning then some ([], rest)
      else if quotes '"' (char :: rest) < 3 then push char (readEscaped spanning .plain rest)
      else some (closeRun '"' (char :: rest))
    else if isPrintable char || (spanning && char = '\n') then
      push char (readEscaped spanning .plain rest)
    else none

/-- Read text between single quotes up to and with its end. -/
def readVerbatim (spanning : Bool) : Reader (List Char)
  | [] => none
  | char :: rest =>
    if char = '\r' && rest.head? = some '\n' && spanning then readVerbatim spanning rest
    else if char = '\'' then
      if !spanning then some ([], rest)
      else if quotes '\'' (char :: rest) < 3 then push char (readVerbatim spanning rest)
      else some (closeRun '\'' (char :: rest))
    else if isPrintable char || (spanning && char = '\n') then
      push char (readVerbatim spanning rest)
    else none

/-- What was read, as a text. -/
def joined (read : Option (List Char × List Char)) : Option (String × List Char) :=
  read.map fun (text, rest) => (String.ofList text, rest)

/-- Read quoted text on one line. -/
def readLine : Reader String
  | '"' :: rest => joined (readEscaped false .plain rest)
  | '\'' :: rest => joined (readVerbatim false rest)
  | _ => none

/-- A line break right behind an opening of three quotes does not count. -/
def afterOpening (input : List Char) : List Char :=
  (lineBreak? input).getD input

/-- Read quoted text of any form. -/
def read : Reader String
  | '"' :: '"' :: '"' :: rest => joined (readEscaped true .plain (afterOpening rest))
  | '\'' :: '\'' :: '\'' :: rest => joined (readVerbatim true (afterOpening rest))
  | input => readLine input

/-! ## Writing -/

inductive Style where
  /-- Between double quotes, on one line. -/
  | escaped
  /-- Between single quotes, on one line. -/
  | verbatim
  /-- Between three double quotes. -/
  | escapedLines
  /-- Between three single quotes. -/
  | verbatimLines
deriving DecidableEq, Repr

/-- Control characters that no form holds as they are. -/
def needsEscape (char : Char) : Bool :=
  !(isPrintable char || char = '\n')

/-- The length of the longest run of a character. -/
def longestRun (char : Char) (text : List Char) : Nat :=
  (text.foldl (fun (longest, here) next =>
    if next = char then (max longest (here + 1), here + 1) else (longest, 0)) (0, 0)).1

/-- The form in which a text is written: the first one that holds the text
without an escape sequence, except for tabs. -/
def Style.of (text : List Char) : Style :=
  let control := text.any needsEscape
  let backslash := text.contains '\\'
  let lines := text.contains '\n'
  if !control && !backslash && !lines && longestRun '"' text = 0 then escaped
  else if !control && !lines && longestRun '\'' text = 0 then verbatim
  else if !control && !backslash && longestRun '"' text ≤ 2 then escapedLines
  else if !control && longestRun '\'' text ≤ 2 then verbatimLines
  else if lines then escapedLines
  else escaped

/-- Four hexadecimal digits, in capitals. -/
def fourDigits (value : Nat) : List Char :=
  let digits := (Nat.toDigits 16 value).map Char.toUpper
  List.replicate (4 - digits.length) '0' ++ digits

/-- An escape sequence for a character that is not a quote. -/
def escapeSequence (char : Char) : List Char :=
  match char with
  | '\x08' => ['\\', 'b']
  | '\t' => ['\\', 't']
  | '\n' => ['\\', 'n']
  | '\x0C' => ['\\', 'f']
  | '\r' => ['\\', 'r']
  | '\\' => ['\\', '\\']
  | char => '\\' :: 'u' :: fourDigits char.toNat

/-- What stands between double quotes.  Of quotes that stand together, so many
are written as they are before one is escaped. -/
def escape (spanning : Bool) : (together : Nat) → List Char → List Char
  | _, [] => []
  | together, char :: rest =>
    let allowed := if spanning then 2 else 0
    if char = '"' then
      if together < allowed then char :: escape spanning (together + 1) rest
      else '\\' :: char :: escape spanning 0 rest
    else if spanning && char = '\n' then char :: escape spanning 0 rest
    else if char = '\t' || char = '\n' || char = '\\' || needsEscape char then
      escapeSequence char ++ escape spanning 0 rest
    else char :: escape spanning 0 rest

/-- Three quotes, and a line break behind them if the text has one: there it
is not part of the text, and it lines the text up. -/
def opening (quote : Char) (text : List Char) : List Char :=
  [quote, quote, quote] ++ if text.contains '\n' then ['\n'] else []

def Style.write (text : List Char) : Style → List Char
  | escaped => '"' :: escape false 0 text ++ ['"']
  | verbatim => '\'' :: text ++ ['\'']
  | escapedLines => opening '"' text ++ escape true 0 text ++ ['"', '"', '"']
  | verbatimLines => opening '\'' text ++ text ++ ['\'', '\'', '\'']

/-- A text as it is written in a document. -/
def write (text : String) : List Char :=
  (Style.of text.toList).write text.toList

end Quoted

end Toml

end SessionHost
