namespace SessionHost

/-!
# Diagnostics

Everything the host has to say about its own work is a record: a level, a
message and named values.  Records are collected as data, and a listener
keeps those at its own level or more severe.  A record is written as one line
whose level is right-aligned to five columns.

A message may quote what a user typed, and the line may end up on a terminal.
So the characters that steer a terminal are written as escapes in a message.
-/

/-- How severe a record is. -/
inductive Level where
  | trace | debug | info | warn | error
deriving DecidableEq, Repr

namespace Level

def all : List Level := [trace, debug, info, warn, error]

/-- Larger is more severe. -/
def severity : Level → Nat
  | trace => 0
  | debug => 1
  | info => 2
  | warn => 3
  | error => 4

/-- The level used where none was chosen. -/
def default : Level := warn

/-- The spelling used in the configuration file and on the command line. -/
def name : Level → String
  | trace => "trace"
  | debug => "debug"
  | info => "info"
  | warn => "warn"
  | error => "error"

/-- The spelling used in front of a record. -/
def label : Level → String
  | trace => "TRACE"
  | debug => "DEBUG"
  | info => "INFO"
  | warn => "WARN"
  | error => "ERROR"

/-- The level of exactly this name; case matters. -/
def ofName? (text : String) : Option Level :=
  all.find? fun level => level.name == text

/-- As `ofName?`, with ASCII capitals read as small letters. -/
def ofNameIgnoringCase? (text : String) : Option Level :=
  ofName? (text.map Char.toLower)

end Level

namespace Log

/-- One diagnostic message with its named values, in the order they are shown. -/
structure Record where
  level : Level
  message : String
  fields : List (String × String) := []
deriving DecidableEq, Repr

/-- The columns before a message: its level, right-aligned to five. -/
def heading (level : Level) : String :=
  "".pushn ' ' (5 - level.label.length) ++ level.label ++ " "

/-- The ASCII controls that are escaped: bell, backspace, form feed, escape
and delete. -/
def steering : List Char := ['\x07', '\x08', '\x0c', '\x1b', '\x7f']

/-- A character as a message shows it: the steering ASCII controls and the
eight-bit controls by their code, all others as they are. -/
def shownChar (char : Char) : List Char :=
  let digits := Nat.toDigits 16 char.toNat
  if steering.contains char then '\\' :: 'x' :: digits.leftpad 2 '0'
  else if '\u0080' ≤ char ∧ char ≤ '\u009f' then
    '\\' :: 'u' :: '\x7b' :: digits ++ ['\x7d']
  else [char]

/-- One line for a record.  Values are shown verbatim. -/
def Record.render (record : Record) : String :=
  record.fields.foldl (fun line (name, value) => line ++ " " ++ name ++ "=" ++ value)
    (heading record.level ++ String.ofList (record.message.toList.flatMap shownChar)) ++ "\n"

/-- Whether a listener at the given level keeps the record. -/
def Record.heardAt (listener : Level) (record : Record) : Bool :=
  listener.severity ≤ record.level.severity

/-- What a listener at the given level writes. -/
def render (listener : Level) (records : List Record) : String :=
  String.join ((records.filter (·.heardAt listener)).map Record.render)

def debug (message : String) (fields : List (String × String)) : Record :=
  ⟨.debug, message, fields⟩

def info (message : String) (fields : List (String × String)) : Record :=
  ⟨.info, message, fields⟩

def warn (message : String) (fields : List (String × String)) : Record :=
  ⟨.warn, message, fields⟩

end Log

end SessionHost
