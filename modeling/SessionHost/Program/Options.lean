import SessionHost.Program.CommandLine

namespace SessionHost

/-!
# Taking a command line apart

An option that takes a value has it attached behind an equals sign or as the
next argument.  A value that was given as an argument of its own is looked at
only when the argument after it is, or at the end; so of two faults the one
that was noticed first is reported, and that is not always the one that stands
first.  Two hyphens alone end the options without being an argument.

Arguments that belong to no option are always taken to be trailing ones that may
begin with a hyphen, whether or not that was declared.

Usage messages and help are read by people, so some of their parts have a
style.  What they quote from the command line is a part of its own.
-/

namespace OptionDeclaration

/-- What stands behind the name in messages. -/
def valueUsage (option : OptionDeclaration) : String :=
  match option.action with
  | .value shown _ => " <" ++ shown ++ ">"
  | _ => ""

/-- The option with its value, as usage messages show it. -/
def usage (option : OptionDeclaration) : String :=
  "--" ++ option.name ++ option.valueUsage

end OptionDeclaration

/-- Why a command line is refused.  Texts with the option's usage show which option
is meant. -/
inductive UsageError where
  | valueMissing (usage : String)
  /-- An option was given twice. -/
  | repeated (usage : String)
  | valueUnexpected (value usage : String)
  /-- The value is none of those that are listed. -/
  | valueUnknown (value usage : String)
  | argumentUnexpected (argument : String)
  | argumentNotText
deriving DecidableEq, Repr

/-- The message of a usage error. -/
def UsageError.message (error : UsageError) : Styled :=
  ⟨"error:", .alarm⟩ :: match error with
    | valueMissing usage =>
      [⟨" a value is required for '", .regular⟩, ⟨usage, .invalid⟩,
        ⟨"' but none was supplied", .regular⟩]
    | repeated usage =>
      [⟨" the argument '", .regular⟩, ⟨usage, .invalid⟩,
        ⟨"' cannot be used multiple times", .regular⟩]
    | valueUnexpected value usage =>
      [⟨" unexpected value '", .regular⟩, ⟨value, .invalid⟩, ⟨"' for '", .regular⟩,
        ⟨usage, .literal⟩, ⟨"' found; no more were expected", .regular⟩]
    | valueUnknown value usage =>
      [⟨" invalid value '", .regular⟩, ⟨value, .invalid⟩, ⟨"' for '", .regular⟩,
        ⟨usage, .literal⟩, ⟨"'", .regular⟩]
    | argumentUnexpected argument =>
      [⟨" unexpected argument '", .regular⟩, ⟨argument, .invalid⟩, ⟨"' found", .regular⟩]
    | argumentNotText =>
      [⟨" invalid UTF-8 was detected in one or more arguments", .regular⟩]

namespace CommandDeclaration

/-! ## Single arguments -/

/-- What an argument is while options are read. -/
inductive Reading where
  /-- Two hyphens alone. -/
  | separator
  | option (which : OptionDeclaration) (attached : Option Bytes)
  /-- Two hyphens before a name that is no text. -/
  | unreadable (name : Bytes)
  /-- Anything else. -/
  | word
deriving DecidableEq, Repr

/-- What a name behind two hyphens stands for. -/
def named (declared : CommandDeclaration) (name : String) (attached : Option Bytes) : Reading :=
  match declared.options.find? (·.name = name) with
  | some which => .option which attached
  | none => .word

def classify (declared : CommandDeclaration) : Bytes → Reading
  | first :: second :: rest =>
    if first = hyphen && second = hyphen then
      if rest.isEmpty then .separator
      else
        let name := rest.takeWhile (· != equalsSign)
        let attached := (rest.drop name.length).tail?
        match Utf8.decode? name with
        | none => .unreadable name
        | some text => declared.named text attached
    else .word
  | _ => .word

/-! ## Help -/

/-- The name that help shows: the file name of the program as it was called,
if that is a text. -/
def shownName (declared : CommandDeclaration) (program : Bytes) : String :=
  ((Path.fileName? program).bind Utf8.decode?).getD declared.name

/-- What help says of an option, line by line. -/
def helpLines (option : OptionDeclaration) : List String :=
  option.about :: match option.action with
    | .value _ (first :: more) =>
      ["", "[possible values: " ++ String.intercalate ", " (first :: more) ++ "]"]
    | _ => []

/-- An option's entry: its name, what stands behind the name, and what it is
for. -/
def helpEntry (option : OptionDeclaration) : Styled :=
  [⟨"      ", .regular⟩, ⟨"--" ++ option.name, .literal⟩,
    ⟨option.valueUsage ++ "\n" ++
      String.join ((helpLines option).map ("          " ++ · ++ "\n")), .regular⟩]

def help (declared : CommandDeclaration) (program : Bytes) : Styled :=
  [⟨declared.about ++ "\n\n", .regular⟩,
    ⟨"Usage:", .heading⟩, ⟨" ", .regular⟩, ⟨declared.shownName program, .literal⟩,
    ⟨" [OPTIONS] [" ++ declared.args.shown ++ "]...\n\n", .regular⟩,
    ⟨"Arguments:", .heading⟩,
    ⟨"\n  [" ++ declared.args.shown ++ "]...\n          " ++ declared.args.about ++ "\n\n",
      .regular⟩,
    ⟨"Options:", .heading⟩, ⟨"\n", .regular⟩] ++
  List.intercalate (Styled.ofString "\n") (declared.options.map helpEntry)

def versionText (declared : CommandDeclaration) : String :=
  declared.name ++ " " ++ declared.version ++ "\n"

end CommandDeclaration

/-! ## Reading -/

/-- What is to be said against a value for an option. -/
def OptionDeclaration.fault? (option : OptionDeclaration) (value : Bytes) : Option UsageError :=
  if value.isEmpty then some (.valueMissing option.usage)
  else
    match option.action with
    | .value _ (first :: more) =>
      if (Utf8.decode? value).any (first :: more).contains then none
      else some (.valueUnknown (Utf8.decodeLossy value) option.usage)
    | _ => none

/-- What is to be said against a value that is attached to an option. -/
def OptionDeclaration.surplus? (option : OptionDeclaration) (attached : Option Bytes) :
    Option UsageError :=
  match option.action, attached with
  | .value _ _, _ => none
  | _, some value => some (.valueUnexpected (Utf8.decodeLossy value) option.usage)
  | _, none => none

/-- An option whose value is awaited, or has come but was not looked at. -/
structure Awaiting where
  option : OptionDeclaration
  value : Option Bytes := none
deriving DecidableEq, Repr

namespace Matches

/-- Give an option its value. -/
def give (found : Matches) (option : OptionDeclaration) (value : Bytes) :
    Except UsageError Matches :=
  if (found.value? option.name).isSome then .error (.repeated option.usage)
  else
    match option.fault? value with
    | some fault => .error fault
    | none => .ok { found with values := found.values ++ [(option.name, value)] }

/-- Look at the value of an option that was waiting for it. -/
def settle (found : Matches) : Option Awaiting → Except UsageError Matches
  | none => .ok found
  | some ⟨option, none⟩ => .error (.valueMissing option.usage)
  | some ⟨option, some value⟩ => found.give option value

/-- Note that a flag was given. -/
def raise (found : Matches) (option : OptionDeclaration) : Except UsageError Matches :=
  if found.flags.contains option.name then .error (.repeated option.usage)
  else .ok { found with flags := found.flags ++ [option.name] }

/-- The end of the options: all that is left are arguments. -/
def finish (found : Matches) (awaiting : Option Awaiting) (rest : List Bytes) :
    Except UsageError Finding := do
  let found ← found.settle awaiting
  match rest.mapM Utf8.decode? with
  | none => .error .argumentNotText
  | some args => .ok (.matched { found with args })

end Matches

namespace CommandDeclaration

/-- What one more argument leads to. -/
inductive Advance where
  /-- There may be more options. -/
  | onward (found : Matches) (awaiting : Option Awaiting)
  /-- The options have ended, and the argument is one of those behind them or not. -/
  | ends (included : Bool)
  | help
  | version
deriving DecidableEq, Repr

/-- Do what an option says. -/
def act (found : Matches) (which : OptionDeclaration) (attached : Option Bytes) :
    Except UsageError Advance :=
  match which.action with
  | .value _ _ =>
    match attached with
    | some value => (found.give which value).map (.onward · none)
    | none => .ok (.onward found (some { option := which }))
  | .flag => (found.raise which).map (.onward · none)
  | .help => .ok .help
  | .version => .ok .version

def advance (declared : CommandDeclaration) (found : Matches) (awaiting : Option Awaiting)
    (arg : Bytes) : Except UsageError Advance :=
  match declared.classify arg with
  | .separator => .ok (.ends false)
  | .unreadable name => .error (.argumentUnexpected ("--" ++ Utf8.decodeLossy name))
  | .word =>
    match awaiting with
    | some ⟨option, none⟩ => .ok (.onward found (some ⟨option, some arg⟩))
    | _ => .ok (.ends true)
  | .option which attached =>
    match which.surplus? attached with
    | some fault => .error fault
    | none => do act (← found.settle awaiting) which attached

/-- Read arguments behind those that were read before. -/
def readFrom (declared : CommandDeclaration) (program : Bytes) (found : Matches)
    (awaiting : Option Awaiting) : List Bytes → Except UsageError Finding
  | [] => found.finish awaiting []
  | arg :: rest => do
    match ← declared.advance found awaiting arg with
    | .onward found awaiting => declared.readFrom program found awaiting rest
    | .ends true => found.finish awaiting (arg :: rest)
    | .ends false => found.finish awaiting rest
    | .help => return .help (declared.help program)
    | .version => return .version declared.versionText

end CommandDeclaration

/-- A library that reads as this module says. -/
def ArgumentParser.ofOptions : ArgumentParser where
  parse declared program args :=
    (declared.readFrom program {} none args).mapError UsageError.message

end SessionHost
