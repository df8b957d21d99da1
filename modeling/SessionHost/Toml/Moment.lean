import SessionHost.Toml.Number

namespace SessionHost

/-!
# Dates and times in a document

A moment is a date, a time, or a date with a time and perhaps an offset.  The
configuration has no use for one, so moments are only checked.  A day must
exist in its month, a minute may have a leap second, and an offset is less
than a day.
-/

namespace Toml

namespace Moment

/-- So many decimal digits, as a number. -/
def fixedDigits : (count : Nat) → (value : Nat) → Reader Nat
  | 0, value, rest => some (value, rest)
  | _ + 1, _, [] => none
  | count + 1, value, char :: rest => do
    let digit ← Number.digit? 10 char
    fixedDigits count (value * 10 + digit) rest

/-- A number of two digits within bounds. -/
def twoDigits (low high : Nat) (input : List Char) : Option (Nat × List Char) := do
  let (value, rest) ← fixedDigits 2 0 input
  if low ≤ value ∧ value ≤ high then some (value, rest) else none

def isLeapYear (year : Nat) : Bool :=
  year % 4 = 0 && (year % 100 != 0 || year % 400 = 0)

def daysOfMonth (year month : Nat) : Nat :=
  if month = 2 then (if isLeapYear year then 29 else 28)
  else if month = 4 || month = 6 || month = 9 || month = 11 then 30
  else 31

/-- What follows a date. -/
def date? (input : List Char) : Option (List Char) := do
  let (year, rest) ← fixedDigits 4 0 input
  let (month, rest) ← twoDigits 1 12 (← expect '-' rest)
  let (_, rest) ← twoDigits 1 (daysOfMonth year month) (← expect '-' rest)
  return rest

/-- What follows an hour and a minute. -/
def clock? (input : List Char) : Option (List Char) := do
  let (_, rest) ← twoDigits 0 23 input
  let (_, rest) ← twoDigits 0 59 (← expect ':' rest)
  return rest

/-- Drop the fraction of a second, if there is one. -/
def skipFraction : List Char → List Char
  | '.' :: rest =>
    if Number.startsWithDigit 10 rest then
      rest.dropWhile fun char => (Number.digit? 10 char).isSome
    else '.' :: rest
  | input => input

/-- What follows a time of day. -/
def time? (input : List Char) : Option (List Char) := do
  let rest ← clock? input
  let (_, rest) ← twoDigits 0 60 (← expect ':' rest)
  return skipFraction rest

/-- Drop the offset from universal time, if there is one. -/
def skipOffset : List Char → List Char
  | [] => []
  | char :: rest =>
    if char = 'Z' || char = 'z' then rest
    else if char = '+' || char = '-' then (clock? rest).getD (char :: rest)
    else char :: rest

/-- Drop the time that may stand behind a date. -/
def skipTime : List Char → List Char
  | [] => []
  | char :: rest =>
    if char = 'T' || char = 't' || char = ' ' then
      match time? rest with
      | some after => skipOffset after
      | none => char :: rest
    else char :: rest

/-- What follows a moment. -/
def read? (input : List Char) : Option (List Char) :=
  match date? input with
  | some rest => some (skipTime rest)
  | none => time? input

end Moment

end Toml

end SessionHost
