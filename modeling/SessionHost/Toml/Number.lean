import SessionHost.Toml.Codec
import SessionHost.Toml.Quoted

namespace SessionHost

/-!
# Numbers in a document

Integers have 64 bits and are written in decimal with an optional sign, or
without one in hexadecimal, octal or binary.  Single underscores may stand
between digits.  A number with a fraction or an exponent is a float; nothing
in the configuration is one, so a float is only checked and its value is not
kept.  A float that would round to positive infinity is refused, and one that
would round to negative infinity is not.
-/

namespace Toml

namespace Number

/-- A digit of a radix that is at most sixteen. -/
def digit? (radix : Nat) (char : Char) : Option Nat :=
  (Quoted.hexDigit? char).filter (· < radix)

/-- Whether a digit comes next. -/
def startsWithDigit (radix : Nat) (input : List Char) : Bool :=
  match input with
  | [] => false
  | char :: _ => (digit? radix char).isSome

/-- Digits behind a first one, with underscores between them. -/
def moreDigits (radix : Nat) : List Char → List Nat × List Char
  | [] => ([], [])
  | char :: rest =>
    match digit? radix char with
    | some digit =>
      let (digits, rest) := moreDigits radix rest
      (digit :: digits, rest)
    | none =>
      if char = '_' && startsWithDigit radix rest then moreDigits radix rest
      else ([], char :: rest)

/-- One digit or more. -/
def digits (radix : Nat) : Reader (List Nat)
  | [] => none
  | char :: rest =>
    (digit? radix char).map fun digit =>
      let (digits, rest) := moreDigits radix rest
      (digit :: digits, rest)

/-- The number that digits spell. -/
def ofDigits (radix : Nat) (digits : List Nat) : Nat :=
  digits.foldl (fun value digit => value * radix + digit) 0

/-- An optional sign: whether it is a minus, and what follows it. -/
def sign : List Char → Bool × List Char
  | '+' :: rest => (false, rest)
  | '-' :: rest => (true, rest)
  | input => (false, input)

/-- Decimal digits that do not begin with a zero, or a zero alone. -/
def wholePart : Reader (List Nat)
  | '0' :: rest => some ([0], rest)
  | input => digits 10 input

/-! ## Integers -/

def smallest : Int := -Int.pow 2 63

/-- More digits than this make an integer too large in any radix. -/
def mostDigits : Nat := 64

/-- The integer of a sign and digits, if it has its place among those of 64
bits.  Zeros in front do not count. -/
def inRange (radix : Nat) (negative : Bool) (digits : List Nat) : Option Int :=
  let digits := digits.dropWhile (· = 0)
  if mostDigits < digits.length then none
  else
    let magnitude : Int := ofDigits radix digits
    let value := if negative then -magnitude else magnitude
    if smallest ≤ value ∧ value ≤ largest then some value else none

/-- A number in a radix of its own, behind the mark of that radix. -/
def ofRadix (radix : Nat) (input : List Char) : Option (Int × List Char) := do
  let (digits, rest) ← digits radix input
  return (← inRange radix false digits, rest)

def integer : Reader Int
  | '0' :: 'x' :: rest => ofRadix 16 rest
  | '0' :: 'o' :: rest => ofRadix 8 rest
  | '0' :: 'b' :: rest => ofRadix 2 rest
  | input => do
    let (negative, rest) := sign input
    let (digits, rest) ← wholePart rest
    return (← inRange 10 negative digits, rest)

/-! ## Floats -/

/-- The smallest magnitude that rounds to infinity: half a unit above the
largest float. -/
def roundsToInfinity : Nat := Nat.pow 2 1024 - Nat.pow 2 970

/-- How many decimal digits `roundsToInfinity` has. -/
def infinityDigits : Nat := 309

/-- Whether digits, scaled by a power of ten, round to infinity.  The number of
places in front of the decimal point decides, unless it is that of the bound;
then the digits in these places do, for the bound is an integer. -/
def overflows (digits : List Nat) (exponent : Int) : Bool :=
  let digits := digits.dropWhile (· = 0)
  let places : Int := digits.length + exponent
  if digits.isEmpty || places < infinityDigits then false
  else if infinityDigits < places then true
  else roundsToInfinity ≤ ofDigits 10 ((digits.take infinityDigits).rightpad infinityDigits 0)

/-- The digits behind a decimal point. -/
def fraction? : List Char → Option (List Nat × List Char)
  | '.' :: rest => digits 10 rest
  | _ => none

/-- Once an exponent is as large as this, its further digits are passed over. -/
def largestExponent : Nat := 65536

/-- The exponent that digits spell, as far as they count. -/
def exponentOfDigits (digits : List Nat) : Nat :=
  digits.foldl (fun value digit =>
    if largestExponent ≤ value then value else value * 10 + digit) 0

/-- An exponent and what follows it. -/
def exponent? : List Char → Option (Int × List Char)
  | char :: rest =>
    if char = 'e' || char = 'E' then do
      let (negative, rest) := sign rest
      let (digits, rest) ← digits 10 rest
      let magnitude : Int := exponentOfDigits digits
      return (if negative then -magnitude else magnitude, rest)
    else none
  | [] => none

/-- A float in digits: at least a fraction or an exponent follows the whole
part. -/
def decimalFloat (input : List Char) : Option (List Char) := do
  let (negative, rest) := sign input
  let (whole, rest) ← wholePart rest
  let (digits, exponent, rest) ← match fraction? rest with
    | some (fraction, rest) =>
      let (exponent, rest) := (exponent? rest).getD (0, rest)
      some (whole ++ fraction, exponent - fraction.length, rest)
    | none => (exponent? rest).map fun (exponent, rest) => (whole, exponent, rest)
  if !negative && overflows digits exponent then none else some rest

/-- Infinity, or what is not a number. -/
def specialFloat (input : List Char) : Option (List Char) :=
  match (sign input).2 with
  | 'i' :: 'n' :: 'f' :: rest => some rest
  | 'n' :: 'a' :: 'n' :: rest => some rest
  | _ => none

/-- What follows a float. -/
def float? (input : List Char) : Option (List Char) :=
  decimalFloat input <|> specialFloat input

end Number

end Toml

end SessionHost
