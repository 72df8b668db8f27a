import SshCompliance.Json.Basic

/-!
# Numbers in JSON text

A numeral is read into a significand of at most 64 bits and a power of ten, which is then applied to
the significand as a double: by one multiplication or division if the power has at most 308 zeros,
after divisions by `10 ^ 308` otherwise. Each of these steps rounds on its own. Whole numbers from
`-2 ^ 63` to `2 ^ 64 - 1` stay whole, except a zero with a minus.
-/

namespace SshCompliance.Json

/-- A numeral as written. Digits are values below ten; an exponent is given by its sign and
digits. -/
structure Numeral where
  negative : Bool
  whole : List Nat
  fraction : List Nat
  exponent : Option (Bool × List Nat)
deriving DecidableEq, Repr

namespace Numeral

def digit? (c : Char) : Option Nat :=
  if c.isDigit then some (c.toNat - '0'.toNat) else none

def digits (text : List Char) : List Nat × List Char :=
  ((text.takeWhile Char.isDigit).filterMap digit?, text.dropWhile Char.isDigit)

def ofDigits (digits : List Nat) : Nat := digits.foldl (fun number digit => 10 * number + digit) 0

/-- Reads the part before the point: a zero alone, or digits of which the first is not zero. -/
def whole? (text : List Char) : Option (List Nat × List Char) :=
  match text with
  | '0' :: rest => some ([0], rest)
  | text =>
    match digits text with
    | ([], _) => none
    | found => some found

def fraction? (text : List Char) : Option (List Nat × List Char) :=
  match text with
  | '.' :: rest =>
    match digits rest with
    | ([], _) => none
    | found => some found
  | text => some ([], text)

/-- Reads the digits of an exponent whose sign has been read. -/
def power? (negative : Bool) (text : List Char) :
    Option (Option (Bool × List Nat) × List Char) :=
  match digits text with
  | ([], _) => none
  | (found, rest) => some (some (negative, found), rest)

def exponent? (text : List Char) : Option (Option (Bool × List Nat) × List Char) :=
  match text with
  | c :: rest =>
    if c = 'e' ∨ c = 'E' then
      match rest with
      | '+' :: rest => power? false rest
      | '-' :: rest => power? true rest
      | rest => power? false rest
    else
      some (none, c :: rest)
  | [] => some (none, [])

def read? (text : List Char) : Option (Numeral × List Char) := do
  let (negative, text) := match text with
    | '-' :: rest => (true, rest)
    | text => (false, text)
  let (whole, text) ← whole? text
  let (fraction, text) ← fraction? text
  let (exponent, text) ← exponent? text
  some (⟨negative, whole, fraction, exponent⟩, text)

/-- Numbers below this fit into 64 bits. -/
def wordLimit : Nat := 0x10000000000000000

/-- Numbers below this fit into 64 bits of which one is for the sign. -/
def signedLimit : Nat := 0x8000000000000000

/-- Takes the digits before the point into the significand until one no longer fits; counts the
digits that are left out. -/
def absorbWhole (significand : Nat) : List Nat → Nat × Nat
  | [] => (significand, 0)
  | digit :: rest =>
    if 10 * significand + digit < wordLimit then absorbWhole (10 * significand + digit) rest
    else (significand, rest.length + 1)

/-- Takes the digits after the point until one no longer fits; counts the digits taken. -/
def absorbFraction (significand : Nat) : List Nat → Nat × Nat
  | [] => (significand, 0)
  | digit :: rest =>
    if 10 * significand + digit < wordLimit then
      let (significand, taken) := absorbFraction (10 * significand + digit) rest
      (significand, taken + 1)
    else
      (significand, 0)

def powerOfTen (zeros : Nat) : Float := Float.ofScientific 1 false zeros

def shrink : Nat → Float → Float
  | 0, value => value
  | times + 1, value => if value == 0 then value else shrink times (value / powerOfTen 308)

/-- Applies a power of ten; `none` if the result is beyond the doubles. -/
def applyPower (value : Float) (exponent : Int) : Option Float :=
  if value == 0 then some value
  else if 308 < exponent then none
  else if 0 ≤ exponent then
    let scaled := value * powerOfTen exponent.toNat
    if scaled.isInf then none else some scaled
  else
    let times := (exponent.natAbs - 308 + 307) / 308
    some (shrink times value / powerOfTen (exponent.natAbs - 308 * times))

def toDouble (numeral : Numeral) : Json :=
  let (significand, leftOut) := absorbWhole 0 numeral.whole
  let (significand, taken) := absorbFraction significand numeral.fraction
  let written : Int := match numeral.exponent with
    | none => 0
    | some (negative, digits) => if negative then -ofDigits digits else ofDigits digits
  match applyPower significand.toFloat ((leftOut : Int) - taken + written) with
  | none => .unreadable
  | some value => .double (if numeral.negative then -value else value)

def toJson (numeral : Numeral) : Json :=
  let number := ofDigits numeral.whole
  if numeral.fraction ≠ [] ∨ numeral.exponent.isSome then numeral.toDouble
  else if numeral.negative then
    if number = 0 ∨ signedLimit < number then numeral.toDouble else .int (-number)
  else if number < wordLimit then .int number
  else numeral.toDouble

end Numeral

end SshCompliance.Json
