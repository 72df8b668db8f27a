import SshCompliance.Json.Basic
import SshCompliance.Decimal.Shortest

/-!
# Printing JSON text

The compact form has no blanks. The pretty form puts every item and member on a line of its own,
two spaces further in than the brackets around it, and a space after each colon; empty arrays and
objects stay closed in both. In strings the quote, the backslash and the controls below U+0020 are
escaped and nothing else.
-/

namespace SshCompliance.Json

def hexDigit (number : Nat) : Char := (Nat.toDigits 16 number).headD '0'

def escapeChar (c : Char) : List Char :=
  match c with
  | '"' => ['\\', '"']
  | '\\' => ['\\', '\\']
  | '\x08' => ['\\', 'b']
  | '\x0c' => ['\\', 'f']
  | '\n' => ['\\', 'n']
  | '\r' => ['\\', 'r']
  | '\t' => ['\\', 't']
  | c =>
    if c.toNat < 0x20 then ['\\', 'u', '0', '0', hexDigit (c.toNat / 16), hexDigit (c.toNat % 16)]
    else [c]

def stringText (text : String) : List Char :=
  '"' :: text.toList.flatMap escapeChar ++ ['"']

def intText (number : Int) : List Char :=
  if number < 0 then '-' :: Nat.toDigits 10 number.natAbs else Nat.toDigits 10 number.natAbs

/-- The text of a value that has neither items nor members. -/
def scalarText : Json → List Char
  | .bool true => ['t', 'r', 'u', 'e']
  | .bool false => ['f', 'a', 'l', 's', 'e']
  | .int number => intText number
  | .double number => pointedText number
  | .string text => stringText text
  | _ => ['n', 'u', 'l', 'l']

mutual

def compactChars : Json → List Char
  | .array [] => ['[', ']']
  | .array (item :: rest) => '[' :: compactChars item ++ compactItems rest
  | .object [] => ['\x7b', '\x7d']
  | .object ((name, value) :: rest) =>
    '\x7b' :: stringText name ++ ':' :: compactChars value ++ compactMembers rest
  | value => scalarText value

/-- The items after the first, and the closing bracket. -/
def compactItems : List Json → List Char
  | [] => [']']
  | item :: rest => ',' :: compactChars item ++ compactItems rest

/-- The members after the first, and the closing brace. -/
def compactMembers : List (String × Json) → List Char
  | [] => ['\x7d']
  | (name, value) :: rest =>
    ',' :: stringText name ++ ':' :: compactChars value ++ compactMembers rest

end

def newLine (depth : Nat) : List Char := '\n' :: List.replicate (2 * depth) ' '

mutual

def prettyChars (depth : Nat) : Json → List Char
  | .array [] => ['[', ']']
  | .array (item :: rest) =>
    '[' :: newLine (depth + 1) ++ prettyChars (depth + 1) item ++ prettyItems depth rest
  | .object [] => ['\x7b', '\x7d']
  | .object ((name, value) :: rest) =>
    '\x7b' :: newLine (depth + 1) ++ stringText name ++ ':' :: ' ' ::
      prettyChars (depth + 1) value ++ prettyMembers depth rest
  | value => scalarText value

def prettyItems (depth : Nat) : List Json → List Char
  | [] => newLine depth ++ [']']
  | item :: rest =>
    ',' :: newLine (depth + 1) ++ prettyChars (depth + 1) item ++ prettyItems depth rest

def prettyMembers (depth : Nat) : List (String × Json) → List Char
  | [] => newLine depth ++ ['\x7d']
  | (name, value) :: rest =>
    ',' :: newLine (depth + 1) ++ stringText name ++ ':' :: ' ' ::
      prettyChars (depth + 1) value ++ prettyMembers depth rest

end

def compact (value : Json) : String := String.ofList value.compactChars

def pretty (value : Json) : String := String.ofList (value.prettyChars 0)

end SshCompliance.Json
