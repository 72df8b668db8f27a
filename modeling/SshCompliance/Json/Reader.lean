import SshCompliance.Json.Numeral

/-!
# Reading JSON text

The grammar is the strict one: no comments, no trailing commas, no leading zeros, blanks are the
space, the tab, the line feed and the carriage return, control characters do not stand in strings,
and nothing but blanks follows the value. The text is read from left to right; every reader returns
what it found together with the text behind it.
-/

namespace SshCompliance.Json

def isBlank (c : Char) : Bool := c = ' ' || c = '\t' || c = '\n' || c = '\r'

def skipBlanks (text : List Char) : List Char := text.dropWhile isBlank

/-- Part of a string: a character, or a 16-bit unit given by an escape. -/
inductive Piece where
  | char (c : Char)
  | unit (code : Nat)
deriving DecidableEq, Repr

def hexDigit? (c : Char) : Option Nat :=
  if c.isDigit then some (c.toNat - '0'.toNat)
  else if 'a' ≤ c ∧ c ≤ 'f' then some (c.toNat - 'a'.toNat + 10)
  else if 'A' ≤ c ∧ c ≤ 'F' then some (c.toNat - 'A'.toNat + 10)
  else none

def unit? (first second third fourth : Char) : Option Nat := do
  some (((← hexDigit? first) * 16 + (← hexDigit? second)) * 256
    + ((← hexDigit? third) * 16 + (← hexDigit? fourth)))

/-- The character that a letter after a backslash stands for. -/
def escaped? : Char → Option Char
  | '"' => some '"'
  | '\\' => some '\\'
  | '/' => some '/'
  | 'b' => some '\x08'
  | 'f' => some '\x0c'
  | 'n' => some '\n'
  | 'r' => some '\r'
  | 't' => some '\t'
  | _ => none

/-- Reads the pieces of a string up to its closing quote. -/
def pieces? : List Char → Option (List Piece × List Char)
  | [] => none
  | '"' :: rest => some ([], rest)
  | '\\' :: 'u' :: first :: second :: third :: fourth :: rest => do
    let code ← unit? first second third fourth
    let (pieces, rest) ← pieces? rest
    some (.unit code :: pieces, rest)
  | '\\' :: c :: rest => do
    let c ← escaped? c
    let (pieces, rest) ← pieces? rest
    some (.char c :: pieces, rest)
  | c :: rest =>
    if c.toNat < 0x20 ∨ c = '\\' then none
    else do
      let (pieces, rest) ← pieces? rest
      some (.char c :: pieces, rest)

def isHighHalf (code : Nat) : Bool := 0xD800 ≤ code && code ≤ 0xDBFF

def isLowHalf (code : Nat) : Bool := 0xDC00 ≤ code && code ≤ 0xDFFF

/-- The text of the pieces, if every half of a surrogate pair has its other half. -/
def joinPieces? : List Piece → Option (List Char)
  | [] => some []
  | .char c :: rest => (joinPieces? rest).map (c :: ·)
  | .unit high :: .unit low :: rest =>
    if isHighHalf high then
      if isLowHalf low then
        (joinPieces? rest).map
          (Char.ofNat (0x10000 + (high - 0xD800) * 0x400 + (low - 0xDC00)) :: ·)
      else
        none
    else if isLowHalf high then none
    else (joinPieces? (.unit low :: rest)).map (Char.ofNat high :: ·)
  | .unit code :: rest =>
    if isHighHalf code || isLowHalf code then none
    else (joinPieces? rest).map (Char.ofNat code :: ·)

/-- Reads the rest of a string after its opening quote; the inner `none` is a text with half a
surrogate pair. -/
def string? (text : List Char) : Option (Option String × List Char) := do
  let (pieces, rest) ← pieces? text
  some ((joinPieces? pieces).map String.ofList, rest)

def ofText : Option String → Json
  | some text => .string text
  | none => .unreadable

def ofMembers (members : List (Option String × Json)) : Json :=
  match members.mapM (fun (name, value) => name.map (·, value)) with
  | some members => .object members
  | none => .unreadable

mutual

/-- Reads a value; `fuel` bounds the number of values and separators that are read inside one
another or one after the other. -/
def value? : Nat → List Char → Option (Json × List Char)
  | 0, _ => none
  | fuel + 1, text =>
    match skipBlanks text with
    | '{' :: rest =>
      match skipBlanks rest with
      | '}' :: rest => some (.object [], rest)
      | rest => do
        let (members, rest) ← members? fuel rest
        some (ofMembers members, rest)
    | '[' :: rest =>
      match skipBlanks rest with
      | ']' :: rest => some (.array [], rest)
      | rest => do
        let (items, rest) ← items? fuel rest
        some (.array items, rest)
    | '"' :: rest => do
      let (text, rest) ← string? rest
      some (ofText text, rest)
    | 'n' :: 'u' :: 'l' :: 'l' :: rest => some (.null, rest)
    | 't' :: 'r' :: 'u' :: 'e' :: rest => some (.bool true, rest)
    | 'f' :: 'a' :: 'l' :: 's' :: 'e' :: rest => some (.bool false, rest)
    | rest => do
      let (numeral, rest) ← Numeral.read? rest
      some (numeral.toJson, rest)

/-- Reads the items of an array up to its closing bracket. -/
def items? : Nat → List Char → Option (List Json × List Char)
  | 0, _ => none
  | fuel + 1, text => do
    let (item, rest) ← value? fuel text
    match skipBlanks rest with
    | ',' :: rest => do
      let (items, rest) ← items? fuel rest
      some (item :: items, rest)
    | ']' :: rest => some ([item], rest)
    | _ => none

/-- Reads the members of an object up to its closing brace. -/
def members? : Nat → List Char → Option (List (Option String × Json) × List Char)
  | 0, _ => none
  | fuel + 1, text =>
    match skipBlanks text with
    | '"' :: rest => do
      let (name, rest) ← string? rest
      match skipBlanks rest with
      | ':' :: rest => do
        let (value, rest) ← value? fuel rest
        match skipBlanks rest with
        | ',' :: rest => do
          let (members, rest) ← members? fuel rest
          some ((name, value) :: members, rest)
        | '}' :: rest => some ([(name, value)], rest)
        | _ => none
      | _ => none
    | _ => none

end

def ofChars? (text : List Char) : Option Json :=
  match value? (text.length + 1) text with
  | some (value, rest) => if skipBlanks rest = [] then some value else none
  | none => none

def parse? (text : String) : Option Json := ofChars? text.toList

end SshCompliance.Json
