import SshCompliance.Json.Decode

/-!
# Network addresses

An address of version 4 is written as four decimal octets without leading zeros. One of version 6 is
written as eight groups of up to four hexadecimal digits, of which two colons may replace a stretch,
and of which the last two may be written as an address of version 4. When printed, the first of the
longest stretches of two or more zero groups is replaced, and only an address of version 4 that is
mapped into version 6 ends in octets.
-/

namespace SshCompliance

inductive Address where
  | v4 (bits : BitVec 32)
  | v6 (bits : BitVec 128)
deriving DecidableEq, Repr

namespace Address

def ofDigits (base : Nat) (digits : List Nat) : Nat :=
  digits.foldl (fun number digit => base * number + digit) 0

def hexValue (c : Char) : Nat :=
  if c.isDigit then c.toNat - '0'.toNat else c.toLower.toNat - 'a'.toNat + 10

def isHexDigit (c : Char) : Bool := c.isDigit || ('a' ≤ c.toLower && c.toLower ≤ 'f')

def octet? (text : List Char) : Option (Nat × List Char) :=
  let digits := text.takeWhile Char.isDigit
  let value := ofDigits 10 (digits.map hexValue)
  if digits = [] ∨ 3 < digits.length ∨ (1 < digits.length ∧ digits.head? = some '0') ∨ 255 < value
  then none
  else some (value, text.dropWhile Char.isDigit)

def pointOctet? : List Char → Option (Nat × List Char)
  | '.' :: rest => octet? rest
  | _ => none

def readV4? (text : List Char) : Option (BitVec 32 × List Char) := do
  let (first, text) ← octet? text
  let (second, text) ← pointOctet? text
  let (third, text) ← pointOctet? text
  let (fourth, text) ← pointOctet? text
  some (BitVec.ofNat 32 (ofDigits 256 [first, second, third, fourth]), text)

def group? (text : List Char) : Option (Nat × List Char) :=
  let digits := text.takeWhile isHexDigit
  if digits = [] ∨ 4 < digits.length then none
  else some (ofDigits 16 (digits.map hexValue), text.dropWhile isHexDigit)

/-- Reads something at the start, and elsewhere after a colon. -/
def afterColon? (atStart : Bool) (read : List Char → Option (α × List Char)) (text : List Char) :
    Option (α × List Char) :=
  if atStart then read text
  else
    match text with
    | ':' :: rest => read rest
    | _ => none

/-- What a run of groups was read to. -/
structure Groups where
  values : List Nat
  /-- The last two groups were written as an address of version 4. -/
  endsInV4 : Bool
  rest : List Char

/-- Reads as many groups as there are, up to a limit. -/
def groups (atStart : Bool) : Nat → List Char → Groups
  | 0, text => ⟨[], false, text⟩
  | limit + 1, text =>
    match if 0 < limit then afterColon? atStart readV4? text else none with
    | some (address, rest) => ⟨[address.toNat / 65536, address.toNat % 65536], true, rest⟩
    | none =>
      match afterColon? atStart group? text with
      | none => ⟨[], false, text⟩
      | some (value, rest) =>
        let others := groups false limit rest
        { others with values := value :: others.values }

def readV6? (text : List Char) : Option (BitVec 128 × List Char) :=
  let head := groups true 8 text
  if head.values.length = 8 then some (BitVec.ofNat 128 (ofDigits 65536 head.values), head.rest)
  else if head.endsInV4 then none
  else
    match head.rest with
    | ':' :: ':' :: rest =>
      let tail := groups true (7 - head.values.length) rest
      let zeros := List.replicate (8 - head.values.length - tail.values.length) 0
      some (BitVec.ofNat 128 (ofDigits 65536 (head.values ++ zeros ++ tail.values)), tail.rest)
    | _ => none

def parseV4? (text : String) : Option (BitVec 32) :=
  match readV4? text.toList with
  | some (bits, []) => some bits
  | _ => none

def parseV6? (text : String) : Option (BitVec 128) :=
  match readV6? text.toList with
  | some (bits, []) => some bits
  | _ => none

def parse? (text : String) : Option Address :=
  ((parseV4? text).map .v4).or ((parseV6? text).map .v6)

def digits (base : Nat) : Nat → Nat → List Nat
  | 0, _ => []
  | count + 1, number => digits base count (number / base) ++ [number % base]

def octetsText (number : Nat) : String :=
  ".".intercalate ((digits 256 4 number).map toString)

def groupsText (groups : List Nat) : String :=
  ":".intercalate (groups.map (fun group => String.ofList (Nat.toDigits 16 group)))

/-- The number of zero groups from a place on. -/
def zerosFrom (groups : List Nat) (place : Nat) : Nat :=
  ((groups.drop place).takeWhile (· = 0)).length

/-- The first place with the longest stretch of zero groups. -/
def longestZeros (groups : List Nat) : Nat :=
  (List.range groups.length).foldl
    (fun best place => if zerosFrom groups best < zerosFrom groups place then place else best) 0

def v6Text (bits : BitVec 128) : String :=
  if bits.toNat / 0x100000000 = 0xFFFF then "::ffff:" ++ octetsText (bits.toNat % 0x100000000)
  else
    let groups := digits 65536 8 bits.toNat
    let place := longestZeros groups
    let zeros := zerosFrom groups place
    if zeros ≤ 1 then groupsText groups
    else groupsText (groups.take place) ++ "::" ++ groupsText (groups.drop (place + zeros))

def text : Address → String
  | .v4 bits => octetsText bits.toNat
  | .v6 bits => v6Text bits

def toJson (address : Address) : Json := .string address.text

def ofJson? (value : Json) : Option Address := do
  parse? (← value.text?)

end Address

end SshCompliance
