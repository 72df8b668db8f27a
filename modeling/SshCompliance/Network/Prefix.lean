import SshCompliance.Network.Address
import SshCompliance.Text.Blank

/-!
# Network prefixes

A prefix is an address with a length, by default the whole address. For version 4 the length may be
given as a mask of leading ones.
-/

namespace SshCompliance

structure NetworkPrefix where
  address : Address
  length : Nat
deriving DecidableEq, Repr

namespace NetworkPrefix

/-- Reads a length of at most `limit` bits; a plus and leading zeros do no harm. -/
def length? (limit : Nat) (text : List Char) : Option Nat :=
  let digits := match text with
    | '+' :: rest => rest
    | text => text
  if digits = [] ∨ !digits.all Char.isDigit then none
  else
    let length := Address.ofDigits 10 (digits.map Address.hexValue)
    if length ≤ limit then some length else none

/-- The number of ones that a mask starts with, if it holds no others. -/
def maskLength? (mask : BitVec 32) : Option Nat :=
  (List.range 33).find? (fun length => mask = BitVec.allOnes 32 <<< (32 - length))

def lengthV4? (text : List Char) : Option Nat :=
  match Address.parseV4? (String.ofList text) with
  | some mask => maskLength? mask
  | none => length? 32 text

def ofParts? (address : String) (length : Option (List Char)) : Option NetworkPrefix :=
  match Address.parse? address with
  | some (.v4 bits) =>
    match length with
    | none => some ⟨.v4 bits, 32⟩
    | some text => (lengthV4? text).map (⟨.v4 bits, ·⟩)
  | some (.v6 bits) =>
    match length with
    | none => some ⟨.v6 bits, 128⟩
    | some text => (length? 128 text).map (⟨.v6 bits, ·⟩)
  | none => none

def parse? (text : String) : Option NetworkPrefix :=
  match Text.split (· = '/') text.toList with
  | [address] => ofParts? (String.ofList address) none
  | [address, length] => ofParts? (String.ofList address) (some length)
  | _ => none

end NetworkPrefix

end SshCompliance
