import SshCompliance.Json.Basic
import SshCompliance.Text.Caseless

/-!
# Key paths

A key names a place in nested objects and arrays: identifiers with dots between them, each followed
by any number of positions in brackets. A text of any other form names a single member. Members are
named regardless of case.
-/

namespace SshCompliance.Config

inductive KeyStep where
  | member (name : String)
  /-- A position in an array; negative ones count from its end. -/
  | position (index : Int)
deriving DecidableEq, Repr

abbrev KeyPath := List KeyStep

namespace KeyPath

def isIdentifierChar (c : Char) : Bool := c.isAlphanum || c = '_' || c = '-' || c = ' '

def isGap (c : Char) : Bool := c = ' ' || c = '\t'

/-- Positions are 64-bit numbers with a sign. -/
def inRange (index : Int) : Bool := -0x8000000000000000 ≤ index && index < 0x8000000000000000

def index? (text : List Char) : Option Int :=
  let (negative, digits) := match text with
    | '-' :: rest => (true, rest)
    | text => (false, text)
  if digits.isEmpty || !digits.all Char.isDigit then none
  else
    let number : Int := digits.foldl (fun number c => 10 * number + (c.toNat - '0'.toNat : Nat)) 0
    let index := if negative then -number else number
    if inRange index then some index else none

def position? (text : List Char) : Option Int :=
  index? ((text.dropWhile isGap).reverse.dropWhile isGap).reverse

/-- Cuts a text into a leading identifier and the rest. -/
def identifier? (text : List Char) : Option (String × List Char) :=
  match text.takeWhile isIdentifierChar with
  | [] => none
  | name => some (String.ofList name, text.dropWhile isIdentifierChar)

/-- Reads the steps after the first; each takes at least one character, of which `fuel` bounds the
number. -/
def steps? : Nat → List Char → Option KeyPath
  | _, [] => some []
  | 0, _ => none
  | fuel + 1, '.' :: rest => do
    let (name, rest) ← identifier? rest
    let steps ← steps? fuel rest
    some (.member name :: steps)
  | fuel + 1, '[' :: rest => do
    let index ← position? (rest.takeWhile (· ≠ ']'))
    match rest.dropWhile (· ≠ ']') with
    | [] => none
    | _ :: rest => do
      let steps ← steps? fuel rest
      some (.position index :: steps)
  | _, _ => none

def parse? (text : List Char) : Option KeyPath := do
  let (name, rest) ← identifier? text
  let steps ← steps? rest.length rest
  some (.member name :: steps)

def ofKey (key : String) : KeyPath := (parse? key.toList).getD [.member key]

end KeyPath

/-- The members of an object; nothing else has any. -/
def membersOf : Json → List (String × Json)
  | .object members => members
  | _ => []

def itemsOf : Json → List Json
  | .array items => items
  | _ => []

mutual

/-- Sets a member. An object is merged into what is there, member by member. -/
def setMember (target : Json) (name : String) : Json → Json
  | .object incoming =>
    let present := ((membersOf target).lookup name.folded).getD (.object [])
    .object (Json.putSorted name.folded (setMembers present incoming) (membersOf target))
  | value => .object (Json.putSorted name.folded value (membersOf target))

/-- Sets one member after the other; without any the target stays what it is. -/
def setMembers (target : Json) : List (String × Json) → Json
  | [] => target
  | (name, value) :: rest => setMembers (setMember target name value) rest

end

/-- The items with room for a position, and the place of that position among them. -/
def makeRoom (items : List Json) (index : Int) : List Json × Nat :=
  let place := if 0 ≤ index then index else items.length + index
  if place < 0 then (List.replicate place.natAbs .null ++ items, 0)
  else (items ++ List.replicate (place.toNat + 1 - items.length) .null, place.toNat)

/-- Sets the value at a path, with the objects and arrays that lead there. -/
def setPath (value : Json) : KeyPath → Json → Json
  | [], _ => value
  | [.member name], target => setMember target name value
  | .member name :: rest, target =>
    let present := ((membersOf target).lookup name.folded).getD .null
    .object (Json.putSorted name.folded (setPath value rest present) (membersOf target))
  | .position index :: rest, target =>
    let (items, place) := makeRoom (itemsOf target) index
    .array (items.set place (setPath value rest (items.getD place .null)))

end SshCompliance.Config
