/-!
# JSON values

A value keeps the order of its members and every member, repeated names included. `untyped?` is the
reading without a type in mind: members are sorted by name, of repeated names the last one stays,
and nesting is bounded.
-/

namespace SshCompliance

inductive Json where
  | null
  | bool (value : Bool)
  | int (value : Int)
  | double (value : Float)
  | string (text : String)
  | array (items : List Json)
  | object (members : List (String × Json))
  /-- Well-formed text that stands for no value: a number beyond the doubles, a string with half a
  surrogate pair, an object with such a name. It may occur where values are skipped. -/
  | unreadable
deriving Repr, Inhabited

namespace Json

/-- Puts a member in its place among sorted members, over one of the same name. -/
def putSorted (name : String) (value : Json) : List (String × Json) → List (String × Json)
  | [] => [(name, value)]
  | (other, old) :: rest =>
    if name = other then (name, value) :: rest
    else if name < other then (name, value) :: (other, old) :: rest
    else (other, old) :: putSorted name value rest

mutual

/-- The value with at most `levels` arrays and objects inside one another. -/
def untypedWithin (levels : Nat) : Json → Option Json
  | .unreadable => none
  | .array items =>
    match levels with
    | 0 => none
    | levels + 1 => (untypedItems levels items).map .array
  | .object members =>
    match levels with
    | 0 => none
    | levels + 1 => (untypedMembers levels members []).map .object
  | value => some value

def untypedItems (levels : Nat) : List Json → Option (List Json)
  | [] => some []
  | item :: rest => do
    let item ← untypedWithin levels item
    let rest ← untypedItems levels rest
    some (item :: rest)

def untypedMembers (levels : Nat) :
    List (String × Json) → List (String × Json) → Option (List (String × Json))
  | [], sorted => some sorted
  | (name, value) :: rest, sorted => do
    let value ← untypedWithin levels value
    untypedMembers levels rest (putSorted name value sorted)

end

/-- Arrays and objects may be nested this deep in a value that is read without a type. -/
def maxNesting : Nat := 127

def untyped? (value : Json) : Option Json := value.untypedWithin maxNesting

end Json

end SshCompliance
