import SshCompliance.Json.Basic

/-!
# Reading values of known shape

A record is written as an object, or as the array of its fields in order, of which the last may be
missing. In an object other members are skipped, but none of the fields may occur twice. A name out
of a fixed set is written as a string, or as an object with that one name and the value null.
-/

namespace SshCompliance.Json

def text? : Json → Option String
  | .string text => some text
  | _ => none

def bool? : Json → Option Bool
  | .bool value => some value
  | _ => none

def list? (read : Json → Option α) : Json → Option (List α)
  | .array items => items.mapM read
  | _ => none

def texts? : Json → Option (List String) := list? text?

/-- Null is read as absence. -/
def nullable? (read : Json → Option α) : Json → Option (Option α)
  | .null => some none
  | value => (read value).map some

/-- The name that a string or an object with one null member gives. -/
def variant? : Json → Option String
  | .string name => some name
  | .object [(name, .null)] => some name
  | _ => none

/-- The fields of a record, by name. -/
def record? (fields : List String) : Json → Option (String → Option Json)
  | .object members =>
    if ((members.map Prod.fst).filter (fields.contains ·)).Nodup then
      some (fun name => members.lookup name)
    else
      none
  | .array items =>
    if items.length ≤ fields.length then some (fun name => (fields.zip items).lookup name) else none
  | _ => none

def optional? (read : Json → Option α) (default : α) : Option Json → Option α
  | none => some default
  | some value => read value

end SshCompliance.Json
