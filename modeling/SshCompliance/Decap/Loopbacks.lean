import SshCompliance.Error
import SshCompliance.Network.Prefix

/-!
# Loopback addresses

Of the prefixes on a device's loopback interface the first of each version counts. There is one slot
for each device and version.
-/

namespace SshCompliance.Decap

structure Loopbacks where
  v4 : List (Option Address)
  v6 : List (Option Address)
deriving DecidableEq, Repr

namespace Loopbacks

def empty : Loopbacks := ⟨[], []⟩

def isV4 : Address → Bool
  | .v4 _ => true
  | .v6 _ => false

def readPrefix (text : String) : Except Error NetworkPrefix :=
  match NetworkPrefix.parse? text with
  | some found => .ok found
  | none =>
    .error (.other ("Invalid Loopback0 prefix " ++ text ++ ": invalid address: " ++ text))

def addresses (prefixes : List String) : Except Error (List Address) :=
  prefixes.mapM (fun text => (readPrefix text).map NetworkPrefix.address)

def ofAddresses (devices : List (List Address)) : Loopbacks where
  v4 := devices.map (·.find? isV4)
  v6 := devices.map (·.find? (fun address => !isV4 address))

/-- Reads the prefixes of each device; every one of them must be readable. -/
def ofPrefixes (devices : List (List String)) : Except Error Loopbacks :=
  (devices.mapM addresses).map ofAddresses

def fields : List String := ["lo_ips", "lo_ipv6s"]

def slotToJson : Option Address → Json
  | some address => address.toJson
  | none => .null

def slotsToJson (slots : List (Option Address)) : Json := .array (slots.map slotToJson)

def members (loopbacks : Loopbacks) : List (String × Json) :=
  [("lo_ips", slotsToJson loopbacks.v4), ("lo_ipv6s", slotsToJson loopbacks.v6)]

def toJson (loopbacks : Loopbacks) : Json := .object loopbacks.members

def ofJson? (value : Json) : Option Loopbacks := do
  let field ← value.record? fields
  let read (name : String) : Option (List (Option Address)) :=
    (field name).bind (Json.list? (Json.nullable? Address.ofJson?))
  some ⟨← read "lo_ips", ← read "lo_ipv6s"⟩

end Loopbacks

end SshCompliance.Decap
