import SshCompliance.Json.Decode
import SshCompliance.Text.Search

/-!
# Modes of the decapsulation test

What a test sets up depends on the topology, on the vendor of the ASIC and on the release the device
runs.
-/

namespace SshCompliance.Decap

/-- Topologies with two top-of-rack switches have a mux between them. -/
def hasMux (topology : String) : Bool := topology.mentions "dualtor"

/-- The seconds that a mux takes to settle. -/
def muxSettleSeconds (topology : String) : Option Nat :=
  if hasMux topology then some 30 else none

def ecnModeOf (asicType : String) : String :=
  if asicType = "mellanox" then "standard" else "copy_from_outer"

/-- The releases from 202012 on can copy the fields of the inner header uniformly. -/
def supportsUniform (osVersion : String) : Bool :=
  !(osVersion.mentions "201811" || osVersion.mentions "201911")

/-- How the time to live and the service class of a packet are treated. -/
structure Modes where
  ttl : String
  dscp : String
deriving DecidableEq, Repr

namespace Modes

def wantsUniform (modes : Modes) : Bool := modes.ttl = "uniform" || modes.dscp = "uniform"

def availableOn (modes : Modes) (osVersion : String) : Bool :=
  !modes.wantsUniform || supportsUniform osVersion

def fields : List String := ["ttl", "dscp"]

def toJson (modes : Modes) : Json :=
  .object [("ttl", .string modes.ttl), ("dscp", .string modes.dscp)]

def ofJson? (value : Json) : Option Modes := do
  let field ← value.record? fields
  some ⟨← (← field "ttl").text?, ← (← field "dscp").text?⟩

end Modes

structure HeaderVersions where
  outerV4 : Bool
  outerV6 : Bool
  innerV4 : Bool
  innerV6 : Bool
deriving DecidableEq, Repr

namespace HeaderVersions

def all : HeaderVersions := ⟨true, true, true, true⟩

def fields : List String := ["outer_ipv4", "outer_ipv6", "inner_ipv4", "inner_ipv6"]

def members (versions : HeaderVersions) : List (String × Json) :=
  [("outer_ipv4", .bool versions.outerV4), ("outer_ipv6", .bool versions.outerV6),
    ("inner_ipv4", .bool versions.innerV4), ("inner_ipv6", .bool versions.innerV6)]

def toJson (versions : HeaderVersions) : Json := .object versions.members

def ofJson? (value : Json) : Option HeaderVersions := do
  let field ← value.record? fields
  let read (name : String) : Option Bool := (field name).bind Json.bool?
  some ⟨← read "outer_ipv4", ← read "outer_ipv6", ← read "inner_ipv4", ← read "inner_ipv6"⟩

end HeaderVersions

end SshCompliance.Decap
