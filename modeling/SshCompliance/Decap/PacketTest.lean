import SshCompliance.Decap.Payload
import SshCompliance.Decap.Loopbacks
import SshCompliance.Decap.Modes
import SshCompliance.Timestamp

/-!
# Parameters of the packet test

The variables that fill the template of a payload, the facts that all test cases of a run share, and
one run of the packet test. All of them are written as JSON.
-/

namespace SshCompliance.Decap

structure Variables where
  v4 : Option Address
  v6 : Option Address
  modes : Modes
  ecnMode : String
  operation : Operation
  versions : HeaderVersions
deriving DecidableEq, Repr

namespace Variables

/-- The variables for the device at a place; beyond the last slot there are no addresses. -/
def forDevice (place : Nat) (versions : HeaderVersions) (loopbacks : Loopbacks) (modes : Modes)
    (ecnMode : String) (operation : Operation) : Variables where
  v4 := loopbacks.v4[place]?.join
  v6 := loopbacks.v6[place]?.join
  modes := modes
  ecnMode := ecnMode
  operation := operation
  versions := versions

def toJson (filling : Variables) : Json :=
  .object ([
    ("lo_ip", Loopbacks.slotToJson filling.v4),
    ("lo_ipv6", Loopbacks.slotToJson filling.v6),
    ("ttl_mode", .string filling.modes.ttl),
    ("dscp_mode", .string filling.modes.dscp),
    ("ecn_mode", .string filling.ecnMode),
    ("op", .string filling.operation.label)] ++ filling.versions.members)

end Variables

/-- What all test cases of a run share. -/
structure Setup where
  fibFiles : List String
  multiAsic : Bool
  routerMacs : List String
  versions : HeaderVersions
  loopbacks : Loopbacks
deriving DecidableEq, Repr

namespace Setup

def maxFibFiles : Nat := 3

def create (multiAsic : Bool) (fibFiles routerMacs : List String) (versions : HeaderVersions)
    (loopbacks : Loopbacks) : Setup :=
  ⟨fibFiles.take maxFibFiles, multiAsic, routerMacs, versions, loopbacks⟩

def texts (values : List String) : Json := .array (values.map .string)

/-- Packets cross further hops inside a device with several ASICs. -/
def maxInternalHops (setup : Setup) : Nat := if setup.multiAsic then 3 else 0

def toJson (setup : Setup) : Json :=
  .object ([
    ("fib_info_files", texts setup.fibFiles),
    ("ignore_ttl", .bool setup.multiAsic),
    ("max_internal_hops", .int setup.maxInternalHops),
    ("router_macs", texts setup.routerMacs)] ++ setup.versions.members ++ setup.loopbacks.members)

/-- The parameters of one test case; the map of ports is handed on as it is. -/
def parameters (setup : Setup) (modes : Modes) (portMap : Json) : Json :=
  .object (setup.versions.members ++ setup.loopbacks.members ++ [
    ("router_macs", texts setup.routerMacs),
    ("ttl_mode", .string modes.ttl),
    ("dscp_mode", .string modes.dscp),
    ("ignore_ttl", .bool setup.multiAsic),
    ("max_internal_hops", .int setup.maxInternalHops),
    ("fib_info_files", texts setup.fibFiles),
    ("ptf_test_port_map", portMap)])

end Setup

def testDirectory : String := "ptftests"

def testName : String := "IP_decap_test.DecapPacketTest"

def queueLength : Nat := 1000

def logPath (now : Timestamp) : String := "/tmp/decap." ++ now.text ++ ".log"

def invocation (setup : Setup) (modes : Modes) (portMap : Json) (now : Timestamp) : Json :=
  .object [
    ("test_dir", .string testDirectory),
    ("test", .string testName),
    ("platform_dir", .string testDirectory),
    ("params", setup.parameters modes portMap),
    ("qlen", .int queueLength),
    ("log_file", .string (logPath now))]

end SshCompliance.Decap
