import SshCompliance.AllowList.ByCategory
import SshCompliance.FailurePolicy
import SshCompliance.Log
import SshCompliance.Text.Quoted

/-!
# The configuration

Every field has a default, so JSON may give any of them. Overrides are fields given for one run of
the program; they win over everything else.
-/

namespace SshCompliance

structure Config where
  logLevel : String
  testbed : Option String
  testbedFile : String
  inventoryDir : String
  ansibleBin : String
  outputMarker : String
  onQueryFailure : FailurePolicy
  allowLists : AllowLists
deriving DecidableEq

/-- The fields that one run of the program may set. -/
structure Overrides where
  logLevel : Option String
  testbed : Option String
  testbedFile : Option String
  inventoryDir : Option String
  onQueryFailure : Option FailurePolicy
deriving DecidableEq, Repr

namespace Config

def defaultLogLevel : String := "info"

def default : Config where
  logLevel := defaultLogLevel
  testbed := none
  testbedFile := "testbed.csv"
  inventoryDir := "../ansible"
  ansibleBin := "ansible"
  outputMarker := "rc=0 >>"
  onQueryFailure := .degrade
  allowLists := .default

def fields : List String :=
  ["log_level", "testbed", "testbed_file", "inventory_dir", "ansible_bin", "output_marker",
    "on_query_failure", "allow_lists"]

def toJson (config : Config) : Json :=
  .object [
    ("log_level", .string config.logLevel),
    ("testbed", (config.testbed.map Json.string).getD .null),
    ("testbed_file", .string config.testbedFile),
    ("inventory_dir", .string config.inventoryDir),
    ("ansible_bin", .string config.ansibleBin),
    ("output_marker", .string config.outputMarker),
    ("on_query_failure", config.onQueryFailure.toJson),
    ("allow_lists", config.allowLists.toJson)]

def ofJson? (value : Json) : Option Config := do
  let field ← value.record? fields
  let text (name default : String) : Option String := Json.optional? Json.text? default (field name)
  some {
    logLevel := ← text "log_level" default.logLevel
    testbed := ← Json.optional? (Json.nullable? Json.text?) default.testbed (field "testbed")
    testbedFile := ← text "testbed_file" default.testbedFile
    inventoryDir := ← text "inventory_dir" default.inventoryDir
    ansibleBin := ← text "ansible_bin" default.ansibleBin
    outputMarker := ← text "output_marker" default.outputMarker
    onQueryFailure :=
      ← Json.optional? FailurePolicy.ofJson? default.onQueryFailure (field "on_query_failure")
    allowLists := ← Json.optional? AllowLists.ofJson? default.allowLists (field "allow_lists") }

def testbedName (config : Config) : Except ConfigFault String :=
  match config.testbed with
  | some name => .ok name
  | none => .error (.missingRequired "testbed")

def override (config : Config) (overrides : Overrides) : Config :=
  { config with
    logLevel := overrides.logLevel.getD config.logLevel
    testbed := overrides.testbed.or config.testbed
    testbedFile := overrides.testbedFile.getD config.testbedFile
    inventoryDir := overrides.inventoryDir.getD config.inventoryDir
    onQueryFailure := overrides.onQueryFailure.getD config.onQueryFailure }

end Config

end SshCompliance
