import SshCompliance.Config.Basic
import SshCompliance.Config.KeyPath
import SshCompliance.Decimal.Shortest
import SshCompliance.Json.Reader
import SshCompliance.Text.Search

/-!
# Layers of the configuration

A layer is a list of keys with values. Layers are set one after the other into one object, so later
layers win; the members of that object are one more layer, which is set by itself, and the
configuration is read from what it gives. Reading is lenient where a text is wanted: switches and
numbers are taken as they print.
-/

namespace SshCompliance.Config

abbrev Layer := List (String × Json)

namespace Layer

/-- The defaults as the lowest layer. -/
def defaults : Layer := membersOf default.toJson

def ofText? (text : String) : Option Layer := do
  let value ← Json.parse? text
  match ← value.untyped? with
  | .object members => some members
  | _ => none

/-- Names of environment variables that belong to the configuration start so, in any case. -/
def variablePrefix : String := "SSH_ALGO_MATRIX_"

/-- Writes a dot for each pair of underscores, from the left. -/
def dotted : List Char → List Char
  | '_' :: '_' :: rest => '.' :: dotted rest
  | c :: rest => c :: dotted rest
  | [] => []

/-- The key that an environment variable sets. -/
def keyOfVariable? (name : String) : Option String := do
  let rest ← (variablePrefix.folded).toList.isPrefixOf? name.folded.toList
  some (String.ofList (dotted rest))

def ofEnvironment (environment : List (String × String)) : Layer :=
  environment.filterMap fun (name, value) => (keyOfVariable? name).map (·, .string value)

end Layer

/-- The object with a layer set into it. -/
def setLayer (target : Json) (layer : Layer) : Json :=
  layer.foldl (fun target (key, value) => setPath value (KeyPath.ofKey key) target) target

/-- The layers set one after the other. A key can become a path by the folding of its case; so what
the layers give together is a layer itself, whose keys are read once more. -/
def merge (layers : List Layer) : Json :=
  setLayer (.object []) (membersOf (layers.foldl setLayer (.object [])))

/-- The text of a value where a text is wanted. Whole numbers beyond 63 bits are taken as
doubles. -/
def lenientText? : Json → Option String
  | .string text => some text
  | .bool value => some (if value then "true" else "false")
  | .int number =>
    if number < Json.Numeral.signedLimit then some (toString number)
    else some (String.ofList (plainText (Float.ofNat number.toNat)))
  | .double number => some (String.ofList (plainText number))
  | _ => none

/-- A policy by its label, or by the only member of an object, regardless of case. -/
def lenientPolicy? : Json → Option FailurePolicy
  | .string name => FailurePolicy.ofName? name
  | .object [(name, _)] => FailurePolicy.ofName? name
  | _ => none

/-- Allow-lists by name, or in their order; those that are missing keep their defaults. -/
def lenientLists? (value : Json) : Option AllowLists := do
  let field : String → Option Json ← match value with
    | .object members => some (fun name => members.lookup name)
    | .array items => some (fun name => (AllowLists.members.zip items).lookup name)
    | _ => none
  let read (category : Category) : Option AllowList :=
    Json.optional? AllowList.ofJson? (AllowLists.default.get category)
      (field (AllowLists.member category))
  some ⟨← read .cipher, ← read .mac, ← read .kex⟩

def readField (merged : Json) (name : String) (read : Json → Option α) (default : α) :
    Except ConfigFault α :=
  match Json.optional? read default ((membersOf merged).lookup name) with
  | some value => .ok value
  | none => .error (.unreadable ("invalid value for key " ++ name))

def ofMerged (merged : Json) : Except ConfigFault Config := do
  let text (name default : String) := readField merged name lenientText? default
  let logLevel ← text "log_level" default.logLevel
  let testbed ← readField merged "testbed" (Json.nullable? lenientText?) default.testbed
  let testbedFile ← text "testbed_file" default.testbedFile
  let inventoryDir ← text "inventory_dir" default.inventoryDir
  let ansibleBin ← text "ansible_bin" default.ansibleBin
  let outputMarker ← text "output_marker" default.outputMarker
  let onQueryFailure ← readField merged "on_query_failure" lenientPolicy? default.onQueryFailure
  let allowLists ← readField merged "allow_lists" lenientLists? default.allowLists
  pure {
    logLevel, testbed, testbedFile, inventoryDir, ansibleBin, outputMarker, onQueryFailure,
    allowLists }

/-- The configuration that layers over the defaults give. -/
def ofLayers (layers : List Layer) : Except ConfigFault Config :=
  ofMerged (merge (Layer.defaults :: layers))

end SshCompliance.Config
