import SshCompliance.Category

/-!
# Errors

Errors are told apart by what failed. `message` is the only place where they are put into words.
-/

namespace SshCompliance

inductive ConfigFault where
  | fileNotFound (path : String)
  | unreadable (reason : String)
  | invalidValue (option reason : String)
  | missingRequired (option : String)
  | other (reason : String)
deriving DecidableEq, Repr

def ConfigFault.message : ConfigFault → String
  | .fileNotFound path => "Configuration file not found: " ++ path
  | .unreadable reason => "Error parsing configuration: " ++ reason
  | .invalidValue option reason => "Invalid value for '" ++ option ++ "': " ++ reason
  | .missingRequired option => "Missing required configuration value: " ++ option
  | .other reason => "Configuration error: " ++ reason

inductive Error where
  | io (reason : String)
  | json (reason : String)
  | config (reason : String)
  | testbed (reason : String)
  /-- The query of a category failed; the output is all that came back, or why nothing did. -/
  | remoteQuery (category : Category) (output : String)
  | device (host reason : String)
  | other (reason : String)
deriving DecidableEq, Repr

namespace Error

def message : Error → String
  | .io reason => "IO error: " ++ reason
  | .json reason => "JSON error: " ++ reason
  | .config reason => "Configuration error: " ++ reason
  | .testbed reason => "Testbed error: " ++ reason
  | .remoteQuery category output =>
    "Failed to query DUT's " ++ category.label ++ " list: " ++ output
  | .device host reason => "Device error on " ++ host ++ ": " ++ reason
  | .other reason => "Other error: " ++ reason

def ofConfig (error : ConfigFault) : Error := .config error.message

/-- The task that ran the query of a category broke down, for a reason that the runtime gives. -/
def queryTask (category : Category) (reason : String) : Error :=
  .other (category.label ++ " query task failed: " ++ reason)

def unknownCategory (name : String) : Error :=
  .other ("Unknown algorithm category: " ++ name ++ ". Valid values are: enc, mac, kex")

end Error

def Category.parse (name : String) : Except Error Category :=
  match Category.ofName? name with
  | some category => .ok category
  | none => .error (.unknownCategory name)

end SshCompliance
