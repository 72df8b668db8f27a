/-!
# Commands of the switch state service

Decapsulation is configured by payloads that the service's containers load, one container for each
frontend ASIC. A payload carries the operation that sets or deletes its entries.
-/

namespace SshCompliance.Decap

inductive Operation where
  | set
  | delete
deriving DecidableEq, Repr

def Operation.label : Operation → String
  | .set => "SET"
  | .delete => "DEL"

/-- The default configuration, inside a container. -/
def defaultConfig : String := "/etc/swss/config.d/ipinip.json"

/-- The container that serves an ASIC; a device with a single ASIC does not number it. -/
def container : Option Nat → String
  | some asic => "swss" ++ toString asic
  | none => "swss"

/-- Deletes the default configuration by loading a copy of it with the operation changed. -/
def defaultRemoval (container : String) : List String :=
  let inside := "docker exec " ++ container ++ " "
  [ inside ++ "cp " ++ defaultConfig ++ " /default_ipinip.json",
    inside ++ "sed -i -e 's/\"OP\": *\"SET\"/\"OP\": \"DEL\"/g' /default_ipinip.json",
    inside ++ "swssconfig /default_ipinip.json",
    inside ++ "rm /default_ipinip.json" ]

def defaultRestoration (container : String) : String :=
  "docker exec " ++ container ++ " swssconfig " ++ defaultConfig

def payload (operation : Operation) : String := "decap_conf_" ++ operation.label ++ ".json"

def payloadPath (operation : Operation) : String := "/tmp/" ++ payload operation

/-- Loads a payload that is on the device into one container. -/
def loadCommands (container : String) (operation : Operation) : List String :=
  [ "docker cp " ++ payloadPath operation ++ " " ++ container ++ ":/" ++ payload operation,
    "docker exec " ++ container ++ " swssconfig /" ++ payload operation,
    "docker exec " ++ container ++ " rm /" ++ payload operation ]

def discardCommand (operation : Operation) : String := "rm " ++ payloadPath operation

end SshCompliance.Decap
