import SshCompliance.Testbed.Basic
import SshCompliance.Json.Decode
import SshCompliance.Json.Reader

/-!
# Testbeds as JSON

An array holds one record for each testbed. Hosts are given as a list, or as one text in the form
they have in a row.
-/

namespace SshCompliance

namespace Testbed

def fields : List String := ["conf-name", "topo", "dut", "inv_name"]

def hostsOfJson? : Json → Option (List String)
  | .string text => some (parseHosts text)
  | value => value.texts?

def ofJson? (value : Json) : Option Testbed := do
  let field ← value.record? fields
  some {
    name := ← (← field "conf-name").text?
    topology := ← Json.optional? Json.text? "" (field "topo")
    duts := ← hostsOfJson? (← field "dut")
    inventory := ← (← field "inv_name").text? }

end Testbed

namespace Testbeds

def ofJson? (value : Json) : Option Testbeds := (value.list? Testbed.ofJson?).map ofList

def ofJsonText (text : String) : Except Error Testbeds :=
  match (Json.parse? text).bind ofJson? with
  | some testbeds => .ok testbeds
  | none => .error (.json "no list of testbeds")

end Testbeds

end SshCompliance
