import SshCompliance.Session.Basic
import SshCompliance.Testbed.File

/-!
# Opening a session

The configuration names a testbed; the session is with the first device of it. Nothing is asked of
the device yet.
-/

namespace SshCompliance.Session

/-- The first device of a testbed, with its inventory in the configured directory. -/
def locate (config : Config) (name : String) (testbeds : Testbeds) : Except Error Target := do
  let testbed ← testbeds.lookup name
  let host ← testbed.firstDut
  pure ⟨Path.join config.inventoryDir testbed.inventory, host⟩

def openingRemark (name : String) (target : Target) : Record :=
  ⟨.info, .session, "Testbed " ++ name ++ ": querying DUT " ++ target.host ++
    " from inventory " ++ target.inventory⟩

def prepare (files : Files) (config : Config) : Except Error Session × List Record :=
  match config.testbedName with
  | .error error => (.error (.ofConfig error), [])
  | .ok name =>
    let (testbeds, records) := Testbeds.ofFile files config.testbedFile
    match testbeds.bind (locate config name) with
    | .error error => (.error error, records)
    | .ok target => (.ok (start target config), records ++ [openingRemark name target])

end SshCompliance.Session
