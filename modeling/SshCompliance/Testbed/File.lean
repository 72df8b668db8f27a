import SshCompliance.Testbed.Csv
import SshCompliance.Testbed.Json
import SshCompliance.Files.Basic
import SshCompliance.Log
import SshCompliance.Files.Path

/-!
# Files of testbeds

A file with the extension json is read as JSON, every other file as rows.
-/

namespace SshCompliance.Testbeds

def ofText (path text : String) : Except Error Testbeds :=
  if Path.extension? path = some "json" then ofJsonText text else ofCsv text

/-- Reads the testbeds of a file, and notes that it does so. -/
def ofFile (files : Files) (path : String) : Except Error Testbeds × List Record :=
  match files.readText path with
  | .error fault =>
    (.error (.testbed ("Failed to read testbed file " ++ path ++ ": " ++ fault.message)), [])
  | .ok text => (ofText path text, [⟨.debug, .testbed, "Parsing testbed file " ++ path⟩])

end SshCompliance.Testbeds
