import SshCompliance.CommandLine.Run

/-!
# The program

The surroundings of a run are looked up before it: the environment variables that have a meaning,
and the files that the options and the configuration name. Starting other programs is not among
what the program can do on its own, so every start comes out as that of a program that does not
exist.
-/

namespace SshCompliance.Program

def variableNames : List String :=
  let field (name : String) : String := Config.Layer.variablePrefix ++ name
  "RUST_LOG" :: ([
    "LOG_LEVEL", "TESTBED", "TESTBED_FILE", "INVENTORY_DIR", "ANSIBLE_BIN", "OUTPUT_MARKER",
    "ON_QUERY_FAILURE", "ALLOW_LISTS__ENC_CIPHERS", "ALLOW_LISTS__MACS", "ALLOW_LISTS__KEXS"].map
      field)

def readVariables : List String → IO (List (String × String))
  | [] => pure []
  | name :: rest => do
    let value ← IO.getEnv name
    let others ← readVariables rest
    pure ((value.toList.map (name, ·)) ++ others)

/-- What stands at a path that could not be read. -/
def stateOfError : IO.Error → FileState
  | .inappropriateType _ code _ => if code = 21 then .directory else .absent .notDirectory
  | .permissionDenied _ _ _ => .absent .denied
  | .invalidArgument _ code _ =>
    if code = 36 then .absent .nameTooLong else if code = 20 then .absent .notDirectory
    else .absent .notFound
  | _ => .absent .notFound

def readState (path : String) : IO FileState := do
  if path.toList.contains '\x00' then
    pure (.absent .hasNul)
  else
    try
      let bytes ← IO.FS.readBinFile path
      pure (.content bytes.data.toList)
    catch error => pure (stateOfError error)

def readStates : List String → IO (List (String × FileState))
  | [] => pure []
  | path :: rest => do
    let state ← readState path
    let others ← readStates rest
    pure ((path, state) :: others)

def filesOf (workingDirectory : String) (states : List (String × FileState)) : Files where
  workingDirectory := workingDirectory
  stateAt path := (states.lookup path).getD (.absent .notFound)

/-- The surroundings of a run with the given arguments. -/
def lookAround (arguments : List String) : IO CommandLine.Surroundings := do
  let environment ← readVariables variableNames
  let workingDirectory := (← IO.currentDir).toString
  let start (_ : Invocation) : Launch := .missing
  match CommandLine.read arguments with
  | some (.run options) => do
    let states ← readStates (CommandLine.configPaths workingDirectory options)
    let loading : CommandLine.Surroundings := ⟨environment, filesOf workingDirectory states, start⟩
    let others ← readStates (CommandLine.testbedPath? loading options).toList
    pure ⟨environment, filesOf workingDirectory (states ++ others), start⟩
  | _ => pure ⟨environment, filesOf workingDirectory [], start⟩

def run (arguments : List String) : IO UInt32 := do
  let report := CommandLine.execute (← lookAround arguments) arguments
  IO.print report.stdout
  IO.eprint report.stderr
  pure (UInt32.ofNat report.exitCode)

end SshCompliance.Program

def main (arguments : List String) : IO UInt32 := SshCompliance.Program.run arguments
