import SshCompliance.Device.Ansible
import SshCompliance.CommandLine.Journal
import SshCompliance.CommandLine.Options
import SshCompliance.Config.Sources
import SshCompliance.Config.Check
import SshCompliance.Json.Printer
import SshCompliance.Session.Opening
import SshCompliance.Session.Steps

/-!
# Runs of the program

A run loads and checks the configuration, opens a session, and prints the matrices of the chosen
mode as one line of JSON text, or as several if it is to be pretty. It prints either that or
nothing, and ends with one where anything failed.
-/

namespace SshCompliance.CommandLine

def programName : String := "ssh-algo-matrix"

def programVersion : String := "0.1.0"

/-- What a run finds around it. A program that it starts may take its earlier starts into
account. -/
structure World where
  environment : List (String × String)
  files : Files
  start : List Invocation → Invocation → Launch

/-- A world in which programs remember nothing. -/
structure Surroundings where
  environment : List (String × String)
  files : Files
  start : Invocation → Launch

def Surroundings.world (surroundings : Surroundings) : World :=
  ⟨surroundings.environment, surroundings.files, fun _ => surroundings.start⟩

structure Report where
  exitCode : Nat
  stdout : String
  records : List Record
  /-- What is said after the records when the run failed. -/
  complaint : Option String
  invocations : List Invocation
deriving DecidableEq, Repr

namespace Report

/-- The records, and the complaint behind them. -/
def stderr (report : Report) : String :=
  String.join (report.records.map Record.written) ++
    String.join (report.complaint.toList.map (· ++ "\n"))

def failed (journal : Journal) (error : Error) (invocations : List Invocation) : Report where
  exitCode := 1
  stdout := ""
  records := (journal.write [⟨.error, .program, error.message⟩]).written
  complaint := some ("Error: " ++ error.message)
  invocations := invocations

end Report

def loadConfig (world : World) (options : Options) : Except Error Config × List Record :=
  match Config.read world.files options.configFile (some world.environment) with
  | (.error error, records) => (.error (.ofConfig error), records)
  | (.ok loaded, records) =>
    let config := loaded.override options.overrides
    match config.review with
    | (.error error, remarks) => (.error (.ofConfig error), records ++ remarks)
    | (.ok _, remarks) => (.ok config, records ++ remarks)

def configPaths (workingDirectory : String) (options : Options) : List String :=
  options.configFile.toList.flatMap fun path =>
    let absolute := Path.join workingDirectory path
    [path, absolute, Path.withExtension absolute "json"]

def testbedPath? (surroundings : Surroundings) (options : Options) : Option String :=
  match (loadConfig surroundings.world (options.orEnvironment surroundings.environment)).1 with
  | .ok config => some config.testbedFile
  | .error _ => none

/-- Makes the matrices of categories one after the other, up to the first error. -/
def matricesFor (session : Session) :
    List Category → Dialogue Call Answer (Except Error (List Matrix))
  | [] => pure (.ok [])
  | category :: rest => do
    let outcome ← session.matrixFor category
    match outcome.result with
    | .error error => pure (.error error)
    | .ok matrix => do
      let matrices ← matricesFor outcome.session rest
      pure (matrices.map (matrix :: ·))

def nothingDeclared (declared : List String) : Record :=
  ⟨.info, .program, "No algorithm parameter among " ++ declared.quoted ++
    ", nothing to generate"⟩

/-- Makes what the mode asks for, with the records of queries made side by side. -/
def produce (session : Session) :
    Mode → Dialogue Call Answer (Except Error Product × List Record)
  | .all => do
    let outcome ← session.allMatrices
    pure (outcome.result.map .many, outcome.background)
  | .categories categories => do
    let matrices ← matricesFor session categories
    pure (matrices.map .many, [])
  | .parameters declared => do
    let outcome ← session.matrixForTest declared
    match outcome.result with
    | .error error => pure (.error error, [])
    | .ok (some matrix) => pure (.ok (.one matrix), [])
    | .ok none => do
      Dialogue.notes [nothingDeclared declared]
      pure (.ok .nothing, [])

def printed (pretty : Bool) : Product → String
  | .nothing => ""
  | product => (if pretty then product.toJson.pretty else product.toJson.compact) ++ "\n"

def starting : Record :=
  ⟨.info, .program, "Starting " ++ programName ++ " v" ++ programVersion⟩

def noMode : Error := .config "One of --param, --category or --all must be given"

def finish (world : World) (options : Options) (config : Config) (session : Session)
    (journal : Journal) : Report :=
  match options.mode? with
  | none => .failed journal noMode []
  | some mode =>
    let run := (produce session mode).run (Ansible.answerAfter world.start config.ansibleBin) []
    let journal := journal.write (run.value.2 ++ run.records)
    let invocations := Ansible.startedAfter world.start config.ansibleBin [] run.requests
    match run.value.1 with
    | .error error => .failed journal error invocations
    | .ok product => ⟨0, printed options.pretty product, journal.written, none, invocations⟩

def run (world : World) (given : Options) : Report :=
  let options := given.orEnvironment world.environment
  let journal := Journal.start (world.environment.lookup "RUST_LOG")
    (options.logLevel.getD Config.defaultLogLevel)
  let (loaded, records) := loadConfig world options
  let journal := journal.write records
  match loaded with
  | .error error => .failed journal error []
  | .ok config =>
    let journal := (journal.setLevel config.logLevel).write [starting]
    let (started, records) := Session.prepare world.files config
    let journal := journal.write records
    match started with
    | .error error => .failed journal error []
    | .ok session => finish world options config session journal

def usage : String :=
  "Usage: ssh-algo-matrix [OPTIONS]\n" ++
  "\n" ++
  "Derive SSH cipher, MAC and key exchange test matrices from a DUT\n" ++
  "\n" ++
  "Options:\n" ++
  "      --testbed <TESTBED>              Testbed whose first DUT is queried\n" ++
  "      --testbed-file <PATH>            Testbed file (CSV or JSON)\n" ++
  "      --inventory-dir <PATH>           Directory holding the ansible inventories\n" ++
  "      --config-file <PATH>             Load configuration from a JSON file\n" ++
  "      --log-level <LEVEL>              Log level\n" ++
  "      --param <NAME>                   Test parameter names the test declares\n" ++
  "      --category <CATEGORY>            Generate the named categories (enc, mac, kex)\n" ++
  "      --all                            Generate every category\n" ++
  "      --on-query-failure <POLICY>      What to do when a DUT query fails (degrade, fail)\n" ++
  "      --strict                         Same as --on-query-failure fail\n" ++
  "      --pretty                         Pretty-print the JSON output\n" ++
  "  -h, --help                           Print help\n" ++
  "  -V, --version                        Print version\n"

/-- Runs the program with the given arguments. Misused options end it with two. -/
def executeIn (world : World) (arguments : List String) : Report :=
  match read arguments with
  | none => ⟨2, "", [], some ("error: the options cannot be used so\n\n" ++ usage), []⟩
  | some .help => ⟨0, usage, [], none, []⟩
  | some .version => ⟨0, programName ++ " " ++ programVersion ++ "\n", [], none, []⟩
  | some (.run options) => run world options

def execute (surroundings : Surroundings) (arguments : List String) : Report :=
  executeIn surroundings.world arguments

end SshCompliance.CommandLine
