import SshCompliance.Config.Basic

/-!
# Options of the command line

Options have long names. One that takes a value has it behind an equals sign or as the next
argument, which then must not look like an option; a lone dash does not. Only parameters and
categories may be given several times. There are no other arguments, and no abbreviations.
-/

namespace SshCompliance.CommandLine

structure Options where
  testbed : Option String
  testbedFile : Option String
  inventoryDir : Option String
  configFile : Option String
  logLevel : Option String
  parameters : List String
  categories : List Category
  all : Bool
  onQueryFailure : Option FailurePolicy
  strict : Bool
  pretty : Bool
deriving DecidableEq, Repr

inductive Mode where
  | parameters (declared : List String)
  | categories (categories : List Category)
  | all
deriving DecidableEq, Repr

inductive Command where
  | help
  | version
  | run (options : Options)
deriving DecidableEq, Repr

namespace Options

def empty : Options where
  testbed := none
  testbedFile := none
  inventoryDir := none
  configFile := none
  logLevel := none
  parameters := []
  categories := []
  all := false
  onQueryFailure := none
  strict := false
  pretty := false

/-- The value, unless there is one already. -/
def once (current : Option α) (value : α) : Option α :=
  match current with
  | none => some value
  | some _ => none

/-- A path has at least one character. -/
def path? (value : String) : Option String := if value.isEmpty then none else some value

def takesValue (name : String) : Bool :=
  ["testbed", "testbed-file", "inventory-dir", "config-file", "log-level", "param", "category",
    "on-query-failure"].contains name

/-- Takes in an option with its value; `none` if the value is refused, or a second one is. -/
def setValue (options : Options) (name value : String) : Option Options :=
  match name with
  | "testbed" => do
    let testbed ← once options.testbed value
    some { options with testbed }
  | "testbed-file" => do
    let path ← (path? value).bind (once options.testbedFile)
    some { options with testbedFile := path }
  | "inventory-dir" => do
    let path ← (path? value).bind (once options.inventoryDir)
    some { options with inventoryDir := path }
  | "config-file" => do
    let path ← (path? value).bind (once options.configFile)
    some { options with configFile := path }
  | "log-level" => do
    let level ← once options.logLevel value
    some { options with logLevel := level }
  | "param" => some { options with parameters := options.parameters ++ [value] }
  | "category" => do
    let category ← Category.ofName? value
    some { options with categories := options.categories ++ [category] }
  | "on-query-failure" => do
    let policy ← (FailurePolicy.ofName? value).bind (once options.onQueryFailure)
    some { options with onQueryFailure := policy }
  | _ => none

/-- Takes in an option without a value; `none` if it is unknown or was given before. -/
def setSwitch (options : Options) (name : String) : Option Options :=
  match name with
  | "all" => if options.all then none else some { options with all := true }
  | "strict" => if options.strict then none else some { options with strict := true }
  | "pretty" => if options.pretty then none else some { options with pretty := true }
  | _ => none

/-- Only one mode is chosen, and the policy in only one way. -/
def consistent (options : Options) : Bool :=
  !(!options.parameters.isEmpty && (options.all || !options.categories.isEmpty)) &&
    !(!options.categories.isEmpty && options.all) &&
    !(options.onQueryFailure.isSome && options.strict)

def mode? (options : Options) : Option Mode :=
  if options.all then some .all
  else if options.categories ≠ [] then some (.categories options.categories)
  else if options.parameters ≠ [] then some (.parameters options.parameters)
  else none

def overrides (options : Options) : Overrides where
  logLevel := options.logLevel
  testbed := options.testbed
  testbedFile := options.testbedFile
  inventoryDir := options.inventoryDir
  onQueryFailure := options.onQueryFailure.or (if options.strict then some .fail else none)

/-- The testbed and the log level may be given by environment variables instead. -/
def orEnvironment (options : Options) (environment : List (String × String)) : Options :=
  { options with
    testbed := options.testbed.or (environment.lookup "SSH_ALGO_MATRIX_TESTBED")
    logLevel := options.logLevel.or (environment.lookup "SSH_ALGO_MATRIX_LOG_LEVEL") }

end Options

/-- The forms an argument has where an option may stand. -/
inductive Argument where
  | named (name : String)
  | joined (name value : String)
  | help
  | version
  /-- Two dashes, behind which no options stand. -/
  | terminator
  | other
deriving DecidableEq, Repr

namespace Argument

def ofText (text : String) : Argument :=
  match text.toList with
  | ['-', '-'] => .terminator
  | '-' :: '-' :: long =>
    let name := String.ofList (long.takeWhile (· ≠ '='))
    match long.dropWhile (· ≠ '=') with
    | _ :: value => .joined name (String.ofList value)
    | [] =>
      if name = "help" then .help else if name = "version" then .version else .named name
  | '-' :: 'h' :: _ => .help
  | '-' :: 'V' :: _ => .version
  | _ => .other

def isValue (text : String) : Bool := text = "-" || text.toList.head? ≠ some '-'

end Argument

/-- Reads arguments behind those that gave the options so far; `none` if they are misused. -/
def readFrom (options : Options) : List String → Option Command
  | [] => if options.consistent then some (.run options) else none
  | argument :: rest =>
    match Argument.ofText argument with
    | .help => some .help
    | .version => some .version
    | .terminator =>
      if rest.isEmpty && options.consistent then some (.run options) else none
    | .other => none
    | .joined name value =>
      match options.setValue name value with
      | some options => readFrom options rest
      | none => none
    | .named name =>
      if Options.takesValue name then
        match rest with
        | [] => none
        | value :: rest =>
          match if Argument.isValue value then options.setValue name value else none with
          | some options => readFrom options rest
          | none => none
      else
        match options.setSwitch name with
        | some options => readFrom options rest
        | none => none

def read (arguments : List String) : Option Command := readFrom .empty arguments

end SshCompliance.CommandLine
