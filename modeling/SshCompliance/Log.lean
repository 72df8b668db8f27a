import SshCompliance.Text.Caseless
import SshCompliance.Text.Plain

/-!
# Log records

A record has a level, the part of the program that speaks, and a message. A filter lets through the
records up to its level.
-/

namespace SshCompliance

inductive Level where
  | error
  | warn
  | info
  | debug
  | trace
deriving DecidableEq, Repr

namespace Level

def all : List Level := [.error, .warn, .info, .debug, .trace]

def label : Level → String
  | .error => "ERROR"
  | .warn => "WARN"
  | .info => "INFO"
  | .debug => "DEBUG"
  | .trace => "TRACE"

/-- Higher levels are more detailed. -/
def detail : Level → Nat
  | .error => 1
  | .warn => 2
  | .info => 3
  | .debug => 4
  | .trace => 5

end Level

inductive Filter where
  | off
  | upTo (level : Level)
deriving DecidableEq, Repr

namespace Filter

def label : Filter → String
  | .off => "OFF"
  | .upTo level => level.label

def all : List Filter := .off :: Level.all.map .upTo

def admits (filter : Filter) (level : Level) : Bool :=
  match filter with
  | .off => false
  | .upTo limit => level.detail ≤ limit.detail

/-- The filter with that label, regardless of the case of ASCII letters. -/
def ofName? (name : String) : Option Filter :=
  all.find? (fun filter => Text.foldAscii filter.label.toList = Text.foldAscii name.toList)

end Filter

inductive Source where
  | program
  | levels
  | loader
  | validator
  | query
  | ansible
  | judgement
  | session
  | testbed
  | mux
  | guard
deriving DecidableEq, Repr

def Source.label : Source → String
  | .program => "ssh_algo_matrix"
  | .levels => "ssh_algo_matrix::common::log"
  | .loader => "ssh_algo_matrix::config::loader"
  | .validator => "ssh_algo_matrix::config::validator"
  | .query => "ssh_algo_matrix::query"
  | .ansible => "ssh_algo_matrix::query::ansible"
  | .judgement => "ssh_algo_matrix::reconcile"
  | .session => "ssh_algo_matrix::session"
  | .testbed => "ssh_algo_matrix::testbed"
  | .mux => "ssh_algo_matrix::decap::mux"
  | .guard => "ssh_algo_matrix::decap::guard"

structure Record where
  level : Level
  source : Source
  message : String
deriving DecidableEq, Repr

/-- The record on one line; its level takes five columns, and further lines of the message are
indented by four spaces. -/
def Record.line (record : Record) : String :=
  let label := record.level.label
  let message := record.message.toList.flatMap
    (fun c => if c = '\n' then ['\n', ' ', ' ', ' ', ' '] else [c])
  "[" ++ label ++ String.ofList (List.replicate (5 - label.length) ' ') ++ " " ++
    record.source.label ++ "] " ++ String.ofList message

/-- The record as it is written where there is no terminal. A control sequence that is left open
takes the end of the line with it. -/
def Record.written (record : Record) : String := (record.line ++ "\n").plain

namespace Filter

def visible (filter : Filter) (records : List Record) : List Record :=
  records.filter (fun record => filter.admits record.level)

/-- What is said about a level name that no filter has. -/
def unknownLevel (current : Filter) (name : String) : Record :=
  ⟨.warn, .levels, "Invalid log level: " ++ name ++ ", keeping " ++ current.label⟩

/-- Puts the named filter in force, or keeps the current one and says so. -/
def set (current : Filter) (name : String) : Filter × List Record :=
  match ofName? name with
  | some filter => (filter, [])
  | none => (current, [current.unknownLevel name])

end Filter

end SshCompliance
