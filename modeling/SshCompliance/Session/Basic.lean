import SshCompliance.Config.Basic
import SshCompliance.Device.Query
import SshCompliance.Matrix

/-!
# Sessions

A session asks one device and judges its answers by allow-lists that start out as configured and
grow with every judged answer. What became of a query turns into the matrix of its category, or
into an error; queries are counted as they fail, and cases as they are expected to fail.
-/

namespace SshCompliance

/-- The counters that a session adds to, each kept by category. -/
inductive Counter where
  | queryFailures
  | expectedFailures
deriving DecidableEq, Repr

def Counter.label : Counter → String
  | .queryFailures => "ssh_algo_matrix.query.failures"
  | .expectedFailures => "ssh_algo_matrix.cases.expected_failure"

structure Increment where
  counter : Counter
  category : Category
  amount : Nat
deriving DecidableEq, Repr

structure Session where
  target : Target
  marker : String
  policy : FailurePolicy
  lists : AllowLists
deriving DecidableEq

/-- What a step of a session leaves. Background records come from queries that are made side by
side. -/
structure Outcome (α : Type) where
  session : Session
  result : Except Error α
  increments : List Increment
  records : List Record
  background : List Record

namespace Outcome

def map (f : α → β) (outcome : Outcome α) : Outcome β :=
  { outcome with result := outcome.result.map f }

/-- Goes on from a result, unless it is an error. -/
def andThen (outcome : Outcome α) (next : Session → α → Outcome β) : Outcome β :=
  match outcome.result with
  | .error error => { outcome with result := .error error }
  | .ok value =>
    let after := next outcome.session value
    { after with
      increments := outcome.increments ++ after.increments
      records := outcome.records ++ after.records
      background := outcome.background ++ after.background }

end Outcome

namespace Session

def start (target : Target) (config : Config) : Session :=
  ⟨target, config.outputMarker, config.onQueryFailure, config.allowLists⟩

def missingRemarks (session : Session) (category : Category) (missing : List String) :
    List Record :=
  if missing.isEmpty then []
  else
    [⟨.warn, .session, "Allow-listed " ++ category.label ++ " not advertised by " ++
      session.target.host ++ ": " ++ missing.quoted⟩]

def summary (matrix : Matrix) : Record :=
  ⟨.info, .session, matrix.parameter ++ ": " ++ toString matrix.size ++ " test cases, " ++
    toString matrix.expectedFailures.length ++ " expected to fail"⟩

def judge (session : Session) (category : Category) (supported : List String) : Outcome Matrix :=
  let list := session.lists.get category
  let missing := list.names.filter (fun name => !supported.contains name)
  let judgement := list.judge supported
  let matrix :=
    { Matrix.ofVerdicts category judgement.verdicts with missingFromDut := missing }
  { session := { session with lists := session.lists.put category judgement.list }
    result := .ok matrix
    increments := [⟨.expectedFailures, category, matrix.expectedFailures.length⟩]
    records := session.missingRemarks category missing ++ judgement.list.permitted list.size ++
      [summary matrix]
    background := [] }

def forgo (session : Session) (category : Category) (error : Error) : Outcome Matrix :=
  match session.policy with
  | .fail => ⟨session, .error error, [⟨.queryFailures, category, 1⟩], [], []⟩
  | .degrade =>
    ⟨session, .ok (.unanswered category), [⟨.queryFailures, category, 1⟩],
      [⟨.error, .session, "No " ++ category.label ++ " test cases will be generated: " ++
        error.message⟩], []⟩

/-- Turns what a query came to into the matrix of its category. -/
def conclude (session : Session) (category : Category) : Queried → Outcome Matrix
  | .listed names => session.judge category names
  | .failed error => session.forgo category error
  | .crashed reason => ⟨session, .error (.queryTask category reason), [], [], []⟩

/-- Concludes queries category by category, up to the first error. -/
def concludeAll (answers : Category → Queried) (session : Session) :
    List Category → Outcome (List Matrix)
  | [] => ⟨session, .ok [], [], [], []⟩
  | category :: rest =>
    (session.conclude category (answers category)).andThen fun session matrix =>
      (concludeAll answers session rest).map (matrix :: ·)

end Session

end SshCompliance
