import SshCompliance.Dialogue
import SshCompliance.Error
import SshCompliance.Text.Blank
import SshCompliance.Text.Search
import SshCompliance.Text.Quoted

/-!
# Asking a device for its algorithms

One command is sent for a category, once. Names are read from what it wrote to standard output,
after the first occurrence of a marker; what it wrote to standard error is only reported. Whatever
else comes back is a failure of the query, with all that came back in it.
-/

namespace SshCompliance

structure Target where
  inventory : String
  host : String
deriving DecidableEq, Repr

/-- What a finished command left; there is no status when a signal ended it. -/
structure Completion where
  status : Option Int
  stdout : String
  stderr : String
deriving DecidableEq, Repr

namespace Completion

def succeeded (output : Completion) : Bool := output.status = some 0

def transcript (output : Completion) : String := output.stdout ++ output.stderr

end Completion

structure Call where
  target : Target
  command : String
deriving DecidableEq, Repr

inductive Reply where
  | finished (output : Completion)
  /-- The command could not be issued. -/
  | refused (error : Error)
  /-- The task that waited for the command broke down. -/
  | crashed (reason : String)
deriving DecidableEq, Repr

/-- A reply, and what was noted on the way to it. -/
structure Answer where
  reply : Reply
  records : List Record
deriving DecidableEq, Repr

inductive Queried where
  | listed (names : List String)
  | failed (error : Error)
  | crashed (reason : String)
deriving DecidableEq, Repr

/-- The words after the first occurrence of the marker. -/
def readNames? (marker raw : String) : Option (List String) :=
  (Text.afterFirst? marker.toList raw.toList).map fun after => (Text.words after).map String.ofList

namespace Reply

def read (category : Category) (marker : String) : Reply → Queried
  | .finished output =>
    match output.succeeded, readNames? marker output.stdout with
    | true, some names => .listed names
    | _, _ => .failed (.remoteQuery category output.transcript)
  | .refused error => .failed (.remoteQuery category error.message)
  | .crashed reason => .crashed reason

def statusText : Option Int → String
  | some code => "Some(" ++ toString code ++ ")"
  | none => "None"

def remarks (target : Target) (category : Category) (marker : String) : Reply → List Record
  | .finished output =>
    let name := category.label
    if !output.succeeded then
      [⟨.error, .query, "Failed to get DUT's " ++ name ++ " full list (status " ++
        statusText output.status ++ "): " ++ output.transcript⟩]
    else
      let warnings :=
        if output.stderr.isEmpty then []
        else
          [⟨.debug, .query, name ++ " query on " ++ target.host ++ " wrote to stderr: " ++
            String.ofList (Text.trimEnd output.stderr.toList)⟩]
      let outcome :=
        match readNames? marker output.stdout with
        | some names => ⟨.info, .query, name ++ " full list: " ++ names.quoted⟩
        | none =>
          ⟨.error, .query, "No '" ++ marker ++ "' marker in DUT's " ++ name ++ " output: " ++
            output.transcript⟩
      warnings ++ [outcome]
  | .refused error =>
    [⟨.error, .query, "Failed to run " ++ category.label ++ " query on " ++ target.host ++
      ": " ++ error.message⟩]
  | .crashed _ => []

end Reply

def query (target : Target) (category : Category) (marker : String) :
    Dialogue Call Answer Queried := do
  Dialogue.notes [⟨.debug, .query, "Querying " ++ category.label ++ " on " ++ target.host ++
    " with: " ++ category.command⟩]
  let answer ← Dialogue.request ⟨target, category.command⟩
  Dialogue.notes (answer.records ++ answer.reply.remarks target category marker)
  pure (answer.reply.read category marker)

end SshCompliance
