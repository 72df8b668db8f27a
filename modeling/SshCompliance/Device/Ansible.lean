import SshCompliance.Device.Query
import SshCompliance.Text.Utf8

/-!
# Commands through ansible

A command for a device is carried out by starting the ansible program with the shell module. What
the process writes is read as UTF-8 with a replacement character for each invalid piece. An argument
with a NUL in it cannot be handed to a process, so then none is started.
-/

namespace SshCompliance

structure Invocation where
  program : String
  arguments : List String
deriving DecidableEq, Repr

inductive Launch where
  | notStarted (reason : String)
  | ended (status : Option Int) (stdout stderr : List UInt8)
deriving DecidableEq, Repr

namespace Launch

def toReply : Launch → Reply
  | .notStarted reason => .refused (.io reason)
  | .ended status stdout stderr =>
    .finished ⟨status, Text.Utf8.decodeLossy stdout, Text.Utf8.decodeLossy stderr⟩

def started : Launch → Bool
  | .notStarted _ => false
  | .ended .. => true

/-- The launch of a program that does not exist. -/
def missing : Launch := .notStarted "No such file or directory (os error 2)"

end Launch

namespace Ansible

def arguments (call : Call) : List String :=
  ["-m", "shell", "-i", call.target.inventory, call.target.host, "-a", call.command]

def invocation (program : String) (call : Call) : Invocation := ⟨program, arguments call⟩

def launch (start : Invocation → Launch) (invocation : Invocation) : Launch :=
  if (invocation.program :: invocation.arguments).any (·.toList.contains '\x00') then
    .notStarted "nul byte found in provided data"
  else
    start invocation

def answer (start : Invocation → Launch) (program : String) (call : Call) : Answer :=
  let invocation := invocation program call
  { reply := (launch start invocation).toReply
    records := [⟨.debug, .ansible, "cmd: " ++ program ++ " " ++ invocation.arguments.quoted⟩] }

/-- The answer of a program that may take its earlier invocations into account. -/
def answerAfter (start : List Invocation → Invocation → Launch) (program : String)
    (earlier : List Call) (call : Call) : Answer :=
  answer (start (earlier.map (invocation program))) program call

/-- The invocations that calls lead to after earlier ones, without those that start nothing. -/
def startedAfter (start : List Invocation → Invocation → Launch) (program : String)
    (earlier : List Invocation) : List Call → List Invocation
  | [] => []
  | call :: rest =>
    let invocation := invocation program call
    let later := startedAfter start program (earlier ++ [invocation]) rest
    if (launch (start earlier) invocation).started then invocation :: later else later

/-- The invocations of a program that remembers none of them. -/
def started (start : Invocation → Launch) (program : String) (calls : List Call) :
    List Invocation :=
  startedAfter (fun _ => start) program [] calls

end Ansible

end SshCompliance
