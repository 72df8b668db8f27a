import SshCompliance.Log

/-!
# Dialogues

A dialogue makes requests one at a time and goes on with the responses; on the way it leaves notes
in the log. It is run against surroundings that may take all earlier requests into account. The
run keeps the requests and the records in order, so what is asked of a device, how often and in
which order can be read off it.
-/

namespace SshCompliance

inductive Dialogue (Request Response α : Type) where
  | done (value : α)
  | note (record : Record) (next : Dialogue Request Response α)
  | ask (request : Request) (next : Response → Dialogue Request Response α)

structure Run (Request α : Type) where
  value : α
  requests : List Request
  records : List Record

namespace Dialogue

variable {Request Response α β : Type}

def bind (dialogue : Dialogue Request Response α) (next : α → Dialogue Request Response β) :
    Dialogue Request Response β :=
  match dialogue with
  | .done value => next value
  | .note record rest => .note record (rest.bind next)
  | .ask request rest => .ask request (fun response => (rest response).bind next)

instance : Monad (Dialogue Request Response) where
  pure := .done
  bind := bind

instance : LawfulMonad (Dialogue Request Response) := LawfulMonad.mk' _
  (fun dialogue => by
    induction dialogue with
    | done value => rfl
    | note record rest ih => exact congrArg (note record) ih
    | ask request rest ih => exact congrArg (ask request) (funext ih))
  (fun _ _ => rfl)
  (fun dialogue first second => by
    induction dialogue with
    | done value => rfl
    | note record rest ih => exact congrArg (note record) ih
    | ask request rest ih => exact congrArg (ask request) (funext ih))

def request (request : Request) : Dialogue Request Response Response := .ask request .done

def notes : List Record → Dialogue Request Response Unit
  | [] => .done ()
  | record :: rest => .note record (notes rest)

/-- The same dialogue with its notes handed over at the end instead of left on the way. -/
def silenced : Dialogue Request Response α → Dialogue Request Response (α × List Record)
  | .done value => .done (value, [])
  | .note record rest =>
    rest.silenced.bind fun (value, records) => .done (value, record :: records)
  | .ask request rest => .ask request (fun response => (rest response).silenced)

/-- Runs a dialogue after the requests of `history`. -/
def run (respond : List Request → Request → Response) (history : List Request) :
    Dialogue Request Response α → Run Request α
  | .done value => ⟨value, [], []⟩
  | .note record rest =>
    let run := rest.run respond history
    { run with records := record :: run.records }
  | .ask request rest =>
    let run := (rest (respond history request)).run respond (history ++ [request])
    { run with requests := request :: run.requests }

/-- Runs a dialogue against surroundings without a memory. -/
def runWith (respond : Request → Response) (dialogue : Dialogue Request Response α) :
    Run Request α :=
  dialogue.run (fun _ => respond) []

theorem run_bind (respond : List Request → Request → Response) (history : List Request)
    (dialogue : Dialogue Request Response α) (next : α → Dialogue Request Response β) :
    (dialogue.bind next).run respond history =
      let first := dialogue.run respond history
      let second := (next first.value).run respond (history ++ first.requests)
      ⟨second.value, first.requests ++ second.requests, first.records ++ second.records⟩ := by
  induction dialogue generalizing history with
  | done value => simp [bind, run]
  | note record rest ih => simp [bind, run, ih]
  | ask request rest ih => simp [bind, run, ih]

theorem run_notes (respond : List Request → Request → Response) (history : List Request)
    (records : List Record) :
    (notes records : Dialogue Request Response Unit).run respond history = ⟨(), [], records⟩ := by
  induction records with
  | nil => rfl
  | cons record rest ih => simp [notes, run, ih]

theorem run_silenced (respond : List Request → Request → Response) (history : List Request)
    (dialogue : Dialogue Request Response α) :
    dialogue.silenced.run respond history =
      let run := dialogue.run respond history
      ⟨(run.value, run.records), run.requests, []⟩ := by
  induction dialogue generalizing history with
  | done value => rfl
  | note record rest ih => simp [silenced, run, run_bind, ih]
  | ask request rest ih => simp [silenced, run, ih]

end Dialogue

end SshCompliance
