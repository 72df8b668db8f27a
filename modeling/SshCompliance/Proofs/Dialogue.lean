import SshCompliance.Dialogue

/-!
# Values, requests and records of a run

What a dialogue comes to, what it asks and what it notes can be read off piece by piece. Notes
change neither value nor requests, and a dialogue that goes on from another one is run after the
requests of that one.
-/

namespace SshCompliance

theorem Run.eq_mk {run : Run Request α} {value : α} {requests : List Request}
    {records : List Record} (hvalue : run.value = value) (hrequests : run.requests = requests)
    (hrecords : run.records = records) : run = ⟨value, requests, records⟩ := by
  subst hvalue hrequests hrecords
  rfl

namespace Dialogue

variable {Request Response α β : Type} (respond : List Request → Request → Response)
  (history : List Request)

@[simp]
theorem value_pure (value : α) :
    ((pure value : Dialogue Request Response α).run respond history).value = value := rfl

@[simp]
theorem requests_pure (value : α) :
    ((pure value : Dialogue Request Response α).run respond history).requests = [] := rfl

@[simp]
theorem value_request (request : Request) :
    ((Dialogue.request request).run respond history).value = respond history request := rfl

@[simp]
theorem requests_request (request : Request) :
    ((Dialogue.request request : Dialogue Request Response Response).run respond
      history).requests = [request] := rfl

@[simp]
theorem requests_notes (records : List Record) :
    ((notes records : Dialogue Request Response Unit).run respond history).requests = [] := by
  rw [run_notes]

@[simp]
theorem value_bind (dialogue : Dialogue Request Response α)
    (next : α → Dialogue Request Response β) :
    ((dialogue >>= next).run respond history).value =
      ((next (dialogue.run respond history).value).run respond
        (history ++ (dialogue.run respond history).requests)).value := by
  change ((dialogue.bind next).run respond history).value = _
  rw [run_bind]

@[simp]
theorem requests_bind (dialogue : Dialogue Request Response α)
    (next : α → Dialogue Request Response β) :
    ((dialogue >>= next).run respond history).requests =
      (dialogue.run respond history).requests ++
        ((next (dialogue.run respond history).value).run respond
          (history ++ (dialogue.run respond history).requests)).requests := by
  change ((dialogue.bind next).run respond history).requests = _
  rw [run_bind]

@[simp]
theorem records_pure (value : α) :
    ((pure value : Dialogue Request Response α).run respond history).records = [] := rfl

@[simp]
theorem records_request (request : Request) :
    ((Dialogue.request request : Dialogue Request Response Response).run respond
      history).records = [] := rfl

@[simp]
theorem records_notes (records : List Record) :
    ((notes records : Dialogue Request Response Unit).run respond history).records = records := by
  rw [run_notes]

@[simp]
theorem records_bind (dialogue : Dialogue Request Response α)
    (next : α → Dialogue Request Response β) :
    ((dialogue >>= next).run respond history).records =
      (dialogue.run respond history).records ++
        ((next (dialogue.run respond history).value).run respond
          (history ++ (dialogue.run respond history).requests)).records := by
  change ((dialogue.bind next).run respond history).records = _
  rw [run_bind]

/-- A dialogue that comes to a value goes on as what follows that value. -/
theorem run_bind_of_run {dialogue : Dialogue Request Response α} {first : Run Request α}
    (hfirst : dialogue.run respond history = first) (next : α → Dialogue Request Response β) :
    (dialogue >>= next).run respond history =
      ⟨((next first.value).run respond (history ++ first.requests)).value,
        first.requests ++ ((next first.value).run respond (history ++ first.requests)).requests,
        first.records ++ ((next first.value).run respond (history ++ first.requests)).records⟩ := by
  subst hfirst
  exact run_bind respond history dialogue next

/-- Keeping the notes for later changes nothing else. -/
@[simp]
theorem value_silenced (dialogue : Dialogue Request Response α) :
    (dialogue.silenced.run respond history).value.1 = (dialogue.run respond history).value := by
  rw [run_silenced]

@[simp]
theorem requests_silenced (dialogue : Dialogue Request Response α) :
    (dialogue.silenced.run respond history).requests =
      (dialogue.run respond history).requests := by
  rw [run_silenced]

end Dialogue

end SshCompliance
