import SshCompliance.Decap.Change
import SshCompliance.Proofs.Dialogue

/-!
# Making a change and undoing it

Whatever a change is, it is undone exactly once, and last of all. One that fails is undone right
away and nothing is done under it; one that is made is undone after what was done under it.
-/

namespace SshCompliance.Decap

/-- What is done after something that may have failed: nothing, if it has. -/
def unlessFailed (run : Run Request Unit) : Except Error Unit → Run Request Unit
  | .ok _ => run
  | .error _ => ⟨(), [], []⟩

namespace Change

variable (change : Change) (hosts : List Host)
  (respond : List Request → Request → Except Error String) (history : List Request)

theorem run_make_of_ok (hok : ((change.begin hosts).run respond history).value = .ok ()) :
    (change.make hosts).run respond history = (change.begin hosts).run respond history := by
  rw [make, Dialogue.run_bind_of_run respond history rfl, hok]
  exact (Run.eq_mk hok (List.append_nil _).symm (List.append_nil _).symm).symm

theorem run_make_of_failed {error : Error}
    (hfailed : ((change.begin hosts).run respond history).value = .error error) :
    let begun := (change.begin hosts).run respond history
    let undone := (change.undo hosts).run respond (history ++ begun.requests)
    (change.make hosts).run respond history =
      ⟨.error error, begun.requests ++ undone.requests, begun.records ++ undone.records⟩ := by
  intro begun undone
  rw [make, Dialogue.run_bind_of_run respond history rfl, hfailed]
  dsimp only
  rw [Dialogue.run_bind_of_run respond _ rfl]
  exact Run.eq_mk rfl (by simp [begun, undone]) (by simp [begun, undone])

/-- Making a change comes to what the change itself comes to. -/
theorem value_make : ((change.make hosts).run respond history).value =
    ((change.begin hosts).run respond history).value := by
  cases hvalue : ((change.begin hosts).run respond history).value with
  | ok _ => rw [run_make_of_ok change hosts respond history hvalue, hvalue]
  | error error => rw [run_make_of_failed change hosts respond history hvalue]

/-- What is done in the time of a change: the change itself, what is done under it unless it has
failed, and the undoing. -/
theorem run_during (body : Talk Unit) :
    let begun := (change.begin hosts).run respond history
    let meanwhile := unlessFailed (body.run respond (history ++ begun.requests)) begun.value
    let undone :=
      (change.undo hosts).run respond (history ++ begun.requests ++ meanwhile.requests)
    (change.during hosts body).run respond history =
      ⟨begun.value, begun.requests ++ meanwhile.requests ++ undone.requests,
        begun.records ++ meanwhile.records ++ undone.records⟩ := by
  intro begun meanwhile undone
  cases hvalue : begun.value with
  | error error =>
      have hmeanwhile : meanwhile = ⟨(), [], []⟩ := by simp only [meanwhile, hvalue, unlessFailed]
      have hmake := run_make_of_failed change hosts respond history hvalue
      rw [during, Dialogue.run_bind_of_run respond history hmake]
      simp only [undone, hmeanwhile, List.append_nil]
      exact Run.eq_mk rfl (List.append_nil _) (List.append_nil _)
  | ok _ =>
      have hmeanwhile : meanwhile = body.run respond (history ++ begun.requests) := by
        simp only [meanwhile, hvalue, unlessFailed]
      have hmake := run_make_of_ok change hosts respond history hvalue
      rw [during, Dialogue.run_bind_of_run respond history hmake, hvalue]
      dsimp only
      rw [Dialogue.run_bind_of_run respond _ rfl, Dialogue.run_bind_of_run respond _ rfl]
      simp only [undone, hmeanwhile]
      exact Run.eq_mk rfl (by simp [begun]) (by simp [begun])

end Change

end SshCompliance.Decap
