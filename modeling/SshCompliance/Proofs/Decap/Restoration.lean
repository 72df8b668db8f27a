import SshCompliance.Proofs.Decap.During
import SshCompliance.Proofs.Decap.Plan

/-!
# The default configuration comes back

Removing the default configuration stops at the first command that fails. Restoring it does not:
every container of every device gets its command, whatever came of the others and of the removal,
and nothing is asked after that.
-/

namespace SshCompliance.Decap

/-- The commands that remove the default configuration, for devices of which the first is at the
given place. -/
def removals (place : Nat) (hosts : List Host) : List Request :=
  (hosts.zipIdx place).flatMap fun entry => entry.1.asics.flatMap fun asic =>
    let swss := "swss" ++ asic.elim "" toString
    [ "docker exec " ++ swss ++ " cp /etc/swss/config.d/ipinip.json /default_ipinip.json",
      "docker exec " ++ swss ++
        " sed -i -e 's/\"OP\": *\"SET\"/\"OP\": \"DEL\"/g' /default_ipinip.json",
      "docker exec " ++ swss ++ " swssconfig /default_ipinip.json",
      "docker exec " ++ swss ++ " rm /default_ipinip.json" ].map (.shell entry.2)

/-- The commands that restore the default configuration, one for each container. -/
def restorations (place : Nat) (hosts : List Host) : List Request :=
  (hosts.zipIdx place).flatMap fun entry => entry.1.asics.map fun asic =>
    let swss := "swss" ++ asic.elim "" toString
    .shell entry.2 ("docker exec " ++ swss ++ " swssconfig /etc/swss/config.d/ipinip.json")

theorem defaultRemoval_eq (swss : String) :
    defaultRemoval swss =
      [ "docker exec " ++ swss ++ " cp /etc/swss/config.d/ipinip.json /default_ipinip.json",
        "docker exec " ++ swss ++
          " sed -i -e 's/\"OP\": *\"SET\"/\"OP\": \"DEL\"/g' /default_ipinip.json",
        "docker exec " ++ swss ++ " swssconfig /default_ipinip.json",
        "docker exec " ++ swss ++ " rm /default_ipinip.json" ] := by
  simp only [defaultRemoval, defaultConfig, String.append_assoc]
  rfl

theorem defaultRestoration_eq (swss : String) :
    defaultRestoration swss =
      "docker exec " ++ swss ++ " swssconfig /etc/swss/config.d/ipinip.json" := by
  simp only [defaultRestoration, defaultConfig, String.append_assoc]
  rfl

/-! ### Removing -/

theorem removals_cons (place : Nat) (host : Host) (rest : List Host) :
    removals place (host :: rest) =
      (removal host).map (.shell place) ++ removals (place + 1) rest := by
  simp only [removals, List.zipIdx_cons, List.flatMap_cons, removal, defaultRemoval_eq,
    List.map_flatMap, container_eq]

theorem follows_removeFrom (place : Nat) (hosts : List Host) :
    Follows (fun _ => removeFrom place hosts)
      ((removals place hosts).map fun request _ => request) := by
  induction hosts generalizing place with
  | nil => exact Follows.nil
  | cons host rest ih =>
      rw [removals_cons, List.map_append, List.map_map]
      exact ((follows_commands place (removal host)).append (ih (place + 1))).notes _

/-! ### Restoring -/

theorem restorations_cons (place : Nat) (host : Host) (rest : List Host) :
    restorations place (host :: rest) =
      (host.asics.map fun asic => .shell place (defaultRestoration (container asic))) ++
        restorations (place + 1) rest := by
  simp only [restorations, List.zipIdx_cons, List.flatMap_cons, defaultRestoration_eq,
    container_eq]

variable (respond : List Request → Request → Except Error String) (history : List Request)

/-- A restoration that fails is followed by the next one, as any other is. -/
theorem requests_restoreIn (place : Nat) (host : Host) (asics : List (Option Nat)) :
    ((restoreIn place host asics).run respond history).requests =
      asics.map fun asic => .shell place (defaultRestoration (container asic)) := by
  induction asics generalizing history with
  | nil => rfl
  | cons asic rest ih =>
      rw [restoreIn, List.map_cons, Dialogue.requests_bind, Dialogue.requests_request,
        List.singleton_append, Dialogue.value_request]
      cases respond history (.shell place (defaultRestoration (container asic))) with
      | ok answer =>
          dsimp only
          rw [ih]
      | error error =>
          dsimp only
          rw [Dialogue.requests_bind, Dialogue.requests_notes, List.nil_append, ih]

theorem requests_restoreFrom (place : Nat) (hosts : List Host) :
    ((restoreFrom place hosts).run respond history).requests = restorations place hosts := by
  induction hosts generalizing place history with
  | nil => rfl
  | cons host rest ih =>
      rw [restoreFrom, restorations_cons, Dialogue.requests_bind, Dialogue.requests_notes,
        List.nil_append, Dialogue.requests_bind, requests_restoreIn, ih]

namespace Change

/-- **The default configuration comes back.** It is removed up to and including the first command
that fails; the removal succeeds if none does. What is done without it follows, unless the removal
has failed. Then, on either way, there is one restoration for each container of each device, in
order, whether or not other restorations fail. -/
theorem requests_during_withoutDefault (hosts : List Host) (body : Talk Unit) :
    let removed := Plan.turns respond history "" ((removals 0 hosts).map fun request _ => request)
    let meanwhile := unlessFailed
      (body.run respond (history ++ removed.map Turn.request)) (Turn.outcome removed)
    let made := (withoutDefault.make hosts).run respond history
    let run := (withoutDefault.during hosts body).run respond history
    run.requests =
        removed.map Turn.request ++ meanwhile.requests ++ restorations 0 hosts ∧
      run.value = Turn.outcome removed ∧
      made.value = Turn.outcome removed ∧
      (made.value = .ok () ↔ ∀ turn ∈ removed, turn.error? = none) := by
  intro removed meanwhile made run
  obtain ⟨hvalue, hrequests⟩ : ((withoutDefault.begin hosts).run respond history).value =
      Turn.outcome removed ∧ ((withoutDefault.begin hosts).run respond history).requests =
        removed.map Turn.request :=
    follows_removeFrom 0 hosts respond history ""
  have hrun := withoutDefault.run_during hosts respond history body
  simp only [hvalue, hrequests] at hrun
  have hmade : made.value = Turn.outcome removed :=
    (withoutDefault.value_make hosts respond history).trans hvalue
  have hundo : ∀ earlier, ((withoutDefault.undo hosts).run respond earlier).requests =
      restorations 0 hosts := fun earlier => requests_restoreFrom respond earlier 0 hosts
  refine ⟨?_, ?_, hmade, by rw [hmade, Turn.outcome_eq_ok]⟩
  · rw [← hundo (history ++ removed.map Turn.request ++ meanwhile.requests)]
    exact congrArg Run.requests hrun
  · exact congrArg Run.value hrun

/-- The second command on the second device fails, and so does the first restoration. -/
theorem requests_during_withoutDefault_of_two_failures :
    let hosts : List Host := [⟨"vlab-01", [some 3]⟩, ⟨"vlab-02", [none, some 10]⟩]
    let respond : List Request → Request → Except Error String := fun earlier _ =>
      if earlier.length = 5 ∨ earlier.length = 6 then .error (.device "vlab-02" "gone") else .ok ""
    let run := (withoutDefault.during hosts (pure ())).run respond []
    run.value = .error (.device "vlab-02" "gone") ∧
      run.requests = [
        .shell 0 "docker exec swss3 cp /etc/swss/config.d/ipinip.json /default_ipinip.json",
        .shell 0
          "docker exec swss3 sed -i -e 's/\"OP\": *\"SET\"/\"OP\": \"DEL\"/g' /default_ipinip.json",
        .shell 0 "docker exec swss3 swssconfig /default_ipinip.json",
        .shell 0 "docker exec swss3 rm /default_ipinip.json",
        .shell 1 "docker exec swss cp /etc/swss/config.d/ipinip.json /default_ipinip.json",
        .shell 1
          "docker exec swss sed -i -e 's/\"OP\": *\"SET\"/\"OP\": \"DEL\"/g' /default_ipinip.json",
        .shell 0 "docker exec swss3 swssconfig /etc/swss/config.d/ipinip.json",
        .shell 1 "docker exec swss swssconfig /etc/swss/config.d/ipinip.json",
        .shell 1 "docker exec swss10 swssconfig /etc/swss/config.d/ipinip.json"] := by
  intro hosts respond run
  obtain ⟨hrequests, hvalue, -⟩ := requests_during_withoutDefault respond [] hosts (pure ())
  exact ⟨hvalue.trans rfl, hrequests.trans (by decide)⟩

end Change

end SshCompliance.Decap
