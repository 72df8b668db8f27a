import SshCompliance.Proofs.Decap.During
import SshCompliance.Proofs.Decap.Plan

/-!
# The course of a test configuration

Setting a configuration follows one plan, device by device, and deleting it follows the same plan
with the other operation. Setting stops at its first failure, and so does deleting, which starts
over at the first device. It is begun once: right after setting has failed, or else after whatever
was done under the configuration.
-/

namespace SshCompliance.Decap

/-! ### Plans -/

namespace Settings

/-- What the template is filled with for the device at a place. -/
def fillingAt (settings : Settings) (operation : Operation) (place : Nat) : Variables where
  v4 := settings.loopbacks.v4.getD place none
  v6 := settings.loopbacks.v6.getD place none
  modes := settings.modes
  ecnMode := settings.ecnMode
  operation := operation
  versions := settings.versions

/-- The file of a payload. -/
def fileFor : Operation → String
  | .set => "decap_conf_SET.json"
  | .delete => "decap_conf_DEL.json"

theorem payload_eq_fileFor (operation : Operation) : payload operation = fileFor operation := by
  cases operation <;> rfl

/-- What is asked for one device: its template is filled and the payload copied, then loaded in
every container and discarded. -/
def planFor (settings : Settings) (operation : Operation) (place : Nat) (host : Host) : Plan :=
  let file := fileFor operation
  let loading := host.asics.flatMap fun asic =>
    let swss := "swss" ++ asic.elim "" toString
    [ "docker cp /tmp/" ++ file ++ " " ++ swss ++ ":/" ++ file,
      "docker exec " ++ swss ++ " swssconfig /" ++ file,
      "docker exec " ++ swss ++ " rm /" ++ file ]
  [ fun _ => .render (settings.fillingAt operation place),
    fun content => .copy place content ("/tmp/" ++ file) ] ++
      (loading ++ ["rm /tmp/" ++ file]).map fun command _ => .shell place command

/-- What is asked for devices, of which the first is at the given place. -/
def planFrom (settings : Settings) (operation : Operation) (place : Nat) (hosts : List Host) :
    Plan :=
  (hosts.zipIdx place).flatMap fun entry => settings.planFor operation entry.2 entry.1

def plan (settings : Settings) (operation : Operation) (hosts : List Host) : Plan :=
  settings.planFrom operation 0 hosts

end Settings

/-! ### Following them -/

namespace Settings

theorem filling_eq (settings : Settings) (place : Nat) (operation : Operation) :
    settings.filling place operation = settings.fillingAt operation place := by
  have hslot (slots : List (Option Address)) : slots[place]?.join = slots.getD place none := by
    rw [List.getD_eq_getElem?_getD]
    cases slots[place]? <;> rfl
  simp only [filling, Variables.forDevice, fillingAt, hslot]

theorem planFor_eq (settings : Settings) (operation : Operation) (place : Nat) (host : Host) :
    settings.planFor operation place host =
      (fun _ => .render (settings.filling place operation)) ::
        (fun content => .copy place content (payloadPath operation)) ::
          (loading host operation).map fun command _ => .shell place command := by
  have hcopy (file : String) : "docker cp /tmp/" ++ file = "docker cp " ++ ("/tmp/" ++ file) := by
    rw [← String.append_assoc]
    rfl
  have hdiscard (file : String) : "rm /tmp/" ++ file = "rm " ++ ("/tmp/" ++ file) := by
    rw [← String.append_assoc]
    rfl
  simp only [planFor, filling_eq, hcopy, hdiscard, ← payload_eq_fileFor, ← container_eq]
  rfl

theorem follows_sendTo (settings : Settings) (operation : Operation) (place : Nat) (host : Host) :
    Follows (fun _ => settings.sendTo operation place host)
      (settings.planFor operation place host) := by
  have hcommands := follows_commands place (loading host operation)
  have hcopied := hcommands.cons fun content => .copy place content (payloadPath operation)
  rw [planFor_eq]
  exact hcopied.cons fun _ => .render (settings.filling place operation)

theorem follows_sendFrom (settings : Settings) (operation : Operation) (place : Nat)
    (hosts : List Host) :
    Follows (fun _ => settings.sendFrom operation place hosts)
      (settings.planFrom operation place hosts) := by
  induction hosts generalizing place with
  | nil => exact Follows.nil
  | cons host rest ih =>
      exact (settings.follows_sendTo operation place host).append (ih (place + 1))

end Settings

/-! ### Without notes -/

namespace Attempt

def Quiet (attempt : Attempt α) : Prop :=
  ∀ respond history, (attempt.run.run respond history).records = []

theorem quiet_pure (value : α) : Quiet (pure value) := fun _ _ => rfl

theorem quiet_ask (request : Request) : Quiet (ask request) := fun _ _ => rfl

theorem Quiet.bind {attempt : Attempt α} {next : α → Attempt β} (hattempt : Quiet attempt)
    (hnext : ∀ value, Quiet (next value)) : Quiet (attempt >>= next) := by
  intro respond history
  rw [ExceptT.run_bind, Dialogue.records_bind, hattempt, List.nil_append]
  cases (attempt.run.run respond history).value with
  | error error => rfl
  | ok value => exact hnext value _ _

theorem quiet_commands (place : Nat) (commands : List String) :
    Quiet (Attempt.commands place commands) := by
  induction commands with
  | nil => exact quiet_pure ()
  | cons command rest ih => exact (quiet_ask (.shell place command)).bind fun _ => ih

end Attempt

namespace Settings

theorem quiet_sendTo (settings : Settings) (operation : Operation) (place : Nat) (host : Host) :
    (settings.sendTo operation place host).Quiet :=
  (Attempt.quiet_ask _).bind fun _ => (Attempt.quiet_ask _).bind fun _ =>
    Attempt.quiet_commands place (loading host operation)

theorem quiet_sendFrom (settings : Settings) (operation : Operation) (place : Nat)
    (hosts : List Host) : (settings.sendFrom operation place hosts).Quiet := by
  induction hosts generalizing place with
  | nil => exact Attempt.quiet_pure ()
  | cons host rest ih =>
      exact (settings.quiet_sendTo operation place host).bind fun _ => ih (place + 1)

variable (settings : Settings) (hosts : List Host)
  (respond : List Request → Request → Except Error String) (history : List Request)

theorem run_send (operation : Operation) :
    let turns := (settings.plan operation hosts).turns respond history ""
    (settings.send hosts operation).run respond history =
      ⟨Turn.outcome turns, turns.map Turn.request, []⟩ := by
  intro turns
  obtain ⟨hvalue, hrequests⟩ := settings.follows_sendFrom operation 0 hosts respond history ""
  have hrecords := settings.quiet_sendFrom operation 0 hosts respond history
  exact Run.eq_mk hvalue hrequests hrecords

end Settings

/-! ### Setting and deleting -/

/-- The complaint about a configuration that could not be deleted. -/
def complaints : Except Error Unit → List Record
  | .ok _ => []
  | .error error => [⟨.error, .guard, "Failed to remove test decap cfg: " ++ error.message⟩]

variable (settings : Settings) (hosts : List Host)
  (respond : List Request → Request → Except Error String) (history : List Request)

namespace Change

theorem run_undo_configured :
    let deleted := (settings.plan .delete hosts).turns respond history ""
    ((configured settings).undo hosts).run respond history =
      ⟨(), deleted.map Turn.request, complaints (Turn.outcome deleted)⟩ := by
  intro deleted
  rw [undo, Dialogue.run_bind_of_run respond history (settings.run_send hosts respond history _)]
  dsimp only
  cases houtcome : Turn.outcome deleted with
  | ok _ => exact Run.eq_mk rfl (List.append_nil _) rfl
  | error error => exact Run.eq_mk rfl (List.append_nil _) rfl

theorem run_during_configured (body : Talk Unit) :
    let setUp := (settings.plan .set hosts).turns respond history ""
    let afterSetUp := history ++ setUp.map Turn.request
    let meanwhile := unlessFailed (body.run respond afterSetUp) (Turn.outcome setUp)
    let deleted :=
      (settings.plan .delete hosts).turns respond (afterSetUp ++ meanwhile.requests) ""
    ((configured settings).during hosts body).run respond history =
      ⟨Turn.outcome setUp, setUp.map Turn.request ++ meanwhile.requests ++ deleted.map Turn.request,
        meanwhile.records ++ complaints (Turn.outcome deleted)⟩ := by
  have hduring := (configured settings).run_during hosts respond history body
  simpa only [begin, settings.run_send, run_undo_configured, List.nil_append] using hduring

/-- **The course of a configuration.** It is set up to and including the first failure, and that
failure is all that the attempt comes to. A configuration that could not be set is deleted at once,
any other one after what is done under it. Deleting starts over at the first device and goes up to
and including its own first failure, of which there is a complaint and nothing else. It fills the
templates as setting does, with the other operation. -/
theorem set_then_deleted (body : Talk Unit) :
    let setUp := (settings.plan .set hosts).turns respond history ""
    let afterSetUp := history ++ setUp.map Turn.request
    let deletedAfter := fun earlier => (settings.plan .delete hosts).turns respond earlier ""
    let made := ((configured settings).make hosts).run respond history
    let meanwhile := unlessFailed (body.run respond afterSetUp) (Turn.outcome setUp)
    let deleted := deletedAfter (afterSetUp ++ meanwhile.requests)
    ((configured settings).during hosts body).run respond history =
        ⟨Turn.outcome setUp,
          setUp.map Turn.request ++ meanwhile.requests ++ deleted.map Turn.request,
          meanwhile.records ++ complaints (Turn.outcome deleted)⟩ ∧
      made.value = Turn.outcome setUp ∧
      (made.value = .ok () ↔ ∀ turn ∈ setUp, turn.error? = none) ∧
      made.requests = setUp.map Turn.request ++
        (match Turn.outcome setUp with
        | .ok _ => []
        | .error _ => (deletedAfter afterSetUp).map Turn.request) ∧
      ∀ place, settings.filling place .delete =
        { settings.filling place .set with operation := .delete } := by
  intro setUp afterSetUp deletedAfter made meanwhile deleted
  have hbegin : ((configured settings).begin hosts).run respond history =
      ⟨Turn.outcome setUp, setUp.map Turn.request, []⟩ :=
    settings.run_send hosts respond history .set
  have hbegun : (((configured settings).begin hosts).run respond history).value =
      Turn.outcome setUp := by
    rw [hbegin]
  have hvalue : made.value = Turn.outcome setUp := by
    rw [value_make, hbegun]
  refine ⟨run_during_configured settings hosts respond history body, hvalue,
    by rw [hvalue, Turn.outcome_eq_ok], ?_, fun _ => rfl⟩
  cases houtcome : Turn.outcome setUp with
  | ok _ =>
      have hok := (configured settings).run_make_of_ok hosts respond history
        (hbegun.trans houtcome)
      simp only [made, hok, hbegin, List.append_nil]
  | error error =>
      have hfailed := (configured settings).run_make_of_failed hosts respond history
        (hbegun.trans houtcome)
      simp only [made, hfailed, hbegin, run_undo_configured]
      rfl

/-- One device has a single container, the other one has two and no loopback address. Setting fails
in the last container of all, and deleting on the first device. -/
theorem set_then_deleted_of_two_failures :
    let settings : Settings := ⟨.all, ⟨[some (.v4 10)], []⟩, ⟨"pipe", "uniform"⟩, "standard"⟩
    let filling (address : Option Address) (operation : Operation) : Variables :=
      ⟨address, none, ⟨"pipe", "uniform"⟩, "standard", operation, .all⟩
    let hosts : List Host := [⟨"vlab-01", [none]⟩, ⟨"vlab-02", [some 0, some 12]⟩]
    let respond : List Request → Request → Except Error String := fun _ request =>
      match request with
      | .render filling => .ok (if filling.operation = .set then "[set]" else "[delete]")
      | .copy _ content _ => if content = "[set]" then .ok "" else .error (.device "vlab-01" "full")
      | .shell _ command =>
        if command = "docker exec swss12 swssconfig /decap_conf_SET.json" then
          .error (.device "vlab-02" "gone")
        else .ok ""
    let run := ((configured settings).during hosts (pure ())).run respond []
    run.value = .error (.device "vlab-02" "gone") ∧
      run.requests = [
        .render (filling (some (.v4 10)) .set),
        .copy 0 "[set]" "/tmp/decap_conf_SET.json",
        .shell 0 "docker cp /tmp/decap_conf_SET.json swss:/decap_conf_SET.json",
        .shell 0 "docker exec swss swssconfig /decap_conf_SET.json",
        .shell 0 "docker exec swss rm /decap_conf_SET.json",
        .shell 0 "rm /tmp/decap_conf_SET.json",
        .render (filling none .set),
        .copy 1 "[set]" "/tmp/decap_conf_SET.json",
        .shell 1 "docker cp /tmp/decap_conf_SET.json swss0:/decap_conf_SET.json",
        .shell 1 "docker exec swss0 swssconfig /decap_conf_SET.json",
        .shell 1 "docker exec swss0 rm /decap_conf_SET.json",
        .shell 1 "docker cp /tmp/decap_conf_SET.json swss12:/decap_conf_SET.json",
        .shell 1 "docker exec swss12 swssconfig /decap_conf_SET.json",
        .render (filling (some (.v4 10)) .delete),
        .copy 0 "[delete]" "/tmp/decap_conf_DEL.json"] ∧
      run.records =
        [⟨.error, .guard, "Failed to remove test decap cfg: Device error on vlab-01: full"⟩] := by
  intro settings filling hosts respond run
  obtain ⟨hrun, -⟩ := set_then_deleted settings hosts respond [] (pure ())
  exact ⟨(congrArg Run.value hrun).trans rfl,
    (congrArg Run.requests hrun).trans (by decide), (congrArg Run.records hrun).trans (by decide)⟩

end Change

end SshCompliance.Decap
