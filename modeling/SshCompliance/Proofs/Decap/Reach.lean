import SshCompliance.Proofs.Decap.Configuration

/-!
# How far deleting reaches

Setting a configuration and deleting it both go through the devices in order and end at their first
failure. So deleting reaches every device that setting has reached if it does not fail earlier, and
only then: a device on which deleting fails keeps it from all devices behind.
-/

namespace SshCompliance.Decap

/-- The place of the device that a request goes to; a template is filled without one. -/
def Request.place? : Request → Option Nat
  | .shell place _ => some place
  | .copy place _ _ => some place
  | .render _ => none

/-- Something was sent to the device at a place. -/
def Reached (turns : List Turn) (place : Nat) : Prop :=
  ∃ turn ∈ turns, turn.request.place? = some place

/-- Something that was sent to the device at a place failed. -/
def FailedAt (turns : List Turn) (place : Nat) : Prop :=
  ∃ turn ∈ turns, turn.request.place? = some place ∧ turn.error? ≠ none

theorem FailedAt.reached {turns : List Turn} {place : Nat} (hfailed : FailedAt turns place) :
    Reached turns place := by
  obtain ⟨turn, hturn, hplace, -⟩ := hfailed
  exact ⟨turn, hturn, hplace⟩

theorem reached_append {first second : List Turn} {place : Nat} :
    Reached (first ++ second) place ↔ Reached first place ∨ Reached second place := by
  simp only [Reached, List.mem_append, or_and_right, exists_or]

theorem failedAt_append {first second : List Turn} (hok : Turn.outcome first = .ok ())
    {place : Nat} : FailedAt (first ++ second) place ↔ FailedAt second place := by
  constructor
  · rintro ⟨turn, hturn, hplace, herror⟩
    rcases List.mem_append.mp hturn with hfirst | hsecond
    · exact absurd (Turn.outcome_eq_ok.mp hok turn hfirst) herror
    · exact ⟨turn, hsecond, hplace, herror⟩
  · rintro ⟨turn, hturn, hplace⟩
    exact ⟨turn, List.mem_append_right first hturn, hplace⟩

variable {respond : List Request → Request → Except Error String}

namespace Settings

variable (settings : Settings) (operation : Operation)

/-- Apart from the filling of the template, what is asked for a device goes to that device. -/
theorem place?_of_mem_planFor {place : Nat} {host : Host} {next : String → Request}
    (hnext : next ∈ settings.planFor operation place host) :
    (∃ filling, next = fun _ => .render filling) ∨
      ∀ answer, (next answer).place? = some place := by
  rw [planFor_eq, List.mem_cons, List.mem_cons, List.mem_map] at hnext
  rcases hnext with rfl | rfl | ⟨command, -, rfl⟩
  · exact .inl ⟨_, rfl⟩
  · exact .inr fun _ => rfl
  · exact .inr fun _ => rfl

theorem copy_mem_turns_planFor (history : List Request) (text : String) (place : Nat)
    (host : Host)
    (hrender : ∀ earlier filling, ∃ content, respond earlier (.render filling) = .ok content) :
    ∃ content, .copy place content (payloadPath operation) ∈
      ((settings.planFor operation place host).turns respond history text).map Turn.request := by
  obtain ⟨content, hcontent⟩ := hrender history (settings.filling place operation)
  refine ⟨content, ?_⟩
  rw [planFor_eq, Plan.turns_cons_of_ok hcontent, List.map_cons]
  apply List.mem_cons_of_mem
  let copy : String → Request := fun content => .copy place content (payloadPath operation)
  exact (Plan.mem_turns_cons _ : copy content ∈ _)

theorem reached_planFor (history : List Request) (text : String) (place : Nat) (host : Host)
    (hrender : ∀ earlier filling, ∃ content, respond earlier (.render filling) = .ok content)
    (other : Nat) :
    Reached ((settings.planFor operation place host).turns respond history text) other ↔
      other = place := by
  constructor
  · rintro ⟨turn, hturn, hother⟩
    obtain ⟨next, hnext, earlier, answer, hrequest, -⟩ := Plan.exists_of_mem_turns hturn
    rw [hrequest] at hother
    rcases settings.place?_of_mem_planFor operation hnext with ⟨filling, rfl⟩ | hplace
    · cases hother
    · rw [hplace] at hother
      exact (Option.some.inj hother).symm
  · rintro rfl
    obtain ⟨content, hcopied⟩ :=
      settings.copy_mem_turns_planFor operation history text other host hrender
    obtain ⟨turn, hturn, hrequest⟩ := List.mem_map.mp hcopied
    exact ⟨turn, hturn, by rw [hrequest]; rfl⟩

theorem failedAt_planFor {history : List Request} {text : String} {place : Nat} {host : Host}
    (hrender : ∀ earlier filling, ∃ content, respond earlier (.render filling) = .ok content)
    {error : Error}
    (herror : Turn.outcome ((settings.planFor operation place host).turns respond history text) =
      .error error) :
    FailedAt ((settings.planFor operation place host).turns respond history text) place := by
  obtain ⟨turn, hturn, hfailed⟩ := Turn.exists_of_outcome_eq_error herror
  obtain ⟨next, hnext, earlier, answer, hrequest, hreply⟩ := Plan.exists_of_mem_turns hturn
  refine ⟨turn, hturn, ?_, by simp [hfailed]⟩
  rcases settings.place?_of_mem_planFor operation hnext with ⟨filling, rfl⟩ | hplace
  · obtain ⟨content, hcontent⟩ := hrender earlier filling
    rw [Turn.error?, hreply, hrequest, hcontent] at hfailed
    cases hfailed
  · rw [hrequest, hplace]

/-- Behind a device on which something fails nothing is asked; behind any other one the devices that
are left are gone through. -/
theorem turns_planFrom_cons (history : List Request) (text : String) (start : Nat) (host : Host)
    (rest : List Host) :
    let own := (settings.planFor operation start host).turns respond history text
    ((settings.planFrom operation start (host :: rest)).turns respond history text = own ∧
      ∃ error, Turn.outcome own = .error error) ∨
    (Turn.outcome own = .ok () ∧ ∃ later last,
      (settings.planFrom operation start (host :: rest)).turns respond history text =
        own ++ (settings.planFrom operation (start + 1) rest).turns respond later last) := by
  intro own
  have hplan : settings.planFrom operation start (host :: rest) =
      settings.planFor operation start host ++ settings.planFrom operation (start + 1) rest := by
    simp only [planFrom, List.zipIdx_cons, List.flatMap_cons]
  rw [hplan]
  cases houtcome : Turn.outcome own with
  | error error => exact .inl ⟨Plan.turns_append_of_failed houtcome _, error, rfl⟩
  | ok _ =>
      obtain ⟨last, hlast⟩ := Plan.turns_append_of_ok houtcome
      exact .inr ⟨rfl, _, last, hlast _⟩

variable (hrender : ∀ earlier filling, ∃ content, respond earlier (.render filling) = .ok content)
include hrender

/-- The devices reached are those up to the one on which a failure occurred, if there is one. -/
theorem reached_planFrom (history : List Request) (text : String) (start : Nat)
    (hosts : List Host) (place : Nat) :
    Reached ((settings.planFrom operation start hosts).turns respond history text) place ↔
      start ≤ place ∧ place < start + hosts.length ∧
        ∀ failing, FailedAt ((settings.planFrom operation start hosts).turns respond history text)
          failing → place ≤ failing := by
  induction hosts generalizing history text start place with
  | nil =>
      refine iff_of_false ?_ fun h => ?_
      · rintro ⟨turn, hturn, -⟩
        exact absurd hturn List.not_mem_nil
      · simp only [List.length_nil] at h
        omega
  | cons host rest ih =>
      have hown := settings.reached_planFor operation history text start host hrender
      rw [List.length_cons]
      rcases settings.turns_planFrom_cons operation history text start host rest with
        ⟨hturns, error, herror⟩ | ⟨hok, later, last, hturns⟩
      · have hfailed := settings.failedAt_planFor operation hrender herror
        rw [hturns, hown]
        constructor
        · rintro rfl
          refine ⟨Nat.le_refl place, by omega, fun failing hfailing => ?_⟩
          exact Nat.le_of_eq ((hown failing).mp hfailing.reached).symm
        · rintro ⟨hstart, -, hfirst⟩
          exact Nat.le_antisymm (hfirst start hfailed) hstart
      · have hrest := ih later last (start + 1)
        simp only [hturns, reached_append, failedAt_append hok, hown, hrest place]
        constructor
        · rintro (rfl | ⟨hstart, hend, hfirst⟩)
          · refine ⟨Nat.le_refl place, by omega, fun failing hfailing => ?_⟩
            -- The failure is on one of the devices behind, whose places start at the next one.
            have hbehind := ((hrest failing).mp hfailing.reached).1
            omega
          · exact ⟨by omega, by omega, hfirst⟩
        · rintro ⟨hstart, hend, hfirst⟩
          by_cases hplace : place = start
          · exact .inl hplace
          · exact .inr ⟨by omega, by omega, hfirst⟩

theorem copy_mem_of_reached {history : List Request} {text : String} {start place : Nat}
    {hosts : List Host}
    (hreached : Reached ((settings.planFrom operation start hosts).turns respond history text)
      place) :
    ∃ content, .copy place content (payloadPath operation) ∈
      ((settings.planFrom operation start hosts).turns respond history text).map
        Turn.request := by
  induction hosts generalizing history text start with
  | nil =>
      obtain ⟨turn, hturn, -⟩ := hreached
      exact absurd hturn List.not_mem_nil
  | cons host rest ih =>
      have hown := settings.reached_planFor operation history text start host hrender place
      have hcopied := settings.copy_mem_turns_planFor operation history text start host hrender
      rcases settings.turns_planFrom_cons operation history text start host rest with
        ⟨hturns, -⟩ | ⟨-, later, last, hturns⟩
      · rw [hturns] at hreached ⊢
        rw [hown.mp hreached]
        exact hcopied
      · rw [hturns] at hreached ⊢
        rw [List.map_append]
        rcases reached_append.mp hreached with howned | hlater
        · obtain ⟨content, hcontent⟩ := hcopied
          exact ⟨content, List.mem_append_left _ (hown.mp howned ▸ hcontent)⟩
        · obtain ⟨content, hcontent⟩ := ih hlater
          exact ⟨content, List.mem_append_right _ hcontent⟩

end Settings

namespace Change

/-- **How far deleting reaches.** Where templates can always be filled, every device that anything
was sent to while a configuration was set is sent the payload that deletes it, if and only if
nothing fails on a device before the last of them while the configuration is deleted. -/
theorem deleted_reaches_iff (settings : Settings) (hosts : List Host) (body : Talk Unit)
    (history : List Request)
    (hrender : ∀ earlier filling, ∃ content, respond earlier (.render filling) = .ok content) :
    let setUp := (settings.plan .set hosts).turns respond history ""
    let afterSetUp := history ++ setUp.map Turn.request
    let meanwhile := unlessFailed (body.run respond afterSetUp) (Turn.outcome setUp)
    let deleted :=
      (settings.plan .delete hosts).turns respond (afterSetUp ++ meanwhile.requests) ""
    (((configured settings).during hosts body).run respond history).requests =
        setUp.map Turn.request ++ meanwhile.requests ++ deleted.map Turn.request ∧
      ((∀ place, Reached setUp place → ∃ content,
          .copy place content "/tmp/decap_conf_DEL.json" ∈ deleted.map Turn.request) ↔
        ∀ failing, FailedAt deleted failing → ∀ place, Reached setUp place → place ≤ failing) := by
  intro setUp afterSetUp meanwhile deleted
  have hrun := run_during_configured settings hosts respond history body
  have hset := settings.reached_planFrom .set hrender history "" 0 hosts
  have hdeleted := settings.reached_planFrom .delete hrender (afterSetUp ++ meanwhile.requests) ""
    0 hosts
  refine ⟨congrArg Run.requests hrun, ?_, ?_⟩
  · intro hsent failing hfailing place hplace
    obtain ⟨content, hcontent⟩ := hsent place hplace
    obtain ⟨turn, hturn, hrequest⟩ := List.mem_map.mp hcontent
    have hreached : Reached deleted place := ⟨turn, hturn, by rw [hrequest]; rfl⟩
    exact ((hdeleted place).mp hreached).2.2 failing hfailing
  · intro hfirst place hplace
    obtain ⟨hstart, hend, -⟩ := (hset place).mp hplace
    apply settings.copy_mem_of_reached .delete hrender
    apply (hdeleted place).mpr
    exact ⟨hstart, hend, fun failing hfailing => hfirst failing hfailing place hplace⟩

/-- Setting and deleting both fail on the second of three devices. -/
theorem deleted_reaches_iff_of_second_failing :
    let settings : Settings := ⟨.all, ⟨[], []⟩, ⟨"pipe", "uniform"⟩, "standard"⟩
    let hosts : List Host := [⟨"vlab-01", [none]⟩, ⟨"vlab-02", [some 0, some 1]⟩, ⟨"vlab-03", []⟩]
    let respond : List Request → Request → Except Error String := fun _ request =>
      match request with
      | .shell 1 command => .error (.device "vlab-02" command)
      | _ => .ok "[]"
    let setUp := (settings.plan .set hosts).turns respond [] ""
    let deleted := (settings.plan .delete hosts).turns respond (setUp.map Turn.request) ""
    (∀ earlier filling, ∃ content, respond earlier (.render filling) = .ok content) ∧
      (((configured settings).during hosts (pure ())).run respond []).requests =
        setUp.map Turn.request ++ deleted.map Turn.request ∧
      Reached setUp 1 ∧ FailedAt deleted 1 ∧
      ∀ place, Reached setUp place →
        ∃ content, .copy place content "/tmp/decap_conf_DEL.json" ∈ deleted.map Turn.request := by
  intro settings hosts respond setUp deleted
  have hrender : ∀ earlier filling, ∃ content,
      respond earlier (.render filling) = .ok content := fun _ _ => ⟨"[]", rfl⟩
  obtain ⟨hrequests, hiff⟩ := deleted_reaches_iff settings hosts (pure ()) [] hrender
  have hfirst : ∀ turn ∈ deleted, turn.error? ≠ none → ∀ failing ∈ turn.request.place?,
      ∀ other ∈ setUp, ∀ place ∈ other.request.place?, place ≤ failing := by decide
  refine ⟨hrender, hrequests, by unfold Reached; decide, by unfold FailedAt; decide, hiff.mpr ?_⟩
  rintro failing ⟨turn, hturn, hfailing, herror⟩ place ⟨other, hother, hplace⟩
  exact hfirst turn hturn herror failing hfailing other hother place hplace

/-- Deleting fails on the first of two devices, and the second one keeps its configuration. -/
theorem deleted_stops_at_first_device :
    let settings : Settings := ⟨.all, ⟨[], []⟩, ⟨"pipe", "uniform"⟩, "standard"⟩
    let hosts : List Host := [⟨"vlab-01", [none]⟩, ⟨"vlab-02", [none]⟩]
    let respond : List Request → Request → Except Error String := fun _ request =>
      match request with
      | .copy 0 _ path =>
        if path = "/tmp/decap_conf_DEL.json" then .error (.device "vlab-01" "failed") else .ok ""
      | _ => .ok ""
    let requests := (((configured settings).during hosts (pure ())).run respond []).requests
    (∀ earlier filling, ∃ content, respond earlier (.render filling) = .ok content) ∧
      .shell 1 "docker exec swss swssconfig /decap_conf_SET.json" ∈ requests ∧
      ∀ content, .copy 1 content "/tmp/decap_conf_DEL.json" ∉ requests := by
  intro settings hosts respond requests
  have hnone : requests.all (fun request => match request with
      | .copy 1 _ path => path ≠ "/tmp/decap_conf_DEL.json"
      | _ => true) = true := by decide
  refine ⟨fun _ _ => ⟨"", rfl⟩, by decide, fun content hmem => ?_⟩
  have hpath := List.all_eq_true.mp hnone _ hmem
  simp at hpath

end Change

end SshCompliance.Decap
