import SshCompliance.Decap.Change
import SshCompliance.Proofs.Dialogue

/-!
# Plans for devices

What a change asks of devices is written down here as one flat list, without a word on failures: a
plan is gone through up to and including the first request that fails. A request may hand on the
text that answered the one before it, as a payload is copied that was rendered just now.

An attempt follows a plan if its requests and its result are those of the plan, whatever the replies
are. Attempts are put together as plans are, so following is shown for single requests only.
-/

namespace SshCompliance.Decap

/-- A request with the reply to it. -/
structure Turn where
  request : Request
  reply : Except Error String

namespace Turn

def error? (turn : Turn) : Option Error :=
  match turn.reply with
  | .ok _ => none
  | .error error => some error

/-- What turns come to: the first failure among them, if there is one. -/
def outcome (turns : List Turn) : Except Error Unit :=
  match turns.findSome? error? with
  | none => .ok ()
  | some error => .error error

theorem outcome_eq_ok {turns : List Turn} :
    outcome turns = .ok () ↔ ∀ turn ∈ turns, turn.error? = none := by
  rw [outcome, ← List.findSome?_eq_none_iff]
  cases turns.findSome? error? <;> simp

theorem exists_of_outcome_eq_error {turns : List Turn} {error : Error}
    (herror : outcome turns = .error error) : ∃ turn ∈ turns, turn.error? = some error := by
  rw [outcome] at herror
  cases hfound : turns.findSome? error? with
  | none => simp [hfound] at herror
  | some found =>
      simp only [hfound, Except.error.injEq] at herror
      exact List.exists_of_findSome?_eq_some (herror ▸ hfound)

theorem outcome_append_of_ok {first : List Turn} (hok : outcome first = .ok ())
    (second : List Turn) : outcome (first ++ second) = outcome second := by
  have hfirst : first.findSome? error? = none :=
    List.findSome?_eq_none_iff.mpr (outcome_eq_ok.mp hok)
  rw [outcome, outcome, List.findSome?_append, hfirst, Option.none_or]

end Turn

/-! ### Plans -/

/-- Requests in order, each made from the text that answered the one before it. -/
abbrev Plan := List (String → Request)

namespace Plan

/-- The turns of a plan, up to and including the first that fails. -/
def turns (respond : List Request → Request → Except Error String) :
    List Request → String → Plan → List Turn
  | _, _, [] => []
  | history, text, next :: rest =>
    match respond history (next text) with
    | .error error => [⟨next text, .error error⟩]
    | .ok answer => ⟨next text, .ok answer⟩ :: turns respond (history ++ [next text]) answer rest

variable {respond : List Request → Request → Except Error String} {history : List Request}
  {text : String} {next : String → Request}

theorem turns_cons_of_error {error : Error} (hreply : respond history (next text) = .error error)
    (rest : Plan) : turns respond history text (next :: rest) = [⟨next text, .error error⟩] := by
  rw [turns, hreply]

theorem turns_cons_of_ok {answer : String} (hreply : respond history (next text) = .ok answer)
    (rest : Plan) : turns respond history text (next :: rest) =
      ⟨next text, .ok answer⟩ :: turns respond (history ++ [next text]) answer rest := by
  rw [turns, hreply]

theorem mem_turns_cons (rest : Plan) :
    next text ∈ (turns respond history text (next :: rest)).map Turn.request := by
  cases hreply : respond history (next text) with
  | error error => simp [turns_cons_of_error hreply]
  | ok answer => simp [turns_cons_of_ok hreply]

/-- A turn is about a request of the plan, and its reply is one to that request. -/
theorem exists_of_mem_turns {plan : Plan} {turn : Turn}
    (hturn : turn ∈ turns respond history text plan) :
    ∃ next ∈ plan, ∃ earlier answer,
      turn.request = next answer ∧ turn.reply = respond earlier turn.request := by
  induction plan generalizing history text with
  | nil => cases hturn
  | cons next rest ih =>
      cases hreply : respond history (next text) with
      | error error =>
          rw [turns_cons_of_error hreply, List.mem_singleton] at hturn
          subst hturn
          exact ⟨next, List.mem_cons_self, history, text, rfl, hreply.symm⟩
      | ok answer =>
          rw [turns_cons_of_ok hreply, List.mem_cons] at hturn
          rcases hturn with rfl | hturn
          · exact ⟨next, List.mem_cons_self, history, text, rfl, hreply.symm⟩
          · obtain ⟨later, hlater, hturn⟩ := ih hturn
            exact ⟨later, List.mem_cons_of_mem next hlater, hturn⟩

theorem turns_append_of_failed {first : Plan} {error : Error}
    (hfailed : Turn.outcome (turns respond history text first) = .error error) (second : Plan) :
    turns respond history text (first ++ second) = turns respond history text first := by
  induction first generalizing history text with
  | nil => cases hfailed
  | cons next rest ih =>
      rw [List.cons_append]
      cases hreply : respond history (next text) with
      | error found => rw [turns_cons_of_error hreply, turns_cons_of_error hreply]
      | ok answer =>
          rw [turns_cons_of_ok hreply] at hfailed
          rw [turns_cons_of_ok hreply, turns_cons_of_ok hreply, ih hfailed]

/-- What comes behind a plan without a failure is gone through after it, from the text that it
ended with. -/
theorem turns_append_of_ok {first : Plan}
    (hok : Turn.outcome (turns respond history text first) = .ok ()) :
    ∃ last, ∀ second, turns respond history text (first ++ second) =
      turns respond history text first ++
        turns respond (history ++ (turns respond history text first).map Turn.request) last
          second := by
  induction first generalizing history text with
  | nil => exact ⟨text, fun second => by simp [turns]⟩
  | cons next rest ih =>
      cases hreply : respond history (next text) with
      | error found =>
          rw [turns_cons_of_error hreply] at hok
          cases hok
      | ok answer =>
          rw [turns_cons_of_ok hreply] at hok
          -- The text that is handed on depends on the first plan alone.
          obtain ⟨last, hlast⟩ := ih hok
          refine ⟨last, fun second => ?_⟩
          rw [List.cons_append, turns_cons_of_ok hreply, turns_cons_of_ok hreply, hlast]
          simp

end Plan

/-- Plans name the container for an ASIC in full. -/
theorem container_eq (asic : Option Nat) : container asic = "swss" ++ asic.elim "" toString := by
  cases asic <;> rfl

/-! ### Following a plan -/

/-- The attempt goes through the plan, from whatever text it is started with. -/
def Follows (attempt : String → Attempt Unit) (plan : Plan) : Prop :=
  ∀ respond history text,
    let run := (attempt text).run.run respond history
    let turns := plan.turns respond history text
    run.value = Turn.outcome turns ∧ run.requests = turns.map Turn.request

namespace Follows

theorem nil : Follows (fun _ => pure ()) [] := fun _ _ _ => ⟨rfl, rfl⟩

theorem cons {attempt : String → Attempt Unit} {plan : Plan} (next : String → Request)
    (hrest : Follows attempt plan) :
    Follows (fun text => do
      let answer ← Attempt.ask (next text)
      attempt answer) (next :: plan) := by
  intro respond history text
  simp only [ExceptT.run_bind, Attempt.ask, ExceptT.run_mk, Dialogue.value_bind,
    Dialogue.value_request, Dialogue.requests_bind, Dialogue.requests_request]
  cases hreply : respond history (next text) with
  | error error =>
      rw [Plan.turns_cons_of_error hreply]
      exact ⟨rfl, rfl⟩
  | ok answer =>
      obtain ⟨hvalue, hrequests⟩ := hrest respond (history ++ [next text]) answer
      rw [Plan.turns_cons_of_ok hreply]
      refine ⟨?_, ?_⟩
      · rw [hvalue]
        rfl
      · rw [hrequests]
        rfl

theorem append {first second : Attempt Unit} {before after : Plan}
    (hfirst : Follows (fun _ => first) before) (hsecond : Follows (fun _ => second) after) :
    Follows (fun _ => do
      first
      second) (before ++ after) := by
  intro respond history text
  obtain ⟨hvalue, hrequests⟩ := hfirst respond history text
  simp only [ExceptT.run_bind, Dialogue.value_bind, Dialogue.requests_bind, hvalue, hrequests]
  cases houtcome : Turn.outcome (before.turns respond history text) with
  | error error =>
      rw [Plan.turns_append_of_failed houtcome]
      exact ⟨houtcome.symm, List.append_nil _⟩
  | ok _ =>
      obtain ⟨last, hlast⟩ := Plan.turns_append_of_ok houtcome
      obtain ⟨hvalue', hrequests'⟩ := hsecond respond
        (history ++ (before.turns respond history text).map Turn.request) last
      rw [hlast]
      refine ⟨?_, ?_⟩
      · rw [Turn.outcome_append_of_ok houtcome]
        exact hvalue'
      · rw [hrequests', List.map_append]

theorem notes {attempt : Attempt Unit} {plan : Plan} (hattempt : Follows (fun _ => attempt) plan)
    (records : List Record) :
    Follows (fun _ => do
      Attempt.notes records
      attempt) plan := by
  intro respond history text
  simp only [Attempt.notes, ExceptT.run_bind_lift, Dialogue.value_bind, Dialogue.requests_bind,
    Dialogue.requests_notes, List.nil_append, List.append_nil]
  exact hattempt respond history text

end Follows

theorem follows_commands (place : Nat) (commands : List String) :
    Follows (fun _ => Attempt.commands place commands)
      (commands.map fun command _ => .shell place command) := by
  induction commands with
  | nil => exact Follows.nil
  | cons command rest ih => exact ih.cons fun _ => .shell place command

end SshCompliance.Decap
