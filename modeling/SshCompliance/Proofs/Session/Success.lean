import SshCompliance.Proofs.Session.Separation

/-!
# Queries that succeed

A query succeeds if the command ended well and the marker stands in what it wrote. A step comes to
something exactly if the session bears what became of its queries: it bears everything if failures
are to be borne, and otherwise only success. A task that broke down is never borne, so it is
excluded here.
-/

namespace SshCompliance

/-- The names that a query gives if it succeeds. -/
def Reply.names? (marker : String) : Reply → Option (List String)
  | .finished output => if output.succeeded then readNames? marker output.stdout else none
  | .refused _ => none
  | .crashed _ => none

theorem Reply.read_eq_listed_iff {reply : Reply} {category : Category} {marker : String}
    {names : List String} :
    reply.read category marker = .listed names ↔ reply.names? marker = some names := by
  cases reply with
  | finished output =>
      rw [Reply.read, Reply.names?]
      cases output.succeeded with
      | false => simp
      | true => cases readNames? marker output.stdout <;> simp
  | refused error => simp [Reply.read, Reply.names?]
  | crashed reason => simp [Reply.read, Reply.names?]

theorem Reply.error?_read_eq_none_iff {reply : Reply} (hreply : reply.Sound)
    (policy : FailurePolicy) (category : Category) (marker : String) :
    (reply.read category marker).error? policy category = none ↔
      policy = .degrade ∨ (reply.names? marker).isSome := by
  cases hread : reply.read category marker with
  | listed names => simp [Queried.error?, read_eq_listed_iff.mp hread]
  | failed error =>
      have hnames : reply.names? marker = none := by
        apply Option.eq_none_iff_forall_ne_some.mpr
        intro names hsome
        rw [read_eq_listed_iff.mpr hsome] at hread
        cases hread
      cases policy <;> simp [Queried.error?, hnames]
  | crashed reason => exact absurd (read_eq_crashed_iff.mp hread) (hreply reason)

namespace Session

/-- Failures are borne if the policy says so; without one there is nothing to bear. -/
def Bears (session : Session) (exchanges : List Exchange) : Prop :=
  session.policy = .degrade ∨
    ∀ exchange ∈ exchanges, (exchange.reply.names? session.marker).isSome

theorem bears_nil (session : Session) : session.Bears [] :=
  .inr fun _ hexchange => absurd hexchange List.not_mem_nil

theorem bears_cons (session : Session) (exchange : Exchange) (rest : List Exchange) :
    session.Bears (exchange :: rest) ↔
      (session.policy = .degrade ∨ (exchange.reply.names? session.marker).isSome) ∧
        session.Bears rest := by
  rw [Bears, Bears, List.forall_mem_cons, or_and_left]

variable (session : Session) {respond : List Call → Call → Answer}

theorem error?_answers_iff (hsound : ∀ history call, (respond history call).reply.Sound)
    (history : List Call) {categories : List Category} (hdistinct : categories.Nodup) :
    (∀ category ∈ categories,
        (session.answers respond history categories category).error? session.policy category =
          none) ↔
      session.Bears (Exchange.ofCalls respond history (categories.map session.call)) := by
  induction categories generalizing history with
  | nil => exact iff_of_true (fun _ hmem => absurd hmem List.not_mem_nil) session.bears_nil
  | cons first rest ih =>
      obtain ⟨hnew, hrest⟩ := List.nodup_cons.mp hdistinct
      have hothers (category : Category) (hcategory : category ∈ rest) :
          session.answers respond history (first :: rest) category =
            session.answers respond (history ++ [session.call first]) rest category := by
        have hne : first ≠ category := by
          rintro rfl
          exact hnew hcategory
        exact answers_cons_of_ne session respond history hne rest
      rw [List.map_cons, Exchange.ofCalls, bears_cons, ← ih _ hrest, List.forall_mem_cons,
        answers_cons_self, Reply.error?_read_eq_none_iff (hsound _ _)]
      refine and_congr_right fun _ => forall₂_congr fun category hcategory => ?_
      rw [hothers category hcategory]

/-- **What a step needs.** It comes to something if and only if what became of its queries is
borne. -/
theorem perform_ok_iff_bears (hsound : ∀ history call, (respond history call).reply.Sound)
    (history : List Call) (step : Step) :
    (∃ product, ((session.perform step).run respond history).value.result = .ok product) ↔
      session.Bears (Exchange.ofCalls respond history (session.calls step)) := by
  rw [calls, ← error?_answers_iff session hsound history step.nodup_categories]
  have hperform := session.perform_ok_iff respond history step
  constructor
  · rintro ⟨product, hproduct⟩
    exact ((hperform product.matrices).mp ⟨product, hproduct, rfl⟩).1
  · intro hnone
    obtain ⟨product, hproduct, -⟩ := (hperform _).mpr ⟨hnone, rfl⟩
    exact ⟨product, hproduct⟩

end Session

end SshCompliance
