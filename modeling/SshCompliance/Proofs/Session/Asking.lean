import SshCompliance.Session.Steps
import SshCompliance.Proofs.Device.Query
import SshCompliance.Proofs.Session.Conclusion

/-!
# What a step asks and what it concludes

A step asks about certain categories, one call for each, and concludes what their queries came to.
Which calls these are does not depend on the answers. All kinds of steps are covered by one
statement: the session after a step and the matrices it makes are those of `concludeAll`.
-/

namespace SshCompliance

/-- The categories that a step asks about, in the order in which their queries are concluded. -/
def Step.categories : Step → List Category
  | .category chosen => [chosen]
  | .test declared => (Category.ofDeclared? declared).toList
  | .all => Category.all

theorem Step.nodup_categories (step : Step) : step.categories.Nodup := by
  cases step with
  | category chosen => simp [categories]
  | test declared =>
      cases hdeclared : Category.ofDeclared? declared <;> simp [categories, hdeclared]
  | all => decide

/-- What a step returns, made of the matrices of its categories. -/
def Step.product : Step → List Matrix → Product
  | .category _, matrices => .ofOption matrices.head?
  | .test _, matrices => .ofOption matrices.head?
  | .all, matrices => .many matrices

theorem Step.length_categories_le {step : Step} (hstep : step ≠ .all) :
    step.categories.length ≤ 1 := by
  cases step with
  | category chosen => exact Nat.le_refl 1
  | test declared =>
      rw [categories]
      cases Category.ofDeclared? declared <;> simp
  | all => exact absurd rfl hstep

theorem Step.matrices_product (step : Step) {matrices : List Matrix}
    (hlength : matrices.length = step.categories.length) :
    (step.product matrices).matrices = matrices := by
  have hfew (hle : matrices.length ≤ 1) :
      (Product.ofOption matrices.head?).matrices = matrices := by
    match matrices, hle with
    | [], _ => rfl
    | [_], _ => rfl
  cases step with
  | category chosen => exact hfew (hlength ▸ length_categories_le Step.noConfusion)
  | test declared => exact hfew (hlength ▸ length_categories_le Step.noConfusion)
  | all => rfl

namespace Session

variable (session : Session) (respond : List Call → Call → Answer) (history : List Call)

def call (category : Category) : Call := ⟨session.target, category.command⟩

def calls (step : Step) : List Call := step.categories.map session.call

/-- What the query of a category comes to when the given categories are asked about in turn, after
the calls of `history`. -/
def answers (categories : List Category) (category : Category) : Queried :=
  let before := (categories.takeWhile (· ≠ category)).map session.call
  (respond (history ++ before) (session.call category)).reply.read category session.marker

/-! ### Queries -/

theorem value_query (category : Category) :
    ((query session.target category session.marker).run respond history).value =
      (respond history (session.call category)).reply.read category session.marker :=
  value_run_query session.target category session.marker respond history

theorem requests_query (category : Category) :
    ((query session.target category session.marker).run respond history).requests =
      [session.call category] :=
  requests_run_query session.target category session.marker respond history

theorem answers_cons_self (category : Category) (rest : List Category) :
    session.answers respond history (category :: rest) category =
      (respond history (session.call category)).reply.read category session.marker := by
  simp [answers]

theorem answers_cons_of_ne {category other : Category} (hne : category ≠ other)
    (rest : List Category) :
    session.answers respond history (category :: rest) other =
      session.answers respond (history ++ [session.call category]) rest other := by
  simp [answers, hne]

/-! ### Asking about one category after the other -/

theorem requests_gather (categories : List Category) :
    ((session.gather categories).run respond history).requests =
      categories.map session.call := by
  induction categories generalizing history with
  | nil => rfl
  | cons category rest ih =>
      simp only [gather, Dialogue.requests_bind, Dialogue.requests_silenced,
        Dialogue.requests_pure, requests_query, ih, List.append_nil]
      rfl

theorem lookup_gather {categories : List Category} {category : Category}
    (hmem : category ∈ categories) :
    (((session.gather categories).run respond history).value.1).lookup category =
      some (session.answers respond history categories category) := by
  induction categories generalizing history with
  | nil => cases hmem
  | cons first rest ih =>
      simp only [gather, Dialogue.value_bind, Dialogue.value_pure, Dialogue.value_silenced,
        Dialogue.requests_silenced, value_query, requests_query]
      by_cases hfirst : first = category
      · subst hfirst
        rw [List.lookup_cons_self, answers_cons_self]
      · have hrest : category ∈ rest := (List.mem_cons.mp hmem).resolve_left (Ne.symm hfirst)
        rw [answers_cons_of_ne session respond history hfirst, List.lookup_cons,
          beq_eq_false_iff_ne.mpr (Ne.symm hfirst)]
        exact ih _ hrest

/-! ### Steps -/

theorem value_matrixFor (category : Category) :
    ((session.matrixFor category).run respond history).value =
      session.conclude category (session.answers respond history [category] category) := by
  simp only [matrixFor, Dialogue.value_bind, Dialogue.value_pure, value_query, answers_cons_self]

theorem requests_matrixFor (category : Category) :
    ((session.matrixFor category).run respond history).requests = [session.call category] := by
  simp only [matrixFor, Dialogue.requests_bind, Dialogue.requests_pure, Dialogue.requests_notes,
    requests_query, List.append_nil]

theorem value_allMatricesInOrder {order : List Category} (hall : ∀ category, category ∈ order) :
    let outcome := ((session.allMatricesInOrder order).run respond history).value
    let concluded := concludeAll (session.answers respond history order) session Category.all
    outcome.session = concluded.session ∧ outcome.result = concluded.result := by
  have hanswers : (fun category =>
      ((((session.gather order).run respond history).value.1).lookup category).getD (.crashed "")) =
        session.answers respond history order := by
    funext category
    rw [lookup_gather session respond history (hall category), Option.getD_some]
  simp only [allMatricesInOrder, Dialogue.value_bind, Dialogue.value_pure, hanswers, and_self]

theorem requests_allMatricesInOrder (order : List Category) :
    ((session.allMatricesInOrder order).run respond history).requests =
      order.map session.call := by
  simp only [allMatricesInOrder, Dialogue.requests_bind, Dialogue.requests_pure,
    Dialogue.requests_notes, requests_gather, List.append_nil]

theorem concludeAll_singleton (answers : Category → Queried) (category : Category) :
    let concluded := session.conclude category (answers category)
    (concludeAll answers session [category]).session = concluded.session ∧
      (concludeAll answers session [category]).result = concluded.result.map ([·]) := by
  simp only [concludeAll, Outcome.andThen]
  cases (session.conclude category (answers category)).result <;> exact ⟨rfl, rfl⟩

theorem perform_test_of_none {declared : List String}
    (hnone : Category.ofDeclared? declared = none) :
    session.perform (.test declared) = pure ⟨session, .ok .nothing, [], [], []⟩ := by
  simp only [perform, matrixForTest, hnone, pure_bind]
  rfl

theorem perform_test_of_some {declared : List String} {category : Category}
    (hsome : Category.ofDeclared? declared = some category) :
    session.perform (.test declared) = session.perform (.category category) := by
  have hone : ∀ outcome : Outcome Matrix,
      (outcome.map some).map Product.ofOption = outcome.map .one := by
    intro outcome
    cases hresult : outcome.result <;> simp [Outcome.map, hresult, Except.map, Product.ofOption]
  simp only [perform, matrixForTest, hsome, bind_assoc, pure_bind, hone]

/-- **The calls of a step** are determined before any of them is answered. -/
theorem requests_perform (step : Step) :
    ((session.perform step).run respond history).requests = session.calls step := by
  have hcategory : ∀ chosen, ((session.perform (.category chosen)).run respond history).requests =
      [session.call chosen] := by
    intro chosen
    simp only [perform, Dialogue.requests_bind, Dialogue.requests_pure, requests_matrixFor,
      List.append_nil]
  cases step with
  | category chosen => exact hcategory chosen
  | test declared =>
      rw [calls, Step.categories]
      cases hdeclared : Category.ofDeclared? declared with
      | none =>
          rw [perform_test_of_none session hdeclared]
          rfl
      | some category =>
          rw [perform_test_of_some session hdeclared]
          exact hcategory category
  | all =>
      simp only [perform, allMatrices, Dialogue.requests_bind, Dialogue.requests_pure,
        requests_allMatricesInOrder, List.append_nil]
      rfl

/-- **The conclusion of a step.** Whatever its kind, a step concludes the queries of its categories
in order, up to the first that ends it. -/
theorem value_perform (step : Step) :
    let outcome := ((session.perform step).run respond history).value
    let concluded :=
      concludeAll (session.answers respond history step.categories) session step.categories
    outcome.session = concluded.session ∧ outcome.result = concluded.result.map step.product := by
  have hcategory : ∀ chosen,
      let outcome := ((session.perform (.category chosen)).run respond history).value
      let concluded :=
        concludeAll (session.answers respond history [chosen]) session [chosen]
      outcome.session = concluded.session ∧
        outcome.result = concluded.result.map (Step.category chosen).product := by
    intro chosen
    obtain ⟨hsession, hresult⟩ := concludeAll_singleton session
      (session.answers respond history [chosen]) chosen
    simp only [perform, Dialogue.value_bind, Dialogue.value_pure, value_matrixFor, Outcome.map,
      hsession, hresult, true_and]
    cases (session.conclude chosen (session.answers respond history [chosen] chosen)).result <;>
      rfl
  cases step with
  | category chosen => exact hcategory chosen
  | test declared =>
      rw [Step.categories]
      cases hdeclared : Category.ofDeclared? declared with
      | none =>
          rw [perform_test_of_none session hdeclared]
          exact ⟨rfl, rfl⟩
      | some category =>
          rw [perform_test_of_some session hdeclared]
          exact hcategory category
  | all =>
      obtain ⟨hsession, hresult⟩ :=
        value_allMatricesInOrder session respond history Category.mem_all
      simp only [perform, allMatrices, Dialogue.value_bind, Dialogue.value_pure, Outcome.map,
        Step.categories]
      exact ⟨hsession, congrArg (Except.map Product.many) hresult⟩

theorem result_perform_of_some {step : Step} {error : Error}
    (hfirst : step.categories.findSome? (fun category =>
      (session.answers respond history step.categories category).error? session.policy category) =
        some error) :
    ((session.perform step).run respond history).value.result = .error error := by
  rw [(value_perform session respond history step).2,
    result_concludeAll _ session step.nodup_categories, hfirst]
  rfl

theorem result_perform_of_none {step : Step}
    (hnone : ∀ category ∈ step.categories,
      (session.answers respond history step.categories category).error? session.policy category =
        none) :
    ((session.perform step).run respond history).value.result =
      .ok (step.product (step.categories.map fun category =>
        session.matrixOf category (session.answers respond history step.categories category))) := by
  rw [(value_perform session respond history step).2,
    result_concludeAll _ session step.nodup_categories, List.findSome?_eq_none_iff.mpr hnone]
  rfl

/-- **The matrices of a step.** A step returns something if and only if none of its queries ends it
with an error, and then it returns one matrix for each of its categories. -/
theorem perform_ok_iff (step : Step) (matrices : List Matrix) :
    let answers := session.answers respond history step.categories
    (∃ product, ((session.perform step).run respond history).value.result = .ok product ∧
        product.matrices = matrices) ↔
      (∀ category ∈ step.categories,
        (answers category).error? session.policy category = none) ∧
      step.categories.map (fun category => session.matrixOf category (answers category)) =
        matrices := by
  intro answers
  cases hfirst : step.categories.findSome? (fun category =>
      (answers category).error? session.policy category) with
  | some error =>
      have hresult := session.result_perform_of_some respond history hfirst
      have hsome : ¬∀ category ∈ step.categories,
          (answers category).error? session.policy category = none := by
        intro hnone
        rw [List.findSome?_eq_none_iff.mpr hnone] at hfirst
        cases hfirst
      refine iff_of_false ?_ fun h => hsome h.1
      rintro ⟨product, hproduct, -⟩
      rw [hproduct] at hresult
      cases hresult
  | none =>
      have hnone := List.findSome?_eq_none_iff.mp hfirst
      have hresult := session.result_perform_of_none respond history hnone
      have hlength : (step.categories.map (fun category =>
          session.matrixOf category (answers category))).length = step.categories.length :=
        List.length_map _
      have hmatrices := step.matrices_product hlength
      constructor
      · rintro ⟨product, hproduct, rfl⟩
        rw [hproduct] at hresult
        obtain rfl := Except.ok.inj hresult
        exact ⟨hnone, hmatrices.symm⟩
      · rintro ⟨-, rfl⟩
        exact ⟨_, hresult, hmatrices⟩

end Session

end SshCompliance
