import SshCompliance.CommandLine.Run
import SshCompliance.Proofs.Session.Success

/-!
# What a run makes

Each mode is a list of steps of a session. A run makes what these steps return, in order, as long as
none of them ends in an error; it asks nothing after the first that does. So it makes something
exactly if what became of the queries it made is borne.
-/

namespace SshCompliance

namespace CommandLine.Mode

/-- The steps of a session that a mode stands for. -/
def steps : Mode → List Step
  | .parameters declared => [.test declared]
  | .categories chosen => chosen.map .category
  | .all => [.all]

/-- The categories whose matrices a mode asks for. -/
def wanted : Mode → List Category
  | .parameters declared => (Category.ofDeclared? declared).toList
  | .categories chosen => chosen
  | .all => Category.all

end CommandLine.Mode

namespace Session

/-- A run of steps returns something at every step, which is these matrices when put together. -/
def Generates (session : Session) (respond : List Call → Call → Answer) (history : List Call)
    (steps : List Step) (matrices : List Matrix) : Prop :=
  ∃ products : List Product, session.results respond history steps = products.map .ok ∧
    products.flatMap Product.matrices = matrices

theorem Generates.unique {session : Session} {respond : List Call → Call → Answer}
    {history : List Call} {steps : List Step} {first second : List Matrix}
    (hfirst : session.Generates respond history steps first)
    (hsecond : session.Generates respond history steps second) : first = second := by
  obtain ⟨products, hproducts, rfl⟩ := hfirst
  obtain ⟨others, hothers, rfl⟩ := hsecond
  have hsame : products.map (Except.ok : Product → Except Error Product) = others.map .ok :=
    hproducts.symm.trans hothers
  rw [(List.map_inj_right fun _ _ => Except.ok.inj).mp hsame]

end Session

namespace CommandLine

theorem map_eq_ok {result : Except Error α} {change : α → β} {value : β} :
    result.map change = .ok value ↔ ∃ made, result = .ok made ∧ change made = value := by
  cases result <;> simp [Except.map]

variable (session : Session) (respond : List Call → Call → Answer) (history : List Call)

theorem generates_step {step : Step} {product : Product}
    (hproduct : ((session.perform step).run respond history).value.result = .ok product) :
    session.Generates respond history [step] product.matrices := by
  refine ⟨[product], ?_, by simp⟩
  rw [Session.results_cons, hproduct]
  rfl

theorem generates_cons {step : Step} {product : Product} {rest : List Step}
    {matrices : List Matrix}
    (hproduct : ((session.perform step).run respond history).value.result = .ok product)
    (hrest : (session.next respond history step).Generates respond
      (history ++ session.calls step) rest matrices) :
    session.Generates respond history (step :: rest) (product.matrices ++ matrices) := by
  obtain ⟨products, hproducts, rfl⟩ := hrest
  refine ⟨product :: products, ?_, by simp⟩
  rw [Session.results_cons, hproduct, hproducts, List.map_cons]

theorem matrices_category_of_ok {step : Step} {product : Product}
    (hproduct : ((session.perform step).run respond history).value.result = .ok product) :
    product.matrices.map Matrix.category = step.categories := by
  obtain ⟨-, hmatrices⟩ :=
    (session.perform_ok_iff respond history step product.matrices).mp ⟨product, hproduct, rfl⟩
  rw [← hmatrices, List.map_map]
  exact (List.map_congr_left fun category _ => session.category_matrixOf category _).trans
    (List.map_id _)

/-! ### One category after the other -/

theorem perform_category (category : Category) :
    let outcome := ((session.matrixFor category).run respond history).value
    let performed := ((session.perform (.category category)).run respond history).value
    performed.session = outcome.session ∧ performed.result = outcome.result.map .one := by
  simp only [Session.perform, Dialogue.value_bind, Dialogue.value_pure, Outcome.map, and_self]

theorem matricesFor_cons_ok {category : Category} {rest : List Category}
    {matrices : List Matrix} :
    let outcome := ((session.matrixFor category).run respond history).value
    ((matricesFor session (category :: rest)).run respond history).value = .ok matrices ↔
      ∃ matrix others, outcome.result = .ok matrix ∧
        ((matricesFor outcome.session rest).run respond
          (history ++ [session.call category])).value = .ok others ∧
        matrix :: others = matrices := by
  intro outcome
  have hvalue : ((matricesFor session (category :: rest)).run respond history).value =
      outcome.result.bind fun matrix =>
        ((matricesFor outcome.session rest).run respond
          (history ++ [session.call category])).value.map (matrix :: ·) := by
    simp only [matricesFor, Dialogue.value_bind, Session.requests_matrixFor, outcome]
    cases ((session.matrixFor category).run respond history).value.result with
    | error error => rfl
    | ok matrix => simp only [Dialogue.value_bind, Dialogue.value_pure, Except.bind]
  rw [hvalue]
  cases outcome.result with
  | error error => simp [Except.bind]
  | ok matrix => simp [Except.bind, map_eq_ok]

theorem requests_matricesFor_cons (category : Category) (rest : List Category) :
    let outcome := ((session.matrixFor category).run respond history).value
    ((matricesFor session (category :: rest)).run respond history).requests =
      session.call category ::
        match outcome.result with
        | .error _ => []
        | .ok _ =>
          ((matricesFor outcome.session rest).run respond
            (history ++ [session.call category])).requests := by
  simp only [matricesFor, Dialogue.requests_bind, Session.requests_matrixFor,
    List.singleton_append]
  cases ((session.matrixFor category).run respond history).value.result with
  | error error => rfl
  | ok matrix => simp only [Dialogue.requests_bind, Dialogue.requests_pure, List.append_nil]

theorem generates_matricesFor {categories : List Category} {matrices : List Matrix}
    (hmatrices : ((matricesFor session categories).run respond history).value = .ok matrices) :
    session.Generates respond history (categories.map .category) matrices ∧
      matrices.map Matrix.category = categories := by
  induction categories generalizing session history matrices with
  | nil =>
      cases hmatrices
      exact ⟨⟨[], rfl, rfl⟩, rfl⟩
  | cons category rest ih =>
      obtain ⟨matrix, others, hmatrix, hothers, rfl⟩ :=
        (matricesFor_cons_ok session respond history).mp hmatrices
      obtain ⟨hsession, hperformed⟩ := perform_category session respond history category
      rw [hmatrix] at hperformed
      obtain ⟨hgenerates, hcategories⟩ := ih _ _ hothers
      rw [← hsession] at hgenerates
      have hown := matrices_category_of_ok session respond history hperformed
      refine ⟨generates_cons session respond history hperformed hgenerates, ?_⟩
      rw [List.map_cons, hcategories, (List.cons.inj hown).1]

variable {respond}

/-- **What one category after the other needs.** -/
theorem matricesFor_ok_iff_bears
    (hsound : ∀ history call, (respond history call).reply.Sound)
    (categories : List Category) :
    (∃ matrices, ((matricesFor session categories).run respond history).value = .ok matrices) ↔
      session.Bears (Exchange.ofCalls respond history
        ((matricesFor session categories).run respond history).requests) := by
  induction categories generalizing session history with
  | nil => exact iff_of_true ⟨[], rfl⟩ session.bears_nil
  | cons category rest ih =>
      have hresult := session.result_conclude category
        (session.answers respond history [category] category)
      have hsession := session.session_conclude category
        (session.answers respond history [category] category)
      have herror := Reply.error?_read_eq_none_iff (hsound history (session.call category))
        session.policy category session.marker
      rw [← Session.value_matrixFor, Session.answers_cons_self] at hresult hsession
      simp only [matricesFor_cons_ok, requests_matricesFor_cons, Exchange.ofCalls,
        Session.bears_cons, ← herror]
      rw [hresult, hsession]
      cases ((respond history (session.call category)).reply.read category
          session.marker).error? session.policy category with
      | some error => simp
      | none =>
          have hrest := ih (session.learn category ((respond history
            (session.call category)).reply.read category session.marker).names)
            (history ++ [session.call category])
          -- what the session has learnt does not show in what it bears
          refine Iff.trans ⟨?_, ?_⟩ (hrest.trans (and_iff_right rfl).symm)
          · rintro ⟨-, matrix, others, -, hothers, -⟩
            exact ⟨others, hothers⟩
          · rintro ⟨others, hothers⟩
            exact ⟨_, _, others, rfl, hothers, rfl⟩

/-! ### Modes -/

variable (respond)

theorem produce_all :
    let run := (produce session .all).run respond history
    run.value.1 = ((session.perform .all).run respond history).value.result ∧
      run.requests = session.calls .all := by
  simp only [produce, Dialogue.value_bind, Dialogue.value_pure, Dialogue.requests_bind,
    Dialogue.requests_pure, Session.allMatrices, Session.requests_allMatricesInOrder,
    List.append_nil, Session.perform, Outcome.map, Session.calls, Step.categories, and_self]

theorem produce_parameters (declared : List String) :
    let run := (produce session (.parameters declared)).run respond history
    run.value.1 = ((session.perform (.test declared)).run respond history).value.result ∧
      run.requests = session.calls (.test declared) := by
  rw [← Session.requests_perform session respond history]
  simp only [produce, Session.perform, Dialogue.value_bind, Dialogue.requests_bind, Outcome.map,
    Dialogue.value_pure, Dialogue.requests_pure]
  cases ((session.matrixForTest declared).run respond history).value.result with
  | error error => exact ⟨rfl, rfl⟩
  | ok made =>
      cases made with
      | none => exact ⟨rfl, rfl⟩
      | some matrix => exact ⟨rfl, rfl⟩

theorem produce_categories (categories : List Category) :
    let run := (produce session (.categories categories)).run respond history
    let made := (matricesFor session categories).run respond history
    run.value.1 = made.value.map .many ∧ run.requests = made.requests := by
  simp only [produce, Dialogue.value_bind, Dialogue.value_pure, Dialogue.requests_bind,
    Dialogue.requests_pure, List.append_nil, and_self]

/-- **What a mode makes** is what the session generates in its steps. -/
theorem generates_produce {mode : Mode} {product : Product}
    (hproduct : ((produce session mode).run respond history).value.1 = .ok product) :
    session.Generates respond history mode.steps product.matrices ∧
      product.matrices.map Matrix.category = mode.wanted := by
  cases mode with
  | all =>
      rw [(produce_all session respond history).1] at hproduct
      exact ⟨generates_step session respond history hproduct,
        matrices_category_of_ok session respond history hproduct⟩
  | parameters declared =>
      rw [(produce_parameters session respond history declared).1] at hproduct
      exact ⟨generates_step session respond history hproduct,
        matrices_category_of_ok session respond history hproduct⟩
  | categories chosen =>
      rw [(produce_categories session respond history chosen).1] at hproduct
      obtain ⟨matrices, hmade, rfl⟩ := map_eq_ok.mp hproduct
      exact generates_matricesFor session respond history hmade

variable {respond}

/-- **What a mode needs.** It makes something if and only if what became of its queries is borne. -/
theorem produce_ok_iff_bears (hsound : ∀ history call, (respond history call).reply.Sound)
    (mode : Mode) :
    (∃ product, ((produce session mode).run respond history).value.1 = .ok product) ↔
      session.Bears (Exchange.ofCalls respond history
        ((produce session mode).run respond history).requests) := by
  cases mode with
  | all =>
      obtain ⟨hvalue, hrequests⟩ := produce_all session respond history
      rw [hvalue, hrequests]
      exact session.perform_ok_iff_bears hsound history .all
  | parameters declared =>
      obtain ⟨hvalue, hrequests⟩ := produce_parameters session respond history declared
      rw [hvalue, hrequests]
      exact session.perform_ok_iff_bears hsound history (.test declared)
  | categories chosen =>
      obtain ⟨hvalue, hrequests⟩ := produce_categories session respond history chosen
      rw [hvalue, hrequests, ← matricesFor_ok_iff_bears session history hsound]
      constructor
      · rintro ⟨product, hproduct⟩
        obtain ⟨matrices, hmatrices, -⟩ := map_eq_ok.mp hproduct
        exact ⟨matrices, hmatrices⟩
      · rintro ⟨matrices, hmatrices⟩
        exact ⟨.many matrices, map_eq_ok.mpr ⟨matrices, hmatrices, rfl⟩⟩

end CommandLine

end SshCompliance
