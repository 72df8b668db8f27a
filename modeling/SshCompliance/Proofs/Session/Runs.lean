import SshCompliance.Proofs.Session.Asking

/-!
# Runs of steps

A run performs steps one after the other, whatever their results. The device, the marker and the
policy stay what they were, so the calls of a run and the reports it judges follow from its steps
and the answers alone, without a look at the lists. The lists at the end are those at the start with
all reports inserted, and the result of each step is the one that the session before it gives.
-/

namespace SshCompliance.Session

variable (session : Session) (respond : List Call → Call → Answer) (history : List Call)

def after (steps : List Step) : Session := ((session.performAll steps).run respond history).value.1

def results (steps : List Step) : List (Except Error Product) :=
  ((session.performAll steps).run respond history).value.2

def reportsOf (step : Step) : List Report :=
  session.judged (session.answers respond history step.categories) step.categories

/-- The reports that each step of a run judges. -/
def reports : List Call → List Step → List (List Report)
  | _, [] => []
  | history, step :: rest =>
    session.reportsOf respond history step :: reports (history ++ session.calls step) rest

/-- The step at an index of a run returns the matrix, alone or among others. -/
def Returns (steps : List Step) (index : Nat) (matrix : Matrix) : Prop :=
  ∃ product, (session.results respond history steps)[index]? = some (.ok product) ∧
    matrix ∈ product.matrices

def next (step : Step) : Session := ((session.perform step).run respond history).value.session

/-! ### One step after the other -/

theorem next_withLists (step : Step) :
    ∃ lists, session.next respond history step = { session with lists } := by
  rw [next, (value_perform session respond history step).1]
  exact concludeAll_withLists _ session _

theorem calls_next (step : Step) :
    (session.next respond history step).calls = session.calls := by
  obtain ⟨lists, hlists⟩ := session.next_withLists respond history step
  rw [hlists]
  rfl

theorem lists_next (step : Step) (category : Category) :
    (session.next respond history step).lists.get category =
      (session.lists.get category).insertAll
        (Report.namesFor category (session.reportsOf respond history step)) := by
  rw [next, (value_perform session respond history step).1]
  exact lists_concludeAll _ session _ category

theorem after_nil : session.after respond history [] = session := rfl

theorem after_cons (step : Step) (rest : List Step) :
    session.after respond history (step :: rest) =
      (session.next respond history step).after respond (history ++ session.calls step) rest := by
  simp only [after, performAll, Dialogue.value_bind, Dialogue.value_pure, requests_perform]
  rfl

theorem after_withLists (steps : List Step) :
    ∃ lists, session.after respond history steps = { session with lists } := by
  induction steps generalizing session history with
  | nil => exact ⟨session.lists, rfl⟩
  | cons step rest ih =>
      obtain ⟨lists, hlists⟩ := session.next_withLists respond history step
      rw [after_cons, hlists]
      exact ih { session with lists } (history ++ session.calls step)

theorem results_cons (step : Step) (rest : List Step) :
    session.results respond history (step :: rest) =
      ((session.perform step).run respond history).value.result ::
        (session.next respond history step).results respond (history ++ session.calls step)
          rest := by
  simp only [results, performAll, Dialogue.value_bind, Dialogue.value_pure, requests_perform]
  rfl

theorem reports_withLists (lists : AllowLists) (steps : List Step) :
    { session with lists }.reports respond history steps =
      session.reports respond history steps := by
  induction steps generalizing history with
  | nil => rfl
  | cons step rest ih =>
      rw [reports, reports]
      exact congrArg (session.reportsOf respond history step :: ·)
        (ih (history ++ session.calls step))

/-- **Growth in a run.** Each list grows by all judged reports of its category. -/
theorem lists_after (steps : List Step) (category : Category) :
    (session.after respond history steps).lists.get category =
      (session.lists.get category).insertAll
        (Report.namesFor category (session.reports respond history steps).flatten) := by
  induction steps generalizing session history with
  | nil => rfl
  | cons step rest ih =>
      obtain ⟨lists, hlists⟩ := session.next_withLists respond history step
      have hreports : (session.next respond history step).reports respond
          (history ++ session.calls step) rest =
            session.reports respond (history ++ session.calls step) rest := by
        rw [hlists, reports_withLists]
      let own := Report.namesFor category (session.reportsOf respond history step)
      let later := Report.namesFor category
        (session.reports respond (history ++ session.calls step) rest).flatten
      have hnames : Report.namesFor category
          (session.reports respond history (step :: rest)).flatten = own ++ later := by
        rw [reports, List.flatten_cons, Report.namesFor_append]
      calc
        (session.after respond history (step :: rest)).lists.get category
            = ((session.next respond history step).lists.get category).insertAll later := by
          rw [after_cons, ih, hreports]
        _ = ((session.lists.get category).insertAll own).insertAll later := by
          rw [lists_next]
        _ = (session.lists.get category).insertAll (own ++ later) :=
          (AllowList.insertAll_append _ own later).symm
        _ = _ := by rw [hnames]

/-! ### The steps before an index -/

theorem reports_take (steps : List Step) (count : Nat) :
    session.reports respond history (steps.take count) =
      (session.reports respond history steps).take count := by
  induction steps generalizing history count with
  | nil => simp [reports]
  | cons step rest ih =>
      cases count with
      | zero => rfl
      | succ count => simp only [List.take_succ_cons, reports, ih]

theorem reports_getElem? (steps : List Step) (index : Nat) :
    (session.reports respond history steps)[index]? =
      steps[index]?.map (session.reportsOf respond
        (history ++ (steps.take index).flatMap session.calls)) := by
  induction steps generalizing history index with
  | nil => simp [reports]
  | cons step rest ih =>
      cases index with
      | zero => simp [reports]
      | succ index => simp [reports, ih, List.append_assoc]

/-- The result at an index is the one of the step there, performed by the session that the steps
before it left. -/
theorem results_getElem? (steps : List Step) (index : Nat) :
    (session.results respond history steps)[index]? =
      steps[index]?.map (fun step =>
        (((session.after respond history (steps.take index)).perform step).run respond
          (history ++ (steps.take index).flatMap session.calls)).value.result) := by
  induction steps generalizing session history index with
  | nil => simp [results, performAll]
  | cons step rest ih =>
      cases index with
      | zero => simp [results_cons, after_nil]
      | succ index =>
          rw [results_cons, List.getElem?_cons_succ, ih, calls_next]
          simp only [List.getElem?_cons_succ, List.take_succ_cons, after_cons, List.flatMap_cons,
            List.append_assoc]

theorem after_take_succ {steps : List Step} {index : Nat} {step : Step}
    (hstep : steps[index]? = some step) :
    session.after respond history (steps.take (index + 1)) =
      (session.after respond history (steps.take index)).next respond
        (history ++ (steps.take index).flatMap session.calls) step := by
  induction steps generalizing session history index with
  | nil => simp at hstep
  | cons first rest ih =>
      rw [List.take_succ_cons, after_cons]
      cases index with
      | zero =>
          obtain rfl := Option.some.inj hstep
          simp [after_nil]
      | succ index =>
          rw [List.getElem?_cons_succ] at hstep
          rw [ih _ _ hstep, List.take_succ_cons, after_cons, calls_next, List.flatMap_cons,
            List.append_assoc]

/-- **The matrices of a run.** A step at an index returns a matrix if and only if none of its
queries ends it and the matrix is that of one of its categories, judged by the lists that the steps
before it left. -/
theorem returns_iff {steps : List Step} {index : Nat} {matrix : Matrix} :
    session.Returns respond history steps index matrix ↔
      ∃ step, steps[index]? = some step ∧
        let answers := session.answers respond
          (history ++ (steps.take index).flatMap session.calls) step.categories
        (∀ category ∈ step.categories,
          (answers category).error? session.policy category = none) ∧
        ∃ category ∈ step.categories, matrix =
          (session.after respond history (steps.take index)).matrixOf category
            (answers category) := by
  have hperform := fun step matrices =>
    (session.after respond history (steps.take index)).perform_ok_iff respond
      (history ++ (steps.take index).flatMap session.calls) step matrices
  obtain ⟨lists, hlists⟩ := session.after_withLists respond history (steps.take index)
  unfold Returns
  simp only [results_getElem?, Option.map_eq_some_iff]
  constructor
  · rintro ⟨product, ⟨step, hstep, hresult⟩, hmatrix⟩
    obtain ⟨hnone, hmatrices⟩ := (hperform step _).mp ⟨product, hresult, rfl⟩
    rw [← hmatrices] at hmatrix
    obtain ⟨category, hcategory, rfl⟩ := List.mem_map.mp hmatrix
    rw [hlists] at hnone ⊢
    exact ⟨step, hstep, hnone, category, hcategory, rfl⟩
  · rintro ⟨step, hstep, hnone, category, hcategory, rfl⟩
    obtain ⟨product, hresult, hmatrices⟩ := (hperform step _).mpr ⟨by rwa [hlists], rfl⟩
    refine ⟨product, ⟨step, hstep, hresult⟩, ?_⟩
    rw [hmatrices, hlists]
    exact List.mem_map_of_mem hcategory

end SshCompliance.Session
