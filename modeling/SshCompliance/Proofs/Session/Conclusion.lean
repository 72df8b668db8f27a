import SshCompliance.Session.Basic
import SshCompliance.Proofs.AllowList.Judgement

/-!
# What concluding queries does

A query that gave a list makes the list of its category grow, and no other. A query that did not
leaves all lists alone and may end the step. So after a step each list has grown by the reports of
its category that were judged before the step was over, and the matrices of a step are those that
the lists at its start would give, as no category is concluded twice.
-/

namespace SshCompliance

structure Report where
  category : Category
  names : List String
deriving DecidableEq

namespace Report

/-- The names that reports give for a category, as they come. -/
def namesFor (category : Category) (reports : List Report) : List String :=
  (reports.filter (fun report => report.category = category)).flatMap names

theorem namesFor_cons (category : Category) (report : Report) (rest : List Report) :
    namesFor category (report :: rest) =
      (if report.category = category then report.names else []) ++ namesFor category rest := by
  unfold namesFor
  by_cases hsame : report.category = category <;> simp [hsame]

theorem namesFor_append (category : Category) (first second : List Report) :
    namesFor category (first ++ second) = namesFor category first ++ namesFor category second := by
  unfold namesFor
  rw [List.filter_append, List.flatMap_append]

theorem mem_namesFor {category : Category} {reports : List Report} {name : String} :
    name ∈ namesFor category reports ↔
      ∃ report ∈ reports, report.category = category ∧ name ∈ report.names := by
  unfold namesFor
  simp [and_assoc]

end Report

namespace Queried

/-- The error with which a query ends a step, if it does. -/
def error? (policy : FailurePolicy) (category : Category) : Queried → Option Error
  | .listed _ => none
  | .failed error => if policy = .fail then some error else none
  | .crashed reason => some (.queryTask category reason)

/-- The task of the query did not break down. -/
def Sound (queried : Queried) : Prop := ∀ reason, queried ≠ .crashed reason

theorem error?_degrade {queried : Queried} (hsound : queried.Sound) (category : Category) :
    queried.error? .degrade category = none := by
  cases queried with
  | listed names => rfl
  | failed error => rfl
  | crashed reason => exact absurd rfl (hsound reason)

def report? (category : Category) : Queried → Option Report
  | .listed names => some ⟨category, names⟩
  | .failed _ => none
  | .crashed _ => none

/-- The names that a query gave; none if it gave no list. -/
def names : Queried → List String
  | .listed names => names
  | .failed _ => []
  | .crashed _ => []

theorem report?_eq_some_iff {category : Category} {queried : Queried} {report : Report} :
    queried.report? category = some report ↔
      category = report.category ∧ queried = .listed report.names := by
  obtain ⟨reported, names⟩ := report
  cases queried <;> simp [report?]

theorem namesFor_report? (category other : Category) (queried : Queried) :
    Report.namesFor other (queried.report? category).toList =
      if category = other then queried.names else [] := by
  cases queried with
  | listed names =>
      exact (Report.namesFor_cons other ⟨category, names⟩ []).trans (List.append_nil _)
  | failed error => simp [report?, names, Report.namesFor]
  | crashed reason => simp [report?, names, Report.namesFor]

theorem names_of_error {policy : FailurePolicy} {category : Category} {queried : Queried}
    {error : Error} (herror : queried.error? policy category = some error) :
    queried.names = [] := by
  cases queried with
  | listed names => cases herror
  | failed error => rfl
  | crashed reason => rfl

end Queried

namespace Session

/-- The session once names were judged for a category. -/
def learn (session : Session) (category : Category) (names : List String) : Session :=
  { session with
    lists := session.lists.put category ((session.lists.get category).insertAll names) }

theorem get_learn (session : Session) (category other : Category) (names : List String) :
    (session.learn category names).lists.get other =
      (session.lists.get other).insertAll (if category = other then names else []) := by
  by_cases hsame : category = other
  · subst hsame
    simp [learn]
  · simp [learn, hsame, AllowLists.get_put_of_ne (Ne.symm hsame)]

theorem learn_nil (session : Session) (category : Category) :
    session.learn category [] = session := by
  have hlists : session.lists.put category (session.lists.get category) = session.lists := by
    apply AllowLists.ext_get
    intro other
    simpa [learn] using get_learn session category other []
  simp [learn, hlists]

/-- The matrix that a query leads to unless it ends the step. -/
def matrixOf (session : Session) (category : Category) : Queried → Matrix
  | .listed names =>
    let list := session.lists.get category
    { Matrix.ofVerdicts category (names.map list.verdict) with
      missingFromDut := list.names.filter (fun name => !names.contains name) }
  | .failed _ => .unanswered category
  | .crashed _ => .unanswered category

@[simp]
theorem category_matrixOf (session : Session) (category : Category) (queried : Queried) :
    (session.matrixOf category queried).category = category := by
  cases queried <;> rfl

theorem cases_matrixOf (session : Session) (category : Category) (queried : Queried) :
    (session.matrixOf category queried).cases =
      queried.names.map (fun name =>
        Case.ofVerdict category ((session.lists.get category).verdict name)) := by
  cases queried with
  | listed names => simp [matrixOf, Matrix.ofVerdicts, Queried.names, Function.comp_def]
  | failed error => rfl
  | crashed reason => rfl

theorem values_matrixOf (session : Session) (category : Category) (queried : Queried) :
    (session.matrixOf category queried).cases.map (·.value) = queried.names := by
  rw [cases_matrixOf, List.map_map]
  exact List.map_id _

theorem expectation_matrixOf {session : Session} {category : Category} {queried : Queried}
    {item : Case} (hitem : item ∈ (session.matrixOf category queried).cases) :
    item.expectation =
        (if item.value ∈ (session.lists.get category).names then .expected else .expectedFailure) ∧
      (item.reason.isSome ↔ item.expectation = .expectedFailure) := by
  rw [cases_matrixOf] at hitem
  obtain ⟨name, -, rfl⟩ := List.mem_map.mp hitem
  refine ⟨rfl, ?_⟩
  by_cases hmem : name ∈ (session.lists.get category).names <;>
    simp [Case.ofVerdict, AllowList.verdict, hmem]

theorem matrixOf_learn (session : Session) {category other : Category} (hne : category ≠ other)
    (names : List String) (queried : Queried) :
    (session.learn category names).matrixOf other queried = session.matrixOf other queried := by
  have hget : (session.learn category names).lists.get other = session.lists.get other := by
    rw [get_learn, if_neg hne, AllowList.insertAll_nil]
  cases queried with
  | listed reported => simp only [matrixOf, hget]
  | failed error => rfl
  | crashed reason => rfl

/-! ### One query -/

theorem session_conclude (session : Session) (category : Category) (queried : Queried) :
    (session.conclude category queried).session = session.learn category queried.names := by
  cases queried with
  | listed names => simp only [conclude, judge, AllowList.judge_eq, learn, Queried.names]
  | failed error =>
      rw [Queried.names, learn_nil, conclude, forgo]
      cases session.policy <;> rfl
  | crashed reason => rw [Queried.names, learn_nil, conclude]

theorem result_conclude (session : Session) (category : Category) (queried : Queried) :
    (session.conclude category queried).result =
      match queried.error? session.policy category with
      | some error => .error error
      | none => .ok (session.matrixOf category queried) := by
  cases queried with
  | listed names => simp only [conclude, judge, AllowList.judge_eq, matrixOf, Queried.error?]
  | failed error =>
      simp only [conclude, forgo, Queried.error?, matrixOf]
      cases session.policy <;> rfl
  | crashed reason => rfl

/-! ### Several queries -/

/-- The reports that are judged when queries are concluded in the given order: those of the queries
before the first one that ends the step. -/
def judged (session : Session) (answers : Category → Queried) (categories : List Category) :
    List Report :=
  (categories.takeWhile (fun category =>
    ((answers category).error? session.policy category).isNone)).filterMap
      (fun category => (answers category).report? category)

variable {answers : Category → Queried} {session : Session} {category : Category}

theorem judged_cons_of_none (hnone : (answers category).error? session.policy category = none)
    (rest : List Category) :
    session.judged answers (category :: rest) =
      ((answers category).report? category).toList ++ session.judged answers rest := by
  unfold judged
  rw [List.takeWhile_cons_of_pos (by simp [hnone]), List.filterMap_cons]
  cases (answers category).report? category <;> rfl

theorem judged_cons_of_some {error : Error}
    (hsome : (answers category).error? session.policy category = some error)
    (rest : List Category) : session.judged answers (category :: rest) = [] := by
  unfold judged
  rw [List.takeWhile_cons_of_neg (by simp [hsome]), List.filterMap_nil]

theorem judged_append_cons {earlier : List Category} {error : Error}
    (hearlier : ∀ other ∈ earlier, (answers other).error? session.policy other = none)
    (hsome : (answers category).error? session.policy category = some error)
    (later : List Category) :
    session.judged answers (earlier ++ category :: later) =
      earlier.filterMap (fun other => (answers other).report? other) := by
  have hborne (other : Category) (hother : other ∈ earlier) :
      ((answers other).error? session.policy other).isNone = true := by
    rw [hearlier other hother]
    rfl
  unfold judged
  rw [List.takeWhile_append_of_pos hborne, List.takeWhile_cons_of_neg (by simp [hsome]),
    List.append_nil]

theorem mem_judged {categories : List Category} {report : Report}
    (hreport : report ∈ session.judged answers categories) :
    report.category ∈ categories ∧ answers report.category = .listed report.names := by
  obtain ⟨category, hcategory, hsome⟩ := List.mem_filterMap.mp hreport
  obtain ⟨rfl, hanswer⟩ := Queried.report?_eq_some_iff.mp hsome
  exact ⟨(List.takeWhile_sublist _).subset hcategory, hanswer⟩

theorem concludeAll_cons_of_none
    (hnone : (answers category).error? session.policy category = none) (rest : List Category) :
    let others := concludeAll answers (session.learn category (answers category).names) rest
    (concludeAll answers session (category :: rest)).session = others.session ∧
      (concludeAll answers session (category :: rest)).result =
        others.result.map (session.matrixOf category (answers category) :: ·) := by
  simp only [concludeAll, Outcome.andThen, result_conclude, hnone, session_conclude]
  exact ⟨rfl, rfl⟩

theorem concludeAll_cons_of_some {error : Error}
    (hsome : (answers category).error? session.policy category = some error)
    (rest : List Category) :
    (concludeAll answers session (category :: rest)).session = session ∧
      (concludeAll answers session (category :: rest)).result = .error error := by
  have hsession := session_conclude session category (answers category)
  rw [Queried.names_of_error hsome, learn_nil] at hsession
  simp only [concludeAll, Outcome.andThen, result_conclude, hsome, hsession, and_self]

theorem concludeAll_withLists (answers : Category → Queried) (session : Session)
    (categories : List Category) :
    ∃ lists, (concludeAll answers session categories).session = { session with lists } := by
  induction categories generalizing session with
  | nil => exact ⟨session.lists, rfl⟩
  | cons category rest ih =>
      cases herror : (answers category).error? session.policy category with
      | none =>
          rw [(concludeAll_cons_of_none herror rest).1]
          exact ih (session.learn category (answers category).names)
      | some error => exact ⟨session.lists, (concludeAll_cons_of_some herror rest).1⟩

/-- **Growth in one step.** Each list grows by the judged reports of its category. -/
theorem lists_concludeAll (answers : Category → Queried) (session : Session)
    (categories : List Category) (other : Category) :
    (concludeAll answers session categories).session.lists.get other =
      (session.lists.get other).insertAll
        (Report.namesFor other (session.judged answers categories)) := by
  induction categories generalizing session with
  | nil => rfl
  | cons category rest ih =>
      cases herror : (answers category).error? session.policy category with
      | none =>
          let learnt := session.learn category (answers category).names
          let own := if category = other then (answers category).names else []
          let later := Report.namesFor other (session.judged answers rest)
          have hnames :
              Report.namesFor other (session.judged answers (category :: rest)) = own ++ later := by
            rw [judged_cons_of_none herror, Report.namesFor_append, Queried.namesFor_report?]
          calc
            (concludeAll answers session (category :: rest)).session.lists.get other
                = (learnt.lists.get other).insertAll later := by
              rw [(concludeAll_cons_of_none herror rest).1, ih]
              rfl
            _ = ((session.lists.get other).insertAll own).insertAll later := by rw [get_learn]
            _ = (session.lists.get other).insertAll (own ++ later) :=
              (AllowList.insertAll_append _ own later).symm
            _ = _ := by rw [hnames]
      | some error =>
          rw [(concludeAll_cons_of_some herror rest).1, judged_cons_of_some herror]
          rfl

/-- **The result of one step.** The first error ends the step. Without one, every category has the
matrix that the lists at the start of the step lead to. -/
theorem result_concludeAll (answers : Category → Queried) (session : Session)
    {categories : List Category} (hdistinct : categories.Nodup) :
    (concludeAll answers session categories).result =
      match categories.findSome? (fun category =>
        (answers category).error? session.policy category) with
      | some error => .error error
      | none =>
        .ok (categories.map (fun category => session.matrixOf category (answers category))) := by
  induction categories generalizing session with
  | nil => rfl
  | cons category rest ih =>
      obtain ⟨hnew, hrest⟩ := List.nodup_cons.mp hdistinct
      rw [List.findSome?_cons]
      cases herror : (answers category).error? session.policy category with
      | some error => exact (concludeAll_cons_of_some herror rest).2
      | none =>
          -- what is learnt about this category does not show in the matrices of the others
          have hothers : rest.map (fun other =>
              (session.learn category (answers category).names).matrixOf other (answers other)) =
                rest.map (fun other => session.matrixOf other (answers other)) := by
            apply List.map_congr_left
            intro other hother
            have hne : category ≠ other := by
              rintro rfl
              exact hnew hother
            exact session.matrixOf_learn hne _ _
          rw [(concludeAll_cons_of_none herror rest).2, ih _ hrest, hothers]
          cases hfirst : rest.findSome? (fun other =>
              (answers other).error? session.policy other) <;>
            simp only [learn, hfirst] <;> rfl

end Session

end SshCompliance
