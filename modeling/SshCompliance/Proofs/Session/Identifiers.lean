import SshCompliance.Proofs.Session.Separation

/-!
# Identifiers of test cases

The identifier of a case is the parameter of its category with the name in brackets behind it.
Nothing in the name is escaped, so a name may look like the end of one identifier or the start of
another one. Still an identifier can be read back, as no parameter has a bracket: its first bracket
is the one that opens the name. So identifiers differ where categories or names do, and those of a
step repeat exactly where the device repeated a name of one category.
-/

namespace SshCompliance

theorem Category.ofParameter?_parameter (category : Category) :
    ofParameter? category.parameter = some category := by
  cases category <;> decide

theorem Category.bracket_not_mem_parameter (category : Category) :
    '[' ∉ category.parameter.toList := by
  cases category <;> decide

namespace Case

/-- The category and the name that an identifier was made of. -/
def ofId? (id : String) : Option (Category × String) := do
  let opened := id.toList.dropWhile (· ≠ '[')
  let category ← Category.ofParameter? (String.ofList (id.toList.takeWhile (· ≠ '[')))
  some (category, String.ofList opened.tail.dropLast)

/-- **Identifiers are read back.** -/
theorem ofId?_idOf (category : Category) (value : String) :
    ofId? (idOf category value) = some (category, value) := by
  have hchars : (idOf category value).toList =
      category.parameter.toList ++ '[' :: (value.toList ++ [']']) := by
    simp [idOf]
  have hparameter : ∀ c ∈ category.parameter.toList, decide (c ≠ '[') = true := by
    intro c hmem
    rw [decide_eq_true_iff]
    rintro rfl
    exact category.bracket_not_mem_parameter hmem
  have hbefore : (idOf category value).toList.takeWhile (· ≠ '[') = category.parameter.toList := by
    rw [hchars, List.takeWhile_append_of_pos hparameter, List.takeWhile_cons_of_neg (by simp),
      List.append_nil]
  have hopened : (idOf category value).toList.dropWhile (· ≠ '[') =
      '[' :: (value.toList ++ [']']) := by
    rw [hchars, List.dropWhile_append_of_pos hparameter, List.dropWhile_cons_of_neg (by simp)]
  rw [ofId?, hbefore, hopened, String.ofList_toList, Category.ofParameter?_parameter,
    List.tail_cons, List.dropLast_concat, String.ofList_toList]
  rfl

theorem idOf_eq_idOf_iff {category other : Category} {value name : String} :
    idOf category value = idOf other name ↔ category = other ∧ value = name := by
  constructor
  · intro hsame
    have hread := congrArg ofId? hsame
    rw [ofId?_idOf, ofId?_idOf, Option.some_inj] at hread
    exact Prod.mk.inj hread
  · rintro ⟨rfl, rfl⟩
    rfl

theorem idOf_injective : Function.Injective fun tagged : Category × String =>
    idOf tagged.1 tagged.2 := by
  rintro ⟨category, value⟩ ⟨other, name⟩ hsame
  obtain ⟨rfl, rfl⟩ := idOf_eq_idOf_iff.mp hsame
  rfl

end Case

/-- The names of a report, each with the category it was given for. -/
def Report.tagged (report : Report) : List (Category × String) :=
  report.names.map (report.category, ·)

/-- Two lists whose entries repeat at the same places. -/
def RepeatAlike (left : List α) (right : List β) : Prop :=
  left.length = right.length ∧
    ∀ index place : Nat, left[index]? = left[place]? ↔ right[index]? = right[place]?

theorem repeatAlike_map {f : α → β} (hinjective : Function.Injective f) (list : List α) :
    RepeatAlike (list.map f) list := by
  refine ⟨List.length_map f, fun index place => ?_⟩
  rw [List.getElem?_map, List.getElem?_map]
  exact (Option.map_injective hinjective).eq_iff

namespace Matrix

def ids (matrix : Matrix) : List String := matrix.cases.map Case.id

end Matrix

namespace Session

variable (session : Session) (respond : List Call → Call → Answer) (history : List Call)

/-- The identifiers of a matrix are made of what its query gave. -/
theorem ids_matrixOf (category : Category) (queried : Queried) :
    (session.matrixOf category queried).ids = queried.names.map (Case.idOf category) := by
  rw [Matrix.ids, cases_matrixOf, List.map_map]
  rfl

theorem tagged_report? (category : Category) (queried : Queried) :
    (queried.report? category).toList.flatMap Report.tagged = queried.names.map (category, ·) := by
  cases queried <;> simp [Queried.report?, Queried.names, Report.tagged]

/-- When no query ends a step, all its reports are judged. -/
theorem tagged_judged {answers : Category → Queried} {categories : List Category}
    (hnone : ∀ category ∈ categories, (answers category).error? session.policy category = none) :
    (session.judged answers categories).flatMap Report.tagged =
      categories.flatMap fun category => (answers category).names.map (category, ·) := by
  induction categories with
  | nil => rfl
  | cons category rest ih =>
      obtain ⟨hfirst, hrest⟩ := List.forall_mem_cons.mp hnone
      rw [judged_cons_of_none hfirst, List.flatMap_append, tagged_report?, ih hrest,
        List.flatMap_cons]

variable {session} {respond} {history} {step : Step} {product : Product}

/-- The identifiers that a step returns are made of the names that it was given, in their order. -/
theorem ids_perform
    (hproduct : ((session.perform step).run respond history).value.result = .ok product) :
    product.matrices.flatMap Matrix.ids =
      ((session.reportsOf respond history step).flatMap Report.tagged).map
        fun tagged => Case.idOf tagged.1 tagged.2 := by
  obtain ⟨hnone, hmatrices⟩ :=
    (session.perform_ok_iff respond history step product.matrices).mp ⟨product, hproduct, rfl⟩
  rw [← hmatrices, reportsOf, tagged_judged session hnone, List.flatMap_map, List.map_flatMap]
  congr 1
  funext category
  rw [ids_matrixOf, List.map_map]
  rfl

/-- A matrix that a step returns has the verdicts on the names that were given for its category. -/
theorem exists_verdicts_perform
    (hproduct : ((session.perform step).run respond history).value.result = .ok product)
    {matrix : Matrix} (hmatrix : matrix ∈ product.matrices) :
    ∃ verdicts, matrix.cases = (Matrix.ofVerdicts matrix.category verdicts).cases ∧
      verdicts.map Verdict.name =
        Report.namesFor matrix.category (session.reportsOf respond history step) := by
  obtain ⟨hnone, hmatrices⟩ :=
    (session.perform_ok_iff respond history step product.matrices).mp ⟨product, hproduct, rfl⟩
  rw [← hmatrices] at hmatrix
  obtain ⟨category, hcategory, rfl⟩ := List.mem_map.mp hmatrix
  let queried := session.answers respond history step.categories category
  refine ⟨queried.names.map (session.lists.get category).verdict, ?_, ?_⟩
  · rw [category_matrixOf, cases_matrixOf, Matrix.ofVerdicts, List.map_map]
    rfl
  · have hnames : Report.namesFor category (session.reportsOf respond history step) =
        queried.names := by
      rw [reportsOf, session.namesFor_judged_of_none hnone, filter_categories, if_pos hcategory,
        List.flatMap_singleton]
    rw [category_matrixOf, hnames, List.map_map]
    exact List.map_id _

end Session

/-- **Identifiers are unambiguous.** Two cases made from verdicts have one identifier if and only if
they are of one category and have one value, whatever their names are made of. All cases that a step
returns are made so, and their identifiers repeat exactly where the device repeated a name of one
category: within each matrix, and across all matrices of the step. -/
theorem ids_repeat_as_names :
    (∀ (category other : Category) (verdicts others : List Verdict),
      ∀ first ∈ (Matrix.ofVerdicts category verdicts).cases,
      ∀ second ∈ (Matrix.ofVerdicts other others).cases,
        first.id = second.id ↔ category = other ∧ first.value = second.value) ∧
    ∀ (session : Session) (respond : List Call → Call → Answer) (history : List Call) (step : Step)
      (product : Product),
      ((session.perform step).run respond history).value.result = .ok product →
      let reports := session.reportsOf respond history step
      RepeatAlike (product.matrices.flatMap Matrix.ids) (reports.flatMap Report.tagged) ∧
      ∀ matrix ∈ product.matrices,
        RepeatAlike matrix.ids (Report.namesFor matrix.category reports) ∧
        ∃ verdicts, matrix.cases = (Matrix.ofVerdicts matrix.category verdicts).cases := by
  refine ⟨?_, ?_⟩
  · intro category other verdicts others first hfirst second hsecond
    obtain ⟨verdict, -, rfl⟩ := List.mem_map.mp hfirst
    obtain ⟨judged, -, rfl⟩ := List.mem_map.mp hsecond
    exact Case.idOf_eq_idOf_iff
  · intro session respond history step product hproduct reports
    refine ⟨?_, fun matrix hmatrix => ?_⟩
    · rw [Session.ids_perform hproduct]
      exact repeatAlike_map Case.idOf_injective _
    · obtain ⟨verdicts, hcases, hnames⟩ := Session.exists_verdicts_perform hproduct hmatrix
      refine ⟨?_, verdicts, hcases⟩
      have hids : matrix.ids = (Report.namesFor matrix.category reports).map
          (Case.idOf matrix.category) := by
        rw [← hnames, Matrix.ids, hcases, Matrix.ofVerdicts, List.map_map, List.map_map]
        rfl
      rw [hids]
      exact repeatAlike_map (fun _ _ hsame => (Case.idOf_eq_idOf_iff.mp hsame).2) _

/-- The device gives the same names for all categories: one twice, one that is the identifier of the
other in another category, and one that has a bracket more. -/
theorem ids_repeat_as_names_of_brackets :
    let session := Session.start ⟨"inventory", "device"⟩ Config.default
    let respond : List Call → Call → Answer := fun _ _ =>
      ⟨.finished ⟨some 0, "rc=0 >> x enum_dut_ssh_mac[x] x x]", ""⟩, []⟩
    ∃ product, ((session.perform .all).run respond []).value.result = .ok product ∧
      let ids := product.matrices.flatMap Matrix.ids
      ids.length = 12 ∧ ids[0]? = ids[2]? ∧ ids[0]? ≠ ids[3]? ∧ ids[0]? ≠ ids[4]? ∧
      ∀ first ∈ (Matrix.ofVerdicts .mac [⟨"x]", .expected⟩]).cases,
      ∀ second ∈ (Matrix.ofVerdicts .mac [⟨"x", .expected⟩]).cases, first.id ≠ second.id := by
  intro session respond
  obtain ⟨hcases, hsteps⟩ := ids_repeat_as_names
  have hnone : ∀ category ∈ Step.all.categories,
      (session.answers respond [] Step.all.categories category).error? session.policy category =
        none := by decide
  obtain ⟨product, hproduct⟩ :
      ∃ product, ((session.perform .all).run respond []).value.result = .ok product :=
    ⟨_, session.result_perform_of_none respond [] hnone⟩
  obtain ⟨⟨hlength, hrepeat⟩, -⟩ := hsteps session respond [] .all product hproduct
  refine ⟨product, hproduct, hlength.trans (by decide), (hrepeat 0 2).mpr (by decide),
    mt (hrepeat 0 3).mp (by decide), mt (hrepeat 0 4).mp (by decide), ?_⟩
  intro first hfirst second hsecond hsame
  obtain ⟨-, hvalue⟩ := (hcases .mac .mac _ _ first hfirst second hsecond).mp hsame
  rw [List.mem_singleton.mp hfirst, List.mem_singleton.mp hsecond] at hvalue
  exact absurd hvalue (by decide)

end SshCompliance
