import SshCompliance.Proofs.Session.Runs

/-!
# Lists and tags as functions of the history

The lists of a session are determined by the configuration and by the reports that were judged so
far: the configured names come first, then every other name that a report gave, in the order of
first appearance. The tag of a test case follows from the same history. A name is expected if it is
configured or came up in an earlier report for its category, so a name that is new to a session is
an expected failure in one report and expected from then on.
-/

namespace SshCompliance

/-- A name is known for a category if it is configured or if a report for the category gave it. -/
def AllowLists.Known (configured : AllowLists) (reports : List Report) (category : Category)
    (name : String) : Prop :=
  name ∈ (configured.get category).names ∨
    ∃ report ∈ reports, report.category = category ∧ name ∈ report.names

namespace Session

variable (target : Target) (config : Config) (respond : List Call → Call → Answer)
  (history : List Call) (steps : List Step)

/-- **Lists by history.** After any run from a configuration, the list of a category is the
configured one followed by the other names of the reports judged for the category, each once, in the
order of their first appearance. So no name is repeated, the configured names come first, and what a
list held after some of the steps it still holds, in its place, after all of them. -/
theorem names_after_start (category : Category) :
    let start := Session.start target config
    let configured := config.allowLists.get category
    let given := Report.namesFor category (start.reports respond history steps).flatten
    let list := (start.after respond history steps).lists.get category
    list.names = configured.names ++
        (given.filter (fun name => name ∉ configured.names)).eraseDups ∧
      list.names.Nodup ∧ configured.names <+: list.names ∧
      ∀ count, ((start.after respond history (steps.take count)).lists.get category).names <+:
        list.names := by
  intro start configured given list
  have hlist : list = configured.insertAll given :=
    start.lists_after respond history steps category
  refine ⟨?_, list.distinct, ?_, fun count => ?_⟩
  · rw [hlist, AllowList.names_insertAll]
    rfl
  · rw [hlist]
    exact configured.prefix_insertAll given
  · -- the reports of the first steps are the first reports
    let earlier := (start.reports respond history steps).take count
    let later := (start.reports respond history steps).drop count
    have hsplit : given =
        Report.namesFor category earlier.flatten ++ Report.namesFor category later.flatten := by
      rw [← Report.namesFor_append, ← List.flatten_append, List.take_append_drop]
    rw [hlist, hsplit, AllowList.insertAll_append, start.lists_after, start.reports_take]
    exact AllowList.prefix_insertAll _ _

/-! ### Matrices of a run -/

variable {session : Session} {respond} {history} {steps} {index : Nat} {matrix : Matrix}

/-- A matrix of a run comes from the query of its category, judged by the lists before the step. The
report that the step judges for the category, if there is one, is what that query gave. -/
theorem Returns.matrixOf (hreturns : session.Returns respond history steps index matrix) :
    ∃ queried, matrix = (session.after respond history (steps.take index)).matrixOf
        matrix.category queried ∧
      ∀ judged, (session.reports respond history steps)[index]? = some judged →
        ∀ report ∈ judged, report.category = matrix.category → queried.names = report.names := by
  obtain ⟨step, hstep, -, category, -, rfl⟩ := (session.returns_iff respond history).mp hreturns
  refine ⟨_, by rw [category_matrixOf], fun judged hjudged report hreport hcategory => ?_⟩
  rw [reports_getElem?, hstep, Option.map_some] at hjudged
  obtain rfl := Option.some.inj hjudged
  rw [category_matrixOf] at hcategory
  rw [← hcategory]
  exact congrArg Queried.names (mem_judged hreport).2

theorem Returns.expectation (hreturns : session.Returns respond history steps index matrix)
    {item : Case} (hitem : item ∈ matrix.cases) :
    let list := (session.after respond history (steps.take index)).lists.get matrix.category
    item.expectation = (if item.value ∈ list.names then .expected else .expectedFailure) ∧
      (item.reason.isSome ↔ item.expectation = .expectedFailure) := by
  obtain ⟨queried, hmatrix, -⟩ := hreturns.matrixOf
  rw [hmatrix] at hitem
  exact expectation_matrixOf hitem

theorem Returns.values (hreturns : session.Returns respond history steps index matrix)
    {judged : List Report} (hjudged : (session.reports respond history steps)[index]? = some judged)
    {report : Report} (hreport : report ∈ judged) (hcategory : report.category = matrix.category) :
    matrix.cases.map (·.value) = report.names := by
  obtain ⟨queried, hmatrix, hnames⟩ := hreturns.matrixOf
  rw [hmatrix, values_matrixOf, hnames judged hjudged report hreport hcategory]

theorem mem_after_take (session : Session) (respond : List Call → Call → Answer)
    (history : List Call) (steps : List Step) (index : Nat) (category : Category) (name : String) :
    name ∈ ((session.after respond history (steps.take index)).lists.get category).names ↔
      session.lists.Known ((session.reports respond history steps).take index).flatten category
        name := by
  rw [lists_after, AllowList.mem_insertAll, Report.mem_namesFor, reports_take]
  rfl

variable (respond history steps) in
/-- **Tags by history.** In any run from a configuration, a case of a returned matrix is expected if
and only if its name was known before the step, and an expected failure, with a reason, otherwise.
So a name that was not known is an expected failure wherever it stands in the first report that
gives it, and expected in all later matrices of the category. -/
theorem expected_iff_known :
    let start := Session.start target config
    let reports := start.reports respond history steps
    (∀ index matrix, start.Returns respond history steps index matrix → ∀ item ∈ matrix.cases,
      let known := config.allowLists.Known (reports.take index).flatten matrix.category item.value
      (item.expectation = .expected ↔ known) ∧ (item.expectation = .expectedFailure ↔ ¬known) ∧
        (item.reason.isSome ↔ item.expectation = .expectedFailure)) ∧
    ∀ index judged, reports[index]? = some judged → ∀ report ∈ judged, ∀ name ∈ report.names,
      ¬config.allowLists.Known (reports.take index).flatten report.category name →
      (∀ matrix, start.Returns respond history steps index matrix →
        matrix.category = report.category →
        matrix.cases.map (·.value) = report.names ∧
          ∀ item ∈ matrix.cases, item.value = name → item.expectation = .expectedFailure) ∧
      ∀ later matrix, index < later → start.Returns respond history steps later matrix →
        matrix.category = report.category →
        ∀ item ∈ matrix.cases, item.value = name → item.expectation = .expected := by
  intro start reports
  have htag : ∀ index matrix, start.Returns respond history steps index matrix →
      ∀ item ∈ matrix.cases,
        let known :=
          config.allowLists.Known (reports.take index).flatten matrix.category item.value
        (item.expectation = .expected ↔ known) ∧ (item.expectation = .expectedFailure ↔ ¬known) ∧
          (item.reason.isSome ↔ item.expectation = .expectedFailure) := by
    intro index matrix hreturns item hitem known
    obtain ⟨hexpectation, hreason⟩ := hreturns.expectation hitem
    have hknown := mem_after_take start respond history steps index matrix.category item.value
    refine ⟨?_, ?_, hreason⟩
    · rw [hexpectation]
      split
      · next hmem => exact iff_of_true rfl (hknown.mp hmem)
      · next hnew => exact iff_of_false Expectation.noConfusion fun h => hnew (hknown.mpr h)
    · rw [hexpectation]
      split
      · next hmem => exact iff_of_false Expectation.noConfusion fun h => h (hknown.mp hmem)
      · next hnew => exact iff_of_true rfl fun h => hnew (hknown.mpr h)
  refine ⟨htag, fun index judged hjudged report hreport name hname hnew => ⟨?_, ?_⟩⟩
  · intro matrix hreturns hcategory
    refine ⟨hreturns.values hjudged hreport hcategory.symm, fun item hitem hvalue => ?_⟩
    apply (htag index matrix hreturns item hitem).2.1.mpr
    rwa [hvalue, hcategory]
  · intro later matrix hlater hreturns hcategory item hitem hvalue
    apply (htag later matrix hreturns item hitem).1.mpr
    have hearlier : judged ∈ reports.take later := by
      apply List.mem_of_getElem?
      rw [List.getElem?_take_of_lt hlater]
      exact hjudged
    rw [hvalue, hcategory]
    exact Or.inr ⟨report, List.mem_flatten_of_mem hearlier hreport, rfl, hname⟩

/-- A name comes up twice in one report and once more in the next, which a test asks for. -/
theorem expected_iff_known_of_repeats :
    let start := Session.start ⟨"inventory", "device"⟩ Config.default
    let respond : List Call → Call → Answer := fun _ _ =>
      ⟨.finished ⟨some 0, "rc=0 >> umac-64 hmac-sha1 umac-64", ""⟩, []⟩
    let steps : List Step := [.category .mac, .test ["duthost", "enum_dut_ssh_mac"]]
    let report : Report := ⟨.mac, ["umac-64", "hmac-sha1", "umac-64"]⟩
    ∃ first second, start.Returns respond [] steps 0 first ∧
      start.Returns respond [] steps 1 second ∧
      (start.reports respond [] steps)[0]? = some [report] ∧
      ¬AllowLists.default.Known [] .mac "umac-64" ∧
      first.cases.map (·.value) = report.names ∧
      (∀ item ∈ first.cases, item.value = "umac-64" → item.expectation = .expectedFailure) ∧
      (∀ item ∈ second.cases, item.value = "umac-64" → item.expectation = .expected) ∧
      ∀ item ∈ second.cases, item.reason.isSome ↔ item.expectation = .expectedFailure := by
  intro start respond steps report
  let first := start.matrixOf .mac (.listed report.names)
  let second := (start.learn .mac report.names).matrixOf .mac (.listed report.names)
  have hfirst : start.Returns respond [] steps 0 first :=
    (start.returns_iff respond []).mpr
      ⟨.category .mac, rfl, by decide, .mac, by decide, by decide⟩
  have hsecond : start.Returns respond [] steps 1 second :=
    (start.returns_iff respond []).mpr
      ⟨.test ["duthost", "enum_dut_ssh_mac"], rfl, by decide, .mac, by decide, by decide⟩
  have hreports : (start.reports respond [] steps)[0]? = some [report] := by decide
  have hnew : ¬AllowLists.default.Known [] .mac "umac-64" := by
    rintro (hconfigured | ⟨_, hearlier, _⟩)
    · exact absurd hconfigured (by decide)
    · cases hearlier
  obtain ⟨htags, hfirsts⟩ :=
    expected_iff_known ⟨"inventory", "device"⟩ Config.default respond [] steps
  obtain ⟨hthere, hlater⟩ := hfirsts 0 [report] hreports report (List.mem_singleton.mpr rfl)
    "umac-64" (by decide) hnew
  obtain ⟨hvalues, hfailures⟩ := hthere first hfirst rfl
  exact ⟨first, second, hfirst, hsecond, hreports, hnew, hvalues, hfailures,
    hlater 1 second Nat.zero_lt_one hsecond rfl,
    fun item hitem => (htags 1 second hsecond item hitem).2.2⟩

end Session

end SshCompliance
