import SshCompliance.Proofs.Session.Success

/-!
# Failed steps and their repetition

A step that ends with an error may have judged the answers to earlier queries before. Their matrices
are lost with the step, while the lists keep what they learnt. So a failed step leaves the session
as it was if and only if none of the names that it judged was new, and this is also what it takes
for a repetition to come to what it would have come to in the first place. A step that asks about a
single category has nothing to judge before it fails.
-/

namespace SshCompliance

namespace Session

variable {session : Session} {respond : List Call → Call → Answer} {history : List Call}
  {step : Step}

/-! ### What a failed step has judged -/

theorem exists_failing_of_error {error : Error}
    (herror : ((session.perform step).run respond history).value.result = .error error) :
    let answers := session.answers respond history step.categories
    ∃ earlier failing later, step.categories = earlier ++ failing :: later ∧
      (∀ category ∈ earlier, (answers category).error? session.policy category = none) ∧
      (answers failing).error? session.policy failing = some error ∧
      session.reportsOf respond history step =
        earlier.filterMap (fun category => (answers category).report? category) := by
  intro answers
  cases hfirst : step.categories.findSome? (fun category =>
      (answers category).error? session.policy category) with
  | none =>
      have hnone := List.findSome?_eq_none_iff.mp hfirst
      rw [session.result_perform_of_none respond history hnone] at herror
      cases herror
  | some found =>
      rw [session.result_perform_of_some respond history hfirst] at herror
      obtain rfl := Except.error.inj herror
      obtain ⟨earlier, failing, later, hsplit, hfailing, hearlier⟩ :=
        List.findSome?_eq_some_iff.mp hfirst
      have hjudged : session.reportsOf respond history step =
          session.judged answers (earlier ++ failing :: later) :=
        congrArg (session.judged answers) hsplit
      exact ⟨earlier, failing, later, hsplit, hearlier, hfailing,
        hjudged.trans (judged_append_cons hearlier hfailing later)⟩

/-! ### What it leaves -/

theorem next_eq_self_iff :
    session.next respond history step = session ↔
      ∀ report ∈ session.reportsOf respond history step,
        ∀ name ∈ report.names, name ∈ (session.lists.get report.category).names := by
  have hlists : session.next respond history step = session ↔
      ∀ category, (session.next respond history step).lists.get category =
        session.lists.get category := by
    obtain ⟨lists, hnext⟩ := session.next_withLists respond history step
    rw [hnext]
    constructor
    · intro hsame category
      rw [hsame]
    · intro hsame
      obtain rfl : lists = session.lists := AllowLists.ext_get hsame
      rfl
  simp only [hlists, lists_next, AllowList.insertAll_eq_self_iff, Report.mem_namesFor]
  constructor
  · intro hknown report hreport name hname
    exact hknown report.category name ⟨report, hreport, rfl, hname⟩
  · rintro hknown category name ⟨report, hreport, rfl, hname⟩
    exact hknown report hreport name hname

/-! ### Its repetition -/

/-- All queries get lists. -/
def Answered (session : Session) (respond : List Call → Call → Answer) : Prop :=
  ∀ history call, ((respond history call).reply.names? session.marker).isSome

theorem exists_product_of_names? (session : Session) {answer : Answer} {names : List String}
    (hreply : answer.reply.names? session.marker = some names) (step : Step) :
    ∃ product, ((session.perform step).run (fun _ _ => answer) []).value.result = .ok product ∧
      product.matrices =
        step.categories.map (fun category => session.matrixOf category (.listed names)) := by
  have hanswers (category : Category) :
      session.answers (fun _ _ => answer) [] step.categories category = .listed names :=
    Reply.read_eq_listed_iff.mpr hreply
  apply (session.perform_ok_iff _ _ step _).mpr
  simp only [hanswers]
  exact ⟨fun _ _ => rfl, trivial⟩

/-- What a step returns tells what the lists know of the names that were reported. -/
theorem mem_names_iff_of_result_eq {first second : Session} (hmarker : first.marker = second.marker)
    {answer : Answer} {names : List String}
    (hreply : answer.reply.names? second.marker = some names)
    (hsame : ((first.perform step).run (fun _ _ => answer) []).value.result =
      ((second.perform step).run (fun _ _ => answer) []).value.result)
    {category : Category} (hcategory : category ∈ step.categories) {name : String}
    (hname : name ∈ names) :
    name ∈ (first.lists.get category).names ↔ name ∈ (second.lists.get category).names := by
  have hreplyFirst : answer.reply.names? first.marker = some names := by rw [hmarker, hreply]
  obtain ⟨product, hproduct, hmatrices⟩ := first.exists_product_of_names? hreplyFirst step
  obtain ⟨other, hother, hothers⟩ := second.exists_product_of_names? hreply step
  rw [hsame, hother] at hproduct
  obtain rfl := Except.ok.inj hproduct
  have hmatrix : first.matrixOf category (.listed names) =
      second.matrixOf category (.listed names) :=
    List.map_inj_left.mp (hmatrices.symm.trans hothers) category hcategory
  obtain ⟨item, hitem, rfl⟩ : ∃ item ∈ (first.matrixOf category (.listed names)).cases,
      item.value = name := by
    rw [← List.mem_map, values_matrixOf]
    exact hname
  have hfirst := (expectation_matrixOf hitem).1
  have hsecond := (expectation_matrixOf (hmatrix ▸ hitem)).1
  rw [hfirst] at hsecond
  by_cases hknown : item.value ∈ (first.lists.get category).names <;>
    by_cases hother : item.value ∈ (second.lists.get category).names <;>
      simp [hknown, hother] at hsecond ⊢

/-- A name that was learnt shows when the step is repeated with the reply that gave it. -/
theorem next_eq_self_of_repeat
    (hrepeat : ∀ respond' history', session.Answered respond' →
      (((session.next respond history step).perform step).run respond' history').value.result =
        ((session.perform step).run respond' history').value.result) :
    session.next respond history step = session := by
  apply next_eq_self_iff.mpr
  intro report hreport name hname
  obtain ⟨hcategory, hanswer⟩ := mem_judged hreport
  have hreply := Reply.read_eq_listed_iff.mp hanswer
  have hmarker : (session.next respond history step).marker = session.marker := by
    obtain ⟨lists, hnext⟩ := session.next_withLists respond history step
    rw [hnext]
  have hlearnt : name ∈ ((session.next respond history step).lists.get report.category).names := by
    rw [lists_next]
    exact AllowList.mem_insertAll.mpr
      (.inr (Report.mem_namesFor.mpr ⟨report, hreport, rfl, hname⟩))
  have hsame := hrepeat _ [] fun _ _ => Option.isSome_iff_exists.mpr ⟨_, hreply⟩
  exact (mem_names_iff_of_result_eq hmarker hreply hsame hcategory hname).mp hlearnt

/-- **Failed steps.** When a step ends with an error, the answers to the queries before the failing
one were judged, which is none if the step asks about one category at most, and the lists keep the
names that were new in them. The session is as it was if and only if no name was, and if and only if
the step, repeated with answers that are all good, returns what it would have returned if it had not
been tried before. -/
theorem next_eq_self_iff_of_error {error : Error}
    (herror : ((session.perform step).run respond history).value.result = .error error) :
    let answers := session.answers respond history step.categories
    let after := session.next respond history step
    ∃ earlier failing later, step.categories = earlier ++ failing :: later ∧
      (∀ category ∈ earlier, (answers category).error? session.policy category = none) ∧
      (answers failing).error? session.policy failing = some error ∧
      let judged := earlier.filterMap (fun category => (answers category).report? category)
      (step ≠ .all → judged = []) ∧
      (∀ category, (after.lists.get category).names = (session.lists.get category).names ++
        (session.lists.get category).novelties (Report.namesFor category judged)) ∧
      (after = session ↔ ∀ report ∈ judged, ∀ name ∈ report.names,
        name ∈ (session.lists.get report.category).names) ∧
      (after = session ↔ ∀ respond' history', session.Answered respond' →
        ((after.perform step).run respond' history').value.result =
          ((session.perform step).run respond' history').value.result) := by
  intro answers after
  obtain ⟨earlier, failing, later, hsplit, hearlier, hfailing, hjudged⟩ :=
    exists_failing_of_error herror
  refine ⟨earlier, failing, later, hsplit, hearlier, hfailing, ?_, fun category => ?_, ?_, ?_, ?_⟩
  · intro hstep
    have hfew := Step.length_categories_le hstep
    have hfirst : earlier = [] := by
      rw [hsplit, List.length_append, List.length_cons] at hfew
      exact List.length_eq_zero_iff.mp (by omega)
    rw [hfirst]
    rfl
  · rw [lists_next, AllowList.names_insertAll, hjudged]
  · rw [← hjudged]
    exact next_eq_self_iff
  · intro hsame respond' history' hanswered
    rw [hsame]
  · exact next_eq_self_of_repeat

/-- The ciphers give a known name and a new one, the failure of the MACs is borne, and the task of
the KEX query breaks down. -/
theorem next_eq_self_iff_of_crash :
    let session : Session := ⟨⟨"inventory", "device"⟩, "rc=0 >>", .degrade, .default⟩
    let respond : List Call → Call → Answer := fun _ call =>
      ⟨if call.command = "ssh -Q cipher" then
          .finished ⟨some 0, "rc=0 >> aes128-cbc aes256-ctr", ""⟩
        else if call.command = "ssh -Q mac" then .refused (.other "no route")
        else .crashed "the task panicked", []⟩
    let after := session.next respond [] .all
    ((session.perform .all).run respond []).value.result =
        .error (.other "kex query task failed: the task panicked") ∧
      after ≠ session ∧
      ∃ respond' history', session.Answered respond' ∧
        ((after.perform .all).run respond' history').value.result ≠
          ((session.perform .all).run respond' history').value.result := by
  intro session respond after
  have herror : ((session.perform .all).run respond []).value.result =
      .error (.other "kex query task failed: the task panicked") :=
    session.result_perform_of_some respond [] (by decide)
  obtain ⟨_, _, _, -, -, -, -, -, -, hrepeat⟩ := next_eq_self_iff_of_error herror
  have hchanged : after ≠ session := by decide
  have hdiffers := mt hrepeat.mpr hchanged
  simp only [Classical.not_forall, exists_prop] at hdiffers
  exact ⟨herror, hchanged, hdiffers⟩

/-- **A failed step that leaves its mark.** The ciphers give a new name, and the failure of the MACs
is not borne. When the step is repeated with good answers, the name is expected, which it would not
be without the failed attempt. -/
theorem failed_step_teaches :
    let session := start ⟨"inventory", "device"⟩ { Config.default with onQueryFailure := .fail }
    let ciphers : Reply := .finished ⟨some 0, "rc=0 >> aes128-cbc", ""⟩
    let failing : List Call → Call → Answer := fun _ call =>
      ⟨if call.command = "ssh -Q mac" then .refused (.other "no route") else ciphers, []⟩
    let good : List Call → Call → Answer := fun _ call =>
      ⟨if call.command = "ssh -Q cipher" then ciphers
        else .finished ⟨some 0, "rc=0 >>", ""⟩, []⟩
    let after := session.next failing [] .all
    let tags (result : Except Error Product) : Option (List (List Expectation)) :=
      result.toOption.map fun product => product.matrices.map (·.cases.map (·.expectation))
    ((session.perform .all).run failing []).value.result =
        .error (.remoteQuery .mac "Other error: no route") ∧
      after.lists.get .cipher ≠ session.lists.get .cipher ∧
      tags ((after.perform .all).run good []).value.result = some [[.expected], [], []] ∧
      tags ((session.perform .all).run good []).value.result =
        some [[.expectedFailure], [], []] := by
  intro session ciphers failing good after tags
  exact ⟨session.result_perform_of_some failing [] (by decide), by decide, by decide, by decide⟩

end Session

end SshCompliance
