import SshCompliance.Proofs.Session.Separation

/-!
# The two failure policies

A step asks the same under either policy and is told the same. If failures are borne, every step
comes to something: a category whose query failed has a degraded matrix, which holds nothing, while
a device that answered with no names at all has one that is empty but not degraded. If failures are
not borne, the first of them is the result. As long as nothing fails the two policies cannot be told
apart.
-/

namespace SshCompliance

namespace Queried

/-- The error of a query that failed. -/
def failure? : Queried → Option Error
  | .listed _ => none
  | .failed error => some error
  | .crashed _ => none

theorem failure?_eq_some_iff {queried : Queried} {error : Error} :
    queried.failure? = some error ↔ queried = .failed error := by
  cases queried <;> simp [failure?]

theorem error?_fail {queried : Queried} (hsound : queried.Sound) (category : Category) :
    queried.error? .fail category = queried.failure? := by
  cases queried with
  | listed names => rfl
  | failed error => rfl
  | crashed reason => exact absurd rfl (hsound reason)

end Queried

namespace Session

/-- The same session under another failure policy. -/
def under (session : Session) (policy : FailurePolicy) : Session := { session with policy }

variable (session : Session) (respond : List Call → Call → Answer) (history : List Call)

@[simp]
theorem answers_under (policy : FailurePolicy) (categories : List Category) :
    (session.under policy).answers respond history categories =
      session.answers respond history categories := rfl

@[simp]
theorem matrixOf_under (policy : FailurePolicy) (category : Category) (queried : Queried) :
    (session.under policy).matrixOf category queried = session.matrixOf category queried := by
  cases queried <;> rfl

theorem degraded_matrixOf {category : Category} {queried : Queried} (hsound : queried.Sound) :
    (session.matrixOf category queried).degraded = true ↔ ∃ error, queried = .failed error := by
  cases queried with
  | listed names => exact iff_of_false Bool.noConfusion fun ⟨_, hfailed⟩ => nomatch hfailed
  | failed error => exact iff_of_true rfl ⟨error, rfl⟩
  | crashed reason => exact absurd rfl (hsound reason)

theorem matrixOf_of_degraded {category : Category} {queried : Queried}
    (hdegraded : (session.matrixOf category queried).degraded = true) :
    session.matrixOf category queried = .unanswered category := by
  cases queried with
  | listed names => exact Bool.noConfusion hdegraded
  | failed error => rfl
  | crashed reason => rfl

/-! ### Steps under a policy -/

variable {session respond history} {step : Step} {answers : Category → Queried}

theorem result_under_of_none {policy : FailurePolicy}
    (hanswers : session.answers respond history step.categories = answers)
    (hnone : ∀ category ∈ step.categories, (answers category).error? policy category = none) :
    (((session.under policy).perform step).run respond history).value.result =
      .ok (step.product (step.categories.map fun category =>
        session.matrixOf category (answers category))) := by
  subst hanswers
  simpa only [answers_under, matrixOf_under] using
    (session.under policy).result_perform_of_none respond history hnone

theorem lists_under_of_none {policy : FailurePolicy}
    (hanswers : session.answers respond history step.categories = answers)
    (hnone : ∀ category ∈ step.categories, (answers category).error? policy category = none)
    (category : Category) :
    ((session.under policy).next respond history step).lists.get category =
      (session.lists.get category).insertAll
        ((step.categories.filter (· = category)).flatMap fun other => (answers other).names) := by
  subst hanswers
  rw [lists_next, reportsOf]
  exact congrArg _ ((session.under policy).namesFor_judged_of_none hnone)

/-- A step that no query ends under either of two policies comes to the same under both. -/
theorem perform_under_congr {policy other : FailurePolicy}
    (hanswers : session.answers respond history step.categories = answers)
    (hnone : ∀ category ∈ step.categories, (answers category).error? policy category = none)
    (hnoneOther : ∀ category ∈ step.categories, (answers category).error? other category = none) :
    let run := ((session.under policy).perform step).run respond history
    let otherRun := ((session.under other).perform step).run respond history
    run.value.result = otherRun.value.result ∧
      run.value.session.lists = otherRun.value.session.lists := by
  constructor
  · rw [result_under_of_none hanswers hnone, result_under_of_none hanswers hnoneOther]
  · apply AllowLists.ext_get
    intro category
    exact (lists_under_of_none hanswers hnone category).trans
      (lists_under_of_none hanswers hnoneOther category).symm

theorem result_fail_of_find? {first : Category}
    (hanswers : session.answers respond history step.categories = answers)
    (hsound : ∀ category ∈ step.categories, (answers category).Sound)
    (hfirst : step.categories.find? (fun category => (answers category).failure?.isSome) =
      some first) :
    ∃ output, answers first = .failed (.remoteQuery first output) ∧
      (((session.under .fail).perform step).run respond history).value.result =
        .error (.remoteQuery first output) := by
  subst hanswers
  obtain ⟨hsome, earlier, later, hsplit, hearlier⟩ := List.find?_eq_some_iff_append.mp hfirst
  obtain ⟨error, herror⟩ := Option.isSome_iff_exists.mp hsome
  have hfailed := Queried.failure?_eq_some_iff.mp herror
  obtain ⟨output, -, rfl⟩ := Reply.read_eq_failed_iff.mp hfailed
  refine ⟨output, hfailed, (session.under .fail).result_perform_of_some respond history ?_⟩
  refine List.findSome?_eq_some_iff.mpr ⟨earlier, first, later, hsplit, ?_, ?_⟩
  · exact congrArg (Queried.error? .fail first) hfailed
  · intro category hcategory
    have hmem : category ∈ step.categories := by
      rw [hsplit]
      exact List.mem_append_left _ hcategory
    refine (Queried.error?_fail (hsound category hmem) category).trans ?_
    simpa using hearlier category hcategory

variable (session) in
/-- **Policies agree where nothing fails.** Take any session and any step, none of whose queries
crashes. Bearing failures, the step returns one matrix for each of its categories; it is degraded
if and only if the query failed, and then holds nothing. Not bearing them, the step returns the
error of the first query that failed, or, if there is none, what it would return otherwise, and then
it leaves the same lists. -/
theorem policies_agree
    (hsound : ∀ exchange ∈ Exchange.ofCalls respond history (session.calls step),
      exchange.reply.Sound) :
    let answers := session.answers respond history step.categories
    let bearing := ((session.under .degrade).perform step).run respond history
    let strict := ((session.under .fail).perform step).run respond history
    bearing.requests = strict.requests ∧
      (∃ product, bearing.value.result = .ok product ∧
        product.matrices.map (·.category) = step.categories ∧
        ∀ matrix ∈ product.matrices,
          (matrix.degraded = true ↔ ∃ error, answers matrix.category = .failed error) ∧
          (matrix.degraded = true → matrix.cases = [] ∧ matrix.missingFromDut = []) ∧
          (answers matrix.category = .listed [] →
            matrix.degraded = false ∧ matrix.cases = [] ∧
              matrix.missingFromDut = (session.lists.get matrix.category).names)) ∧
      match step.categories.find? (fun category => (answers category).failure?.isSome) with
      | none =>
        strict.value.result = bearing.value.result ∧
          strict.value.session.lists = bearing.value.session.lists
      | some first =>
        ∃ output, answers first = .failed (.remoteQuery first output) ∧
          strict.value.result = .error (.remoteQuery first output) := by
  intro answers bearing strict
  have hanswered (category : Category) (hcategory : category ∈ step.categories) :
      (answers category).Sound :=
    session.sound_answers respond history step.nodup_categories hsound hcategory
  have hborne (category : Category) (hcategory : category ∈ step.categories) :
      (answers category).error? .degrade category = none :=
    Queried.error?_degrade (hanswered category hcategory) category
  obtain ⟨product, hproduct, hmatrices⟩ :=
    ((session.under .degrade).perform_ok_iff respond history step
      (step.categories.map fun category => session.matrixOf category (answers category))).mpr
        ⟨hborne, List.map_congr_left fun category _ => session.matrixOf_under .degrade category _⟩
  refine ⟨?_, ⟨product, hproduct, ?_, fun matrix hmatrix => ?_⟩, ?_⟩
  · have hcalls : (session.under .degrade).calls step = (session.under .fail).calls step := rfl
    rw [requests_perform, requests_perform, hcalls]
  · rw [hmatrices, List.map_map]
    exact (List.map_congr_left fun category _ => category_matrixOf _ _ _).trans (List.map_id _)
  · rw [hmatrices] at hmatrix
    obtain ⟨category, hcategory, rfl⟩ := List.mem_map.mp hmatrix
    rw [category_matrixOf]
    refine ⟨session.degraded_matrixOf (hanswered category hcategory), fun hdegraded => ?_,
      fun hempty => ?_⟩
    · rw [session.matrixOf_of_degraded hdegraded]
      exact ⟨rfl, rfl⟩
    · rw [hempty]
      exact ⟨rfl, rfl, List.filter_eq_self.mpr fun _ _ => rfl⟩
  · cases hfirst : step.categories.find? (fun category => (answers category).failure?.isSome) with
    | none =>
        refine perform_under_congr rfl (fun category hcategory => ?_) hborne
        rw [Queried.error?_fail (hanswered category hcategory)]
        simpa using List.find?_eq_none.mp hfirst category hcategory
    | some first => exact result_fail_of_find? rfl hanswered hfirst

/-- One answer is empty, one query cannot be issued, and one has no marker in its output. -/
theorem policies_agree_of_two_failures :
    let session : Session := ⟨⟨"inventory", "device"⟩, "rc=0 >>", .degrade, .default⟩
    let respond : List Call → Call → Answer := fun _ call =>
      ⟨if call.command = "ssh -Q cipher" then .finished ⟨some 0, "rc=0 >>\n", ""⟩
        else if call.command = "ssh -Q mac" then .refused (.other "no route")
        else .finished ⟨some 0, "curve25519-sha256", ""⟩, []⟩
    let bearing := ((session.under .degrade).perform .all).run respond []
    let strict := ((session.under .fail).perform .all).run respond []
    (∀ exchange ∈ Exchange.ofCalls respond [] (session.calls .all), exchange.reply.Sound) ∧
      (∃ product, bearing.value.result = .ok product ∧
        product.matrices.map (·.category) = Category.all ∧
        ∀ matrix ∈ product.matrices,
          (matrix.degraded = true ↔ matrix.category ≠ .cipher) ∧ matrix.cases = []) ∧
      strict.value.result = .error (.remoteQuery .mac "Other error: no route") := by
  intro session respond bearing strict
  have hsound : ∀ exchange ∈ Exchange.ofCalls respond [] (session.calls .all),
      exchange.reply.Sound := by decide
  obtain ⟨-, ⟨product, hproduct, hcategories, hmatrices⟩, hfirst⟩ := session.policies_agree hsound
  have hfailed (category : Category) :
      (∃ error, session.answers respond [] Step.all.categories category = .failed error) ↔
        category ≠ .cipher := by
    simp only [← Queried.failure?_eq_some_iff, ← Option.isSome_iff_exists]
    cases category <;> decide
  have hempty : session.answers respond [] Step.all.categories .cipher = .listed [] := by decide
  refine ⟨hsound, ⟨product, hproduct, hcategories, fun matrix hmatrix => ?_⟩, ?_⟩
  · obtain ⟨hdegraded, hcases, hlisted⟩ := hmatrices matrix hmatrix
    rw [hfailed] at hdegraded
    refine ⟨hdegraded, ?_⟩
    by_cases hcipher : matrix.category = .cipher
    · exact (hlisted (hcipher ▸ hempty)).2.1
    · exact (hcases (hdegraded.mpr hcipher)).1
  · have hmac : Step.all.categories.find? (fun category =>
        (session.answers respond [] Step.all.categories category).failure?.isSome) = some .mac := by
      decide
    rw [hmac] at hfirst
    obtain ⟨output, houtput, hstrict⟩ := hfirst
    have hrefused : session.answers respond [] Step.all.categories .mac =
        .failed (.remoteQuery .mac "Other error: no route") := by decide
    obtain ⟨-, rfl⟩ := Error.remoteQuery.inj (Queried.failed.inj (houtput.symm.trans hrefused))
    exact hstrict

end Session

end SshCompliance
