import SshCompliance.Proofs.Session.Separation
import Mathlib.Data.List.Perm.Subperm

/-!
# The calls of a run

A run makes the calls of its steps, one step after the other, and these are settled before anything
is answered: no reply adds a call, drops one or sends it elsewhere. A step about one category makes
one call. A test is a step about the first category whose parameter it declares, or nothing at all.
A step about all categories asks for each of them once; should some of its queries never be made,
then it does not come to anything.
-/

namespace SshCompliance

namespace Category

/-- The first category, in the order in which they are tried, whose parameter is declared. -/
def FirstDeclared (declared : List String) (category : Category) : Prop :=
  category.parameter ∈ declared ∧
    ∃ earlier later, all = earlier ++ category :: later ∧
      ∀ other ∈ earlier, other.parameter ∉ declared

variable {declared others : List String} {category : Category}

theorem ofDeclared?_eq_some_iff :
    ofDeclared? declared = some category ↔ FirstDeclared declared category := by
  simp only [ofDeclared?, List.find?_eq_some_iff_append, List.contains_iff_mem, FirstDeclared,
    Bool.not_eq_eq_eq_not, Bool.not_true, Bool.eq_false_iff, ne_eq]

theorem ofDeclared?_eq_none_iff :
    ofDeclared? declared = none ↔ ∀ category : Category, category.parameter ∉ declared := by
  simp only [ofDeclared?, List.find?_eq_none, List.contains_iff_mem]
  exact ⟨fun h category => h category category.mem_all, fun h category _ => h category⟩

/-- Only the declared parameters count, not how often, in which order and with what else they are
declared. -/
theorem ofDeclared?_congr
    (hsame : ∀ category : Category, category.parameter ∈ others ↔ category.parameter ∈ declared) :
    ofDeclared? others = ofDeclared? declared := by
  have hcontains (category : Category) :
      others.contains category.parameter = declared.contains category.parameter := by
    rw [Bool.eq_iff_iff, List.contains_iff_mem, List.contains_iff_mem, hsame]
  simp only [ofDeclared?, hcontains]

end Category

namespace Session

variable (session : Session) (respond : List Call → Call → Answer) (history : List Call)

theorem call_injective : Function.Injective session.call := fun _ _ hsame =>
  Category.command_inj.mp (congrArg Call.command hsame)

theorem perform_test_congr {declared others : List String}
    (hsame : ∀ category : Category, category.parameter ∈ others ↔ category.parameter ∈ declared) :
    session.perform (.test others) = session.perform (.test declared) := by
  simp only [perform, matrixForTest, Category.ofDeclared?_congr hsame]

/-! ### Queries side by side -/

theorem lookup_gather_of_not_mem {categories : List Category} {category : Category}
    (habsent : category ∉ categories) :
    (((session.gather categories).run respond history).value.1).lookup category = none := by
  induction categories generalizing history with
  | nil => rfl
  | cons first rest ih =>
      obtain ⟨hne, hrest⟩ := not_or.mp (mt List.mem_cons.mpr habsent)
      simp only [gather, Dialogue.value_bind, Dialogue.value_pure, List.lookup_cons,
        beq_eq_false_iff_ne.mpr hne]
      exact ih _ hrest

/-- What is never asked counts as crashed, and that is an error under every policy. -/
theorem mem_of_allMatricesInOrder_ok {order : List Category} {matrices : List Matrix}
    (hok : ((session.allMatricesInOrder order).run respond history).value.result = .ok matrices)
    (category : Category) : category ∈ order := by
  by_contra habsent
  have hlookup := session.lookup_gather_of_not_mem respond history habsent
  simp only [allMatricesInOrder, Dialogue.value_bind, Dialogue.value_pure] at hok
  rw [result_concludeAll _ _ (by decide)] at hok
  split at hok
  · cases hok
  · next hnone =>
      have hcrashed := List.findSome?_eq_none_iff.mp hnone category category.mem_all
      rw [hlookup, Option.getD_none] at hcrashed
      cases hcrashed

/-- **Each category at most once.** The queries of a step about everything are made in some order,
and perhaps not all of them are. -/
theorem allMatricesInOrder_asks {order : List Category} (horder : order.Subperm Category.all) :
    let run := (session.allMatricesInOrder order).run respond history
    run.requests = order.map session.call ∧ run.requests.Nodup ∧
      ∀ matrices, run.value.result = .ok matrices → order.Perm Category.all := by
  intro run
  have hdistinct : order.Nodup := by
    obtain ⟨sorted, hperm, hsublist⟩ := horder
    exact hperm.nodup_iff.mp (hsublist.nodup (by decide))
  have hrequests := session.requests_allMatricesInOrder respond history order
  refine ⟨hrequests, ?_, fun matrices hok => ?_⟩
  · rw [hrequests]
    exact hdistinct.map session.call_injective
  · have hall := session.mem_of_allMatricesInOrder_ok respond history hok
    exact (List.perm_ext_iff_of_nodup hdistinct (by decide)).mpr fun category =>
      iff_of_true (hall category) category.mem_all

/-! ### Steps and runs -/

/-- How a step asks, by its kind. A test is compared with the step about its category, and with
tests that declare the same parameters among others. -/
def Asks : Step → Prop
  | .category category =>
    ((session.perform (.category category)).run respond history).requests =
      [⟨session.target, category.command⟩]
  | .test declared =>
    (∀ category, category.FirstDeclared declared →
      session.perform (.test declared) = session.perform (.category category)) ∧
    ((∀ category : Category, category.parameter ∉ declared) →
      let run := (session.perform (.test declared)).run respond history
      run.requests = [] ∧ run.value.result = .ok .nothing ∧ run.value.session = session) ∧
    ∀ others, (∀ category : Category, category.parameter ∈ others ↔ category.parameter ∈ declared) →
      session.perform (.test others) = session.perform (.test declared)
  | .all =>
    ((session.perform .all).run respond history).requests =
      Category.all.map (fun category => ⟨session.target, category.command⟩) ∧
    ∀ order, order.Subperm Category.all →
      let run := (session.allMatricesInOrder order).run respond history
      run.requests = order.map (fun category => ⟨session.target, category.command⟩) ∧
        run.requests.Nodup ∧ ∀ matrices, run.value.result = .ok matrices → order.Perm Category.all

theorem asks (step : Step) : session.Asks respond history step := by
  cases step with
  | category category => exact session.requests_perform respond history (.category category)
  | test declared =>
      refine ⟨fun category hfirst => ?_, fun hnone => ?_, fun others hsame => ?_⟩
      · exact session.perform_test_of_some (Category.ofDeclared?_eq_some_iff.mpr hfirst)
      · rw [session.perform_test_of_none (Category.ofDeclared?_eq_none_iff.mpr hnone)]
        exact ⟨rfl, rfl, rfl⟩
      · exact session.perform_test_congr hsame
  | all =>
      refine ⟨session.requests_perform respond history .all, fun order horder => ?_⟩
      exact session.allMatricesInOrder_asks respond history horder

theorem requests_performAll (steps : List Step) :
    ((session.performAll steps).run respond history).requests = steps.flatMap session.calls := by
  induction steps generalizing session history with
  | nil => rfl
  | cons step rest ih =>
      simp only [performAll, Dialogue.requests_bind, Dialogue.requests_pure, requests_perform,
        List.append_nil, List.flatMap_cons]
      rw [ih, ← next, calls_next]

/-- **The calls of a run** are those of its steps, which no reply has a say in. Each step is
performed by what the steps before it left of the session, with the same device, and asks as its
kind does. -/
theorem performAll_asks (steps : List Step) :
    ((session.performAll steps).run respond history).requests = steps.flatMap session.calls ∧
    ∀ index step, steps[index]? = some step →
      let before := session.after respond history (steps.take index)
      let earlier := history ++ (steps.take index).flatMap session.calls
      let run := (before.perform step).run respond earlier
      (session.results respond history steps)[index]? = some run.value.result ∧
      session.after respond history (steps.take (index + 1)) = run.value.session ∧
      run.requests = session.calls step ∧
      before.target = session.target ∧ before.Asks respond earlier step := by
  refine ⟨session.requests_performAll respond history steps, ?_⟩
  intro index step hstep before earlier run
  obtain ⟨lists, hlists⟩ := session.after_withLists respond history (steps.take index)
  have hbefore : before = { session with lists } := hlists
  refine ⟨?_, session.after_take_succ respond history hstep, ?_, ?_,
    before.asks respond earlier step⟩
  · rw [results_getElem?, hstep]
    rfl
  · have hrequests : run.requests = before.calls step :=
      before.requests_perform respond earlier step
    rw [hrequests, hbefore]
    rfl
  · rw [hbefore]

/-- Under a policy that bears no failures: a step about everything of which the MACs fail, a test
whose parameters stand in another order than they are tried, which fails as well, and one for
nothing. The step about everything also fails if the MACs are never asked about. -/
theorem performAll_asks_of_failures :
    let session := start ⟨"inventory", "device"⟩ { Config.default with onQueryFailure := .fail }
    let respond : List Call → Call → Answer := fun _ call =>
      ⟨if call.command = "ssh -Q mac" then .refused (.other "no route")
        else .finished ⟨some 0, "rc=0 >> aes128-cbc", ""⟩, []⟩
    let declared := ["duthost", "enum_dut_ssh_kex", "enum_dut_ssh_mac", "enum_dut_ssh_kex"]
    let steps : List Step := [.all, .test declared, .test ["ptfhost"], .category .cipher]
    let before := session.after respond [] [.all]
    let later := session.after respond [] [.all, .test declared]
    let failed : Except Error Product := .error (.remoteQuery .mac "Other error: no route")
    ((session.performAll steps).run respond []).requests =
        ["ssh -Q cipher", "ssh -Q mac", "ssh -Q kex", "ssh -Q mac", "ssh -Q cipher"].map
          (Call.mk ⟨"inventory", "device"⟩) ∧
      Category.FirstDeclared declared .mac ∧
      before.perform (.test declared) = before.perform (.category .mac) ∧
      before.perform (.test ["enum_dut_ssh_mac", "enum_dut_ssh_kex"]) =
        before.perform (.test declared) ∧
      session.after respond [] [.all, .test declared, .test ["ptfhost"]] = later ∧
      (∀ matrices, ((session.allMatricesInOrder [.kex, .cipher]).run respond []).value.result ≠
        .ok matrices) ∧
      (session.results respond [] steps).take 3 = [failed, failed, .ok .nothing] := by
  intro session respond declared steps before later failed
  obtain ⟨hrequests, hsteps⟩ := session.performAll_asks respond [] steps
  obtain ⟨-, -, -, -, -, horders⟩ := hsteps 0 .all rfl
  obtain ⟨-, -, -, -, hfirst, -, hothers⟩ := hsteps 1 (.test declared) rfl
  obtain ⟨-, hafter, -, -, -, hnothing, -⟩ := hsteps 2 (.test ["ptfhost"]) rfl
  have hmac : Category.FirstDeclared declared .mac :=
    Category.ofDeclared?_eq_some_iff.mp (by decide)
  have hsame (category : Category) :
      category.parameter ∈ ["enum_dut_ssh_mac", "enum_dut_ssh_kex"] ↔
        category.parameter ∈ declared := by
    cases category <;> decide
  obtain ⟨-, -, hkept⟩ := hnothing (Category.ofDeclared?_eq_none_iff.mp (by decide))
  obtain ⟨-, -, hcomplete⟩ := horders [.kex, .cipher] (by decide)
  have hunasked : ¬[Category.kex, .cipher].Perm Category.all := by decide
  exact ⟨hrequests, hmac, hfirst .mac hmac, hothers _ hsame, hafter.trans hkept,
    fun matrices hok => hunasked (hcomplete matrices hok), by decide⟩

end Session

end SshCompliance
