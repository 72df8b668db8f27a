import SshCompliance.Proofs.Session.Asking

/-!
# The books of an answered query

A query that gives a list leads to a matrix in which nothing is lost. Every reported name has its
case, every name of the allow-list is either expected in some case or reported as missing, and what
the list gains are the names of the expected failures. Missing names, tags and gains all refer to
the list as it was before the query.
-/

namespace SshCompliance

/-- A matrix accounts for the names that a device reported for a category, by the allow-list of the
category as it was before. -/
structure Matrix.AccountsFor (matrix : Matrix) (category : Category) (list : AllowList)
    (reported : List String) : Prop where
  category_eq : matrix.category = category
  parameter_eq : matrix.parameter = category.parameter
  answered : matrix.degraded = false
  /-- Each reported name has its case, in the order of the report. -/
  cases_eq : matrix.cases = reported.map fun name =>
    { id := category.parameter ++ "[" ++ name ++ "]"
      value := name
      expectation := if name ∈ list.names then .expected else .expectedFailure
      reason := if name ∈ list.names then none else
        some "supported by DUT but not on the allow-list" }
  /-- The listed names that were not reported are missing, in the order of the list. -/
  missing_eq : matrix.missingFromDut = list.names.filter (fun name => name ∉ reported)
  /-- A listed name is the value of an expected case or missing, and never both. -/
  balanced : ∀ name ∈ list.names,
    (∃ item ∈ matrix.cases, item.value = name ∧ item.expectation = .expected) ↔
      name ∉ matrix.missingFromDut
  /-- An expected failure is neither listed nor missing. -/
  unlisted : ∀ item ∈ matrix.cases, item.expectation = .expectedFailure →
    item.value ∉ list.names ∧ item.value ∉ matrix.missingFromDut

namespace Session

theorem cases_matrixOf_listed (session : Session) (category : Category) (reported : List String) :
    (session.matrixOf category (.listed reported)).cases = reported.map fun name =>
      { id := category.parameter ++ "[" ++ name ++ "]"
        value := name
        expectation :=
          if name ∈ (session.lists.get category).names then .expected else .expectedFailure
        reason :=
          if name ∈ (session.lists.get category).names then none else some Case.unlisted } := by
  rw [cases_matrixOf]
  refine List.map_congr_left fun name _ => ?_
  by_cases hmem : name ∈ (session.lists.get category).names <;>
    simp [Case.ofVerdict, Case.idOf, AllowList.verdict, hmem]

theorem missing_matrixOf_listed (session : Session) (category : Category)
    (reported : List String) :
    (session.matrixOf category (.listed reported)).missingFromDut =
      (session.lists.get category).names.filter (fun name => name ∉ reported) := by
  refine List.filter_congr fun name _ => ?_
  by_cases hmem : name ∈ reported <;> simp [hmem]

theorem failures_matrixOf_listed (session : Session) (category : Category)
    (reported : List String) :
    ((session.matrixOf category (.listed reported)).expectedFailures).map (·.value) =
      reported.filter (fun name => name ∉ (session.lists.get category).names) := by
  rw [Matrix.expectedFailures, cases_matrixOf_listed, List.filter_map, List.map_map]
  have htag : ∀ name : String,
      ((if name ∈ (session.lists.get category).names then Expectation.expected
          else .expectedFailure) = .expectedFailure) ↔
        name ∉ (session.lists.get category).names := by
    intro name
    by_cases hmem : name ∈ (session.lists.get category).names <;> simp [hmem]
  simp only [Function.comp_def, htag]
  exact List.map_id _

theorem accountsFor_matrixOf (session : Session) (category : Category) (reported : List String) :
    (session.matrixOf category (.listed reported)).AccountsFor category
      (session.lists.get category) reported where
  category_eq := rfl
  parameter_eq := rfl
  answered := rfl
  cases_eq := session.cases_matrixOf_listed category reported
  missing_eq := session.missing_matrixOf_listed category reported
  balanced := by
    intro name hlisted
    rw [missing_matrixOf_listed, cases_matrixOf_listed, List.mem_filter, decide_eq_true_iff]
    constructor
    · rintro ⟨item, hitem, rfl, -⟩ ⟨-, hunreported⟩
      obtain ⟨reportedName, hreported, rfl⟩ := List.mem_map.mp hitem
      exact hunreported hreported
    · intro hnotMissing
      have hreported : name ∈ reported :=
        Decidable.not_not.mp fun hunreported => hnotMissing ⟨hlisted, hunreported⟩
      exact ⟨_, List.mem_map_of_mem hreported, rfl, if_pos hlisted⟩
  unlisted := by
    intro item hitem hfailure
    rw [cases_matrixOf_listed] at hitem
    obtain ⟨name, -, rfl⟩ := List.mem_map.mp hitem
    have hnew : name ∉ (session.lists.get category).names := by
      intro hlisted
      simp [hlisted] at hfailure
    refine ⟨hnew, fun hmissing => ?_⟩
    rw [missing_matrixOf_listed] at hmissing
    exact hnew (List.mem_filter.mp hmissing).1

variable {session : Session} {respond : List Call → Call → Answer} {history : List Call}
  {category : Category}

/-- **The books balance.** A query that gives a list leads to a matrix that accounts for it by the
list of the category as it was. That list then has the values of the expected failures behind it,
each once, in the order of their first appearance, and the lists of the other categories stay. -/
theorem matrixFor_accounts {reported : List String}
    (hlisted : ((query session.target category session.marker).run respond history).value =
      .listed reported) :
    let outcome := ((session.matrixFor category).run respond history).value
    ∃ matrix, outcome.result = .ok matrix ∧
      matrix.AccountsFor category (session.lists.get category) reported ∧
      (outcome.session.lists.get category).names = (session.lists.get category).names ++
        (matrix.expectedFailures.map (·.value)).eraseDups ∧
      ∀ other, other ≠ category → outcome.session.lists.get other = session.lists.get other := by
  intro outcome
  have houtcome : outcome = session.conclude category (.listed reported) := by
    rw [← hlisted, value_query, ← answers_cons_self session respond history category []]
    exact value_matrixFor session respond history category
  have hresult : outcome.result = .ok (session.matrixOf category (.listed reported)) := by
    rw [houtcome]
    exact result_conclude session category (.listed reported)
  have hsession : outcome.session = session.learn category reported := by
    rw [houtcome]
    exact session_conclude session category (.listed reported)
  refine ⟨_, hresult, session.accountsFor_matrixOf category reported, ?_, fun other hother => ?_⟩
  · rw [hsession, get_learn, if_pos rfl, AllowList.names_insertAll, failures_matrixOf_listed]
    rfl
  · rw [hsession, get_learn, if_neg (Ne.symm hother), AllowList.insertAll_nil]

/-- A report with repeated names, by a list of which one name is missing. -/
theorem matrixFor_accounts_of_repeats :
    let session : Session := ⟨⟨"inventory", "device"⟩, "rc=0 >>", .fail, .default⟩
    let respond : List Call → Call → Answer := fun _ _ =>
      ⟨.finished ⟨some 0,
        "rc=0 >>\nhmac-sha1 hmac-sha2-256-etm@openssh.com\numac-64 hmac-sha1\n", ""⟩, []⟩
    let reported := ["hmac-sha1", "hmac-sha2-256-etm@openssh.com", "umac-64", "hmac-sha1"]
    let outcome := ((session.matrixFor .mac).run respond []).value
    ((query session.target .mac session.marker).run respond []).value = .listed reported ∧
      ∃ matrix, outcome.result = .ok matrix ∧
        matrix.AccountsFor .mac (session.lists.get .mac) reported ∧
        matrix.cases.map (·.id) = ["enum_dut_ssh_mac[hmac-sha1]",
          "enum_dut_ssh_mac[hmac-sha2-256-etm@openssh.com]", "enum_dut_ssh_mac[umac-64]",
          "enum_dut_ssh_mac[hmac-sha1]"] ∧
        (outcome.session.lists.get .mac).names = (session.lists.get .mac).names ++
          (matrix.expectedFailures.map (·.value)).eraseDups ∧
        outcome.session.lists.get .kex = session.lists.get .kex := by
  intro session respond reported outcome
  have hlisted : ((query session.target .mac session.marker).run respond []).value =
      .listed reported := by decide
  obtain ⟨matrix, hresult, haccounts, hnames, hothers⟩ := matrixFor_accounts hlisted
  exact ⟨hlisted, matrix, hresult, haccounts,
    (congrArg (List.map Case.id) haccounts.cases_eq).trans (by decide), hnames,
    hothers .kex (by decide)⟩

end Session

end SshCompliance
