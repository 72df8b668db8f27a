import SshCompliance.Matrix
import SshCompliance.Proofs.Json.RoundTrip

/-!
# Printed matrices

A matrix is printed as one record of texts, switches and lists. Which members it has depends on the
matrix, as the reason of a case is left out when there is none; the reader fills in what was left
out, so it gives back every matrix, whatever its texts are and in whichever form it was printed.
-/

namespace SshCompliance

open Json (Textual)

namespace Case

theorem ofJson?_toJson (item : Case) : ofJson? item.toJson = some item := by
  obtain ⟨id, value, expectation, reason⟩ := item
  obtain ⟨member, hrecord, hid, hvalue, hexpected, hreason⟩ :
      ∃ member, (toJson ⟨id, value, expectation, reason⟩).record? fields = some member ∧
        member "id" = some (.string id) ∧
        member "value" = some (.string value) ∧
        member "expectation" = some expectation.toJson ∧
        member "reason" = reason.map .string := by
    cases reason <;> exact ⟨_, rfl, rfl, rfl, rfl, rfl⟩
  simp only [ofJson?, hrecord, hid, hvalue, hexpected, hreason,
    Expectation.ofJson?_toJson, Json.text?, Option.bind_eq_bind, Option.bind_some]
  cases reason <;> rfl

theorem textual_toJson (item : Case) : Textual item.toJson := by
  refine .object fun member hmember => ?_
  rcases List.mem_append.mp hmember with hfixed | hreason
  · simp only [List.mem_cons, List.not_mem_nil, or_false] at hfixed
    rcases hfixed with rfl | rfl | rfl
    · exact .string _
    · exact .string _
    · exact .string _
  · obtain ⟨reason, -, rfl⟩ := List.mem_map.mp hreason
    exact .string reason

end Case

namespace Matrix

theorem ofJson?_toJson (matrix : Matrix) : ofJson? matrix.toJson = some matrix := by
  obtain ⟨category, parameter, cases, missing, degraded⟩ := matrix
  have hcases : Json.list? Case.ofJson? (.array (cases.map Case.toJson)) = some cases :=
    Json.list?_map Case.toJson Case.ofJson?_toJson cases
  have hmissing : Json.texts? (.array (missing.map .string)) = some missing :=
    Json.texts?_map missing
  obtain ⟨member, hrecord, hcategory, hparameter, hlisted, hlacking, hdegraded⟩ :
      ∃ member, (toJson ⟨category, parameter, cases, missing, degraded⟩).record? fields =
          some member ∧
        member "category" = some category.toJson ∧
        member "parameter" = some (.string parameter) ∧
        member "cases" = some (.array (cases.map Case.toJson)) ∧
        member "missing_from_dut" = some (.array (missing.map .string)) ∧
        member "degraded" = some (.bool degraded) :=
    ⟨_, rfl, rfl, rfl, rfl, rfl, rfl⟩
  simp only [ofJson?, hrecord, hcategory, hparameter, hlisted, hlacking, hdegraded, hmissing,
    hcases, Category.ofJson?_toJson, Json.text?, Json.optional?, Json.bool?,
    Option.bind_eq_bind, Option.bind_some]

theorem textual_toJson (matrix : Matrix) : Textual matrix.toJson := by
  refine .object fun member hmember => ?_
  simp only [List.mem_cons, List.not_mem_nil, or_false] at hmember
  rcases hmember with rfl | rfl | rfl | rfl | rfl
  · exact .string _
  · exact .string _
  · refine .array fun item hitem => ?_
    obtain ⟨item, -, rfl⟩ := List.mem_map.mp hitem
    exact item.textual_toJson
  · exact Json.textual_texts _
  · exact .bool _

theorem list?_ofJson? (matrices : List Matrix) :
    Json.list? ofJson? (.array (matrices.map toJson)) = some matrices :=
  Json.list?_map toJson ofJson?_toJson matrices

theorem textual_list (matrices : List Matrix) : Textual (.array (matrices.map toJson)) := by
  refine .array fun item hitem => ?_
  obtain ⟨matrix, -, rfl⟩ := List.mem_map.mp hitem
  exact matrix.textual_toJson

/-- **Matrices come back.** Every matrix and every list of matrices is what its text is read as, for
the compact text and for the pretty one. -/
theorem parse?_bind_ofJson? (matrix : Matrix) (matrices : List Matrix) :
    ((Json.parse? matrix.toJson.compact).bind ofJson? = some matrix ∧
      (Json.parse? matrix.toJson.pretty).bind ofJson? = some matrix) ∧
    ((Json.parse? (Json.array (matrices.map toJson)).compact).bind (Json.list? ofJson?) =
        some matrices ∧
      (Json.parse? (Json.array (matrices.map toJson)).pretty).bind (Json.list? ofJson?) =
        some matrices) := by
  have hone := matrix.textual_toJson
  have hmany := textual_list matrices
  refine ⟨⟨?_, ?_⟩, ?_, ?_⟩
  · rw [Json.parse?_compact hone]
    exact matrix.ofJson?_toJson
  · rw [Json.parse?_pretty hone]
    exact matrix.ofJson?_toJson
  · rw [Json.parse?_compact hmany]
    exact list?_ofJson? matrices
  · rw [Json.parse?_pretty hmany]
    exact list?_ofJson? matrices

end Matrix

end SshCompliance
