import SshCompliance.Proofs.AllowList.Judgement

/-!
# A report in portions

A report may be judged as a whole or in two portions. The list is the same in the end, as it grows
by all that is new in either case. The verdicts on the first portion are the same too. On the second
portion two judgements differ where a name came up in the first portion and was new to the list: the
list knows it by then, while the whole report is judged by the list as it was.
-/

namespace SshCompliance.AllowList

variable (list : AllowList) (first second : List String)

theorem names_judge (supported : List String) :
    (list.judge supported).list.names =
      list.names ++ (supported.filter (fun name => name ∉ list.names)).eraseDups := by
  rw [judge_eq]
  exact list.names_insertAll supported

theorem list_judge_append :
    (list.judge (first ++ second)).list = ((list.judge first).list.judge second).list := by
  simp only [judge_eq, insertAll_append]

theorem verdicts_judge_append :
    (list.judge (first ++ second)).verdicts =
      (list.judge first).verdicts ++ second.map list.verdict := by
  simp only [judge_eq, List.map_append]

/-- A name of the first portion is known afterwards; the verdict on any other stays. -/
theorem verdict_insertAll (name : String) :
    (list.insertAll first).verdict name =
      if name ∈ first then ⟨name, .expected⟩ else list.verdict name := by
  by_cases hfirst : name ∈ first
  · rw [if_pos hfirst]
    exact verdict_of_mem (mem_insertAll.mpr (.inr hfirst))
  · rw [if_neg hfirst]
    by_cases hmem : name ∈ list.names
    · rw [verdict_of_mem hmem]
      exact verdict_of_mem (mem_insertAll.mpr (.inl hmem))
    · have hnew : name ∉ (list.insertAll first).names := by
        intro hgrown
        exact (mem_insertAll.mp hgrown).elim hmem hfirst
      rw [verdict_of_not_mem hmem, verdict_of_not_mem hnew]

/-- Two lists of which one grew into the other disagree on what is new in between. -/
theorem expectation_insertAll_ne_iff (name : String) :
    (list.verdict name).expectation ≠ ((list.insertAll first).verdict name).expectation ↔
      name ∈ first ∧ name ∉ list.names := by
  rw [verdict_insertAll]
  by_cases hfirst : name ∈ first
  · by_cases hmem : name ∈ list.names
    · simp [hfirst, hmem, verdict_of_mem]
    · simp [hfirst, hmem, verdict_of_not_mem]
  · simp [hfirst]

/-- **Judging by a growing list.** The loop gives the verdicts of an unchanged copy of the list,
name by name, and then the list has the names of the report that it lacked, each once, in the order
of their first appearance. So a report may be cut anywhere: the list after both portions is the list
after the whole, and so are the verdicts on the first portion. On the second portion they differ
exactly at the names that the first one has and the list lacked. These are expected when the
portions are judged one after the other, and expected failures when the whole is judged. -/
theorem judge_in_portions (list : AllowList) :
    (∀ supported,
      (list.judge supported).verdicts = supported.map list.verdict ∧
      (list.judge supported).list.names =
        list.names ++ (supported.filter (fun name => name ∉ list.names)).eraseDups) ∧
    ∀ first second,
      let whole := list.judge (first ++ second)
      let early := list.judge first
      let late := early.list.judge second
      late.list = whole.list ∧ whole.verdicts.take first.length = early.verdicts ∧
      ∀ index name, second[index]? = some name →
        ∃ together apart : Expectation,
          whole.verdicts[first.length + index]? = some ⟨name, together⟩ ∧
          late.verdicts[index]? = some ⟨name, apart⟩ ∧
          (together ≠ apart ↔ name ∈ first ∧ name ∉ list.names) ∧
          (together ≠ apart → together = .expectedFailure ∧ apart = .expected) := by
  refine ⟨fun supported => ⟨by rw [judge_eq], list.names_judge supported⟩, ?_⟩
  intro first second whole early late
  have hearly : early.verdicts.length = first.length := by
    simp only [early, judge_eq, List.length_map]
  have hwhole : whole.verdicts = early.verdicts ++ second.map list.verdict :=
    list.verdicts_judge_append first second
  have hlate : late.verdicts = second.map (list.insertAll first).verdict := by
    simp only [late, early, judge_eq]
  refine ⟨(list.list_judge_append first second).symm, ?_, ?_⟩
  · rw [hwhole, ← hearly, List.take_left]
  · intro index name hname
    refine ⟨(list.verdict name).expectation, ((list.insertAll first).verdict name).expectation,
      ?_, ?_, list.expectation_insertAll_ne_iff first name, ?_⟩
    · rw [hwhole, ← hearly, List.getElem?_append_right (Nat.le_add_right _ _),
        Nat.add_sub_cancel_left, List.getElem?_map, hname]
      rfl
    · rw [hlate, List.getElem?_map, hname]
      rfl
    · intro hne
      obtain ⟨hfirst, hnew⟩ := (list.expectation_insertAll_ne_iff first name).mp hne
      rw [verdict_of_not_mem hnew, verdict_insertAll, if_pos hfirst]
      exact ⟨rfl, rfl⟩

/-- A name comes up twice in the first portion and once more in the second, among one that is known
and one that the second portion brings. -/
theorem judge_in_portions_of_repeats :
    let list := ofNames ["aes256-ctr"]
    let first := ["aes128-cbc", "aes256-ctr", "aes128-cbc"]
    let second := ["aes256-ctr", "aes128-cbc", "3des-cbc"]
    second[1]? = some "aes128-cbc" ∧
    ((list.judge first).list.judge second).list = (list.judge (first ++ second)).list ∧
    (list.judge (first ++ second)).verdicts[4]? = some ⟨"aes128-cbc", .expectedFailure⟩ ∧
    ((list.judge first).list.judge second).verdicts[1]? = some ⟨"aes128-cbc", .expected⟩ := by
  intro list first second
  have hname : second[1]? = some "aes128-cbc" := rfl
  obtain ⟨-, hportions⟩ := judge_in_portions list
  obtain ⟨hlist, -, hverdicts⟩ := hportions first second
  obtain ⟨together, apart, htogether, hapart, hdiffer, hsides⟩ := hverdicts 1 "aes128-cbc" hname
  obtain ⟨rfl, rfl⟩ := hsides (hdiffer.mpr (by decide))
  exact ⟨hname, hlist, htogether, hapart⟩

end SshCompliance.AllowList
