import SshCompliance.AllowList.Judgement
import SshCompliance.Proofs.AllowList.Growth

/-!
# A report is judged by the list as it stood

Judging appends names to the very list it judges by. It looks at the names that were there at the
start only, and these do not move, so the judgement is the one that an unchanged copy of the list
would give: name by name, repeats included. The list itself ends up with the novelties of the
report.
-/

namespace SshCompliance.AllowList

/-- The verdict on a name by a list that stays as it is. -/
def verdict (list : AllowList) (name : String) : Verdict where
  name := name
  expectation := if name ∈ list.names then .expected else .expectedFailure

theorem verdict_of_mem {list : AllowList} {name : String} (hmem : name ∈ list.names) :
    list.verdict name = ⟨name, .expected⟩ := by
  unfold verdict
  rw [if_pos hmem]

theorem verdict_of_not_mem {list : AllowList} {name : String} (hnew : name ∉ list.names) :
    list.verdict name = ⟨name, .expectedFailure⟩ := by
  unfold verdict
  rw [if_neg hnew]

/-- The loop is right for every list that has grown from the one it judges by: the first names of
the growing list are those of the unchanged one. -/
theorem judgeWithin_of_grown {base list : AllowList} (hbase : base.names <+: list.names)
    (supported : List String) :
    list.judgeWithin base.size supported =
      ⟨supported.map base.verdict, list.insertAll supported⟩ := by
  induction supported generalizing list with
  | nil => rfl
  | cons name rest ih =>
      have hfrozen : list.names.take base.size = base.names :=
        (List.prefix_iff_eq_take.mp hbase).symm
      rw [judgeWithin, hfrozen, List.map_cons, insertAll_cons]
      by_cases hmem : name ∈ base.names
      · -- a known name is not inserted, and inserting it would change nothing
        rw [if_pos hmem, ih hbase, verdict_of_mem hmem, insert_of_mem (hbase.subset hmem)]
      · have hgrown : base.names <+: (list.insert name).names :=
          hbase.trans (list.prefix_insert name)
        rw [if_neg hmem, ih hgrown, verdict_of_not_mem hmem]

/-- **The judgement of a report.** Each name is judged by the list before the report, and the list
after it is the one before with all names inserted. -/
theorem judge_eq (list : AllowList) (supported : List String) :
    list.judge supported = ⟨supported.map list.verdict, list.insertAll supported⟩ :=
  judgeWithin_of_grown (List.prefix_refl list.names) supported

end SshCompliance.AllowList
