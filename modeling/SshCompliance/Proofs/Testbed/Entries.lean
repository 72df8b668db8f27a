import SshCompliance.Testbed.Basic
import Mathlib.Data.Finset.Card
import Mathlib.Data.Finset.Dedup

/-!
# The last entry of a name holds

Testbeds that are put together from a list know each name of it once, and under each name the last
testbed of the list that has it.
-/

namespace SshCompliance.Testbeds

variable {testbeds : Testbeds} {testbed : Testbed}

theorem get?_put (name : String) :
    (testbeds.put testbed).get? name =
      if testbed.name = name then some testbed else testbeds.get? name := by
  rw [get?, put, List.find?_append, List.find?_singleton]
  by_cases hname : testbed.name = name
  · subst hname
    have hnone : (testbeds.entries.filter (fun other => other.name ≠ testbed.name)).find?
        (fun other => other.name = testbed.name) = none := List.find?_eq_none.mpr (by simp)
    rw [hnone, Option.none_or, if_pos (decide_eq_true rfl), if_pos rfl]
  · have hother : ∀ other : Testbed,
        (other.name ≠ testbed.name ∧ other.name = name) ↔ other.name = name := fun other =>
      ⟨And.right, fun heq => ⟨fun hsame => hname (hsame.symm.trans heq), heq⟩⟩
    simp only [List.find?_filter, decide_eq_true_eq, hother, hname, if_false, Option.or_none, get?]

theorem ofList_concat (list : List Testbed) :
    ofList (list ++ [testbed]) = (ofList list).put testbed :=
  List.foldl_concat _ _ _ _

/-- **The last one counts.** -/
theorem get?_ofList (list : List Testbed) (name : String) :
    (ofList list).get? name = list.findRev? (fun testbed => testbed.name = name) := by
  rw [List.findRev?_eq_find?_reverse]
  induction list using List.reverseRecOn with
  | nil => rfl
  | append_singleton list testbed ih =>
      rw [ofList_concat, get?_put, ih, List.reverse_append, List.reverse_singleton,
        List.singleton_append, List.find?_cons]
      by_cases hname : testbed.name = name <;> simp [hname]

/-- The last testbed of a name in a list. -/
def IsLast (list : List Testbed) (name : String) (testbed : Testbed) : Prop :=
  testbed.name = name ∧ ∃ earlier later, list = earlier ++ testbed :: later ∧
    ∀ other ∈ later, other.name ≠ name

theorem get?_ofList_eq_some_iff {list : List Testbed} {name : String} :
    (ofList list).get? name = some testbed ↔ IsLast list name testbed := by
  rw [get?_ofList, List.findRev?_eq_find?_reverse, List.find?_eq_some_iff_append, IsLast,
    decide_eq_true_iff]
  refine and_congr_right fun _ => ?_
  constructor
  · rintro ⟨later, earlier, hlist, hlater⟩
    refine ⟨earlier.reverse, later.reverse, List.reverse_injective ?_, fun other hother => ?_⟩
    · simpa using hlist
    · simpa using hlater other (List.mem_reverse.mp hother)
  · rintro ⟨earlier, later, rfl, hlater⟩
    refine ⟨later.reverse, earlier.reverse, by simp, fun other hother => ?_⟩
    simpa using hlater other (List.mem_reverse.mp hother)

theorem get?_ofList_eq_none_iff {list : List Testbed} {name : String} :
    (ofList list).get? name = none ↔ ∀ testbed ∈ list, testbed.name ≠ name := by
  simp [get?_ofList, List.findRev?_eq_find?_reverse]

theorem mem_names_put {name : String} :
    name ∈ (testbeds.put testbed).entries.map Testbed.name ↔
      name ∈ testbeds.entries.map Testbed.name ∨ name = testbed.name := by
  rw [put, List.map_append, List.mem_append, List.map_singleton, List.mem_singleton]
  constructor
  · rintro (hold | hnew)
    · exact .inl ((List.filter_sublist.map Testbed.name).subset hold)
    · exact .inr hnew
  · rintro (hold | hnew)
    · by_cases hname : name = testbed.name
      · exact .inr hname
      · obtain ⟨other, hother, rfl⟩ := List.mem_map.mp hold
        refine .inl (List.mem_map.mpr ⟨other, List.mem_filter.mpr ⟨hother, ?_⟩, rfl⟩)
        exact decide_eq_true hname
    · exact .inr hnew

theorem mem_names_ofList (list : List Testbed) (name : String) :
    name ∈ (ofList list).entries.map Testbed.name ↔ name ∈ list.map Testbed.name := by
  induction list using List.reverseRecOn with
  | nil => rfl
  | append_singleton list testbed ih =>
      rw [ofList_concat, mem_names_put, ih, List.map_append, List.mem_append, List.map_singleton,
        List.mem_singleton]

/-- There are as many testbeds as names. -/
theorem size_ofList (list : List Testbed) :
    (ofList list).size = (list.map Testbed.name).toFinset.card := by
  have hnames : ((ofList list).entries.map Testbed.name).toFinset =
      (list.map Testbed.name).toFinset := by
    ext name
    rw [List.mem_toFinset, List.mem_toFinset, mem_names_ofList]
  rw [← hnames, List.toFinset_card_of_nodup (ofList list).distinct, List.length_map, size]

end SshCompliance.Testbeds
