import SshCompliance.Json.Basic
import Mathlib.Data.List.Perm.Basic

/-!
# Objects read without a type in mind

An object whose members are named apart loses none of them and gains none when it is read without a
type in mind: the members come in another order. What a name is looked up to is then the same.
-/

namespace SshCompliance.Json

theorem putSorted_perm {name : String} (value : Json) {members : List (String × Json)}
    (hfresh : name ∉ members.map Prod.fst) :
    (putSorted name value members).Perm ((name, value) :: members) := by
  induction members with
  | nil => exact .refl _
  | cons first rest ih =>
      obtain ⟨other, old⟩ := first
      simp only [List.map_cons, List.mem_cons, not_or] at hfresh
      rw [putSorted, if_neg hfresh.1]
      split
      · exact .refl _
      · exact ((ih hfresh.2).cons (other, old)).trans (.swap ..)

theorem lookup_eq_some_iff_mem {name : String} {value : Json} {members : List (String × Json)}
    (hdistinct : (members.map Prod.fst).Nodup) :
    members.lookup name = some value ↔ (name, value) ∈ members := by
  induction members with
  | nil => simp
  | cons first rest ih =>
      obtain ⟨other, old⟩ := first
      rw [List.map_cons, List.nodup_cons] at hdistinct
      rw [List.lookup_cons, List.mem_cons]
      by_cases hname : name = other
      · subst hname
        have hrest : (name, value) ∉ rest := fun hmem =>
          hdistinct.1 (List.mem_map.mpr ⟨(name, value), hmem, rfl⟩)
        simp [hrest, eq_comm]
      · have hne : (name == other) = false := beq_false_of_ne hname
        simp [hne, ih hdistinct.2, hname]

theorem lookup_of_perm {first second : List (String × Json)} (hperm : first.Perm second)
    (hdistinct : (first.map Prod.fst).Nodup) (name : String) :
    first.lookup name = second.lookup name := by
  have hsecond : (second.map Prod.fst).Nodup := (hperm.map Prod.fst).nodup hdistinct
  ext value
  rw [lookup_eq_some_iff_mem hdistinct, lookup_eq_some_iff_mem hsecond, hperm.mem_iff]

theorem lookup_map_value (change : Json → Json) (members : List (String × Json)) (name : String) :
    (members.map (Prod.map id change)).lookup name = (members.lookup name).map change := by
  induction members with
  | nil => rfl
  | cons first rest ih =>
      obtain ⟨other, value⟩ := first
      rw [List.map_cons, Prod.map_apply, id_eq, List.lookup_cons, List.lookup_cons]
      cases name == other
      · exact ih
      · rfl

/-- A value as it is read without a type in mind. -/
def settled (levels : Nat) (value : Json) : Json := (value.untypedWithin levels).getD .unreadable

theorem settled_eq {levels : Nat} {value result : Json}
    (hresult : value.untypedWithin levels = some result) : settled levels value = result := by
  rw [settled, hresult, Option.getD_some]

theorem map_fst_map_settled (levels : Nat) (members : List (String × Json)) :
    (members.map (Prod.map id (settled levels))).map Prod.fst = members.map Prod.fst := by
  rw [List.map_map]
  rfl

/-- The members read so far are kept apart from those to come. -/
theorem untypedMembers_perm {levels : Nat} {members sorted : List (String × Json)}
    (hread : ∀ member ∈ members, (member.2.untypedWithin levels).isSome)
    (hdistinct : (members.map Prod.fst ++ sorted.map Prod.fst).Nodup) :
    ∃ result, untypedMembers levels members sorted = some result ∧
      result.Perm (members.map (Prod.map id (settled levels)) ++ sorted) := by
  induction members generalizing sorted with
  | nil => exact ⟨sorted, by rw [untypedMembers], .refl _⟩
  | cons member rest ih =>
      obtain ⟨name, value⟩ := member
      obtain ⟨result, hresult⟩ :=
        Option.isSome_iff_exists.mp (hread (name, value) List.mem_cons_self)
      rw [List.map_cons, List.cons_append, List.nodup_cons, List.mem_append, not_or] at hdistinct
      obtain ⟨⟨hrest, hsorted⟩, hdistinct⟩ := hdistinct
      have hput := putSorted_perm result hsorted
      have hnames : (rest.map Prod.fst ++ (putSorted name result sorted).map Prod.fst).Nodup := by
        refine (((hput.map Prod.fst).append_left _).trans List.perm_middle).symm.nodup ?_
        exact List.nodup_cons.mpr ⟨by simp [hrest, hsorted], hdistinct⟩
      obtain ⟨all, hall, hperm⟩ :=
        ih (fun member hmem => hread member (List.mem_cons_of_mem _ hmem)) hnames
      refine ⟨all, ?_, ?_⟩
      · rw [untypedMembers, hresult]
        exact hall
      · rw [List.map_cons, Prod.map_apply, id_eq, settled_eq hresult, List.cons_append]
        exact hperm.trans ((hput.append_left _).trans List.perm_middle)

/-- **Nothing is lost.** Members that are named apart and can be read each are read together. -/
theorem untypedWithin_object {levels : Nat} {members : List (String × Json)}
    (hread : ∀ member ∈ members, (member.2.untypedWithin levels).isSome)
    (hdistinct : (members.map Prod.fst).Nodup) :
    ∃ result, (object members).untypedWithin (levels + 1) = some (object result) ∧
      result.Perm (members.map (Prod.map id (settled levels))) := by
  have hapart : (members.map Prod.fst ++ ([] : List (String × Json)).map Prod.fst).Nodup := by
    simpa using hdistinct
  obtain ⟨result, hresult, hperm⟩ := untypedMembers_perm hread hapart
  refine ⟨result, ?_, by simpa using hperm⟩
  rw [untypedWithin, hresult]
  rfl

theorem untypedItems_texts (levels : Nat) (texts : List String) :
    untypedItems levels (texts.map .string) = some (texts.map .string) := by
  induction texts with
  | nil => rw [List.map_nil, untypedItems]
  | cons text rest ih => simp [untypedItems, untypedWithin, ih]

end SshCompliance.Json
