import SshCompliance.Json.Decode
import SshCompliance.Proofs.Json.RoundTrip
import SshCompliance.Proofs.Json.Untyped

/-!
# Objects with some members of a record

A record is read member by member, whatever their order; members of other names are passed over, and
they may even be repeated. An object with some of the members of a record gives exactly these.
-/

namespace SshCompliance.Json

/-- An object that has those of the members whose names are given, in any order, and besides them
only members of other names. -/
inductive IsPart (members : List (String × Json)) (given : List String) : Json → Prop
  | object {all : List (String × Json)} (others : List (String × Json))
    (hall : all.Perm (members.filter (fun member => member.1 ∈ given) ++ others))
    (hothers : ∀ other ∈ others, other.1 ∉ members.map Prod.fst ∧ other.2.Textual) :
    IsPart members given (.object all)

variable {members : List (String × Json)} {given : List String} {value : Json}

theorem lookup_filter (members : List (String × Json)) (keep : String → Bool) (name : String) :
    (members.filter (fun member => keep member.1)).lookup name =
      if keep name then members.lookup name else none := by
  induction members with
  | nil => simp
  | cons first rest ih =>
      obtain ⟨other, value⟩ := first
      by_cases hname : name = other
      · subst hname
        cases hkeep : keep name <;> simp [hkeep, ih]
      · have hne : (name == other) = false := beq_false_of_ne hname
        cases hkeep : keep other <;> simp [List.lookup_cons, hkeep, hne, ih]

theorem isPart_self (members : List (String × Json)) :
    IsPart members (members.map Prod.fst) (.object members) := by
  have hall : members.filter (fun member => member.1 ∈ members.map Prod.fst) = members :=
    List.filter_eq_self.mpr fun member hmember => decide_eq_true (List.mem_map_of_mem hmember)
  refine .object [] ?_ (List.forall_mem_nil _)
  rw [hall, List.append_nil]

theorem IsPart.textual (hpart : IsPart members given value)
    (hmembers : ∀ member ∈ members, member.2.Textual) : value.Textual := by
  cases hpart with
  | @object all others hall hothers =>
      refine .object fun member hmember => ?_
      obtain hown | hother := List.mem_append.mp (hall.mem_iff.mp hmember)
      · exact hmembers member (List.mem_filter.mp hown).1
      · exact (hothers member hother).2

/-- **The fields of a part** are those that are given. -/
theorem IsPart.exists_record? {fields : List String} (hpart : IsPart members given value)
    (hfields : members.map Prod.fst = fields) (hdistinct : fields.Nodup) :
    ∃ field, value.record? fields = some field ∧
      ∀ name ∈ fields, field name = if name ∈ given then members.lookup name else none := by
  subst hfields
  cases hpart with
  | @object all others hall hothers =>
      let own := members.filter (fun member => member.1 ∈ given)
      let isField (name : String) : Bool := (members.map Prod.fst).contains name
      have hown : own.filter (fun member => isField member.1) = own := by
        refine List.filter_eq_self.mpr fun member hmember => ?_
        exact List.contains_iff_mem.mpr (List.mem_map_of_mem (List.mem_filter.mp hmember).1)
      have hskipped : others.filter (fun member => isField member.1) = [] := by
        refine List.filter_eq_nil_iff.mpr fun other hother hfield => ?_
        exact (hothers other hother).1 (List.contains_iff_mem.mp hfield)
      have hread : (all.filter fun member => isField member.1).Perm own := by
        have hperm := hall.filter fun member => isField member.1
        rwa [List.filter_append, hown, hskipped, List.append_nil] at hperm
      have hnames : ((all.filter fun member => isField member.1).map Prod.fst).Nodup :=
        (hread.map Prod.fst).nodup_iff.mpr
          (hdistinct.sublist (List.filter_sublist.map Prod.fst))
      refine ⟨fun name => all.lookup name, ?_, fun name hname => ?_⟩
      · rw [Json.record?, List.filter_map]
        exact if_pos hnames
      · calc
          all.lookup name = (all.filter fun member => isField member.1).lookup name := by
            rw [lookup_filter, if_pos (List.contains_iff_mem.mpr hname)]
          _ = own.lookup name := lookup_of_perm hread hnames name
          _ = if name ∈ given then members.lookup name else none := by
            rw [lookup_filter members (fun name => decide (name ∈ given))]
            simp only [decide_eq_true_eq]

/-- A member that is not given has its default. -/
theorem optional?_ite {read : Json → Option α} {value : Json} {result : α}
    (hread : read value = some result) (default : α) (present : Prop) [Decidable present] :
    optional? read default (if present then some value else none) =
      some (if present then result else default) := by
  by_cases hpresent : present <;> simp [hpresent, optional?, hread]

end SshCompliance.Json
