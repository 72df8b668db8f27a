import SshCompliance.AllowList.Basic

/-!
# How an allow-list grows

Inserting names one after the other appends those that the list lacks, each once, in the order of
their first appearance. So a list is always the one it grew from, followed by what is new in all
that was inserted since, whatever the portions were in which the insertions came.
-/

namespace SshCompliance.AllowList

/-- The names that a list lacks, each once, in the order of their first appearance. -/
def novelties (list : AllowList) (names : List String) : List String :=
  (names.filter (fun name => name ∉ list.names)).eraseDups

theorem mem_novelties {list : AllowList} {names : List String} {name : String} :
    name ∈ list.novelties names ↔ name ∈ names ∧ name ∉ list.names := by
  unfold novelties
  rw [List.mem_eraseDups, List.mem_filter, decide_eq_true_iff]

theorem eq_of_names_eq {left right : AllowList} (hnames : left.names = right.names) :
    left = right := by
  cases left
  cases right
  simpa using hnames

theorem insert_of_mem {list : AllowList} {name : String} (hmem : name ∈ list.names) :
    list.insert name = list := by
  apply eq_of_names_eq
  rw [names_insert, if_pos hmem]

theorem prefix_insert (list : AllowList) (name : String) :
    list.names <+: (list.insert name).names := by
  rw [names_insert]
  split
  · exact List.prefix_refl _
  · exact List.prefix_append _ _

@[simp]
theorem insertAll_nil (list : AllowList) : list.insertAll [] = list := rfl

theorem insertAll_cons (list : AllowList) (name : String) (rest : List String) :
    list.insertAll (name :: rest) = (list.insert name).insertAll rest := rfl

theorem insertAll_append (list : AllowList) (first second : List String) :
    list.insertAll (first ++ second) = (list.insertAll first).insertAll second :=
  List.foldl_append

/-- A name that the list has is no novelty, wherever it comes up. -/
theorem novelties_cons_of_mem {list : AllowList} {name : String} (hmem : name ∈ list.names)
    (rest : List String) : list.novelties (name :: rest) = list.novelties rest := by
  unfold novelties
  rw [List.filter_cons_of_neg (by simpa using hmem)]

/-- A name that the list lacks is the first novelty, and none later. -/
theorem novelties_cons_of_not_mem {list : AllowList} {name : String} (hnew : name ∉ list.names)
    (rest : List String) :
    list.novelties (name :: rest) = name :: (list.insert name).novelties rest := by
  have hlater : ∀ other, (decide (other ∉ (list.insert name).names)) =
      (!(other == name) && decide (other ∉ list.names)) := by
    intro other
    by_cases hsame : other = name <;> simp [names_insert, hnew, hsame]
  unfold novelties
  rw [List.filter_cons_of_pos (by simpa using hnew), List.eraseDups_cons, List.filter_filter]
  simp only [hlater]

theorem names_insertAll (list : AllowList) (names : List String) :
    (list.insertAll names).names = list.names ++ list.novelties names := by
  induction names generalizing list with
  | nil => exact (List.append_nil _).symm
  | cons name rest ih =>
      rw [insertAll_cons, ih]
      by_cases hmem : name ∈ list.names
      · rw [insert_of_mem hmem, novelties_cons_of_mem hmem]
      · calc
          (list.insert name).names ++ (list.insert name).novelties rest
              = (list.names ++ [name]) ++ (list.insert name).novelties rest := by
            rw [names_insert, if_neg hmem]
          _ = list.names ++ (name :: (list.insert name).novelties rest) :=
            List.append_assoc list.names [name] _
          _ = list.names ++ list.novelties (name :: rest) := by
            rw [novelties_cons_of_not_mem hmem]

theorem mem_insertAll {list : AllowList} {names : List String} {name : String} :
    name ∈ (list.insertAll names).names ↔ name ∈ list.names ∨ name ∈ names := by
  rw [names_insertAll, List.mem_append, mem_novelties]
  by_cases hmem : name ∈ list.names <;> simp [hmem]

theorem insertAll_eq_self_iff {list : AllowList} {names : List String} :
    list.insertAll names = list ↔ ∀ name ∈ names, name ∈ list.names := by
  constructor
  · intro hsame name hname
    rw [← hsame]
    exact mem_insertAll.mpr (.inr hname)
  · intro hknown
    have hnothing : list.novelties names = [] := by
      apply List.eq_nil_iff_forall_not_mem.mpr
      intro name hname
      obtain ⟨hgiven, hnew⟩ := mem_novelties.mp hname
      exact hnew (hknown name hgiven)
    apply eq_of_names_eq
    rw [names_insertAll, hnothing, List.append_nil]

theorem names_insertAll_of_nodup {list : AllowList} {names : List String}
    (hdistinct : (list.names ++ names).Nodup) :
    (list.insertAll names).names = list.names ++ names := by
  induction names generalizing list with
  | nil => exact (List.append_nil _).symm
  | cons name rest ih =>
      have hnew : name ∉ list.names := fun hmem =>
        (List.nodup_append.mp hdistinct).2.2 name hmem name List.mem_cons_self rfl
      have hnames : (list.insert name).names = list.names ++ [name] := by
        rw [names_insert, if_neg hnew]
      rw [insertAll_cons, ih, hnames, List.append_assoc, List.singleton_append]
      rwa [hnames, List.append_assoc, List.singleton_append]

theorem names_ofNames (names : List String) : (ofNames names).names = names.eraseDups := by
  have hempty : (ofNames names).names = [] ++ empty.novelties names := names_insertAll empty names
  have hall : names.filter (fun name => name ∉ empty.names) = names := by
    rw [List.filter_eq_self]
    intro name _
    exact decide_eq_true List.not_mem_nil
  rw [hempty, List.nil_append, novelties, hall]

theorem ofNames_names (list : AllowList) : ofNames list.names = list :=
  eq_of_names_eq (names_insertAll_of_nodup list.distinct)

theorem prefix_insertAll (list : AllowList) (names : List String) :
    list.names <+: (list.insertAll names).names := by
  rw [names_insertAll]
  exact List.prefix_append _ _

end SshCompliance.AllowList
