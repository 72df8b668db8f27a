import SshCompliance.Json.Decode
import SshCompliance.Proofs.Json.Reading
import Mathlib.Data.List.Forall2

/-!
# What is printed is read back

Both printed forms of a value without numbers are read as that value. They differ in the blanks
between the parts only, so one argument serves for both: a list of parts with commas between them
is read as the list, if each part is read as what it stands for.
-/

namespace SshCompliance.Json

/-- Values that are made without numbers, and readable throughout. -/
inductive Textual : Json → Prop
  | null : Textual .null
  | bool (value : Bool) : Textual (.bool value)
  | string (text : String) : Textual (.string text)
  | array {items : List Json} (hitems : ∀ item ∈ items, Textual item) : Textual (.array items)
  | object {members : List (String × Json)} (hmembers : ∀ member ∈ members, Textual member.2) :
    Textual (.object members)

theorem blank_nil : Blank [] := fun _ hmem => absurd hmem List.not_mem_nil

theorem blank_space : Blank [' '] := by
  intro c hmem
  rw [List.mem_singleton.mp hmem]
  rfl

theorem blank_newLine (depth : Nat) : Blank (newLine depth) := by
  intro c hmem
  rcases List.mem_cons.mp hmem with rfl | hspace
  · rfl
  · rw [List.eq_of_mem_replicate hspace]
    rfl

/-! ### Parts with commas between them -/

section

variable (write : Json → List Char) {gap lead : List Char}

theorem readsItems_joined (hgap : Blank gap) (item : Json) (rest : List Json)
    (hreads : ∀ value ∈ item :: rest, Reads (write value) value) :
    ReadsItems (write item ++ (rest.flatMap (fun next => ',' :: write next) ++ (gap ++ [']'])))
      (item :: rest) := by
  have hitem := hreads item List.mem_cons_self
  induction rest generalizing item with
  | nil => exact hitem.lastItem hgap
  | cons next rest ih =>
      have hmore : ∀ value ∈ next :: rest, Reads (write value) value :=
        fun value hvalue => hreads value (List.mem_cons_of_mem _ hvalue)
      simp only [List.flatMap_cons, List.cons_append, List.append_assoc]
      exact hitem.item (ih next hmore (hmore next List.mem_cons_self))

/-- A member as it is printed. -/
def memberText (write : Json → List Char) (lead : List Char) (member : String × Json) :
    List Char :=
  lead ++ (stringText member.1 ++ ':' :: write member.2)

theorem readsMembers_joined (hlead : Blank lead) (hgap : Blank gap) (member : String × Json)
    (rest : List (String × Json))
    (hreads : ∀ other ∈ member :: rest, Reads (write other.2) other.2) :
    ReadsMembers (memberText write lead member ++
      (rest.flatMap (fun next => ',' :: memberText write lead next) ++ (gap ++ ['\x7d'])))
      (member :: rest) := by
  have hmember := hreads member List.mem_cons_self
  induction rest generalizing member with
  | nil =>
      simp only [memberText, List.cons_append, List.append_assoc]
      exact (hmember.lastMember member.1 hgap).indent hlead
  | cons next rest ih =>
      have hmore : ∀ other ∈ next :: rest, Reads (write other.2) other.2 :=
        fun other hother => hreads other (List.mem_cons_of_mem _ hother)
      have hlater := ih next hmore (hmore next List.mem_cons_self)
      simp only [memberText, List.flatMap_cons, List.cons_append, List.append_assoc] at hlater ⊢
      exact (hmember.member member.1 hlater).indent hlead

end

/-! ### The two forms -/

theorem compactItems_eq (items : List Json) :
    compactItems items = items.flatMap (fun next => ',' :: compactChars next) ++ ([] ++ [']']) := by
  induction items with
  | nil => rw [compactItems]; rfl
  | cons item rest ih => rw [compactItems, ih]; simp

theorem compactMembers_eq (members : List (String × Json)) :
    compactMembers members =
      members.flatMap (fun next => ',' :: memberText compactChars [] next) ++
        ([] ++ ['\x7d']) := by
  induction members with
  | nil => rw [compactMembers]; rfl
  | cons member rest ih => rw [compactMembers, ih]; simp [memberText]

theorem reads_compactChars {value : Json} (hvalue : Textual value) :
    Reads (compactChars value) value := by
  induction hvalue with
  | null => simpa only [compactChars] using reads_null
  | bool value => simpa only [compactChars] using reads_bool value
  | string text => simpa only [compactChars] using reads_string text
  | @array items hitems ih =>
      cases items with
      | nil => simpa only [compactChars] using reads_emptyArray
      | cons item rest =>
          rw [compactChars, compactItems_eq, List.cons_append]
          exact (readsItems_joined compactChars blank_nil item rest ih).array
  | @object members hmembers ih =>
      cases members with
      | nil => simpa only [compactChars] using reads_emptyObject
      | cons member rest =>
          rw [compactChars, compactMembers_eq, List.cons_append, List.cons_append]
          exact (readsMembers_joined compactChars blank_nil blank_nil member rest ih).object

theorem prettyItems_eq (depth : Nat) (items : List Json) :
    prettyItems depth items =
      items.flatMap (fun next => ',' :: (newLine (depth + 1) ++ prettyChars (depth + 1) next)) ++
        (newLine depth ++ [']']) := by
  induction items with
  | nil => rw [prettyItems]; rfl
  | cons item rest ih => rw [prettyItems, ih]; simp

theorem prettyMembers_eq (depth : Nat) (members : List (String × Json)) :
    prettyMembers depth members =
      members.flatMap (fun next =>
        ',' :: memberText (fun value => ' ' :: prettyChars (depth + 1) value)
          (newLine (depth + 1)) next) ++ (newLine depth ++ ['\x7d']) := by
  induction members with
  | nil => rw [prettyMembers]; rfl
  | cons member rest ih => rw [prettyMembers, ih]; simp [memberText]

theorem reads_prettyChars {value : Json} (hvalue : Textual value) (depth : Nat) :
    Reads (prettyChars depth value) value := by
  induction hvalue generalizing depth with
  | null => simpa only [prettyChars] using reads_null
  | bool value => simpa only [prettyChars] using reads_bool value
  | string text => simpa only [prettyChars] using reads_string text
  | @array items hitems ih =>
      cases items with
      | nil => simpa only [prettyChars] using reads_emptyArray
      | cons item rest =>
          have hitems := readsItems_joined
            (fun value => newLine (depth + 1) ++ prettyChars (depth + 1) value)
            (blank_newLine depth) item rest
            fun other hother => (ih other hother (depth + 1)).indent (blank_newLine (depth + 1))
          rw [prettyChars, prettyItems_eq, List.cons_append, List.cons_append]
          exact hitems.array
  | @object members hmembers ih =>
      cases members with
      | nil => simpa only [prettyChars] using reads_emptyObject
      | cons member rest =>
          have hmembers := readsMembers_joined (fun value => ' ' :: prettyChars (depth + 1) value)
            (blank_newLine (depth + 1)) (blank_newLine depth) member rest
            fun other hother => (ih other hother (depth + 1)).indent blank_space
          rw [prettyChars, prettyMembers_eq]
          simp only [memberText, List.cons_append, List.append_assoc] at hmembers ⊢
          exact hmembers.object

/-- **The compact form comes back.** -/
theorem parse?_compact {value : Json} (hvalue : Textual value) :
    parse? value.compact = some value := by
  rw [parse?, compact, String.toList_ofList]
  exact (reads_compactChars hvalue).ofChars?

/-- **The pretty form comes back**, for all its blanks. -/
theorem parse?_pretty {value : Json} (hvalue : Textual value) :
    parse? value.pretty = some value := by
  rw [parse?, pretty, String.toList_ofList]
  exact (reads_prettyChars hvalue 0).ofChars?

/-! ### Lists -/

theorem textual_texts (texts : List String) : Textual (.array (texts.map .string)) := by
  refine .array fun item hitem => ?_
  obtain ⟨text, -, rfl⟩ := List.mem_map.mp hitem
  exact .string text

/-- A list is read item by item. -/
theorem list?_of_forall₂ {read : Json → Option α} {values : List Json} {items : List α}
    (hread : List.Forall₂ (fun value item => read value = some item) values items) :
    list? read (.array values) = some items := by
  rw [list?]
  induction hread with
  | nil => rfl
  | cons hvalue _ ih => simp [hvalue, ih]

theorem exists_array_of_list? {read : Json → Option α} {value : Json} {items : List α}
    (hread : list? read value = some items) :
    ∃ values, value = .array values ∧
      List.Forall₂ (fun value item => read value = some item) values items := by
  cases value with
  | array values =>
      refine ⟨values, rfl, ?_⟩
      rw [list?] at hread
      induction values generalizing items with
      | nil =>
          cases hread
          exact .nil
      | cons value values ih =>
          simp only [List.mapM_cons, Option.bind_eq_bind, Option.bind_eq_some_iff,
            Option.pure_def, Option.some_inj] at hread
          obtain ⟨item, hvalue, items, hvalues, rfl⟩ := hread
          exact .cons hvalue (ih hvalues)
  | _ => cases hread

theorem list?_map {read : Json → Option α} (write : α → Json)
    (hread : ∀ item, read (write item) = some item) (items : List α) :
    list? read (.array (items.map write)) = some items :=
  list?_of_forall₂ (List.forall₂_map_left_iff.mpr (List.forall₂_same.mpr fun item _ => hread item))

theorem texts?_map (texts : List String) : texts? (.array (texts.map .string)) = some texts :=
  list?_map Json.string (fun _ => rfl) texts

end SshCompliance.Json
