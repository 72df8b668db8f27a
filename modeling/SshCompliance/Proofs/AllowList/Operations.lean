import SshCompliance.Proofs.AllowList.Growth
import Mathlib.Data.Finset.Card

/-!
# Operations on an allow-list

An allow-list is made of names and is then used by insertions and questions in any order. All that
it answers and holds follows from the names that were given so far: those it was made of and those
that were inserted since. It holds each of them once, in the order of their first occurrence.
-/

namespace SshCompliance.AllowList

inductive Operation where
  | insert (name : String)
  | contains (name : String)
deriving DecidableEq, Repr

/-- The name that an operation gives to the list. -/
def Operation.given? : Operation → Option String
  | .insert name => some name
  | .contains _ => none

/-- The list after an operation, and what the operation answers. -/
def perform (list : AllowList) : Operation → AllowList × Bool
  | .insert name => list.insertNew name
  | .contains name => (list, list.contains name)

def after (list : AllowList) (operations : List Operation) : AllowList :=
  operations.foldl (fun current operation => (current.perform operation).1) list

def answers (list : AllowList) : List Operation → List Bool
  | [] => []
  | operation :: rest =>
    (list.perform operation).2 :: (list.perform operation).1.answers rest

/-- The names that were given by the time that some operations are done. -/
def given (names : List String) (operations : List Operation) : List String :=
  names ++ operations.filterMap Operation.given?

variable {list : AllowList} {names : List String} {operations : List Operation} {index : Nat}
  {operation : Operation} {name : String}

theorem contains_eq_decide (list : AllowList) (name : String) :
    list.contains name = decide (name ∈ list.names) :=
  List.contains_eq_mem name list.names

theorem size_ofNames (names : List String) : (ofNames names).size = names.toFinset.card := by
  have hsame : (ofNames names).names.toFinset = names.toFinset := by
    ext name
    rw [names_ofNames, List.mem_toFinset, List.mem_eraseDups, List.mem_toFinset]
  rw [size, ← List.toFinset_card_of_nodup (ofNames names).distinct, hsame]

/-! ### One operation -/

theorem list_perform (list : AllowList) (operation : Operation) :
    (list.perform operation).1 = list.insertAll operation.given?.toList := by
  cases operation <;> rfl

/-! ### One operation after the other -/

theorem after_cons (list : AllowList) (operation : Operation) (rest : List Operation) :
    list.after (operation :: rest) = (list.perform operation).1.after rest := rfl

theorem after_take_succ (list : AllowList) (hoperation : operations[index]? = some operation) :
    list.after (operations.take (index + 1)) =
      ((list.after (operations.take index)).perform operation).1 := by
  rw [List.take_add_one, hoperation, after, List.foldl_append]
  rfl

theorem answers_getElem? (list : AllowList) (operations : List Operation) (index : Nat) :
    (list.answers operations)[index]? =
      operations[index]?.map fun operation =>
        ((list.after (operations.take index)).perform operation).2 := by
  induction operations generalizing list index with
  | nil => simp [answers]
  | cons operation rest ih =>
      cases index with
      | zero => rfl
      | succ index =>
          rw [answers, List.getElem?_cons_succ, ih, List.getElem?_cons_succ, List.take_succ_cons,
            after_cons]

theorem after_eq_insertAll (list : AllowList) (operations : List Operation) :
    list.after operations = list.insertAll (operations.filterMap Operation.given?) := by
  induction operations generalizing list with
  | nil => rfl
  | cons operation rest ih =>
      rw [after_cons, ih, list_perform, ← insertAll_append]
      cases operation <;> rfl

/-- After any operations the list is the one made of all names given so far at once. -/
theorem after_ofNames (names : List String) (operations : List Operation) :
    (ofNames names).after operations = ofNames (given names operations) := by
  rw [after_eq_insertAll, ofNames, ← insertAll_append]
  rfl

theorem mem_after_ofNames :
    name ∈ ((ofNames names).after operations).names ↔ name ∈ given names operations := by
  rw [after_ofNames, names_ofNames, List.mem_eraseDups]

/-- **An allow-list follows its history.** After any number of operations the list holds the names
given so far, each once, in the order of their first occurrence, and its size is the number of these
names. An insertion answers whether its name was not given before; if so the name goes to the end of
the list, and otherwise the list stays as it is. A question answers whether its name was given
before, and changes nothing. -/
theorem perform_follows_given (names : List String) (operations : List Operation) :
    let list := fun count => (ofNames names).after (operations.take count)
    let before := fun count => given names (operations.take count)
    let answers := (ofNames names).answers operations
    (∀ count, (list count).names = (before count).eraseDups ∧
      (list count).size = (before count).toFinset.card) ∧
    (∀ index name, operations[index]? = some (.insert name) →
      answers[index]? = some (decide (name ∉ before index)) ∧
      (name ∉ before index → (list (index + 1)).names = (list index).names ++ [name]) ∧
      (name ∈ before index → list (index + 1) = list index)) ∧
    ∀ index name, operations[index]? = some (.contains name) →
      answers[index]? = some (decide (name ∈ before index)) ∧ list (index + 1) = list index := by
  intro list before answers
  have hmem (index : Nat) (name : String) : name ∈ (list index).names ↔ name ∈ before index :=
    mem_after_ofNames
  refine ⟨fun count => ⟨?_, ?_⟩, ?_, ?_⟩
  · simp only [list, before, after_ofNames, names_ofNames]
  · simp only [list, before, after_ofNames, size_ofNames]
  · intro index name hinsert
    have hanswer : answers[index]? = some (!(list index).contains name) := by
      rw [answers_getElem?, hinsert]
      rfl
    have hafter : list (index + 1) = (list index).insert name :=
      (ofNames names).after_take_succ hinsert
    refine ⟨?_, fun hnew => ?_, fun hold => ?_⟩
    · rw [hanswer, contains_eq_decide, ← decide_not]
      simp only [hmem]
    · rw [hafter, names_insert, if_neg (mt (hmem index name).mp hnew)]
    · rw [hafter, insert_of_mem ((hmem index name).mpr hold)]
  · intro index name hcontains
    have hanswer : answers[index]? = some ((list index).contains name) := by
      rw [answers_getElem?, hcontains]
      rfl
    refine ⟨?_, (ofNames names).after_take_succ hcontains⟩
    rw [hanswer, contains_eq_decide]
    simp only [hmem]

/-- A name comes twice at the start and is inserted again; another is asked for before it is
inserted and after. -/
theorem perform_follows_given_of_repeats :
    let names := ["b", "a", "b"]
    let operations : List Operation :=
      [.contains "c", .insert "b", .insert "c", .contains "c", .insert "c"]
    let list := fun count => (ofNames names).after (operations.take count)
    let answers := (ofNames names).answers operations
    operations[2]? = some (.insert "c") ∧ operations[3]? = some (.contains "c") ∧
      (list 5).names = ["b", "a", "c"] ∧ (list 3).names = (list 2).names ++ ["c"] ∧
      list 2 = list 1 ∧ answers[1]? = some false ∧ answers[2]? = some true ∧
      answers[0]? = some false ∧ answers[3]? = some true ∧ answers[4]? = some false := by
  intro names operations list answers
  obtain ⟨hlists, hinsertions, hquestions⟩ := perform_follows_given names operations
  obtain ⟨hnew, happended, -⟩ := hinsertions 2 "c" rfl
  obtain ⟨hold, -, hkept⟩ := hinsertions 1 "b" rfl
  obtain ⟨hagain, -, -⟩ := hinsertions 4 "c" rfl
  obtain ⟨hearly, -⟩ := hquestions 0 "c" rfl
  obtain ⟨hlate, -⟩ := hquestions 3 "c" rfl
  exact ⟨rfl, rfl, (hlists 5).1.trans (by decide), happended (by decide), hkept (by decide), hold,
    hnew, hearly, hlate, hagain⟩

end SshCompliance.AllowList
