import SshCompliance.Proofs.Testbed.Rows

/-!
# Fields of a row

The field of a row in a column stands at the last place where the columns have that name. A testbed
is read from a row as soon as three columns have a field in it; of those that have none, the first
in a fixed order is reported.
-/

namespace SshCompliance.Testbed.Csv

/-- The field of a row below a column; of equal columns the last one counts. -/
def HasField (columns row : List String) (column field : String) : Prop :=
  ∃ index : Nat, columns[index]? = some column ∧
    (∀ later, index < later → columns[later]? ≠ some column) ∧ row[index]? = some field

/-- The columns that a row needs, in the order in which they are looked for. -/
def required : List String := ["conf-name", "dut", "inv_name"]

/-- The first of the columns that a row needs and has no field in. -/
def Lacks (columns row : List String) (column : String) : Prop :=
  ∃ earlier later, required = earlier ++ column :: later ∧
    (∀ other ∈ earlier, ∃ field, HasField columns row other field) ∧
    ∀ field, ¬HasField columns row column field

/-- The testbed that a row gives below its columns. -/
structure Says (columns row : List String) (testbed : Testbed) : Prop where
  name : HasField columns row "conf-name" testbed.name
  duts : ∃ hosts, HasField columns row "dut" hosts ∧ testbed.duts = parseHosts hosts
  inventory : HasField columns row "inv_name" testbed.inventory
  topology : HasField columns row "topo" testbed.topology ∨
    testbed.topology = "" ∧ ∀ field, ¬HasField columns row "topo" field

/-! ### Columns -/

theorem lastIndex?_cons_eq_some_zero_iff {column name : String} {rest : List String} :
    lastIndex? column (name :: rest) = some 0 ↔ name = column ∧ column ∉ rest := by
  rw [lastIndex?]
  cases hrest : lastIndex? column rest with
  | some last =>
      have hmem : column ∈ rest := by
        by_contra hmem
        rw [lastIndex?_eq_none_iff.mpr hmem] at hrest
        cases hrest
      simp [hmem]
  | none => simp [lastIndex?_eq_none_iff.mp hrest]

theorem lastIndex?_cons_eq_some_succ_iff {column name : String} {rest : List String}
    {index : Nat} :
    lastIndex? column (name :: rest) = some (index + 1) ↔ lastIndex? column rest = some index := by
  rw [lastIndex?]
  cases lastIndex? column rest with
  | some last => simp
  | none => by_cases hname : name = column <;> simp [hname]

theorem lastIndex?_eq_some_iff {column : String} {columns : List String} {index : Nat} :
    lastIndex? column columns = some index ↔
      columns[index]? = some column ∧ ∀ later, index < later → columns[later]? ≠ some column := by
  induction columns generalizing index with
  | nil => simp [lastIndex?]
  | cons name rest ih =>
      cases index with
      | zero =>
          rw [lastIndex?_cons_eq_some_zero_iff, List.getElem?_cons_zero, Option.some_inj,
            List.mem_iff_getElem?, not_exists]
          refine and_congr_right fun _ => ⟨fun hrest later hlater => ?_, fun hrest later => ?_⟩
          · obtain ⟨before, rfl⟩ := Nat.exists_eq_add_of_lt hlater
            simpa using hrest _
          · simpa using hrest (later + 1) (Nat.succ_pos later)
      | succ index =>
          rw [lastIndex?_cons_eq_some_succ_iff, ih, List.getElem?_cons_succ]
          refine and_congr_right fun _ =>
            ⟨fun hrest later hlater => ?_, fun hrest later hlater => ?_⟩
          · cases later with
            | zero => cases hlater
            | succ later => simpa using hrest later (Nat.lt_of_succ_lt_succ hlater)
          · simpa using hrest (later + 1) (Nat.succ_lt_succ hlater)

section Row

variable {columns row : List String} {column field : String}

theorem field?_eq_some_iff :
    field? columns row column = some field ↔ HasField columns row column field := by
  rw [field?, Option.bind_eq_bind, Option.bind_eq_some_iff, HasField]
  simp only [lastIndex?_eq_some_iff, and_assoc]

theorem field?_eq_none_iff :
    field? columns row column = none ↔ ∀ field, ¬HasField columns row column field := by
  simp only [Option.eq_none_iff_forall_ne_some, ne_eq, field?_eq_some_iff]

theorem exists_hasField_iff :
    (∃ field, HasField columns row column field) ↔ (field? columns row column).isSome := by
  simp only [Option.isSome_iff_exists, field?_eq_some_iff]

/-! ### Rows -/

variable {number : Nat} {testbed : Testbed} {error : Error}

theorem lacks_iff :
    Lacks columns row column ↔
      required.find? (fun column => (field? columns row column).isNone) = some column := by
  simp only [Lacks, exists_hasField_iff, ← field?_eq_none_iff, List.find?_eq_some_iff_append,
    Option.isNone_iff_eq_none, Bool.not_eq_eq_eq_not, Bool.not_true, Option.isNone_eq_false_iff]
  constructor
  · rintro ⟨earlier, later, horder, hearlier, hcolumn⟩
    exact ⟨hcolumn, earlier, later, horder, hearlier⟩
  · rintro ⟨hcolumn, earlier, later, horder, hearlier⟩
    exact ⟨earlier, later, horder, hearlier, hcolumn⟩

theorem says_iff :
    Says columns row testbed ↔
      field? columns row "conf-name" = some testbed.name ∧
      (∃ hosts, field? columns row "dut" = some hosts ∧ testbed.duts = parseHosts hosts) ∧
      field? columns row "inv_name" = some testbed.inventory ∧
      testbed.topology = (field? columns row "topo").getD "" := by
  have htopology : testbed.topology = (field? columns row "topo").getD "" ↔
      HasField columns row "topo" testbed.topology ∨
        testbed.topology = "" ∧ ∀ field, ¬HasField columns row "topo" field := by
    rw [← field?_eq_some_iff, ← field?_eq_none_iff]
    cases field? columns row "topo" with
    | none => simp
    | some topology => simp [eq_comm (a := topology)]
  simp only [htopology, field?_eq_some_iff]
  exact ⟨fun ⟨hname, hduts, hinventory, htopo⟩ => ⟨hname, hduts, hinventory, htopo⟩,
    fun ⟨hname, hduts, hinventory, htopo⟩ => ⟨hname, hduts, hinventory, htopo⟩⟩

theorem exists_says_iff :
    (∃ testbed, Says columns row testbed) ↔
      ∀ column ∈ required, ∃ field, HasField columns row column field := by
  constructor
  · rintro ⟨testbed, hname, ⟨hosts, hduts, -⟩, hinventory, -⟩
    simpa [required] using ⟨⟨_, hname⟩, ⟨_, hduts⟩, ⟨_, hinventory⟩⟩
  · intro hfields
    obtain ⟨name, hname⟩ := hfields "conf-name" (by decide)
    obtain ⟨hosts, hduts⟩ := hfields "dut" (by decide)
    obtain ⟨inventory, hinventory⟩ := hfields "inv_name" (by decide)
    let topology := (field? columns row "topo").getD ""
    refine ⟨⟨name, topology, parseHosts hosts, inventory⟩, says_iff.mpr ?_⟩
    refine ⟨field?_eq_some_iff.mpr hname, ⟨hosts, field?_eq_some_iff.mpr hduts, ?_⟩,
      field?_eq_some_iff.mpr hinventory, ?_⟩ <;> simp only [topology]

/-- The columns that a row needs are looked for one after the other. -/
theorem ofRow_eq (columns row : List String) (number : Nat) :
    ofRow columns row number =
      match field? columns row "conf-name", field? columns row "dut",
        field? columns row "inv_name" with
      | some name, some hosts, some inventory =>
        .ok ⟨name, (field? columns row "topo").getD "", parseHosts hosts, inventory⟩
      | none, _, _ => .error (missingColumn number "conf-name")
      | some _, none, _ => .error (missingColumn number "dut")
      | some _, some _, none => .error (missingColumn number "inv_name") := by
  rw [ofRow, nameColumn, requireField, requireField, requireField]
  cases field? columns row "conf-name" <;> cases field? columns row "dut" <;>
    cases field? columns row "inv_name" <;> rfl

/-- **A row is read as what it says.** -/
theorem ofRow_eq_ok_iff : ofRow columns row number = .ok testbed ↔ Says columns row testbed := by
  obtain ⟨name, topology, duts, inventory⟩ := testbed
  rw [ofRow_eq, says_iff]
  cases field? columns row "conf-name" with
  | none => simp
  | some first =>
  cases field? columns row "dut" with
  | none => simp
  | some hosts =>
  cases field? columns row "inv_name" with
  | none => simp
  | some last =>
      simp only [Except.ok.injEq, Testbed.mk.injEq, Option.some_inj, exists_eq_left']
      constructor
      · rintro ⟨hname, htopology, hduts, hinventory⟩
        exact ⟨hname, hduts.symm, hinventory, htopology.symm⟩
      · rintro ⟨hname, hduts, hinventory, htopology⟩
        exact ⟨hname, htopology.symm, hduts.symm, hinventory⟩

/-- **A row is refused for the first field it lacks.** -/
theorem ofRow_eq_error_iff :
    ofRow columns row number = .error error ↔
      ∃ column, Lacks columns row column ∧
        error = .testbed ("Line " ++ toString number ++ ": missing column " ++ column) := by
  simp only [ofRow_eq, missingColumn, lacks_iff, required, List.find?]
  cases field? columns row "conf-name" <;> cases field? columns row "dut" <;>
    cases field? columns row "inv_name" <;> simp [eq_comm]

end Row

end SshCompliance.Testbed.Csv
