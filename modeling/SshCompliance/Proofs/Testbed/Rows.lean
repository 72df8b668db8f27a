import SshCompliance.Testbed.Csv
import SshCompliance.Testbed.Json
import SshCompliance.Proofs.Testbed.Hosts
import Mathlib.Data.List.Perm.Subperm

/-!
# Rows are read as what was written

Below a header each row holds the parts of a testbed, in the order of the columns and among the
cells of other columns. The field of a column is a cell that stands below it, so where the columns
stand does not matter.
-/

namespace SshCompliance.Testbed

/-- The parts of a testbed by column, the hosts as one text. -/
def parts (testbed : Testbed) : List (String × String) :=
  fields.zip [testbed.name, testbed.topology, bracketed testbed.duts, testbed.inventory]

namespace Csv

/-- A text in which neither a field nor a line ends. -/
def IsCell (text : String) : Prop := ',' ∉ text.toList ∧ '\n' ∉ text.toList

instance : DecidablePred IsCell := fun _ => inferInstanceAs (Decidable (_ ∧ _))

/-- A testbed whose parts can be told from what stands around them in a file of rows. -/
@[mk_iff]
structure IsWritable (testbed : Testbed) : Prop where
  cells : ∀ text ∈ [testbed.name, testbed.topology, testbed.inventory],
    IsCell text ∧ Text.trimmed text = text
  uncommented : testbed.name.toList.head? ≠ some '#'
  hosts : ∀ host ∈ testbed.duts, IsHost host ∧ IsCell host

instance (testbed : Testbed) : Decidable (IsWritable testbed) :=
  decidable_of_iff' _ (isWritable_iff testbed)

@[mk_iff]
structure IsHeader (columns : List String) : Prop where
  first : columns.head? = some "conf-name"
  cells : ∀ column ∈ columns, IsCell column
  complete : Testbed.fields ⊆ columns.map Text.trimmed

instance (columns : List String) : Decidable (IsHeader columns) :=
  decidable_of_iff' _ (isHeader_iff columns)

/-- What stands below a column: the part of that name, or any text where there is none. -/
def InColumn (testbed : Testbed) (column cell : String) : Prop :=
  match testbed.parts.lookup (Text.trimmed column) with
  | some part => cell = part
  | none => IsCell cell

instance (testbed : Testbed) (column cell : String) : Decidable (InColumn testbed column cell) :=
  match hpart : testbed.parts.lookup (Text.trimmed column) with
  | some part => decidable_of_iff (cell = part) (by rw [InColumn, hpart])
  | none => decidable_of_iff (IsCell cell) (by rw [InColumn, hpart])

/-- A line that is passed over: it is blank or a comment. -/
def IsSkipped (line : String) : Prop :=
  '\n' ∉ line.toList ∧
    (Text.trim line.toList = [] ∨ (Text.trim line.toList).head? = some '#')

instance : DecidablePred IsSkipped := fun _ => inferInstanceAs (Decidable (_ ∧ _))

def line (cells : List String) : String := ",".intercalate cells

/-- The lines below a header, with the testbeds that stand in them. -/
inductive IsRows (columns : List String) : List String → List Testbed → Prop
  | nil : IsRows columns [] []
  | skipped {text : String} (htext : IsSkipped text) (hrest : IsRows columns lines testbeds) :
    IsRows columns (text :: lines) testbeds
  | row {cells : List String} (hcells : List.Forall₂ (InColumn testbed) columns cells)
    (hrest : IsRows columns lines testbeds) :
    IsRows columns (line cells :: lines) (testbed :: testbeds)

/-- A header and the lines below it. -/
def sheet (columns lines : List String) : String :=
  "\n".intercalate (("# " ++ line columns) :: lines)

/-! ### Fields -/

theorem isBlank_comma (c : Char) (hc : Text.isBlank c = true) : decide (c = ',') = false := by
  rw [decide_eq_false_iff_not]
  rintro rfl
  exact absurd hc (by decide)

theorem fields_of_map_trim {first second : List Char}
    (hsame : (Text.split (· = ',') first).map Text.trim =
      (Text.split (· = ',') second).map Text.trim) : fields first = fields second := by
  have hmap := congrArg (List.map String.ofList) hsame
  rwa [List.map_map, List.map_map] at hmap

theorem fields_trim (text : List Char) : fields (Text.trim text) = fields text :=
  fields_of_map_trim (Text.map_trim_split_trim isBlank_comma text)

theorem toList_line (cells : List String) :
    (line cells).toList = [','].intercalate (cells.map String.toList) := by
  rw [line, String.toList_intercalate]
  rfl

theorem exists_toList_line (cell : String) (cells : List String) :
    ∃ more, (line (cell :: cells)).toList = cell.toList ++ more := by
  rw [toList_line, List.map_cons]
  cases cells.map String.toList with
  | nil => exact ⟨[], by rw [List.intercalate_singleton, List.append_nil]⟩
  | cons next rest => exact ⟨_, by rw [List.intercalate_cons_cons, List.append_assoc]⟩

theorem unbroken_line {cells : List String} (hcells : ∀ cell ∈ cells, IsCell cell) :
    '\n' ∉ (line cells).toList := by
  rw [toList_line]
  exact Text.not_mem_joined (List.forall_mem_map.mpr fun cell hmem => (hcells cell hmem).2)
    (by decide)

theorem fields_line {cells : List String} (hcells : ∀ cell ∈ cells, IsCell cell)
    (hne : cells ≠ []) :
    fields (line cells).toList = cells.map Text.trimmed := by
  have hpieces : ∀ piece ∈ cells.map String.toList, ',' ∉ piece :=
    List.forall_mem_map.mpr fun cell hmem => (hcells cell hmem).1
  rw [toList_line, fields,
    Text.split_joined (fun c => decide_eq_true_iff) hpieces (by simpa using hne), List.map_map]
  rfl

/-- A comment sign that is read as part of a field stays at its front. -/
theorem head?_fields_comment (rest : List Char) :
    ∃ first others, fields ('#' :: rest) = first :: others ∧ first.toList.head? = some '#' := by
  obtain ⟨piece, pieces, hsplit⟩ :=
    List.exists_cons_of_ne_nil (Text.split_ne_nil (· = ',') rest)
  have hfields : fields ('#' :: rest) =
      (('#' :: piece) :: pieces).map (fun field => String.ofList (Text.trim field)) := by
    rw [fields, Text.split_cons, if_neg (by decide), hsplit, List.modifyHead_cons]
  refine ⟨_, _, hfields, ?_⟩
  · rw [String.toList_ofList, Text.trim_cons (by decide), List.head?_cons]

/-! ### Columns -/

theorem lastIndex?_eq_none_iff {column : String} {names : List String} :
    lastIndex? column names = none ↔ column ∉ names := by
  induction names with
  | nil => simp [lastIndex?]
  | cons name rest ih =>
      rw [lastIndex?, List.mem_cons, not_or]
      cases hrest : lastIndex? column rest with
      | some index =>
          have hmem : column ∈ rest := by
            by_contra hmem
            rw [ih.mpr hmem] at hrest
            cases hrest
          simp [hmem]
      | none =>
          have hmem := ih.mp hrest
          by_cases hname : name = column <;> simp [hname, hmem, Ne.symm]

theorem exists_field? {R : String → String → Prop} {header row : List String}
    (hrow : List.Forall₂ R header row) {column : String} (hcolumn : column ∈ header) :
    ∃ field, field? header row column = some field ∧ R column field := by
  induction hrow with
  | nil => exact absurd hcolumn List.not_mem_nil
  | @cons name cell header row hcell hrow ih =>
      -- Of equal names the last one counts, so the first cell is taken only if no later column has
      -- the name.
      by_cases hmem : column ∈ header
      · obtain ⟨field, hfield, hR⟩ := ih hmem
        refine ⟨field, ?_, hR⟩
        rw [field?] at hfield ⊢
        rw [lastIndex?]
        cases hindex : lastIndex? column header with
        | none => exact absurd hmem (lastIndex?_eq_none_iff.mp hindex)
        | some index => simpa [hindex] using hfield
      · obtain rfl : column = name := (List.mem_cons.mp hcolumn).resolve_right hmem
        refine ⟨cell, ?_, hcell⟩
        rw [field?, lastIndex?, lastIndex?_eq_none_iff.mpr hmem]
        simp

/-! ### Rows -/

section Row

variable {testbed : Testbed} {columns cells : List String}

theorem isCell_bracketed {hosts : List String} (hhosts : ∀ host ∈ hosts, IsCell host) :
    IsCell (bracketed hosts) :=
  ⟨not_mem_bracketed (by decide) fun host hmem => (hhosts host hmem).1,
    not_mem_bracketed (by decide) fun host hmem => (hhosts host hmem).2⟩

theorem IsWritable.part (htestbed : IsWritable testbed) {column part : String}
    (hpart : testbed.parts.lookup column = some part) :
    IsCell part ∧ Text.trimmed part = part := by
  obtain ⟨front, back, hparts, -⟩ := List.lookup_eq_some_iff.mp hpart
  have hmem : (column, part) ∈ testbed.parts := by simp [hparts]
  have hvalue := (List.of_mem_zip hmem).2
  simp only [List.mem_cons, List.not_mem_nil, or_false] at hvalue
  obtain rfl | rfl | rfl | rfl := hvalue
  · exact htestbed.cells _ (by simp)
  · exact htestbed.cells _ (by simp)
  · exact ⟨isCell_bracketed fun host hmem => (htestbed.hosts host hmem).2, trimmed_bracketed _⟩
  · exact htestbed.cells _ (by simp)

theorem isCell_of_inColumn (htestbed : IsWritable testbed) {column cell : String}
    (hcell : InColumn testbed column cell) : IsCell cell := by
  rw [InColumn] at hcell
  split at hcell
  · next hpart => exact hcell ▸ (htestbed.part hpart).1
  · exact hcell

theorem isCell_of_mem (htestbed : IsWritable testbed)
    (hcells : List.Forall₂ (InColumn testbed) columns cells) : ∀ cell ∈ cells, IsCell cell := by
  induction hcells with
  | nil => exact List.forall_mem_nil _
  | cons hcell _ ih => exact List.forall_mem_cons.mpr ⟨isCell_of_inColumn htestbed hcell, ih⟩

theorem field?_of_inColumn (htestbed : IsWritable testbed) (hcolumns : IsHeader columns)
    (hcells : List.Forall₂ (InColumn testbed) columns cells) {column part : String}
    (hpart : testbed.parts.lookup column = some part) (hcolumn : column ∈ Testbed.fields) :
    field? (columns.map Text.trimmed) (cells.map Text.trimmed) column = some part := by
  have hfields : List.Forall₂
      (fun name field => testbed.parts.lookup name = some part → field = part)
      (columns.map Text.trimmed) (cells.map Text.trimmed) := by
    rw [List.forall₂_map_left_iff, List.forall₂_map_right_iff]
    refine hcells.imp fun column cell hcell hpart => ?_
    rw [InColumn, hpart] at hcell
    rw [hcell, (htestbed.part hpart).2]
  obtain ⟨field, hfield, heq⟩ := exists_field? hfields (hcolumns.complete hcolumn)
  rw [hfield, heq hpart]

theorem ofRow_of_inColumn (htestbed : IsWritable testbed) (hcolumns : IsHeader columns)
    (hcells : List.Forall₂ (InColumn testbed) columns cells) (number : Nat) :
    ofRow (columns.map Text.trimmed) (cells.map Text.trimmed) number = .ok testbed := by
  have hpart (column : String) {part : String} (hpart : testbed.parts.lookup column = some part)
      (hcolumn : column ∈ Testbed.fields) :=
    field?_of_inColumn htestbed hcolumns hcells hpart hcolumn
  have hname := hpart nameColumn rfl (by decide)
  have htopology := hpart "topo" rfl (by decide)
  have hduts := hpart "dut" rfl (by decide)
  have hinventory := hpart "inv_name" rfl (by decide)
  have hhosts := parseHosts_bracketed fun host hmem => (htestbed.hosts host hmem).1
  simp only [ofRow, requireField, hname, htopology, hduts, hinventory, Option.getD_some, bind,
    Except.bind, hhosts, pure, Except.pure]

theorem IsHeader.two_le_length (hcolumns : IsHeader columns) : 2 ≤ columns.length := by
  have hnames : Testbed.fields.Nodup := by decide
  have hle := (hnames.subperm hcolumns.complete).length_le
  rw [List.length_map] at hle
  exact le_trans (by decide) hle

theorem IsHeader.two_le_length_cells (hcolumns : IsHeader columns)
    (hcells : List.Forall₂ (InColumn testbed) columns cells) : 2 ≤ cells.length :=
  hcells.length_eq ▸ hcolumns.two_le_length

theorem fields_row (htestbed : IsWritable testbed) (hcolumns : IsHeader columns)
    (hcells : List.Forall₂ (InColumn testbed) columns cells) :
    fields (Text.trim (line cells).toList) = cells.map Text.trimmed := by
  have htwo := hcolumns.two_le_length_cells hcells
  have hne : cells ≠ [] := by
    rintro rfl
    exact absurd htwo (by decide)
  rw [fields_trim, fields_line (isCell_of_mem htestbed hcells) hne]

theorem trim_row_ne_nil (htestbed : IsWritable testbed) (hcolumns : IsHeader columns)
    (hcells : List.Forall₂ (InColumn testbed) columns cells) :
    Text.trim (line cells).toList ≠ [] := by
  intro hnil
  have hfields := fields_row htestbed hcolumns hcells
  have htwo := hcolumns.two_le_length_cells hcells
  have hone : (fields []).length = 1 := rfl
  rw [hnil] at hfields
  rw [hfields, List.length_map] at hone
  omega

/-- The first field is the name of the testbed, so a row is no comment. -/
theorem head?_trim_row_ne (htestbed : IsWritable testbed) (hcolumns : IsHeader columns)
    (hcells : List.Forall₂ (InColumn testbed) columns cells) :
    (Text.trim (line cells).toList).head? ≠ some '#' := by
  intro hhead
  have hfields := fields_row htestbed hcolumns hcells
  obtain ⟨rest, hrest⟩ := List.head?_eq_some_iff.mp hhead
  obtain ⟨first, others, hfirst, hcomment⟩ := head?_fields_comment rest
  rw [hrest, hfirst] at hfields
  cases hcells with
  | nil => cases hfields
  | @cons column cell columns cells hcell hcells =>
      obtain rfl : column = "conf-name" := by simpa using hcolumns.first
      have hpart : testbed.parts.lookup (Text.trimmed "conf-name") = some testbed.name := rfl
      rw [InColumn, hpart] at hcell
      rw [List.map_cons, List.cons.injEq, hcell, (htestbed.part hpart).2] at hfields
      exact htestbed.uncommented (hfields.1 ▸ hcomment)

end Row

/-! ### Lines -/

theorem ofLines_header {text comment : List Char} {columns : List String}
    (htext : Text.trim text = '#' :: comment) (hheader : header? comment = some columns)
    (number : Nat) (rest : List (List Char)) :
    ofLines none number (text :: rest) = ofLines (some columns) (number + 1) rest := by
  rw [ofLines, htext]
  simp only [hheader, Option.none_or]

theorem ofLines_skipped {text : String} (htext : IsSkipped text) (header : List String)
    (number : Nat) (rest : List (List Char)) :
    ofLines (some header) number (text.toList :: rest) =
      ofLines (some header) (number + 1) rest := by
  rw [ofLines]
  obtain hblank | hcomment := htext.2
  · rw [hblank]
  · obtain ⟨comment, htrim⟩ := List.head?_eq_some_iff.mp hcomment
    rw [htrim]
    rfl

theorem ofLines_row {text : List Char} (hne : Text.trim text ≠ [])
    (hcomment : (Text.trim text).head? ≠ some '#') (header : List String) (number : Nat)
    (rest : List (List Char)) :
    ofLines (some header) number (text :: rest) = (do
      let testbed ← ofRow header (fields (Text.trim text)) number
      let testbeds ← ofLines (some header) (number + 1) rest
      pure (testbed :: testbeds)) := by
  rw [ofLines]
  split
  · next hnil => exact absurd hnil hne
  · next htext => exact absurd (by rw [htext, List.head?_cons]) hcomment
  · rfl

variable {columns lines : List String}

theorem header?_of_isHeader (hcolumns : IsHeader columns) :
    header? (Text.trimEnd (' ' :: (line columns).toList)) = some (columns.map Text.trimmed) := by
  have hne : columns ≠ [] := by
    rintro rfl
    cases hcolumns.first
  have hgap : Text.Gap [' '] := by simp [Text.Gap, Text.isBlank]
  have hfields : fields (Text.trimEnd (' ' :: (line columns).toList)) =
      columns.map Text.trimmed := by
    rw [← fields_line hcolumns.cells hne]
    exact fields_of_map_trim ((Text.map_trim_split_trimEnd isBlank_comma _).trans
      (Text.map_trim_split_gap_append isBlank_comma hgap _))
  have hstart :
      nameColumn.toList <+: Text.trimStart (Text.trimEnd (' ' :: (line columns).toList)) := by
    obtain ⟨others, rfl⟩ := List.head?_eq_some_iff.mp hcolumns.first
    obtain ⟨more, hmore⟩ := exists_toList_line "conf-name" others
    have hend : Text.trimEnd (' ' :: ("conf-name".toList ++ more)) =
        ' ' :: ("conf-name".toList ++ Text.trimEnd more) :=
      Text.trimEnd_append_cons " conf-nam".toList (by decide) more
    rw [hmore, hend]
    exact List.prefix_append _ _
  rw [header?, if_pos (List.isPrefixOf_iff_prefix.mpr hstart), hfields]

/-- **Lines are read as the testbeds in them.** -/
theorem ofLines_of_isRows (hcolumns : IsHeader columns) (hrows : IsRows columns lines testbeds)
    (htestbeds : ∀ testbed ∈ testbeds, IsWritable testbed) (number : Nat) :
    ofLines (some (columns.map Text.trimmed)) number (lines.map String.toList) = .ok testbeds := by
  -- The header stays what it is: a later comment that looks like one is passed over.
  induction hrows generalizing number with
  | nil => rfl
  | skipped htext _ ih => rw [List.map_cons, ofLines_skipped htext, ih htestbeds]
  | row hcells _ ih =>
      obtain ⟨htestbed, htestbeds⟩ := List.forall_mem_cons.mp htestbeds
      rw [List.map_cons, ofLines_row (trim_row_ne_nil htestbed hcolumns hcells)
        (head?_trim_row_ne htestbed hcolumns hcells), fields_row htestbed hcolumns hcells,
        ofRow_of_inColumn htestbed hcolumns hcells, ih htestbeds]
      rfl

theorem unbroken_of_isRows (hrows : IsRows columns lines testbeds)
    (htestbeds : ∀ testbed ∈ testbeds, IsWritable testbed) :
    ∀ text ∈ lines, '\n' ∉ text.toList := by
  induction hrows with
  | nil => exact List.forall_mem_nil _
  | skipped htext _ ih => exact List.forall_mem_cons.mpr ⟨htext.1, ih htestbeds⟩
  | row hcells _ ih =>
      obtain ⟨htestbed, htestbeds⟩ := List.forall_mem_cons.mp htestbeds
      exact List.forall_mem_cons.mpr
        ⟨unbroken_line (isCell_of_mem htestbed hcells), ih htestbeds⟩

theorem ofCsv_sheet (hcolumns : IsHeader columns) (hrows : IsRows columns lines testbeds)
    (htestbeds : ∀ testbed ∈ testbeds, IsWritable testbed) :
    Testbeds.ofCsv (sheet columns lines) = .ok (Testbeds.ofList testbeds) := by
  have hfirst : ("# " ++ line columns).toList = '#' :: ' ' :: (line columns).toList := by
    rw [String.toList_append]
    rfl
  have hlines : ∀ text ∈ (("# " ++ line columns) :: lines).map String.toList, '\n' ∉ text := by
    rw [List.forall_mem_map, List.forall_mem_cons, hfirst]
    exact ⟨by simpa using unbroken_line hcolumns.cells, unbroken_of_isRows hrows htestbeds⟩
  have hsplit : Text.split (· = '\n') (sheet columns lines).toList =
      (("# " ++ line columns) :: lines).map String.toList := by
    rw [sheet, String.toList_intercalate]
    exact Text.split_joined (fun c => decide_eq_true_iff) hlines (by simp)
  have hcomment : Text.trim ("# " ++ line columns).toList =
      '#' :: Text.trimEnd (' ' :: (line columns).toList) := by
    rw [hfirst, Text.trim_cons (by decide)]
  rw [Testbeds.ofCsv, hsplit, List.map_cons,
    ofLines_header hcomment (header?_of_isHeader hcolumns),
    ofLines_of_isRows hcolumns hrows htestbeds]
  rfl

end Csv

end SshCompliance.Testbed
