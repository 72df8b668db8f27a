import SshCompliance.Proofs.Testbed.Entries
import SshCompliance.Proofs.Testbed.Fields

/-!
# The grammar of rows

Every text is a file of rows, or it is not one for a reason that can be told. Of its trimmed lines
the first comment that starts with the column of names is the header, and the lines that are neither
blank nor comments are the rows. A row needs the header above it and fields in three columns. If
every row has them, the file holds the last row of each name; otherwise what is wrong with the first
other row is the reason.

Reading goes from line to line with the header found so far. Here each row is read by itself, with
the header looked up among the lines above it, and reading the file is shown to come to the first
fault of a row, or else to what all rows say.
-/

namespace SshCompliance.Testbed.Csv

/-- The trimmed lines of a text; a line is known by its place among all of them. -/
def linesOf (text : String) : List (List Char) :=
  (Text.split (· = '\n') text.toList).map Text.trim

/-- A comment that starts with the column of names gives columns. -/
def GivesColumns (line : List Char) (columns : List String) : Prop :=
  ∃ comment, line = '#' :: comment ∧ "conf-name".toList <+: Text.trimStart comment ∧
    columns = fields comment

section Places

variable (lines : List (List Char)) (place : Nat)

/-- The header is the first line that gives columns. -/
def HeaderAt (columns : List String) : Prop :=
  (∃ line, lines[place]? = some line ∧ GivesColumns line columns) ∧
    ∀ earlier < place, ∀ line, lines[earlier]? = some line → ∀ others, ¬GivesColumns line others

/-- A line is a row if it is neither blank nor a comment. -/
def RowAt (row : List String) : Prop :=
  ∃ line, lines[place]? = some line ∧ line ≠ [] ∧ line.head? ≠ some '#' ∧ row = fields line

/-- A row is complete if the header is above it and it has a field in every column it needs. -/
def Complete (row : List String) : Prop :=
  ∃ above < place, ∃ columns, HeaderAt lines above columns ∧
    ∀ column ∈ required, ∃ field, HasField columns row column field

/-- What is wrong with a row that is not complete. Lines are numbered from one. -/
inductive Fault (row : List String) : Error → Prop
  | headless (hnone : ∀ above < place, ∀ columns, ¬HeaderAt lines above columns) :
    Fault row (.testbed "Testbed CSV has no '# conf-name,...' header")
  | lacking {above : Nat} {columns : List String} {column : String} (habove : above < place)
    (hheader : HeaderAt lines above columns) (hlacks : Lacks columns row column) :
    Fault row (.testbed ("Line " ++ toString (place + 1) ++ ": missing column " ++ column))

/-- The testbed of the row at a place. -/
def Describes (testbed : Testbed) : Prop :=
  ∃ row, RowAt lines place row ∧
    ∃ above < place, ∃ columns, HeaderAt lines above columns ∧ Says columns row testbed

end Places

/-! ### The first and the last of many places -/

theorem findSome?_range_eq_some_iff {f : Nat → Option α} {count : Nat} {value : α} :
    (List.range count).findSome? f = some value ↔
      ∃ place < count, f place = some value ∧ ∀ earlier < place, f earlier = none := by
  induction count with
  | zero => simp
  | succ count ih =>
      have hnone :
          (List.range count).findSome? f = none ↔ ∀ earlier < count, f earlier = none := by
        simp
      rw [List.range_succ, List.findSome?_append, List.findSome?_singleton, Option.or_eq_some_iff,
        ih, hnone]
      constructor
      · rintro (⟨place, hplace, hvalue⟩ | ⟨hfirst, hvalue⟩)
        · exact ⟨place, hplace.trans (Nat.lt_succ_self count), hvalue⟩
        · exact ⟨count, Nat.lt_succ_self count, hvalue, hfirst⟩
      · rintro ⟨place, hplace, hvalue, hfirst⟩
        obtain hlt | rfl := Nat.lt_succ_iff_lt_or_eq.mp hplace
        · exact .inl ⟨place, hlt, hvalue, hfirst⟩
        · exact .inr ⟨hfirst, hvalue⟩

theorem findRev?_filterMap_range_eq_some_iff {f : Nat → Option α} {p : α → Bool} {count : Nat}
    {value : α} :
    ((List.range count).filterMap f).findRev? p = some value ↔
      ∃ place < count, f place = some value ∧ p value = true ∧
        ∀ later < count, place < later → ∀ other, f later = some other → p other = false := by
  rw [List.findRev?_eq_find?_reverse]
  induction count with
  | zero => simp
  | succ count ih =>
      -- The last place decides if its value satisfies the condition.
      have hlast : ([count].filterMap f).reverse.find? p = (f count).filter p := by
        cases hvalue : f count <;> simp [hvalue, Option.filter, List.find?_singleton]
      rw [List.range_succ, List.filterMap_append, List.reverse_append, List.find?_append, hlast,
        Option.or_eq_some_iff, ih, Option.filter_eq_some_iff, Option.filter_eq_none_iff]
      constructor
      · rintro (⟨hvalue, hp⟩ | ⟨hnone, place, hplace, hvalue, hp, hrest⟩)
        · exact ⟨count, Nat.lt_succ_self count, hvalue, hp, fun later hlater hgt => by omega⟩
        · refine ⟨place, by omega, hvalue, hp, fun later hlater hgt other hother => ?_⟩
          obtain hlt | rfl := Nat.lt_succ_iff_lt_or_eq.mp hlater
          · exact hrest later hlt hgt other hother
          · simpa using hnone other hother
      · rintro ⟨place, hplace, hvalue, hp, hrest⟩
        obtain hlt | rfl := Nat.lt_succ_iff_lt_or_eq.mp hplace
        · refine .inr ⟨fun other hother => ?_, place, hlt, hvalue, hp, fun later hlater =>
            hrest later (by omega)⟩
          simpa using hrest count (Nat.lt_succ_self count) hlt other hother
        · exact .inl ⟨hvalue, hp⟩

/-! ### Headers -/

def columns? : List Char → Option (List String)
  | '#' :: comment => header? comment
  | _ => none

/-- The columns of the first header above a place. -/
def columnsAbove (lines : List (List Char)) (place : Nat) : Option (List String) :=
  (List.range place).findSome? fun above => lines[above]?.bind columns?

section Lines

variable {lines : List (List Char)} {place : Nat}

theorem header?_eq_some_iff {comment : List Char} {columns : List String} :
    header? comment = some columns ↔
      "conf-name".toList <+: Text.trimStart comment ∧ columns = fields comment := by
  have hprefix : "conf-name".toList <+: Text.trimStart comment ↔
      nameColumn.toList.isPrefixOf (Text.trimStart comment) = true :=
    List.isPrefixOf_iff_prefix.symm
  rw [header?, hprefix]
  split
  · next hstart => simp [hstart, eq_comm (a := fields comment)]
  · next hstart => simp [hstart]

theorem columns?_eq_some_iff {line : List Char} {columns : List String} :
    columns? line = some columns ↔ GivesColumns line columns := by
  cases line with
  | nil => simp [columns?, GivesColumns]
  | cons c comment =>
      by_cases hc : c = '#'
      · subst hc
        simp [columns?, header?_eq_some_iff, GivesColumns]
      · simp [columns?, GivesColumns, hc]

theorem columnsAbove_eq_some_iff {columns : List String} :
    columnsAbove lines place = some columns ↔ ∃ above < place, HeaderAt lines above columns := by
  have hnone (earlier : Nat) : lines[earlier]?.bind columns? = none ↔
      ∀ line, lines[earlier]? = some line → ∀ others, ¬GivesColumns line others := by
    simp only [Option.eq_none_iff_forall_ne_some, ne_eq, Option.bind_eq_some_iff,
      columns?_eq_some_iff, not_exists, not_and]
    exact ⟨fun h line hline others => h others line hline,
      fun h others line hline => h line hline others⟩
  simp only [columnsAbove, findSome?_range_eq_some_iff, hnone, Option.bind_eq_some_iff,
    columns?_eq_some_iff, HeaderAt]

theorem columnsAbove_eq_none_iff :
    columnsAbove lines place = none ↔
      ∀ above < place, ∀ columns, ¬HeaderAt lines above columns := by
  simp only [Option.eq_none_iff_forall_ne_some, ne_eq, columnsAbove_eq_some_iff, not_exists,
    not_and]
  exact ⟨fun h above habove columns => h columns above habove,
    fun h columns above habove => h above habove columns⟩

theorem columnsAbove_succ {line : List Char} (hline : lines[place]? = some line) :
    columnsAbove lines (place + 1) = (columnsAbove lines place).or (columns? line) := by
  rw [columnsAbove, List.range_succ, List.findSome?_append, List.findSome?_singleton, hline,
    Option.bind_some, columnsAbove]

/-! ### Rows one by one -/

/-- What the row at a place comes to. -/
def readRow (lines : List (List Char)) (place : Nat) (row : List String) : Except Error Testbed :=
  match columnsAbove lines place with
  | none => .error missingHeader
  | some columns => ofRow columns row (place + 1)

/-- What the line at a place comes to, unless it is passed over. -/
def outcome? (lines : List (List Char)) (place : Nat) : Option (Except Error Testbed) :=
  match lines[place]? with
  | none | some [] | some ('#' :: _) => none
  | some line => some (readRow lines place (fields line))

def fault? (lines : List (List Char)) (place : Nat) : Option Error :=
  (outcome? lines place).bind fun
    | .error error => some error
    | .ok _ => none

def testbed? (lines : List (List Char)) (place : Nat) : Option Testbed :=
  (outcome? lines place).bind fun
    | .error _ => none
    | .ok testbed => some testbed

/-- The testbeds of all rows, as far as they give one. -/
def described (lines : List (List Char)) : List Testbed :=
  (List.range lines.length).filterMap (testbed? lines)

theorem readRow_eq_ok_iff {row : List String} {testbed : Testbed} :
    readRow lines place row = .ok testbed ↔
      ∃ above < place, ∃ columns, HeaderAt lines above columns ∧ Says columns row testbed := by
  constructor
  · intro hread
    cases hcolumns : columnsAbove lines place with
    | none => simp [readRow, hcolumns] at hread
    | some columns =>
        obtain ⟨above, habove, hheader⟩ := columnsAbove_eq_some_iff.mp hcolumns
        rw [readRow, hcolumns] at hread
        exact ⟨above, habove, columns, hheader, ofRow_eq_ok_iff.mp hread⟩
  · rintro ⟨above, habove, columns, hheader, hsays⟩
    rw [readRow, columnsAbove_eq_some_iff.mpr ⟨above, habove, hheader⟩]
    exact ofRow_eq_ok_iff.mpr hsays

theorem readRow_eq_error_iff {row : List String} {error : Error} :
    readRow lines place row = .error error ↔ Fault lines place row error := by
  constructor
  · intro hread
    cases hcolumns : columnsAbove lines place with
    | none =>
        rw [readRow, hcolumns] at hread
        cases hread
        exact .headless (columnsAbove_eq_none_iff.mp hcolumns)
    | some columns =>
        obtain ⟨above, habove, hheader⟩ := columnsAbove_eq_some_iff.mp hcolumns
        rw [readRow, hcolumns] at hread
        obtain ⟨column, hlacks, rfl⟩ := ofRow_eq_error_iff.mp hread
        exact .lacking habove hheader hlacks
  · rintro (hnone | ⟨habove, hheader, hlacks⟩)
    · rw [readRow, columnsAbove_eq_none_iff.mpr hnone, missingHeader]
    · rw [readRow, columnsAbove_eq_some_iff.mpr ⟨_, habove, hheader⟩]
      exact ofRow_eq_error_iff.mpr ⟨_, hlacks, rfl⟩

theorem complete_iff {row : List String} :
    Complete lines place row ↔ ∃ testbed, readRow lines place row = .ok testbed := by
  simp only [readRow_eq_ok_iff, Complete]
  constructor
  · rintro ⟨above, habove, columns, hheader, hfields⟩
    obtain ⟨testbed, hsays⟩ := exists_says_iff.mpr hfields
    exact ⟨testbed, above, habove, columns, hheader, hsays⟩
  · rintro ⟨testbed, above, habove, columns, hheader, hsays⟩
    exact ⟨above, habove, columns, hheader, exists_says_iff.mp ⟨testbed, hsays⟩⟩

theorem RowAt.lt_length {row : List String} (hrow : RowAt lines place row) :
    place < lines.length := by
  obtain ⟨line, hline, -⟩ := hrow
  exact (List.getElem?_eq_some_iff.mp hline).1

theorem Describes.lt_length {testbed : Testbed} (hdescribes : Describes lines place testbed) :
    place < lines.length := by
  obtain ⟨row, hrow, -⟩ := hdescribes
  exact hrow.lt_length

theorem outcome?_eq_some_iff {result : Except Error Testbed} :
    outcome? lines place = some result ↔
      ∃ row, RowAt lines place row ∧ readRow lines place row = result := by
  rw [outcome?]
  cases hline : lines[place]? with
  | none => simp [RowAt, hline]
  | some line =>
      cases line with
      | nil => simp [RowAt, hline]
      | cons c rest => by_cases hc : c = '#' <;> simp [RowAt, hline, hc]

theorem testbed?_eq_some_iff {testbed : Testbed} :
    testbed? lines place = some testbed ↔ Describes lines place testbed := by
  have hok : testbed? lines place = some testbed ↔ outcome? lines place = some (.ok testbed) := by
    rw [testbed?]
    rcases outcome? lines place with _ | _ | _ <;> simp
  simp only [hok, outcome?_eq_some_iff, readRow_eq_ok_iff, Describes]

theorem fault?_eq_some_iff {error : Error} :
    fault? lines place = some error ↔
      ∃ row, RowAt lines place row ∧ Fault lines place row error := by
  have herror : fault? lines place = some error ↔ outcome? lines place = some (.error error) := by
    rw [fault?]
    rcases outcome? lines place with _ | _ | _ <;> simp
  simp only [herror, outcome?_eq_some_iff, readRow_eq_error_iff]

theorem fault?_eq_none_iff :
    fault? lines place = none ↔ ∀ row, RowAt lines place row → Complete lines place row := by
  have hnone : fault? lines place = none ↔
      ∀ result, outcome? lines place = some result → ∃ testbed, result = .ok testbed := by
    rw [fault?]
    rcases outcome? lines place with _ | _ | _ <;> simp
  simp only [hnone, outcome?_eq_some_iff, complete_iff]
  constructor
  · intro hread row hrow
    exact hread _ ⟨row, hrow, rfl⟩
  · rintro hread _ ⟨row, hrow, rfl⟩
    exact hread row hrow

theorem mem_described {testbed : Testbed} :
    testbed ∈ described lines ↔ ∃ place, Describes lines place testbed := by
  simp only [described, List.mem_filterMap, List.mem_range, testbed?_eq_some_iff]
  exact ⟨fun ⟨place, _, hdescribes⟩ => ⟨place, hdescribes⟩,
    fun ⟨place, hdescribes⟩ => ⟨place, hdescribes.lt_length, hdescribes⟩⟩

theorem findRev?_described {p : Testbed → Bool} {testbed : Testbed} :
    (described lines).findRev? p = some testbed ↔
      p testbed = true ∧ ∃ place, Describes lines place testbed ∧
        ∀ later, place < later → ∀ other, Describes lines later other → p other = false := by
  simp only [described, findRev?_filterMap_range_eq_some_iff, testbed?_eq_some_iff]
  constructor
  · rintro ⟨place, -, hdescribes, hp, hlater⟩
    exact ⟨hp, place, hdescribes, fun later hgt other hother =>
      hlater later hother.lt_length hgt other hother⟩
  · rintro ⟨hp, place, hdescribes, hlater⟩
    exact ⟨place, hdescribes.lt_length, hdescribes, hp, fun later _ => hlater later⟩

/-! ### Rows in a row -/

/-- One line is read, and then the others. -/
theorem ofLines_cons {text : List Char} (rest : List (List Char))
    (hline : lines[place]? = some (Text.trim text)) :
    ofLines (columnsAbove lines place) (place + 1) (text :: rest) =
      match outcome? lines place with
      | none => ofLines (columnsAbove lines (place + 1)) (place + 2) rest
      | some (.error error) => .error error
      | some (.ok testbed) =>
        (ofLines (columnsAbove lines (place + 1)) (place + 2) rest).map (testbed :: ·) := by
  rw [columnsAbove_succ hline, ofLines]
  cases htext : Text.trim text with
  | nil => simp [outcome?, hline, htext, columns?]
  | cons c comment =>
      rw [htext] at hline
      by_cases hc : c = '#'
      · subst hc
        rw [outcome?, hline]
        rfl
      · have houtcome :
            outcome? lines place = some (readRow lines place (fields (c :: comment))) :=
          outcome?_eq_some_iff.mpr ⟨_, ⟨_, hline, by simp, by simpa using hc, rfl⟩, rfl⟩
        have hcolumns : columns? (c :: comment) = none := by simp [columns?, hc]
        rw [houtcome, hcolumns, Option.or_none, readRow]
        cases columnsAbove lines place with
        | none => simp [hc]
        | some columns =>
            simp only [List.cons.injEq, hc, false_and, imp_self, implies_true]
            cases ofRow columns (fields (c :: comment)) (place + 1) <;> rfl

/-- **Lines are read up to the first fault.** The induction goes along the lines from any place on;
the header found so far is the one above that place. -/
theorem ofLines_drop {texts : List (List Char)} {count : Nat}
    (hcount : place + count = texts.length) :
    ofLines (columnsAbove (texts.map Text.trim) place) (place + 1) (texts.drop place) =
      match (List.range' place count).findSome? (fault? (texts.map Text.trim)) with
      | some error => .error error
      | none => .ok ((List.range' place count).filterMap (testbed? (texts.map Text.trim))) := by
  induction count generalizing place with
  | zero =>
      rw [List.drop_eq_nil_of_le (by omega), ofLines]
      rfl
  | succ count ih =>
      have hplace : place < texts.length := by omega
      have hline : (texts.map Text.trim)[place]? = some (Text.trim texts[place]) := by
        simp [hplace]
      rw [List.drop_eq_getElem_cons hplace, ofLines_cons _ hline, List.range'_succ,
        List.findSome?_cons, List.filterMap_cons, ih (by omega)]
      simp only [fault?, testbed?]
      cases outcome? (texts.map Text.trim) place with
      | none => rfl
      | some result =>
          cases result with
          | error error => rfl
          | ok testbed =>
              cases (List.range' (place + 1) count).findSome? (fault? (texts.map Text.trim)) <;>
                rfl

end Lines

end SshCompliance.Testbed.Csv

namespace SshCompliance.Testbeds

open Testbed Testbed.Csv

theorem ofCsv_eq (text : String) :
    ofCsv text =
      match (List.range (linesOf text).length).findSome? (fault? (linesOf text)) with
      | some error => .error error
      | none => .ok (ofList (described (linesOf text))) := by
  let texts := Text.split (· = '\n') text.toList
  have hlength : texts.length = (linesOf text).length := (List.length_map _).symm
  have hread := ofLines_drop (Nat.zero_add texts.length)
  rw [List.drop_zero, ← List.range_eq_range', hlength] at hread
  have hcsv : ofCsv text = (ofLines (columnsAbove (linesOf text) 0) (0 + 1) texts).map ofList :=
    rfl
  refine hcsv.trans ((congrArg (Except.map ofList) hread).trans ?_)
  rw [← linesOf, ← described]
  cases (List.range (linesOf text).length).findSome? (fault? (linesOf text)) <;> rfl

theorem ofCsv_eq_ok_iff {text : String} {testbeds : Testbeds} :
    ofCsv text = .ok testbeds ↔
      (∀ place row, RowAt (linesOf text) place row → Complete (linesOf text) place row) ∧
        testbeds = ofList (described (linesOf text)) := by
  have hnone : (List.range (linesOf text).length).findSome? (fault? (linesOf text)) = none ↔
      ∀ place row, RowAt (linesOf text) place row → Complete (linesOf text) place row := by
    simp only [List.findSome?_eq_none_iff, List.mem_range, fault?_eq_none_iff]
    exact ⟨fun h place row hrow => h place hrow.lt_length row hrow, fun h place _ => h place⟩
  rw [ofCsv_eq]
  cases hfirst : (List.range (linesOf text).length).findSome? (fault? (linesOf text)) with
  | none => simp [← hnone, hfirst, eq_comm (a := testbeds)]
  | some error => simp [← hnone, hfirst]

theorem ofCsv_eq_error_iff {text : String} {error : Error} :
    ofCsv text = .error error ↔
      ∃ place row, RowAt (linesOf text) place row ∧ Fault (linesOf text) place row error ∧
        ∀ earlier < place, ∀ row, RowAt (linesOf text) earlier row →
          Complete (linesOf text) earlier row := by
  have hfirst : ofCsv text = .error error ↔
      (List.range (linesOf text).length).findSome? (fault? (linesOf text)) = some error := by
    rw [ofCsv_eq]
    cases (List.range (linesOf text).length).findSome? (fault? (linesOf text)) <;> simp
  simp only [hfirst, findSome?_range_eq_some_iff, fault?_eq_some_iff, fault?_eq_none_iff]
  constructor
  · rintro ⟨place, -, ⟨row, hrow, hfault⟩, hearlier⟩
    exact ⟨place, row, hrow, hfault, hearlier⟩
  · rintro ⟨place, row, hrow, hfault, hearlier⟩
    exact ⟨place, hrow.lt_length, ⟨row, hrow, hfault⟩, hearlier⟩

/-- **A text is read by the grammar of rows.** It is read if and only if every row is complete, and
then there is one testbed for each name, the one of the last row of that name. Otherwise the error
says what is wrong with the first row that is not complete. -/
theorem ofCsv_follows_grammar (text : String) :
    let lines := linesOf text
    ((∃ testbeds, ofCsv text = .ok testbeds) ↔
      ∀ place row, RowAt lines place row → Complete lines place row) ∧
    (∀ testbeds, ofCsv text = .ok testbeds →
      (∀ name testbed, testbeds.get? name = some testbed ↔
        testbed.name = name ∧ ∃ place, Describes lines place testbed ∧
          ∀ later, place < later → ∀ other, Describes lines later other → other.name ≠ name) ∧
      ∃ names : Finset String, testbeds.size = names.card ∧
        ∀ name, name ∈ names ↔
          ∃ place testbed, Describes lines place testbed ∧ testbed.name = name) ∧
    ∀ error, ofCsv text = .error error ↔
      ∃ place row, RowAt lines place row ∧ Fault lines place row error ∧
        ∀ earlier < place, ∀ row, RowAt lines earlier row → Complete lines earlier row := by
  intro lines
  refine ⟨?_, fun testbeds hok => ⟨fun name testbed => ?_, ?_⟩, fun error => ofCsv_eq_error_iff⟩
  · simp only [ofCsv_eq_ok_iff, exists_and_left, exists_eq, and_true]
    rfl
  · rw [(ofCsv_eq_ok_iff.mp hok).2, get?_ofList, findRev?_described]
    simp only [decide_eq_true_iff, decide_eq_false_iff_not]
    rfl
  · refine ⟨((described lines).map Testbed.name).toFinset, ?_, fun name => ?_⟩
    · rw [(ofCsv_eq_ok_iff.mp hok).2, size_ofList]
    · simp only [List.mem_toFinset, List.mem_map, mem_described]
      constructor
      · rintro ⟨testbed, ⟨place, hdescribes⟩, hname⟩
        exact ⟨place, testbed, hdescribes, hname⟩
      · rintro ⟨place, testbed, hdescribes, hname⟩
        exact ⟨testbed, ⟨place, hdescribes⟩, hname⟩

/-- A second header that is passed over, a column that comes twice, a short row, a name that comes
twice; then a file whose sixth line lacks a field, and one whose header comes too late. -/
theorem ofCsv_follows_grammar_of_shadowed_columns :
    let text := "\n#\tconf-name,dut,inv_name, dut ,topo\r\nt1,a,lab,[b;c],t0\n" ++
      "# conf-name\n t1 ,,veos,d\n"
    let short := text ++ "t2,a,lab\n"
    let headless := "# t1,a,lab\nt1,a,lab" ++ text
    (∃ testbeds, ofCsv text = .ok testbeds ∧ testbeds.size = 1 ∧
      testbeds.get? "t1" = some ⟨"t1", "", ["d"], "veos"⟩ ∧
      ∃ place, Describes (linesOf text) place ⟨"t1", "", ["d"], "veos"⟩ ∧
        ∀ later, place < later → ∀ other, Describes (linesOf text) later other →
          other.name ≠ "t1") ∧
    (ofCsv short = .error (.testbed "Line 6: missing column dut") ∧
      ∃ place row, RowAt (linesOf short) place row ∧
        Fault (linesOf short) place row (.testbed "Line 6: missing column dut") ∧
        ∀ earlier < place, ∀ row, RowAt (linesOf short) earlier row →
          Complete (linesOf short) earlier row) ∧
    ofCsv headless = .error (.testbed "Testbed CSV has no '# conf-name,...' header") ∧
      ∃ place row, RowAt (linesOf headless) place row ∧
        Fault (linesOf headless) place row
          (.testbed "Testbed CSV has no '# conf-name,...' header") := by
  intro text short headless
  have hread : ofCsv text = .ok (ofList [⟨"t1", "", ["d"], "veos"⟩]) := by decide
  have hshort : ofCsv short = .error (.testbed "Line 6: missing column dut") := by decide
  have hheadless :
      ofCsv headless = .error (.testbed "Testbed CSV has no '# conf-name,...' header") := by decide
  have hget : (ofList [⟨"t1", "", ["d"], "veos"⟩]).get? "t1" =
      some ⟨"t1", "", ["d"], "veos"⟩ := by decide
  obtain ⟨-, hholds, -⟩ := ofCsv_follows_grammar text
  obtain ⟨-, -, hlacking⟩ := ofCsv_follows_grammar short
  obtain ⟨-, -, herror⟩ := ofCsv_follows_grammar headless
  obtain ⟨-, hlast⟩ := ((hholds _ hread).1 _ _).mp hget
  obtain ⟨place, row, hrow, hfault, -⟩ := (herror _).mp hheadless
  exact ⟨⟨_, hread, by decide, hget, hlast⟩, ⟨hshort, (hlacking _).mp hshort⟩, hheadless, place,
    row, hrow, hfault⟩

end SshCompliance.Testbeds
