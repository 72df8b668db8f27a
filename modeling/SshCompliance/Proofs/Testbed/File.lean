import SshCompliance.Proofs.Json.RoundTrip
import SshCompliance.Proofs.Testbed.Grammar
import SshCompliance.Testbed.File
import Mathlib.Data.List.Sort

/-!
# What a file of testbeds says

The extension of a path decides how the text behind it is read. As JSON it says the testbeds of its
records, as rows those of its rows, each in their order, or else there is something wrong with it.
The testbeds that a file gives are put together from what it says.
-/

namespace SshCompliance

namespace Testbed.Csv

/-- The testbeds of all rows, in their order. -/
def Tabulates (lines : List (List Char)) (testbeds : List Testbed) : Prop :=
  ∃ places : List Nat, places.Pairwise (· < ·) ∧
    (∀ place, place ∈ places ↔ ∃ row, RowAt lines place row) ∧
    List.Forall₂ (Describes lines) places testbeds

variable {lines : List (List Char)} {place : Nat} {testbeds : List Testbed}

theorem RowAt.unique {row other : List String} (hrow : RowAt lines place row)
    (hother : RowAt lines place other) : row = other := by
  obtain ⟨line, hline, -, -, rfl⟩ := hrow
  obtain ⟨line', hline', -, -, rfl⟩ := hother
  exact congrArg fields (Option.some.inj (hline.symm.trans hline'))

def rowPlaces (lines : List (List Char)) : List Nat :=
  (List.range lines.length).filter fun place => (outcome? lines place).isSome

theorem mem_rowPlaces : place ∈ rowPlaces lines ↔ ∃ row, RowAt lines place row := by
  simp only [rowPlaces, List.mem_filter, List.mem_range, Option.isSome_iff_exists,
    outcome?_eq_some_iff]
  constructor
  · rintro ⟨-, _, row, hrow, -⟩
    exact ⟨row, hrow⟩
  · rintro ⟨row, hrow⟩
    exact ⟨hrow.lt_length, _, row, hrow, rfl⟩

theorem pairwise_rowPlaces (lines : List (List Char)) : (rowPlaces lines).Pairwise (· < ·) :=
  List.pairwise_lt_range.filter _

theorem described_eq (lines : List (List Char)) :
    described lines = (rowPlaces lines).filterMap (testbed? lines) := by
  rw [rowPlaces, List.filterMap_filter, described]
  congr 1
  funext place
  rw [testbed?]
  cases outcome? lines place <;> rfl

theorem forall_complete_iff :
    (∀ place row, RowAt lines place row → Complete lines place row) ↔
      ∀ place ∈ rowPlaces lines, ∃ testbed, Describes lines place testbed := by
  simp only [mem_rowPlaces, complete_iff, readRow_eq_ok_iff]
  constructor
  · rintro hcomplete place ⟨row, hrow⟩
    obtain ⟨testbed, hsays⟩ := hcomplete place row hrow
    exact ⟨testbed, row, hrow, hsays⟩
  · rintro hdescribed place row hrow
    obtain ⟨testbed, other, hother, hsays⟩ := hdescribed place ⟨row, hrow⟩
    obtain rfl := hother.unique hrow
    exact ⟨testbed, hsays⟩

theorem forall₂_eq_some_iff {f : α → Option β} {keys : List α} {values : List β} :
    List.Forall₂ (fun key value => f key = some value) keys values ↔
      (∀ key ∈ keys, ∃ value, f key = some value) ∧ values = keys.filterMap f := by
  induction keys generalizing values with
  | nil => simp
  | cons key keys ih =>
      rw [List.forall₂_cons_left_iff, List.forall_mem_cons]
      cases hkey : f key with
      | none => simp
      | some value => simp [ih, hkey]

theorem tabulates_iff :
    Tabulates lines testbeds ↔
      (∀ place row, RowAt lines place row → Complete lines place row) ∧
        testbeds = described lines := by
  have hplaces : Tabulates lines testbeds ↔
      List.Forall₂ (Describes lines) (rowPlaces lines) testbeds := by
    constructor
    · rintro ⟨places, hsorted, hrows, hdescribe⟩
      -- places in ascending order are settled by which places they are
      have hsame : places = rowPlaces lines :=
        hsorted.eq_of_mem_iff (pairwise_rowPlaces lines) fun place =>
          (hrows place).trans mem_rowPlaces.symm
      exact hsame ▸ hdescribe
    · exact fun hdescribe => ⟨_, pairwise_rowPlaces lines, fun _ => mem_rowPlaces, hdescribe⟩
  have hrelation : Describes lines = fun place testbed => testbed? lines place = some testbed := by
    funext place testbed
    rw [testbed?_eq_some_iff]
  rw [hplaces, forall_complete_iff, described_eq, hrelation, forall₂_eq_some_iff]

end Testbed.Csv

namespace Testbeds

open Testbed Testbed.Csv

/-- What the text of a file says, or what is wrong with it. -/
inductive Reads (path text : String) : Except Error (List Testbed) → Prop
  | records {values : List Json} {entries : List Testbed}
    (hformat : Path.extension? path = some "json")
    (hparsed : Json.parse? text = some (.array values))
    (hentries : List.Forall₂ (fun value entry => Testbed.ofJson? value = some entry)
      values entries) : Reads path text (.ok entries)
  | unrecorded (hformat : Path.extension? path = some "json")
    (hnone : ∀ values entries, Json.parse? text = some (.array values) →
      ¬List.Forall₂ (fun value entry => Testbed.ofJson? value = some entry) values entries) :
    Reads path text (.error (.json "no list of testbeds"))
  | rows {entries : List Testbed} (hformat : Path.extension? path ≠ some "json")
    (hentries : Tabulates (linesOf text) entries) : Reads path text (.ok entries)
  | faulty {place : Nat} {row : List String} {error : Error}
    (hformat : Path.extension? path ≠ some "json") (hrow : RowAt (linesOf text) place row)
    (hfault : Fault (linesOf text) place row error)
    (hearlier : ∀ earlier < place, ∀ row, RowAt (linesOf text) earlier row →
      Complete (linesOf text) earlier row) : Reads path text (.error error)

variable {path text : String}

theorem ofText_of_reads {read : Except Error (List Testbed)} (hreads : Reads path text read) :
    ofText path text = read.map ofList := by
  cases hreads with
  | records hformat hparsed hentries =>
      rw [ofText, if_pos hformat, ofJsonText, hparsed, Option.bind_some, ofJson?,
        Json.list?_of_forall₂ hentries]
      rfl
  | unrecorded hformat hnone =>
      rw [ofText, if_pos hformat, ofJsonText]
      have hunread : (Json.parse? text).bind ofJson? = none := by
        refine Option.eq_none_iff_forall_ne_some.mpr fun testbeds hread => ?_
        obtain ⟨value, hparsed, hvalue⟩ := Option.bind_eq_some_iff.mp hread
        obtain ⟨entries, hentries, -⟩ := Option.map_eq_some_iff.mp hvalue
        obtain ⟨values, rfl, hrecords⟩ := Json.exists_array_of_list? hentries
        exact hnone values entries hparsed hrecords
      rw [hunread]
      rfl
  | rows hformat hentries =>
      rw [ofText, if_neg hformat]
      exact ofCsv_eq_ok_iff.mpr ((tabulates_iff.mp hentries).imp_right (congrArg ofList))
  | faulty hformat hrow hfault hearlier =>
      rw [ofText, if_neg hformat]
      exact ofCsv_eq_error_iff.mpr ⟨_, _, hrow, hfault, hearlier⟩

theorem exists_reads (path text : String) : ∃ read, Reads path text read := by
  by_cases hformat : Path.extension? path = some "json"
  · by_cases hexists : ∃ values entries, Json.parse? text = some (.array values) ∧
        List.Forall₂ (fun value entry => Testbed.ofJson? value = some entry) values entries
    · obtain ⟨values, entries, hparsed, hentries⟩ := hexists
      exact ⟨_, .records hformat hparsed hentries⟩
    · exact ⟨_, .unrecorded hformat fun values entries hparsed hentries =>
        hexists ⟨values, entries, hparsed, hentries⟩⟩
  · cases hread : ofCsv text with
    | ok testbeds =>
        have hcomplete := (ofCsv_eq_ok_iff.mp hread).1
        exact ⟨_, .rows hformat (tabulates_iff.mpr ⟨hcomplete, rfl⟩)⟩
    | error error =>
        obtain ⟨place, row, hrow, hfault, hearlier⟩ := ofCsv_eq_error_iff.mp hread
        exact ⟨_, .faulty hformat hrow hfault hearlier⟩

end Testbeds

end SshCompliance
