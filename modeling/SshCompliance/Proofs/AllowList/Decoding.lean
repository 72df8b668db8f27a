import SshCompliance.Proofs.AllowList.Growth
import SshCompliance.Proofs.Json.RoundTrip
import SshCompliance.Proofs.Json.Untyped
import SshCompliance.Proofs.Text.Items

/-!
# Allow-lists as JSON

An allow-list is read from an array of names or from one string that joins them, and it makes no
difference which. What it is written as is the array, and that is read as the list again.
-/

namespace SshCompliance.AllowList

theorem ofJson?_texts (names : List String) :
    ofJson? (.array (names.map .string)) = some (ofNames names) := by
  change (Json.texts? (.array (names.map .string))).map ofNames = some (ofNames names)
  rw [Json.texts?_map, Option.map_some]

theorem ofJson?_toJson (list : AllowList) : ofJson? list.toJson = some list := by
  rw [toJson, ofJson?_texts, ofNames_names]

theorem ofJoined_of_joins {text : String} {names : List String}
    (hnames : ∀ name ∈ names, Text.IsItem ',' name.toList)
    (hjoins : Text.Joins ',' text.toList (names.map String.toList)) :
    ofJoined text = ofNames names := by
  have hitems := Text.items_of_joins (by decide) (List.forall_mem_map.mpr hnames) hjoins
  rw [ofJoined, Text.map_ofList_eq_iff.mpr hitems]

theorem isItem_of_mem_ofJoined {text name : String} (hname : name ∈ (ofJoined text).names) :
    Text.IsItem ',' name.toList := by
  rw [ofJoined, names_ofNames, List.mem_eraseDups] at hname
  obtain ⟨item, hitem, rfl⟩ := List.mem_map.mp hname
  rw [String.toList_ofList]
  exact Text.isItem_of_mem_items hitem

/-- **Joined and listed names.** Names that are trimmed, not empty, and without commas may be joined
by commas, with blanks around each of them and blank items anywhere. The string is read as the list
that the array of the names is read as: the distinct names in the order of their first appearance.
Every string is read as a list of such names. Any list, however it was read, is written as what is
read as the same list again. -/
theorem ofJson?_joined_or_listed :
    (∀ (names : List String) (text : String),
      (∀ name ∈ names, Text.IsItem ',' name.toList) →
      Text.Joins ',' text.toList (names.map String.toList) →
      ∃ list, list.names = names.eraseDups ∧ ofJson? (.string text) = some list ∧
        ofJson? (.array (names.map .string)) = some list) ∧
    (∀ text, ∃ list, ofJson? (.string text) = some list ∧
      ∀ name ∈ list.names, Text.IsItem ',' name.toList) ∧
    ∀ list : AllowList, ofJson? list.toJson = some list ∧
      (Json.parse? list.toJson.compact).bind ofJson? = some list ∧
      (Json.parse? list.toJson.pretty).bind ofJson? = some list := by
  refine ⟨?_, ?_, ?_⟩
  · intro names text hnames hjoins
    refine ⟨ofNames names, names_ofNames names, ?_, ofJson?_texts names⟩
    rw [ofJson?, ofJoined_of_joins hnames hjoins]
  · intro text
    exact ⟨ofJoined text, rfl, fun name hname => isItem_of_mem_ofJoined hname⟩
  · intro list
    have htextual : list.toJson.Textual := Json.textual_texts list.names
    refine ⟨list.ofJson?_toJson, ?_, ?_⟩
    · rw [Json.parse?_compact htextual, Option.bind_some, ofJson?_toJson]
    · rw [Json.parse?_pretty htextual, Option.bind_some, ofJson?_toJson]

/-- A name comes twice, blanks stand around it once, and two items are blank. -/
theorem ofJson?_joined_or_listed_of_blanks :
    let names := ["hmac-sha2-512", "umac-128@openssh.com", "hmac-sha2-512"]
    let text := "hmac-sha2-512,\u2003umac-128@openssh.com ,,hmac-sha2-512, \t"
    ∃ list : AllowList, list.names = ["hmac-sha2-512", "umac-128@openssh.com"] ∧
      ofJson? (.string text) = some list ∧ ofJson? (.array (names.map .string)) = some list := by
  intro names text
  have hnames : ∀ name ∈ names, Text.IsItem ',' name.toList := by decide
  let first := "hmac-sha2-512".toList
  let second := "umac-128@openssh.com".toList
  have hspaces : Text.Gap ['\u2003'] ∧ Text.Gap [' '] ∧ Text.Gap [' ', '\t'] := by decide
  have hpadded : Text.Padded
      [[] ++ first ++ [], ['\u2003'] ++ second ++ [' '], [], [] ++ first ++ [], [' ', '\t']]
      (names.map String.toList) :=
    .item .nil .nil <| .item hspaces.1 hspaces.2.1 <| .blank .nil <| .item .nil .nil <|
      .blank hspaces.2.2 .nil
  have hjoins : Text.Joins ',' text.toList (names.map String.toList) :=
    ⟨_, hpadded, by decide +kernel⟩
  exact ofJson?_joined_or_listed.1 names text hnames hjoins

end SshCompliance.AllowList
