import SshCompliance.Proofs.Json.Members
import SshCompliance.Proofs.Testbed.Entries
import SshCompliance.Proofs.Testbed.Rows

/-!
# The two layouts agree

Testbeds that are written in rows and as records are the same testbeds to every reader of them.
-/

namespace SshCompliance

namespace Testbed

/-- The members of a record, with the hosts in one of their two forms. -/
def members (testbed : Testbed) (hosts : Json) : List (String × Json) :=
  fields.zip [.string testbed.name, .string testbed.topology, hosts, .string testbed.inventory]

inductive IsHosts (hosts : List String) : Json → Prop
  | list : IsHosts hosts (.array (hosts.map .string))
  | text : IsHosts hosts (.string (bracketed hosts))

/-- The members of a testbed stand in any order, and others with them. -/
inductive IsRecord (testbed : Testbed) : Json → Prop
  | object {members : List (String × Json)} {hosts : Json} (others : List (String × Json))
    (hhosts : IsHosts testbed.duts hosts)
    (hmembers : members.Perm (testbed.members hosts ++ others))
    (hothers : ∀ other ∈ others, other.1 ∉ fields ∧ other.2.Textual)
    (hdistinct : (others.map Prod.fst).Nodup) : IsRecord testbed (.object members)

variable {testbed : Testbed} {value : Json}

theorem IsHosts.textual {hosts : List String} (hvalue : IsHosts hosts value) : value.Textual := by
  cases hvalue with
  | list => exact Json.textual_texts hosts
  | text => exact .string _

theorem IsRecord.exists_isPart (hvalue : IsRecord testbed value) :
    ∃ hosts, IsHosts testbed.duts hosts ∧ Json.IsPart (testbed.members hosts) fields value := by
  cases hvalue with
  | @object members hosts others hhosts hmembers hothers hdistinct =>
      exact ⟨hosts, hhosts, .object others hmembers hothers⟩

theorem IsRecord.textual (hvalue : IsRecord testbed value) : value.Textual := by
  obtain ⟨hosts, hhosts, hpart⟩ := hvalue.exists_isPart
  refine hpart.textual fun member hmem => ?_
  have hvalue := (List.of_mem_zip (a := member.1) (b := member.2) hmem).2
  simp only [List.mem_cons, List.not_mem_nil, or_false] at hvalue
  obtain hvalue | hvalue | hvalue | hvalue := hvalue
  · exact hvalue ▸ .string _
  · exact hvalue ▸ .string _
  · exact hvalue ▸ hhosts.textual
  · exact hvalue ▸ .string _

theorem hostsOfJson?_of_isHosts {hosts : List String} (hhosts : ∀ host ∈ hosts, IsHost host)
    (hvalue : IsHosts hosts value) : hostsOfJson? value = some hosts := by
  cases hvalue with
  | list => exact Json.texts?_map hosts
  | text => rw [hostsOfJson?, parseHosts_bracketed hhosts]

theorem ofJson?_of_isRecord (hhosts : ∀ host ∈ testbed.duts, IsHost host)
    (hvalue : IsRecord testbed value) : ofJson? value = some testbed := by
  obtain ⟨hosts, hwritten, hpart⟩ := hvalue.exists_isPart
  obtain ⟨field, hrecord, hfield⟩ := hpart.exists_record? (rfl : _ = fields) (by decide)
  have hname : field "conf-name" = some (.string testbed.name) := hfield _ (by decide)
  have htopology : field "topo" = some (.string testbed.topology) := hfield _ (by decide)
  have hduts : field "dut" = some hosts := hfield _ (by decide)
  have hinventory : field "inv_name" = some (.string testbed.inventory) := hfield _ (by decide)
  simp only [ofJson?, hrecord, hname, htopology, hduts, hinventory,
    hostsOfJson?_of_isHosts hhosts hwritten, Json.text?, Json.optional?, Option.bind_eq_bind,
    Option.bind_some]

end Testbed

namespace Testbeds

open Testbed Testbed.Csv

theorem textual_of_isRecord {testbeds : List Testbed} {records : List Json}
    (hrecords : List.Forall₂ IsRecord testbeds records) : (Json.array records).Textual := by
  refine .array ?_
  induction hrecords with
  | nil => exact List.forall_mem_nil _
  | cons hrecord _ ih => exact List.forall_mem_cons.mpr ⟨hrecord.textual, ih⟩

theorem ofJson?_of_isRecords {testbeds : List Testbed} {records : List Json}
    (htestbeds : ∀ testbed ∈ testbeds, ∀ host ∈ testbed.duts, IsHost host)
    (hrecords : List.Forall₂ IsRecord testbeds records) :
    ofJson? (.array records) = some (ofList testbeds) := by
  have hread : List.Forall₂ (fun record testbed => Testbed.ofJson? record = some testbed)
      records testbeds := by
    induction hrecords with
    | nil => exact .nil
    | cons hrecord _ ih =>
        obtain ⟨hhosts, htestbeds⟩ := List.forall_mem_cons.mp htestbeds
        exact .cons (ofJson?_of_isRecord hhosts hrecord) (ih htestbeds)
  rw [ofJson?, Json.list?_of_forall₂ hread, Option.map_some]

/-- **Rows and records say the same.** Both are read, and as the same testbeds: one for each name,
and that is the last of its name. -/
theorem layouts_agree {columns lines : List String} {testbeds : List Testbed}
    {records : List Json} {text : String} (hcolumns : IsHeader columns)
    (htestbeds : ∀ testbed ∈ testbeds, IsWritable testbed)
    (hrows : IsRows columns lines testbeds)
    (hrecords : List.Forall₂ IsRecord testbeds records)
    (htext : text = (Json.array records).compact ∨ text = (Json.array records).pretty ∨
      Json.parse? text = some (.array records)) :
    ∃ read, ofCsv (sheet columns lines) = .ok read ∧ ofJsonText text = .ok read ∧
      read.size = (testbeds.map Testbed.name).toFinset.card ∧
      ∀ name, read.get? name = testbeds.findRev? (fun testbed => testbed.name = name) := by
  have hparsed : Json.parse? text = some (.array records) := by
    have htextual : (Json.array records).Textual := textual_of_isRecord hrecords
    obtain rfl | rfl | hparsed := htext
    · exact Json.parse?_compact htextual
    · exact Json.parse?_pretty htextual
    · exact hparsed
  have hhosts : ∀ testbed ∈ testbeds, ∀ host ∈ testbed.duts, IsHost host :=
    fun testbed hmem host hhost => ((htestbeds testbed hmem).hosts host hhost).1
  refine ⟨ofList testbeds, ofCsv_sheet hcolumns hrows htestbeds, ?_, size_ofList testbeds,
    get?_ofList testbeds⟩
  rw [ofJsonText, hparsed, Option.bind_some, ofJson?_of_isRecords hhosts hrecords]

/-- A name that comes twice, a testbed without hosts, and lines and members to be passed over. -/
theorem layouts_agree_of_repeated_name :
    let csv := "# conf-name,group name, inv_name,dut,#,topo ,#\n" ++
      "\nt1,g;1,lab,[a;b], x ,t0,\n  # t1,off\n#conf-name\n,,,[],[],,# no hosts\n \r\n" ++
      "t1,,veos,[c],,t1,\n"
    let json :=
      "[\x7b\"inv_name\":\"lab\",\"dut\":\"[a;b]\",\"topo\":\"t0\",\"conf-name\":\"t1\"\x7d," ++
      "\x7b\"comment\":null,\"conf-name\":\"\",\"topo\":\"\",\"dut\":[],\"inv_name\":\"\"\x7d," ++
      "\x7b\"conf-name\":\"t1\",\"topo\":\"t1\",\"dut\":[\"c\"],\"inv_name\":\"veos\"," ++
      "\"dut \":\"[d]\"\x7d]"
    ∃ read, ofCsv csv = .ok read ∧ ofJsonText json = .ok read ∧ read.size = 2 ∧
      read.get? "t1" = some ⟨"t1", "t1", ["c"], "veos"⟩ ∧ read.get? "" = some ⟨"", "", [], ""⟩ := by
  intro csv json
  let columns := ["conf-name", "group name", " inv_name", "dut", "#", "topo ", "#"]
  let lines := ["", line ["t1", "g;1", "lab", "[a;b]", " x ", "t0", ""], "  # t1,off", "#conf-name",
    line ["", "", "", "[]", "[]", "", "# no hosts"], " \r",
    line ["t1", "", "veos", "[c]", "", "t1", ""], ""]
  let first : Testbed := ⟨"t1", "t0", ["a", "b"], "lab"⟩
  let second : Testbed := ⟨"", "", [], ""⟩
  let third : Testbed := ⟨"t1", "t1", ["c"], "veos"⟩
  let records : List Json := [
    .object (first.members (.string "[a;b]")).reverse,
    .object (("comment", .null) :: second.members (.array [])),
    .object (third.members (.array [.string "c"]) ++ [("dut ", .string "[d]")])]
  have hrows : IsRows columns lines [first, second, third] :=
    .skipped (by decide) <| .row (by decide) <| .skipped (by decide) <| .skipped (by decide) <|
      .row (by decide) <| .skipped (by decide) <| .row (by decide) <| .skipped (by decide) .nil
  have hrecords : List.Forall₂ IsRecord [first, second, third] records := by
    refine .cons (.object [] .text ?_ (by simp) .nil) <|
      .cons (.object [("comment", .null)] .list ?_
        (by simp [Testbed.fields, Json.Textual.null]) (by simp)) <|
      .cons (.object [("dut ", .string "[d]")] .list (.refl _)
        (by simp [Testbed.fields, Json.Textual.string]) (by simp)) .nil
    · exact List.append_nil _ ▸ List.reverse_perm _
    · exact (List.perm_append_singleton _ _).symm
  have hcsv : csv = sheet columns lines := by decide
  have hjson : json = (Json.array records).compact := by decide +kernel
  rw [hcsv]
  obtain ⟨read, hcsv, hjson, hsize, hget⟩ :=
    layouts_agree (by decide) (by decide) hrows hrecords (.inl hjson)
  exact ⟨read, hcsv, hjson, hsize.trans (by decide), (hget _).trans (by decide),
    (hget _).trans (by decide)⟩

end Testbeds

end SshCompliance
