import SshCompliance.Config.KeyPath
import SshCompliance.Config.Basic
import SshCompliance.Proofs.AllowList.Decoding
import SshCompliance.Proofs.Json.Members

/-!
# Parts of a configuration

A configuration may be given in part, and its lists again in part. Read directly, without layers, a
part keeps what it gives, and all else has its default, field by field and list by list. Given as a
whole, every configuration comes back.
-/

namespace SshCompliance

open Config (membersOf)

namespace AllowLists

/-- The lists of the given names; the others are the default ones. -/
def keeping (lists : AllowLists) (given : List String) : AllowLists where
  ciphers := if "enc_ciphers" ∈ given then lists.ciphers else default.ciphers
  macs := if "macs" ∈ given then lists.macs else default.macs
  kexs := if "kexs" ∈ given then lists.kexs else default.kexs

theorem ofJson?_of_isPart {lists : AllowLists} {given : List String} {value : Json}
    (hpart : Json.IsPart (membersOf lists.toJson) given value) :
    ofJson? value = some (lists.keeping given) := by
  obtain ⟨field, hrecord, hfield⟩ := hpart.exists_record? (rfl : _ = members) (by decide)
  have hread (category : Category) :
      Json.optional? AllowList.ofJson? (default.get category) (field (member category)) =
        some (if member category ∈ given then lists.get category else default.get category) := by
    have hlist : field (member category) =
        if member category ∈ given then some (lists.get category).toJson else none := by
      cases category <;> exact hfield _ (by decide)
    rw [hlist]
    exact Json.optional?_ite (lists.get category).ofJson?_toJson _ _
  simp only [ofJson?, hrecord, hread, Option.bind_eq_bind, Option.bind_some]
  rfl

theorem textual_of_isPart {lists : AllowLists} {given : List String} {value : Json}
    (hpart : Json.IsPart (membersOf lists.toJson) given value) : value.Textual := by
  refine hpart.textual fun member hmember => ?_
  obtain ⟨category, -, rfl⟩ := List.mem_map.mp hmember
  exact Json.textual_texts _

end AllowLists

namespace Config

/-- What a configuration is written as, with its lists written in another way. -/
def membersWith (config : Config) (lists : Json) : List (String × Json) :=
  (membersOf config.toJson).map fun member =>
    if member.1 = "allow_lists" then (member.1, lists) else member

theorem membersWith_self (config : Config) :
    config.membersWith config.allowLists.toJson = membersOf config.toJson := rfl

/-- The fields of the given names, and of the lists among them those of given names; all else is
the default. -/
def keeping (config : Config) (given lists : List String) : Config where
  logLevel := if "log_level" ∈ given then config.logLevel else default.logLevel
  testbed := if "testbed" ∈ given then config.testbed else default.testbed
  testbedFile := if "testbed_file" ∈ given then config.testbedFile else default.testbedFile
  inventoryDir := if "inventory_dir" ∈ given then config.inventoryDir else default.inventoryDir
  ansibleBin := if "ansible_bin" ∈ given then config.ansibleBin else default.ansibleBin
  outputMarker := if "output_marker" ∈ given then config.outputMarker else default.outputMarker
  onQueryFailure :=
    if "on_query_failure" ∈ given then config.onQueryFailure else default.onQueryFailure
  allowLists :=
    if "allow_lists" ∈ given then config.allowLists.keeping lists else default.allowLists

variable {config : Config} {given names : List String} {lists value : Json}

theorem nullable_testbed (config : Config) :
    Json.nullable? Json.text? ((config.testbed.map Json.string).getD .null) =
      some config.testbed := by
  cases config.testbed <;> rfl

theorem ofJson?_of_isPart
    (hlists : Json.IsPart (membersOf config.allowLists.toJson) names lists)
    (hpart : Json.IsPart (config.membersWith lists) given value) :
    ofJson? value = some (config.keeping given names) := by
  obtain ⟨field, hrecord, hfield⟩ := hpart.exists_record? (rfl : _ = fields) (by decide)
  have hread {α : Type} (name : String) (read : Json → Option α) (default : α) {value : Json}
      {result : α} (hname : name ∈ fields)
      (hvalue : (config.membersWith lists).lookup name = some value)
      (hresult : read value = some result) :
      Json.optional? read default (field name) =
        some (if name ∈ given then result else default) := by
    rw [hfield name hname, hvalue]
    exact Json.optional?_ite hresult default _
  have hlevel := hread "log_level" Json.text? default.logLevel (by decide) rfl rfl
  have htestbed := hread "testbed" (Json.nullable? Json.text?) default.testbed (by decide) rfl
    config.nullable_testbed
  have hfile := hread "testbed_file" Json.text? default.testbedFile (by decide) rfl rfl
  have hfolder := hread "inventory_dir" Json.text? default.inventoryDir (by decide) rfl rfl
  have hprogram := hread "ansible_bin" Json.text? default.ansibleBin (by decide) rfl rfl
  have hmarker := hread "output_marker" Json.text? default.outputMarker (by decide) rfl rfl
  have hpolicy := hread "on_query_failure" FailurePolicy.ofJson? default.onQueryFailure
    (by decide) rfl config.onQueryFailure.ofJson?_toJson
  have hallowed := hread "allow_lists" AllowLists.ofJson? default.allowLists (by decide) rfl
    (AllowLists.ofJson?_of_isPart hlists)
  simp only [ofJson?, hrecord, hlevel, htestbed, hfile, hfolder, hprogram, hmarker, hpolicy,
    hallowed, Option.bind_eq_bind, Option.bind_some]
  rfl

theorem textual_of_isPart
    (hlists : Json.IsPart (membersOf config.allowLists.toJson) names lists)
    (hpart : Json.IsPart (config.membersWith lists) given value) : value.Textual := by
  have htestbed : ((config.testbed.map Json.string).getD .null).Textual := by
    cases config.testbed with
    | none => exact .null
    | some name => exact .string name
  have hmembers : config.membersWith lists = [
      ("log_level", .string config.logLevel),
      ("testbed", (config.testbed.map Json.string).getD .null),
      ("testbed_file", .string config.testbedFile),
      ("inventory_dir", .string config.inventoryDir),
      ("ansible_bin", .string config.ansibleBin),
      ("output_marker", .string config.outputMarker),
      ("on_query_failure", config.onQueryFailure.toJson),
      ("allow_lists", lists)] := rfl
  refine hpart.textual ?_
  simp only [hmembers, List.forall_mem_cons]
  exact ⟨.string _, htestbed, .string _, .string _, .string _, .string _, .string _,
    AllowLists.textual_of_isPart hlists, List.forall_mem_nil _⟩

theorem keeping_all (config : Config) : config.keeping fields AllowLists.members = config := by
  rfl

/-- **Parts keep the defaults.** An object with some of the members of a configuration as it is
written, and of its lists some again, in any order and mixed with members of other names on both
levels, is read as the configuration that has what is given and the defaults of all else. With all
members given, every configuration is what its texts are read as. -/
theorem parts_keep_defaults (config : Config) :
    (∀ {given names : List String} {lists value : Json} {text : String},
      Json.IsPart (membersOf config.allowLists.toJson) names lists →
      Json.IsPart (config.membersWith lists) given value →
      (text = value.compact ∨ text = value.pretty ∨ Json.parse? text = some value) →
      (Json.parse? text).bind ofJson? = some (config.keeping given names)) ∧
    (Json.parse? config.toJson.compact).bind ofJson? = some config ∧
    (Json.parse? config.toJson.pretty).bind ofJson? = some config := by
  have hparts {given names : List String} {lists value : Json} {text : String}
      (hlists : Json.IsPart (membersOf config.allowLists.toJson) names lists)
      (hpart : Json.IsPart (config.membersWith lists) given value)
      (htext : text = value.compact ∨ text = value.pretty ∨ Json.parse? text = some value) :
      (Json.parse? text).bind ofJson? = some (config.keeping given names) := by
    have htextual := textual_of_isPart hlists hpart
    have hparsed : Json.parse? text = some value := by
      obtain rfl | rfl | hparsed := htext
      · exact Json.parse?_compact htextual
      · exact Json.parse?_pretty htextual
      · exact hparsed
    rw [hparsed, Option.bind_some]
    exact ofJson?_of_isPart hlists hpart
  have hlists : Json.IsPart (membersOf config.allowLists.toJson) AllowLists.members
      config.allowLists.toJson := Json.isPart_self _
  have hwhole : Json.IsPart (config.membersWith config.allowLists.toJson) fields config.toJson := by
    rw [membersWith_self]
    exact Json.isPart_self _
  refine ⟨hparts, ?_, ?_⟩
  · rw [hparts hlists hwhole (.inl rfl), keeping_all]
  · rw [hparts hlists hwhole (.inr (.inl rfl)), keeping_all]

/-- Three fields and one list are given, out of order, among members with other names, one of them
twice. -/
theorem parts_keep_defaults_of_unknown_members :
    let text := "\x7b\"note\":\"a\",\"on_query_failure\":\"fail\",\"note\":\"b\"," ++
      "\"allow_lists\":\x7b\"ciphers\":\"aes128-cbc\",\"kexs\":[\"curve25519-sha256\"]\x7d," ++
      "\"testbed\":\"vms-t0\",\"Testbed\":\"\"\x7d"
    (Json.parse? text).bind ofJson? = some { default with
      testbed := some "vms-t0"
      onQueryFailure := .fail
      allowLists := AllowLists.default.put .kex (.ofNames ["curve25519-sha256"]) } := by
  intro text
  let config : Config := {
    logLevel := "debug"
    testbed := some "vms-t0"
    testbedFile := ""
    inventoryDir := "/"
    ansibleBin := "ansible-2"
    outputMarker := ">>"
    onQueryFailure := .fail
    allowLists := ⟨.empty, .ofNames ["umac-64"], .ofNames ["curve25519-sha256"]⟩ }
  let lists : Json := .object
    [("ciphers", .string "aes128-cbc"), ("kexs", .array [.string "curve25519-sha256"])]
  let value : Json := .object [("note", .string "a"), ("on_query_failure", .string "fail"),
    ("note", .string "b"), ("allow_lists", lists), ("testbed", .string "vms-t0"),
    ("Testbed", .string "")]
  have hlists : Json.IsPart (membersOf config.allowLists.toJson) ["kexs"] lists := by
    refine .object [("ciphers", .string "aes128-cbc")] (.swap ..) ?_
    exact List.forall_mem_singleton.mpr ⟨(by decide : "ciphers" ∉ AllowLists.members), .string _⟩
  have hperm (first policy second inner name third : String × Json) :
      [first, policy, second, inner, name, third].Perm
        [name, policy, inner, first, second, third] :=
    (@List.perm_middle _ name [first, policy, second, inner] [third]).trans <| .cons _ <|
      (@List.perm_middle _ policy [first] [second, inner, third]).trans <| .cons _ <|
        @List.perm_middle _ inner [first, second] [third]
  have hpart : Json.IsPart (config.membersWith lists)
      ["testbed", "allow_lists", "on_query_failure"] value := by
    refine .object [("note", .string "a"), ("note", .string "b"), ("Testbed", .string "")]
      (hperm ..) ?_
    have hnote : "note" ∉ fields := by decide
    have hupper : "Testbed" ∉ fields := by decide
    exact List.forall_mem_cons.mpr ⟨⟨hnote, .string _⟩, List.forall_mem_cons.mpr
      ⟨⟨hnote, .string _⟩, List.forall_mem_singleton.mpr ⟨hupper, .string _⟩⟩⟩
  have htext : text = value.compact := by decide +kernel
  exact (parts_keep_defaults config).1 hlists hpart (.inl htext)

end Config

end SshCompliance
