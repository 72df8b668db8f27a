import SshCompliance.Proofs.Config.Layering

/-!
# The configuration in force

A configuration is read from the defaults, a file and the environment, and then overridden. What it
says can be told from the sources alone: for every field the highest source that speaks of it
counts, and each list is decided by itself and taken whole. The main statement says so for every
file that names each field at most once, for every environment and for all overrides, and that only
the policy in force decides whether there is a configuration.
-/

namespace SshCompliance

namespace Config

/-- What a file gives: nothing if there is none, else the members of the object that it holds. -/
inductive Gives (files : Files) : Option String → List (String × Json) → Prop
  | nothing : Gives files none []
  | members {path text : String} {members : List (String × Json)} (hexist : files.exist path)
    (htext : textAt files path = .ok text) (hparse : Json.parse? text = some (.object members)) :
    Gives files (some path) members

/-- The text of a field, where the environment is above the file. A testbed that the file leaves
open is as open as the default leaves it. -/
def textInForce (members : List (String × Json)) (environment : List (String × String))
    (field : TextField) : Option String :=
  (environment.lookup (Place.text field).variableName).or
    (((members.lookup field.key).bind Json.text?).or (default.text field))

/-- The list of a category: a text with commas in the environment, else what the file gives it. -/
def listInForce (members : List (String × Json)) (environment : List (String × String))
    (category : Category) : Option AllowList :=
  ((environment.lookup (Place.list category).variableName).map AllowList.ofJoined).or
    (((fileSays members (.list category)).bind AllowList.ofJson?).or
      (some (AllowLists.default.get category)))

def sheetInForce (members : List (String × Json)) (environment : List (String × String)) : Sheet :=
  (Sheet.default.overlay (fileSays members)).overlay (environmentSays environment)

section

variable {members : List (String × Json)} {environment : List (String × String)}

theorem fits_sheetInForce (hmembers : OrdinaryMembers members) (place : Place) :
    Fits place (sheetInForce members environment place) :=
  Sheet.fits_overlay (Sheet.fits_overlay Sheet.fits_default hmembers.fits_fileSays)
    (fits_environmentSays environment) place

theorem text_sheetInForce (hmembers : OrdinaryMembers members) (field : TextField) :
    (sheetInForce members environment).text field = textInForce members environment field := by
  rw [Sheet.text, sheetInForce, Sheet.overlay, Sheet.overlay, environmentSays, textInForce]
  cases environment.lookup (Place.text field).variableName with
  | some text => rfl
  | none =>
      have hfits := hmembers.fits_fileSays (.text field)
      rw [fileSays] at hfits ⊢
      cases hvalue : members.lookup field.key with
      | none => cases field <;> rfl
      | some value =>
          cases hfits value hvalue with
          | text => rfl
          | noTestbed => rfl

theorem list_sheetInForce (hmembers : OrdinaryMembers members) (category : Category) :
    (sheetInForce members environment).list category =
      listInForce members environment category := by
  rw [Sheet.list, sheetInForce, Sheet.overlay, Sheet.overlay, environmentSays, listInForce]
  cases environment.lookup (Place.list category).variableName with
  | some text => rfl
  | none =>
      have hfits := hmembers.fits_fileSays (.list category)
      cases hvalue : fileSays members (.list category) with
      | none => cases category <;> rfl
      | some value =>
          obtain ⟨list, hlist⟩ := (hfits value hvalue).exists_list
          simp [hlist]

theorem merge_layers {layer : Layer} (hlayer : OrdinaryMembers layer)
    (henvironment : OrdinaryEnvironment environment) :
    merge [Layer.defaults, layer, Layer.ofEnvironment environment] =
      (sheetInForce layer environment).toJson := by
  have hlayers : [Layer.defaults, layer, Layer.ofEnvironment environment].foldl setLayer
      (.object []) = (sheetInForce layer environment).toJson := by
    simp only [List.foldl_cons, List.foldl_nil]
    rw [Sheet.setLayer_defaults, Sheet.setLayer_members _ hlayer,
      setLayer_ofEnvironment _ henvironment, sheetInForce]
  rw [merge, hlayers]
  exact Sheet.setLayer_toJson _ fun place => (fits_sheetInForce hlayer place).ne_object

theorem merge_nil (lower upper : Layer) : merge [lower, [], upper] = merge [lower, upper] := rfl

theorem read_eq {files : Files} {file : Option String} (hfile : Gives files file members)
    (hmembers : OrdinaryMembers members) (environment : List (String × String)) :
    ∃ layer, OrdinaryMembers layer ∧ fileSays layer = fileSays members ∧
      (read files file (some environment)).1 =
        ofMerged (merge [Layer.defaults, layer, Layer.ofEnvironment environment]) := by
  cases hfile with
  | nothing =>
      refine ⟨[], hmembers, rfl, ?_⟩
      rw [merge_nil]
      rfl
  | @members path text _ hexist htext hparse =>
      obtain ⟨layer, hlayer, hordinary, hsaid⟩ := hmembers.ofText? hparse
      refine ⟨layer, hordinary, hsaid, ?_⟩
      have hpresent : (some path).filter (fun path => !files.exist path) = none := by
        simp [hexist]
      have hread : fileLayer files path = .ok layer := by rw [fileLayer, htext]; simp [hlayer]
      rw [read, hpresent]
      simp [ofSources, hread, ofLayers, bind, Except.bind, pure, Except.pure]

/-- Layers that say the same of every place are the same sheet. -/
theorem sheetInForce_congr {layer : Layer} (hsaid : fileSays layer = fileSays members)
    (environment : List (String × String)) :
    sheetInForce layer environment = sheetInForce members environment := by
  rw [sheetInForce, hsaid, sheetInForce]

end

/-! ### Overrides -/

end Config

/-- The text that an override gives a field; some fields have no override. -/
def Overrides.text (overrides : Overrides) : Config.TextField → Option String
  | .logLevel => overrides.logLevel
  | .testbed => overrides.testbed
  | .testbedFile => overrides.testbedFile
  | .inventoryDir => overrides.inventoryDir
  | .onQueryFailure => overrides.onQueryFailure.map FailurePolicy.label
  | .ansibleBin | .outputMarker => none

theorem FailurePolicy.ofName?_label (policy : FailurePolicy) :
    ofName? policy.label = some policy := by
  cases policy <;> decide

theorem FailurePolicy.isSome_ofName? (name : String) :
    (ofName? name).isSome ↔ name.folded = "degrade" ∨ name.folded = "fail" := by
  rw [ofName?, List.find?_isSome]
  constructor
  · rintro ⟨policy, -, hlabel⟩
    have hname := (of_decide_eq_true hlabel).symm
    cases policy
    · exact .inl hname
    · exact .inr hname
  · rintro (hname | hname)
    · exact ⟨.degrade, by decide, decide_eq_true hname.symm⟩
    · exact ⟨.fail, by decide, decide_eq_true hname.symm⟩

namespace Config

theorem Says.override {config : Config} {text : TextField → Option String}
    {list : Category → Option AllowList} (hsaid : config.Says text list) (overrides : Overrides) :
    (config.override overrides).Says (fun field => (overrides.text field).or (text field))
      list where
  logLevel := by
    rw [← hsaid.logLevel]
    cases h : overrides.logLevel <;> simp [Config.override, Overrides.text, h]
  testbed := by
    rw [← hsaid.testbed]
    rfl
  testbedFile := by
    rw [← hsaid.testbedFile]
    cases h : overrides.testbedFile <;> simp [Config.override, Overrides.text, h]
  inventoryDir := by
    rw [← hsaid.inventoryDir]
    cases h : overrides.inventoryDir <;> simp [Config.override, Overrides.text, h]
  ansibleBin := hsaid.ansibleBin
  outputMarker := hsaid.outputMarker
  onQueryFailure := by
    cases h : overrides.onQueryFailure with
    | none => simpa [Config.override, Overrides.text, h] using hsaid.onQueryFailure
    | some policy => simp [Config.override, Overrides.text, h, FailurePolicy.ofName?_label]
  allowLists := hsaid.allowLists

/-- **Every field is decided by itself.** There is a configuration exactly if the policy in force is
one, in letters of any case; and it says, field by field, what the override gives or else the
highest source that speaks of the field. -/
theorem read_override_says {files : Files} {file : Option String}
    {members : List (String × Json)} {environment : List (String × String)}
    (hfile : Gives files file members) (hmembers : OrdinaryMembers members)
    (henvironment : OrdinaryEnvironment environment) (overrides : Overrides) :
    ((∃ config, (read files file (some environment)).1 = .ok config) ↔
      ∃ name, textInForce members environment .onQueryFailure = some name ∧
        (name.folded = "degrade" ∨ name.folded = "fail")) ∧
    ∀ config, (read files file (some environment)).1 = .ok config →
      (config.override overrides).Says
        (fun field => (overrides.text field).or (textInForce members environment field))
        (listInForce members environment) := by
  obtain ⟨layer, hlayer, hsaid, hread⟩ := read_eq hfile hmembers environment
  have hsheet := sheetInForce_congr hsaid environment
  have htext : (sheetInForce members environment).text = textInForce members environment :=
    funext fun field => text_sheetInForce hmembers field
  have hlist : (sheetInForce members environment).list = listInForce members environment :=
    funext fun category => list_sheetInForce hmembers category
  obtain ⟨hconfig, hexists⟩ := (sheetInForce members environment).ofMerged_toJson
    (fits_sheetInForce hmembers)
  rw [hread, merge_layers hlayer henvironment, hsheet]
  rw [htext, hlist] at hconfig
  rw [htext] at hexists
  refine ⟨hexists.trans ?_, fun config hok => (hconfig config hok).override overrides⟩
  cases textInForce members environment .onQueryFailure with
  | none => simp
  | some name => simp [FailurePolicy.isSome_ofName?]

theorem ofMerged_default : ofMerged Sheet.default.toJson = .ok default := by decide

theorem read_nothing (files : Files) : (read files none (some [])).1 = .ok default := by
  have hmembers : OrdinaryMembers [] :=
    ⟨List.nodup_nil, fun _ hentry => absurd hentry List.not_mem_nil⟩
  have henvironment : OrdinaryEnvironment [] :=
    ⟨List.nodup_nil, fun _ hname => absurd hname List.not_mem_nil⟩
  obtain ⟨layer, hlayer, hsaid, hread⟩ := read_eq (.nothing : Gives files none []) hmembers []
  rw [hread, merge_layers hlayer henvironment, sheetInForce_congr hsaid]
  exact ofMerged_default

/-! A file that names a policy that is none, above which the environment names one. -/

def shadowedText : String :=
  "\x7b\"testbed\":null,\"on_query_failure\":\"never\"," ++
    "\"allow_lists\":\x7b\"macs\":\"b, a\"\x7d\x7d"

def shadowedMembers : List (String × Json) :=
  [("testbed", .null), ("on_query_failure", .string "never"),
    ("allow_lists", .object [("macs", .string "b, a")])]

def shadowedFiles : Files where
  workingDirectory := "/work"
  stateAt := fun path =>
    if path = "/work/matrix.json" then .content shadowedText.toUTF8.toList else .absent .notFound

def shadowingEnvironment : List (String × String) :=
  [("HOME", "/"), ("SSH_ALGO_MATRIX_ALLOW_LISTS__KEXS", "x, y"),
    ("SSH_ALGO_MATRIX_ON_QUERY_FAILURE", "FAIL")]

theorem textual_shadowedMembers : Json.Textual (.object shadowedMembers) := by
  refine .object fun member hmember => ?_
  simp only [shadowedMembers, List.mem_cons, List.not_mem_nil, or_false] at hmember
  rcases hmember with rfl | rfl | rfl
  · exact .null
  · exact .string _
  · refine .object fun member hmember => ?_
    obtain rfl := List.mem_singleton.mp hmember
    exact .string _

theorem gives_shadowed : Gives shadowedFiles (some "/work/matrix.json") shadowedMembers := by
  have hcompact : shadowedText = (Json.object shadowedMembers).compact := by decide +kernel
  have hread : Json.parse? shadowedText = some (.object shadowedMembers) := by
    rw [hcompact]
    exact Json.parse?_compact textual_shadowedMembers
  exact .members (by decide) (by decide +kernel) hread

theorem ordinary_shadowedMembers : OrdinaryMembers shadowedMembers where
  distinct := by decide
  entries := by
    intro entry hentry
    simp only [shadowedMembers, List.mem_cons, List.not_mem_nil, or_false] at hentry
    rcases hentry with rfl | rfl | rfl
    · exact OrdinaryEntry.text Fits.noTestbed
    · exact OrdinaryEntry.text (Fits.text (.text .onQueryFailure) "never")
    · refine .lists ⟨by decide, fun entry hentry => ?_⟩
      simp only [List.mem_cons, List.not_mem_nil, or_false] at hentry
      subst hentry
      exact ⟨.mac, rfl, .text _ _⟩

theorem ordinary_shadowingEnvironment : OrdinaryEnvironment shadowingEnvironment where
  distinct := by decide
  known := by
    intro name hname hkey
    simp only [shadowingEnvironment, List.map_cons, List.map_nil, List.mem_cons, List.not_mem_nil,
      or_false] at hname
    rcases hname with rfl | rfl | rfl
    · exact absurd hkey (by decide)
    · exact ⟨.list .kex, by decide⟩
    · exact ⟨.text .onQueryFailure, by decide⟩

theorem read_override_says_of_shadowed :
    ∃ config,
      (read shadowedFiles (some "/work/matrix.json") (some shadowingEnvironment)).1 = .ok config ∧
      (config.override ⟨none, some "t1", none, none, none⟩).testbed = some "t1" ∧
      config.onQueryFailure = .fail ∧ config.logLevel = "info" ∧
      config.allowLists.macs = .ofNames ["b", "a"] ∧
      config.allowLists.kexs = .ofNames ["x", "y"] := by
  obtain ⟨hexists, hsaid⟩ := read_override_says gives_shadowed ordinary_shadowedMembers
    ordinary_shadowingEnvironment ⟨none, some "t1", none, none, none⟩
  obtain ⟨config, hconfig⟩ := hexists.mpr ⟨"FAIL", by decide, by decide⟩
  have hsaid := hsaid config hconfig
  refine ⟨config, hconfig, hsaid.testbed, ?_, ?_, ?_, ?_⟩
  · exact Option.some.inj (hsaid.onQueryFailure.trans (by decide))
  · exact Option.some.inj (hsaid.logLevel.trans (by decide))
  · exact Option.some.inj ((hsaid.allowLists .mac).trans (by decide))
  · exact Option.some.inj ((hsaid.allowLists .kex).trans (by decide))

end Config

end SshCompliance
