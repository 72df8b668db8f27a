import SshCompliance.Config.Check
import SshCompliance.Config.Layer
import SshCompliance.Proofs.Json.RoundTrip
import Mathlib.Data.String.Basic
import Mathlib.Logic.Function.Basic

/-!
# The sheet behind a configuration

While ordinary layers are set one after the other, the object they are set into keeps one shape:
each place of the configuration, a field with a text or one of the lists, has a value. A sheet gives
these values. Setting a value at a place changes the sheet there and nowhere else; setting the
members of the object once more changes nothing; and the configuration is read place by place.
-/

namespace SshCompliance.Config

inductive TextField where
  | logLevel
  | testbed
  | testbedFile
  | inventoryDir
  | ansibleBin
  | outputMarker
  | onQueryFailure
deriving DecidableEq, Repr

namespace TextField

def key : TextField → String
  | .logLevel => "log_level"
  | .testbed => "testbed"
  | .testbedFile => "testbed_file"
  | .inventoryDir => "inventory_dir"
  | .ansibleBin => "ansible_bin"
  | .outputMarker => "output_marker"
  | .onQueryFailure => "on_query_failure"

/-- The order in which the fields are declared. -/
def all : List TextField :=
  [.logLevel, .testbed, .testbedFile, .inventoryDir, .ansibleBin, .outputMarker, .onQueryFailure]

/-- The order of their keys. -/
def byKey : List TextField :=
  [.ansibleBin, .inventoryDir, .logLevel, .onQueryFailure, .outputMarker, .testbed, .testbedFile]

theorem folded_key (field : TextField) : field.key.folded = field.key := by
  cases field <;> decide

theorem key_injective : Function.Injective key := by
  intro first second
  cases first <;> cases second <;> decide

theorem key_ne_lists (field : TextField) : field.key ≠ "allow_lists" := by
  cases field <;> decide

end TextField

theorem folded_lists : "allow_lists".folded = "allow_lists" := by decide

/-- The names of the lists in a file. -/
def listName : Category → String
  | .cipher => "enc_ciphers"
  | .mac => "macs"
  | .kex => "kexs"

theorem folded_listName (category : Category) :
    (listName category).folded = listName category := by
  cases category <;> decide

theorem listName_injective : Function.Injective listName := by
  intro first second
  cases first <;> cases second <;> decide

/-- What a source of the configuration can speak of. -/
inductive Place where
  | text (field : TextField)
  | list (category : Category)
deriving DecidableEq, Repr

namespace Place

def key : Place → String
  | .text field => field.key
  | .list category => listKey category

def path : Place → KeyPath
  | .text field => [.member field.key]
  | .list category => [.member "allow_lists", .member (listName category)]

theorem ofKey_key (place : Place) : KeyPath.ofKey place.key = place.path := by
  cases place with
  | text field => cases field <;> decide
  | list category => cases category <;> decide

end Place

/-! ### Setting members -/

/-- Anything but an object replaces what was there. -/
theorem setMember_leaf (target : Json) (name : String) {value : Json}
    (hleaf : ∀ members, value ≠ .object members) :
    setMember target name value = .object (Json.putSorted name.folded value (membersOf target)) :=
  setMember.eq_2 target name value hleaf

/-- An object is set member by member into what was there. -/
theorem setMember_object (target : Json) (name : String) (members : List (String × Json)) :
    setMember target name (.object members) =
      .object (Json.putSorted name.folded
        (setMembers (((membersOf target).lookup name.folded).getD (.object [])) members)
        (membersOf target)) :=
  setMember.eq_1 target name members

theorem setMembers_cons (target : Json) (name : String) (value : Json)
    (rest : List (String × Json)) :
    setMembers target ((name, value) :: rest) = setMembers (setMember target name value) rest :=
  setMembers.eq_2 target name value rest

theorem setPath_member_member (value target : Json) (outer inner : String) :
    setPath value [.member outer, .member inner] target =
      .object (Json.putSorted outer.folded
        (setMember (((membersOf target).lookup outer.folded).getD .null) inner value)
        (membersOf target)) := by
  rw [setPath, setPath]
  exact List.cons_ne_nil _ _

theorem setLayer_cons (target : Json) (key : String) (value : Json) (layer : Layer) :
    setLayer target ((key, value) :: layer) =
      setLayer (setPath value (KeyPath.ofKey key) target) layer := rfl

theorem setLayer_append (target : Json) (first second : Layer) :
    setLayer target (first ++ second) = setLayer (setLayer target first) second :=
  List.foldl_append

theorem setPath_key (value target : Json) (field : TextField) :
    setPath value (KeyPath.ofKey field.key) target = setMember target field.key value := by
  have hkey : KeyPath.ofKey field.key = [.member field.key] := Place.ofKey_key (.text field)
  rw [hkey, setPath]

theorem setPath_lists (value target : Json) :
    setPath value (KeyPath.ofKey "allow_lists") target = setMember target "allow_lists" value := by
  have hkey : KeyPath.ofKey "allow_lists" = [.member "allow_lists"] := by decide
  rw [hkey, setPath]

abbrev Sheet := Place → Json

namespace Sheet

def listMembers (sheet : Sheet) (order : List Category) : List (String × Json) :=
  order.map fun category => (listName category, sheet (.list category))

def textMembers (sheet : Sheet) (order : List TextField) : List (String × Json) :=
  order.map fun field => (field.key, sheet (.text field))

/-- The object of the lists, its members sorted by name. -/
def lists (sheet : Sheet) : Json := .object (sheet.listMembers [.cipher, .kex, .mac])

def toJson (sheet : Sheet) : Json :=
  .object (("allow_lists", sheet.lists) :: sheet.textMembers TextField.byKey)

def HasLeaves (sheet : Sheet) : Prop := ∀ place members, sheet place ≠ .object members

theorem setMember_lists (sheet : Sheet) (category : Category) {value : Json}
    (hleaf : ∀ members, value ≠ .object members) :
    setMember sheet.lists (listName category) value =
      lists (Function.update sheet (.list category) value) := by
  rw [setMember_leaf _ _ hleaf, folded_listName]
  cases category <;>
    simp [listName, lists, listMembers, membersOf, Json.putSorted, -String.lt_iff_ltb]

/-- **One place at a time.** -/
theorem setPath_toJson (sheet : Sheet) (place : Place) {value : Json}
    (hleaf : ∀ members, value ≠ .object members) :
    setPath value place.path sheet.toJson = toJson (Function.update sheet place value) := by
  cases place with
  | text field =>
      rw [Place.path, setPath, setMember_leaf _ _ hleaf, TextField.folded_key]
      cases field <;>
        simp [TextField.key, TextField.byKey, toJson, lists, listMembers, textMembers, membersOf,
          Json.putSorted, -String.lt_iff_ltb]
  | list category =>
      have hpresent : (membersOf sheet.toJson).lookup "allow_lists" = some sheet.lists := rfl
      rw [Place.path, setPath_member_member, folded_lists, hpresent, Option.getD_some,
        setMember_lists sheet category hleaf]
      simp [toJson, textMembers, membersOf, Json.putSorted, -String.lt_iff_ltb]

/-! ### Members that are set into nothing -/

theorem setMembers_listMembers (sheet : Sheet) (hleaves : sheet.HasLeaves) (order : List Category)
    (members : List (String × Json)) :
    setMembers (.object members) (sheet.listMembers order) =
      .object ((sheet.listMembers order).foldl (fun members member =>
        Json.putSorted member.1 member.2 members) members) := by
  induction order generalizing members with
  | nil => rw [listMembers, List.map_nil, setMembers, List.foldl_nil]
  | cons category rest ih =>
      rw [listMembers, List.map_cons, setMembers_cons, setMember_leaf _ _ (hleaves _),
        folded_listName]
      exact ih _

theorem setLayer_textMembers (sheet : Sheet) (hleaves : sheet.HasLeaves) (order : List TextField)
    (members : List (String × Json)) :
    setLayer (.object members) (sheet.textMembers order) =
      .object ((sheet.textMembers order).foldl (fun members member =>
        Json.putSorted member.1 member.2 members) members) := by
  induction order generalizing members with
  | nil => rfl
  | cons field rest ih =>
      rw [textMembers, List.map_cons, setLayer_cons, setPath_key, setMember_leaf _ _ (hleaves _),
        TextField.folded_key]
      exact ih _

/-- **Nothing is changed by setting a sheet once more.** -/
theorem setLayer_toJson (sheet : Sheet) (hleaves : sheet.HasLeaves) :
    setLayer (.object []) (membersOf sheet.toJson) = sheet.toJson := by
  have hlists :
      setMembers (.object []) (sheet.listMembers [.cipher, .kex, .mac]) = sheet.lists := by
    rw [setMembers_listMembers sheet hleaves]
    simp [lists, listMembers, listName, Json.putSorted, -String.lt_iff_ltb]
  calc
    setLayer (.object []) (membersOf sheet.toJson)
      = setLayer (setMember (.object []) "allow_lists" sheet.lists)
          (sheet.textMembers TextField.byKey) := by
        rw [toJson, membersOf, setLayer_cons, setPath_lists]
    _ = setLayer (.object [("allow_lists", sheet.lists)])
          (sheet.textMembers TextField.byKey) := by
        rw [lists, setMember_object, folded_lists]
        change setLayer (.object [("allow_lists",
          setMembers (.object []) (sheet.listMembers [.cipher, .kex, .mac]))]) _ = _
        rw [hlists]
        rfl
    _ = sheet.toJson := by
        rw [setLayer_textMembers sheet hleaves]
        simp [toJson, textMembers, TextField.byKey, TextField.key, Json.putSorted,
          -String.lt_iff_ltb]

end Sheet

/-! ### The defaults -/

/-- The text of a field; a testbed need not be given. -/
def text (config : Config) : TextField → Option String
  | .logLevel => some config.logLevel
  | .testbed => config.testbed
  | .testbedFile => some config.testbedFile
  | .inventoryDir => some config.inventoryDir
  | .ansibleBin => some config.ansibleBin
  | .outputMarker => some config.outputMarker
  | .onQueryFailure => some config.onQueryFailure.label

namespace Sheet

def default : Sheet
  | .text field => ((Config.default.text field).map Json.string).getD .null
  | .list category => (AllowLists.default.get category).toJson

theorem hasLeaves_default : default.HasLeaves := by
  intro place members
  cases place with
  | text field => cases field <;> exact Json.noConfusion
  | list category => exact Json.noConfusion

theorem setLayer_defaults : setLayer (.object []) Layer.defaults = default.toJson := by
  have hlayer : Layer.defaults = default.textMembers TextField.all ++
      [("allow_lists", .object (default.listMembers Category.all))] := rfl
  have hfields : setLayer (.object []) (default.textMembers TextField.all) =
      .object (default.textMembers TextField.byKey) := by
    rw [setLayer_textMembers default hasLeaves_default]
    simp [textMembers, TextField.all, TextField.byKey, TextField.key, Json.putSorted,
      -String.lt_iff_ltb]
  have hlists : setMembers (.object []) (default.listMembers Category.all) = default.lists := by
    rw [setMembers_listMembers default hasLeaves_default]
    simp [lists, listMembers, Category.all, listName, Json.putSorted, -String.lt_iff_ltb]
  have hnone : (membersOf (.object (default.textMembers TextField.byKey))).lookup "allow_lists" =
      none := rfl
  rw [hlayer, setLayer_append, hfields, setLayer_cons, setPath_lists, setMember_object,
    folded_lists, hnone, Option.getD_none, hlists]
  simp [setLayer, toJson, textMembers, membersOf, TextField.byKey, TextField.key, Json.putSorted,
    -String.lt_iff_ltb]

end Sheet

/-! ### Reading a sheet -/

/-- The values that belong at a place: any text, no testbed, and names for a list. -/
inductive Fits : Place → Json → Prop
  | text (place : Place) (text : String) : Fits place (.string text)
  | noTestbed : Fits (.text .testbed) .null
  | names (category : Category) (names : List String) :
    Fits (.list category) (.array (names.map .string))

namespace Fits

variable {place : Place} {value : Json}

theorem ne_object (hfits : Fits place value) (members : List (String × Json)) :
    value ≠ .object members := by
  cases hfits <;> exact Json.noConfusion

theorem exists_text {field : TextField} (hfits : Fits (.text field) value)
    (hfield : field ≠ .testbed) : ∃ text, value = .string text := by
  cases hfits with
  | text _ text => exact ⟨text, rfl⟩
  | noTestbed => exact absurd rfl hfield

theorem nullable_testbed (hfits : Fits (.text .testbed) value) :
    Json.nullable? lenientText? value = some value.text? := by
  cases hfits <;> rfl

theorem exists_list {category : Category} (hfits : Fits (.list category) value) :
    ∃ list, AllowList.ofJson? value = some list := by
  cases hfits with
  | text _ text => exact ⟨.ofJoined text, rfl⟩
  | names _ names =>
      refine ⟨.ofNames names, ?_⟩
      change (Json.texts? _).map AllowList.ofNames = _
      rw [Json.texts?_map, Option.map_some]

end Fits

/-- What a configuration consists of, given the text of every field and the lists. -/
structure Says (config : Config) (text : TextField → Option String)
    (list : Category → Option AllowList) : Prop where
  logLevel : some config.logLevel = text .logLevel
  testbed : config.testbed = text .testbed
  testbedFile : some config.testbedFile = text .testbedFile
  inventoryDir : some config.inventoryDir = text .inventoryDir
  ansibleBin : some config.ansibleBin = text .ansibleBin
  outputMarker : some config.outputMarker = text .outputMarker
  onQueryFailure :
    some config.onQueryFailure = (text .onQueryFailure).bind FailurePolicy.ofName?
  allowLists (category : Category) : some (config.allowLists.get category) = list category

theorem readField_eq {merged : Json} {name : String} {value : Json} {read : Json → Option α}
    (default : α) {result : α} (hvalue : (membersOf merged).lookup name = some value)
    (hread : read value = some result) : readField merged name read default = .ok result := by
  rw [readField, hvalue, Json.optional?, hread]

namespace Sheet

def text (sheet : Sheet) (field : TextField) : Option String := (sheet (.text field)).text?

def list (sheet : Sheet) (category : Category) : Option AllowList :=
  AllowList.ofJson? (sheet (.list category))

theorem lookup_key (sheet : Sheet) (field : TextField) :
    (membersOf sheet.toJson).lookup field.key = some (sheet (.text field)) := by
  cases field <;> rfl

theorem lenientLists?_lists (sheet : Sheet) {lists : AllowLists}
    (hlists : ∀ category, sheet.list category = some (lists.get category)) :
    lenientLists? sheet.lists = some lists := by
  have hread (category : Category) :
      AllowList.ofJson? (sheet (.list category)) = some (lists.get category) := hlists category
  have hlookup (category : Category) :
      (sheet.listMembers [.cipher, .kex, .mac]).lookup (AllowLists.member category) =
        some (sheet (.list category)) := by
    cases category <;> rfl
  simp [lenientLists?, Sheet.lists, hlookup, Json.optional?, hread, AllowLists.get]

theorem readField_text (sheet : Sheet) {field : TextField}
    (hfits : Fits (.text field) (sheet (.text field))) (hfield : field ≠ .testbed) :
    ∃ text, sheet.text field = some text ∧
      ∀ default, readField sheet.toJson field.key lenientText? default = .ok text := by
  obtain ⟨text, htext⟩ := hfits.exists_text hfield
  refine ⟨text, ?_, fun default => readField_eq default (sheet.lookup_key field) ?_⟩
  · rw [Sheet.text, htext, Json.text?]
  · rw [htext, lenientText?]

theorem readField_testbed (sheet : Sheet)
    (hfits : Fits (.text .testbed) (sheet (.text .testbed))) (default : Option String) :
    readField sheet.toJson "testbed" (Json.nullable? lenientText?) default =
      .ok (sheet.text .testbed) :=
  readField_eq default (sheet.lookup_key .testbed) hfits.nullable_testbed

theorem readField_lists (sheet : Sheet) (hfits : ∀ place, Fits place (sheet place)) :
    ∃ lists : AllowLists, (∀ category, sheet.list category = some (lists.get category)) ∧
      ∀ default, readField sheet.toJson "allow_lists" lenientLists? default = .ok lists := by
  obtain ⟨ciphers, hciphers⟩ := (hfits (.list .cipher)).exists_list
  obtain ⟨macs, hmacs⟩ := (hfits (.list .mac)).exists_list
  obtain ⟨kexs, hkexs⟩ := (hfits (.list .kex)).exists_list
  have hlists (category : Category) :
      sheet.list category = some ((AllowLists.mk ciphers macs kexs).get category) := by
    cases category
    · exact hciphers
    · exact hmacs
    · exact hkexs
  have hvalue : (membersOf sheet.toJson).lookup "allow_lists" = some sheet.lists := rfl
  exact ⟨_, hlists, fun default =>
    readField_eq default hvalue (sheet.lenientLists?_lists hlists)⟩

/-- **A sheet is read place by place.** Only the policy can be wrong. -/
theorem ofMerged_toJson (sheet : Sheet) (hfits : ∀ place, Fits place (sheet place)) :
    (∀ config, ofMerged sheet.toJson = .ok config → config.Says sheet.text sheet.list) ∧
      ((∃ config, ofMerged sheet.toJson = .ok config) ↔
        ((sheet.text .onQueryFailure).bind FailurePolicy.ofName?).isSome) := by
  have hfield (field : TextField) (hfield : field ≠ .testbed) :=
    sheet.readField_text (hfits (.text field)) hfield
  obtain ⟨level, hlevel, hreadLevel⟩ := hfield .logLevel (by decide)
  obtain ⟨file, hfile, hreadFile⟩ := hfield .testbedFile (by decide)
  obtain ⟨folder, hfolder, hreadFolder⟩ := hfield .inventoryDir (by decide)
  obtain ⟨program, hprogram, hreadProgram⟩ := hfield .ansibleBin (by decide)
  obtain ⟨marker, hmarker, hreadMarker⟩ := hfield .outputMarker (by decide)
  obtain ⟨lists, hlists, hreadLists⟩ := sheet.readField_lists hfits
  obtain ⟨name, hname⟩ := (hfits (.text .onQueryFailure)).exists_text (by decide)
  have hpolicy : (membersOf sheet.toJson).lookup "on_query_failure" = some (.string name) :=
    (sheet.lookup_key .onQueryFailure).trans (congrArg some hname)
  have hnamed : sheet.text .onQueryFailure = some name := by rw [Sheet.text, hname, Json.text?]
  have hmerged : ofMerged sheet.toJson =
      (readField sheet.toJson "on_query_failure" lenientPolicy? Config.default.onQueryFailure).map
        fun policy =>
          ⟨level, sheet.text .testbed, file, folder, program, marker, policy, lists⟩ := by
    simp only [TextField.key] at hreadLevel hreadFile hreadFolder hreadProgram hreadMarker
    simp only [ofMerged, hreadLevel, hreadFile, hreadFolder, hreadProgram, hreadMarker, hreadLists,
      sheet.readField_testbed (hfits _)]
    rfl
  rw [hmerged, readField, hpolicy, Json.optional?, lenientPolicy?, hnamed, Option.bind_some]
  cases hofName : FailurePolicy.ofName? name with
  | none => simp [Except.map]
  | some policy =>
      refine ⟨fun config hconfig => ?_, ⟨fun _ => rfl, fun _ => ⟨_, rfl⟩⟩⟩
      cases hconfig
      exact {
        logLevel := hlevel.symm
        testbed := rfl
        testbedFile := hfile.symm
        inventoryDir := hfolder.symm
        ansibleBin := hprogram.symm
        outputMarker := hmarker.symm
        onQueryFailure := by rw [hnamed, Option.bind_some, hofName]
        allowLists := fun category => (hlists category).symm }

end Sheet

end SshCompliance.Config
