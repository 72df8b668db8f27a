import SshCompliance.Config.Sources
import SshCompliance.Proofs.Config.Sheet
import SshCompliance.Proofs.Json.Untyped

/-!
# The value in force

Every source of the configuration speaks of some places and is silent about the others. What it says
of a place covers what the sources below say of it, whole and independently of all other places. So
the value in force at a place is the one of the highest source that speaks of it, and only a policy
in force that is none can keep a configuration from being read.
-/

namespace SshCompliance.Config

open Json (settled)

theorem lookup_cons_of_ne {name other : String} (hname : name ≠ other) (value : α)
    (rest : List (String × α)) : ((other, value) :: rest).lookup name = rest.lookup name := by
  rw [List.lookup_cons, beq_false_of_ne hname]

theorem lookup_of_not_mem {name : String} {entries : List (String × α)}
    (hname : name ∉ entries.map Prod.fst) : entries.lookup name = none := by
  rw [List.lookup_eq_none_iff]
  intro entry hentry
  exact bne_iff_ne.mpr fun hsame => hname (hsame ▸ List.mem_map_of_mem hentry)

namespace Sheet

/-- The sheet with what a source says over it. -/
def overlay (sheet : Sheet) (said : Place → Option Json) : Sheet :=
  fun place => (said place).getD (sheet place)

theorem overlay_update (sheet : Sheet) {said : Place → Option Json} {place : Place} (value : Json)
    (hsilent : said place = none) :
    overlay (Function.update sheet place value) said =
      sheet.overlay (Function.update said place (some value)) := by
  funext other
  by_cases hother : other = place
  · subst hother
    simp [overlay, hsilent]
  · simp [overlay, hother]

theorem fits_overlay {sheet : Sheet} {said : Place → Option Json}
    (hfits : ∀ place, Fits place (sheet place))
    (hsaid : ∀ place, ∀ value ∈ said place, Fits place value) (place : Place) :
    Fits place (sheet.overlay said place) := by
  rw [overlay]
  cases hvalue : said place with
  | none => exact hfits place
  | some value => exact hsaid place value hvalue

theorem fits_default (place : Place) : Fits place (default place) := by
  cases place with
  | text field =>
      cases field with
      | testbed => exact .noTestbed
      | _ => exact .text _ _
  | list category => exact .names category _

end Sheet

/-! ### The environment -/

namespace Place

/-- The environment variable that sets a place. -/
def variableName : Place → String
  | .text .logLevel => "SSH_ALGO_MATRIX_LOG_LEVEL"
  | .text .testbed => "SSH_ALGO_MATRIX_TESTBED"
  | .text .testbedFile => "SSH_ALGO_MATRIX_TESTBED_FILE"
  | .text .inventoryDir => "SSH_ALGO_MATRIX_INVENTORY_DIR"
  | .text .ansibleBin => "SSH_ALGO_MATRIX_ANSIBLE_BIN"
  | .text .outputMarker => "SSH_ALGO_MATRIX_OUTPUT_MARKER"
  | .text .onQueryFailure => "SSH_ALGO_MATRIX_ON_QUERY_FAILURE"
  | .list .cipher => "SSH_ALGO_MATRIX_ALLOW_LISTS__ENC_CIPHERS"
  | .list .mac => "SSH_ALGO_MATRIX_ALLOW_LISTS__MACS"
  | .list .kex => "SSH_ALGO_MATRIX_ALLOW_LISTS__KEXS"

theorem keyOfVariable?_variableName (place : Place) :
    Layer.keyOfVariable? place.variableName = some place.key := by
  cases place with
  | text field => cases field <;> decide
  | list category => cases category <;> decide

theorem path_injective : Function.Injective path := by
  intro first second hpath
  cases first <;> cases second <;> simp only [path, List.cons.injEq, KeyStep.member.injEq] at hpath
  · rw [TextField.key_injective hpath.1]
  · simp at hpath
  · simp at hpath
  · rw [listName_injective hpath.2.1]

theorem variableName_injective : Function.Injective variableName := by
  intro first second hname
  have hkey : first.key = second.key := by
    have hkeys := congrArg Layer.keyOfVariable? hname
    rw [keyOfVariable?_variableName, keyOfVariable?_variableName] at hkeys
    exact Option.some.inj hkeys
  apply path_injective
  rw [← ofKey_key, ← ofKey_key, hkey]

end Place

def environmentSays (environment : List (String × String)) (place : Place) : Option Json :=
  (environment.lookup place.variableName).map .string

theorem environmentSays_cons (place : Place) (value : String)
    (environment : List (String × String)) :
    environmentSays ((place.variableName, value) :: environment) =
      Function.update (environmentSays environment) place (some (.string value)) := by
  funext other
  by_cases hother : other = place
  · subst hother
    simp [environmentSays]
  · have hname := fun hsame => hother (Place.variableName_injective hsame)
    simp [environmentSays, lookup_cons_of_ne hname, hother]

theorem environmentSays_cons_of_ne {name : String}
    (hname : ∀ place : Place, name ≠ place.variableName) (value : String)
    (environment : List (String × String)) :
    environmentSays ((name, value) :: environment) = environmentSays environment := by
  funext place
  rw [environmentSays, lookup_cons_of_ne (hname place).symm, environmentSays]

theorem environmentSays_of_not_mem {place : Place} {environment : List (String × String)}
    (hname : place.variableName ∉ environment.map Prod.fst) :
    environmentSays environment place = none := by
  rw [environmentSays, lookup_of_not_mem hname, Option.map_none]

theorem fits_environmentSays (environment : List (String × String)) (place : Place) :
    ∀ value ∈ environmentSays environment place, Fits place value := by
  intro value hvalue
  obtain ⟨text, -, rfl⟩ := Option.map_eq_some_iff.mp hvalue
  exact .text place text

/-- An environment whose variables have distinct names; those that belong to the configuration each
set one place. No variable sets all lists together: a text is no object of lists. -/
structure OrdinaryEnvironment (environment : List (String × String)) : Prop where
  distinct : (environment.map Prod.fst).Nodup
  known : ∀ name ∈ environment.map Prod.fst, (Layer.keyOfVariable? name).isSome →
    ∃ place : Place, name = place.variableName

theorem ofEnvironment_cons_of_none {name : String} (hkey : Layer.keyOfVariable? name = none)
    (value : String) (rest : List (String × String)) :
    Layer.ofEnvironment ((name, value) :: rest) = Layer.ofEnvironment rest := by
  simp [Layer.ofEnvironment, hkey]

theorem ofEnvironment_cons_of_some {name key : String}
    (hkey : Layer.keyOfVariable? name = some key) (value : String)
    (rest : List (String × String)) :
    Layer.ofEnvironment ((name, value) :: rest) =
      (key, .string value) :: Layer.ofEnvironment rest := by
  simp [Layer.ofEnvironment, hkey]

theorem setLayer_ofEnvironment (sheet : Sheet) {environment : List (String × String)}
    (hordinary : OrdinaryEnvironment environment) :
    setLayer sheet.toJson (Layer.ofEnvironment environment) =
      (sheet.overlay (environmentSays environment)).toJson := by
  obtain ⟨hdistinct, hknown⟩ := hordinary
  induction environment generalizing sheet with
  | nil => rfl
  | cons first rest ih =>
      obtain ⟨name, value⟩ := first
      rw [List.map_cons, List.nodup_cons] at hdistinct
      have hknownRest := fun other hother => hknown other (List.mem_cons_of_mem _ hother)
      cases hkey : Layer.keyOfVariable? name with
      | none =>
          have hname (place : Place) : name ≠ place.variableName := by
            rintro rfl
            simp [Place.keyOfVariable?_variableName] at hkey
          rw [ofEnvironment_cons_of_none hkey, environmentSays_cons_of_ne hname]
          exact ih sheet hdistinct.2 hknownRest
      | some key =>
          obtain ⟨place, rfl⟩ := hknown name List.mem_cons_self (by rw [hkey]; rfl)
          rw [ofEnvironment_cons_of_some place.keyOfVariable?_variableName, setLayer_cons,
            Place.ofKey_key, sheet.setPath_toJson place fun _ => Json.noConfusion,
            environmentSays_cons,
            ← Sheet.overlay_update _ _ (environmentSays_of_not_mem hdistinct.1)]
          exact ih _ hdistinct.2 hknownRest

/-! ### The file -/

def listsSay (lists : List (String × Json)) : Place → Option Json
  | .text _ => none
  | .list category => lists.lookup (listName category)

def fileSays (members : List (String × Json)) : Place → Option Json
  | .text field => members.lookup field.key
  | .list category =>
    (members.lookup "allow_lists").bind fun lists => listsSay (membersOf lists) (.list category)

/-- Lists named apart, each given as its place wants it. -/
structure OrdinaryLists (lists : List (String × Json)) : Prop where
  distinct : (lists.map Prod.fst).Nodup
  entries : ∀ entry ∈ lists, ∃ category,
    entry.1 = listName category ∧ Fits (.list category) entry.2

/-- What stands in a file under one of its names: a text for a field, or any of the lists. -/
inductive OrdinaryEntry : String → Json → Prop
  | text {field : TextField} {value : Json} (hfits : Fits (.text field) value) :
    OrdinaryEntry field.key value
  | lists {lists : List (String × Json)} (hlists : OrdinaryLists lists) :
    OrdinaryEntry "allow_lists" (.object lists)

/-- The members of a file that names the fields of a configuration, each at most once. -/
structure OrdinaryMembers (members : List (String × Json)) : Prop where
  distinct : (members.map Prod.fst).Nodup
  entries : ∀ entry ∈ members, OrdinaryEntry entry.1 entry.2

theorem listsSay_cons (category : Category) (value : Json) (rest : List (String × Json)) :
    listsSay ((listName category, value) :: rest) =
      Function.update (listsSay rest) (.list category) (some value) := by
  funext place
  cases place with
  | text field => simp [listsSay]
  | list other =>
      by_cases hother : other = category
      · subst hother
        simp [listsSay]
      · have hname := fun hsame => hother (listName_injective hsame)
        simp [listsSay, lookup_cons_of_ne hname, hother]

theorem fileSays_cons_text (field : TextField) (value : Json) (rest : List (String × Json)) :
    fileSays ((field.key, value) :: rest) =
      Function.update (fileSays rest) (.text field) (some value) := by
  funext place
  cases place with
  | text other =>
      by_cases hother : other = field
      · subst hother
        simp [fileSays]
      · have hname := fun hsame => hother (TextField.key_injective hsame)
        simp [fileSays, lookup_cons_of_ne hname, hother]
  | list category => simp [fileSays, lookup_cons_of_ne field.key_ne_lists.symm]

namespace Sheet

theorem setMembers_lists (sheet : Sheet) {lists : List (String × Json)}
    (hlists : OrdinaryLists lists) :
    setMembers sheet.lists lists = (sheet.overlay (listsSay lists)).lists := by
  obtain ⟨hdistinct, hentries⟩ := hlists
  induction lists generalizing sheet with
  | nil => rw [setMembers]; rfl
  | cons first rest ih =>
      obtain ⟨name, value⟩ := first
      obtain ⟨category, rfl, hfits⟩ := hentries (name, value) List.mem_cons_self
      rw [List.map_cons, List.nodup_cons] at hdistinct
      have hsilent : listsSay rest (.list category) = none := lookup_of_not_mem hdistinct.1
      rw [setMembers_cons, setMember_lists sheet category hfits.ne_object, listsSay_cons,
        ← overlay_update _ _ hsilent]
      exact ih _ hdistinct.2 fun entry hentry => hentries entry (List.mem_cons_of_mem _ hentry)

theorem setPath_lists_toJson (sheet : Sheet) {lists : List (String × Json)}
    (hlists : OrdinaryLists lists) :
    setPath (.object lists) (KeyPath.ofKey "allow_lists") sheet.toJson =
      (sheet.overlay (listsSay lists)).toJson := by
  have hpresent : (membersOf sheet.toJson).lookup "allow_lists" = some sheet.lists := rfl
  rw [setPath_lists, setMember_object, folded_lists, hpresent, Option.getD_some,
    sheet.setMembers_lists hlists, toJson, membersOf, Json.putSorted, if_pos rfl]
  rfl

theorem overlay_lists (sheet : Sheet) (lists : List (String × Json)) {rest : List (String × Json)}
    (hfresh : "allow_lists" ∉ rest.map Prod.fst) :
    (sheet.overlay (listsSay lists)).overlay (fileSays rest) =
      sheet.overlay (fileSays (("allow_lists", .object lists) :: rest)) := by
  funext place
  cases place with
  | text field => simp [overlay, listsSay, fileSays, lookup_cons_of_ne field.key_ne_lists]
  | list category => simp [overlay, listsSay, fileSays, lookup_of_not_mem hfresh, membersOf]

theorem setLayer_members (sheet : Sheet) {members : List (String × Json)}
    (hordinary : OrdinaryMembers members) :
    setLayer sheet.toJson members = (sheet.overlay (fileSays members)).toJson := by
  obtain ⟨hdistinct, hentries⟩ := hordinary
  induction members generalizing sheet with
  | nil => rfl
  | cons first rest ih =>
      obtain ⟨name, value⟩ := first
      have hentry : OrdinaryEntry name value := hentries (name, value) List.mem_cons_self
      have hentriesRest := fun entry hentry => hentries entry (List.mem_cons_of_mem _ hentry)
      rw [List.map_cons, List.nodup_cons] at hdistinct
      obtain ⟨hfresh, hdistinct⟩ := hdistinct
      cases hentry with
      | @text field _ hfits =>
          have hsilent : fileSays rest (.text field) = none := lookup_of_not_mem hfresh
          have hset := sheet.setPath_toJson (.text field) hfits.ne_object
          rw [← Place.ofKey_key] at hset
          rw [setLayer_cons, fileSays_cons_text, ← overlay_update _ _ hsilent]
          exact (congrArg (setLayer · rest) hset).trans (ih _ hdistinct hentriesRest)
      | @lists lists hlists =>
          rw [setLayer_cons, sheet.setPath_lists_toJson hlists, ih _ hdistinct hentriesRest,
            sheet.overlay_lists lists hfresh]

end Sheet

/-! ### The file as it is read -/

theorem Fits.untypedWithin {place : Place} {value : Json} (hfits : Fits place value)
    (levels : Nat) : value.untypedWithin (levels + 1) = some value := by
  cases hfits with
  | text => rw [Json.untypedWithin] <;> simp
  | noTestbed => rw [Json.untypedWithin] <;> simp
  | names _ names =>
      rw [Json.untypedWithin, Json.untypedItems_texts]
      rfl

namespace OrdinaryLists

variable {lists : List (String × Json)}

theorem of_perm (hlists : OrdinaryLists lists) {result : List (String × Json)}
    (hperm : result.Perm lists) : OrdinaryLists result where
  distinct := (hperm.map Prod.fst).symm.nodup hlists.distinct
  entries := fun entry hentry => hlists.entries entry (hperm.subset hentry)

theorem untypedWithin (hlists : OrdinaryLists lists) (levels : Nat) :
    ∃ result, (Json.object lists).untypedWithin (levels + 2) = some (.object result) ∧
      result.Perm lists := by
  have hread (entry : String × Json) (hentry : entry ∈ lists) :
      entry.2.untypedWithin (levels + 1) = some entry.2 := by
    obtain ⟨category, -, hfits⟩ := hlists.entries entry hentry
    exact hfits.untypedWithin levels
  have hsettled : lists.map (Prod.map id (settled (levels + 1))) = lists := by
    refine (List.map_congr_left fun entry hentry => ?_).trans (List.map_id lists)
    exact Prod.ext rfl (Json.settled_eq (hread entry hentry))
  obtain ⟨result, hresult, hperm⟩ := Json.untypedWithin_object
    (fun entry hentry => Option.isSome_iff_exists.mpr ⟨_, hread entry hentry⟩) hlists.distinct
  exact ⟨result, hresult, hsettled ▸ hperm⟩

end OrdinaryLists

namespace OrdinaryEntry

variable {name : String} {value : Json}

theorem fits (hentry : OrdinaryEntry name value) {field : TextField} (hname : name = field.key) :
    Fits (.text field) value := by
  cases hentry with
  | text hfits => exact TextField.key_injective hname ▸ hfits
  | lists => exact absurd hname.symm field.key_ne_lists

theorem exists_lists (hentry : OrdinaryEntry name value) (hname : name = "allow_lists") :
    ∃ lists, value = .object lists ∧ OrdinaryLists lists := by
  cases hentry with
  | @text field => exact absurd hname field.key_ne_lists
  | lists hlists => exact ⟨_, rfl, hlists⟩

theorem untypedWithin (hentry : OrdinaryEntry name value) (levels : Nat) :
    ∃ result, value.untypedWithin (levels + 2) = some result ∧ OrdinaryEntry name result := by
  cases hentry with
  | text hfits => exact ⟨value, hfits.untypedWithin (levels + 1), .text hfits⟩
  | lists hlists =>
      obtain ⟨result, hresult, hperm⟩ := hlists.untypedWithin levels
      exact ⟨.object result, hresult, .lists (hlists.of_perm hperm)⟩

end OrdinaryEntry

namespace OrdinaryMembers

variable {members result : List (String × Json)} {levels : Nat}

theorem of_perm (hordinary : OrdinaryMembers members)
    (hperm : result.Perm (members.map (Prod.map id (settled (levels + 2))))) :
    OrdinaryMembers result where
  distinct := by
    have hnames := hperm.map Prod.fst
    rw [Json.map_fst_map_settled] at hnames
    exact hnames.symm.nodup hordinary.distinct
  entries := by
    intro entry hentry
    obtain ⟨member, hmember, rfl⟩ := List.mem_map.mp (hperm.subset hentry)
    obtain ⟨read, hread, hresult⟩ := (hordinary.entries member hmember).untypedWithin levels
    rw [← Json.settled_eq hread] at hresult
    exact hresult

theorem fileSays_of_perm (hordinary : OrdinaryMembers members)
    (hperm : result.Perm (members.map (Prod.map id (settled (levels + 2))))) :
    fileSays result = fileSays members := by
  have hlookup (name : String) :
      result.lookup name = (members.lookup name).map (settled (levels + 2)) := by
    rw [Json.lookup_of_perm hperm (hordinary.of_perm hperm).distinct, Json.lookup_map_value]
  have hentry {name : String} {value : Json} (hvalue : members.lookup name = some value) :
      OrdinaryEntry name value :=
    hordinary.entries (name, value) ((Json.lookup_eq_some_iff_mem hordinary.distinct).mp hvalue)
  funext place
  cases place with
  | text field =>
      rw [fileSays, fileSays, hlookup]
      cases hvalue : members.lookup field.key with
      | none => rfl
      | some value =>
          have hfits := (hentry hvalue).fits rfl
          rw [Option.map_some, Json.settled_eq (hfits.untypedWithin _)]
  | list category =>
      rw [fileSays, fileSays, hlookup]
      cases hvalue : members.lookup "allow_lists" with
      | none => rfl
      | some value =>
          obtain ⟨lists, rfl, hlists⟩ := (hentry hvalue).exists_lists rfl
          obtain ⟨sorted, hsorted, hperm⟩ := hlists.untypedWithin levels
          rw [Option.map_some, Json.settled_eq hsorted]
          exact Json.lookup_of_perm hperm (hlists.of_perm hperm).distinct _

theorem fits_fileSays (hordinary : OrdinaryMembers members) (place : Place) :
    ∀ value ∈ fileSays members place, Fits place value := by
  intro value hvalue
  have hmem {name : String} {value : Json} (hvalue : members.lookup name = some value) :=
    hordinary.entries (name, value) ((Json.lookup_eq_some_iff_mem hordinary.distinct).mp hvalue)
  cases place with
  | text field => exact (hmem hvalue).fits rfl
  | list category =>
      obtain ⟨object, hobject, hlist⟩ := Option.bind_eq_some_iff.mp hvalue
      obtain ⟨lists, rfl, hlists⟩ := (hmem hobject).exists_lists rfl
      have hentry := (Json.lookup_eq_some_iff_mem hlists.distinct).mp hlist
      obtain ⟨other, hother, hfits⟩ := hlists.entries _ hentry
      exact listName_injective hother ▸ hfits

/-- **A file is read whole.** -/
theorem ofText? (hordinary : OrdinaryMembers members) {text : String}
    (htext : Json.parse? text = some (.object members)) :
    ∃ layer, Layer.ofText? text = some layer ∧ OrdinaryMembers layer ∧
      fileSays layer = fileSays members := by
  have hread (entry : String × Json) (hentry : entry ∈ members) :
      (entry.2.untypedWithin 126).isSome := by
    obtain ⟨read, hread, -⟩ := (hordinary.entries entry hentry).untypedWithin 124
    exact Option.isSome_iff_exists.mpr ⟨read, hread⟩
  obtain ⟨layer, hlayer, hperm⟩ := Json.untypedWithin_object hread hordinary.distinct
  have huntyped : (Json.object members).untyped? = some (.object layer) := hlayer
  refine ⟨layer, ?_, hordinary.of_perm hperm, hordinary.fileSays_of_perm hperm⟩
  simp [Layer.ofText?, htext, huntyped]

end OrdinaryMembers

end SshCompliance.Config
