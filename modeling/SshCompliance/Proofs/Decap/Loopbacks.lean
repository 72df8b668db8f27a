import SshCompliance.Decap.PacketTest
import Mathlib.Data.List.Forall2

/-!
# Slots of loopback addresses

The prefixes of all devices are read in order, and the first that cannot be read is the reason why
there are no slots at all. Otherwise each device has one slot for each version, at its own place,
and its variables are filled from these two.
-/

namespace SshCompliance

namespace Address

def IsV4 (address : Address) : Prop := ∃ bits, address = .v4 bits

def IsV6 (address : Address) : Prop := ∃ bits, address = .v6 bits

end Address

namespace Decap.Loopbacks

/-- A slot of a device holds the address of the first prefix of a version, or nothing if no prefix
is of that version. -/
inductive IsSlot (version : Address → Prop) (prefixes : List String) : Option Address → Prop
  | first {earlier later : List String} {text : String} {found : NetworkPrefix}
    (hsplit : prefixes = earlier ++ text :: later)
    (hfound : NetworkPrefix.parse? text = some found) (hversion : version found.address)
    (hearlier : ∀ other ∈ earlier, ∀ network, NetworkPrefix.parse? other = some network →
      ¬version network.address) : IsSlot version prefixes (some found.address)
  | none (hnone : ∀ text ∈ prefixes, ∀ network, NetworkPrefix.parse? text = some network →
      ¬version network.address) : IsSlot version prefixes none

def address? (text : String) : Option Address :=
  (NetworkPrefix.parse? text).map NetworkPrefix.address

def unreadable (text : String) : Error :=
  .other ("Invalid Loopback0 prefix " ++ text ++ ": invalid address: " ++ text)

/-! ### Reading -/

theorem addresses_cons (text : String) (rest : List String) :
    addresses (text :: rest) =
      match address? text with
      | none => .error (unreadable text)
      | some address => (addresses rest).map (address :: ·) := by
  rw [addresses, List.mapM_cons, readPrefix, address?, addresses]
  cases NetworkPrefix.parse? text with
  | none => rfl
  | some found =>
      simp only [Except.map, bind, Except.bind, Option.map_some]
      cases rest.mapM fun text => (readPrefix text).map NetworkPrefix.address <;> rfl

theorem addresses_eq (prefixes : List String) :
    addresses prefixes =
      match prefixes.find? (fun text => (address? text).isNone) with
      | some text => .error (unreadable text)
      | none => .ok (prefixes.filterMap address?) := by
  induction prefixes with
  | nil => rfl
  | cons text rest ih =>
      rw [addresses_cons, List.find?_cons, List.filterMap_cons, ih]
      cases address? text with
      | none => rfl
      | some address =>
          simp only [Option.isNone_some]
          cases rest.find? (fun text => (address? text).isNone) <;> rfl

theorem mapM_addresses_eq (devices : List (List String)) :
    devices.mapM addresses =
      match devices.flatten.find? (fun text => (address? text).isNone) with
      | some text => .error (unreadable text)
      | none => .ok (devices.map (·.filterMap address?)) := by
  induction devices with
  | nil => rfl
  | cons prefixes rest ih =>
      rw [List.mapM_cons, addresses_eq, ih, List.flatten_cons, List.find?_append]
      cases prefixes.find? (fun text => (address? text).isNone) with
      | some text => rfl
      | none => cases rest.flatten.find? (fun text => (address? text).isNone) <;> rfl

theorem ofPrefixes_eq (devices : List (List String)) :
    ofPrefixes devices =
      match devices.flatten.find? (fun text => (address? text).isNone) with
      | some text => .error (unreadable text)
      | none => .ok (ofAddresses (devices.map (·.filterMap address?))) := by
  rw [ofPrefixes, mapM_addresses_eq]
  cases devices.flatten.find? (fun text => (address? text).isNone) <;> rfl

variable {devices : List (List String)}

theorem isNone_address? {text : String} :
    (address? text).isNone = true ↔ NetworkPrefix.parse? text = none := by
  simp [address?]

theorem exists_ofPrefixes_eq_ok_iff :
    (∃ loopbacks, ofPrefixes devices = .ok loopbacks) ↔
      ∀ prefixes ∈ devices, ∀ text ∈ prefixes, (NetworkPrefix.parse? text).isSome := by
  have hnone : devices.flatten.find? (fun text => (address? text).isNone) = none ↔
      ∀ prefixes ∈ devices, ∀ text ∈ prefixes, (NetworkPrefix.parse? text).isSome := by
    simp only [List.find?_eq_none, isNone_address?, List.mem_flatten, Option.isSome_iff_ne_none]
    exact ⟨fun h prefixes hprefixes text htext => h text ⟨prefixes, hprefixes, htext⟩,
      fun h text ⟨prefixes, hprefixes, htext⟩ => h prefixes hprefixes text htext⟩
  rw [ofPrefixes_eq, ← hnone]
  cases devices.flatten.find? (fun text => (address? text).isNone) <;> simp

theorem ofPrefixes_eq_error_iff {error : Error} :
    ofPrefixes devices = .error error ↔
      ∃ earlier text later, devices.flatten = earlier ++ text :: later ∧
        (∀ other ∈ earlier, (NetworkPrefix.parse? other).isSome) ∧
        NetworkPrefix.parse? text = none ∧ error = unreadable text := by
  have hfirst : ofPrefixes devices = .error error ↔
      ∃ text, devices.flatten.find? (fun text => (address? text).isNone) = some text ∧
        error = unreadable text := by
    rw [ofPrefixes_eq]
    cases devices.flatten.find? (fun text => (address? text).isNone) <;> simp [eq_comm]
  simp only [hfirst, List.find?_eq_some_iff_append, isNone_address?, Bool.not_eq_true',
    Bool.eq_false_iff, ne_eq, ← Option.ne_none_iff_isSome]
  constructor
  · rintro ⟨text, ⟨hnone, earlier, later, hsplit, hearlier⟩, rfl⟩
    exact ⟨earlier, text, later, hsplit, hearlier, hnone, rfl⟩
  · rintro ⟨earlier, text, later, hsplit, hearlier, hnone, rfl⟩
    exact ⟨text, ⟨hnone, earlier, later, hsplit, hearlier⟩, rfl⟩

/-! ### Slots -/

section Slots

variable {version : Address → Prop} {holds : Address → Bool}

theorem isSlot_find? (hholds : ∀ address, holds address = true ↔ version address)
    (prefixes : List String) :
    IsSlot version prefixes ((prefixes.filterMap address?).find? holds) := by
  -- the first address that counts is that of the first prefix whose address counts
  rw [List.find?_filterMap]
  have hany (text : String) : (address? text).any holds = true ↔
      ∃ network, NetworkPrefix.parse? text = some network ∧ version network.address := by
    simp only [address?, Option.any_map, Option.any_eq_true, hholds]
  cases hfind : prefixes.find? (fun text => (address? text).any holds) with
  | none =>
      refine .none fun text htext network hnetwork hversion => ?_
      exact List.find?_eq_none.mp hfind text htext ((hany text).mpr ⟨network, hnetwork, hversion⟩)
  | some text =>
      obtain ⟨hfound, earlier, later, hsplit, hearlier⟩ := List.find?_eq_some_iff_append.mp hfind
      obtain ⟨found, hparse, hversion⟩ := (hany text).mp hfound
      have hslot : (some text).bind address? = some found.address := by
        rw [Option.bind_some, address?, hparse, Option.map_some]
      rw [hslot]
      refine .first hsplit hparse hversion fun other hother network hnetwork hother' => ?_
      have hnot := hearlier other hother
      rw [(hany other).mpr ⟨network, hnetwork, hother'⟩] at hnot
      cases hnot

theorem forall₂_isSlot (hholds : ∀ address, holds address = true ↔ version address)
    (devices : List (List String)) :
    List.Forall₂ (IsSlot version) devices
      ((devices.map (·.filterMap address?)).map (·.find? holds)) := by
  rw [List.map_map, List.forall₂_map_right_iff, List.forall₂_same]
  exact fun prefixes _ => isSlot_find? hholds prefixes

theorem isV4_iff (address : Address) : isV4 address = true ↔ address.IsV4 := by
  cases address <;> simp [isV4, Address.IsV4]

theorem not_isV4_iff (address : Address) : (!isV4 address) = true ↔ address.IsV6 := by
  cases address <;> simp [isV4, Address.IsV6]

end Slots

theorem slots_ofPrefixes {loopbacks : Loopbacks} (hread : ofPrefixes devices = .ok loopbacks) :
    List.Forall₂ (IsSlot Address.IsV4) devices loopbacks.v4 ∧
      List.Forall₂ (IsSlot Address.IsV6) devices loopbacks.v6 := by
  rw [ofPrefixes_eq] at hread
  cases hfind : devices.flatten.find? (fun text => (address? text).isNone) with
  | some text =>
      rw [hfind] at hread
      cases hread
  | none =>
      rw [hfind] at hread
      cases hread
      exact ⟨forall₂_isSlot isV4_iff devices, forall₂_isSlot not_isV4_iff devices⟩

theorem getElem?_eq_some_join {slots : List (Option α)} {place : Nat}
    (hplace : place < slots.length) : slots[place]? = some slots[place]?.join := by
  rw [List.getElem?_eq_getElem hplace]
  rfl

/-- **Every device has its slots.** There are slots if and only if every prefix of every device can
be read, and otherwise the first that cannot be is reported. Each device has one slot for each
version, and at every place the variables are filled with the two slots there, or with nothing
beyond the last device. -/
theorem ofPrefixes_fills_slots (devices : List (List String)) :
    ((∃ loopbacks, ofPrefixes devices = .ok loopbacks) ↔
      ∀ prefixes ∈ devices, ∀ text ∈ prefixes, (NetworkPrefix.parse? text).isSome) ∧
    (∀ error, ofPrefixes devices = .error error ↔
      ∃ earlier text later, devices.flatten = earlier ++ text :: later ∧
        (∀ other ∈ earlier, (NetworkPrefix.parse? other).isSome) ∧
        NetworkPrefix.parse? text = none ∧ error = unreadable text) ∧
    ∀ loopbacks, ofPrefixes devices = .ok loopbacks →
      List.Forall₂ (IsSlot Address.IsV4) devices loopbacks.v4 ∧
      List.Forall₂ (IsSlot Address.IsV6) devices loopbacks.v6 ∧
      ∀ place versions modes ecnMode operation,
        let filling := Variables.forDevice place versions loopbacks modes ecnMode operation
        (place < devices.length → loopbacks.v4[place]? = some filling.v4 ∧
          loopbacks.v6[place]? = some filling.v6) ∧
        (devices.length ≤ place → filling.v4 = none ∧ filling.v6 = none) := by
  refine ⟨exists_ofPrefixes_eq_ok_iff, fun _ => ofPrefixes_eq_error_iff, ?_⟩
  intro loopbacks hread
  obtain ⟨hv4, hv6⟩ := slots_ofPrefixes hread
  refine ⟨hv4, hv6, fun place versions modes ecnMode operation => ⟨fun hplace => ?_, ?_⟩⟩
  · exact ⟨getElem?_eq_some_join (hv4.length_eq ▸ hplace),
      getElem?_eq_some_join (hv6.length_eq ▸ hplace)⟩
  · intro hplace
    simp only [Variables.forDevice]
    rw [List.getElem?_eq_none (hv4.length_eq ▸ hplace),
      List.getElem?_eq_none (hv6.length_eq ▸ hplace)]
    exact ⟨rfl, rfl⟩

/-- A second prefix of one version, a device with the other version only and one with none, and a
prefix that cannot be read behind both addresses of its device. -/
theorem ofPrefixes_fills_slots_of_mixed_versions :
    let devices := [["10.1.0.32/32", "FC00:1::32/128", "10.1.0.33/32"], ["FC00:1::34/128"], []]
    let faulty := devices ++ [["10.0.0.1", "::1", "not-an-ip", "::2"], ["nor-this"]]
    let loopbacks : Loopbacks := ⟨[some (.v4 0x0a010020), none, none],
      [some (.v6 0xfc000001000000000000000000000032),
        some (.v6 0xfc000001000000000000000000000034), none]⟩
    let filling (place : Nat) :=
      Variables.forDevice place .all loopbacks ⟨"pipe", "uniform"⟩ "standard" .set
    List.Forall₂ (IsSlot Address.IsV4) devices loopbacks.v4 ∧
      List.Forall₂ (IsSlot Address.IsV6) devices loopbacks.v6 ∧
      loopbacks.v6[1]? = some (filling 1).v6 ∧ (filling 3).v4 = none ∧ (filling 3).v6 = none ∧
      ∃ earlier text later, faulty.flatten = earlier ++ text :: later ∧
        (∀ other ∈ earlier, (NetworkPrefix.parse? other).isSome) ∧
        NetworkPrefix.parse? text = none ∧ unreadable "not-an-ip" = unreadable text := by
  intro devices faulty loopbacks filling
  have hread : ofPrefixes devices = .ok loopbacks := by decide
  have hfaulty : ofPrefixes faulty = .error (unreadable "not-an-ip") := by decide
  obtain ⟨-, -, hslots⟩ := ofPrefixes_fills_slots devices
  obtain ⟨-, herror, -⟩ := ofPrefixes_fills_slots faulty
  obtain ⟨hv4, hv6, hfilled⟩ := hslots loopbacks hread
  obtain ⟨hinside, -⟩ := hfilled 1 .all ⟨"pipe", "uniform"⟩ "standard" .set
  obtain ⟨-, hbeyond⟩ := hfilled 3 .all ⟨"pipe", "uniform"⟩ "standard" .set
  obtain ⟨hnone4, hnone6⟩ := hbeyond (by decide)
  exact ⟨hv4, hv6, (hinside (by decide)).2, hnone4, hnone6, (herror _).mp hfaulty⟩

end Decap.Loopbacks

end SshCompliance
