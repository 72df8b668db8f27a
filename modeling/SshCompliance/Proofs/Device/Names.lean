import SshCompliance.Device.Query
import SshCompliance.Proofs.Text.Occurrence
import SshCompliance.Proofs.Text.Words

/-!
# Names in a device's output

The names that an output gives are the words behind the first occurrence of the marker, and an
output without the marker gives nothing, which is not the same as giving no names. So a name can
come up in an output exactly if it is a word.
-/

namespace SshCompliance

variable {marker raw name : String} {names : List String} {before after : List Char}

theorem readNames?_eq_none_iff :
    readNames? marker raw = none ↔ ¬marker.toList <:+: raw.toList := by
  rw [readNames?, Option.map_eq_none_iff, Text.afterFirst?_eq_none_iff]

theorem readNames?_of_firstCut (hcut : Text.FirstCut marker.toList raw.toList before after) :
    readNames? marker raw = some ((Text.words after).map String.ofList) := by
  rw [readNames?, Text.afterFirst?_eq_some_iff.mpr ⟨before, hcut⟩, Option.map_some]

theorem readNames?_eq_some_iff (hcut : Text.FirstCut marker.toList raw.toList before after) :
    readNames? marker raw = some names ↔ Text.words after = names.map String.toList := by
  rw [readNames?_of_firstCut hcut, Option.some.injEq, Text.map_ofList_eq_iff]

/-- **What an output gives.** Names are read if and only if the marker occurs. The output is then
cut at its earliest occurrence in one way, even if occurrences overlap. The names are the runs of
what follows, by increasing places. They are also what follows is made of: if words stand behind the
marker with blanks between them and perhaps at the ends, then exactly these are read, and the marker
itself may be among them. -/
theorem readNames?_follows_format (marker raw : String) :
    (readNames? marker raw = none ↔ ¬marker.toList <:+: raw.toList) ∧
    (marker.toList <:+: raw.toList →
      ∃! parts : List Char × List Char,
        Text.FirstCut marker.toList raw.toList parts.1 parts.2) ∧
    ∀ before after, Text.FirstCut marker.toList raw.toList before after → ∀ names,
      (readNames? marker raw = some names ↔
        ∃ runs, Text.AreRuns after runs ∧ runs.map Prod.snd = names.map String.toList) ∧
      (readNames? marker raw = some names ↔ Text.Spaced after (names.map String.toList)) := by
  refine ⟨readNames?_eq_none_iff, ?_, ?_⟩
  · intro hoccurs
    obtain ⟨before, after, hcut⟩ := Text.exists_firstCut hoccurs
    refine ⟨(before, after), hcut, ?_⟩
    rintro ⟨other, rest⟩ hother
    obtain ⟨rfl, rfl⟩ := hcut.unique hother
    rfl
  · intro before after hcut names
    rw [readNames?_eq_some_iff hcut]
    exact ⟨Text.words_eq_iff_runs, Text.words_eq_iff_spaced⟩

/-- The marker begins once in vain, occurs at two places that overlap, and stands among the names. A
zero-width space does not separate names, an em space does. -/
theorem readNames?_follows_format_of_overlap :
    let raw := "> >>> aes128-ctr\u2003>>\r\numac\u200b64 "
    (∃! parts : List Char × List Char, Text.FirstCut ">>".toList raw.toList parts.1 parts.2) ∧
    ∃ before, Text.FirstCut ">>".toList raw.toList before
        "> aes128-ctr\u2003>>\r\numac\u200b64 ".toList ∧
      readNames? ">>" raw = some [">", "aes128-ctr", ">>", "umac\u200b64"] := by
  intro raw
  obtain ⟨before, hcut⟩ := Text.afterFirst?_eq_some_iff.mp
    (by decide : Text.afterFirst? ">>".toList raw.toList =
      some "> aes128-ctr\u2003>>\r\numac\u200b64 ".toList)
  obtain ⟨-, hunique, hnames⟩ := readNames?_follows_format ">>" raw
  refine ⟨hunique hcut.occurs, before, hcut, (hnames _ _ hcut _).2.mpr ?_⟩
  exact Text.words_eq_iff_spaced.mp (by decide)

/-! ### Names that can come up -/

/-- Some output gives the name behind some marker. -/
def Reportable (name : String) : Prop :=
  ∃ marker raw names, readNames? marker raw = some names ∧ name ∈ names

theorem isWord_of_mem_readNames? (hnames : readNames? marker raw = some names)
    (hname : name ∈ names) : Text.IsWord name.toList := by
  have hoccurs : marker.toList <:+: raw.toList := by
    by_contra hnowhere
    rw [readNames?_eq_none_iff.mpr hnowhere] at hnames
    cases hnames
  obtain ⟨before, after, hcut⟩ := Text.exists_firstCut hoccurs
  have hspaced := Text.words_eq_iff_spaced.mp ((readNames?_eq_some_iff hcut).mp hnames)
  exact hspaced.isWord (List.mem_map_of_mem hname)

/-- Every word comes up: alone, behind a marker that is empty. -/
theorem reportable_iff_isWord : Reportable name ↔ Text.IsWord name.toList := by
  constructor
  · rintro ⟨marker, raw, names, hnames, hname⟩
    exact isWord_of_mem_readNames? hnames hname
  · intro hword
    have hcut : Text.FirstCut "".toList name.toList [] name.toList := Text.firstCut_nil [] _
    refine ⟨"", name, [name], ?_, List.mem_singleton_self name⟩
    rw [readNames?_eq_some_iff hcut]
    exact Text.words_of_isWord hword

end SshCompliance
