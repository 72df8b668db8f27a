import SshCompliance.Text.Search
import Mathlib.Data.List.Infix

/-!
# The first occurrence of a marker

A text is cut where a marker occurs first. Occurrences may overlap one another, so a cut is first if
no other has less in front of it. There is at most one such cut, and the search finds it whenever
the marker occurs at all.
-/

namespace SshCompliance.Text

/-- The marker stands between two parts of the text, and at no place further to the front. -/
structure FirstCut (marker text before after : List Char) : Prop where
  cut : text = before ++ marker ++ after
  earliest : ∀ other rest, text = other ++ marker ++ rest → before.length ≤ other.length

variable {marker text before after : List Char} {c : Char}

theorem FirstCut.unique {other rest : List Char} (hcut : FirstCut marker text before after)
    (hother : FirstCut marker text other rest) : before = other ∧ after = rest := by
  have hlength : before.length = other.length :=
    Nat.le_antisymm (hcut.earliest _ _ hother.cut) (hother.earliest _ _ hcut.cut)
  have hsame : before ++ (marker ++ after) = other ++ (marker ++ rest) := by
    rw [← List.append_assoc, ← List.append_assoc, ← hcut.cut, ← hother.cut]
  obtain ⟨hbefore, htail⟩ := List.append_inj hsame hlength
  exact ⟨hbefore, List.append_cancel_left htail⟩

theorem FirstCut.occurs (hcut : FirstCut marker text before after) : marker <:+: text :=
  ⟨before, after, hcut.cut.symm⟩

/-- A marker at the very front is its own first occurrence. -/
theorem firstCut_nil (marker after : List Char) : FirstCut marker (marker ++ after) [] after where
  cut := rfl
  earliest := fun _ _ _ => Nat.zero_le _

/-- If the marker is not at the front, then the first cut of a text is that of its rest. -/
theorem FirstCut.cons (hfront : ¬marker <+: c :: text) (hcut : FirstCut marker text before after) :
    FirstCut marker (c :: text) (c :: before) after where
  cut := by
    rw [hcut.cut]
    rfl
  earliest := by
    intro other rest hother
    -- a cut with nothing in front would have the marker at the front
    cases other with
    | nil => exact absurd ⟨rest, hother.symm⟩ hfront
    | cons first other =>
        obtain ⟨-, hrest⟩ := List.cons.inj hother
        exact Nat.succ_le_succ (hcut.earliest other rest hrest)

/-! ### The search -/

theorem afterFirst?_append (marker after : List Char) :
    afterFirst? marker (marker ++ after) = some after := by
  have hfront : marker.isPrefixOf? (marker ++ after) = some after :=
    List.isPrefixOf?_eq_some_iff_append_eq.mpr rfl
  cases htext : marker ++ after with
  | nil => rwa [htext] at hfront
  | cons c rest =>
      rw [htext] at hfront
      rw [afterFirst?, hfront]

theorem afterFirst?_cons (hfront : ¬marker <+: c :: text) :
    afterFirst? marker (c :: text) = afterFirst? marker text := by
  have hnone : marker.isPrefixOf? (c :: text) = none := by
    apply Option.eq_none_iff_forall_ne_some.mpr
    intro rest hrest
    exact hfront ⟨rest, List.isPrefixOf?_eq_some_iff_append_eq.mp hrest⟩
  rw [afterFirst?, hnone]

theorem firstCut_of_afterFirst? (hafter : afterFirst? marker text = some after) :
    ∃ before, FirstCut marker text before after := by
  induction text with
  | nil =>
      have hnil : marker ++ after = [] := List.isPrefixOf?_eq_some_iff_append_eq.mp hafter
      rw [← hnil]
      exact ⟨[], firstCut_nil marker after⟩
  | cons c rest ih =>
      by_cases hfront : marker <+: c :: rest
      · obtain ⟨remainder, htext⟩ := hfront
        rw [← htext, afterFirst?_append] at hafter
        obtain rfl := Option.some.inj hafter
        rw [← htext]
        exact ⟨[], firstCut_nil marker remainder⟩
      · rw [afterFirst?_cons hfront] at hafter
        obtain ⟨before, hcut⟩ := ih hafter
        exact ⟨c :: before, hcut.cons hfront⟩

theorem exists_afterFirst? (hoccurs : marker <:+: text) :
    ∃ after, afterFirst? marker text = some after := by
  induction text with
  | nil =>
      obtain rfl := List.infix_nil.mp hoccurs
      exact ⟨[], rfl⟩
  | cons c rest ih =>
      by_cases hfront : marker <+: c :: rest
      · obtain ⟨remainder, htext⟩ := hfront
        rw [← htext]
        exact ⟨remainder, afterFirst?_append marker remainder⟩
      · rw [afterFirst?_cons hfront]
        exact ih ((List.infix_cons_iff.mp hoccurs).resolve_left hfront)

/-- **What follows the first occurrence.** -/
theorem afterFirst?_eq_some_iff :
    afterFirst? marker text = some after ↔ ∃ before, FirstCut marker text before after := by
  refine ⟨firstCut_of_afterFirst?, ?_⟩
  rintro ⟨before, hcut⟩
  obtain ⟨found, hfound⟩ := exists_afterFirst? hcut.occurs
  obtain ⟨other, hother⟩ := firstCut_of_afterFirst? hfound
  rw [hfound, (hcut.unique hother).2]

theorem afterFirst?_eq_none_iff : afterFirst? marker text = none ↔ ¬marker <:+: text := by
  constructor
  · intro hnone hoccurs
    obtain ⟨after, hafter⟩ := exists_afterFirst? hoccurs
    rw [hnone] at hafter
    cases hafter
  · intro hnowhere
    apply Option.eq_none_iff_forall_ne_some.mpr
    intro after hafter
    obtain ⟨before, hcut⟩ := firstCut_of_afterFirst? hafter
    exact hnowhere hcut.occurs

/-- Where a marker occurs, one place is the first. -/
theorem exists_firstCut (hoccurs : marker <:+: text) :
    ∃ before after, FirstCut marker text before after := by
  obtain ⟨after, hafter⟩ := exists_afterFirst? hoccurs
  obtain ⟨before, hcut⟩ := firstCut_of_afterFirst? hafter
  exact ⟨before, after, hcut⟩

end SshCompliance.Text
