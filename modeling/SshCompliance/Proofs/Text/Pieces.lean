import SshCompliance.Text.Blank
import Mathlib.Data.List.Forall2
import Mathlib.Data.List.TakeWhile

/-!
# Trimmed pieces of a text

A text is split where it was joined. Blanks at its ends are blanks at the ends of its first and last
piece if no blank separates, so trimming the text makes no difference to its trimmed pieces.
-/

namespace SshCompliance.Text

/-- A text of blanks. -/
def Gap (text : List Char) : Prop := ∀ c ∈ text, isBlank c = true

instance (text : List Char) : Decidable (Gap text) :=
  decidable_of_iff (text.all isBlank = true) List.all_eq_true

theorem Gap.nil : Gap [] := fun _ hmem => absurd hmem List.not_mem_nil

def trimmed (text : String) : String := String.ofList (trim text.toList)

theorem trimmed_eq_self_iff {text : String} :
    trimmed text = text ↔ trim text.toList = text.toList := by
  rw [trimmed, ← String.toList_inj, String.toList_ofList]

theorem map_ofList_eq_iff {pieces : List (List Char)} {texts : List String} :
    pieces.map String.ofList = texts ↔ pieces = texts.map String.toList := by
  constructor
  · rintro rfl
    simp [Function.comp_def]
  · rintro rfl
    simp [Function.comp_def]

/-! ### Trimming -/

section Trimming

variable {gap : List Char} {c : Char}

theorem trimStart_append (hgap : Gap gap) (text : List Char) :
    trimStart (gap ++ text) = trimStart text :=
  List.dropWhile_append_of_pos hgap

theorem trimStart_cons (hc : isBlank c = false) (text : List Char) :
    trimStart (c :: text) = c :: text :=
  List.dropWhile_cons_of_neg (by simp [hc])

theorem trimEnd_append (text : List Char) (hgap : Gap gap) :
    trimEnd (text ++ gap) = trimEnd text := by
  have hreverse : ∀ c ∈ gap.reverse, isBlank c = true :=
    fun c hmem => hgap c (List.mem_reverse.mp hmem)
  rw [trimEnd, List.reverse_append, List.dropWhile_append_of_pos hreverse, trimEnd]

/-- Nothing is trimmed in front of a character that is not blank. -/
theorem trimEnd_append_cons (text : List Char) (hc : isBlank c = false) (rest : List Char) :
    trimEnd (text ++ c :: rest) = text ++ c :: trimEnd rest := by
  have hstop : (c :: text.reverse).dropWhile isBlank = c :: text.reverse := trimStart_cons hc _
  rw [trimEnd, List.reverse_append, List.reverse_cons, List.append_assoc, List.singleton_append,
    List.dropWhile_append]
  split
  · next hrest =>
    have hnil : trimEnd rest = [] := by rw [trimEnd, List.isEmpty_iff.mp hrest, List.reverse_nil]
    rw [hstop, hnil]
    simp
  · rw [trimEnd]
    simp

theorem trim_cons (hc : isBlank c = false) (text : List Char) :
    trim (c :: text) = c :: trimEnd text := by
  rw [trim, trimStart_cons hc]
  exact trimEnd_append_cons [] hc text

theorem trimStart_gap (hgap : Gap gap) : trimStart gap = [] := List.dropWhile_eq_nil_iff.mpr hgap

theorem trimEnd_gap (hgap : Gap gap) : trimEnd gap = [] := trimEnd_append [] hgap

theorem exists_trimEnd_append (text : List Char) : ∃ gap, Gap gap ∧ text = trimEnd text ++ gap := by
  refine ⟨(text.reverse.takeWhile isBlank).reverse, ?_, ?_⟩
  · intro c hmem
    exact List.mem_takeWhile_imp (List.mem_reverse.mp hmem)
  · rw [trimEnd, ← List.reverse_append, List.takeWhile_append_dropWhile, List.reverse_reverse]

theorem exists_append_trimStart (text : List Char) :
    ∃ gap, Gap gap ∧ text = gap ++ trimStart text :=
  ⟨text.takeWhile isBlank, fun _ hmem => List.mem_takeWhile_imp hmem,
    List.takeWhile_append_dropWhile.symm⟩

theorem trim_gap_append (hgap : Gap gap) (text : List Char) : trim (gap ++ text) = trim text := by
  rw [trim, trimStart_append hgap, trim]

theorem trim_append_gap (text : List Char) (hgap : Gap gap) : trim (text ++ gap) = trim text := by
  rw [trim, trimStart, List.dropWhile_append]
  split
  · next htext =>
    have hnil : trimStart text = [] := List.isEmpty_iff.mp htext
    have hgapNil : gap.dropWhile isBlank = [] := List.dropWhile_eq_nil_iff.mpr hgap
    rw [hgapNil, trim, hnil]
  · exact trimEnd_append _ hgap

/-- Blanks are not taken from in front of a text without blanks. -/
theorem trimStart_append_solid (text : List Char) {solid : List Char}
    (hsolid : ∀ c ∈ solid, isBlank c = false) :
    trimStart (text ++ solid) = trimStart text ++ solid := by
  rw [trimStart, List.dropWhile_append]
  split
  · next htext =>
    rw [trimStart, List.isEmpty_iff.mp htext, List.nil_append]
    cases solid with
    | nil => rfl
    | cons c rest => exact trimStart_cons (hsolid c List.mem_cons_self) rest
  · rfl

theorem trimEnd_solid_append {solid : List Char} (hsolid : ∀ c ∈ solid, isBlank c = false)
    (text : List Char) : trimEnd (solid ++ text) = solid ++ trimEnd text := by
  have hreverse : ∀ c ∈ solid.reverse, isBlank c = false :=
    fun c hmem => hsolid c (List.mem_reverse.mp hmem)
  have hstart := trimStart_append_solid text.reverse hreverse
  rw [trimStart, trimStart] at hstart
  rw [trimEnd, List.reverse_append, hstart, List.reverse_append, List.reverse_reverse, trimEnd]

/-- Between texts without blanks, trimming takes nothing but blanks from the ends of a text. -/
theorem exists_trim_between {opening closing : List Char}
    (hopening : ∀ c ∈ opening, isBlank c = false) (hclosing : ∀ c ∈ closing, isBlank c = false)
    (text : List Char) :
    ∃ before inner after, Gap before ∧ Gap after ∧ text = before ++ inner ++ after ∧
      trim (opening ++ (text ++ closing)) = opening ++ (inner ++ closing) := by
  obtain ⟨before, rest, hbefore, htext, hstart⟩ : ∃ before rest, Gap before ∧
      text = before ++ rest ∧
      trimStart (opening ++ (text ++ closing)) = opening ++ (rest ++ closing) := by
    cases opening with
    | nil =>
        obtain ⟨before, hbefore, htext⟩ := exists_append_trimStart text
        exact ⟨before, trimStart text, hbefore, htext, trimStart_append_solid text hclosing⟩
    | cons c others =>
        exact ⟨[], text, .nil, rfl, trimStart_cons (hopening c List.mem_cons_self) _⟩
  obtain ⟨inner, after, hafter, hrest, hend⟩ : ∃ inner after, Gap after ∧ rest = inner ++ after ∧
      trimEnd (opening ++ (rest ++ closing)) = opening ++ (inner ++ closing) := by
    rw [trimEnd_solid_append hopening]
    rcases List.eq_nil_or_concat' closing with rfl | ⟨others, c, rfl⟩
    · obtain ⟨after, hafter, hrest⟩ := exists_trimEnd_append rest
      exact ⟨trimEnd rest, after, hafter, hrest, by rw [List.append_nil, List.append_nil]⟩
    · refine ⟨rest, [], .nil, (List.append_nil rest).symm, ?_⟩
      rw [← List.append_assoc, trimEnd_append_cons _ (hclosing c (by simp)), trimEnd_gap .nil]
  refine ⟨before, inner, after, hbefore, hafter, ?_, ?_⟩
  · rw [htext, hrest, List.append_assoc]
  · rw [trim, hstart, hend]

end Trimming

/-! ### Splitting -/

section Splitting

variable {separates : Char → Bool} {separator : Char}

theorem split_eq_splitOnP (text : List Char) : split separates text = text.splitOnP separates := by
  induction text with
  | nil => rfl
  | cons c rest ih =>
      rw [split, List.splitOnP_cons_eq_if_modifyHead, ih]
      obtain ⟨piece, pieces, hrest⟩ :=
        List.exists_cons_of_ne_nil (List.splitOnP_ne_nil separates rest)
      rw [hrest]
      rfl

theorem split_cons (c : Char) (rest : List Char) :
    split separates (c :: rest) =
      if separates c then [] :: split separates rest
      else (split separates rest).modifyHead (c :: ·) := by
  rw [split_eq_splitOnP, List.splitOnP_cons_eq_if_modifyHead, split_eq_splitOnP]

theorem split_joined (hseparates : ∀ c, separates c = true ↔ c = separator)
    {pieces : List (List Char)} (hpieces : ∀ piece ∈ pieces, separator ∉ piece)
    (hne : pieces ≠ []) : split separates ([separator].intercalate pieces) = pieces := by
  have heq : separates = (· == separator) := by
    funext c
    rw [Bool.eq_iff_iff, hseparates, beq_iff_eq]
  rw [split_eq_splitOnP, heq]
  exact List.splitOn_intercalate separator hpieces hne

/-- Blanks behind a text come to stand behind one of its pieces. -/
theorem split_append_gap (hblank : ∀ c, isBlank c = true → separates c = false) {gap : List Char}
    (hgap : Gap gap) (text : List Char) :
    List.Forall₂ (fun piece padded => ∃ gap, Gap gap ∧ padded = piece ++ gap)
      (split separates text) (split separates (text ++ gap)) := by
  induction text with
  | nil =>
      have hwhole : split separates gap = [gap] := by
        rw [split_eq_splitOnP]
        exact List.splitOnP_eq_singleton fun c hmem => hblank c (hgap c hmem)
      rw [List.nil_append, hwhole]
      exact .cons ⟨gap, hgap, rfl⟩ .nil
  | cons c rest ih =>
      -- Equal trimmed pieces would not carry the induction: `c` comes in front of a piece before
      -- that is trimmed.
      rw [List.cons_append, split_cons, split_cons]
      split
      · exact .cons ⟨[], .nil, rfl⟩ ih
      · generalize split separates rest = pieces, split separates (rest ++ gap) = padded at ih ⊢
        cases ih with
        | nil => exact .nil
        | cons hpiece hpieces =>
            obtain ⟨tail, htail, hpadded⟩ := hpiece
            exact .cons ⟨tail, htail, by rw [hpadded, List.cons_append]⟩ hpieces

theorem map_trim_split_append_gap (hblank : ∀ c, isBlank c = true → separates c = false)
    {gap : List Char} (text : List Char) (hgap : Gap gap) :
    (split separates (text ++ gap)).map trim = (split separates text).map trim := by
  have hpieces := split_append_gap hblank hgap text
  generalize split separates text = pieces, split separates (text ++ gap) = padded at hpieces ⊢
  induction hpieces with
  | nil => rfl
  | cons hpiece _ ih =>
      obtain ⟨tail, htail, rfl⟩ := hpiece
      rw [List.map_cons, List.map_cons, ih, trim_append_gap _ htail]

theorem map_trim_split_gap_append (hblank : ∀ c, isBlank c = true → separates c = false)
    {gap : List Char} (hgap : Gap gap) (text : List Char) :
    (split separates (gap ++ text)).map trim = (split separates text).map trim := by
  induction gap with
  | nil => rfl
  | cons c gap ih =>
      have hc := hgap c List.mem_cons_self
      have hrest : Gap gap := fun other hmem => hgap other (List.mem_cons_of_mem _ hmem)
      rw [← ih hrest, List.cons_append, split_cons, if_neg (by simp [hblank c hc])]
      -- The blank goes to the front of the first piece, where it is trimmed.
      cases split separates (gap ++ text) with
      | nil => rfl
      | cons piece pieces =>
          have hgap : Gap [c] := by simpa [Gap] using hc
          have htrim := trim_gap_append hgap piece
          rw [List.singleton_append] at htrim
          rw [List.modifyHead_cons, List.map_cons, List.map_cons, htrim]

theorem map_trim_split_trimEnd (hblank : ∀ c, isBlank c = true → separates c = false)
    (text : List Char) :
    (split separates (trimEnd text)).map trim = (split separates text).map trim := by
  obtain ⟨gap, hgap, htext⟩ := exists_trimEnd_append text
  have hpieces := map_trim_split_append_gap hblank (trimEnd text) hgap
  rw [← htext] at hpieces
  exact hpieces.symm

/-- **Trimming before and after.** -/
theorem map_trim_split_trim (hblank : ∀ c, isBlank c = true → separates c = false)
    (text : List Char) :
    (split separates (trim text)).map trim = (split separates text).map trim := by
  obtain ⟨gap, hgap, htext⟩ := exists_append_trimStart text
  have hpieces := map_trim_split_gap_append hblank hgap (trimStart text)
  rw [← htext] at hpieces
  rw [trim, map_trim_split_trimEnd hblank, hpieces]

theorem items_joined {pieces : List (List Char)} (hpieces : ∀ piece ∈ pieces, separator ∉ piece) :
    items separator ([separator].intercalate pieces) =
      (pieces.map trim).filter (fun piece => !piece.isEmpty) := by
  by_cases hne : pieces = []
  · subst hne
    rfl
  · rw [items, split_joined (fun c => beq_iff_eq) hpieces hne]

/-! ### Joined texts -/

variable {c : Char} {pieces : List (List Char)}

theorem not_mem_joined (hpieces : ∀ piece ∈ pieces, c ∉ piece) (hc : c ≠ separator) :
    c ∉ [separator].intercalate pieces := by
  induction pieces with
  | nil => simp
  | cons piece rest ih =>
      have hpiece := hpieces piece List.mem_cons_self
      cases rest with
      | nil => rwa [List.intercalate_singleton]
      | cons next rest =>
          have hrest := ih fun other hmem => hpieces other (List.mem_cons_of_mem _ hmem)
          simp [List.intercalate_cons_cons, hpiece, hc, hrest]

end Splitting

end SshCompliance.Text
