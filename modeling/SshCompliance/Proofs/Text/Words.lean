import SshCompliance.Proofs.Text.Pieces
import Mathlib.Data.List.Sort

/-!
# The words of a text

A text consists of words with gaps around them, and it does so in one way only: words that have
blanks between them are neither split nor joined nor lost. The words are also told by their places.
Each is a run of the text, a part without blanks that has a blank or an end of the text on either
side, and every run of the text is one of its words.
-/

namespace SshCompliance.Text

structure IsWord (word : List Char) : Prop where
  nonempty : word ≠ []
  unbroken : ∀ c ∈ word, isBlank c = false

theorem isWord_toList_iff {text : String} :
    IsWord text.toList ↔ text ≠ "" ∧ ∀ c ∈ text.toList, isBlank c = false := by
  have hempty : text.toList = [] ↔ text = "" := String.toList_eq_nil_iff
  constructor
  · rintro ⟨hne, hunbroken⟩
    exact ⟨fun hnil => hne (hempty.mpr hnil), hunbroken⟩
  · rintro ⟨hne, hunbroken⟩
    exact ⟨fun hnil => hne (hempty.mp hnil), hunbroken⟩

/-- A text that does not begin in the middle of a word. -/
def Apart (text : List Char) : Prop := ∀ c, text.head? = some c → isBlank c = true

/-- A text of words in their order, with blanks between any two of them and perhaps at the ends. -/
inductive Spaced : List Char → List (List Char) → Prop
  | gap {gap : List Char} (hgap : Gap gap) : Spaced gap []
  | word {gap word rest : List Char} {listed : List (List Char)} (hgap : Gap gap)
    (hword : IsWord word) (hapart : Apart rest) (hrest : Spaced rest listed) :
    Spaced (gap ++ word ++ rest) (word :: listed)

/-- A run of a text that begins at a place. -/
def IsRun (text : List Char) (start : Nat) (run : List Char) : Prop :=
  ∃ before after, text = before ++ run ++ after ∧ before.length = start ∧ IsWord run ∧
    (∀ c, before.getLast? = some c → isBlank c = true) ∧ Apart after

/-- All runs of a text from the front to the back, each with its place. -/
structure AreRuns (text : List Char) (runs : List (Nat × List Char)) : Prop where
  ordered : runs.Pairwise (fun first second => first.1 < second.1)
  mem_iff : ∀ start run, (start, run) ∈ runs ↔ IsRun text start run

variable {text gap word rest : List Char} {listed : List (List Char)} {c : Char}

theorem Gap.cons (hc : isBlank c = true) (hgap : Gap gap) : Gap (c :: gap) :=
  List.forall_mem_cons.mpr ⟨hc, hgap⟩

theorem Gap.apart (hgap : Gap gap) : Apart gap :=
  fun c hhead => hgap c (List.mem_of_mem_head? hhead)

theorem apart_cons (hc : isBlank c = true) (rest : List Char) : Apart (c :: rest) := by
  rintro _ ⟨⟩
  exact hc

/-! ### Words of spaced texts -/

theorem words_append_cons (text : List Char) (hc : isBlank c = true) (rest : List Char) :
    words (text ++ c :: rest) = words text ++ words rest := by
  unfold words
  simp only [split_eq_splitOnP]
  rw [List.splitOnP_append_cons text rest hc, List.filter_append]

theorem words_gap_append (hgap : Gap gap) (text : List Char) :
    words (gap ++ text) = words text := by
  induction gap with
  | nil => rfl
  | cons c gap ih =>
      obtain ⟨hc, hrest⟩ := List.forall_mem_cons.mp hgap
      calc
        words (c :: (gap ++ text))
            = words [] ++ words (gap ++ text) := words_append_cons [] hc (gap ++ text)
        _ = words text := ih hrest

theorem words_of_isWord (hword : IsWord word) : words word = [word] := by
  have hwhole : split isBlank word = [word] := by
    rw [split_eq_splitOnP]
    exact List.splitOnP_eq_singleton hword.unbroken
  rw [words, hwhole, List.filter_cons_of_pos (by simpa using hword.nonempty), List.filter_nil]

theorem words_word_append (hword : IsWord word) (hapart : Apart rest) :
    words (word ++ rest) = word :: words rest := by
  cases rest with
  | nil =>
      rw [List.append_nil, words_of_isWord hword]
      rfl
  | cons c rest =>
      have hc : isBlank c = true := hapart c rfl
      have hskip : words (c :: rest) = words rest := words_append_cons [] hc rest
      rw [words_append_cons word hc, words_of_isWord hword, hskip, List.singleton_append]

theorem Spaced.words_eq (hspaced : Spaced text listed) : words text = listed := by
  induction hspaced with
  | gap hgap =>
      have hwords := words_gap_append hgap []
      rwa [List.append_nil] at hwords
  | word hgap hword hapart _ ih =>
      rw [List.append_assoc, words_gap_append hgap, words_word_append hword hapart, ih]

theorem Spaced.cons_blank (hc : isBlank c = true) (hspaced : Spaced text listed) :
    Spaced (c :: text) listed := by
  cases hspaced with
  | gap hgap => exact .gap (hgap.cons hc)
  | word hgap hword hapart hrest => exact .word (hgap.cons hc) hword hapart hrest

/-- A character that is not blank makes the first word longer, or is a word if a gap follows. -/
theorem Spaced.exists_cons (hc : isBlank c = false) (hspaced : Spaced text listed) :
    ∃ others, Spaced (c :: text) others := by
  have hletter : IsWord [c] := ⟨List.cons_ne_nil c [], List.forall_mem_singleton.mpr hc⟩
  cases hspaced with
  | gap hgap => exact ⟨_, .word .nil hletter hgap.apart (.gap hgap)⟩
  | @word gap word rest listed hgap hword hapart hrest =>
      cases gap with
      | nil =>
          have hlonger : IsWord (c :: word) :=
            ⟨List.cons_ne_nil c word, List.forall_mem_cons.mpr ⟨hc, hword.unbroken⟩⟩
          exact ⟨_, .word .nil hlonger hapart hrest⟩
      | cons blank gap =>
          have hblank : isBlank blank = true := hgap blank List.mem_cons_self
          exact ⟨_, .word .nil hletter (apart_cons hblank _) (.word hgap hword hapart hrest)⟩

theorem exists_spaced (text : List Char) : ∃ listed, Spaced text listed := by
  induction text with
  | nil => exact ⟨[], .gap .nil⟩
  | cons c rest ih =>
      obtain ⟨listed, hrest⟩ := ih
      cases hc : isBlank c with
      | true => exact ⟨listed, hrest.cons_blank hc⟩
      | false => exact hrest.exists_cons hc

/-- **Words by their gaps.** -/
theorem words_eq_iff_spaced : words text = listed ↔ Spaced text listed := by
  refine ⟨?_, Spaced.words_eq⟩
  rintro rfl
  obtain ⟨listed, hspaced⟩ := exists_spaced text
  rwa [hspaced.words_eq]

theorem Spaced.isWord (hspaced : Spaced text listed) (hmem : word ∈ listed) : IsWord word := by
  induction hspaced with
  | gap hgap => cases hmem
  | word hgap hword hapart _ ih =>
      rcases List.mem_cons.mp hmem with rfl | hlater
      · exact hword
      · exact ih hlater

/-! ### Runs -/

variable {run : List Char} {runs : List (Nat × List Char)} {start : Nat}

theorem Gap.not_isRun (hgap : Gap gap) : ¬IsRun gap start run := by
  rintro ⟨before, after, rfl, -, hrun, -, -⟩
  obtain ⟨c, hc⟩ := List.exists_mem_of_ne_nil run hrun.nonempty
  have hblank := hgap c (by simp [hc])
  rw [hrun.unbroken c hc] at hblank
  cases hblank

/-- A blank in front moves every run by one place. -/
theorem isRun_cons (hc : isBlank c = true) :
    IsRun (c :: text) start run ↔ ∃ place, start = place + 1 ∧ IsRun text place run := by
  constructor
  · rintro ⟨before, after, htext, rfl, hrun, hbefore, hafter⟩
    cases before with
    | nil =>
        -- the blank would be the first character of the run
        obtain ⟨first, others, rfl⟩ := List.exists_cons_of_ne_nil hrun.nonempty
        obtain ⟨rfl, -⟩ := List.cons.inj htext
        have hfirst := hrun.unbroken c List.mem_cons_self
        rw [hc] at hfirst
        cases hfirst
    | cons first before =>
        obtain ⟨rfl, hrest⟩ := List.cons.inj htext
        refine ⟨before.length, rfl, before, after, hrest, rfl, hrun, ?_, hafter⟩
        intro last hlast
        apply hbefore last
        rw [List.getLast?_cons, hlast]
        rfl
  · rintro ⟨place, rfl, before, after, rfl, rfl, hrun, hbefore, hafter⟩
    refine ⟨c :: before, after, rfl, rfl, hrun, ?_, hafter⟩
    intro last hlast
    rw [List.getLast?_cons, Option.some.injEq] at hlast
    cases hfound : before.getLast? with
    | none =>
        rw [hfound] at hlast
        exact hlast ▸ hc
    | some found =>
        rw [hfound] at hlast
        exact hlast ▸ hbefore found hfound

theorem isRun_gap_append (hgap : Gap gap) :
    IsRun (gap ++ text) start run ↔ ∃ place, start = gap.length + place ∧ IsRun text place run := by
  induction gap generalizing start with
  | nil => simp
  | cons c gap ih =>
      obtain ⟨hc, hrest⟩ := List.forall_mem_cons.mp hgap
      rw [List.cons_append, isRun_cons hc]
      constructor
      · rintro ⟨further, rfl, hfurther⟩
        obtain ⟨place, rfl, hplace⟩ := (ih hrest).mp hfurther
        exact ⟨place, by rw [List.length_cons]; omega, hplace⟩
      · rintro ⟨place, rfl, hplace⟩
        refine ⟨gap.length + place, by rw [List.length_cons]; omega, ?_⟩
        exact (ih hrest).mpr ⟨place, rfl, hplace⟩

/-- A part without blanks at the front of a text ends where the blanks begin. -/
theorem takeWhile_word_append (hword : IsWord word) (hapart : Apart rest) :
    (word ++ rest).takeWhile (fun c => !isBlank c) = word := by
  rw [List.takeWhile_append_of_pos (by simpa using hword.unbroken)]
  cases rest with
  | nil => simp
  | cons c rest => simp [hapart c rfl]

/-- In front of a text that begins apart, a word is a run and moves every other one. -/
theorem isRun_word_append (hword : IsWord word) (hapart : Apart rest) :
    IsRun (word ++ rest) start run ↔
      (start = 0 ∧ run = word) ∨ ∃ place, start = word.length + place ∧ IsRun rest place run := by
  constructor
  · rintro ⟨before, after, htext, rfl, hrun, hbefore, hafter⟩
    rcases List.eq_nil_or_concat before with rfl | ⟨front, last, rfl⟩
    · left
      have hrunFirst := takeWhile_word_append hrun hafter
      have hwordFirst := takeWhile_word_append hword hapart
      rw [htext, List.nil_append, hrunFirst] at hwordFirst
      exact ⟨rfl, hwordFirst⟩
    · right
      have hlast : isBlank last = true := hbefore last (by simp)
      rw [List.append_assoc, List.append_eq_append_iff] at htext
      rcases htext with ⟨between, hfront, hrest⟩ | ⟨between, hfront, -⟩
      · refine ⟨between.length, ?_, between, after, ?_, rfl, hrun, ?_, hafter⟩
        · rw [hfront, List.length_append]
        · rw [hrest, List.append_assoc]
        · intro c hc
          apply hbefore c
          rw [hfront, List.getLast?_append, hc]
          rfl
      · -- the blank before the run would stand in the word
        have hmem : last ∈ word := by
          rw [hfront]
          simp
        rw [hword.unbroken last hmem] at hlast
        cases hlast
  · rintro (⟨rfl, rfl⟩ | ⟨place, rfl, before, after, rfl, rfl, hrun, hbefore, hafter⟩)
    · exact ⟨[], rest, rfl, rfl, hword, by simp, hapart⟩
    · refine ⟨word ++ before, after, by simp, by simp, hrun, ?_, hafter⟩
      intro c hc
      apply hbefore c
      cases before with
      | nil =>
          -- the rest begins with the run, so it would not begin apart
          obtain ⟨first, others, rfl⟩ := List.exists_cons_of_ne_nil hrun.nonempty
          have hblank := hapart first rfl
          rw [hrun.unbroken first List.mem_cons_self] at hblank
          cases hblank
      | cons first others => simpa [List.getLast?_append] using hc

def moved (offset : Nat) (runs : List (Nat × List Char)) : List (Nat × List Char) :=
  runs.map (Prod.map (offset + ·) id)

theorem mem_moved {offset : Nat} :
    (start, run) ∈ moved offset runs ↔ ∃ place, start = offset + place ∧ (place, run) ∈ runs := by
  unfold moved
  rw [List.mem_map]
  constructor
  · rintro ⟨⟨place, other⟩, hmem, hmoved⟩
    obtain ⟨rfl, rfl⟩ := Prod.mk.inj hmoved
    exact ⟨place, rfl, hmem⟩
  · rintro ⟨place, rfl, hmem⟩
    exact ⟨(place, run), hmem, rfl⟩

theorem AreRuns.ordered_moved (hruns : AreRuns text runs) (offset : Nat) :
    (moved offset runs).Pairwise (fun first second => first.1 < second.1) :=
  hruns.ordered.map _ fun _ _ hlt => Nat.add_lt_add_left hlt offset

theorem AreRuns.gap_append (hgap : Gap gap) (hruns : AreRuns text runs) :
    AreRuns (gap ++ text) (moved gap.length runs) where
  ordered := hruns.ordered_moved gap.length
  mem_iff := by
    intro start run
    simp only [mem_moved, isRun_gap_append hgap, hruns.mem_iff]

theorem AreRuns.word_append (hword : IsWord word) (hapart : Apart rest)
    (hruns : AreRuns rest runs) :
    AreRuns (word ++ rest) ((0, word) :: moved word.length runs) where
  ordered := by
    refine List.pairwise_cons.mpr ⟨?_, hruns.ordered_moved word.length⟩
    rintro ⟨start, run⟩ hmem
    obtain ⟨place, rfl, -⟩ := mem_moved.mp hmem
    exact Nat.lt_of_lt_of_le (List.length_pos_iff.mpr hword.nonempty) (Nat.le_add_right _ _)
  mem_iff := by
    intro start run
    rw [List.mem_cons, Prod.mk.injEq, isRun_word_append hword hapart, mem_moved]
    simp only [hruns.mem_iff]

theorem Spaced.exists_runs (hspaced : Spaced text listed) :
    ∃ runs, AreRuns text runs ∧ runs.map Prod.snd = listed := by
  induction hspaced with
  | gap hgap =>
      have hnone : AreRuns _ [] :=
        ⟨.nil, fun _ _ => iff_of_false List.not_mem_nil hgap.not_isRun⟩
      exact ⟨[], hnone, rfl⟩
  | @word gap word rest listed hgap hword hapart _ ih =>
      obtain ⟨runs, hruns, rfl⟩ := ih
      refine ⟨moved gap.length ((0, word) :: moved word.length runs), ?_, ?_⟩
      · rw [List.append_assoc]
        exact (hruns.word_append hword hapart).gap_append hgap
      · simp [moved]

theorem AreRuns.unique {others : List (Nat × List Char)} (hruns : AreRuns text runs)
    (hothers : AreRuns text others) : runs = others := by
  have hdistinct {list : List (Nat × List Char)} (hlist : AreRuns text list) : list.Nodup :=
    hlist.ordered.imp fun hlt hsame => Nat.ne_of_lt hlt (congrArg Prod.fst hsame)
  have hperm : runs.Perm others := by
    refine (List.perm_ext_iff_of_nodup (hdistinct hruns) (hdistinct hothers)).mpr ?_
    rintro ⟨start, run⟩
    rw [hruns.mem_iff, hothers.mem_iff]
  refine hperm.eq_of_pairwise ?_ hruns.ordered hothers.ordered
  intro first second _ _ hlt hgt
  exact absurd hgt (Nat.lt_asymm hlt)

/-- **Words by their places.** -/
theorem words_eq_iff_runs :
    words text = listed ↔ ∃ runs, AreRuns text runs ∧ runs.map Prod.snd = listed := by
  obtain ⟨runs, hruns, hwords⟩ := (words_eq_iff_spaced.mp (rfl : words text = _)).exists_runs
  rw [← hwords]
  constructor
  · rintro rfl
    exact ⟨runs, hruns, rfl⟩
  · rintro ⟨others, hothers, rfl⟩
    rw [hruns.unique hothers]

end SshCompliance.Text
