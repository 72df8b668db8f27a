import SshCompliance.Proofs.Text.Pieces

/-!
# Items of a joined text

Items may be joined with blanks around each of them and with blank pieces anywhere between them:
they are read back as they are. Every text joins what is read from it so, and the items that are
read are trimmed, not empty, and without the separator.
-/

namespace SshCompliance.Text

/-- What can stand between separators and is told from the blanks around it. -/
@[mk_iff]
structure IsItem (separator : Char) (item : List Char) : Prop where
  nonempty : item ≠ []
  trimmed : trim item = item
  undivided : separator ∉ item

instance (separator : Char) (item : List Char) : Decidable (IsItem separator item) :=
  decidable_of_iff' _ (isItem_iff separator item)

/-- Pieces, each of which is blank or an item with blanks around it; the items in their order. -/
inductive Padded : List (List Char) → List (List Char) → Prop
  | nil : Padded [] []
  | blank {piece : List Char} {pieces listed : List (List Char)} (hpiece : Gap piece)
    (hrest : Padded pieces listed) : Padded (piece :: pieces) listed
  | item {before item after : List Char} {pieces listed : List (List Char)} (hbefore : Gap before)
    (hafter : Gap after) (hrest : Padded pieces listed) :
    Padded ((before ++ item ++ after) :: pieces) (item :: listed)

/-- A text that joins items, with blanks around them and blank pieces anywhere. -/
def Joins (separator : Char) (text : List Char) (listed : List (List Char)) : Prop :=
  ∃ pieces, Padded pieces listed ∧ text = [separator].intercalate pieces

/-- Items that stand in a text one behind the other, in their order. -/
inductive InOrder : List (List Char) → List Char → Prop
  | nil (rest : List Char) : InOrder [] rest
  | cons (before item : List Char) {rest : List Char} {listed : List (List Char)}
    (hrest : InOrder listed rest) : InOrder (item :: listed) (before ++ item ++ rest)

variable {separator : Char} {text gap item : List Char} {pieces listed : List (List Char)}

theorem trim_gap (hgap : Gap gap) : trim gap = [] := by
  have htrim := trim_gap_append hgap []
  rwa [List.append_nil] at htrim

theorem exists_trim (text : List Char) :
    ∃ before after, Gap before ∧ Gap after ∧ text = before ++ trim text ++ after := by
  obtain ⟨before, hbefore, hstart⟩ := exists_append_trimStart text
  obtain ⟨after, hafter, hend⟩ := exists_trimEnd_append (trimStart text)
  refine ⟨before, after, hbefore, hafter, ?_⟩
  rw [trim, List.append_assoc, ← hend, ← hstart]

theorem trim_padded {before after : List Char} (hbefore : Gap before) (hafter : Gap after)
    (text : List Char) : trim (before ++ text ++ after) = trim text := by
  rw [trim_append_gap _ hafter, trim_gap_append hbefore]

theorem trim_trim (text : List Char) : trim (trim text) = trim text := by
  obtain ⟨before, after, hbefore, hafter, htext⟩ := exists_trim text
  calc
    trim (trim text)
        = trim (before ++ trim text ++ after) := (trim_padded hbefore hafter _).symm
    _ = trim text := by rw [← htext]

theorem length_trim_le (text : List Char) : (trim text).length ≤ text.length := by
  obtain ⟨before, after, -, -, htext⟩ := exists_trim text
  have hlength := congrArg List.length htext
  rw [List.length_append, List.length_append] at hlength
  omega

theorem mem_of_mem_trim {c : Char} (hmem : c ∈ trim text) : c ∈ text := by
  obtain ⟨before, after, -, -, htext⟩ := exists_trim text
  rw [htext]
  simp [hmem]

theorem not_mem_of_mem_split {piece : List Char} (hpiece : piece ∈ split (· == separator) text) :
    separator ∉ piece := by
  induction text generalizing piece with
  | nil =>
      obtain rfl := List.mem_singleton.mp hpiece
      exact List.not_mem_nil
  | cons c rest ih =>
      rw [split_cons] at hpiece
      split at hpiece
      · rcases List.mem_cons.mp hpiece with rfl | hlater
        · exact List.not_mem_nil
        · exact ih hlater
      · next hc =>
        obtain ⟨first, others, hrest⟩ := List.exists_cons_of_ne_nil (split_ne_nil _ rest)
        rw [hrest] at ih hpiece
        rcases List.mem_cons.mp hpiece with rfl | hlater
        · have hfirst := ih List.mem_cons_self
          have hne : separator ≠ c := fun hsame => hc (beq_iff_eq.mpr hsame.symm)
          exact List.not_mem_cons_of_ne_of_not_mem hne hfirst
        · exact ih (List.mem_cons_of_mem first hlater)

/-- Blanks around a text make no difference to its items. -/
theorem items_trim (hseparator : isBlank separator = false) (text : List Char) :
    items separator (trim text) = items separator text := by
  have hblank : ∀ c, isBlank c = true → (c == separator) = false := by
    intro c hc
    rw [beq_eq_false_iff_ne]
    rintro rfl
    rw [hc] at hseparator
    cases hseparator
  rw [items, map_trim_split_trim hblank, items]

theorem isItem_of_mem_items (hitem : item ∈ items separator text) : IsItem separator item := by
  obtain ⟨hmem, hne⟩ := List.mem_filter.mp hitem
  obtain ⟨piece, hpiece, rfl⟩ := List.mem_map.mp hmem
  exact ⟨by simpa using hne, trim_trim piece,
    fun hseparator => not_mem_of_mem_split hpiece (mem_of_mem_trim hseparator)⟩

/-! ### Joined items are read back -/

theorem Gap.not_mem (hgap : Gap gap) (hseparator : isBlank separator = false) :
    separator ∉ gap := by
  intro hmem
  rw [hgap separator hmem] at hseparator
  cases hseparator

theorem Padded.undivided (hpadded : Padded pieces listed) (hseparator : isBlank separator = false)
    (hlisted : ∀ item ∈ listed, IsItem separator item) : ∀ piece ∈ pieces, separator ∉ piece := by
  induction hpadded with
  | nil => exact List.forall_mem_nil _
  | blank hpiece _ ih =>
      exact List.forall_mem_cons.mpr ⟨hpiece.not_mem hseparator, ih hlisted⟩
  | item hbefore hafter _ ih =>
      obtain ⟨hitem, hrest⟩ := List.forall_mem_cons.mp hlisted
      refine List.forall_mem_cons.mpr ⟨?_, ih hrest⟩
      simp [hbefore.not_mem hseparator, hitem.undivided, hafter.not_mem hseparator]

theorem Padded.trimmed_pieces (hpadded : Padded pieces listed)
    (hlisted : ∀ item ∈ listed, IsItem separator item) :
    (pieces.map trim).filter (fun piece => !piece.isEmpty) = listed := by
  induction hpadded with
  | nil => rfl
  | blank hpiece _ ih =>
      rw [List.map_cons, trim_gap hpiece]
      exact ih hlisted
  | item hbefore hafter _ ih =>
      obtain ⟨hitem, hrest⟩ := List.forall_mem_cons.mp hlisted
      rw [List.map_cons, trim_padded hbefore hafter, hitem.trimmed,
        List.filter_cons_of_pos (by simpa using hitem.nonempty), ih hrest]

/-- **Items come back**, whatever blanks and blank pieces stand around them. -/
theorem items_of_joins (hseparator : isBlank separator = false)
    (hlisted : ∀ item ∈ listed, IsItem separator item) (hjoins : Joins separator text listed) :
    items separator text = listed := by
  obtain ⟨pieces, hpadded, rfl⟩ := hjoins
  rw [items_joined (hpadded.undivided hseparator hlisted), hpadded.trimmed_pieces hlisted]

theorem padded_self (listed : List (List Char)) : Padded listed listed := by
  induction listed with
  | nil => exact .nil
  | cons item rest ih =>
      have hitem : Padded (([] ++ item ++ []) :: rest) (item :: rest) := .item .nil .nil ih
      rwa [List.nil_append, List.append_nil] at hitem

theorem joins_self (separator : Char) (listed : List (List Char)) :
    Joins separator ([separator].intercalate listed) listed :=
  ⟨listed, padded_self listed, rfl⟩

/-! ### Every text joins its items -/

theorem padded_trimmed_pieces (pieces : List (List Char)) :
    Padded pieces ((pieces.map trim).filter (fun piece => !piece.isEmpty)) := by
  induction pieces with
  | nil => exact .nil
  | cons piece rest ih =>
      obtain ⟨before, after, hbefore, hafter, hpiece⟩ := exists_trim piece
      by_cases hblank : trim piece = []
      · have hgap : Gap piece := by
          rw [hpiece, hblank, List.append_nil]
          exact List.forall_mem_append.mpr ⟨hbefore, hafter⟩
        rw [List.map_cons, List.filter_cons_of_neg (by simp [hblank])]
        exact .blank hgap ih
      · have hitem : Padded ((before ++ trim piece ++ after) :: rest) (trim piece :: _) :=
          .item hbefore hafter ih
        rw [List.map_cons, List.filter_cons_of_pos (by simpa using hblank)]
        rwa [← hpiece] at hitem

theorem joins_items (separator : Char) (text : List Char) :
    Joins separator text (items separator text) := by
  refine ⟨split (· == separator) text, padded_trimmed_pieces _, ?_⟩
  rw [split_eq_splitOnP]
  exact (List.intercalate_splitOn separator).symm

/-! ### Items stand in their order -/

theorem InOrder.append_left (front : List Char) (horder : InOrder listed text) :
    InOrder listed (front ++ text) := by
  cases horder with
  | nil rest => exact .nil _
  | cons before item hrest =>
      rw [← List.append_assoc, ← List.append_assoc]
      exact .cons _ _ hrest

theorem InOrder.append_right (horder : InOrder listed text) (back : List Char) :
    InOrder listed (text ++ back) := by
  induction horder with
  | nil rest => exact .nil _
  | cons before item _ ih =>
      rw [List.append_assoc]
      exact .cons before item ih

/-- What follows the first piece of a joined text ends in the text that joins the others. -/
theorem exists_joined_cons (separator : Char) (piece : List Char) (pieces : List (List Char)) :
    ∃ between, [separator].intercalate (piece :: pieces) =
      piece ++ (between ++ [separator].intercalate pieces) := by
  cases pieces with
  | nil => exact ⟨[], by simp⟩
  | cons next rest => exact ⟨[separator], by rw [List.intercalate_cons_cons, List.append_assoc]⟩

theorem Padded.inOrder (hpadded : Padded pieces listed) (separator : Char) :
    InOrder listed ([separator].intercalate pieces) := by
  induction hpadded with
  | nil => exact .nil _
  | @blank piece pieces _ _ _ ih =>
      obtain ⟨between, hjoined⟩ := exists_joined_cons separator piece pieces
      rw [hjoined]
      exact (ih.append_left between).append_left piece
  | @item before item after pieces _ _ _ _ ih =>
      obtain ⟨between, hjoined⟩ := exists_joined_cons separator (before ++ item ++ after) pieces
      rw [hjoined, List.append_assoc (before ++ item)]
      exact .cons before item ((ih.append_left between).append_left after)

/-! ### The ends of a joined text -/

section Ends

variable {c : Char}

theorem IsItem.head_not_blank (hitem : IsItem separator (c :: text)) : isBlank c = false := by
  by_contra hblank
  rw [Bool.not_eq_false] at hblank
  have hgap : Gap [c] := by simpa [Gap] using hblank
  have htrim : trim (c :: text) = trim text := trim_gap_append hgap text
  have hlength := length_trim_le text
  rw [← htrim, hitem.trimmed, List.length_cons] at hlength
  omega

theorem IsItem.last_not_blank (hitem : IsItem separator (text ++ [c])) : isBlank c = false := by
  by_contra hblank
  rw [Bool.not_eq_false] at hblank
  have hgap : Gap [c] := by simpa [Gap] using hblank
  have hlength := length_trim_le text
  rw [← trim_append_gap text hgap, hitem.trimmed, List.length_append, List.length_singleton]
    at hlength
  omega

/-- A joined text begins with its first item or with a separator, blanks aside. -/
theorem head?_trimStart_joined_ne (hpadded : Padded pieces listed)
    (hlisted : ∀ item ∈ listed, IsItem separator item) (hseparator : isBlank separator = false)
    (hc : c ≠ separator) (hfirst : ∀ first, listed.head? = some first → first.head? ≠ some c) :
    (trimStart ([separator].intercalate pieces)).head? ≠ some c := by
  cases hpadded with
  | nil => simp [trimStart]
  | @blank piece pieces _ hpiece _ =>
      cases pieces with
      | nil => simp [trimStart_gap hpiece]
      | cons next rest =>
          rw [List.intercalate_cons_cons, List.append_assoc, trimStart_append hpiece,
            List.singleton_append, trimStart_cons hseparator, List.head?_cons, ne_eq,
            Option.some_inj]
          exact Ne.symm hc
  | @item before item after pieces _ hbefore _ _ =>
      obtain ⟨between, hjoined⟩ := exists_joined_cons separator (before ++ item ++ after) pieces
      obtain ⟨hitem, -⟩ := List.forall_mem_cons.mp hlisted
      obtain ⟨d, others, rfl⟩ := List.exists_cons_of_ne_nil hitem.nonempty
      rw [hjoined, List.append_assoc, List.append_assoc, trimStart_append hbefore,
        List.cons_append, trimStart_cons hitem.head_not_blank]
      exact hfirst (d :: others) rfl

theorem getLast?_trimEnd_append_cons_ne (front : List Char) (hseparator : isBlank separator = false)
    (hc : c ≠ separator) (htext : (trimEnd text).getLast? ≠ some c) :
    (trimEnd (front ++ separator :: text)).getLast? ≠ some c := by
  rw [trimEnd_append_cons _ hseparator, List.getLast?_append_of_ne_nil _ (List.cons_ne_nil _ _),
    List.getLast?_cons]
  cases hend : (trimEnd text).getLast? with
  | none => simpa using Ne.symm hc
  | some d => rwa [hend] at htext

/-- A joined text ends with its last item or with a separator, blanks aside. -/
theorem getLast?_trimEnd_joined_ne (hpadded : Padded pieces listed)
    (hlisted : ∀ item ∈ listed, IsItem separator item) (hseparator : isBlank separator = false)
    (hc : c ≠ separator) (hlast : ∀ last, listed.getLast? = some last → last.getLast? ≠ some c) :
    (trimEnd ([separator].intercalate pieces)).getLast? ≠ some c := by
  induction hpadded with
  | nil => simp [trimEnd]
  | @blank piece pieces _ hpiece _ ih =>
      cases pieces with
      | nil => simp [trimEnd_gap hpiece]
      | cons next rest =>
          rw [List.intercalate_cons_cons, List.append_assoc]
          exact getLast?_trimEnd_append_cons_ne piece hseparator hc (ih hlisted hlast)
  | @item before item after pieces listed _ hafter hrest ih =>
      obtain ⟨hitem, hitems⟩ := List.forall_mem_cons.mp hlisted
      cases pieces with
      | nil =>
          cases hrest
          obtain ⟨front, d, rfl⟩ := (List.eq_nil_or_concat' item).resolve_left hitem.nonempty
          have hend := hlast (front ++ [d]) rfl
          rw [List.getLast?_concat] at hend
          rwa [List.intercalate_singleton, trimEnd_append _ hafter, ← List.append_assoc,
            trimEnd_append_cons _ hitem.last_not_blank, trimEnd_gap .nil, List.getLast?_concat]
      | cons next rest =>
          rw [List.intercalate_cons_cons, List.append_assoc]
          refine getLast?_trimEnd_append_cons_ne _ hseparator hc (ih hitems fun last hmem => ?_)
          apply hlast last
          rw [List.getLast?_cons, hmem, Option.getD_some]

variable {front back : List Char}

/-- What is left of a joined text without blanks at its ends begins with the first item or with a
separator, and it ends with the last item or with a separator. -/
theorem Joins.head?_ne (hjoins : Joins separator (front ++ text ++ back) listed)
    (hlisted : ∀ item ∈ listed, IsItem separator item) (hseparator : isBlank separator = false)
    (hfront : Gap front) (hblank : isBlank c = false) (hc : c ≠ separator)
    (hfirst : ∀ first, listed.head? = some first → first.head? ≠ some c) :
    text.head? ≠ some c := by
  intro hhead
  obtain ⟨rest, rfl⟩ := List.head?_eq_some_iff.mp hhead
  obtain ⟨pieces, hpadded, hjoined⟩ := hjoins
  have hne := head?_trimStart_joined_ne hpadded hlisted hseparator hc hfirst
  rw [← hjoined, List.append_assoc, trimStart_append hfront, List.cons_append,
    trimStart_cons hblank] at hne
  exact hne rfl

theorem Joins.getLast?_ne (hjoins : Joins separator (front ++ text ++ back) listed)
    (hlisted : ∀ item ∈ listed, IsItem separator item) (hseparator : isBlank separator = false)
    (hback : Gap back) (hblank : isBlank c = false) (hc : c ≠ separator)
    (hlast : ∀ last, listed.getLast? = some last → last.getLast? ≠ some c) :
    text.getLast? ≠ some c := by
  intro hend
  obtain ⟨rest, rfl⟩ := List.getLast?_eq_some_iff.mp hend
  obtain ⟨pieces, hpadded, hjoined⟩ := hjoins
  have hne := getLast?_trimEnd_joined_ne hpadded hlisted hseparator hc hlast
  rw [← hjoined, trimEnd_append _ hback, ← List.append_assoc, trimEnd_append_cons _ hblank,
    trimEnd_gap .nil, List.getLast?_concat] at hne
  exact hne rfl

end Ends

end SshCompliance.Text
