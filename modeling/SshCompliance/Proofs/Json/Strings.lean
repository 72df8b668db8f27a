import SshCompliance.Json.Printer
import SshCompliance.Json.Reader

/-!
# Reading strings back

A printed string is a quote, one escape or plain character for each character of the text, and
another quote. The reader takes what was printed for a character as one piece, and the piece stands
for that character, so the text comes back whatever its characters are.
-/

namespace SshCompliance.Json

theorem joinPieces?_char (c : Char) (pieces : List Piece) :
    joinPieces? (.char c :: pieces) = (joinPieces? pieces).map (c :: ·) := by
  rw [joinPieces?]

/-- A unit that is no half of a surrogate pair stands for itself, whatever follows. -/
theorem joinPieces?_unit {code : Nat} (hhigh : isHighHalf code = false)
    (hlow : isLowHalf code = false) (pieces : List Piece) :
    joinPieces? (.unit code :: pieces) = (joinPieces? pieces).map (Char.ofNat code :: ·) := by
  cases pieces with
  | nil => simp [joinPieces?, hhigh, hlow]
  | cons piece rest => cases piece <;> simp [joinPieces?, hhigh, hlow]

theorem hexDigit?_hexDigit {number : Nat} (hnumber : number < 16) :
    hexDigit? (hexDigit number) = some number := by
  revert number
  decide

/-- The reader takes the text as one piece, and the piece stands for the character. -/
def ReadsAs (text : List Char) (c : Char) : Prop :=
  ∃ piece, (∀ rest, pieces? (text ++ rest) =
      (pieces? rest).bind fun found => some (piece :: found.1, found.2)) ∧
    ∀ pieces, joinPieces? (piece :: pieces) = (joinPieces? pieces).map (c :: ·)

theorem readsAs_letter {letter c : Char} (hletter : letter ≠ 'u')
    (hescaped : escaped? letter = some c) : ReadsAs ['\\', letter] c := by
  refine ⟨.char c, fun rest => ?_, joinPieces?_char c⟩
  rw [List.cons_append, List.singleton_append, pieces?, hescaped]
  · rfl
  · exact fun _ _ _ _ _ h => absurd h hletter

theorem readsAs_code {c : Char} (hcontrol : c.toNat < 0x20) :
    ReadsAs ['\\', 'u', '0', '0', hexDigit (c.toNat / 16), hexDigit (c.toNat % 16)] c := by
  have hhigh : isHighHalf c.toNat = false := by
    simp only [isHighHalf, Bool.and_eq_false_iff, decide_eq_false_iff_not]
    omega
  have hlow : isLowHalf c.toNat = false := by
    simp only [isLowHalf, Bool.and_eq_false_iff, decide_eq_false_iff_not]
    omega
  have hunit : unit? '0' '0' (hexDigit (c.toNat / 16)) (hexDigit (c.toNat % 16)) =
      some c.toNat := by
    have hzero : hexDigit? '0' = some 0 := by decide
    have hfirst : hexDigit? (hexDigit (c.toNat / 16)) = some (c.toNat / 16) :=
      hexDigit?_hexDigit (by omega)
    have hsecond : hexDigit? (hexDigit (c.toNat % 16)) = some (c.toNat % 16) :=
      hexDigit?_hexDigit (by omega)
    simp only [unit?, hzero, hfirst, hsecond, Option.bind_eq_bind, Option.bind_some,
      Option.some.injEq]
    omega
  refine ⟨.unit c.toNat, fun rest => ?_, fun pieces => ?_⟩
  · simp only [List.cons_append, List.nil_append, pieces?, hunit]
    rfl
  · rw [joinPieces?_unit hhigh hlow, Char.ofNat_toNat]

theorem readsAs_plain {c : Char} (hquote : c ≠ '"') (hbackslash : c ≠ '\\')
    (hplain : ¬c.toNat < 0x20) : ReadsAs [c] c := by
  refine ⟨.char c, fun rest => ?_, joinPieces?_char c⟩
  rw [List.singleton_append, pieces?, if_neg (not_or.mpr ⟨hplain, hbackslash⟩)]
  · rfl
  · exact hquote
  · exact fun _ _ _ _ _ h => absurd h hbackslash
  · exact fun _ _ h => absurd h hbackslash

/-- What is printed for a character is read as that character. -/
theorem readsAs_escapeChar (c : Char) : ReadsAs (escapeChar c) c := by
  unfold escapeChar
  split
  case h_8 hquote hbackslash _ _ _ _ _ =>
    split
    · next hcontrol => exact readsAs_code hcontrol
    · next hplain => exact readsAs_plain hquote hbackslash hplain
  -- all others have a letter of their own
  all_goals exact readsAs_letter (by decide) rfl

theorem pieces?_escaped (text rest : List Char) :
    ∃ pieces, pieces? (text.flatMap escapeChar ++ '"' :: rest) = some (pieces, rest) ∧
      joinPieces? pieces = some text := by
  induction text with
  | nil => exact ⟨[], rfl, rfl⟩
  | cons c text ih =>
      obtain ⟨pieces, hpieces, hjoined⟩ := ih
      obtain ⟨piece, hpiece, hstands⟩ := readsAs_escapeChar c
      refine ⟨piece :: pieces, ?_, ?_⟩
      · rw [List.flatMap_cons, List.append_assoc, hpiece, hpieces]
        rfl
      · rw [hstands, hjoined]
        rfl

/-- **Strings come back.** Behind its opening quote, a printed string is read as its text, whatever
follows it. -/
theorem string?_stringText (text : String) (rest : List Char) :
    stringText text ++ rest = '"' :: (text.toList.flatMap escapeChar ++ '"' :: rest) ∧
      string? (text.toList.flatMap escapeChar ++ '"' :: rest) = some (some text, rest) := by
  refine ⟨by simp [stringText], ?_⟩
  obtain ⟨pieces, hpieces, hjoined⟩ := pieces?_escaped text.toList rest
  simp [string?, hpieces, hjoined]

end SshCompliance.Json
