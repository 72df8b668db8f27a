import SshCompliance.Proofs.Json.Strings

/-!
# Texts that are read as a value

Whether a text is read as a value depends on its parts alone: brackets around texts that are read as
items are read as an array of these items, and so for objects. Blanks may stand before every value
and every closing bracket. The statements hold whatever follows a text, and for all fuel beyond its
length, so they can be put together without a look at the reader.
-/

namespace SshCompliance.Json

/-- A text that stands for nothing. -/
def Blank (text : List Char) : Prop := ∀ c ∈ text, isBlank c = true

theorem skipBlanks_append {gap : List Char} (hgap : Blank gap) (text : List Char) :
    skipBlanks (gap ++ text) = skipBlanks text :=
  List.dropWhile_append_of_pos hgap

theorem skipBlanks_of_not_blank {c : Char} (hc : isBlank c = false) (text : List Char) :
    skipBlanks (c :: text) = c :: text :=
  List.dropWhile_cons_of_neg (by simp [hc])

@[simp]
theorem skipBlanks_skipBlanks (text : List Char) :
    skipBlanks (skipBlanks text) = skipBlanks text := by
  induction text with
  | nil => rfl
  | cons c rest ih =>
      cases hc : isBlank c with
      | true =>
          have hskip : skipBlanks (c :: rest) = skipBlanks rest := List.dropWhile_cons_of_pos hc
          rw [hskip, ih]
      | false => rw [skipBlanks_of_not_blank hc, skipBlanks_of_not_blank hc]

/-! ### Blanks in front -/

theorem value?_congr {first second : List Char} (hsame : skipBlanks first = skipBlanks second)
    (fuel : Nat) : value? fuel first = value? fuel second := by
  cases fuel with
  | zero => rfl
  | succ fuel => rw [value?, value?, hsame]

theorem items?_congr {first second : List Char} (hsame : skipBlanks first = skipBlanks second)
    (fuel : Nat) : items? fuel first = items? fuel second := by
  cases fuel with
  | zero => rfl
  | succ fuel => rw [items?, items?, value?_congr hsame]

theorem members?_congr {first second : List Char} (hsame : skipBlanks first = skipBlanks second)
    (fuel : Nat) : members? fuel first = members? fuel second := by
  cases fuel with
  | zero => rfl
  | succ fuel => rw [members?, members?, hsame]

theorem items?_of_closed {text rest : List Char} (hclosed : skipBlanks text = ']' :: rest)
    (fuel : Nat) : items? fuel text = none := by
  have hnumeral : Numeral.read? (']' :: rest) = none := rfl
  cases fuel with
  | zero => rfl
  | succ fuel =>
      cases fuel with
      | zero => rfl
      | succ fuel => simp [items?, value?, hclosed, hnumeral]

theorem members?_of_closed {text rest : List Char} (hclosed : skipBlanks text = '\x7d' :: rest)
    (fuel : Nat) : members? fuel text = none := by
  cases fuel with
  | zero => rfl
  | succ fuel => simp [members?, hclosed]

/-! ### Values -/

/-- The text is read as the value. -/
def Reads (text : List Char) (value : Json) : Prop :=
  ∀ fuel rest, text.length < fuel → value? fuel (text ++ rest) = some (value, rest)

/-- The text is read as items, up to a closing bracket. -/
def ReadsItems (text : List Char) (items : List Json) : Prop :=
  ∀ fuel rest, text.length < fuel → items? fuel (text ++ rest) = some (items, rest)

/-- The text is read as members, up to a closing brace. -/
def ReadsMembers (text : List Char) (members : List (String × Json)) : Prop :=
  ∀ fuel rest, text.length < fuel → members? fuel (text ++ rest) =
    some (members.map (fun member => (some member.1, member.2)), rest)

variable {text more gap : List Char} {value : Json} {items : List Json}
  {members : List (String × Json)}

theorem Reads.indent (hreads : Reads text value) (hgap : Blank gap) :
    Reads (gap ++ text) value := by
  intro fuel rest hfuel
  rw [List.append_assoc, value?_congr (skipBlanks_append hgap _)]
  exact hreads fuel rest (by rw [List.length_append] at hfuel; omega)

theorem ReadsMembers.indent (hreads : ReadsMembers text members) (hgap : Blank gap) :
    ReadsMembers (gap ++ text) members := by
  intro fuel rest hfuel
  rw [List.append_assoc, members?_congr (skipBlanks_append hgap _)]
  exact hreads fuel rest (by rw [List.length_append] at hfuel; omega)

theorem reads_null : Reads (scalarText .null) .null := by
  intro fuel rest hfuel
  obtain ⟨fuel, rfl⟩ := Nat.exists_eq_succ_of_ne_zero (Nat.ne_zero_of_lt hfuel)
  rfl

theorem reads_bool (value : Bool) : Reads (scalarText (.bool value)) (.bool value) := by
  intro fuel rest hfuel
  obtain ⟨fuel, rfl⟩ := Nat.exists_eq_succ_of_ne_zero (Nat.ne_zero_of_lt hfuel)
  cases value <;> rfl

theorem reads_string (text : String) : Reads (scalarText (.string text)) (.string text) := by
  intro fuel rest hfuel
  obtain ⟨fuel, rfl⟩ := Nat.exists_eq_succ_of_ne_zero (Nat.ne_zero_of_lt hfuel)
  obtain ⟨htext, hread⟩ := string?_stringText text rest
  rw [scalarText, htext, value?, skipBlanks_of_not_blank (by decide)]
  simp [hread, ofText]

theorem reads_emptyArray : Reads ['[', ']'] (.array []) := by
  intro fuel rest hfuel
  obtain ⟨fuel, rfl⟩ := Nat.exists_eq_succ_of_ne_zero (Nat.ne_zero_of_lt hfuel)
  rfl

theorem reads_emptyObject : Reads ['\x7b', '\x7d'] (.object []) := by
  intro fuel rest hfuel
  obtain ⟨fuel, rfl⟩ := Nat.exists_eq_succ_of_ne_zero (Nat.ne_zero_of_lt hfuel)
  rfl

/-! ### Arrays -/

theorem Reads.lastItem (hreads : Reads text value) (hgap : Blank gap) :
    ReadsItems (text ++ (gap ++ [']'])) [value] := by
  intro fuel rest hfuel
  obtain ⟨fuel, rfl⟩ := Nat.exists_eq_succ_of_ne_zero (Nat.ne_zero_of_lt hfuel)
  simp only [List.length_append, List.length_singleton] at hfuel
  have hvalue := hreads fuel (gap ++ [']'] ++ rest) (by omega)
  have hclosed : skipBlanks (gap ++ [']'] ++ rest) = ']' :: rest := by
    rw [List.append_assoc, skipBlanks_append hgap]
    exact skipBlanks_of_not_blank rfl rest
  rw [List.append_assoc, items?]
  simp only [hvalue, hclosed, Option.bind_eq_bind, Option.bind_some]

theorem Reads.item (hreads : Reads text value) (hmore : ReadsItems more items) :
    ReadsItems (text ++ ',' :: more) (value :: items) := by
  intro fuel rest hfuel
  obtain ⟨fuel, rfl⟩ := Nat.exists_eq_succ_of_ne_zero (Nat.ne_zero_of_lt hfuel)
  simp only [List.length_append, List.length_cons] at hfuel
  have hvalue := hreads fuel (',' :: more ++ rest) (by omega)
  have hcomma : skipBlanks (',' :: more ++ rest) = ',' :: (more ++ rest) :=
    skipBlanks_of_not_blank rfl (more ++ rest)
  have hitems := hmore fuel rest (by omega)
  rw [List.append_assoc, items?]
  simp only [hvalue, hcomma, hitems, Option.bind_eq_bind, Option.bind_some]

theorem ReadsItems.array (hreads : ReadsItems text items) : Reads ('[' :: text) (.array items) := by
  intro fuel rest hfuel
  obtain ⟨fuel, rfl⟩ := Nat.exists_eq_succ_of_ne_zero (Nat.ne_zero_of_lt hfuel)
  have hitems := hreads fuel rest (by simpa using hfuel)
  rw [List.cons_append, value?, skipBlanks_of_not_blank rfl]
  simp only
  split
  · next hclosed =>
    rw [items?_of_closed hclosed] at hitems
    cases hitems
  · rw [items?_congr (skipBlanks_skipBlanks _), hitems]
    rfl

/-! ### Objects -/

theorem Reads.lastMember (name : String) (hreads : Reads text value) (hgap : Blank gap) :
    ReadsMembers (stringText name ++ ':' :: (text ++ (gap ++ ['\x7d']))) [(name, value)] := by
  intro fuel rest hfuel
  obtain ⟨fuel, rfl⟩ := Nat.exists_eq_succ_of_ne_zero (Nat.ne_zero_of_lt hfuel)
  simp only [List.length_append, List.length_cons, List.length_nil] at hfuel
  have hvalue := hreads fuel (gap ++ ['\x7d'] ++ rest) (by omega)
  have hclosed : skipBlanks (gap ++ ['\x7d'] ++ rest) = '\x7d' :: rest := by
    rw [List.append_assoc, skipBlanks_append hgap]
    exact skipBlanks_of_not_blank rfl rest
  obtain ⟨htext, hname⟩ :=
    string?_stringText name (':' :: (text ++ (gap ++ ['\x7d'] ++ rest)))
  have hcolon : skipBlanks (':' :: (text ++ (gap ++ ['\x7d'] ++ rest))) =
      ':' :: (text ++ (gap ++ ['\x7d'] ++ rest)) := skipBlanks_of_not_blank rfl _
  rw [List.append_assoc, List.cons_append, List.append_assoc, htext, members?,
    skipBlanks_of_not_blank rfl]
  simp only [hname, hcolon, hvalue, hclosed, Option.bind_eq_bind, Option.bind_some]
  rfl

theorem Reads.member (name : String) (hreads : Reads text value)
    (hmore : ReadsMembers more members) :
    ReadsMembers (stringText name ++ ':' :: (text ++ ',' :: more)) ((name, value) :: members) := by
  intro fuel rest hfuel
  obtain ⟨fuel, rfl⟩ := Nat.exists_eq_succ_of_ne_zero (Nat.ne_zero_of_lt hfuel)
  simp only [List.length_append, List.length_cons] at hfuel
  have hvalue := hreads fuel (',' :: more ++ rest) (by omega)
  have hcomma : skipBlanks (',' :: more ++ rest) = ',' :: (more ++ rest) :=
    skipBlanks_of_not_blank rfl (more ++ rest)
  have hmembers := hmore fuel rest (by omega)
  obtain ⟨htext, hname⟩ := string?_stringText name (':' :: (text ++ (',' :: more ++ rest)))
  have hcolon : skipBlanks (':' :: (text ++ (',' :: more ++ rest))) =
      ':' :: (text ++ (',' :: more ++ rest)) := skipBlanks_of_not_blank rfl _
  rw [List.append_assoc, List.cons_append, List.append_assoc, htext, members?,
    skipBlanks_of_not_blank rfl]
  simp only [hname, hcolon, hvalue, hcomma, hmembers, Option.bind_eq_bind, Option.bind_some]
  rfl

theorem ofMembers_some (members : List (String × Json)) :
    ofMembers (members.map fun member => (some member.1, member.2)) = .object members := by
  have hnames : (members.map fun member => (some member.1, member.2)).mapM
      (fun (member : Option String × Json) => member.1.map (·, member.2)) = some members := by
    induction members with
    | nil => rfl
    | cons member rest ih => simp [ih]
  rw [ofMembers]
  simp only [hnames]

theorem ReadsMembers.object (hreads : ReadsMembers text members) :
    Reads ('\x7b' :: text) (.object members) := by
  intro fuel rest hfuel
  obtain ⟨fuel, rfl⟩ := Nat.exists_eq_succ_of_ne_zero (Nat.ne_zero_of_lt hfuel)
  have hmembers := hreads fuel rest (by simpa using hfuel)
  rw [List.cons_append, value?, skipBlanks_of_not_blank rfl]
  simp only
  split
  · next hclosed =>
    rw [members?_of_closed hclosed] at hmembers
    cases hmembers
  · rw [members?_congr (skipBlanks_skipBlanks _), hmembers, Option.bind_eq_bind, Option.bind_some,
      ofMembers_some]

theorem Reads.ofChars? (hreads : Reads text value) : ofChars? text = some value := by
  have hvalue := hreads (text.length + 1) [] (Nat.lt_succ_self _)
  rw [List.append_nil] at hvalue
  rw [Json.ofChars?, hvalue]
  rfl

end SshCompliance.Json
