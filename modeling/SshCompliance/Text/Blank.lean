/-!
# Blank characters

A character is blank when it has the Unicode property `White_Space`. Trimming and splitting into
words go by this class throughout; controls such as U+001C, the zero-width space and the byte
order mark are not blank.
-/

namespace SshCompliance.Text

def isBlank (c : Char) : Bool :=
  let code := c.toNat
  (9 ≤ code && code ≤ 13) || code == 0x20 || code == 0x85 || code == 0xA0 || code == 0x1680
    || (0x2000 ≤ code && code ≤ 0x200A) || code == 0x2028 || code == 0x2029 || code == 0x202F
    || code == 0x205F || code == 0x3000

def trimStart (text : List Char) : List Char := text.dropWhile isBlank

def trimEnd (text : List Char) : List Char := (text.reverse.dropWhile isBlank).reverse

def trim (text : List Char) : List Char := trimEnd (trimStart text)

/-- The pieces between the characters that satisfy `separates`: one more than there are such
characters. -/
def split (separates : Char → Bool) : List Char → List (List Char)
  | [] => [[]]
  | c :: rest =>
    if separates c then
      [] :: split separates rest
    else
      match split separates rest with
      | [] => [[c]]
      | piece :: pieces => (c :: piece) :: pieces

theorem split_ne_nil (separates : Char → Bool) (text : List Char) : split separates text ≠ [] := by
  cases text with
  | nil => simp [split]
  | cons c rest =>
    simp only [split]
    split
    · simp
    · split <;> simp

/-- The maximal runs of characters that are not blank. -/
def words (text : List Char) : List (List Char) :=
  (split isBlank text).filter (fun piece => !piece.isEmpty)

/-- The trimmed pieces between the separators, without those that are empty. -/
def items (separator : Char) (text : List Char) : List (List Char) :=
  ((split (· == separator) text).map trim).filter (fun piece => !piece.isEmpty)

end SshCompliance.Text
