/-!
# Comparing with ASCII names regardless of case

Among all characters only the ASCII capitals and the Kelvin sign have a lower-case form made of
ASCII characters alone. Folding just these therefore decides every comparison of a lower-cased text
with an ASCII name, and two folded texts are equal whenever one of them is such a name and full
lower-casing makes them equal.
-/

namespace SshCompliance.Text

def foldChar (c : Char) : Char :=
  if c = '\u212a' then 'k' else c.toLower

def fold (text : List Char) : List Char := text.map foldChar

/-- Only the ASCII capitals change. -/
def foldAscii (text : List Char) : List Char := text.map Char.toLower

end SshCompliance.Text

/-- The text with the letters folded that decide a comparison with an ASCII name. -/
def String.folded (text : String) : String :=
  String.ofList (SshCompliance.Text.fold text.toList)
