import SshCompliance.Text.Unprintable

/-!
# Quoted texts

A quoted text stands between double quotes. The quote and the backslash take a backslash before
them, tab, line feed, carriage return and NUL have letters of their own, and every other
unprintable character is written as its code point in lower-case hexadecimal. An apostrophe stands
as it is. A list of texts is quoted item by item between square brackets.
-/

namespace SshCompliance.Text

def quoteChar (c : Char) : List Char :=
  match c with
  | '"' => ['\\', '"']
  | '\\' => ['\\', '\\']
  | '\t' => ['\\', 't']
  | '\n' => ['\\', 'n']
  | '\r' => ['\\', 'r']
  | '\x00' => ['\\', '0']
  | c => if isUnprintable c then ['\\', 'u', '\x7b'] ++ Nat.toDigits 16 c.toNat ++ ['\x7d'] else [c]

def quote (text : List Char) : List Char :=
  '"' :: text.flatMap quoteChar ++ ['"']

end SshCompliance.Text

def String.quoted (text : String) : String :=
  String.ofList (SshCompliance.Text.quote text.toList)

/-- The quoted items, separated by a comma and a space, between square brackets. -/
def List.quoted (texts : List String) : String :=
  "[" ++ ", ".intercalate (texts.map String.quoted) ++ "]"
