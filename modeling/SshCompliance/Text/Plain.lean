/-!
# Plain text

Text that does not go to a terminal is freed of control sequences and of all controls but tabs,
line feeds, form feeds and carriage returns. Sequences start with an escape character; most of them
end by their form, those that carry a text of their own end with another control. A tab or the end
of a line inside a sequence interrupts it: what follows is let through up to the next control, with
which the sequence goes on.
-/

namespace SshCompliance.Text

/-- Where in a control sequence a text stands. -/
inductive Sequence where
  | outside
  | escape
  /-- An escape sequence with intermediates. -/
  | intermediate
  /-- A sequence with parameters, which has a letter or the like at its end. -/
  | parameters
  | deviceStart
  | deviceParameters
  | deviceIntermediate
  /-- The text of a device control or of a message. -/
  | message
  /-- The text of an operating system command. -/
  | command
deriving DecidableEq, Repr

namespace Sequence

/-- The byte that ends a message, wherever it occurs in the UTF-8 form of a character. -/
def messageEnd : UInt8 := 0x9C

/-- A character between two others. -/
def within (low high c : Char) : Bool := low ≤ c && c ≤ high

/-- The place behind a character that is not let through. -/
def next (sequence : Sequence) (c : Char) : Sequence :=
  if c = '\x1b' then .escape
  else if c = '\x18' || c = '\x1a' then .outside
  else
    match sequence with
    | .outside => .outside
    | .escape =>
      if within ' ' '/' c then .intermediate
      else if c = '[' then .parameters
      else if c = ']' then .command
      else if c = 'P' then .deviceStart
      else if c = 'X' || c = '^' || c = '_' then .message
      else if within '0' '~' c then .outside
      else .escape
    | .intermediate => if within '0' '~' c then .outside else .intermediate
    | .parameters => if within '@' '~' c then .outside else .parameters
    | .deviceStart =>
      if within ' ' '/' c then .deviceIntermediate
      else if within '0' '?' c then .deviceParameters
      else if within '@' '~' c then .message
      else .deviceStart
    | .deviceParameters =>
      if within ' ' '/' c then .deviceIntermediate
      else if within '<' '~' c then .message
      else .deviceParameters
    | .deviceIntermediate => if within '0' '~' c then .message else .deviceIntermediate
    | .message => if (String.utf8EncodeChar c).contains messageEnd then .outside else .message
    | .command => if c = '\x07' then .outside else .command

/-- A tab or the end of a line interrupts the sequence. -/
def interruptible : Sequence → Bool
  | .escape | .intermediate | .parameters => true
  | _ => false

end Sequence

/-- A control that stands in plain text. -/
def isSpacing (c : Char) : Bool := c = '\t' || c = '\n' || c = '\x0c' || c = '\r'

/-- A character that stands in plain text. -/
def isPlain (c : Char) : Bool := isSpacing c || Sequence.within ' ' '~' c || 0x80 ≤ c.toNat

/-- What is left of a text that starts at a place in a sequence, which may be interrupted. A
character beyond ASCII ends an interrupted sequence. -/
def plainFrom (sequence : Sequence) (interrupted : Bool) : List Char → List Char
  | [] => []
  | c :: rest =>
    if isPlain c && (interrupted || sequence = .outside) then
      c :: plainFrom (if 0x80 ≤ c.toNat then .outside else sequence) interrupted rest
    else if isSpacing c && sequence.interruptible then
      c :: plainFrom sequence true rest
    else
      plainFrom (sequence.next c) false rest

def plain (text : List Char) : List Char := plainFrom .outside false text

end SshCompliance.Text

/-- The text as it is written where there is no terminal. -/
def String.plain (text : String) : String :=
  String.ofList (SshCompliance.Text.plain text.toList)
