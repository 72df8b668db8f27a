/-!
# Searching for a text inside another

`afterFirst?` cuts a text at the earliest place where a marker occurs. Occurrences may overlap; the
earliest start wins, and an empty marker occurs at the very beginning.
-/

namespace SshCompliance.Text

/-- What follows the first occurrence of the marker. -/
def afterFirst? (marker : List Char) : List Char → Option (List Char)
  | [] => marker.isPrefixOf? []
  | c :: rest =>
    match marker.isPrefixOf? (c :: rest) with
    | some after => some after
    | none => afterFirst? marker rest

def occursIn (pattern text : List Char) : Bool :=
  (afterFirst? pattern text).isSome

end SshCompliance.Text

/-- The text contains the pattern as a contiguous part. -/
def String.mentions (text pattern : String) : Bool :=
  SshCompliance.Text.occursIn pattern.toList text.toList
