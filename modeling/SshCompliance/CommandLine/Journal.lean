import SshCompliance.Config.Basic
import SshCompliance.Text.Blank

/-!
# The journal of a run

Records are written down if the filter in force lets them through. The level may change on the way,
unless the environment fixed it. The environment does so by a level, or by the start of a name: then
only the parts of the program with such a name are heard, and those with everything.
-/

namespace SshCompliance.CommandLine

structure Journal where
  fixed : Bool
  filter : Filter
  /-- The start of the names of the parts that are heard. -/
  heard : String
  written : List Record
deriving DecidableEq, Repr

namespace Journal

def hears (journal : Journal) (record : Record) : Bool :=
  journal.heard.toList.isPrefixOf record.source.label.toList

def write (journal : Journal) (records : List Record) : Journal :=
  let visible := journal.filter.visible (records.filter journal.hears)
  { journal with written := journal.written ++ visible }

def setLevel (journal : Journal) (name : String) : Journal :=
  if journal.fixed then journal
  else
    let (filter, records) := journal.filter.set name
    { journal with filter }.write records

/-- Starts as the environment fixes it; a blank word stands for errors only. -/
def ofWord (word : List Char) : Journal :=
  match Filter.ofName? (String.ofList word) with
  | some filter => ⟨true, filter, "", []⟩
  | none =>
    if word.isEmpty then ⟨true, .upTo .error, "", []⟩
    else ⟨true, .upTo .trace, String.ofList word, []⟩

/-- Starts as the environment fixes it, or else with everything let through until the named level is
set. -/
def start (fixedWord : Option String) (name : String) : Journal :=
  match fixedWord with
  | some word => ofWord (Text.trim word.toList)
  | none => setLevel ⟨false, .upTo .trace, "", []⟩ name

end Journal

end SshCompliance.CommandLine
