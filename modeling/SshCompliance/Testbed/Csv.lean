import SshCompliance.Testbed.Basic

/-!
# Testbeds in rows of fields

Fields stand between commas and are trimmed; there are no quotes. The first comment that starts with
the column of names is the header; of equal column names in it the last one counts. All other
comments and blank lines are passed over, and every other line is a row, which needs a header above
it.
-/

namespace SshCompliance.Testbed.Csv

def fields (line : List Char) : List String :=
  (Text.split (· = ',') line).map (fun field => String.ofList (Text.trim field))

/-- The column of names, with which a header starts. -/
def nameColumn : String := "conf-name"

/-- The column names of a comment that is a header. -/
def header? (comment : List Char) : Option (List String) :=
  if nameColumn.toList.isPrefixOf (Text.trimStart comment) then some (fields comment) else none

def lastIndex? (column : String) : List String → Option Nat
  | [] => none
  | name :: rest =>
    match lastIndex? column rest with
    | some index => some (index + 1)
    | none => if name = column then some 0 else none

def field? (header row : List String) (column : String) : Option String := do
  let index ← lastIndex? column header
  row[index]?

def missingHeader : Error := .testbed "Testbed CSV has no '# conf-name,...' header"

def missingColumn (line : Nat) (column : String) : Error :=
  .testbed ("Line " ++ toString line ++ ": missing column " ++ column)

def requireField (header row : List String) (line : Nat) (column : String) :
    Except Error String :=
  match field? header row column with
  | some field => .ok field
  | none => .error (missingColumn line column)

/-- The testbed of a row; only the topology may be missing. -/
def ofRow (header row : List String) (line : Nat) : Except Error Testbed := do
  let name ← requireField header row line nameColumn
  let hosts ← requireField header row line "dut"
  let inventory ← requireField header row line "inv_name"
  pure ⟨name, (field? header row "topo").getD "", parseHosts hosts, inventory⟩

/-- Reads lines from the given line number on, with the header found so far. -/
def ofLines (header : Option (List String)) (line : Nat) :
    List (List Char) → Except Error (List Testbed)
  | [] => .ok []
  | text :: rest =>
    match Text.trim text with
    | [] => ofLines header (line + 1) rest
    | '#' :: comment => ofLines (header.or (header? comment)) (line + 1) rest
    | row =>
      match header with
      | none => .error missingHeader
      | some header => do
        let testbed ← ofRow header (fields row) line
        let testbeds ← ofLines (some header) (line + 1) rest
        pure (testbed :: testbeds)

end SshCompliance.Testbed.Csv

namespace SshCompliance.Testbeds

def ofCsv (text : String) : Except Error Testbeds :=
  (Testbed.Csv.ofLines none 1 (Text.split (· = '\n') text.toList)).map ofList

end SshCompliance.Testbeds
