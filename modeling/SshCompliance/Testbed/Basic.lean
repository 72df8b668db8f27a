import SshCompliance.Error
import SshCompliance.Text.Blank

/-!
# Testbeds

A testbed has a name, the devices under test in it, and the inventory that describes them. Of two
entries with one name the later one holds.
-/

namespace SshCompliance

structure Testbed where
  name : String
  topology : String
  /-- The devices under test, the one to ask first. -/
  duts : List String
  inventory : String
deriving DecidableEq, Repr

namespace Testbed

/-- The device that is asked. -/
def firstDut (testbed : Testbed) : Except Error String :=
  match testbed.duts with
  | host :: _ => .ok host
  | [] => .error (.testbed ("Testbed " ++ testbed.name ++ " lists no DUT"))

/-- Reads hosts with semicolons between them, in any number of brackets around the whole. -/
def parseHosts (text : String) : List String :=
  let opened := (Text.trim text.toList).dropWhile (· = '[')
  let closed := (opened.reverse.dropWhile (· = ']')).reverse
  (Text.items ';' closed).map String.ofList

end Testbed

structure Testbeds where
  entries : List Testbed
  distinct : (entries.map Testbed.name).Nodup
deriving DecidableEq

namespace Testbeds

def empty : Testbeds := ⟨[], List.nodup_nil⟩

/-- Adds a testbed in the place of any other of its name. -/
def put (testbeds : Testbeds) (testbed : Testbed) : Testbeds where
  entries := testbeds.entries.filter (fun other => other.name ≠ testbed.name) ++ [testbed]
  distinct := by
    rw [List.map_append, List.nodup_append]
    refine ⟨?_, by simp, ?_⟩
    · exact (List.filter_sublist.map Testbed.name).nodup testbeds.distinct
    · intro name inside other isNew
      simp only [List.mem_map, List.mem_filter] at inside
      obtain ⟨old, ⟨_, differs⟩, rfl⟩ := inside
      rw [List.map_singleton, List.mem_singleton] at isNew
      rw [isNew]
      simpa using differs

def ofList (testbeds : List Testbed) : Testbeds := testbeds.foldl put empty

def get? (testbeds : Testbeds) (name : String) : Option Testbed :=
  testbeds.entries.find? (fun testbed => testbed.name = name)

def lookup (testbeds : Testbeds) (name : String) : Except Error Testbed :=
  match testbeds.get? name with
  | some testbed => .ok testbed
  | none => .error (.testbed ("Testbed " ++ name ++ " not found"))

def size (testbeds : Testbeds) : Nat := testbeds.entries.length

end Testbeds

end SshCompliance
