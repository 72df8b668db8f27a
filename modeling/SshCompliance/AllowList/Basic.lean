import SshCompliance.Text.Blank
import SshCompliance.Json.Decode

/-!
# Allow-lists

An allow-list holds distinct names in the order of their first appearance. It only grows: a name is
appended unless it is there already. In JSON it is an array of names, and may also be given as one
string with commas between the names, in which case blanks around a name do not count and empty
items are left out.
-/

namespace SshCompliance

structure AllowList where
  names : List String
  distinct : names.Nodup
deriving DecidableEq

namespace AllowList

def empty : AllowList := ⟨[], List.nodup_nil⟩

def contains (list : AllowList) (name : String) : Bool := list.names.contains name

def insert (list : AllowList) (name : String) : AllowList :=
  if absent : name ∈ list.names then
    list
  else
    { names := list.names ++ [name]
      distinct := by
        rw [List.nodup_append]
        refine ⟨list.distinct, by simp, ?_⟩
        intro old inside new isNew
        rw [List.mem_singleton] at isNew
        exact fun same => absent (isNew ▸ same ▸ inside) }

/-- Inserts a name, and says whether it is new to the list. -/
def insertNew (list : AllowList) (name : String) : AllowList × Bool :=
  (list.insert name, !list.contains name)

theorem names_insert (list : AllowList) (name : String) :
    (list.insert name).names =
      if name ∈ list.names then list.names else list.names ++ [name] := by
  unfold insert
  split <;> rfl

def insertAll (list : AllowList) (names : List String) : AllowList := names.foldl insert list

/-- The names without repeats. -/
def ofNames (names : List String) : AllowList := empty.insertAll names

def size (list : AllowList) : Nat := list.names.length

def ofJoined (text : String) : AllowList :=
  ofNames ((Text.items ',' text.toList).map String.ofList)

def toJson (list : AllowList) : Json := .array (list.names.map .string)

def ofJson? : Json → Option AllowList
  | .string text => some (ofJoined text)
  | value => value.texts?.map ofNames

end AllowList

end SshCompliance
