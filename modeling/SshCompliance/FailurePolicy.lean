import SshCompliance.Error

/-!
# Failure policies

A policy says what becomes of a category whose query failed: an empty matrix, or an error for the
caller.
-/

namespace SshCompliance

inductive FailurePolicy where
  | degrade
  | fail
deriving DecidableEq, Repr

namespace FailurePolicy

def all : List FailurePolicy := [.degrade, .fail]

def label : FailurePolicy → String
  | .degrade => "degrade"
  | .fail => "fail"

def ofName? (name : String) : Option FailurePolicy :=
  all.find? (fun policy => policy.label = name.folded)

def parse (name : String) : Except ConfigFault FailurePolicy :=
  match ofName? name with
  | some policy => .ok policy
  | none =>
    .error (.invalidValue "on_query_failure"
      ("Invalid failure policy: " ++ name ++ ". Valid values are: degrade, fail"))

def toJson (policy : FailurePolicy) : Json := .string policy.label

def ofJson? (value : Json) : Option FailurePolicy := do
  let name ← value.variant?
  all.find? (fun policy => policy.label = name)

theorem ofJson?_toJson (policy : FailurePolicy) : ofJson? policy.toJson = some policy := by
  cases policy <;> decide

end FailurePolicy

end SshCompliance
