import SshCompliance.AllowList.Basic
import SshCompliance.Log

/-!
# Judging reported algorithms

A reported name is expected if the allow-list had it when the report came in, and an expected
failure otherwise. Names of the second kind are appended to the list as they come up, so that later
reports find them there; within the report a repeated name keeps its judgement.
-/

namespace SshCompliance

inductive Expectation where
  | expected
  | expectedFailure
deriving DecidableEq, Repr

namespace Expectation

def all : List Expectation := [.expected, .expectedFailure]

def label : Expectation → String
  | .expected => "expected"
  | .expectedFailure => "expected_failure"

def toJson (expectation : Expectation) : Json := .string expectation.label

def ofJson? (value : Json) : Option Expectation := do
  let name ← value.variant?
  all.find? (fun expectation => expectation.label = name)

theorem ofJson?_toJson (expectation : Expectation) :
    ofJson? expectation.toJson = some expectation := by
  cases expectation <;> decide

end Expectation

structure Verdict where
  name : String
  expectation : Expectation
deriving DecidableEq, Repr

namespace Verdict

def fields : List String := ["name", "expectation"]

def toJson (verdict : Verdict) : Json :=
  .object [("name", .string verdict.name), ("expectation", verdict.expectation.toJson)]

def ofJson? (value : Json) : Option Verdict := do
  let field ← value.record? fields
  some ⟨← (← field "name").text?, ← Expectation.ofJson? (← field "expectation")⟩

end Verdict

structure Judgement where
  verdicts : List Verdict
  list : AllowList
deriving DecidableEq

namespace AllowList

/-- Judges one name after the other by the first `known` names of the growing list. -/
def judgeWithin (known : Nat) (list : AllowList) : List String → Judgement
  | [] => ⟨[], list⟩
  | name :: rest =>
    if name ∈ list.names.take known then
      let after := list.judgeWithin known rest
      { after with verdicts := ⟨name, .expected⟩ :: after.verdicts }
    else
      let after := (list.insert name).judgeWithin known rest
      { after with verdicts := ⟨name, .expectedFailure⟩ :: after.verdicts }

/-- Judges a report by the list and appends the names that the list lacked. -/
def judge (list : AllowList) (supported : List String) : Judgement :=
  list.judgeWithin list.size supported

/-- What is noted about the names that a list has beyond the first `known`. -/
def permitted (list : AllowList) (known : Nat) : List Record :=
  (list.names.drop known).map fun name =>
    ⟨.debug, .judgement, "Permitting previously unknown algorithm " ++ name ++ " for this session"⟩

end AllowList

end SshCompliance
