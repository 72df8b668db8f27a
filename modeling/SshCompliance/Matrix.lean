import SshCompliance.Category
import SshCompliance.AllowList.Judgement

/-!
# Test matrices

A matrix holds the test cases of one category, one for each name that the device reported, and the
allow-listed names that it did not report. A case that is expected to fail says why.
-/

namespace SshCompliance

structure Case where
  id : String
  value : String
  expectation : Expectation
  reason : Option String
deriving DecidableEq, Repr

namespace Case

def unlisted : String := "supported by DUT but not on the allow-list"

def idOf (category : Category) (value : String) : String :=
  category.parameter ++ "[" ++ value ++ "]"

def ofVerdict (category : Category) (verdict : Verdict) : Case where
  id := idOf category verdict.name
  value := verdict.name
  expectation := verdict.expectation
  reason := if verdict.expectation = .expectedFailure then some unlisted else none

def fields : List String := ["id", "value", "expectation", "reason"]

/-- The reason is left out when there is none. -/
def toJson (item : Case) : Json :=
  .object ([("id", .string item.id), ("value", .string item.value),
    ("expectation", item.expectation.toJson)] ++
      item.reason.toList.map (fun reason => ("reason", .string reason)))

def ofJson? (value : Json) : Option Case := do
  let field ← value.record? fields
  some {
    id := ← (← field "id").text?
    value := ← (← field "value").text?
    expectation := ← Expectation.ofJson? (← field "expectation")
    reason := ← Json.optional? (Json.nullable? Json.text?) none (field "reason") }

end Case

structure Matrix where
  category : Category
  parameter : String
  cases : List Case
  missingFromDut : List String
  degraded : Bool
deriving DecidableEq, Repr

namespace Matrix

def ofVerdicts (category : Category) (verdicts : List Verdict) : Matrix where
  category := category
  parameter := category.parameter
  cases := verdicts.map (Case.ofVerdict category)
  missingFromDut := []
  degraded := false

/-- The matrix of a category for which the device gave no list. -/
def unanswered (category : Category) : Matrix where
  category := category
  parameter := category.parameter
  cases := []
  missingFromDut := []
  degraded := true

def size (matrix : Matrix) : Nat := matrix.cases.length

def expectedFailures (matrix : Matrix) : List Case :=
  matrix.cases.filter (fun item => item.expectation = .expectedFailure)

def fields : List String := ["category", "parameter", "cases", "missing_from_dut", "degraded"]

def toJson (matrix : Matrix) : Json :=
  .object [
    ("category", matrix.category.toJson),
    ("parameter", .string matrix.parameter),
    ("cases", .array (matrix.cases.map Case.toJson)),
    ("missing_from_dut", .array (matrix.missingFromDut.map .string)),
    ("degraded", .bool matrix.degraded)]

def ofJson? (value : Json) : Option Matrix := do
  let field ← value.record? fields
  some {
    category := ← Category.ofJson? (← field "category")
    parameter := ← (← field "parameter").text?
    cases := ← (← field "cases").list? Case.ofJson?
    missingFromDut := ← Json.optional? Json.texts? [] (field "missing_from_dut")
    degraded := ← Json.optional? Json.bool? false (field "degraded") }

end Matrix

end SshCompliance
