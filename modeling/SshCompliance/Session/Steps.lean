import SshCompliance.Session.Basic

/-!
# Steps of a session

A step asks about one category, about the category of a test's declared parameters, or about all of
them. Asking about all categories is done side by side: the answers may come in any order, and are
concluded category by category once all of them are there.
-/

namespace SshCompliance

inductive Step where
  | category (category : Category)
  | test (declared : List String)
  | all
deriving DecidableEq, Repr

inductive Product where
  | nothing
  | one (matrix : Matrix)
  | many (matrices : List Matrix)
deriving DecidableEq, Repr

namespace Product

def ofOption : Option Matrix → Product
  | none => .nothing
  | some matrix => .one matrix

def matrices : Product → List Matrix
  | .nothing => []
  | .one matrix => [matrix]
  | .many matrices => matrices

def toJson : Product → Json
  | .nothing => .null
  | .one matrix => matrix.toJson
  | .many matrices => .array (matrices.map Matrix.toJson)

end Product

namespace Session

def matrixFor (session : Session) (category : Category) :
    Dialogue Call Answer (Outcome Matrix) := do
  let queried ← query session.target category session.marker
  let outcome := session.conclude category queried
  Dialogue.notes outcome.records
  pure outcome

def matrixForTest (session : Session) (declared : List String) :
    Dialogue Call Answer (Outcome (Option Matrix)) :=
  match Category.ofDeclared? declared with
  | some category => do
    let outcome ← session.matrixFor category
    pure (outcome.map some)
  | none => pure ⟨session, .ok none, [], [], []⟩

/-- Asks about categories one after the other; the records are kept for later. -/
def gather (session : Session) :
    List Category → Dialogue Call Answer (List (Category × Queried) × List Record)
  | [] => pure ([], [])
  | category :: rest => do
    let (queried, records) ← (query session.target category session.marker).silenced
    let (others, later) ← session.gather rest
    pure ((category, queried) :: others, records ++ later)

/-- Asks about all categories in the given order. A category that was not asked about counts as
crashed, without a reason. -/
def allMatricesInOrder (session : Session) (order : List Category) :
    Dialogue Call Answer (Outcome (List Matrix)) := do
  let (gathered, background) ← session.gather order
  let outcome :=
    concludeAll (fun category => (gathered.lookup category).getD (.crashed "")) session Category.all
  Dialogue.notes outcome.records
  pure { outcome with background }

def allMatrices (session : Session) : Dialogue Call Answer (Outcome (List Matrix)) :=
  session.allMatricesInOrder Category.all

def perform (session : Session) : Step → Dialogue Call Answer (Outcome Product)
  | .category category => do
    let outcome ← session.matrixFor category
    pure (outcome.map .one)
  | .test declared => do
    let outcome ← session.matrixForTest declared
    pure (outcome.map .ofOption)
  | .all => do
    let outcome ← session.allMatrices
    pure (outcome.map .many)

/-- Performs steps one after the other, whatever their results. -/
def performAll (session : Session) :
    List Step → Dialogue Call Answer (Session × List (Except Error Product))
  | [] => pure (session, [])
  | step :: rest => do
    let outcome ← session.perform step
    let (last, results) ← outcome.session.performAll rest
    pure (last, outcome.result :: results)

end Session

end SshCompliance
