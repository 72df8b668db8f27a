import SshCompliance.Decap.Modes
import SshCompliance.Dialogue
import SshCompliance.Error
import SshCompliance.Json.Reader

/-!
# The active side of a mux

Where there is a mux, its simulator is told by a post which side to make active, and answers with
the state of all cables. Elsewhere nothing is sent.
-/

namespace SshCompliance.Decap

inductive ActiveSide where
  | upper
  | lower
  | random
deriving DecidableEq, Repr

structure MuxReply where
  status : Nat
  body : String
deriving DecidableEq, Repr

namespace MuxReply

/-- The state of the cables, or what is wrong with the reply. -/
def read (url : String) (reply : MuxReply) : Except Error Json :=
  if reply.status = 200 then
    match (Json.parse? reply.body).bind Json.untyped? with
    | some value => .ok value
    | none => .error (.json "no value")
  else
    .error (.device url ("Failed to set active side: " ++ reply.body))

def remarks (reply : MuxReply) : List Record :=
  if reply.status = 200 then []
  else [⟨.error, .mux, "Mux simulator returned " ++ toString reply.status ++ ": " ++ reply.body⟩]

end MuxReply

namespace ActiveSide

def label : ActiveSide → String
  | .upper => "upper_tor"
  | .lower => "lower_tor"
  | .random => "random"

def title : ActiveSide → String
  | .upper => "UpperTor"
  | .lower => "LowerTor"
  | .random => "Random"

def post (side : ActiveSide) : Json := .object [("active_side", .string side.label)]

/-- Makes the side active; gives the state of the cables, or nothing where there is no mux. -/
def activate (side : ActiveSide) (topology url : String) :
    Dialogue Json (Except Error MuxReply) (Except Error (Option Json)) :=
  if hasMux topology then do
    Dialogue.notes [⟨.info, .mux, "Setting mux active side to " ++ side.title ++ " via " ++ url⟩]
    match ← Dialogue.request side.post with
    | .error error => pure (.error error)
    | .ok reply => do
      Dialogue.notes reply.remarks
      pure ((reply.read url).map some)
  else do
    Dialogue.notes
      [⟨.debug, .mux, "Topology " ++ topology ++ " has no mux, not setting active side"⟩]
    pure (.ok none)

end ActiveSide

end SshCompliance.Decap
