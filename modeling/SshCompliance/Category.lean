import SshCompliance.Text.Caseless
import SshCompliance.Json.Decode

/-!
# Algorithm categories

A category ties together the command that lists a device's algorithms, the parameter by which a
test asks for it, and the short name used in messages, options and JSON.
-/

namespace SshCompliance

inductive Category where
  | cipher
  | mac
  | kex
deriving DecidableEq, Repr, Inhabited

namespace Category

/-- The order in which categories are tried and reported. -/
def all : List Category := [.cipher, .mac, .kex]

theorem mem_all (category : Category) : category ∈ all := by
  cases category <;> decide

def command : Category → String
  | .cipher => "ssh -Q cipher"
  | .mac => "ssh -Q mac"
  | .kex => "ssh -Q kex"

/-- The parameter a test declares to receive the category. -/
def parameter : Category → String
  | .cipher => "enum_dut_ssh_enc_cipher"
  | .mac => "enum_dut_ssh_mac"
  | .kex => "enum_dut_ssh_kex"

def label : Category → String
  | .cipher => "enc"
  | .mac => "mac"
  | .kex => "kex"

def ofParameter? (name : String) : Option Category :=
  all.find? (fun category => category.parameter = name)

/-- Reads a short name, the word cipher, or a parameter name, regardless of case. -/
def ofName? (name : String) : Option Category :=
  let folded := name.folded
  if folded = "enc" ∨ folded = "cipher" then some .cipher
  else if folded = "mac" then some .mac
  else if folded = "kex" then some .kex
  else ofParameter? folded

def ofDeclared? (declared : List String) : Option Category :=
  all.find? (fun category => declared.contains category.parameter)

def toJson (category : Category) : Json := .string category.label

def ofJson? (value : Json) : Option Category := do
  let name ← value.variant?
  all.find? (fun category => category.label = name)

theorem ofJson?_toJson (category : Category) : ofJson? category.toJson = some category := by
  cases category <;> decide

end Category

end SshCompliance
