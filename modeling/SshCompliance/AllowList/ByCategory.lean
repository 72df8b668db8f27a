import SshCompliance.AllowList.Basic
import SshCompliance.Category

/-!
# The allow-lists of the categories

One allow-list for each category. Lists that are not given keep their defaults.
-/

namespace SshCompliance

structure AllowLists where
  ciphers : AllowList
  macs : AllowList
  kexs : AllowList
deriving DecidableEq

namespace AllowLists

/-- The algorithms permitted out of the box. -/
def default : AllowLists where
  ciphers := .ofNames ["aes256-gcm@openssh.com", "aes256-ctr", "aes192-ctr"]
  macs := .ofNames ["hmac-sha2-512-etm@openssh.com", "hmac-sha2-256-etm@openssh.com"]
  kexs := .ofNames ["ecdh-sha2-nistp384", "ecdh-sha2-nistp521"]

def get (lists : AllowLists) : Category → AllowList
  | .cipher => lists.ciphers
  | .mac => lists.macs
  | .kex => lists.kexs

def put (lists : AllowLists) (category : Category) (list : AllowList) : AllowLists :=
  match category with
  | .cipher => { lists with ciphers := list }
  | .mac => { lists with macs := list }
  | .kex => { lists with kexs := list }

@[simp]
theorem get_put_self (lists : AllowLists) (category : Category) (list : AllowList) :
    (lists.put category list).get category = list := by
  cases category <;> rfl

theorem get_put_of_ne {category other : Category} (different : other ≠ category)
    (lists : AllowLists) (list : AllowList) :
    (lists.put category list).get other = lists.get other := by
  cases category <;> cases other <;> first | rfl | exact absurd rfl different

theorem ext_get {left right : AllowLists}
    (same : ∀ category, left.get category = right.get category) : left = right := by
  cases left
  cases right
  simpa [get] using And.intro (same .cipher) (And.intro (same .mac) (same .kex))

def member : Category → String
  | .cipher => "enc_ciphers"
  | .mac => "macs"
  | .kex => "kexs"

def members : List String := Category.all.map member

def toJson (lists : AllowLists) : Json :=
  .object (Category.all.map fun category => (member category, (lists.get category).toJson))

def ofJson? (value : Json) : Option AllowLists := do
  let field ← value.record? members
  let read (category : Category) : Option AllowList :=
    Json.optional? AllowList.ofJson? (default.get category) (field (member category))
  some ⟨← read .cipher, ← read .mac, ← read .kex⟩

end AllowLists

end SshCompliance
