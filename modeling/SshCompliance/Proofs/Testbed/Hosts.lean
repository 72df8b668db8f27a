import SshCompliance.Testbed.Basic
import SshCompliance.Proofs.Text.Items

/-!
# Hosts in one field

Hosts are written with semicolons between them, and there may be blanks around each, blank items
anywhere, and brackets around the whole. They are read back if nothing of a host is taken for a part
of that form, and every field has that form with the hosts that are read from it.
-/

namespace SshCompliance.Testbed

/-- A host that can be told from what stands around it in a field. -/
@[mk_iff]
structure IsHost (host : String) : Prop where
  nonempty : host ≠ ""
  trimmed : Text.trimmed host = host
  undivided : ';' ∉ host.toList
  unopened : host.toList.head? ≠ some '['
  unclosed : host.toList.getLast? ≠ some ']'

instance (host : String) : Decidable (IsHost host) := decidable_of_iff' _ (isHost_iff host)

def bracketed (hosts : List String) : String := "[" ++ ";".intercalate hosts ++ "]"

/-- Any number of brackets is taken off, but nothing of what stands in them. -/
theorem dropWhile_brackets {inner : List Char} (hfront : inner.head? ≠ some '[')
    (hback : inner.getLast? ≠ some ']') (opening closing : Nat) :
    (((List.replicate opening '[' ++ (inner ++ List.replicate closing ']')).dropWhile
      (· = '[')).reverse.dropWhile (· = ']')).reverse = inner := by
  have hopened : (List.replicate opening '[' ++ (inner ++ List.replicate closing ']')).dropWhile
      (· = '[') = inner ++ List.replicate closing ']' := by
    rw [List.dropWhile_append_of_pos (by simp)]
    cases inner with
    | nil => cases closing <;> simp [List.replicate_succ]
    | cons c rest => exact List.dropWhile_cons_of_neg (by simpa using hfront)
  have hclosed : (inner ++ List.replicate closing ']').reverse.dropWhile (· = ']') =
      inner.reverse := by
    rw [List.reverse_append, List.reverse_replicate, List.dropWhile_append_of_pos (by simp)]
    rw [List.getLast?_eq_head?_reverse] at hback
    generalize inner.reverse = reversed at hback ⊢
    cases reversed with
    | nil => rfl
    | cons c rest => exact List.dropWhile_cons_of_neg (by simpa using hback)
  rw [hopened, hclosed, List.reverse_reverse]

variable {hosts : List String}

theorem toList_bracketed (hosts : List String) :
    (bracketed hosts).toList = '[' :: ([';'].intercalate (hosts.map String.toList) ++ [']']) := by
  simp [bracketed, String.toList_intercalate]

theorem not_mem_bracketed {c : Char} (hc : c ≠ '[' ∧ c ≠ ']' ∧ c ≠ ';')
    (hhosts : ∀ host ∈ hosts, c ∉ host.toList) : c ∉ (bracketed hosts).toList := by
  have hjoined : c ∉ [';'].intercalate (hosts.map String.toList) :=
    Text.not_mem_joined (List.forall_mem_map.mpr hhosts) hc.2.2
  simp [toList_bracketed, hc, hjoined]

theorem trimmed_bracketed (hosts : List String) :
    Text.trimmed (bracketed hosts) = bracketed hosts := by
  rw [Text.trimmed_eq_self_iff, toList_bracketed, Text.trim_cons (by decide),
    Text.trimEnd_append_cons _ (by decide)]
  rfl

theorem IsHost.isItem {host : String} (hhost : IsHost host) : Text.IsItem ';' host.toList where
  nonempty := by simpa using hhost.nonempty
  trimmed := Text.trimmed_eq_self_iff.mp hhost.trimmed
  undivided := hhost.undivided

/-- A field that joins hosts, with any number of brackets directly around the joined text and blanks
around the whole. -/
def IsField (field : String) (hosts : List String) : Prop :=
  ∃ before opening joined closing after, Text.Gap before ∧ Text.Gap after ∧
    Text.Joins ';' joined (hosts.map String.toList) ∧
    field.toList = before ++
      (List.replicate opening '[' ++ (joined ++ List.replicate closing ']')) ++ after

theorem isField_bracketed (hosts : List String) : IsField (bracketed hosts) hosts := by
  refine ⟨[], 1, _, 1, [], .nil, .nil, Text.joins_self ';' _, ?_⟩
  rw [toList_bracketed]
  simp

theorem not_blank_of_mem_replicate {c : Char} (hc : Text.isBlank c = false) (count : Nat) :
    ∀ d ∈ List.replicate count c, Text.isBlank d = false := by
  intro d hmem
  rw [List.eq_of_mem_replicate hmem]
  exact hc

variable {field : String}

/-- Hosts are read from every field that joins them, if the first one does not begin and the last
one does not end with a bracket that would be taken for one around the whole. -/
theorem parseHosts_of_isField (hhosts : ∀ host ∈ hosts, Text.IsItem ';' host.toList)
    (hfirst : ∀ first, hosts.head? = some first → first.toList.head? ≠ some '[')
    (hlast : ∀ last, hosts.getLast? = some last → last.toList.getLast? ≠ some ']')
    (hfield : IsField field hosts) : parseHosts field = hosts := by
  obtain ⟨before, opening, joined, closing, after, hbefore, hafter, hjoins, htext⟩ := hfield
  have hitems : ∀ item ∈ hosts.map String.toList, Text.IsItem ';' item :=
    List.forall_mem_map.mpr hhosts
  -- trimming the whole may take blanks from the joined text, where no brackets shield it
  have hopening : ∀ c ∈ List.replicate opening '[', Text.isBlank c = false :=
    not_blank_of_mem_replicate (by decide) opening
  have hclosing : ∀ c ∈ List.replicate closing ']', Text.isBlank c = false :=
    not_blank_of_mem_replicate (by decide) closing
  obtain ⟨front, inner, back, hfront, hback, rfl, htrim⟩ :=
    Text.exists_trim_between hopening hclosing joined
  have htrimmed : Text.trim field.toList =
      List.replicate opening '[' ++ (inner ++ List.replicate closing ']') := by
    rw [htext, Text.trim_padded hbefore hafter, htrim]
  have hunopened : inner.head? ≠ some '[' := by
    refine hjoins.head?_ne hitems (by decide) hfront (by decide) (by decide) ?_
    simpa [List.head?_map] using hfirst
  have hunclosed : inner.getLast? ≠ some ']' := by
    refine hjoins.getLast?_ne hitems (by decide) hback (by decide) (by decide) ?_
    simpa [List.getLast?_map] using hlast
  have hread : Text.items ';' inner = hosts.map String.toList := by
    rw [← Text.items_trim (by decide), ← Text.trim_padded hfront hback,
      Text.items_trim (by decide)]
    exact Text.items_of_joins (by decide) hitems hjoins
  rw [parseHosts, htrimmed]
  simp only [dropWhile_brackets hunopened hunclosed, hread]
  exact Text.map_ofList_eq_iff.mpr rfl

theorem parseHosts_bracketed (hhosts : ∀ host ∈ hosts, IsHost host) :
    parseHosts (bracketed hosts) = hosts :=
  parseHosts_of_isField (fun host hmem => (hhosts host hmem).isItem)
    (fun first hfirst => (hhosts first (List.mem_of_mem_head? hfirst)).unopened)
    (fun last hlast => (hhosts last (List.mem_of_getLast? hlast)).unclosed)
    (isField_bracketed hosts)

/-- Every field joins the hosts that are read from it. -/
theorem isField_parseHosts (field : String) : IsField field (parseHosts field) := by
  obtain ⟨before, after, hbefore, hafter, htext⟩ := Text.exists_trim field.toList
  let opened := (Text.trim field.toList).dropWhile (· = '[')
  let opening := (Text.trim field.toList).takeWhile (· = '[')
  let closed := (opened.reverse.dropWhile (· = ']')).reverse
  let closing := (opened.reverse.takeWhile (· = ']')).reverse
  have hopening : opening = List.replicate opening.length '[' :=
    List.eq_replicate_of_mem fun c hmem => by simpa using List.mem_takeWhile_imp hmem
  have hclosing : closing = List.replicate closing.length ']' :=
    List.eq_replicate_of_mem fun c hmem => by
      simpa using List.mem_takeWhile_imp (List.mem_reverse.mp hmem)
  have hopened : opened = closed ++ closing := by
    rw [← List.reverse_append, List.takeWhile_append_dropWhile, List.reverse_reverse]
  refine ⟨before, opening.length, closed, closing.length, after, hbefore, hafter, ?_, ?_⟩
  · have hhosts : (parseHosts field).map String.toList = Text.items ';' closed :=
      (Text.map_ofList_eq_iff.mp rfl).symm
    rw [hhosts]
    exact Text.joins_items ';' closed
  · rw [← hopening, ← hclosing, ← hopened, List.takeWhile_append_dropWhile]
    exact htext

theorem IsField.inOrder (hfield : IsField field hosts) :
    Text.InOrder (hosts.map String.toList) field.toList := by
  obtain ⟨before, opening, joined, closing, after, -, -, ⟨pieces, hpadded, rfl⟩, htext⟩ := hfield
  rw [htext]
  have hinside := (hpadded.inOrder ';').append_right (List.replicate closing ']')
  exact ((hinside.append_left _).append_left before).append_right after

/-- **Hosts of a field.** Hosts that are not empty, trimmed and without semicolons are read from
every field that joins them by semicolons, with blanks around each of them, blank items anywhere,
any number of brackets directly around the joined text, and blanks around the whole; only the first
host must not begin with an opening bracket and the last one not end with a closing one. Every field
whatsoever is one that joins the hosts read from it so, and each of these is not empty, trimmed and
without semicolons, and stands in the field in the order of the list. -/
theorem parseHosts_recovers_hosts :
    (∀ (hosts : List String) (field : String),
      (∀ host ∈ hosts, Text.IsItem ';' host.toList) →
      (∀ first, hosts.head? = some first → first.toList.head? ≠ some '[') →
      (∀ last, hosts.getLast? = some last → last.toList.getLast? ≠ some ']') →
      IsField field hosts → parseHosts field = hosts) ∧
    ∀ field, IsField field (parseHosts field) ∧
      (∀ host ∈ parseHosts field, Text.IsItem ';' host.toList) ∧
      Text.InOrder ((parseHosts field).map String.toList) field.toList := by
  refine ⟨fun hosts field hhosts hfirst hlast hfield =>
    parseHosts_of_isField hhosts hfirst hlast hfield, fun field => ?_⟩
  have hfield := isField_parseHosts field
  refine ⟨hfield, fun host hmem => ?_, hfield.inOrder⟩
  obtain ⟨item, hitem, rfl⟩ := List.mem_map.mp hmem
  rw [String.toList_ofList]
  exact Text.isItem_of_mem_items hitem

/-- The first host ends and the last one begins with a bracket; there are two blank items between
them, and not as many brackets on one side as on the other. -/
theorem parseHosts_recovers_hosts_of_brackets :
    let hosts := ["vlab-01]", "[vlab-02"]
    let field := "\t[[ vlab-01] ;; ;[vlab-02\u2003]]] "
    IsField field hosts ∧ parseHosts field = hosts ∧
      (∀ host ∈ hosts, Text.IsItem ';' host.toList) ∧
      Text.InOrder (hosts.map String.toList) field.toList := by
  intro hosts field
  have hspaces : Text.Gap [' '] ∧ Text.Gap ['\t'] ∧ Text.Gap ['\u2003'] := by decide
  have hpadded : Text.Padded
      [[' '] ++ "vlab-01]".toList ++ [' '], [], [' '], [] ++ "[vlab-02".toList ++ ['\u2003']]
      (hosts.map String.toList) :=
    .item hspaces.1 hspaces.1 <| .blank .nil <| .blank hspaces.1 <| .item .nil hspaces.2.2 .nil
  have hfield : IsField field hosts :=
    ⟨['\t'], 2, _, 3, [' '], hspaces.2.1, hspaces.1, ⟨_, hpadded, rfl⟩, by decide +kernel⟩
  obtain ⟨hread, hfields⟩ := parseHosts_recovers_hosts
  have hhosts : parseHosts field = hosts := by
    refine hread hosts field (by decide) ?_ ?_ hfield
    · rintro first ⟨⟩
      decide
    · rintro last ⟨⟩
      decide
  have hboth := hfields field
  rw [hhosts] at hboth
  exact ⟨hfield, hhosts, hboth.2⟩

end SshCompliance.Testbed
