import SshCompliance.Proofs.CommandLine.Production
import SshCompliance.Proofs.Matrix

/-!
# What a run prints

What is made for a mode is printed as one document and the end of a line, or not at all if nothing
was to be made. Whichever form the document has, it is read as the matrices that were made, and it
shows no others.
-/

namespace SshCompliance.CommandLine

/-- What a text shows when it is printed for a mode: nothing at all if a test declares no parameter
of a category, the one matrix of a test as a document on its own, and else a list. -/
inductive Shows : Mode → String → List Matrix → Prop
  | nothing {declared : List String} (hnone : Category.ofDeclared? declared = none) :
    Shows (.parameters declared) "" []
  | one {declared : List String} {category : Category} {document : String} {matrix : Matrix}
    (hsome : Category.ofDeclared? declared = some category)
    (hread : (Json.parse? document).bind Matrix.ofJson? = some matrix) :
    Shows (.parameters declared) (document ++ "\n") [matrix]
  | list {mode : Mode} {document : String} {matrices : List Matrix}
    (hmode : ∀ declared, mode ≠ .parameters declared)
    (hread : (Json.parse? document).bind (Json.list? Matrix.ofJson?) = some matrices) :
    Shows mode (document ++ "\n") matrices

theorem document_inj {first second : String} (hsame : first ++ "\n" = second ++ "\n") :
    first = second := by
  have hlists := congrArg String.toList hsame
  rw [String.toList_append, String.toList_append] at hlists
  exact String.toList_inj.mp (List.append_cancel_right hlists)

theorem Shows.unique {mode : Mode} {text : String} {first second : List Matrix}
    (hfirst : Shows mode text first) (hsecond : Shows mode text second) : first = second := by
  generalize hother : text = other at hsecond
  cases hfirst with
  | nothing hnone =>
      cases hsecond with
      | nothing => rfl
      | one hsome => rw [hnone] at hsome; cases hsome
      | list hmode => exact absurd rfl (hmode _)
  | one hsome hread =>
      cases hsecond with
      | nothing hnone => rw [hnone] at hsome; cases hsome
      | one _ hreadOther =>
          obtain rfl := document_inj hother
          rw [hread] at hreadOther
          rw [Option.some.inj hreadOther]
      | list hmode => exact absurd rfl (hmode _)
  | list hmode hread =>
      cases hsecond with
      | nothing => exact absurd rfl (hmode _)
      | one => exact absurd rfl (hmode _)
      | list _ hreadOther =>
          obtain rfl := document_inj hother
          rw [hread] at hreadOther
          exact Option.some.inj hreadOther

theorem Shows.text_eq_empty {declared : List String} {text : String} {matrices : List Matrix}
    (hshows : Shows (.parameters declared) text matrices)
    (hnone : Category.ofDeclared? declared = none) : text = "" := by
  cases hshows with
  | nothing => rfl
  | one hsome => rw [hnone] at hsome; cases hsome
  | list hmode => exact absurd rfl (hmode _)

/-- Both forms of a value are read as the value. -/
theorem parse?_document {value : Json} (hvalue : Json.Textual value) (pretty : Bool) :
    Json.parse? (if pretty then value.pretty else value.compact) = some value := by
  cases pretty
  · exact Json.parse?_compact hvalue
  · exact Json.parse?_pretty hvalue

theorem shows_list {mode : Mode} (hmode : ∀ declared, mode ≠ .parameters declared)
    (matrices : List Matrix) (pretty : Bool) :
    Shows mode (printed pretty (.many matrices)) matrices := by
  have hread := parse?_document (Matrix.textual_list matrices) pretty
  refine .list hmode ?_
  rw [Product.toJson, hread]
  exact Matrix.list?_ofJson? matrices

theorem shows_one {declared : List String} {category : Category}
    (hsome : Category.ofDeclared? declared = some category) (matrix : Matrix) (pretty : Bool) :
    Shows (.parameters declared) (printed pretty (.one matrix)) [matrix] := by
  have hread := parse?_document matrix.textual_toJson pretty
  refine .one hsome ?_
  rw [Product.toJson, hread]
  exact matrix.ofJson?_toJson

/-- **What is made is shown**, in whichever form it is printed. -/
theorem shows_printed (session : Session) (respond : List Call → Call → Answer)
    (history : List Call) {mode : Mode} {product : Product}
    (hproduct : ((produce session mode).run respond history).value.1 = .ok product)
    (pretty : Bool) : Shows mode (printed pretty product) product.matrices := by
  cases mode with
  | all =>
      simp only [produce, Dialogue.value_bind, Dialogue.value_pure] at hproduct
      obtain ⟨matrices, -, rfl⟩ := map_eq_ok.mp hproduct
      exact shows_list (fun _ => Mode.noConfusion) matrices pretty
  | categories chosen =>
      rw [(produce_categories session respond history chosen).1] at hproduct
      obtain ⟨matrices, -, rfl⟩ := map_eq_ok.mp hproduct
      exact shows_list (fun _ => Mode.noConfusion) matrices pretty
  | parameters declared =>
      rw [(produce_parameters session respond history declared).1] at hproduct
      cases hdeclared : Category.ofDeclared? declared with
      | none =>
          rw [Session.perform_test_of_none session hdeclared] at hproduct
          cases hproduct
          exact .nothing hdeclared
      | some category =>
          rw [Session.perform_test_of_some session hdeclared,
            (perform_category session respond history category).2] at hproduct
          obtain ⟨matrix, -, rfl⟩ := map_eq_ok.mp hproduct
          exact shows_one hdeclared matrix pretty

end SshCompliance.CommandLine
