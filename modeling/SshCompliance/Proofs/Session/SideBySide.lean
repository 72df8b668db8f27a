import SshCompliance.Proofs.Session.Asking

/-!
# Asking side by side

All categories are asked about at once and concluded once all answers are there. As long as a
category gets the same reply whenever it is asked about, this comes to the same as asking about one
category after the other and concluding each query before the next: same matrices or same error, and
the same lists, also where an early error leaves some categories unconcluded.
-/

namespace SshCompliance

namespace Session

/-- Asks about one category after the other, with the given replies. A crash stops before the
category and is told in words, an error of the category stops after it. -/
def oneByOne (replies : Category → Reply) (session : Session) :
    List Category → Session × Except Error (List Matrix)
  | [] => (session, .ok [])
  | category :: rest =>
    match replies category with
    | .crashed reason =>
      (session, .error (.other (category.label ++ " query task failed: " ++ reason)))
    | reply =>
      let outcome := ((session.matrixFor category).runWith (fun _ => ⟨reply, []⟩)).value
      match outcome.result with
      | .error error => (outcome.session, .error error)
      | .ok matrix =>
        let (last, others) := oneByOne replies outcome.session rest
        (last, others.map (matrix :: ·))

variable {replies : Category → Reply} {answers : Category → Queried}

theorem oneByOne_cons_of_crashed {category : Category} {reason : String}
    (hcrashed : replies category = .crashed reason) (session : Session) (rest : List Category) :
    session.oneByOne replies (category :: rest) =
      (session, .error (.other (category.label ++ " query task failed: " ++ reason))) := by
  rw [oneByOne, hcrashed]

theorem oneByOne_cons_of_sound {category : Category} (hsound : (replies category).Sound)
    (session : Session) (rest : List Category) :
    let outcome := session.conclude category ((replies category).read category session.marker)
    session.oneByOne replies (category :: rest) =
      match outcome.result with
      | .error error => (outcome.session, .error error)
      | .ok matrix =>
        ((outcome.session.oneByOne replies rest).1,
          (outcome.session.oneByOne replies rest).2.map (matrix :: ·)) := by
  intro outcome
  have hvalue : ((session.matrixFor category).runWith
      (fun _ => ⟨replies category, []⟩)).value = outcome := by
    rw [Dialogue.runWith, value_matrixFor, answers_cons_self]
  rw [oneByOne]
  split
  · next reason hcrashed => exact absurd hcrashed (hsound reason)
  · rw [hvalue]

/-- Concluding queries in turn is asking in turn: the induction goes along the categories, from
whatever session the earlier ones left. -/
theorem concludeAll_eq_oneByOne {session : Session} {marker : String}
    (hmarker : session.marker = marker)
    (hanswers : ∀ category, answers category = (replies category).read category marker)
    (categories : List Category) :
    ((concludeAll answers session categories).session,
      (concludeAll answers session categories).result) =
      session.oneByOne replies categories := by
  induction categories generalizing session with
  | nil => rfl
  | cons category rest ih =>
      by_cases hsound : (replies category).Sound
      · have hnext : (session.conclude category (answers category)).session.marker = marker := by
          rw [session_conclude]
          exact hmarker
        rw [oneByOne_cons_of_sound hsound, hmarker, ← hanswers, concludeAll]
        simp only [Outcome.andThen, ← ih hnext, Outcome.map]
        cases (session.conclude category (answers category)).result <;> rfl
      · obtain ⟨reason, hcrashed⟩ := not_forall_not.mp hsound
        have hanswer : answers category = .crashed reason := by
          rw [hanswers, hcrashed]
          rfl
        rw [oneByOne_cons_of_crashed hcrashed, concludeAll, hanswer]
        rfl

variable {respond : List Call → Call → Answer} {history : List Call}

/-- **Side by side is one by one.** In whatever order the categories are asked about, and whichever
of the queries give a list, fail or crash, the outcome is that of asking about one category after
the other with the same replies. -/
theorem allMatricesInOrder_eq_oneByOne (session : Session) {order : List Category}
    (horder : order.Perm Category.all)
    (hreplies : ∀ earlier category,
      (respond earlier (session.call category)).reply = replies category) :
    let outcome := ((session.allMatricesInOrder order).run respond history).value
    (outcome.session, outcome.result) = session.oneByOne replies Category.all := by
  intro outcome
  have hall : ∀ category, category ∈ order := fun category =>
    horder.mem_iff.mpr category.mem_all
  obtain ⟨hsession, hresult⟩ := value_allMatricesInOrder session respond history hall
  have hanswers : ∀ category, session.answers respond history order category =
      (replies category).read category session.marker := by
    intro category
    rw [answers, hreplies]
  rw [hsession, hresult]
  exact concludeAll_eq_oneByOne rfl hanswers Category.all

/-- One query gives a list, one crashes, and one fails that nobody looks at any more. -/
theorem allMatricesInOrder_eq_oneByOne_of_crash :
    let session : Session := ⟨⟨"inventory", "device"⟩, "rc=0 >>", .degrade, .default⟩
    let replies : Category → Reply
      | .cipher => .finished ⟨some 0, "rc=0 >> aes128-cbc aes256-ctr aes128-cbc", ""⟩
      | .mac => .crashed "task 7 panicked"
      | .kex => .finished ⟨some 4, "UNREACHABLE", ""⟩
    let respond : List Call → Call → Answer := fun _ call =>
      ⟨if call.command = "ssh -Q cipher" then replies .cipher
        else if call.command = "ssh -Q mac" then replies .mac else replies .kex, []⟩
    let order : List Category := [.kex, .mac, .cipher]
    let outcome := ((session.allMatricesInOrder order).run respond []).value
    order.Perm Category.all ∧
      (∀ earlier category, (respond earlier (session.call category)).reply = replies category) ∧
      (outcome.session, outcome.result) = session.oneByOne replies Category.all ∧
      outcome.result = .error (.other "mac query task failed: task 7 panicked") ∧
      outcome.session.lists.get .cipher ≠ session.lists.get .cipher := by
  intro session replies respond order outcome
  have horder : order.Perm Category.all := by decide
  have hreplies : ∀ earlier category,
      (respond earlier (session.call category)).reply = replies category := by
    intro earlier category
    cases category <;> rfl
  have hsame : (outcome.session, outcome.result) = session.oneByOne replies Category.all :=
    session.allMatricesInOrder_eq_oneByOne horder hreplies
  obtain ⟨hsession, hresult⟩ := Prod.mk.inj hsame
  refine ⟨horder, hreplies, hsame, ?_, ?_⟩
  · rw [hresult]
    decide
  · rw [hsession]
    decide

end Session

end SshCompliance
