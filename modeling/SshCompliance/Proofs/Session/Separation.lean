import SshCompliance.Proofs.Session.Runs

/-!
# Categories keep apart

The list of a category grows by the replies to its own queries and by nothing else, and its matrices
are made from these replies and that list alone. As long as no query ends a step early, a category
therefore goes through a run as if it were the only one: what comes of it is determined by its list
at the start and the replies to its queries, whatever the other categories are told and in whatever
steps the queries are made.
-/

namespace SshCompliance

/-- A call with the reply to it. -/
structure Exchange where
  call : Call
  reply : Reply
deriving DecidableEq, Repr

namespace Exchange

/-- What calls lead to that are made one after the other. -/
def ofCalls (respond : List Call → Call → Answer) : List Call → List Call → List Exchange
  | _, [] => []
  | history, call :: rest =>
    ⟨call, (respond history call).reply⟩ :: ofCalls respond (history ++ [call]) rest

/-- The replies to the calls that ask about a category. -/
def repliesTo (category : Category) (exchanges : List Exchange) : List Reply :=
  (exchanges.filter (fun exchange => exchange.call.command = category.command)).map reply

theorem ofCalls_append (respond : List Call → Call → Answer) (history first second : List Call) :
    ofCalls respond history (first ++ second) =
      ofCalls respond history first ++ ofCalls respond (history ++ first) second := by
  induction first generalizing history with
  | nil => rw [List.append_nil, List.nil_append, ofCalls, List.nil_append]
  | cons call rest ih =>
      rw [List.cons_append, ofCalls, ih, ofCalls, List.cons_append, List.append_assoc,
        List.singleton_append]

theorem repliesTo_append (category : Category) (first second : List Exchange) :
    repliesTo category (first ++ second) =
      repliesTo category first ++ repliesTo category second := by
  unfold repliesTo
  rw [List.filter_append, List.map_append]

end Exchange

theorem Category.command_inj {left right : Category} :
    left.command = right.command ↔ left = right := by
  cases left <;> cases right <;> decide

namespace Session

variable (session : Session) (respond : List Call → Call → Answer) (history : List Call)

def exchanges (steps : List Step) : List Exchange :=
  Exchange.ofCalls respond history ((session.performAll steps).run respond history).requests

/-- The matrices that a run produces for a category, in order. -/
def produced (category : Category) (steps : List Step) : List Matrix :=
  ((session.results respond history steps).flatMap fun result =>
    result.toOption.toList.flatMap Product.matrices).filter
      (fun matrix => matrix.category = category)

/-- What comes of a category that is all by itself: the matrices made from the replies to its
queries, and its list at the end. -/
def follow (category : Category) : Session → List Reply → List Matrix × AllowList
  | session, [] => ([], session.lists.get category)
  | session, reply :: rest =>
    let queried := reply.read category session.marker
    let later := follow category (session.learn category queried.names) rest
    (session.matrixOf category queried :: later.1, later.2)

/-- Sessions are alike for a category if they look for the same marker and have the same list for
it. -/
structure Alike (category : Category) (first second : Session) : Prop where
  marker_eq : first.marker = second.marker
  list_eq : first.lists.get category = second.lists.get category

variable {category : Category}

theorem Alike.matrixOf_eq {first second : Session} (halike : Alike category first second)
    (queried : Queried) : first.matrixOf category queried = second.matrixOf category queried := by
  cases queried with
  | listed names => simp only [matrixOf, halike.list_eq]
  | failed error => rfl
  | crashed reason => rfl

theorem Alike.learn {first second : Session} (halike : Alike category first second)
    (names : List String) :
    Alike category (first.learn category names) (second.learn category names) where
  marker_eq := halike.marker_eq
  list_eq := by rw [get_learn, get_learn, halike.list_eq]

/-- What comes of a category is the same in sessions that are alike for it. -/
theorem Alike.follow_eq {first second : Session} (halike : Alike category first second)
    (replies : List Reply) : follow category first replies = follow category second replies := by
  induction replies generalizing first second with
  | nil => rw [follow, follow, halike.list_eq]
  | cons reply rest ih =>
      simp only [follow, halike.marker_eq, halike.matrixOf_eq, ih (halike.learn _)]

theorem length_follow (session : Session) (replies : List Reply) :
    (follow category session replies).1.length = replies.length := by
  induction replies generalizing session with
  | nil => rfl
  | cons reply rest ih => rw [follow, List.length_cons, List.length_cons, ih]

/-! ### One step -/

theorem repliesTo_call_of_ne {first : Category} (hne : first ≠ category) (rest : List Call) :
    Exchange.repliesTo category
        (Exchange.ofCalls respond history (session.call first :: rest)) =
      Exchange.repliesTo category
        (Exchange.ofCalls respond (history ++ [session.call first]) rest) := by
  have hcommand : ¬(session.call first).command = category.command :=
    fun hsame => hne (Category.command_inj.mp hsame)
  rw [Exchange.ofCalls, Exchange.repliesTo, List.filter_cons_of_neg (by simpa using hcommand)]
  rfl

theorem repliesTo_calls_of_not_mem {categories : List Category} (habsent : category ∉ categories) :
    Exchange.repliesTo category
      (Exchange.ofCalls respond history (categories.map session.call)) = [] := by
  induction categories generalizing history with
  | nil => rfl
  | cons first rest ih =>
      obtain ⟨hne, hrest⟩ := not_or.mp (mt List.mem_cons.mpr habsent)
      rw [List.map_cons, repliesTo_call_of_ne session respond history (Ne.symm hne)]
      exact ih _ hrest

theorem repliesTo_calls_of_mem {categories : List Category} (hdistinct : categories.Nodup)
    (hmem : category ∈ categories) :
    Exchange.repliesTo category
        (Exchange.ofCalls respond history (categories.map session.call)) =
      [(respond (history ++ (categories.takeWhile (· ≠ category)).map session.call)
        (session.call category)).reply] := by
  induction categories generalizing history with
  | nil => cases hmem
  | cons first rest ih =>
      obtain ⟨hnew, hrest⟩ := List.nodup_cons.mp hdistinct
      by_cases hfirst : first = category
      · subst hfirst
        have hlater := repliesTo_calls_of_not_mem session respond
          (history ++ [session.call first]) hnew
        rw [List.map_cons, Exchange.ofCalls, List.takeWhile_cons_of_neg (by simp), List.map_nil,
          List.append_nil]
        unfold Exchange.repliesTo at hlater ⊢
        rw [List.filter_cons_of_pos (by simp [call]), List.map_cons, hlater]
      · have hlater : category ∈ rest := (List.mem_cons.mp hmem).resolve_left (Ne.symm hfirst)
        rw [List.map_cons, repliesTo_call_of_ne session respond history hfirst, ih _ hrest hlater,
          List.takeWhile_cons_of_pos (by simpa using hfirst), List.map_cons, List.append_assoc,
          List.singleton_append]

theorem sound_answers {categories : List Category} (hdistinct : categories.Nodup)
    (hsound : ∀ exchange ∈ Exchange.ofCalls respond history (categories.map session.call),
      exchange.reply.Sound)
    (hmem : category ∈ categories) :
    (session.answers respond history categories category).Sound := by
  have hreplies := repliesTo_calls_of_mem session respond history hdistinct hmem
  have hin := hreplies ▸ List.mem_singleton_self _
  obtain ⟨exchange, hexchange, hsame⟩ := List.mem_map.mp hin
  have hreply := hsound exchange (List.mem_filter.mp hexchange).1
  intro reason
  rw [answers, ← hsame]
  exact mt Reply.read_eq_crashed_iff.mp (hreply reason)

theorem error?_answers_of_degrade (hpolicy : session.policy = .degrade)
    {categories : List Category} (hdistinct : categories.Nodup)
    (hsound : ∀ exchange ∈ Exchange.ofCalls respond history (categories.map session.call),
      exchange.reply.Sound)
    (hmem : category ∈ categories) :
    (session.answers respond history categories category).error? session.policy category =
      none := by
  rw [hpolicy]
  exact Queried.error?_degrade
    (session.sound_answers respond history hdistinct hsound hmem) category

theorem namesFor_judged_of_none {answers : Category → Queried} {categories : List Category}
    (hnone : ∀ other ∈ categories, (answers other).error? session.policy other = none) :
    Report.namesFor category (session.judged answers categories) =
      (categories.filter (· = category)).flatMap (fun other => (answers other).names) := by
  induction categories with
  | nil => rfl
  | cons first rest ih =>
      rw [judged_cons_of_none (hnone first List.mem_cons_self), Report.namesFor_append,
        Queried.namesFor_report?,
        ih fun other hother => hnone other (List.mem_cons_of_mem _ hother)]
      by_cases hfirst : first = category <;> simp [hfirst]

theorem filter_categories (step : Step) :
    step.categories.filter (· = category) =
      if category ∈ step.categories then [category] else [] := by
  rw [List.filter_eq, step.nodup_categories.count]
  split <;> rfl

theorem produced_cons {step : Step} {answers : Category → Queried}
    (hanswers : session.answers respond history step.categories = answers)
    (hnone : ∀ other ∈ step.categories, (answers other).error? session.policy other = none)
    (rest : List Step) :
    session.produced respond history category (step :: rest) =
      (if category ∈ step.categories then [session.matrixOf category (answers category)] else []) ++
        (session.next respond history step).produced respond (history ++ session.calls step)
          category rest := by
  subst hanswers
  obtain ⟨product, hproduct, hmatrices⟩ :=
    (session.perform_ok_iff respond history step _).mpr ⟨hnone, rfl⟩
  have hown : product.matrices.filter (fun matrix => matrix.category = category) =
      if category ∈ step.categories then
        [session.matrixOf category
          (session.answers respond history step.categories category)]
      else [] := by
    rw [hmatrices, List.filter_map]
    simp only [Function.comp_def, category_matrixOf, filter_categories]
    split <;> rfl
  rw [produced, results_cons, hproduct, List.flatMap_cons, List.filter_append, ← produced, ← hown]
  simp [Except.toOption]

theorem alike_next {step : Step} {answers : Category → Queried}
    (hanswers : session.answers respond history step.categories = answers)
    (hnone : ∀ other ∈ step.categories, (answers other).error? session.policy other = none) :
    Alike category (session.next respond history step)
      (if category ∈ step.categories then session.learn category (answers category).names
        else session) := by
  subst hanswers
  obtain ⟨lists, hlists⟩ := session.next_withLists respond history step
  have hnames : Report.namesFor category
      (session.judged (session.answers respond history step.categories) step.categories) =
        (if category ∈ step.categories then [category] else []).flatMap (fun other =>
          (session.answers respond history step.categories other).names) := by
    rw [session.namesFor_judged_of_none hnone, filter_categories]
  have hlist := session.lists_next respond history step category
  rw [reportsOf, hnames] at hlist
  refine ⟨?_, hlist.trans ?_⟩
  · rw [hlists]
    split <;> rfl
  · split
    · simp [get_learn]
    · simp

/-! ### Runs -/

theorem exchanges_cons (step : Step) (rest : List Step) :
    session.exchanges respond history (step :: rest) =
      Exchange.ofCalls respond history (session.calls step) ++
        (session.next respond history step).exchanges respond (history ++ session.calls step)
          rest := by
  simp only [exchanges, performAll, Dialogue.requests_bind, Dialogue.requests_pure,
    requests_perform, List.append_nil, Exchange.ofCalls_append]
  rfl

/-- **A category by itself.** In a run that bears failures and in which no query crashes, what comes
of a category is what comes of it by itself from the replies to its queries. -/
theorem produced_eq_follow (category : Category) (hpolicy : session.policy = .degrade)
    (steps : List Step)
    (hsound : ∀ exchange ∈ session.exchanges respond history steps, exchange.reply.Sound) :
    (session.produced respond history category steps,
      (session.after respond history steps).lists.get category) =
      follow category session
        (Exchange.repliesTo category (session.exchanges respond history steps)) := by
  induction steps generalizing session history with
  | nil => rfl
  | cons step rest ih =>
      rw [exchanges_cons] at hsound ⊢
      have hdistinct := step.nodup_categories
      have hnone : ∀ other ∈ step.categories,
          (session.answers respond history step.categories other).error? session.policy other =
            none := by
        intro other hother
        apply error?_answers_of_degrade session respond history hpolicy hdistinct _ hother
        exact fun exchange hexchange => hsound exchange (List.mem_append_left _ hexchange)
      have hpolicyNext : (session.next respond history step).policy = .degrade := by
        obtain ⟨lists, hlists⟩ := session.next_withLists respond history step
        rw [hlists]
        exact hpolicy
      have hlater := ih (session.next respond history step) (history ++ session.calls step)
        hpolicyNext fun exchange hexchange => hsound exchange (List.mem_append_right _ hexchange)
      rw [(session.alike_next respond history rfl hnone).follow_eq] at hlater
      rw [session.produced_cons respond history rfl hnone, after_cons, Exchange.repliesTo_append]
      by_cases hmem : category ∈ step.categories
      · -- the step asks about the category: one reply, one matrix
        have hreply : Exchange.repliesTo category
            (Exchange.ofCalls respond history (session.calls step)) = _ :=
          repliesTo_calls_of_mem session respond history hdistinct hmem
        rw [if_pos hmem] at hlater ⊢
        rw [hreply, List.singleton_append, List.singleton_append, follow]
        have hmatrices := congrArg Prod.fst hlater
        have hlast := congrArg Prod.snd hlater
        exact Prod.ext (congrArg (List.cons _) hmatrices) hlast
      · have hreply : Exchange.repliesTo category
            (Exchange.ofCalls respond history (session.calls step)) = [] :=
          repliesTo_calls_of_not_mem session respond history hmem
        rw [if_neg hmem] at hlater ⊢
        rw [hreply, List.nil_append, List.nil_append]
        exact hlater

/-- **No interference.** Take two runs that bear failures, in which no query crashes, from
configurations that have the same marker and the same list for a category. If the queries of that
category get the same replies in both, they produce the same matrices for it, one for each reply,
and leave it the same list, whatever else the two runs do. -/
theorem produced_eq_of_repliesTo_eq {target₁ target₂ : Target} {config₁ config₂ : Config}
    {respond₁ respond₂ : List Call → Call → Answer} {history₁ history₂ : List Call}
    {steps₁ steps₂ : List Step}
    (hpolicy₁ : config₁.onQueryFailure = .degrade) (hpolicy₂ : config₂.onQueryFailure = .degrade)
    (hmarker : config₁.outputMarker = config₂.outputMarker)
    (hlist : config₁.allowLists.get category = config₂.allowLists.get category)
    (hsound₁ : ∀ exchange ∈ (start target₁ config₁).exchanges respond₁ history₁ steps₁,
      exchange.reply.Sound)
    (hsound₂ : ∀ exchange ∈ (start target₂ config₂).exchanges respond₂ history₂ steps₂,
      exchange.reply.Sound)
    (hreplies :
      Exchange.repliesTo category
          ((start target₁ config₁).exchanges respond₁ history₁ steps₁) =
        Exchange.repliesTo category
          ((start target₂ config₂).exchanges respond₂ history₂ steps₂)) :
    (start target₁ config₁).produced respond₁ history₁ category steps₁ =
        (start target₂ config₂).produced respond₂ history₂ category steps₂ ∧
      ((start target₁ config₁).after respond₁ history₁ steps₁).lists.get category =
        ((start target₂ config₂).after respond₂ history₂ steps₂).lists.get category ∧
      ((start target₁ config₁).produced respond₁ history₁ category steps₁).length =
        (Exchange.repliesTo category
          ((start target₁ config₁).exchanges respond₁ history₁ steps₁)).length := by
  have halike : Alike category (start target₁ config₁) (start target₂ config₂) := ⟨hmarker, hlist⟩
  have hfirst := produced_eq_follow _ respond₁ history₁ category hpolicy₁ steps₁ hsound₁
  have hsecond := produced_eq_follow _ respond₂ history₂ category hpolicy₂ steps₂ hsound₂
  have hsame : ((start target₁ config₁).produced respond₁ history₁ category steps₁,
        ((start target₁ config₁).after respond₁ history₁ steps₁).lists.get category) =
      ((start target₂ config₂).produced respond₂ history₂ category steps₂,
        ((start target₂ config₂).after respond₂ history₂ steps₂).lists.get category) := by
    rw [hfirst, hreplies, halike.follow_eq]
    exact hsecond.symm
  obtain ⟨hmatrices, hlists⟩ := Prod.mk.inj hsame
  refine ⟨hmatrices, hlists, ?_⟩
  rw [← length_follow (start target₁ config₁)]
  exact congrArg (fun pair => pair.1.length) hfirst

/-- One run asks for the ciphers twice, the other for everything and then for the ciphers in a test.
The MACs get a list in one of them and fail in the other, whose list of MACs is another one. -/
theorem produced_eq_of_repliesTo_eq_of_tests :
    let config₁ := Config.default
    let config₂ : Config :=
      { Config.default with allowLists := AllowLists.default.put .mac (.ofNames ["hmac-sha1"]) }
    let ciphers : Reply := .finished ⟨some 0, "rc=0 >> aes128-cbc aes256-ctr", ""⟩
    let respond₁ : List Call → Call → Answer := fun earlier call =>
      ⟨if call.command = "ssh -Q mac" then .finished ⟨some 0, "rc=0 >> umac-64", ""⟩
        else if earlier = [] then ciphers else .refused (.other "no route"), []⟩
    let respond₂ : List Call → Call → Answer := fun earlier call =>
      ⟨if call.command = "ssh -Q cipher" ∧ earlier = [] then ciphers
        else .refused (.other "no route"), []⟩
    let steps₁ : List Step := [.category .cipher, .test ["enum_dut_ssh_mac"], .category .cipher]
    let steps₂ : List Step := [.all, .test ["duthost", "enum_dut_ssh_enc_cipher"], .category .kex]
    let first := Session.start ⟨"inventory", "device"⟩ config₁
    let second := Session.start ⟨"inventory", "other"⟩ config₂
    Exchange.repliesTo .cipher (first.exchanges respond₁ [] steps₁) =
        [ciphers, .refused (.other "no route")] ∧
      Exchange.repliesTo .cipher (second.exchanges respond₂ [] steps₂) =
        [ciphers, .refused (.other "no route")] ∧
      first.produced respond₁ [] .cipher steps₁ = second.produced respond₂ [] .cipher steps₂ ∧
      (first.after respond₁ [] steps₁).lists.get .cipher =
        (second.after respond₂ [] steps₂).lists.get .cipher ∧
      (first.after respond₁ [] steps₁).lists.get .mac ≠
        (second.after respond₂ [] steps₂).lists.get .mac := by
  intro config₁ config₂ ciphers respond₁ respond₂ steps₁ steps₂ first second
  have hsound₁ : ∀ exchange ∈ first.exchanges respond₁ [] steps₁, exchange.reply.Sound := by
    decide
  have hsound₂ : ∀ exchange ∈ second.exchanges respond₂ [] steps₂, exchange.reply.Sound := by
    decide
  have hreplies₁ : Exchange.repliesTo .cipher (first.exchanges respond₁ [] steps₁) =
      [ciphers, .refused (.other "no route")] := by decide
  have hreplies₂ : Exchange.repliesTo .cipher (second.exchanges respond₂ [] steps₂) =
      [ciphers, .refused (.other "no route")] := by decide
  obtain ⟨hmatrices, hlists, -⟩ :
      first.produced respond₁ [] .cipher steps₁ = second.produced respond₂ [] .cipher steps₂ ∧
        (first.after respond₁ [] steps₁).lists.get .cipher =
          (second.after respond₂ [] steps₂).lists.get .cipher ∧
        (first.produced respond₁ [] .cipher steps₁).length =
          (Exchange.repliesTo .cipher (first.exchanges respond₁ [] steps₁)).length :=
    produced_eq_of_repliesTo_eq rfl rfl rfl rfl hsound₁ hsound₂ (hreplies₁.trans hreplies₂.symm)
  exact ⟨hreplies₁, hreplies₂, hmatrices, hlists, by decide⟩

end Session

end SshCompliance
