import SshCompliance.Proofs.Device.Names
import SshCompliance.Proofs.Dialogue

/-!
# What a query comes to

A query makes one call and goes by the reply to it. It gives names if and only if the command ended
well and the marker occurs in its standard output; otherwise it fails with a report of all that came
back, or of why nothing did. What was written to standard error comes up in the reports only.
-/

namespace SshCompliance

variable {category : Category} {marker : String}

namespace Completion

variable {output : Completion} {names : List String}

/-- The command ended well, and these are the words behind the first occurrence of the marker in its
standard output. -/
def Lists (marker : String) (output : Completion) (names : List String) : Prop :=
  output.status = some 0 ∧
    ∃ before after, Text.FirstCut marker.toList output.stdout.toList before after ∧
      Text.Spaced after (names.map String.toList)

theorem lists_iff :
    output.Lists marker names ↔
      output.succeeded = true ∧ readNames? marker output.stdout = some names := by
  rw [Lists, succeeded, decide_eq_true_iff]
  refine and_congr_right fun _ => ⟨?_, fun hnames => ?_⟩
  · rintro ⟨before, after, hcut, hspaced⟩
    exact (readNames?_eq_some_iff hcut).mpr (Text.words_eq_iff_spaced.mpr hspaced)
  · have hoccurs : marker.toList <:+: output.stdout.toList := by
      by_contra hnowhere
      rw [readNames?_eq_none_iff.mpr hnowhere] at hnames
      cases hnames
    obtain ⟨before, after, hcut⟩ := Text.exists_firstCut hoccurs
    exact ⟨before, after, hcut,
      Text.words_eq_iff_spaced.mp ((readNames?_eq_some_iff hcut).mp hnames)⟩

theorem exists_lists_iff :
    (∃ names, output.Lists marker names) ↔
      output.status = some 0 ∧ marker.toList <:+: output.stdout.toList := by
  simp only [lists_iff, exists_and_left, succeeded, decide_eq_true_iff]
  refine and_congr_right fun _ => ?_
  rw [← not_iff_not, ← readNames?_eq_none_iff, not_exists, Option.eq_none_iff_forall_ne_some]

end Completion

namespace Reply

variable {reply : Reply}

/-- The task that waited for the command did not break down. -/
def Sound (reply : Reply) : Prop := ∀ reason, reply ≠ .crashed reason

instance : DecidablePred Sound
  | .finished _ => isTrue fun _ => Reply.noConfusion
  | .refused _ => isTrue fun _ => Reply.noConfusion
  | .crashed reason => isFalse fun hsound => hsound reason rfl

/-- What is reported of a reply that gives no names. -/
inductive Reports (marker : String) : Reply → String → Prop
  | refused (error : Error) : Reports marker (.refused error) error.message
  | finished {output : Completion}
    (hunlisted : ¬(output.status = some 0 ∧ marker.toList <:+: output.stdout.toList)) :
    Reports marker (.finished output) (output.stdout ++ output.stderr)

theorem read_finished_of_lists {output : Completion} {names : List String}
    (hlists : output.Lists marker names) :
    (Reply.finished output).read category marker = .listed names := by
  obtain ⟨hsucceeded, hnames⟩ := Completion.lists_iff.mp hlists
  rw [read, hsucceeded, hnames]

theorem read_of_reports {text : String} (hreports : reply.Reports marker text) :
    reply.read category marker = .failed (.remoteQuery category text) := by
  cases hreports with
  | refused error => rfl
  | @finished output hunlisted =>
      rw [← Completion.exists_lists_iff, not_exists] at hunlisted
      simp only [Completion.lists_iff] at hunlisted
      rw [read]
      split
      · next names hsucceeded hnames => exact absurd ⟨hsucceeded, hnames⟩ (hunlisted names)
      · rfl

/-- A reply gives names or a report, unless there is none. -/
theorem exists_lists_or_reports (marker : String) (reply : Reply) :
    (∃ output names, reply = .finished output ∧ output.Lists marker names) ∨
      (∃ text, reply.Reports marker text) ∨ ∃ reason, reply = .crashed reason := by
  cases reply with
  | finished output =>
      by_cases hlisted : ∃ names, output.Lists marker names
      · obtain ⟨names, hlists⟩ := hlisted
        exact .inl ⟨output, names, rfl, hlists⟩
      · exact .inr (.inl ⟨_, .finished (mt Completion.exists_lists_iff.mpr hlisted)⟩)
  | refused error => exact .inr (.inl ⟨_, .refused error⟩)
  | crashed reason => exact .inr (.inr ⟨reason, rfl⟩)

theorem read_eq_listed_iff_lists {names : List String} :
    reply.read category marker = .listed names ↔
      ∃ output, reply = .finished output ∧ output.Lists marker names := by
  constructor
  · intro hread
    obtain ⟨output, others, rfl, hlists⟩ | ⟨text, hreports⟩ | ⟨reason, rfl⟩ :=
      exists_lists_or_reports marker reply
    · rw [read_finished_of_lists hlists] at hread
      obtain rfl := Queried.listed.inj hread
      exact ⟨output, rfl, hlists⟩
    · rw [read_of_reports hreports] at hread
      cases hread
    · cases hread
  · rintro ⟨output, rfl, hlists⟩
    exact read_finished_of_lists hlists

theorem read_eq_failed_iff {error : Error} :
    reply.read category marker = .failed error ↔
      ∃ text, reply.Reports marker text ∧ error = .remoteQuery category text := by
  constructor
  · intro hread
    obtain ⟨output, names, rfl, hlists⟩ | ⟨text, hreports⟩ | ⟨reason, rfl⟩ :=
      exists_lists_or_reports marker reply
    · rw [read_finished_of_lists hlists] at hread
      cases hread
    · rw [read_of_reports hreports] at hread
      exact ⟨text, hreports, (Queried.failed.inj hread).symm⟩
    · cases hread
  · rintro ⟨text, hreports, rfl⟩
    exact read_of_reports hreports

theorem read_eq_crashed_iff {reason : String} :
    reply.read category marker = .crashed reason ↔ reply = .crashed reason := by
  constructor
  · intro hread
    obtain ⟨output, names, rfl, hlists⟩ | ⟨text, hreports⟩ | ⟨other, rfl⟩ :=
      exists_lists_or_reports marker reply
    · rw [read_finished_of_lists hlists] at hread
      cases hread
    · rw [read_of_reports hreports] at hread
      cases hread
    · obtain rfl := Queried.crashed.inj hread
      rfl
  · rintro rfl
    rfl

variable {output : Completion}

theorem read_finished_eq_listed_iff {names : List String} :
    (Reply.finished output).read category marker = .listed names ↔ output.Lists marker names := by
  rw [read_eq_listed_iff_lists]
  constructor
  · rintro ⟨_, ⟨⟩, hlists⟩
    exact hlists
  · intro hlists
    exact ⟨output, rfl, hlists⟩

theorem read_finished_fails_iff :
    (∃ error, (Reply.finished output).read category marker = .failed error) ↔
      ¬(output.status = some 0 ∧ marker.toList <:+: output.stdout.toList) := by
  simp only [read_eq_failed_iff]
  constructor
  · rintro ⟨_, _, hreports, -⟩
    cases hreports with
    | finished hunlisted => exact hunlisted
  · intro hunlisted
    exact ⟨_, _, .finished hunlisted, rfl⟩

end Reply

/-! ### The run of a query -/

variable (target : Target) (category : Category) (marker : String)
  (respond : List Call → Call → Answer) (history : List Call)

theorem value_run_query :
    ((query target category marker).run respond history).value =
      (respond history ⟨target, category.command⟩).reply.read category marker := by
  simp only [query, Dialogue.value_bind, Dialogue.value_pure, Dialogue.value_request,
    Dialogue.requests_notes, List.append_nil]

theorem requests_run_query :
    ((query target category marker).run respond history).requests =
      [⟨target, category.command⟩] := by
  simp only [query, Dialogue.requests_bind, Dialogue.requests_pure, Dialogue.requests_request,
    Dialogue.requests_notes, List.nil_append, List.append_nil]

/-- **One attempt, judged by standard output.** A query makes one call. It gives the words behind
the marker if and only if the command ended well and the marker occurs in its standard output. Every
other reply makes it fail with a report for its category, and only a task that broke down leaves it
without an answer. Another run, in which only standard error differs, gives the same names or fails
too. -/
theorem query_gives_or_reports :
    let call : Call := ⟨target, category.command⟩
    let reply := (respond history call).reply
    let run := (query target category marker).run respond history
    run.requests = [call] ∧
    ((∃ names, run.value = .listed names) ↔
      ∃ output, reply = .finished output ∧ output.status = some 0 ∧
        marker.toList <:+: output.stdout.toList) ∧
    (∀ names, run.value = .listed names ↔
      ∃ output, reply = .finished output ∧ output.Lists marker names) ∧
    (∀ error, run.value = .failed error ↔
      ∃ text, reply.Reports marker text ∧ error = .remoteQuery category text) ∧
    (∀ reason, run.value = .crashed reason ↔ reply = .crashed reason) ∧
    ∀ respond' history' output stderr, reply = .finished output →
      (respond' history' call).reply = .finished { output with stderr } →
      let run' := (query target category marker).run respond' history'
      (∀ names, run'.value = .listed names ↔ run.value = .listed names) ∧
      ((∃ error, run'.value = .failed error) ↔ ∃ error, run.value = .failed error) := by
  intro call reply run
  have hvalue : run.value = reply.read category marker :=
    value_run_query target category marker respond history
  have hlisted (names : List String) : run.value = .listed names ↔
      ∃ output, reply = .finished output ∧ output.Lists marker names := by
    rw [hvalue]
    exact Reply.read_eq_listed_iff_lists
  refine ⟨requests_run_query target category marker respond history, ?_, hlisted, ?_, ?_, ?_⟩
  · simp only [hlisted, ← Completion.exists_lists_iff, ← exists_and_left]
    exact exists_comm
  · intro error
    rw [hvalue]
    exact Reply.read_eq_failed_iff
  · intro reason
    rw [hvalue]
    exact Reply.read_eq_crashed_iff
  · intro respond' history' output stderr hreply hreply' run'
    have hvalue' : run'.value = (Reply.finished { output with stderr }).read category marker := by
      rw [← hreply']
      exact value_run_query target category marker respond' history'
    rw [hvalue, hvalue', hreply]
    -- neither the names nor their absence depends on standard error
    have hsame (names : List String) :
        { output with stderr }.Lists marker names ↔ output.Lists marker names := Iff.rfl
    constructor
    · intro names
      rw [Reply.read_finished_eq_listed_iff, hsame, Reply.read_finished_eq_listed_iff]
    · rw [Reply.read_finished_fails_iff, Reply.read_finished_fails_iff]

/-- The marker comes again behind the names and in the warnings of a second run, in which another
call was made before. Without that call the second run is refused. -/
theorem query_gives_or_reports_of_warnings :
    let target : Target := ⟨"inventory", "device"⟩
    let call : Call := ⟨target, "ssh -Q cipher"⟩
    let output : Completion := ⟨some 0, "device | CHANGED | rc=0 >>\naes128-ctr rc=0 >>\n", ""⟩
    let warned : Completion := { output with stderr := "[WARNING]: rc=0 >> hmac-md5\n" }
    let respond : List Call → Call → Answer := fun _ _ => ⟨.finished output, []⟩
    let respond' : List Call → Call → Answer := fun earlier _ =>
      ⟨if earlier = [] then .refused (.other "no route") else .finished warned, []⟩
    let run := (query target .cipher "rc=0 >>").run respond []
    let run' := (query target .cipher "rc=0 >>").run respond' [call]
    let refused := (query target .cipher "rc=0 >>").run respond' []
    run.requests = [call] ∧ output.Lists "rc=0 >>" ["aes128-ctr", "rc=0", ">>"] ∧
      run.value = .listed ["aes128-ctr", "rc=0", ">>"] ∧
      run'.value = .listed ["aes128-ctr", "rc=0", ">>"] ∧
      refused.value = .failed (.remoteQuery .cipher "Other error: no route") := by
  intro target call output warned respond respond' run run' refused
  obtain ⟨hrequests, -, hlisted, -, -, hstderr⟩ :=
    query_gives_or_reports target .cipher "rc=0 >>" respond []
  have hlists : output.Lists "rc=0 >>" ["aes128-ctr", "rc=0", ">>"] :=
    Completion.lists_iff.mpr (by decide)
  have hvalue : run.value = .listed ["aes128-ctr", "rc=0", ">>"] :=
    (hlisted _).mpr ⟨output, rfl, hlists⟩
  obtain ⟨hnames, -⟩ := hstderr respond' [call] output warned.stderr rfl rfl
  obtain ⟨-, -, -, hfailed, -⟩ := query_gives_or_reports target .cipher "rc=0 >>" respond' []
  have hreports : (Reply.refused (.other "no route")).Reports "rc=0 >>" "Other error: no route" :=
    .refused (.other "no route")
  exact ⟨hrequests, hlists, hvalue, (hnames _).mpr hvalue,
    (hfailed _).mpr ⟨_, hreports, rfl⟩⟩

end SshCompliance
