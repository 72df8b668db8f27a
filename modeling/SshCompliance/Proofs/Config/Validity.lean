import SshCompliance.Config.Check
import SshCompliance.Proofs.Device.Names
import SshCompliance.Proofs.Session.Runs
import SshCompliance.Proofs.Session.Success

/-!
# Valid configurations

A configuration is refused for a permitted name that no device can report. What sessions add to the
lists was reported, so it is never a reason for refusal: the first bad name of each list, if there
is one, stays what it was, step by step.
-/

namespace SshCompliance

/-- What a query lists are words. -/
theorem Reply.isWord_of_read_eq_listed {reply : Reply} {category : Category} {marker name : String}
    {names : List String} (hread : reply.read category marker = .listed names)
    (hname : name ∈ names) : Text.IsWord name.toList := by
  have hnames := read_eq_listed_iff.mp hread
  cases reply with
  | finished output =>
      rw [Reply.names?] at hnames
      split at hnames
      · exact isWord_of_mem_readNames? hnames hname
      · cases hnames
  | refused error => cases hnames
  | crashed reason => cases hnames

namespace Config

theorem isWord_iff {name : String} : isWord name = true ↔ Text.IsWord name.toList := by
  rw [Text.isWord_toList_iff, isWord, Bool.and_eq_true]
  simp

/-! ### The first bad name -/

theorem firstBadName?_eq_none_iff {lists : AllowLists} :
    firstBadName? lists = none ↔
      ∀ category, ∀ name ∈ (lists.get category).names, Reportable name := by
  have hlist (category : Category) :
      ((lists.get category).names.find? (fun name => !isWord name)).map (category, ·) = none ↔
        ∀ name ∈ (lists.get category).names, Reportable name := by
    simp [isWord_iff, reportable_iff_isWord]
  rw [firstBadName?, List.findSome?_eq_none_iff]
  constructor
  · intro hnone category
    exact (hlist category).mp (hnone category (Category.mem_all category))
  · intro hreportable category _
    exact (hlist category).mpr (hreportable category)

/-- Words that are inserted are not found. -/
theorem find?_insertAll {names : List String} (hwords : ∀ name ∈ names, isWord name = true)
    (list : AllowList) :
    (list.insertAll names).names.find? (fun name => !isWord name) =
      list.names.find? (fun name => !isWord name) := by
  have hnone : (list.novelties names).find? (fun name => !isWord name) = none := by
    rw [List.find?_eq_none]
    intro name hname
    simp [hwords name (AllowList.mem_novelties.mp hname).1]
  rw [AllowList.names_insertAll, List.find?_append, hnone, Option.or_none]

variable (session : Session) (respond : List Call → Call → Answer) (history : List Call)

theorem firstBadName?_next (step : Step) :
    firstBadName? (session.next respond history step).lists = firstBadName? session.lists := by
  have hlist (category : Category) :
      ((session.next respond history step).lists.get category).names.find?
          (fun name => !isWord name) =
        (session.lists.get category).names.find? (fun name => !isWord name) := by
    rw [session.lists_next]
    apply find?_insertAll
    -- all that a step inserts was listed by one of its queries
    intro name hname
    obtain ⟨report, hreport, -, hmem⟩ := Report.mem_namesFor.mp hname
    obtain ⟨-, hlisted⟩ := Session.mem_judged hreport
    exact isWord_iff.mpr (Reply.isWord_of_read_eq_listed hlisted hmem)
  simp only [firstBadName?, hlist]

theorem firstBadName?_after (steps : List Step) :
    firstBadName? (session.after respond history steps).lists = firstBadName? session.lists := by
  induction steps generalizing session history with
  | nil => rfl
  | cons step rest ih => rw [Session.after_cons, ih, firstBadName?_next]

/-! ### The check -/

theorem all_isBlank_eq_false_iff {text : List Char} :
    text.all Text.isBlank = false ↔ ∃ c ∈ text, Text.isBlank c = false := by
  simp [List.all_eq_false]

theorem check_eq_ok_iff {config : Config} :
    config.check = .ok () ↔
      (∃ c ∈ config.outputMarker.toList, Text.isBlank c = false) ∧
      (∃ c ∈ config.ansibleBin.toList, Text.isBlank c = false) ∧
      ∀ category, ∀ name ∈ (config.allowLists.get category).names, Reportable name := by
  rw [← all_isBlank_eq_false_iff, ← all_isBlank_eq_false_iff, ← firstBadName?_eq_none_iff, check]
  cases config.outputMarker.toList.all Text.isBlank with
  | true => simp
  | false =>
      cases config.ansibleBin.toList.all Text.isBlank with
      | true => simp
      | false => cases firstBadName? config.allowLists <;> simp

theorem check_congr {config : Config} {lists : AllowLists}
    (hname : firstBadName? lists = firstBadName? config.allowLists) :
    { config with allowLists := lists }.check = config.check := by
  unfold check
  rw [hname]

/-- **Valid configurations.** A configuration is valid if and only if the marker and the program
have a character that is not blank each, and all permitted names are ones that some output can give
behind some marker. These are the names that are not empty and have no blanks. The log level does
not count. A session does not change the verdict: with the lists as any run leaves them, a
configuration is valid if it was valid before, and otherwise refused for the same reason. -/
theorem review_ok_iff_reportable (config : Config) :
    (config.review.1 = .ok () ↔
      (∃ c ∈ config.outputMarker.toList, Text.isBlank c = false) ∧
      (∃ c ∈ config.ansibleBin.toList, Text.isBlank c = false) ∧
      ∀ category, ∀ name ∈ (config.allowLists.get category).names, Reportable name) ∧
    (∀ name, Reportable name ↔ name ≠ "" ∧ ∀ c ∈ name.toList, Text.isBlank c = false) ∧
    (∀ level, { config with logLevel := level }.review.1 = config.review.1) ∧
    ∀ target respond history steps,
      let lists := ((Session.start target config).after respond history steps).lists
      { config with allowLists := lists }.review.1 = config.review.1 := by
  refine ⟨check_eq_ok_iff, ?_, fun level => rfl, ?_⟩
  · intro name
    rw [reportable_iff_isWord, Text.isWord_toList_iff]
  · intro target respond history steps lists
    exact check_congr (firstBadName?_after (Session.start target config) respond history steps)

/-- A device reports two names that the default configuration lacks, and one of them twice. -/
theorem review_ok_iff_reportable_of_growth :
    let respond : List Call → Call → Answer := fun _ _ =>
      ⟨.finished ⟨some 0, "rc=0 >> umac-64 hmac-sha1 umac-64", ""⟩, []⟩
    let start := Session.start ⟨"inventory", "device"⟩ default
    let lists := (start.after respond [] [.category .mac, .all]).lists
    default.review.1 = .ok () ∧
      lists.macs.names = default.allowLists.macs.names ++ ["umac-64", "hmac-sha1"] ∧
      { default with allowLists := lists }.review.1 = .ok () := by
  intro respond start lists
  have hvalid : default.review.1 = .ok () := by decide
  obtain ⟨-, -, -, hsession⟩ := review_ok_iff_reportable default
  have hkept := hsession ⟨"inventory", "device"⟩ respond [] [.category .mac, .all]
  exact ⟨hvalid, by decide, hkept.trans hvalid⟩

end Config

end SshCompliance
