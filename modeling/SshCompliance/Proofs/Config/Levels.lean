import SshCompliance.CommandLine.Journal
import SshCompliance.Config.Check
import Mathlib.Data.List.Forall2

/-!
# Log levels: the check and the filter

Two parts of the program judge the text of a log level. The check of a configuration knows the five
level names in small letters and warns of every other text, for which it announces the default. The
filter knows a label in letters of any case, and it knows the label that switches everything off
too. So the check warns of all that the filter refuses, and of more: there are texts of which it
warns and which the filter puts in force all the same.
-/

namespace SshCompliance

/-- A text that gives a label in capitals letter by letter, each in either case. -/
def Spells (text label : String) : Prop :=
  List.Forall₂ (fun c letter => c = letter ∨ c = letter.toLower) text.toList label.toList

instance (text label : String) : Decidable (Spells text label) :=
  inferInstanceAs (Decidable (List.Forall₂ _ _ _))

/-- The label of a level in small letters. -/
def Level.smallName (level : Level) : String := String.ofList (Text.foldAscii level.label.toList)

theorem Level.mem_all (level : Level) : level ∈ all := by
  cases level <;> decide

namespace Filter

theorem mem_all (filter : Filter) : filter ∈ all := by
  cases filter with
  | off => exact List.mem_cons_self
  | upTo level => exact List.mem_cons_of_mem _ (List.mem_map_of_mem level.mem_all)

theorem isUpper_label (filter : Filter) :
    ∀ letter ∈ filter.label.toList, letter.isUpper = true := by
  have hall : all.all (fun filter => filter.label.toList.all Char.isUpper) = true := by decide
  exact List.all_eq_true.mp (List.all_eq_true.mp hall filter filter.mem_all)

theorem foldAscii_label_injective :
    Function.Injective fun filter : Filter => Text.foldAscii filter.label.toList := by
  have hall : ∀ filter ∈ all, ∀ other ∈ all,
      Text.foldAscii filter.label.toList = Text.foldAscii other.label.toList → filter = other := by
    decide
  exact fun filter other => hall filter filter.mem_all other other.mem_all

end Filter

theorem Text.toLower_eq_toLower_iff {letter : Char} (hletter : letter.isUpper = true) (c : Char) :
    letter.toLower = c.toLower ↔ c = letter ∨ c = letter.toLower := by
  have hcapital : letter.val ≥ 65 ∧ letter.val ≤ 90 := of_decide_eq_true hletter
  unfold Char.toLower
  grind [Char.ext_iff]

theorem foldAscii_eq_iff_spells {label : String}
    (hlabel : ∀ letter ∈ label.toList, letter.isUpper = true) (text : String) :
    Text.foldAscii label.toList = Text.foldAscii text.toList ↔ Spells text label := by
  unfold Spells Text.foldAscii
  generalize text.toList = chars
  generalize label.toList = letters at hlabel ⊢
  induction letters generalizing chars with
  | nil => cases chars <;> simp
  | cons letter rest ih =>
      obtain ⟨hletter, hrest⟩ := List.forall_mem_cons.mp hlabel
      cases chars with
      | nil => simp
      | cons c chars =>
          rw [List.map_cons, List.map_cons, List.cons.injEq, List.forall₂_cons,
            Text.toLower_eq_toLower_iff hletter, ih chars hrest]

namespace Filter

variable {filter : Filter} {name : String}

theorem spells_of_ofName? (hfound : ofName? name = some filter) : Spells name filter.label := by
  rw [ofName?] at hfound
  rw [← foldAscii_eq_iff_spells filter.isUpper_label]
  simpa using List.find?_some hfound

/-- **The filter of a text** is the one whose label it spells. -/
theorem ofName?_eq_some_iff : ofName? name = some filter ↔ Spells name filter.label := by
  refine ⟨spells_of_ofName?, fun hspells => ?_⟩
  have hsame := (foldAscii_eq_iff_spells filter.isUpper_label name).mpr hspells
  have hexists : (ofName? name).isSome := by
    rw [ofName?, List.find?_isSome]
    exact ⟨filter, filter.mem_all, decide_eq_true hsame⟩
  obtain ⟨found, hfound⟩ := Option.isSome_iff_exists.mp hexists
  have hother :=
    (foldAscii_eq_iff_spells found.isUpper_label name).mpr (spells_of_ofName? hfound)
  rw [hfound, foldAscii_label_injective (hother.trans hsame.symm)]

theorem ofName?_eq_none_iff :
    ofName? name = none ↔ ∀ filter : Filter, ¬Spells name filter.label := by
  simp only [Option.eq_none_iff_forall_ne_some, ne_eq, ofName?_eq_some_iff]

theorem set_of_spells (hspells : Spells name filter.label) (current : Filter) :
    current.set name = (filter, []) := by
  rw [set, ofName?_eq_some_iff.mpr hspells]

/-- What is said of a text that no filter has. -/
def refusal (current : Filter) (name : String) : Record :=
  ⟨.warn, .levels, "Invalid log level: " ++ name ++ ", keeping " ++ current.label⟩

theorem set_of_unknown (hunknown : ∀ filter : Filter, ¬Spells name filter.label)
    (current : Filter) :
    current.set name = (current, [current.refusal name]) := by
  rw [set, ofName?_eq_none_iff.mpr hunknown]
  rfl

/-- A text is refused, with a warning and no change, exactly if it spells no label. -/
theorem set_refuses_iff (current : Filter) :
    current.set name = (current, [current.refusal name]) ↔
      ∀ filter : Filter, ¬Spells name filter.label := by
  refine ⟨fun hrefused filter hspells => ?_, fun hunknown => set_of_unknown hunknown current⟩
  rw [set_of_spells hspells] at hrefused
  cases (Prod.mk.inj hrefused).2

end Filter

theorem Level.spells_smallName (level : Level) :
    Spells level.smallName (Filter.upTo level).label := by
  cases level <;> decide

namespace Config

/-- What the check notes about a level that it does not know. -/
def levelWarning (name : String) : Record :=
  ⟨.warn, .validator, "Invalid log level: " ++ name ++ ". Using default: info"⟩

theorem levelNames_eq : levelNames = Level.all.map Level.smallName := by decide

theorem mem_levelNames_iff {name : String} :
    name ∈ levelNames ↔ ∃ level : Level, name = level.smallName := by
  rw [levelNames_eq, List.mem_map]
  constructor
  · rintro ⟨level, -, rfl⟩
    exact ⟨level, rfl⟩
  · rintro ⟨level, rfl⟩
    exact ⟨level, level.mem_all, rfl⟩

/-- The check warns of every text but the five names in small letters. -/
theorem levelWarning_mem_review_iff (config : Config) :
    levelWarning config.logLevel ∈ config.review.2 ↔
      ∀ level : Level, config.logLevel ≠ level.smallName := by
  rw [← not_exists_not]
  simp only [not_not, ← mem_levelNames_iff, review, levelRemarks, List.contains_iff_mem]
  by_cases hmem : config.logLevel ∈ levelNames
  · simp [hmem]
  · simp [hmem, levelWarning]

/-- **Where check and filter differ.** What the filter refuses the check warns of, and what the
check does not warn of the filter puts in force. They differ exactly on the texts that spell a label
and are no level name in small letters: of these the check warns, and announces the default, while
they are put in force like every text that spells a label, unless the environment fixed the
level. -/
theorem review_differs_from_set_iff (config : Config) :
    let name := config.logLevel
    let warned := levelWarning name ∈ config.review.2
    let refused := fun current : Filter => current.set name = (current, [current.refusal name])
    (∀ current, refused current → warned) ∧
    (¬warned → ∃ level, ∀ current : Filter, current.set name = (.upTo level, [])) ∧
    (∀ current, ¬(warned ↔ refused current) ↔
      ∃ filter : Filter, Spells name filter.label ∧ ∀ level : Level, name ≠ level.smallName) ∧
    ∀ filter : Filter, Spells name filter.label →
      (∀ current : Filter, current.set name = (filter, [])) ∧
      ∀ journal : CommandLine.Journal, journal.fixed = false →
        (journal.setLevel name).filter = filter := by
  intro name warned refused
  have hwarned : warned ↔ ∀ level : Level, name ≠ level.smallName :=
    levelWarning_mem_review_iff config
  have hrefused (current : Filter) :
      refused current ↔ ∀ filter : Filter, ¬Spells name filter.label := current.set_refuses_iff
  -- a text that the check is silent about is a small name, and these spell the labels of levels
  have hsilence (hsilent : ¬warned) : ∃ level : Level, Spells name (Filter.upTo level).label := by
    obtain ⟨level, hname⟩ := not_forall_not.mp (mt hwarned.mpr hsilent)
    refine ⟨level, ?_⟩
    rw [hname]
    exact level.spells_smallName
  have hrefusal (current : Filter) (hrefuses : refused current) : warned := by
    by_contra hsilent
    obtain ⟨level, hspells⟩ := hsilence hsilent
    exact (hrefused current).mp hrefuses (.upTo level) hspells
  refine ⟨hrefusal, fun hsilent => ?_, fun current => ?_, fun filter hspells => ⟨?_, ?_⟩⟩
  · obtain ⟨level, hspells⟩ := hsilence hsilent
    exact ⟨level, Filter.set_of_spells hspells⟩
  · have hsame : (warned ↔ refused current) ↔ (warned → refused current) :=
      ⟨Iff.mp, fun himplies => ⟨himplies, hrefusal current⟩⟩
    calc
      ¬(warned ↔ refused current)
          ↔ warned ∧ ¬refused current := by
        rw [hsame, Classical.not_imp]
      _ ↔ (∀ level : Level, name ≠ level.smallName) ∧
            ∃ filter : Filter, Spells name filter.label := by
        rw [hwarned, hrefused, not_forall_not]
      _ ↔ ∃ filter : Filter, Spells name filter.label ∧
          ∀ level : Level, name ≠ level.smallName := by
        rw [and_comm, exists_and_right]
  · exact Filter.set_of_spells hspells
  · intro journal hfree
    rw [CommandLine.Journal.setLevel, hfree, Filter.set_of_spells hspells]
    rfl

/-- A text that spells no label, a name in small letters, a label in mixed case, and the label that
switches everything off. -/
theorem review_differs_from_set_iff_of_spellings :
    let named := fun name : String => { default with logLevel := name }
    let current := Filter.upTo .info
    let refused := fun name : String => current.set name = (current, [current.refusal name])
    (refused "loud" ∧ levelWarning "loud" ∈ (named "loud").review.2) ∧
      (levelWarning "warn" ∉ (named "warn").review.2 ∧
        ∃ level, current.set "warn" = (.upTo level, [])) ∧
      (Spells "wArN" "WARN" ∧ current.set "wArN" = (.upTo .warn, []) ∧
        ¬(levelWarning "wArN" ∈ (named "wArN").review.2 ↔ refused "wArN")) ∧
      (CommandLine.Journal.setLevel ⟨false, current, "", []⟩ "off").filter = .off := by
  intro named current refused
  obtain ⟨hrefusal, -, -, -⟩ := review_differs_from_set_iff (named "loud")
  obtain ⟨-, hsilent, -, -⟩ := review_differs_from_set_iff (named "warn")
  obtain ⟨-, -, hdiffer, hforce⟩ := review_differs_from_set_iff (named "wArN")
  obtain ⟨-, -, -, hforceOff⟩ := review_differs_from_set_iff (named "off")
  have hloud : refused "loud" := by decide
  have hwarn : levelWarning "warn" ∉ (named "warn").review.2 := by decide
  have hmixed : Spells "wArN" (Filter.upTo .warn).label := by decide
  have hname : ∀ level : Level, "wArN" ≠ level.smallName := by
    intro level
    cases level <;> decide
  have hoff : Spells "off" Filter.off.label := by decide
  obtain ⟨level, hlevel⟩ := hsilent hwarn
  exact ⟨⟨hloud, hrefusal current hloud⟩, ⟨hwarn, level, hlevel current⟩,
    ⟨hmixed, (hforce _ hmixed).1 current, (hdiffer current).mpr ⟨_, hmixed, hname⟩⟩,
    (hforceOff _ hoff).2 _ rfl⟩

/-- The check warns of a level and announces the default, while the filter puts the level in
force. -/
theorem review_warns_of_level_in_force :
    let config := { default with logLevel := "DEBUG" }
    let current := Filter.upTo .info
    levelWarning "DEBUG" ∈ config.review.2 ∧ current.set "DEBUG" = (.upTo .debug, []) ∧
      ¬(levelWarning "DEBUG" ∈ config.review.2 ↔
        current.set "DEBUG" = (current, [current.refusal "DEBUG"])) := by
  decide

end Config

end SshCompliance
