import PatchReview.Proofs.Detector.Builtin
import PatchReview.Proofs.Rule.Merged

/-! What one rule adds to the issues of a line. The issues of a set of rules are those of its rules
taken one by one. A rule of a category reaches the checks for output and for disabled code, and it is
silenced as a whole in files that accept output; a rule of a language reaches the checks for
declarations and for joined texts; a rule outside all buckets reaches none. -/
namespace PatchReview

namespace RuleSet

/-! Sets of one rule, in a category, in a bucket of languages and outside all buckets. -/

def ofCategoryRule (name : String) (rule : Rule) : RuleSet := { categories := [(name, [rule])] }

def ofLanguageRule (name : String) (rule : Rule) : RuleSet := { languages := [(name, [rule])] }

def ofGlobalRule (rule : Rule) : RuleSet := { global := [rule] }

end RuleSet

theorem FileType.allows_output_iff (type : FileType) :
    type.profile.allowed.contains "console.log" = true ↔ type ∈ [.test, .mock, .script] := by
  cases type <;> decide

namespace Guidelines
variable {line : LineContext} {rule : Rule} {issue : Issue} {reaches : Check → Bool}

/-! The checks of a rule -/

/-- One of the checks that the rule reaches is pointless in the file. -/
def Silenced (reaches : Check → Bool) (line : LineContext) (rule : Rule) : Prop :=
  ∃ c ∈ rule.checks, reaches c = true ∧ ∃ name ∈ exception? c, line.file.allows name = true

theorem any_exception_iff :
    ((rule.checks.filter reaches).any fun c => (exception? c).any line.file.allows) = true ↔
      Silenced reaches line rule := by
  simp only [Silenced, List.any_eq_true, List.mem_filter, Option.any_eq_true, Option.mem_def,
    and_assoc]

theorem applyRule_of_silenced (h : Silenced reaches line rule) :
    applyRule reaches line rule = none :=
  if_pos (any_exception_iff.2 h)

theorem applyRule_of_not_silenced (h : ¬ Silenced reaches line rule) :
    applyRule reaches line rule = (rule.checks.filter reaches).findSome? (find? · line) :=
  if_neg (mt any_exception_iff.1 h)

theorem isSome_applyRule_iff : (applyRule reaches line rule).isSome = true ↔
    ¬ Silenced reaches line rule ∧
      ∃ c ∈ rule.checks, reaches c = true ∧ (find? c line).isSome = true := by
  by_cases hsilenced : Silenced reaches line rule
  · rw [applyRule_of_silenced hsilenced]
    exact iff_of_false Bool.false_ne_true fun h => h.1 hsilenced
  · rw [applyRule_of_not_silenced hsilenced, List.findSome?_isSome_iff]
    simp only [List.mem_filter, and_assoc, hsilenced, not_false_iff, true_and]

theorem silenced_category_iff : Silenced isForCategories line rule ↔
    Check.noConsole ∈ rule.checks ∧ line.file.allows "console.log" = true := by
  constructor
  · rintro ⟨c, hc, hreaches, name, hname, hallows⟩
    cases c with
    | noConsole =>
      obtain rfl := Option.some.inj hname
      exact ⟨hc, hallows⟩
    | noCommentedCode | noVar | preferTemplate => cases hname
  · rintro ⟨hc, hallows⟩
    exact ⟨_, hc, rfl, _, rfl, hallows⟩

/-- No check of languages is ever pointless. -/
theorem not_silenced_language : ¬ Silenced (!isForCategories ·) line rule := by
  rintro ⟨c, -, hreaches, name, hname, -⟩
  cases c with
  | noConsole | noCommentedCode => cases hreaches
  | noVar | preferTemplate => cases hname

/-! What a rule adds -/

variable (line)

theorem categoryIssues_eq_flatMap (rules : List Rule) :
    categoryIssues line rules = rules.flatMap fun rule => categoryIssues line [rule] := by
  induction rules with
  | nil => rfl
  | cons rule rules ih =>
    rw [List.flatMap_cons, ← ih, ← List.singleton_append, categoryIssues_append]

theorem languageIssues_eq_flatMap (rules : List Rule) :
    languageIssues line rules = rules.flatMap fun rule => languageIssues line [rule] := by
  induction rules with
  | nil => rfl
  | cons rule rules ih =>
    rw [List.flatMap_cons, ← ih, ← List.singleton_append, languageIssues_append]

theorem detect_ofCategoryRule (name : String) (rule : Rule) :
    detect (.ofCategoryRule name rule) line = categoryIssues line [rule] := by
  rw [detect_eq]
  exact List.append_nil _

theorem detect_ofLanguageRule (name : String) (rule : Rule) :
    detect (.ofLanguageRule name rule) line =
      if RuleSet.namesLanguage (Text.lower line.language.toList) name = true then
        languageIssues line [rule]
      else [] := by
  have hrules : (RuleSet.ofLanguageRule name rule).rulesFor line.language =
      if RuleSet.namesLanguage (Text.lower line.language.toList) name = true then [rule]
      else [] := by
    change Buckets.rulesUnder _ [(name, [rule])] = _
    rw [Buckets.rulesUnder_cons]
    exact List.append_nil _
  rw [detect_eq, hrules]
  split <;> rfl

theorem detect_ofGlobalRule (rule : Rule) : detect (.ofGlobalRule rule) line = [] := rfl

/-- A set of rules reports what its rules in buckets report one by one. -/
theorem detect_eq_flatMap (rules : RuleSet) : detect rules line =
    (rules.categories.entries.flatMap fun e => detect (.ofCategoryRule e.1 e.2) line) ++
      rules.languages.entries.flatMap fun e => detect (.ofLanguageRule e.1 e.2) line := by
  have hlanguages : rules.rulesFor line.language = rules.languages.rulesUnder
      (RuleSet.namesLanguage (Text.lower line.language.toList)) := rfl
  rw [detect_eq, categoryIssues_eq_flatMap, languageIssues_eq_flatMap, hlanguages,
    Buckets.flatMap_rulesUnder, Buckets.flatMap_rulesUnder]
  simp only [detect_ofCategoryRule, detect_ofLanguageRule, if_true]

theorem categoryIssues_of_isPattern (h : rule.isPattern = true) :
    categoryIssues line [rule] =
      (applyRule isForCategories line rule).toList.map fun i => { i with source := .custom } := by
  rw [categoryIssues, List.filter_cons_of_pos h, List.filter_nil,
    List.filterMap_eq_flatMap_toList, List.flatMap_singleton]

theorem categoryIssues_of_not_isPattern (h : ¬ rule.isPattern = true) :
    categoryIssues line [rule] = [] := by
  rw [categoryIssues, List.filter_cons_of_neg h]
  rfl

theorem languageIssues_singleton (rule : Rule) : languageIssues line [rule] =
    (applyRule (!isForCategories ·) line rule).toList.map
      fun i => { i with source := .builtin, language := some line.language } := by
  rw [languageIssues, List.filterMap_eq_flatMap_toList, List.flatMap_singleton]

variable {line}

/-- What an issue of a rule of a category tells, and which check of the rule found it. -/
theorem exists_finds_of_category (h : issue ∈ categoryIssues line [rule]) :
    issue.source = .custom ∧ issue.language = none ∧
      ∃ c ∈ rule.checks, isForCategories c = true ∧
        ∃ found, Finds c line.language found ∧ issue.ruleId = some found.id := by
  by_cases hpattern : rule.isPattern = true
  · rw [categoryIssues_of_isPattern line hpattern] at h
    obtain ⟨raw, hraw, rfl⟩ := List.mem_map.1 h
    obtain ⟨c, hc, hreaches, -, hfind⟩ := exists_check_of_applyRule (Option.mem_toList.1 hraw)
    obtain ⟨found, hfinds, htells⟩ := exists_rule_of_find? hfind
    exact ⟨rfl, htells.language, c, hc, hreaches, found, hfinds, htells.ruleId⟩
  · rw [categoryIssues_of_not_isPattern line hpattern] at h
    cases h

theorem exists_finds_of_language (h : issue ∈ languageIssues line [rule]) :
    issue.source = .builtin ∧ issue.language = some line.language ∧
      ∃ c ∈ rule.checks, isForCategories c = false ∧
        ∃ found, Finds c line.language found ∧ issue.ruleId = some found.id := by
  rw [languageIssues_singleton] at h
  obtain ⟨raw, hraw, rfl⟩ := List.mem_map.1 h
  obtain ⟨c, hc, hreaches, -, hfind⟩ := exists_check_of_applyRule (Option.mem_toList.1 hraw)
  obtain ⟨found, hfinds, htells⟩ := exists_rule_of_find? hfind
  exact ⟨rfl, rfl, c, hc, by simpa using hreaches, found, hfinds, htells.ruleId⟩

/-! The shares -/

/-- What a rule of a category adds to a line: at most one issue, in the name of the team and for no
language. It adds one if it describes a pattern, one of its checks finds something, and the file does
not accept output that the rule speaks of. -/
structure CategoryShare (line : LineContext) (rule : Rule) (added : List Issue) : Prop where
  length_le_one : added.length ≤ 1
  ne_nil_iff : added ≠ [] ↔ rule.isPattern = true ∧
    ¬ (Check.noConsole ∈ rule.checks ∧ line.file.type ∈ [.test, .mock, .script]) ∧
    ∃ c ∈ rule.checks, c ∈ [Check.noConsole, .noCommentedCode] ∧ (find? c line).isSome = true
  ruleId : ∀ i ∈ added, i.ruleId ∈ [some "no-console", some "no-print", some "no-commented-code"]
  source : ∀ i ∈ added, i.source = .custom
  language : ∀ i ∈ added, i.language = none

/-- What a rule in a bucket of languages adds to a line: at most one issue, in the name of the program
and for the language of the line. It adds one if the bucket names the language and one of its checks
finds something. -/
structure LanguageShare (line : LineContext) (name : String) (rule : Rule) (added : List Issue) :
    Prop where
  length_le_one : added.length ≤ 1
  ne_nil_iff : added ≠ [] ↔ RuleSet.namesLanguage (Text.lower line.language.toList) name = true ∧
    ∃ c ∈ rule.checks, c ∈ [Check.noVar, .preferTemplate] ∧ (find? c line).isSome = true
  isScriptFamily : ∀ i ∈ added, line.language ∈ ["javascript", "typescript"]
  ruleId : ∀ i ∈ added, i.ruleId ∈ [some "no-var", some "prefer-template-literal"]
  source : ∀ i ∈ added, i.source = .builtin
  language : ∀ i ∈ added, i.language = some line.language

theorem isForCategories_iff {c : Check} :
    isForCategories c = true ↔ c ∈ [Check.noConsole, .noCommentedCode] := by
  cases c <;> decide

theorem isForCategories_eq_false_iff {c : Check} :
    isForCategories c = false ↔ c ∈ [Check.noVar, .preferTemplate] := by
  cases c <;> decide

theorem isScriptFamily_iff {language : String} :
    Language.isScriptFamily language = true ↔ language ∈ ["javascript", "typescript"] := by
  rw [Language.isScriptFamily, Bool.or_eq_true, beq_iff_eq, beq_iff_eq, List.mem_pair]

theorem id_of_category {rule : BuiltinRule}
    (h : rule ∈ [BuiltinRule.noConsole, .noPrint, .noCommentedCode]) :
    some rule.id ∈ [some "no-console", some "no-print", some "no-commented-code"] := by
  revert rule
  decide

theorem id_of_language {rule : BuiltinRule} (h : rule ∈ [BuiltinRule.noVar, .preferTemplate]) :
    some rule.id ∈ [some "no-var", some "prefer-template-literal"] := by
  revert rule
  decide

theorem length_map_toList_le {α β : Type} (found : Option α) (f : α → β) :
    (found.toList.map f).length ≤ 1 := by
  rw [List.length_map]
  exact Option.length_toList_le

theorem map_toList_ne_nil_iff {α β : Type} {found : Option α} {f : α → β} :
    found.toList.map f ≠ [] ↔ found.isSome = true := by
  cases found with
  | none => exact iff_of_false (fun h => h rfl) Bool.false_ne_true
  | some _ => exact iff_of_true (List.cons_ne_nil _ _) rfl

theorem categoryIssues_ne_nil_iff (hfile : line.file.profile = line.file.type.profile) :
    categoryIssues line [rule] ≠ [] ↔ rule.isPattern = true ∧
      ¬ (Check.noConsole ∈ rule.checks ∧ line.file.type ∈ [.test, .mock, .script]) ∧
      ∃ c ∈ rule.checks, c ∈ [Check.noConsole, .noCommentedCode] ∧ (find? c line).isSome = true := by
  have hsilenced : Silenced isForCategories line rule ↔
      Check.noConsole ∈ rule.checks ∧ line.file.type ∈ [.test, .mock, .script] := by
    rw [silenced_category_iff, FileIntent.allows, hfile, FileType.allows_output_iff]
  by_cases hpattern : rule.isPattern = true
  · rw [categoryIssues_of_isPattern line hpattern, map_toList_ne_nil_iff, isSome_applyRule_iff,
      hsilenced, and_iff_right hpattern]
    simp only [isForCategories_iff]
  · rw [categoryIssues_of_not_isPattern line hpattern]
    exact iff_of_false (fun h => h rfl) fun h => hpattern h.1

theorem languageIssues_ne_nil_iff : languageIssues line [rule] ≠ [] ↔
    ∃ c ∈ rule.checks, c ∈ [Check.noVar, .preferTemplate] ∧ (find? c line).isSome = true := by
  rw [languageIssues_singleton, map_toList_ne_nil_iff, isSome_applyRule_iff,
    and_iff_right not_silenced_language]
  simp only [Bool.not_eq_true', isForCategories_eq_false_iff]

theorem categoryShare_detect (hfile : line.file.profile = line.file.type.profile) (name : String)
    (rule : Rule) : CategoryShare line rule (detect (.ofCategoryRule name rule) line) := by
  rw [detect_ofCategoryRule]
  refine ⟨?_, categoryIssues_ne_nil_iff hfile, ?_, ?_, ?_⟩
  · by_cases hpattern : rule.isPattern = true
    · rw [categoryIssues_of_isPattern line hpattern]
      exact length_map_toList_le _ _
    · rw [categoryIssues_of_not_isPattern line hpattern]
      exact Nat.zero_le 1
  · intro i hi
    obtain ⟨-, -, c, -, hreaches, found, hfinds, hid⟩ := exists_finds_of_category hi
    rw [hid]
    exact id_of_category (hfinds.of_category hreaches).1
  · intro i hi
    exact (exists_finds_of_category hi).1
  · intro i hi
    exact (exists_finds_of_category hi).2.1

theorem languageShare_detect (name : String) (rule : Rule) :
    LanguageShare line name rule (detect (.ofLanguageRule name rule) line) := by
  rw [detect_ofLanguageRule]
  by_cases hname : RuleSet.namesLanguage (Text.lower line.language.toList) name = true
  · rw [if_pos hname]
    have hfound : ∀ i ∈ languageIssues line [rule],
        line.language ∈ ["javascript", "typescript"] ∧
          i.ruleId ∈ [some "no-var", some "prefer-template-literal"] := by
      intro i hi
      obtain ⟨-, -, c, -, hreaches, found, hfinds, hid⟩ := exists_finds_of_language hi
      obtain ⟨hrule, -, -, -, hscript⟩ := hfinds.of_language hreaches
      rw [hid, ← isScriptFamily_iff]
      exact ⟨hscript, id_of_language hrule⟩
    refine ⟨?_, ?_, fun i hi => (hfound i hi).1, fun i hi => (hfound i hi).2, ?_, ?_⟩
    · rw [languageIssues_singleton]
      exact length_map_toList_le _ _
    · rw [languageIssues_ne_nil_iff, and_iff_right hname]
    · intro i hi
      exact (exists_finds_of_language hi).1
    · intro i hi
      exact (exists_finds_of_language hi).2.1
  · rw [if_neg hname]
    refine ⟨Nat.zero_le 1, ?_, ?_, ?_, ?_, ?_⟩
    · exact iff_of_false (fun h => h rfl) fun h => hname h.1
    all_goals exact List.forall_mem_nil _

/-! All rules together -/

/-- Where a set of rules has an issue from. -/
theorem exists_share {rules : RuleSet} (h : issue ∈ detect rules line) :
    (∃ rule, issue ∈ categoryIssues line [rule]) ∨ ∃ rule, issue ∈ languageIssues line [rule] := by
  rw [detect_eq, List.mem_append, categoryIssues_eq_flatMap, languageIssues_eq_flatMap,
    List.mem_flatMap, List.mem_flatMap] at h
  rcases h with ⟨rule, -, h⟩ | ⟨rule, -, h⟩
  · exact .inl ⟨rule, h⟩
  · exact .inr ⟨rule, h⟩

/-- Files that accept output have no issues of output. -/
theorem ruleId_ne_of_accepted (hfile : line.file.profile = line.file.type.profile)
    (htype : line.file.type ∈ [.test, .mock, .script]) {rules : RuleSet}
    (h : issue ∈ detect rules line) :
    issue.ruleId ≠ some "no-console" ∧ issue.ruleId ≠ some "no-print" := by
  rcases exists_share h with ⟨rule, h⟩ | ⟨rule, h⟩
  · have hadded := (categoryIssues_ne_nil_iff hfile).1 (List.ne_nil_of_mem h)
    obtain ⟨-, -, c, hc, hreaches, found, hfinds, hid⟩ := exists_finds_of_category h
    -- The check that found it is not the one for output, which would silence the rule.
    have hother : found.isDebugPrint = false := by
      rw [Bool.eq_false_iff]
      intro hprint
      exact hadded.2.1 ⟨hfinds.eq_noConsole hprint ▸ hc, htype⟩
    have hothers : ∀ r ∈ [BuiltinRule.noConsole, .noPrint, .noCommentedCode],
        r.isDebugPrint = false → some r.id ≠ some "no-console" ∧ some r.id ≠ some "no-print" := by
      decide
    rw [hid]
    exact hothers found (hfinds.of_category hreaches).1 hother
  · obtain ⟨-, -, c, -, hreaches, found, hfinds, hid⟩ := exists_finds_of_language h
    have hothers : ∀ r ∈ [BuiltinRule.noVar, .preferTemplate],
        some r.id ≠ some "no-console" ∧ some r.id ≠ some "no-print" := by
      decide
    rw [hid]
    exact hothers found (hfinds.of_language hreaches).1

/-- In other languages the only issues are those of disabled code. -/
theorem ruleId_of_other_language
    (hlanguage : line.language ∉ ["javascript", "typescript", "python"]) {rules : RuleSet}
    (h : issue ∈ detect rules line) : issue.ruleId = some "no-commented-code" := by
  have hscript : ¬ Language.isScriptFamily line.language = true := by
    rw [isScriptFamily_iff]
    exact fun h => hlanguage (List.mem_append_left ["python"] h)
  rcases exists_share h with ⟨rule, h⟩ | ⟨rule, h⟩
  · obtain ⟨-, -, c, -, hreaches, found, hfinds, hid⟩ := exists_finds_of_category h
    rw [hid]
    generalize line.language = language at hlanguage hscript hfinds
    cases hfinds with
    | console h => exact absurd h hscript
    | print => exact absurd (by decide) hlanguage
    | commentedCode => rfl
    | var => cases hreaches
    | concatenation => cases hreaches
  · obtain ⟨-, -, c, -, hreaches, found, hfinds, -⟩ := exists_finds_of_language h
    exact absurd (hfinds.of_language hreaches).2.2.2.2 hscript

/-- The issues of a set of rules are those of its rules one by one: at most one of each rule of a
category, for output or disabled code, and at most one of each rule of a language, for old
declarations or joined texts, in its own language. Tests, mocks and scripts have no issues of output,
nor any of a rule of a category that speaks of output. -/
theorem detect_rule_by_rule (rules : RuleSet) (path text content : String) :
    let line : LineContext := ⟨content, Language.ofPath path, .classify path text⟩
    detect rules line =
      (rules.categories.entries.flatMap fun e => detect (.ofCategoryRule e.1 e.2) line) ++
        rules.languages.entries.flatMap (fun e => detect (.ofLanguageRule e.1 e.2) line) ∧
    (∀ name rule, CategoryShare line rule (detect (.ofCategoryRule name rule) line)) ∧
    (∀ name rule, LanguageShare line name rule (detect (.ofLanguageRule name rule) line)) ∧
    (∀ rule, detect (.ofGlobalRule rule) line = []) ∧
    (line.file.type ∈ [.test, .mock, .script] → ∀ i ∈ detect rules line,
      i.ruleId ≠ some "no-console" ∧ i.ruleId ≠ some "no-print") ∧
    (line.language ∉ ["javascript", "typescript", "python"] → ∀ i ∈ detect rules line,
      i.ruleId = some "no-commented-code") := by
  intro line
  have hfile : line.file.profile = line.file.type.profile := rfl
  exact ⟨detect_eq_flatMap line rules, categoryShare_detect hfile, languageShare_detect,
    detect_ofGlobalRule line, fun htype _ hi => ruleId_ne_of_accepted hfile htype hi,
    fun hlanguage _ hi => ruleId_of_other_language hlanguage hi⟩

/-- In a test, a rule that speaks of output finds nothing, not even disabled code; in a language
without checks of its own it finds the disabled code. -/
theorem detect_rule_by_rule_of_silenced :
    let rules : RuleSet :=
      { categories := [("Style",
          [{ text := "Avoid console.log and commented-out code", isPattern := true },
            { text := "Flag commented-out code", isPattern := true }])]
        languages := [("javascript/typescript", [{ text := "Avoid var" }])]
        global := [{ text := "Avoid console.log", isPattern := true }] }
    let line (path : String) : LineContext :=
      ⟨"// old = 1; console.log(x); var y", Language.ofPath path, .classify path ""⟩
    let test := line "src/app.test.js"
    let ruby := line "src/app.rb"
    (test.file.type ∈ [.test, .mock, .script] ∧
      (detect rules test).map (·.ruleId) = [some "no-commented-code", some "no-var"] ∧
      ∀ i ∈ detect rules test, i.ruleId ≠ some "no-console" ∧ i.ruleId ≠ some "no-print") ∧
    (ruby.language ∉ ["javascript", "typescript", "python"] ∧
      (detect rules ruby).map (·.ruleId) = [some "no-commented-code", some "no-commented-code"] ∧
      ∀ i ∈ detect rules ruby, i.ruleId = some "no-commented-code") := by
  intro rules line test ruby
  have htype : test.file.type ∈ [.test, .mock, .script] := by decide +kernel
  have hlanguage : ruby.language ∉ ["javascript", "typescript", "python"] := by decide +kernel
  obtain ⟨-, -, -, -, hquiet, -⟩ := detect_rule_by_rule rules "src/app.test.js" ""
    "// old = 1; console.log(x); var y"
  obtain ⟨-, -, -, -, -, hother⟩ := detect_rule_by_rule rules "src/app.rb" ""
    "// old = 1; console.log(x); var y"
  exact ⟨⟨htype, by decide +kernel, hquiet htype⟩, hlanguage, by decide +kernel, hother hlanguage⟩

end Guidelines
end PatchReview
