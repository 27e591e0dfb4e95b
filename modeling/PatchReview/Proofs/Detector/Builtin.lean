import PatchReview.Detector.Selection
import PatchReview.Score.Confidence

/-! The issues of the built-in detectors. Each is of one of nine rules, and everything about it that
scores ask for is settled by its rule, up to the language of its line. -/
namespace PatchReview

/-- A rule of a built-in detector with what all its issues have in common. -/
structure BuiltinRule where
  id : String
  tags : List String
  source : IssueSource := .builtin
  /-- The issues name the language of their line. -/
  namesLanguage : Bool := false
deriving DecidableEq

namespace BuiltinRule

def hardcodedSecrets : BuiltinRule :=
  { id := "hardcoded-secrets", tags := ["secrets", "security", "vulnerability"] }

def dangerousEval : BuiltinRule := { id := "dangerous-eval", tags := ["security", "vulnerability"] }

def xss : BuiltinRule :=
  { id := "xss-vulnerability", tags := ["security", "vulnerability", "xss"] }

def sqlInjection : BuiltinRule :=
  { id := "sql-injection", tags := ["injection", "security", "vulnerability"] }

def noCommentedCode : BuiltinRule :=
  { id := "no-commented-code", tags := ["maintainability"], source := .custom }

def noConsole : BuiltinRule :=
  { id := "no-console", tags := ["production-only", "style"], source := .custom }

def noPrint : BuiltinRule :=
  { id := "no-print", tags := ["production-only", "style"], source := .custom }

def noVar : BuiltinRule :=
  { id := "no-var", tags := ["modern-syntax", "style"], namesLanguage := true }

def preferTemplate : BuiltinRule :=
  { id := "prefer-template-literal", tags := ["modern-syntax", "style"], namesLanguage := true }

def all : List BuiltinRule :=
  [hardcodedSecrets, dangerousEval, xss, sqlInjection, noCommentedCode, noConsole, noPrint, noVar,
    preferTemplate]

/-- The rule is about output for finding errors. -/
def isDebugPrint (rule : BuiltinRule) : Bool := Confidence.debugPrintRules.contains rule.id

/-- An issue of the rule on a line. -/
structure Reports (rule : BuiltinRule) (line : LineContext) (issue : Issue) : Prop where
  ruleId : issue.ruleId = some rule.id
  tags : issue.tags = rule.tags
  evidence : issue.evidence = some .pattern
  source : issue.source = rule.source
  language : issue.language = if rule.namesLanguage then some line.language else none
  isScriptFamily : rule.namesLanguage = true → Language.isScriptFamily line.language = true
  /-- A file that accepts output has no findings about output. -/
  not_allows : rule.isDebugPrint = true → line.file.allows "console.log" = false

variable {line : LineContext} {issue : Issue} {rule : BuiltinRule}

/-- An issue of a rule that is neither for certain languages nor about output. -/
theorem reports_of_eq (hnames : rule.namesLanguage = false) (hprint : rule.isDebugPrint = false)
    (hid : issue.ruleId = some rule.id) (htags : issue.tags = rule.tags)
    (hevidence : issue.evidence = some .pattern) (hsource : issue.source = rule.source)
    (hlanguage : issue.language = none) : rule.Reports line issue := by
  refine ⟨hid, htags, hevidence, hsource, ?_, ?_, ?_⟩
  · rw [hlanguage, hnames, if_neg Bool.false_ne_true]
  · intro h
    exact absurd (hnames.symm.trans h) Bool.false_ne_true
  · intro h
    exact absurd (hprint.symm.trans h) Bool.false_ne_true

end BuiltinRule

variable {line : LineContext} {issue : Issue}

theorem Secrets.exists_rule (h : issue ∈ Secrets.detect line) :
    ∃ rule ∈ BuiltinRule.all, rule.Reports line issue := by
  obtain ⟨leak, -, rfl⟩ := List.mem_map.1 h
  refine ⟨BuiltinRule.hardcodedSecrets, by decide, ?_⟩
  exact BuiltinRule.reports_of_eq rfl (by decide) rfl rfl rfl rfl rfl

theorem Dangerous.exists_rule (h : issue ∈ Dangerous.detect line) :
    ∃ rule ∈ BuiltinRule.all, rule.Reports line issue := by
  obtain ⟨threat, hthreat, rfl⟩ := List.mem_map.1 h
  have hmem := (List.mem_filter.1 hthreat).1
  simp only [threats, List.mem_cons, List.not_mem_nil, or_false] at hmem
  rcases hmem with rfl | rfl | rfl
  · refine ⟨BuiltinRule.dangerousEval, by decide, ?_⟩
    exact BuiltinRule.reports_of_eq rfl (by decide) rfl rfl rfl rfl rfl
  · refine ⟨BuiltinRule.xss, by decide, ?_⟩
    exact BuiltinRule.reports_of_eq rfl (by decide) rfl rfl rfl rfl rfl
  · refine ⟨BuiltinRule.sqlInjection, by decide, ?_⟩
    exact BuiltinRule.reports_of_eq rfl (by decide) rfl rfl rfl rfl rfl

namespace Guidelines

/-- A rule finds what one of the checks that it reaches finds, in a file that does not make this
check pointless. -/
theorem exists_check_of_applyRule {reaches : Check → Bool} {rule : Rule}
    (h : applyRule reaches line rule = some issue) :
    ∃ c ∈ rule.checks, reaches c = true ∧
      (∀ name ∈ exception? c, line.file.allows name = false) ∧ find? c line = some issue := by
  rw [applyRule] at h
  split at h
  · cases h
  · next hpointless =>
    obtain ⟨c, hc, hfind⟩ := List.exists_of_findSome?_eq_some h
    refine ⟨c, (List.mem_filter.1 hc).1, (List.mem_filter.1 hc).2, ?_, hfind⟩
    intro name hname
    rw [Bool.eq_false_iff]
    intro hallows
    refine hpointless (List.any_eq_true.2 ⟨c, hc, ?_⟩)
    rw [Option.mem_def.1 hname]
    exact hallows

/-- The rules of the issues that a check finds on lines of a language. -/
inductive Finds : (check : Check) → (language : String) → (rule : BuiltinRule) → Prop
  | console {language : String} :
      Language.isScriptFamily language = true → Finds .noConsole language .noConsole
  | print : Finds .noConsole "python" .noPrint
  | commentedCode {language : String} : Finds .noCommentedCode language .noCommentedCode
  | var {language : String} :
      Language.isScriptFamily language = true → Finds .noVar language .noVar
  | concatenation {language : String} :
      Language.isScriptFamily language = true → Finds .preferTemplate language .preferTemplate

/-- All that a check tells of its issue, its wording apart. -/
structure Tells (rule : BuiltinRule) (issue : Issue) : Prop where
  ruleId : issue.ruleId = some rule.id
  tags : issue.tags = rule.tags
  evidence : issue.evidence = some .pattern
  language : issue.language = none

theorem exists_rule_of_find? {c : Check} (h : find? c line = some issue) :
    ∃ rule, Finds c line.language rule ∧ Tells rule issue := by
  cases c with
  | noConsole =>
    change findConsole? line = some issue at h
    rw [findConsole?] at h
    split at h
    · next hfound =>
      obtain rfl := Option.some.inj h
      exact ⟨_, .console (Bool.and_eq_true_iff.1 hfound).1, rfl, rfl, rfl, rfl⟩
    · split at h
      · next hfound =>
        obtain rfl := Option.some.inj h
        have hpython : line.language = "python" := eq_of_beq (Bool.and_eq_true_iff.1 hfound).1
        have hfinds : Finds .noConsole line.language .noPrint := hpython ▸ .print
        exact ⟨_, hfinds, rfl, rfl, rfl, rfl⟩
      · cases h
  | noCommentedCode =>
    change findCommentedCode? line = some issue at h
    obtain ⟨-, h⟩ := Option.ite_none_right_eq_some.1 h
    obtain rfl := Option.some.inj h
    exact ⟨_, .commentedCode, rfl, rfl, rfl, rfl⟩
  | noVar =>
    change findVar? line = some issue at h
    obtain ⟨hfound, h⟩ := Option.ite_none_right_eq_some.1 h
    obtain rfl := Option.some.inj h
    exact ⟨_, .var (Bool.and_eq_true_iff.1 hfound).1, rfl, rfl, rfl, rfl⟩
  | preferTemplate =>
    change findConcatenation? line = some issue at h
    obtain ⟨hfound, h⟩ := Option.ite_none_right_eq_some.1 h
    obtain rfl := Option.some.inj h
    exact ⟨_, .concatenation (Bool.and_eq_true_iff.1 hfound).1, rfl, rfl, rfl, rfl⟩

namespace Finds
variable {c : Check} {language : String} {rule : BuiltinRule}

theorem mem_all (h : Finds c language rule) : rule ∈ BuiltinRule.all := by
  cases h <;> decide

theorem of_category (h : Finds c language rule) (hc : isForCategories c = true) :
    rule ∈ [BuiltinRule.noConsole, .noPrint, .noCommentedCode] ∧ rule.source = .custom ∧
      rule.namesLanguage = false := by
  cases h with
  | console | print | commentedCode => decide
  | var | concatenation => cases hc

theorem of_language (h : Finds c language rule) (hc : isForCategories c = false) :
    rule ∈ [BuiltinRule.noVar, .preferTemplate] ∧ rule.source = .builtin ∧
      rule.namesLanguage = true ∧ rule.isDebugPrint = false ∧
      Language.isScriptFamily language = true := by
  cases h with
  | console | print | commentedCode => cases hc
  | var hscript | concatenation hscript => exact ⟨by decide, rfl, rfl, by decide, hscript⟩

/-- Only the check for output finds output, and it is pointless where output is accepted. -/
theorem eq_noConsole (h : Finds c language rule) (hprint : rule.isDebugPrint = true) :
    c = .noConsole := by
  cases h with
  | console | print => rfl
  | commentedCode | var | concatenation => exact absurd hprint (by decide)

end Finds

theorem exists_rule_of_category {c : Check} (hc : isForCategories c = true)
    (hexception : ∀ name ∈ exception? c, line.file.allows name = false)
    (h : find? c line = some issue) :
    ∃ rule ∈ BuiltinRule.all, rule.Reports line { issue with source := .custom } := by
  obtain ⟨rule, hfinds, htells⟩ := exists_rule_of_find? h
  obtain ⟨-, hsource, hnames⟩ := hfinds.of_category hc
  refine ⟨rule, hfinds.mem_all, htells.ruleId, htells.tags, htells.evidence, hsource.symm, ?_, ?_, ?_⟩
  · rw [hnames]
    exact htells.language
  · intro h
    exact absurd (hnames.symm.trans h) Bool.false_ne_true
  · intro hprint
    obtain rfl := hfinds.eq_noConsole hprint
    exact hexception "console.log" rfl

theorem exists_rule_of_language {c : Check} (hc : isForCategories c = false)
    (h : find? c line = some issue) : ∃ rule ∈ BuiltinRule.all,
      rule.Reports line { issue with source := .builtin, language := some line.language } := by
  obtain ⟨rule, hfinds, htells⟩ := exists_rule_of_find? h
  obtain ⟨-, hsource, hnames, hprint, hscript⟩ := hfinds.of_language hc
  refine ⟨rule, hfinds.mem_all, htells.ruleId, htells.tags, htells.evidence, hsource.symm, ?_,
    fun _ => hscript, ?_⟩
  · rw [hnames]
    rfl
  · intro h
    exact absurd (hprint.symm.trans h) Bool.false_ne_true

theorem exists_rule {rules : RuleSet} (h : issue ∈ Guidelines.detect rules line) :
    ∃ rule ∈ BuiltinRule.all, rule.Reports line issue := by
  rw [detect, List.mem_append] at h
  rcases h with h | h
  · obtain ⟨found, hfound, rfl⟩ := List.mem_map.1 h
    obtain ⟨_, -, hrule⟩ := List.mem_filterMap.1 hfound
    obtain ⟨c, -, hc, hexception, hfind⟩ := exists_check_of_applyRule hrule
    exact exists_rule_of_category hc hexception hfind
  · obtain ⟨found, hfound, rfl⟩ := List.mem_map.1 h
    obtain ⟨_, -, hrule⟩ := List.mem_filterMap.1 hfound
    obtain ⟨c, -, hc, -, hfind⟩ := exists_check_of_applyRule hrule
    exact exists_rule_of_language (by simpa using hc) hfind

end Guidelines

/-- Every issue of a built-in detector is one of a built-in rule. -/
theorem Detector.exists_rule {d : Detector} (hd : d.kind ≠ .custom) (h : issue ∈ d.detect line) :
    ∃ rule ∈ BuiltinRule.all, rule.Reports line issue := by
  cases d with
  | secrets => exact Secrets.exists_rule h
  | dangerous => exact Dangerous.exists_rule h
  | guidelines rules => exact Guidelines.exists_rule h
  | custom patterns => exact absurd rfl hd

/-! Lines with nothing on them -/

theorem Secrets.detect_empty (h : line.content = "") : Secrets.detect line = [] := by
  have hleaks : ∀ leak ∈ leaks, leak.holds [] = false := by decide
  rw [detect, h, String.toList_empty, List.filter_eq_nil_iff.2, List.map_nil]
  intro leak hleak
  rw [hleaks leak hleak]
  exact Bool.false_ne_true

theorem Dangerous.detect_empty (h : line.content = "") : Dangerous.detect line = [] := by
  have hthreats : ∀ t ∈ threats, t.holds [] = false := by decide
  rw [detect, h, String.toList_empty, List.filter_eq_nil_iff.2, List.map_nil]
  intro t ht
  rw [hthreats t ht, Bool.and_false]
  exact Bool.false_ne_true

/-- Every check looks for something that is written. -/
theorem Guidelines.find?_empty (h : line.content = "") (c : Check) : find? c line = none := by
  have htext : line.content.toList = [] := by rw [h, String.toList_empty]
  cases c with
  | noConsole =>
    change findConsole? line = none
    unfold findConsole?
    rw [htext]
    simp [Text.occurs, Text.somewhere, Text.atWordStart]
  | noCommentedCode =>
    change findCommentedCode? line = none
    unfold findCommentedCode?
    rw [htext]
    refine if_neg ?_
    split <;> decide
  | noVar =>
    refine if_neg ?_
    rw [htext, Bool.and_eq_true]
    rintro ⟨-, hfound⟩
    revert hfound
    decide
  | preferTemplate =>
    refine if_neg ?_
    rw [htext, Bool.and_eq_true]
    rintro ⟨-, hfound⟩
    revert hfound
    decide

theorem Guidelines.applyRule_empty (h : line.content = "") (reaches : Check → Bool) (rule : Rule) :
    applyRule reaches line rule = none := by
  rw [applyRule]
  split
  · rfl
  · refine List.findSome?_eq_none_iff.2 ?_
    exact fun c _ => find?_empty h c

theorem Guidelines.detect_empty (h : line.content = "") (rules : RuleSet) :
    Guidelines.detect rules line = [] := by
  have hnone : ∀ (reaches : Check → Bool) (rs : List Rule),
      rs.filterMap (applyRule reaches line) = [] := by
    intro reaches rs
    refine List.filterMap_eq_nil_iff.2 ?_
    exact fun rule _ => applyRule_empty h reaches rule
  rw [detect, hnone, hnone]
  rfl

/-- The built-in detectors find nothing where there is nothing. -/
theorem Detector.detect_empty {d : Detector} (hd : d.kind ≠ .custom) (h : line.content = "") :
    d.detect line = [] := by
  cases d with
  | secrets => exact Secrets.detect_empty h
  | dangerous => exact Dangerous.detect_empty h
  | guidelines rules => exact Guidelines.detect_empty h rules
  | custom patterns => exact absurd rfl hd

end PatchReview
