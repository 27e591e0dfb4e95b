import PatchReview.Finding.Basic
import PatchReview.Proofs.Detector.Builtin
import PatchReview.Proofs.Score.Feedback

/-! The range of confidence. The points for earlier findings are between 0 and 20, and for issues of
built-in rules they are the only ones that vary: a file that would lower the confidence in an issue
because of its role has no such issue in the first place. -/
namespace PatchReview

/-- The kind and the severity of findings and the least and the greatest confidence in them. -/
structure Band where
  category : Category
  severity : Severity
  low : Int
  high : Int
deriving DecidableEq

/-- The band of a built-in rule. It may depend on whether the path speaks of debugging. -/
def Band.ofRule? (isDebug : Bool) : String → Option Band
  | "hardcoded-secrets" | "dangerous-eval" | "xss-vulnerability" | "sql-injection" =>
    some ⟨.bug, .critical, 68, 88⟩
  | "no-commented-code" => some ⟨.refactor, .medium, 60, 80⟩
  | "no-console" | "no-print" =>
    some (if isDebug then ⟨.suggestion, .low, 45, 65⟩ else ⟨.suggestion, .low, 60, 80⟩)
  | "no-var" | "prefer-template-literal" => some ⟨.suggestion, .low, 65, 85⟩
  | _ => none

theorem Band.le_low {isDebug : Bool} {id : String} {band : Band}
    (h : Band.ofRule? isDebug id = some band) : 30 ≤ band.low := by
  unfold Band.ofRule? at h
  split at h
  case h_10 => cases h
  all_goals
    obtain rfl := Option.some.inj h
    cases isDebug <;> decide

/-- No reason to trust an issue less because of its place applies, save for a path that speaks of
debugging. -/
structure Issue.IsPlain (issue : Issue) (context : ScoreContext) : Prop where
  production : ¬ (context.isTest = true ∧ "production-only" ∈ issue.tags)
  debugPrint : ¬ (context.isTest = true ∧ ∃ id ∈ issue.ruleId, id ∈ Confidence.debugPrintRules)
  magicNumbers : ¬ (context.isConfig = true ∧ issue.ruleId = some "magic-numbers")
  rawSql : ¬ (context.isMigration = true ∧ "raw-sql" ∈ issue.tags)
  language : ∀ language ∈ issue.language, language = context.language

namespace Confidence
variable {s : AccuracyStore}

/-- The share of right findings is at most one. -/
theorem historyPoints_le (h : s.HasCounts) (ruleId : Option String) :
    historyPoints s ruleId ≤ 20 := by
  rw [historyPoints]
  cases ht : tally? s ruleId with
  | none => exact fixedPoints_le _
  | some t =>
    obtain ⟨hcount, htotal⟩ := isCount_of_tally? h ht
    have hshare : t.correct * 1 ≤ 1 * t.total := by
      have := hcount.incorrect
      rw [Tally.total]
      omega
    -- A tally with one right finding and no wrong one is the best there is.
    have hbest : floorQuotient (20 * t.correct) t.total.toNat ≤ floorQuotient (20 * 1) 1 :=
      floorQuotient_le_of_share hcount htotal (show 0 < Tally.total ⟨1, 0⟩ by decide) hshare
    have hall : floorQuotient (20 * 1) 1 = 20 := by decide +kernel
    exact hbest.trans_eq hall

theorem le_evidencePoints (issue : Issue) : 10 ≤ evidencePoints issue := by
  rw [evidencePoints]
  split
  · decide
  · split <;> decide

theorem evidencePoints_le (issue : Issue) : evidencePoints issue ≤ 30 := by
  rw [evidencePoints]
  split
  · decide
  · split <;> decide

theorem contextPoints_mem_range (issue : Issue) (context : ScoreContext) :
    0 ≤ contextPoints issue context ∧ contextPoints issue context ≤ 30 := by
  unfold contextPoints
  repeat' split
  all_goals decide

theorem rulePoints_mem_range (issue : Issue) : 0 ≤ rulePoints issue ∧ rulePoints issue ≤ 20 := by
  unfold rulePoints
  repeat' split
  all_goals decide

/-- No sum of points is out of range. -/
theorem score_eq (h : s.HasCounts) (issue : Issue) (context : ScoreContext) :
    score s issue context = evidencePoints issue + contextPoints issue context +
      rulePoints issue + historyPoints s issue.ruleId := by
  have hevidence := le_evidencePoints issue
  have hevidence' := evidencePoints_le issue
  obtain ⟨hcontext, hcontext'⟩ := contextPoints_mem_range issue context
  obtain ⟨hrule, hrule'⟩ := rulePoints_mem_range issue
  have hhistory := historyPoints_nonneg h issue.ruleId
  have hhistory' := historyPoints_le h issue.ruleId
  rw [score]
  omega

/-- Issues of custom patterns are never trusted less. -/
theorem le_score_of_custom (h : s.HasCounts) {issue : Issue}
    (hsource : issue.source = .custom)
    (context : ScoreContext) : 30 ≤ score s issue context := by
  have hrule : rulePoints issue = 20 := by rw [rulePoints, if_pos hsource]
  have hevidence := le_evidencePoints issue
  have hcontext := (contextPoints_mem_range issue context).1
  have hhistory := historyPoints_nonneg h issue.ruleId
  rw [score_eq h]
  omega

theorem contextPoints_of_isPlain {issue : Issue} {context : ScoreContext}
    (h : issue.IsPlain context) :
    contextPoints issue context =
      if Text.occurs "debug".toList context.path.toList &&
        issue.ruleId.any debugPrintRules.contains then 5
      else if issue.language.isSome then 30 else 20 := by
  have hproduction : (context.isTest && issue.tags.contains "production-only") = false := by
    simpa using h.production
  have hprint : ((context.isTest || Text.occurs "debug".toList context.path.toList) &&
      issue.ruleId.any debugPrintRules.contains) =
      (Text.occurs "debug".toList context.path.toList &&
        issue.ruleId.any debugPrintRules.contains) := by
    cases htest : context.isTest with
    | false => rw [Bool.false_or]
    | true =>
      have hnot : issue.ruleId.any debugPrintRules.contains = false := by
        rw [Bool.eq_false_iff]
        intro hany
        obtain ⟨id, hid, hlisted⟩ := (Option.any_eq_true _ _).1 hany
        exact h.debugPrint ⟨htest, id, hid, List.contains_iff_mem.1 hlisted⟩
      rw [hnot, Bool.and_false, Bool.and_false]
  have hmagic : (context.isConfig && issue.ruleId == some "magic-numbers") = false := by
    simpa using h.magicNumbers
  have hsql : (context.isMigration && issue.tags.contains "raw-sql") = false := by
    simpa using h.rawSql
  unfold contextPoints
  rw [hproduction, hprint, hmagic, hsql]
  simp only [Bool.false_eq_true, if_false]
  congr 1
  cases hlanguage : issue.language with
  | none => rfl
  | some language => simp [h.language language hlanguage]

end Confidence

namespace BuiltinRule
variable {s : AccuracyStore} {rule : BuiltinRule} {issue : Issue}

/-- The points for all but the earlier findings. -/
def points (isDebug : Bool) (rule : BuiltinRule) : Int :=
  (if rule.tags.contains "security" then 30 else 20) +
    (if isDebug && rule.isDebugPrint then 5 else if rule.namesLanguage then 30 else 20) +
    (if rule.source = .custom then 20 else if rule.namesLanguage then 15
      else if rule.tags.contains "security" then 18 else 10)

theorem ofRule?_id (isDebug : Bool) (hrule : rule ∈ all) : Band.ofRule? isDebug rule.id =
    some ⟨(Category.classify rule.tags (some rule.id)).1,
      (Category.classify rule.tags (some rule.id)).2,
      rule.points isDebug, rule.points isDebug + 20⟩ := by
  revert rule
  cases isDebug <;> decide

theorem isDebugPrint_of_production (hrule : rule ∈ all) (h : "production-only" ∈ rule.tags) :
    rule.isDebugPrint = true := by
  revert rule
  decide

theorem not_rawSql (hrule : rule ∈ all) : "raw-sql" ∉ rule.tags := by
  revert rule
  decide

theorem id_ne_magicNumbers (hrule : rule ∈ all) : rule.id ≠ "magic-numbers" := by
  revert rule
  decide

theorem isTest_eq_false {path text : String}
    (h : (FileIntent.classify path text).allows "console.log" = false) (language : String) :
    (ScoreContext.ofFile (.classify path text) language).isTest = false := by
  refine decide_eq_false ?_
  intro htype
  change FileIntent.typeOf path = .test at htype
  change (FileIntent.typeOf path).profile.allowed.contains "console.log" = false at h
  rw [htype] at h
  revert h
  decide

variable {content language path text : String}

theorem isPlain_of_reports (hrule : rule ∈ all)
    (h : rule.Reports ⟨content, language, .classify path text⟩ issue) :
    issue.IsPlain (.ofFile (.classify path text) language) := by
  have htest : rule.isDebugPrint = true →
      (ScoreContext.ofFile (.classify path text) language).isTest = false :=
    fun hprint => isTest_eq_false (h.not_allows hprint) language
  constructor
  · rintro ⟨hyes, htag⟩
    rw [h.tags] at htag
    exact absurd (hyes.symm.trans (htest (isDebugPrint_of_production hrule htag))) (by decide)
  · rintro ⟨hyes, id, hid, hprint⟩
    rw [h.ruleId] at hid
    obtain rfl := Option.some.inj hid
    exact absurd (hyes.symm.trans (htest (List.contains_iff_mem.2 hprint))) (by decide)
  · rintro ⟨-, hid⟩
    rw [h.ruleId] at hid
    exact id_ne_magicNumbers hrule (Option.some.inj hid)
  · rintro ⟨-, htag⟩
    rw [h.tags] at htag
    exact not_rawSql hrule htag
  · intro named hnamed
    rw [h.language] at hnamed
    split at hnamed
    · exact (Option.some.inj hnamed).symm
    · cases hnamed

theorem evidencePoints_of_reports {line : LineContext} (h : rule.Reports line issue) :
    Confidence.evidencePoints issue = if rule.tags.contains "security" then 30 else 20 := by
  rw [Confidence.evidencePoints, h.tags, h.evidence]

theorem contextPoints_of_reports (hrule : rule ∈ all)
    (h : rule.Reports ⟨content, language, .classify path text⟩ issue) :
    Confidence.contextPoints issue (.ofFile (.classify path text) language) =
      if Text.occurs "debug".toList path.toList && rule.isDebugPrint then 5
      else if rule.namesLanguage then 30 else 20 := by
  rw [Confidence.contextPoints_of_isPlain (isPlain_of_reports hrule h), h.ruleId, h.language]
  cases rule.namesLanguage <;> rfl

theorem rulePoints_of_reports {line : LineContext} (h : rule.Reports line issue) :
    Confidence.rulePoints issue = if rule.source = .custom then 20
      else if rule.namesLanguage then 15 else if rule.tags.contains "security" then 18 else 10 := by
  have hnamed : issue.language.any (· != "") = rule.namesLanguage := by
    rw [h.language]
    cases hnames : rule.namesLanguage with
    | false => rfl
    | true =>
      -- A language of checks for scripts has a name.
      have hscript := h.isScriptFamily hnames
      rw [if_pos rfl, Option.any_some, bne_iff_ne]
      intro hempty
      rw [hempty] at hscript
      revert hscript
      decide
  rw [Confidence.rulePoints, h.source, hnamed, h.tags]

/-- Only the points for earlier findings of the rule vary. -/
theorem score_of_reports (hs : s.HasCounts) (hrule : rule ∈ all)
    (h : rule.Reports ⟨content, language, .classify path text⟩ issue) :
    Confidence.score s issue (.ofFile (.classify path text) language) =
      rule.points (Text.occurs "debug".toList path.toList) +
        Confidence.historyPoints s (some rule.id) := by
  rw [Confidence.score_eq hs, evidencePoints_of_reports h, contextPoints_of_reports hrule h,
    rulePoints_of_reports h, h.ruleId]
  rfl

end BuiltinRule
end PatchReview
