import PatchReview.Proofs.Detector.Profile
import PatchReview.Proofs.Intent.Spelling
import PatchReview.Proofs.Review.Feedback
import PatchReview.Proofs.Review.Shares
import PatchReview.Proofs.Score.Bands
import PatchReview.Rule.Document
import PatchReview.Review.Run

/-! The review of a file under the plain spelling of its path. The type of the file, what it accepts,
its language and what is found in it are the same, whatever the spelling. Two words are looked for in
the path as it is spelled: the one that tells an experiment, and the one that tells code for
debugging, in which output is less suspicious. A path that speaks of one of them in capitals is
therefore not taken for what its plain spelling says. -/
namespace PatchReview

/-- How far the issue is to be trusted depends on whether its file is one for debugging. -/
structure Issue.DependsOnDebug (issue : Issue) (context : ScoreContext) : Prop where
  isTest : context.isTest = false
  isPrint : issue.ruleId.any Confidence.debugPrintRules.contains = true
  rawSql : ¬ (context.isMigration = true ∧ "raw-sql" ∈ issue.tags)

namespace Confidence

variable {issue : Issue} {context : ScoreContext} {path : String}

theorem not_magicNumbers (h : issue.ruleId.any debugPrintRules.contains = true) :
    issue.ruleId ≠ some "magic-numbers" := by
  intro hid
  rw [hid] at h
  revert h
  decide

/-- Output is less suspicious where the path speaks of debugging. -/
theorem contextPoints_of_debug (h : issue.DependsOnDebug context) :
    contextPoints issue context = 5 ↔ Text.occurs "debug".toList context.path.toList = true := by
  have hmagic : (context.isConfig && issue.ruleId == some "magic-numbers") = false := by
    rw [Bool.and_eq_false_iff, beq_eq_false_iff_ne]
    exact .inr (not_magicNumbers h.isPrint)
  have hsql : (context.isMigration && issue.tags.contains "raw-sql") = false := by
    simpa using h.rawSql
  rw [contextPoints, h.isTest, h.isPrint, hmagic, hsql]
  cases Text.occurs "debug".toList context.path.toList with
  | true => exact iff_of_true rfl rfl
  | false =>
    simp only [Bool.false_and, Bool.or_false, Bool.false_eq_true, if_false, iff_false]
    cases issue.language with
    | none => exact (by decide : (20 : Int) ≠ 5)
    | some language =>
      dsimp only
      split <;> decide

/-- Everywhere else the path is not asked for. -/
theorem contextPoints_of_not_debug (h : ¬ issue.DependsOnDebug context) (path : String) :
    contextPoints issue { context with path } = contextPoints issue context := by
  unfold contextPoints
  dsimp only
  cases htest : context.isTest with
  | true => rfl
  | false =>
    cases hprint : issue.ruleId.any debugPrintRules.contains with
    | false => simp only [Bool.and_false]
    | true =>
      -- What is left is raw SQL in a migration, which is trusted as little as output.
      have hsql : context.isMigration = true ∧ "raw-sql" ∈ issue.tags := by
        by_contra hnot
        exact h ⟨htest, hprint, hnot⟩
      have hmagic : (issue.ruleId == some "magic-numbers") = false :=
        beq_eq_false_iff_ne.2 (not_magicNumbers hprint)
      have htag : issue.tags.contains "raw-sql" = true := List.contains_iff_mem.2 hsql.2
      simp only [hmagic, hsql.1, htag, Bool.and_false, Bool.and_true, Bool.false_and,
        Bool.false_or, Bool.false_eq_true, if_false, if_true, ite_self]

theorem contextPoints_congr
    (h : Text.occurs "debug".toList path.toList = Text.occurs "debug".toList context.path.toList) :
    contextPoints issue { context with path } = contextPoints issue context := by
  unfold contextPoints
  rw [h]

/-- The plain spelling changes the confidence in output only, and only if it alone speaks of
debugging. -/
theorem score_normalized_iff {s : AccuracyStore} {verdicts : List Verdict} (hs : s.Tallies verdicts)
    (issue : Issue) (context : ScoreContext) :
    score s issue { context with path := FileIntent.normalized context.path } =
        score s issue context ↔
      ¬ (FileIntent.Hides context.path "debug" ∧ issue.DependsOnDebug context) := by
  have hoccurs := FileIntent.occurs_normalized_eq_iff context.path
    (FileIntent.isSmall_of_lower "debug" (Text.forall_mem_of_all (by decide +kernel)))
  have hpoints : score s issue { context with path := FileIntent.normalized context.path } =
        score s issue context ↔
      contextPoints issue { context with path := FileIntent.normalized context.path } =
        contextPoints issue context := by
    rw [score_eq hs.hasCounts, score_eq hs.hasCounts]
    omega
  rw [hpoints]
  by_cases hdebug : issue.DependsOnDebug context
  · have hspelled := contextPoints_of_debug hdebug
    have hplain : contextPoints issue
          { context with path := FileIntent.normalized context.path } = 5 ↔
        Text.occurs "debug".toList (FileIntent.normalized context.path).toList = true :=
      contextPoints_of_debug ⟨hdebug.isTest, hdebug.isPrint, hdebug.rawSql⟩
    rw [and_iff_left hdebug, ← hoccurs]
    constructor
    · intro hsame
      rw [Bool.eq_iff_iff, ← hplain, hsame, hspelled]
    · exact contextPoints_congr
  · exact iff_of_true (contextPoints_of_not_debug hdebug _) fun h => hdebug h.2

end Confidence

/-- The finding, wherever it was made. -/
def Finding.withoutPath (x : Finding) : Finding := { x with path := "" }

/-- The file under the plain spelling of its path. -/
def ReviewFile.normalized (f : ReviewFile) : ReviewFile :=
  { f with path := FileIntent.normalized f.path }

/-- The place of what is found in a file. -/
def ReviewFile.context (f : ReviewFile) : ScoreContext :=
  .ofFile (.classify f.path f.content) (Language.ofPath f.path)

theorem ScoreContext.ofFile_congr {file file' : FileIntent} (h : file'.type = file.type)
    (language : String) :
    ofFile file' language = { ofFile file language with path := file'.path } := by
  cases file
  cases file'
  cases h
  rfl

namespace ReviewFile
variable (f : ReviewFile)

theorem path_normalized : f.normalized.path = FileIntent.normalized f.path := by
  rw [normalized]

theorem content_normalized : f.normalized.content = f.content := by
  rw [normalized]

theorem linesUnderReview_normalized : f.normalized.linesUnderReview = f.linesUnderReview := by
  rw [normalized, linesUnderReview, linesUnderReview]

theorem language_normalized : Language.ofPath f.normalized.path = Language.ofPath f.path := by
  rw [path_normalized, Language.ofPath_normalized]

theorem type_normalized : (FileIntent.classify f.normalized.path f.normalized.content).type =
    (FileIntent.classify f.path f.content).type := by
  rw [FileIntent.type_classify, FileIntent.type_classify, path_normalized,
    FileIntent.typeOf_normalized]

theorem profile_normalized :
    (FileIntent.classify f.normalized.path f.normalized.content).profile =
      (FileIntent.classify f.path f.content).profile := by
  rw [FileIntent.profile_classify, FileIntent.profile_classify, path_normalized,
    FileIntent.typeOf_normalized]

theorem path_context : f.context.path = f.path := by
  rw [context, ScoreContext.ofFile, FileIntent.classify]

theorem context_normalized :
    f.normalized.context = { f.context with path := FileIntent.normalized f.context.path } := by
  have hpath : (FileIntent.classify f.normalized.path f.normalized.content).path =
      FileIntent.normalized f.path := by
    rw [FileIntent.classify, path_normalized]
  rw [path_context, context, ScoreContext.ofFile_congr f.type_normalized, language_normalized, hpath,
    context]

end ReviewFile

namespace Reviewer

/-- What the detectors report on a line of a file. -/
def issuesOn (r : Reviewer) (f : ReviewFile) (line : ChangedLine) : List Issue :=
  r.issues ⟨line.content, Language.ofPath f.path, .classify f.path f.content⟩

theorem issuesOn_normalized (r : Reviewer) (f : ReviewFile) :
    r.issuesOn f.normalized = r.issuesOn f := by
  funext line
  rw [issuesOn, issuesOn, issues, issues, f.language_normalized]
  exact congrArg r.detectors.flatMap (funext fun d => d.detect_congr f.profile_normalized)

/-- The issues of all lines under review, each with its line. -/
def reported (r : Reviewer) (f : ReviewFile) : List (ChangedLine × Issue) :=
  f.linesUnderReview.flatMap fun line => (r.issuesOn f line).map (line, ·)

theorem findings_reviewFile_eq_map (r : Reviewer) (history : AccuracyStore) (f : ReviewFile) :
    (r.reviewFile history f).findings =
      (r.reported f).map fun x => finding history f.context f.path x.1.number x.2 := by
  simp only [reported, List.map_flatMap, List.map_map]
  rfl

theorem reported_normalized (r : Reviewer) (f : ReviewFile) :
    r.reported f.normalized = r.reported f := by
  rw [reported, issuesOn_normalized, f.linesUnderReview_normalized, reported]

theorem language_reviewFile (r : Reviewer) (history : AccuracyStore) (f : ReviewFile) :
    (r.reviewFile history f).language = Language.ofPath f.path := by
  rw [reviewFile]

theorem intent_reviewFile (r : Reviewer) (history : AccuracyStore) (f : ReviewFile) :
    (r.reviewFile history f).intent = .classify f.path f.content := by
  rw [reviewFile]

/-- Findings that report one issue differ in their place and in the confidence at most. -/
theorem finding_withoutPath_eq_iff (history : AccuracyStore) (context context' : ScoreContext)
    (path path' : String) (line : Int) (issue : Issue) :
    (finding history context path line issue).withoutPath =
        (finding history context' path' line issue).withoutPath ↔
      Confidence.score history issue context = Confidence.score history issue context' := by
  constructor
  · exact congrArg Finding.confidence
  · intro hscore
    simp only [finding, Finding.withoutPath, hscore]

theorem withoutConfidence_finding (history : AccuracyStore) (context context' : ScoreContext)
    (path path' : String) (line : Int) (issue : Issue) :
    (finding history context path line issue).withoutPath.withoutConfidence =
      (finding history context' path' line issue).withoutPath.withoutConfidence := by
  simp only [finding, Finding.withoutPath, Finding.withoutConfidence]

section Normalized
variable (r : Reviewer) (history : AccuracyStore) (f : ReviewFile)

/-- Under both spellings the same issues are reported. -/
theorem findings_normalized_withoutConfidence :
    (r.reviewFile history f.normalized).findings.map (·.withoutPath.withoutConfidence) =
      (r.reviewFile history f).findings.map (·.withoutPath.withoutConfidence) := by
  rw [findings_reviewFile_eq_map, findings_reviewFile_eq_map, reported_normalized, List.map_map,
    List.map_map]
  refine List.map_congr_left ?_
  intro x _
  exact withoutConfidence_finding ..

theorem findings_normalized_iff {verdicts : List Verdict} (hs : history.Tallies verdicts) :
    (r.reviewFile history f.normalized).findings.map (·.withoutPath) =
        (r.reviewFile history f).findings.map (·.withoutPath) ↔
      ¬ (FileIntent.Hides f.path "debug" ∧
        ∃ line ∈ f.linesUnderReview, ∃ issue ∈ r.issuesOn f line,
          issue.DependsOnDebug f.context) := by
  have hscore (issue : Issue) : Confidence.score history issue f.normalized.context =
        Confidence.score history issue f.context ↔
      ¬ (FileIntent.Hides f.path "debug" ∧ issue.DependsOnDebug f.context) := by
    rw [f.context_normalized, Confidence.score_normalized_iff hs, f.path_context]
  rw [findings_reviewFile_eq_map, findings_reviewFile_eq_map, reported_normalized, List.map_map,
    List.map_map, List.map_inj_left]
  simp only [Function.comp_apply, finding_withoutPath_eq_iff, hscore]
  constructor
  · rintro hall ⟨hhides, line, hline, issue, hissue, hdebug⟩
    have hmem : (line, issue) ∈ r.reported f :=
      List.mem_flatMap.2 ⟨line, hline, List.mem_map_of_mem hissue⟩
    exact hall _ hmem ⟨hhides, hdebug⟩
  · rintro hnone x hx ⟨hhides, hdebug⟩
    obtain ⟨line, hline, hx⟩ := List.mem_flatMap.1 hx
    obtain ⟨issue, hissue, rfl⟩ := List.mem_map.1 hx
    exact hnone ⟨hhides, line, hline, issue, hissue, hdebug⟩

theorem purpose_normalized_iff :
    (r.reviewFile history f.normalized).intent.purpose = (r.reviewFile history f).intent.purpose ↔
      ¬ (FileIntent.LeavesPurpose f.content ∧ FileIntent.Hides f.path "experiment") := by
  rw [intent_reviewFile, intent_reviewFile, FileIntent.purpose_classify,
    FileIntent.purpose_classify, f.path_normalized, f.content_normalized,
    FileIntent.purposeOf_normalized_iff]

end Normalized

/-- The review of a file and that under the plain spelling of its path tell the same language, the
same type of file and the same exceptions, and they report the same issues. They differ in the
purpose of the file if its path alone could tell an experiment and does so in its plain spelling
only, and in the confidence in output if the path speaks of debugging in its plain spelling only. -/
theorem reviewFile_normalized (r : Reviewer) (verdicts : List Verdict) (f : ReviewFile) :
    let spelled := r.reviewFile (.ofVerdicts verdicts) f
    let plain := r.reviewFile (.ofVerdicts verdicts) f.normalized
    (plain.language = spelled.language ∧ plain.intent.type = spelled.intent.type ∧
      plain.intent.profile = spelled.intent.profile ∧
      plain.findings.map (·.withoutPath.withoutConfidence) =
        spelled.findings.map (·.withoutPath.withoutConfidence)) ∧
    (plain.intent.purpose = spelled.intent.purpose ↔
      ¬ (FileIntent.LeavesPurpose f.content ∧ FileIntent.Hides f.path "experiment")) ∧
    (plain.findings.map (·.withoutPath) = spelled.findings.map (·.withoutPath) ↔
      ¬ (FileIntent.Hides f.path "debug" ∧
        ∃ line ∈ f.linesUnderReview, ∃ issue ∈ r.issuesOn f line,
          issue.DependsOnDebug f.context)) := by
  intro spelled plain
  refine ⟨⟨?_, ?_, ?_, r.findings_normalized_withoutConfidence _ f⟩,
    r.purpose_normalized_iff _ f,
    r.findings_normalized_iff _ f (AccuracyStore.tallies_ofVerdicts verdicts)⟩
  · rw [language_reviewFile, language_reviewFile, f.language_normalized]
  · rw [intent_reviewFile, intent_reviewFile, f.type_normalized]
  · rw [intent_reviewFile, intent_reviewFile, f.profile_normalized]

/-- Capitals in a path hide the experiment and make the output in it more suspicious. -/
theorem reviewFile_ne_of_capitals :
    let rules : RuleSet :=
      { categories := [("Style", [{ text := "No console.log", isPattern := true }])] }
    let r : Reviewer := { rules, detectors := [.guidelines rules] }
    let f : ReviewFile := { path := "Debug/Experiment.js", content := "console.log(1)" }
    f.normalized.path = "debug/experiment.js" ∧
      (r.reviewFile {} f).intent.purpose = none ∧
      (r.reviewFile {} f.normalized).intent.purpose = some .experimental ∧
      (r.reviewFile {} f).findings.map (·.confidence) = [74] ∧
      (r.reviewFile {} f.normalized).findings.map (·.confidence) = [59] := by
  decide +kernel

end Reviewer
end PatchReview
