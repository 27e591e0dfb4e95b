import PatchReview.Proofs.Detector.Secrets
import PatchReview.Proofs.Review.Collect
import PatchReview.Proofs.Score.Tally

/-! Credentials in reviews. No place and no history of verdicts takes so much from the confidence in
a credential that its finding loses weight, and no finding is dropped on the way to the outcome. -/
namespace PatchReview

namespace Secrets

theorem evidencePoints_issue (leak : Leak) : Confidence.evidencePoints leak.issue = 30 := rfl

/-- No place lowers the points, as no condition on places is about credentials. -/
theorem contextPoints_issue (leak : Leak) (context : ScoreContext) :
    Confidence.contextPoints leak.issue context = 20 := by
  have htags : leak.issue.tags.contains "production-only" = false ∧
      leak.issue.tags.contains "raw-sql" = false := ⟨rfl, rfl⟩
  have hrule : leak.issue.ruleId.any Confidence.debugPrintRules.contains = false ∧
      (leak.issue.ruleId == some "magic-numbers") = false := ⟨rfl, rfl⟩
  rw [Confidence.contextPoints, htags.1, htags.2, hrule.1, hrule.2]
  simp only [Bool.and_false, Bool.false_eq_true, if_false]
  rfl

theorem rulePoints_issue (leak : Leak) : Confidence.rulePoints leak.issue = 18 := rfl

theorem le_score_issue {s : AccuracyStore} {verdicts : List Verdict} (h : s.Tallies verdicts)
    (leak : Leak) (context : ScoreContext) : 68 ≤ Confidence.score s leak.issue context := by
  have hhistory := Confidence.historyPoints_nonneg h.hasCounts leak.issue.ruleId
  rw [Confidence.score, evidencePoints_issue, contextPoints_issue, rulePoints_issue]
  omega

end Secrets

namespace Reviewer

/-- In a run that came to its end with the search for credentials among its detectors, each
credential on a line under review has a finding that is critical and of a confidence of 68 or more,
whatever the place, the rules, the other detectors and the verdicts so far. The findings are those
that the detectors have on each line, and for each kind of credential the search has one report if
the line holds one, and none otherwise. -/
theorem exists_finding_of_holdsCredential {r : Reviewer} {verdicts : List Verdict}
    {limits : ReviewLimits} {inTime : ReviewFile → Bool} {values : List Value} {run : ReviewRun}
    (hactive : .secrets ∈ r.detectors)
    (hrun : r.run (.ofVerdicts verdicts) limits inTime values = .ok run)
    (hall : run.result.isPartial = false) :
    ∃ files, values.mapM ReviewFile.ofValue? = .ok files ∧
      run.result.findings.Perm
        (files.flatMap fun f => (r.reviewFile (.ofVerdicts verdicts) f).findings) ∧
      ∀ f ∈ files, ∀ line ∈ f.linesUnderReview,
        (∀ message, Secrets.HoldsCredential line.content.toList message →
          ∃ x ∈ run.result.findings, x.path = f.path ∧ x.line = line.number ∧
            x.ruleId = some "hardcoded-secrets" ∧ x.message = message ∧ x.category = .bug ∧
            x.severity = "critical" ∧ 68 ≤ x.confidence) ∧
        ∀ context : LineContext, context.content = line.content →
          ((Detector.secrets.detect context).map (·.message)).Nodup ∧
          ∀ message, message ∈ (Detector.secrets.detect context).map (·.message) ↔
            Secrets.HoldsCredential line.content.toList message := by
  obtain ⟨-, files, hfiles, -, rfl⟩ := run_eq_ok.1 hrun
  have hperm := findings_sequential_perm r (.ofVerdicts verdicts) files
  rw [← runFiles_eq_sequential hall] at hperm
  refine ⟨files, hfiles, hperm, fun f hf line hline => ⟨?_, ?_⟩⟩
  · intro message hholds
    obtain ⟨leak, hleak, hfound, rfl⟩ := Secrets.holdsCredential_iff.1 hholds
    let intent := FileIntent.classify f.path f.content
    let language := Language.ofPath f.path
    have hissue : leak.issue ∈ r.detectors.flatMap (·.detect ⟨line.content, language, intent⟩) :=
      List.mem_flatMap.2 ⟨.secrets, hactive,
        List.mem_map_of_mem (List.mem_filter.2 ⟨hleak, hfound⟩)⟩
    have hmem := hperm.mem_iff.2 <| List.mem_flatMap.2 ⟨f, hf,
      List.mem_flatMap.2 ⟨line, hline, List.mem_map_of_mem hissue⟩⟩
    exact ⟨_, hmem, rfl, rfl, rfl, rfl, rfl, rfl,
      Secrets.le_score_issue (AccuracyStore.tallies_ofVerdicts verdicts) leak _⟩
  · intro context hcontent
    rw [← hcontent]
    exact ⟨Secrets.nodup_messages_detect context, fun _ => Secrets.mem_messages_detect⟩

/-- Neither a test file nor a verdict against it hides a password. -/
theorem exists_finding_in_test :
    let r : Reviewer := { rules := {}, detectors := [.secrets] }
    let values : List Value := [.table [("path", .text "tests/test_app.py"), ("changed_lines",
      .list [.table [("line", .int 3), ("content", .text "PassWord = 'x'")]])]]
    ∃ run, r.run (.ofVerdicts [("hardcoded-secrets", false)]) {} (fun _ => true) values = .ok run ∧
      ∃ x ∈ run.result.findings, x.path = "tests/test_app.py" ∧ x.line = 3 ∧
        x.message = "Potential hardcoded password detected" ∧ 68 ≤ x.confidence := by
  intro r values
  let line : ChangedLine := ⟨3, "PassWord = 'x'"⟩
  let f : ReviewFile := { path := "tests/test_app.py", changed := some [line] }
  let run := r.runFiles (.ofVerdicts [("hardcoded-secrets", false)]) {} (fun _ => true) [f]
  have hrun : r.run (.ofVerdicts [("hardcoded-secrets", false)]) {} (fun _ => true) values =
      .ok run := rfl
  obtain ⟨files, hfiles, -, hlines⟩ :=
    exists_finding_of_holdsCredential (List.mem_singleton_self _) hrun rfl
  obtain rfl : [f] = files := Except.ok.inj hfiles
  let value : Secrets.Quotation := ⟨'\'', ['x'], '\'', rfl, rfl, List.cons_ne_nil _ _,
    List.forall_mem_singleton.2 rfl⟩
  let assignment : Secrets.Assignment "password" := ⟨"PassWord".toList, [' '], [' '], value,
    Text.spells_of_map_toLower (by decide), List.forall_mem_singleton.2 rfl,
    List.forall_mem_singleton.2 rfl⟩
  obtain ⟨x, hx, hpath, hline, -, hmessage, -, -, hconfidence⟩ :=
    (hlines f (List.mem_singleton_self f) line (List.mem_singleton_self line)).1 _
      (.password assignment (by decide) ⟨[], [], by decide⟩)
  exact ⟨run, hrun, x, hx, hpath, hline, hmessage, hconfidence⟩

end Reviewer
end PatchReview
