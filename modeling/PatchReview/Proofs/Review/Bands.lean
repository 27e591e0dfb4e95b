import PatchReview.Proofs.Review.Feedback
import PatchReview.Proofs.Review.Shares
import PatchReview.Proofs.Score.Bands
import PatchReview.Report.Text

/-! The confidence in the findings of a run. Whatever verdicts there are, no finding of any detector
falls below 30, and those of the built-in detectors stay in the bands of their rules. -/
namespace PatchReview

/-- The finding is of a built-in rule and in the band of this rule. -/
def Finding.IsInBand (x : Finding) : Prop :=
  ∃ id band, x.ruleId = some id ∧
    Band.ofRule? (Text.occurs "debug".toList x.path.toList) id = some band ∧
    x.category = band.category ∧ x.severity = band.severity.name ∧
    band.low ≤ x.confidence ∧ x.confidence ≤ band.high

theorem Detector.source_of_custom {d : Detector} (hd : d.kind = .custom) {line : LineContext}
    {issue : Issue} (h : issue ∈ d.detect line) : issue.source = .custom := by
  cases d with
  | secrets => cases hd
  | dangerous => cases hd
  | guidelines rules => cases hd
  | custom patterns =>
    obtain ⟨pattern, -, hfind⟩ := List.mem_filterMap.1 h
    obtain ⟨-, hfind⟩ := Option.ite_none_right_eq_some.1 hfind
    obtain ⟨_, -, rfl⟩ := Option.map_eq_some_iff.1 hfind
    rfl

namespace Reviewer
variable {s : AccuracyStore} {verdicts : List Verdict} {f : ReviewFile} {d : Detector}

theorem isInBand_finding {rule : BuiltinRule} {issue : Issue} {content language path text : String}
    (hs : s.Tallies verdicts) (hrule : rule ∈ BuiltinRule.all)
    (h : rule.Reports ⟨content, language, .classify path text⟩ issue) (line : Int) :
    (finding s (.ofFile (.classify path text) language) path line issue).IsInBand := by
  have hscore := BuiltinRule.score_of_reports hs.hasCounts hrule h
  have hnonneg := Confidence.historyPoints_nonneg hs.hasCounts (some rule.id)
  have hle := Confidence.historyPoints_le hs.hasCounts (some rule.id)
  refine ⟨rule.id, _, h.ruleId, BuiltinRule.ofRule?_id _ hrule, ?_, ?_, ?_, ?_⟩
  · rw [← h.tags, ← h.ruleId]
    rfl
  · rw [← h.tags, ← h.ruleId]
    rfl
  · change _ ≤ Confidence.score s issue _
    rw [hscore]
    exact Int.le_add_of_nonneg_right hnonneg
  · change Confidence.score s issue _ ≤ _
    rw [hscore]
    exact Int.add_le_add_left hle _

theorem isInBand_of_mem (hs : s.Tallies verdicts) (hd : d.kind ≠ .custom) {x : Finding}
    (hx : x ∈ findingsOf s d.detect f) : x.IsInBand := by
  obtain ⟨line, -, hx⟩ := List.mem_flatMap.1 hx
  obtain ⟨issue, hissue, rfl⟩ := List.mem_map.1 hx
  obtain ⟨rule, hrule, hreports⟩ := Detector.exists_rule hd hissue
  exact isInBand_finding hs hrule hreports line.number

theorem isPlain_of_mem (hd : d.kind ≠ .custom) {line : ChangedLine} {issue : Issue}
    (h : issue ∈ d.detect
      ⟨line.content, Language.ofPath f.path, .classify f.path f.content⟩) :
    issue.IsPlain (.ofFile (.classify f.path f.content) (Language.ofPath f.path)) := by
  obtain ⟨rule, hrule, hreports⟩ := Detector.exists_rule hd h
  exact BuiltinRule.isPlain_of_reports hrule hreports

/-- The least band of a built-in rule begins above the least confidence in a custom pattern. -/
theorem le_confidence_of_mem (hs : s.Tallies verdicts) {x : Finding}
    (hx : x ∈ findingsOf s d.detect f) : 30 ≤ x.confidence := by
  by_cases hd : d.kind = .custom
  · obtain ⟨line, -, hx⟩ := List.mem_flatMap.1 hx
    obtain ⟨issue, hissue, rfl⟩ := List.mem_map.1 hx
    exact Confidence.le_score_of_custom hs.hasCounts (Detector.source_of_custom hd hissue) _
  · obtain ⟨id, band, -, hband, -, -, hlow, -⟩ := isInBand_of_mem hs hd hx
    exact (Band.le_low hband).trans hlow

theorem findings_runFiles_perm_detectors (r : Reviewer) (history : AccuracyStore)
    (limits : ReviewLimits) (inTime : ReviewFile → Bool) (files : List ReviewFile) :
    (r.runFiles history limits inTime files).result.findings.Perm
      ((files.filter fun f => limits.timeout.isNone || inTime f).flatMap fun f =>
        r.detectors.flatMap fun d => findingsOf history d.detect f) := by
  refine (r.findings_runFiles_perm history limits inTime files).trans ?_
  refine List.Perm.flatMap_left _ ?_
  intro f _
  exact findingsOf_perm (fun _ => .refl _) history f

/-- No finding is out of sight of a report that shows a confidence of 30, and those of the built-in
detectors are in the bands of their rules. Nothing about the role of their file lowers the
confidence in them. -/
theorem findings_in_bands {r : Reviewer} {verdicts : List Verdict} {limits : ReviewLimits}
    {inTime : ReviewFile → Bool} {values : List Value} {run : ReviewRun}
    (hrun : r.run (.ofVerdicts verdicts) limits inTime values = .ok run) :
    (∀ x ∈ run.result.findings, 30 ≤ x.confidence ∧ x.confidence ≤ 100) ∧
    (∀ minConfidence ≤ 30,
      Report.visible minConfidence run.result.findings = run.result.findings) ∧
    ∃ files, values.mapM ReviewFile.ofValue? = .ok files ∧
      run.result.findings.Perm
        ((files.filter fun f => limits.timeout.isNone || inTime f).flatMap fun f =>
          r.detectors.flatMap fun d => findingsOf (.ofVerdicts verdicts) d.detect f) ∧
      ∀ f ∈ files, ∀ d ∈ r.detectors, d.kind ≠ .custom →
        (∀ x ∈ findingsOf (.ofVerdicts verdicts) d.detect f, x.IsInBand) ∧
        ∀ line ∈ f.linesUnderReview, ∀ issue ∈ d.detect
            ⟨line.content, Language.ofPath f.path, .classify f.path f.content⟩,
          issue.IsPlain (.ofFile (.classify f.path f.content) (Language.ofPath f.path)) := by
  obtain ⟨-, files, hfiles, -, rfl⟩ := run_eq_ok.1 hrun
  have hs := AccuracyStore.tallies_ofVerdicts verdicts
  have hperm := findings_runFiles_perm_detectors r (.ofVerdicts verdicts) limits inTime files
  have hrange : ∀ x ∈ (r.runFiles (.ofVerdicts verdicts) limits inTime files).result.findings,
      30 ≤ x.confidence ∧ x.confidence ≤ 100 := by
    intro x hx
    obtain ⟨f, -, hx⟩ := List.mem_flatMap.1 (hperm.mem_iff.1 hx)
    obtain ⟨d, -, hx⟩ := List.mem_flatMap.1 hx
    refine ⟨le_confidence_of_mem hs hx, ?_⟩
    obtain ⟨line, -, hx⟩ := List.mem_flatMap.1 hx
    obtain ⟨issue, -, rfl⟩ := List.mem_map.1 hx
    exact (score_mem_range _ issue _).2
  refine ⟨hrange, ?_, files, hfiles, hperm, ?_⟩
  · intro minConfidence hmin
    refine List.filter_eq_self.2 ?_
    intro x hx
    exact decide_eq_true (hmin.trans (hrange x hx).1)
  · intro f _ d _ hd
    refine ⟨fun x hx => isInBand_of_mem hs hd hx, ?_⟩
    intro line _ issue hissue
    exact isPlain_of_mem hd hissue

/-- Verdicts against a rule take the confidence in its finding to the lower end of the band. -/
theorem findings_in_bands_of_rejected :
    let r : Reviewer := { rules := {}, detectors := [.secrets, .guidelines {}] }
    let values : List Value := [.table [("path", .text "app.js"), ("changed_lines",
      .list [.table [("line", .int 7), ("content", .text "token = 'x'")]])]]
    let f : ReviewFile := { path := "app.js", changed := some [⟨7, "token = 'x'"⟩] }
    let s := AccuracyStore.ofVerdicts [("hardcoded-secrets", false)]
    ∃ run, r.run s {} (fun _ => true) values = .ok run ∧
      (∀ x ∈ run.result.findings, 30 ≤ x.confidence ∧ x.confidence ≤ 100) ∧
      (findingsOf s Secrets.detect f).map (·.confidence) = [68] ∧
      ∀ x ∈ findingsOf s Secrets.detect f, x.IsInBand := by
  intro r values f s
  have hrun : r.run s {} (fun _ => true) values = .ok (r.runFiles s {} (fun _ => true) [f]) := rfl
  obtain ⟨hrange, -, files, hfiles, -, hbuiltin⟩ := findings_in_bands hrun
  obtain rfl : [f] = files := Except.ok.inj hfiles
  have hbands := (hbuiltin f List.mem_cons_self .secrets List.mem_cons_self (by decide)).1
  exact ⟨_, hrun, hrange, by decide +kernel, hbands⟩

end Reviewer
end PatchReview
