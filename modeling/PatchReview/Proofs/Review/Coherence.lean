import PatchReview.Proofs.Review.Pool
import PatchReview.Proofs.Review.Summary

/-! What the parts of an outcome say of each other. Every finding is made with the marks of its
kind, and an outcome is put together from findings alone; so its order, its numbers and its summary
fit its findings, whatever was reviewed and whichever of the files were done in time. -/
namespace PatchReview

/-- The order, the numbers and the summary of an outcome fit its findings. -/
structure ReviewResult.IsCoherent (result : ReviewResult) (tone : String) : Prop where
  order : result.findings.Pairwise fun x y => x.category.sortOrder < y.category.sortOrder ∨
    x.category = y.category ∧ y.confidence ≤ x.confidence
  emoji : ∀ x ∈ result.findings, x.emoji = x.category.emoji
  sortOrder : ∀ x ∈ result.findings, x.sortOrder = x.category.sortOrder
  total : result.stats.total = result.findings.length
  bugs : result.stats.bugs = result.findings.countP (·.category = .bug)
  refactors : result.stats.refactors = result.findings.countP (·.category = .refactor)
  suggestions : result.stats.suggestions = result.findings.countP (·.category = .suggestion)
  critical : result.stats.critical = result.findings.countP (·.severity = "critical")
  high : result.stats.high = result.findings.countP (·.severity = "high")
  medium : result.stats.medium = result.findings.countP (·.severity = "medium")
  low : result.stats.low = result.findings.countP (·.severity = "low")
  total_eq_kinds : result.stats.total =
    result.stats.bugs + result.stats.refactors + result.stats.suggestions
  total_eq_severities : result.stats.total =
    result.stats.critical + result.stats.high + result.stats.medium + result.stats.low
  suggestions_eq_low : result.stats.suggestions = result.stats.low
  critical_le_bugs : result.stats.critical ≤ result.stats.bugs
  /-- Above the closing words, which may say anything, a line tells a number exactly if it is the
  right one and not zero, and another line tells that there are no findings exactly if it is so. -/
  summary : ∃ above : List String,
    Text.splitAt '\n' result.summary.toList =
      above.map String.toList ++ Text.splitAt '\n' (Summary.closing tone).toList ∧
    (∀ (q : Summary.Quantity) (n : Nat),
      q.line n ∈ above ↔ n ≠ 0 ∧ n = q.number result.stats) ∧
    (Summary.noIssues ∈ above ↔ result.findings = [])

namespace Reviewer
variable {r : Reviewer} {history : AccuracyStore}

theorem isClassified_finding (history : AccuracyStore) (context : ScoreContext) (path : String)
    (line : Int) (issue : Issue) : (finding history context path line issue).IsClassified := by
  refine ⟨rfl, rfl, ?_⟩
  exact List.mem_map_of_mem (Category.severity_mem_severities issue.tags issue.ruleId)

theorem isClassified_of_mem_reviewFile {f : ReviewFile} {x : Finding}
    (hx : x ∈ (r.reviewFile history f).findings) : x.IsClassified := by
  obtain ⟨line, -, hx⟩ := List.mem_flatMap.1 hx
  obtain ⟨issue, -, rfl⟩ := List.mem_map.1 hx
  exact isClassified_finding history _ f.path line.number issue

theorem isClassified_of_mem_collect {reviews : List (Option FileReview)}
    (h : ∀ review, some review ∈ reviews → ∀ x ∈ review.findings, x.IsClassified) :
    ∀ x ∈ (r.collect reviews).findings, x.IsClassified := by
  intro x hx
  obtain ⟨review, hreview, hx⟩ := List.mem_flatMap.1 ((Finding.sort_perm _).mem_iff.1 hx)
  obtain ⟨_, hmem, rfl⟩ := List.mem_filterMap.1 hreview
  exact h review hmem x hx

theorem isCoherent_collect {reviews : List (Option FileReview)}
    (h : ∀ review, some review ∈ reviews → ∀ x ∈ review.findings, x.IsClassified) :
    (r.collect reviews).IsCoherent r.rules.tone := by
  have hclassified := isClassified_of_mem_collect (r := r) h
  have hstats : (r.collect reviews).stats = .ofFindings (r.collect reviews).findings := rfl
  refine
    { order := ?_
      emoji := fun x hx => (hclassified x hx).emoji
      sortOrder := fun x hx => (hclassified x hx).sortOrder
      total := rfl
      bugs := rfl
      refactors := rfl
      suggestions := rfl
      critical := rfl
      high := rfl
      medium := rfl
      low := rfl
      total_eq_kinds := FindingStats.total_eq_kinds _
      total_eq_severities := FindingStats.total_eq_severities hclassified
      suggestions_eq_low := FindingStats.suggestions_eq_low hclassified
      critical_le_bugs := FindingStats.critical_le_bugs hclassified
      summary := ?_ }
  · refine (Finding.isSorted_sort _).imp_of_mem ?_
    intro x y hx hy hxy
    rw [Finding.comesBefore_iff, (hclassified x hx).sortOrder, (hclassified y hy).sortOrder] at hxy
    exact hxy.imp_right fun h => ⟨Category.sortOrder_inj h.1, h.2⟩
  · refine ⟨Summary.linesAbove (r.collect reviews).findings (r.collect reviews).stats, ?_, ?_, ?_⟩
    · exact Summary.splitAt_text _ _ _
    · intro q n
      rw [hstats]
      exact Summary.line_mem_linesAbove
    · exact Summary.noIssues_mem_linesAbove

theorem isCoherent_runFiles {limits : ReviewLimits} {inTime : ReviewFile → Bool}
    {files : List ReviewFile} :
    (r.runFiles history limits inTime files).result.IsCoherent r.rules.tone := by
  refine isCoherent_collect ?_
  intro review hreview x hx
  obtain ⟨f, -, hreview⟩ := List.mem_map.1 hreview
  split at hreview
  · obtain rfl := Option.some.inj hreview
    exact isClassified_of_mem_reviewFile hx
  · cases hreview

theorem isCoherent_of_reaches {limits : ReviewLimits} {files : List ReviewFile} {p : Pool}
    (hp : p.Reaches r history limits files) : (r.collect p.reviews).IsCoherent r.rules.tone := by
  refine isCoherent_collect ?_
  intro review hreview x hx
  obtain ⟨job, hjob, hreview⟩ := List.mem_map.1 hreview
  split at hreview
  · rw [(hp.invariant.jobs job hjob).review_eq review hreview] at hx
    exact isClassified_of_mem_reviewFile hx
  · cases hreview

/-- The outcome of a run is coherent. So is what a pool of workers collects from the same files,
however it went about them and whichever of them it got done. -/
theorem isCoherent_of_run {limits : ReviewLimits} {inTime : ReviewFile → Bool} {values : List Value}
    {run : ReviewRun} (hrun : r.run history limits inTime values = .ok run) :
    run.result.IsCoherent r.rules.tone ∧
      ∃ files, values.mapM ReviewFile.ofValue? = .ok files ∧
        ∀ p : Pool, p.Reaches r history limits files →
          (r.collect p.reviews).IsCoherent r.rules.tone := by
  obtain ⟨-, files, hfiles, -, rfl⟩ := run_eq_ok.1 hrun
  exact ⟨isCoherent_runFiles, files, hfiles, fun p hp => isCoherent_of_reaches hp⟩

/-- One of two files is cut off; the other breaks a rule of the team. -/
theorem isCoherent_of_run_cut_off :
    let pattern : ReadyPattern :=
      { ruleId := "no-todo", message := "Open task", keyword := "todo", tags := ["performance"]
        node := none }
    let r : Reviewer := { rules := {}, detectors := [.secrets, .custom [pattern]] }
    let limits : ReviewLimits := { workers := 2, timeout := some (.whole 5) }
    let inTime : ReviewFile → Bool := fun f => f.path == "a.py"
    let values : List Value := ["a.py", "b.py"].map fun path =>
      .table [("path", .text path), ("content", .text "token = 'x' # TODO")]
    ∃ run, r.run {} limits inTime values = .ok run ∧ run.result.isPartial = true ∧
      run.result.IsCoherent "" := by
  intro pattern r limits inTime values
  let files : List ReviewFile := ["a.py", "b.py"].map fun path =>
    { path, content := "token = 'x' # TODO" }
  have hrun : r.run {} limits inTime values = .ok (r.runFiles {} limits inTime files) := rfl
  exact ⟨_, hrun, rfl, (isCoherent_of_run hrun).1⟩

end Reviewer
end PatchReview
