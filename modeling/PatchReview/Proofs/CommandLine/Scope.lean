import PatchReview.Proofs.CommandLine.Findings
import PatchReview.Proofs.CommandLine.Threshold

/-! What a review on the command line reports on: the added lines of the first patches in scope,
each as often as it is added there, and no other lines. -/
namespace PatchReview.CommandLine

/-- A review that comes to its end reports what the detectors see on the added lines of the first
patches in scope, if it was not cut off: one finding for each issue, as often as the patches add its
line. No other line counts, whether it was cut off or not, and without a timeout it was not. -/
theorem review_reports_added_lines {host : Host Id} {words : List String} {o : ReviewOptions}
    {inTime : ReviewFile → Bool} (hwords : Command.ofWords words = .ok (.review o))
    (hdone : (run host words inTime).error = none) :
    ∃ c : Course host o, c.given.Belongs host o ∧
      (run host words inTime).Reports c.given.plan (c.resultAt inTime) ∧
      ((c.resultAt inTime).isPartial = false → ∃ findings,
        (c.resultAt inTime).findings.Perm findings ∧
        List.Forall₂ Finding.IsOn findings (sightings c.given.detectors c.patches)) ∧
      (c.given.plan.limits.timeout = none → (c.resultAt inTime).isPartial = false) ∧
      ∀ x ∈ (c.resultAt inTime).findings, ∃ p ∈ c.patches, ∃ n s,
        (n, s) ∈ p.addedLines ∧ x.path = p.path ∧ x.line = n := by
  obtain ⟨c, hreports⟩ := exists_course_reports hwords hdone
  refine ⟨c, c.belongs, hreports, ?_, ?_, fun x => c.exists_line_of_mem⟩
  · intro hcomplete
    have hperm := Reviewer.findings_sequential_perm c.reviewer {} c.files
    rw [c.findings_files] at hperm
    rw [c.resultAt_of_complete hcomplete]
    refine ⟨_, hperm, ?_⟩
    rw [List.forall₂_map_left_iff, List.forall₂_same]
    exact fun s _ => Reviewer.isOn_findingOn s
  · intro hunlimited
    rw [Course.resultAt, Reviewer.runFiles_of_unlimited hunlimited]
    exact Reviewer.isPartial_sequential _ _ _

/-- Of a line that is kept, one that goes and one that comes, only the last counts. -/
theorem review_reports_added_lines_of_input :
    let host := hostOfInput
      "--- a/a.py\n+++ b/a.py\n@@ -1,2 +1,2 @@\n pwd = 'a'\n-pwd = 'b'\n+pwd = 'c'"
    let words := ["review", "--stdin", "--exclude", "*.lock"]
    ∃ o, Command.ofWords words = .ok (.review o) ∧ (run host words).error = none ∧
      ∃ c : Course host o, c.given.Belongs host o ∧
        (run host words).Reports c.given.plan c.result ∧
        ∃ findings, c.result.findings.Perm findings ∧
          List.Forall₂ Finding.IsOn findings (sightings c.given.detectors c.patches) := by
  intro host words
  let o : ReviewOptions :=
    { setting := { repository := Path.ofString "." }, diffFile := none, fromInput := true,
      base := none, head := none, title := none, body := none, labels := [], rules := none,
      format := none, minConfidence := none, failOn := none, included := none,
      excluded := some ["*.lock"], workers := none, timeout := none }
  have hwords : Command.ofWords words = .ok (.review o) := rfl
  have hdone : (run host words).error = none :=
    error_eq_none_of_reachesReport hwords (by decide +kernel)
  obtain ⟨c, hbelongs, hreports, hfindings, -, -⟩ := review_reports_added_lines hwords hdone
  rw [c.resultAt_in_time] at hreports hfindings
  have hcomplete := Reviewer.isPartial_sequential c.reviewer {} c.files
  exact ⟨o, hwords, hdone, c, hbelongs, hreports, hfindings hcomplete⟩

end PatchReview.CommandLine
