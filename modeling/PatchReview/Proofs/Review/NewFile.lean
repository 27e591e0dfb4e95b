import PatchReview.CommandLine.Review
import PatchReview.Proofs.Detector.Builtin
import PatchReview.Proofs.Patch.NewFile
import PatchReview.Proofs.Review.Unchanged

/-! Files under review as a whole. A file whose text is handed over has all its lines reviewed, and
a file that a diff adds has its added lines reviewed; these are the same lines with the same
numbers. Only a line feed at the end of the text makes a difference, an empty line behind it, on
which the built-in detectors find nothing. -/
namespace PatchReview

theorem ReviewFile.numberFrom_append (n : Int) (xs ys : List (List Char)) :
    numberFrom n (xs ++ ys) = numberFrom n xs ++ numberFrom (n + xs.length) ys := by
  induction xs generalizing n with
  | nil =>
    rw [List.nil_append, List.length_nil]
    exact congrArg (numberFrom · ys) (Int.add_zero n).symm
  | cons x xs ih =>
    have hnext : n + 1 + (xs.length : Int) = n + ((x :: xs).length : Int) := by
      rw [List.length_cons]
      omega
    rw [List.cons_append, numberFrom, numberFrom, ih, hnext, List.cons_append]

/-- A table with a path and a text describes the file with all its lines under review. -/
theorem ReviewFile.ofValue?_content (path content : String) :
    ofValue? (.table [("path", .text path), ("content", .text content)]) =
      .ok { path, content } := by
  have hcontent :
      (if Value.isEmptyOrZero (.text content) then "" else Value.asText (.text content)) =
      content := by
    by_cases hempty : content = ""
    · rw [hempty]
      rfl
    · refine if_neg ?_
      rw [Value.isEmptyOrZero, String.isEmpty_iff]
      exact hempty
  exact congrArg (fun c => Except.ok (⟨path, c, none⟩ : ReviewFile)) hcontent

/-- The lines of a text under review: those of the file, and perhaps an empty one behind them. -/
theorem NewFile.linesUnderReview_content (f : NewFile) (isEnded : Bool) :
    ReviewFile.linesUnderReview { path := f.path, content := f.content isEnded } =
      ReviewFile.numberFrom 1 (f.texts.map String.toList) ++
        if isEnded then [⟨1 + f.texts.length, ""⟩] else [] := by
  have hne : f.texts ≠ [] := by
    rw [NewFile.texts, Ne, List.map_eq_nil_iff]
    exact f.lines_ne_nil
  have hline : ∀ l ∈ f.texts, '\n' ∉ l.toList := by
    intro l hl
    obtain ⟨line, -, rfl⟩ := List.mem_map.1 hl
    intro hmem
    exact absurd (line.2 '\n' hmem) (by decide)
  change ReviewFile.numberFrom 1 (Text.splitAt '\n' (f.content isEnded).toList) = _
  rw [NewFile.content, Text.splitAt_document hne hline, ReviewFile.numberFrom_append]
  cases isEnded with
  | true =>
    rw [List.length_map]
    rfl
  | false => rfl

theorem NewFile.linesUnderReview_patch (f : NewFile) (text : String) :
    (CommandLine.fileOfPatch f.written.patch text).linesUnderReview =
      ReviewFile.numberFrom 1 (f.texts.map String.toList) :=
  f.addedLines_patch

namespace Reviewer
variable {r : Reviewer}

theorem findingsOn_empty (hbuiltin : ∀ d ∈ r.detectors, d.kind ≠ .custom) (history : AccuracyStore)
    (path : String) (number : Int) : r.findingsOn history path ⟨number, ""⟩ = [] := by
  rw [findingsOn, lineFindings, List.map_eq_nil_iff, List.flatMap_eq_nil_iff]
  intro d hd
  exact Detector.detect_empty (hbuiltin d hd) rfl

theorem findings_content_eq_findings_patch (hbuiltin : ∀ d ∈ r.detectors, d.kind ≠ .custom)
    (history : AccuracyStore) (f : NewFile) (isEnded : Bool) (text : String) :
    (r.reviewFile history { path := f.path, content := f.content isEnded }).findings =
      (r.reviewFile history (CommandLine.fileOfPatch f.written.patch text)).findings := by
  have hpath : (CommandLine.fileOfPatch f.written.patch text).path = f.path := f.path_patch
  rw [findings_reviewFile, findings_reviewFile, f.linesUnderReview_content,
    f.linesUnderReview_patch, hpath, List.flatMap_append]
  cases isEnded with
  | true =>
    rw [if_pos rfl, List.flatMap_singleton, findingsOn_empty hbuiltin, List.append_nil]
  | false => rw [if_neg Bool.false_ne_true, List.flatMap_nil, List.append_nil]

/-- A file that is reviewed by its text gets the findings, the numbers and the summary that the diff
gets that adds it, with or without a line feed at the end of either. -/
theorem review_content_eq_review_diff (f : NewFile)
    (hbuiltin : ∀ d ∈ r.detectors, d.kind ≠ .custom) (history : AccuracyStore)
    (contentIsEnded diffIsEnded : Bool) :
    ∃ patch, FilePatch.ofDiff? (f.diff diffIsEnded) = .ok [patch] ∧ patch.path = f.path ∧
      (∀ (text : String) (limits : ReviewLimits), limits.check = .ok () →
        ∃ run, r.run history limits (fun _ => true) [.table [("path", .text f.path),
            ("content", .text (f.content contentIsEnded))]] = .ok run ∧
          let added := (r.runFiles history limits (fun _ => true)
            [CommandLine.fileOfPatch patch text]).result
          run.result.findings = added.findings ∧ run.result.stats = added.stats ∧
            run.result.summary = added.summary) ∧
      ∀ number : Int, r.findingsOn history f.path ⟨number, ""⟩ = [] := by
  refine ⟨f.written.patch, f.ofDiff?_eq_written diffIsEnded, f.path_patch, ?_, ?_⟩
  · intro text limits hlimits
    let whole : ReviewFile := { path := f.path, content := f.content contentIsEnded }
    have hvalue : [Value.table [("path", .text f.path),
        ("content", .text (f.content contentIsEnded))]].mapM ReviewFile.ofValue? = .ok [whole] := by
      rw [List.mapM_cons, ReviewFile.ofValue?_content, List.mapM_nil]
      rfl
    refine ⟨_, run_eq_ok.2 ⟨hlimits, [whole], hvalue, waitFails_in_time limits _, rfl⟩, ?_⟩
    have hfindings : (r.sequential history [whole]).findings =
        (r.sequential history [CommandLine.fileOfPatch f.written.patch text]).findings := by
      rw [findings_sequential, findings_sequential, List.flatMap_singleton, List.flatMap_singleton]
      exact congrArg Finding.sort
        (findings_content_eq_findings_patch hbuiltin history f contentIsEnded text)
    rw [runFiles_in_time, runFiles_in_time]
    refine ⟨hfindings, ?_, ?_⟩
    · rw [stats_sequential, stats_sequential, hfindings]
    · rw [summary_sequential, summary_sequential, stats_sequential, stats_sequential, hfindings]
  · exact fun number => findingsOn_empty hbuiltin history f.path number

/-- A text that ends with a line feed against a diff that ends without one. -/
theorem review_content_eq_review_diff_of_script :
    let r : Reviewer :=
      { rules := .default, detectors := [.secrets, .dangerous, .guidelines .default] }
    let diff := "--- /dev/null\n+++ b/a.js\n@@ -0,0 +1,2 @@\n+eval(x)\n+// eval(y)"
    ∃ patch run, FilePatch.ofDiff? diff = .ok [patch] ∧
      r.run {} {} (fun _ => true) [.table [("path", .text "a.js"),
        ("content", .text "eval(x)\n// eval(y)\n")]] = .ok run ∧
      run.result.findings = (r.runFiles {} {} (fun _ => true)
        [CommandLine.fileOfPatch patch "something else"]).result.findings := by
  intro r diff
  let f : NewFile :=
    { path := "a.js", isLine := by decide, no_tab := by decide
      no_blank_end := by
        rintro _ ⟨⟩
        rfl
      path_ne_empty := by decide, path_ne_noFile := by decide
      lines := [⟨"eval(x)", by decide⟩, ⟨"// eval(y)", by decide⟩]
      lines_ne_nil := List.cons_ne_nil _ _ }
  have hbuiltin : ∀ d ∈ r.detectors, d.kind ≠ .custom := by
    simp [r, Detector.kind]
  have hdiff : f.diff false = diff := by decide
  have hcontent : f.content true = "eval(x)\n// eval(y)\n" := by decide
  obtain ⟨patch, hpatch, -, hruns, -⟩ := review_content_eq_review_diff f hbuiltin {} true false
  obtain ⟨run, hrun, hfindings, -⟩ := hruns "something else" {} rfl
  rw [hdiff] at hpatch
  rw [hcontent] at hrun
  exact ⟨patch, run, hpatch, hrun, hfindings⟩

end Reviewer
end PatchReview
