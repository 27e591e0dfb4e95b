import Mathlib.Data.List.Perm.Basic
import PatchReview.Proofs.Finding.Order
import PatchReview.Proofs.Review.Collect
import PatchReview.Proofs.Score.Feedback

/-! Reviews before and after one more verdict. The detectors see nothing of verdicts, so the findings
stay the same up to their confidence, and only those of the rule in question move, in the direction
of the verdict. They may change places in the report, which changes none of its numbers but the mean
confidence. -/
namespace PatchReview

namespace Finding

/-- What one more verdict on the rule `r` does to a finding. -/
structure Moves (r : String) (correct : Bool) (x y : Finding) : Prop where
  eq_up_to : y = { x with confidence := y.confidence }
  confidence : Confidence.Moves r correct x.ruleId x.confidence y.confidence

def withoutConfidence (x : Finding) : Finding := { x with confidence := 0 }

theorem Moves.withoutConfidence_eq {r : String} {correct : Bool} {x y : Finding}
    (h : x.Moves r correct y) : x.withoutConfidence = y.withoutConfidence := by
  rw [h.eq_up_to]
  rfl

end Finding

namespace FindingStats

/-- The numbers of a review do not depend on confidence. -/
theorem ofFindings_withoutConfidence (xs : List Finding) :
    ofFindings (xs.map Finding.withoutConfidence) = ofFindings xs := by
  simp only [ofFindings, List.length_map, List.countP_map]
  rfl

end FindingStats

namespace Summary

/-- The mean confidence where a summary tells it. -/
def averageText (findings : List Finding) : String :=
  if findings.isEmpty then "" else toString (averageConfidence findings)

/-- What a summary of some findings says in front of their mean confidence. -/
def beforeAverage (stats : FindingStats) : String :=
  "## Code Review Summary\n\n" ++ ("Found " ++ toString stats.total ++ " issue(s):\n\n" ++
    countLine stats.bugs "🔴 **" " Bugs** - Must fix before merge" ++
    countLine stats.refactors "🟡 **" " Refactors** - Should fix for quality" ++
    countLine stats.suggestions "🔵 **" " Suggestions** - Nice to have" ++
    "\n" ++
    countLine stats.critical "⚠️ " " critical issue(s)" ++
    "\n📊 Average confidence: ")

/-- What a summary of some findings says behind their mean confidence. -/
def afterAverage (tone : String) : String :=
  "%\n" ++ ("\n" ++ if tone.isEmpty then defaultTone else tone)

theorem text_of_isEmpty_eq_false {findings : List Finding} (h : findings.isEmpty = false)
    (stats : FindingStats) (tone : String) :
    text findings stats tone =
      beforeAverage stats ++ toString (averageConfidence findings) ++ afterAverage tone := by
  unfold text body beforeAverage afterAverage
  simp only [h, Bool.false_eq_true, if_false, String.append_assoc]

/-- Of the findings themselves a summary tells whether there are any, and their mean confidence. -/
theorem exists_text_eq (stats : FindingStats) (tone : String) (isEmpty : Bool) :
    ∃ before after, ∀ findings : List Finding, findings.isEmpty = isEmpty →
      text findings stats tone = before ++ averageText findings ++ after := by
  cases isEmpty with
  | true =>
      refine ⟨text [] stats tone, "", fun findings h => ?_⟩
      rw [List.isEmpty_iff.1 h, averageText, List.isEmpty_nil, if_pos rfl, String.append_empty,
        String.append_empty]
  | false =>
      refine ⟨beforeAverage stats, afterAverage tone, fun findings h => ?_⟩
      rw [text_of_isEmpty_eq_false h, averageText, h, if_neg Bool.false_ne_true]

end Summary

section Mean
variable {findings : List Finding} {n : ℤ}

theorem totalConfidence_eq_sum (findings : List Finding) :
    totalConfidence findings = (findings.map (·.confidence)).sum := by
  rw [totalConfidence, List.sum_eq_foldr, List.foldr_map]

theorem le_totalConfidence (h : ∀ x ∈ findings, n ≤ x.confidence) :
    findings.length * n ≤ totalConfidence findings := by
  have hsum := List.card_nsmul_le_sum (findings.map (·.confidence)) n (List.forall_mem_map.2 h)
  rwa [nsmul_eq_mul, List.length_map, ← totalConfidence_eq_sum] at hsum

theorem totalConfidence_le (h : ∀ x ∈ findings, x.confidence ≤ n) :
    totalConfidence findings ≤ findings.length * n := by
  have hsum := List.sum_le_card_nsmul (findings.map (·.confidence)) n (List.forall_mem_map.2 h)
  rwa [nsmul_eq_mul, List.length_map, ← totalConfidence_eq_sum] at hsum

/-- The mean of confidences from 0 to 100 is a number in range. -/
theorem averageIsHuge_eq_false (h : ∀ x ∈ findings, 0 ≤ x.confidence ∧ x.confidence ≤ 100) :
    averageIsHuge findings = false := by
  have hlow := le_totalConfidence fun x hx => (h x hx).1
  have hhigh := totalConfidence_le fun x hx => (h x hx).2
  rw [averageIsHuge]
  cases findings with
  | nil => rfl
  | cons x xs =>
      rw [List.isEmpty_cons, Bool.not_false, Bool.true_and]
      exact quotientIsHuge_eq_false (k := 100) (Nat.succ_pos _) (by decide) (by omega)

end Mean

namespace Reviewer

theorem forall₂_flatMap {α β : Type} {R : β → β → Prop} {f g : α → List β} (xs : List α)
    (h : ∀ x, List.Forall₂ R (f x) (g x)) : List.Forall₂ R (xs.flatMap f) (xs.flatMap g) := by
  induction xs with
  | nil => exact .nil
  | cons x xs ih =>
      rw [List.flatMap_cons, List.flatMap_cons]
      exact List.rel_append (h x) ih

variable {s : AccuracyStore} {verdicts : List Verdict}

theorem moves_finding (h : s.Tallies verdicts) (ruleId : String) (correct : Bool)
    (context : ScoreContext) (path : String) (line : Int) (issue : Issue) :
    (finding s context path line issue).Moves ruleId correct
      (finding (s.record ruleId correct) context path line issue) :=
  ⟨rfl, Confidence.moves_score h ruleId correct issue context⟩

theorem forall₂_lineFindings (r : Reviewer) (h : s.Tallies verdicts) (ruleId : String)
    (correct : Bool) (intent : FileIntent) (language path : String) (line : ChangedLine) :
    List.Forall₂ (Finding.Moves ruleId correct) (r.lineFindings s intent language path line)
      (r.lineFindings (s.record ruleId correct) intent language path line) := by
  rw [lineFindings, lineFindings, List.forall₂_map_left_iff, List.forall₂_map_right_iff]
  exact List.forall₂_same.2 fun issue _ => moves_finding h ruleId correct _ path line.number issue

/-- What the findings of the files are before they are sorted. -/
theorem forall₂_findings (r : Reviewer) (h : s.Tallies verdicts) (ruleId : String) (correct : Bool)
    (files : List ReviewFile) :
    List.Forall₂ (Finding.Moves ruleId correct)
      (files.flatMap fun f => (r.reviewFile s f).findings)
      (files.flatMap fun f => (r.reviewFile (s.record ruleId correct) f).findings) :=
  forall₂_flatMap files fun f => forall₂_flatMap f.linesUnderReview fun line =>
    r.forall₂_lineFindings h ruleId correct _ _ f.path line

end Reviewer

/-- What one more verdict on a rule does to the outcome of a review. -/
structure ReviewResult.Moves (ruleId : String) (correct : Bool) (a b : ReviewResult) : Prop where
  /-- Each finding moves on its own; then they are sorted. -/
  findings : ∃ moved, List.Forall₂ (Finding.Moves ruleId correct) a.findings moved ∧
    moved.Perm b.findings
  perm : (a.findings.map Finding.withoutConfidence).Perm (b.findings.map Finding.withoutConfidence)
  stats : b.stats = a.stats
  files : b.files = a.files
  change : b.change = a.change
  isPartial : b.isPartial = a.isPartial
  summary : ∃ before after, a.summary = before ++ Summary.averageText a.findings ++ after ∧
    b.summary = before ++ Summary.averageText b.findings ++ after

namespace Reviewer

variable {s : AccuracyStore} {verdicts : List Verdict}

theorem map_withoutConfidence_of_moves {ruleId : String} {correct : Bool} {xs ys : List Finding}
    (h : List.Forall₂ (Finding.Moves ruleId correct) xs ys) :
    xs.map Finding.withoutConfidence = ys.map Finding.withoutConfidence := by
  induction h with
  | nil => rfl
  | cons hxy _ ih => rw [List.map_cons, List.map_cons, hxy.withoutConfidence_eq, ih]

theorem moves_sequential (r : Reviewer) (h : s.Tallies verdicts) (ruleId : String) (correct : Bool)
    (files : List ReviewFile) :
    (r.sequential s files).Moves ruleId correct (r.sequential (s.record ruleId correct) files) := by
  obtain ⟨moved, hmoves, hmoved⟩ := List.perm_comp_forall₂ (r.findings_sequential_perm s files)
    (r.forall₂_findings h ruleId correct files)
  have hperm := hmoved.trans (r.findings_sequential_perm (s.record ruleId correct) files).symm
  have herased : ((r.sequential s files).findings.map Finding.withoutConfidence).Perm
      ((r.sequential (s.record ruleId correct) files).findings.map Finding.withoutConfidence) := by
    rw [map_withoutConfidence_of_moves hmoves]
    exact hperm.map _
  have hstats : (r.sequential (s.record ruleId correct) files).stats =
      (r.sequential s files).stats := by
    rw [stats_sequential, stats_sequential, ← FindingStats.ofFindings_withoutConfidence,
      ← FindingStats.ofFindings_perm herased, FindingStats.ofFindings_withoutConfidence]
  have hempty : (r.sequential (s.record ruleId correct) files).findings.isEmpty =
      (r.sequential s files).findings.isEmpty := by
    rw [← List.isEmpty_map, ← herased.isEmpty_eq, List.isEmpty_map]
  obtain ⟨before, after, htext⟩ := Summary.exists_text_eq (r.sequential s files).stats r.rules.tone
    (r.sequential s files).findings.isEmpty
  refine ⟨⟨moved, hmoves, hperm⟩, herased, hstats, ?_, ?_, ?_, before, after, ?_, ?_⟩
  · rw [files_sequential, files_sequential]
  · rw [change_sequential, change_sequential]
  · rw [isPartial_sequential, isPartial_sequential]
  · rw [summary_sequential, htext _ rfl]
  · rw [summary_sequential, hstats, htext _ hempty]

theorem score_mem_range (s : AccuracyStore) (issue : Issue) (context : ScoreContext) :
    0 ≤ Confidence.score s issue context ∧ Confidence.score s issue context ≤ 100 := by
  rw [Confidence.score]
  omega

/-- All confidences of a review are from 0 to 100, so their mean is a number in range. -/
theorem averageIsHuge_sequential (r : Reviewer) (s : AccuracyStore) (files : List ReviewFile) :
    averageIsHuge (r.sequential s files).findings = false := by
  have hrange : ∀ x ∈ (r.sequential s files).findings, 0 ≤ x.confidence ∧ x.confidence ≤ 100 := by
    intro x hx
    obtain ⟨f, -, hx⟩ := List.mem_flatMap.1 ((r.findings_sequential_perm s files).mem_iff.1 hx)
    obtain ⟨line, -, hx⟩ := List.mem_flatMap.1 hx
    obtain ⟨issue, -, rfl⟩ := List.mem_map.1 hx
    exact score_mem_range s issue _
  exact averageIsHuge_eq_false hrange

/-- One more verdict on a rule moves the confidence in the findings of this rule alone, and in its own
direction. It neither adds nor drops findings, and of the summary it changes the mean confidence
only. None of the quotients behind the numbers gets out of range, however many verdicts there are. -/
theorem run_record_moves {r : Reviewer} {verdicts : List Verdict} {inTime : ReviewFile → Bool}
    {values : List Value} {run : ReviewRun}
    (hrun : r.run (.ofVerdicts verdicts) {} inTime values = .ok run) (ruleId : String)
    (correct : Bool) :
    ∃ run', r.run ((AccuracyStore.ofVerdicts verdicts).record ruleId correct) {} inTime values =
        .ok run' ∧
      run.result.Moves ruleId correct run'.result ∧
      (∀ id, Confidence.historyIsHuge ((AccuracyStore.ofVerdicts verdicts).record ruleId correct) id =
        false) ∧
      averageIsHuge run'.result.findings = false := by
  obtain ⟨hlimits, files, hfiles, hwait, rfl⟩ := run_eq_ok.1 hrun
  have htallies := AccuracyStore.tallies_ofVerdicts verdicts
  refine ⟨_, run_eq_ok.2 ⟨hlimits, files, hfiles, hwait, rfl⟩, ?_, ?_, ?_⟩
  · exact moves_sequential r htallies ruleId correct files
  · exact Confidence.historyIsHuge_eq_false (htallies.record ruleId correct)
  · exact averageIsHuge_sequential r _ files

/-- The first verdict on a rule replaces its fixed points, here after a verdict on another rule. -/
theorem run_record_moves_of_first_verdict :
    let r : Reviewer := { rules := {}, detectors := [.secrets, .dangerous] }
    let values : List Value := [.table [("path", .text "app.js"), ("changed_lines",
      .list [.table [("line", .int 7), ("content", .text "token = 'x'; eval(code)")]])]]
    let s := AccuracyStore.ofVerdicts [("dangerous-eval", false)]
    ∃ run run', r.run s {} (fun _ => true) values = .ok run ∧
      r.run (s.record "hardcoded-secrets" true) {} (fun _ => true) values = .ok run' ∧
      run.result.Moves "hardcoded-secrets" true run'.result := by
  intro r values s
  let f : ReviewFile := { path := "app.js", changed := some [⟨7, "token = 'x'; eval(code)"⟩] }
  have hrun : r.run s {} (fun _ => true) values = .ok (r.runFiles s {} (fun _ => true) [f]) := rfl
  obtain ⟨run', hrun', hmoves, -⟩ := run_record_moves hrun "hardcoded-secrets" true
  exact ⟨_, run', hrun, hrun', hmoves⟩

end Reviewer
end PatchReview
