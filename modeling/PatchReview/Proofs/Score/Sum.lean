import PatchReview.Proofs.Number.Exact
import PatchReview.Proofs.Score.Bands

/-! The score as an exact sum. Whatever numbers of verdicts a store holds, none of the points leave
their range, so the bounds of the score are never needed. For fewer than `2 ^ 49` verdicts on a rule
the points for earlier findings are those of exact arithmetic. -/
namespace PatchReview.Confidence
variable {s : AccuracyStore} {ruleId : String} {c f : ℕ}

theorem total_natCast (c f : ℕ) : Tally.total ⟨c, f⟩ = (c + f : ℕ) := (Nat.cast_add c f).symm

theorem tally?_of_verdicts (hrule : ruleId ≠ "") (hget : s.get? ruleId = some ⟨c, f⟩)
    (hpos : 0 < c + f) : tally? s (some ruleId) = some ⟨c, f⟩ := by
  have hnamed : (ruleId != "") = true := bne_iff_ne.2 hrule
  have htotal : decide (0 < Tally.total ⟨c, f⟩) = true := by
    rw [decide_eq_true_iff, total_natCast]
    exact_mod_cast hpos
  rw [tally?, Option.filter_some, if_pos hnamed, Option.bind_some, hget, Option.filter_some,
    if_pos htotal]

/-- A share of twentieths is below `2 ^ 5`. With 49 digits of the denominator that leaves no room for
rounding up. -/
theorem historyPoints_eq_div (hrule : ruleId ≠ "") (hget : s.get? ruleId = some ⟨c, f⟩)
    (hpos : 0 < c + f) (hsmall : c + f < 2 ^ 49) :
    historyPoints s (some ruleId) = (20 * c / (c + f) : ℕ) := by
  rw [historyPoints, tally?_of_verdicts hrule hget hpos]
  simp only [total_natCast, Int.toNat_natCast]
  exact_mod_cast floorQuotient_eq_div hpos (b := 5) (by omega) (by omega)

/-- With one verdict more than `2 ^ 49` a share just below 17 twentieths is rounded up. -/
example : floorQuotient (20 * 478507460408116) (2 ^ 49 + 1) = 17 ∧
    20 * 478507460408116 / (2 ^ 49 + 1) = 16 := by decide +kernel

/-- The score is computed without failure, as the plain sum of points in their ranges. The points for
earlier findings are the exact share of right ones in whole twentieths, as long as there are fewer
than `2 ^ 49` verdicts on the rule. -/
theorem score_is_exact_sum (h : s.HasCounts) (issue : Issue) (context : ScoreContext) :
    historyIsHuge s issue.ruleId = false ∧
    score s issue context = evidencePoints issue + contextPoints issue context +
      rulePoints issue + historyPoints s issue.ruleId ∧
    (0 ≤ score s issue context ∧ score s issue context ≤ 100) ∧
    (0 ≤ evidencePoints issue ∧ evidencePoints issue ≤ 30) ∧
    (0 ≤ contextPoints issue context ∧ contextPoints issue context ≤ 30) ∧
    (0 ≤ rulePoints issue ∧ rulePoints issue ≤ 20) ∧
    (0 ≤ historyPoints s issue.ruleId ∧ historyPoints s issue.ruleId ≤ 20) ∧
    ∀ (ruleId : String) (c f : ℕ), issue.ruleId = some ruleId → ruleId ≠ "" →
      s.get? ruleId = some ⟨c, f⟩ → 0 < c + f → c + f < 2 ^ 49 →
      historyPoints s issue.ruleId = (20 * c / (c + f) : ℕ) := by
  have hevidence := le_evidencePoints issue
  have hevidence' := evidencePoints_le issue
  have hcontext := contextPoints_mem_range issue context
  have hrule := rulePoints_mem_range issue
  have hhistory := historyPoints_nonneg h issue.ruleId
  have hhistory' := historyPoints_le h issue.ruleId
  have hsum := score_eq h issue context
  refine ⟨historyIsHuge_of_hasCounts h issue.ruleId, hsum, by omega, ⟨by omega, hevidence'⟩,
    hcontext, hrule, ⟨hhistory, hhistory'⟩, ?_⟩
  · intro ruleId c f hid hnamed hget hpos hsmall
    rw [hid]
    exact historyPoints_eq_div hnamed hget hpos hsmall

/-- Numbers of any size, and a share that exact arithmetic leaves just below 20 twentieths. -/
theorem score_is_exact_sum_of_large_numbers :
    let s : AccuracyStore :=
      ⟨[("no-eval", ⟨10 ^ 400, 3⟩), ("todo", ⟨0, 0⟩), ("no-var", ⟨2 ^ 49 - 2, 1⟩)]⟩
    let issue : Issue := { message := "Use const", ruleId := some "no-var", language := some "js" }
    let context : ScoreContext := { path := "app.js", language := "js" }
    s.HasCounts ∧ historyPoints s issue.ruleId = 19 ∧ score s issue context = 15 + 30 + 15 + 19 := by
  intro s issue context
  have hcounts : s.HasCounts := by
    refine AccuracyStore.hasCounts_of_entries ?_
    simp only [s, List.forall_mem_cons]
    refine ⟨⟨?_, ?_⟩, ⟨?_, ?_⟩, ⟨?_, ?_⟩, List.forall_mem_nil _⟩ <;> decide
  obtain ⟨-, hsum, -, -, -, -, -, hexact⟩ := score_is_exact_sum hcounts issue context
  have hhistory : historyPoints s issue.ruleId = 19 :=
    hexact "no-var" (2 ^ 49 - 2) 1 rfl (by decide) rfl (by decide) (by decide)
  refine ⟨hcounts, hhistory, ?_⟩
  rw [hsum, hhistory]
  decide +kernel

end PatchReview.Confidence
