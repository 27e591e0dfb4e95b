import PatchReview.Proofs.Number.Rounding
import PatchReview.Proofs.Score.Tally

/-! What one more verdict does to scores. The points for earlier findings of a rule follow the share of
right ones among them, and one more verdict moves the share in its own direction. The first verdict
replaces points that are fixed, which lie between those for none right and for all right. -/
namespace PatchReview

namespace Tally

variable {t : Tally}

theorem IsCount.add (h : t.IsCount) (correct : Bool) : (t.add correct).IsCount := by
  obtain ⟨hc, hi⟩ := h
  cases correct with
  | false => exact ⟨hc, Int.le_add_one hi⟩
  | true => exact ⟨Int.le_add_one hc, hi⟩

theorem IsCount.total_nonneg (h : t.IsCount) : 0 ≤ t.total := Int.add_nonneg h.correct h.incorrect

theorem total_add (t : Tally) (correct : Bool) : (t.add correct).total = t.total + 1 := by
  cases correct with
  | false => exact (Int.add_assoc _ _ _).symm
  | true => exact Int.add_right_comm _ _ _

end Tally

namespace Confidence

/-- The points that a tally stands for, and fixed points where there are no verdicts. -/
def tallyPoints (ruleId : String) (t : Tally) : Int :=
  if 0 < t.total then floorQuotient (20 * t.correct) t.total.toNat else fixedPoints ruleId

theorem fixedPoints_le (ruleId : String) : fixedPoints ruleId ≤ 20 := by
  rw [fixedPoints]
  split
  · decide
  · split <;> decide

variable {t t' : Tally}

/-- The share is compared by cross products. -/
theorem floorQuotient_le_of_share (h : t.IsCount) (ht : 0 < t.total) (ht' : 0 < t'.total)
    (hshare : t.correct * t'.total ≤ t'.correct * t.total) :
    floorQuotient (20 * t.correct) t.total.toNat ≤
      floorQuotient (20 * t'.correct) t'.total.toNat := by
  refine floorQuotient_mono (Int.mul_nonneg (by decide) h.correct) (by omega) (by omega) ?_
  rw [Int.toNat_of_nonneg ht.le, Int.toNat_of_nonneg ht'.le, mul_assoc, mul_assoc]
  exact Int.mul_le_mul_of_nonneg_left hshare (by decide)

/-- Without verdicts the tally is empty, so the share after the first one is all or nothing. -/
theorem add_eq_of_total_eq_zero (h : t.IsCount) (ht : t.total = 0) (correct : Bool) :
    t.add correct = if correct then ⟨1, 0⟩ else ⟨0, 1⟩ := by
  obtain ⟨c, i⟩ := t
  obtain ⟨hc, hi⟩ := h
  simp only [Tally.total] at ht hc hi
  obtain ⟨rfl, rfl⟩ : c = 0 ∧ i = 0 := by omega
  cases correct <;> rfl

theorem tallyPoints_le_add_true (h : t.IsCount) (ruleId : String) :
    tallyPoints ruleId t ≤ tallyPoints ruleId (t.add true) := by
  have htotal := Tally.total_add t true
  rcases h.total_nonneg.eq_or_lt with hzero | hpos
  · have hfixed : tallyPoints ruleId t = fixedPoints ruleId := if_neg (by omega)
    rw [hfixed, add_eq_of_total_eq_zero h hzero.symm]
    exact fixedPoints_le ruleId
  · rw [tallyPoints, tallyPoints, if_pos hpos, if_pos (by omega)]
    refine floorQuotient_le_of_share h hpos (by omega) ?_
    have hle : t.correct ≤ t.total := Int.le_add_of_nonneg_right h.incorrect
    calc t.correct * (t.add true).total
      _ = t.correct * t.total + t.correct := by rw [htotal, mul_add, mul_one]
      _ ≤ t.correct * t.total + t.total := by omega
      _ = (t.add true).correct * t.total := by rw [Tally.add, if_pos rfl, add_mul, one_mul]

theorem tallyPoints_add_false_le (h : t.IsCount) (ruleId : String) :
    tallyPoints ruleId (t.add false) ≤ tallyPoints ruleId t := by
  have htotal := Tally.total_add t false
  rcases h.total_nonneg.eq_or_lt with hzero | hpos
  · have hfixed : tallyPoints ruleId t = fixedPoints ruleId := if_neg (by omega)
    have hnone : tallyPoints ruleId ⟨0, 1⟩ = 0 := by
      rw [tallyPoints, if_pos (by decide), mul_zero]
      exact floorQuotient_zero _
    rw [hfixed, add_eq_of_total_eq_zero h hzero.symm, if_neg Bool.false_ne_true, hnone]
    exact fixedPoints_nonneg ruleId
  · rw [tallyPoints, tallyPoints, if_pos hpos, if_pos (by omega)]
    refine floorQuotient_le_of_share (h.add false) (by omega) hpos ?_
    calc (t.add false).correct * t.total
      _ = t.correct * t.total := rfl
      _ ≤ t.correct * (t.add false).total := by
        rw [htotal]
        exact Int.mul_le_mul_of_nonneg_left (by omega) h.correct

variable {s : AccuracyStore} {verdicts : List Verdict}

/-- The empty text names no rule. -/
theorem historyPoints_some (h : s.Tallies verdicts) {ruleId : String} (hrule : ruleId ≠ "") :
    historyPoints s (some ruleId) = tallyPoints ruleId (Tally.ofVerdicts verdicts ruleId) := by
  have htally : tally? s (some ruleId) =
      (Tally.ofVerdicts? verdicts ruleId).filter (0 < ·.total) := by
    rw [tally?, Option.filter_some, if_pos (by simpa using hrule), Option.bind_some, h.get?_eq]
  rw [historyPoints, htally, ← Tally.getD_ofVerdicts?]
  cases Tally.ofVerdicts? verdicts ruleId with
  | none => rfl
  | some t =>
      by_cases ht : 0 < t.total
      · simp [tallyPoints, Option.filter_some, ht]
      · simp [tallyPoints, Option.filter_some, ht]

/-- Verdicts on a rule do not show in the points for another one. -/
theorem historyPoints_record_of_ne {r : String} {ruleId : Option String} (hrule : ruleId ≠ some r)
    (s : AccuracyStore) (correct : Bool) :
    historyPoints (s.record r correct) ruleId = historyPoints s ruleId := by
  have htally : tally? (s.record r correct) ruleId = tally? s ruleId := by
    rw [tally?, tally?]
    refine Option.bind_congr fun id hid => ?_
    obtain ⟨hid, -⟩ := Option.filter_eq_some_iff.1 hid
    have hne : r ≠ id := fun h => hrule (hid.trans (congrArg some h.symm))
    rw [AccuracyStore.get?_record, if_neg hne]
  rw [historyPoints, historyPoints, htally]

/-- What points and scores do after one more verdict on the rule `r`, where `x` is the value before it
and `y` the value after it, for an issue of the rule `ruleId`. -/
structure Moves (r : String) (correct : Bool) (ruleId : Option String) (x y : Int) : Prop where
  eq_of_ne : ruleId ≠ some r → y = x
  le_of_correct : correct = true → x ≤ y
  ge_of_incorrect : correct = false → y ≤ x

theorem moves_self (r : String) (correct : Bool) (ruleId : Option String) (x : Int) :
    Moves r correct ruleId x x :=
  ⟨fun _ => rfl, fun _ => le_rfl, fun _ => le_rfl⟩

theorem moves_historyPoints (h : s.Tallies verdicts) (r : String) (correct : Bool)
    (ruleId : Option String) :
    Moves r correct ruleId (historyPoints s ruleId) (historyPoints (s.record r correct) ruleId) := by
  by_cases hrule : ruleId = some r
  · subst hrule
    by_cases hempty : r = ""
    · subst hempty
      exact moves_self _ _ _ _
    · have hcount := Tally.isCount_ofVerdicts verdicts r
      rw [historyPoints_some h hempty, historyPoints_some (h.record r correct) hempty,
        Tally.ofVerdicts_append, if_pos rfl]
      refine ⟨fun hne => absurd rfl hne, ?_, ?_⟩
      · rintro rfl
        exact tallyPoints_le_add_true hcount r
      · rintro rfl
        exact tallyPoints_add_false_le hcount r
  · rw [historyPoints_record_of_ne hrule]
    exact moves_self _ _ _ _

/-- The other points stay as they are, and bounds keep the order. -/
theorem moves_score (h : s.Tallies verdicts) (r : String) (correct : Bool) (issue : Issue)
    (context : ScoreContext) :
    Moves r correct issue.ruleId (score s issue context)
      (score (s.record r correct) issue context) := by
  obtain ⟨heq, hle, hge⟩ := moves_historyPoints h r correct issue.ruleId
  rw [score, score]
  refine ⟨fun hne => ?_, fun hcorrect => ?_, fun hincorrect => ?_⟩
  · rw [heq hne]
  · have := hle hcorrect
    omega
  · have := hge hincorrect
    omega

/-- The share of right findings is at most one, so twenty times it is a number in range. -/
theorem historyIsHuge_of_hasCounts (h : s.HasCounts) (ruleId : Option String) :
    historyIsHuge s ruleId = false := by
  rw [historyIsHuge]
  cases ht : tally? s ruleId with
  | none => rfl
  | some t =>
      obtain ⟨⟨hc, hi⟩, htotal⟩ := isCount_of_tally? h ht
      rw [Tally.total] at htotal
      refine quotientIsHuge_eq_false (k := 20) ?_ (by decide) ?_
      · rw [Tally.total]
        omega
      · rw [Tally.total]
        omega

theorem historyIsHuge_eq_false (h : s.Tallies verdicts) (ruleId : Option String) :
    historyIsHuge s ruleId = false :=
  historyIsHuge_of_hasCounts h.hasCounts ruleId

end Confidence
end PatchReview
