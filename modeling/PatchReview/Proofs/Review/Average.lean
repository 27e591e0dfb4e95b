import PatchReview.Proofs.Number.Exact
import PatchReview.Proofs.Review.Additive
import PatchReview.Proofs.Review.Feedback

/-! The mean confidence as an exact number. It is found with two roundings, of the quotient and of the
sum with one half. For fewer than `2 ^ 46` findings neither of them shows, so that the mean has the
laws of exact arithmetic. -/
namespace PatchReview
variable {findings : List Finding}

theorem averageConfidence_eq_div (hne : findings ≠ []) (hlength : findings.length < 2 ^ 46)
    (hlow : 0 ≤ totalConfidence findings)
    (hhigh : totalConfidence findings ≤ findings.length * 100) :
    averageConfidence findings =
      (2 * totalConfidence findings + findings.length) / (2 * findings.length) := by
  have hpos : 0 < findings.length := List.length_pos_iff.2 hne
  have hsome : ¬ findings.isEmpty = true := mt List.isEmpty_iff.1 hne
  obtain ⟨total, htotal⟩ := Int.eq_ofNat_of_zero_le hlow
  rw [averageConfidence, if_neg hsome, htotal,
    roundQuotientHalfUp_eq_div hpos (b := 7) (by omega) (by decide) (by decide) (by omega)]
  push_cast
  rfl

/-- With one finding more than `2 ^ 46` a mean just below 64.5 is rounded to 65. -/
example : roundQuotientHalfUp 4538783999459392 (2 ^ 46 + 1) = 65 ∧
    (2 * 4538783999459392 + (2 ^ 46 + 1)) / (2 * (2 ^ 46 + 1)) = 64 := by decide +kernel

/-- A mean is not below a lower bound, and rounding up a half does not carry it above an upper one. -/
theorem rounded_mean_mem_range {total m : ℤ} {n : ℕ} (hpos : 0 < n) :
    (n * m ≤ total → m ≤ (2 * total + n) / (2 * n)) ∧
      (total ≤ n * m → (2 * total + n) / (2 * n) ≤ m) := by
  have hden : (0 : ℤ) < 2 * n := by omega
  constructor
  · intro h
    rw [Int.le_ediv_iff_mul_le hden]
    linarith
  · intro h
    rw [← Int.lt_add_one_iff, Int.ediv_lt_iff_lt_mul hden]
    linarith

/-- The summary of fewer than `2 ^ 46` findings shows their exact mean confidence, rounded half up. It
is between the least and the greatest confidence and does not depend on the order. -/
theorem averageConfidence_is_exact (hne : findings ≠ []) (hlength : findings.length < 2 ^ 46)
    (hrange : ∀ x ∈ findings, 0 ≤ x.confidence ∧ x.confidence ≤ 100) :
    averageIsHuge findings = false ∧
    averageConfidence findings =
      (2 * (findings.map (·.confidence)).sum + findings.length) / (2 * findings.length) ∧
    (∀ m, (∀ x ∈ findings, m ≤ x.confidence) → m ≤ averageConfidence findings) ∧
    (∀ m, (∀ x ∈ findings, x.confidence ≤ m) → averageConfidence findings ≤ m) ∧
    (∀ findings', findings.Perm findings' →
      averageConfidence findings' = averageConfidence findings) ∧
    ∀ stats tone, Summary.text findings stats tone =
      Summary.beforeAverage stats ++ toString (averageConfidence findings) ++
        Summary.afterAverage tone := by
  have hpos : 0 < findings.length := List.length_pos_iff.2 hne
  have hexact := averageConfidence_eq_div hne hlength
    (by simpa using le_totalConfidence fun x hx => (hrange x hx).1)
    (totalConfidence_le fun x hx => (hrange x hx).2)
  refine ⟨averageIsHuge_eq_false hrange, ?_, ?_, ?_, ?_, ?_⟩
  · rw [← totalConfidence_eq_sum, hexact]
  · intro m hm
    rw [hexact]
    exact (rounded_mean_mem_range hpos).1 (le_totalConfidence hm)
  · intro m hm
    rw [hexact]
    exact (rounded_mean_mem_range hpos).2 (totalConfidence_le hm)
  · exact fun findings' hperm => (averageConfidence_perm hperm).symm
  · exact Summary.text_of_isEmpty_eq_false (List.isEmpty_eq_false_iff.2 hne)

/-- A mean that is a half. -/
theorem averageConfidence_is_exact_of_half :
    let finding (confidence : ℤ) : Finding :=
      { path := "app.js", line := 7, message := "Avoid eval", suggestion := none,
        severity := "critical", confidence, category := .bug, sortOrder := 1 }
    let findings := [finding 80, finding 85]
    (∀ x ∈ findings, 0 ≤ x.confidence ∧ x.confidence ≤ 100) ∧ averageConfidence findings = 83 ∧
      ∀ findings', findings.Perm findings' → averageConfidence findings' = 83 := by
  intro finding findings
  have hrange : ∀ x ∈ findings, 0 ≤ x.confidence ∧ x.confidence ≤ 100 := by
    simp only [findings, finding, List.forall_mem_cons]
    decide
  obtain ⟨-, hexact, -, -, hperm, -⟩ :=
    averageConfidence_is_exact (List.cons_ne_nil _ _) (by decide) hrange
  have hmean : averageConfidence findings = 83 := by
    rw [hexact]
    decide
  exact ⟨hrange, hmean, fun findings' h => (hperm findings' h).trans hmean⟩

end PatchReview
