import Mathlib.Tactic.NormNum
import PatchReview.Number.Binary64
import PatchReview.Proofs.Number.Rounding

/-! The range of 64-bit floating point. Integers are out of range from the one on that is half a
unit below the power of two behind the largest number; that one is a tie, which goes to the power.
-/
namespace PatchReview

/-- Just below an even number, the nearest integer is that number from half a unit on. -/
theorem IsNearestEven.eq_iff {x : ℚ} {m k : ℕ} (h : IsNearestEven x m) (hk : k % 2 = 0)
    (hx : x ≤ k) : m = k ↔ (k : ℚ) - 1 / 2 ≤ x := by
  constructor
  · rintro rfl
    exact h.sub_half_le
  · intro hhalf
    have hle : m ≤ k := h.le (.natCast k) hx
    refine hle.eq_or_lt.resolve_right fun hlt => ?_
    have hcast : (m : ℚ) + 1 ≤ k := by exact_mod_cast hlt
    have hhigh := h.le_add_half
    have hnext : (m : ℚ) + 1 = k := by linarith
    have heven := h.even_of_eq_add_half (by linarith)
    have hnext' : m + 1 = k := by exact_mod_cast hnext
    omega

namespace Scaled

theorem limit_eq : 2 ^ 1024 - 2 ^ 970 = (2 ^ 54 - 1) * 2 ^ 970 := by
  rw [Nat.sub_mul, one_mul, ← pow_add]

/-- The integers out of range, in units of the last digit at the end of the range. -/
theorem half_unit_le_iff (n : ℕ) :
    ((2 ^ 53 : ℕ) : ℚ) - 1 / 2 ≤ n / 2 ^ (971 : ℤ) ↔ 2 ^ 1024 - 2 ^ 970 ≤ n := by
  have hunit : (2 : ℚ) ^ (971 : ℤ) = ((2 ^ 970 : ℕ) : ℚ) * 2 := by
    rw [Nat.cast_pow, Nat.cast_ofNat, ← pow_succ]
    exact zpow_natCast 2 971
  have hend : (((2 ^ 53 : ℕ) : ℚ) - 1 / 2) * 2 ^ (971 : ℤ) = ((2 ^ 1024 - 2 ^ 970 : ℕ) : ℚ) := by
    rw [limit_eq, hunit, Nat.cast_mul]
    generalize ((2 ^ 970 : ℕ) : ℚ) = u
    push_cast
    ring
  rw [le_div_iff₀ (zpow_pos two_pos _), hend, Nat.cast_le]

theorem isHuge_ofQuotient_one_iff (n : ℕ) :
    (ofQuotient n 1).isHuge = true ↔ 2 ^ 1024 - 2 ^ 970 ≤ n := by
  by_cases hn : n = 0
  · rw [hn]
    refine iff_of_false (by decide) ?_
    rw [limit_eq]
    exact not_le.2 (Nat.mul_pos (by decide) (pow_pos two_pos 970))
  obtain ⟨hlow, hhigh⟩ := floorLog2_spec hn one_ne_zero
  rw [Nat.cast_one, div_one] at hlow hhigh
  rw [isHuge, decide_eq_true_iff, ofQuotient_eq hn]
  rcases lt_trichotomy (floorLog2 n 1) 1023 with hlog | hlog | hlog
  · have hgrid : gridExponent n 1 ≤ 970 := max_le (by omega) (by decide)
    refine iff_of_false ?_ ?_
    · split
      · dsimp only
        omega
      · dsimp only
        omega
    · have hlt : (n : ℚ) < 2 ^ (1023 : ℤ) :=
        hhigh.trans_le (zpow_le_zpow_right₀ one_le_two (by omega))
      have hnat : n < 2 ^ 1023 := by exact_mod_cast hlt
      refine not_le.2 (hnat.trans_le ?_)
      rw [limit_eq, show 1023 = 53 + 970 from rfl, pow_add]
      exact Nat.mul_le_mul_right _ (by decide)
  · -- The last power of two in range: its grid ends at the power behind it.
    have hgrid : gridExponent n 1 = 971 := by
      rw [gridExponent, hlog]
      decide
    have hpoint : IsNearestEven (n / (1 : ℕ) / 2 ^ gridExponent n 1) (gridPoint n 1) :=
      isNearestEven_gridPoint one_pos
    rw [hgrid, Nat.cast_one, div_one] at hpoint
    have hbelow : (n : ℚ) / 2 ^ (971 : ℤ) ≤ (2 ^ 53 : ℕ) := by
      rw [div_le_iff₀ (zpow_pos two_pos _)]
      rw [hlog] at hhigh
      refine hhigh.le.trans_eq ?_
      rw [Nat.cast_pow, Nat.cast_ofNat, ← zpow_natCast, ← zpow_add₀ two_ne_zero]
      rfl
    rw [← half_unit_le_iff, ← hpoint.eq_iff (by decide) hbelow, hgrid]
    split
    · next h => exact iff_of_true (show (971 : ℤ) < 971 + 1 by decide) h
    · next h => exact iff_of_false (lt_irrefl (971 : ℤ)) h
  · have hgrid : 972 ≤ gridExponent n 1 := le_max_of_le_left (by omega)
    refine iff_of_true ?_ ?_
    · split
      · dsimp only
        omega
      · dsimp only
        omega
    · have hle : (2 : ℚ) ^ (1024 : ℤ) ≤ n :=
        (zpow_le_zpow_right₀ one_le_two (by omega)).trans hlow
      have hnat : 2 ^ 1024 ≤ n := by exact_mod_cast hle
      exact (Nat.sub_le _ _).trans hnat

end Scaled

namespace Binary64

theorem ofInt?_eq_none_iff {n : ℤ} : ofInt? n = none ↔ 2 ^ 1024 - 2 ^ 970 ≤ n.natAbs := by
  rw [← Scaled.isHuge_ofQuotient_one_iff, ofInt?]
  split
  · next h => exact iff_of_true rfl h
  · next h => exact iff_of_false (Option.some_ne_none _) h

/-- A number above zero, or the infinite one. -/
def IsPositive : Binary64 → Prop
  | finite negative x => negative = false ∧ 0 < x.significand
  | infinite negative => negative = false
  | notANumber => False

/-- What is no number passes a test for numbers that are not positive. -/
theorem isNonPositive_eq_false_iff {x : Binary64} :
    x.isNonPositive = false ↔ x.IsPositive ∨ x = notANumber := by
  cases x with
  | finite negative x =>
    rw [isNonPositive, IsPositive, Bool.or_eq_false_iff, beq_eq_false_iff_ne, Nat.pos_iff_ne_zero]
    refine (or_iff_left ?_).symm
    intro h
    cases h
  | infinite negative =>
    refine (or_iff_left ?_).symm
    intro h
    cases h
  | notANumber => exact iff_of_true rfl (.inr rfl)

end Binary64
end PatchReview
