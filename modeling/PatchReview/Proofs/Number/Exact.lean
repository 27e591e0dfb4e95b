import Mathlib.Data.Nat.Cast.Order.Field
import PatchReview.Proofs.Number.Rounding

/-! Where rounding does no harm. A number of at most 53 digits is a point of every grid that it is
rounded to, so it stays as it is and rounding never passes it. Any other number moves by half of the
spacing at most. A quotient by a number that is not too large is farther than that from the integer,
or the half, above it; so the integer below is found as if nothing had been rounded. -/
namespace PatchReview

theorem IsNearestEven.eq_of_natCast {m n : ℕ} (h : IsNearestEven m n) : n = m :=
  le_antisymm (h.le (.natCast m) le_rfl) ((IsNearestEven.natCast m).le h le_rfl)

namespace Scaled
variable {num den : ℕ} {x : ℚ}

/-- The number has 53 binary digits at most, and none below the least exponent. -/
def Fits (x : ℚ) : Prop := ∃ (m : ℕ) (e : ℤ), m < 2 ^ 53 ∧ minExponent ≤ e ∧ x = m * 2 ^ e

theorem fits_natCast {n : ℕ} (h : n < 2 ^ 53) : Fits n := ⟨n, 0, h, by decide, by simp⟩

theorem fits_natCast_add_half {n : ℕ} (h : n < 2 ^ 52) : Fits (n + 1 / 2) := by
  refine ⟨2 * n + 1, -1, by omega, by decide, ?_⟩
  push_cast
  rw [zpow_neg_one]
  ring

theorem gridExponent_le {b : ℤ} (hnum : num ≠ 0) (hden : 0 < den) (hb : minExponent ≤ b - 53)
    (h : (num : ℚ) / den < 2 ^ b) : gridExponent num den ≤ b - 53 := by
  have hlog : floorLog2 num den < b :=
    (zpow_lt_zpow_iff_right₀ one_lt_two).1 ((floorLog2_spec hnum hden.ne').1.trans_lt h)
  exact max_le (by omega) hb

/-- A number that fits is a multiple of the spacing at it. -/
theorem toRat_ofQuotient_of_fits (hden : 0 < den) (h : Fits (num / den)) :
    (ofQuotient num den).toRat = num / den := by
  by_cases hnum : num = 0
  · rw [hnum, toRat_ofQuotient_zero, Nat.cast_zero, zero_div]
  obtain ⟨m, e, hm, he, hx⟩ := h
  have hlt : (num : ℚ) / den < 2 ^ (e + 53) := by
    have hcast : (m : ℚ) < 2 ^ (53 : ℤ) := by exact_mod_cast hm
    rw [hx, add_comm, zpow_add₀ two_ne_zero]
    gcongr
  have hgrid : gridExponent num den ≤ e := by
    have := gridExponent_le hnum hden (by omega) hlt
    omega
  obtain ⟨k, hk⟩ := Int.eq_ofNat_of_zero_le (sub_nonneg.2 hgrid)
  have hsplit : (2 : ℚ) ^ e = 2 ^ k * 2 ^ gridExponent num den := by
    rw [← zpow_natCast, ← zpow_add₀ two_ne_zero, ← hk, sub_add_cancel]
  have hunits : (num : ℚ) / den / 2 ^ gridExponent num den = (m * 2 ^ k : ℕ) := by
    rw [hx, hsplit, ← mul_assoc, mul_div_cancel_right₀ _ (zpow_ne_zero _ two_ne_zero)]
    push_cast
    rfl
  have hpoint : gridPoint num den = m * 2 ^ k :=
    IsNearestEven.eq_of_natCast (hunits ▸ isNearestEven_gridPoint hden)
  rw [toRat_ofQuotient hnum, hpoint, hx, hsplit]
  push_cast
  ring

theorem Fits.exists_quotient (h : Fits x) : ∃ a b : ℕ, 0 < b ∧ x = a / b := by
  obtain ⟨m, e, -, -, rfl⟩ := h
  refine ⟨m * Nat.pow 2 e.toNat, Nat.pow 2 (-e).toNat, Nat.two_pow_pos _, ?_⟩
  rw [zpow_eq_div, Nat.cast_mul, mul_div_assoc]

/-- Rounding does not pass a number that fits. -/
theorem Fits.toRat_ofQuotient_le (hx : Fits x) (hden : 0 < den) (h : (num : ℚ) / den ≤ x) :
    (ofQuotient num den).toRat ≤ x := by
  obtain ⟨a, b, hb, rfl⟩ := hx.exists_quotient
  rw [← toRat_ofQuotient_of_fits hb hx]
  exact toRat_ofQuotient_mono hden hb h

theorem Fits.le_toRat_ofQuotient (hx : Fits x) (hden : 0 < den) (h : x ≤ num / den) :
    x ≤ (ofQuotient num den).toRat := by
  obtain ⟨a, b, hb, rfl⟩ := hx.exists_quotient
  rw [← toRat_ofQuotient_of_fits hb hx]
  exact toRat_ofQuotient_mono hb hden h

/-- Below a power of two the spacing is known, and rounding adds half of it at most. -/
theorem toRat_ofQuotient_le_add {b : ℤ} (hden : 0 < den) (hb : minExponent ≤ b - 53)
    (h : (num : ℚ) / den < 2 ^ b) : (ofQuotient num den).toRat ≤ num / den + 2 ^ (b - 54) := by
  by_cases hnum : num = 0
  · rw [hnum, toRat_ofQuotient_zero]
    positivity
  have hpos : (0 : ℚ) < 2 ^ gridExponent num den := zpow_pos two_pos _
  have hpoint : (gridPoint num den : ℚ) - 1 / 2 ≤ num / den / 2 ^ gridExponent num den :=
    (isNearestEven_gridPoint hden).sub_half_le
  rw [le_div_iff₀ hpos, sub_mul] at hpoint
  have hspacing : (2 : ℚ) ^ gridExponent num den ≤ 2 * 2 ^ (b - 54) := by
    calc (2 : ℚ) ^ gridExponent num den
      _ ≤ 2 ^ (b - 54 + 1) := zpow_le_zpow_right₀ one_le_two
          ((gridExponent_le hnum hden hb h).trans (by omega))
      _ = 2 * 2 ^ (b - 54) := by rw [zpow_add_one₀ two_ne_zero, mul_comm]
  rw [toRat_ofQuotient hnum]
  linarith

theorem gridPoint_le (hnum : num ≠ 0) (hden : 0 < den) : gridPoint num den ≤ 2 ^ 53 := by
  have hpos : (0 : ℚ) < 2 ^ gridExponent num den := zpow_pos two_pos _
  have hle := Scaled.toRat_ofQuotient_le hnum hden
  rw [toRat_ofQuotient hnum, add_comm, zpow_add₀ two_ne_zero] at hle
  exact_mod_cast le_of_mul_le_mul_right hle hpos

/-! The sum with one half -/

theorem toRat_addHalf (x : Scaled) : ∃ num den : ℕ, 0 < den ∧ (num : ℚ) / den = x.toRat + 1 / 2 ∧
    x.addHalf = ofQuotient num den := by
  have hden : 0 < x.den := Nat.two_pow_pos _
  refine ⟨2 * x.num + x.den, 2 * x.den, by omega, ?_, rfl⟩
  have hne : (x.den : ℚ) ≠ 0 := by exact_mod_cast hden.ne'
  rw [← num_div_den]
  push_cast
  field_simp

/-- The sum with one half has no more digits than the number, unless it passes a power of two. Then
it is not farther than one half from the power, and far from the next integer. -/
theorem toRat_addHalf_lt {x : Scaled} {m n : ℕ} {e : ℤ} (hx : x.toRat = m * 2 ^ e)
    (hm : m ≤ 2 ^ 53) (he : -53 ≤ e) (he' : e ≤ -2) (h : x.toRat < n + 1 / 2) :
    x.addHalf.toRat < n + 1 := by
  obtain ⟨num, den, hden, hsum, heq⟩ := toRat_addHalf x
  obtain ⟨k, hk⟩ := Int.eq_ofNat_of_zero_le (show 0 ≤ -e - 1 by omega)
  have hhalf : (1 / 2 : ℚ) = (2 ^ k : ℕ) * 2 ^ e := by
    rw [Nat.cast_pow, Nat.cast_ofNat, ← zpow_natCast, ← zpow_add₀ two_ne_zero,
      ← hk, show -e - 1 + e = -1 by ring, zpow_neg_one, one_div]
  have hdigits : (num : ℚ) / den = (m + 2 ^ k : ℕ) * 2 ^ e := by
    rw [hsum, hx, hhalf, ← add_mul, ← Nat.cast_add]
  rw [heq]
  by_cases hfits : m + 2 ^ k < 2 ^ 53
  · have hmin : minExponent ≤ e := le_trans (by decide) he
    rw [toRat_ofQuotient_of_fits hden ⟨_, e, hfits, hmin, hdigits⟩, hsum]
    linarith
  · obtain ⟨j, hj⟩ := Int.eq_ofNat_of_zero_le (show 0 ≤ e + 53 by omega)
    have hpower : ((2 ^ j : ℕ) : ℚ) = 2 ^ 53 * 2 ^ e := by
      rw [Nat.cast_pow, Nat.cast_ofNat, ← zpow_natCast, ← hj, add_comm, zpow_add₀ two_ne_zero]
      rfl
    have hle : x.toRat ≤ (2 ^ j : ℕ) := by
      rw [hx, hpower]
      gcongr
      exact_mod_cast hm
    have hpassed : ((2 ^ j : ℕ) : ℚ) ≤ x.toRat + 1 / 2 := by
      rw [← hsum, hdigits, hpower]
      gcongr
      exact_mod_cast not_lt.1 hfits
    have hjn : 2 ^ j ≤ n := by
      have hlt : ((2 ^ j : ℕ) : ℚ) < (n + 1 : ℕ) := by
        push_cast at hpassed ⊢
        linarith
      exact Nat.lt_succ_iff.1 (by exact_mod_cast hlt)
    have hsmall : 2 ^ j < 2 ^ 52 := Nat.pow_lt_pow_right one_lt_two (by omega)
    have hround : (ofQuotient num den).toRat ≤ (2 ^ j : ℕ) + 1 / 2 :=
      (fits_natCast_add_half hsmall).toRat_ofQuotient_le hden (by rw [hsum]; linarith)
    have hcast : ((2 ^ j : ℕ) : ℚ) ≤ n := by exact_mod_cast hjn
    linarith

/-- One half is left of the way up to an integer, and the half below it fits. -/
theorem natCast_le_toRat_addHalf {n : ℕ} (hden : 0 < den) (hn : n < 2 ^ 52)
    (h : (n : ℚ) ≤ num / den + 1 / 2) : n ≤ (ofQuotient num den).addHalf.toRat := by
  obtain ⟨num', den', hden', hsum, heq⟩ := toRat_addHalf (ofQuotient num den)
  rw [heq]
  refine (fits_natCast (by omega)).le_toRat_ofQuotient hden' ?_
  rw [hsum]
  cases n with
  | zero =>
    have hnonneg := toRat_nonneg (ofQuotient num den)
    push_cast
    linarith
  | succ n =>
    push_cast at h ⊢
    have hhalf : (n : ℚ) + 1 / 2 ≤ (ofQuotient num den).toRat :=
      (fits_natCast_add_half (by omega)).le_toRat_ofQuotient hden (by linarith)
    linarith

/-- A quotient that is more than half of the spacing away from a half stays below it, and so does the
sum with one half below the next integer. -/
theorem toRat_addHalf_ofQuotient_lt {b n : ℕ} (hden : 0 < den) (hb : 1 ≤ b) (hb' : b ≤ 51)
    (hsize : (num : ℚ) / den < 2 ^ (b : ℤ)) (hlow : (n : ℚ) ≤ num / den + 1 / 2)
    (hhigh : (num : ℚ) / den < n + 1 / 2 - 2 ^ ((b : ℤ) - 54)) :
    (ofQuotient num den).addHalf.toRat < n + 1 := by
  cases n with
  | zero =>
    -- Below one half the spacing is so small that the sum would have a digit too many.
    have hunit : (2 : ℚ) ^ (-53 : ℤ) ≤ 2 ^ ((b : ℤ) - 54) :=
      zpow_le_zpow_right₀ one_le_two (by omega)
    have hbelow : (1 / 2 - 2 ^ (-53 : ℤ) : ℚ) = (2 ^ 52 - 1 : ℕ) * 2 ^ (-53 : ℤ) := by norm_num
    have hbelow' : (1 - 2 ^ (-53 : ℤ) : ℚ) = (2 ^ 53 - 1 : ℕ) * 2 ^ (-53 : ℤ) := by norm_num
    have hfits : Fits (1 / 2 - 2 ^ (-53 : ℤ)) := ⟨_, _, by decide, by decide, hbelow⟩
    have hfits' : Fits (1 - 2 ^ (-53 : ℤ)) := ⟨_, _, by decide, by decide, hbelow'⟩
    obtain ⟨num', den', hden', hsum, heq⟩ := toRat_addHalf (ofQuotient num den)
    rw [Nat.cast_zero, zero_add] at hhigh ⊢
    have hpos : (0 : ℚ) < 2 ^ (-53 : ℤ) := zpow_pos two_pos _
    generalize (2 : ℚ) ^ (-53 : ℤ) = u at *
    have hquotient := hfits.toRat_ofQuotient_le hden (hhigh.le.trans (sub_le_sub_left hunit _))
    have hround : (ofQuotient num' den').toRat ≤ 1 - u :=
      hfits'.toRat_ofQuotient_le hden' (by rw [hsum]; linarith)
    rw [heq]
    linarith
  | succ n =>
    push_cast at hlow
    have hhalf : (1 / 2 : ℚ) ≤ num / den := by
      have : (0 : ℚ) ≤ n := Nat.cast_nonneg n
      linarith
    have hnum : num ≠ 0 := by
      rintro rfl
      rw [Nat.cast_zero, zero_div] at hhalf
      exact absurd hhalf (by norm_num)
    have hlog : -1 < floorLog2 num den + 1 := by
      refine (zpow_lt_zpow_iff_right₀ (one_lt_two (α := ℚ))).1 ?_
      rw [zpow_neg_one, ← one_div]
      exact hhalf.trans_lt (floorLog2_spec hnum hden.ne').2
    have hgrid : floorLog2 num den - 52 ≤ gridExponent num den := le_max_left _ _
    have hgrid' := gridExponent_le hnum hden (by rw [minExponent]; omega) hsize
    have hquotient := toRat_ofQuotient_le_add hden (by rw [minExponent]; omega) hsize
    exact toRat_addHalf_lt (toRat_ofQuotient hnum) (gridPoint_le hnum hden) (by omega) (by omega)
      (by linarith)

end Scaled

/-! Integers below quotients -/

/-- From the integer above, a quotient is away by one part of the denominator. -/
theorem div_le_succ_sub (num : ℕ) {den : ℕ} (hden : 0 < den) :
    (num : ℚ) / den ≤ (num / den : ℕ) + 1 - 1 / den := by
  have hd : (0 : ℚ) < den := by exact_mod_cast hden
  have hlt : num + 1 ≤ (num / den + 1) * den := by
    rw [Nat.add_mul, Nat.one_mul, Nat.mul_comm]
    exact Nat.lt_mul_div_succ num hden
  rw [le_sub_iff_add_le, ← add_div, div_le_iff₀ hd]
  exact_mod_cast hlt

section Exact
variable {num den b : ℕ}

/-- Half of the spacing below a power of two, against one part of the denominator. -/
theorem zpow_lt_one_div {n : ℕ} (hden : 0 < den) (h : den * 2 ^ b < 2 ^ n) :
    (2 : ℚ) ^ ((b : ℤ) - n) < 1 / den := by
  have hd : (0 : ℚ) < den := by exact_mod_cast hden
  have hcast : (den : ℚ) * 2 ^ b < 2 ^ n := by exact_mod_cast h
  rw [lt_div_iff₀ hd, zpow_sub₀ two_ne_zero, zpow_natCast, zpow_natCast, div_mul_eq_mul_div,
    div_lt_one (by positivity), mul_comm]
  exact hcast

theorem div_lt_zpow (hden : 0 < den) (h : num < 2 ^ b * den) :
    (num : ℚ) / den < 2 ^ (b : ℤ) := by
  rw [div_lt_iff₀ (by exact_mod_cast hden), zpow_natCast]
  exact_mod_cast h

theorem lt_of_mul_two_pow_lt {n : ℕ} (hden : 0 < den) (h : den * 2 ^ b < 2 ^ n) : b < n :=
  (Nat.pow_lt_pow_iff_right one_lt_two).1 ((Nat.le_mul_of_pos_left _ hden).trans_lt h)

/-- The integer below a rounded quotient is the one below the quotient, if the denominator and the
size of the quotient leave no room for rounding up to an integer. -/
theorem floorQuotient_eq_div (hden : 0 < den) (h : num < 2 ^ b * den)
    (hsmall : den * 2 ^ b < 2 ^ 54) : floorQuotient num den = (num / den : ℕ) := by
  have hb := lt_of_mul_two_pow_lt hden hsmall
  have hlt : num / den < 2 ^ 53 := by
    have hdiv : num / den < 2 ^ b := (Nat.div_lt_iff_lt_mul hden).2 h
    exact hdiv.trans_le (Nat.pow_le_pow_right two_pos (by omega))
  have hlow := (Scaled.fits_natCast hlt).le_toRat_ofQuotient hden (Nat.cast_div_le)
  have hhigh := Scaled.toRat_ofQuotient_le_add hden (by rw [Scaled.minExponent]; omega)
    (div_lt_zpow hden h)
  have hgap := zpow_lt_one_div hden hsmall
  have hbelow := div_le_succ_sub num hden
  rw [floorQuotient, decide_eq_false (not_lt.2 (Int.natCast_nonneg num)), Int.natAbs_natCast,
    Scaled.floor_eq_floor_toRat, Int.floor_eq_iff, Int.cast_natCast]
  refine ⟨hlow, ?_⟩
  rw [Nat.cast_ofNat] at hgap
  linarith

/-- The same for the integer nearest to a quotient: neither the quotient nor the sum with one half
is rounded up to a half or an integer. -/
theorem roundQuotientHalfUp_eq_div (hden : 0 < den) (h : num < 2 ^ b * den) (hb : 1 ≤ b)
    (hb' : b ≤ 51) (hsmall : den * 2 ^ b < 2 ^ 53) :
    roundQuotientHalfUp num den = ((2 * num + den) / (2 * den) : ℕ) := by
  have hden' : 0 < 2 * den := by omega
  have hsum : ((2 * num + den : ℕ) : ℚ) / (2 * den : ℕ) = num / den + 1 / 2 := by
    have hne : (den : ℚ) ≠ 0 := by exact_mod_cast hden.ne'
    push_cast
    field_simp
  have hlow : (((2 * num + den) / (2 * den) : ℕ) : ℚ) ≤ num / den + 1 / 2 :=
    hsum ▸ Nat.cast_div_le
  have hhigh := hsum ▸ div_le_succ_sub (2 * num + den) hden'
  have hgap : (2 : ℚ) ^ ((b : ℤ) - (54 : ℕ)) < 1 / (2 * den : ℕ) :=
    zpow_lt_one_div hden' (by rw [mul_assoc]; omega)
  rw [Nat.cast_ofNat] at hgap
  have hsize := div_lt_zpow hden h
  generalize (2 * num + den) / (2 * den) = n at *
  have hn : n < 2 ^ 52 := by
    have hpow : (2 : ℚ) ^ (b : ℤ) ≤ 2 ^ (51 : ℤ) := zpow_le_zpow_right₀ one_le_two (by omega)
    have hcast : (n : ℚ) < (2 ^ 52 : ℕ) := by
      push_cast
      linarith
    exact_mod_cast hcast
  rw [roundQuotientHalfUp, if_neg (not_lt.2 (Int.natCast_nonneg num)), Int.natAbs_natCast,
    Scaled.floor_eq_floor_toRat, Int.floor_eq_iff, Int.cast_natCast]
  exact ⟨Scaled.natCast_le_toRat_addHalf hden hn hlow,
    Scaled.toRat_addHalf_ofQuotient_lt hden hb hb' hsize hlow (by linarith)⟩

end Exact
end PatchReview
