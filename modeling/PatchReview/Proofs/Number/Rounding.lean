import Mathlib.Algebra.Order.Field.Power
import Mathlib.Data.Rat.Floor
import Mathlib.Tactic.Linarith
import Mathlib.Tactic.Positivity
import PatchReview.Number.Rounding

/-! Rounding keeps the order of quotients. A quotient is rounded to the nearest point of a grid whose
spacing grows with its binary exponent, and a power of two bounds each spacing on both sides. So the
rounded quotient, and with it the integer below, never falls while the quotient grows. -/
namespace PatchReview

/-! Nearest integers -/

/-- The integer is nearest to the number, and even if two of them are. -/
structure IsNearestEven (x : ℚ) (n : ℕ) : Prop where
  le_add_half : x ≤ n + 1 / 2
  sub_half_le : n - 1 / 2 ≤ x
  even_of_eq_add_half : x = n + 1 / 2 → n % 2 = 0
  even_of_eq_sub_half : x = n - 1 / 2 → n % 2 = 0

namespace IsNearestEven

theorem natCast (n : ℕ) : IsNearestEven n n := by
  constructor
  · linarith
  · linarith
  · intro h
    linarith
  · intro h
    linarith

/-- Of two numbers half a unit away from their nearest integers both are even, which excludes that
they are neighbours. -/
theorem le {x y : ℚ} {m n : ℕ} (hx : IsNearestEven x m) (hy : IsNearestEven y n) (hxy : x ≤ y) :
    m ≤ n := by
  refine Nat.le_of_not_lt fun hlt => ?_
  have hcast : (n : ℚ) + 1 ≤ m := by exact_mod_cast hlt
  have hlow := hx.sub_half_le
  have hhigh := hy.le_add_half
  have hm : (m : ℚ) = n + 1 := by linarith
  have hmn : m = n + 1 := by exact_mod_cast hm
  have hevenm := hx.even_of_eq_sub_half (by linarith)
  have hevenn := hy.even_of_eq_add_half (by linarith)
  omega

end IsNearestEven

theorem isNearestEven_roundDiv (num : ℕ) {den : ℕ} (hden : 0 < den) :
    IsNearestEven (num / den) (roundDiv num den) := by
  have hd : (0 : ℚ) < den := by exact_mod_cast hden
  -- The quotient is the integer `num / den` and a remainder `x`, which is compared with one half.
  have hq : (num : ℚ) / den = (num / den : ℕ) + ((num % den : ℕ) : ℚ) / den := by
    rw [div_eq_iff hd.ne', add_mul, div_mul_cancel₀ _ hd.ne', mul_comm]
    exact_mod_cast (Nat.div_add_mod num den).symm
  have hlt : 2 * (num % den) < den ↔ ((num % den : ℕ) : ℚ) / den < 1 / 2 := by
    rw [div_lt_div_iff₀ hd two_pos, one_mul, mul_comm]
    exact_mod_cast Iff.rfl
  have hgt : den < 2 * (num % den) ↔ 1 / 2 < ((num % den : ℕ) : ℚ) / den := by
    rw [div_lt_div_iff₀ two_pos hd, one_mul, mul_comm]
    exact_mod_cast Iff.rfl
  have hx : 0 ≤ ((num % den : ℕ) : ℚ) / den := by positivity
  have hx1 : ((num % den : ℕ) : ℚ) / den < 1 := by
    rw [div_lt_one hd]
    exact_mod_cast Nat.mod_lt num hden
  rw [hq, roundDiv]
  simp only [hlt, hgt]
  generalize num / den = q at *
  generalize ((num % den : ℕ) : ℚ) / den = x at *
  split
  · exact ⟨by linarith, by linarith, fun _ => by linarith, fun _ => by linarith⟩
  · split
    · exact ⟨by push_cast; linarith, by push_cast; linarith, fun h => by push_cast at h; linarith,
        fun h => by push_cast at h; linarith⟩
    · have hhalf : x = 1 / 2 := by linarith
      subst hhalf
      split
      · next heven => exact ⟨by linarith, by linarith, fun _ => heven, fun _ => heven⟩
      · next hodd =>
        have heven : (q + 1) % 2 = 0 := by omega
        exact ⟨by push_cast; linarith, by push_cast; linarith, fun _ => heven, fun _ => heven⟩

/-! Binary exponents -/

theorem zpow_eq_div (e : ℤ) : (2 : ℚ) ^ e = (Nat.pow 2 e.toNat : ℕ) / (Nat.pow 2 (-e).toNat : ℕ) := by
  rw [Nat.pow_eq, Nat.pow_eq, Nat.cast_pow, Nat.cast_pow, Nat.cast_ofNat]
  cases e with
  | ofNat n =>
      have hneg : (-Int.ofNat n).toNat = 0 := Int.toNat_neg_natCast n
      rw [hneg, pow_zero, div_one]
      exact zpow_natCast 2 n
  | negSucc n =>
      have hpos : (Int.negSucc n).toNat = 0 := rfl
      rw [hpos, pow_zero, one_div, zpow_negSucc]
      rfl

/-- A quotient in units of a power of two, which may be below one. -/
theorem div_zpow (num den : ℕ) (e : ℤ) :
    (num : ℚ) / den / 2 ^ e =
      (num * Nat.pow 2 (-e).toNat : ℕ) / (den * Nat.pow 2 e.toNat : ℕ) := by
  rw [zpow_eq_div, div_div_div_eq, Nat.cast_mul, Nat.cast_mul]

theorem floorLog2_spec {num den : ℕ} (hnum : num ≠ 0) (hden : den ≠ 0) :
    (2 : ℚ) ^ floorLog2 num den ≤ num / den ∧
      (num : ℚ) / den < 2 ^ (floorLog2 num den + 1) := by
  have hd : (0 : ℚ) < den := by exact_mod_cast Nat.pos_of_ne_zero hden
  have hbits : ∀ {n : ℕ}, n ≠ 0 → (2 : ℚ) ^ (n.log2 : ℤ) ≤ n ∧ (n : ℚ) < 2 ^ ((n.log2 : ℤ) + 1) := by
    intro n hn
    constructor
    · rw [zpow_natCast]
      exact_mod_cast Nat.log2_self_le hn
    · have hlt : n < 2 ^ (n.log2 + 1) := Nat.lt_log2_self
      exact_mod_cast hlt
  obtain ⟨hnum1, hnum2⟩ := hbits hnum
  obtain ⟨hden1, hden2⟩ := hbits hden
  rw [floorLog2]
  generalize hb : (num.log2 : ℤ) = a at *
  generalize hb : (den.log2 : ℤ) = b at *
  -- The bit lengths bound the quotient up to a factor of two on either side.
  have hlow : (2 : ℚ) ^ (a - b - 1) ≤ num / den := by
    rw [le_div_iff₀ hd]
    calc (2 : ℚ) ^ (a - b - 1) * den
      _ ≤ 2 ^ (a - b - 1) * 2 ^ (b + 1) := by gcongr
      _ = 2 ^ a := by rw [← zpow_add₀ two_ne_zero]; congr 1; ring
      _ ≤ num := hnum1
  have hhigh : (num : ℚ) / den < 2 ^ (a - b + 1) := by
    rw [div_lt_iff₀ hd]
    calc (num : ℚ)
      _ < 2 ^ (a + 1) := hnum2
      _ = 2 ^ (a - b + 1) * 2 ^ b := by rw [← zpow_add₀ two_ne_zero]; congr 1; ring
      _ ≤ 2 ^ (a - b + 1) * den := by gcongr
  have hscale : (0 : ℚ) < (den * Nat.pow 2 (a - b).toNat : ℕ) := by
    exact_mod_cast Nat.mul_pos (Nat.pos_of_ne_zero hden) (Nat.two_pow_pos _)
  have hunit : (num : ℚ) / den < 2 ^ (a - b) ↔ (num : ℚ) / den / 2 ^ (a - b) < 1 :=
    (div_lt_one (zpow_pos two_pos _)).symm
  have hcompare : num * Nat.pow 2 (-(a - b)).toNat < den * Nat.pow 2 (a - b).toNat ↔
      (num : ℚ) / den < 2 ^ (a - b) := by
    rw [hunit, div_zpow, div_lt_one hscale, Nat.cast_lt]
  simp only [hcompare]
  split
  · next h => exact ⟨hlow, by rwa [sub_add_cancel]⟩
  · next h => exact ⟨not_lt.1 h, hhigh⟩

/-! Rounded quotients -/

namespace Scaled

/-- The number that is meant. -/
def toRat (x : Scaled) : ℚ := x.significand * 2 ^ x.exponent

theorem num_div_den (x : Scaled) : (x.num : ℚ) / x.den = x.toRat := by
  rw [toRat, zpow_eq_div, num, den, Nat.cast_mul, mul_div_assoc]

theorem toRat_nonneg (x : Scaled) : 0 ≤ x.toRat := by
  rw [toRat]
  positivity

theorem floor_eq_floor_toRat (x : Scaled) : x.floor false = ⌊x.toRat⌋ := by
  rw [← num_div_den, floor, if_neg Bool.false_ne_true]
  exact (Rat.floor_natCast_div_natCast x.num x.den).symm

variable {num den num' den' : ℕ}

/-- The exponent of the spacing at a quotient: 53 digits, fewer where the least exponent is
reached. -/
def gridExponent (num den : ℕ) : ℤ := max (floorLog2 num den - 52) minExponent

/-- The number of the point of the grid that is nearest to a quotient. -/
def gridPoint (num den : ℕ) : ℕ :=
  roundDiv (num * Nat.pow 2 (-gridExponent num den).toNat)
    (den * Nat.pow 2 (gridExponent num den).toNat)

theorem ofQuotient_eq (hnum : num ≠ 0) : ofQuotient num den =
    if gridPoint num den = Nat.pow 2 53 then ⟨Nat.pow 2 52, gridExponent num den + 1⟩
    else ⟨gridPoint num den, gridExponent num den⟩ :=
  if_neg hnum

theorem isNearestEven_gridPoint (hden : 0 < den) :
    IsNearestEven (num / den / 2 ^ gridExponent num den) (gridPoint num den) := by
  rw [div_zpow]
  exact isNearestEven_roundDiv _ (Nat.mul_pos hden (Nat.two_pow_pos _))

theorem toRat_ofQuotient (hnum : num ≠ 0) :
    (ofQuotient num den).toRat = gridPoint num den * 2 ^ gridExponent num den := by
  rw [ofQuotient_eq hnum]
  split
  · next h =>
    rw [h, toRat, zpow_add_one₀ two_ne_zero, Nat.pow_eq, Nat.pow_eq]
    push_cast
    ring
  · rfl

theorem exponent_ofQuotient_le (hnum : num ≠ 0) :
    (ofQuotient num den).exponent ≤ gridExponent num den + 1 := by
  rw [ofQuotient_eq hnum]
  split
  · exact le_rfl
  · exact (lt_add_one _).le

theorem floorLog2_mono (hnum : num ≠ 0) (hden : den ≠ 0) (hnum' : num' ≠ 0) (hden' : den' ≠ 0)
    (h : (num : ℚ) / den ≤ num' / den') : floorLog2 num den ≤ floorLog2 num' den' := by
  have hlow := (floorLog2_spec hnum hden).1
  have hhigh := (floorLog2_spec hnum' hden').2
  have hlt : (2 : ℚ) ^ floorLog2 num den < 2 ^ (floorLog2 num' den' + 1) :=
    lt_of_le_of_lt (hlow.trans h) hhigh
  exact Int.lt_add_one_iff.1 ((zpow_lt_zpow_iff_right₀ one_lt_two).1 hlt)

/-- A power of two above the quotient is a point of the grid, so rounding does not pass it. -/
theorem toRat_ofQuotient_le (hnum : num ≠ 0) (hden : 0 < den) :
    (ofQuotient num den).toRat ≤ 2 ^ (gridExponent num den + 53) := by
  have hq := (floorLog2_spec hnum hden.ne').2
  have he : floorLog2 num den - 52 ≤ gridExponent num den := le_max_left _ _
  have hunits : (num : ℚ) / den / 2 ^ gridExponent num den ≤ (2 ^ 53 : ℕ) := by
    rw [div_le_iff₀ (zpow_pos two_pos _)]
    calc (num : ℚ) / den
      _ ≤ 2 ^ (floorLog2 num den + 1) := hq.le
      _ ≤ 2 ^ (53 + gridExponent num den) := zpow_le_zpow_right₀ one_le_two (by omega)
      _ = (2 ^ 53 : ℕ) * 2 ^ gridExponent num den := by
        rw [zpow_add₀ two_ne_zero]
        norm_num
  have hpoint : gridPoint num den ≤ 2 ^ 53 :=
    (isNearestEven_gridPoint hden).le (.natCast (2 ^ 53)) hunits
  rw [toRat_ofQuotient hnum, add_comm, zpow_add₀ two_ne_zero]
  have hcast : (gridPoint num den : ℚ) ≤ 2 ^ (53 : ℤ) := by exact_mod_cast hpoint
  gcongr

/-- A power of two below the quotient is a point of the grid as well, unless the least exponent is
reached. -/
theorem le_toRat_ofQuotient (hnum : num ≠ 0) (hden : 0 < den)
    (he : minExponent < gridExponent num den) :
    2 ^ (gridExponent num den + 52) ≤ (ofQuotient num den).toRat := by
  have hq := (floorLog2_spec hnum hden.ne').1
  have hgrid : gridExponent num den = floorLog2 num den - 52 := by
    rw [gridExponent] at he ⊢
    omega
  have hunits : ((2 ^ 52 : ℕ) : ℚ) ≤ num / den / 2 ^ gridExponent num den := by
    rw [le_div_iff₀ (zpow_pos two_pos _)]
    calc ((2 ^ 52 : ℕ) : ℚ) * 2 ^ gridExponent num den
      _ = 2 ^ (52 + gridExponent num den) := by
        rw [zpow_add₀ two_ne_zero]
        norm_num
      _ ≤ 2 ^ floorLog2 num den := zpow_le_zpow_right₀ one_le_two (by omega)
      _ ≤ num / den := hq
  have hpoint : 2 ^ 52 ≤ gridPoint num den :=
    (IsNearestEven.natCast (2 ^ 52)).le (isNearestEven_gridPoint hden) hunits
  rw [toRat_ofQuotient hnum, add_comm, zpow_add₀ two_ne_zero]
  have hcast : (2 : ℚ) ^ (52 : ℤ) ≤ gridPoint num den := by exact_mod_cast hpoint
  gcongr

theorem toRat_ofQuotient_zero (den : ℕ) : (ofQuotient 0 den).toRat = 0 := by
  rw [ofQuotient, if_pos rfl, toRat, Nat.cast_zero, zero_mul]

/-- On one grid the nearest points keep their order; between two grids stands a power of two. -/
theorem toRat_ofQuotient_mono (hden : 0 < den) (hden' : 0 < den')
    (h : (num : ℚ) / den ≤ num' / den') :
    (ofQuotient num den).toRat ≤ (ofQuotient num' den').toRat := by
  by_cases hnum : num = 0
  · rw [hnum, toRat_ofQuotient_zero]
    exact toRat_nonneg _
  have hnum' : num' ≠ 0 := by
    rintro rfl
    have hq : (0 : ℚ) < num / den := by
      have := Nat.pos_of_ne_zero hnum
      positivity
    rw [Nat.cast_zero, zero_div] at h
    exact absurd hq (not_lt.2 h)
  have hlog := floorLog2_mono hnum hden.ne' hnum' hden'.ne' h
  have hle : gridExponent num den ≤ gridExponent num' den' := by
    rw [gridExponent, gridExponent]
    omega
  rcases hle.eq_or_lt with heq | hlt
  · have hpoint : gridPoint num den ≤ gridPoint num' den' := by
      refine (isNearestEven_gridPoint hden).le (isNearestEven_gridPoint hden') ?_
      rw [heq]
      gcongr
    rw [toRat_ofQuotient hnum, toRat_ofQuotient hnum', heq]
    gcongr
  · have hmin : minExponent < gridExponent num' den' := lt_of_le_of_lt (le_max_right _ _) hlt
    calc (ofQuotient num den).toRat
      _ ≤ 2 ^ (gridExponent num den + 53) := toRat_ofQuotient_le hnum hden
      _ ≤ 2 ^ (gridExponent num' den' + 52) := zpow_le_zpow_right₀ one_le_two (by omega)
      _ ≤ (ofQuotient num' den').toRat := le_toRat_ofQuotient hnum' hden' hmin

/-- A quotient is in the range of 64-bit floating point if it is below half of its end. -/
theorem isHuge_ofQuotient (hden : 0 < den) (h : num < 2 ^ 1023 * den) :
    (ofQuotient num den).isHuge = false := by
  refine decide_eq_false (not_lt.2 ?_)
  by_cases hnum : num = 0
  · rw [ofQuotient, if_pos hnum]
    decide
  have hlog : floorLog2 num den < 1023 := by
    refine (zpow_lt_zpow_iff_right₀ (one_lt_two (α := ℚ))).1 ?_
    refine lt_of_le_of_lt (floorLog2_spec hnum hden.ne').1 ?_
    rw [div_lt_iff₀ (by exact_mod_cast hden)]
    exact_mod_cast h
  have hgrid : gridExponent num den ≤ 970 := by
    rw [gridExponent, minExponent]
    omega
  have hexp : (ofQuotient num den).exponent ≤ gridExponent num den + 1 := exponent_ofQuotient_le hnum
  omega

end Scaled

theorem quotientIsHuge_eq_false {num : ℤ} {den k : ℕ} (hden : 0 < den) (hk : k < 2 ^ 10)
    (h : num.natAbs ≤ k * den) : quotientIsHuge num den = false := by
  have hlt : k * den < 2 ^ 10 * den := Nat.mul_lt_mul_of_pos_right hk hden
  have hle : ∀ e, 10 ≤ e → 2 ^ 10 * den ≤ 2 ^ e * den := by
    intro e he
    exact Nat.mul_le_mul_right den (Nat.pow_le_pow_right two_pos he)
  exact Scaled.isHuge_ofQuotient hden ((h.trans_lt hlt).trans_le (hle 1023 (by decide)))

theorem floorQuotient_zero (den : ℕ) : floorQuotient 0 den = 0 := by
  have hnum : (Scaled.ofQuotient 0 den).num = 0 := Nat.zero_mul _
  rw [floorQuotient, Int.natAbs_zero, Scaled.floor, hnum, Nat.zero_div]
  rfl

theorem floorQuotient_mono {num num' : ℤ} {den den' : ℕ} (hnum : 0 ≤ num) (hden : 0 < den)
    (hden' : 0 < den') (h : num * den' ≤ num' * den) :
    floorQuotient num den ≤ floorQuotient num' den' := by
  have hnum' : 0 ≤ num' := by
    have hprod : 0 ≤ num' * den := le_trans (by positivity) h
    exact nonneg_of_mul_nonneg_left hprod (by exact_mod_cast hden)
  obtain ⟨a, rfl⟩ := Int.eq_ofNat_of_zero_le hnum
  obtain ⟨b, rfl⟩ := Int.eq_ofNat_of_zero_le hnum'
  have hq : (a : ℚ) / den ≤ b / den' := by
    rw [div_le_div_iff₀ (by exact_mod_cast hden) (by exact_mod_cast hden')]
    exact_mod_cast h
  rw [floorQuotient, floorQuotient, decide_eq_false (not_lt.2 hnum), decide_eq_false (not_lt.2 hnum'),
    Scaled.floor_eq_floor_toRat, Scaled.floor_eq_floor_toRat]
  exact Int.floor_mono (Scaled.toRat_ofQuotient_mono hden hden' hq)

end PatchReview
