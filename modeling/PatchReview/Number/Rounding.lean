/-! Exact rounding of quotients to 53 binary digits. The result of a division keeps its integer
significand and its power of two, so its floor is computed without any loss. Powers are `Nat.pow`
by name, which stays the same function where other kinds of powers are imported. -/
namespace PatchReview

/-- The integer nearest to `num / den`; a tie goes to the even neighbour. -/
def roundDiv (num den : Nat) : Nat :=
  let q := num / den
  let r := num % den
  if 2 * r < den then q
  else if den < 2 * r then q + 1
  else if q % 2 = 0 then q else q + 1

/-- The greatest `e` with `2 ^ e ≤ num / den`, for positive arguments. -/
def floorLog2 (num den : Nat) : Int :=
  let e : Int := (num.log2 : Int) - den.log2
  if num * Nat.pow 2 (-e).toNat < den * Nat.pow 2 e.toNat then e - 1 else e

/-- The number `significand * 2 ^ exponent`. -/
structure Scaled where
  significand : Nat
  exponent : Int
deriving DecidableEq

namespace Scaled

/-- The least exponent: below it the significand loses digits instead. -/
def minExponent : Int := -1074

/-- The quotient rounded to 53 binary digits, fewer below `2 ^ -1022`. There is no upper bound. -/
def ofQuotient (num den : Nat) : Scaled :=
  if num = 0 then ⟨0, minExponent⟩
  else
    let e := max (floorLog2 num den - 52) minExponent
    let m := roundDiv (num * Nat.pow 2 (-e).toNat) (den * Nat.pow 2 e.toNat)
    if m = Nat.pow 2 53 then ⟨Nat.pow 2 52, e + 1⟩ else ⟨m, e⟩

/-- The numerator of the number as a fraction. -/
def num (x : Scaled) : Nat := x.significand * Nat.pow 2 x.exponent.toNat

/-- The denominator of the number as a fraction. -/
def den (x : Scaled) : Nat := Nat.pow 2 (-x.exponent).toNat

/-- The number is beyond the largest that has 53 binary digits and a binary exponent below 1024. -/
def isHuge (x : Scaled) : Bool := 971 < x.exponent

/-- The sum of the number and one half, rounded. -/
def addHalf (x : Scaled) : Scaled := ofQuotient (2 * x.num + x.den) (2 * x.den)

/-- The greatest integer that is not above the number, or not above its negative. -/
def floor (negative : Bool) (x : Scaled) : Int :=
  if negative then -((x.num + x.den - 1) / x.den : Nat) else (x.num / x.den : Nat)

end Scaled

/-- The quotient rounded to 53 binary digits and then to the integer below. -/
def floorQuotient (num : Int) (den : Nat) : Int :=
  (Scaled.ofQuotient num.natAbs den).floor (num < 0)

/-- Whether the rounded quotient is out of the range of 64-bit floating point. -/
def quotientIsHuge (num : Int) (den : Nat) : Bool :=
  (Scaled.ofQuotient num.natAbs den).isHuge

/-- The integer nearest to the quotient, halves going up: the quotient is rounded to 53 binary
digits, one half is added, the sum is rounded again and the integer below is taken. -/
def roundQuotientHalfUp (num : Int) (den : Nat) : Int :=
  let q := Scaled.ofQuotient num.natAbs den
  if num < 0 then
    -- The exact sum is `(den' - 2 * num') / (2 * den')`, whose sign decides the way it is rounded.
    if 2 * q.num ≤ q.den then (Scaled.ofQuotient (q.den - 2 * q.num) (2 * q.den)).floor false
    else (Scaled.ofQuotient (2 * q.num - q.den) (2 * q.den)).floor true
  else q.addHalf.floor false

end PatchReview
