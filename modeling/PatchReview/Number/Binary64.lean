import PatchReview.Number.Rounding

/-! Floating-point numbers of 64 bits, held exactly. -/
namespace PatchReview

/-- A 64-bit floating-point number. A finite one is a signed `Scaled`, as `ofQuotient` makes it. -/
inductive Binary64 where
  | finite (negative : Bool) (magnitude : Scaled)
  | infinite (negative : Bool)
  | notANumber
deriving DecidableEq

namespace Binary64

def ofQuotient (negative : Bool) (num den : Nat) : Binary64 :=
  let x := Scaled.ofQuotient num den
  if x.isHuge then infinite negative else finite negative x

/-- The number nearest to `digits * 10 ^ exponent`. Exponents far outside the range are answered
without computing the power. -/
def ofDecimal (negative : Bool) (digits : Nat) (exponent : Int) : Binary64 :=
  let size : Int := digits.log2 + 4 * exponent
  if digits = 0 then ofQuotient negative 0 1
  else if 0 < exponent ∧ 8000 < size then infinite negative
  else if exponent < 0 ∧ size < -8000 ∧ (digits.log2 : Int) + 3 * exponent < -1200 then
    ofQuotient negative 0 1
  else ofQuotient negative (digits * Nat.pow 10 exponent.toNat) (Nat.pow 10 (-exponent).toNat)

/-- The integer as a floating-point number; `none` if it is out of range. -/
def ofInt? (n : Int) : Option Binary64 :=
  let x := Scaled.ofQuotient n.natAbs 1
  if x.isHuge then none else some (finite (n < 0) x)

/-- Whether the number is zero or below. Not true of a value that is no number. -/
def isNonPositive : Binary64 → Bool
  | finite negative x => negative || x.significand == 0
  | infinite negative => negative
  | notANumber => false

/-- Whether the number is a zero of either sign. -/
def isZero : Binary64 → Bool
  | finite _ x => x.significand == 0
  | _ => false

end Binary64
end PatchReview
