import PatchReview.Number.Binary64

/-! The shortest decimal text that reads back as the same floating-point number. -/
namespace PatchReview

namespace Scaled

/-- A decimal numeral `digits * 10 ^ exponent`. -/
structure Numeral where
  digits : Nat
  exponent : Int

/-- The ends of the interval that rounds to the number, in quarters of its last binary place. -/
def interval (x : Scaled) : Nat × Nat :=
  let m := 4 * x.significand
  if x.significand = Nat.pow 2 52 ∧ minExponent < x.exponent then (m - 1, m + 2) else (m - 2, m + 2)

/-- Factors that compare `a * 10 ^ p` with `b * 2 ^ e`: the first times `a`, the second times `b`. -/
def commonFactors (p e : Int) : Nat × Nat :=
  (Nat.pow 10 p.toNat * Nat.pow 2 (-e).toNat, Nat.pow 2 e.toNat * Nat.pow 10 (-p).toNat)

/-- The greatest `k` with `10 ^ k` not above the number. -/
def decimalExponent (x : Scaled) : Int :=
  if x.den ≤ x.num then ((Nat.toDigits 10 (x.num / x.den)).length : Int) - 1
  else
    let places := (Nat.toDigits 10 ((x.den + x.num - 1) / x.num - 1)).length
    (-places : Int)

/-- The multiple of `10 ^ p` nearest to the number among those that read back as it. Of two at
one distance it is the even one. -/
def numeralOnGrid? (x : Scaled) (p : Int) : Option Numeral :=
  let (low, high) := x.interval
  let (f, g) := commonFactors p (x.exponent - 2)
  let fits (c : Nat) : Bool :=
    if x.significand % 2 = 0 then low * g ≤ c * f && c * f ≤ high * g
    else low * g < c * f && c * f < high * g
  let value := 4 * x.significand * g
  let below := value / f
  let toBelow := value - below * f
  let toAbove := (below + 1) * f - value
  let belowFirst := toBelow < toAbove || (toBelow == toAbove && below % 2 == 0)
  let order := if belowFirst then [below, below + 1] else [below + 1, below]
  (order.find? fits).map (⟨·, p⟩)

/-- The numeral with the fewest digits that reads back as the number, for a positive number. -/
def shortest (x : Scaled) : Numeral :=
  let k := x.decimalExponent
  ((List.range 17).findSome? fun (n : Nat) => x.numeralOnGrid? (k - n)).getD ⟨x.num / x.den, 0⟩

end Scaled

structure DecimalLayout where
  /-- Positional from `10 ^ leastPositional` on, and below `10 ^ positionalEnd`. -/
  leastPositional : Int
  positionalEnd : Int
  /-- The least number of digits of an exponent. -/
  exponentDigits : Nat
  infinity : String
  notANumber : String

/-- Numbers from `0.0001` up to, but not including, `10 ^ 16` are written positionally with at
least one place, others with an exponent of at least two digits. -/
def plainLayout : DecimalLayout := ⟨-4, 16, 2, "inf", "nan"⟩

/-- As `plainLayout`, with the words for the special values that data files use. -/
def dataLayout : DecimalLayout := { plainLayout with infinity := "Infinity", notANumber := "NaN" }

namespace DecimalLayout

/-- The digits without zeros at the end. -/
def significantDigits (n : Nat) : List Char :=
  ((Nat.toDigits 10 n).reverse.dropWhile (· == '0')).reverse

/-- The exponent with its sign and at least `exponentDigits` digits. -/
def exponentText (layout : DecimalLayout) (e : Int) : List Char :=
  let ds := Nat.toDigits 10 e.natAbs
  (if e < 0 then '-' else '+') :: (List.replicate (layout.exponentDigits - ds.length) '0' ++ ds)

def magnitudeText (layout : DecimalLayout) (x : Scaled) : List Char :=
  if x.significand = 0 then ['0', '.', '0']
  else
    let numeral := x.shortest
    let all := Nat.toDigits 10 numeral.digits
    let ds := significantDigits numeral.digits
    let point : Int := all.length + numeral.exponent
    if layout.leastPositional ≤ point - 1 ∧ point - 1 < layout.positionalEnd then
      if point ≤ 0 then '0' :: '.' :: (List.replicate (-point).toNat '0' ++ ds)
      else if ds.length ≤ point.toNat then
        ds ++ List.replicate (point.toNat - ds.length) '0' ++ ['.', '0']
      else ds.take point.toNat ++ '.' :: ds.drop point.toNat
    else
      let places := match ds.drop 1 with
        | [] => []
        | rest => '.' :: rest
      ds.take 1 ++ places ++ 'e' :: layout.exponentText (point - 1)

def text (layout : DecimalLayout) : Binary64 → String
  | .finite negative x =>
    String.ofList ((if negative then ['-'] else []) ++ layout.magnitudeText x)
  | .infinite negative => (if negative then "-" else "") ++ layout.infinity
  | .notANumber => layout.notANumber

end DecimalLayout
end PatchReview
