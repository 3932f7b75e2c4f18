import LotusManage.Lib.Decimals
import Mathlib.Data.Rat.Floor

/-!
# Significant digits

A decimal context keeps a fixed number of significant digits of every result, and a result halfway
between two neighbours becomes the one with an even last digit.  An algorithm that takes the rounding of
its results as a parameter is the exact one when nothing is rounded.
-/

namespace LotusManage

namespace SignificantDigits

/-- The nearest integer; of two it is the even one. -/
def roundHalfEven (v : ℚ) : Int :=
  let rest := v - ⌊v⌋
  if rest < 1 / 2 ∨ (rest = 1 / 2 ∧ ⌊v⌋ % 2 = 0) then ⌊v⌋ else ⌊v⌋ + 1

/-- The power of ten of the first digit. -/
def adjusted (v : ℚ) : Int :=
  let estimate : Int := DecimalFloat.digitCount v.num.natAbs - DecimalFloat.digitCount v.den
  if 10 ^ estimate ≤ |v| then estimate else estimate - 1

/-- The number with its first `prec` digits. -/
def roundTo (prec : Nat) (v : ℚ) : ℚ :=
  if v = 0 then 0
  else
    let unit : ℚ := 10 ^ (adjusted v - prec + 1)
    roundHalfEven (v / unit) * unit

example : roundTo 3 (2 / 3) = 667 / 1000 := by decide +kernel
example : roundTo 3 (-20050 / 100) = -200 := by decide +kernel

/-- A sum from the left, with every partial sum rounded. -/
def sumWith (fit : ℚ → ℚ) (values : List ℚ) : ℚ :=
  values.foldl (fun total value => fit (total + value)) 0

@[simp] theorem sumWith_id (values : List ℚ) : sumWith id values = values.sum :=
  List.sum_eq_foldl.symm

end SignificantDigits

end LotusManage
