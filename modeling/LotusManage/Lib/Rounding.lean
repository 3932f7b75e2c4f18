import Mathlib.Algebra.Order.Floor.Ring
import Mathlib.Data.Rat.Floor

/-!
# Rounding half up

`ROUND_HALF_UP`: to the nearest integer, with a tie away from zero.
-/

namespace LotusManage

/-- `int(value.quantize(Decimal("1"), ROUND_HALF_UP))` -/
def roundHalfUp (value : ℚ) : Int :=
  if 0 ≤ value then ⌊value + 1 / 2⌋ else -⌊-value + 1 / 2⌋

theorem roundHalfUp_of_nonneg {value : ℚ} (h : 0 ≤ value) :
    roundHalfUp value = ⌊value + 1 / 2⌋ := if_pos h

/-- `value.quantize(Decimal("0.01"), ROUND_HALF_UP)` -/
def quantizeCents (value : ℚ) : ℚ := roundHalfUp (value * 100) / 100

end LotusManage
