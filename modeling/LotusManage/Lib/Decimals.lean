import Mathlib.Algebra.Field.Rat
import Mathlib.Algebra.Order.Field.Power
import Mathlib.Algebra.Order.Ring.Rat
import Mathlib.Data.Nat.Log
import Mathlib.Tactic.FieldSimp
import Mathlib.Tactic.Ring

/-!
# Decimals

Finite decimals as Python's `decimal` has them, with their comparisons, which are those of the rational
numbers (`same_iff`), and their plain notation.
-/

namespace LotusManage

/-- The number is the coefficient times a power of ten, with a sign; zero has a sign too. -/
structure DecimalFloat where
  negative : Bool
  coefficient : Nat
  exponent : Int
  deriving DecidableEq

namespace DecimalFloat

/-- The coefficient with the sign. -/
def signed (d : DecimalFloat) : Int := if d.negative then -d.coefficient else d.coefficient

/-- The number that the decimal stands for. -/
def value (d : DecimalFloat) : ℚ := d.signed * 10 ^ d.exponent

/-- The coefficient for another exponent, which is not larger. -/
def scaled (d : DecimalFloat) (exponent : Int) : Int :=
  d.signed * 10 ^ (d.exponent - exponent).toNat

theorem value_eq_scaled (d : DecimalFloat) {exponent : Int} (h : exponent ≤ d.exponent) :
    d.value = d.scaled exponent * 10 ^ exponent := by
  have hpow : (10 : ℚ) ^ d.exponent = 10 ^ (d.exponent - exponent).toNat * 10 ^ exponent := by
    rw [← zpow_natCast, Int.toNat_of_nonneg (by omega), ← zpow_add₀ (by norm_num)]
    congr 1
    omega
  rw [value, scaled, hpow]
  push_cast
  ring

/-! ## Comparisons -/

/-- `a < b` -/
def lt (a b : DecimalFloat) : Bool :=
  a.scaled (min a.exponent b.exponent) < b.scaled (min a.exponent b.exponent)

/-- `a == b` -/
def same (a b : DecimalFloat) : Bool :=
  a.scaled (min a.exponent b.exponent) = b.scaled (min a.exponent b.exponent)

theorem same_iff (a b : DecimalFloat) : a.same b = true ↔ a.value = b.value := by
  have hne : (10 : ℚ) ^ min a.exponent b.exponent ≠ 0 := zpow_ne_zero _ (by norm_num)
  rw [same, decide_eq_true_iff, a.value_eq_scaled (min_le_left _ _),
    b.value_eq_scaled (min_le_right _ _), mul_left_inj' hne, Int.cast_inj]

/-- The decimal zero of `Decimal(0)`. -/
def zero : DecimalFloat := ⟨false, 0, 0⟩

/-! ## Texts -/

/-- `len(str(n))` -/
def digitCount (n : Nat) : Nat := Nat.log 10 n + 1

/-- `format(d, "f")` -/
def format (d : DecimalFloat) : String :=
  let digits := Nat.toDigits 10 d.coefficient
  let point : Int := if d.coefficient = 0 ∧ 0 < d.exponent then 1 else d.exponent + digits.length
  let whole :=
    if point ≤ 0 then ['0']
    else digits.take point.toNat ++ List.replicate (point.toNat - digits.length) '0'
  let fraction := List.replicate (-point).toNat '0' ++ digits.drop point.toNat
  String.ofList ((if d.negative then ['-'] else []) ++ whole ++
    if fraction = [] then [] else '.' :: fraction)

end DecimalFloat

end LotusManage
