import LotusManage.Lib.DecimalFormats
import Mathlib.Algebra.Order.Field.Basic
import Mathlib.Data.Nat.Factorization.Basic

/-!
# Money as text

`MoneyText`, and `exact_money` of `core_financial_sources.py`, which writes a decimal as one.

* `stripZeros_eq`: the loop over the trailing zeros ends inside the digits.
* `representable_iff`: what the bounds on the digits and the exponent say about the number.
* `moneyPattern_format`: a decimal within the bounds is written as the pattern wants it.
* `exact_money_exact`: the conversion is exact, and it is refused only when it cannot be.
-/

namespace LotusManage.Composites

open DecimalText

/-! ## Texts and the conversion -/

/-- `^-?(?:0|[1-9]\\d{0,23})(?:\\.\\d{1,12})?$` -/
def moneyPattern (text : String) : Bool :=
  let p := parts text
  (match p.whole with
    | [] => false
    | c :: cs => (c == '0' && cs.isEmpty) ||
        (decide ('1' ≤ c) && decide (c ≤ '9') && decide (cs.length ≤ 23) && cs.all isDigit)) &&
    p.fraction.all (fun fraction =>
      decide (1 ≤ fraction.length) && decide (fraction.length ≤ 12) && fraction.all isDigit)

/-- `MoneyText` -/
structure MoneyText where
  text : String
  valid : moneyPattern text = true := by decide +kernel

/-- `Decimal(text)` -/
def MoneyText.decimal (money : MoneyText) : DecimalFloat := DecimalText.decimal money.text

/-- `components.digits[index]`; an index below zero counts from the end. -/
def digitAt (digits : List Char) (index : Int) : Option Char :=
  if 0 ≤ index then digits[index.toNat]?
  else if -(digits.length : Int) ≤ index then digits[(digits.length + index).toNat]?
  else none

/-- The loop of `_bounded_nonzero_money` over trailing zeros, with the size of the coefficient and the
exponent; `none` when an index is out of range or the fuel is out. -/
def stripZeros (digits : List Char) : Nat → Int → Int → Option (Int × Int)
  | 0, _, _ => none
  | fuel + 1, size, exponent =>
    match digitAt digits (size - 1) with
    | none => none
    | some digit =>
      if digit = '0' then stripZeros digits fuel (size - 1) (exponent + 1) else some (size, exponent)

/-- `_bounded_nonzero_money`; a `ValueError` is its code. -/
def boundedNonzeroMoney (value : DecimalFloat) : Except String DecimalFloat :=
  let digits := Nat.toDigits 10 value.coefficient
  match stripZeros digits digits.length digits.length value.exponent with
  | none => .error "tuple index out of range"
  | some (size, exponent) =>
    if 36 < size ∨ exponent < -12 ∨ 24 < size + exponent then
      .error "CORE_CUSTODY_MONEY_UNREPRESENTABLE"
    else .ok ⟨value.negative, natOfDigits (digits.take size.toNat), exponent⟩

/-- `exact_money` -/
def exactMoney : Option Numeric → Except String (Option MoneyText)
  | none => .ok none
  | some .special => .error "CORE_CUSTODY_MONEY_INVALID"
  | some (.finite value) =>
    if value.coefficient = 0 then .ok (some { text := "0" })
    else
      match boundedNonzeroMoney value with
      | .error code => .error code
      | .ok bounded =>
        if h : moneyPattern bounded.format = true then .ok (some ⟨bounded.format, h⟩)
        else .error "CORE_CUSTODY_MONEY_UNREPRESENTABLE"

/-- The number has at most 24 digits before the point and 12 behind it. -/
def Representable (v : ℚ) : Prop := (∃ n : ℤ, v = n / 10 ^ 12) ∧ |v| < 10 ^ 24

/-! ## Trailing zeros -/

variable {c k : Nat} {negative : Bool} {d : DecimalFloat}

theorem toDigits_mul_pow (hc : c ≠ 0) (k : Nat) :
    Nat.toDigits 10 (c * 10 ^ k) = Nat.toDigits 10 c ++ List.replicate k '0' := by
  induction k with
  | zero => simp
  | succ k ih =>
    have hpos : 0 < c * 10 ^ k := Nat.mul_pos (Nat.pos_of_ne_zero hc) (Nat.pow_pos (by decide))
    have hstep : c * 10 ^ (k + 1) = c * 10 ^ k * 10 := by rw [pow_succ, Nat.mul_assoc]
    rw [hstep, Nat.toDigits_of_base_le (by decide) (by omega), Nat.mul_div_cancel _ (by decide),
      Nat.mul_mod_left, ih, List.replicate_succ', List.append_assoc]
    rfl

theorem getLast_toDigits (hc : ¬ 10 ∣ c) :
    ∃ front digit, Nat.toDigits 10 c = front ++ [digit] ∧ digit ≠ '0' := by
  have hdigit : (Nat.digitChar (c % 10)) ≠ '0' := by
    rw [Ne, Nat.digitChar_eq_zero]
    omega
  by_cases hlt : c < 10
  · refine ⟨[], Nat.digitChar (c % 10), ?_, hdigit⟩
    rw [Nat.mod_eq_of_lt hlt, Nat.toDigits_of_lt_base hlt, List.nil_append]
  · exact ⟨_, _, Nat.toDigits_of_base_le (by decide) (by omega), hdigit⟩

theorem stripZeros_append {front : List Char} {digit : Char} (hdigit : digit ≠ '0') {j fuel : Nat}
    (hj : j ≤ k) (hfuel : j < fuel) (exponent : Int) :
    stripZeros (front ++ [digit] ++ List.replicate k '0') fuel ((front.length + 1 + j : Nat) : Int)
      exponent = some (((front.length + 1 : Nat) : Int), exponent + j) := by
  induction j generalizing fuel exponent with
  | zero =>
    obtain ⟨fuel, rfl⟩ : ∃ m, fuel = m + 1 := ⟨fuel - 1, by omega⟩
    have hat : digitAt (front ++ [digit] ++ List.replicate k '0')
        (((front.length + 1 + 0 : Nat) : Int) - 1) = some digit := by
      have hindex : (((front.length + 1 + 0 : Nat) : Int) - 1).toNat = front.length := by omega
      rw [digitAt, if_pos (by omega), hindex, List.append_assoc,
        List.getElem?_append_right (Nat.le_refl _), Nat.sub_self]
      rfl
    rw [stripZeros, hat]
    simp [hdigit]
  | succ j ih =>
    obtain ⟨fuel, rfl⟩ : ∃ m, fuel = m + 1 := ⟨fuel - 1, by omega⟩
    have hat : digitAt (front ++ [digit] ++ List.replicate k '0')
        (((front.length + 1 + (j + 1) : Nat) : Int) - 1) = some '0' := by
      have hindex : (((front.length + 1 + (j + 1) : Nat) : Int) - 1).toNat =
          front.length + 1 + j := by omega
      have hlength : (front ++ [digit]).length = front.length + 1 := List.length_append
      rw [digitAt, if_pos (by omega), hindex, List.getElem?_append_right (by omega),
        List.getElem?_replicate_of_lt (by omega)]
    have hsize : ((front.length + 1 + (j + 1) : Nat) : Int) - 1 =
        ((front.length + 1 + j : Nat) : Int) := by omega
    rw [stripZeros, hat]
    show (if '0' = '0' then _ else _) = _
    rw [if_pos rfl, hsize, ih (by omega) (by omega)]
    congr 2
    push_cast
    omega

theorem stripZeros_eq {fuel : Nat} (hc : ¬ 10 ∣ c) (exponent : Int)
    (hfuel : (Nat.toDigits 10 (c * 10 ^ k)).length ≤ fuel) :
    stripZeros (Nat.toDigits 10 (c * 10 ^ k)) fuel (Nat.toDigits 10 (c * 10 ^ k)).length exponent =
      some (((Nat.toDigits 10 c).length : Int), exponent + k) := by
  have hne : c ≠ 0 := by
    rintro rfl
    exact hc (Nat.dvd_zero 10)
  obtain ⟨front, digit, hdigits, hdigit⟩ := getLast_toDigits hc
  rw [toDigits_mul_pow hne, hdigits, List.length_append, List.length_append, List.length_singleton,
    List.length_replicate] at hfuel ⊢
  exact stripZeros_append hdigit (Nat.le_refl k) (by omega) exponent

theorem exists_not_dvd {n : Nat} (hn : n ≠ 0) : ∃ c k, n = c * 10 ^ k ∧ ¬ 10 ∣ c := by
  obtain ⟨k, c, hc, heq⟩ := Nat.exists_eq_pow_mul_and_not_dvd hn 10 (by decide)
  exact ⟨c, k, by rw [heq, Nat.mul_comm], hc⟩

theorem boundedNonzeroMoney_eq {exponent : Int} (hc : ¬ 10 ∣ c) :
    boundedNonzeroMoney ⟨negative, c * 10 ^ k, exponent⟩ =
      if 36 < ((Nat.toDigits 10 c).length : Int) ∨ exponent + k < -12 ∨
          24 < ((Nat.toDigits 10 c).length : Int) + (exponent + k) then
        .error "CORE_CUSTODY_MONEY_UNREPRESENTABLE"
      else .ok ⟨negative, c, exponent + k⟩ := by
  have hne : c ≠ 0 := by
    rintro rfl
    exact hc (Nat.dvd_zero 10)
  unfold boundedNonzeroMoney
  dsimp only
  rw [stripZeros_eq hc exponent (Nat.le_refl _)]
  dsimp only
  rw [toDigits_mul_pow hne, Int.toNat_natCast, List.take_left', natOfDigits_toDigits]
  · rfl

/-! ## What can be represented -/

theorem pow_le_of_length (hc : c ≠ 0) : 10 ^ ((Nat.toDigits 10 c).length - 1) ≤ c := by
  rw [length_toDigits]
  exact Nat.pow_log_le_self 10 hc

theorem lt_pow_length (c : Nat) : c < 10 ^ (Nat.toDigits 10 c).length := by
  rw [length_toDigits]
  exact Nat.lt_pow_succ_log_self (by decide) c

theorem abs_value (negative : Bool) (c : Nat) (x : Int) :
    |DecimalFloat.value ⟨negative, c, x⟩| = c * 10 ^ x := by
  have hpow : (0 : ℚ) ≤ 10 ^ x := zpow_nonneg (by norm_num) x
  unfold DecimalFloat.value DecimalFloat.signed
  rw [abs_mul, abs_of_nonneg hpow]
  cases negative with
  | false | true => simp

theorem abs_lt_pow_iff (negative : Bool) (hne : c ≠ 0) (x m : Int) :
    |DecimalFloat.value ⟨negative, c, x⟩| < 10 ^ m ↔
      ((Nat.toDigits 10 c).length : Int) + x ≤ m := by
  have hpos : 0 < (Nat.toDigits 10 c).length := Nat.length_toDigits_pos
  have hten : (1 : ℚ) < 10 := by norm_num
  have hpow : (0 : ℚ) < 10 ^ x := zpow_pos (by norm_num) x
  rw [abs_value]
  constructor
  · intro hlt
    have hle : (10 : ℚ) ^ (((Nat.toDigits 10 c).length : Int) - 1 + x) < 10 ^ m := by
      rw [zpow_add₀ (by norm_num)]
      refine lt_of_le_of_lt (mul_le_mul_of_nonneg_right ?_ hpow.le) hlt
      have hlength : ((Nat.toDigits 10 c).length : Int) - 1 =
          (((Nat.toDigits 10 c).length - 1 : Nat) : Int) := by omega
      rw [hlength, zpow_natCast]
      exact_mod_cast pow_le_of_length hne
    have hexponents := (zpow_lt_zpow_iff_right₀ hten).mp hle
    omega
  · intro hle
    calc (c : ℚ) * 10 ^ x < 10 ^ ((Nat.toDigits 10 c).length : Int) * 10 ^ x := by
          refine mul_lt_mul_of_pos_right ?_ hpow
          rw [zpow_natCast]
          exact_mod_cast lt_pow_length c
      _ = 10 ^ (((Nat.toDigits 10 c).length : Int) + x) := by rw [zpow_add₀ (by norm_num)]
      _ ≤ 10 ^ m := (zpow_le_zpow_iff_right₀ hten).mpr hle

theorem representable_iff {x : Int} (hc : ¬ 10 ∣ c) :
    Representable (DecimalFloat.value ⟨negative, c, x⟩) ↔
      -12 ≤ x ∧ ((Nat.toDigits 10 c).length : Int) + x ≤ 24 := by
  have hne : c ≠ 0 := by
    rintro rfl
    exact hc (Nat.dvd_zero 10)
  have hplaces : (∃ n : ℤ, DecimalFloat.value ⟨negative, c, x⟩ = n / 10 ^ 12) ↔ -12 ≤ x := by
    constructor
    · rintro ⟨n, hn⟩
      by_contra hlow
      have habs := congrArg abs hn
      rw [abs_value, abs_div, abs_of_nonneg (by positivity : (0 : ℚ) ≤ 10 ^ 12)] at habs
      have hnat : c = n.natAbs * 10 ^ (-12 - x).toNat := by
        have hshift : (10 : ℚ) ^ x = 1 / (10 ^ 12 * 10 ^ (-12 - x).toNat) := by
          rw [← zpow_natCast, ← zpow_natCast, ← zpow_add₀ (by norm_num), one_div, ← zpow_neg]
          congr 1
          omega
        rw [hshift] at habs
        have hcast : (c : ℚ) = |(n : ℚ)| * 10 ^ (-12 - x).toNat := by
          field_simp at habs
          linarith
        rw [← Int.cast_abs, ← Int.natCast_natAbs, Int.cast_natCast] at hcast
        exact_mod_cast hcast
      apply hc
      rw [hnat]
      exact Dvd.dvd.mul_left (dvd_pow_self 10 (by omega)) _
    · intro hlow
      refine ⟨DecimalFloat.scaled ⟨negative, c, x⟩ (-12), ?_⟩
      have hinv : (10 : ℚ) ^ (-12 : Int) = (10 ^ 12)⁻¹ := by
        rw [zpow_neg]
        rfl
      rw [DecimalFloat.value_eq_scaled _ hlow, hinv, div_eq_mul_inv]
  have hsize : |DecimalFloat.value ⟨negative, c, x⟩| < 10 ^ 24 ↔
      ((Nat.toDigits 10 c).length : Int) + x ≤ 24 := by
    rw [← abs_lt_pow_iff negative hne]
    norm_cast
  exact and_congr hplaces hsize

theorem digit_bounds {c : Char} (h : c.isDigit = true) (hne : c ≠ '0') : '1' ≤ c ∧ c ≤ '9' := by
  obtain ⟨hlow, hhigh⟩ := isDigit_bounds h
  have hzero : c.toNat ≠ 48 := fun heq => hne (Char.toNat_inj.mp heq)
  have hle : ∀ a b : Char, a.toNat ≤ b.toNat → a ≤ b := fun _ _ hab => hab
  refine ⟨hle _ _ ?_, hle _ _ ?_⟩
  · show 49 ≤ c.toNat
    omega
  · show c.toNat ≤ 57
    omega

theorem wholeOf_cases (h : Plain d) :
    wholeOf d = ['0'] ∨ ∃ c cs, wholeOf d = c :: cs ∧ '1' ≤ c ∧ c ≤ '9' := by
  by_cases hpoint : d.exponent + (Nat.toDigits 10 d.coefficient).length ≤ 0
  · refine Or.inl ?_
    unfold wholeOf
    exact if_pos hpoint
  · have hwhole : wholeOf d =
        (Nat.toDigits 10 d.coefficient).take
            (d.exponent + (Nat.toDigits 10 d.coefficient).length).toNat ++
          List.replicate ((d.exponent + (Nat.toDigits 10 d.coefficient).length).toNat -
            (Nat.toDigits 10 d.coefficient).length) '0' := by
      unfold wholeOf
      exact if_neg hpoint
    obtain ⟨point, hnat⟩ : ∃ point, (d.exponent +
        (Nat.toDigits 10 d.coefficient).length).toNat = point + 1 :=
      Nat.exists_eq_succ_of_ne_zero (by omega)
    rw [hnat] at hwhole
    by_cases hzero : d.coefficient = 0
    · have hexponent : d.exponent ≤ 0 := by
        rcases h with hne | hle
        · exact absurd hzero hne
        · exact hle
      have hone : (Nat.toDigits 10 d.coefficient).length = 1 := by
        rw [hzero]
        rfl
      have hpointZero : point = 0 := by omega
      refine Or.inl ?_
      rw [hwhole, hpointZero, hzero]
      rfl
    · obtain ⟨c, cs, hdigits, hdigit, hne⟩ := head_toDigits hzero
      obtain ⟨hlow, hhigh⟩ := digit_bounds hdigit hne
      rw [hdigits, List.take_succ_cons, List.cons_append] at hwhole
      exact Or.inr ⟨c, _, hwhole, hlow, hhigh⟩

theorem moneyPattern_format (hplain : Plain d) (hexponent : -12 ≤ d.exponent)
    (hsize : ((Nat.toDigits 10 d.coefficient).length : Int) + d.exponent ≤ 24) :
    moneyPattern d.format = true := by
  have hfractionLength := length_fractionOf d
  have hwholeLength := length_wholeOf d
  rw [← length_toDigits] at hwholeLength
  have hfraction : (if fractionOf d = [] then none else some (fractionOf d)).all (fun fraction =>
      decide (1 ≤ fraction.length) && decide (fraction.length ≤ 12) && fraction.all isDigit) =
      true := by
    split
    · rfl
    · rename_i hne
      have hpos := List.length_pos_of_ne_nil hne
      rw [Option.all_some, Bool.and_eq_true, Bool.and_eq_true, decide_eq_true_eq, decide_eq_true_eq,
        List.all_eq_true]
      exact ⟨⟨hpos, by omega⟩, fun c hc => isDigit_of_ascii (ascii_fractionOf d c hc)⟩
  unfold moneyPattern
  rw [format_eq hplain, parts_numeral (wholeOf_ne_nil d) (ascii_wholeOf d)]
  dsimp only
  rw [hfraction, Bool.and_true]
  rcases wholeOf_cases hplain with hzero | ⟨c, cs, hcons, hlow, hhigh⟩
  · rw [hzero]
    rfl
  · have hrest : cs.all isDigit = true := by
      rw [List.all_eq_true]
      intro c' hc'
      apply isDigit_of_ascii (ascii_wholeOf d c' _)
      rw [hcons]
      exact List.mem_cons_of_mem c hc'
    have hlength : cs.length ≤ 23 := by
      rw [hcons, List.length_cons] at hwholeLength
      omega
    rw [hcons]
    simp [hlow, hhigh, hrest, hlength]

/-! ## The conversion -/

theorem exactMoney_eq {negative : Bool} {c k : Nat} {exponent : Int} (hc : ¬ 10 ∣ c) :
    (Representable (DecimalFloat.value ⟨negative, c, exponent + k⟩) ∧
      ∃ money, money.text = DecimalFloat.format ⟨negative, c, exponent + k⟩ ∧
        exactMoney (some (.finite ⟨negative, c * 10 ^ k, exponent⟩)) = .ok (some money)) ∨
    (¬ Representable (DecimalFloat.value ⟨negative, c, exponent + k⟩) ∧
      exactMoney (some (.finite ⟨negative, c * 10 ^ k, exponent⟩)) =
        .error "CORE_CUSTODY_MONEY_UNREPRESENTABLE") := by
  have hne : c ≠ 0 := by
    rintro rfl
    exact hc (Nat.dvd_zero 10)
  have hcoefficient : c * 10 ^ k ≠ 0 := Nat.mul_ne_zero hne (Nat.pow_pos (by decide)).ne'
  by_cases hrep : Representable (DecimalFloat.value ⟨negative, c, exponent + k⟩)
  · obtain ⟨hlow, hsize⟩ := (representable_iff hc).mp hrep
    have hpattern : moneyPattern (DecimalFloat.format ⟨negative, c, exponent + k⟩) = true :=
      moneyPattern_format (Or.inl hne) hlow hsize
    refine Or.inl ⟨hrep, ⟨_, hpattern⟩, rfl, ?_⟩
    unfold exactMoney
    dsimp only
    rw [if_neg hcoefficient, boundedNonzeroMoney_eq hc, if_neg (by omega)]
    dsimp only
    rw [dif_pos hpattern]
  · refine Or.inr ⟨hrep, ?_⟩
    rw [representable_iff hc] at hrep
    unfold exactMoney
    dsimp only
    rw [if_neg hcoefficient, boundedNonzeroMoney_eq hc, if_pos (by omega)]

theorem exactMoney_trailing {exponent : Int} (hc : ¬ 10 ∣ c) :
    exactMoney (some (.finite ⟨negative, c * 10 ^ k, exponent⟩)) =
      exactMoney (some (.finite ⟨negative, c * 10 ^ 0, exponent + k⟩)) := by
  have hne : c ≠ 0 := by
    rintro rfl
    exact hc (Nat.dvd_zero 10)
  have hcoefficient : ∀ j, c * 10 ^ j ≠ 0 :=
    fun _ => Nat.mul_ne_zero hne (Nat.pow_pos (by decide)).ne'
  unfold exactMoney
  dsimp only
  rw [if_neg (hcoefficient k), if_neg (hcoefficient 0), boundedNonzeroMoney_eq hc,
    boundedNonzeroMoney_eq hc, Nat.cast_zero, add_zero]

theorem value_trailing (negative : Bool) (c k : Nat) (exponent : Int) :
    DecimalFloat.value ⟨negative, c * 10 ^ k, exponent⟩ =
      DecimalFloat.value ⟨negative, c, exponent + k⟩ := by
  have hpow : (10 : ℚ) ^ (exponent + k) = 10 ^ k * 10 ^ exponent := by
    rw [zpow_add₀ (by norm_num), zpow_natCast, mul_comm]
  unfold DecimalFloat.value DecimalFloat.signed
  rw [hpow]
  cases negative with
  | false =>
    push_cast
    ring
  | true =>
    push_cast
    simp only [if_true]
    ring

theorem value_eq_zero_iff (d : DecimalFloat) : d.value = 0 ↔ d.coefficient = 0 := by
  have hpow : (10 : ℚ) ^ d.exponent ≠ 0 := zpow_ne_zero _ (by norm_num)
  rw [← abs_eq_zero]
  show |DecimalFloat.value ⟨d.negative, d.coefficient, d.exponent⟩| = 0 ↔ _
  rw [abs_value, mul_eq_zero, or_iff_left hpow, Nat.cast_eq_zero]

theorem negative_of_value {d' : DecimalFloat} (hne : d.coefficient ≠ 0) (h : d'.value = d.value) :
    d'.negative = d.negative := by
  have hsign : ∀ e : DecimalFloat, e.coefficient ≠ 0 → (e.negative = true ↔ e.value < 0) := by
    intro e he
    have hpow : (0 : ℚ) < 10 ^ e.exponent := zpow_pos (by norm_num) _
    have hpos : (0 : ℚ) < e.coefficient := by exact_mod_cast Nat.pos_of_ne_zero he
    unfold DecimalFloat.value DecimalFloat.signed
    cases e.negative with
    | false =>
      simp only [Bool.false_eq_true, if_false, false_iff, not_lt]
      exact mul_nonneg (by exact_mod_cast hpos.le) hpow.le
    | true =>
      simp only [if_true, true_iff]
      exact mul_neg_of_neg_of_pos (by push_cast; linarith) hpow
  have hne' : d'.coefficient ≠ 0 := by
    rw [Ne, ← value_eq_zero_iff, h, value_eq_zero_iff]
    exact hne
  rw [Bool.eq_iff_iff, hsign d' hne', hsign d hne, h]

theorem coefficient_unique {c' : Nat} {x x' : Int} (hc : ¬ 10 ∣ c) (hc' : ¬ 10 ∣ c')
    (h : (c : ℚ) * 10 ^ x = c' * 10 ^ x') : c = c' ∧ x = x' := by
  have hle : ∀ {c c' : Nat} {x x' : Int}, ¬ 10 ∣ c → (c : ℚ) * 10 ^ x = c' * 10 ^ x' → x' ≤ x := by
    intro c c' x x' hc h
    by_contra hlt
    apply hc
    have hshift : (10 : ℚ) ^ x' = 10 ^ (x' - x).toNat * 10 ^ x := by
      rw [← zpow_natCast, Int.toNat_of_nonneg (by omega), ← zpow_add₀ (by norm_num)]
      congr 1
      omega
    rw [hshift, ← mul_assoc] at h
    have hnat : c = c' * 10 ^ (x' - x).toNat := by
      have hpow : (10 : ℚ) ^ x ≠ 0 := zpow_ne_zero x (by norm_num)
      exact_mod_cast mul_right_cancel₀ hpow h
    rw [hnat]
    exact Dvd.dvd.mul_left (dvd_pow_self 10 (by omega)) _
  have hx : x = x' := le_antisymm (hle hc' h.symm) (hle hc h)
  rw [hx] at h
  refine ⟨?_, hx⟩
  exact_mod_cast mul_right_cancel₀ (zpow_ne_zero x' (by norm_num)) h

/-- For every finite decimal: it is written as the text of its number when that has at most 24 digits
before the point and 12 behind it, and refused otherwise; the loop over trailing zeros ends inside the
coefficient; and a decimal of the same number is written the same. -/
theorem exact_money_exact (d : DecimalFloat) :
    (Representable d.value → ∃ money, exactMoney (some (.finite d)) = .ok (some money) ∧
      money.decimal.value = d.value) ∧
    (¬ Representable d.value →
      exactMoney (some (.finite d)) = .error "CORE_CUSTODY_MONEY_UNREPRESENTABLE") ∧
    (d.coefficient ≠ 0 → ∃ size exponent, 0 < size ∧
      size ≤ ((Nat.toDigits 10 d.coefficient).length : Int) ∧
      ∀ fuel, (Nat.toDigits 10 d.coefficient).length ≤ fuel →
        stripZeros (Nat.toDigits 10 d.coefficient) fuel (Nat.toDigits 10 d.coefficient).length
          d.exponent = some (size, exponent)) ∧
    ∀ d' : DecimalFloat, d'.value = d.value →
      exactMoney (some (.finite d')) = exactMoney (some (.finite d)) := by
  by_cases hzero : d.coefficient = 0
  · have hvalue : d.value = 0 := (value_eq_zero_iff d).mpr hzero
    have hwritten : ∀ d' : DecimalFloat, d'.coefficient = 0 →
        exactMoney (some (.finite d')) = .ok (some { text := "0" }) := by
      intro d' hd'
      unfold exactMoney
      exact if_pos hd'
    refine ⟨?_, ?_, fun hne => absurd hzero hne, ?_⟩
    · intro _
      refine ⟨_, hwritten d hzero, ?_⟩
      rw [hvalue, value_eq_zero_iff]
      decide +kernel
    · intro hrep
      refine absurd ⟨⟨0, ?_⟩, ?_⟩ hrep
      · rw [hvalue]
        norm_num
      · rw [hvalue]
        norm_num
    · intro d' hd'
      rw [hvalue, value_eq_zero_iff] at hd'
      rw [hwritten d' hd', hwritten d hzero]
  · obtain ⟨c, k, hcoefficient, hc⟩ := exists_not_dvd hzero
    have hd : d = ⟨d.negative, c * 10 ^ k, d.exponent⟩ := by rw [← hcoefficient]
    have hvalue : d.value = DecimalFloat.value ⟨d.negative, c, d.exponent + k⟩ := by
      rw [← value_trailing, ← hd]
    have hmoney := @exactMoney_eq d.negative c k d.exponent hc
    rw [← hd, ← hvalue] at hmoney
    refine ⟨?_, ?_, ?_, ?_⟩
    · intro hrep
      rcases hmoney with ⟨_, money, htext, hok⟩ | ⟨hnot, _⟩
      · refine ⟨money, hok, ?_⟩
        have hne : c ≠ 0 := by
          rintro rfl
          exact hc (Nat.dvd_zero 10)
        rw [MoneyText.decimal, htext, value_decimal_format (Or.inl hne), hvalue]
      · exact absurd hrep hnot
    · intro hrep
      rcases hmoney with ⟨hyes, _⟩ | ⟨_, herror⟩
      · exact absurd hyes hrep
      · exact herror
    · intro _
      refine ⟨((Nat.toDigits 10 c).length : Int), d.exponent + k, ?_, ?_, fun fuel hfuel => ?_⟩
      · exact_mod_cast Nat.length_toDigits_pos
      · rw [hcoefficient, toDigits_mul_pow, List.length_append]
        · omega
        · rintro rfl
          exact hc (Nat.dvd_zero 10)
      · rw [hcoefficient] at hfuel ⊢
        exact stripZeros_eq hc d.exponent hfuel
    · intro d' hd'
      have hzero' : d'.coefficient ≠ 0 := by
        rw [Ne, ← value_eq_zero_iff, hd', value_eq_zero_iff]
        exact hzero
      obtain ⟨c', k', hcoefficient', hc'⟩ := exists_not_dvd hzero'
      have hdEq : d' = ⟨d'.negative, c' * 10 ^ k', d'.exponent⟩ := by rw [← hcoefficient']
      have habs : (c' : ℚ) * 10 ^ (d'.exponent + k') = c * 10 ^ (d.exponent + k) := by
        rw [← abs_value d'.negative, ← abs_value d.negative, ← value_trailing, ← value_trailing,
          ← hd, ← hdEq, hd']
      obtain ⟨hcc, hxx⟩ := coefficient_unique hc' hc habs
      calc exactMoney (some (.finite d'))
          = exactMoney (some (.finite ⟨d'.negative, c' * 10 ^ k', d'.exponent⟩)) := by rw [← hdEq]
        _ = exactMoney (some (.finite ⟨d'.negative, c' * 10 ^ 0, d'.exponent + k'⟩)) :=
          exactMoney_trailing hc'
        _ = exactMoney (some (.finite ⟨d.negative, c * 10 ^ 0, d.exponent + k⟩)) := by
          rw [hcc, hxx, negative_of_value hzero hd']
        _ = exactMoney (some (.finite ⟨d.negative, c * 10 ^ k, d.exponent⟩)) :=
          (exactMoney_trailing hc).symm
        _ = exactMoney (some (.finite d)) := by rw [← hd]

end LotusManage.Composites
