import LotusManage.Composites.MoneyTexts

/-!
# Spellings of an amount

The texts that `NativeCashDeclaration` and `canonical_decimal` admit for an amount.  Both read the text
as a decimal, make it canonical, and want the text to be its `str`.

* `requireCanonicalCash_iff`, `canonicalDecimal_iff`: what each of them admits.
* `format_of_canonical`: an admitted text at a scale is the formatted decimal of that scale.
* `one_spelling_iff`: there is one spelling for both exactly when `str` needs no exponent.
-/

namespace LotusManage.Composites

open DecimalText

/-! ## Admission -/

/-- `^[+-]?(?:\\d+(?:\\.\\d*)?|\\.\\d+)$` -/
def cashPattern (text : String) : Bool :=
  let cs := match text.toList with
    | '+' :: cs => cs
    | '-' :: cs => cs
    | cs => cs
  let whole := cs.takeWhile (· ≠ '.')
  match cs.dropWhile (· ≠ '.') with
  | [] => whole.all isDigit && !whole.isEmpty
  | _ :: fraction =>
    whole.all isDigit && fraction.all isDigit && !(whole.isEmpty && fraction.isEmpty)

/-- The exponent of an amount in the range of `NUMERIC`. -/
def exponentInRange (amount : DecimalFloat) : Bool :=
  decide (-16383 ≤ amount.exponent) && (decide (amount.coefficient = 0) ||
    decide (amount.exponent + (Nat.toDigits 10 amount.coefficient).length - 1 < 131072))

/-- `_numeric_exponent` -/
def numericExponent : Numeric → Except String DecimalFloat
  | .special => .error "CORE_READER_DECIMAL_RANGE"
  | .finite amount =>
    if exponentInRange amount then .ok amount else .error "CORE_READER_DECIMAL_RANGE"

/-- `_canonical_numeric_amount` -/
def canonicalNumericAmount (amount : DecimalFloat) : DecimalFloat :=
  if amount.coefficient = 0 then ⟨false, 0, min amount.exponent 0⟩
  else if 0 < amount.exponent then DecimalText.decimal amount.format
  else amount

/-- `canonical_decimal`; a `ValueError` is its code. -/
def canonicalDecimal (value : String) : Except String String :=
  if value ≠ Text.strip value then .error "CORE_READER_DECIMAL_TEXT"
  else
    match DecimalText.read value with
    | none => .error "CORE_READER_DECIMAL_TEXT"
    | some number =>
      match numericExponent number with
      | .error code => .error code
      | .ok amount =>
        if str (canonicalNumericAmount amount) ≠ value then
          .error "CORE_READER_DECIMAL_NONCANONICAL"
        else .ok value

/-- The checks of `NativeCashDeclaration` on its amount: the pattern, and `require_canonical_cash`. -/
def requireCanonicalCash : Option String → Except String Unit
  | none => .ok ()
  | some text =>
    if cashPattern text = false then .error "string_pattern_mismatch"
    else
      match DecimalText.read text with
      | none => .error "COMPOSITE_NATIVE_CASH_INVALID"
      | some .special => .error "COMPOSITE_NATIVE_CASH_INVALID"
      | some (.finite amount) =>
        if exponentInRange amount = false then .error "COMPOSITE_NATIVE_CASH_INVALID"
        else if str (canonicalNumericAmount amount) ≠ text then
          .error "COMPOSITE_NATIVE_CASH_NONCANONICAL"
        else .ok ()

/-! ## Spellings -/

/-- The text stands for the number, with so many digits behind the point and without an exponent. -/
structure Spells (text : String) (v : ℚ) (scale : Nat) : Prop where
  reads : ∃ d, DecimalText.read text = some (.finite d) ∧ d.value = v
  places : (text.toList.dropWhile (· ≠ '.')).tail.length = scale
  positional : ∀ c ∈ text.toList, isDigit c = true ∨ c ∈ ['+', '-', '.']

/-- The number has at most that many digits behind the point, and 24 before it. -/
def RepresentableAt (v : ℚ) (scale : Nat) : Prop := (∃ n : ℤ, v = n / 10 ^ scale) ∧ |v| < 10 ^ 24

/-- One text of the number at the scale is admitted as native cash, one by `canonical_decimal`; they
are the same, and `MoneyText` admits it. -/
def OneSpelling (v : ℚ) (scale : Nat) : Prop :=
  ∃ text, Spells text v scale ∧
    (∀ other, Spells other v scale → (requireCanonicalCash (some other) = .ok () ↔ other = text)) ∧
    (∀ other, Spells other v scale → (canonicalDecimal other = .ok other ↔ other = text)) ∧
    moneyPattern text = true

/-- The text is the `str` of its canonical amount. -/
def Canonical (text : String) : Prop :=
  ∃ d, DecimalText.read text = some (.finite d) ∧ exponentInRange d = true ∧
    str (canonicalNumericAmount d) = text

variable {text : String} {d c : DecimalFloat} {v : ℚ} {scale : Nat}

theorem requireCanonicalCash_iff :
    requireCanonicalCash (some text) = .ok () ↔ cashPattern text = true ∧ Canonical text := by
  unfold requireCanonicalCash Canonical
  dsimp only
  by_cases hpattern : cashPattern text = false
  · rw [if_pos hpattern, hpattern]
    simp
  · rw [if_neg hpattern]
    have hmatches : cashPattern text = true := by simpa using hpattern
    cases hread : DecimalText.read text with
    | none => simp
    | some number =>
      cases number with
      | special => simp
      | finite d =>
        by_cases hrange : exponentInRange d = false
        · simp [hrange]
        · have hinside : exponentInRange d = true := by simpa using hrange
          by_cases hstr : str (canonicalNumericAmount d) = text
          · simp [hmatches, hinside, hstr]
          · simp [hstr, hinside]

theorem canonicalDecimal_iff :
    canonicalDecimal text = .ok text ↔ text = Text.strip text ∧ Canonical text := by
  unfold canonicalDecimal Canonical numericExponent
  by_cases hstrip : text = Text.strip text
  · rw [if_neg (not_not_intro hstrip)]
    cases hread : DecimalText.read text with
    | none => simp
    | some number =>
      cases number with
      | special => simp
      | finite d =>
        by_cases hrange : exponentInRange d = false
        · simp [hrange]
        · have hinside : exponentInRange d = true := by simpa using hrange
          by_cases hstr : str (canonicalNumericAmount d) = text
          · simp [hinside, hstr, ← hstrip]
          · simp [hstr, hinside]
  · rw [if_pos hstrip]
    simp [hstrip]

/-! ## Canonical amounts -/

theorem canonicalNumericAmount_exponent (d : DecimalFloat) :
    (canonicalNumericAmount d).exponent ≤ 0 := by
  unfold canonicalNumericAmount
  split
  · exact min_le_right _ _
  · split
    · rename_i hne _
      rw [decimal_format_eq (Or.inl hne)]
      show -((-d.exponent).toNat : Int) ≤ 0
      omega
    · omega

theorem canonicalNumericAmount_value (d : DecimalFloat) :
    (canonicalNumericAmount d).value = d.value := by
  unfold canonicalNumericAmount
  split
  · rename_i hzero
    rw [(value_eq_zero_iff d).mpr hzero, value_eq_zero_iff]
  · split
    · rename_i hne _
      exact value_decimal_format (Or.inl hne)
    · rfl

theorem canonicalNumericAmount_zero (h : (canonicalNumericAmount d).coefficient = 0) :
    (canonicalNumericAmount d).negative = false := by
  rw [← value_eq_zero_iff, canonicalNumericAmount_value, value_eq_zero_iff] at h
  unfold canonicalNumericAmount
  rw [if_pos h]

/-- An amount that is canonical at a scale. -/
structure CanonicalAt (c : DecimalFloat) (v : ℚ) (scale : Nat) : Prop where
  exponent : c.exponent = -(scale : Int)
  value : c.value = v
  zero : c.coefficient = 0 → c.negative = false

theorem CanonicalAt.unique {c' : DecimalFloat} (h : CanonicalAt c v scale)
    (h' : CanonicalAt c' v scale) : c = c' := by
  have hvalue : c.value = c'.value := h.value.trans h'.value.symm
  have hexponent : c.exponent = c'.exponent := h.exponent.trans h'.exponent.symm
  have habs : ∀ d : DecimalFloat, |d.value| = d.coefficient * 10 ^ d.exponent :=
    fun d => abs_value d.negative d.coefficient d.exponent
  have hcoefficient : c.coefficient = c'.coefficient := by
    have heq := congrArg abs hvalue
    rw [habs, habs, hexponent] at heq
    exact_mod_cast mul_right_cancel₀ (zpow_ne_zero _ (by norm_num)) heq
  have hnegative : c.negative = c'.negative := by
    by_cases hzero : c'.coefficient = 0
    · rw [h'.zero hzero, h.zero (hcoefficient.trans hzero)]
    · exact negative_of_value hzero hvalue
  obtain ⟨negative, coefficient, exponent⟩ := c
  obtain ⟨negative', coefficient', exponent'⟩ := c'
  cases hexponent
  cases hcoefficient
  cases hnegative
  rfl

theorem exists_canonicalAt (h : RepresentableAt v scale) : ∃ c, CanonicalAt c v scale := by
  obtain ⟨n, hn⟩ := h.1
  refine ⟨⟨decide (n < 0), n.natAbs, -(scale : Int)⟩, rfl, ?_, ?_⟩
  · have hsigned : DecimalFloat.signed ⟨decide (n < 0), n.natAbs, -(scale : Int)⟩ = n := by
      unfold DecimalFloat.signed
      by_cases hneg : n < 0
      · simp only [hneg, decide_true, if_true]
        omega
      · simp only [hneg, decide_false, Bool.false_eq_true, if_false]
        omega
    rw [DecimalFloat.value, hsigned, hn, zpow_neg, zpow_natCast, div_eq_mul_inv]
  · intro hzero
    have hnZero : n = 0 := Int.natAbs_eq_zero.mp hzero
    simp [hnZero]

/-! ## Formatted amounts -/

theorem toList_format (h : d.exponent ≤ 0) :
    d.format.toList = (if d.negative then ['-'] else []) ++ wholeOf d ++
      if fractionOf d = [] then [] else '.' :: fractionOf d := by
  rw [format_eq (Or.inr h), numeral, String.toList_ofList]

theorem dropWhile_format (h : d.exponent ≤ 0) :
    d.format.toList.dropWhile (· ≠ '.') =
      if fractionOf d = [] then [] else '.' :: fractionOf d := by
  have hfront : ∀ c ∈ (if d.negative then ['-'] else []) ++ wholeOf d, decide (c ≠ '.') = true := by
    intro c hc
    rw [decide_eq_true_eq]
    rcases List.mem_append.mp hc with hc | hc
    · split at hc
      · rw [List.mem_singleton.mp hc]
        decide
      · cases hc
    · exact (plain_of_isDigit (ascii_wholeOf d c hc)).2.2.2.2
  rw [toList_format h, List.dropWhile_append_of_pos hfront]
  split
  · rfl
  · rfl

theorem mem_format (h : d.exponent ≤ 0) {c : Char} (hc : c ∈ d.format.toList) :
    c.isDigit = true ∨ c = '-' ∨ c = '.' := by
  rw [toList_format h] at hc
  rcases List.mem_append.mp hc with hc | hc
  · rcases List.mem_append.mp hc with hc | hc
    · split at hc
      · exact Or.inr (Or.inl (List.mem_singleton.mp hc))
      · cases hc
    · exact Or.inl (ascii_wholeOf d c hc)
  · split at hc
    · cases hc
    · rcases List.mem_cons.mp hc with rfl | hc
      · exact Or.inr (Or.inr rfl)
      · exact Or.inl (ascii_fractionOf d c hc)

theorem strip_format (h : d.exponent ≤ 0) : d.format = Text.strip d.format := by
  rw [Text.strip, stripList_of_no_space, String.ofList_toList]
  intro c hc
  rcases mem_format h hc with hdigit | rfl | rfl
  · exact (plain_of_isDigit hdigit).1
  · decide
  · decide

theorem cashPattern_format (h : d.exponent ≤ 0) : cashPattern d.format = true := by
  have hwhole : ∀ c ∈ wholeOf d, decide (c ≠ '.') = true := by
    intro c hc
    rw [decide_eq_true_eq]
    exact (plain_of_isDigit (ascii_wholeOf d c hc)).2.2.2.2
  have hwholeDigits : (wholeOf d).all isDigit = true :=
    List.all_eq_true.mpr (fun c hc => isDigit_of_ascii (ascii_wholeOf d c hc))
  have hfractionDigits : (fractionOf d).all isDigit = true :=
    List.all_eq_true.mpr (fun c hc => isDigit_of_ascii (ascii_fractionOf d c hc))
  have hnonempty : (wholeOf d).isEmpty = false := by
    rw [List.isEmpty_eq_false_iff]
    exact wholeOf_ne_nil d
  have hunsigned : (match d.format.toList with
      | '+' :: cs => cs
      | '-' :: cs => cs
      | cs => cs) = wholeOf d ++ if fractionOf d = [] then [] else '.' :: fractionOf d := by
    rw [toList_format h, List.append_assoc]
    cases d.negative with
    | true => rfl
    | false =>
      obtain ⟨c, cs, hcons⟩ := List.exists_cons_of_ne_nil (wholeOf_ne_nil d)
      obtain ⟨_, _, hminus, hplus, _⟩ :=
        plain_of_isDigit (ascii_wholeOf d c (by rw [hcons]; exact List.mem_cons_self))
      rw [hcons]
      show (match c :: (cs ++ _) with
        | '+' :: cs => cs
        | '-' :: cs => cs
        | cs => cs) = _
      split
      · rename_i heq
        cases heq
        exact absurd rfl hplus
      · rename_i heq
        cases heq
        exact absurd rfl hminus
      · rfl
  unfold cashPattern
  rw [hunsigned]
  dsimp only
  rw [List.takeWhile_append_of_pos hwhole, List.dropWhile_append_of_pos hwhole]
  by_cases hfraction : fractionOf d = []
  · rw [if_pos hfraction]
    simp [hwholeDigits, hnonempty]
  · rw [if_neg hfraction]
    simp [hwholeDigits, hfractionDigits, hnonempty]

theorem spells_format (h : CanonicalAt c v scale) : Spells c.format v scale := by
  have hexponent : c.exponent ≤ 0 := by
    rw [h.exponent]
    omega
  refine ⟨⟨c, read_format hexponent, h.value⟩, ?_, ?_⟩
  · have hlength := length_fractionOf c
    rw [h.exponent] at hlength
    rw [dropWhile_format hexponent]
    split
    · rename_i hnil
      rw [hnil] at hlength
      rw [List.length_nil] at hlength
      show 0 = scale
      omega
    · show (fractionOf c).length = scale
      omega
  · intro c' hc'
    rcases mem_format hexponent hc' with hdigit | rfl | rfl
    · exact Or.inl (isDigit_of_ascii hdigit)
    · exact Or.inr (by decide)
    · exact Or.inr (by decide)

theorem canonical_format (h : CanonicalAt c v scale) (hpositional : Positional c)
    (hscale : scale ≤ 12) (hsize : |v| < 10 ^ 24) : Canonical c.format := by
  have hexponent := hpositional.1
  have hsame : canonicalNumericAmount c = c := by
    unfold canonicalNumericAmount
    split
    · rename_i hzero
      obtain ⟨negative, coefficient, exponent⟩ := c
      cases hzero
      have hnegative : negative = false := h.zero rfl
      rw [hnegative, min_eq_left hexponent]
    · rw [if_neg (by omega)]
  refine ⟨c, read_format hexponent, ?_, ?_⟩
  · have hlow := h.exponent
    have hdigits : c.coefficient = 0 ∨
        c.exponent + (Nat.toDigits 10 c.coefficient).length - 1 < 131072 := by
      by_cases hzero : c.coefficient = 0
      · exact Or.inl hzero
      · have hlength := (abs_lt_pow_iff c.negative hzero c.exponent 24).mp (by
          rw [← h.value] at hsize
          exact_mod_cast hsize)
        exact Or.inr (by omega)
    unfold exponentInRange
    rw [Bool.and_eq_true, Bool.or_eq_true, decide_eq_true_eq, decide_eq_true_eq, decide_eq_true_eq]
    exact ⟨by omega, hdigits⟩
  · rw [hsame, str_eq_format hpositional]

theorem format_of_canonical (hspells : Spells text v scale) (hcanonical : Canonical text) :
    ∃ c, CanonicalAt c v scale ∧ Positional c ∧ text = c.format := by
  obtain ⟨d, hread, _, hstr⟩ := hcanonical
  obtain ⟨d', hread', hvalue⟩ := hspells.reads
  rw [hread] at hread'
  cases hread'
  have hpositional : Positional (canonicalNumericAmount d) := by
    by_contra hnot
    have hletter := mem_str_of_not_positional hnot
    rw [hstr] at hletter
    rcases hspells.positional 'E' hletter with hdigit | hsign
    · revert hdigit
      decide +kernel
    · revert hsign
      decide
  have hexponent := canonicalNumericAmount_exponent d
  have htext : text = (canonicalNumericAmount d).format := by
    rw [← hstr, str_eq_format hpositional]
  refine ⟨canonicalNumericAmount d, ⟨?_, ?_, canonicalNumericAmount_zero⟩, hpositional, htext⟩
  · have hplaces := hspells.places
    have hlength := length_fractionOf (canonicalNumericAmount d)
    rw [htext, dropWhile_format hexponent] at hplaces
    split at hplaces
    · rename_i hnil
      rw [hnil, List.length_nil] at hlength
      have hzero : 0 = scale := hplaces
      omega
    · have hfraction : (fractionOf (canonicalNumericAmount d)).length = scale := hplaces
      omega
  · rw [canonicalNumericAmount_value, hvalue]

theorem positional_iff (h : CanonicalAt c v scale) :
    Positional c ↔ (v = 0 ∧ scale ≤ 6) ∨ 1 / 10 ^ 6 ≤ |v| := by
  have hexponent := h.exponent
  have hmillionth : (1 : ℚ) / 10 ^ 6 = 10 ^ (-6 : Int) := by
    rw [zpow_neg, one_div]
    rfl
  unfold Positional
  by_cases hzero : c.coefficient = 0
  · have hv : v = 0 := by rw [← h.value, value_eq_zero_iff, hzero]
    have hone : (Nat.toDigits 10 c.coefficient).length = 1 := by
      rw [hzero]
      rfl
    have hsmall : ¬ (1 : ℚ) / 10 ^ 6 ≤ |v| := by
      rw [hv]
      norm_num
    rw [or_iff_left hsmall, hone, eq_true hv, true_and]
    omega
  · have hv : v ≠ 0 := by
      rw [← h.value, Ne, value_eq_zero_iff]
      exact hzero
    have hlength := abs_lt_pow_iff c.negative hzero c.exponent (-6)
    have hvalue : DecimalFloat.value ⟨c.negative, c.coefficient, c.exponent⟩ = v := h.value
    rw [hvalue] at hlength
    rw [or_iff_right (fun hboth => hv hboth.1), hmillionth, ← not_lt (a := |v|), hlength]
    omega

/-- A representable number has one admissible spelling at a scale exactly when it is at least a
millionth, or a zero with at most six places. -/
theorem one_spelling_iff (v : ℚ) (scale : Nat) (hscale : scale ≤ 12)
    (hrepresentable : RepresentableAt v scale) :
    OneSpelling v scale ↔ (v = 0 ∧ scale ≤ 6) ∨ 1 / 10 ^ 6 ≤ |v| := by
  obtain ⟨c, hc⟩ := exists_canonicalAt hrepresentable
  rw [← positional_iff hc]
  constructor
  · rintro ⟨text, hspells, hcash, _, _⟩
    have hadmitted := (hcash text hspells).mpr rfl
    obtain ⟨c', hc', hpositional, _⟩ :=
      format_of_canonical hspells (requireCanonicalCash_iff.mp hadmitted).2
    rw [hc.unique hc']
    exact hpositional
  · intro hpositional
    have hexponent := hpositional.1
    have hcanonical := canonical_format hc hpositional hscale hrepresentable.2
    have honly : ∀ other, Spells other v scale → Canonical other → other = c.format := by
      intro other hother hcanonical
      obtain ⟨c', hc', _, htext⟩ := format_of_canonical hother hcanonical
      rw [htext, hc'.unique hc]
    refine ⟨c.format, spells_format hc, ?_, ?_, ?_⟩
    · intro other hother
      rw [requireCanonicalCash_iff]
      constructor
      · intro h
        exact honly other hother h.2
      · rintro rfl
        exact ⟨cashPattern_format hexponent, hcanonical⟩
    · intro other hother
      rw [canonicalDecimal_iff]
      constructor
      · intro h
        exact honly other hother h.2
      · rintro rfl
        exact ⟨strip_format hexponent, hcanonical⟩
    · have hlow := hc.exponent
      have hvalue : DecimalFloat.value ⟨c.negative, c.coefficient, c.exponent⟩ = v := hc.value
      refine moneyPattern_format (Or.inr hexponent) (by omega) ?_
      by_cases hzero : c.coefficient = 0
      · rw [hzero]
        show ((1 : Nat) : Int) + c.exponent ≤ 24
        omega
      · have hlength := (abs_lt_pow_iff c.negative hzero c.exponent 24).mp (by
          rw [hvalue]
          exact_mod_cast hrepresentable.2)
        exact hlength

theorem one_spelling_cents :
    OneSpelling (-5 / 4) 2 ↔ ((-5 / 4 : ℚ) = 0 ∧ 2 ≤ 6) ∨ 1 / 10 ^ 6 ≤ |(-5 / 4 : ℚ)| :=
  one_spelling_iff (-5 / 4) 2 (by decide) ⟨⟨-125, by norm_num⟩, by norm_num [abs_div]⟩

/-- A tenth of a millionth has no spelling: `str` writes it with an exponent. -/
theorem tenth_of_millionth_unspelled :
    ¬ ∀ v scale, scale ≤ 12 → RepresentableAt v scale → OneSpelling v scale := by
  intro hclaim
  have hrepresentable : RepresentableAt (1 / 10 ^ 7) 7 := by
    refine ⟨⟨1, by norm_num⟩, ?_⟩
    rw [abs_of_pos (by norm_num)]
    norm_num
  obtain ⟨text, hspells, hcash, _, _⟩ := hclaim (1 / 10 ^ 7) 7 (by decide) hrepresentable
  obtain ⟨c, hc, hpositional, _⟩ :=
    format_of_canonical hspells (requireCanonicalCash_iff.mp ((hcash text hspells).mpr rfl)).2
  rcases (positional_iff hc).mp hpositional with ⟨hzero, _⟩ | hlarge
  · norm_num at hzero
  · rw [abs_of_pos (by norm_num)] at hlarge
    norm_num at hlarge

end LotusManage.Composites
