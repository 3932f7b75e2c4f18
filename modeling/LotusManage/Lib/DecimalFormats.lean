import LotusManage.Lib.DecimalTexts
import LotusManage.Lib.Text
import Mathlib.Data.Nat.Digits.Defs

/-!
# Formatted decimals

What `format(d, "f")` and `str(d)` write, read back.

* `parts_numeral`: the digits before and after the point.
* `decimal_format`: a decimal that is no multiple of a positive power of ten is read back as it is.
* `value_decimal_format`: every decimal is read back with its value.
* `str_eq_format`: `str` writes the same text, unless it uses an exponent.
* `mem_str_of_not_positional`: then it writes the letter of an exponent.
* `read_format`: `Decimal(text)` reads what is written.
-/

namespace LotusManage.DecimalText

/-! ## Digits -/

variable {c : Char} {cs whole fraction : List Char} {negative : Bool} {d : DecimalFloat}

theorem isDigit_bounds (h : c.isDigit = true) : 48 ≤ c.toNat ∧ c.toNat < 58 := by
  simp only [Char.isDigit, Bool.and_eq_true, decide_eq_true_eq] at h
  have hlow : (48 : UInt32).toNat ≤ c.val.toNat := h.1
  have hhigh : c.val.toNat ≤ (57 : UInt32).toNat := h.2
  exact ⟨hlow, Nat.lt_succ_of_le hhigh⟩

theorem digitValue?_of_isDigit (h : c.isDigit = true) : digitValue? c = some (c.toNat - 48) := by
  have hbounds := isDigit_bounds h
  unfold digitValue? digitZeros
  rw [List.findSome?_cons, if_pos hbounds]

theorem isDigit_of_ascii (h : c.isDigit = true) : isDigit c = true := by
  rw [isDigit, digitValue?_of_isDigit h]
  rfl

theorem natOfDigits_eq_ofDigitChars (h : ∀ c ∈ cs, c.isDigit = true) :
    natOfDigits cs = Nat.ofDigitChars 10 cs 0 := by
  rw [natOfDigits, Nat.ofDigitChars_eq_foldl]
  refine List.foldl_ext _ _ _ ?_
  intro n c hc
  rw [digitValue?_of_isDigit (h c hc)]
  rfl

/-- The digits of a coefficient. -/
theorem ascii_toDigits (n : Nat) : ∀ c ∈ Nat.toDigits 10 n, c.isDigit = true := by
  intro c hc
  exact Nat.isDigit_of_mem_toDigits (by decide) (by decide) hc

theorem ascii_replicate (n : Nat) : ∀ c ∈ List.replicate n '0', c.isDigit = true := by
  intro c hc
  rw [List.eq_of_mem_replicate hc]
  decide

theorem natOfDigits_toDigits (n : Nat) : natOfDigits (Nat.toDigits 10 n) = n := by
  rw [natOfDigits_eq_ofDigitChars (ascii_toDigits n)]
  exact Nat.ofDigitChars_ten_toDigits

theorem natOfDigits_append (cs ds : List Char) :
    natOfDigits (cs ++ ds) = natOfDigits cs * 10 ^ ds.length + natOfDigits ds := by
  induction ds using List.reverseRecOn with
  | nil => simp [natOfDigits]
  | append_singleton ds d ih =>
    have hstep : ∀ es, natOfDigits (es ++ [d]) = 10 * natOfDigits es + (digitValue? d).getD 0 := by
      intro es
      simp [natOfDigits]
    rw [← List.append_assoc, hstep, ih, hstep, List.length_append, List.length_singleton, pow_succ]
    ring

theorem natOfDigits_replicate_zero (n : Nat) : natOfDigits (List.replicate n '0') = 0 := by
  rw [natOfDigits_eq_ofDigitChars (ascii_replicate n), Nat.ofDigitChars_replicate_zero]
  exact Nat.mul_zero _

/-- The first digit of a number that is not zero. -/
theorem head_toDigits {n : Nat} (h : n ≠ 0) :
    ∃ c cs, Nat.toDigits 10 n = c :: cs ∧ c.isDigit = true ∧ c ≠ '0' := by
  induction n using Nat.strongRecOn with
  | _ n ih =>
    by_cases hlt : n < 10
    · refine ⟨n.digitChar, [], Nat.toDigits_of_lt_base hlt, ?_, ?_⟩
      · rw [Nat.isDigit_digitChar, decide_eq_true_eq]
        exact hlt
      · rw [Ne, Nat.digitChar_eq_zero]
        exact h
    · obtain ⟨c, cs, heq, hdigit, hne⟩ := ih (n / 10) (by omega) (by omega)
      refine ⟨c, cs ++ [Nat.digitChar (n % 10)], ?_, hdigit, hne⟩
      rw [Nat.toDigits_of_base_le (by decide) (by omega), heq, List.cons_append]

theorem length_toDigits (n : Nat) : (Nat.toDigits 10 n).length = DecimalFloat.digitCount n := by
  have hpos : 0 < (Nat.toDigits 10 n).length := Nat.length_toDigits_pos
  have hle := (Nat.length_toDigits_le_iff (k := DecimalFloat.digitCount n) (by decide)
    (Nat.succ_pos _)).mpr (Nat.lt_pow_succ_log_self (by decide : 1 < 10) n)
  apply Nat.le_antisymm hle
  have hlt := (Nat.length_toDigits_le_iff (b := 10) (n := n) (by decide) hpos).mp (Nat.le_refl _)
  rw [DecimalFloat.digitCount]
  by_cases hzero : n = 0
  · subst hzero
    simp
  · exact Nat.log_lt_of_lt_pow hzero hlt

/-! ## The parts of a text -/

/-- The texts of the shape that `format` writes. -/
def numeral (negative : Bool) (whole fraction : List Char) : String :=
  String.ofList ((if negative then ['-'] else []) ++ whole ++
    if fraction = [] then [] else '.' :: fraction)

/-- The parts of digits behind an optional sign. -/
theorem parts_signed (hc : c ≠ '-') :
    parts (String.ofList ((if negative then ['-'] else []) ++ c :: cs)) =
      match (c :: cs).dropWhile (· ≠ '.') with
      | _ :: fraction => ⟨negative, (c :: cs).takeWhile (· ≠ '.'), some fraction⟩
      | [] => ⟨negative, c :: cs, none⟩ := by
  unfold parts
  rw [String.toList_ofList]
  cases negative with
  | true => rfl
  | false =>
    split
    · rename_i heq
      split at heq
      · rename_i hsign
        cases hsign
        exact absurd rfl hc
      · cases heq
        rfl

theorem parts_numeral (hne : whole ≠ []) (hwhole : ∀ c ∈ whole, c.isDigit = true) :
    parts (numeral negative whole fraction) =
      ⟨negative, whole, if fraction = [] then none else some fraction⟩ := by
  have hpoint : ∀ c ∈ whole, decide (c ≠ '.') = true := by
    intro c hc
    rw [decide_eq_true_eq]
    rintro rfl
    exact absurd (hwhole '.' hc) (by decide)
  obtain ⟨c, cs, rfl⟩ := List.exists_cons_of_ne_nil hne
  have hc : c ≠ '-' := by
    rintro rfl
    exact absurd (hwhole '-' List.mem_cons_self) (by decide)
  rw [numeral, List.append_assoc, List.cons_append, parts_signed hc, ← List.cons_append,
    List.dropWhile_append_of_pos hpoint, List.takeWhile_append_of_pos hpoint]
  by_cases hfraction : fraction = []
  · subst hfraction
    simp
  · simp [hfraction]

/-- The number that a numeral is read as. -/
theorem decimal_numeral (hne : whole ≠ []) (hwhole : ∀ c ∈ whole, c.isDigit = true) :
    decimal (numeral negative whole fraction) =
      ⟨negative, natOfDigits (whole ++ fraction), -(fraction.length : Int)⟩ := by
  rw [decimal, parts_numeral hne hwhole]
  by_cases hfraction : fraction = []
  · subst hfraction
    rfl
  · simp [hfraction, Parts.digits]

/-! ## What is written -/

/-- The digits before the point. -/
def wholeOf (d : DecimalFloat) : List Char :=
  let digits := Nat.toDigits 10 d.coefficient
  let point : Int := d.exponent + digits.length
  if point ≤ 0 then ['0']
  else digits.take point.toNat ++ List.replicate (point.toNat - digits.length) '0'

/-- The digits after the point. -/
def fractionOf (d : DecimalFloat) : List Char :=
  let digits := Nat.toDigits 10 d.coefficient
  let point : Int := d.exponent + digits.length
  List.replicate (-point).toNat '0' ++ digits.drop point.toNat

/-- A zero is written like other decimals when it has no positive exponent. -/
def Plain (d : DecimalFloat) : Prop := d.coefficient ≠ 0 ∨ d.exponent ≤ 0

theorem format_eq (h : Plain d) : d.format = numeral d.negative (wholeOf d) (fractionOf d) := by
  have hpoint : ¬ (d.coefficient = 0 ∧ 0 < d.exponent) := by
    rintro ⟨hzero, hpos⟩
    rcases h with h | h
    · exact h hzero
    · omega
  unfold DecimalFloat.format numeral wholeOf fractionOf
  simp only [if_neg hpoint]

theorem wholeOf_ne_nil (d : DecimalFloat) : wholeOf d ≠ [] := by
  have hpos : 0 < (Nat.toDigits 10 d.coefficient).length := Nat.length_toDigits_pos
  unfold wholeOf
  dsimp only
  split
  · exact List.cons_ne_nil _ _
  · rw [← List.length_pos_iff, List.length_append, List.length_take]
    omega

theorem ascii_wholeOf (d : DecimalFloat) : ∀ c ∈ wholeOf d, c.isDigit = true := by
  intro c hc
  unfold wholeOf at hc
  dsimp only at hc
  split at hc
  · rw [List.mem_singleton.mp hc]
    decide
  · rcases List.mem_append.mp hc with h | h
    · exact ascii_toDigits _ c (List.mem_of_mem_take h)
    · exact ascii_replicate _ c h

theorem ascii_fractionOf (d : DecimalFloat) : ∀ c ∈ fractionOf d, c.isDigit = true := by
  intro c hc
  rcases List.mem_append.mp hc with h | h
  · exact ascii_replicate _ c h
  · exact ascii_toDigits _ c (List.mem_of_mem_drop h)

theorem length_fractionOf (d : DecimalFloat) : (fractionOf d).length = (-d.exponent).toNat := by
  unfold fractionOf
  rw [List.length_append, List.length_replicate, List.length_drop]
  omega

theorem length_wholeOf (d : DecimalFloat) :
    (wholeOf d).length = max 1 (d.exponent + DecimalFloat.digitCount d.coefficient).toNat := by
  unfold wholeOf
  dsimp only
  rw [length_toDigits]
  split
  · rw [List.length_singleton]
    omega
  · rw [List.length_append, List.length_take, List.length_replicate, length_toDigits]
    omega

theorem natOfDigits_written (d : DecimalFloat) :
    natOfDigits (wholeOf d ++ fractionOf d) = d.coefficient * 10 ^ d.exponent.toNat := by
  have hpos : 0 < (Nat.toDigits 10 d.coefficient).length := Nat.length_toDigits_pos
  unfold wholeOf fractionOf
  dsimp only
  split
  · rename_i hpoint
    have hexponent : d.exponent.toNat = 0 := by omega
    rw [Int.toNat_of_nonpos hpoint, List.drop_zero, hexponent, pow_zero, Nat.mul_one,
      List.singleton_append, ← List.cons_append, ← List.replicate_succ, natOfDigits_append,
      natOfDigits_replicate_zero, natOfDigits_toDigits, Nat.zero_mul, Nat.zero_add]
  · rename_i hpoint
    have hnone : (-(d.exponent + (Nat.toDigits 10 d.coefficient).length)).toNat = 0 := by omega
    rw [hnone, List.replicate_zero, List.nil_append]
    by_cases hexponent : d.exponent ≤ 0
    · have hshort : (d.exponent + (Nat.toDigits 10 d.coefficient).length).toNat -
          (Nat.toDigits 10 d.coefficient).length = 0 := by omega
      rw [hshort, List.replicate_zero, List.append_nil, List.take_append_drop,
        natOfDigits_toDigits, Int.toNat_of_nonpos hexponent, pow_zero, Nat.mul_one]
    · have hlong : (d.exponent + (Nat.toDigits 10 d.coefficient).length).toNat -
          (Nat.toDigits 10 d.coefficient).length = d.exponent.toNat := by omega
      rw [hlong, List.take_of_length_le (by omega), List.drop_eq_nil_of_le (by omega),
        List.append_nil, natOfDigits_append, natOfDigits_replicate_zero, natOfDigits_toDigits,
        List.length_replicate, Nat.add_zero]

/-- What is written is read with the whole coefficient. -/
theorem decimal_format_eq (h : Plain d) :
    decimal d.format =
      ⟨d.negative, d.coefficient * 10 ^ d.exponent.toNat, -((-d.exponent).toNat : Int)⟩ := by
  rw [format_eq h, decimal_numeral (wholeOf_ne_nil d) (ascii_wholeOf d), natOfDigits_written,
    length_fractionOf]

/-- A decimal without a positive exponent is read back as it is. -/
theorem decimal_format (h : d.exponent ≤ 0) : decimal d.format = d := by
  rw [decimal_format_eq (Or.inr h), Int.toNat_of_nonpos h, pow_zero, Nat.mul_one,
    Int.toNat_of_nonneg (by omega), neg_neg]

theorem value_decimal_format (h : Plain d) : (decimal d.format).value = d.value := by
  by_cases hexponent : d.exponent ≤ 0
  · rw [decimal_format hexponent]
  · have hpow : (10 : ℚ) ^ d.exponent = 10 ^ d.exponent.toNat := by
      rw [← zpow_natCast, Int.toNat_of_nonneg (by omega)]
    have hzero : -((-d.exponent).toNat : Int) = 0 := by omega
    rw [decimal_format_eq h, hzero, DecimalFloat.value, DecimalFloat.value, hpow, zpow_zero, mul_one]
    unfold DecimalFloat.signed
    cases d.negative with
    | false | true => simp

/-! ## `str` -/

/-- `str(d)` -/
def str (d : DecimalFloat) : String :=
  let digits := Nat.toDigits 10 d.coefficient
  let leftdigits : Int := d.exponent + digits.length
  let dotplace : Int := if d.exponent ≤ 0 ∧ -6 < leftdigits then leftdigits else 1
  let whole :=
    if dotplace ≤ 0 then ['0']
    else digits.take dotplace.toNat ++ List.replicate (dotplace.toNat - digits.length) '0'
  let fraction := List.replicate (-dotplace).toNat '0' ++ digits.drop dotplace.toNat
  let exponent := leftdigits - dotplace
  String.ofList ((if d.negative then ['-'] else []) ++ whole ++
    (if fraction = [] then [] else '.' :: fraction) ++
    if exponent = 0 then []
    else 'E' :: (if exponent < 0 then '-' else '+') :: Nat.toDigits 10 exponent.natAbs)

example : str ⟨true, 1250, -2⟩ = "-12.50" ∧ str ⟨false, 1, -7⟩ = "1E-7" := by decide +kernel

/-- `str` uses no exponent. -/
def Positional (d : DecimalFloat) : Prop :=
  d.exponent ≤ 0 ∧ -6 < d.exponent + (Nat.toDigits 10 d.coefficient).length

theorem str_eq_format (h : Positional d) : str d = d.format := by
  rw [format_eq (Or.inr h.1)]
  unfold str numeral wholeOf fractionOf
  unfold Positional at h
  simp only [if_pos h, sub_self, if_true, List.append_nil]

theorem mem_str_of_not_positional (h : ¬ Positional d) : 'E' ∈ (str d).toList := by
  have hpos : 0 < (Nat.toDigits 10 d.coefficient).length := Nat.length_toDigits_pos
  have hexponent : d.exponent + (Nat.toDigits 10 d.coefficient).length - 1 ≠ 0 := by
    intro heq
    refine h ⟨?_, ?_⟩
    · omega
    · omega
  unfold str
  unfold Positional at h
  simp only [if_neg h, if_neg hexponent]
  rw [String.toList_ofList]
  exact List.mem_append_right _ List.mem_cons_self

/-! ## `Decimal(text)` -/

/-- A finite decimal, or an infinity or a NaN. -/
inductive Numeric where
  | finite (d : DecimalFloat)
  | special
  deriving DecidableEq

/-- The exponent behind its letter. -/
def readExponent (cs : List Char) : Option Int :=
  let (negative, digits) := match cs with
    | '-' :: digits => (true, digits)
    | '+' :: digits => (false, digits)
    | digits => (false, digits)
  if digits ≠ [] ∧ digits.all isDigit then
    some (if negative then -(natOfDigits digits : Int) else natOfDigits digits)
  else none

/-- A number without its sign: digits with an optional point, of which there is one at least, and an
optional exponent. -/
def readNumber (negative : Bool) (cs : List Char) : Option DecimalFloat :=
  let whole := cs.takeWhile isDigit
  let (fraction, rest) := match cs.dropWhile isDigit with
    | '.' :: rest => (rest.takeWhile isDigit, rest.dropWhile isDigit)
    | rest => ([], rest)
  if whole = [] ∧ fraction = [] then none
  else
    match rest with
    | [] => some ⟨negative, natOfDigits (whole ++ fraction), -(fraction.length : Int)⟩
    | c :: rest =>
      if c = 'e' ∨ c = 'E' then
        (readExponent rest).map (fun exponent =>
          ⟨negative, natOfDigits (whole ++ fraction), exponent - fraction.length⟩)
      else none

/-- The texts of infinities and NaNs, without their sign. -/
def isSpecial (cs : List Char) : Bool :=
  let lower := cs.map Char.toLower
  lower == ['i', 'n', 'f'] || lower == ['i', 'n', 'f', 'i', 'n', 'i', 't', 'y'] ||
    (lower.take 3 == ['n', 'a', 'n'] && (lower.drop 3).all isDigit) ||
    (lower.take 4 == ['s', 'n', 'a', 'n'] && (lower.drop 4).all isDigit)

/-- `Decimal(text)`; `none` for an invalid operation. -/
def read (text : String) : Option Numeric :=
  let (negative, cs) := match (Text.stripList text.toList).filter (· ≠ '_') with
    | '-' :: cs => (true, cs)
    | '+' :: cs => (false, cs)
    | cs => (false, cs)
  match readNumber negative cs with
  | some d => some (.finite d)
  | none => if isSpecial cs then some .special else none

example : read " -1_2.50E+3" = some (.finite ⟨true, 1250, 1⟩) ∧ read "-NaN" = some .special ∧
    read "1." = some (.finite ⟨false, 1, 0⟩) ∧ read "." = none := by decide +kernel

/-- A digit is no space and no sign. -/
theorem plain_of_isDigit (h : c.isDigit = true) :
    Text.isSpace c = false ∧ c ≠ '_' ∧ c ≠ '-' ∧ c ≠ '+' ∧ c ≠ '.' := by
  have hbounds := isDigit_bounds h
  refine ⟨?_, ?_, ?_, ?_, ?_⟩
  · unfold Text.isSpace
    simp only [Bool.or_eq_false_iff, Bool.and_eq_false_iff, decide_eq_false_iff_not, beq_eq_false_iff_ne]
    omega
  all_goals
    rintro rfl
    exact absurd h (by decide)

theorem stripList_of_no_space (h : ∀ c ∈ cs, Text.isSpace c = false) : Text.stripList cs = cs := by
  have hdrop : ∀ ds : List Char, (∀ c ∈ ds, Text.isSpace c = false) →
      ds.dropWhile Text.isSpace = ds := by
    intro ds hds
    cases ds with
    | nil => rfl
    | cons c ds => rw [List.dropWhile_cons_of_neg (by rw [hds c List.mem_cons_self]; decide)]
  unfold Text.stripList
  rw [hdrop cs h, hdrop, List.reverse_reverse]
  intro c hc
  exact h c (List.mem_reverse.mp hc)

/-- The number of ASCII digits with an optional point. -/
theorem readNumber_digits (negative : Bool) (hne : whole ≠ [])
    (hwhole : ∀ c ∈ whole, c.isDigit = true) (hfraction : ∀ c ∈ fraction, c.isDigit = true) :
    readNumber negative (whole ++ if fraction = [] then [] else '.' :: fraction) =
      some ⟨negative, natOfDigits (whole ++ fraction), -(fraction.length : Int)⟩ := by
  have hdigits : ∀ c ∈ whole, isDigit c = true := fun c hc => isDigit_of_ascii (hwhole c hc)
  have hdigits' : ∀ c ∈ fraction, isDigit c = true := fun c hc => isDigit_of_ascii (hfraction c hc)
  unfold readNumber
  rw [List.takeWhile_append_of_pos hdigits, List.dropWhile_append_of_pos hdigits]
  by_cases hnone : fraction = []
  · subst hnone
    simp [hne]
  · have hpoint : isDigit '.' = false := by decide
    rw [if_neg hnone, List.takeWhile_cons_of_neg (by rw [hpoint]; decide),
      List.dropWhile_cons_of_neg (by rw [hpoint]; decide), List.append_nil]
    simp only [List.takeWhile_eq_self_iff.mpr hdigits', List.dropWhile_eq_nil_iff.mpr hdigits']
    rw [if_neg (fun h => hne h.1)]

theorem read_numeral (hne : whole ≠ []) (hwhole : ∀ c ∈ whole, c.isDigit = true)
    (hfraction : ∀ c ∈ fraction, c.isDigit = true) :
    read (numeral negative whole fraction) =
      some (.finite ⟨negative, natOfDigits (whole ++ fraction), -(fraction.length : Int)⟩) := by
  have hbody : ∀ c ∈ whole ++ (if fraction = [] then [] else '.' :: fraction),
      c.isDigit = true ∨ c = '.' := by
    intro c hc
    rcases List.mem_append.mp hc with hc | hc
    · exact Or.inl (hwhole c hc)
    · split at hc
      · cases hc
      · rcases List.mem_cons.mp hc with rfl | hc
        · exact Or.inr rfl
        · exact Or.inl (hfraction c hc)
  have hplain : ∀ c ∈ (if negative then ['-'] else []) ++ whole ++
      (if fraction = [] then [] else '.' :: fraction), Text.isSpace c = false ∧ c ≠ '_' := by
    intro c hc
    rw [List.append_assoc] at hc
    rcases List.mem_append.mp hc with hc | hc
    · split at hc
      · rw [List.mem_singleton.mp hc]
        decide
      · cases hc
    · rcases hbody c hc with hdigit | rfl
      · obtain ⟨hspace, hunderscore, _⟩ := plain_of_isDigit hdigit
        exact ⟨hspace, hunderscore⟩
      · decide
  have hnumber := readNumber_digits negative hne hwhole hfraction
  obtain ⟨c, cs, rfl⟩ := List.exists_cons_of_ne_nil hne
  obtain ⟨_, _, hminus, hplus, _⟩ := plain_of_isDigit (hwhole c List.mem_cons_self)
  unfold read numeral
  rw [String.toList_ofList, stripList_of_no_space (fun c hc => (hplain c hc).1),
    List.filter_eq_self.mpr (fun c hc => decide_eq_true (hplain c hc).2)]
  cases negative with
  | true =>
    show (match readNumber true (c :: cs ++ if fraction = [] then [] else '.' :: fraction) with
      | some d => some (Numeric.finite d)
      | none => _) = _
    rw [hnumber]
  | false =>
    have hsign : ∀ ds : List Char, (match c :: ds with
        | '-' :: ds => (true, ds)
        | '+' :: ds => (false, ds)
        | ds => (false, ds)) = (false, c :: ds) := by
      intro ds
      split
      · rename_i heq
        cases heq
        exact absurd rfl hminus
      · rename_i heq
        cases heq
        exact absurd rfl hplus
      · rfl
    show (let (negative, cs) := (match c :: (cs ++ if fraction = [] then [] else '.' :: fraction) with
        | '-' :: ds => (true, ds)
        | '+' :: ds => (false, ds)
        | ds => (false, ds));
      match readNumber negative cs with
      | some d => some (Numeric.finite d)
      | none => if isSpecial cs then some Numeric.special else none) = _
    rw [hsign]
    dsimp only
    rw [← List.cons_append, hnumber]

/-- What is written is read back. -/
theorem read_format (h : d.exponent ≤ 0) : read d.format = some (.finite d) := by
  have hback := decimal_format h
  rw [format_eq (Or.inr h), decimal_numeral (wholeOf_ne_nil d) (ascii_wholeOf d)] at hback
  rw [format_eq (Or.inr h), read_numeral (wholeOf_ne_nil d) (ascii_wholeOf d) (ascii_fractionOf d),
    hback]

end LotusManage.DecimalText
