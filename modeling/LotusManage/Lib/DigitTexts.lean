import LotusManage.Lib.DecimalFormats
import Mathlib.Data.Char
import Mathlib.Data.List.Lex

/-!
# Digit strings in numerical order

A text of ASCII digits of any length is compared with another as a number by its significant digits:
the longer is the greater, and of two of one length the one that comes later in the alphabet.

* `ofDigitChars_significant`: leading zeros do not count.
* `ofDigitChars_lt_iff`: the comparison is that of the numbers.
-/

namespace LotusManage.DigitTexts

/-- `text.lstrip("0") or "0"` -/
def significant (cs : List Char) : List Char :=
  match cs.dropWhile (· = '0') with
  | [] => ['0']
  | c :: cs => c :: cs

/-- All characters are ASCII digits. -/
def AllDigits (cs : List Char) : Prop := ∀ c ∈ cs, c.isDigit = true

variable {cs ds : List Char}

theorem AllDigits.head {c : Char} (h : AllDigits (c :: cs)) :
    c.isDigit = true := h c List.mem_cons_self

theorem AllDigits.tail {c : Char} (h : AllDigits (c :: cs)) : AllDigits cs :=
  fun d hd => h d (List.mem_cons_of_mem c hd)

theorem ofDigitChars_cons (c : Char) (cs : List Char) :
    Nat.ofDigitChars 10 (c :: cs) 0 =
      10 ^ cs.length * (c.toNat - 48) + Nat.ofDigitChars 10 cs 0 := by
  rw [Nat.ofDigitChars_cons, Nat.ofDigitChars_eq_ofDigitChars_zero, Nat.mul_zero, Nat.zero_add]
  rfl

theorem ofDigitChars_lt_pow (h : AllDigits cs) : Nat.ofDigitChars 10 cs 0 < 10 ^ cs.length := by
  induction cs with
  | nil => decide
  | cons c cs ih =>
    have hdigit := (DecimalText.isDigit_bounds h.head).2
    have hmul : 10 ^ cs.length * (c.toNat - 48) ≤ 10 ^ cs.length * 9 :=
      Nat.mul_le_mul_left _ (by omega)
    have hrest := ih h.tail
    rw [ofDigitChars_cons, List.length_cons, pow_succ]
    omega

/-! ## Texts of one length -/

theorem ofDigitChars_lt_of_lt (hcs : AllDigits cs) (hds : AllDigits ds)
    (hlength : cs.length = ds.length) (h : cs < ds) :
    Nat.ofDigitChars 10 cs 0 < Nat.ofDigitChars 10 ds 0 := by
  induction cs generalizing ds with
  | nil =>
    cases ds with
    | nil => exact absurd h (List.not_lt_nil [])
    | cons d ds => cases hlength
  | cons c cs ih =>
    cases ds with
    | nil => cases hlength
    | cons d ds =>
      rw [List.length_cons, List.length_cons, Nat.add_right_cancel_iff] at hlength
      rw [ofDigitChars_cons, ofDigitChars_cons, hlength]
      rcases List.cons_lt_cons_iff.mp h with hhead | ⟨rfl, htail⟩
      · -- the first digit decides, since the rest is below one unit of it
        have hrest := ofDigitChars_lt_pow hcs.tail
        rw [hlength] at hrest
        have hle := (DecimalText.isDigit_bounds hcs.head).1
        have hlt : c.toNat < d.toNat := hhead
        have hmul : 10 ^ ds.length * (c.toNat - 48 + 1) ≤ 10 ^ ds.length * (d.toNat - 48) :=
          Nat.mul_le_mul_left _ (by omega)
        rw [Nat.mul_add, Nat.mul_one] at hmul
        omega
      · exact Nat.add_lt_add_left (ih hcs.tail hds.tail hlength htail) _

/-! ## Significant digits -/

theorem significant_cases (cs : List Char) :
    significant cs = ['0'] ∨ ∃ c ds, significant cs = c :: ds ∧ c ≠ '0' := by
  unfold significant
  split
  · exact Or.inl rfl
  · rename_i c ds hdrop
    refine Or.inr ⟨c, ds, rfl, fun hzero => ?_⟩
    have hhead := List.head_dropWhile_not (p := fun x => decide (x = '0')) (l := cs)
      (by rw [hdrop]; exact List.cons_ne_nil c ds)
    simp only [hdrop, List.head_cons, hzero, decide_true] at hhead
    cases hhead

theorem ofDigitChars_significant (cs : List Char) :
    Nat.ofDigitChars 10 (significant cs) 0 = Nat.ofDigitChars 10 cs 0 := by
  have hdrop : Nat.ofDigitChars 10 (cs.dropWhile (· = '0')) 0 = Nat.ofDigitChars 10 cs 0 := by
    induction cs with
    | nil => rfl
    | cons c cs ih =>
      by_cases hzero : c = '0'
      · rw [List.dropWhile_cons_of_pos (by simpa using hzero), ih, hzero, Nat.ofDigitChars_cons]
        rfl
      · rw [List.dropWhile_cons_of_neg (by simpa using hzero)]
  rw [← hdrop]
  unfold significant
  split
  · rename_i hnil
    rw [hnil]
    rfl
  · rename_i c ds hcons
    rw [hcons]

theorem AllDigits.significant (h : AllDigits cs) : AllDigits (significant cs) := by
  unfold DigitTexts.significant
  split
  · intro c hc
    rw [List.mem_singleton.mp hc]
    rfl
  · rename_i c ds hcons
    intro d hd
    rw [← hcons] at hd
    exact h d ((List.dropWhile_sublist _).subset hd)

theorem ofDigitChars_lt_of_shorter (hcs : AllDigits cs) (hds : AllDigits ds)
    (h : (significant cs).length < (significant ds).length) :
    Nat.ofDigitChars 10 cs 0 < Nat.ofDigitChars 10 ds 0 := by
  rw [← ofDigitChars_significant cs, ← ofDigitChars_significant ds]
  have hlow := ofDigitChars_lt_pow hcs.significant
  rcases significant_cases ds with hzero | ⟨d, rest, hrest, hd⟩
  · -- a single zero is not longer than anything
    have hpos : 0 < (significant cs).length := by
      rcases significant_cases cs with hcs | ⟨c, es, hcs, _⟩
      · rw [hcs]
        decide
      · rw [hcs]
        exact Nat.succ_pos _
    rw [hzero, List.length_singleton] at h
    omega
  · have hdigits := hds.significant
    rw [hrest] at hdigits h ⊢
    have hne : d.toNat ≠ 48 := fun heq => hd (Char.toNat_inj.mp heq)
    have hbounds := DecimalText.isDigit_bounds hdigits.head
    have hmul : 10 ^ rest.length * 1 ≤ 10 ^ rest.length * (d.toNat - 48) :=
      Nat.mul_le_mul_left _ (by omega)
    have hpow : 10 ^ (significant cs).length ≤ 10 ^ rest.length :=
      Nat.pow_le_pow_right (by decide) (Nat.le_of_lt_succ h)
    rw [ofDigitChars_cons]
    omega

/-- Texts of digits are ordered as numbers by the length and then the text of what counts. -/
theorem ofDigitChars_lt_iff (hcs : AllDigits cs) (hds : AllDigits ds) :
    Nat.ofDigitChars 10 cs 0 < Nat.ofDigitChars 10 ds 0 ↔
      (significant cs).length < (significant ds).length ∨
        (significant cs).length = (significant ds).length ∧ significant cs < significant ds := by
  have hlt : ∀ {cs ds : List Char}, AllDigits cs → AllDigits ds →
      (significant cs).length = (significant ds).length → significant cs < significant ds →
      Nat.ofDigitChars 10 cs 0 < Nat.ofDigitChars 10 ds 0 := by
    intro cs ds hcs hds hlength h
    rw [← ofDigitChars_significant cs, ← ofDigitChars_significant ds]
    exact ofDigitChars_lt_of_lt hcs.significant hds.significant hlength h
  constructor
  · intro h
    rcases Nat.lt_trichotomy (significant cs).length (significant ds).length with
      hshort | hlength | hlong
    · exact Or.inl hshort
    · refine Or.inr ⟨hlength, ?_⟩
      rcases lt_trichotomy (significant cs) (significant ds) with hless | heq | hmore
      · exact hless
      · rw [← ofDigitChars_significant cs, heq, ofDigitChars_significant] at h
        exact absurd h (Nat.lt_irrefl _)
      · exact absurd (hlt hds hcs hlength.symm hmore) (Nat.lt_asymm h)
    · exact absurd (ofDigitChars_lt_of_shorter hds hcs hlong) (Nat.lt_asymm h)
  · rintro (hshort | ⟨hlength, hless⟩)
    · exact ofDigitChars_lt_of_shorter hcs hds hshort
    · exact hlt hcs hds hlength hless

/-- Two texts of one number have the same significant digits. -/
theorem significant_eq_iff (hcs : AllDigits cs) (hds : AllDigits ds) :
    significant cs = significant ds ↔ Nat.ofDigitChars 10 cs 0 = Nat.ofDigitChars 10 ds 0 := by
  constructor
  · intro h
    rw [← ofDigitChars_significant cs, h, ofDigitChars_significant]
  · intro h
    have hcd := mt (ofDigitChars_lt_iff hcs hds).mpr (h ▸ Nat.lt_irrefl _)
    have hdc := mt (ofDigitChars_lt_iff hds hcs).mpr (h ▸ Nat.lt_irrefl _)
    push Not at hcd hdc
    have hlength : (significant cs).length = (significant ds).length :=
      Nat.le_antisymm hdc.1 hcd.1
    exact le_antisymm (hdc.2 hlength.symm) (hcd.2 hlength)

end LotusManage.DigitTexts
