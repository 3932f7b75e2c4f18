import LotusManage.Lib.Text

/-!
# Numbered texts

Identifiers that are a fixed text followed by a number.  The number can be read
back, and two fixed texts give different identifiers when one of them goes on
with a letter where the other one has its number.
-/

namespace LotusManage.Numerals

theorem toString_injective {m n : Nat} (h : toString m = toString n) : m = n := by
  rw [Nat.toString_eq_ofList_toDigits, Nat.toString_eq_ofList_toDigits] at h
  have hdigits : Nat.toDigits 10 m = Nat.toDigits 10 n := String.ofList_injective h
  rw [← Nat.ofDigitChars_toDigits (b := 10) (n := m) (by decide) (by decide), hdigits,
    Nat.ofDigitChars_toDigits (by decide) (by decide)]

/-- The number of an identifier can be read back. -/
theorem numbered_injective (text : String) {m n : Nat}
    (h : text ++ toString m = text ++ toString n) :
    m = n :=
  toString_injective (Text.append_inj h rfl).2

/-- A number is not a text that begins with something else than a digit. -/
theorem numbered_ne {c : Char} (hc : c.isDigit = false) (text : String) (m : Nat)
    {tail : String} (htail : tail.toList.head? = some c) :
    text ++ toString m ≠ text ++ tail := by
  intro h
  have hsame : toString m = tail := (Text.append_inj h rfl).2
  rw [← hsame, Nat.toString_eq_ofList_toDigits, String.toList_ofList] at htail
  have hmem : c ∈ Nat.toDigits 10 m := List.mem_of_mem_head? htail
  have hdigit := Nat.isDigit_of_mem_toDigits (by decide) (by decide) hmem
  rw [hc] at hdigit
  cases hdigit

end LotusManage.Numerals
