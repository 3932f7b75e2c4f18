import LotusManage.Lib.Decimals
import Mathlib.Data.List.Induction

/-!
# Decimals as text

The texts of decimals: an optional sign, the digits, and a point with more digits.  A digit is any
decimal digit of Unicode, for a pattern with `\d` as for the constructor `Decimal`.
-/

namespace LotusManage.DecimalText

/-- The zeros of the rows of decimal digits in Unicode. -/
def digitZeros : List Nat :=
  [0x30, 0x660, 0x6f0, 0x7c0, 0x966, 0x9e6, 0xa66, 0xae6, 0xb66, 0xbe6, 0xc66, 0xce6, 0xd66,
    0xde6, 0xe50, 0xed0, 0xf20, 0x1040, 0x1090, 0x17e0, 0x1810, 0x1946, 0x19d0, 0x1a80, 0x1a90,
    0x1b50, 0x1bb0, 0x1c40, 0x1c50, 0xa620, 0xa8d0, 0xa900, 0xa9d0, 0xa9f0, 0xaa50, 0xabf0,
    0xff10, 0x104a0, 0x10d30, 0x11066, 0x110f0, 0x11136, 0x111d0, 0x112f0, 0x11450, 0x114d0,
    0x11650, 0x116c0, 0x11730, 0x118e0, 0x11950, 0x11c50, 0x11d50, 0x11da0, 0x11f50, 0x16a60,
    0x16ac0, 0x16b50, 0x1d7ce, 0x1d7d8, 0x1d7e2, 0x1d7ec, 0x1d7f6, 0x1e140, 0x1e2f0, 0x1e4f0,
    0x1e950, 0x1fbf0]

/-- The value of a decimal digit. -/
def digitValue? (c : Char) : Option Nat :=
  digitZeros.findSome? fun first =>
    if first ≤ c.toNat ∧ c.toNat < first + 10 then some (c.toNat - first) else none

/-- `\d` -/
def isDigit (c : Char) : Bool := (digitValue? c).isSome

/-- The parts of a number: whether there is a minus sign, what stands before the point, and what stands
after it. -/
structure Parts where
  negative : Bool
  whole : List Char
  fraction : Option (List Char)
  deriving DecidableEq

def parts (text : String) : Parts :=
  let (negative, cs) := match text.toList with
    | '-' :: cs => (true, cs)
    | cs => (false, cs)
  match cs.dropWhile (· ≠ '.') with
  | _ :: fraction => ⟨negative, cs.takeWhile (· ≠ '.'), some fraction⟩
  | [] => ⟨negative, cs, none⟩

/-- The digits of the number. -/
def Parts.digits (p : Parts) : List Char := p.whole ++ p.fraction.getD []

/-- The number of a list of digits. -/
def natOfDigits (digits : List Char) : Nat :=
  digits.foldl (fun n c => 10 * n + (digitValue? c).getD 0) 0

/-- `Decimal(text)`, of a number. -/
def decimal (text : String) : DecimalFloat where
  negative := (parts text).negative
  coefficient := natOfDigits (parts text).digits
  exponent := -((parts text).fraction.getD []).length

example : decimal "-12.50" = ⟨true, 1250, -2⟩ := by decide +kernel

end LotusManage.DecimalText
