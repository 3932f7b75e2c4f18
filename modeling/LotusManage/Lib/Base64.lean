import Mathlib.Data.List.Basic

/-!
# Base64

`base64.b64encode`, and `base64.b64decode` with `validate=True` as far as a caller can tell who
compares the encoding of the result with the text.
-/

namespace LotusManage.Base64

/-- The alphabet. -/
def alphabet : List Char :=
  "ABCDEFGHIJKLMNOPQRSTUVWXYZabcdefghijklmnopqrstuvwxyz0123456789+/".toList

/-- The character for six bits. -/
def digit (n : Nat) : Char := alphabet.getD n '='

/-- `base64.b64encode` -/
def encode : List UInt8 → List Char
  | [] => []
  | [a] => [digit (a.toNat / 4), digit (a.toNat % 4 * 16), '=', '=']
  | [a, b] =>
    [digit (a.toNat / 4), digit (a.toNat % 4 * 16 + b.toNat / 16), digit (b.toNat % 16 * 4), '=']
  | a :: b :: c :: rest =>
    digit (a.toNat / 4) :: digit (a.toNat % 4 * 16 + b.toNat / 16) ::
      digit (b.toNat % 16 * 4 + c.toNat / 64) :: digit (c.toNat % 64) :: encode rest

/-- The six bits of a character. -/
def bits? (c : Char) : Option Nat := alphabet.findIdx? (· == c)

/-- `base64.b64decode`.  Only the last four characters may hold padding. -/
def decode : List Char → Option (List UInt8)
  | [] => some []
  | a :: b :: c :: d :: rest => do
    let x ← bits? a
    let y ← bits? b
    if c = '=' ∧ d = '=' ∧ rest = [] then
      return [UInt8.ofNat (x * 4 + y / 16)]
    let z ← bits? c
    if d = '=' ∧ rest = [] then
      return [UInt8.ofNat (x * 4 + y / 16), UInt8.ofNat (y % 16 * 16 + z / 4)]
    let w ← bits? d
    let bytes ← decode rest
    return UInt8.ofNat (x * 4 + y / 16) :: UInt8.ofNat (y % 16 * 16 + z / 4) ::
      UInt8.ofNat (z % 4 * 64 + w) :: bytes
  | _ => none

end LotusManage.Base64
