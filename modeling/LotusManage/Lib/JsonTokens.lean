import LotusManage.Lib.DecimalTexts
import Mathlib.Algebra.Order.Round
import Mathlib.Data.Int.Log
import Mathlib.Data.Rat.Floor

/-!
# JSON tokens

The texts that `json.loads` reads, cut into tokens.  A text is a list of characters; a string in it
is a list of code points, since escapes can write surrogates that no other escape completes.

* `scanString`: a string up to its closing quote, with its escapes.
* `scanNumber`: a number; a point or an exponent without digits after it is not part of it.
* `double`: the double that is nearest to a number, or nothing when it is infinite.
* `lex`: the tokens of a text, up to the first that is none.
-/

namespace LotusManage.JsonDecoder

/-! ## Strings -/

/-- The code points of a string. -/
abbrev CodePoints := List Nat

def codePoints (text : String) : CodePoints := text.toList.map Char.toNat

def quoteMark : Char := '\x22'

def backslash : Char := '\x5c'

/-- The value of a hexadecimal digit. -/
def hexValue? (c : Char) : Option Nat :=
  if '0' ≤ c ∧ c ≤ '9' then some (c.toNat - 48)
  else if 'a' ≤ c ∧ c ≤ 'f' then some (c.toNat - 87)
  else if 'A' ≤ c ∧ c ≤ 'F' then some (c.toNat - 55)
  else none

/-- The four digits behind `\u`. -/
def codeUnit? (d₁ d₂ d₃ d₄ : Char) : Option Nat :=
  match hexValue? d₁, hexValue? d₂, hexValue? d₃, hexValue? d₄ with
  | some h₁, some h₂, some h₃, some h₄ => some (((h₁ * 16 + h₂) * 16 + h₃) * 16 + h₄)
  | _, _, _, _ => none

/-- An escape of one character. -/
def shortEscape? (c : Char) : Option Nat :=
  if c = quoteMark ∨ c = backslash ∨ c = '/' then some c.toNat
  else if c = 'b' then some 8
  else if c = 'f' then some 12
  else if c = 'n' then some 10
  else if c = 'r' then some 13
  else if c = 't' then some 9
  else none

/-- A code unit in front of what was scanned behind it. -/
def prepend (unit : Option Nat) (scanned : Option (List Nat × List Char)) :
    Option (List Nat × List Char) :=
  match unit, scanned with
  | some unit, some (units, rest) => some (unit :: units, rest)
  | _, _ => none

/-- The code points and escaped code units up to the closing quote. -/
def scanUnits : List Char → Option (List Nat × List Char)
  | [] => none
  | c :: text =>
    if c = quoteMark then some ([], text)
    else if c ≠ backslash then
      -- control characters have to be escaped
      if c.toNat < 32 then none else prepend (some c.toNat) (scanUnits text)
    else
      match text with
      | [] => none
      | e :: text =>
        if e ≠ 'u' then prepend (shortEscape? e) (scanUnits text)
        else
          match text with
          | d₁ :: d₂ :: d₃ :: d₄ :: text => prepend (codeUnit? d₁ d₂ d₃ d₄) (scanUnits text)
          | _ => none

def isHighSurrogate (unit : Nat) : Bool := 0xd800 ≤ unit && unit < 0xdc00

def isLowSurrogate (unit : Nat) : Bool := 0xdc00 ≤ unit && unit < 0xe000

/-- Two escapes of a pair of surrogates are one code point. -/
def joinSurrogates : List Nat → CodePoints
  | high :: low :: units =>
    if isHighSurrogate high && isLowSurrogate low then
      (0x10000 + (high - 0xd800) * 1024 + (low - 0xdc00)) :: joinSurrogates units
    else high :: joinSurrogates (low :: units)
  | units => units

/-- A string, behind its opening quote. -/
def scanString (text : List Char) : Option (CodePoints × List Char) :=
  (scanUnits text).map fun scanned => (joinSurrogates scanned.1, scanned.2)

/-! ## Numbers -/

/-- The parts of a number. -/
structure NumberText where
  negative : Bool
  whole : List Char
  fraction : List Char
  /-- Whether the exponent is negative, and its digits. -/
  exponent : Option (Bool × List Char)
  deriving DecidableEq

/-- The digits before the point: a zero stands alone. -/
def scanWhole : List Char → Option (List Char × List Char)
  | [] => none
  | c :: text =>
    if c = '0' then some ([c], text)
    else if c.isDigit then some (c :: text.takeWhile Char.isDigit, text.dropWhile Char.isDigit)
    else none

def scanFraction : List Char → List Char × List Char
  | [] => ([], [])
  | c :: text =>
    if c = '.' ∧ text.takeWhile Char.isDigit ≠ [] then
      (text.takeWhile Char.isDigit, text.dropWhile Char.isDigit)
    else ([], c :: text)

/-- The sign of an exponent. -/
def scanSign : List Char → Bool × List Char
  | [] => (false, [])
  | c :: text => if c = '-' then (true, text) else if c = '+' then (false, text) else (false, c :: text)

def scanExponent : List Char → Option (Bool × List Char) × List Char
  | [] => (none, [])
  | c :: text =>
    let (negative, unsigned) := scanSign text
    if (c = 'e' ∨ c = 'E') ∧ unsigned.takeWhile Char.isDigit ≠ [] then
      (some (negative, unsigned.takeWhile Char.isDigit), unsigned.dropWhile Char.isDigit)
    else (none, c :: text)

/-- `_match_number_unicode` of the scanner -/
def scanNumber (text : List Char) : Option (NumberText × List Char) :=
  let negative := text.head? = some '-'
  match scanWhole (if negative then text.tail else text) with
  | none => none
  | some (whole, afterWhole) =>
    let (fraction, afterFraction) := scanFraction afterWhole
    let (exponent, rest) := scanExponent afterFraction
    some (⟨negative, whole, fraction, exponent⟩, rest)

namespace NumberText

/-- A number without a point and without an exponent is an `int`. -/
def isInt (number : NumberText) : Bool := number.fraction.isEmpty && number.exponent.isNone

def intValue (number : NumberText) : Int :=
  if number.negative then -(DecimalText.natOfDigits number.whole)
  else DecimalText.natOfDigits number.whole

def scale (number : NumberText) : Int :=
  match number.exponent with
  | none => -number.fraction.length
  | some (negative, digits) =>
    (if negative then -(DecimalText.natOfDigits digits : Int) else DecimalText.natOfDigits digits) -
      number.fraction.length

/-- The number that is written. -/
def value (number : NumberText) : ℚ :=
  (if number.negative then -1 else 1) *
    DecimalText.natOfDigits (number.whole ++ number.fraction) * 10 ^ number.scale

end NumberText

/-- The integer nearest to a number, the even one of two. -/
def roundHalfEven (value : ℚ) : Int :=
  if value - ⌊value⌋ = 1 / 2 ∧ ⌊value⌋ % 2 = 0 then ⌊value⌋ else round value

/-- `float(text)` of a number: nothing when it is infinite. -/
def double (value : ℚ) : Option ℚ :=
  if value = 0 then some 0
  else
    let unit : ℚ := 2 ^ max (Int.log 2 |value| - 52) (-1074)
    let magnitude := roundHalfEven (|value| / unit) * unit
    if 2 ^ 1024 ≤ magnitude then none else some (if value < 0 then -magnitude else magnitude)

/-! ## Tokens -/

/-- The constants that are not JSON, but that Python reads. -/
inductive Constant where
  | nan
  | infinity
  | negativeInfinity
  deriving DecidableEq

inductive Token where
  | openObject
  | closeObject
  | openArray
  | closeArray
  | colon
  | comma
  | null
  | bool (value : Bool)
  | text (codes : CodePoints)
  | number (number : NumberText)
  | constant (constant : Constant)
  /-- What is no token. -/
  | invalid
  deriving DecidableEq

/-- The token at the front of a text, and what stands behind it. -/
def readToken : List Char → Option (Token × List Char)
  | '\x7b' :: text => some (.openObject, text)
  | '\x7d' :: text => some (.closeObject, text)
  | '[' :: text => some (.openArray, text)
  | ']' :: text => some (.closeArray, text)
  | ':' :: text => some (.colon, text)
  | ',' :: text => some (.comma, text)
  | '\x22' :: text => (scanString text).map fun scanned => (.text scanned.1, scanned.2)
  | 'n' :: 'u' :: 'l' :: 'l' :: text => some (.null, text)
  | 't' :: 'r' :: 'u' :: 'e' :: text => some (.bool true, text)
  | 'f' :: 'a' :: 'l' :: 's' :: 'e' :: text => some (.bool false, text)
  | 'N' :: 'a' :: 'N' :: text => some (.constant .nan, text)
  | 'I' :: 'n' :: 'f' :: 'i' :: 'n' :: 'i' :: 't' :: 'y' :: text =>
    some (.constant .infinity, text)
  | '-' :: 'I' :: 'n' :: 'f' :: 'i' :: 'n' :: 'i' :: 't' :: 'y' :: text =>
    some (.constant .negativeInfinity, text)
  | text => (scanNumber text).map fun scanned => (.number scanned.1, scanned.2)

/-- The blanks between tokens. -/
def isBlank (c : Char) : Bool := c == ' ' || c == '\t' || c == '\n' || c == '\r'

/-- The tokens of a text behind its first `skip` characters, which belong to the token before. -/
def lexFrom : List Char → Nat → List Token
  | [], _ => []
  | _ :: text, skip + 1 => lexFrom text skip
  | c :: text, 0 =>
    if isBlank c then lexFrom text 0
    else
      match readToken (c :: text) with
      | none => [.invalid]
      | some (token, rest) => token :: lexFrom text (text.length - rest.length)

/-- The tokens of a text. -/
def lex (text : List Char) : List Token := lexFrom text 0

example : lex "[1.5e2, null]".toList =
    [.openArray, .number ⟨false, ['1'], ['5'], some (false, ['2'])⟩, .comma, .null,
      .closeArray] := by decide +kernel

end LotusManage.JsonDecoder
