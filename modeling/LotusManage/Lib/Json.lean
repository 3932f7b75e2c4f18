import Mathlib.Data.List.Basic

/-!
# JSON texts

The texts that `json.dumps` writes with `separators=(",", ":")` and `ensure_ascii`, for strings,
`null`, arrays and objects.  The members of an object are given in the order in which they are
written.  A text is its list of code points.

`quote_inj` is what a reader of such a text relies on: a quoted string ends where it ends, whatever
stands behind it.  It is proved with `readChar`, which reads one escaped character back.
-/

namespace LotusManage.Json

/-! ## Strings -/

/-- The quotation mark. -/
def quoteMark : Char := Char.ofNat 34

/-- The backslash. -/
def backslash : Char := Char.ofNat 92

/-- A digit of `%04x`. -/
def hexDigit (n : Nat) : Char := Char.ofNat (if n < 10 then 48 + n else 87 + n)

/-- `\uXXXX` -/
def unicodeEscape (n : Nat) : List Char :=
  [backslash, 'u', hexDigit (n / 4096), hexDigit (n / 256 % 16), hexDigit (n / 16 % 16),
    hexDigit (n % 16)]

/-- One character of a string, as `json.dumps` writes it.  What is not printable ASCII is escaped,
and a character above `U+FFFF` is two escapes. -/
def escape (c : Char) : List Char :=
  let n := c.toNat
  if n = 34 ∨ n = 92 then [backslash, c]
  else if n = 8 then [backslash, 'b']
  else if n = 9 then [backslash, 't']
  else if n = 10 then [backslash, 'n']
  else if n = 12 then [backslash, 'f']
  else if n = 13 then [backslash, 'r']
  else if 32 ≤ n ∧ n ≤ 126 then [c]
  else if n < 65536 then unicodeEscape n
  else unicodeEscape (55296 + (n - 65536) / 1024) ++ unicodeEscape (56320 + (n - 65536) % 1024)

/-- A string. -/
def quote (text : String) : List Char :=
  quoteMark :: (text.toList.flatMap escape ++ [quoteMark])

/-! ## Values -/

/-- `null`, or a string -/
def quoteOption : Option String → List Char
  | none => "null".toList
  | some text => quote text

/-- The elements of an array, with commas between them. -/
def elements : List (List Char) → List Char
  | [] => []
  | [element] => element
  | element :: others => element ++ ',' :: elements others

/-- An array of values that are written already. -/
def array (values : List (List Char)) : List Char := '[' :: (elements values ++ [']'])

/-- One member of an object. -/
def member (key : String) (value : List Char) : List Char := quote key ++ ':' :: value

/-- An object of values that are written already. -/
def object (members : List (String × List Char)) : List Char :=
  Char.ofNat 123 :: (elements (members.map fun m => member m.1 m.2) ++ [Char.ofNat 125])

/-! ## Reading back -/

/-- The value of a digit. -/
def hexValue (c : Char) : Nat := if c.toNat < 58 then c.toNat - 48 else c.toNat - 87

/-- A reader of `unicodeEscape`. -/
def readUnicode : List Char → Option (Nat × List Char)
  | b :: u :: d₁ :: d₂ :: d₃ :: d₄ :: rest =>
    if b = backslash ∧ u = 'u' then
      some (hexValue d₁ * 4096 + hexValue d₂ * 256 + hexValue d₃ * 16 + hexValue d₄, rest)
    else none
  | _ => none

/-- The character of a short escape. -/
def readShort (c : Char) : Nat :=
  if c = 'b' then 8 else if c = 't' then 9 else if c = 'n' then 10 else if c = 'f' then 12
  else if c = 'r' then 13 else c.toNat

/-- A reader of an escape: the code point, and what is left. -/
def readEscaped (text : List Char) : Option (Nat × List Char) :=
  match readUnicode text with
  | some (n, rest) =>
    if 55296 ≤ n ∧ n < 56320 then
      (readUnicode rest).map fun low => (65536 + (n - 55296) * 1024 + (low.1 - 56320), low.2)
    else some (n, rest)
  | none => text.tail.head?.map fun d => (readShort d, text.tail.tail)

/-- A reader of `escape`: the code point, and what is left. -/
def readChar : List Char → Option (Nat × List Char)
  | [] => none
  | c :: rest => if c = backslash then readEscaped (c :: rest) else some (c.toNat, rest)

theorem hexValue_hexDigit {n : Nat} (h : n < 16) : hexValue (hexDigit n) = n := by
  have hall : ∀ m : Fin 16, hexValue (hexDigit m) = m := by decide
  exact hall ⟨n, h⟩

theorem readUnicode_unicodeEscape {n : Nat} (h : n < 65536) (rest : List Char) :
    readUnicode (unicodeEscape n ++ rest) = some (n, rest) := by
  show (if backslash = backslash ∧ 'u' = 'u' then some _ else none) = _
  rw [if_pos ⟨rfl, rfl⟩, hexValue_hexDigit (by omega), hexValue_hexDigit (by omega),
    hexValue_hexDigit (by omega), hexValue_hexDigit (by omega)]
  congr 2
  omega

theorem readUnicode_of_ne {d : Char} (h : d ≠ 'u') (rest : List Char) :
    readUnicode (backslash :: d :: rest) = none := by
  rcases rest with _ | ⟨d₁, _ | ⟨d₂, _ | ⟨d₃, _ | ⟨d₄, rest⟩⟩⟩⟩
  · rfl
  · rfl
  · rfl
  · rfl
  · exact if_neg fun hu => h hu.2

theorem readChar_backslash (rest : List Char) :
    readChar (backslash :: rest) = readEscaped (backslash :: rest) := by
  rw [readChar, if_pos rfl]

theorem readChar_short {d : Char} (h : d ≠ 'u') (rest : List Char) :
    readChar ([backslash, d] ++ rest) = some (readShort d, rest) := by
  rw [List.cons_append, List.singleton_append, readChar_backslash, readEscaped, readUnicode_of_ne h]
  rfl

theorem readChar_unicodeEscape {n : Nat} (h : n < 65536) (hlow : ¬ (55296 ≤ n ∧ n < 56320))
    (rest : List Char) : readChar (unicodeEscape n ++ rest) = some (n, rest) := by
  have hread := readUnicode_unicodeEscape h rest
  rw [unicodeEscape, List.cons_append] at hread ⊢
  rw [readChar_backslash, readEscaped, hread]
  exact if_neg hlow

theorem readChar_surrogates {high low : Nat} (hhigh : 55296 ≤ high ∧ high < 56320)
    (hlow : low < 65536) (rest : List Char) :
    readChar (unicodeEscape high ++ unicodeEscape low ++ rest) =
      some (65536 + (high - 55296) * 1024 + (low - 56320), rest) := by
  have hlt : high < 65536 := by omega
  have hread := readUnicode_unicodeEscape hlt (unicodeEscape low ++ rest)
  rw [List.append_assoc]
  rw [unicodeEscape, List.cons_append] at hread ⊢
  rw [readChar_backslash, readEscaped, hread]
  dsimp only
  rw [if_pos hhigh, readUnicode_unicodeEscape hlow]
  rfl

/-- A character is no surrogate. -/
theorem not_surrogate (c : Char) : ¬ (55296 ≤ c.toNat ∧ c.toNat < 57344) := by
  rcases c.valid with h | h
  · have hlt : c.toNat < 55296 := h
    omega
  · have hgt : 57343 < c.toNat := h.1
    omega

theorem toNat_lt (c : Char) : c.toNat < 1114112 := by
  rcases c.valid with h | h
  · have hlt : c.toNat < 55296 := h
    omega
  · exact h.2

/-- An escaped character is read back, whatever stands behind it. -/
theorem readChar_escape (c : Char) (rest : List Char) :
    readChar (escape c ++ rest) = some (c.toNat, rest) := by
  have hsurrogate := not_surrogate c
  have hbound := toNat_lt c
  unfold escape
  dsimp only
  split
  · rename_i hn
    have hne : ∀ d : Char, d.toNat ≠ 34 → d.toNat ≠ 92 → c ≠ d := by
      rintro d h34 h92 rfl
      exact hn.elim h34 h92
    rw [readChar_short (hne _ (by decide) (by decide)), readShort,
      if_neg (hne _ (by decide) (by decide)), if_neg (hne _ (by decide) (by decide)),
      if_neg (hne _ (by decide) (by decide)), if_neg (hne _ (by decide) (by decide)),
      if_neg (hne _ (by decide) (by decide))]
  split
  · rename_i hn
    rw [readChar_short (by decide), hn]
    rfl
  split
  · rename_i hn
    rw [readChar_short (by decide), hn]
    rfl
  split
  · rename_i hn
    rw [readChar_short (by decide), hn]
    rfl
  split
  · rename_i hn
    rw [readChar_short (by decide), hn]
    rfl
  split
  · rename_i hn
    rw [readChar_short (by decide), hn]
    rfl
  split
  · rename_i hquote _ _ _ _ _ hprintable
    have hslash : c ≠ backslash := by
      rintro rfl
      exact hquote (.inr rfl)
    exact if_neg hslash
  split
  · rename_i hlt
    exact readChar_unicodeEscape hlt (by omega) rest
  · rename_i hge
    rw [readChar_surrogates (by omega) (by omega)]
    have hcode : 65536 + (55296 + (c.toNat - 65536) / 1024 - 55296) * 1024 +
        (56320 + (c.toNat - 65536) % 1024 - 56320) = c.toNat := by
      omega
    rw [hcode]

/-- No escaped character begins with the mark that ends a string. -/
theorem escape_append_ne (c : Char) (rest rest' : List Char) :
    escape c ++ rest ≠ quoteMark :: rest' := by
  intro h
  have hread := readChar_escape c rest
  rw [h] at hread
  -- a quotation mark alone would be read as itself, but it is escaped
  have hmark : readChar (quoteMark :: rest') = some (34, rest') := rfl
  rw [hmark] at hread
  have hc : c = quoteMark := by
    apply Char.ext
    apply UInt32.toNat_inj.mp
    exact (congrArg Prod.fst (Option.some.inj hread)).symm
  rw [hc] at h
  cases h

/-- The characters of a string are read off whatever ends it. -/
theorem escaped_inj : ∀ {cs ds : List Char} {rest rest' : List Char},
    cs.flatMap escape ++ quoteMark :: rest = ds.flatMap escape ++ quoteMark :: rest' →
      cs = ds ∧ rest = rest'
  | [], [], rest, rest', h => ⟨rfl, (List.cons.inj h).2⟩
  | [], d :: ds, rest, rest', h => by
    rw [List.flatMap_cons, List.append_assoc] at h
    exact absurd h.symm (escape_append_ne d _ _)
  | c :: cs, [], rest, rest', h => by
    rw [List.flatMap_cons, List.append_assoc] at h
    exact absurd h (escape_append_ne c _ _)
  | c :: cs, d :: ds, rest, rest', h => by
    rw [List.flatMap_cons, List.append_assoc, List.flatMap_cons, List.append_assoc] at h
    have hread := readChar_escape c (cs.flatMap escape ++ quoteMark :: rest)
    rw [h, readChar_escape] at hread
    obtain ⟨hchar, htail⟩ := Prod.mk.inj (Option.some.inj hread)
    have hc : d = c := Char.ext (UInt32.toNat_inj.mp hchar)
    obtain ⟨hcs, hrest⟩ := escaped_inj htail.symm
    exact ⟨by rw [hc, hcs], hrest⟩

/-- A quoted string ends where it ends. -/
theorem quote_inj {text text' : String} {rest rest' : List Char}
    (h : quote text ++ rest = quote text' ++ rest') : text = text' ∧ rest = rest' := by
  have hchars : text.toList.flatMap escape ++ quoteMark :: rest =
      text'.toList.flatMap escape ++ quoteMark :: rest' := by
    simpa [quote] using h
  obtain ⟨htext, hrest⟩ := escaped_inj hchars
  exact ⟨String.toList_inj.mp htext, hrest⟩

/-- Two objects that begin with the same key and a string under it have the same string there, and
go on alike. -/
theorem elements_member_inj {key text text' : String} {next next' : List Char}
    {others others' : List (List Char)} {rest rest' : List Char}
    (h : elements (member key (quote text) :: next :: others) ++ rest =
      elements (member key (quote text') :: next' :: others') ++ rest') :
    text = text' ∧ elements (next :: others) ++ rest = elements (next' :: others') ++ rest' := by
  have htexts : quote text ++ ',' :: (elements (next :: others) ++ rest) =
      quote text' ++ ',' :: (elements (next' :: others') ++ rest') := by
    simpa [elements, member] using h
  obtain ⟨htext, hothers⟩ := quote_inj htexts
  exact ⟨htext, (List.cons.inj hothers).2⟩

end LotusManage.Json
