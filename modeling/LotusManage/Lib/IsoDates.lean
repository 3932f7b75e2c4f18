import LotusManage.Lib.Datetime

/-!
# Dates in ISO 8601

The texts that Python's `date.fromisoformat` reads, and the ordinal of the day that each of them
stands for: `YYYY-MM-DD` and `YYYYMMDD`, and the week dates `YYYY-Www-D`, `YYYYWwwD`, `YYYY-Www` and
`YYYYWww`.  One day has several texts, and the order of the texts is the order of the days only among
texts of one form.
-/

namespace LotusManage.IsoDate

/-- `date.max.toordinal()` -/
def maxOrdinal : Int := 3652059

/-- `parse_digits`: the number that the next characters spell, and what follows them. -/
def parseDigits : Nat → Nat → List Char → Option (Nat × List Char)
  | 0, n, cs => some (n, cs)
  | _ + 1, _, [] => none
  | count + 1, n, c :: cs =>
    if c.isDigit then parseDigits count (10 * n + (c.toNat - 48)) cs else none

/-- A separator, where the text uses separators. -/
def parseSeparator (separated : Bool) : List Char → Option (List Char)
  | '-' :: cs => if separated then some cs else some ('-' :: cs)
  | cs => if separated then none else some cs

/-- `ymd_to_ord`, of a date that `check_date_args` accepts. -/
def ymdOrdinal (year month day : Nat) : Option Int :=
  if 1 ≤ year ∧ year ≤ 9999 ∧ 1 ≤ month ∧ month ≤ 12 ∧ 1 ≤ day ∧ day ≤ daysInMonth year month then
    some (daysBeforeYear year + daysBeforeMonth year month + day : Nat)
  else none

/-- `weekday` of the first day of a year, with Monday as 0. -/
def firstWeekday (year : Nat) : Nat := (daysBeforeYear year + 1 + 6) % 7

/-- `iso_week1_monday` -/
def week1Monday (year : Nat) : Int :=
  let monday : Int := (daysBeforeYear year + 1 : Nat) - (firstWeekday year : Nat)
  if 3 < firstWeekday year then monday + 7 else monday

/-- `iso_to_ymd`: only some years have a week 53, and the last week may leave the calendar. -/
def weekOrdinal (year week day : Nat) : Option Int :=
  let long := firstWeekday year = 3 ∨ (firstWeekday year = 2 ∧ isLeap year = true)
  let ordinal := week1Monday year + ((week : Int) - 1) * 7 + ((day : Int) - 1)
  if 1 ≤ year ∧ year ≤ 9999 ∧ 1 ≤ week ∧ (week ≤ 52 ∨ (week = 53 ∧ long)) ∧ 1 ≤ day ∧ day ≤ 7 ∧
      1 ≤ ordinal ∧ ordinal ≤ maxOrdinal then
    some ordinal
  else none

/-- The week and the day of `parse_isoformat_date`, after the `W`.  Here and in `parseMonth` what follows
the day is not looked at. -/
def parseWeek (separated : Bool) (year : Nat) (cs : List Char) : Option Int := do
  let (week, cs) ← parseDigits 2 0 cs
  if cs.isEmpty then weekOrdinal year week 1
  else
    let cs ← parseSeparator separated cs
    let (day, _) ← parseDigits 1 0 cs
    weekOrdinal year week day

/-- The month and the day of `parse_isoformat_date`. -/
def parseMonth (separated : Bool) (year : Nat) (cs : List Char) : Option Int := do
  let (month, cs) ← parseDigits 2 0 cs
  let cs ← parseSeparator separated cs
  let (day, _) ← parseDigits 2 0 cs
  ymdOrdinal year month day

/-- `parse_isoformat_date` -/
def parseDate (cs : List Char) : Option Int := do
  let (year, cs) ← parseDigits 4 0 cs
  let separated := cs.head? == some '-'
  let cs := if separated then cs.tail else cs
  match cs with
  | 'W' :: cs => parseWeek separated year cs
  | cs => parseMonth separated year cs

/-- `date.fromisoformat(text).toordinal()`; the text has seven, eight or ten bytes. -/
def fromisoformat (text : String) : Option Int :=
  if text.utf8ByteSize ∈ [7, 8, 10] then parseDate text.toList else none

/-- A `ValueError`, and the `OverflowError` of arithmetic that leaves the calendar. -/
inductive DateError where
  | value (code : String)
  | overflow
  deriving DecidableEq

/-- `date + timedelta(days=1)` -/
def nextDay (day : Int) : Except DateError Int :=
  if day < maxOrdinal then .ok (day + 1) else .error .overflow

/-! ## The calendar -/

theorem ymdOrdinal_bounds {year month day : Nat} {ordinal : Int}
    (h : ymdOrdinal year month day = some ordinal) : 1 ≤ ordinal ∧ ordinal ≤ maxOrdinal := by
  unfold ymdOrdinal at h
  split at h
  · rename_i hdate
    obtain ⟨hyear, hyear', hmonth, hmonth', hday, hday'⟩ := hdate
    have hmonths := daysBeforeMonth_mono year (show month + 1 ≤ 13 by omega)
    rw [daysBeforeMonth_succ hmonth] at hmonths
    have hyears := daysBeforeYear_mono (show year + 1 ≤ 10000 by omega)
    rw [daysBeforeYear_succ hyear] at hyears
    have hlast : daysBeforeYear 10000 = 3652059 := by decide
    rw [hlast] at hyears
    unfold maxOrdinal
    cases h
    omega
  · cases h

theorem weekOrdinal_bounds {year week day : Nat} {ordinal : Int}
    (h : weekOrdinal year week day = some ordinal) : 1 ≤ ordinal ∧ ordinal ≤ maxOrdinal := by
  unfold weekOrdinal at h
  dsimp only at h
  split at h
  · rename_i hdate
    cases h
    exact hdate.2.2.2.2.2.2
  · cases h

/-- What is read is a day of the calendar. -/
theorem fromisoformat_bounds {text : String} {ordinal : Int}
    (h : fromisoformat text = some ordinal) : 1 ≤ ordinal ∧ ordinal ≤ maxOrdinal := by
  unfold fromisoformat at h
  split at h
  · unfold parseDate at h
    obtain ⟨⟨year, cs⟩, _, h⟩ := Option.bind_eq_some_iff.mp h
    dsimp only at h
    split at h
    · unfold parseWeek at h
      obtain ⟨⟨week, cs⟩, _, h⟩ := Option.bind_eq_some_iff.mp h
      dsimp only at h
      split at h
      · exact weekOrdinal_bounds h
      · obtain ⟨cs, _, h⟩ := Option.bind_eq_some_iff.mp h
        obtain ⟨⟨day, _⟩, _, h⟩ := Option.bind_eq_some_iff.mp h
        exact weekOrdinal_bounds h
    · unfold parseMonth at h
      obtain ⟨⟨month, cs⟩, _, h⟩ := Option.bind_eq_some_iff.mp h
      obtain ⟨cs, _, h⟩ := Option.bind_eq_some_iff.mp h
      obtain ⟨⟨day, _⟩, _, h⟩ := Option.bind_eq_some_iff.mp h
      exact ymdOrdinal_bounds h
  · cases h

example : fromisoformat "2024-01-01" = fromisoformat "2024W011" := by decide +kernel

end LotusManage.IsoDate
