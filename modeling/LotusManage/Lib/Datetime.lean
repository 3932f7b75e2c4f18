import Mathlib.Data.List.Lex
import Mathlib.Data.String.Basic
import Mathlib.Order.Monotone.Basic
import Mathlib.Tactic.IntervalCases

/-!
# Aware datetimes

Python's `datetime` with a fixed offset from UTC: its fields, the instant that it stands for, and
the text of `isoformat`.  Two aware datetimes are compared by their instants.

`isoformat` writes the local fields with a fixed width each, so for datetimes in UTC the order of
the texts is the order of the instants (`isoformat_le_iff`).  The fraction is left out when it is
zero; `'+'` comes before `'.'`, so that does not disturb the order.  With other offsets the two
orders have nothing to do with each other.
-/

namespace LotusManage

/-! ## The calendar -/

/-- `_is_leap` -/
def isLeap (year : Nat) : Bool := year % 4 == 0 && (year % 100 != 0 || year % 400 == 0)

/-- `_days_in_month` -/
def daysInMonth (year month : Nat) : Nat :=
  if month == 2 then if isLeap year then 29 else 28
  else if month == 4 || month == 6 || month == 9 || month == 11 then 30
  else 31

theorem daysInMonth_le (year month : Nat) : daysInMonth year month ≤ 31 := by
  unfold daysInMonth
  split_ifs <;> decide

/-- `_days_before_year` -/
def daysBeforeYear (year : Nat) : Nat :=
  let y := year - 1
  y * 365 + y / 4 - y / 100 + y / 400

/-- `_days_before_month` -/
def daysBeforeMonth (year : Nat) : Nat → Nat
  | 0 => 0
  | 1 => 0
  | month + 2 => daysBeforeMonth year (month + 1) + daysInMonth year (month + 1)

theorem daysBeforeMonth_mono (year : Nat) : Monotone (daysBeforeMonth year) := by
  refine monotone_nat_of_le_succ ?_
  intro month
  cases month with
  | zero => exact Nat.le_refl _
  | succ month => exact Nat.le_add_right _ _

/-- A day of a month comes before the next month. -/
theorem daysBeforeMonth_succ {year month : Nat} (h : 1 ≤ month) :
    daysBeforeMonth year (month + 1) = daysBeforeMonth year month + daysInMonth year month := by
  cases month with
  | zero => exact absurd h (by decide)
  | succ month => rfl

/-- The leap days before a year, with those of the year. -/
theorem leapDays_succ (year : Nat) :
    (year + 1) / 4 + year / 100 + (year + 1) / 400 + (if isLeap (year + 1) then 0 else 1) =
      year / 4 + (year + 1) / 100 + year / 400 + 1 := by
  rw [Nat.succ_div, Nat.succ_div, Nat.succ_div]
  unfold isLeap
  simp only [beq_iff_eq, bne_iff_ne, Bool.and_eq_true, Bool.or_eq_true,
    ← Nat.dvd_iff_mod_eq_zero, ne_eq]
  by_cases h4 : 4 ∣ year + 1
  · by_cases h100 : 100 ∣ year + 1
    · by_cases h400 : 400 ∣ year + 1
      · simp [h4, h100, h400]
        omega
      · simp [h4, h100, h400]
        omega
    · have h400 : ¬ 400 ∣ year + 1 := fun h => h100 (Nat.dvd_trans (by decide) h)
      simp [h4, h100, h400]
      omega
  · have h100 : ¬ 100 ∣ year + 1 := fun h => h4 (Nat.dvd_trans (by decide) h)
    have h400 : ¬ 400 ∣ year + 1 := fun h => h4 (Nat.dvd_trans (by decide) h)
    simp [h4, h100, h400]

/-- The months of a year make the year. -/
theorem daysBeforeYear_succ {year : Nat} (h : 1 ≤ year) :
    daysBeforeYear (year + 1) = daysBeforeYear year + daysBeforeMonth year 13 := by
  obtain ⟨y, rfl⟩ : ∃ y, year = y + 1 := ⟨year - 1, by omega⟩
  have hmonths : daysBeforeMonth (y + 1) 13 = if isLeap (y + 1) then 366 else 365 := by
    cases hleap : isLeap (y + 1) <;> simp [daysBeforeMonth, daysInMonth, hleap]
  have hcenturies : y / 100 ≤ y / 4 := Nat.div_le_div_left (by decide) (by decide)
  have hcenturies' : (y + 1) / 100 ≤ (y + 1) / 4 := Nat.div_le_div_left (by decide) (by decide)
  have hleapDays := leapDays_succ y
  rw [hmonths]
  unfold daysBeforeYear
  dsimp only
  rw [Nat.add_sub_cancel, Nat.add_sub_cancel]
  generalize y / 4 = a, y / 100 = b, y / 400 = c, (y + 1) / 4 = a', (y + 1) / 100 = b',
    (y + 1) / 400 = c' at *
  split
  · rename_i hleap
    rw [if_pos hleap] at hleapDays
    omega
  · rename_i hleap
    rw [if_neg hleap] at hleapDays
    omega

theorem daysBeforeYear_mono : Monotone daysBeforeYear := by
  refine monotone_nat_of_le_succ ?_
  intro year
  cases year with
  | zero => exact Nat.le_refl _
  | succ year =>
    rw [daysBeforeYear_succ (Nat.succ_pos year)]
    exact Nat.le_add_right _ _

/-! ## Datetimes -/

-- the fields at their defaults
theorem midnight_lt : 0 < 24 := by decide
theorem sixty_pos : 0 < 60 := by decide
theorem million_pos : 0 < 1000000 := by decide
theorem utc_offset_lt : (0 : Int).natAbs < 86400000000 := by decide

-- a day that several examples use
theorem year_2026 : 1 ≤ 2026 ∧ 2026 ≤ 9999 := by decide
theorem month_may : 1 ≤ 5 ∧ 5 ≤ 12 := by decide
theorem day_3_may : 1 ≤ 3 ∧ 3 ≤ daysInMonth 2026 5 := by decide

/-- An aware datetime.  The offset is in microseconds. -/
structure Datetime where
  year : Nat
  month : Nat
  day : Nat
  hour : Nat := 0
  minute : Nat := 0
  second : Nat := 0
  microsecond : Nat := 0
  utcOffset : Int := 0
  year_bounds : 1 ≤ year ∧ year ≤ 9999 := by decide
  month_bounds : 1 ≤ month ∧ month ≤ 12 := by decide
  day_bounds : 1 ≤ day ∧ day ≤ daysInMonth year month := by decide
  hour_lt : hour < 24 := by first | exact midnight_lt | decide
  minute_lt : minute < 60 := by first | exact sixty_pos | decide
  second_lt : second < 60 := by first | exact sixty_pos | decide
  microsecond_lt : microsecond < 1000000 := by first | exact million_pos | decide
  offset_lt : utcOffset.natAbs < 86400000000 := by first | exact utc_offset_lt | decide
  deriving DecidableEq

namespace Datetime

/-- `_ymd2ord` -/
def toordinal (t : Datetime) : Nat :=
  daysBeforeYear t.year + daysBeforeMonth t.year t.month + t.day

/-- The microseconds of the local fields. -/
def localMicroseconds (t : Datetime) : Nat :=
  (((t.toordinal * 24 + t.hour) * 60 + t.minute) * 60 + t.second) * 1000000 + t.microsecond

/-- The instant, in microseconds. -/
def instant (t : Datetime) : Int := t.localMicroseconds - t.utcOffset

/-! ## The text -/

/-- The decimal digits of a number, in a fixed number of places. -/
def digits : Nat → Nat → List Char
  | 0, _ => []
  | places + 1, n => Char.ofNat (48 + n / 10 ^ places % 10) :: digits places (n % 10 ^ places)

/-- `_format_offset` -/
def formatOffset (offset : Int) : List Char :=
  let n := offset.natAbs
  let seconds := n / 1000000 % 60
  let microseconds := n % 1000000
  (if offset < 0 then '-' else '+') :: (digits 2 (n / 3600000000) ++
    ':' :: (digits 2 (n / 60000000 % 60) ++
      if seconds ≠ 0 ∨ microseconds ≠ 0 then
        ':' :: (digits 2 seconds ++ if microseconds ≠ 0 then '.' :: digits 6 microseconds else [])
      else []))

/-- What follows the seconds: the fraction, unless it is zero, and the offset. -/
def fractionAndOffset (t : Datetime) : List Char :=
  (if t.microsecond ≠ 0 then '.' :: digits 6 t.microsecond else []) ++ formatOffset t.utcOffset

/-- The characters of `isoformat`. -/
def isoChars (t : Datetime) : List Char :=
  digits 4 t.year ++ '-' :: (digits 2 t.month ++ '-' :: (digits 2 t.day ++ 'T' ::
    (digits 2 t.hour ++
    ':' :: (digits 2 t.minute ++ ':' :: (digits 2 t.second ++ t.fractionAndOffset)))))

/-- `isoformat` -/
def isoformat (t : Datetime) : String := String.ofList t.isoChars

example : isoformat { year := 2026, month := 5, day := 3, hour := 9, utcOffset := 28800000000 } =
    "2026-05-03T09:00:00+08:00" := by decide +kernel

/-! ## The fields in order -/

/-- The local fields, from the most significant on. -/
def fields (t : Datetime) : List Nat :=
  [t.year, t.month, t.day, t.hour, t.minute, t.second, t.microsecond]

variable {t u : Datetime} {rest rest' : List Char}

theorem toordinal_lt_of_year (h : t.year < u.year) : t.toordinal < u.toordinal := by
  have hday : daysBeforeMonth t.year t.month + t.day ≤ daysBeforeMonth t.year 13 := by
    have hmonth : t.month + 1 ≤ 13 := by
      have := t.month_bounds.2
      omega
    have hnext := daysBeforeMonth_mono t.year hmonth
    rw [daysBeforeMonth_succ t.month_bounds.1] at hnext
    have := t.day_bounds.2
    omega
  have hyear := daysBeforeYear_mono (Nat.succ_le_of_lt h)
  rw [Nat.succ_eq_add_one, daysBeforeYear_succ t.year_bounds.1] at hyear
  have hfirst := u.day_bounds.1
  unfold toordinal
  omega

theorem toordinal_lt_of_month (hyear : t.year = u.year) (h : t.month < u.month) :
    t.toordinal < u.toordinal := by
  have hmonth := daysBeforeMonth_mono t.year (Nat.succ_le_of_lt h)
  rw [Nat.succ_eq_add_one, daysBeforeMonth_succ t.month_bounds.1] at hmonth
  have hday := t.day_bounds.2
  have hfirst := u.day_bounds.1
  unfold toordinal
  rw [← hyear]
  omega

/-- The number of microseconds grows with the fields. -/
theorem localMicroseconds_lt (h : t.fields < u.fields) :
    t.localMicroseconds < u.localMicroseconds := by
  have hbounds := And.intro t.hour_lt (And.intro t.minute_lt
    (And.intro t.second_lt t.microsecond_lt))
  have hbounds' :=
    And.intro u.hour_lt (And.intro u.minute_lt (And.intro u.second_lt u.microsecond_lt))
  have hday : t.toordinal < u.toordinal ∨ t.toordinal = u.toordinal ∧
      [t.hour, t.minute, t.second, t.microsecond] <
        [u.hour, u.minute, u.second, u.microsecond] := by
    unfold fields at h
    rcases List.cons_lt_cons_iff.mp h with hyear | ⟨hyear, h⟩
    · exact .inl (toordinal_lt_of_year hyear)
    · rcases List.cons_lt_cons_iff.mp h with hmonth | ⟨hmonth, h⟩
      · exact .inl (toordinal_lt_of_month hyear hmonth)
      · unfold toordinal
        rw [hyear, hmonth]
        rcases List.cons_lt_cons_iff.mp h with hday | ⟨hday, h⟩
        · exact .inl (Nat.add_lt_add_left hday _)
        · exact .inr ⟨by rw [hday], h⟩
  unfold localMicroseconds
  rcases hday with hday | ⟨hday, h⟩
  · omega
  · rcases List.cons_lt_cons_iff.mp h with hhour | ⟨hhour, h⟩
    · omega
    · rcases List.cons_lt_cons_iff.mp h with hminute | ⟨hminute, h⟩
      · omega
      · rcases List.cons_lt_cons_iff.mp h with hsecond | ⟨hsecond, h⟩
        · omega
        · rcases List.cons_lt_cons_iff.mp h with hmicro | ⟨_, h⟩
          · omega
          · exact absurd h (List.not_lt_nil _)

/-! ## The order of the texts -/

theorem digitChar_lt {a b : Nat} (h : a < b) (hb : b < 10) :
    Char.ofNat (48 + a) < Char.ofNat (48 + b) := by
  have ha : a < 10 := h.trans hb
  interval_cases b <;> interval_cases a <;> decide

/-- Numbers of the same width compare as their digits do, whatever follows. -/
theorem digits_append_lt {places a b : Nat} (h : a < b) (hb : b < 10 ^ places)
    (rest rest' : List Char) : digits places a ++ rest < digits places b ++ rest' := by
  induction places generalizing a b with
  | zero =>
    rw [pow_zero] at hb
    omega
  | succ places ih =>
    have hpos : 0 < 10 ^ places := Nat.pow_pos (by decide)
    rw [digits, digits, List.cons_append, List.cons_append]
    have htop : b / 10 ^ places < 10 := by
      rw [Nat.div_lt_iff_lt_mul hpos, Nat.mul_comm, ← Nat.pow_succ]
      exact hb
    have hle : a / 10 ^ places ≤ b / 10 ^ places := Nat.div_le_div_right (Nat.le_of_lt h)
    rw [Nat.mod_eq_of_lt (hle.trans_lt htop), Nat.mod_eq_of_lt htop]
    rcases Nat.lt_or_eq_of_le hle with hlt | heq
    · exact List.cons_lt_cons_iff.mpr (.inl (digitChar_lt hlt htop))
    · rw [heq]
      refine List.cons_lt_cons_iff.mpr (.inr ⟨rfl, ?_⟩)
      refine ih ?_ (Nat.mod_lt b hpos)
      have ha := Nat.div_add_mod a (10 ^ places)
      have hb' := Nat.div_add_mod b (10 ^ places)
      rw [heq] at ha
      omega

theorem cons_lt_cons {c : Char} (h : rest < rest') : c :: rest < c :: rest' :=
  List.cons_lt_cons_iff.mpr (.inr ⟨rfl, h⟩)

/-- The first field in its digits; where it is the same, the rest decides. -/
theorem field_lt {places a b : Nat} {fields fields' : List Nat} (hb : b < 10 ^ places)
    (h : a :: fields < b :: fields') (hrest : fields < fields' → rest < rest') :
    digits places a ++ rest < digits places b ++ rest' := by
  rcases List.cons_lt_cons_iff.mp h with hlt | ⟨rfl, hfields⟩
  · exact digits_append_lt hlt hb _ _
  · exact List.append_left_lt (hrest hfields)

/-- The fraction decides among datetimes of one second, whatever the offsets: a fraction begins with
a point, which comes after both signs. -/
theorem fractionAndOffset_lt (h : t.microsecond < u.microsecond) :
    t.fractionAndOffset < u.fractionAndOffset := by
  unfold fractionAndOffset
  rw [if_pos (Nat.ne_of_gt (Nat.zero_lt_of_lt h))]
  by_cases hzero : t.microsecond ≠ 0
  · rw [if_pos hzero, List.cons_append, List.cons_append]
    exact cons_lt_cons (digits_append_lt h u.microsecond_lt _ _)
  · rw [if_neg hzero, List.nil_append, List.cons_append, formatOffset]
    refine List.cons_lt_cons_iff.mpr (.inl ?_)
    split <;> decide

/-- The texts grow with the local fields. -/
theorem isoChars_lt (h : t.fields < u.fields) : t.isoChars < u.isoChars := by
  have hyear : u.year < 10 ^ 4 := by
    have := u.year_bounds.2
    omega
  have hmonth : u.month < 10 ^ 2 := by
    have := u.month_bounds.2
    omega
  have hday : u.day < 10 ^ 2 := by
    have hlast := u.day_bounds.2.trans (daysInMonth_le u.year u.month)
    omega
  have hhour : u.hour < 10 ^ 2 := u.hour_lt.trans (by decide)
  have hminute : u.minute < 10 ^ 2 := u.minute_lt.trans (by decide)
  have hsecond : u.second < 10 ^ 2 := u.second_lt.trans (by decide)
  unfold fields at h
  unfold isoChars
  refine field_lt hyear h fun h => cons_lt_cons (field_lt hmonth h fun h => cons_lt_cons ?_)
  refine field_lt hday h fun h => cons_lt_cons (field_lt hhour h fun h => cons_lt_cons ?_)
  refine field_lt hminute h fun h => cons_lt_cons (field_lt hsecond h fun h => ?_)
  rcases List.cons_lt_cons_iff.mp h with hlt | ⟨_, h⟩
  · exact fractionAndOffset_lt hlt
  · exact absurd h (List.not_lt_nil _)

theorem isoformat_lt (h : t.fields < u.fields) : t.isoformat < u.isoformat := by
  unfold isoformat
  rw [String.lt_iff_toList_lt, String.toList_ofList, String.toList_ofList]
  exact isoChars_lt h

/-- The offset of UTC comes before all others. -/
theorem formatOffset_lt {offset : Int} (hlt : offset.natAbs < 86400000000) (h : offset ≠ 0) :
    formatOffset 0 < formatOffset offset := by
  unfold formatOffset
  dsimp only
  by_cases hneg : offset < 0
  · rw [if_pos hneg]
    exact List.cons_lt_cons_iff.mpr (.inl (by decide))
  · rw [if_neg hneg, if_neg (by decide)]
    refine cons_lt_cons ?_
    rcases Nat.eq_zero_or_pos (offset.natAbs / 3600000000) with hhours | hhours
    · rw [hhours]
      refine List.append_left_lt (cons_lt_cons ?_)
      rcases Nat.eq_zero_or_pos (offset.natAbs / 60000000 % 60) with hminutes | hminutes
      · rw [hminutes]
        refine List.append_left_lt ?_
        rw [if_neg (by decide), if_pos (by omega)]
        exact List.nil_lt_cons _ _
      · exact digits_append_lt hminutes (by omega) _ _
    · exact digits_append_lt hhours (by omega) _ _

/-- Datetimes with the same fields compare as their offsets do. -/
theorem isoformat_of_fields (h : t.fields = u.fields) (ht : t.utcOffset = 0) :
    (t.isoformat < u.isoformat ↔ u.utcOffset ≠ 0) ∧ (u.utcOffset = 0 → t.isoformat = u.isoformat) := by
  simp only [fields, List.cons.injEq, and_true] at h
  obtain ⟨hyear, hmonth, hday, hhour, hminute, hsecond, hmicro⟩ := h
  have hsame : u.utcOffset = 0 → t.isoformat = u.isoformat := by
    intro hu
    simp only [isoformat, isoChars, fractionAndOffset, hyear, hmonth, hday, hhour, hminute, hsecond,
      hmicro, ht, hu]
  refine ⟨⟨fun hlt hu => hlt.ne (hsame hu), fun hu => ?_⟩, hsame⟩
  rw [isoformat, isoformat, String.lt_iff_toList_lt, String.toList_ofList, String.toList_ofList]
  simp only [isoChars, fractionAndOffset, hyear, hmonth, hday, hhour, hminute, hsecond, hmicro, ht]
  refine List.append_left_lt (cons_lt_cons (List.append_left_lt (cons_lt_cons (List.append_left_lt
    (cons_lt_cons (List.append_left_lt (cons_lt_cons (List.append_left_lt (cons_lt_cons
      (List.append_left_lt (List.append_left_lt (formatOffset_lt u.offset_lt hu))))))))))))

theorem localMicroseconds_of_fields (h : t.fields = u.fields) :
    t.localMicroseconds = u.localMicroseconds := by
  simp only [fields, List.cons.injEq, and_true] at h
  obtain ⟨hyear, hmonth, hday, hhour, hminute, hsecond, hmicro⟩ := h
  simp only [localMicroseconds, toordinal, hyear, hmonth, hday, hhour, hminute, hsecond, hmicro]

theorem instant_utc (ht : t.utcOffset = 0) : t.instant = t.localMicroseconds := by
  rw [instant, ht, sub_zero]

/-- A text in UTC is at most another text when its instant is at most the local fields of the
other. -/
theorem utc_le_isoformat_iff (ht : t.utcOffset = 0) :
    t.isoformat ≤ u.isoformat ↔ t.instant ≤ u.localMicroseconds := by
  rw [instant_utc ht, Int.ofNat_le]
  rcases lt_trichotomy t.fields u.fields with hlt | heq | hgt
  · exact iff_of_true (isoformat_lt hlt).le (localMicroseconds_lt hlt).le
  · refine iff_of_true ?_ (localMicroseconds_of_fields heq).le
    obtain ⟨hoffset, hsame⟩ := isoformat_of_fields heq ht
    by_cases hu : u.utcOffset = 0
    · exact (hsame hu).le
    · exact (hoffset.mpr hu).le
  · exact iff_of_false (not_le.mpr (isoformat_lt hgt)) (not_le.mpr (localMicroseconds_lt hgt))

/-- Another text is at most one in UTC when its local fields are before the instant, or are those of
the instant and are in UTC too. -/
theorem isoformat_le_utc_iff (ht : t.utcOffset = 0) :
    u.isoformat ≤ t.isoformat ↔
      u.localMicroseconds < t.instant ∨ u.localMicroseconds = t.instant ∧ u.utcOffset = 0 := by
  rw [← not_lt, instant_utc ht, Int.ofNat_lt, Int.ofNat_inj]
  rcases lt_trichotomy t.fields u.fields with hlt | heq | hgt
  · have hlocal := localMicroseconds_lt hlt
    exact iff_of_false (not_not.mpr (isoformat_lt hlt)) (by omega)
  · rw [(isoformat_of_fields heq ht).1, localMicroseconds_of_fields heq, not_not]
    exact ⟨fun hu => .inr ⟨rfl, hu⟩, fun h => (h.resolve_left (lt_irrefl _)).2⟩
  · exact iff_of_true (isoformat_lt hgt).not_gt (.inl (localMicroseconds_lt hgt))

/-- In UTC the texts compare as the instants do. -/
theorem isoformat_le_iff (ht : t.utcOffset = 0) (hu : u.utcOffset = 0) :
    t.isoformat ≤ u.isoformat ↔ t.instant ≤ u.instant := by
  rw [utc_le_isoformat_iff ht, instant_utc hu]

theorem isoformat_lt_iff (ht : t.utcOffset = 0) (hu : u.utcOffset = 0) :
    t.isoformat < u.isoformat ↔ t.instant < u.instant := by
  rw [← not_le, ← not_le, isoformat_le_iff hu ht]

theorem isoformat_eq_iff (ht : t.utcOffset = 0) (hu : u.utcOffset = 0) :
    t.isoformat = u.isoformat ↔ t.instant = u.instant := by
  rw [le_antisymm_iff, le_antisymm_iff, isoformat_le_iff ht hu, isoformat_le_iff hu ht]

end Datetime

end LotusManage
