import LotusManage.Lib.DigitTexts
import LotusManage.Lib.OrderBy
import LotusManage.Mandates.Models

/-!
# The order of mandate versions

`_mandate_version_sort_key` and the reads of stored mandates: the dictionary of `in_memory.py` against
the queries of `postgres.py`, whose `ORDER BY` runs the same comparison in SQL.

A version is any text.  One of ASCII digits only ranks as a number, above every other one.  The table
keeps its columns beside the record; the date column is a text.

* `compareBy_versionOrder`: the SQL items compare as the Python tuple does.
* `agree_save`: a save keeps the two stores alike.
* `mandate_version_order`: the order is numerical and strict, and stores that hold the same snapshots
  answer every read alike.
-/

namespace LotusManage.Mandates

open OrderBy

/-! ## Dates -/

/-- Midnight of a day, by which the text of the day is compared. -/
def CalendarDate.midnight (date : CalendarDate) : Datetime where
  year := date.year
  month := date.month
  day := date.day
  year_bounds := date.year_bounds
  month_bounds := date.month_bounds
  day_bounds := date.day_bounds

variable {a b : CalendarDate} {v w : String}

theorem CalendarDate.isoformat_lt (h : [a.year, a.month, a.day] < [b.year, b.month, b.day]) :
    a.isoformat < b.isoformat := by
  unfold isoformat
  rw [String.lt_iff_toList_lt, String.toList_ofList, String.toList_ofList]
  have hyear : b.year < 10 ^ 4 := Nat.lt_of_le_of_lt b.year_bounds.2 (by decide)
  have hmonth : b.month < 10 ^ 2 := Nat.lt_of_le_of_lt b.month_bounds.2 (by decide)
  have hday : b.day < 10 ^ 2 := by
    have hlast := b.day_bounds.2.trans (daysInMonth_le b.year b.month)
    omega
  refine Datetime.field_lt hyear h fun h => Datetime.cons_lt_cons
    (Datetime.field_lt hmonth h fun h => Datetime.cons_lt_cons ?_)
  rcases List.cons_lt_cons_iff.mp h with hlt | ⟨_, h⟩
  · have hlast := Datetime.digits_append_lt hlt hday [] []
    rwa [List.append_nil, List.append_nil] at hlast
  · exact absurd h (List.not_lt_nil [])

theorem CalendarDate.toordinal_lt (h : [a.year, a.month, a.day] < [b.year, b.month, b.day]) :
    a.toordinal < b.toordinal := by
  show a.midnight.toordinal < b.midnight.toordinal
  rcases List.cons_lt_cons_iff.mp h with hyear | ⟨hyear, h⟩
  · exact Datetime.toordinal_lt_of_year hyear
  · rcases List.cons_lt_cons_iff.mp h with hmonth | ⟨hmonth, h⟩
    · exact Datetime.toordinal_lt_of_month hyear hmonth
    · rcases List.cons_lt_cons_iff.mp h with hday | ⟨_, h⟩
      · show daysBeforeYear a.year + daysBeforeMonth a.year a.month + a.day <
          daysBeforeYear b.year + daysBeforeMonth b.year b.month + b.day
        rw [hyear, hmonth]
        exact Nat.add_lt_add_left hday _
      · exact absurd h (List.not_lt_nil [])

theorem CalendarDate.eq_of_fields (h : [a.year, a.month, a.day] = [b.year, b.month, b.day]) :
    a = b := by
  obtain ⟨_, _, _, _, _, _⟩ := a
  obtain ⟨_, _, _, _, _, _⟩ := b
  injection h with hyear h
  injection h with hmonth h
  injection h with hday h
  subst hyear hmonth hday
  rfl

theorem CalendarDate.isoformat_le_iff (a b : CalendarDate) :
    a.isoformat ≤ b.isoformat ↔ a.toordinal ≤ b.toordinal := by
  rcases lt_trichotomy [a.year, a.month, a.day] [b.year, b.month, b.day] with hlt | heq | hgt
  · exact iff_of_true (isoformat_lt hlt).le (toordinal_lt hlt).le
  · rw [eq_of_fields heq]
    exact iff_of_true le_rfl le_rfl
  · exact iff_of_false (not_le.mpr (isoformat_lt hgt)) (not_le.mpr (toordinal_lt hgt))

theorem CalendarDate.toordinal_injective (h : a.toordinal = b.toordinal) : a = b := by
  rcases lt_trichotomy [a.year, a.month, a.day] [b.year, b.month, b.day] with hlt | heq | hgt
  · exact absurd h (toordinal_lt hlt).ne
  · exact eq_of_fields heq
  · exact absurd h (toordinal_lt hgt).ne'

theorem CalendarDate.isoformat_injective (h : a.isoformat = b.isoformat) : a = b :=
  toordinal_injective (Nat.le_antisymm ((isoformat_le_iff a b).mp h.le)
    ((isoformat_le_iff b a).mp h.ge))

/-! ## The sort key -/

/-- `^[0-9]+$` matched against the whole text, by `fullmatch` or by `~`. -/
def isNumericVersion (version : String) : Bool :=
  !version.toList.isEmpty && version.toList.all Char.isDigit

/-- `version.lstrip("0") or "0"` -/
def versionDigits (version : String) : String :=
  String.ofList (DigitTexts.significant version.toList)

/-- `_mandate_version_sort_key` -/
def mandateVersionSortKey (version : String) : Nat ×ₗ Nat ×ₗ String ×ₗ String :=
  if isNumericVersion version then
    toLex (1, toLex ((versionDigits version).length, toLex (versionDigits version, version)))
  else toLex (0, toLex (0, toLex ("", version)))

/-- The number that a text of digits denotes. -/
def versionNumber (version : String) : Nat := Nat.ofDigitChars 10 version.toList 0

theorem mandateVersionSortKey_injective (h : mandateVersionSortKey v = mandateVersionSortKey w) :
    v = w := by
  have hraw : ∀ version,
      (ofLex (ofLex (ofLex (mandateVersionSortKey version)).2).2).2 = version := by
    intro version
    unfold mandateVersionSortKey
    split_ifs <;> rfl
  rw [← hraw v, h, hraw w]

theorem allDigits_of_numeric {version : String} (h : isNumericVersion version = true) :
    DigitTexts.AllDigits version.toList := by
  unfold isNumericVersion at h
  rw [Bool.and_eq_true, List.all_eq_true] at h
  exact h.2

theorem sortKey_lt_of_numeric (hv : isNumericVersion v = false) (hw : isNumericVersion w = true) :
    mandateVersionSortKey v < mandateVersionSortKey w := by
  unfold mandateVersionSortKey
  rw [hv, hw, if_pos rfl, if_neg Bool.false_ne_true, Prod.Lex.toLex_lt_toLex]
  exact Or.inl Nat.zero_lt_one

theorem sortKey_lt_iff_of_numeric (hv : isNumericVersion v = true) (hw : isNumericVersion w = true) :
    mandateVersionSortKey v < mandateVersionSortKey w ↔
      versionNumber v < versionNumber w ∨ versionNumber v = versionNumber w ∧ v < w := by
  have hdv := allDigits_of_numeric hv
  have hdw := allDigits_of_numeric hw
  unfold mandateVersionSortKey versionNumber
  rw [if_pos hv, if_pos hw, DigitTexts.ofDigitChars_lt_iff hdv hdw,
    ← DigitTexts.significant_eq_iff hdv hdw]
  simp only [Prod.Lex.toLex_lt_toLex, Nat.lt_irrefl, true_and, false_or, versionDigits,
    String.length_ofList, String.lt_iff_toList_lt, String.toList_ofList, String.ofList_inj]
  constructor
  · rintro (hshort | ⟨hlength, hless | ⟨heq, hraw⟩⟩)
    · exact Or.inl (Or.inl hshort)
    · exact Or.inl (Or.inr ⟨hlength, hless⟩)
    · exact Or.inr ⟨heq, hraw⟩
  · rintro ((hshort | ⟨hlength, hless⟩) | ⟨heq, hraw⟩)
    · exact Or.inl hshort
    · exact Or.inr ⟨hlength, Or.inl hless⟩
    · exact Or.inr ⟨congrArg List.length heq, Or.inr ⟨heq, hraw⟩⟩

example : mandateVersionSortKey "9\n" < mandateVersionSortKey "9" ∧
    mandateVersionSortKey "9" < mandateVersionSortKey "010" ∧
    mandateVersionSortKey "010" < mandateVersionSortKey "10" := by decide +kernel

/-! ## The snapshots in memory -/

/-- The key of a stored snapshot: tenant, mandate, version and date. -/
abbrev MandateKey := String × String × String × CalendarDate

def mandateKey (tenantId : String) (twin : MandateDigitalTwin) : MandateKey :=
  (tenantId, twin.mandateId, twin.mandateVersion, twin.asOfDate)

/-- `_mandates_by_key`: a snapshot is under its own key. -/
structure MandateStore where
  mandatesByKey : Dict MandateKey MandateDigitalTwin
  key_eq : ∀ key twin, mandatesByKey.get? key = some twin → key = mandateKey key.1 twin

/-- The store of a new repository. -/
def MandateStore.empty : MandateStore where
  mandatesByKey := Dict.empty
  key_eq := by
    intro key twin hget
    rw [Dict.get?_empty] at hget
    cases hget

/-- `save_mandate_snapshot` -/
def MandateStore.saveMandateSnapshot (store : MandateStore) (tenantId : String)
    (twin : MandateDigitalTwin) : MandateStore where
  mandatesByKey := store.mandatesByKey.set (mandateKey tenantId twin) twin
  key_eq := by
    intro key stored hget
    rw [Dict.get?_set] at hget
    split at hget
    · rename_i hkey
      cases hget
      rw [hkey]
      rfl
    · exact store.key_eq key stored hget

/-- The snapshots of a tenant that a read goes through. -/
def MandateStore.rows (store : MandateStore) (tenantId : String)
    (p : MandateDigitalTwin → Bool) : List MandateDigitalTwin :=
  (store.mandatesByKey.items.filter (fun e => e.1.1 = tenantId && p e.2)).map Prod.snd

/-- The key of `_latest_twin`. -/
def latestKey (twin : MandateDigitalTwin) : Nat ×ₗ (Nat ×ₗ Nat ×ₗ String ×ₗ String) ×ₗ String :=
  toLex (twin.asOfDate.toordinal,
    toLex (mandateVersionSortKey twin.mandateVersion, twin.mandateId))

/-- `_latest_twin` -/
def latestTwin (rows : List MandateDigitalTwin) : Option MandateDigitalTwin :=
  maxBy latestKey rows

/-- The key of `list_mandate_versions`. -/
def versionListKey (twin : MandateDigitalTwin) : Nat ×ₗ Nat ×ₗ Nat ×ₗ String ×ₗ String :=
  toLex (twin.asOfDate.toordinal, mandateVersionSortKey twin.mandateVersion)

namespace MandateStore

variable (store : MandateStore)

/-- `get_latest_mandate_by_portfolio` -/
def getLatestMandateByPortfolio (portfolioId tenantId : String) : Option MandateDigitalTwin :=
  (latestTwin (store.rows tenantId fun twin => twin.portfolioId = portfolioId)).map
    effectiveMandateTwin

/-- `get_mandate_by_portfolio_as_of` -/
def getMandateByPortfolioAsOf (portfolioId : String) (asOfDate : CalendarDate)
    (tenantId : String) : Option MandateDigitalTwin :=
  (latestTwin (store.rows tenantId fun twin =>
    twin.portfolioId = portfolioId && twin.asOfDate.toordinal ≤ asOfDate.toordinal)).map
      effectiveMandateTwin

/-- `get_latest_mandate` -/
def getLatestMandate (mandateId tenantId : String) : Option MandateDigitalTwin :=
  (latestTwin (store.rows tenantId fun twin => twin.mandateId = mandateId)).map
    effectiveMandateTwin

/-- `list_mandate_versions` -/
def listMandateVersions (mandateId tenantId : String) : List MandateDigitalTwin :=
  (descending versionListKey (store.rows tenantId fun twin => twin.mandateId = mandateId)).map
    effectiveMandateTwin

end MandateStore

/-! ## The table -/

/-- A row of `dpm_mandate_snapshots`: the columns that the reads compare, and the record. -/
structure SnapshotRow where
  tenantId : String
  mandateId : String
  portfolioId : String
  mandateVersion : String
  asOfDate : String
  payload : MandateDigitalTwin

/-- The columns of `UNIQUE (tenant_id, mandate_id, mandate_version, as_of_date)`. -/
def SnapshotRow.columns (row : SnapshotRow) : String × String × String × String :=
  (row.tenantId, row.mandateId, row.mandateVersion, row.asOfDate)

abbrev SnapshotTable := Dict (String × String × String × String) SnapshotRow

/-- The row that a save writes. -/
def snapshotRow (tenantId : String) (twin : MandateDigitalTwin) : SnapshotRow :=
  ⟨tenantId, twin.mandateId, twin.portfolioId, twin.mandateVersion, twin.asOfDate.isoformat, twin⟩

/-- `INSERT INTO dpm_mandate_snapshots ... ON CONFLICT ... DO UPDATE` -/
def SnapshotTable.saveMandateSnapshot (table : SnapshotTable) (tenantId : String)
    (twin : MandateDigitalTwin) : SnapshotTable :=
  table.set (snapshotRow tenantId twin).columns (snapshotRow tenantId twin)

/-- `NULLIF(text, other)` -/
def nullif (text other : String) : Option String := if text = other then none else some text

/-- `ltrim(text, '0')` -/
def ltrimZeros (text : String) : String := String.ofList (text.toList.dropWhile (· = '0'))

/-- `COALESCE(NULLIF(ltrim(mandate_version, '0'), ''), '0')` -/
def sqlVersionDigits (version : String) : String := (nullif (ltrimZeros version) "").getD "0"

/-- `CASE WHEN mandate_version ~ '^[0-9]+$' THEN ... ELSE NULL END` -/
def caseNumeric {α : Type} (value : String → α) (row : SnapshotRow) : Option α :=
  if isNumericVersion row.mandateVersion then some (value row.mandateVersion) else none

/-- `_MANDATE_VERSION_ORDER` -/
def mandateVersionOrder : List (Item SnapshotRow) :=
  [descNullsLast (caseNumeric fun version => (sqlVersionDigits version).length),
    descNullsLast (caseNumeric sqlVersionDigits), desc SnapshotRow.mandateVersion]

/-- The `ORDER BY` of a portfolio's snapshots. -/
def portfolioOrder : List (Item SnapshotRow) :=
  desc SnapshotRow.asOfDate :: (mandateVersionOrder ++ [desc SnapshotRow.mandateId])

/-- The `ORDER BY` of a mandate's snapshots. -/
def mandateOrder : List (Item SnapshotRow) := desc SnapshotRow.asOfDate :: mandateVersionOrder

/-- `_to_twin` of the row that `LIMIT 1` leaves. -/
def toTwin (answer : List SnapshotRow) : Option MandateDigitalTwin :=
  answer.head?.map fun row => effectiveMandateTwin row.payload

namespace SnapshotTable

variable (table : SnapshotTable)

/-- The rows of `WHERE tenant_id = %s AND portfolio_id = %s`. -/
def ofPortfolio (portfolioId tenantId : String) : List SnapshotRow :=
  table.selectWhere fun row => row.tenantId = tenantId && row.portfolioId = portfolioId

/-- The rows of `WHERE tenant_id = %s AND portfolio_id = %s AND as_of_date <= %s`. -/
def ofPortfolioAsOf (portfolioId : String) (asOfDate : CalendarDate) (tenantId : String) :
    List SnapshotRow :=
  table.selectWhere fun row => row.tenantId = tenantId &&
    (row.portfolioId = portfolioId && row.asOfDate ≤ asOfDate.isoformat)

/-- The rows of `WHERE tenant_id = %s AND mandate_id = %s`. -/
def ofMandate (mandateId tenantId : String) : List SnapshotRow :=
  table.selectWhere fun row => row.tenantId = tenantId && row.mandateId = mandateId

end SnapshotTable

/-! ## The items compare as the tuples do -/

theorem sqlVersionDigits_eq (version : String) :
    sqlVersionDigits version = versionDigits version := by
  unfold sqlVersionDigits nullif ltrimZeros versionDigits DigitTexts.significant
  cases hdrop : version.toList.dropWhile (· = '0') with
  | nil => rfl
  | cons c cs =>
    rw [if_neg]
    · rfl
    · intro hempty
      cases String.ofList_injective (hempty.trans String.ofList_nil.symm)

theorem compareBy_versionOrder (a b : SnapshotRow) :
    compareBy mandateVersionOrder a b =
      compare (mandateVersionSortKey b.mandateVersion) (mandateVersionSortKey a.mandateVersion) := by
  unfold mandateVersionOrder mandateVersionSortKey
  rw [compareBy, compareBy, compareBy_single]
  unfold descNullsLast caseNumeric
  cases isNumericVersion a.mandateVersion
  · cases isNumericVersion b.mandateVersion
    · -- two NULLs in both columns: the raw text decides
      simp only [Bool.false_eq_true, if_false, compare_toLex, Std.compare_self, Ordering.eq_then]
    · rfl
  · cases isNumericVersion b.mandateVersion
    · rfl
    · simp only [if_true, sqlVersionDigits_eq, compare_toLex, Std.compare_self, Ordering.eq_then]

/-- The columns that a portfolio's snapshots are ordered by. -/
def portfolioColumns (row : SnapshotRow) :
    String ×ₗ (Nat ×ₗ Nat ×ₗ String ×ₗ String) ×ₗ String :=
  toLex (row.asOfDate, toLex (mandateVersionSortKey row.mandateVersion, row.mandateId))

/-- The columns that a mandate's snapshots are ordered by. -/
def mandateColumns (row : SnapshotRow) : String ×ₗ Nat ×ₗ Nat ×ₗ String ×ₗ String :=
  toLex (row.asOfDate, mandateVersionSortKey row.mandateVersion)

theorem compareBy_portfolioOrder (a b : SnapshotRow) :
    compareBy portfolioOrder a b = compare (portfolioColumns b) (portfolioColumns a) := by
  have hrest : ∀ a b : SnapshotRow,
      compareBy (mandateVersionOrder ++ [desc SnapshotRow.mandateId]) a b =
        compare (toLex (mandateVersionSortKey b.mandateVersion, b.mandateId))
          (toLex (mandateVersionSortKey a.mandateVersion, a.mandateId)) := by
    intro a b
    rw [compareBy_append, compareBy_versionOrder, compareBy_single, compare_toLex]
  exact compareBy_cons_desc hrest SnapshotRow.asOfDate a b

theorem compareBy_mandateOrder (a b : SnapshotRow) :
    compareBy mandateOrder a b = compare (mandateColumns b) (mandateColumns a) :=
  compareBy_cons_desc compareBy_versionOrder SnapshotRow.asOfDate a b

theorem dateColumn_le_iff {γ : Type} [LinearOrder γ] (a b : CalendarDate) (x y : γ) :
    toLex (a.isoformat, x) ≤ toLex (b.isoformat, y) ↔
      toLex (a.toordinal, x) ≤ toLex (b.toordinal, y) := by
  have hlt : a.isoformat < b.isoformat ↔ a.toordinal < b.toordinal := by
    rw [← not_le, ← not_le, CalendarDate.isoformat_le_iff]
  have heq : a.isoformat = b.isoformat ↔ a.toordinal = b.toordinal :=
    ⟨fun h => by rw [CalendarDate.isoformat_injective h],
      fun h => by rw [CalendarDate.toordinal_injective h]⟩
  rw [Prod.Lex.toLex_le_toLex, Prod.Lex.toLex_le_toLex]
  show a.isoformat < b.isoformat ∨ a.isoformat = b.isoformat ∧ x ≤ y ↔
    a.toordinal < b.toordinal ∨ a.toordinal = b.toordinal ∧ x ≤ y
  rw [hlt, heq]

/-! ## Stores that hold the same snapshots -/

/-- The table has the row of every snapshot in memory, and no other. -/
def Agree (store : MandateStore) (table : SnapshotTable) : Prop :=
  ∀ columns row, table.get? columns = some row ↔ ∃ tenantId twin,
    store.mandatesByKey.get? (mandateKey tenantId twin) = some twin ∧
      row = snapshotRow tenantId twin ∧ columns = row.columns

theorem columns_snapshotRow_inj {tenantId tenantId' : String} {twin twin' : MandateDigitalTwin} :
    (snapshotRow tenantId twin).columns = (snapshotRow tenantId' twin').columns ↔
      mandateKey tenantId twin = mandateKey tenantId' twin' := by
  unfold snapshotRow SnapshotRow.columns mandateKey
  simp only [Prod.mk.injEq]
  constructor
  · rintro ⟨htenant, hmandate, hversion, hdate⟩
    exact ⟨htenant, hmandate, hversion, CalendarDate.isoformat_injective hdate⟩
  · rintro ⟨htenant, hmandate, hversion, hdate⟩
    exact ⟨htenant, hmandate, hversion, congrArg CalendarDate.isoformat hdate⟩

theorem agree_empty : Agree MandateStore.empty Dict.empty := by
  intro columns row
  rw [Dict.get?_empty]
  refine iff_of_false (Option.some_ne_none row).symm ?_
  rintro ⟨tenantId, twin, hget, _⟩
  rw [MandateStore.empty, Dict.get?_empty] at hget
  cases hget

theorem agree_save {store : MandateStore} {table : SnapshotTable} (h : Agree store table)
    (tenantId : String) (twin : MandateDigitalTwin) :
    Agree (store.saveMandateSnapshot tenantId twin) (table.saveMandateSnapshot tenantId twin) := by
  intro columns row
  unfold SnapshotTable.saveMandateSnapshot MandateStore.saveMandateSnapshot
  rw [Dict.get?_set]
  by_cases hcolumns : columns = (snapshotRow tenantId twin).columns
  · rw [if_pos hcolumns]
    constructor
    · intro hrow
      cases hrow
      exact ⟨tenantId, twin, Dict.get?_set_self _ _ _, rfl, hcolumns⟩
    · rintro ⟨tenantId', twin', hget, rfl, hcolumns'⟩
      have hkey := columns_snapshotRow_inj.mp (hcolumns'.symm.trans hcolumns)
      rw [Dict.get?_set, if_pos hkey] at hget
      cases hget
      have htenant : tenantId' = tenantId := congrArg Prod.fst hkey
      rw [htenant]
  · rw [if_neg hcolumns, h columns row]
    have hother : ∀ tenantId' twin', columns = (snapshotRow tenantId' twin').columns →
        mandateKey tenantId' twin' ≠ mandateKey tenantId twin := fun tenantId' twin' hcol hkey =>
      hcolumns (hcol.trans (columns_snapshotRow_inj.mpr hkey))
    constructor
    · rintro ⟨tenantId', twin', hget, rfl, hcol⟩
      exact ⟨tenantId', twin', (Dict.get?_set_of_ne _ _ (hother _ _ hcol)).trans hget, rfl, hcol⟩
    · rintro ⟨tenantId', twin', hget, rfl, hcol⟩
      rw [Dict.get?_set_of_ne _ _ (hother _ _ hcol)] at hget
      exact ⟨tenantId', twin', hget, rfl, hcol⟩

section Reads

variable {store : MandateStore} {table : SnapshotTable}

variable {tenantId : String} {p : MandateDigitalTwin → Bool} {q : SnapshotRow → Bool}
  {answer : List SnapshotRow}

theorem mem_rows {twin : MandateDigitalTwin} :
    twin ∈ store.rows tenantId p ↔
      store.mandatesByKey.get? (mandateKey tenantId twin) = some twin ∧ p twin = true := by
  unfold MandateStore.rows
  rw [List.mem_map]
  constructor
  · rintro ⟨⟨key, row⟩, hmem, rfl⟩
    rw [List.mem_filter, Bool.and_eq_true, decide_eq_true_eq, ← Dict.get?_eq_some_iff] at hmem
    obtain ⟨hget, htenant, hp⟩ := hmem
    have hkey : key = mandateKey key.1 row := store.key_eq key row hget
    have htenant' : key.1 = tenantId := htenant
    rw [htenant'] at hkey
    rw [← hkey]
    exact ⟨hget, hp⟩
  · rintro ⟨hget, hp⟩
    refine ⟨(mandateKey tenantId twin, twin), ?_, rfl⟩
    rw [List.mem_filter, Bool.and_eq_true, decide_eq_true_eq, ← Dict.get?_eq_some_iff]
    exact ⟨hget, rfl, hp⟩

theorem nodup_map_rows {β : Type} {key : MandateDigitalTwin → β}
    (hkey : ∀ a ∈ store.rows tenantId p, ∀ b ∈ store.rows tenantId p, key a = key b →
      mandateKey tenantId a = mandateKey tenantId b) : ((store.rows tenantId p).map key).Nodup := by
  have hrows : ∀ {e : MandateKey × MandateDigitalTwin},
      e ∈ store.mandatesByKey.items.filter (fun e => e.1.1 = tenantId && p e.2) →
      e.1 = mandateKey tenantId e.2 ∧ e.2 ∈ store.rows tenantId p := by
    intro e he
    have hmem := List.mem_filter.mp he
    rw [Bool.and_eq_true, decide_eq_true_eq] at hmem
    have hget := (Dict.get?_eq_some_iff _ e.1 e.2).mpr hmem.1
    have hown := store.key_eq e.1 e.2 hget
    rw [hmem.2.1] at hown
    exact ⟨hown, List.mem_map.mpr ⟨e, he, rfl⟩⟩
  unfold MandateStore.rows
  rw [List.map_map]
  refine List.Nodup.map_on ?_ ((List.Nodup.of_map Prod.fst store.mandatesByKey.nodup).filter _)
  intro a ha b hb hab
  obtain ⟨hakey, hamem⟩ := hrows ha
  obtain ⟨hbkey, hbmem⟩ := hrows hb
  have hsame : a.1 = b.1 := by rw [hakey, hbkey, hkey a.2 hamem b.2 hbmem hab]
  have haget := (Dict.get?_eq_some_iff _ a.1 a.2).mpr (List.mem_filter.mp ha).1
  have hbget := (Dict.get?_eq_some_iff _ b.1 b.2).mpr (List.mem_filter.mp hb).1
  rw [hsame, hbget] at haget
  exact Prod.ext hsame (Option.some.inj haget).symm

theorem selectWhere_perm_rows (h : Agree store table)
    (hpq : ∀ twin, q (snapshotRow tenantId twin) = p twin) :
    (table.selectWhere fun row => row.tenantId = tenantId && q row).Perm
      ((store.rows tenantId p).map (snapshotRow tenantId)) := by
  have hcolumns : ∀ {e : (String × String × String × String) × SnapshotRow},
      e ∈ table.items → e.1 = e.2.columns := by
    intro e he
    obtain ⟨_, _, _, _, hcol⟩ := (h e.1 e.2).mp ((Dict.get?_eq_some_iff _ e.1 e.2).mpr he)
    exact hcol
  rw [List.perm_ext_iff_of_nodup]
  · intro row
    rw [Dict.mem_selectWhere, Bool.and_eq_true, decide_eq_true_eq, List.mem_map]
    constructor
    · rintro ⟨⟨columns, hget⟩, htenant, hq⟩
      obtain ⟨tenantId', twin, hstored, rfl, _⟩ := (h columns row).mp hget
      have htenant' : tenantId' = tenantId := htenant
      subst htenant'
      exact ⟨twin, mem_rows.mpr ⟨hstored, (hpq twin).symm.trans hq⟩, rfl⟩
    · rintro ⟨twin, hmem, rfl⟩
      obtain ⟨hstored, hp⟩ := mem_rows.mp hmem
      exact ⟨⟨_, (h _ _).mpr ⟨tenantId, twin, hstored, rfl, rfl⟩⟩, rfl, (hpq twin).trans hp⟩
  · unfold Dict.selectWhere Dict.values
    refine List.Nodup.filter _ (List.Nodup.map_on ?_ (List.Nodup.of_map Prod.fst table.nodup))
    intro a ha b hb hab
    exact Prod.ext (by rw [hcolumns ha, hcolumns hb, hab]) hab
  · refine nodup_map_rows (fun a _ b _ hab => ?_)
    exact columns_snapshotRow_inj.mp (congrArg SnapshotRow.columns hab)

theorem nodup_latestKey (tenantId : String) (p : MandateDigitalTwin → Bool) :
    ((store.rows tenantId p).map latestKey).Nodup := by
  refine nodup_map_rows (fun a _ b _ hab => ?_)
  have hparts := toLex_inj.mp hab
  rw [Prod.mk.injEq, toLex_inj, Prod.mk.injEq] at hparts
  obtain ⟨hdate, hversion, hmandate⟩ := hparts
  unfold mandateKey
  rw [hmandate, mandateVersionSortKey_injective hversion, CalendarDate.toordinal_injective hdate]

theorem nodup_versionListKey (tenantId mandateId : String) :
    ((store.rows tenantId fun twin => twin.mandateId = mandateId).map versionListKey).Nodup := by
  refine nodup_map_rows (fun a ha b hb hab => ?_)
  have hmandate : a.mandateId = b.mandateId :=
    (of_decide_eq_true (mem_rows.mp ha).2).trans (of_decide_eq_true (mem_rows.mp hb).2).symm
  have hparts := toLex_inj.mp hab
  rw [Prod.mk.injEq] at hparts
  obtain ⟨hdate, hversion⟩ := hparts
  unfold mandateKey
  rw [hmandate, mandateVersionSortKey_injective hversion, CalendarDate.toordinal_injective hdate]

theorem answers_eq {β γ : Type} [LinearOrder β] [LinearOrder γ] {items : List (Item SnapshotRow)}
    {columns : SnapshotRow → β} {key : MandateDigitalTwin → γ} (h : Agree store table)
    (hpq : ∀ twin, q (snapshotRow tenantId twin) = p twin)
    (hitems : ∀ a b, compareBy items a b = compare (columns b) (columns a))
    (hcolumns : ∀ a b, columns (snapshotRow tenantId a) ≤ columns (snapshotRow tenantId b) ↔
      key a ≤ key b) (hkey : ((store.rows tenantId p).map key).Nodup)
    (hanswer : Answers items (table.selectWhere fun row => row.tenantId = tenantId && q row) answer) :
    answer = (descending key (store.rows tenantId p)).map (snapshotRow tenantId) := by
  have hnodup : (((store.rows tenantId p).map (snapshotRow tenantId)).map columns).Nodup := by
    rw [List.map_map]
    refine List.Nodup.map_on ?_ hkey.of_map
    intro a ha b hb hab
    exact List.inj_on_of_nodup_map hkey ha hb
      (le_antisymm ((hcolumns a b).mp hab.le) ((hcolumns b a).mp hab.ge))
  rw [hanswer.eq_descending (selectWhere_perm_rows h hpq) hitems hnodup, descending_map,
    descending_congr hcolumns]

theorem toTwin_eq_latestTwin (h : Agree store table)
    (hpq : ∀ twin, q (snapshotRow tenantId twin) = p twin) (hanswer : Answers portfolioOrder
      (table.selectWhere fun row => row.tenantId = tenantId && q row) answer) :
    toTwin answer = (latestTwin (store.rows tenantId p)).map effectiveMandateTwin := by
  have hkey := @nodup_latestKey store tenantId p
  have hanswer : answer =
      (descending latestKey (store.rows tenantId p)).map (snapshotRow tenantId) :=
    answers_eq h hpq compareBy_portfolioOrder
      (fun a b => dateColumn_le_iff a.asOfDate b.asOfDate _ _) hkey hanswer
  unfold toTwin latestTwin
  rw [hanswer, List.head?_map, head?_descending hkey, Option.map_map]
  rfl

theorem answer_of_mandate (h : Agree store table) {mandateId : String}
    (hanswer : Answers mandateOrder (table.ofMandate mandateId tenantId) answer) :
    answer = (descending versionListKey
      (store.rows tenantId fun twin => twin.mandateId = mandateId)).map (snapshotRow tenantId) := by
  have hpq : ∀ twin, decide ((snapshotRow tenantId twin).mandateId = mandateId) =
      decide (twin.mandateId = mandateId) := fun _ => rfl
  exact answers_eq h hpq compareBy_mandateOrder
    (fun a b => dateColumn_le_iff a.asOfDate b.asOfDate _ _)
    (nodup_versionListKey tenantId mandateId) hanswer

theorem latestTwin_of_mandate (tenantId mandateId : String) :
    (descending versionListKey
      (store.rows tenantId fun twin => twin.mandateId = mandateId)).head? =
      latestTwin (store.rows tenantId fun twin => twin.mandateId = mandateId) := by
  unfold latestTwin
  rw [← head?_descending (nodup_latestKey tenantId _)]
  refine congrArg List.head? (insertionSort_congr (List.pairwise_of_forall_mem_list ?_))
  intro a ha b hb
  have hmandate : a.mandateId = b.mandateId :=
    (of_decide_eq_true (mem_rows.mp ha).2).trans (of_decide_eq_true (mem_rows.mp hb).2).symm
  unfold versionListKey latestKey
  rw [hmandate, Prod.Lex.toLex_le_toLex, Prod.Lex.toLex_le_toLex, Prod.Lex.toLex_le_toLex]
  simp only [le_rfl, and_true, le_iff_lt_or_eq]

end Reads

/-! ## The versions and the reads -/

/-- The version order is strict and numerical, and stores that hold the same snapshots answer every
read alike, whatever order the table returns equal rows in. -/
theorem mandate_version_order :
    IsStrictTotalOrder String (fun v w => mandateVersionSortKey v < mandateVersionSortKey w) ∧
    (∀ v w, isNumericVersion v = false → isNumericVersion w = true →
      mandateVersionSortKey v < mandateVersionSortKey w) ∧
    (∀ v w, isNumericVersion v = true → isNumericVersion w = true →
      (mandateVersionSortKey v < mandateVersionSortKey w ↔
        versionNumber v < versionNumber w ∨ versionNumber v = versionNumber w ∧ v < w)) ∧
    ∀ (store : MandateStore) (table : SnapshotTable), Agree store table → ∀ tenantId,
      (∀ portfolioId answer,
        Answers portfolioOrder (table.ofPortfolio portfolioId tenantId) answer →
          toTwin answer = store.getLatestMandateByPortfolio portfolioId tenantId) ∧
      (∀ portfolioId asOfDate answer,
        Answers portfolioOrder (table.ofPortfolioAsOf portfolioId asOfDate tenantId) answer →
          toTwin answer = store.getMandateByPortfolioAsOf portfolioId asOfDate tenantId) ∧
      ∀ mandateId answer, Answers mandateOrder (table.ofMandate mandateId tenantId) answer →
        toTwin answer = store.getLatestMandate mandateId tenantId ∧
        answer.map (fun row => effectiveMandateTwin row.payload) =
          store.listMandateVersions mandateId tenantId := by
  refine ⟨?_, fun v w => sortKey_lt_of_numeric, fun v w => sortKey_lt_iff_of_numeric, ?_⟩
  · exact {
      trichotomous := fun v w hvw hwv =>
        mandateVersionSortKey_injective (le_antisymm (not_lt.mp hwv) (not_lt.mp hvw))
      irrefl := fun v => lt_irrefl _
      trans := fun u v w => lt_trans }
  · intro store table h tenantId
    refine ⟨fun portfolioId answer hanswer => ?_, fun portfolioId asOfDate answer hanswer => ?_,
      fun mandateId answer hanswer => ⟨?_, ?_⟩⟩
    · exact toTwin_eq_latestTwin h (fun _ => rfl) hanswer
    · refine toTwin_eq_latestTwin h (fun twin => ?_) hanswer
      exact congrArg (decide (twin.portfolioId = portfolioId) && ·)
        (decide_eq_decide.mpr (CalendarDate.isoformat_le_iff twin.asOfDate asOfDate))
    · rw [answer_of_mandate h hanswer]
      unfold toTwin MandateStore.getLatestMandate
      rw [List.head?_map, latestTwin_of_mandate, Option.map_map]
      rfl
    · rw [answer_of_mandate h hanswer, List.map_map]
      rfl

/-- A snapshot of one day in a version. -/
def twinOfVersion (mandateVersion : String) : MandateDigitalTwin :=
  { mandateId := "MANDATE_1"
    portfolioId := "PF_1"
    mandateVersion := mandateVersion
    asOfDate :=
      { year := 2026, month := 5, day := 3
        year_bounds := year_2026, month_bounds := month_may, day_bounds := day_3_may }
    baseCurrency := "SGD"
    constraints := {} }

/-- Version 10 comes after version 9, and both stores have it as the latest one. -/
theorem version_ten_is_latest :
    mandateVersionSortKey "9" < mandateVersionSortKey "10" ∧
    ∀ answer, Answers mandateOrder (((SnapshotTable.saveMandateSnapshot Dict.empty "tenant-sg"
        (twinOfVersion "10")).saveMandateSnapshot "tenant-sg" (twinOfVersion "9")).ofMandate
          "MANDATE_1" "tenant-sg") answer →
      toTwin answer = some (twinOfVersion "10") := by
  have hagree := agree_save (agree_save agree_empty "tenant-sg" (twinOfVersion "10")) "tenant-sg"
    (twinOfVersion "9")
  obtain ⟨_, _, hnumeric, hreads⟩ := mandate_version_order
  refine ⟨(hnumeric "9" "10" (by decide +kernel) (by decide +kernel)).mpr
    (Or.inl (by decide +kernel)), fun answer hanswer => ?_⟩
  rw [((hreads _ _ hagree "tenant-sg").2.2 "MANDATE_1" answer hanswer).1]
  decide +kernel

end LotusManage.Mandates
