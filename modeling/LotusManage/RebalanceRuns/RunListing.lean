import LotusManage.Lib.Datetime
import LotusManage.Lib.Pages
import LotusManage.RebalanceRuns.Models
import Mathlib.Data.Prod.Lex

/-!
# Listings of runs

`list_runs` and `list_runs_for_tenant` of the in-memory repository, with the helpers of
`src/infrastructure/rebalance_runs/in_memory_helpers.py`, and of the PostgreSQL repository, with the
query of `run_query.py`.

The in-memory listing compares instants, and its cursor is a row of the filtered list.  The query
compares the texts of `isoformat` in the column `created_at`, and its cursor is any row of the
table.
A stored run is created in UTC, where texts and instants have one order; a bound of a filter may be
given in any offset.

Each listing is the page of a selection from the runs in one order.  `run_listing_agrees_iff` says
which runs, bounds and cursors make the stores list alike: what tells them apart is a run created
between a bound and the same clock reading in UTC, a status that is no text, and a cursor that is a run
of the tenant outside the filters.
-/

namespace LotusManage.RebalanceRuns

/-! ## Stored runs -/

/-- The field `status` of a stored result. -/
inductive ResultStatus where
  | absent
  | null
  | text (value : String)
  /-- another JSON value: its text by `str` of Python and by `->>` of PostgreSQL -/
  | other (pythonText jsonText : String)
  deriving DecidableEq

/-- `str(result_json.get("status", ""))` -/
def ResultStatus.str : ResultStatus → String
  | absent => ""
  | null => "None"
  | text value => value
  | other pythonText _ => pythonText

/-- `result_json::jsonb ->> 'status'` -/
def ResultStatus.jsonText : ResultStatus → Option String
  | absent => none
  | null => none
  | text value => some value
  | other _ jsonText => some jsonText

/-- A stored run, with its creation time and its status as they are stored. -/
structure ListedRun where
  record : RunRecord
  createdAt : Datetime
  status : ResultStatus
  createdAt_eq : record.createdAt = createdAt.instant
  status_eq : record.resultStatus = status.str
  utc : createdAt.utcOffset = 0
  deriving DecidableEq

/-- `rebalance_run_id` -/
def ListedRun.id (run : ListedRun) : String := run.record.rebalanceRunId

/-- The runs of a store, by id. -/
structure RunInventory where
  runs : List ListedRun
  nodup : (runs.map ListedRun.id).Nodup

/-- `_RunListFilters` -/
structure RunListFilters where
  createdFrom : Option Datetime := none
  createdTo : Option Datetime := none
  status : Option String := none
  requestHash : Option String := none
  portfolioId : Option String := none

/-- The tenant of `list_runs_for_tenant`; `list_runs` has none. -/
def inScope (tenantId : Option String) (run : ListedRun) : Bool :=
  tenantId.all (fun tenant => run.record.tenantId == some tenant)

/-- `run_page`, which is also the end of `_cursor_page`: `none` is the `IndexError` of
`page[-1]`. -/
def runPage (runs : List ListedRun) (limit : Nat) :
    Option (List ListedRun × Option String) :=
  let page := runs.take limit
  if limit < runs.length then page.getLast?.map (fun last => (page, some last.id))
  else some (page, none)

/-! ## The in-memory listing -/

/-- `_optional_value_matches` -/
def optionalValueMatches (actual : String) (expected : Option String) : Bool :=
  expected.all (fun value => actual == value)

/-- `_run_matches_filters` -/
def runMatchesFilters (run : ListedRun) (filters : RunListFilters) : Bool :=
  filters.createdFrom.all (fun bound => decide (bound.instant ≤ run.createdAt.instant)) &&
    filters.createdTo.all (fun bound => decide (run.createdAt.instant ≤ bound.instant)) &&
    optionalValueMatches run.status.str filters.status &&
    optionalValueMatches run.record.requestHash filters.requestHash &&
    optionalValueMatches run.record.portfolioId filters.portfolioId

/-- The sort key `(created_at, rebalance_run_id)`, reversed. -/
def ListedRun.rank (run : ListedRun) : (Lex (Int × String))ᵒᵈ :=
  OrderDual.toDual (toLex (run.createdAt.instant, run.id))

/-- `_sorted_filtered_runs` -/
def sortedFilteredRuns (runs : List ListedRun) (filters : RunListFilters) : List ListedRun :=
  (runs.filter (fun run => runMatchesFilters run filters)).insertionSort
    (fun a b => a.rank ≤ b.rank)

/-- `_cursor_page` -/
def cursorPage (rows : List ListedRun) (limit : Nat) (cursor : Option String) :
    Option (List ListedRun × Option String) :=
  match cursor with
  | none => runPage rows limit
  | some cursor =>
    match rows.findIdx? (fun row => row.id == cursor) with
    | none => some ([], none)
    | some index => runPage (rows.drop (index + 1)) limit

/-- `list_runs` and `list_runs_for_tenant` of the in-memory repository. -/
def listRuns (tenantId : Option String) (runs : List ListedRun) (filters : RunListFilters)
    (limit : Nat) (cursor : Option String) : Option (List ListedRun × Option String) :=
  cursorPage (sortedFilteredRuns (runs.filter (inScope tenantId)) filters) limit cursor

/-! ## The query -/

/-- `_run_scalar_filter_query`: a comparison with `NULL` is not true. -/
def runScalarFilter (filters : RunListFilters) (run : ListedRun) : Bool :=
  filters.createdFrom.all (fun bound => decide (bound.isoformat ≤ run.createdAt.isoformat)) &&
    filters.createdTo.all (fun bound => decide (run.createdAt.isoformat ≤ bound.isoformat)) &&
    filters.portfolioId.all (fun value => run.record.portfolioId == value) &&
    filters.requestHash.all (fun value => run.record.requestHash == value) &&
    filters.status.all (fun value => run.status.jsonText == some value)

/-- `_run_cursor_filter_query`: the inner selections are over the whole table. -/
def runCursorFilter (runs : List ListedRun) (cursor : Option String) (run : ListedRun) : Bool :=
  cursor.all (fun cursor =>
    match runs.find? (fun row => row.id == cursor) with
    | none => false
    | some cursorRun =>
      decide (run.createdAt.isoformat < cursorRun.createdAt.isoformat) ||
        (run.createdAt.isoformat == cursorRun.createdAt.isoformat && decide (run.id < cursor)))

/-- `ORDER BY created_at DESC, rebalance_run_id DESC` -/
def ListedRun.textRank (run : ListedRun) : (Lex (String × String))ᵒᵈ :=
  OrderDual.toDual (toLex (run.createdAt.isoformat, run.id))

/-- `list_runs_for_tenant` looks whether the cursor is a run of the tenant. -/
def cursorOfTenant (tenantId : Option String) (runs : List ListedRun) (cursor : Option String) :
    Bool :=
  tenantId.all (fun tenant => cursor.all (fun cursor =>
    runs.any (fun run => run.record.tenantId == some tenant && run.id == cursor)))

/-- `list_runs` and `list_runs_for_tenant` of the PostgreSQL repository. -/
def listRunsQuery (tenantId : Option String) (runs : List ListedRun) (filters : RunListFilters)
    (limit : Nat) (cursor : Option String) : Option (List ListedRun × Option String) :=
  if !cursorOfTenant tenantId runs cursor then some ([], none)
  else
    let selected := runs.filter (fun run =>
      inScope tenantId run && runScalarFilter filters run && runCursorFilter runs cursor run)
    runPage ((selected.insertionSort (fun a b => a.textRank ≤ b.textRank)).take (limit + 1)) limit

/-! ## What each listing selects -/

/-- The runs of the in-memory listing: those that match, after the cursor when it matches too. -/
def memorySelects (tenantId : Option String) (runs : List ListedRun) (filters : RunListFilters)
    (cursor : Option String) (run : ListedRun) : Bool :=
  inScope tenantId run && runMatchesFilters run filters &&
    cursor.all (fun cursor => runs.any (fun row =>
      inScope tenantId row && runMatchesFilters row filters && row.id == cursor &&
        decide (row.rank < run.rank)))

/-- The runs of the query. -/
def querySelects (tenantId : Option String) (runs : List ListedRun) (filters : RunListFilters)
    (cursor : Option String) (run : ListedRun) : Bool :=
  cursorOfTenant tenantId runs cursor &&
    (inScope tenantId run && runScalarFilter filters run && runCursorFilter runs cursor run)

variable {tenantId : Option String} {filters : RunListFilters} {limit : Nat}
  {cursor : Option String} {runs : List ListedRun}

variable {a b run cursorRun : ListedRun}

theorem ListedRun.rank_inj (h : a.rank = b.rank) : a.id = b.id :=
  congrArg (fun rank => (ofLex (OrderDual.ofDual rank)).2) h

theorem nodup_rank (hnodup : (runs.map ListedRun.id).Nodup) : (runs.map ListedRun.rank).Nodup := by
  rw [List.Nodup, List.pairwise_map] at hnodup ⊢
  exact hnodup.imp (fun hne heq => hne (ListedRun.rank_inj heq))

theorem textRank_le_iff (a b : ListedRun) : a.textRank ≤ b.textRank ↔ a.rank ≤ b.rank := by
  unfold ListedRun.textRank ListedRun.rank
  rw [OrderDual.toDual_le_toDual, OrderDual.toDual_le_toDual, Prod.Lex.toLex_le_toLex,
    Prod.Lex.toLex_le_toLex]
  dsimp only
  rw [Datetime.isoformat_lt_iff b.utc a.utc, Datetime.isoformat_eq_iff b.utc a.utc]

theorem runPage_eq_iff {first second : List ListedRun} :
    runPage first limit = runPage second limit ↔
      first.take limit = second.take limit ∧ (limit < first.length ↔ limit < second.length) := by
  unfold runPage
  dsimp only
  constructor
  · intro h
    by_cases hfirst : limit < first.length
    · by_cases hsecond : limit < second.length
      · rw [if_pos hfirst, if_pos hsecond] at h
        refine ⟨?_, iff_of_true hfirst hsecond⟩
        cases hlast : (first.take limit).getLast? with
        | none =>
          rw [hlast, Option.map_none, eq_comm, Option.map_eq_none_iff] at h
          rw [List.getLast?_eq_none_iff.mp hlast, List.getLast?_eq_none_iff.mp h]
        | some last =>
          rw [hlast, Option.map_some, eq_comm, Option.map_eq_some_iff] at h
          obtain ⟨last', _, h⟩ := h
          exact (congrArg Prod.fst h).symm
      · rw [if_pos hfirst, if_neg hsecond, Option.map_eq_some_iff] at h
        obtain ⟨last, _, h⟩ := h
        cases congrArg Prod.snd h
    · by_cases hsecond : limit < second.length
      · rw [if_neg hfirst, if_pos hsecond, eq_comm, Option.map_eq_some_iff] at h
        obtain ⟨last, _, h⟩ := h
        cases congrArg Prod.snd h
      · rw [if_neg hfirst, if_neg hsecond, Option.some.injEq, Prod.mk.injEq] at h
        exact ⟨h.1, iff_of_false hfirst hsecond⟩
  · rintro ⟨htake, hmore⟩
    rw [htake]
    by_cases hfirst : limit < first.length
    · rw [if_pos hfirst, if_pos (hmore.mp hfirst)]
    · rw [if_neg hfirst, if_neg (fun h => hfirst (hmore.mpr h))]

theorem runPage_take_succ (rows : List ListedRun) :
    runPage (rows.take (limit + 1)) limit = runPage rows limit := by
  rw [runPage_eq_iff, List.take_take, List.length_take, Nat.min_eq_left (Nat.le_succ limit)]
  exact ⟨rfl, by omega⟩

theorem runPage_nil (limit : Nat) : runPage [] limit = some ([], none) := by
  unfold runPage
  rw [List.take_nil]
  rfl

/-! ## Each listing is the page of its selection -/

/-- The runs of a store, newest first. -/
def newestFirst (runs : List ListedRun) : List ListedRun :=
  runs.insertionSort (fun a b => a.rank ≤ b.rank)

theorem filter_newestFirst (hnodup : (runs.map ListedRun.id).Nodup) (p : ListedRun → Bool) :
    (newestFirst runs).filter p = (runs.filter p).insertionSort (fun a b => a.rank ≤ b.rank) :=
  filter_insertionSort (nodup_rank hnodup) p

theorem mem_newestFirst : run ∈ newestFirst runs ↔ run ∈ runs :=
  List.mem_insertionSort _

theorem newestFirst_sorted (hnodup : (runs.map ListedRun.id).Nodup) :
    (newestFirst runs).Pairwise (fun a b => a.rank < b.rank) :=
  pairwise_lt_insertionSort (nodup_rank hnodup)

theorem nodup_newestFirst (hnodup : (runs.map ListedRun.id).Nodup) : (newestFirst runs).Nodup :=
  (newestFirst_sorted hnodup).imp (fun h heq => absurd (congrArg ListedRun.rank heq) h.ne)

theorem eq_of_id (hnodup : (runs.map ListedRun.id).Nodup) (ha : a ∈ runs) (hb : b ∈ runs)
    (h : a.id = b.id) : a = b :=
  List.inj_on_of_nodup_map hnodup ha hb h

theorem memorySelects_of_cursor (hnodup : (runs.map ListedRun.id).Nodup)
    (hcursor : cursorRun ∈ runs)
    (hmatches : inScope tenantId cursorRun = true ∧ runMatchesFilters cursorRun filters = true) :
    memorySelects tenantId runs filters (some cursorRun.id) run =
      (inScope tenantId run && runMatchesFilters run filters &&
        decide (cursorRun.rank < run.rank)) := by
  unfold memorySelects
  rw [Option.all_some]
  congr 1
  rw [Bool.eq_iff_iff, List.any_eq_true, decide_eq_true_iff]
  constructor
  · rintro ⟨row, hrow, hselected⟩
    rw [Bool.and_eq_true, Bool.and_eq_true, beq_iff_eq, decide_eq_true_iff] at hselected
    rw [← eq_of_id hnodup hrow hcursor hselected.1.2]
    exact hselected.2
  · intro hlt
    refine ⟨cursorRun, hcursor, ?_⟩
    rw [Bool.and_eq_true, Bool.and_eq_true, Bool.and_eq_true, beq_iff_eq, decide_eq_true_iff]
    exact ⟨⟨hmatches, rfl⟩, hlt⟩

theorem listRuns_eq (hnodup : (runs.map ListedRun.id).Nodup) :
    listRuns tenantId runs filters limit cursor =
      runPage ((newestFirst runs).filter (memorySelects tenantId runs filters cursor)) limit := by
  have hrows : sortedFilteredRuns (runs.filter (inScope tenantId)) filters =
      (newestFirst runs).filter
        (fun run => inScope tenantId run && runMatchesFilters run filters) := by
    unfold sortedFilteredRuns
    rw [filter_newestFirst hnodup, List.filter_filter]
    congr 2
    funext run
    exact Bool.and_comm _ _
  unfold listRuns cursorPage
  rw [hrows]
  cases cursor with
  | none =>
    dsimp only
    congr 2
    funext run
    unfold memorySelects
    rw [Option.all_none, Bool.and_true]
  | some cursor =>
    dsimp only
    cases hindex : List.findIdx? (fun row => row.id == cursor) ((newestFirst runs).filter
        (fun run => inScope tenantId run && runMatchesFilters run filters)) with
    | none =>
      -- no matching run has this id, so none is selected
      dsimp only
      rw [← runPage_nil limit, eq_comm]
      congr 1
      rw [List.filter_eq_nil_iff]
      intro run _ hselected
      unfold memorySelects at hselected
      rw [Bool.and_eq_true, Option.all_some, List.any_eq_true] at hselected
      obtain ⟨_, row, hrow, hcursor⟩ := hselected
      rw [Bool.and_eq_true, Bool.and_eq_true] at hcursor
      have hmem : row ∈ (newestFirst runs).filter
          (fun run => inScope tenantId run && runMatchesFilters run filters) :=
        List.mem_filter.mpr ⟨mem_newestFirst.mpr hrow, hcursor.1.1⟩
      have hnone := List.findIdx?_eq_none_iff.mp hindex row hmem
      rw [hcursor.1.2] at hnone
      cases hnone
    | some index =>
      dsimp only
      obtain ⟨hlt, hid, _⟩ := List.findIdx?_eq_some_iff_getElem.mp hindex
      have hget := List.getElem?_eq_getElem hlt
      have hmem := List.mem_filter.mp (List.mem_of_getElem? hget)
      generalize ((newestFirst runs).filter
        (fun run => inScope tenantId run && runMatchesFilters run filters))[index] = cursorRun at *
      rw [beq_iff_eq] at hid
      subst hid
      rw [Pages.drop_succ_eq_filter ((newestFirst_sorted hnodup).filter _) hget, List.filter_filter]
      congr 2
      funext run
      rw [memorySelects_of_cursor hnodup (mem_newestFirst.mp hmem.1)
        (Bool.and_eq_true_iff.mp hmem.2)]
      exact Bool.and_comm _ _

theorem listRunsQuery_eq (hnodup : (runs.map ListedRun.id).Nodup) :
    listRunsQuery tenantId runs filters limit cursor =
      runPage ((newestFirst runs).filter (querySelects tenantId runs filters cursor)) limit := by
  unfold listRunsQuery
  cases htenant : cursorOfTenant tenantId runs cursor with
  | false =>
    rw [if_pos (by decide), ← runPage_nil limit, eq_comm]
    congr 1
    rw [List.filter_eq_nil_iff]
    intro run _ hselected
    unfold querySelects at hselected
    rw [htenant] at hselected
    cases hselected
  | true =>
    rw [if_neg (by decide), runPage_take_succ]
    congr 1
    rw [filter_newestFirst hnodup]
    have hsame : ∀ rows : List ListedRun, rows.insertionSort (fun a b => a.textRank ≤ b.textRank) =
        rows.insertionSort (fun a b => a.rank ≤ b.rank) := by
      intro rows
      refine insertionSort_congr (List.pairwise_of_forall ?_)
      intro a b
      exact textRank_le_iff a b
    rw [hsame]
    congr 2
    funext run
    unfold querySelects
    rw [htenant, Bool.true_and]

/-! ## When the listings agree -/

/-- What both stores test alike: the tenant, the request hash and the portfolio. -/
def sharedMatch (tenantId : Option String) (filters : RunListFilters) (run : ListedRun) : Bool :=
  inScope tenantId run && optionalValueMatches run.record.requestHash filters.requestHash &&
    optionalValueMatches run.record.portfolioId filters.portfolioId

/-- The run is within the instants of the bounds, and its status is the text of the filter. -/
def readByInstant (filters : RunListFilters) (run : ListedRun) : Bool :=
  filters.createdFrom.all (fun bound => decide (bound.instant ≤ run.createdAt.instant)) &&
    filters.createdTo.all (fun bound => decide (run.createdAt.instant ≤ bound.instant)) &&
    optionalValueMatches run.status.str filters.status

/-- The run is within what the clocks of the bounds show, read in UTC, and its status is the JSON
text of the filter.  A run created at the very reading of a lower bound counts when the bound is in
UTC. -/
def readByClock (filters : RunListFilters) (run : ListedRun) : Bool :=
  filters.createdFrom.all (fun bound => decide (bound.localMicroseconds < run.createdAt.instant ∨
      bound.localMicroseconds = run.createdAt.instant ∧ bound.utcOffset = 0)) &&
    filters.createdTo.all (fun bound => decide (run.createdAt.instant ≤ bound.localMicroseconds)) &&
    filters.status.all (fun value => run.status.jsonText == some value)

/-- The run is older than the cursor, which is a stored run. -/
def behindCursor (runs : List ListedRun) (cursor : Option String) (run : ListedRun) : Bool :=
  cursor.all (fun cursor =>
    runs.any (fun row => row.id == cursor && decide (row.rank < run.rank)))

/-- The cursor is a stored run that matches in memory. -/
def cursorMatches (tenantId : Option String) (runs : List ListedRun) (filters : RunListFilters)
    (cursor : Option String) : Bool :=
  cursor.all (fun cursor =>
    runs.any (fun row => row.id == cursor && (sharedMatch tenantId filters row &&
      readByInstant filters row)))

/-- Behind a cursor that matches, the first runs that instants or clocks let in are let in by both,
and of the rest both let in one or neither does.  Behind a cursor of the tenant that does not match,
clocks let in nothing. -/
def ListedAlike (tenantId : Option String) (runs : List ListedRun) (filters : RunListFilters)
    (limit : Nat) (cursor : Option String) : Prop :=
  let behind := (newestFirst runs).filter (fun run =>
    sharedMatch tenantId filters run && behindCursor runs cursor run)
  if cursorMatches tenantId runs filters cursor then
    let read := behind.filter (fun run => readByInstant filters run || readByClock filters run)
    (∀ run ∈ read.take limit, readByInstant filters run = true ∧ readByClock filters run = true) ∧
      ((∃ run ∈ read.drop limit, readByInstant filters run = true) ↔
        ∃ run ∈ read.drop limit, readByClock filters run = true)
  else
    cursorOfTenant tenantId runs cursor = true → ∀ run ∈ behind, readByClock filters run = false

/-- The bounds are in UTC, a status filter meets only statuses that are texts, and a cursor that is a
run of the tenant matches. -/
structure PlainListing (tenantId : Option String) (runs : List ListedRun)
    (filters : RunListFilters) (cursor : Option String) : Prop where
  createdFrom : ∀ bound, filters.createdFrom = some bound → bound.utcOffset = 0
  createdTo : ∀ bound, filters.createdTo = some bound → bound.utcOffset = 0
  status : filters.status = none ∨ ∀ run ∈ runs, ∃ value, run.status = .text value
  cursor : ∀ run ∈ runs, cursor = some run.id → inScope tenantId run = true →
    sharedMatch tenantId filters run = true ∧ readByInstant filters run = true

theorem cursorOfTenant_none (tenantId : Option String) (runs : List ListedRun) :
    cursorOfTenant tenantId runs none = true := by
  cases tenantId with
  | none | some => rfl

theorem cursorOfTenant_of_mem (hcursor : cursorRun ∈ runs)
    (hscope : inScope tenantId cursorRun = true) :
    cursorOfTenant tenantId runs (some cursorRun.id) = true := by
  unfold cursorOfTenant
  cases tenantId with
  | none => rfl
  | some tenant =>
    rw [Option.all_some, Option.all_some, List.any_eq_true]
    refine ⟨cursorRun, hcursor, ?_⟩
    rw [Bool.and_eq_true, beq_iff_eq (b := cursorRun.id)]
    exact ⟨hscope, rfl⟩

theorem runCursorFilter_eq (hnodup : (runs.map ListedRun.id).Nodup) (hcursor : cursorRun ∈ runs)
    (run : ListedRun) :
    runCursorFilter runs (some cursorRun.id) run = decide (cursorRun.rank < run.rank) := by
  have hfind : runs.find? (fun row => row.id == cursorRun.id) = some cursorRun := by
    cases hfound : runs.find? (fun row => row.id == cursorRun.id) with
    | none =>
      have hnot := List.find?_eq_none.mp hfound cursorRun hcursor
      rw [beq_iff_eq] at hnot
      exact absurd rfl hnot
    | some row =>
      have hid := List.find?_some hfound
      rw [beq_iff_eq] at hid
      rw [eq_of_id hnodup (List.mem_of_find?_eq_some hfound) hcursor hid]
  unfold runCursorFilter
  rw [Option.all_some, hfind]
  dsimp only
  rw [Bool.eq_iff_iff, Bool.or_eq_true, Bool.and_eq_true, decide_eq_true_iff, decide_eq_true_iff,
    decide_eq_true_iff, beq_iff_eq, Datetime.isoformat_lt_iff run.utc cursorRun.utc,
    Datetime.isoformat_eq_iff run.utc cursorRun.utc]
  unfold ListedRun.rank
  rw [OrderDual.toDual_lt_toDual, Prod.Lex.toLex_lt_toLex]

theorem runMatchesFilters_eq (tenantId : Option String) (filters : RunListFilters)
    (run : ListedRun) : (inScope tenantId run && runMatchesFilters run filters) =
      (sharedMatch tenantId filters run && readByInstant filters run) := by
  unfold runMatchesFilters sharedMatch readByInstant
  ac_rfl

theorem runScalarFilter_eq (tenantId : Option String) (filters : RunListFilters)
    (run : ListedRun) : (inScope tenantId run && runScalarFilter filters run) =
      (sharedMatch tenantId filters run && readByClock filters run) := by
  have hfrom : ∀ bound : Datetime, (bound.isoformat ≤ run.createdAt.isoformat ↔
      (bound.localMicroseconds : Int) < run.createdAt.instant ∨
        bound.localMicroseconds = run.createdAt.instant ∧ bound.utcOffset = 0) :=
    fun bound => Datetime.isoformat_le_utc_iff run.utc
  have hto : ∀ bound : Datetime, (run.createdAt.isoformat ≤ bound.isoformat ↔
      run.createdAt.instant ≤ bound.localMicroseconds) :=
    fun bound => Datetime.utc_le_isoformat_iff run.utc
  unfold runScalarFilter sharedMatch readByClock optionalValueMatches
  simp only [hfrom, hto]
  ac_rfl

theorem behindCursor_of_mem (hnodup : (runs.map ListedRun.id).Nodup) (hcursor : cursorRun ∈ runs)
    (run : ListedRun) :
    behindCursor runs (some cursorRun.id) run = decide (cursorRun.rank < run.rank) := by
  unfold behindCursor
  rw [Option.all_some, Bool.eq_iff_iff, List.any_eq_true, decide_eq_true_iff]
  constructor
  · rintro ⟨row, hrow, hrest⟩
    rw [Bool.and_eq_true, beq_iff_eq, decide_eq_true_iff] at hrest
    rw [← eq_of_id hnodup hrow hcursor hrest.1]
    exact hrest.2
  · intro hlt
    refine ⟨cursorRun, hcursor, ?_⟩
    rw [Bool.and_eq_true, beq_iff_eq, decide_eq_true_iff]
    exact ⟨rfl, hlt⟩

theorem memorySelects_eq (hnodup : (runs.map ListedRun.id).Nodup) (run : ListedRun) :
    memorySelects tenantId runs filters cursor run =
      (cursorMatches tenantId runs filters cursor &&
        (readByInstant filters run &&
          (sharedMatch tenantId filters run && behindCursor runs cursor run))) := by
  have hcursor : cursor.all (fun cursor => runs.any (fun row => inScope tenantId row &&
      runMatchesFilters row filters && row.id == cursor && decide (row.rank < run.rank))) =
        (cursorMatches tenantId runs filters cursor && behindCursor runs cursor run) := by
    cases cursor with
    | none => rfl
    | some cursor =>
      unfold cursorMatches behindCursor
      simp only [Option.all_some, runMatchesFilters_eq]
      rw [Bool.eq_iff_iff, Bool.and_eq_true, List.any_eq_true, List.any_eq_true, List.any_eq_true]
      constructor
      · rintro ⟨row, hrow, hselected⟩
        rw [Bool.and_eq_true, Bool.and_eq_true] at hselected
        obtain ⟨⟨hmatches, hid⟩, hlt⟩ := hselected
        exact ⟨⟨row, hrow, Bool.and_eq_true_iff.mpr ⟨hid, hmatches⟩⟩,
          ⟨row, hrow, Bool.and_eq_true_iff.mpr ⟨hid, hlt⟩⟩⟩
      · rintro ⟨⟨row, hrow, hmatches⟩, ⟨row', hrow', hlt⟩⟩
        obtain ⟨hid, hmatches⟩ := Bool.and_eq_true_iff.mp hmatches
        obtain ⟨hid', hlt⟩ := Bool.and_eq_true_iff.mp hlt
        obtain rfl := eq_of_id hnodup hrow hrow'
          ((beq_iff_eq.mp hid).trans (beq_iff_eq.mp hid').symm)
        exact ⟨row, hrow, Bool.and_eq_true_iff.mpr
          ⟨Bool.and_eq_true_iff.mpr ⟨hmatches, hid⟩, hlt⟩⟩
  rw [memorySelects, hcursor, runMatchesFilters_eq]
  ac_rfl

theorem runCursorFilter_eq_behindCursor (hnodup : (runs.map ListedRun.id).Nodup)
    (run : ListedRun) : runCursorFilter runs cursor run = behindCursor runs cursor run := by
  cases cursor with
  | none => rfl
  | some cursor =>
    cases hfind : runs.find? (fun row => row.id == cursor) with
    | some cursorRun =>
      have hid := List.find?_some hfind
      rw [beq_iff_eq] at hid
      rw [← hid, runCursorFilter_eq hnodup (List.mem_of_find?_eq_some hfind),
        behindCursor_of_mem hnodup (List.mem_of_find?_eq_some hfind)]
    | none =>
      unfold runCursorFilter behindCursor
      rw [Option.all_some, Option.all_some, hfind, eq_comm, List.any_eq_false]
      intro row hrow hbehind
      exact List.find?_eq_none.mp hfind row hrow (Bool.and_eq_true_iff.mp hbehind).1

theorem querySelects_eq (hnodup : (runs.map ListedRun.id).Nodup) (run : ListedRun) :
    querySelects tenantId runs filters cursor run =
      (cursorOfTenant tenantId runs cursor &&
        (readByClock filters run &&
          (sharedMatch tenantId filters run && behindCursor runs cursor run))) := by
  rw [querySelects, runScalarFilter_eq, runCursorFilter_eq_behindCursor hnodup]
  ac_rfl

theorem cursorOfTenant_of_matches (h : cursorMatches tenantId runs filters cursor = true) :
    cursorOfTenant tenantId runs cursor = true := by
  cases cursor with
  | none => exact cursorOfTenant_none tenantId runs
  | some cursor =>
    unfold cursorMatches at h
    rw [Option.all_some, List.any_eq_true] at h
    obtain ⟨row, hrow, hrest⟩ := h
    obtain ⟨hid, hmatches⟩ := Bool.and_eq_true_iff.mp hrest
    rw [← beq_iff_eq.mp hid]
    refine cursorOfTenant_of_mem hrow ?_
    unfold sharedMatch at hmatches
    rw [Bool.and_eq_true, Bool.and_eq_true, Bool.and_eq_true] at hmatches
    exact hmatches.1.1.1

theorem PlainListing.readByInstant_eq (h : PlainListing tenantId runs filters cursor)
    (hrun : run ∈ runs) : readByInstant filters run = readByClock filters run := by
  unfold readByInstant readByClock
  congr 1
  · congr 1
    · cases hfrom : filters.createdFrom with
      | none => rfl
      | some bound =>
        have hutc := h.createdFrom bound hfrom
        rw [Option.all_some, Option.all_some, decide_eq_decide, Datetime.instant_utc hutc,
          le_iff_lt_or_eq]
        simp only [hutc, and_true]
    · cases hto : filters.createdTo with
      | none => rfl
      | some bound =>
        rw [Option.all_some, Option.all_some, Datetime.instant_utc (h.createdTo bound hto)]
  · unfold optionalValueMatches
    rcases h.status with hnone | htexts
    · rw [hnone]
      rfl
    · obtain ⟨value, hvalue⟩ := htexts run hrun
      rw [hvalue]
      congr 1

/-- A cursor of the tenant with a run behind it is a stored run, so it matches. -/
theorem PlainListing.cursorMatches (h : PlainListing tenantId runs filters cursor)
    (howned : cursorOfTenant tenantId runs cursor = true)
    (hbehind : behindCursor runs cursor run = true) :
    cursorMatches tenantId runs filters cursor = true := by
  cases cursor with
  | none => rfl
  | some cursor =>
    obtain ⟨row, hrow, hid, hscope⟩ : ∃ row ∈ runs, row.id = cursor ∧
        inScope tenantId row = true := by
      cases tenantId with
      | none =>
        rw [behindCursor, Option.all_some, List.any_eq_true] at hbehind
        obtain ⟨row, hrow, hrest⟩ := hbehind
        exact ⟨row, hrow, beq_iff_eq.mp (Bool.and_eq_true_iff.mp hrest).1, rfl⟩
      | some tenant =>
        rw [cursorOfTenant, Option.all_some, Option.all_some, List.any_eq_true] at howned
        obtain ⟨row, hrow, hrest⟩ := howned
        obtain ⟨htenant, hid⟩ := Bool.and_eq_true_iff.mp hrest
        exact ⟨row, hrow, beq_iff_eq.mp hid, htenant⟩
    obtain ⟨hshared, hread⟩ := h.cursor row hrow (by rw [hid]) hscope
    unfold RebalanceRuns.cursorMatches
    rw [Option.all_some, List.any_eq_true]
    exact ⟨row, hrow, Bool.and_eq_true_iff.mpr ⟨beq_iff_eq.mpr hid,
      Bool.and_eq_true_iff.mpr ⟨hshared, hread⟩⟩⟩

theorem PlainListing.listedAlike (h : PlainListing tenantId runs filters cursor) :
    ListedAlike tenantId runs filters limit cursor := by
  have hsame : ∀ run ∈ (newestFirst runs).filter (fun run =>
      sharedMatch tenantId filters run && behindCursor runs cursor run),
      readByInstant filters run = readByClock filters run :=
    fun run hmem => h.readByInstant_eq (mem_newestFirst.mp (List.mem_filter.mp hmem).1)
  unfold ListedAlike
  dsimp only
  split
  · constructor
    · intro run hmem
      obtain ⟨hrun, hread⟩ := List.mem_filter.mp (List.mem_of_mem_take hmem)
      rw [hsame run hrun, Bool.or_self] at hread
      exact ⟨(hsame run hrun).trans hread, hread⟩
    · refine exists_congr fun run => and_congr_right fun hmem => ?_
      rw [hsame run (List.mem_filter.mp (List.mem_of_mem_drop hmem)).1]
  · rename_i hunmatched
    intro howned run hmem
    have hbehind := (Bool.and_eq_true_iff.mp (List.mem_filter.mp hmem).2).2
    exact absurd (h.cursorMatches howned hbehind) hunmatched

theorem filter_page_nil {rows : List ListedRun} {p : ListedRun → Bool} :
    (([] : List ListedRun).take limit = (rows.filter p).take limit ∧
      (limit < ([] : List ListedRun).length ↔ limit < (rows.filter p).length)) ↔
        ∀ run ∈ rows, p run = false := by
  rw [List.take_nil, List.length_nil]
  constructor
  · rintro ⟨htake, hmore⟩ run hrun
    have hnil : rows.filter p = [] := by
      rcases List.take_eq_nil_iff.mp htake.symm with hzero | hnil
      · rw [← List.length_eq_zero_iff]
        omega
      · exact hnil
    have := List.filter_eq_nil_iff.mp hnil run hrun
    simpa using this
  · intro hnone
    rw [List.filter_eq_nil_iff.mpr fun run hrun => by simp [hnone run hrun], List.take_nil,
      List.length_nil]
    exact ⟨rfl, Iff.rfl⟩

theorem filter_either (rows : List ListedRun) (p q : ListedRun → Bool) :
    (rows.filter (fun run => p run || q run)).filter p = rows.filter p ∧
      (rows.filter (fun run => p run || q run)).filter q = rows.filter q := by
  have habsorb : ∀ a b : Bool, (a && (a || b)) = a := by decide
  have habsorb' : ∀ a b : Bool, (b && (a || b)) = b := by decide
  simp only [List.filter_filter, habsorb, habsorb', and_self]

/-- The two stores list alike exactly when clocks let in what instants do, page by page.  They do so
for every limit when the bounds are in UTC, the statuses texts, and a cursor of the tenant matches. -/
theorem run_listing_agrees_iff (tenantId : Option String) (inventory : RunInventory)
    (filters : RunListFilters) (limit : Nat) (cursor : Option String) :
    (listRuns tenantId inventory.runs filters limit cursor =
        listRunsQuery tenantId inventory.runs filters limit cursor ↔
      ListedAlike tenantId inventory.runs filters limit cursor) ∧
    (PlainListing tenantId inventory.runs filters cursor →
      listRuns tenantId inventory.runs filters limit cursor =
        listRunsQuery tenantId inventory.runs filters limit cursor) := by
  have hnodup := inventory.nodup
  have hiff : listRuns tenantId inventory.runs filters limit cursor =
        listRunsQuery tenantId inventory.runs filters limit cursor ↔
      ListedAlike tenantId inventory.runs filters limit cursor := by
    rw [listRuns_eq hnodup, listRunsQuery_eq hnodup, runPage_eq_iff,
      funext (memorySelects_eq hnodup), funext (querySelects_eq hnodup)]
    have hbehind : ∀ p : ListedRun → Bool, (newestFirst inventory.runs).filter (fun run => p run &&
        (sharedMatch tenantId filters run && behindCursor inventory.runs cursor run)) =
          ((newestFirst inventory.runs).filter (fun run => sharedMatch tenantId filters run &&
            behindCursor inventory.runs cursor run)).filter p :=
      fun p => List.filter_filter.symm
    unfold ListedAlike
    dsimp only
    cases hmatches : cursorMatches tenantId inventory.runs filters cursor with
    | true =>
      rw [if_pos rfl, cursorOfTenant_of_matches hmatches]
      simp only [Bool.true_and]
      rw [hbehind, hbehind, ← Pages.page_filter_iff]
      · rw [(filter_either _ (readByInstant filters) (readByClock filters)).1,
          (filter_either _ (readByInstant filters) (readByClock filters)).2]
      · exact ((nodup_newestFirst hnodup).filter _).filter _
      · intro run hrun
        exact Bool.or_eq_true_iff.mp (List.mem_filter.mp hrun).2
    | false =>
      rw [if_neg (by decide)]
      simp only [Bool.false_and]
      rw [List.filter_false]
      cases cursorOfTenant tenantId inventory.runs cursor with
      | true =>
        simp only [Bool.true_and, forall_const]
        rw [hbehind]
        exact filter_page_nil
      | false =>
        simp only [Bool.false_and]
        rw [List.filter_false]
        simp
  exact ⟨hiff, fun hplain => hiff.mpr hplain.listedAlike⟩

/-- A run that was created at 02:00 UTC. -/
def sampleListedRun : ListedRun where
  record :=
    { tenantId := some "tenant_001"
      rebalanceRunId := "rr_abc12345"
      correlationId := "corr-1234-abcd"
      requestHash := "sha256:abc123"
      portfolioId := "pf_123"
      createdAt := Datetime.instant
        { year := 2026, month := 5, day := 3, hour := 2
          year_bounds := year_2026, month_bounds := month_may, day_bounds := day_3_may }
      resultStatus := "READY"
      resultJson := "\x7b\"status\": \"READY\"\x7d" }
  createdAt :=
    { year := 2026, month := 5, day := 3, hour := 2
      year_bounds := year_2026, month_bounds := month_may, day_bounds := day_3_may }
  status := .text "READY"
  createdAt_eq := rfl
  status_eq := rfl
  utc := rfl

/-- The only run of a store. -/
def sampleInventory : RunInventory := ⟨[sampleListedRun], List.nodup_singleton _⟩

/-- From 09:00 in Singapore on, which is 01:00 UTC. -/
def fromSingaporeMorning : RunListFilters :=
  { createdFrom :=
      some
        { year := 2026, month := 5, day := 3, hour := 9, utcOffset := 28800000000
          year_bounds := year_2026, month_bounds := month_may, day_bounds := day_3_may } }

-- the text "2026-05-03T02:00:00+00:00" comes before "2026-05-03T09:00:00+08:00"
theorem run_missing_from_query :
    listRuns (some "tenant_001") sampleInventory.runs fromSingaporeMorning 50 none =
      some ([sampleListedRun], none) ∧
    listRunsQuery (some "tenant_001") sampleInventory.runs fromSingaporeMorning 50 none =
      some ([], none) := by
  decide +kernel

/-- From 01:00 UTC on. -/
def fromNight : RunListFilters :=
  { createdFrom :=
      some
        { year := 2026, month := 5, day := 3, hour := 1
          year_bounds := year_2026, month_bounds := month_may, day_bounds := day_3_may } }

/-- With the same bound in UTC the query lists the run too. -/
theorem run_listed_by_query :
    listRunsQuery (some "tenant_001") sampleInventory.runs fromNight 50 none =
      some ([sampleListedRun], none) := by
  have hplain : PlainListing (some "tenant_001") sampleInventory.runs fromNight none :=
    { createdFrom := fun _ hbound => by
        cases hbound
        rfl
      createdTo := fun _ hbound => by cases hbound
      status := Or.inl rfl
      cursor := fun _ _ hcursor => by cases hcursor }
  rw [← (run_listing_agrees_iff _ sampleInventory fromNight 50 none).2 hplain]
  decide +kernel

end LotusManage.RebalanceRuns
