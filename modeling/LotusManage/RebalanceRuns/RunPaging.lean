import LotusManage.RebalanceRuns.RunListing

/-!
# Walks through the listing

A reader of `list_runs` asks for the next page with the `next_cursor` of the page before, until there is
none.  The cursor is the last run of the page, and both stores answer with the matching runs after it
(`listRuns_keyset`, `listRunsQuery_keyset`), so that a walk reads every run once whatever is inserted on
the way (`run_paging_enumerates`).
-/

namespace LotusManage.RebalanceRuns

variable (tenantId : Option String) (filters : RunListFilters) (limit : Nat)

/-- The runs that match in the in-memory repository. -/
def memoryMatches (run : ListedRun) : Bool := inScope tenantId run && runMatchesFilters run filters

/-- The runs that match in the query. -/
def queryMatches (run : ListedRun) : Bool := inScope tenantId run && runScalarFilter filters run

/-- Following `next_cursor` reads the matching runs, newest first.  When runs are inserted on the way,
from any cursor on, it still ends; it reads newest first, each run once, and of the runs that were there
exactly the matching ones after the cursor. -/
def Enumerates (matchesFilters : ListedRun → Bool)
    (list : List ListedRun → Option String → Option (List ListedRun × Option String)) : Prop :=
  (∀ inventory : RunInventory,
    Pages.walk list (inventory.runs.length + 1) [] inventory.runs none =
      some ((newestFirst inventory.runs).filter matchesFilters)) ∧
  ∀ (inventory : RunInventory) (runs : List ListedRun) (arrivals : List (List ListedRun))
    (cursor : Option ListedRun), inventory.runs = runs ++ arrivals.flatten →
    (∀ c ∈ cursor, c ∈ runs ∧ matchesFilters c = true) →
    ∃ read, Pages.walk list (inventory.runs.length + 1) arrivals runs (cursor.map ListedRun.id) =
        some read ∧
      read.Pairwise (fun a b => a.rank < b.rank) ∧
      (∀ run ∈ read, run ∈ inventory.runs ∧ matchesFilters run = true) ∧
      read.filter (· ∈ runs) =
        (newestFirst runs).filter (Pages.selectsAfter ListedRun.rank matchesFilters cursor)

variable {tenantId filters limit}

theorem remaining_eq {runs : List ListedRun} (hnodup : (runs.map ListedRun.id).Nodup)
    (matchesFilters : ListedRun → Bool) (cursor : Option ListedRun) :
    Pages.remaining ListedRun.rank matchesFilters runs cursor =
      (newestFirst runs).filter (Pages.selectsAfter ListedRun.rank matchesFilters cursor) :=
  (filter_newestFirst hnodup _).symm

theorem enumerates_of_keyset {matchesFilters : ListedRun → Bool}
    {list : List ListedRun → Option String → Option (List ListedRun × Option String)}
    (hlimit : 1 ≤ limit)
    (h : Pages.Keyset ListedRun.rank ListedRun.id matchesFilters limit list) :
    Enumerates matchesFilters list := by
  refine ⟨?_, ?_⟩
  · intro inventory
    have hall : inventory.runs ++ ([] : List (List ListedRun)).flatten = inventory.runs :=
      List.append_nil _
    have hnodup := inventory.nodup
    rw [← hall] at hnodup
    obtain ⟨read, hread, _, hmem, hfilter⟩ :=
      Pages.walk_filter h (fun _ _ => ListedRun.rank_inj) hlimit hnodup
        (fun c (hc : c ∈ none) => by cases hc) (Nat.lt_succ_self _)
    rw [hall, Option.map_none] at hread
    rw [remaining_eq inventory.nodup, Pages.selectsAfter_none, List.filter_eq_self.mpr] at hfilter
    · rw [hread, hfilter]
    · intro run hrun
      rw [← hall]
      exact decide_eq_true (hmem run hrun).1
  · intro inventory runs arrivals cursor hstored hcursor
    have hnodup := inventory.nodup
    rw [hstored] at hnodup ⊢
    have hnow : (runs.map ListedRun.id).Nodup := by
      rw [List.map_append] at hnodup
      exact (List.nodup_append.mp hnodup).1
    rw [← remaining_eq hnow]
    exact Pages.walk_filter h (fun _ _ => ListedRun.rank_inj) hlimit hnodup hcursor
      (Nat.lt_succ_self _)

theorem listRuns_keyset :
    Pages.Keyset ListedRun.rank ListedRun.id (memoryMatches tenantId filters) limit
      (fun runs cursor => listRuns tenantId runs filters limit cursor) := by
  intro runs hnodup cursor hcursor
  show listRuns tenantId runs filters limit (cursor.map ListedRun.id) = runPage _ limit
  rw [remaining_eq hnodup, listRuns_eq hnodup]
  congr 2
  funext run
  cases cursor with
  | none =>
    unfold memorySelects Pages.selectsAfter memoryMatches
    rfl
  | some c =>
    obtain ⟨hmem, hmatches⟩ := hcursor c rfl
    exact memorySelects_of_cursor hnodup hmem (Bool.and_eq_true_iff.mp hmatches)

theorem listRunsQuery_keyset :
    Pages.Keyset ListedRun.rank ListedRun.id (queryMatches tenantId filters) limit
      (fun runs cursor => listRunsQuery tenantId runs filters limit cursor) := by
  intro runs hnodup cursor hcursor
  show listRunsQuery tenantId runs filters limit (cursor.map ListedRun.id) = runPage _ limit
  rw [remaining_eq hnodup, listRunsQuery_eq hnodup]
  congr 2
  funext run
  unfold querySelects Pages.selectsAfter queryMatches
  cases cursor with
  | none =>
    rw [Option.map_none, cursorOfTenant_none, Bool.true_and]
    rfl
  | some c =>
    obtain ⟨hmem, hmatches⟩ := hcursor c rfl
    rw [Option.map_some, cursorOfTenant_of_mem hmem (Bool.and_eq_true_iff.mp hmatches).1,
      runCursorFilter_eq hnodup hmem, Bool.true_and]
    rfl

/-- **Run paging enumerates**, in both stores, whatever the filters and the limit are. -/
theorem run_paging_enumerates (tenantId : Option String) (filters : RunListFilters) (limit : Nat)
    (hlimit : 1 ≤ limit) :
    Enumerates (memoryMatches tenantId filters)
      (fun runs cursor => listRuns tenantId runs filters limit cursor) ∧
    Enumerates (queryMatches tenantId filters)
      (fun runs cursor => listRunsQuery tenantId runs filters limit cursor) :=
  ⟨enumerates_of_keyset hlimit listRuns_keyset, enumerates_of_keyset hlimit listRunsQuery_keyset⟩

/-- The sample run under another id: the two were created at the same time. -/
def sampleRunNamed (id : String) : ListedRun :=
  { sampleListedRun with record := { sampleListedRun.record with rebalanceRunId := id } }

def tiedInventory : RunInventory :=
  ⟨[sampleRunNamed "rr_1", sampleRunNamed "rr_3", sampleRunNamed "rr_2"], by decide⟩

/-- Pages of one run; the run `rr_2` is inserted after the first page. -/
theorem tied_runs_paged :
    Pages.walk (fun runs cursor => listRuns (some "tenant_001") runs {} 1 cursor) 4 []
        tiedInventory.runs none =
      some ((newestFirst tiedInventory.runs).filter (memoryMatches (some "tenant_001") {})) ∧
    ∃ read, Pages.walk (fun runs cursor => listRunsQuery (some "tenant_001") runs {} 1 cursor) 4
        [[sampleRunNamed "rr_2"]] [sampleRunNamed "rr_1", sampleRunNamed "rr_3"] none = some read ∧
      read.filter (· ∈ [sampleRunNamed "rr_1", sampleRunNamed "rr_3"]) =
        (newestFirst [sampleRunNamed "rr_1", sampleRunNamed "rr_3"]).filter
          (queryMatches (some "tenant_001") {}) := by
  have henumerates := run_paging_enumerates (some "tenant_001") {} 1 (by decide)
  refine ⟨henumerates.1.1 tiedInventory, ?_⟩
  obtain ⟨read, hread, _, _, hfilter⟩ := henumerates.2.2 tiedInventory
    [sampleRunNamed "rr_1", sampleRunNamed "rr_3"] [[sampleRunNamed "rr_2"]] none rfl
    (fun c hc => by cases hc)
  rw [Pages.selectsAfter_none] at hfilter
  exact ⟨read, hread, hfilter⟩

end LotusManage.RebalanceRuns
