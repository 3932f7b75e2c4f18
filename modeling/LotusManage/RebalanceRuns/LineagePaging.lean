import LotusManage.Lib.CursorWalks
import LotusManage.Lib.Datetime
import LotusManage.RebalanceRuns.Repository
import Mathlib.Data.Prod.Lex

/-!
# Paging through lineage

`append_lineage_edge` and `list_lineage_edges` of the in-memory repository, and the sorting, filtering
and paging of `support_bundle.py`.

The cursor of an edge is a text of its time, its ends and its type, and a page starts after the first
edge with that text.  Nothing keeps two edges from having one text: an edge may be appended again, and
the identifier of an end may hold the separator.

* `listLineageEdges_after`: an entity is listed with the appended edges that it ends.
* `lineage_paging_enumerates_iff`: a walk ends with every matching edge once exactly when every edge
  that ends a page with a successor is the first with its cursor.
-/

namespace LotusManage.RebalanceRuns

/-! ## Edges with their times -/

/-- `edge_type` as it is compared and written. -/
def LineageEdgeType.text : LineageEdgeType → String
  | correlationToRun => "CORRELATION_TO_RUN"
  | idempotencyToRun => "IDEMPOTENCY_TO_RUN"
  | operationToCorrelation => "OPERATION_TO_CORRELATION"
  | operationToRun => "OPERATION_TO_RUN"

/-- A stored edge, with its creation time as it is stored. -/
structure LineageEdge where
  record : LineageEdgeRecord
  createdAt : Datetime
  createdAt_eq : record.createdAt = createdAt.instant

/-- The lists of the repository, by entity. -/
abbrev LineageStore := Dict String (List LineageEdge)

/-- `append_lineage_edge` -/
def LineageStore.append (store : LineageStore) (edge : LineageEdge) : LineageStore :=
  let withSource := appendRow store edge.record.sourceEntityId edge
  if edge.record.targetEntityId ≠ edge.record.sourceEntityId then
    appendRow withSource edge.record.targetEntityId edge
  else withSource

/-- The lists after a sequence of calls. -/
def LineageStore.after (calls : List LineageEdge) : LineageStore :=
  calls.foldl LineageStore.append Dict.empty

/-- `list_lineage_edges` -/
def listLineageEdges (store : LineageStore) (entityId : String) : List LineageEdge :=
  store.getD entityId []

/-! ## The page of a reader -/

/-- The sort key: the instant, then the source, the type and the target by code point. -/
def LineageEdge.rank (edge : LineageEdge) : Int ×ₗ String ×ₗ String ×ₗ String :=
  toLex (edge.createdAt.instant, toLex (edge.record.sourceEntityId,
    toLex (edge.record.edgeType.text, edge.record.targetEntityId)))

/-- `sort_lineage_edges` -/
def sortLineageEdges (edges : List LineageEdge) : List LineageEdge :=
  edges.insertionSort (fun a b => a.rank ≤ b.rank)

/-- `matches_lineage_edge_type` -/
def matchesLineageEdgeType (edge : LineageEdge) (edgeType : Option LineageEdgeType) : Bool :=
  edgeType.all (fun wanted => edge.record.edgeType == wanted)

/-- `is_lineage_edge_in_window` -/
def isLineageEdgeInWindow (edge : LineageEdge) (createdFrom createdTo : Option Datetime) : Bool :=
  if createdFrom.any (fun bound => decide (edge.createdAt.instant < bound.instant)) then false
  else if createdTo.any (fun bound => decide (bound.instant < edge.createdAt.instant)) then false
  else true

/-- The filters of `get_lineage_filtered`. -/
structure LineageFilters where
  edgeType : Option LineageEdgeType := none
  createdFrom : Option Datetime := none
  createdTo : Option Datetime := none

/-- An edge passes the filters. -/
def LineageFilters.passes (filters : LineageFilters) (edge : LineageEdge) : Bool :=
  matchesLineageEdgeType edge filters.edgeType &&
    isLineageEdgeInWindow edge filters.createdFrom filters.createdTo

/-- `filter_lineage_edges` -/
def filterLineageEdges (edges : List LineageEdge) (filters : LineageFilters) : List LineageEdge :=
  edges.filter filters.passes

/-- `lineage_cursor` -/
def lineageCursor (edge : LineageEdge) : String :=
  edge.createdAt.isoformat ++ "|" ++ edge.record.sourceEntityId ++ "|" ++
    edge.record.edgeType.text ++ "|" ++ edge.record.targetEntityId

/-- `page_lineage_edges`; `none` where `page[-1]` raises. -/
def pageLineageEdges (edges : List LineageEdge) (cursor : Option String) (limit : Nat) :
    Option (List LineageEdge × Option String) :=
  let rest := match cursor with
    | none => edges
    | some text =>
      match edges.findIdx? (fun row => decide (lineageCursor row = text)) with
      | none => []
      | some cursorIndex => edges.drop (cursorIndex + 1)
  let page := rest.take limit
  if limit < rest.length then page.getLast?.map (fun last => (page, some (lineageCursor last)))
  else some (page, none)

/-- The edges that `get_lineage_filtered` pages through. -/
def matchingEdges (calls : List LineageEdge) (entityId : String) (filters : LineageFilters) :
    List LineageEdge :=
  filterLineageEdges (sortLineageEdges (listLineageEdges (LineageStore.after calls) entityId)) filters

/-! ## What a walk reads -/

/-- Following `next_cursor` from no cursor ends, with every appended edge of the entity that passes
the filters once. -/
def LineagePagingEnumerates (calls : List LineageEdge) (entityId : String) (filters : LineageFilters)
    (limit : Nat) : Prop :=
  ∃ read, (∃ enough, ∀ pages, enough ≤ pages →
    Pages.walk (fun edges cursor => pageLineageEdges edges cursor limit) pages []
      (matchingEdges calls entityId filters) none = some read) ∧
    read.Perm (calls.filter (fun edge =>
      (edge.record.sourceEntityId == entityId || edge.record.targetEntityId == entityId) &&
        filters.passes edge))

/-- Every edge that ends a page with a successor is the first of the matching edges with its
cursor. -/
def PageEndsFirst (calls : List LineageEdge) (entityId : String) (filters : LineageFilters)
    (limit : Nat) : Prop :=
  ∀ pages, 0 < pages → pages * limit < (matchingEdges calls entityId filters).length →
    ∀ earlier, earlier < pages * limit - 1 →
      (matchingEdges calls entityId filters)[earlier]?.map lineageCursor ≠
        (matchingEdges calls entityId filters)[pages * limit - 1]?.map lineageCursor

variable (calls : List LineageEdge) (entityId : String)

theorem pageLineageEdges_eq (edges : List LineageEdge) (cursor : Option String) (limit : Nat) :
    pageLineageEdges edges cursor limit = Pages.lookupPage lineageCursor limit edges cursor := by
  cases cursor <;> rfl

theorem getD_appendRow {κ ν : Type} [DecidableEq κ] (d : Dict κ (List ν)) (key x : κ) (row : ν) :
    (appendRow d key row).getD x [] = d.getD x [] ++ if key = x then [row] else [] := by
  unfold appendRow Dict.getD
  rw [Dict.get?_set]
  by_cases h : x = key
  · subst h
    rw [if_pos rfl, if_pos rfl]
    rfl
  · rw [if_neg h, if_neg (fun heq => h heq.symm), List.append_nil]

theorem getD_appendEnds {κ ν : Type} [DecidableEq κ] (d : Dict κ (List ν)) (source target x : κ)
    (row : ν) :
    (if target ≠ source then appendRow (appendRow d source row) target row
      else appendRow d source row).getD x [] =
      d.getD x [] ++ if source = x ∨ target = x then [row] else [] := by
  by_cases hends : target = source
  · rw [if_neg (not_not_intro hends), getD_appendRow, hends]
    simp only [or_self]
  · rw [if_pos hends, getD_appendRow, getD_appendRow, List.append_assoc]
    by_cases hsource : source = x
    · rw [if_pos hsource, if_pos (Or.inl hsource), if_neg, List.append_nil]
      rintro rfl
      exact hends hsource.symm
    · rw [if_neg hsource, List.nil_append]
      simp only [hsource, false_or]

theorem listLineageEdges_append (store : LineageStore) (edge : LineageEdge) (entityId : String) :
    listLineageEdges (store.append edge) entityId = listLineageEdges store entityId ++
      if edge.record.sourceEntityId = entityId ∨ edge.record.targetEntityId = entityId then [edge]
      else [] :=
  getD_appendEnds store _ _ entityId edge

theorem listLineageEdges_after :
    listLineageEdges (LineageStore.after calls) entityId = calls.filter (fun edge =>
      edge.record.sourceEntityId == entityId || edge.record.targetEntityId == entityId) := by
  induction calls using List.reverseRecOn with
  | nil => rfl
  | append_singleton calls edge ih =>
    rw [LineageStore.after, List.foldl_append]
    show listLineageEdges ((LineageStore.after calls).append edge) entityId = _
    rw [listLineageEdges_append, ih, List.filter_append, List.filter_cons, List.filter_nil]
    simp only [Bool.or_eq_true, beq_iff_eq]

theorem matchingEdges_perm (filters : LineageFilters) :
    (matchingEdges calls entityId filters).Perm (calls.filter (fun edge =>
      (edge.record.sourceEntityId == entityId || edge.record.targetEntityId == entityId) &&
        filters.passes edge)) := by
  have hsorted := List.perm_insertionSort (fun a b : LineageEdge => a.rank ≤ b.rank)
    (listLineageEdges (LineageStore.after calls) entityId)
  refine (hsorted.filter filters.passes).trans ?_
  rw [listLineageEdges_after, List.filter_filter]
  simp only [Bool.and_comm]
  exact List.Perm.refl _

theorem lineagePagingEnumerates_iff_readsOnce {calls : List LineageEdge} {entityId : String}
    {filters : LineageFilters} {limit : Nat} :
    LineagePagingEnumerates calls entityId filters limit ↔
      Pages.ReadsOnce lineageCursor limit (matchingEdges calls entityId filters) := by
  have hpage : (fun edges cursor => pageLineageEdges edges cursor limit) =
      Pages.lookupPage lineageCursor limit := by
    funext edges cursor
    exact pageLineageEdges_eq edges cursor limit
  unfold LineagePagingEnumerates Pages.ReadsOnce
  rw [hpage]
  constructor
  · rintro ⟨read, hwalk, hperm⟩
    exact ⟨read, hwalk, hperm.trans (matchingEdges_perm calls entityId filters).symm⟩
  · rintro ⟨read, hwalk, hperm⟩
    exact ⟨read, hwalk, hperm.trans (matchingEdges_perm calls entityId filters)⟩

/-- A walk ends with every matching edge once exactly when the edges that end its pages are the first
with their cursors. -/
theorem lineage_paging_enumerates_iff (calls : List LineageEdge) (entityId : String)
    (filters : LineageFilters) (limit : Nat) (hlimit : 1 ≤ limit) :
    LineagePagingEnumerates calls entityId filters limit ↔
      PageEndsFirst calls entityId filters limit :=
  lineagePagingEnumerates_iff_readsOnce.trans (Pages.readsOnce_iff hlimit)

/-! ## An edge that is appended three times -/

def sampleEdgeTime : Datetime :=
  { year := 2026, month := 2, day := 20, hour := 12, year_bounds := year_2026 }

def sampleEdge (target : String) : LineageEdge where
  record := {
    sourceEntityId := "corr-1"
    edgeType := .correlationToRun
    targetEntityId := target
    createdAt := sampleEdgeTime.instant
    metadataJson := "\x7b\x7d" }
  createdAt := sampleEdgeTime
  createdAt_eq := rfl

/-- Three edges to different runs are read one by one. -/
theorem lineage_paging_enumerates_sample :
    LineagePagingEnumerates [sampleEdge "rr_1", sampleEdge "rr_2", sampleEdge "rr_3"] "corr-1" {}
      1 := by
  refine (lineage_paging_enumerates_iff _ _ _ 1 (Nat.le_refl 1)).mpr ?_
  intro pages hpos hlt earlier hearlier
  have hlength : (matchingEdges [sampleEdge "rr_1", sampleEdge "rr_2", sampleEdge "rr_3"] "corr-1"
      {}).length = 3 := by
    decide +kernel
  obtain rfl : pages = 2 := by omega
  obtain rfl : earlier = 0 := by omega
  decide +kernel

/-- The second page ends with the cursor of the first, and its successor is the second page again. -/
theorem repeated_edge_paged_forever :
    ¬ ∀ calls entityId filters limit, 1 ≤ limit →
      LineagePagingEnumerates calls entityId filters limit := by
  intro hclaim
  have hread := lineagePagingEnumerates_iff_readsOnce.mp
    (hclaim [sampleEdge "rr_1", sampleEdge "rr_1", sampleEdge "rr_1"] "corr-1" {} 1 (Nat.le_refl 1))
  have hfirst := (Pages.readsOnce_iff Nat.one_pos).mp hread 2 (by decide) (by decide +kernel)
  exact hfirst 0 (by decide) (by decide +kernel)

end LotusManage.RebalanceRuns
