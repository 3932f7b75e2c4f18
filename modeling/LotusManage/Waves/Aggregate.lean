import LotusManage.Waves.Models
import Mathlib.Data.List.Sort

/-!
# Aggregate metrics of a wave

`src/api/services/wave_aggregate_metrics.py`, with the aggregation of
`src/core/waves/source_analytics.py`.

The metrics are recomputed from the items by every command that changes the items:
counts of the item states, and for each of the two analytics families one summary
over the items that carry evidence of the family.

The supportability states are ASCII words, so `toUpper` is Python's `upper` on them.
-/

namespace LotusManage.Waves

/-! ## Source analytics -/

/-- `sorted(set(values))` -/
def sortedSet (values : List String) : List String :=
  values.dedup.insertionSort (· ≤ ·)

/-- `_item_source_analytics` -/
def itemSourceAnalytics (item : RebalanceWaveItem) (family : String) :
    Option ItemSourceAnalytics :=
  match item.diagnostics.get? "source_analytics" with
  | some (.sourceAnalytics families) => families.get? family
  | _ => none

/-- The rank of a supportability state in `_worst_source_state`. -/
def sourceStateRank (state : String) : Nat :=
  if state = "BLOCKED" then 0
  else if state = "DEGRADED" then 1
  else if state = "PENDING_REVIEW" then 2
  else if state = "READY" then 3
  else 1

/-- `min(states, key=rank)`: the first state of least rank. -/
def worstOf (states : List String) (worst : String) : String :=
  states.foldl
    (fun worst state => if sourceStateRank state < sourceStateRank worst then state else worst)
    worst

/-- `_worst_source_state` -/
def worstSourceState (states : List String) : String :=
  match (states.filter (fun state => state ≠ "")).map String.toUpper with
  | [] => "DEGRADED"
  | state :: states => worstOf states state

/-- The identity by which `_dedupe_source_ref_dicts` and `_dedupe_source_refs` merge refs. -/
def WaveSourceRef.identity (ref : WaveSourceRef) : String × String × String × Option String :=
  (ref.sourceSystem, ref.sourceType, ref.sourceId, ref.sourceVersion)

/-- `_dedupe_source_ref_dicts` and `_dedupe_source_refs` -/
def dedupeSourceRefs (refs : List WaveSourceRef) : List WaveSourceRef :=
  (Dict.ofEntries (refs.map (fun ref => (ref.identity, ref)))).values

/-- `_source_measure_values_from_summaries` -/
def sourceMeasureValuesFromSummaries (summaries : List ItemSourceAnalytics) :
    Dict String (List String) :=
  (summaries.flatMap (fun summary => summary.sourceMeasures.items)).foldl
    (fun measures e => measures.set e.1 (measures.getD e.1 [] ++ e.2)) .empty

/-- `{measure: sorted(set(values)) for measure, values in sorted(measures.items())}` -/
def sortedMeasures (measures : Dict String (List String)) : Dict String (List String) :=
  Dict.ofEntries ((measures.keys.insertionSort (· ≤ ·)).map
    (fun measure => (measure, sortedSet (measures.getD measure []))))

/-- `_aggregate_family_source_analytics` -/
def aggregateFamilySourceAnalytics (family : String) (summaries : List ItemSourceAnalytics) :
    WaveSourceAnalyticsSummary :=
  let stateCounts :=
    Dict.counter (summaries.map (fun summary => summary.supportabilityState.toUpper))
  { sourceFamily := family.toUpper
    supportabilityState := worstSourceState stateCounts.keys
    itemCount := summaries.length
    readyItemCount := stateCounts.getD "READY" 0
    degradedItemCount := stateCounts.getD "DEGRADED" 0
    blockedItemCount := stateCounts.getD "BLOCKED" 0
    pendingReviewItemCount := stateCounts.getD "PENDING_REVIEW" 0
    sourceSystems := sortedSet (summaries.flatMap ItemSourceAnalytics.sourceSystems)
    sourceRefs := dedupeSourceRefs (summaries.flatMap ItemSourceAnalytics.sourceRefs)
    reasonCodes := sortedSet (summaries.flatMap ItemSourceAnalytics.reasonCodes)
    sourceMeasures := sortedMeasures (sourceMeasureValuesFromSummaries summaries) }

/-- `aggregate_wave_source_analytics` -/
def aggregateWaveSourceAnalytics (items : List RebalanceWaveItem) :
    List WaveSourceAnalyticsSummary :=
  ["risk", "performance"].filterMap (fun family =>
    match items.filterMap (fun item => itemSourceAnalytics item family) with
    | [] => none
    | summaries => some (aggregateFamilySourceAnalytics family summaries))

/-! ## Metrics and result state -/

/-- `aggregate_wave_items` -/
def aggregateWaveItems (items : List RebalanceWaveItem) : WaveAggregateMetrics :=
  let stateCounts := Dict.counter (items.map RebalanceWaveItem.state)
  let count := fun state => stateCounts.getD state 0
  { itemCount := items.length
    stateCounts := Dict.ofEntries (stateCounts.items.map (fun e => (e.1.code, e.2)))
    readyItemCount := count .sourceReady + count .simulated + count .selected +
      count .proofPackReady + count .approved + count .staged + count .handoffReady
    blockedItemCount := count .sourceBlocked + count .simulationBlocked
    reviewRequiredItemCount := count .reviewRequired
    sourceDegradedItemCount := count .sourceDegraded
    sourceAnalytics := aggregateWaveSourceAnalytics items }

/-- `simulation_result_state` -/
def simulationResultState (items : List RebalanceWaveItem) : WaveState :=
  let simulated := items.countP (fun item => decide (item.state = .simulated))
  if simulated ≠ 0 ∧ simulated < items.length then .partiallySimulated
  else if simulated ≠ 0 then .simulated
  else .simulationFailed

/-- `wave_with_items_and_aggregate`, without extra updates. -/
def waveWithItemsAndAggregate (wave : RebalanceWave) (items : List RebalanceWaveItem) :
    RebalanceWave :=
  { wave with items := items, aggregateMetrics := aggregateWaveItems items }

/-- A simulation ends in one of the three states that follow `SIMULATING`. -/
theorem simulationResultState_cases (items : List RebalanceWaveItem) :
    simulationResultState items = .partiallySimulated ∨ simulationResultState items = .simulated ∨
      simulationResultState items = .simulationFailed := by
  unfold simulationResultState
  dsimp only
  split
  · exact Or.inl rfl
  · split
    · exact Or.inr (Or.inl rfl)
    · exact Or.inr (Or.inr rfl)

end LotusManage.Waves
