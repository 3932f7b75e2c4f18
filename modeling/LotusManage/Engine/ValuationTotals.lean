import LotusManage.Engine.DecimalArithmetic
import LotusManage.Lib.Totals
import Mathlib.Algebra.BigOperators.Ring.List
import Mathlib.Algebra.Order.Field.Rat

/-!
# A valuation adds up

`buildSimulatedState` accumulates the total, the asset classes, the instruments
and the attributes in loops of their own.  The two dictionaries of the loops are
accumulations in the sense of `Dict.addAll`, so what their values sum to is known
without looking at the keys: an asset class that is itself called `CASH` shares
its row with the cash and nothing is lost.
-/

namespace LotusManage.Engine

/-! ## The accumulations -/

theorem addAllocation_eq (allocation : Dict String Decimal) (key : String) (value : Decimal) :
    addAllocation allocation key value = allocation.addAt key value := rfl

/-- The values of the rows of an allocation. -/
def allocatedValue (metrics : List AllocationMetric) : Decimal :=
  (metrics.map (·.value.amount)).sum

theorem allocatedValue_allocationMetrics (valuesByKey : Dict String Decimal)
    (totalValue : Decimal) (baseCcy : String) :
    allocatedValue (allocationMetrics valuesByKey totalValue baseCcy) = valuesByKey.total := by
  rw [allocatedValue, allocationMetrics, List.map_map]
  rfl

theorem weights_allocationMetrics (valuesByKey : Dict String Decimal) (totalValue : Decimal)
    (baseCcy : String) :
    ((allocationMetrics valuesByKey totalValue baseCcy).map (·.weight)).sum =
      valuesByKey.total / totalValue := by
  rw [allocationMetrics, List.map_map, Dict.total, Dict.values, div_eq_mul_inv,
    ← List.sum_map_mul_right]
  refine congrArg List.sum (List.map_congr_left fun e _ => ?_)
  exact div_eq_mul_inv e.2 totalValue

/-- The shelf entry of a position carries an attribute. -/
def carriesAttribute (shelfById : Dict String ShelfEntry) (key : String)
    (position : PositionSummary) : Bool :=
  match shelfById.get? position.instrumentId with
  | some entry => entry.attributes.contains key
  | none => false

theorem total_foldl_attributes (key : String) (value : Decimal) :
    ∀ (attributes : List (String × String))
      (allocation : Dict String (Dict String Decimal)), (attributes.map Prod.fst).Nodup →
      ((attributes.foldl (fun allocation attr =>
          allocation.set attr.1 (addAllocation (allocation.getD attr.1 Dict.empty) attr.2 value))
        allocation).getD key Dict.empty).total =
        (allocation.getD key Dict.empty).total + if key ∈ attributes.map Prod.fst then value else 0
  | [], allocation, _ => by simp
  | attr :: attributes, allocation, hnodup => by
    rw [List.map_cons, List.nodup_cons] at hnodup
    rw [List.foldl_cons, total_foldl_attributes key value attributes _ hnodup.2, Dict.getD,
      Dict.get?_set]
    by_cases hkey : key = attr.1
    · -- the attribute of the entry: no later one has its key
      rw [if_pos hkey, Option.getD_some, addAllocation_eq, Dict.total_addAt, hkey,
        if_neg hnodup.1, if_pos (by simp), add_zero]
    · rw [if_neg hkey]
      simp only [List.map_cons, List.mem_cons, hkey, false_or]
      rfl

theorem total_addAttributeAllocations (allocation : Dict String (Dict String Decimal))
    (entry : ShelfEntry) (value : Decimal) (key : String) :
    ((addAttributeAllocations allocation entry value).getD key Dict.empty).total =
      (allocation.getD key Dict.empty).total +
        if entry.attributes.contains key then value else 0 := by
  rw [addAttributeAllocations, total_foldl_attributes key value _ _ entry.attributes.nodup]
  simp only [Dict.contains_eq_true_iff, Dict.keys]

section Maps

variable (shelfById : Dict String ShelfEntry)

/-- The loop of `positionAllocationMaps`, from any maps. -/
theorem foldl_positionAllocationMaps (key : String) :
    ∀ (positions : List PositionSummary)
      (maps : Dict String Decimal × Dict String (Dict String Decimal)),
      let result := positions.foldl (fun maps position =>
        (addAllocation maps.1 position.assetClass position.valueInBaseCcy.amount,
          match shelfById.get? position.instrumentId with
          | some entry =>
            addAttributeAllocations maps.2 entry position.valueInBaseCcy.amount
          | none => maps.2)) maps
      result.1 = maps.1.addAll
          (positions.map fun position => (position.assetClass, position.valueInBaseCcy.amount)) ∧
        (result.2.getD key Dict.empty).total = (maps.2.getD key Dict.empty).total +
          ((positions.filter (carriesAttribute shelfById key)).map
            (·.valueInBaseCcy.amount)).sum
  | [], maps => by simp [Dict.addAll]
  | position :: positions, maps => by
    obtain ⟨hclasses, hattributes⟩ := foldl_positionAllocationMaps key positions
      (addAllocation maps.1 position.assetClass position.valueInBaseCcy.amount,
        match shelfById.get? position.instrumentId with
        | some entry => addAttributeAllocations maps.2 entry position.valueInBaseCcy.amount
        | none => maps.2)
    refine ⟨hclasses, ?_⟩
    rw [List.foldl_cons, hattributes, List.filter_cons]
    -- what the first position adds under the key
    cases hentry : shelfById.get? position.instrumentId with
    | none =>
      have hcarries : carriesAttribute shelfById key position = false := by
        rw [carriesAttribute, hentry]
      simp [hcarries]
    | some entry =>
      have hcarries : carriesAttribute shelfById key position = entry.attributes.contains key := by
        rw [carriesAttribute, hentry]
      rw [total_addAttributeAllocations, hcarries]
      by_cases hkey : entry.attributes.contains key = true
      · rw [if_pos hkey, if_pos hkey, List.map_cons, List.sum_cons, add_assoc]
      · rw [if_neg hkey, if_neg hkey, add_zero]

theorem total_classes_positionAllocationMaps (positions : List PositionSummary) :
    (positionAllocationMaps positions shelfById).1.total =
      (positions.map (·.valueInBaseCcy.amount)).sum := by
  have hclasses := (foldl_positionAllocationMaps shelfById "" positions
    (Dict.empty, Dict.empty)).1
  refine (congrArg Dict.total hclasses).trans ?_
  rw [Dict.total_addAll, Dict.total_empty, zero_add, List.map_map]
  rfl

theorem total_attribute_positionAllocationMaps (positions : List PositionSummary)
    (key : String) :
    ((positionAllocationMaps positions shelfById).2.getD key Dict.empty).total =
      ((positions.filter (carriesAttribute shelfById key)).map (·.valueInBaseCcy.amount)).sum := by
  have hattributes := (foldl_positionAllocationMaps shelfById key positions
    (Dict.empty, Dict.empty)).2
  exact hattributes.trans (zero_add _)

end Maps

/-! ## The whole valuation -/

/-- The parts of a valued portfolio add up. -/
structure AddsUp (cashValue : Decimal) (shelf : List ShelfEntry) (state : SimulatedState) :
    Prop where
  assetClasses : allocatedValue state.allocationByAssetClass = state.totalValue.amount
  instruments : allocatedValue state.allocationByInstrument + cashValue = state.totalValue.amount
  weights : state.totalValue.amount ≠ 0 →
    (state.allocationByAssetClass.map (·.weight)).sum = 1
  attributes : ∀ key, allocatedValue (state.allocationByAttribute.getD key []) =
    ((state.positions.filter (carriesAttribute (shelfByInstrument shelf) key)).map
      (·.valueInBaseCcy.amount)).sum

section State

variable (portfolio : PortfolioSnapshot) (marketData : MarketDataSnapshot)
  (shelf : List ShelfEntry) (options : EngineOptions)

theorem valueInBaseCcy_withAssetClass (shelfById : Dict String ShelfEntry)
    (position : PositionSummary) :
    (withAssetClass shelfById position).valueInBaseCcy = position.valueInBaseCcy := by
  unfold withAssetClass
  split <;> rfl

theorem positionValues_buildSimulatedState :
    (buildSimulatedState portfolio marketData shelf options).positions.map
        (·.valueInBaseCcy.amount) =
      portfolio.positions.map (positionValue marketData portfolio.baseCurrency options) := by
  rw [buildSimulatedState, List.map_map]
  refine List.map_congr_left fun position _ => ?_
  exact congrArg Money.amount (valueInBaseCcy_withAssetClass _ _)

theorem classTotal_buildSimulatedState :
    (addAllocation
      (positionAllocationMaps (buildSimulatedState portfolio marketData shelf options).positions
        (shelfByInstrument shelf)).1 "CASH"
      (totalCashValue portfolio.cashBalances marketData portfolio.baseCurrency)).total =
      totalPortfolioValue portfolio marketData options := by
  rw [addAllocation_eq, Dict.total_addAt, total_classes_positionAllocationMaps,
    positionValues_buildSimulatedState]
  rfl

theorem allocationByAttribute_buildSimulatedState :
    (buildSimulatedState portfolio marketData shelf options).allocationByAttribute =
      (positionAllocationMaps (buildSimulatedState portfolio marketData shelf options).positions
        (shelfByInstrument shelf)).2.mapWithKeyTo fun _ valueMap =>
          allocationMetrics valueMap
            (safeTotalValue (totalPortfolioValue portfolio marketData options))
            portfolio.baseCurrency := rfl

theorem allocatedValue_mapWithKeyTo (allocation : Dict String (Dict String Decimal))
    (totalValue : Decimal) (baseCcy key : String) :
    allocatedValue ((allocation.mapWithKeyTo fun _ valueMap =>
        allocationMetrics valueMap totalValue baseCcy).getD key []) =
      (allocation.getD key Dict.empty).total := by
  rw [Dict.getD, Dict.get?_mapWithKeyTo, Dict.getD]
  cases allocation.get? key with
  | none => rfl
  | some valueMap => exact allocatedValue_allocationMetrics _ _ _

/-- In exact arithmetic the allocations of a simulated state add up to its total value. -/
theorem valuation_adds_up :
    AddsUp (totalCashValue portfolio.cashBalances marketData portfolio.baseCurrency) shelf
      (buildSimulatedState portfolio marketData shelf options) := by
  have hclasses := classTotal_buildSimulatedState portfolio marketData shelf options
  refine ⟨?_, ?_, ?_, ?_⟩
  · exact (allocatedValue_allocationMetrics _ _ _).trans hclasses
  · have hvalues := positionValues_buildSimulatedState portfolio marketData shelf options
    show allocatedValue ((buildSimulatedState portfolio marketData shelf options).positions.map _)
      + _ = totalPortfolioValue portfolio marketData options
    rw [allocatedValue, List.map_map]
    exact congrArg (fun values => List.sum values + _) hvalues
  · intro hne
    have hsafe : safeTotalValue (totalPortfolioValue portfolio marketData options) =
        totalPortfolioValue portfolio marketData options := if_neg hne
    refine (weights_allocationMetrics _ _ _).trans ?_
    refine (congrArg₂ (· / ·) hclasses hsafe).trans ?_
    exact div_self hne
  · intro key
    rw [allocationByAttribute_buildSimulatedState, allocatedValue_mapWithKeyTo]
    exact total_attribute_positionAllocationMaps _ _ key

end State

/-- One unit of each of three asset classes, at a price of one. -/
def threeClassPortfolio : PortfolioSnapshot :=
  { portfolioId := "pf"
    baseCurrency := "USD"
    positions := [⟨"A", 1, none, []⟩, ⟨"B", 1, none, []⟩]
    cashBalances := [⟨"USD", 1, none⟩] }

theorem class_weights_rounded :
    let state := buildSimulatedState threeClassPortfolio
      { prices := [⟨"A", 1, "USD"⟩, ⟨"B", 1, "USD"⟩] }
      [{ instrumentId := "A", status := .approved, assetClass := "EQUITY" },
        { instrumentId := "B", status := .approved, assetClass := "BOND" }] {}
    let weights := state.allocationByAssetClass.map fun metric =>
      (allocationMetricWith fit28 metric.key metric.value.amount state.totalValue.amount
        "USD").weight
    state.totalValue.amount = 3 ∧ state.allocationByAssetClass.map (·.value.amount) = [1, 1, 1] ∧
      weights = List.replicate 3 (3333333333333333333333333333 / 10 ^ 28) ∧ weights.sum ≠ 1 := by
  decide +kernel

end LotusManage.Engine
