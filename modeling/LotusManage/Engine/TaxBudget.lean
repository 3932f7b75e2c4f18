import LotusManage.Engine.Valuation
import Mathlib.Data.List.Sort

/-!
# The tax budget of sales

`src/core/rebalance/tax_budget.py`.  A sale is clamped to the holding and, when
tax awareness is on, limited by a lot scan: the lots of the position are visited
from the highest cost down, each one gives what the remaining quantity and the
remaining gains budget allow, and the gain or loss of what it gives is added to
the accumulator of the run.

The accumulator and the diagnostics are passed through explicitly.  The
data-quality log is a field of the diagnostics, as it is in the source.
-/

namespace LotusManage.Engine

/-- `_TaxBudgetAccumulator` -/
structure TaxBudgetAccumulator where
  totalRealizedGainBase : Decimal := 0
  totalRealizedLossBase : Decimal := 0
  taxBudgetUsedBase : Decimal := 0
  taxBudgetLimitBase : Option Decimal := none

/-- `_TaxBudgetLotAllowance` -/
structure TaxBudgetLotAllowance where
  requestedQuantity : Decimal
  allowedQuantity : Decimal
  realizedBase : Decimal

/-- `_SellQuantityDecision` -/
structure SellQuantityDecision where
  quantity : Decimal
  sellQuantityBeforeTax : Option Decimal

/-! ## The lots in the order of the scan -/

/-- `_lot_cost_in_instrument_ccy` -/
def lotCostInInstrumentCcy (unitCost : Money) (instrumentCcy : String)
    (marketData : MarketDataSnapshot) : Option Decimal :=
  if unitCost.currency = instrumentCcy then some unitCost.amount
  else (getFxRate marketData unitCost.currency instrumentCcy).map (unitCost.amount * ·)

/-- The loop of `_hifo_sorted_lots`: the lots with their costs, or the pair whose
rate is missing first. -/
def lotsWithCost (instrumentCcy : String) (marketData : MarketDataSnapshot) :
    List TaxLot → Except String (List (TaxLot × Decimal))
  | [] => .ok []
  | lot :: lots =>
    match lotCostInInstrumentCcy lot.unitCost instrumentCcy marketData with
    | none => .error (fxPair lot.unitCost.currency instrumentCcy)
    | some cost =>
      match lotsWithCost instrumentCcy marketData lots with
      | .error pair => .error pair
      | .ok rest => .ok ((lot, cost) :: rest)

/-- The key of the scan order is at most the other one: cost, then purchase date,
then lot id. -/
def lotKeyLe (a b : TaxLot × Decimal) : Bool :=
  a.2 < b.2 ∨ a.2 = b.2 ∧ (a.1.purchaseDate < b.1.purchaseDate ∨
    a.1.purchaseDate = b.1.purchaseDate ∧ ¬ b.1.lotId < a.1.lotId)

/-- `sorted(..., reverse=True)`: descending keys, equal keys in their old order. -/
def hifoSorted (lots : List (TaxLot × Decimal)) : List (TaxLot × Decimal) :=
  lots.insertionSort (fun a b => lotKeyLe b a)

/-- `_hifo_sorted_lots` of a position with lots. -/
def hifoSortedLots (position : Position) (instrumentCcy : String)
    (marketData : MarketDataSnapshot) : Except String (List (TaxLot × Decimal)) :=
  (lotsWithCost instrumentCcy marketData position.lots).map hifoSorted

/-! ## Diagnostics of a sale -/

/-- `_clamped_sell_quantity` -/
def clampedSellQuantity (requestedQty : Decimal) (position : Option Position)
    (diagnostics : DiagnosticsData) : Decimal × DiagnosticsData :=
  let availableQty := match position with
    | some position => position.quantity
    | none => 0
  if requestedQty ≤ availableQty then (requestedQty, diagnostics)
  else (max availableQty 0, diagnostics.warnOnce "SELL_QUANTITY_CLAMPED_TO_AVAILABLE_HOLDING")

/-- `_record_tax_budget_limit_reached` -/
def recordTaxBudgetLimitReached (instrumentId : String)
    (requestedQuantity allowedQuantity : Decimal) (diagnostics : DiagnosticsData) :
    DiagnosticsData :=
  let diagnostics := diagnostics.warnOnce "TAX_BUDGET_LIMIT_REACHED"
  { diagnostics with
    taxBudgetConstraintEvents := diagnostics.taxBudgetConstraintEvents ++
      [⟨instrumentId, requestedQuantity, allowedQuantity, "TAX_BUDGET_LIMIT_REACHED"⟩] }

/-- `_record_tax_lot_evidence_incomplete` -/
def recordTaxLotEvidenceIncomplete (instrumentId reasonCode : String)
    (diagnostics : DiagnosticsData) : DiagnosticsData :=
  let evidenceKey := instrumentId ++ ":" ++ reasonCode
  let bucket := diagnostics.dataQuality.taxLotEvidenceIncomplete
  let diagnostics :=
    if evidenceKey ∈ bucket then diagnostics
    else
      { diagnostics with
        dataQuality :=
          { diagnostics.dataQuality with taxLotEvidenceIncomplete := bucket ++ [evidenceKey] } }
  diagnostics.warnOnce reasonCode

/-- `dq_log["fx_missing"].append(pair)` -/
def DiagnosticsData.fxMissing (diagnostics : DiagnosticsData) (pair : String) :
    DiagnosticsData :=
  { diagnostics with
    dataQuality :=
      { diagnostics.dataQuality with fxMissing := diagnostics.dataQuality.fxMissing ++ [pair] } }

/-- `dq_log["price_missing"].append(instrument_id)` -/
def DiagnosticsData.priceMissing (diagnostics : DiagnosticsData) (instrumentId : String) :
    DiagnosticsData :=
  { diagnostics with
    dataQuality :=
      { diagnostics.dataQuality with
        priceMissing := diagnostics.dataQuality.priceMissing ++ [instrumentId] } }

/-- `_tax_lot_quantity_covered` -/
def taxLotQuantityCovered (position : Position) (requestedQty : Decimal) : Bool :=
  requestedQty ≤ ((position.lots.filter (fun lot => lot.quantity > 0)).map (·.quantity)).sum

/-- `_tax_lot_evidence_incomplete_for` -/
def taxLotEvidenceIncompleteFor (instrumentId : String) (diagnostics : DiagnosticsData) : Bool :=
  diagnostics.dataQuality.taxLotEvidenceIncomplete.any fun evidenceKey =>
    (instrumentId ++ ":").toList.isPrefixOf evidenceKey.toList

/-- `_tax_budget_constraint_applies` -/
def taxBudgetConstraintApplies (side : Side) (quantity : Decimal)
    (sellQuantityBeforeTax : Option Decimal) (taxAwarenessEnabled : Bool) : Bool :=
  match sellQuantityBeforeTax with
  | none => false
  | some before => side = .sell ∧ taxAwarenessEnabled ∧ quantity < before

/-! ## The lot scan -/

/-- `_tax_budget_allowed_lot_quantity` -/
def taxBudgetAllowedLotQuantity (lotSellQty perUnitGainBase : Decimal)
    (taxBudget : TaxBudgetAccumulator) : Decimal :=
  match taxBudget.taxBudgetLimitBase with
  | none => lotSellQty
  | some limit =>
    if perUnitGainBase ≤ 0 then lotSellQty
    else if limit ≤ taxBudget.taxBudgetUsedBase then 0
    else min lotSellQty ((limit - taxBudget.taxBudgetUsedBase) / perUnitGainBase)

/-- `_tax_budget_lot_allowance` -/
def taxBudgetLotAllowance (remainingQuantity lotQuantity lotUnitCost sellPrice baseRate : Decimal)
    (taxBudget : TaxBudgetAccumulator) : TaxBudgetLotAllowance :=
  let lotSellQty := min remainingQuantity lotQuantity
  let perUnitGainBase := (sellPrice - lotUnitCost) * baseRate
  let allowedQuantity := taxBudgetAllowedLotQuantity lotSellQty perUnitGainBase taxBudget
  ⟨lotSellQty, allowedQuantity, perUnitGainBase * allowedQuantity⟩

/-- `_apply_tax_budget_lot_allowance` -/
def applyTaxBudgetLotAllowance (allowance : TaxBudgetLotAllowance)
    (taxBudget : TaxBudgetAccumulator) : TaxBudgetAccumulator :=
  if 0 ≤ allowance.realizedBase then
    { taxBudget with
      totalRealizedGainBase := taxBudget.totalRealizedGainBase + allowance.realizedBase
      taxBudgetUsedBase := taxBudget.taxBudgetUsedBase + allowance.realizedBase }
  else
    { taxBudget with
      totalRealizedLossBase := taxBudget.totalRealizedLossBase + |allowance.realizedBase| }

/-- `_tax_budget_sale_allowance` -/
def taxBudgetSaleAllowance (remainingQuantity lotQuantity lotUnitCost sellPrice baseRate : Decimal)
    (taxBudget : TaxBudgetAccumulator) : Option TaxBudgetLotAllowance :=
  if remainingQuantity ≤ 0 then none
  else if lotQuantity ≤ 0 then none
  else some (taxBudgetLotAllowance remainingQuantity lotQuantity lotUnitCost sellPrice baseRate
    taxBudget)

/-- `_tax_budget_allowance_stops_lot_scan` -/
def taxBudgetAllowanceStopsLotScan (allowance : Option TaxBudgetLotAllowance)
    (remainingQuantity : Decimal) : Bool :=
  match allowance with
  | none => remainingQuantity ≤ 0
  | some allowance =>
    allowance.allowedQuantity ≤ 0 ∨ allowance.allowedQuantity < allowance.requestedQuantity

/-- The loop of `_tax_budget_limited_quantity_from_lots` over the lots that are
left: the allowed quantity and the accumulator. -/
def lotScan (sellPrice baseRate : Decimal) :
    List (TaxLot × Decimal) → Decimal → Decimal → TaxBudgetAccumulator →
      Decimal × TaxBudgetAccumulator
  | [], _, allowedQty, taxBudget => (allowedQty, taxBudget)
  | (lot, lotUnitCost) :: lots, remaining, allowedQty, taxBudget =>
    match taxBudgetSaleAllowance remaining lot.quantity lotUnitCost sellPrice baseRate
        taxBudget with
    | none =>
      if taxBudgetAllowanceStopsLotScan none remaining then (allowedQty, taxBudget)
      else lotScan sellPrice baseRate lots remaining allowedQty taxBudget
    | some allowance =>
      let taxBudget := applyTaxBudgetLotAllowance allowance taxBudget
      let allowedQty := allowedQty + allowance.allowedQuantity
      let remaining := remaining - allowance.allowedQuantity
      if taxBudgetAllowanceStopsLotScan (some allowance) remaining then (allowedQty, taxBudget)
      else lotScan sellPrice baseRate lots remaining allowedQty taxBudget

/-- `_tax_budget_limited_quantity_from_lots` -/
def taxBudgetLimitedQuantityFromLots (sortedLots : List (TaxLot × Decimal))
    (requestedQty sellPrice baseRate : Decimal) (taxBudget : TaxBudgetAccumulator) :
    Decimal × TaxBudgetAccumulator :=
  lotScan sellPrice baseRate sortedLots requestedQty 0 taxBudget

/-! ## The limits of one sale -/

/-- The quantity, the accumulator and the diagnostics that a sale leaves. -/
structure SaleState where
  quantity : Decimal
  taxBudget : TaxBudgetAccumulator
  diagnostics : DiagnosticsData

/-- A sale of zero, with the reason why the lots do not support more. -/
def incompleteTaxLots (instrumentId reasonCode : String) (taxBudget : TaxBudgetAccumulator)
    (diagnostics : DiagnosticsData) : SaleState :=
  ⟨0, taxBudget, recordTaxLotEvidenceIncomplete instrumentId reasonCode diagnostics⟩

/-- `_tax_budget_limited_sell_quantity` -/
def taxBudgetLimitedSellQuantity (instrumentId : String) (options : EngineOptions)
    (position : Option Position) (requestedQty sellPrice : Decimal) (priceCcy : String)
    (baseRate : Decimal) (marketData : MarketDataSnapshot) (taxBudget : TaxBudgetAccumulator)
    (diagnostics : DiagnosticsData) : SaleState :=
  if !options.enableTaxAwareness then ⟨requestedQty, taxBudget, diagnostics⟩
  else
    match position with
    | none => incompleteTaxLots instrumentId "TAX_LOT_POSITION_MISSING" taxBudget diagnostics
    | some position =>
      if position.lots = [] then
        incompleteTaxLots instrumentId "TAX_LOTS_MISSING" taxBudget diagnostics
      else if !taxLotQuantityCovered position requestedQty then
        incompleteTaxLots instrumentId "TAX_LOTS_INCOMPLETE" taxBudget diagnostics
      else
        match hifoSortedLots position priceCcy marketData with
        | .error pair =>
          incompleteTaxLots instrumentId "TAX_LOT_COST_FX_MISSING" taxBudget
            (diagnostics.fxMissing pair)
        | .ok sortedLots =>
          let limited := taxBudgetLimitedQuantityFromLots sortedLots requestedQty sellPrice
            baseRate taxBudget
          ⟨limited.1, limited.2, diagnostics⟩

/-- `_sell_quantity_after_safety_limits` -/
def sellQuantityAfterSafetyLimits (instrumentId : String) (side : Side)
    (requestedQuantity : Decimal) (position : Option Position) (options : EngineOptions)
    (sellPrice : Decimal) (priceCurrency : String) (baseRate : Decimal)
    (marketData : MarketDataSnapshot) (taxBudget : TaxBudgetAccumulator)
    (diagnostics : DiagnosticsData) :
    SellQuantityDecision × TaxBudgetAccumulator × DiagnosticsData :=
  if side ≠ .sell ∨ requestedQuantity ≤ 0 then
    (⟨requestedQuantity, none⟩, taxBudget, diagnostics)
  else
    let clamped := clampedSellQuantity requestedQuantity position diagnostics
    let limited := taxBudgetLimitedSellQuantity instrumentId options position clamped.1 sellPrice
      priceCurrency baseRate marketData taxBudget clamped.2
    let diagnostics :=
      if options.enableTaxAwareness ∧ limited.quantity < clamped.1 ∧
          ¬ taxLotEvidenceIncompleteFor instrumentId limited.diagnostics then
        recordTaxBudgetLimitReached instrumentId clamped.1 limited.quantity limited.diagnostics
      else limited.diagnostics
    (⟨limited.quantity, some clamped.1⟩, limited.taxBudget, diagnostics)

/-- The budget that a report shows as used: a rest of at most 1e-10 counts as used. -/
def normalizedBudgetUsed (used limit : Decimal) : Decimal :=
  min (if |limit - used| ≤ 1 / 10000000000 then limit else used) limit

/-- `_tax_impact_from_budget` -/
def taxImpactFromBudget (taxBudget : TaxBudgetAccumulator) (baseCurrency : String) : TaxImpact :=
  { totalRealizedGain := ⟨taxBudget.totalRealizedGainBase, baseCurrency⟩
    totalRealizedLoss := ⟨taxBudget.totalRealizedLossBase, baseCurrency⟩
    budgetLimit := taxBudget.taxBudgetLimitBase.map (⟨·, baseCurrency⟩)
    budgetUsed := taxBudget.taxBudgetLimitBase.map fun limit =>
      ⟨normalizedBudgetUsed taxBudget.taxBudgetUsedBase limit, baseCurrency⟩ }

end LotusManage.Engine
