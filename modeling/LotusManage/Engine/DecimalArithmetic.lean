import LotusManage.Engine.Targets
import LotusManage.Engine.TaxBudget
import LotusManage.Lib.SignificantDigits

/-!
# Arithmetic of the decimal context

The other modules of the engine compute with exact decimals.  The code rounds every result to the 28
digits of Python's default decimal context.  Here the steps that meet a bound with equality in exact
arithmetic stand once more, with the rounding of each result as a parameter: without rounding they are
the exact steps, and with `fit28` they are those of the code.
-/

namespace LotusManage.Engine

open SignificantDigits

/-- A result in the default decimal context. -/
def fit28 : Decimal → Decimal := roundTo 28

variable (fit : Decimal → Decimal)

/-! ## Target weights -/

/-- `_target_weight_posture` -/
def targetWeightPostureWith (eligibleTargets : Dict String Decimal) (buyList : List String) :
    TargetWeightPosture :=
  let totalWeight := sumWith fit eligibleTargets.values
  let lockedWeight :=
    sumWith fit ((eligibleTargets.items.filter (fun e => e.1 ∉ buyList)).map Prod.snd)
  { totalWeight := totalWeight
    lockedWeight := lockedWeight
    tradeableWeight := fit (totalWeight - lockedWeight)
    availableTradeableWeight := max 0 (fit (1 - lockedWeight)) }

/-- `_scale_tradeable_targets` and `_scale_tradeable_targets_for_cash_buffer` -/
def scaleTradeableTargetsWith (eligibleTargets : Dict String Decimal) (buyList : List String)
    (tradeableWeight allowedWeight : Decimal) : Dict String Decimal × Bool :=
  if tradeableWeight ≤ allowedWeight ∨ tradeableWeight ≤ 0 then (eligibleTargets, false)
  else
    (eligibleTargets.mapWithKey fun id weight =>
      if id ∈ buyList then fit (weight * fit (allowedWeight / tradeableWeight)) else weight, true)

/-- `_cap_tradeable_targets_to_available_weight` -/
def capTradeableTargetsToAvailableWeightWith (eligibleTargets : Dict String Decimal)
    (buyList : List String) : Dict String Decimal × RunStatus :=
  let posture := targetWeightPostureWith fit eligibleTargets buyList
  if posture.totalWeight ≤ 10001 / 10000 then (eligibleTargets, .ready)
  else
    let status := if posture.lockedWeight > 1 then RunStatus.pendingReview else .ready
    let scaled := scaleTradeableTargetsWith fit eligibleTargets buyList posture.tradeableWeight
      posture.availableTradeableWeight
    (scaled.1,
      if posture.tradeableWeight > posture.availableTradeableWeight then .pendingReview
      else status)

/-- `_apply_min_cash_buffer` -/
def applyMinCashBufferWith (eligibleTargets : Dict String Decimal) (buyList : List String)
    (minCashBufferPct : Decimal) (statusWhenScaled : RunStatus) :
    Dict String Decimal × RunStatus :=
  if minCashBufferPct ≤ 0 then (eligibleTargets, .ready)
  else
    let posture := targetWeightPostureWith fit eligibleTargets buyList
    let scaled := scaleTradeableTargetsWith fit eligibleTargets buyList posture.tradeableWeight
      (max 0 (fit (posture.availableTradeableWeight - minCashBufferPct)))
    (scaled.1, if scaled.2 then statusWhenScaled else .ready)

theorem targetWeightPostureWith_id : targetWeightPostureWith id = targetWeightPosture := by
  funext eligibleTargets buyList
  simp only [targetWeightPostureWith, sumWith_id, id]
  rfl

theorem capTradeableTargetsToAvailableWeightWith_id :
    capTradeableTargetsToAvailableWeightWith id = capTradeableTargetsToAvailableWeight := by
  funext eligibleTargets buyList
  rw [capTradeableTargetsToAvailableWeightWith, targetWeightPostureWith_id]
  rfl

theorem applyMinCashBufferWith_id : applyMinCashBufferWith id = applyMinCashBuffer := by
  funext eligibleTargets buyList minCashBufferPct statusWhenScaled
  rw [applyMinCashBufferWith, targetWeightPostureWith_id]
  rfl

/-! ## The lot scan -/

/-- `_tax_budget_allowed_lot_quantity` -/
def taxBudgetAllowedLotQuantityWith (lotSellQty perUnitGainBase : Decimal)
    (taxBudget : TaxBudgetAccumulator) : Decimal :=
  match taxBudget.taxBudgetLimitBase with
  | none => lotSellQty
  | some limit =>
    if perUnitGainBase ≤ 0 then lotSellQty
    else if limit ≤ taxBudget.taxBudgetUsedBase then 0
    else min lotSellQty (fit (fit (limit - taxBudget.taxBudgetUsedBase) / perUnitGainBase))

/-- `_tax_budget_lot_allowance` -/
def taxBudgetLotAllowanceWith (remainingQuantity lotQuantity lotUnitCost sellPrice
    baseRate : Decimal) (taxBudget : TaxBudgetAccumulator) : TaxBudgetLotAllowance :=
  let lotSellQty := min remainingQuantity lotQuantity
  let perUnitGainBase := fit (fit (sellPrice - lotUnitCost) * baseRate)
  let allowedQuantity := taxBudgetAllowedLotQuantityWith fit lotSellQty perUnitGainBase taxBudget
  ⟨lotSellQty, allowedQuantity, fit (perUnitGainBase * allowedQuantity)⟩

/-- `_apply_tax_budget_lot_allowance` -/
def applyTaxBudgetLotAllowanceWith (allowance : TaxBudgetLotAllowance)
    (taxBudget : TaxBudgetAccumulator) : TaxBudgetAccumulator :=
  if 0 ≤ allowance.realizedBase then
    { taxBudget with
      totalRealizedGainBase := fit (taxBudget.totalRealizedGainBase + allowance.realizedBase)
      taxBudgetUsedBase := fit (taxBudget.taxBudgetUsedBase + allowance.realizedBase) }
  else
    { taxBudget with
      totalRealizedLossBase :=
        fit (taxBudget.totalRealizedLossBase + fit |allowance.realizedBase|) }

/-- `_tax_budget_sale_allowance` -/
def taxBudgetSaleAllowanceWith (remainingQuantity lotQuantity lotUnitCost sellPrice
    baseRate : Decimal) (taxBudget : TaxBudgetAccumulator) : Option TaxBudgetLotAllowance :=
  if remainingQuantity ≤ 0 then none
  else if lotQuantity ≤ 0 then none
  else some (taxBudgetLotAllowanceWith fit remainingQuantity lotQuantity lotUnitCost sellPrice
    baseRate taxBudget)

/-- The loop of `_tax_budget_limited_quantity_from_lots` -/
def lotScanWith (sellPrice baseRate : Decimal) :
    List (TaxLot × Decimal) → Decimal → Decimal → TaxBudgetAccumulator →
      Decimal × TaxBudgetAccumulator
  | [], _, allowedQty, taxBudget => (allowedQty, taxBudget)
  | (lot, lotUnitCost) :: lots, remaining, allowedQty, taxBudget =>
    match taxBudgetSaleAllowanceWith fit remaining lot.quantity lotUnitCost sellPrice baseRate
        taxBudget with
    | none =>
      if taxBudgetAllowanceStopsLotScan none remaining then (allowedQty, taxBudget)
      else lotScanWith sellPrice baseRate lots remaining allowedQty taxBudget
    | some allowance =>
      let taxBudget := applyTaxBudgetLotAllowanceWith fit allowance taxBudget
      let allowedQty := fit (allowedQty + allowance.allowedQuantity)
      let remaining := fit (remaining - allowance.allowedQuantity)
      if taxBudgetAllowanceStopsLotScan (some allowance) remaining then (allowedQty, taxBudget)
      else lotScanWith sellPrice baseRate lots remaining allowedQty taxBudget

/-- `_tax_budget_limited_quantity_from_lots` -/
def taxBudgetLimitedQuantityFromLotsWith (sortedLots : List (TaxLot × Decimal))
    (requestedQty sellPrice baseRate : Decimal) (taxBudget : TaxBudgetAccumulator) :
    Decimal × TaxBudgetAccumulator :=
  lotScanWith fit sellPrice baseRate sortedLots requestedQty 0 taxBudget

theorem lotScanWith_id (sellPrice baseRate : Decimal) :
    ∀ (lots : List (TaxLot × Decimal)) (remaining allowedQty : Decimal)
      (taxBudget : TaxBudgetAccumulator),
      lotScanWith id sellPrice baseRate lots remaining allowedQty taxBudget =
        lotScan sellPrice baseRate lots remaining allowedQty taxBudget
  | [], _, _, _ => rfl
  | (lot, lotUnitCost) :: lots, remaining, allowedQty, taxBudget => by
    have hallowance : taxBudgetSaleAllowanceWith id remaining lot.quantity lotUnitCost sellPrice
        baseRate taxBudget = taxBudgetSaleAllowance remaining lot.quantity lotUnitCost sellPrice
          baseRate taxBudget := rfl
    rw [lotScanWith, lotScan, hallowance]
    cases taxBudgetSaleAllowance remaining lot.quantity lotUnitCost sellPrice baseRate
        taxBudget with
    | none =>
      dsimp only
      rw [lotScanWith_id sellPrice baseRate lots]
    | some allowance =>
      dsimp only
      rw [lotScanWith_id sellPrice baseRate lots]
      rfl

theorem taxBudgetLimitedQuantityFromLotsWith_id :
    taxBudgetLimitedQuantityFromLotsWith id = taxBudgetLimitedQuantityFromLots := by
  funext sortedLots requestedQty sellPrice baseRate taxBudget
  exact lotScanWith_id sellPrice baseRate sortedLots requestedQty 0 taxBudget

/-! ## Allocation weights -/

/-- `_allocation_metric` -/
def allocationMetricWith (key : String) (value totalValue : Decimal) (baseCcy : String) :
    AllocationMetric :=
  { key := key, weight := fit (value / totalValue), value := ⟨value, baseCcy⟩ }

theorem allocationMetricWith_id : allocationMetricWith id = allocationMetric := rfl

end LotusManage.Engine
