import LotusManage.Engine.Models

/-!
# Valuation

`src/core/valuation.py`.  A position is worth its stored market value when the
mode trusts the snapshot and the row carries one, and quantity times price
otherwise; cash is worth its amount at the rate to the base currency.
`buildSimulatedState` values the whole portfolio and records the prices and
rates it could not find.

The source threads `dq_log` through the valuation.  Here the value of a row and
the log entries of a row are separate functions: the value never depends on the
log, and the log is a fold over the same rows in the same order.
-/

namespace LotusManage.Engine

/-! ## Currency conversion -/

/-- The text of a currency pair. -/
def fxPair (fromCcy toCcy : String) : String := fromCcy ++ "/" ++ toCcy

/-- The first quote of a pair, whatever its value. -/
def quotedRate (marketData : MarketDataSnapshot) (pair : String) : Option Decimal :=
  (marketData.fxRates.find? (fun r => r.pair = pair)).map (·.rate)

/-- `get_fx_rate`: the direct quote, else the reciprocal of the inverse quote.  A
quote of zero counts as absent. -/
def getFxRate (marketData : MarketDataSnapshot) (fromCcy toCcy : String) : Option Decimal :=
  if fromCcy = toCcy then some 1
  else
    match (quotedRate marketData (fxPair fromCcy toCcy)).filter (· ≠ 0) with
    | some direct => some direct
    | none =>
      match (quotedRate marketData (fxPair toCcy fromCcy)).filter (· ≠ 0) with
      | some inverse => some (1 / inverse)
      | none => none

/-! ## One position -/

/-- The first price row of an instrument. -/
def priceOf (marketData : MarketDataSnapshot) (instrumentId : String) : Option Price :=
  marketData.prices.find? (fun price => price.instrumentId = instrumentId)

/-- `_position_price` -/
def positionPrice (position : Position) (marketData : MarketDataSnapshot) : Option Price :=
  priceOf marketData position.instrumentId

/-- `_position_price_value` -/
def positionPriceValue (price : Option Price) : Decimal :=
  match price with
  | none => 0
  | some price => price.price

/-- The stored market value that the valuation reads: the one of the row when
`_uses_trusted_market_value` holds. -/
def trustedMarketValue (position : Position) (options : EngineOptions) : Option Money :=
  match options.valuationMode with
  | .trustSnapshot => position.marketValue
  | .calculated => none

/-- `_position_valuation_currency` -/
def positionValuationCurrency (position : Position) (price : Option Price) (baseCcy : String)
    (options : EngineOptions) : String :=
  match trustedMarketValue position options, price with
  | some marketValue, _ => marketValue.currency
  | none, some price => price.currency
  | none, none => baseCcy

/-- `_position_value_in_instrument_ccy` -/
def positionValueInInstrumentCcy (position : Position) (priceValue : Decimal)
    (options : EngineOptions) : Decimal :=
  match trustedMarketValue position options with
  | some marketValue => marketValue.amount
  | none => position.quantity * priceValue

/-- `_position_value_in_base_ccy` -/
def positionValueInBaseCcy (marketData : MarketDataSnapshot) (instrumentValue : Decimal)
    (instrumentCurrency baseCcy : String) : Decimal :=
  match getFxRate marketData instrumentCurrency baseCcy with
  | none => 0
  | some rate => instrumentValue * rate

/-- `_position_price_money` -/
def positionPriceMoney (price : Option Price) (currency : String) : Option Money :=
  price.map (fun price => ⟨price.price, currency⟩)

/-- `ValuationService.value_position`; the weight is filled in later. -/
def valuePosition (position : Position) (marketData : MarketDataSnapshot) (baseCcy : String)
    (options : EngineOptions) : PositionSummary :=
  let price := positionPrice position marketData
  let currency := positionValuationCurrency position price baseCcy options
  let valueInInstrumentCcy :=
    positionValueInInstrumentCcy position (positionPriceValue price) options
  { instrumentId := position.instrumentId
    quantity := position.quantity
    instrumentCurrency := currency
    price := positionPriceMoney price currency
    valueInInstrumentCcy := ⟨valueInInstrumentCcy, currency⟩
    valueInBaseCcy :=
      ⟨positionValueInBaseCcy marketData valueInInstrumentCcy currency baseCcy, baseCcy⟩
    weight := 0 }

/-- The value of a position row in base currency. -/
def positionValue (marketData : MarketDataSnapshot) (baseCcy : String) (options : EngineOptions)
    (position : Position) : Decimal :=
  (valuePosition position marketData baseCcy options).valueInBaseCcy.amount

/-! ## Cash -/

/-- `_cash_value_in_base` -/
def cashValueInBase (marketData : MarketDataSnapshot) (baseCcy : String) (cash : CashBalance) :
    Decimal :=
  if cash.currency = baseCcy then cash.amount
  else
    match getFxRate marketData cash.currency baseCcy with
    | some rate => cash.amount * rate
    | none => 0

/-- `_total_cash_value` -/
def totalCashValue (cashBalances : List CashBalance) (marketData : MarketDataSnapshot)
    (baseCcy : String) : Decimal :=
  (cashBalances.map (cashValueInBase marketData baseCcy)).sum

/-! ## The data-quality log of a valuation -/

/-- The log entries of one position: a missing price, then a missing rate. -/
def recordPositionGaps (marketData : MarketDataSnapshot) (baseCcy : String)
    (options : EngineOptions) (log : DataQualityLog) (position : Position) : DataQualityLog :=
  let log :=
    if (priceOf marketData position.instrumentId).isNone then
      { log with priceMissing := log.priceMissing ++ [position.instrumentId] }
    else log
  let currency := (valuePosition position marketData baseCcy options).instrumentCurrency
  if currency = baseCcy then log
  else if (getFxRate marketData currency baseCcy).isNone then
    { log with fxMissing := log.fxMissing ++ [fxPair currency baseCcy] }
  else log

/-- The log entry of one cash row. -/
def recordCashGap (marketData : MarketDataSnapshot) (baseCcy : String) (log : DataQualityLog)
    (cash : CashBalance) : DataQualityLog :=
  if cash.currency = baseCcy then log
  else if (getFxRate marketData cash.currency baseCcy).isNone then
    { log with fxMissing := log.fxMissing ++ [fxPair cash.currency baseCcy] }
  else log

/-- The log after a valuation of the portfolio. -/
def valuationLog (portfolio : PortfolioSnapshot) (marketData : MarketDataSnapshot)
    (options : EngineOptions) (log : DataQualityLog) : DataQualityLog :=
  let log := portfolio.positions.foldl
    (recordPositionGaps marketData portfolio.baseCurrency options) log
  portfolio.cashBalances.foldl (recordCashGap marketData portfolio.baseCurrency) log

/-! ## Allocations -/

/-- `_shelf_by_instrument`: the last entry of a repeated instrument wins. -/
def shelfByInstrument (shelf : List ShelfEntry) : Dict String ShelfEntry :=
  Dict.ofEntries (shelf.map (fun entry => (entry.instrumentId, entry)))

/-- `_safe_total_value` -/
def safeTotalValue (totalValue : Decimal) : Decimal :=
  if totalValue = 0 then 1 else totalValue

/-- `_allocation_metric` -/
def allocationMetric (key : String) (value totalValue : Decimal) (baseCcy : String) :
    AllocationMetric :=
  { key := key, weight := value / totalValue, value := ⟨value, baseCcy⟩ }

/-- `_allocation_metrics` -/
def allocationMetrics (valuesByKey : Dict String Decimal) (totalValue : Decimal)
    (baseCcy : String) : List AllocationMetric :=
  valuesByKey.items.map (fun e => allocationMetric e.1 e.2 totalValue baseCcy)

/-- `allocation[key] = allocation.get(key, 0) + value` -/
def addAllocation (allocation : Dict String Decimal) (key : String) (value : Decimal) :
    Dict String Decimal :=
  allocation.set key (allocation.getD key 0 + value)

/-- `_add_attribute_allocations` -/
def addAttributeAllocations (allocationByAttribute : Dict String (Dict String Decimal))
    (shelfEntry : ShelfEntry) (value : Decimal) : Dict String (Dict String Decimal) :=
  shelfEntry.attributes.items.foldl
    (fun allocation attr =>
      allocation.set attr.1
        (addAllocation (allocation.getD attr.1 Dict.empty) attr.2 value))
    allocationByAttribute

/-- The asset class that the shelf gives a position. -/
def withAssetClass (shelfById : Dict String ShelfEntry) (position : PositionSummary) :
    PositionSummary :=
  match shelfById.get? position.instrumentId with
  | some entry => { position with assetClass := entry.assetClass }
  | none => position

/-- `_position_allocation_maps`, on the positions that already carry their asset
class. -/
def positionAllocationMaps (positions : List PositionSummary)
    (shelfById : Dict String ShelfEntry) :
    Dict String Decimal × Dict String (Dict String Decimal) :=
  positions.foldl
    (fun maps position =>
      let value := position.valueInBaseCcy.amount
      (addAllocation maps.1 position.assetClass value,
        match shelfById.get? position.instrumentId with
        | some entry => addAttributeAllocations maps.2 entry value
        | none => maps.2))
    (Dict.empty, Dict.empty)

/-! ## The whole portfolio -/

/-- The total value that `build_simulated_state` reports. -/
def totalPortfolioValue (portfolio : PortfolioSnapshot) (marketData : MarketDataSnapshot)
    (options : EngineOptions) : Decimal :=
  (portfolio.positions.map (positionValue marketData portfolio.baseCurrency options)).sum +
    totalCashValue portfolio.cashBalances marketData portfolio.baseCurrency

/-- `build_simulated_state` -/
def buildSimulatedState (portfolio : PortfolioSnapshot) (marketData : MarketDataSnapshot)
    (shelf : List ShelfEntry) (options : EngineOptions) : SimulatedState :=
  let baseCcy := portfolio.baseCurrency
  let totalVal := totalPortfolioValue portfolio marketData options
  let totalValSafe := safeTotalValue totalVal
  let shelfById := shelfByInstrument shelf
  let positions := portfolio.positions.map fun position =>
    let summary := valuePosition position marketData baseCcy options
    withAssetClass shelfById
      { summary with weight := summary.valueInBaseCcy.amount / totalValSafe }
  let maps := positionAllocationMaps positions shelfById
  let byAssetClass :=
    addAllocation maps.1 "CASH" (totalCashValue portfolio.cashBalances marketData baseCcy)
  { totalValue := ⟨totalVal, baseCcy⟩
    cashBalances := portfolio.cashBalances
    positions := positions
    allocationByAssetClass := allocationMetrics byAssetClass totalValSafe baseCcy
    allocationByInstrument := positions.map fun position =>
      { key := position.instrumentId, weight := position.weight, value := position.valueInBaseCcy }
    allocationByAttribute := maps.2.mapWithKeyTo fun _ valueMap =>
      allocationMetrics valueMap totalValSafe baseCcy }

end LotusManage.Engine
