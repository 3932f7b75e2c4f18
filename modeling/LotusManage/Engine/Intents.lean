import LotusManage.Engine.TaxBudget

/-!
# Security intents

`src/core/rebalance/intents.py`.  Every target instrument is sized in turn: the
gap between the target value and the current value, divided by the value of one
unit, gives a whole number of units; a sale goes through the limits of the
holding and of the tax budget; a candidate below the minimum notional is
suppressed; what is left becomes an intent.

Sizing reads the stored market value of a row whenever the row has one, whatever
the valuation mode is.
-/

namespace LotusManage.Engine

/-! ## The minimum notional -/

/-- `_trade_notional_threshold` -/
def tradeNotionalThreshold (options : EngineOptions) (shelfEntry : Option ShelfEntry) :
    Option Money :=
  match options.minTradeNotional with
  | some threshold => some threshold
  | none => shelfEntry.bind (·.minNotional)

/-- `_TradeThresholdComparison` -/
structure TradeThresholdComparison where
  comparisonThreshold : Option Money
  fxPair : String
  fxQuoteRate : Option Decimal
  conversionRate : Option Decimal
  fxDirection : Option ConversionDirection
  reasonCode : String

/-- `_ThresholdFxQuote` -/
structure ThresholdFxQuote where
  pair : String
  quoteRate : Option Decimal
  conversionRate : Option Decimal
  direction : Option ConversionDirection

/-- `_threshold_fx_quote` -/
def thresholdFxQuote (thresholdCurrency notionalCurrency : String)
    (marketData : MarketDataSnapshot) : ThresholdFxQuote :=
  let directPair := fxPair thresholdCurrency notionalCurrency
  match quotedRate marketData directPair with
  | some directRate => ⟨directPair, some directRate, some directRate, some .direct⟩
  | none =>
    let inversePair := fxPair notionalCurrency thresholdCurrency
    match quotedRate marketData inversePair with
    | some inverseRate =>
      ⟨inversePair, some inverseRate, if inverseRate > 0 then some (1 / inverseRate) else none,
        some .inverse⟩
    | none => ⟨directPair, none, none, none⟩

/-- `_trade_threshold_comparison` -/
def tradeThresholdComparison (threshold : Money) (notionalCurrency : String)
    (marketData : MarketDataSnapshot) : TradeThresholdComparison :=
  if threshold.currency = notionalCurrency then
    ⟨some threshold, fxPair threshold.currency notionalCurrency, some 1, some 1, some .identity,
      "MIN_TRADE_THRESHOLD_READY"⟩
  else
    let quote := thresholdFxQuote threshold.currency notionalCurrency marketData
    match quote.quoteRate, quote.conversionRate with
    | none, _ => ⟨none, quote.pair, none, none, none, "MIN_TRADE_THRESHOLD_FX_MISSING"⟩
    | some quoteRate, none =>
      ⟨none, quote.pair, some quoteRate, none, quote.direction, "MIN_TRADE_THRESHOLD_FX_INVALID"⟩
    | some quoteRate, some conversionRate =>
      if quoteRate ≤ 0 then
        ⟨none, quote.pair, some quoteRate, none, quote.direction,
          "MIN_TRADE_THRESHOLD_FX_INVALID"⟩
      else
        ⟨some ⟨threshold.amount * conversionRate, notionalCurrency⟩, quote.pair, some quoteRate,
          some conversionRate, quote.direction, "MIN_TRADE_THRESHOLD_READY"⟩

/-- The evaluation record of a compared candidate. -/
def thresholdEvaluation (instrumentId : String) (side : Side) (intendedNotional threshold : Money)
    (comparison : TradeThresholdComparison) (outcome : ComparisonOutcome) (reasonCode : String) :
    MinimumTradeThresholdEvaluation :=
  { instrumentId := instrumentId
    side := side
    comparisonOutcome := outcome
    intendedNotional := intendedNotional
    configuredThreshold := threshold
    comparisonThreshold := comparison.comparisonThreshold
    fxQuotePair := some comparison.fxPair
    fxQuoteRate := comparison.fxQuoteRate
    conversionRate := comparison.conversionRate
    conversionDirection := comparison.fxDirection
    reasonCode := reasonCode }

/-- `diagnostics.minimum_trade_threshold_evaluations.append(...)` -/
def DiagnosticsData.evaluated (diagnostics : DiagnosticsData)
    (evaluation : MinimumTradeThresholdEvaluation) : DiagnosticsData :=
  { diagnostics with
    minimumTradeThresholdEvaluations :=
      diagnostics.minimumTradeThresholdEvaluations ++ [evaluation] }

/-- `_suppress_dust_trade`, for a configured threshold and the one to compare with:
whether the candidate is suppressed, and the diagnostics. -/
def suppressDustTrade (instrumentId : String) (intendedNotional threshold : Money)
    (options : EngineOptions) (comparisonThreshold : Money) (diagnostics : DiagnosticsData) :
    Bool × DiagnosticsData :=
  if !options.suppressDustTrades ∨ comparisonThreshold.amount ≤ intendedNotional.amount then
    (false, diagnostics)
  else
    (true,
      { diagnostics with
        suppressedIntents := diagnostics.suppressedIntents ++
          [⟨instrumentId, "BELOW_MIN_NOTIONAL", intendedNotional, threshold⟩] })

/-- `_minimum_trade_threshold_excludes_candidate`: whether the candidate is
excluded, and the diagnostics. -/
def minimumTradeThresholdExcludesCandidate (instrumentId : String) (side : Side)
    (intendedNotional : Money) (threshold : Option Money) (options : EngineOptions)
    (marketData : MarketDataSnapshot) (diagnostics : DiagnosticsData) : Bool × DiagnosticsData :=
  match threshold with
  | none => (false, diagnostics)
  | some threshold =>
    if !options.suppressDustTrades then (false, diagnostics)
    else
      let comparison := tradeThresholdComparison threshold intendedNotional.currency marketData
      match comparison.comparisonThreshold with
      | none =>
        let dataQuality := { diagnostics.dataQuality with
          minimumTradeThresholdFxUnavailable :=
            diagnostics.dataQuality.minimumTradeThresholdFxUnavailable ++ [comparison.fxPair] }
        let diagnostics := { diagnostics with dataQuality := dataQuality }
        (true, (diagnostics.warn comparison.reasonCode).evaluated
          (thresholdEvaluation instrumentId side intendedNotional threshold comparison .blocked
            comparison.reasonCode))
      | some comparisonThreshold =>
        let suppressed := suppressDustTrade instrumentId intendedNotional threshold options
          comparisonThreshold diagnostics
        (suppressed.1, suppressed.2.evaluated
          (thresholdEvaluation instrumentId side intendedNotional threshold comparison
            (if suppressed.1 then .suppressed else .kept)
            (if suppressed.1 then "BELOW_MIN_NOTIONAL" else "MIN_TRADE_THRESHOLD_SATISFIED")))

/-! ## Sizing -/

/-- `_TargetTradeDelta` -/
structure TargetTradeDelta where
  side : Side
  rawQuantity : Decimal
  deriving DecidableEq

/-- `a // b` on decimals: the quotient truncated toward zero. -/
def decimalIntDiv (a b : Decimal) : Int :=
  if 0 ≤ a / b then (a / b).floor else (a / b).ceil

/-- `_target_trade_delta`; a unit value of zero raises. -/
def targetTradeDelta (targetInstrumentValue currentInstrumentValue unitValue : Decimal) :
    Except EngineError TargetTradeDelta :=
  let delta := targetInstrumentValue - currentInstrumentValue
  if unitValue = 0 then .error .divisionByZero
  else .ok ⟨if delta > 0 then .buy else .sell, decimalIntDiv |delta| unitValue⟩

/-- The first row of an instrument. -/
def positionOf (portfolio : PortfolioSnapshot) (instrumentId : String) : Option Position :=
  portfolio.positions.find? (fun position => position.instrumentId = instrumentId)

/-- `_intent_market_context`: the price and the rate, or the diagnostics of what
is missing.  A rate that exists is never zero. -/
def intentMarketContext (instrumentId : String) (portfolio : PortfolioSnapshot)
    (marketData : MarketDataSnapshot) (diagnostics : DiagnosticsData) :
    Except DiagnosticsData (Price × Decimal) :=
  match priceOf marketData instrumentId with
  | none => .error (diagnostics.priceMissing instrumentId)
  | some price =>
    match getFxRate marketData price.currency portfolio.baseCurrency with
    | none => .error (diagnostics.fxMissing (fxPair price.currency portfolio.baseCurrency))
    | some rate => .ok (price, rate)

/-- `_current_instrument_value_and_unit_value` -/
def currentInstrumentValueAndUnitValue (position : Option Position) (price : Price) :
    Decimal × Decimal :=
  match position with
  | none => (0, price.price)
  | some position =>
    match position.marketValue with
    | none => (position.quantity * price.price, price.price)
    | some marketValue =>
      if position.quantity > 0 then (marketValue.amount, marketValue.amount / position.quantity)
      else (marketValue.amount, price.price)

/-- `_target_weight_by_instrument` -/
def targetWeightByInstrument (targets : List TargetInstrument) : Dict String Decimal :=
  Dict.ofEntries (targets.map (fun target => (target.instrumentId, target.finalWeight)))

/-- `_TargetIntentContext` -/
structure TargetIntentContext where
  instrumentId : String
  side : Side
  requestedQuantity : Decimal
  quantity : Decimal
  unitValue : Decimal
  baseRate : Decimal
  priceCurrency : String
  threshold : Option Money
  sellQuantityBeforeTax : Option Decimal

/-- What the sizing of one instrument leaves behind. -/
structure SizingState where
  taxBudget : TaxBudgetAccumulator
  diagnostics : DiagnosticsData

/-- The sized candidate of an instrument, before the minimum notional is
checked. -/
def sizedCandidate (instrumentId : String) (targetWeight : Decimal)
    (portfolio : PortfolioSnapshot) (marketData : MarketDataSnapshot) (shelf : List ShelfEntry)
    (options : EngineOptions) (totalVal : Decimal) (price : Price) (rate : Decimal)
    (state : SizingState) : Except EngineError (TargetIntentContext × SizingState) :=
  let position := positionOf portfolio instrumentId
  let values := currentInstrumentValueAndUnitValue position price
  match targetTradeDelta ((totalVal * targetWeight) / rate) values.1 values.2 with
  | .error error => .error error
  | .ok tradeDelta =>
    let limited := sellQuantityAfterSafetyLimits instrumentId tradeDelta.side
      tradeDelta.rawQuantity position options values.2 price.currency rate marketData
      state.taxBudget state.diagnostics
    .ok (
      { instrumentId := instrumentId
        side := tradeDelta.side
        requestedQuantity := tradeDelta.rawQuantity
        quantity := limited.1.quantity
        unitValue := values.2
        baseRate := rate
        priceCurrency := price.currency
        threshold := tradeNotionalThreshold options
          (shelf.find? (fun entry => entry.instrumentId = instrumentId))
        sellQuantityBeforeTax := limited.1.sellQuantityBeforeTax },
      ⟨limited.2.1, limited.2.2⟩)

/-- `_target_intent_context` -/
def targetIntentContext (instrumentId : String) (targetWeight : Decimal)
    (portfolio : PortfolioSnapshot) (marketData : MarketDataSnapshot) (shelf : List ShelfEntry)
    (options : EngineOptions) (totalVal : Decimal) (state : SizingState) :
    Except EngineError (Option TargetIntentContext × SizingState) :=
  match intentMarketContext instrumentId portfolio marketData state.diagnostics with
  | .error diagnostics => .ok (none, { state with diagnostics := diagnostics })
  | .ok (price, rate) =>
    match sizedCandidate instrumentId targetWeight portfolio marketData shelf options totalVal
        price rate state with
    | .error error => .error error
    | .ok (candidate, state) =>
      let excluded := minimumTradeThresholdExcludesCandidate instrumentId candidate.side
        ⟨candidate.quantity * candidate.unitValue, price.currency⟩ candidate.threshold options
        marketData state.diagnostics
      .ok (if excluded.1 then none else some candidate,
        { state with diagnostics := excluded.2 })

/-! ## Intents -/

/-- `_security_intent_constraints` -/
def securityIntentConstraints (context : TargetIntentContext) (taxAwarenessEnabled : Bool) :
    List String :=
  (if context.threshold.isSome then ["MIN_NOTIONAL"] else []) ++
    (if context.side = .sell ∧ context.quantity < context.requestedQuantity then
      ["AVAILABLE_HOLDING"] else []) ++
    (if taxBudgetConstraintApplies context.side context.quantity context.sellQuantityBeforeTax
        taxAwarenessEnabled then ["TAX_BUDGET"] else [])

/-- `_security_trade_intent` -/
def securityTradeIntent (intentId : String) (context : TargetIntentContext)
    (portfolioBaseCurrency : String) (taxAwarenessEnabled : Bool) : SecurityTradeIntent :=
  let notional := context.quantity * context.unitValue
  { intentId := intentId
    side := context.side
    instrumentId := context.instrumentId
    quantity := some context.quantity
    notional := some ⟨notional, context.priceCurrency⟩
    notionalBase := some ⟨notional * context.baseRate, portfolioBaseCurrency⟩
    rationale := some ⟨"DRIFT_REBALANCE", "Align"⟩
    constraintsApplied := securityIntentConstraints context taxAwarenessEnabled }

/-- `_append_security_trade_intent` -/
def appendSecurityTradeIntent (intents : List SecurityTradeIntent) (context : TargetIntentContext)
    (portfolioBaseCurrency : String) (taxAwarenessEnabled : Bool) : List SecurityTradeIntent :=
  if context.quantity ≤ 0 then intents
  else intents ++ [securityTradeIntent ("oi_" ++ toString (intents.length + 1)) context
    portfolioBaseCurrency taxAwarenessEnabled]

/-- The state of the loop of `generate_intents`. -/
structure IntentState where
  intents : List SecurityTradeIntent
  sizing : SizingState

/-- One turn of the loop of `generate_intents`. -/
def generateIntentStep (portfolio : PortfolioSnapshot) (marketData : MarketDataSnapshot)
    (shelf : List ShelfEntry) (options : EngineOptions) (totalVal : Decimal) (state : IntentState)
    (target : String × Decimal) : Except EngineError IntentState :=
  match targetIntentContext target.1 target.2 portfolio marketData shelf options totalVal
      state.sizing with
  | .error error => .error error
  | .ok (none, sizing) => .ok ⟨state.intents, sizing⟩
  | .ok (some context, sizing) =>
    .ok ⟨appendSecurityTradeIntent state.intents context portfolio.baseCurrency
      options.enableTaxAwareness, sizing⟩

/-- The loop of `generate_intents` over the targets that are left. -/
def generateIntentsLoop (portfolio : PortfolioSnapshot) (marketData : MarketDataSnapshot)
    (shelf : List ShelfEntry) (options : EngineOptions) (totalVal : Decimal) :
    List (String × Decimal) → IntentState → Except EngineError IntentState
  | [], state => .ok state
  | target :: targets, state =>
    match generateIntentStep portfolio marketData shelf options totalVal state target with
    | .error error => .error error
    | .ok state => generateIntentsLoop portfolio marketData shelf options totalVal targets state

/-- The accumulator at the start of `generate_intents`. -/
def initialTaxBudget (options : EngineOptions) : TaxBudgetAccumulator :=
  { taxBudgetLimitBase := options.maxRealizedCapitalGains }

/-- `generate_intents` -/
def generateIntents (portfolio : PortfolioSnapshot) (marketData : MarketDataSnapshot)
    (targets : List TargetInstrument) (shelf : List ShelfEntry) (options : EngineOptions)
    (totalVal : Decimal) (diagnostics : DiagnosticsData) :
    Except EngineError (List SecurityTradeIntent × Option TaxImpact × DiagnosticsData) :=
  match generateIntentsLoop portfolio marketData shelf options totalVal
      (targetWeightByInstrument targets).items ⟨[], ⟨initialTaxBudget options, diagnostics⟩⟩ with
  | .error error => .error error
  | .ok state =>
    .ok (state.intents,
      if options.enableTaxAwareness then
        some (taxImpactFromBudget state.sizing.taxBudget portfolio.baseCurrency)
      else none,
      state.sizing.diagnostics)

theorem generateIntents_of_loop {portfolio : PortfolioSnapshot} {marketData : MarketDataSnapshot}
    {targets : List TargetInstrument} {shelf : List ShelfEntry} {options : EngineOptions}
    {totalVal : Decimal} {diagnostics : DiagnosticsData} {state : IntentState}
    (h : generateIntentsLoop portfolio marketData shelf options totalVal
      (targetWeightByInstrument targets).items ⟨[], ⟨initialTaxBudget options, diagnostics⟩⟩ =
        .ok state) :
    generateIntents portfolio marketData targets shelf options totalVal diagnostics =
      .ok (state.intents,
        if options.enableTaxAwareness then
          some (taxImpactFromBudget state.sizing.taxBudget portfolio.baseCurrency)
        else none,
        state.sizing.diagnostics) := by
  rw [generateIntents, h]

end LotusManage.Engine
