import LotusManage.Engine.Compliance
import LotusManage.Engine.Solver
import LotusManage.Engine.SimulationShared

/-!
# Execution and simulation

`src/core/rebalance/execution.py` and `src/core/common/intent_dependencies.py`.
The cash that the security trades leave in each currency is swept into or funded
from the base currency, purchases are linked to what funds them, the intents are
ordered and applied, and the resulting portfolio is valued, checked by the rules
and reconciled with the value before.
-/

namespace LotusManage.Engine

/-! ## Foreign exchange -/

/-- The write of one trade to the projected cash. -/
def projectTradeCash (projectedCash : Dict String Decimal) (intent : SecurityTradeIntent) :
    Dict String Decimal :=
  match intent.notional with
  | none => projectedCash
  | some notional =>
    projectedCash.set notional.currency
      (projectedCash.getD notional.currency 0 + tradeCash intent.side notional.amount)

/-- `_project_cash_after_security_trades` -/
def projectCashAfterSecurityTrades (portfolio : PortfolioSnapshot)
    (intents : List SecurityTradeIntent) : Dict String Decimal :=
  intents.foldl projectTradeCash
    (Dict.ofEntries (portfolio.cashBalances.map (fun cash => (cash.currency, cash.amount))))

/-- `_fx_intent_for_projected_cash_balance` -/
def fxIntentForProjectedCashBalance (currency : String) (balance : Decimal)
    (baseCurrency : String) (rateToBase : Decimal) (intentId : String) (fxBufferPct : Decimal) :
    Option FxSpotIntent :=
  if balance < 0 then
    let buyAmount := |balance| * (1 + fxBufferPct)
    some
      { intentId := intentId
        pair := fxPair currency baseCurrency
        buyCurrency := currency
        buyAmount := buyAmount
        sellCurrency := baseCurrency
        sellAmountEstimated := buyAmount * rateToBase
        rationale := some ⟨"FUNDING", "Fund"⟩ }
  else if balance > 0 then
    some
      { intentId := intentId
        pair := fxPair currency baseCurrency
        buyCurrency := baseCurrency
        buyAmount := balance * rateToBase
        sellCurrency := currency
        sellAmountEstimated := balance
        rationale := some ⟨"SWEEP", "Sweep"⟩ }
  else none

/-- `_ProjectedCashFxResolution` -/
structure ProjectedCashFxResolution where
  intent : Option FxSpotIntent
  fundingCurrency : Option String := none
  missingFxPair : Option String := none
  blocked : Bool := false

/-- `_projected_cash_fx_resolution` -/
def projectedCashFxResolution (currency : String) (balance : Decimal) (baseCurrency : String)
    (marketData : MarketDataSnapshot) (intentId : String) (options : EngineOptions) :
    ProjectedCashFxResolution :=
  if currency = baseCurrency then { intent := none }
  else
    match getFxRate marketData currency baseCurrency with
    | none =>
      { intent := none
        missingFxPair := some (fxPair currency baseCurrency)
        blocked := options.blockOnMissingFx }
    | some rate =>
      let intent := fxIntentForProjectedCashBalance currency balance baseCurrency rate intentId
        options.fxBufferPct
      { intent := intent
        fundingCurrency := if balance < 0 ∧ intent.isSome then some currency else none }

/-- The state of the loop over the projected cash. -/
structure FxState where
  intents : List OrderIntent
  diagnostics : DiagnosticsData
  fxIntentIdByCurrency : Dict String String
  blocked : Bool

/-- `_append_projected_cash_fx_intent` and `_record_projected_cash_fx_missing_pair` -/
def applyFxResolution (resolution : ProjectedCashFxResolution) (state : FxState) : FxState :=
  let diagnostics := match resolution.missingFxPair with
    | some pair =>
      { state.diagnostics with
        dataQuality :=
          { state.diagnostics.dataQuality with
            fxMissing := state.diagnostics.dataQuality.fxMissing ++ [pair] } }
    | none => state.diagnostics
  if resolution.blocked then { state with diagnostics := diagnostics, blocked := true }
  else
    match resolution.intent with
    | none => { state with diagnostics := diagnostics }
    | some intent =>
      { state with
        intents := state.intents ++ [.fxSpot intent]
        diagnostics := diagnostics
        fxIntentIdByCurrency := match resolution.fundingCurrency with
          | some currency => state.fxIntentIdByCurrency.set currency intent.intentId
          | none => state.fxIntentIdByCurrency }

/-- The loop of `_append_projected_cash_fx_intents` over the balances that are
left; a blocked balance ends it. -/
def appendProjectedCashFxIntents (baseCurrency : String) (marketData : MarketDataSnapshot)
    (options : EngineOptions) : List (String × Decimal) → FxState → FxState
  | [], state => state
  | (currency, balance) :: balances, state =>
    let resolution := projectedCashFxResolution currency balance baseCurrency marketData
      ("oi_fx_" ++ toString (state.intents.length + 1)) options
    let state := applyFxResolution resolution state
    if state.blocked then state
    else appendProjectedCashFxIntents baseCurrency marketData options balances state

/-! ## Dependencies -/

/-- `sell_intent_id_by_currency` -/
def sellIntentIdByCurrency (intents : List OrderIntent) : Dict String String :=
  Dict.ofEntries ((securityTrades intents).filterMap fun intent =>
    match intent.side, intent.notional with
    | .sell, some notional => some (notional.currency, intent.intentId)
    | _, _ => none)

/-- `append_intent_dependency_once` -/
def appendIntentDependencyOnce (dependencies : List String) (dependencyId : Option String) :
    List String :=
  match dependencyId with
  | none => dependencies
  | some dependencyId =>
    if dependencyId ∈ dependencies then dependencies else dependencies ++ [dependencyId]

/-- The dependencies of one intent in `link_buy_intent_dependencies`. -/
def linkIntentDependencies (fxDependencies sellDependencies : Dict String String)
    (includeSameCurrencySell : Bool) : OrderIntent → OrderIntent
  | .fxSpot intent => .fxSpot intent
  | .securityTrade intent =>
    match intent.side, intent.notional with
    | .buy, some notional =>
      let dependencies := appendIntentDependencyOnce intent.dependencies
        (fxDependencies.get? notional.currency)
      .securityTrade
        { intent with
          dependencies :=
            if includeSameCurrencySell then
              appendIntentDependencyOnce dependencies (sellDependencies.get? notional.currency)
            else dependencies }
    | _, _ => .securityTrade intent

/-- `_link_execution_dependencies` -/
def linkExecutionDependencies (intents : List OrderIntent)
    (fxIntentIdByCurrency : Dict String String) (includeSameCurrencySell : Option Bool) :
    List OrderIntent :=
  let includeSell := includeSameCurrencySell.getD true
  intents.map (linkIntentDependencies fxIntentIdByCurrency
    (if includeSell then sellIntentIdByCurrency intents else Dict.empty) includeSell)

/-! ## The settlement ladder -/

/-- `_settlement_days_by_instrument` -/
def settlementDaysByInstrument (shelf : List ShelfEntry) : Dict String Nat :=
  Dict.ofEntries (shelf.map (fun entry => (entry.instrumentId, entry.settlementDays)))

/-- `_settlement_horizon_days` -/
def settlementHorizonDays (settlementDays : Dict String Nat) (intents : List OrderIntent)
    (options : EngineOptions) : Nat :=
  let maxSecurityDay :=
    ((securityTrades intents).map (fun intent => settlementDays.getD intent.instrumentId 2)).foldl
      max 0
  max (max options.settlementHorizonDays options.fxSettlementDays) maxSecurityDay

/-- `_ensure_settlement_currency`, followed by `flows[currency][day] += amount`. -/
def addFlow (horizonDays : Nat) (flows : Dict String (List Decimal)) (currency : String)
    (day : Nat) (amount : Decimal) : Dict String (List Decimal) :=
  let daily := flows.getD currency (List.replicate (horizonDays + 1) 0)
  flows.set currency (daily.modify day (· + amount))

/-- The flow of one intent in `_apply_intent_settlement_flows`. -/
def addIntentFlow (settlementDays : Dict String Nat) (horizonDays : Nat) (options : EngineOptions)
    (flows : Dict String (List Decimal)) : OrderIntent → Dict String (List Decimal)
  | .securityTrade intent =>
    match intent.notional with
    | none => flows
    | some notional =>
      addFlow horizonDays flows notional.currency (settlementDays.getD intent.instrumentId 2)
        (tradeCash intent.side notional.amount)
  | .fxSpot intent =>
    addFlow horizonDays
      (addFlow horizonDays flows intent.sellCurrency options.fxSettlementDays
        (-intent.sellAmountEstimated))
      intent.buyCurrency options.fxSettlementDays intent.buyAmount

/-- `_settlement_cash_flows` -/
def settlementCashFlows (portfolio : PortfolioSnapshot) (intents : List OrderIntent)
    (settlementDays : Dict String Nat) (horizonDays : Nat) (options : EngineOptions) :
    Dict String (List Decimal) :=
  let opening := portfolio.cashBalances.foldl
    (fun flows cash => addFlow horizonDays flows cash.currency 0 (cash.settled.getD cash.amount))
    Dict.empty
  (intents.insertionSort (fun a b => ¬ b.intentId < a.intentId)).foldl
    (addIntentFlow settlementDays horizonDays options) opening

/-- `_SettlementLadderProjection` -/
structure SettlementLadderProjection where
  points : List CashLadderPoint := []
  breaches : List CashLadderBreach := []
  overdraftUtilized : Bool := false

/-- The loop of `_settlement_ladder_projection_for_currency` over the days that
are left, from the balance of the day before. -/
def settlementLadderLoop (currency : String) (maxOverdraft : Decimal) :
    List Decimal → Nat → Decimal → SettlementLadderProjection
  | [], _, _ => {}
  | flow :: flows, day, balanceBefore =>
    let balance := balanceBefore + flow
    let rest := settlementLadderLoop currency maxOverdraft flows (day + 1) balance
    { points := ⟨day, currency, balance⟩ :: rest.points
      breaches :=
        if balance < -maxOverdraft then
          ⟨day, currency, balance, -maxOverdraft, "OVERDRAFT_ON_T_PLUS_" ++ toString day⟩ ::
            rest.breaches
        else rest.breaches
      overdraftUtilized :=
        (balance < 0 ∧ maxOverdraft > 0 : Bool) || rest.overdraftUtilized }

/-- `_settlement_ladder_projection` -/
def settlementLadderProjection (flows : Dict String (List Decimal)) (options : EngineOptions) :
    SettlementLadderProjection :=
  let projections := (sortedTexts flows.keys).map fun currency =>
    settlementLadderLoop currency (options.maxOverdraftByCcy.getD currency 0)
      (flows.getD currency []) 0 0
  { points := (projections.map (·.points)).flatten
    breaches := (projections.map (·.breaches)).flatten
    overdraftUtilized := projections.any (·.overdraftUtilized) }

/-- `build_settlement_ladder` -/
def buildSettlementLadder (portfolio : PortfolioSnapshot) (shelf : List ShelfEntry)
    (intents : List OrderIntent) (options : EngineOptions) (diagnostics : DiagnosticsData) :
    DiagnosticsData :=
  let settlementDays := settlementDaysByInstrument shelf
  let horizonDays := settlementHorizonDays settlementDays intents options
  let projection := settlementLadderProjection
    (settlementCashFlows portfolio intents settlementDays horizonDays options) options
  let diagnostics :=
    { diagnostics with
      cashLadder := diagnostics.cashLadder ++ projection.points
      cashLadderBreaches := diagnostics.cashLadderBreaches ++ projection.breaches }
  if projection.overdraftUtilized then diagnostics.warn "SETTLEMENT_OVERDRAFT_UTILIZED"
  else diagnostics

/-! ## The simulation -/

/-- The result of `generate_fx_and_simulate`.  The state is absent on the exit that
hands the portfolio snapshot on in its place. -/
structure ExecutionSimulation where
  intents : List OrderIntent
  state : Option SimulatedState
  rules : List RuleResult
  status : RunStatus
  reconciliation : Option Reconciliation
  diagnostics : DiagnosticsData

/-- `build_simulated_state`, with its entries in the data-quality log. -/
def valueWithLog (portfolio : PortfolioSnapshot) (marketData : MarketDataSnapshot)
    (shelf : List ShelfEntry) (options : EngineOptions) (diagnostics : DiagnosticsData) :
    SimulatedState × DiagnosticsData :=
  (buildSimulatedState portfolio marketData shelf options,
    { diagnostics with
      dataQuality := valuationLog portfolio marketData options diagnostics.dataQuality })

/-- `_settlement_blocked_simulation_result`, at the first breach. -/
def settlementBlockedSimulationResult (portfolio : PortfolioSnapshot)
    (marketData : MarketDataSnapshot) (shelf : List ShelfEntry) (intents : List OrderIntent)
    (options : EngineOptions) (firstBreach : CashLadderBreach) (diagnostics : DiagnosticsData) :
    ExecutionSimulation :=
  let valued := valueWithLog portfolio marketData shelf options
    (diagnostics.warn firstBreach.reasonCode)
  { intents := intents
    state := some valued.1
    rules :=
      [{ ruleId := "SETTLEMENT_CASH_LADDER", severity := .hard, status := .fail
         measured := firstBreach.allowedFloor - firstBreach.projectedBalance
         threshold := [("min", firstBreach.allowedFloor)]
         reasonCode := firstBreach.reasonCode
         remediationHint := some "Adjust timing, funding, or overdraft settings." }]
    status := .blocked
    reconciliation := none
    diagnostics := valued.2 }

/-- `_record_simulation_safety_warnings` -/
def recordSimulationSafetyWarnings (blockers : List String) (diagnostics : DiagnosticsData) :
    DiagnosticsData :=
  if "NO_SHORTING" ∈ blockers ∨ "INSUFFICIENT_CASH" ∈ blockers then
    diagnostics.warn "SIMULATION_SAFETY_CHECK_FAILED"
  else diagnostics

/-- `_reconciliation_rule` -/
def reconciliationRule (reconDiff tolerance : Decimal) : RuleResult :=
  { ruleId := "RECONCILIATION", severity := .hard, status := .fail, measured := reconDiff
    threshold := [("max", tolerance)], reasonCode := "VALUE_MISMATCH"
    remediationHint := some "Check pricing/FX or engine logic." }

/-- `_simulation_result_with_reconciliation` -/
def simulationResultWithReconciliation (intents : List OrderIntent) (state : SimulatedState)
    (rules : List RuleResult) (recon : Reconciliation × Decimal × Decimal)
    (diagnostics : DiagnosticsData) : ExecutionSimulation :=
  if recon.1.status = .mismatch then
    { intents := intents, state := some state
      rules := rules ++ [reconciliationRule recon.2.1 recon.2.2]
      status := .blocked, reconciliation := some recon.1, diagnostics := diagnostics }
  else
    { intents := intents, state := some state, rules := rules
      status := deriveStatusFromRules rules, reconciliation := some recon.1
      diagnostics := diagnostics }

/-- The part of `generate_fx_and_simulate` after the settlement check: the intents
are applied and the result is valued, checked and reconciled.  The valuation mode
after the trades is the one before (`_after_simulation_options`). -/
def simulateIntents (portfolio : PortfolioSnapshot) (marketData : MarketDataSnapshot)
    (shelf : List ShelfEntry) (intents : List OrderIntent) (options : EngineOptions)
    (totalValBefore : Decimal) (diagnostics : DiagnosticsData) : ExecutionSimulation :=
  let after := applyExecutionIntents portfolio intents
  let valued := valueWithLog after marketData shelf options diagnostics
  let rules := evaluateRules valued.1 options valued.2
  let blockers := hardRuleBlockers rules
  if blockers = [] then
    simulationResultWithReconciliation intents valued.1 rules
      (buildReconciliation totalValBefore valued.1.totalValue.amount totalValBefore
        portfolio.baseCurrency) valued.2
  else
    { intents := intents, state := some valued.1, rules := rules, status := .blocked
      reconciliation := none
      diagnostics := recordSimulationSafetyWarnings blockers valued.2 }

/-- The intents of a run with their FX intents, before dependencies and order. -/
def fxState (portfolio : PortfolioSnapshot) (marketData : MarketDataSnapshot)
    (intents : List SecurityTradeIntent) (options : EngineOptions)
    (diagnostics : DiagnosticsData) : FxState :=
  appendProjectedCashFxIntents portfolio.baseCurrency marketData options
    (projectCashAfterSecurityTrades portfolio intents).items
    ⟨intents.map .securityTrade, diagnostics, Dict.empty, false⟩

/-- The linked and ordered intents of a run. -/
def executionIntents (fx : FxState) (options : EngineOptions) : List OrderIntent :=
  sortExecutionIntents (linkExecutionDependencies fx.intents fx.fxIntentIdByCurrency
    options.linkBuyToSameCurrencySellDependency)

/-- `generate_fx_and_simulate` -/
def generateFxAndSimulate (portfolio : PortfolioSnapshot) (marketData : MarketDataSnapshot)
    (shelf : List ShelfEntry) (intents : List SecurityTradeIntent) (options : EngineOptions)
    (totalValBefore : Decimal) (diagnostics : DiagnosticsData) : ExecutionSimulation :=
  let fx := fxState portfolio marketData intents options diagnostics
  if fx.blocked then
    { intents := fx.intents, state := none, rules := [], status := .blocked
      reconciliation := none, diagnostics := fx.diagnostics }
  else
    let ordered := executionIntents fx options
    if options.enableSettlementAwareness then
      let diagnostics := buildSettlementLadder portfolio shelf ordered options fx.diagnostics
      match diagnostics.cashLadderBreaches with
      | firstBreach :: _ =>
        settlementBlockedSimulationResult portfolio marketData shelf ordered options firstBreach
          diagnostics
      | [] =>
        simulateIntents portfolio marketData shelf ordered options totalValBefore diagnostics
    else
      simulateIntents portfolio marketData shelf ordered options totalValBefore fx.diagnostics

/-! ## Blocking data quality -/

/-- `check_blocking_dq` -/
def checkBlockingDq (dq : DataQualityLog) (options : EngineOptions) : Bool :=
  dq.shelfMissing ≠ [] ∨
    (dq.priceMissing ≠ [] ∧ options.blockOnMissingPrices) ∨
    (dq.fxMissing ≠ [] ∧ options.blockOnMissingFx) ∨
    dq.minimumTradeThresholdFxUnavailable ≠ [] ∨
    (dq.taxLotEvidenceIncomplete ≠ [] ∧ options.enableTaxAwareness)

end LotusManage.Engine
