import LotusManage.Engine.Models

/-!
# The rule engine

`src/core/compliance.py`.  Every rule emits at least one result; a hard failure
blocks a run and a soft failure sends it to review.
-/

namespace LotusManage.Engine

/-- The weight of the cash row of an allocation. -/
def cashWeight (state : SimulatedState) : Decimal :=
  match state.allocationByAssetClass.find? (fun a => a.key = "CASH") with
  | some metric => metric.weight
  | none => 0

/-- `_cash_band_rule_result` -/
def cashBandRuleResult (state : SimulatedState) (options : EngineOptions) : RuleResult :=
  let weight := cashWeight state
  let threshold := [("min", options.cashBandMinWeight), ("max", options.cashBandMaxWeight)]
  if weight < options.cashBandMinWeight ∨ weight > options.cashBandMaxWeight then
    { ruleId := "CASH_BAND", severity := .soft, status := .fail, measured := weight
      threshold := threshold, reasonCode := "THRESHOLD_BREACH"
      remediationHint := some "Portfolio cash is outside policy bands." }
  else
    { ruleId := "CASH_BAND", severity := .soft, status := .pass, measured := weight
      threshold := threshold, reasonCode := "OK" }

/-- `_cash_reserve_target_rule_result` -/
def cashReserveTargetRuleResult (state : SimulatedState) (options : EngineOptions) :
    Option RuleResult :=
  match options.cashReserveTargetWeight with
  | none => none
  | some target =>
    let weight := cashWeight state
    let threshold := [("target", target), ("tolerance", options.cashReserveTargetTolerance)]
    if |weight - target| ≤ options.cashReserveTargetTolerance then
      some { ruleId := "CASH_RESERVE_TARGET", severity := .soft, status := .pass
             measured := weight, threshold := threshold
             reasonCode := "TARGET_MET_WITHIN_TOLERANCE" }
    else
      some { ruleId := "CASH_RESERVE_TARGET", severity := .soft, status := .fail
             measured := weight, threshold := threshold, reasonCode := "TARGET_DEVIATION"
             remediationHint :=
               some "Review lot, rounding, liquidity, and settlement constraints." }

/-- The breach result of one position in `_single_position_max_rule_results`. -/
def singlePositionBreach (limitW : Decimal) (position : AllocationMetric) : Option RuleResult :=
  if position.weight > limitW + 1 / 1000 then
    some { ruleId := "SINGLE_POSITION_MAX", severity := .hard, status := .fail
           measured := position.weight, threshold := [("max", limitW)]
           reasonCode := "LIMIT_BREACH"
           remediationHint :=
             some ("Instrument " ++ position.key ++ " exceeds max weight.") }
  else none

/-- `_single_position_max_rule_results` -/
def singlePositionMaxRuleResults (state : SimulatedState) (options : EngineOptions) :
    List RuleResult :=
  match options.singlePositionMaxWeight with
  | none =>
    [{ ruleId := "SINGLE_POSITION_MAX", severity := .hard, status := .pass, measured := 0
       threshold := [("max", -1)], reasonCode := "NO_LIMIT_SET" }]
  | some limitW =>
    match state.allocationByInstrument.filterMap (singlePositionBreach limitW) with
    | [] =>
      [{ ruleId := "SINGLE_POSITION_MAX", severity := .hard, status := .pass
         measured := (state.allocationByInstrument.map (·.weight)).foldl max 0
         threshold := [("max", limitW)], reasonCode := "OK" }]
    | breach :: breaches => breach :: breaches

/-- `dq_count` of `_data_quality_rule_result` -/
def dataQualityCount (diagnostics : DiagnosticsData) (options : EngineOptions) : Nat :=
  let dq := diagnostics.dataQuality
  (if options.blockOnMissingPrices then dq.priceMissing.length else 0) +
    (if options.blockOnMissingFx then dq.fxMissing.length else 0) +
    dq.shelfMissing.length + dq.minimumTradeThresholdFxUnavailable.length

/-- `_data_quality_rule_result` -/
def dataQualityRuleResult (diagnostics : DiagnosticsData) (options : EngineOptions) :
    RuleResult :=
  let dqCount := dataQualityCount diagnostics options
  if dqCount > 0 then
    { ruleId := "DATA_QUALITY", severity := .hard, status := .fail, measured := dqCount
      threshold := [("max", 0)], reasonCode := "MISSING_DATA"
      remediationHint :=
        some "Check diagnostics for missing prices, FX, or threshold conversion." }
  else
    { ruleId := "DATA_QUALITY", severity := .hard, status := .pass, measured := dqCount
      threshold := [("max", 0)], reasonCode := "OK" }

/-- `_min_trade_size_rule_result` -/
def minTradeSizeRuleResult (diagnostics : DiagnosticsData) : RuleResult :=
  let suppressedCount := diagnostics.suppressedIntents.length
  { ruleId := "MIN_TRADE_SIZE", severity := .soft, status := .pass, measured := suppressedCount
    threshold := [("min", 0)]
    reasonCode := if suppressedCount > 0 then "INTENTS_SUPPRESSED" else "OK" }

/-- A hard rule that fails when the least of the given numbers is negative.  Both
safety rules of the source are this rule. -/
def nonNegativeRuleResult (ruleId reasonCode remediationHint : String) (values : List Decimal) :
    RuleResult :=
  let least := values.foldl (fun least value => if value < 0 then min least value else least) 0
  if least < 0 then
    { ruleId := ruleId, severity := .hard, status := .fail, measured := least
      threshold := [("min", 0)], reasonCode := reasonCode
      remediationHint := some remediationHint }
  else
    { ruleId := ruleId, severity := .hard, status := .pass, measured := 0
      threshold := [("min", 0)], reasonCode := "OK" }

/-- `_no_shorting_rule_result` -/
def noShortingRuleResult (state : SimulatedState) : RuleResult :=
  nonNegativeRuleResult "NO_SHORTING" "SELL_EXCEEDS_HOLDINGS" "Reduce sell quantity."
    (state.positions.map (·.quantity))

/-- `_insufficient_cash_rule_result` -/
def insufficientCashRuleResult (state : SimulatedState) : RuleResult :=
  nonNegativeRuleResult "INSUFFICIENT_CASH" "CASH_BALANCE_NEGATIVE" "Ensure sufficient funding."
    (state.cashBalances.map (·.amount))

/-- `RuleEngine.evaluate` -/
def evaluateRules (state : SimulatedState) (options : EngineOptions)
    (diagnostics : DiagnosticsData) : List RuleResult :=
  [cashBandRuleResult state options] ++
    (cashReserveTargetRuleResult state options).toList ++
    singlePositionMaxRuleResults state options ++
    [dataQualityRuleResult diagnostics options, minTradeSizeRuleResult diagnostics,
      noShortingRuleResult state, insufficientCashRuleResult state]

/-! ## Statuses of a rule list -/

/-- A rule that failed with a severity. -/
def RuleResult.failedAs (rule : RuleResult) (severity : Severity) : Bool :=
  rule.severity = severity ∧ rule.status = .fail

/-- `derive_status_from_rules` -/
def deriveStatusFromRules (ruleResults : List RuleResult) : RunStatus :=
  if ruleResults.any (·.failedAs .hard) then .blocked
  else if ruleResults.any (·.failedAs .soft) then .pendingReview
  else .ready

/-- `_hard_rule_blockers` -/
def hardRuleBlockers (rules : List RuleResult) : List String :=
  (rules.filter (·.failedAs .hard)).map (·.ruleId)

end LotusManage.Engine
