import LotusManage.Lib.Dict
import Mathlib.Data.Rat.Defs
import Mathlib.Data.Rat.Floor
import Mathlib.Algebra.Order.Ring.Unbundled.Rat

/-!
# The data model of the rebalance engine

The records of `src/core/models.py` that the engine reads and writes.  A
`Decimal` of the source is an exact rational here: the 28-digit rounding of the
source's context is not modelled.  An optional field is an `Option`, a literal
type is an enumeration, and a dictionary is a `Dict`.

Two validators of the source are structure fields, because no code path builds a
value without them: the quantity of a tax lot is not negative, and the bound of
a group constraint lies between zero and one.  The validators of
`EngineOptions` are not fields, because a policy pack copies options without
validating them again.
-/

namespace LotusManage

/-- A `Decimal`, read as the exact number it denotes. -/
abbrev Decimal := ℚ

namespace Engine

inductive ValuationMode where
  | calculated
  | trustSnapshot

inductive TargetMethod where
  | heuristic
  | solver

structure Money where
  amount : Decimal
  currency : String
  deriving DecidableEq

structure FxRate where
  pair : String
  rate : Decimal

structure TaxLot where
  lotId : String
  quantity : Decimal
  unitCost : Money
  purchaseDate : String
  quantityNonneg : 0 ≤ quantity := by decide +kernel
  deriving DecidableEq

-- a quantity that several examples use
theorem ten_nonneg : (0 : Decimal) ≤ 10 := by decide +kernel

structure Position where
  instrumentId : String
  quantity : Decimal
  marketValue : Option Money := none
  lots : List TaxLot := []

structure CashBalance where
  currency : String
  amount : Decimal
  settled : Option Decimal := none

structure PortfolioSnapshot where
  portfolioId : String
  baseCurrency : String
  positions : List Position := []
  cashBalances : List CashBalance := []

structure Price where
  instrumentId : String
  price : Decimal
  currency : String
  deriving DecidableEq

structure MarketDataSnapshot where
  prices : List Price := []
  fxRates : List FxRate := []

structure ModelTarget where
  instrumentId : String
  weight : Decimal

structure ModelPortfolio where
  targets : List ModelTarget

inductive ShelfStatus where
  | approved
  | restricted
  | banned
  | suspended
  | sellOnly
  deriving DecidableEq

/-- The text of a shelf status in a reason code. -/
def ShelfStatus.text : ShelfStatus → String
  | approved => "APPROVED"
  | restricted => "RESTRICTED"
  | banned => "BANNED"
  | suspended => "SUSPENDED"
  | sellOnly => "SELL_ONLY"

structure ShelfEntry where
  instrumentId : String
  status : ShelfStatus
  assetClass : String := "UNKNOWN"
  settlementDays : Nat := 2
  minNotional : Option Money := none
  attributes : Dict String String := Dict.empty

structure GroupConstraint where
  maxWeight : Decimal
  maxWeightNonneg : 0 ≤ maxWeight := by decide +kernel
  maxWeightLeOne : maxWeight ≤ 1 := by decide +kernel
  deriving DecidableEq

/-- `EngineOptions`, with the source's defaults.  The fields that no engine
function reads are left out. -/
structure EngineOptions where
  valuationMode : ValuationMode := .calculated
  targetMethod : TargetMethod := .heuristic
  compareTargetMethods : Bool := false
  compareTargetMethodsTolerance : Decimal := 1 / 10000
  cashBandMinWeight : Decimal := 0
  cashBandMaxWeight : Decimal := 1
  singlePositionMaxWeight : Option Decimal := none
  minTradeNotional : Option Money := none
  allowRestricted : Bool := false
  suppressDustTrades : Bool := true
  fxBufferPct : Decimal := 1 / 100
  blockOnMissingPrices : Bool := true
  blockOnMissingFx : Bool := true
  minCashBufferPct : Decimal := 0
  cashReserveTargetWeight : Option Decimal := none
  cashReserveTargetTolerance : Decimal := 1 / 10000
  maxTurnoverPct : Option Decimal := none
  enableTaxAwareness : Bool := false
  maxRealizedCapitalGains : Option Decimal := none
  enableSettlementAwareness : Bool := false
  enableWorkflowGates : Bool := true
  workflowRequiresMandateApproval : Bool := false
  mandateApprovalAlreadyObtained : Bool := false
  linkBuyToSameCurrencySellDependency : Option Bool := none
  settlementHorizonDays : Nat := 5
  fxSettlementDays : Nat := 2
  maxOverdraftByCcy : Dict String Decimal := Dict.empty
  groupConstraints : Dict String GroupConstraint := Dict.empty

/-! ## Valuation output -/

structure AllocationMetric where
  key : String
  weight : Decimal
  value : Money

structure PositionSummary where
  instrumentId : String
  quantity : Decimal
  instrumentCurrency : String
  assetClass : String := "UNKNOWN"
  price : Option Money
  valueInInstrumentCcy : Money
  valueInBaseCcy : Money
  weight : Decimal

structure SimulatedState where
  totalValue : Money
  cashBalances : List CashBalance
  positions : List PositionSummary
  allocationByAssetClass : List AllocationMetric
  allocationByInstrument : List AllocationMetric
  allocationByAttribute : Dict String (List AllocationMetric)

/-! ## Universe and targets -/

structure ExcludedInstrument where
  instrumentId : String
  reasonCode : String
  deriving DecidableEq

structure UniverseCoverage where
  priceCoveragePct : Decimal
  fxCoveragePct : Decimal

structure UniverseData where
  universeId : String
  eligibleForBuy : List String
  eligibleForSell : List String
  excluded : List ExcludedInstrument
  coverage : UniverseCoverage

structure TargetInstrument where
  instrumentId : String
  modelWeight : Decimal
  finalWeight : Decimal
  finalValue : Money
  tags : List String

structure TargetData where
  targetId : String
  targets : List TargetInstrument

/-! ## Intents -/

inductive Side where
  | buy
  | sell
  deriving DecidableEq

structure IntentRationale where
  code : String
  message : String
  deriving DecidableEq

structure SecurityTradeIntent where
  intentId : String
  instrumentId : String
  side : Side
  quantity : Option Decimal
  notional : Option Money
  notionalBase : Option Money
  dependencies : List String := []
  rationale : Option IntentRationale := none
  constraintsApplied : List String := []
  deriving DecidableEq

structure FxSpotIntent where
  intentId : String
  pair : String
  buyCurrency : String
  buyAmount : Decimal
  sellCurrency : String
  sellAmountEstimated : Decimal
  dependencies : List String := []
  rationale : Option IntentRationale := none
  deriving DecidableEq

inductive OrderIntent where
  | securityTrade (intent : SecurityTradeIntent)
  | fxSpot (intent : FxSpotIntent)
  deriving DecidableEq

def OrderIntent.intentId : OrderIntent → String
  | securityTrade intent => intent.intentId
  | fxSpot intent => intent.intentId

/-- The security trades of an intent list, in order. -/
def securityTrades (intents : List OrderIntent) : List SecurityTradeIntent :=
  intents.filterMap fun
    | .securityTrade intent => some intent
    | .fxSpot _ => none

/-! ## Rules, diagnostics and the result -/

inductive Severity where
  | hard
  | soft
  | info
  deriving DecidableEq

inductive RuleStatus where
  | pass
  | fail
  deriving DecidableEq

structure RuleResult where
  ruleId : String
  severity : Severity
  status : RuleStatus
  measured : Decimal
  threshold : List (String × Decimal)
  reasonCode : String
  remediationHint : Option String := none

structure SuppressedIntent where
  instrumentId : String
  reason : String
  intendedNotional : Money
  threshold : Money

inductive ConversionDirection where
  | identity
  | direct
  | inverse

inductive ComparisonOutcome where
  | kept
  | suppressed
  | blocked
  deriving DecidableEq

structure MinimumTradeThresholdEvaluation where
  instrumentId : String
  side : Side
  comparisonOutcome : ComparisonOutcome
  intendedNotional : Money
  configuredThreshold : Money
  comparisonThreshold : Option Money
  fxQuotePair : Option String
  fxQuoteRate : Option Decimal
  conversionRate : Option Decimal
  conversionDirection : Option ConversionDirection
  reasonCode : String

structure DroppedIntent where
  instrumentId : String
  reason : String
  potentialNotional : Money
  score : Decimal

inductive GroupConstraintEventStatus where
  | capped
  | blocked

structure GroupConstraintEvent where
  constraintKey : String
  groupWeightBefore : Decimal
  maxWeight : Decimal
  releasedWeight : Decimal
  recipients : Dict String Decimal
  status : GroupConstraintEventStatus

structure TaxBudgetConstraintEvent where
  instrumentId : String
  requestedQuantity : Decimal
  allowedQuantity : Decimal
  reasonCode : String

structure CashLadderPoint where
  dateOffset : Nat
  currency : String
  projectedBalance : Decimal
  deriving DecidableEq

structure CashLadderBreach where
  dateOffset : Nat
  currency : String
  projectedBalance : Decimal
  allowedFloor : Decimal
  reasonCode : String

/-- The buckets of the data-quality dictionary that the engine writes.  A bucket
that the source has not created yet reads as the empty list. -/
structure DataQualityLog where
  priceMissing : List String := []
  fxMissing : List String := []
  shelfMissing : List String := []
  minimumTradeThresholdFxUnavailable : List String := []
  taxLotEvidenceIncomplete : List String := []

/-- `DiagnosticsData`, less the fields that no engine function writes. -/
structure DiagnosticsData where
  warnings : List String := []
  suppressedIntents : List SuppressedIntent := []
  minimumTradeThresholdEvaluations : List MinimumTradeThresholdEvaluation := []
  droppedIntents : List DroppedIntent := []
  groupConstraintEvents : List GroupConstraintEvent := []
  taxBudgetConstraintEvents : List TaxBudgetConstraintEvent := []
  cashLadder : List CashLadderPoint := []
  cashLadderBreaches : List CashLadderBreach := []
  dataQuality : DataQualityLog := {}

/-- `make_diagnostics_data` -/
def makeDiagnosticsData : DiagnosticsData := {}

/-- `diagnostics.warnings.append(code)` -/
def DiagnosticsData.warn (diagnostics : DiagnosticsData) (code : String) : DiagnosticsData :=
  { diagnostics with warnings := diagnostics.warnings ++ [code] }

/-- The warning is appended unless it is there already. -/
def DiagnosticsData.warnOnce (diagnostics : DiagnosticsData) (code : String) : DiagnosticsData :=
  if code ∈ diagnostics.warnings then diagnostics else diagnostics.warn code

/-- The status of a target stage, of a simulation and of a result. -/
inductive RunStatus where
  | ready
  | blocked
  | pendingReview
  deriving DecidableEq

inductive ReconciliationStatus where
  | ok
  | mismatch
  deriving DecidableEq

structure Reconciliation where
  beforeTotalValue : Money
  afterTotalValue : Money
  delta : Money
  tolerance : Money
  status : ReconciliationStatus

structure TaxImpact where
  totalRealizedGain : Money
  totalRealizedLoss : Money
  budgetLimit : Option Money
  budgetUsed : Option Money

/-- The ways in which a run of the engine can raise instead of returning. -/
inductive EngineError where
  /-- `abs(delta) // unit_value` with a unit value of zero. -/
  | divisionByZero
  /-- `abs(delta) // unit_value` with a quotient of more than 28 digits. -/
  | divisionImpossible
  /-- A group constraint key without a colon, unpacked by the solver. -/
  | constraintKeySplit
  /-- A portfolio snapshot handed to the result in place of a simulated state. -/
  | resultValidation
  deriving DecidableEq

end Engine

end LotusManage
