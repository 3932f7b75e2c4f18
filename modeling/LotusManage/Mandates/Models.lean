import LotusManage.Engine.Models
import LotusManage.Lib.Datetime
import LotusManage.Lib.Text

/-!
# Mandates and their health

The records of `src/core/mandate_models.py` that the health scoring reads and writes.  A bound that
a validator checks is a field of its record.

A `Decimal` is an exact rational, a reason code is an enumeration with its text, and a timestamp is
its number of microseconds.  Limits that no health dimension reads are left out.
-/

namespace LotusManage.Mandates

/-! ## Dates -/

/-- `date` -/
@[ext] structure CalendarDate where
  year : Nat
  month : Nat
  day : Nat
  year_bounds : 1 ≤ year ∧ year ≤ 9999 := by decide
  month_bounds : 1 ≤ month ∧ month ≤ 12 := by decide
  day_bounds : 1 ≤ day ∧ day ≤ daysInMonth year month := by decide

instance : DecidableEq CalendarDate := fun _ _ => decidable_of_iff _ CalendarDate.ext_iff.symm

/-- `toordinal`, by which dates are ordered and subtracted. -/
def CalendarDate.toordinal (date : CalendarDate) : Nat :=
  daysBeforeYear date.year + daysBeforeMonth date.year date.month + date.day

/-- `isoformat` -/
def CalendarDate.isoformat (date : CalendarDate) : String :=
  String.ofList (Datetime.digits 4 date.year ++ '-' ::
    (Datetime.digits 2 date.month ++ '-' :: Datetime.digits 2 date.day))

/-! ## Enumerations -/

inductive MandateHealthState where
  | ready
  | pendingReview
  | blocked
  deriving DecidableEq

inductive MandateHealthDimension where
  | sourceReadiness
  | allocationDrift
  | riskDrift
  | cashLiquidity
  | taxTurnover
  | eligibilityRestrictions
  | performanceAttention
  | workflowReadiness
  | reviewCadence
  | modelFreshness
  deriving DecidableEq

def MandateHealthDimension.value : MandateHealthDimension → String
  | sourceReadiness => "SOURCE_READINESS"
  | allocationDrift => "ALLOCATION_DRIFT"
  | riskDrift => "RISK_DRIFT"
  | cashLiquidity => "CASH_LIQUIDITY"
  | taxTurnover => "TAX_TURNOVER"
  | eligibilityRestrictions => "ELIGIBILITY_RESTRICTIONS"
  | performanceAttention => "PERFORMANCE_ATTENTION"
  | workflowReadiness => "WORKFLOW_READINESS"
  | reviewCadence => "REVIEW_CADENCE"
  | modelFreshness => "MODEL_FRESHNESS"

/-- `DIMENSION_WEIGHTS` -/
def dimensionWeights : MandateHealthDimension → Nat
  | .sourceReadiness => 15
  | .allocationDrift => 18
  | .riskDrift => 12
  | .cashLiquidity => 10
  | .taxTurnover => 10
  | .eligibilityRestrictions => 10
  | .performanceAttention => 8
  | .workflowReadiness => 7
  | .reviewCadence => 5
  | .modelFreshness => 5

inductive MandateRecommendedAction where
  | none
  | simulateRebalance
  | reviewMandate
  | fixSourceData
  | reviewRestriction
  | reviewWorkflow
  deriving DecidableEq

inductive MonitoringSeverity where
  | info
  | warning
  | critical
  deriving DecidableEq

inductive SourceReadinessState where
  | ready
  | degraded
  | incomplete
  | unavailable
  deriving DecidableEq

def SourceReadinessState.value : SourceReadinessState → String
  | ready => "READY"
  | degraded => "DEGRADED"
  | incomplete => "INCOMPLETE"
  | unavailable => "UNAVAILABLE"

/-- The reason codes of the dimension scores and of the budget assessments. -/
inductive ReasonCode where
  | ready (dimension : MandateHealthDimension)
  | dpmSourceIncomplete
  | dpmSourceStale
  | allocationDriftNotAssessed
  | allocationDrift
  | sourceRiskHealthAttention
  | sourceRiskHealthUnavailable
  | trackingErrorEvidenceMissing
  | trackingErrorAboveLimit
  | cashBelowBand
  | cashAboveBand
  | projectedCashflowPressure
  | cashBandNotSourced
  | taxLotsIncomplete
  | taxBudgetNotApplicable
  | taxBudgetUsageMissing
  | taxBudgetBasisMismatch
  | taxBudgetExceeded
  | taxBudgetExhausted
  | taxBudgetReady
  | turnoverBudgetNotSourced
  | turnoverBudgetNotApplicable
  | turnoverBudgetUsageMissing
  | turnoverBudgetBasisMismatch
  | turnoverBudgetExceeded
  | turnoverBudgetExhausted
  | turnoverBudgetNearLimit
  | turnoverBudgetReady
  | restrictedInstrumentHeld
  | sourcePerformanceHealthAttention
  | sourcePerformanceHealthUnavailable
  | performanceUnderReview
  | rebalanceRunBlocked
  | sustainabilityReviewRequired
  | approvalRequired
  | mandateReviewOverdue
  | modelVersionStale
  deriving DecidableEq

def ReasonCode.text : ReasonCode → String
  | ready dimension => dimension.value ++ "_READY"
  | dpmSourceIncomplete => "DPM_SOURCE_INCOMPLETE"
  | dpmSourceStale => "DPM_SOURCE_STALE"
  | allocationDriftNotAssessed => "ALLOCATION_DRIFT_NOT_ASSESSED"
  | allocationDrift => "ALLOCATION_DRIFT"
  | sourceRiskHealthAttention => "SOURCE_RISK_HEALTH_ATTENTION"
  | sourceRiskHealthUnavailable => "SOURCE_RISK_HEALTH_UNAVAILABLE"
  | trackingErrorEvidenceMissing => "TRACKING_ERROR_EVIDENCE_MISSING"
  | trackingErrorAboveLimit => "TRACKING_ERROR_ABOVE_LIMIT"
  | cashBelowBand => "CASH_BELOW_BAND"
  | cashAboveBand => "CASH_ABOVE_BAND"
  | projectedCashflowPressure => "PROJECTED_CASHFLOW_PRESSURE"
  | cashBandNotSourced => "CASH_BAND_NOT_SOURCED"
  | taxLotsIncomplete => "TAX_LOTS_INCOMPLETE"
  | taxBudgetNotApplicable => "TAX_BUDGET_NOT_APPLICABLE"
  | taxBudgetUsageMissing => "TAX_BUDGET_USAGE_MISSING"
  | taxBudgetBasisMismatch => "TAX_BUDGET_BASIS_MISMATCH"
  | taxBudgetExceeded => "TAX_BUDGET_EXCEEDED"
  | taxBudgetExhausted => "TAX_BUDGET_EXHAUSTED"
  | taxBudgetReady => "TAX_BUDGET_READY"
  | turnoverBudgetNotSourced => "TURNOVER_BUDGET_NOT_SOURCED"
  | turnoverBudgetNotApplicable => "TURNOVER_BUDGET_NOT_APPLICABLE"
  | turnoverBudgetUsageMissing => "TURNOVER_BUDGET_USAGE_MISSING"
  | turnoverBudgetBasisMismatch => "TURNOVER_BUDGET_BASIS_MISMATCH"
  | turnoverBudgetExceeded => "TURNOVER_BUDGET_EXCEEDED"
  | turnoverBudgetExhausted => "TURNOVER_BUDGET_EXHAUSTED"
  | turnoverBudgetNearLimit => "TURNOVER_BUDGET_NEAR_LIMIT"
  | turnoverBudgetReady => "TURNOVER_BUDGET_READY"
  | restrictedInstrumentHeld => "RESTRICTED_INSTRUMENT_HELD"
  | sourcePerformanceHealthAttention => "SOURCE_PERFORMANCE_HEALTH_ATTENTION"
  | sourcePerformanceHealthUnavailable => "SOURCE_PERFORMANCE_HEALTH_UNAVAILABLE"
  | performanceUnderReview => "PERFORMANCE_UNDER_REVIEW"
  | rebalanceRunBlocked => "REBALANCE_RUN_BLOCKED"
  | sustainabilityReviewRequired => "SUSTAINABILITY_REVIEW_REQUIRED"
  | approvalRequired => "APPROVAL_REQUIRED"
  | mandateReviewOverdue => "MANDATE_REVIEW_OVERDUE"
  | modelVersionStale => "MODEL_VERSION_STALE"

/-- `Decimal | str | int` -/
inductive MeasuredValue where
  | decimal (value : Decimal)
  | text (value : String)
  | count (value : Nat)
  deriving DecidableEq

/-! ## The twin -/

/-- `bounded_ratio` -/
def BoundedRatio (value : Decimal) : Prop := 0 ≤ value ∧ value ≤ 1

instance : DecidablePred BoundedRatio := fun value =>
  inferInstanceAs (Decidable (0 ≤ value ∧ value ≤ 1))

-- the limits that are not stated
theorem bounded_of_unstated : ∀ value ∈ (none : Option Decimal), BoundedRatio value := nofun
theorem nonneg_of_unstated : ∀ value ∈ (none : Option Decimal), 0 ≤ value := nofun
theorem ordered_of_unstated : ∀ low ∈ (none : Option Decimal), ∀ high ∈ (none : Option Decimal),
    low ≤ high := nofun
theorem applicable_of_unstated : (none : Option Bool) = some false → (none : Option Decimal) = none :=
  fun _ => rfl
theorem pattern_of_unstated : ∀ currency ∈ (none : Option String),
    currency.toList.length = 3 ∧ currency.toList.all Char.isUpper = true := nofun
theorem noCash_nonneg : (0 : Decimal) ≤ 0 := le_refl 0

/-- `DpmMandateConstraintSet` -/
@[ext] structure MandateConstraintSet where
  cashBandMinWeight : Option Decimal := none
  cashBandMaxWeight : Option Decimal := none
  turnoverBudget : Option Decimal := none
  turnoverBudgetApplicable : Option Bool := none
  turnoverBudgetPeriodStart : Option CalendarDate := none
  taxBudgetBase : Option Decimal := none
  taxBudgetPeriodStart : Option CalendarDate := none
  maxTrackingError : Option Decimal := none
  restrictedInstruments : List String := []
  cashBandMin_bounded : ∀ weight ∈ cashBandMinWeight, BoundedRatio weight := by
    first | exact bounded_of_unstated | decide +kernel
  cashBandMax_bounded : ∀ weight ∈ cashBandMaxWeight, BoundedRatio weight := by
    first | exact bounded_of_unstated | decide +kernel
  turnoverBudget_nonneg : ∀ budget ∈ turnoverBudget, 0 ≤ budget := by
    first | exact nonneg_of_unstated | decide +kernel
  taxBudget_nonneg : ∀ budget ∈ taxBudgetBase, 0 ≤ budget := by
    first | exact nonneg_of_unstated | decide +kernel
  maxTrackingError_bounded : ∀ limit ∈ maxTrackingError, BoundedRatio limit := by
    first | exact bounded_of_unstated | decide +kernel
  statedBudget_applicable : turnoverBudgetApplicable = some false → turnoverBudget = none := by
    first | exact applicable_of_unstated | decide +kernel
  cashBand_ordered : ∀ low ∈ cashBandMinWeight, ∀ high ∈ cashBandMaxWeight, low ≤ high := by
    first | exact ordered_of_unstated | decide +kernel

instance : DecidableEq MandateConstraintSet := fun _ _ =>
  decidable_of_iff _ MandateConstraintSet.ext_iff.symm

/-- `DpmSourceProductLineage` -/
structure SourceProductLineage where
  productName : String
  productVersion : String
  sourceSystem : String := "lotus-core"
  sourceRecordId : Option String := none
  deriving DecidableEq

/-- `DpmMandateDigitalTwin` -/
structure MandateDigitalTwin where
  mandateId : String
  portfolioId : String
  mandateVersion : String
  asOfDate : CalendarDate
  sourceSystem : String := "lotus-core"
  baseCurrency : String
  constraints : MandateConstraintSet
  nextReviewDueDate : Option CalendarDate := none
  sourceLineage : List SourceProductLineage := []
  fieldGapCodes : List String := []
  deriving DecidableEq

/-- The limits of unknown origin are taken as not sourced. -/
def MandateConstraintSet.withoutAmbiguousLimits (constraints : MandateConstraintSet) :
    MandateConstraintSet :=
  { constraints with
    cashBandMinWeight := none
    cashBandMaxWeight := none
    turnoverBudget := none
    cashBandMin_bounded := bounded_of_unstated
    cashBandMax_bounded := bounded_of_unstated
    turnoverBudget_nonneg := nonneg_of_unstated
    statedBudget_applicable := fun _ => rfl
    cashBand_ordered := ordered_of_unstated }

/-- `effective_mandate_twin` -/
def effectiveMandateTwin (twin : MandateDigitalTwin) : MandateDigitalTwin :=
  if "MANDATE_LIMIT_PROVENANCE_AMBIGUOUS" ∉ twin.fieldGapCodes then twin
  else { twin with constraints := twin.constraints.withoutAmbiguousLimits }

/-! ## The health input -/

inductive HealthSourceSystem where
  | lotusRisk
  | lotusPerformance

def HealthSourceSystem.value : HealthSourceSystem → String
  | lotusRisk => "lotus-risk"
  | lotusPerformance => "lotus-performance"

def HealthSourceSystem.expectedProduct : HealthSourceSystem → String
  | lotusRisk => "MandateRiskHealthContext"
  | lotusPerformance => "MandatePerformanceHealthContext"

inductive SourceHealthState where
  | ready
  | attention
  | unavailable
  deriving DecidableEq

def SourceHealthState.value : SourceHealthState → String
  | ready => "ready"
  | attention => "attention"
  | unavailable => "unavailable"

/-- `_validate_sha256_fingerprint` -/
def isSha256Fingerprint (value : String) : Bool :=
  "sha256:".toList.isPrefixOf value.toList &&
    !(Text.stripList (value.toList.drop 7)).isEmpty

/-- `DpmMandateSourceHealthContext` -/
structure SourceHealthContext where
  sourceSystem : HealthSourceSystem
  sourceProductName : String
  sourceProductVersion : String := "v1"
  asOfDate : Option CalendarDate := none
  healthState : SourceHealthState
  thresholdBreached : Option Bool := none
  requestFingerprint : String
  product_expected : sourceProductName = sourceSystem.expectedProduct := by decide
  version_expected : sourceProductVersion = "v1" := by decide
  fingerprint_valid : isSha256Fingerprint requestFingerprint = true := by decide

theorem slot_of_unstated (system : HealthSourceSystem) :
    ∀ context ∈ (none : Option SourceHealthContext), context.sourceSystem = system := nofun

/-- `DpmMandateHealthInput` -/
structure MandateHealthInput where
  twin : MandateDigitalTwin
  currentWeights : Dict String Decimal := Dict.empty
  targetWeights : Dict String Decimal := Dict.empty
  cashWeight : Decimal := 0
  sourceReadinessState : SourceReadinessState := .ready
  missingSourceFamilies : List String := []
  staleSourceFamilies : List String := []
  restrictedHeldInstruments : List String := []
  restrictedTargetInstruments : List String := []
  sustainabilityReviewRequired : Bool := false
  projectedNetCashflow : Option Decimal := none
  taxLotMissingSecurityIds : List String := []
  turnoverBudgetUsed : Option Decimal := none
  turnoverBudgetUsedPeriodStart : Option CalendarDate := none
  turnoverBudgetUsedAsOfDate : Option CalendarDate := none
  turnoverBudgetUsageSourceRef : Option String := none
  taxBudgetUsedBase : Option Decimal := none
  taxBudgetUsedCurrency : Option String := none
  taxBudgetUsedPeriodStart : Option CalendarDate := none
  taxBudgetUsedAsOfDate : Option CalendarDate := none
  taxBudgetUsageSourceRef : Option String := none
  trackingError : Option Decimal := none
  performanceUnderReview : Bool := false
  riskHealthContext : Option SourceHealthContext := none
  performanceHealthContext : Option SourceHealthContext := none
  workflowBlocked : Bool := false
  approvalRequired : Bool := false
  modelEffectiveTo : Option CalendarDate := none
  cashWeight_nonneg : 0 ≤ cashWeight := by first | exact noCash_nonneg | decide +kernel
  turnoverUsed_nonneg : ∀ used ∈ turnoverBudgetUsed, 0 ≤ used := by
    first | exact nonneg_of_unstated | decide +kernel
  taxUsed_nonneg : ∀ used ∈ taxBudgetUsedBase, 0 ≤ used := by
    first | exact nonneg_of_unstated | decide +kernel
  usedCurrency_pattern : ∀ currency ∈ taxBudgetUsedCurrency,
    currency.toList.length = 3 ∧ currency.toList.all Char.isUpper = true := by
    first | exact pattern_of_unstated | decide
  trackingError_nonneg : ∀ error ∈ trackingError, 0 ≤ error := by
    first | exact nonneg_of_unstated | decide +kernel
  riskContext_slot : ∀ context ∈ riskHealthContext, context.sourceSystem = .lotusRisk := by
    first | exact slot_of_unstated _ | decide
  performanceContext_slot : ∀ context ∈ performanceHealthContext,
    context.sourceSystem = .lotusPerformance := by
    first | exact slot_of_unstated _ | decide

/-! ## The snapshot -/

inductive BudgetControl where
  | taxBudget
  | turnoverBudget
  deriving DecidableEq

inductive BudgetBasis where
  | noDeclaredLimit
  | usageMissing
  | incomparable
  | declaredPeriodMatched
  | callerAssertedSamePeriod
  deriving DecidableEq

/-- `DpmMandateBudgetAssessment` -/
structure MandateBudgetAssessment where
  control : BudgetControl
  state : MandateHealthState
  reasonCode : ReasonCode
  measuredValue : Option Decimal := none
  thresholdValue : Option Decimal := none
  remainingValue : Option Decimal := none
  currency : Option String := none
  periodStart : Option CalendarDate := none
  asOfDate : CalendarDate
  basis : BudgetBasis
  limitSourceRef : Option String := none
  usageSourceRef : Option String := none
  deriving DecidableEq

/-- `DpmMandateDimensionScore` -/
structure MandateDimensionScore where
  dimension : MandateHealthDimension
  weight : Nat
  score : Int
  state : MandateHealthState
  reasonCode : ReasonCode
  measuredValue : Option MeasuredValue := none
  thresholdValue : Option MeasuredValue := none
  evidenceRefs : List String := []
  budgetAssessments : List MandateBudgetAssessment := []
  score_bounds : 0 ≤ score ∧ score ≤ 100 := by decide

/-- `DpmMandateHealthReason` -/
structure MandateHealthReason where
  dimension : MandateHealthDimension
  reasonCode : ReasonCode
  severity : MonitoringSeverity
  message : String
  recommendedAction : MandateRecommendedAction

/-- `DpmMandateHealthSourceContextMetadata` -/
structure HealthSourceContextMetadata where
  sourceRef : String
  sourceSystem : HealthSourceSystem
  sourceProductName : String
  sourceProductVersion : String
  requestFingerprint : String
  asOfDate : Option CalendarDate

/-- `DpmMandateHealthSourceAnalyticsPosture` -/
structure HealthSourceAnalyticsPosture where
  riskTrackingErrorSupplied : Bool
  performanceAttentionSignalSupplied : Bool
  riskHealthContextSupplied : Bool := false
  performanceHealthContextSupplied : Bool := false
  sourceContextRefs : List String := []
  sourceContextMetadata : List HealthSourceContextMetadata := []
  reasonCodes : List String :=
    ["MANDATE_HEALTH_SOURCE_ANALYTICS_PRESERVED_WHEN_SUPPLIED",
      "RISK_PERFORMANCE_METHODOLOGY_REMAINS_SOURCE_OWNED"]

/-- `DpmMandateHealthSnapshot` -/
structure MandateHealthSnapshot where
  healthSnapshotId : String
  mandateId : String
  portfolioId : String
  asOfDate : CalendarDate
  calculatedAt : Int
  healthScore : Int
  healthState : MandateHealthState
  dimensionScores : List MandateDimensionScore
  topReasons : List MandateHealthReason
  recommendedAction : MandateRecommendedAction
  sourceReadinessState : SourceReadinessState
  evidenceRefs : List String
  sourceAnalyticsPosture : HealthSourceAnalyticsPosture
  healthScore_bounds : 0 ≤ healthScore ∧ healthScore ≤ 100

/-- `DpmMonitoringException` as it is raised: active and not resolved. -/
structure MonitoringException where
  exceptionId : String
  mandateId : String
  portfolioId : String
  detectedAt : Int
  asOfDate : CalendarDate
  dimension : MandateHealthDimension
  severity : MonitoringSeverity
  reasonCode : ReasonCode
  recommendedAction : MandateRecommendedAction
  measuredValue : Option MeasuredValue := none
  thresholdValue : Option MeasuredValue := none
  budgetAssessment : Option MandateBudgetAssessment := none
  sourceLineage : List SourceProductLineage := []
  deriving DecidableEq

end LotusManage.Mandates
