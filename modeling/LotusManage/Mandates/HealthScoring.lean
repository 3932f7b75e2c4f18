import LotusManage.Lib.Rounding
import LotusManage.Mandates.Models
import LotusManage.Waves.Models
import Mathlib.Data.List.Sort
import Mathlib.Data.List.Dedup
import Mathlib.Data.Prod.Lex

/-!
# Mandate health scoring

`src/core/mandate_health_scoring.py` and `monitoring_exceptions_from_health`: ten scorers, the
health state, the top reasons with the recommended action, and the exceptions raised from them.

SHA-256 is a parameter, and so is the clock.
-/

namespace LotusManage.Mandates

open Waves (derivedIdentity)

/-! ## Scores -/

/-- `_score_from_penalty` -/
def scoreFromPenalty (penalty : Decimal) : Int :=
  let boundedPenalty := min (max penalty 0) 100
  roundHalfUp (100 - boundedPenalty)

/-- `_ready_score` -/
def readyScore (dimension : MandateHealthDimension)
    (budgetAssessments : List MandateBudgetAssessment := []) : MandateDimensionScore :=
  { dimension := dimension
    weight := dimensionWeights dimension
    score := 100
    state := .ready
    reasonCode := .ready dimension
    budgetAssessments := budgetAssessments }

theorem clamp_bounds (score : Int) :
    0 ≤ max 0 (min score 100) ∧ max 0 (min score 100) ≤ 100 := by omega

/-- `_attention_score` -/
def attentionScore (dimension : MandateHealthDimension) (score : Int) (state : MandateHealthState)
    (reasonCode : ReasonCode) (measuredValue : Option MeasuredValue := none)
    (thresholdValue : Option MeasuredValue := none) (evidenceRefs : List String := [])
    (budgetAssessments : List MandateBudgetAssessment := []) : MandateDimensionScore :=
  { dimension := dimension
    weight := dimensionWeights dimension
    score := max 0 (min score 100)
    state := state
    reasonCode := reasonCode
    measuredValue := measuredValue
    thresholdValue := thresholdValue
    evidenceRefs := evidenceRefs
    budgetAssessments := budgetAssessments
    score_bounds := clamp_bounds score }

/-- `_source_health_context_ref` -/
def sourceHealthContextRef (context : SourceHealthContext) : String :=
  context.sourceSystem.value ++ ":" ++ context.sourceProductName ++ ":" ++
    context.sourceProductVersion ++ ":" ++ context.requestFingerprint

/-! ## The dimension scorers -/

/-- `_score_source_readiness` -/
def scoreSourceReadiness (input : MandateHealthInput) : MandateDimensionScore :=
  if input.sourceReadinessState = .incomplete ∨ input.sourceReadinessState = .unavailable ∨
      input.missingSourceFamilies ≠ [] then
    attentionScore .sourceReadiness 0 .blocked .dpmSourceIncomplete
      (some (.text input.sourceReadinessState.value)) (some (.text "READY"))
  else if input.sourceReadinessState = .degraded ∨ input.staleSourceFamilies ≠ [] then
    attentionScore .sourceReadiness 70 .pendingReview .dpmSourceStale
      (some (.text input.sourceReadinessState.value)) (some (.text "READY"))
  else readyScore .sourceReadiness

/-- `default_band` of `_score_allocation_drift` -/
def defaultBand : Decimal := 25 / 1000

/-- `abs(current_weights.get(instrument_id, Decimal("0")) - target_weight)` -/
def targetDrift (current : Dict String Decimal) (target : String × Decimal) : Decimal :=
  |current.getD target.1 0 - target.2|

/-- `max(values, default=Decimal("0"))` -/
def maxOrZero : List Decimal → Decimal
  | [] => 0
  | value :: values => values.foldl max value

/-- `max_drift` of `_score_allocation_drift`: the targeted instruments are examined. -/
def maxDrift (current target : Dict String Decimal) : Decimal :=
  maxOrZero (target.items.map (targetDrift current))

/-- `_score_allocation_drift` -/
def scoreAllocationDrift (input : MandateHealthInput) : MandateDimensionScore :=
  if input.currentWeights.nonempty = false ∨ input.targetWeights.nonempty = false then
    attentionScore .allocationDrift 85 .pendingReview .allocationDriftNotAssessed
  else
    let drift := maxDrift input.currentWeights input.targetWeights
    if drift ≤ defaultBand then readyScore .allocationDrift
    else
      attentionScore .allocationDrift (scoreFromPenalty ((drift - defaultBand) * 1000))
        .pendingReview .allocationDrift (some (.decimal drift)) (some (.decimal defaultBand))

/-- `_score_source_health_context` of a context that is supplied. -/
def scoreSourceHealthContext (context : SourceHealthContext) (dimension : MandateHealthDimension)
    (attentionReasonCode unavailableReasonCode : ReasonCode) : MandateDimensionScore :=
  if context.healthState = .ready ∧ context.thresholdBreached ≠ some true then
    readyScore dimension
  else if context.healthState = .unavailable then
    attentionScore dimension 60 .pendingReview unavailableReasonCode
      (some (.text (context.sourceProductName ++ ":unavailable"))) (some (.text "ready"))
      [sourceHealthContextRef context]
  else
    attentionScore dimension 65 .pendingReview attentionReasonCode
      (some (.text (context.sourceProductName ++ ":" ++ context.healthState.value)))
      (some (.text "ready")) [sourceHealthContextRef context]

/-- `_score_risk_drift` -/
def scoreRiskDrift (input : MandateHealthInput) : MandateDimensionScore :=
  match input.riskHealthContext with
  | some context =>
    scoreSourceHealthContext context .riskDrift .sourceRiskHealthAttention
      .sourceRiskHealthUnavailable
  | none =>
    match input.twin.constraints.maxTrackingError with
    | none => readyScore .riskDrift
    | some maxTrackingError =>
      match input.trackingError with
      | none =>
        attentionScore .riskDrift 60 .pendingReview .trackingErrorEvidenceMissing none
          (some (.decimal maxTrackingError))
      | some trackingError =>
        if trackingError ≤ maxTrackingError then readyScore .riskDrift
        else
          attentionScore .riskDrift 65 .pendingReview .trackingErrorAboveLimit
            (some (.decimal trackingError)) (some (.decimal maxTrackingError))

/-- `_score_cash_liquidity` -/
def scoreCashLiquidity (input : MandateHealthInput) : MandateDimensionScore :=
  let constraints := input.twin.constraints
  if constraints.cashBandMinWeight.any (input.cashWeight < ·) then
    attentionScore .cashLiquidity 60 .pendingReview .cashBelowBand
      (some (.decimal input.cashWeight)) (constraints.cashBandMinWeight.map .decimal)
  else if constraints.cashBandMaxWeight.any (· < input.cashWeight) then
    attentionScore .cashLiquidity 75 .pendingReview .cashAboveBand
      (some (.decimal input.cashWeight)) (constraints.cashBandMaxWeight.map .decimal)
  else if input.projectedNetCashflow.any (· < 0) then
    attentionScore .cashLiquidity 70 .pendingReview .projectedCashflowPressure
      (input.projectedNetCashflow.map .decimal) (some (.count 0))
  else if constraints.cashBandMinWeight = none ∨ constraints.cashBandMaxWeight = none then
    attentionScore .cashLiquidity 70 .pendingReview .cashBandNotSourced
      (some (.decimal input.cashWeight)) none
  else readyScore .cashLiquidity

/-- `limit - used`, when both are known. -/
def remainingBudget (limit used : Option Decimal) : Option Decimal :=
  match limit, used with
  | some limit, some used => some (limit - used)
  | _, _ => none

/-- `reference or "caller:explicit-health-input"`, for a usage that is stated. -/
def usageSourceRef (used : Option Decimal) (reference : Option String) : Option String :=
  if used.isSome then
    some (match reference with
      | some reference => if reference = "" then "caller:explicit-health-input" else reference
      | none => "caller:explicit-health-input")
  else none

/-- `limit_source_ref` -/
def limitSourceRef (twin : MandateDigitalTwin) : String :=
  twin.sourceSystem ++ ":mandate:" ++ twin.mandateId ++ ":" ++ twin.mandateVersion

/-- The two period starts do not name one period that has begun. -/
def periodIncomparable (period usagePeriod : Option CalendarDate) (asOfDate : CalendarDate) :
    Bool :=
  ((period.isSome || usagePeriod.isSome) && decide (period ≠ usagePeriod)) ||
    period.any (fun start => asOfDate.toordinal < start.toordinal)

/-- `basis` of a comparable usage. -/
def comparedBasis (period : Option CalendarDate) : BudgetBasis :=
  if period.isSome then .declaredPeriodMatched else .callerAssertedSamePeriod

/-- `_tax_budget_assessment` -/
def taxBudgetAssessment (input : MandateHealthInput) : MandateBudgetAssessment :=
  let twin := input.twin
  let limit := twin.constraints.taxBudgetBase
  let used := input.taxBudgetUsedBase
  let evidence : MandateBudgetAssessment :=
    { control := .taxBudget
      state := .ready
      reasonCode := .taxBudgetNotApplicable
      measuredValue := used
      thresholdValue := limit
      remainingValue := remainingBudget limit used
      currency := some twin.baseCurrency
      periodStart := twin.constraints.taxBudgetPeriodStart
      asOfDate := twin.asOfDate
      basis := .noDeclaredLimit
      limitSourceRef := some (limitSourceRef twin)
      usageSourceRef := usageSourceRef used input.taxBudgetUsageSourceRef }
  match limit, used with
  | none, _ => evidence
  | some _, none =>
    { evidence with
      state := .pendingReview
      reasonCode := .taxBudgetUsageMissing
      basis := .usageMissing }
  | some limit, some used =>
    let period := twin.constraints.taxBudgetPeriodStart
    if input.taxBudgetUsedCurrency.any (· ≠ twin.baseCurrency) ∨
        input.taxBudgetUsedAsOfDate.any (· ≠ twin.asOfDate) ∨
        periodIncomparable period input.taxBudgetUsedPeriodStart twin.asOfDate = true then
      { evidence with
        state := .pendingReview
        reasonCode := .taxBudgetBasisMismatch
        basis := .incomparable }
    else if limit < used then
      { evidence with
        state := .blocked, reasonCode := .taxBudgetExceeded, basis := comparedBasis period }
    else if used = limit then
      { evidence with
        state := .pendingReview, reasonCode := .taxBudgetExhausted, basis := comparedBasis period }
    else
      { evidence with
        state := .ready, reasonCode := .taxBudgetReady, basis := comparedBasis period }

/-- `_turnover_budget_assessment` -/
def turnoverBudgetAssessment (input : MandateHealthInput) : MandateBudgetAssessment :=
  let twin := input.twin
  let limit := twin.constraints.turnoverBudget
  let used := input.turnoverBudgetUsed
  let evidence : MandateBudgetAssessment :=
    { control := .turnoverBudget
      state := .pendingReview
      reasonCode := .turnoverBudgetNotSourced
      measuredValue := used
      thresholdValue := limit
      remainingValue := remainingBudget limit used
      periodStart := twin.constraints.turnoverBudgetPeriodStart
      asOfDate := twin.asOfDate
      basis := .noDeclaredLimit
      limitSourceRef := some (limitSourceRef twin)
      usageSourceRef := usageSourceRef used input.turnoverBudgetUsageSourceRef }
  match limit, used with
  | none, _ =>
    if twin.constraints.turnoverBudgetApplicable = some false ∧
        "MANDATE_TURNOVER_BUDGET_NOT_YET_SOURCED" ∉ twin.fieldGapCodes then
      { evidence with state := .ready, reasonCode := .turnoverBudgetNotApplicable }
    else evidence
  | some _, none =>
    { evidence with reasonCode := .turnoverBudgetUsageMissing, basis := .usageMissing }
  | some limit, some used =>
    let period := twin.constraints.turnoverBudgetPeriodStart
    if input.turnoverBudgetUsedAsOfDate.any (· ≠ twin.asOfDate) ∨
        periodIncomparable period input.turnoverBudgetUsedPeriodStart twin.asOfDate = true then
      { evidence with reasonCode := .turnoverBudgetBasisMismatch, basis := .incomparable }
    else if limit < used then
      { evidence with
        state := .blocked, reasonCode := .turnoverBudgetExceeded, basis := comparedBasis period }
    else if used = limit then
      { evidence with
        state := .pendingReview
        reasonCode := .turnoverBudgetExhausted
        basis := comparedBasis period }
    else if limit * (8 / 10) ≤ used then
      { evidence with
        state := .pendingReview
        reasonCode := .turnoverBudgetNearLimit
        basis := comparedBasis period }
    else
      { evidence with
        state := .ready, reasonCode := .turnoverBudgetReady, basis := comparedBasis period }

/-- The score of a dimension that an assessment keeps from being ready. -/
def assessmentScore (assessment : MandateBudgetAssessment) : Int :=
  if assessment.reasonCode ∈ [.taxBudgetUsageMissing, .taxBudgetBasisMismatch,
      .turnoverBudgetUsageMissing, .turnoverBudgetBasisMismatch] then 60
  else if assessment.state = .blocked then 40
  else 70

/-- `sorted(assessments, key=lambda item: item.state == BLOCKED, reverse=True)` -/
def blockedFirst (assessments : List MandateBudgetAssessment) : List MandateBudgetAssessment :=
  assessments.insertionSort (fun a b => b.state = .blocked → a.state = .blocked)

/-- `_score_tax_turnover` -/
def scoreTaxTurnover (input : MandateHealthInput) : MandateDimensionScore :=
  let assessments := [taxBudgetAssessment input, turnoverBudgetAssessment input]
  if input.taxLotMissingSecurityIds ≠ [] then
    attentionScore .taxTurnover 40 .blocked .taxLotsIncomplete
      (some (.count input.taxLotMissingSecurityIds.length)) (some (.count 0)) [] assessments
  else
    match (blockedFirst assessments).find? (fun assessment => assessment.state ≠ .ready) with
    | some assessment =>
      attentionScore .taxTurnover (assessmentScore assessment) assessment.state
        assessment.reasonCode (assessment.measuredValue.map .decimal)
        (assessment.thresholdValue.map .decimal) [] assessments
    | none => readyScore .taxTurnover assessments

/-- `restricted` of `_score_eligibility_restrictions`, each instrument once. -/
def restrictedInstruments (input : MandateHealthInput) : List String :=
  (input.restrictedHeldInstruments ++ input.restrictedTargetInstruments ++
    input.currentWeights.keys.filter
      (· ∈ input.twin.constraints.restrictedInstruments)).dedup

/-- `_score_eligibility_restrictions` -/
def scoreEligibilityRestrictions (input : MandateHealthInput) : MandateDimensionScore :=
  if restrictedInstruments input ≠ [] then
    attentionScore .eligibilityRestrictions 0 .blocked .restrictedInstrumentHeld
      (some (.count (restrictedInstruments input).length)) (some (.count 0))
  else readyScore .eligibilityRestrictions

/-- `_score_performance_attention` -/
def scorePerformanceAttention (input : MandateHealthInput) : MandateDimensionScore :=
  match input.performanceHealthContext with
  | some context =>
    scoreSourceHealthContext context .performanceAttention .sourcePerformanceHealthAttention
      .sourcePerformanceHealthUnavailable
  | none =>
    if input.performanceUnderReview then
      attentionScore .performanceAttention 70 .pendingReview .performanceUnderReview
    else readyScore .performanceAttention

/-- `_score_workflow_readiness` -/
def scoreWorkflowReadiness (input : MandateHealthInput) : MandateDimensionScore :=
  if input.workflowBlocked then
    attentionScore .workflowReadiness 0 .blocked .rebalanceRunBlocked
  else if input.sustainabilityReviewRequired then
    attentionScore .workflowReadiness 70 .pendingReview .sustainabilityReviewRequired
  else if input.approvalRequired then
    attentionScore .workflowReadiness 70 .pendingReview .approvalRequired
  else readyScore .workflowReadiness

/-- `_score_review_cadence` -/
def scoreReviewCadence (input : MandateHealthInput) : MandateDimensionScore :=
  match input.twin.nextReviewDueDate with
  | some dueDate =>
    if dueDate.toordinal < input.twin.asOfDate.toordinal then
      attentionScore .reviewCadence 65 .pendingReview .mandateReviewOverdue
        (some (.count (input.twin.asOfDate.toordinal - dueDate.toordinal))) (some (.count 0))
    else readyScore .reviewCadence
  | none => readyScore .reviewCadence

/-- `_score_model_freshness` -/
def scoreModelFreshness (input : MandateHealthInput) : MandateDimensionScore :=
  match input.modelEffectiveTo with
  | some effectiveTo =>
    if effectiveTo.toordinal < input.twin.asOfDate.toordinal then
      attentionScore .modelFreshness 55 .pendingReview .modelVersionStale
        (some (.text effectiveTo.isoformat)) (some (.text input.twin.asOfDate.isoformat))
    else readyScore .modelFreshness
  | none => readyScore .modelFreshness

/-- `_mandate_health_dimension_scores` -/
def mandateHealthDimensionScores (input : MandateHealthInput) : List MandateDimensionScore :=
  [scoreSourceReadiness input, scoreAllocationDrift input, scoreRiskDrift input,
    scoreCashLiquidity input, scoreTaxTurnover input, scoreEligibilityRestrictions input,
    scorePerformanceAttention input, scoreWorkflowReadiness input, scoreReviewCadence input,
    scoreModelFreshness input]

/-! ## The state, the reasons and the action -/

/-- `_weighted_mandate_health_score` -/
def weightedMandateHealthScore (scores : List MandateDimensionScore) : Int :=
  roundHalfUp ((scores.map (fun score => (score.score * score.weight : Decimal))).sum / 100)

/-- `_mandate_health_state` -/
def mandateHealthState (scores : List MandateDimensionScore) : MandateHealthState :=
  if ∃ score ∈ scores, score.state = .blocked then .blocked
  else if ∃ score ∈ scores, score.state = .pendingReview then .pendingReview
  else .ready

/-- `reason_code in _SOURCE_GAP_REASON_CODES` -/
def ReasonCode.isSourceGap : ReasonCode → Bool
  | cashBandNotSourced => true
  | trackingErrorEvidenceMissing => true
  | turnoverBudgetNotSourced => true
  | taxBudgetUsageMissing => true
  | taxBudgetBasisMismatch => true
  | turnoverBudgetUsageMissing => true
  | turnoverBudgetBasisMismatch => true
  | _ => false

/-- `_recommended_action_for_dimension` -/
def recommendedActionForDimension (dimension : MandateHealthDimension) (state : MandateHealthState)
    (reasonCode : ReasonCode) : MandateRecommendedAction :=
  if reasonCode.isSourceGap then .fixSourceData
  else if dimension = .sourceReadiness then .fixSourceData
  else if dimension = .eligibilityRestrictions then .reviewRestriction
  else if dimension = .workflowReadiness ∨ dimension = .reviewCadence then .reviewWorkflow
  else if state = .pendingReview then .simulateRebalance
  else .reviewMandate

/-- The severity of a finding in a state. -/
def severityOf (state : MandateHealthState) : MonitoringSeverity :=
  if state = .blocked then .critical else .warning

/-- `_reason_from_score` -/
def reasonFromScore (score : MandateDimensionScore) : MandateHealthReason :=
  { dimension := score.dimension
    reasonCode := score.reasonCode
    severity := severityOf score.state
    message := score.dimension.value ++ " requires attention: " ++ score.reasonCode.text
    recommendedAction := recommendedActionForDimension score.dimension score.state
      score.reasonCode }

/-- `_severity_rank` -/
def severityRank : MonitoringSeverity → Nat
  | .info => 0
  | .warning => 1
  | .critical => 2

/-- The sort key of a reason. -/
def reasonKey (reason : MandateHealthReason) : Nat ×ₗ Nat :=
  toLex (severityRank reason.severity, if reason.reasonCode.isSourceGap then 0 else 1)

/-- The reasons of the scores below 100, ranked. -/
def rankedReasons (scores : List MandateDimensionScore) : List MandateHealthReason :=
  ((scores.filter (·.score < 100)).map reasonFromScore).insertionSort
    (fun a b => reasonKey b ≤ reasonKey a)

/-- `_top_mandate_health_reasons` -/
def topMandateHealthReasons (scores : List MandateDimensionScore) : List MandateHealthReason :=
  let reasons := rankedReasons scores
  let top := reasons.take 5
  match reasons.filter (·.reasonCode.isSourceGap) with
  | [] => top
  | gap :: _ => if top.any (·.reasonCode.isSourceGap) then top else top.dropLast ++ [gap]

/-- `_has_unsourced_contractual_limit` -/
def hasUnsourcedContractualLimit (constraints : MandateConstraintSet) : Bool :=
  constraints.cashBandMinWeight.isNone || constraints.cashBandMaxWeight.isNone ||
    (constraints.turnoverBudget.isNone &&
      decide (constraints.turnoverBudgetApplicable ≠ some false))

/-- `_overall_recommended_action` -/
def overallRecommendedAction (healthState : MandateHealthState) (reasons : List MandateHealthReason)
    (hasUnsourcedLimit : Bool) : MandateRecommendedAction :=
  if healthState = .ready then .none
  else if healthState ≠ .blocked ∧
      (hasUnsourcedLimit = true ∨ reasons.any (·.reasonCode.isSourceGap) = true) then .fixSourceData
  else
    match reasons with
    | reason :: _ => reason.recommendedAction
    | [] => .reviewMandate

/-! ## The snapshot -/

/-- `_mandate_health_snapshot_id` -/
def mandateHealthSnapshotId (sha256Hex : String → String) (input : MandateHealthInput)
    (tenantId : String) : String :=
  derivedIdentity sha256Hex "mh"
    [tenantId, input.twin.portfolioId, input.twin.asOfDate.isoformat]

/-- `_mandate_health_evidence_refs` -/
def mandateHealthEvidenceRefs (input : MandateHealthInput) : List String :=
  (input.twin.sourceLineage.filterMap SourceProductLineage.sourceRecordId).filter (· ≠ "")

/-- `_source_health_context_metadata` -/
def sourceHealthContextMetadata (context : SourceHealthContext) : HealthSourceContextMetadata :=
  { sourceRef := sourceHealthContextRef context
    sourceSystem := context.sourceSystem
    sourceProductName := context.sourceProductName
    sourceProductVersion := context.sourceProductVersion
    requestFingerprint := context.requestFingerprint
    asOfDate := context.asOfDate }

/-- `default_source_analytics_posture` -/
def defaultSourceAnalyticsPosture : HealthSourceAnalyticsPosture :=
  { riskTrackingErrorSupplied := false
    performanceAttentionSignalSupplied := false }

/-- `_source_analytics_posture` -/
def sourceAnalyticsPosture (input : MandateHealthInput) : HealthSourceAnalyticsPosture :=
  let contexts := input.riskHealthContext.toList ++ input.performanceHealthContext.toList
  { defaultSourceAnalyticsPosture with
    riskTrackingErrorSupplied := input.trackingError.isSome || input.riskHealthContext.isSome
    performanceAttentionSignalSupplied :=
      input.performanceUnderReview || input.performanceHealthContext.isSome
    riskHealthContextSupplied := input.riskHealthContext.isSome
    performanceHealthContextSupplied := input.performanceHealthContext.isSome
    sourceContextRefs := contexts.map sourceHealthContextRef
    sourceContextMetadata := contexts.map sourceHealthContextMetadata
    reasonCodes := defaultSourceAnalyticsPosture.reasonCodes ++
      (if input.riskHealthContext.isSome then
        ["MANDATE_RISK_HEALTH_CONTEXT_SOURCE_PRODUCT_PRESERVED"] else []) ++
      (if input.performanceHealthContext.isSome then
        ["MANDATE_PERFORMANCE_HEALTH_CONTEXT_SOURCE_PRODUCT_PRESERVED"] else []) }

end LotusManage.Mandates
