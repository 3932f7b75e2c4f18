import LotusManage.Lib.Rounding
import LotusManage.PmQuality.Models
import Mathlib.Data.List.Dedup
import Mathlib.Data.List.Sort
import Mathlib.Data.Prod.Lex
import Mathlib.Order.Basic

/-!
# PM operating quality scoring

`build_pm_operating_quality_score_run` of `src/core/pm_quality/scoring.py`: signals from evidence
and outcome reviews, one result for each weighted indicator, and the state and the score of the run.
-/

namespace LotusManage.PmQuality

/-! ## States -/

/-- `_PM_QUALITY_STATE_RANK.get(state, 0)` -/
def stateRank : SignalState → Nat
  | .blocked => 6
  | .breached => 5
  | .degraded => 4
  | .pendingReview => 3
  | .ready => 2
  | .disabled => 1
  | .notSupported => 0

/-- `_NORMALIZED_WORST_STATE.get(state, "DEGRADED")` -/
def normalizedWorstState : SignalState → QualityState
  | .blocked => .blocked
  | .breached => .breached
  | .degraded => .degraded
  | .notSupported => .degraded
  | .pendingReview => .pendingReview
  | .ready => .ready
  | .disabled => .disabled

/-- `_state_score` -/
def stateScore : SignalState → Decimal
  | .ready => 100
  | .pendingReview => 70
  | .degraded => 60
  | .breached => 35
  | .blocked => 0
  | .notSupported => 50
  | .disabled => 0

/-- `max(states, key=rank)` of a list with a first element: the first of the highest rank. -/
def highestRanked : SignalState → List SignalState → SignalState
  | first, [] => first
  | first, state :: states =>
    highestRanked (if stateRank first < stateRank state then state else first) states

/-- `_worst_state`; the caller has at least one state. -/
def worstState : List SignalState → QualityState
  | [] => .degraded
  | state :: states => normalizedWorstState (highestRanked state states)

/-- `_mean` -/
def mean (values : List Decimal) : Decimal :=
  if values = [] then 0 else quantizeCents (values.sum / values.length)

/-! ## References -/

/-- The order of `(source_system, source_type, source_id)`. -/
def refKey (ref : SourceRef) : String ×ₗ String ×ₗ String :=
  toLex (ref.sourceSystem, toLex (ref.sourceType, ref.sourceId))

/-- `_dedupe_refs`: the last of each key, in the order of the keys. -/
def dedupeRefs (refs : List SourceRef) : List SourceRef :=
  (Dict.ofEntries (refs.map (fun ref =>
    ((ref.sourceSystem, ref.sourceType, ref.sourceId), ref)))).values.insertionSort
      (fun a b => refKey a ≤ refKey b)

/-- `sorted(set(codes))` -/
def sortedCodes (codes : List String) : List String :=
  codes.dedup.insertionSort (· ≤ ·)

/-! ## Signals -/

/-- `_PmQualitySignal` -/
structure Signal where
  indicator : Indicator
  score : Decimal
  state : SignalState
  reasonCodes : List String
  sourceRefs : List SourceRef
  asOfDate : Option String := none

/-- `_signal_as_of_date` -/
def signalAsOfDate (sourceRefs : List SourceRef) : Option String :=
  (sourceRefs.filterMap SourceRef.sourceVersion).find? (· ≠ "")

/-- `values or fallback` -/
def orElse {α : Type} (values fallback : List α) : List α :=
  if values.isEmpty then fallback else values

/-- One signal of `_signals_from_evidence`. -/
def evidenceSignal (item : EvidenceItem) : Signal :=
  let sourceRefs := orElse item.sourceRefs
    [{ sourceSystem := item.sourceSystem
       sourceType := item.sourceType
       sourceId := item.sourceId }]
  { indicator := item.indicator
    score := item.score.getD (stateScore item.evidenceState.signal)
    state := item.evidenceState.signal
    reasonCodes := orElse item.reasonCodes [item.indicator.value ++ "_SOURCE_SIGNAL"]
    sourceRefs := sourceRefs
    asOfDate := signalAsOfDate sourceRefs }

/-- `_signals_from_evidence` -/
def signalsFromEvidence (items : List EvidenceItem) : List Signal := items.map evidenceSignal

/-- `_outcome_review_ref` -/
def outcomeReviewRef (review : OutcomeReview) : SourceRef :=
  { sourceSystem := "lotus-manage"
    sourceType := "PostTradeOutcomeReview"
    sourceId := review.outcomeReviewId
    sourceVersion := some review.outcomeReviewVersion
    contentHash := some review.contentHash }

/-- `_outcome_discipline_signal` -/
def outcomeDisciplineSignal (review : OutcomeReview) : Option Signal :=
  if review.dimensionResults = [] then none
  else
    some
      { indicator := .outcomeDiscipline
        score := mean (review.dimensionResults.map (fun result => stateScore result.state.signal))
        state := review.state.signal
        reasonCodes := sortedCodes (review.dimensionResults.map (·.reasonCode))
        sourceRefs := [outcomeReviewRef review]
        asOfDate := some review.windowAsOfDate }

/-- `_outcome_source_quality_signal` -/
def outcomeSourceQualitySignal (review : OutcomeReview) : Signal :=
  { indicator := .sourceQuality
    score := stateScore review.supportabilityState.signal
    state := review.supportabilityState.signal
    reasonCodes := orElse review.supportabilityReasonCodes ["OUTCOME_REVIEW_SOURCE_POSTURE"]
    sourceRefs := outcomeReviewRef review :: review.sourceLineage
    asOfDate := some review.windowAsOfDate }

/-- `_outcome_handoff_refs` -/
def outcomeHandoffRefs (review : OutcomeReview) : List SourceRef :=
  review.reportInputRef.toList ++ review.aiEvidenceRef.toList

/-- `_outcome_handoff_evidence_signal` -/
def outcomeHandoffEvidenceSignal (review : OutcomeReview) : Option Signal :=
  let refs := outcomeHandoffRefs review
  if refs = [] then none
  else
    some
      { indicator := .evidenceCompleteness
        score := 100
        state := .ready
        reasonCodes := ["OUTCOME_REVIEW_HANDOFF_EVIDENCE_AVAILABLE"]
        sourceRefs := outcomeReviewRef review :: refs
        asOfDate := some review.windowAsOfDate }

/-- `_signals_from_outcome_reviews` -/
def signalsFromOutcomeReviews (reviews : List OutcomeReview) : List Signal :=
  reviews.flatMap (fun review =>
    (outcomeDisciplineSignal review).toList ++ [outcomeSourceQualitySignal review] ++
      (outcomeHandoffEvidenceSignal review).toList)

/-! ## The lookback window -/

/-- `_lookback_window_dates` -/
def lookbackWindowDates (window : LookbackWindow) : Except ValidationError (Int × Int) :=
  match IsoDate.fromisoformat window.startDate, IsoDate.fromisoformat window.endDate with
  | some first, some last => .ok (first, last)
  | _, _ => .error .lookbackWindowDateInvalid

/-- The check of one signal. -/
def validateSignalDate (first last : Int) (signal : Signal) : Except ValidationError Unit :=
  match signal.asOfDate with
  | none => .error .lookbackWindowEvidenceDateRequired
  | some text =>
    match IsoDate.fromisoformat text with
    | none => .error .evidenceAsOfDateInvalid
    | some day =>
      if first ≤ day ∧ day ≤ last then .ok () else .error .evidenceOutsideLookbackWindow

/-- `_validate_lookback_window` -/
def validateLookbackWindow (policy : Policy) (signals : List Signal) :
    Except ValidationError Unit :=
  match policy.lookbackWindow with
  | none => .ok ()
  | some window => do
    let (first, last) ← lookbackWindowDates window
    if signals = [] then .error .lookbackWindowEvidenceDateRequired
    else forM signals (validateSignalDate first last)

/-! ## Indicators -/

/-- `_indicator_signals` -/
def indicatorSignals (weight : IndicatorWeight) (signals : List Signal) : List Signal :=
  signals.filter (·.indicator = weight.indicator)

/-- `_blocked_indicator_result` -/
def blockedIndicatorResult (weight : IndicatorWeight) (evidenceCount : Nat) : IndicatorResult :=
  { indicator := weight.indicator
    score := none
    weight := weight.weight
    state := .blocked
    evidenceCount := evidenceCount
    reasonCodes := [weight.indicator.value ++ "_REQUIRED_EVIDENCE_MISSING"]
    sourceRefs := [] }

/-- `_indicator_reason_codes` -/
def indicatorReasonCodes (weight : IndicatorWeight) (signals : List Signal) : List String :=
  orElse (sortedCodes (signals.flatMap (·.reasonCodes)))
    [weight.indicator.value ++ "_EVALUATED"]

/-- `_indicator_result` -/
def indicatorResult (signals : List Signal) (weight : IndicatorWeight) : IndicatorResult :=
  let evidence := indicatorSignals weight signals
  if evidence.length < weight.minimumEvidenceCount then
    blockedIndicatorResult weight evidence.length
  else
    { indicator := weight.indicator
      score := some (mean (evidence.map (·.score)))
      weight := weight.weight
      state := worstState (evidence.map (·.state))
      evidenceCount := evidence.length
      reasonCodes := indicatorReasonCodes weight evidence
      sourceRefs := dedupeRefs (evidence.flatMap (·.sourceRefs)) }

/-! ## The run -/

/-- `_weighted_score` -/
def weightedScore (results : List IndicatorResult) : Except ValidationError Decimal :=
  let scorable := results.filter (·.score.isSome)
  let totalWeight := (scorable.map (·.weight)).sum
  if totalWeight ≤ 0 then .error .noScorableIndicators
  else
    .ok (quantizeCents
      ((scorable.map (fun result => result.score.getD 0 * result.weight)).sum / totalWeight))

/-- `_has_indicator_state` -/
def hasIndicatorState (results : List IndicatorResult) (state : QualityState) : Bool :=
  results.any (·.state = state)

/-- `_score_state` -/
def scoreState (score : Decimal) (policy : Policy) (results : List IndicatorResult) :
    QualityState :=
  if hasIndicatorState results .breached then .breached
  else if hasIndicatorState results .degraded then .degraded
  else if policy.readyThreshold ≤ score then .ready
  else if policy.watchThreshold ≤ score then .pendingReview
  else .breached

/-- `_blocked_score_run_reason_codes` -/
def blockedScoreRunReasonCodes (results : List IndicatorResult) : List String :=
  sortedCodes (results.flatMap (·.reasonCodes) ++ ["PM_QUALITY_REQUIRED_EVIDENCE_MISSING"])

/-- The reason code that a state of a run begins with. -/
def baseReasonCode : QualityState → String
  | .ready => "PM_QUALITY_WITHIN_POLICY"
  | .pendingReview => "PM_QUALITY_REQUIRES_REVIEW"
  | .degraded => "PM_QUALITY_DEGRADED_SOURCE_POSTURE"
  | .breached => "PM_QUALITY_BELOW_POLICY_THRESHOLD"
  | .blocked => "PM_QUALITY_REQUIRED_EVIDENCE_MISSING"
  | .disabled => "PM_QUALITY_POLICY_DISABLED"

/-- `_score_reason_codes` -/
def scoreReasonCodes (state : QualityState) (results : List IndicatorResult) : List String :=
  sortedCodes (baseReasonCode state ::
    (results.filter (·.state ≠ .ready)).flatMap (·.reasonCodes))

/-- `_ScoreRunEvaluation` -/
structure Evaluation where
  state : QualityState
  score : Option Decimal
  reasonCodes : List String

/-- `_score_run_evaluation` -/
def scoreRunEvaluation (policy : Policy) (results : List IndicatorResult) :
    Except ValidationError Evaluation :=
  if hasIndicatorState results .blocked then
    .ok { state := .blocked, score := none, reasonCodes := blockedScoreRunReasonCodes results }
  else do
    let score ← weightedScore results
    let state := scoreState score policy results
    return { state := state, score := some score, reasonCodes := scoreReasonCodes state results }

/-- `_governance_expiry_evaluation` -/
def governanceExpiryEvaluation (expiresOn : Option String) (asOfDate : String) :
    Except ValidationError (List String) :=
  match expiresOn with
  | none => .ok []
  | some expiry =>
    match IsoDate.fromisoformat expiry, IsoDate.fromisoformat asOfDate with
    | some expiryDate, some runAsOf =>
      if expiryDate < runAsOf then .error .governanceExpired
      else .ok ["PM_QUALITY_GOVERNANCE_ACTIVE"]
    | _, _ => .error .governanceExpiryDateInvalid

/-- `_actor_entitlement_evaluation` -/
def actorEntitlementEvaluation (entitledActorIds : List String) (generatedBy : String) :
    Except ValidationError (Bool × List String) :=
  let entitled := (entitledActorIds.map Text.strip).filter (· ≠ "")
  if entitled = [] then .ok (false, [])
  else if generatedBy ∉ entitled then .error .actorNotEntitled
  else .ok (true, ["PM_QUALITY_ACTOR_AUTHORIZED"])

/-- `_governance_evidence` -/
def governanceEvidence (policy : Policy) (asOfDate generatedBy : String) :
    Except ValidationError GovernanceEvidence :=
  match policy.governanceApproval with
  | none => .error .governanceApprovalRequired
  | some governance => do
    let expiryCodes ← governanceExpiryEvaluation governance.expiresOn asOfDate
    let (authorized, entitlementCodes) ←
      actorEntitlementEvaluation governance.entitledActorIds generatedBy
    return {
      approvalRef := governance.approvalRef
      approvedBy := governance.approvedBy
      approvedAt := governance.approvedAt
      fairnessReviewRef := governance.fairnessReviewRef
      fairnessReviewedBy := governance.fairnessReviewedBy
      fairnessReviewedAt := governance.fairnessReviewedAt
      expiresOn := governance.expiresOn
      actorAuthorized := authorized
      reasonCodes := ["PM_QUALITY_GOVERNANCE_APPROVED", "PM_QUALITY_FAIRNESS_REVIEWED"] ++
        expiryCodes ++ entitlementCodes
      sourceRefs := governance.sourceRefs }

/-- The arguments of a run beside its evidence items. -/
structure ScoreRequest where
  policy : Policy
  asOfDate : String
  outcomeReviews : List OutcomeReview := []
  generatedBy : String

/-- The signals of a request with its evidence items. -/
def requestSignals (request : ScoreRequest) (items : List EvidenceItem) : List Signal :=
  signalsFromEvidence items ++ signalsFromOutcomeReviews request.outcomeReviews

/-- `_score_run` -/
def scoreRun (request : ScoreRequest) (evaluation : Evaluation) (results : List IndicatorResult)
    (governance : Option GovernanceEvidence) : ScoreRun :=
  { asOfDate := request.asOfDate
    policyId := request.policy.policyId
    policyVersion := request.policy.policyVersion
    state := evaluation.state
    score := evaluation.score
    indicatorResults := results
    governanceEvidence := governance
    reasonCodes := evaluation.reasonCodes
    sourceRefs := dedupeRefs (results.flatMap (·.sourceRefs) ++
      (governance.map (·.sourceRefs)).getD [])
    generatedBy := request.generatedBy }

/-- `build_pm_operating_quality_score_run` -/
def buildScoreRun (request : ScoreRequest) (items : List EvidenceItem) :
    Except ValidationError ScoreRun :=
  let policy := request.policy
  if policy.asOfDate ≠ request.asOfDate then .error .policyAsOfDateMismatch
  else if policy.enabled = false then
    .ok (scoreRun request
      { state := .disabled, score := none, reasonCodes := ["PM_QUALITY_POLICY_DISABLED"] } [] none)
  else do
    let governance ← governanceEvidence policy request.asOfDate request.generatedBy
    let signals := requestSignals request items
    validateLookbackWindow policy signals
    let results := policy.weights.map (indicatorResult signals)
    let evaluation ← scoreRunEvaluation policy results
    return scoreRun request evaluation results (some governance)

end LotusManage.PmQuality
