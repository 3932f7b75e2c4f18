import LotusManage.Engine.Models
import LotusManage.Lib.IsoDates
import LotusManage.Lib.Text

/-!
# The records of PM operating quality

The policy, the evidence and the results of `src/core/pm_quality/models.py`, with what the scoring
reads of an outcome review.  What a validator checks is a field of its record, and a `Decimal` is an
exact rational.
-/

namespace LotusManage.PmQuality

inductive Indicator where
  | outcomeDiscipline
  | sourceQuality
  | exceptionDiscipline
  | evidenceCompleteness
  deriving DecidableEq

def Indicator.value : Indicator → String
  | outcomeDiscipline => "OUTCOME_DISCIPLINE"
  | sourceQuality => "SOURCE_QUALITY"
  | exceptionDiscipline => "EXCEPTION_DISCIPLINE"
  | evidenceCompleteness => "EVIDENCE_COMPLETENESS"

/-- `PmQualityState` -/
inductive QualityState where
  | disabled
  | ready
  | pendingReview
  | degraded
  | breached
  | blocked
  deriving DecidableEq

/-- `OutcomeDimensionState` -/
inductive OutcomeState where
  | ready
  | pendingReview
  | breached
  | degraded
  | blocked
  | notSupported

/-- The state of a signal: that of an evidence item or of an outcome review. -/
inductive SignalState where
  | disabled
  | ready
  | pendingReview
  | degraded
  | breached
  | blocked
  | notSupported
  deriving DecidableEq

def QualityState.signal : QualityState → SignalState
  | disabled => .disabled
  | ready => .ready
  | pendingReview => .pendingReview
  | degraded => .degraded
  | breached => .breached
  | blocked => .blocked

def OutcomeState.signal : OutcomeState → SignalState
  | ready => .ready
  | pendingReview => .pendingReview
  | breached => .breached
  | degraded => .degraded
  | blocked => .blocked
  | notSupported => .notSupported

/-- `DpmOutcomeSourceRef` -/
structure SourceRef where
  sourceSystem : String
  sourceType : String
  sourceId : String
  sourceVersion : Option String := none
  contentHash : Option String := none
  deriving DecidableEq

/-! ## The policy -/

/-- `DpmPmQualityWeight` -/
structure IndicatorWeight where
  indicator : Indicator
  weight : Decimal
  minimumEvidenceCount : Nat := 1
  weight_bounds : 0 < weight ∧ weight ≤ 100 := by decide +kernel
  minimum_bounds : 1 ≤ minimumEvidenceCount ∧ minimumEvidenceCount ≤ 20 := by decide

/-- `DpmPmQualityGovernanceApproval` -/
structure GovernanceApproval where
  approvalRef : String
  approvedBy : String
  approvedAt : String
  fairnessReviewRef : String
  fairnessReviewedBy : String
  fairnessReviewedAt : String
  expiresOn : Option String := none
  entitledActorIds : List String := []
  sourceRefs : List SourceRef := []

/-- `start <= end`, for two texts that are dates. -/
def dateRangeValid (startDate endDate : String) : Bool :=
  match IsoDate.fromisoformat startDate, IsoDate.fromisoformat endDate with
  | some first, some last => first ≤ last
  | _, _ => false

/-- `DpmPmQualityLookbackWindowPolicy` -/
structure LookbackWindow where
  windowId : String
  startDate : String
  endDate : String
  sourceRefs : List SourceRef
  range_valid : dateRangeValid startDate endDate = true := by decide +kernel

/-- `DpmPmOperatingQualityPolicy` -/
structure Policy where
  policyId : String
  policyVersion : String
  enabled : Bool := false
  asOfDate : String
  weights : List IndicatorWeight := []
  readyThreshold : Decimal := 80
  watchThreshold : Decimal := 60
  governanceApproval : Option GovernanceApproval := none
  lookbackWindow : Option LookbackWindow := none
  ready_bounds : 0 ≤ readyThreshold ∧ readyThreshold ≤ 100 := by decide +kernel
  watch_bounds : 0 ≤ watchThreshold ∧ watchThreshold ≤ 100 := by decide +kernel
  thresholds_ordered : watchThreshold ≤ readyThreshold := by decide +kernel
  enabled_weighted : enabled = true → weights ≠ [] := by decide
  enabled_approved : enabled = true → governanceApproval.isSome = true := by decide
  indicators_unique : (weights.map (·.indicator)).Nodup := by decide

/-! ## The evidence -/

/-- `DpmPmQualityEvidenceItem` -/
structure EvidenceItem where
  indicator : Indicator
  evidenceState : QualityState
  score : Option Decimal := none
  sourceSystem : String
  sourceType : String
  sourceId : String
  reasonCodes : List String := []
  sourceRefs : List SourceRef := []
  score_bounds : ∀ value ∈ score, 0 ≤ value ∧ value ≤ 100 := by decide +kernel

/-- `DpmOutcomeDimensionResult` -/
structure OutcomeDimensionResult where
  state : OutcomeState
  reasonCode : String

/-- `DpmPostTradeOutcomeReview` -/
structure OutcomeReview where
  outcomeReviewId : String
  outcomeReviewVersion : String := "1.0.0"
  contentHash : String
  state : OutcomeState
  windowAsOfDate : String
  dimensionResults : List OutcomeDimensionResult
  supportabilityState : OutcomeState
  supportabilityReasonCodes : List String := []
  sourceLineage : List SourceRef := []
  reportInputRef : Option SourceRef := none
  aiEvidenceRef : Option SourceRef := none

/-! ## The results -/

/-- `DpmPmQualityIndicatorResult` -/
structure IndicatorResult where
  indicator : Indicator
  score : Option Decimal
  weight : Decimal
  state : QualityState
  evidenceCount : Nat
  reasonCodes : List String
  sourceRefs : List SourceRef
  deriving DecidableEq

/-- `DpmPmQualityGovernanceEvidence` -/
structure GovernanceEvidence where
  approvalRef : String
  approvedBy : String
  approvedAt : String
  fairnessReviewRef : String
  fairnessReviewedBy : String
  fairnessReviewedAt : String
  expiresOn : Option String
  actorAuthorized : Bool
  reasonCodes : List String
  sourceRefs : List SourceRef
  deriving DecidableEq

/-- `DpmPmOperatingQualityScoreRun`, without its identifiers and its content hash. -/
structure ScoreRun where
  asOfDate : String
  policyId : String
  policyVersion : String
  state : QualityState
  score : Option Decimal
  indicatorResults : List IndicatorResult
  governanceEvidence : Option GovernanceEvidence
  reasonCodes : List String
  sourceRefs : List SourceRef
  generatedBy : String
  deriving DecidableEq

/-- `DpmPmQualityValidationError` -/
inductive ValidationError where
  | policyAsOfDateMismatch
  | governanceApprovalRequired
  | governanceExpiryDateInvalid
  | governanceExpired
  | actorNotEntitled
  | lookbackWindowDateInvalid
  | lookbackWindowEvidenceDateRequired
  | evidenceAsOfDateInvalid
  | evidenceOutsideLookbackWindow
  | noScorableIndicators
  deriving DecidableEq

def ValidationError.text : ValidationError → String
  | policyAsOfDateMismatch => "PM_QUALITY_POLICY_AS_OF_DATE_MISMATCH"
  | governanceApprovalRequired => "PM_QUALITY_GOVERNANCE_APPROVAL_REQUIRED"
  | governanceExpiryDateInvalid => "PM_QUALITY_GOVERNANCE_EXPIRY_DATE_INVALID"
  | governanceExpired => "PM_QUALITY_GOVERNANCE_EXPIRED"
  | actorNotEntitled => "PM_QUALITY_ACTOR_NOT_ENTITLED"
  | lookbackWindowDateInvalid => "PM_QUALITY_LOOKBACK_WINDOW_DATE_INVALID"
  | lookbackWindowEvidenceDateRequired => "PM_QUALITY_LOOKBACK_WINDOW_EVIDENCE_DATE_REQUIRED"
  | evidenceAsOfDateInvalid => "PM_QUALITY_EVIDENCE_AS_OF_DATE_INVALID"
  | evidenceOutsideLookbackWindow => "PM_QUALITY_EVIDENCE_OUTSIDE_LOOKBACK_WINDOW"
  | noScorableIndicators => "PM_QUALITY_NO_SCORABLE_INDICATORS"

end LotusManage.PmQuality
