import LotusManage.Campaigns.Definition

/-!
# Maker-checker controls

`src/core/waves/campaign_maker_checker_controls.py`: how a control is recorded on a
definition.  A request is normalised, its fields and its actor are checked, the control is
built, and then one of three things happens: a control with the same reference and the same
content is a replay and leaves the definition as it is, one with the same reference and
another content is a conflict, and a new reference is checked against the lifecycle state and
appended.

The lifecycle state is not stored.  `controlLifecycleState` computes it from the whole list
of controls at every call.
-/

namespace LotusManage.Campaigns

open LotusManage.Text (strip)
open LotusManage.Waves (WaveSourceRef)

/-! ## Requests -/

/-- The texts of the actions. -/
def ControlAction.code : ControlAction → String
  | submittedForReview => "SUBMITTED_FOR_REVIEW"
  | reviewerAssigned => "REVIEWER_ASSIGNED"
  | reviewCompleted => "REVIEW_COMPLETED"
  | controlExceptionRaised => "CONTROL_EXCEPTION_RAISED"
  | controlExceptionResolved => "CONTROL_EXCEPTION_RESOLVED"

/-- The arguments of `record_bulk_review_campaign_definition_maker_checker_control`, with the
time at which the control is built. -/
structure ControlRequest where
  controlAction : ControlAction
  controlRef : String
  recordedBy : String
  controlReason : String
  correlationId : String
  controlOutcome : ControlOutcome
  submitterActorId : Option String := none
  reviewerActorId : Option String := none
  requiredReviewerRole : Option String := none
  sourceRefs : List WaveSourceRef := []
  recordedAt : Int

/-- `CampaignControlNormalizedInput` -/
structure ControlNormalizedInput where
  controlRef : String
  recordedBy : String
  controlReason : String
  correlationId : String
  submitterActorId : Option String
  reviewerActorId : Option String
  requiredReviewerRole : Option String

/-- `_normalize_optional_actor` -/
def normalizeOptionalActor (value : Option String) : Option String :=
  match value with
  | none => none
  | some text => if strip text = "" then none else some (strip text)

/-- `_normalize_control_request` -/
def normalizeControlRequest (request : ControlRequest) : ControlNormalizedInput :=
  { controlRef := strip request.controlRef
    recordedBy := strip request.recordedBy
    controlReason := strip request.controlReason
    correlationId := strip request.correlationId
    submitterActorId := normalizeOptionalActor request.submitterActorId
    reviewerActorId := normalizeOptionalActor request.reviewerActorId
    requiredReviewerRole := normalizeOptionalActor request.requiredReviewerRole }

/-- `_validate_required_control_fields` -/
def validateRequiredControlFields (normalized : ControlNormalizedInput) :
    Except CampaignError Unit :=
  if normalized.controlRef = "" then
    .error (.value "BULK_REVIEW_CAMPAIGN_MAKER_CHECKER_CONTROL_REF_REQUIRED")
  else if normalized.recordedBy = "" then
    .error (.value "BULK_REVIEW_CAMPAIGN_MAKER_CHECKER_CONTROL_ACTOR_REQUIRED")
  else if normalized.controlReason = "" then
    .error (.value "BULK_REVIEW_CAMPAIGN_MAKER_CHECKER_CONTROL_REASON_REQUIRED")
  else if normalized.correlationId = "" then
    .error (.value "BULK_REVIEW_CAMPAIGN_MAKER_CHECKER_CONTROL_CORRELATION_REQUIRED")
  else .ok ()

/-! ## The shape of a control -/

/-- `CampaignControlValidationContext` -/
structure ControlValidationContext where
  controlOutcome : ControlOutcome
  submitterActorId : Option String
  reviewerActorId : Option String
  requiredReviewerRole : Option String

/-- Python's truth of an optional text. -/
def truthy (value : Option String) : Bool :=
  match value with
  | none => false
  | some text => text != ""

/-- `_validate_submission_control` -/
def validateSubmissionControl (context : ControlValidationContext) : Except CampaignError Unit :=
  if !truthy context.submitterActorId then
    .error (.value "BULK_REVIEW_CAMPAIGN_MAKER_CHECKER_SUBMITTER_REQUIRED")
  else if context.controlOutcome ≠ .pending then
    .error (.value "BULK_REVIEW_CAMPAIGN_MAKER_CHECKER_SUBMISSION_OUTCOME_INVALID")
  else .ok ()

/-- `_validate_reviewer_assignment_control` -/
def validateReviewerAssignmentControl (context : ControlValidationContext) :
    Except CampaignError Unit :=
  if !truthy context.reviewerActorId || !truthy context.requiredReviewerRole then
    .error (.value "BULK_REVIEW_CAMPAIGN_MAKER_CHECKER_REVIEWER_REQUIRED")
  else if context.controlOutcome ≠ .pending then
    .error (.value "BULK_REVIEW_CAMPAIGN_MAKER_CHECKER_ASSIGNMENT_OUTCOME_INVALID")
  else .ok ()

/-- `_validate_review_completed_control` -/
def validateReviewCompletedControl (context : ControlValidationContext) :
    Except CampaignError Unit :=
  if !truthy context.submitterActorId || !truthy context.reviewerActorId then
    .error (.value "BULK_REVIEW_CAMPAIGN_MAKER_CHECKER_ACTORS_REQUIRED")
  else if context.submitterActorId = context.reviewerActorId then
    .error (.value "BULK_REVIEW_CAMPAIGN_MAKER_CHECKER_ACTOR_SEPARATION_REQUIRED")
  else if context.controlOutcome ≠ .passed ∧ context.controlOutcome ≠ .failed then
    .error (.value "BULK_REVIEW_CAMPAIGN_MAKER_CHECKER_REVIEW_OUTCOME_INVALID")
  else .ok ()

/-- `_validate_exception_raised_control` -/
def validateExceptionRaisedControl (context : ControlValidationContext) :
    Except CampaignError Unit :=
  if context.controlOutcome ≠ .exceptionOpen then
    .error (.value "BULK_REVIEW_CAMPAIGN_MAKER_CHECKER_EXCEPTION_OUTCOME_INVALID")
  else .ok ()

/-- `_validate_exception_resolved_control` -/
def validateExceptionResolvedControl (context : ControlValidationContext) :
    Except CampaignError Unit :=
  if context.controlOutcome ≠ .exceptionResolved then
    .error (.value "BULK_REVIEW_CAMPAIGN_MAKER_CHECKER_EXCEPTION_RESOLUTION_INVALID")
  else .ok ()

/-- `_validate_control_shape`, with the table `_CONTROL_ACTION_VALIDATORS`. -/
def validateControlShape (controlAction : ControlAction) (context : ControlValidationContext) :
    Except CampaignError Unit :=
  match controlAction with
  | .submittedForReview => validateSubmissionControl context
  | .reviewerAssigned => validateReviewerAssignmentControl context
  | .reviewCompleted => validateReviewCompletedControl context
  | .controlExceptionRaised => validateExceptionRaisedControl context
  | .controlExceptionResolved => validateExceptionResolvedControl context

/-! ## The lifecycle -/

/-- `CampaignControlLifecycleState` -/
structure ControlLifecycleState where
  hasPendingReview : Bool := false
  pendingSubmitterActorId : Option String := none
  pendingReviewerActorId : Option String := none
  pendingReviewerRole : Option String := none
  hasOpenException : Bool := false
  latestOutcome : Option ControlOutcome := none

/-- The body of the loop of `_control_lifecycle_state`. -/
def ControlLifecycleState.next (state : ControlLifecycleState) (control : MakerCheckerControl) :
    ControlLifecycleState :=
  match control.controlAction with
  | .submittedForReview =>
    { hasPendingReview := true
      pendingSubmitterActorId := control.submitterActorId
      pendingReviewerActorId := none
      pendingReviewerRole := none
      hasOpenException := false
      latestOutcome := some control.controlOutcome }
  | .reviewerAssigned =>
    { state with
      pendingReviewerActorId := control.reviewerActorId
      pendingReviewerRole := control.requiredReviewerRole
      latestOutcome := some control.controlOutcome }
  | .reviewCompleted =>
    { state with hasPendingReview := false, latestOutcome := some control.controlOutcome }
  | .controlExceptionRaised =>
    { state with hasOpenException := true, latestOutcome := some control.controlOutcome }
  | .controlExceptionResolved =>
    { state with hasOpenException := false, latestOutcome := some control.controlOutcome }

/-- `_control_lifecycle_state` -/
def controlLifecycleState (controls : List MakerCheckerControl) : ControlLifecycleState :=
  controls.foldl ControlLifecycleState.next {}

/-- `_validate_submission_lifecycle` -/
def validateSubmissionLifecycle (state : ControlLifecycleState) : Except CampaignError Unit :=
  if state.hasPendingReview then
    .error (.value "BULK_REVIEW_CAMPAIGN_MAKER_CHECKER_REVIEW_ALREADY_PENDING")
  else .ok ()

/-- `_validate_reviewer_assignment_lifecycle` -/
def validateReviewerAssignmentLifecycle (state : ControlLifecycleState)
    (control : MakerCheckerControl) : Except CampaignError Unit :=
  if !state.hasPendingReview then
    .error (.value "BULK_REVIEW_CAMPAIGN_MAKER_CHECKER_SUBMISSION_REQUIRED")
  else if truthy state.pendingSubmitterActorId &&
      decide (control.reviewerActorId = state.pendingSubmitterActorId) then
    .error (.value "BULK_REVIEW_CAMPAIGN_MAKER_CHECKER_ACTOR_SEPARATION_REQUIRED")
  else .ok ()

/-- `_validate_review_completed_lifecycle` -/
def validateReviewCompletedLifecycle (state : ControlLifecycleState)
    (control : MakerCheckerControl) : Except CampaignError Unit :=
  if !state.hasPendingReview then
    .error (.value "BULK_REVIEW_CAMPAIGN_MAKER_CHECKER_SUBMISSION_REQUIRED")
  else if truthy state.pendingSubmitterActorId &&
      decide (control.submitterActorId ≠ state.pendingSubmitterActorId) then
    .error (.value "BULK_REVIEW_CAMPAIGN_MAKER_CHECKER_SUBMITTER_MISMATCH")
  else if truthy state.pendingReviewerActorId &&
      decide (control.reviewerActorId ≠ state.pendingReviewerActorId) then
    .error (.value "BULK_REVIEW_CAMPAIGN_MAKER_CHECKER_REVIEWER_MISMATCH")
  else if truthy state.pendingReviewerRole &&
      decide (control.requiredReviewerRole ≠ state.pendingReviewerRole) then
    .error (.value "BULK_REVIEW_CAMPAIGN_MAKER_CHECKER_REVIEWER_ROLE_MISMATCH")
  else .ok ()

/-- `_validate_exception_raised_lifecycle` -/
def validateExceptionRaisedLifecycle (state : ControlLifecycleState) :
    Except CampaignError Unit :=
  if !state.hasPendingReview && decide (state.latestOutcome ≠ some .failed) then
    .error (.value "BULK_REVIEW_CAMPAIGN_MAKER_CHECKER_OPEN_REVIEW_REQUIRED")
  else .ok ()

/-- `_validate_exception_resolved_lifecycle` -/
def validateExceptionResolvedLifecycle (state : ControlLifecycleState) :
    Except CampaignError Unit :=
  if !state.hasOpenException then
    .error (.value "BULK_REVIEW_CAMPAIGN_MAKER_CHECKER_OPEN_EXCEPTION_REQUIRED")
  else .ok ()

/-- `_validate_control_lifecycle` -/
def validateControlLifecycle (controls : List MakerCheckerControl)
    (control : MakerCheckerControl) : Except CampaignError Unit :=
  let state := controlLifecycleState controls
  match control.controlAction with
  | .submittedForReview => validateSubmissionLifecycle state
  | .reviewerAssigned => validateReviewerAssignmentLifecycle state control
  | .reviewCompleted => validateReviewCompletedLifecycle state control
  | .controlExceptionRaised => validateExceptionRaisedLifecycle state
  | .controlExceptionResolved => validateExceptionResolvedLifecycle state

/-! ## Recording -/

/-- The identity of a control: a prefix of the SHA-256 of its scope and reference. -/
def controlId (hashing : Hashing) (definition : CampaignDefinition) (controlRef : String)
    (controlAction : ControlAction) : String :=
  "brc_maker_checker_control_" ++ Text.take 16 (hashing.sha256Hex
    (Text.join "|" [definition.campaignId, definition.campaignVersion, controlRef,
      controlAction.code]))

/-- `_build_control`.  The content hash does not cover `recorded_at`. -/
def buildControl (hashing : Hashing) (definition : CampaignDefinition)
    (request : ControlRequest) : MakerCheckerControl :=
  let normalized := normalizeControlRequest request
  let payload : MakerCheckerControl :=
    { controlId := controlId hashing definition normalized.controlRef request.controlAction
      controlAction := request.controlAction
      controlRef := normalized.controlRef
      recordedAt := 0
      recordedBy := normalized.recordedBy
      submitterActorId := normalized.submitterActorId
      reviewerActorId := normalized.reviewerActorId
      requiredReviewerRole := normalized.requiredReviewerRole
      controlOutcome := request.controlOutcome
      controlReason := normalized.controlReason
      correlationId := normalized.correlationId
      sourceRefs := request.sourceRefs
      contentHash := "" }
  { payload with
    recordedAt := request.recordedAt
    contentHash := hashing.control definition.campaignId definition.campaignVersion payload }

/-- `_existing_control_by_ref`: a dictionary by reference keeps the last one. -/
def existingControlByRef (definition : CampaignDefinition) (controlRef : String) :
    Option MakerCheckerControl :=
  definition.makerCheckerControls.reverse.find? (fun control => control.controlRef = controlRef)

/-- `_definition_with_appended_control` -/
def definitionWithAppendedControl (hashing : Hashing) (definition : CampaignDefinition)
    (control : MakerCheckerControl) : Except CampaignError CampaignDefinition :=
  validateDefinition hashing
    { definition with
      makerCheckerControls := definition.makerCheckerControls ++ [control]
      contentHash := "" }

/-- The commands are for active definitions. -/
def requireActive (definition : CampaignDefinition) (code : String) : Except CampaignError Unit :=
  if definition.status ≠ .active then .error (.value code) else .ok ()

/-- The checks that a request passes before its control is compared with the recorded ones. -/
def checkControlRequest (definition : CampaignDefinition) (request : ControlRequest) :
    Except CampaignError Unit := do
  requireActive definition "BULK_REVIEW_CAMPAIGN_MAKER_CHECKER_CONTROL_ACTIVE_REQUIRED"
  let normalized := normalizeControlRequest request
  validateRequiredControlFields normalized
  validateCampaignCommandActorEntitlement definition normalized.recordedBy
  validateControlShape request.controlAction
    { controlOutcome := request.controlOutcome
      submitterActorId := normalized.submitterActorId
      reviewerActorId := normalized.reviewerActorId
      requiredReviewerRole := normalized.requiredReviewerRole }

/-- `record_bulk_review_campaign_definition_maker_checker_control` -/
def recordMakerCheckerControl (hashing : Hashing) (definition : CampaignDefinition)
    (request : ControlRequest) : Except CampaignError CampaignDefinition := do
  checkControlRequest definition request
  let control := buildControl hashing definition request
  match existingControlByRef definition control.controlRef with
  | some existing =>
    if existing.contentHash = control.contentHash then .ok definition
    else .error (.value "BULK_REVIEW_CAMPAIGN_MAKER_CHECKER_CONTROL_REF_CONFLICT")
  | none => do
    validateControlLifecycle definition.makerCheckerControls control
    definitionWithAppendedControl hashing definition control

end LotusManage.Campaigns
