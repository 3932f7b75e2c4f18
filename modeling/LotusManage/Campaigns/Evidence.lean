import LotusManage.Campaigns.Controls
import Mathlib.Data.List.Sort
import Mathlib.Data.String.Basic

/-!
# Launches, approval decisions and assignment actions

`campaign_definition_launch_history.py`, `campaign_definition_approval_decisions.py` and
`campaign_assignment_actions.py` under `src/core/waves`.  Each function takes the definition
that a command has read and returns it with one more record, or as it is when the record is
there already.
-/

namespace LotusManage.Campaigns

open LotusManage.Text (strip)
open LotusManage.Waves (WaveSourceRef)

/-! ## Launches -/

/-- `record_bulk_review_campaign_definition_launch`, with the launch record that it appends. -/
def recordLaunch (hashing : Hashing) (definition : CampaignDefinition) (launch : LaunchRecord) :
    Except CampaignError CampaignDefinition :=
  if definition.launchHistory.any
      (fun earlier => earlier.idempotencyKey = launch.idempotencyKey) then .ok definition
  else
    validateDefinition hashing
      { definition with
        launchHistory := definition.launchHistory ++ [launch]
        contentHash := "" }

/-! ## Texts and actors -/

/-- `_required_approval_decision_text` and `_required_text`. -/
def requiredText (value errorCode : String) : Except CampaignError String :=
  if strip value = "" then .error (.value errorCode) else .ok (strip value)

/-- `_normalize_actor_ids` -/
def normalizeActorIds (actorIds : List String) : List String :=
  ((actorIds.map strip).filter (fun actorId => actorId != "")).dedup.insertionSort (· ≤ ·)

/-! ## Approval decisions -/

/-- The texts of the decisions. -/
def ApprovalDecisionType.code : ApprovalDecisionType → String
  | approved => "APPROVED"
  | rejected => "REJECTED"
  | requiresRemediation => "REQUIRES_REMEDIATION"

/-- The arguments of `record_bulk_review_campaign_definition_approval_decision`, with the time
at which the decision is built. -/
structure DecisionRequest where
  decisionType : ApprovalDecisionType
  decisionRef : String
  decidedBy : String
  decisionReason : String
  correlationId : String
  sourceRefs : List WaveSourceRef := []
  decidedAt : Int

/-- `_approval_decision_input`: the request with its texts stripped. -/
def approvalDecisionInput (request : DecisionRequest) : Except CampaignError DecisionRequest := do
  let decisionRef ← requiredText request.decisionRef
    "BULK_REVIEW_CAMPAIGN_APPROVAL_DECISION_REF_REQUIRED"
  let decidedBy ← requiredText request.decidedBy
    "BULK_REVIEW_CAMPAIGN_APPROVAL_DECISION_ACTOR_REQUIRED"
  let decisionReason ← requiredText request.decisionReason
    "BULK_REVIEW_CAMPAIGN_APPROVAL_DECISION_REASON_REQUIRED"
  let correlationId ← requiredText request.correlationId
    "BULK_REVIEW_CAMPAIGN_APPROVAL_DECISION_CORRELATION_REQUIRED"
  return { request with
    decisionRef := decisionRef
    decidedBy := decidedBy
    decisionReason := decisionReason
    correlationId := correlationId }

/-- The identity of a record: a prefix of the SHA-256 of its scope, reference and kind. -/
def evidenceId (hashing : Hashing) (idStem : String) (definition : CampaignDefinition)
    (ref kind : String) : String :=
  idStem ++ Text.take 16 (hashing.sha256Hex
    (Text.join "|" [definition.campaignId, definition.campaignVersion, ref, kind]))

/-- `_build_decision` -/
def buildDecision (hashing : Hashing) (definition : CampaignDefinition)
    (request : DecisionRequest) : ApprovalDecision :=
  let payload : ApprovalDecision :=
    { decisionId := evidenceId hashing "brc_approval_decision_" definition request.decisionRef
        request.decisionType.code
      decisionType := request.decisionType
      decisionRef := request.decisionRef
      decidedAt := 0
      decidedBy := request.decidedBy
      decisionReason := request.decisionReason
      correlationId := request.correlationId
      sourceRefs := request.sourceRefs
      contentHash := "" }
  { payload with
    decidedAt := request.decidedAt
    contentHash := hashing.decision definition.campaignId definition.campaignVersion payload }

/-- `_existing_approval_decision` -/
def existingApprovalDecision (definition : CampaignDefinition) (decisionRef : String) :
    Option ApprovalDecision :=
  definition.approvalDecisions.reverse.find? (fun decision => decision.decisionRef = decisionRef)

/-- `_append_approval_decision` -/
def appendApprovalDecision (hashing : Hashing) (definition : CampaignDefinition)
    (decision : ApprovalDecision) : Except CampaignError CampaignDefinition :=
  validateDefinition hashing
    { definition with
      approvalDecisions := definition.approvalDecisions ++ [decision]
      contentHash := "" }

/-- `record_bulk_review_campaign_definition_approval_decision` -/
def recordApprovalDecision (hashing : Hashing) (definition : CampaignDefinition)
    (request : DecisionRequest) : Except CampaignError CampaignDefinition := do
  requireActive definition "BULK_REVIEW_CAMPAIGN_APPROVAL_DECISION_ACTIVE_REQUIRED"
  let input ← approvalDecisionInput request
  let decision := buildDecision hashing definition input
  match existingApprovalDecision definition decision.decisionRef with
  | some existing =>
    if existing.contentHash = decision.contentHash then .ok definition
    else .error (.value "BULK_REVIEW_CAMPAIGN_APPROVAL_DECISION_REF_CONFLICT")
  | none => appendApprovalDecision hashing definition decision

/-! ## Assignment actions -/

/-- The texts of the action types. -/
def AssignmentActionType.code : AssignmentActionType → String
  | assigned => "ASSIGNED"
  | reassigned => "REASSIGNED"
  | escalated => "ESCALATED"
  | deescalated => "DEESCALATED"
  | resolved => "RESOLVED"

/-- The arguments of `record_bulk_review_campaign_definition_assignment_action`, with the time
at which the action is built. -/
structure ActionRequest where
  actionType : AssignmentActionType
  actionRef : String
  recordedBy : String
  actionReason : String
  assignedActorIds : List String
  escalationTier : EscalationTier
  slaPosture : SlaPosture
  correlationId : String
  sourceRefs : List WaveSourceRef := []
  recordedAt : Int

/-- The checks of the assignees and the tier in `_assignment_action_request`. -/
def validateAssignment (request : ActionRequest) : Except CampaignError Unit :=
  if request.actionType ≠ .resolved ∧ normalizeActorIds request.assignedActorIds = [] then
    .error (.value "BULK_REVIEW_CAMPAIGN_ASSIGNMENT_ACTION_ACTORS_REQUIRED")
  else if request.actionType = .resolved ∧ request.escalationTier ≠ .none then
    .error (.value "BULK_REVIEW_CAMPAIGN_ASSIGNMENT_RESOLVED_TIER_INVALID")
  else .ok ()

/-- `_assignment_action_request`: the request with its texts stripped and its actors sorted. -/
def assignmentActionRequest (request : ActionRequest) : Except CampaignError ActionRequest := do
  let actionRef ← requiredText request.actionRef
    "BULK_REVIEW_CAMPAIGN_ASSIGNMENT_ACTION_REF_REQUIRED"
  let recordedBy ← requiredText request.recordedBy
    "BULK_REVIEW_CAMPAIGN_ASSIGNMENT_ACTION_ACTOR_REQUIRED"
  let actionReason ← requiredText request.actionReason
    "BULK_REVIEW_CAMPAIGN_ASSIGNMENT_ACTION_REASON_REQUIRED"
  let correlationId ← requiredText request.correlationId
    "BULK_REVIEW_CAMPAIGN_ASSIGNMENT_ACTION_CORRELATION_REQUIRED"
  validateAssignment request
  return { request with
    actionRef := actionRef
    recordedBy := recordedBy
    actionReason := actionReason
    assignedActorIds := normalizeActorIds request.assignedActorIds
    correlationId := correlationId }

/-- `_build_action` -/
def buildAction (hashing : Hashing) (definition : CampaignDefinition)
    (request : ActionRequest) : AssignmentAction :=
  let payload : AssignmentAction :=
    { actionId := evidenceId hashing "brc_assignment_action_" definition request.actionRef
        request.actionType.code
      actionType := request.actionType
      actionRef := request.actionRef
      recordedAt := 0
      recordedBy := request.recordedBy
      actionReason := request.actionReason
      assignedActorIds := request.assignedActorIds
      escalationTier := request.escalationTier
      slaPosture := request.slaPosture
      correlationId := request.correlationId
      sourceRefs := request.sourceRefs
      contentHash := "" }
  { payload with
    recordedAt := request.recordedAt
    contentHash := hashing.action definition.campaignId definition.campaignVersion payload }

/-- The lookup of `_assignment_action_replay_result`. -/
def existingAssignmentAction (definition : CampaignDefinition) (actionRef : String) :
    Option AssignmentAction :=
  definition.assignmentActions.reverse.find? (fun action => action.actionRef = actionRef)

/-- `record_bulk_review_campaign_definition_assignment_action` -/
def recordAssignmentAction (hashing : Hashing) (definition : CampaignDefinition)
    (request : ActionRequest) : Except CampaignError CampaignDefinition := do
  requireActive definition "BULK_REVIEW_CAMPAIGN_ASSIGNMENT_ACTION_ACTIVE_REQUIRED"
  let input ← assignmentActionRequest request
  validateCampaignCommandActorEntitlement definition input.recordedBy
  let action := buildAction hashing definition input
  match existingAssignmentAction definition action.actionRef with
  | some existing =>
    if existing.contentHash = action.contentHash then .ok definition
    else .error (.value "BULK_REVIEW_CAMPAIGN_ASSIGNMENT_ACTION_REF_CONFLICT")
  | none =>
    validateDefinition hashing
      { definition with
        assignmentActions := definition.assignmentActions ++ [action]
        contentHash := "" }

end LotusManage.Campaigns
