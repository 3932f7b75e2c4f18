import LotusManage.Waves.Models

/-!
# Campaign definitions

`DpmBulkReviewCampaignDefinition` of `src/core/waves/campaign_definitions.py` and the
evidence that it carries: launches, approval decisions, assignment actions, assignment
tasks with their transitions, and maker-checker controls.

The fields that no modelled function reads (the display name, the rationale, the as-of date,
who created the definition and when, and the constant lists of forbidden actions) are left
out.  They never change once a definition is stored, so a content hash over the remaining
fields tells the same definitions apart.
-/

namespace LotusManage.Campaigns

open LotusManage.Waves (WaveSourceRef)

/-! ## Evidence -/

/-- `CampaignDefinitionStatus` -/
inductive DefinitionStatus where
  | active
  | retired
  | superseded
  deriving DecidableEq

/-- `DpmBulkReviewCampaignDefinitionLaunchRecord` -/
structure LaunchRecord where
  waveId : String
  launchedAt : Int
  launchedBy : String
  requestedAsOfDate : String
  correlationId : String
  idempotencyKey : String
  deriving DecidableEq

/-- `CampaignApprovalDecisionType` -/
inductive ApprovalDecisionType where
  | approved
  | rejected
  | requiresRemediation
  deriving DecidableEq

/-- `DpmBulkReviewCampaignDefinitionApprovalDecision` -/
structure ApprovalDecision where
  decisionId : String
  decisionType : ApprovalDecisionType
  decisionRef : String
  decidedAt : Int
  decidedBy : String
  decisionReason : String
  correlationId : String
  sourceRefs : List WaveSourceRef
  contentHash : String
  deriving DecidableEq

/-- `CampaignAssignmentActionType` -/
inductive AssignmentActionType where
  | assigned
  | reassigned
  | escalated
  | deescalated
  | resolved
  deriving DecidableEq

/-- `CampaignAssignmentEscalationTier` -/
inductive EscalationTier where
  | none
  | pm
  | ops
  | governance
  deriving DecidableEq

/-- `CampaignAssignmentSlaPosture` -/
inductive SlaPosture where
  | onTrack
  | attention
  | breachedOrBlocked
  deriving DecidableEq

/-- `DpmBulkReviewCampaignDefinitionAssignmentAction` -/
structure AssignmentAction where
  actionId : String
  actionType : AssignmentActionType
  actionRef : String
  recordedAt : Int
  recordedBy : String
  actionReason : String
  assignedActorIds : List String
  escalationTier : EscalationTier
  slaPosture : SlaPosture
  correlationId : String
  sourceRefs : List WaveSourceRef
  contentHash : String
  deriving DecidableEq

/-- `CampaignAssignmentTaskTransitionType` -/
inductive TaskTransitionType where
  | opened
  | acknowledged
  | started
  | blocked
  | unblocked
  | resolved
  | cancelled
  | reassigned
  | escalated
  | dueDateChanged
  deriving DecidableEq

/-- `CampaignAssignmentTaskStatus` -/
inductive TaskStatus where
  | open
  | acknowledged
  | inProgress
  | blocked
  | resolved
  | cancelled
  deriving DecidableEq

/-- `CampaignAssignmentTaskType` -/
inductive TaskType where
  | assignment
  | approvalRemediation
  | entitlementReview
  | expiryReview
  | escalation
  deriving DecidableEq

/-- `DpmBulkReviewCampaignDefinitionAssignmentTaskTransition` -/
structure TaskTransition where
  transitionId : String
  transitionType : TaskTransitionType
  transitionRef : String
  transitionedAt : Int
  transitionedBy : String
  fromStatus : Option TaskStatus
  toStatus : TaskStatus
  transitionReason : String
  assignedActorIds : List String
  escalationTier : EscalationTier
  slaPosture : SlaPosture
  dueAt : Option Int
  correlationId : String
  sourceRefs : List WaveSourceRef
  contentHash : String
  deriving DecidableEq

/-- `DpmBulkReviewCampaignDefinitionAssignmentTask` -/
structure AssignmentTask where
  taskId : String
  taskRef : String
  taskType : TaskType
  status : TaskStatus
  openedAt : Int
  openedBy : String
  taskReason : String
  assignedActorIds : List String
  escalationTier : EscalationTier
  slaPosture : SlaPosture
  dueAt : Option Int
  correlationId : String
  sourceRefs : List WaveSourceRef
  transitions : List TaskTransition
  contentHash : String
  deriving DecidableEq

/-- `CampaignMakerCheckerControlAction` -/
inductive ControlAction where
  | submittedForReview
  | reviewerAssigned
  | reviewCompleted
  | controlExceptionRaised
  | controlExceptionResolved
  deriving DecidableEq

/-- `CampaignMakerCheckerControlOutcome` -/
inductive ControlOutcome where
  | pending
  | passed
  | failed
  | exceptionOpen
  | exceptionResolved
  deriving DecidableEq

/-- `DpmBulkReviewCampaignDefinitionMakerCheckerControl` -/
structure MakerCheckerControl where
  controlId : String
  controlAction : ControlAction
  controlRef : String
  recordedAt : Int
  recordedBy : String
  submitterActorId : Option String
  reviewerActorId : Option String
  requiredReviewerRole : Option String
  controlOutcome : ControlOutcome
  controlReason : String
  correlationId : String
  sourceRefs : List WaveSourceRef
  contentHash : String
  deriving DecidableEq

/-! ## The definition -/

/-- `DpmBulkReviewCampaignDefinitionCandidate` -/
structure CampaignCandidate where
  portfolioId : String
  portfolioType : String
  sourceRefs : List WaveSourceRef
  deriving DecidableEq

/-- `DpmBulkReviewCampaignDefinitionGovernance` -/
structure CampaignGovernance where
  entitledActorIds : List String
  deriving DecidableEq

/-- The fields that a retirement sets. -/
structure RetirementFields where
  retiredAt : Option Int := none
  retiredBy : Option String := none
  retirementReason : Option String := none
  retirementCorrelationId : Option String := none
  deriving DecidableEq

/-- The fields that a supersession sets. -/
structure SupersessionFields where
  supersededAt : Option Int := none
  supersededBy : Option String := none
  supersessionReason : Option String := none
  supersessionCorrelationId : Option String := none
  supersededByCampaignId : Option String := none
  supersededByCampaignVersion : Option String := none
  supersededByContentHash : Option String := none
  deriving DecidableEq

/-- `DpmBulkReviewCampaignDefinition` -/
structure CampaignDefinition where
  tenantId : String
  campaignId : String
  campaignVersion : String
  status : DefinitionStatus := .active
  eligiblePortfolioTypes : List String
  candidates : List CampaignCandidate
  governance : Option CampaignGovernance := none
  retirement : RetirementFields := {}
  supersession : SupersessionFields := {}
  launchHistory : List LaunchRecord := []
  approvalDecisions : List ApprovalDecision := []
  assignmentActions : List AssignmentAction := []
  assignmentTasks : List AssignmentTask := []
  makerCheckerControls : List MakerCheckerControl := []
  contentHash : String := ""
  deriving DecidableEq

/-- `_campaign_definition_key` -/
def CampaignDefinition.key (definition : CampaignDefinition) : String × String × String :=
  (definition.tenantId, definition.campaignId, definition.campaignVersion)

/-- What the campaign functions raise: a `ValueError`, the lifecycle error and the conflict
error of the repository. -/
inductive CampaignError where
  | value (code : String)
  | lifecycle (code message : String)
  | conflict (code : String)
  deriving DecidableEq

/-! ## Content hashes -/

/-- SHA-256 over UTF-8 text, and over the canonical JSON text of a record.  The campaign id and
version stand in the payloads of the evidence. -/
structure Hashing where
  sha256Hex : String → String
  definition : CampaignDefinition → String
  decision : (campaignId campaignVersion : String) → ApprovalDecision → String
  action : (campaignId campaignVersion : String) → AssignmentAction → String
  transition : (taskId : String) → TaskTransition → String
  task : AssignmentTask → String
  control : (campaignId campaignVersion : String) → MakerCheckerControl → String

/-- `_campaign_definition_hash_payload`: the launches are operational evidence and stay out. -/
def CampaignDefinition.hashPayload (definition : CampaignDefinition) : CampaignDefinition :=
  { definition with launchHistory := [], contentHash := "" }

/-- `bulk_review_campaign_definition_hash` -/
def campaignDefinitionHash (hashing : Hashing) (definition : CampaignDefinition) : String :=
  hashing.definition definition.hashPayload

end LotusManage.Campaigns
