import LotusManage.Campaigns.Evidence

/-!
# Assignment tasks

`src/core/waves/campaign_assignment_tasks.py`: a task is opened on a definition and then moved
by transitions.  A task keeps its place in the definition; a transition replaces it by a copy
with the new status and one more entry in its ledger.
-/

namespace LotusManage.Campaigns

open LotusManage.Waves (WaveSourceRef)

/-! ## Codes -/

/-- The texts of the transition types. -/
def TaskTransitionType.code : TaskTransitionType → String
  | opened => "OPENED"
  | acknowledged => "ACKNOWLEDGED"
  | started => "STARTED"
  | blocked => "BLOCKED"
  | unblocked => "UNBLOCKED"
  | resolved => "RESOLVED"
  | cancelled => "CANCELLED"
  | reassigned => "REASSIGNED"
  | escalated => "ESCALATED"
  | dueDateChanged => "DUE_DATE_CHANGED"

/-- `_CLOSED_STATUSES` -/
def TaskStatus.closed : TaskStatus → Bool
  | resolved | cancelled => true
  | _ => false

/-- `_STATUS_TRANSITIONS`: the statuses a transition starts from and the one it leads to.  The
types that keep the status have no entry. -/
def statusTransitions : TaskTransitionType → Option (List TaskStatus × TaskStatus)
  | .acknowledged => some ([.open], .acknowledged)
  | .started => some ([.open, .acknowledged, .blocked], .inProgress)
  | .blocked => some ([.open, .acknowledged, .inProgress], .blocked)
  | .unblocked => some ([.blocked], .inProgress)
  | .resolved => some ([.open, .acknowledged, .inProgress, .blocked], .resolved)
  | .cancelled => some ([.open, .acknowledged, .inProgress, .blocked], .cancelled)
  | _ => none

/-! ## Transitions -/

/-- The fields of a transition that `_build_transition` is given. -/
structure TransitionFields where
  transitionType : TaskTransitionType
  transitionRef : String
  transitionedAt : Int
  transitionedBy : String
  fromStatus : Option TaskStatus
  toStatus : TaskStatus
  transitionReason : String
  assignedActorIds : List String
  escalationTier : EscalationTier
  slaPosture : SlaPosture
  dueAt : Option Int
  correlationId : String
  sourceRefs : List WaveSourceRef

/-- `_build_transition`.  The definition is given when the task is opened, and only then. -/
def buildTransition (hashing : Hashing) (definition : Option CampaignDefinition)
    (taskId : String) (fields : TransitionFields) : TaskTransition :=
  let transitionIdSeed := Text.join "|"
    [match definition with | some d => d.campaignId | none => taskId,
     match definition with | some d => d.campaignVersion | none => "",
     taskId, fields.transitionRef, fields.transitionType.code]
  let payload : TaskTransition :=
    { transitionId :=
        "brc_assignment_task_transition_" ++ Text.take 16 (hashing.sha256Hex transitionIdSeed)
      transitionType := fields.transitionType
      transitionRef := fields.transitionRef
      transitionedAt := 0
      transitionedBy := fields.transitionedBy
      fromStatus := fields.fromStatus
      toStatus := fields.toStatus
      transitionReason := fields.transitionReason
      assignedActorIds := fields.assignedActorIds
      escalationTier := fields.escalationTier
      slaPosture := fields.slaPosture
      dueAt := fields.dueAt
      correlationId := fields.correlationId
      sourceRefs := fields.sourceRefs
      contentHash := "" }
  { payload with
    transitionedAt := fields.transitionedAt
    contentHash := hashing.transition taskId payload }

/-- `_task_hash`: the times of the task and of its transitions are not covered. -/
def taskHash (hashing : Hashing) (task : AssignmentTask) : String :=
  hashing.task
    { task with
      openedAt := 0
      transitions := task.transitions.map
        (fun transition => { transition with transitionedAt := 0 })
      contentHash := "" }

/-! ## Opening a task -/

/-- The arguments of `open_bulk_review_campaign_definition_assignment_task`, with the times at
which the task and its first transition are built. -/
structure OpenTaskRequest where
  taskRef : String
  taskType : TaskType
  openedBy : String
  taskReason : String
  assignedActorIds : List String
  escalationTier : EscalationTier
  slaPosture : SlaPosture
  correlationId : String
  dueAt : Option Int := none
  sourceRefs : List WaveSourceRef := []
  openedAt : Int
  transitionedAt : Int

/-- The check of the assignees in `_open_task_request_fields`. -/
def requireAssignees (actorIds : List String) : Except CampaignError Unit :=
  if actorIds = [] then
    .error (.value "BULK_REVIEW_CAMPAIGN_ASSIGNMENT_TASK_ASSIGNEES_REQUIRED")
  else .ok ()

/-- `_open_task_request_fields`: the request with its texts stripped and its actors sorted. -/
def openTaskRequestFields (request : OpenTaskRequest) :
    Except CampaignError OpenTaskRequest := do
  requireAssignees (normalizeActorIds request.assignedActorIds)
  let taskRef ← requiredText request.taskRef "BULK_REVIEW_CAMPAIGN_ASSIGNMENT_TASK_REF_REQUIRED"
  let openedBy ← requiredText request.openedBy
    "BULK_REVIEW_CAMPAIGN_ASSIGNMENT_TASK_ACTOR_REQUIRED"
  let taskReason ← requiredText request.taskReason
    "BULK_REVIEW_CAMPAIGN_ASSIGNMENT_TASK_REASON_REQUIRED"
  let correlationId ← requiredText request.correlationId
    "BULK_REVIEW_CAMPAIGN_ASSIGNMENT_TASK_CORRELATION_REQUIRED"
  return { request with
    taskRef := taskRef
    openedBy := openedBy
    taskReason := taskReason
    assignedActorIds := normalizeActorIds request.assignedActorIds
    correlationId := correlationId }

/-- `_task_id` -/
def taskIdFor (hashing : Hashing) (definition : CampaignDefinition) (taskRef : String) : String :=
  "brc_assignment_task_" ++ Text.take 16 (hashing.sha256Hex
    (Text.join "|" [definition.campaignId, definition.campaignVersion, taskRef]))

/-- `_build_task` -/
def buildTask (hashing : Hashing) (definition : CampaignDefinition) (request : OpenTaskRequest) :
    AssignmentTask :=
  let taskId := taskIdFor hashing definition request.taskRef
  let task : AssignmentTask :=
    { taskId := taskId
      taskRef := request.taskRef
      taskType := request.taskType
      status := .open
      openedAt := request.openedAt
      openedBy := request.openedBy
      taskReason := request.taskReason
      assignedActorIds := request.assignedActorIds
      escalationTier := request.escalationTier
      slaPosture := request.slaPosture
      dueAt := request.dueAt
      correlationId := request.correlationId
      sourceRefs := request.sourceRefs
      transitions :=
        [buildTransition hashing (some definition) taskId
          { transitionType := .opened
            transitionRef := request.taskRef ++ ":opened"
            transitionedAt := request.transitionedAt
            transitionedBy := request.openedBy
            fromStatus := none
            toStatus := .open
            transitionReason := request.taskReason
            assignedActorIds := request.assignedActorIds
            escalationTier := request.escalationTier
            slaPosture := request.slaPosture
            dueAt := request.dueAt
            correlationId := request.correlationId
            sourceRefs := request.sourceRefs }]
      contentHash := "" }
  { task with contentHash := taskHash hashing task }

/-- `_assignment_task_index` -/
def assignmentTaskIndex (definition : CampaignDefinition) (taskRef : String) : Option Nat :=
  definition.assignmentTasks.findIdx? (fun task => task.taskRef = taskRef)

/-- `open_bulk_review_campaign_definition_assignment_task` -/
def openAssignmentTask (hashing : Hashing) (definition : CampaignDefinition)
    (request : OpenTaskRequest) : Except CampaignError CampaignDefinition := do
  requireActive definition "BULK_REVIEW_CAMPAIGN_ASSIGNMENT_TASK_ACTIVE_REQUIRED"
  let fields ← openTaskRequestFields request
  validateCampaignCommandActorEntitlement definition fields.openedBy
  let task := buildTask hashing definition fields
  match definition.assignmentTasks.find? (fun earlier => earlier.taskRef = task.taskRef) with
  | some earlier =>
    if earlier.contentHash = task.contentHash then .ok definition
    else .error (.value "BULK_REVIEW_CAMPAIGN_ASSIGNMENT_TASK_REF_CONFLICT")
  | none =>
    validateDefinition hashing
      { definition with
        assignmentTasks := definition.assignmentTasks ++ [task]
        contentHash := "" }

/-! ## Moving a task -/

/-- The arguments of `transition_bulk_review_campaign_definition_assignment_task`, with the time
at which the transition is built. -/
structure TransitionRequest where
  taskRef : String
  transitionType : TaskTransitionType
  transitionRef : String
  transitionedBy : String
  transitionReason : String
  correlationId : String
  assignedActorIds : Option (List String) := none
  escalationTier : Option EscalationTier := none
  slaPosture : Option SlaPosture := none
  dueAt : Option Int := none
  sourceRefs : List WaveSourceRef := []
  transitionedAt : Int

/-- `_transition_request_fields`: the request with its texts stripped. -/
def transitionRequestFields (request : TransitionRequest) :
    Except CampaignError TransitionRequest := do
  let taskRef ← requiredText request.taskRef "BULK_REVIEW_CAMPAIGN_ASSIGNMENT_TASK_REF_REQUIRED"
  let transitionRef ← requiredText request.transitionRef
    "BULK_REVIEW_CAMPAIGN_ASSIGNMENT_TASK_TRANSITION_REF_REQUIRED"
  let transitionedBy ← requiredText request.transitionedBy
    "BULK_REVIEW_CAMPAIGN_ASSIGNMENT_TASK_TRANSITION_ACTOR_REQUIRED"
  let transitionReason ← requiredText request.transitionReason
    "BULK_REVIEW_CAMPAIGN_ASSIGNMENT_TASK_TRANSITION_REASON_REQUIRED"
  let correlationId ← requiredText request.correlationId
    "BULK_REVIEW_CAMPAIGN_ASSIGNMENT_TASK_TRANSITION_CORRELATION_REQUIRED"
  return { request with
    taskRef := taskRef
    transitionRef := transitionRef
    transitionedBy := transitionedBy
    transitionReason := transitionReason
    correlationId := correlationId }

/-- `_transition_matches_request` -/
def transitionMatchesRequest (transition : TaskTransition) (request : TransitionRequest) : Bool :=
  decide (transition.transitionType = request.transitionType) &&
    decide (transition.transitionedBy = request.transitionedBy) &&
    decide (transition.transitionReason = request.transitionReason) &&
    decide (transition.correlationId = request.correlationId) &&
    (match request.assignedActorIds with
      | none => true
      | some actorIds => decide (transition.assignedActorIds = normalizeActorIds actorIds)) &&
    (match request.escalationTier with
      | none => true
      | some tier => decide (transition.escalationTier = tier)) &&
    (match request.slaPosture with
      | none => true
      | some posture => decide (transition.slaPosture = posture)) &&
    (match request.dueAt with
      | none => true
      | some dueAt => decide (transition.dueAt = some dueAt)) &&
    decide (transition.sourceRefs = request.sourceRefs)

/-- `_next_status` -/
def nextStatus (status : TaskStatus) (transitionType : TaskTransitionType) :
    Except CampaignError TaskStatus :=
  match statusTransitions transitionType with
  | none => .ok status
  | some (allowed, next) =>
    if status ∈ allowed then .ok next
    else .error (.value "BULK_REVIEW_CAMPAIGN_ASSIGNMENT_TASK_TRANSITION_INVALID")

/-- `_validate_transition_allowed` -/
def validateTransitionAllowed (task : AssignmentTask) (transitionType : TaskTransitionType) :
    Except CampaignError Unit :=
  if transitionType = .opened then
    .error (.value "BULK_REVIEW_CAMPAIGN_ASSIGNMENT_TASK_OPENED_TRANSITION_FORBIDDEN")
  else if task.status.closed then
    .error (.value "BULK_REVIEW_CAMPAIGN_ASSIGNMENT_TASK_CLOSED_TRANSITION_FORBIDDEN")
  else .ok ()

/-- `_validate_transition_field_requirements` -/
def validateTransitionFieldRequirements (next : TaskStatus) (nextAssignees : List String)
    (request : TransitionRequest) : Except CampaignError Unit :=
  if !next.closed && nextAssignees.isEmpty then
    .error (.value "BULK_REVIEW_CAMPAIGN_ASSIGNMENT_TASK_ASSIGNEES_REQUIRED")
  else if (request.transitionType = .reassigned ∨ request.transitionType = .escalated) ∧
      request.assignedActorIds = none then
    .error (.value "BULK_REVIEW_CAMPAIGN_ASSIGNMENT_TASK_ASSIGNEES_REQUIRED")
  else if request.transitionType = .dueDateChanged ∧ request.dueAt = none then
    .error (.value "BULK_REVIEW_CAMPAIGN_ASSIGNMENT_TASK_DUE_AT_REQUIRED")
  else .ok ()

/-- `_transition_next_assignees` -/
def transitionNextAssignees (task : AssignmentTask) (request : TransitionRequest) : List String :=
  match request.assignedActorIds with
  | none => task.assignedActorIds
  | some actorIds => normalizeActorIds actorIds

/-- `_transitioned_task`, with `_transition_task_fields`. -/
def transitionedTask (hashing : Hashing) (task : AssignmentTask) (request : TransitionRequest) :
    Except CampaignError AssignmentTask := do
  validateTransitionAllowed task request.transitionType
  let next ← nextStatus task.status request.transitionType
  let nextAssignees := transitionNextAssignees task request
  validateTransitionFieldRequirements next nextAssignees request
  let tier := request.escalationTier.getD task.escalationTier
  let posture := request.slaPosture.getD task.slaPosture
  let dueAt := request.dueAt.or task.dueAt
  let transition := buildTransition hashing none task.taskId
    { transitionType := request.transitionType
      transitionRef := request.transitionRef
      transitionedAt := request.transitionedAt
      transitionedBy := request.transitionedBy
      fromStatus := some task.status
      toStatus := next
      transitionReason := request.transitionReason
      assignedActorIds := nextAssignees
      escalationTier := tier
      slaPosture := posture
      dueAt := dueAt
      correlationId := request.correlationId
      sourceRefs := request.sourceRefs }
  let updated : AssignmentTask :=
    { task with
      status := next
      assignedActorIds := nextAssignees
      escalationTier := tier
      slaPosture := posture
      dueAt := dueAt
      transitions := task.transitions ++ [transition]
      contentHash := "" }
  return { updated with contentHash := taskHash hashing updated }

/-- `_assignment_task_for_ref` -/
def assignmentTaskForRef (definition : CampaignDefinition) (taskRef : String) :
    Except CampaignError (Nat × AssignmentTask) :=
  match assignmentTaskIndex definition taskRef with
  | none => .error (.value "BULK_REVIEW_CAMPAIGN_ASSIGNMENT_TASK_NOT_FOUND")
  | some index =>
    match definition.assignmentTasks[index]? with
    | none => .error (.value "BULK_REVIEW_CAMPAIGN_ASSIGNMENT_TASK_NOT_FOUND")
    | some task => .ok (index, task)

/-- `transition_bulk_review_campaign_definition_assignment_task` -/
def transitionAssignmentTask (hashing : Hashing) (definition : CampaignDefinition)
    (request : TransitionRequest) : Except CampaignError CampaignDefinition := do
  requireActive definition "BULK_REVIEW_CAMPAIGN_ASSIGNMENT_TASK_ACTIVE_REQUIRED"
  let fields ← transitionRequestFields request
  validateCampaignCommandActorEntitlement definition fields.transitionedBy
  let (index, task) ← assignmentTaskForRef definition fields.taskRef
  match task.transitions.find?
      (fun transition => transition.transitionRef = fields.transitionRef) with
  | some existing =>
    if transitionMatchesRequest existing fields then .ok definition
    else .error (.value "BULK_REVIEW_CAMPAIGN_ASSIGNMENT_TASK_TRANSITION_REF_CONFLICT")
  | none => do
    let replacement ← transitionedTask hashing task fields
    validateDefinition hashing
      { definition with
        assignmentTasks := definition.assignmentTasks.set index replacement
        contentHash := "" }

end LotusManage.Campaigns
