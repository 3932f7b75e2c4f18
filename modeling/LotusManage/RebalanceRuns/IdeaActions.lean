import LotusManage.Lib.Checks
import LotusManage.Lib.Text
import LotusManage.RebalanceRuns.Workflow

/-!
# Idea management actions

`src/core/rebalance_runs/idea_management_action.py`, with the in-memory repository of
`src/infrastructure/rebalance_runs/idea_management_actions_in_memory.py`.

An action is created by an intake with one event and gets one event with each review decision.
A decision is built from an action that was read; the repository stores it when the stored
action is still at the version that the decision was made for.

A time is an instant: `_utc` has rejected a naive one.  A source reference of an action is kept as
its canonical text, and the constant name of the source product is left out.  `Sha256Hex` is the
hash function, and nothing below depends on what it computes.
-/

namespace LotusManage.RebalanceRuns

open LotusManage.Text (strip)

/-! ## The models -/

/-- `IdeaManagementActionEventType` -/
inductive IdeaEventType where
  | intakeAccepted
  | decision (action : WorkflowActionType)
  deriving DecidableEq

/-- The text of an event type. -/
def IdeaEventType.code : IdeaEventType → String
  | intakeAccepted => "INTAKE_ACCEPTED"
  | decision .approve => "APPROVE"
  | decision .reject => "REJECT"
  | decision .requestChanges => "REQUEST_CHANGES"

/-- `IdeaManagementActionEvent` -/
structure IdeaActionEvent where
  eventId : String
  actionId : String
  sourceEventVersion : Nat
  eventType : IdeaEventType
  previousStatus : Option WorkflowStatus
  status : WorkflowStatus
  occurredAt : Int
  actorId : String
  actorRole : String
  reasonCode : String
  correlationId : String
  causationId : String
  deriving DecidableEq

/-- `IdeaManagementAction` -/
structure IdeaAction where
  actionId : String
  intakeId : String
  tenantId : String
  legalEntityCode : String
  portfolioId : String
  ideaCandidateId : String
  conversionIntentId : String
  sourceRefs : List String
  requestFingerprint : String
  idempotencyScopeHash : String
  status : WorkflowStatus
  sourceEventVersion : Nat
  createdAt : Int
  updatedAt : Int
  correlationId : String
  causationId : String
  events : List IdeaActionEvent
  deriving DecidableEq

/-- What the functions on actions raise: a validation error of a model, the conflict errors of the
core and of the repository, the error for a store that cannot serve, and the error of a lookup that
finds nothing. -/
inductive IdeaActionError where
  | invalid (code : String)
  | conflict (code : String)
  | unavailable (code : String)
  | lookup (key : String)
  deriving DecidableEq

/-- A required text of at most `maxLength` characters, as the models read it. -/
def requiredIdeaText (value : String) (maxLength : Nat) (code : String) :
    Except IdeaActionError String :=
  if value.length = 0 ∨ maxLength < value.length then .error (.invalid "length")
  else if strip value = "" then .error (.invalid code)
  else .ok (strip value)

/-- A check without a value. -/
def requireIdea (condition : Bool) (code : String) : Except IdeaActionError Unit :=
  if condition then .ok () else .error (.invalid code)

/-- The patterns `^sha256:[0-9a-f]{n}$`. -/
def isShortDigest (n : Nat) (value : String) : Bool :=
  let digits := value.toList.drop 7
  value.toList.take 7 == "sha256:".toList && digits.length == n &&
    digits.all (fun c => ('0' ≤ c && c ≤ '9') || ('a' ≤ c && c ≤ 'f'))

/-- `IdeaManagementActionEvent(...)`: the validated event. -/
def validateIdeaEvent (event : IdeaActionEvent) : Except IdeaActionError IdeaActionEvent := do
  let code := "IDEA_MANAGEMENT_ACTION_EVENT_FIELD_REQUIRED"
  let eventId ← requiredIdeaText event.eventId 80 code
  let actionId ← requiredIdeaText event.actionId 80 code
  requireIdea (1 ≤ event.sourceEventVersion) "source_event_version"
  let actorId ← requiredIdeaText event.actorId 160 code
  let actorRole ← requiredIdeaText event.actorRole 80 code
  let reasonCode ← requiredIdeaText event.reasonCode 120 code
  let correlationId ← requiredIdeaText event.correlationId 128 code
  let causationId ← requiredIdeaText event.causationId 160 code
  return { event with
    eventId := eventId
    actionId := actionId
    actorId := actorId
    actorRole := actorRole
    reasonCode := reasonCode
    correlationId := correlationId
    causationId := causationId }

/-- `IdeaManagementAction(...)`: the validated action.  Its events are validated events. -/
def validateIdeaAction (action : IdeaAction) : Except IdeaActionError IdeaAction := do
  let code := "IDEA_MANAGEMENT_ACTION_FIELD_REQUIRED"
  let actionId ← requiredIdeaText action.actionId 80 code
  let intakeId ← requiredIdeaText action.intakeId 80 code
  let tenantId ← requiredIdeaText action.tenantId 160 code
  let legalEntityCode ← requiredIdeaText action.legalEntityCode 80 code
  let portfolioId ← requiredIdeaText action.portfolioId 160 code
  let ideaCandidateId ← requiredIdeaText action.ideaCandidateId 160 code
  let conversionIntentId ← requiredIdeaText action.conversionIntentId 160 code
  requireIdea (1 ≤ action.sourceRefs.length && action.sourceRefs.length ≤ 16) "source_refs"
  requireIdea (isShortDigest 12 action.requestFingerprint) "request_fingerprint"
  requireIdea (isShortDigest 24 action.idempotencyScopeHash) "idempotency_scope_hash"
  requireIdea (1 ≤ action.sourceEventVersion) "source_event_version"
  let correlationId ← requiredIdeaText action.correlationId 128 code
  let causationId ← requiredIdeaText action.causationId 160 code
  requireIdea (1 ≤ action.events.length) "events"
  return { action with
    actionId := actionId
    intakeId := intakeId
    tenantId := tenantId
    legalEntityCode := legalEntityCode
    portfolioId := portfolioId
    ideaCandidateId := ideaCandidateId
    conversionIntentId := conversionIntentId
    correlationId := correlationId
    causationId := causationId }

/-! ## Intake and decisions -/

/-- SHA-256 over UTF-8 text, in hexadecimal digits. -/
abbrev Sha256Hex := String → String

/-- `_management_action_id` -/
def managementActionId (sha256Hex : Sha256Hex) (tenantId legalEntityCode portfolioId
    conversionIntentId : String) : String :=
  "ima_" ++ Text.take 20
    (sha256Hex (Text.join "|" [tenantId, legalEntityCode, portfolioId, conversionIntentId]))

/-- `_event_id` -/
def ideaEventId (sha256Hex : Sha256Hex) (actionId : String) (sourceEventVersion : Nat)
    (eventType : IdeaEventType) : String :=
  "imae_" ++ Text.take 20
    (sha256Hex (Text.join "|" [actionId, toString sourceEventVersion, eventType.code]))

/-- The arguments of `create_idea_management_action`. -/
structure IntakeRequest where
  intakeId : String
  tenantId : String
  legalEntityCode : String
  portfolioId : String
  ideaCandidateId : String
  conversionIntentId : String
  sourceRefs : List String
  requestFingerprint : String
  idempotencyScopeHash : String
  actorId : String
  actorRole : String
  correlationId : String
  createdAt : Int

/-- `create_idea_management_action` -/
def createIdeaManagementAction (sha256Hex : Sha256Hex) (request : IntakeRequest) :
    Except IdeaActionError IdeaAction := do
  let actionId := managementActionId sha256Hex request.tenantId request.legalEntityCode
    request.portfolioId request.conversionIntentId
  let event ← validateIdeaEvent
    { eventId := ideaEventId sha256Hex actionId 1 .intakeAccepted
      actionId := actionId
      sourceEventVersion := 1
      eventType := .intakeAccepted
      previousStatus := none
      status := .pendingReview
      occurredAt := request.createdAt
      actorId := request.actorId
      actorRole := request.actorRole
      reasonCode := "idea_conversion_intent_accepted_for_management_review"
      correlationId := request.correlationId
      causationId := request.conversionIntentId }
  validateIdeaAction
    { actionId := actionId
      intakeId := request.intakeId
      tenantId := request.tenantId
      legalEntityCode := request.legalEntityCode
      portfolioId := request.portfolioId
      ideaCandidateId := request.ideaCandidateId
      conversionIntentId := request.conversionIntentId
      sourceRefs := request.sourceRefs
      requestFingerprint := request.requestFingerprint
      idempotencyScopeHash := request.idempotencyScopeHash
      status := .pendingReview
      sourceEventVersion := 1
      createdAt := request.createdAt
      updatedAt := request.createdAt
      correlationId := request.correlationId
      causationId := request.conversionIntentId
      events := [event] }

/-- The arguments of `record_idea_management_review_decision` next to the action. -/
structure ReviewRequest where
  workflowAction : WorkflowActionType
  expectedSourceEventVersion : Int
  actorId : String
  actorRole : String
  reasonCode : String
  correlationId : String
  decidedAt : Int

/-- The step of the workflow that a decision makes. -/
def reviewTransition (action : IdeaAction) (request : ReviewRequest) :
    Except IdeaActionError WorkflowStatus :=
  if request.expectedSourceEventVersion ≠ action.sourceEventVersion then
    .error (.conflict "IDEA_MANAGEMENT_ACTION_SOURCE_EVENT_VERSION_CONFLICT")
  else
    match resolveWorkflowTransition action.status request.workflowAction with
    | none => .error (.conflict "IDEA_MANAGEMENT_ACTION_INVALID_WORKFLOW_TRANSITION")
    | some next => .ok next

/-- `action.events[-1].event_id` -/
def IdeaAction.lastEventId (action : IdeaAction) : Except IdeaActionError String :=
  match action.events.getLast? with
  | none => .error (.lookup "events[-1]")
  | some event => .ok event.eventId

/-- `record_idea_management_review_decision`: the copy is not validated again. -/
def recordIdeaManagementReviewDecision (sha256Hex : Sha256Hex) (action : IdeaAction)
    (request : ReviewRequest) : Except IdeaActionError IdeaAction := do
  let nextStatus ← reviewTransition action request
  let causationId ← action.lastEventId
  let nextVersion := action.sourceEventVersion + 1
  let event ← validateIdeaEvent
    { eventId := ideaEventId sha256Hex action.actionId nextVersion
        (.decision request.workflowAction)
      actionId := action.actionId
      sourceEventVersion := nextVersion
      eventType := .decision request.workflowAction
      previousStatus := some action.status
      status := nextStatus
      occurredAt := request.decidedAt
      actorId := request.actorId
      actorRole := request.actorRole
      reasonCode := request.reasonCode
      correlationId := request.correlationId
      causationId := causationId }
  return { action with
    status := nextStatus
    sourceEventVersion := nextVersion
    updatedAt := request.decidedAt
    correlationId := request.correlationId
    causationId := event.causationId
    events := action.events ++ [event] }

/-! ## The in-memory repository -/

/-- `InMemoryIdeaManagementActionRepository`: the actions by id, and the ids by intake scope, by
conversion scope and by idempotency scope. -/
structure IdeaActionStore where
  actions : Dict String IdeaAction
  byIntakeScope : Dict (String × String × String) String
  byConversionScope : Dict (String × String × String × String) String
  byIdempotencyScope : Dict String String

def IdeaActionStore.new : IdeaActionStore := ⟨.empty, .empty, .empty, .empty⟩

def IdeaAction.intakeScope (action : IdeaAction) : String × String × String :=
  (action.tenantId, action.legalEntityCode, action.intakeId)

def IdeaAction.conversionScope (action : IdeaAction) : String × String × String × String :=
  (action.tenantId, action.legalEntityCode, action.portfolioId, action.conversionIntentId)

namespace IdeaActionStore

/-- The id under which `_existing_for_create` finds an action: by idempotency scope, by intake
scope, by conversion scope, and by id, in this order. -/
def existingId (store : IdeaActionStore) (action : IdeaAction) : Option String :=
  (store.byIdempotencyScope.get? action.idempotencyScopeHash).or
    ((store.byIntakeScope.get? action.intakeScope).or
      ((store.byConversionScope.get? action.conversionScope).or
        (if store.actions.contains action.actionId then some action.actionId else none)))

/-- `_existing_for_create` -/
def existingForCreate (store : IdeaActionStore) (action : IdeaAction) :
    Except IdeaActionError (Option IdeaAction) :=
  match store.existingId action with
  | none => .ok none
  | some actionId =>
    match store.actions.get? actionId with
    | none => .error (.lookup actionId)
    | some existing =>
      if existing.requestFingerprint ≠ action.requestFingerprint ∨
          existing.actionId ≠ action.actionId then
        .error (.conflict "IDEA_ACTION_INTAKE_IDEMPOTENCY_CONFLICT")
      else .ok (some existing)

/-- The writes of a creation. -/
def insert (store : IdeaActionStore) (action : IdeaAction) : IdeaActionStore :=
  { actions := store.actions.set action.actionId action
    byIntakeScope := store.byIntakeScope.set action.intakeScope action.actionId
    byConversionScope := store.byConversionScope.set action.conversionScope action.actionId
    byIdempotencyScope :=
      store.byIdempotencyScope.set action.idempotencyScopeHash action.actionId }

/-- `create_or_replay`: the action that is stored, and whether it is new. -/
def createOrReplay (store : IdeaActionStore) (action : IdeaAction) :
    Except IdeaActionError (IdeaActionStore × IdeaAction × Bool) :=
  match store.existingForCreate action with
  | .error e => .error e
  | .ok (some existing) => .ok (store, existing, false)
  | .ok none => .ok (store.insert action, action, true)

/-- `get_by_intake_id` -/
def getByIntakeId (store : IdeaActionStore) (tenantId legalEntityCode intakeId : String) :
    Option IdeaAction :=
  store.actions.get?
    ((store.byIntakeScope.get? (tenantId, legalEntityCode, intakeId)).getD "")

/-- `get_by_conversion_intent` -/
def getByConversionIntent (store : IdeaActionStore) (tenantId legalEntityCode portfolioId
    conversionIntentId : String) : Option IdeaAction :=
  store.actions.get? ((store.byConversionScope.get?
    (tenantId, legalEntityCode, portfolioId, conversionIntentId)).getD "")

/-- `update` -/
def update (store : IdeaActionStore) (action : IdeaAction) (expectedSourceEventVersion : Int) :
    Except IdeaActionError (IdeaActionStore × IdeaAction) :=
  match store.actions.get? action.actionId with
  | none => .error (.conflict "IDEA_MANAGEMENT_ACTION_NOT_FOUND")
  | some existing =>
    if existing.sourceEventVersion ≠ expectedSourceEventVersion then
      .error (.conflict "IDEA_MANAGEMENT_ACTION_SOURCE_EVENT_VERSION_CONFLICT")
    else if action.sourceEventVersion ≠ expectedSourceEventVersion + 1 then
      .error (.conflict "IDEA_MANAGEMENT_ACTION_VERSION_SEQUENCE_INVALID")
    else .ok ({ store with actions := store.actions.set action.actionId action }, action)

end IdeaActionStore

end LotusManage.RebalanceRuns
