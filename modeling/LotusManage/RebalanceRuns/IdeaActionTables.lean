import Mathlib.Data.List.MinMax
import LotusManage.Lib.Tables
import LotusManage.RebalanceRuns.IdeaActions

/-!
# The PostgreSQL idea action store

`src/infrastructure/rebalance_runs/idea_management_actions_postgres.py` over the tables of migration
`0021`.  A row of `dpm_idea_management_actions` has its keys in columns of their own, which only the
insertion writes, and the action as a JSON text, which every update replaces.  A row of
`dpm_idea_management_action_events` is one event.

A method is a function on the tables.  A statement that breaks a constraint raises an error of the
driver, which `_connection` reports as unavailable, and the connection is closed without a commit:
the tables stay as they were.  `ORDER BY action_id` compares texts in the collation of the database,
which is the parameter `rank`.
-/

namespace LotusManage.RebalanceRuns

/-! ## The tables -/

/-- A row of `dpm_idea_management_actions`; `payloadJson` is the action that the text holds. -/
structure IdeaActionRow where
  actionId : String
  intakeId : String
  tenantId : String
  legalEntityCode : String
  portfolioId : String
  ideaCandidateId : String
  conversionIntentId : String
  requestFingerprint : String
  idempotencyScopeHash : String
  status : WorkflowStatus
  sourceEventVersion : Nat
  payloadJson : IdeaAction
  createdAt : Int
  updatedAt : Int

/-- `_action_insert_params` -/
def actionInsertParams (action : IdeaAction) : IdeaActionRow where
  actionId := action.actionId
  intakeId := action.intakeId
  tenantId := action.tenantId
  legalEntityCode := action.legalEntityCode
  portfolioId := action.portfolioId
  ideaCandidateId := action.ideaCandidateId
  conversionIntentId := action.conversionIntentId
  requestFingerprint := action.requestFingerprint
  idempotencyScopeHash := action.idempotencyScopeHash
  status := action.status
  sourceEventVersion := action.sourceEventVersion
  payloadJson := action
  createdAt := action.createdAt
  updatedAt := action.updatedAt

/-- The tables by primary key: the event rows hold the event and nothing else. -/
structure IdeaActionTables where
  actions : Dict String IdeaActionRow
  events : Dict String IdeaActionEvent

/-- What `_load_action` makes of a payload: the models are built again from the text. -/
def loadAction (payload : IdeaAction) : Except IdeaActionError IdeaAction := do
  let events ← payload.events.mapM validateIdeaEvent
  validateIdeaAction { payload with events := events }

/-- The columns that `update` writes. -/
def IdeaActionRow.updated (row : IdeaActionRow) (action : IdeaAction) : IdeaActionRow :=
  { row with
    status := action.status
    sourceEventVersion := action.sourceEventVersion
    payloadJson := action
    updatedAt := action.updatedAt }

/-! ## The constraints -/

/-- A text column holds no zero character. -/
def textAccepted (text : String) : Bool := !text.toList.contains '\x00'

/-- `INTEGER`, with `CHECK (source_event_version >= 1)` -/
def versionAccepted (version : Nat) : Bool := 1 ≤ version && version ≤ 2147483647

/-- `CHECK (status IN ('PENDING_REVIEW', 'APPROVED', 'REJECTED'))` -/
def statusAccepted (status : WorkflowStatus) : Bool := status != .notRequired

/-- `length(trim(...)) > 0`, where `trim` removes blanks only. -/
def scopeAccepted (text : String) : Bool := text.toList.any (· != ' ')

/-- The columns and the `CHECK` constraints of `dpm_idea_management_actions`. -/
def IdeaActionRow.accepted (row : IdeaActionRow) : Bool :=
  [row.actionId, row.intakeId, row.tenantId, row.legalEntityCode, row.portfolioId,
    row.ideaCandidateId, row.conversionIntentId, row.requestFingerprint,
    row.idempotencyScopeHash].all textAccepted &&
  statusAccepted row.status && versionAccepted row.sourceEventVersion &&
  [row.tenantId, row.legalEntityCode, row.portfolioId].all scopeAccepted

/-- Whether a row is in the way of an insertion, under the primary key and the three unique
constraints.  `_load_create_conflict` selects by the same condition. -/
def IdeaActionRow.conflicts (row : IdeaActionRow) (action : IdeaAction) : Bool :=
  decide (row.idempotencyScopeHash = action.idempotencyScopeHash) ||
    decide (row.actionId = action.actionId) ||
    decide ((row.tenantId, row.legalEntityCode, row.intakeId) = action.intakeScope) ||
    decide ((row.tenantId, row.legalEntityCode, row.portfolioId, row.conversionIntentId) =
      action.conversionScope)

namespace IdeaActionTables

/-- Before the first row. -/
def new : IdeaActionTables := ⟨.empty, .empty⟩

/-- The constraints of `dpm_idea_management_action_events`: the columns and the checks, the primary
key, the version key, and the reference to an action. -/
def eventAccepted (tables : IdeaActionTables) (event : IdeaActionEvent) : Bool :=
  textAccepted event.eventId && versionAccepted event.sourceEventVersion &&
    statusAccepted event.status && !tables.events.contains event.eventId &&
    tables.events.values.all (fun other => !(decide (other.actionId = event.actionId) &&
      decide (other.sourceEventVersion = event.sourceEventVersion))) &&
    tables.actions.contains event.actionId

/-- What `_connection` reports for an error of the driver. -/
def unavailable : IdeaActionError :=
  .unavailable "IDEA_MANAGEMENT_ACTION_PERSISTENCE_UNAVAILABLE"

/-- `_insert_event` of `action.events[0]` or `action.events[-1]`. -/
def insertEvent (tables : IdeaActionTables) (event : Option IdeaActionEvent) :
    Except IdeaActionError IdeaActionTables :=
  match event with
  | none => .error (.lookup "events")
  | some event =>
    if tables.eventAccepted event then
      .ok { tables with events := tables.events.set event.eventId event }
    else .error unavailable

/-- The row of a new action. -/
def insertAction (tables : IdeaActionTables) (action : IdeaAction) : IdeaActionTables :=
  { tables with actions := tables.actions.set action.actionId (actionInsertParams action) }

/-- The rows that are in the way of an action. -/
def conflicting (tables : IdeaActionTables) (action : IdeaAction) : List IdeaActionRow :=
  tables.actions.selectWhere (·.conflicts action)

/-- `_same_intake` -/
def sameIntake (existing proposed : IdeaAction) : Bool :=
  decide (existing.actionId = proposed.actionId) &&
    decide (existing.intakeId = proposed.intakeId) &&
    decide (existing.tenantId = proposed.tenantId) &&
    decide (existing.legalEntityCode = proposed.legalEntityCode) &&
    decide (existing.portfolioId = proposed.portfolioId) &&
    decide (existing.requestFingerprint = proposed.requestFingerprint) &&
    decide (existing.idempotencyScopeHash = proposed.idempotencyScopeHash)

section Collation

variable {κ : Type} [LinearOrder κ] (rank : String → κ)

/-- `_load_create_conflict`: the first row in the way, by action id. -/
def loadCreateConflict (tables : IdeaActionTables) (action : IdeaAction) :
    Except IdeaActionError (Option IdeaAction) :=
  match (tables.conflicting action).argmin (fun row => rank row.actionId) with
  | none => .ok none
  | some row =>
    match loadAction row.payloadJson with
    | .error e => .error e
    | .ok existing => .ok (some existing)

/-- `create_or_replay`: `ON CONFLICT DO NOTHING` inserts when no row is in the way. -/
def createOrReplay (tables : IdeaActionTables) (action : IdeaAction) :
    Except IdeaActionError (IdeaActionTables × IdeaAction × Bool) :=
  if !(actionInsertParams action).accepted then .error unavailable
  else if (tables.conflicting action).isEmpty then
    match (tables.insertAction action).insertEvent action.events.head? with
    | .error e => .error e
    | .ok tables => .ok (tables, action, true)
  else
    match tables.loadCreateConflict rank action with
    | .error e => .error e
    | .ok none => .error (.conflict "IDEA_ACTION_INTAKE_IDEMPOTENCY_CONFLICT")
    | .ok (some existing) =>
      if sameIntake existing action then .ok (tables, existing, false)
      else .error (.conflict "IDEA_ACTION_INTAKE_IDEMPOTENCY_CONFLICT")

end Collation

/-- `update` -/
def update (tables : IdeaActionTables) (action : IdeaAction) (expectedSourceEventVersion : Int) :
    Except IdeaActionError (IdeaActionTables × IdeaAction) :=
  if action.sourceEventVersion ≠ expectedSourceEventVersion + 1 then
    .error (.conflict "IDEA_MANAGEMENT_ACTION_VERSION_SEQUENCE_INVALID")
  else if !textAccepted action.actionId then .error unavailable
  else
    match (tables.actions.get? action.actionId).filter
        (fun row => decide ((row.sourceEventVersion : Int) = expectedSourceEventVersion)) with
    | none => .error (.conflict "IDEA_MANAGEMENT_ACTION_SOURCE_EVENT_VERSION_CONFLICT")
    | some row =>
      let updated := row.updated action
      if !updated.accepted then .error unavailable
      else
        let written := { tables with actions := tables.actions.set action.actionId updated }
        match written.insertEvent action.events.getLast? with
        | .error e => .error e
        | .ok tables => .ok (tables, action)

end IdeaActionTables

end LotusManage.RebalanceRuns
