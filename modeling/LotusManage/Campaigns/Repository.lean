import LotusManage.Campaigns.Tasks

/-!
# The campaign definition repository

`InMemoryDpmBulkReviewCampaignDefinitionRepository` of
`src/infrastructure/waves/campaign_definitions.py`, and the lifecycle commands of
`src/core/waves/campaign_definition_lifecycle.py` that build what it stores.

Every method holds the lock of the repository, so a method is one step.  A workflow update is
fenced: it names the content hash of the definition it was built from, and the append fence
compares the launches, which the content hash does not cover.  A retirement and a supersession
are not: they check only that the stored definition is active.
-/

namespace LotusManage.Campaigns

open LotusManage.Text (strip)

/-- The definitions by tenant, campaign and version. -/
abbrev DefinitionStore := Dict (String × String × String) CampaignDefinition

/-! ## Creation -/

/-- `save_definition` -/
def saveDefinition (store : DefinitionStore) (definition : CampaignDefinition) :
    Except CampaignError DefinitionStore :=
  match store.get? definition.key with
  | some existing =>
    if existing.contentHash ≠ definition.contentHash then
      .error (.conflict "BULK_REVIEW_CAMPAIGN_DEFINITION_IMMUTABLE_CONFLICT")
    else .ok store
  | none => .ok (store.set definition.key definition)

/-! ## Lifecycle writes -/

/-- `retire_definition` -/
def retireDefinition (store : DefinitionStore) (definition : CampaignDefinition) :
    Except CampaignError (DefinitionStore × Option CampaignDefinition) :=
  match store.get? definition.key with
  | none => .ok (store, none)
  | some existing =>
    if existing.status = .retired then .ok (store, some existing)
    else if existing.status ≠ .active then
      .error (.conflict "BULK_REVIEW_CAMPAIGN_DEFINITION_LIFECYCLE_CONFLICT")
    else .ok (store.set definition.key definition, some definition)

/-- `supersede_definition` -/
def supersedeDefinition (store : DefinitionStore) (definition : CampaignDefinition) :
    Except CampaignError (DefinitionStore × Option CampaignDefinition) :=
  match store.get? definition.key with
  | none => .ok (store, none)
  | some existing =>
    if existing.status = .superseded then .ok (store, some existing)
    else if existing.status ≠ .active then
      .error (.conflict "BULK_REVIEW_CAMPAIGN_DEFINITION_LIFECYCLE_CONFLICT")
    else .ok (store.set definition.key definition, some definition)

/-! ## Workflow updates -/

/-- `_WORKFLOW_UPDATE_OPERATIONS` -/
inductive WorkflowOperation where
  | launch
  | approvalDecision
  | assignmentAction
  | assignmentTask
  | makerCheckerControl
  deriving DecidableEq

/-- `_validate_workflow_append_fence` -/
def validateWorkflowAppendFence (existing updated : CampaignDefinition)
    (operation : WorkflowOperation) : Except CampaignError Unit :=
  if operation = .launch ∧ existing.contentHash = updated.contentHash then
    if updated.launchHistory.length ≠ existing.launchHistory.length + 1 ∨
        updated.launchHistory.take existing.launchHistory.length ≠ existing.launchHistory then
      .error (.conflict "BULK_REVIEW_CAMPAIGN_DEFINITION_STALE_WRITE")
    else .ok ()
  else if existing.launchHistory ≠ updated.launchHistory then
    .error (.conflict "BULK_REVIEW_CAMPAIGN_DEFINITION_STALE_WRITE")
  else .ok ()

/-- `_record_active_definition_update` -/
def recordActiveDefinitionUpdate (store : DefinitionStore) (definition : CampaignDefinition)
    (expectedContentHash : String) (operation : WorkflowOperation) :
    Except CampaignError (DefinitionStore × Option CampaignDefinition) :=
  match store.get? definition.key with
  | none => .ok (store, none)
  | some existing =>
    if existing = definition then .ok (store, some existing)
    else if existing.status ≠ .active then
      .error (.conflict "BULK_REVIEW_CAMPAIGN_DEFINITION_LIFECYCLE_CONFLICT")
    else if existing.contentHash ≠ expectedContentHash then
      .error (.conflict "BULK_REVIEW_CAMPAIGN_DEFINITION_STALE_WRITE")
    else
      match validateWorkflowAppendFence existing definition operation with
      | .error e => .error e
      | .ok () => .ok (store.set definition.key definition, some definition)

/-! ## Lifecycle commands -/

/-- The arguments of `retire_bulk_review_campaign_definition` next to the scope. -/
structure RetireRequest where
  retiredBy : String
  retirementReason : String
  correlationId : String
  retiredAt : Int

/-- `retire_bulk_review_campaign_definition` between its read and its write: the definition to
write, or none when the one that was read is retired already. -/
def retiredDefinition (hashing : Hashing) (existing : CampaignDefinition)
    (request : RetireRequest) : Except CampaignError (Option CampaignDefinition) :=
  if existing.status = .retired then .ok none
  else if existing.status ≠ .active then
    .error (.lifecycle "BULK_REVIEW_CAMPAIGN_DEFINITION_LIFECYCLE_CONFLICT"
      "Only active campaign definitions can be retired.")
  else
    (validateDefinition hashing
      { existing with
        status := .retired
        retirement :=
          { retiredAt := some request.retiredAt
            retiredBy := some request.retiredBy
            retirementReason := some request.retirementReason
            retirementCorrelationId := some request.correlationId }
        contentHash := "" }).map some

/-- The arguments of `supersede_bulk_review_campaign_definition` next to the scope. -/
structure SupersedeRequest where
  replacementVersion : String
  supersededBy : String
  supersessionReason : String
  correlationId : String
  supersededAt : Int

/-- `_validated_replacement_version` -/
def validatedReplacementVersion (replacementVersion currentVersion : String) :
    Except CampaignError String :=
  if strip replacementVersion = "" ∨ strip replacementVersion = currentVersion then
    .error (.lifecycle "BULK_REVIEW_CAMPAIGN_SUPERSESSION_REPLACEMENT_VERSION_INVALID"
      "superseded_by_campaign_version must identify a different version.")
  else .ok (strip replacementVersion)

/-- `_validated_active_replacement` -/
def validatedActiveReplacement (replacement : Option CampaignDefinition) :
    Except CampaignError CampaignDefinition :=
  match replacement with
  | none =>
    .error (.lifecycle "BULK_REVIEW_CAMPAIGN_SUPERSESSION_REPLACEMENT_NOT_FOUND"
      "Replacement bulk-review campaign definition was not found.")
  | some replacement =>
    if replacement.status ≠ .active then
      .error (.lifecycle "BULK_REVIEW_CAMPAIGN_SUPERSESSION_REPLACEMENT_NOT_ACTIVE"
        "Replacement bulk-review campaign definition must be active.")
    else .ok replacement

/-- `_superseded_campaign_definition` -/
def supersededCampaignDefinition (hashing : Hashing)
    (existing replacement : CampaignDefinition) (request : SupersedeRequest) :
    Except CampaignError CampaignDefinition :=
  validateDefinition hashing
    { existing with
      status := .superseded
      supersession :=
        { supersededAt := some request.supersededAt
          supersededBy := some request.supersededBy
          supersessionReason := some request.supersessionReason
          supersessionCorrelationId := some request.correlationId
          supersededByCampaignId := some replacement.campaignId
          supersededByCampaignVersion := some replacement.campaignVersion
          supersededByContentHash := some replacement.contentHash }
      contentHash := "" }

/-- `supersede_bulk_review_campaign_definition` between its reads and its write: the definition
to write, or none when the one that was read is superseded already. -/
def supersededDefinition (hashing : Hashing) (existing : CampaignDefinition)
    (replacement : Option CampaignDefinition) (request : SupersedeRequest) :
    Except CampaignError (Option CampaignDefinition) :=
  if existing.status = .superseded then .ok none
  else if existing.status ≠ .active then
    .error (.lifecycle "BULK_REVIEW_CAMPAIGN_DEFINITION_LIFECYCLE_CONFLICT"
      "Only active campaign definitions can be superseded.")
  else do
    let _ ← validatedReplacementVersion request.replacementVersion existing.campaignVersion
    let replacement ← validatedActiveReplacement replacement
    let superseded ← supersededCampaignDefinition hashing existing replacement request
    return some superseded

end LotusManage.Campaigns
