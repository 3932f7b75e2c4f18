import LotusManage.Campaigns.Models
import LotusManage.Lib.Checks
import LotusManage.Lib.Text

/-!
# Validation of a campaign definition

`validate_definition` of `src/core/waves/campaign_definitions.py`: every function that builds
a definition ends here, and here the content hash is set.  `campaign_actor_entitlements.py`
is the check that the commands make on their actor.

`validateDefinition_eq_ok` is all that the proofs use: validation changes nothing but the
content hash, and it sets that to the hash of the payload.
-/

namespace LotusManage.Campaigns

open LotusManage.Checks (bind_eq_ok)
open LotusManage.Text (strip)

/-! ## Lifecycle fields -/

/-- `_validate_lifecycle_fields_absent` over the retirement fields. -/
def RetirementFields.absent (fields : RetirementFields) : Bool :=
  fields.retiredAt.isNone && fields.retiredBy.isNone && fields.retirementReason.isNone &&
    fields.retirementCorrelationId.isNone

/-- `_validate_lifecycle_fields_absent` over the supersession fields. -/
def SupersessionFields.absent (fields : SupersessionFields) : Bool :=
  fields.supersededAt.isNone && fields.supersededBy.isNone && fields.supersessionReason.isNone &&
    fields.supersessionCorrelationId.isNone && fields.supersededByCampaignId.isNone &&
    fields.supersededByCampaignVersion.isNone && fields.supersededByContentHash.isNone

/-- `_validate_required_lifecycle_value` on a timestamp. -/
def requiredLifecycleTime (value : Option Int) (reasonCode : String) :
    Except CampaignError Unit :=
  if value.isNone then .error (.value reasonCode) else .ok ()

/-- `_validate_required_lifecycle_value` on a text. -/
def requiredLifecycleText (value : Option String) (reasonCode : String) :
    Except CampaignError Unit :=
  match value with
  | none => .error (.value reasonCode)
  | some text => if strip text = "" then .error (.value reasonCode) else .ok ()

/-- `_validate_active_lifecycle` -/
def validateActiveLifecycle (definition : CampaignDefinition) : Except CampaignError Unit :=
  if definition.retirement.absent && definition.supersession.absent then .ok ()
  else .error (.value "BULK_REVIEW_CAMPAIGN_ACTIVE_LIFECYCLE_FIELDS_FORBIDDEN")

/-- `_validate_retired_lifecycle` -/
def validateRetiredLifecycle (definition : CampaignDefinition) : Except CampaignError Unit := do
  let fields := definition.retirement
  requiredLifecycleTime fields.retiredAt "BULK_REVIEW_CAMPAIGN_RETIREMENT_TIMESTAMP_REQUIRED"
  requiredLifecycleText fields.retiredBy "BULK_REVIEW_CAMPAIGN_RETIREMENT_ACTOR_REQUIRED"
  requiredLifecycleText fields.retirementReason
    "BULK_REVIEW_CAMPAIGN_RETIREMENT_REASON_REQUIRED"
  requiredLifecycleText fields.retirementCorrelationId
    "BULK_REVIEW_CAMPAIGN_RETIREMENT_CORRELATION_REQUIRED"
  if definition.supersession.absent then .ok ()
  else .error (.value "BULK_REVIEW_CAMPAIGN_RETIRED_SUPERSESSION_FIELDS_FORBIDDEN")

/-- `_validate_superseded_lifecycle` -/
def validateSupersededLifecycle (definition : CampaignDefinition) :
    Except CampaignError Unit := do
  let fields := definition.supersession
  requiredLifecycleTime fields.supersededAt
    "BULK_REVIEW_CAMPAIGN_SUPERSESSION_TIMESTAMP_REQUIRED"
  requiredLifecycleText fields.supersededBy "BULK_REVIEW_CAMPAIGN_SUPERSESSION_ACTOR_REQUIRED"
  requiredLifecycleText fields.supersessionReason
    "BULK_REVIEW_CAMPAIGN_SUPERSESSION_REASON_REQUIRED"
  requiredLifecycleText fields.supersessionCorrelationId
    "BULK_REVIEW_CAMPAIGN_SUPERSESSION_CORRELATION_REQUIRED"
  requiredLifecycleText fields.supersededByCampaignId
    "BULK_REVIEW_CAMPAIGN_SUPERSESSION_CAMPAIGN_ID_REQUIRED"
  requiredLifecycleText fields.supersededByCampaignVersion
    "BULK_REVIEW_CAMPAIGN_SUPERSESSION_CAMPAIGN_VERSION_REQUIRED"
  requiredLifecycleText fields.supersededByContentHash
    "BULK_REVIEW_CAMPAIGN_SUPERSESSION_CONTENT_HASH_REQUIRED"
  if definition.retirement.absent then .ok ()
  else .error (.value "BULK_REVIEW_CAMPAIGN_SUPERSEDED_RETIREMENT_FIELDS_FORBIDDEN")

/-- The check of the lifecycle fields by status. -/
def validateLifecycle (definition : CampaignDefinition) : Except CampaignError Unit :=
  match definition.status with
  | .active => validateActiveLifecycle definition
  | .retired => validateRetiredLifecycle definition
  | .superseded => validateSupersededLifecycle definition

/-! ## The definition -/

/-- `validate_candidate` -/
def validateCandidate (candidate : CampaignCandidate) : Except CampaignError Unit :=
  if strip candidate.portfolioType = "" then
    .error (.value "BULK_REVIEW_CAMPAIGN_PORTFOLIO_TYPE_REQUIRED")
  else if candidate.sourceRefs = [] then
    .error (.value "BULK_REVIEW_CAMPAIGN_SOURCE_REFS_REQUIRED")
  else .ok ()

/-- The tenant scope is not blank. -/
def validateTenant (definition : CampaignDefinition) : Except CampaignError Unit :=
  if strip definition.tenantId = "" then .error (.value "BULK_REVIEW_CAMPAIGN_TENANT_REQUIRED")
  else .ok ()

/-- `_validate_campaign_definition_structure` -/
def validateCampaignDefinitionStructure (definition : CampaignDefinition) :
    Except CampaignError Unit :=
  if !definition.eligiblePortfolioTypes.any (fun text => strip text != "") then
    .error (.value "BULK_REVIEW_CAMPAIGN_PORTFOLIO_TYPES_REQUIRED")
  else if definition.candidates = [] then
    .error (.value "BULK_REVIEW_CAMPAIGN_CANDIDATE_PORTFOLIOS_REQUIRED")
  else .ok ()

/-- `_apply_campaign_definition_content_hash` -/
def applyCampaignDefinitionContentHash (hashing : Hashing) (definition : CampaignDefinition) :
    Except CampaignError CampaignDefinition :=
  let expectedHash := campaignDefinitionHash hashing definition
  if definition.contentHash ≠ "" ∧ definition.contentHash ≠ expectedHash then
    .error (.value "BULK_REVIEW_CAMPAIGN_DEFINITION_HASH_MISMATCH")
  else .ok { definition with contentHash := expectedHash }

/-- `DpmBulkReviewCampaignDefinition.model_validate` -/
def validateDefinition (hashing : Hashing) (definition : CampaignDefinition) :
    Except CampaignError CampaignDefinition := do
  definition.candidates.forM validateCandidate
  validateTenant definition
  validateLifecycle definition
  validateCampaignDefinitionStructure definition
  applyCampaignDefinitionContentHash hashing definition

/-- The definition with the hash of its payload. -/
def CampaignDefinition.hashed (hashing : Hashing) (definition : CampaignDefinition) :
    CampaignDefinition :=
  { definition with contentHash := campaignDefinitionHash hashing definition }

/-- `validate_campaign_command_actor_entitlement` -/
def validateCampaignCommandActorEntitlement (definition : CampaignDefinition)
    (actorId : String) : Except CampaignError Unit :=
  let entitledActorIds :=
    match definition.governance with
    | none => []
    | some governance => governance.entitledActorIds
  if entitledActorIds = [] then .ok ()
  else if strip actorId = "" then
    .error (.value "BULK_REVIEW_CAMPAIGN_ACTOR_REQUIRED_FOR_ENTITLEMENT")
  else if strip actorId ∉ entitledActorIds then
    .error (.value "BULK_REVIEW_CAMPAIGN_ACTOR_NOT_ENTITLED")
  else .ok ()

/-! ## What validation leaves -/

theorem validateDefinition_eq_ok {hashing : Hashing} {definition validated : CampaignDefinition}
    (h : validateDefinition hashing definition = .ok validated) :
    validated = definition.hashed hashing := by
  unfold validateDefinition at h
  iterate 4 obtain ⟨_, _, h⟩ := bind_eq_ok h
  unfold applyCampaignDefinitionContentHash at h
  dsimp only at h
  split at h
  · cases h
  · cases h
    rfl

end LotusManage.Campaigns
