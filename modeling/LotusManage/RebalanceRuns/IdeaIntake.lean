import Mathlib.Data.List.Lex
import Mathlib.Data.List.Sort
import Mathlib.Data.String.Basic
import LotusManage.Lib.Json
import LotusManage.RebalanceRuns.IdeaActions

/-!
# Idea action intake

From the HTTP request to the arguments of `create_idea_management_action`: the principal that the
headers name (`src/api/routers/rebalance_runs_idea_action_intake_principal.py`), the request model
and the identities that are derived from both (`src/core/rebalance_runs/idea_action_intake.py`), and
the first half of `IdeaManagementActionService.accept_intake`
(`src/api/services/idea_management_action_service.py`).

Three identities are hashes of texts joined with `|`: the id of the action, the id of the intake and
the idempotency scope.  The request fingerprint is a hash of the canonical JSON of the request.

A header that is absent, and a body that is no JSON object with the fields of the model, get the
answer that a text of the wrong length gets and are left out.  The source system and the source
product of a request are constants.  A set is a list of its members.
-/

namespace LotusManage.RebalanceRuns

open LotusManage.Text (strip upper)

/-! ## The principal -/

/-- What the intake route answers with other than a receipt: 401, 403, and 422 with what the models
raise. -/
inductive IdeaIntakeError where
  | unauthenticated (code : String)
  | forbidden (code : String)
  | invalid (error : IdeaActionError)

/-- The headers that name the caller. -/
structure PrincipalHeaders where
  xActorId : String
  xRole : String
  xTenantId : String
  xLegalEntityCode : String
  xServiceIdentity : String
  xCapabilities : String
  xPortfolioIds : String
  xCorrelationId : Option String
  xPrincipalStatus : Option String

/-- `IdeaActionIntakePrincipal` -/
structure IdeaActionIntakePrincipal where
  actorId : String
  role : String
  tenantId : String
  legalEntityCode : String
  correlationId : String
  serviceIdentity : String
  capabilities : List String
  portfolioIds : List String
  deriving DecidableEq

/-- `_optional_header` -/
def optionalHeader (value : Option String) : Option String :=
  (value.map strip).filter (· ≠ "")

/-- `_required_header`, of a header with `min_length=1`. -/
def requiredHeader (value : String) : Except IdeaIntakeError String :=
  match optionalHeader (some value) with
  | none => .error (.unauthenticated "IDEA_ACTION_INTAKE_PRINCIPAL_REQUIRED")
  | some text => .ok text

/-- `_csv_set` -/
def csvSet (value : String) : List String :=
  ((Text.split ',' value.toList).map fun part => strip (String.ofList part)).filter (· ≠ "")

/-- The headers with `min_length=1`. -/
def PrincipalHeaders.required (headers : PrincipalHeaders) : List String :=
  [headers.xActorId, headers.xRole, headers.xTenantId, headers.xLegalEntityCode,
    headers.xServiceIdentity, headers.xCapabilities, headers.xPortfolioIds]

/-- A check of the route. -/
def requireIntake (condition : Bool) (error : IdeaIntakeError) : Except IdeaIntakeError Unit :=
  if condition then .ok () else .error error

/-- `resolve_idea_action_principal` -/
def resolveIdeaActionPrincipal (headers : PrincipalHeaders) :
    Except IdeaIntakeError IdeaActionIntakePrincipal := do
  requireIntake (headers.required.all (· ≠ "")) (.invalid (.invalid "length"))
  -- an empty status header counts as no header
  let status := (headers.xPrincipalStatus.filter (· ≠ "")).getD "ACTIVE"
  requireIntake (upper (strip status) = "ACTIVE")
    (.unauthenticated "IDEA_ACTION_INTAKE_PRINCIPAL_INVALID")
  let portfolioIds := csvSet headers.xPortfolioIds
  requireIntake (!portfolioIds.isEmpty)
    (.unauthenticated "IDEA_ACTION_INTAKE_PORTFOLIO_SCOPE_REQUIRED")
  let actorId ← requiredHeader headers.xActorId
  let role ← requiredHeader headers.xRole
  let tenantId ← requiredHeader headers.xTenantId
  let legalEntityCode ← requiredHeader headers.xLegalEntityCode
  let serviceIdentity ← requiredHeader headers.xServiceIdentity
  return {
    actorId := actorId
    role := upper role
    tenantId := tenantId
    legalEntityCode := upper legalEntityCode
    correlationId := (optionalHeader headers.xCorrelationId).getD "route-correlation-pending"
    serviceIdentity := serviceIdentity
    capabilities := csvSet headers.xCapabilities
    portfolioIds := portfolioIds }

/-- `_authorize` -/
def authorize (principal : IdeaActionIntakePrincipal) (capability : String) (roles : List String) :
    Except IdeaIntakeError Unit := do
  requireIntake (roles.contains principal.role)
    (.forbidden "IDEA_ACTION_INTAKE_ROLE_NOT_AUTHORIZED")
  requireIntake (principal.capabilities.contains capability)
    (.forbidden "IDEA_ACTION_INTAKE_CAPABILITY_REQUIRED")

/-- `require_idea_action_intake_principal` -/
def requireIdeaActionIntakePrincipal (headers : PrincipalHeaders) :
    Except IdeaIntakeError IdeaActionIntakePrincipal := do
  let principal ← resolveIdeaActionPrincipal headers
  authorize principal "manage.idea_action_intake.accept" ["SERVICE"]
  requireIntake (principal.serviceIdentity = "lotus-idea")
    (.forbidden "IDEA_ACTION_INTAKE_SERVICE_IDENTITY_REQUIRED")
  return principal

/-! ## The request -/

/-- `IdeaActionIntentType` -/
inductive IdeaIntentType where
  | reviewForRebalance
  | createManagementActionDraft
  deriving DecidableEq

/-- The text of an intent type. -/
def IdeaIntentType.code : IdeaIntentType → String
  | reviewForRebalance => "REVIEW_FOR_REBALANCE"
  | createManagementActionDraft => "CREATE_MANAGEMENT_ACTION_DRAFT"

/-- `IdeaActionSourceRef` -/
structure IdeaActionSourceRef where
  sourceType : String
  sourceId : String
  contentHash : Option String
  deriving DecidableEq

/-- `IdeaActionIntakeRequest` -/
structure IdeaActionIntakeRequest where
  portfolioId : String
  ideaCandidateId : String
  conversionIntentId : String
  intentType : IdeaIntentType
  sourceRefs : List IdeaActionSourceRef
  deriving DecidableEq

/-- `IdeaActionSourceRef(...)`: the validated reference. -/
def validateSourceRef (ref : IdeaActionSourceRef) : Except IdeaActionError IdeaActionSourceRef := do
  let code := "IDEA_ACTION_SOURCE_REF_REQUIRED"
  let sourceType ← requiredIdeaText ref.sourceType 160 code
  let sourceId ← requiredIdeaText ref.sourceId 160 code
  match ref.contentHash with
  | none => return ⟨sourceType, sourceId, none⟩
  | some hash =>
    requireIdea (hash.length ≤ 160) "length"
    requireIdea (strip hash ≠ "") code
    return ⟨sourceType, sourceId, some (strip hash)⟩

/-- `IdeaActionIntakeRequest(...)`: the validated request. -/
def validateIntakeRequest (body : IdeaActionIntakeRequest) :
    Except IdeaActionError IdeaActionIntakeRequest := do
  let code := "IDEA_ACTION_IDENTIFIER_REQUIRED"
  let portfolioId ← requiredIdeaText body.portfolioId 160 code
  let ideaCandidateId ← requiredIdeaText body.ideaCandidateId 160 code
  let conversionIntentId ← requiredIdeaText body.conversionIntentId 160 code
  let sourceRefs ← body.sourceRefs.mapM validateSourceRef
  requireIdea (1 ≤ sourceRefs.length && sourceRefs.length ≤ 16) "source_refs"
  return { body with
    portfolioId := portfolioId
    ideaCandidateId := ideaCandidateId
    conversionIntentId := conversionIntentId
    sourceRefs := sourceRefs }

/-- `source_ref.model_dump(mode="json")`, as JSON with the fields in their order in the model. -/
def IdeaActionSourceRef.dump (ref : IdeaActionSourceRef) : String :=
  String.ofList (Json.object [
    ("source_system", Json.quote "lotus-idea"),
    ("source_type", Json.quote ref.sourceType),
    ("source_id", Json.quote ref.sourceId),
    ("content_hash", Json.quoteOption ref.contentHash)])

/-- The same with the fields in the order of their names. -/
def IdeaActionSourceRef.canonical (ref : IdeaActionSourceRef) : List Char :=
  Json.object [
    ("content_hash", Json.quoteOption ref.contentHash),
    ("source_id", Json.quote ref.sourceId),
    ("source_system", Json.quote "lotus-idea"),
    ("source_type", Json.quote ref.sourceType)]

/-- The key that `_canonical_source_refs` sorts by. -/
def IdeaActionSourceRef.sortKey (ref : IdeaActionSourceRef) : List String :=
  [ref.sourceType, ref.sourceId, ref.contentHash.getD ""]

/-- `_canonical_source_refs` -/
def canonicalSourceRefs (refs : List IdeaActionSourceRef) : List IdeaActionSourceRef :=
  refs.insertionSort fun a b => a.sortKey ≤ b.sortKey

/-- The `canonical_payload` of `idea_action_request_fingerprint`. -/
def canonicalPayload (request : IdeaActionIntakeRequest) : String :=
  String.ofList (Json.object [
    ("conversion_intent_id", Json.quote request.conversionIntentId),
    ("idea_candidate_id", Json.quote request.ideaCandidateId),
    ("intent_type", Json.quote request.intentType.code),
    ("portfolio_id", Json.quote request.portfolioId),
    ("source_product", Json.quote "lotus-idea:IdeaCandidate:v1"),
    ("source_refs", Json.array
      ((canonicalSourceRefs request.sourceRefs).map IdeaActionSourceRef.canonical)),
    ("source_system", Json.quote "lotus-idea")])

/-! ## The identities -/

section Identities

variable (sha256Hex : Sha256Hex)

/-- `idea_action_request_fingerprint` -/
def ideaActionRequestFingerprint (request : IdeaActionIntakeRequest) : String :=
  "sha256:" ++ Text.take 12 (sha256Hex (canonicalPayload request))

/-- The `identity` that `idea_action_intake_id` hashes. -/
def intakeIdentity (request : IdeaActionIntakeRequest) (principal : IdeaActionIntakePrincipal) :
    String :=
  Text.join "|" [principal.tenantId, principal.legalEntityCode, request.portfolioId,
    request.ideaCandidateId, request.conversionIntentId, request.intentType.code,
    ideaActionRequestFingerprint sha256Hex request]

/-- `idea_action_intake_id` -/
def ideaActionIntakeId (request : IdeaActionIntakeRequest)
    (principal : IdeaActionIntakePrincipal) : String :=
  "iai_" ++ Text.take 20 (sha256Hex (intakeIdentity sha256Hex request principal))

/-- `safe_idea_action_idempotency_key_hash`, of a key that is not blank. -/
def idempotencyKeyHash (idempotencyKey : String) : String :=
  "sha256:" ++ Text.take 12 (sha256Hex (strip idempotencyKey))

/-- The `canonical_scope` that `idea_action_idempotency_scope_hash` hashes. -/
def idempotencyScope (idempotencyKey : String) (principal : IdeaActionIntakePrincipal)
    (portfolioId : String) : String :=
  Text.join "|" [idempotencyKeyHash sha256Hex idempotencyKey, principal.tenantId,
    principal.legalEntityCode, portfolioId, principal.serviceIdentity]

/-- `idea_action_idempotency_scope_hash`, of a key that is not blank. -/
def ideaActionIdempotencyScopeHash (idempotencyKey : String)
    (principal : IdeaActionIntakePrincipal) (portfolioId : String) : String :=
  "sha256:" ++
    Text.take 24 (sha256Hex (idempotencyScope sha256Hex idempotencyKey principal portfolioId))

end Identities

/-! ## Accepting an intake -/

/-- What a caller sends to the intake route, and when it is received. -/
structure IntakeInput where
  headers : PrincipalHeaders
  body : IdeaActionIntakeRequest
  idempotencyKey : String
  xCorrelationId : Option String
  receivedAt : Int

/-- An intake that passed every check before the repository is asked. -/
structure PreparedIntake where
  principal : IdeaActionIntakePrincipal
  request : IdeaActionIntakeRequest
  idempotencyKey : String
  correlationId : String
  receivedAt : Int
  deriving DecidableEq

/-- `_correlation_id` of the routes -/
def routeCorrelationId (value : Option String) : String :=
  let text := strip ((value.filter (· ≠ "")).getD "corr-idea-action-intake")
  if text = "" then "corr-idea-action-intake" else text

/-- `accept_idea_action_intake` up to the identities: who calls, what is asked for, and whether the
caller may.  The idempotency key has no text when it is blank. -/
def prepareIntake (input : IntakeInput) : Except IdeaIntakeError PreparedIntake := do
  let principal ← requireIdeaActionIntakePrincipal input.headers
  let request ← (validateIntakeRequest input.body).mapError .invalid
  requireIntake (1 ≤ input.idempotencyKey.length && input.idempotencyKey.length ≤ 160)
    (.invalid (.invalid "length"))
  requireIntake ((input.xCorrelationId.getD "").length ≤ 128) (.invalid (.invalid "length"))
  requireIntake (principal.portfolioIds.contains request.portfolioId)
    (.forbidden "IDEA_ACTION_INTAKE_PORTFOLIO_SCOPE_FORBIDDEN")
  requireIntake (strip input.idempotencyKey ≠ "")
    (.invalid (.invalid "IDEA_ACTION_INTAKE_IDEMPOTENCY_KEY_REQUIRED"))
  return {
    principal := principal
    request := request
    idempotencyKey := input.idempotencyKey
    correlationId := routeCorrelationId input.xCorrelationId
    receivedAt := input.receivedAt }

namespace PreparedIntake

variable (sha256Hex : Sha256Hex) (intake : PreparedIntake)

/-- The tenant, the legal entity and the portfolio. -/
def caller : String × String × String :=
  (intake.principal.tenantId, intake.principal.legalEntityCode, intake.request.portfolioId)

/-- The scope of the conversion: the caller, and the conversion intent. -/
def scope : String × String × String × String :=
  (intake.principal.tenantId, intake.principal.legalEntityCode, intake.request.portfolioId,
    intake.request.conversionIntentId)

def actionId : String :=
  managementActionId sha256Hex intake.principal.tenantId intake.principal.legalEntityCode
    intake.request.portfolioId intake.request.conversionIntentId

def intakeId : String := ideaActionIntakeId sha256Hex intake.request intake.principal

def scopeHash : String :=
  ideaActionIdempotencyScopeHash sha256Hex intake.idempotencyKey intake.principal
    intake.request.portfolioId

/-- The arguments of `create_idea_management_action` in `accept_intake`; none for an intent type
that gets a rejected receipt. -/
def createArguments : Option IntakeRequest :=
  if intake.request.intentType ≠ .reviewForRebalance then none
  else some {
    intakeId := intake.intakeId sha256Hex
    tenantId := intake.principal.tenantId
    legalEntityCode := intake.principal.legalEntityCode
    portfolioId := intake.request.portfolioId
    ideaCandidateId := intake.request.ideaCandidateId
    conversionIntentId := intake.request.conversionIntentId
    sourceRefs := intake.request.sourceRefs.map IdeaActionSourceRef.dump
    requestFingerprint := ideaActionRequestFingerprint sha256Hex intake.request
    idempotencyScopeHash := intake.scopeHash sha256Hex
    actorId := intake.principal.actorId
    actorRole := intake.principal.role
    correlationId := intake.correlationId
    createdAt := intake.receivedAt }

end PreparedIntake

end LotusManage.RebalanceRuns
