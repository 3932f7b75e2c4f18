import LotusManage.Campaigns.Repository
import LotusManage.Lib.Runs

/-!
# Interleavings of the campaign commands

The commands of `src/api/services/wave_campaign_application.py` on one repository, by any
number of clients.  A command reads a definition (a supersession reads two), builds the
definition to write from what it has read, and writes it.  Each read and each write is one
repository call; between them everything else may happen.

`CampaignService` keeps the store and what has been read so far.  A command names the reads it
goes on from, so an interleaving may also go on from an old read; a client does not, and what
holds of every interleaving holds of those that clients can produce.
-/

namespace LotusManage.Campaigns

open LotusManage.Text (strip)

/-! ## Commands -/

/-- What `create_campaign_definition` takes: a definition without evidence. -/
structure CreateDefinitionCommand where
  tenantId : String
  campaignId : String
  campaignVersion : String
  status : DefinitionStatus := .active
  eligiblePortfolioTypes : List String
  candidates : List CampaignCandidate
  governance : Option CampaignGovernance := none

/-- The definition that `create_campaign_definition` saves. -/
def CreateDefinitionCommand.build (hashing : Hashing) (command : CreateDefinitionCommand) :
    Except CampaignError CampaignDefinition :=
  validateDefinition hashing
    { tenantId := command.tenantId
      campaignId := command.campaignId
      campaignVersion := command.campaignVersion
      status := command.status
      eligiblePortfolioTypes := command.eligiblePortfolioTypes
      candidates := command.candidates
      governance := command.governance }

/-- A command that appends evidence. -/
inductive EvidenceCommand where
  | launch (record : LaunchRecord)
  | decision (request : DecisionRequest)
  | action (request : ActionRequest)
  | openTask (request : OpenTaskRequest)
  | moveTask (request : TransitionRequest)
  | control (request : ControlRequest)

/-- The operation under which a command writes. -/
def EvidenceCommand.operation : EvidenceCommand → WorkflowOperation
  | launch _ => .launch
  | decision _ => .approvalDecision
  | action _ => .assignmentAction
  | openTask _ => .assignmentTask
  | moveTask _ => .assignmentTask
  | control _ => .makerCheckerControl

/-- A launch is ready only for an active definition: readiness
(`build_bulk_review_campaign_definition_preview_readiness`) has a reason code for the other two
statuses.  The other reasons to block a launch do not touch the store and are left out. -/
def launchDefinition (hashing : Hashing) (definition : CampaignDefinition)
    (record : LaunchRecord) : Except CampaignError CampaignDefinition := do
  requireActive definition "BULK_REVIEW_CAMPAIGN_DEFINITION_LAUNCH_BLOCKED"
  recordLaunch hashing definition record

/-- The definition that a command writes after its read. -/
def EvidenceCommand.build (hashing : Hashing) (command : EvidenceCommand)
    (definition : CampaignDefinition) : Except CampaignError CampaignDefinition :=
  match command with
  | .launch record => launchDefinition hashing definition record
  | .decision request => recordApprovalDecision hashing definition request
  | .action request => recordAssignmentAction hashing definition request
  | .openTask request => openAssignmentTask hashing definition request
  | .moveTask request => transitionAssignmentTask hashing definition request
  | .control request => recordMakerCheckerControl hashing definition request

/-- A launch that is recorded already is not written again; the other commands always write. -/
def EvidenceCommand.writes (command : EvidenceCommand)
    (definition updated : CampaignDefinition) : Bool :=
  match command with
  | launch _ => decide (updated.launchHistory ≠ definition.launchHistory)
  | _ => true

/-! ## The service -/

/-- The answer of one `get_definition` call. -/
structure DefinitionRead where
  key : String × String × String
  definition : Option CampaignDefinition

/-- The store, and what has been read from it so far. -/
structure CampaignService where
  store : DefinitionStore
  reads : List DefinitionRead

/-- A call of a client.  An index names a read of the past. -/
inductive CampaignCall where
  | create (command : CreateDefinitionCommand)
  | read (tenantId campaignId campaignVersion : String)
  | record (command : EvidenceCommand) (readIndex : Nat)
  | retire (request : RetireRequest) (readIndex : Nat)
  | supersede (request : SupersedeRequest) (readIndex replacementIndex : Nat)

namespace CampaignService

/-- Before the first call. -/
def new : CampaignService := ⟨.empty, []⟩

/-- The definition of a read that found one. -/
def readDefinition (s : CampaignService) (readIndex : Nat) : Option CampaignDefinition :=
  (s.reads[readIndex]?).bind DefinitionRead.definition

/-- The store after a write, and the definition that the write returns. -/
def written (s : CampaignService)
    (result : Except CampaignError (DefinitionStore × Option CampaignDefinition)) :
    DefinitionStore × Option CampaignDefinition :=
  match result with
  | .ok written => written
  | .error _ => (s.store, none)

/-- The write of a command that appends evidence: the store after it, and the definition that
was acknowledged. -/
def recordCall (hashing : Hashing) (s : CampaignService) (command : EvidenceCommand)
    (readIndex : Nat) : DefinitionStore × Option CampaignDefinition :=
  match s.readDefinition readIndex with
  | none => (s.store, none)
  | some definition =>
    match command.build hashing definition with
    | .error _ => (s.store, none)
    | .ok updated =>
      if command.writes definition updated then
        s.written (recordActiveDefinitionUpdate s.store updated definition.contentHash
          command.operation)
      else (s.store, none)

/-- The definition that a retirement writes. -/
def retirement (hashing : Hashing) (s : CampaignService) (request : RetireRequest)
    (readIndex : Nat) : Option CampaignDefinition :=
  (s.readDefinition readIndex).bind (fun existing =>
    match retiredDefinition hashing existing request with
    | .ok retired => retired
    | .error _ => none)

/-- The definition that a supersession writes.  Its second read is of the replacement. -/
def supersession (hashing : Hashing) (s : CampaignService) (request : SupersedeRequest)
    (readIndex replacementIndex : Nat) : Option CampaignDefinition :=
  (s.readDefinition readIndex).bind (fun existing =>
    (s.reads[replacementIndex]?).bind (fun read =>
      if read.key ≠ (existing.tenantId, existing.campaignId, strip request.replacementVersion) then
        none
      else
        match supersededDefinition hashing existing read.definition request with
        | .ok superseded => superseded
        | .error _ => none))

/-- The store after a call. -/
def storeAfter (hashing : Hashing) (s : CampaignService) : CampaignCall → DefinitionStore
  | .create command =>
    match command.build hashing with
    | .error _ => s.store
    | .ok definition =>
      match saveDefinition s.store definition with
      | .error _ => s.store
      | .ok store => store
  | .read _ _ _ => s.store
  | .record command readIndex => (s.recordCall hashing command readIndex).1
  | .retire request readIndex =>
    match s.retirement hashing request readIndex with
    | none => s.store
    | some retired => (s.written (retireDefinition s.store retired)).1
  | .supersede request readIndex replacementIndex =>
    match s.supersession hashing request readIndex replacementIndex with
    | none => s.store
    | some superseded => (s.written (supersedeDefinition s.store superseded)).1

/-- What has been read after a call. -/
def readsAfter (s : CampaignService) : CampaignCall → List DefinitionRead
  | .read tenantId campaignId campaignVersion =>
    s.reads ++ [⟨(tenantId, campaignId, campaignVersion),
      s.store.get? (tenantId, campaignId, campaignVersion)⟩]
  | _ => s.reads

/-- One call. -/
def step (hashing : Hashing) (s : CampaignService) (call : CampaignCall) : CampaignService :=
  ⟨s.storeAfter hashing call, s.readsAfter call⟩

/-- The service after an interleaving of calls. -/
def after (hashing : Hashing) (calls : List CampaignCall) : CampaignService :=
  Runs.run (step hashing) new calls

/-- The definition that a call acknowledges as written or as there already. -/
def acknowledged (hashing : Hashing) (s : CampaignService) : CampaignCall →
    Option CampaignDefinition
  | .record command readIndex => (s.recordCall hashing command readIndex).2
  | _ => none

end CampaignService

end LotusManage.Campaigns
