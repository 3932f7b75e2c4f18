import LotusManage.Composites.Membership

/-!
# Eligibility records

The records of the monthly eligibility controls: policy proposals and approvals, evaluation proposals
and approvals with their source amendments, and the staged controls of a subject that has no
definition yet.

An instant is its number of microseconds in UTC.  What no modelled function reads of a record is its
`body`, a canonical text.
-/

namespace LotusManage.Composites

/-! ## Definitions -/

/-- `CompositeDefinition`, of any version. -/
structure CompositeDefinition where
  tenantId : String
  compositeId : String
  definitionVersion : String
  strategyCode : String
  reportingCurrency : String
  eligibilityPolicyVersion : String
  body : String := ""
  deriving DecidableEq

def CompositeDefinition.key (definition : CompositeDefinition) : DefinitionKey :=
  (definition.tenantId, definition.compositeId, definition.definitionVersion)

/-! ## Policies -/

/-- `MonthlyPolicyScope` -/
structure PolicyScope where
  tenantId : String
  compositeId : String
  definitionVersion : String
  strategyCode : String
  deriving DecidableEq

def PolicyScope.definitionKey (scope : PolicyScope) : DefinitionKey :=
  (scope.tenantId, scope.compositeId, scope.definitionVersion)

inductive PolicyVersion where
  | v1
  | v2
  | v3
  deriving DecidableEq

/-- `MonthlyPolicyProposalVariant`; the scope and the month are those of its policy. -/
structure PolicyProposal where
  productVersion : PolicyVersion
  proposalRevision : String
  eligibilityPolicyVersion : String
  scope : PolicyScope
  month : Month
  proposedBy : String
  proposedAt : Int
  body : String := ""
  deriving DecidableEq

abbrev PolicyProposalKey := String × String × String × Month × String

def PolicyProposal.key (proposal : PolicyProposal) : PolicyProposalKey :=
  (proposal.scope.tenantId, proposal.scope.compositeId, proposal.scope.definitionVersion,
    proposal.month, proposal.proposalRevision)

/-- `MonthlyPolicyApprovalVariant`, with the mapping that a historical approval was verified for. -/
structure PolicyApproval where
  productVersion : PolicyVersion
  proposal : PolicyProposal
  approvedBy : String
  approvedAt : Int
  verifiedMapping : Option String := none
  body : String := ""
  deriving DecidableEq

/-- The keys of `_monthly_approvals`. -/
abbrev PolicyApprovalKey := String × String × Month

def PolicyApproval.key (approval : PolicyApproval) : PolicyApprovalKey :=
  (approval.proposal.scope.tenantId, approval.proposal.scope.compositeId, approval.proposal.month)

/-- `HistoricalPolicyVerification` of one operation. -/
structure PolicyVerification where
  mapping : String
  operation : String
  revision : String
  actorId : String
  requestedAt : Int
  intentDigest : String
  body : String := ""
  deriving DecidableEq

/-! ## Evaluations -/

/-- `MonthlyPortfolioObservations` -/
structure PortfolioObservations where
  portfolioId : String
  discretionary : Option Bool
  body : String := ""
  deriving DecidableEq

/-- `MonthlyEligibilityObservations`; `sourceGeneratedOn` is the day of `source_generated_at`. -/
structure EligibilityObservations where
  sourceCutId : String
  sourceRevision : String
  reportingCurrency : String
  sourceGeneratedOn : BusinessDate
  expectedPortfolioIds : List String
  portfolios : List PortfolioObservations
  body : String := ""
  deriving DecidableEq

/-- `MonthlyRuleAssessment` -/
structure RuleAssessment where
  failureReasons : List String := []
  unknownReasons : List String := []
  deriving DecidableEq

/-- `MonthlyPortfolioEvaluation` -/
structure PortfolioEvaluation where
  portfolioId : String
  status : MembershipStatus
  assessments : List RuleAssessment
  deriving DecidableEq

/-- `MonthlyEligibilityEvaluation` -/
structure EligibilityEvaluation where
  month : Month
  declaredUniverseComplete : Bool
  portfolios : List PortfolioEvaluation
  body : String := ""
  deriving DecidableEq

/-- The version of an evaluation record: an amendment is `v2` or `v4`, one under a historical policy
`v3` or `v4`. -/
inductive EvaluationVersion where
  | v1
  | v2
  | v3
  | v4
  deriving DecidableEq

/-- `MonthlyApprovalBinding` and `MonthlyReceiptBinding`, and the historical ones of each. -/
structure EvaluationBinding where
  productVersion : EvaluationVersion
  revision : String
  digest : String
  deriving DecidableEq

/-- `EvidenceBinding` -/
structure EvidenceBinding where
  productName : String
  revision : String
  digest : String
  deriving DecidableEq

/-- `MonthlySourceAmendment` and `HistoricalMonthlySourceAmendment` -/
structure SourceAmendment where
  predecessorApprovalBinding : EvaluationBinding
  predecessorReceiptBinding : EvaluationBinding
  originalApprovalBinding : EvaluationBinding
  expectedAuthorityBinding : EvaluationBinding
  projectionParentMembershipBinding : EvidenceBinding
  expectedCurrentPublicationSequence : Nat
  affectedFrom : BusinessDate
  affectedTo : BusinessDate
  body : String := ""
  deriving DecidableEq

/-- `MonthlyProposal`: an ordinary proposal, or an amendment. -/
structure MonthlyProposal where
  historical : Bool := false
  evaluationRevision : String
  targetMembershipRevision : String
  parentMembershipRevision : String
  parentMembershipContentHash : String
  policyApproval : PolicyApproval
  universeAttestation : UniverseAttestation
  observations : EligibilityObservations
  sourceAssemblyEvidence : Option String := none
  publicationEvidence : Bool := false
  evaluation : EligibilityEvaluation
  proposedBy : String
  proposedAt : Int
  correlationId : String
  operationVerification : Option PolicyVerification := none
  amendment : Option SourceAmendment := none
  deriving DecidableEq

def MonthlyProposal.productVersion (proposal : MonthlyProposal) : EvaluationVersion :=
  match proposal.historical, proposal.amendment.isSome with
  | false, false => .v1
  | false, true => .v2
  | true, false => .v3
  | true, true => .v4

/-- The policy scope of the proposal. -/
def MonthlyProposal.scope (proposal : MonthlyProposal) : PolicyScope :=
  proposal.policyApproval.proposal.scope

abbrev EvaluationKey := String × String × String × String

/-- `evaluation_key` -/
def MonthlyProposal.key (proposal : MonthlyProposal) : EvaluationKey :=
  (proposal.scope.tenantId, proposal.scope.compositeId, proposal.scope.definitionVersion,
    proposal.evaluationRevision)

/-- The month of the evaluation, in the composite: `(*key[:2], proposal.evaluation.month)`. -/
def MonthlyProposal.monthKey (proposal : MonthlyProposal) : String × String × Month :=
  (proposal.scope.tenantId, proposal.scope.compositeId, proposal.evaluation.month)

/-- The keys of `_monthly_evaluation_approvals`: three entries, or the four of an evaluation. -/
inductive EvaluationApprovalKey where
  | month (key : String × String × Month)
  | evaluation (key : EvaluationKey)
  deriving DecidableEq

/-- `MonthlyApproval` -/
structure MonthlyApproval where
  proposal : MonthlyProposal
  approvedBy : String
  approvedAt : Int
  claimsDigest : String
  membershipContentHash : String
  publishedUniverseContentHash : String
  operationVerification : Option PolicyVerification := none
  deriving DecidableEq

def MonthlyApproval.productVersion (approval : MonthlyApproval) : EvaluationVersion :=
  approval.proposal.productVersion

/-- Whether the approval is of an amendment. -/
def MonthlyApproval.amends (approval : MonthlyApproval) : Bool := approval.proposal.amendment.isSome

/-- Where `save_monthly_evaluation_approval` keeps the approval of a proposal. -/
def MonthlyProposal.approvalKey (proposal : MonthlyProposal) : EvaluationApprovalKey :=
  if proposal.amendment.isSome then .evaluation proposal.key else .month proposal.monthKey

/-- `MonthlyPublicationReceipt`, of any version: that of its approval. -/
structure MonthlyReceipt where
  definition : CompositeDefinition
  approval : MonthlyApproval
  membershipBinding : EvidenceBinding
  universeBinding : EvidenceBinding
  sourceCutId : String
  publicationSequence : Nat
  lineage : Option SourceAmendment := none

/-! ## Staged controls -/

/-- `EligibilitySubject`, with its candidate universe. -/
structure EligibilitySubject where
  tenantId : String
  compositeId : String
  definitionVersion : String
  subjectRevision : String
  eligibilityPolicyVersion : String
  month : Month
  correlationId : String
  universeComplete : Bool
  universeSourceCutId : String
  universeSourceProducts : List UniverseSourceProduct
  universeMemberIds : List String
  body : String := ""
  deriving DecidableEq

abbrev SubjectKey := String × String × String × String

/-- `subject_key` -/
def EligibilitySubject.key (subject : EligibilitySubject) : SubjectKey :=
  (subject.tenantId, subject.compositeId, subject.definitionVersion, subject.subjectRevision)

def EligibilitySubject.definitionKey (subject : EligibilitySubject) : DefinitionKey :=
  (subject.tenantId, subject.compositeId, subject.definitionVersion)

structure SubjectPolicyProposal where
  productVersion : PolicyVersion
  subject : EligibilitySubject
  proposal : PolicyProposal
  body : String := ""
  deriving DecidableEq

structure SubjectPolicyApproval where
  productVersion : PolicyVersion
  proposal : SubjectPolicyProposal
  body : String := ""
  deriving DecidableEq

structure SubjectEvaluationProposal where
  productVersion : PolicyVersion
  policyApproval : SubjectPolicyApproval
  evaluationRevision : String
  targetMembershipRevision : String
  observations : EligibilityObservations
  observationBinding : UniverseSourceProduct
  evaluation : EligibilityEvaluation
  body : String := ""
  deriving DecidableEq

structure SubjectEvaluationApproval where
  productVersion : PolicyVersion
  proposal : SubjectEvaluationProposal
  approvedBy : String
  approvedAt : Int
  claimsDigest : String
  membershipContentHash : String
  universeContentHash : String
  body : String := ""
  deriving DecidableEq

/-- `StagedControl` -/
inductive StagedControl where
  | policyProposal (control : SubjectPolicyProposal)
  | policyApproval (control : SubjectPolicyApproval)
  | evaluationProposal (control : SubjectEvaluationProposal)
  | evaluationApproval (control : SubjectEvaluationApproval)
  deriving DecidableEq

/-- `ControlKind`, the product names of the controls. -/
inductive ControlKind where
  | policyProposal
  | policyApproval
  | evaluationProposal
  | evaluationApproval
  deriving DecidableEq

namespace StagedControl

/-- `control.product_name` -/
def kind : StagedControl → ControlKind
  | policyProposal _ => .policyProposal
  | policyApproval _ => .policyApproval
  | evaluationProposal _ => .evaluationProposal
  | evaluationApproval _ => .evaluationApproval

/-- `control_subject` -/
def subject : StagedControl → EligibilitySubject
  | policyProposal control => control.subject
  | policyApproval control => control.proposal.subject
  | evaluationProposal control => control.policyApproval.proposal.subject
  | evaluationApproval control => control.proposal.policyApproval.proposal.subject

/-- `control_revision` -/
def revision : StagedControl → String
  | policyProposal control => control.proposal.proposalRevision
  | policyApproval control => control.proposal.proposal.proposalRevision
  | evaluationProposal control => control.evaluationRevision
  | evaluationApproval control => control.proposal.evaluationRevision

/-- The control that `predecessor` names. -/
def predecessor : StagedControl → Option StagedControl
  | policyProposal _ => none
  | policyApproval control => some (.policyProposal control.proposal)
  | evaluationProposal control => some (.policyApproval control.policyApproval)
  | evaluationApproval control => some (.evaluationProposal control.proposal)

end StagedControl

/-- `SubjectFinalizationRecord` -/
structure SubjectFinalization where
  subject : EligibilitySubject
  evaluationApproval : SubjectEvaluationApproval
  definition : CompositeDefinition
  body : String := ""

/-- `SubjectFinalizationProof` -/
structure FinalizationReceipt where
  finalization : SubjectFinalization
  publicationSequence : Nat
  membershipContentHash : String
  universeContentHash : String

/-! ## Hashes -/

/-- The canonical JSON texts of the records that are hashed, each without its own content hash. -/
structure Hashing extends MembershipHashing where
  policyProposalText : PolicyProposal → String
  policyApprovalText : PolicyApproval → String
  evaluationText : EligibilityEvaluation → String
  proposalText : MonthlyProposal → String
  /-- The text of a proposal without the verification of the operation. -/
  proposalIntentText : MonthlyProposal → String
  claimsText : (proposalContentHash approvedBy : String) → (approvedAt : Int) → String
  approvalText : MonthlyApproval → String
  receiptText : MonthlyReceipt → String
  subjectText : EligibilitySubject → String
  controlText : StagedControl → String
  finalizationText : SubjectFinalization → String

namespace Hashing

variable (hashing : Hashing)

def hash (text : String) : String := contentHash hashing.sha256Hex text

/-- `composite_membership_revision_hash` -/
def revision (revision : MembershipRevision) : String := hashing.hash (hashing.revisionText revision)

/-- `composite_universe_attestation_hash` -/
def universeAttestation (attestation : UniverseAttestation) : String :=
  hashing.hash (hashing.universeText attestation)

def policyProposal (proposal : PolicyProposal) : String :=
  hashing.hash (hashing.policyProposalText proposal)

def policyApproval (approval : PolicyApproval) : String :=
  hashing.hash (hashing.policyApprovalText approval)

def evaluation (evaluation : EligibilityEvaluation) : String :=
  hashing.hash (hashing.evaluationText evaluation)

def proposal (proposal : MonthlyProposal) : String := hashing.hash (hashing.proposalText proposal)

def approval (approval : MonthlyApproval) : String := hashing.hash (hashing.approvalText approval)

def receipt (receipt : MonthlyReceipt) : String := hashing.hash (hashing.receiptText receipt)

/-- `monthly_evaluation_approval_claims_hash` -/
def claims (proposal : MonthlyProposal) (approvedBy : String) (approvedAt : Int) : String :=
  hashing.hash (hashing.claimsText (hashing.proposal proposal) approvedBy approvedAt)

def subject (subject : EligibilitySubject) : String := hashing.hash (hashing.subjectText subject)

def control (control : StagedControl) : String := hashing.hash (hashing.controlText control)

def finalization (finalization : SubjectFinalization) : String :=
  hashing.hash (hashing.finalizationText finalization)

end Hashing

/-- `approval_binding` -/
def approvalBinding (hashing : Hashing) (approval : MonthlyApproval) : EvaluationBinding :=
  { productVersion := approval.productVersion
    revision := approval.proposal.evaluationRevision
    digest := hashing.approval approval }

end LotusManage.Composites
