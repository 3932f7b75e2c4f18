import LotusManage.Composites.MonthlyAuthority
import LotusManage.Lib.WriteOnce

/-!
# The composite repository

`InMemoryDpmCompositeRepository` and the staged custody that shares its dictionaries.  A dictionary of
controls holds the monthly records and the staged ones of its kind.

An operation takes the store and gives an answer with the store after it: what an operation has written
before it raises stays written.  Its arguments are values that their models accept, so that decoding
them again gives them back.
-/

namespace LotusManage.Composites

/-! ## The store -/

inductive PolicyProposalRecord where
  | monthly (proposal : PolicyProposal)
  | staged (control : SubjectPolicyProposal)
  deriving DecidableEq

inductive PolicyApprovalRecord where
  | monthly (approval : PolicyApproval)
  | staged (control : SubjectPolicyApproval)
  deriving DecidableEq

inductive EvaluationRecord where
  | monthly (proposal : MonthlyProposal)
  | staged (control : SubjectEvaluationProposal)
  deriving DecidableEq

inductive EvaluationApprovalRecord where
  | monthly (approval : MonthlyApproval)
  | staged (control : SubjectEvaluationApproval)
  deriving DecidableEq

/-- `DpmCompositePublicationReceipt` -/
structure PublicationReceipt where
  tenantId : String
  publicationSequence : Nat
  membershipContentHash : String
  consumerId : String
  receiptEvidenceHash : String
  received : Bool
  reasonCode : Option String
  receivedAt : Timestamp
  correlationId : String

structure CompositeStore where
  definitions : Dict DefinitionKey CompositeDefinition
  monthlyProposals : Dict PolicyProposalKey PolicyProposalRecord
  monthlyApprovals : Dict PolicyApprovalKey PolicyApprovalRecord
  monthlyEvaluations : Dict EvaluationKey EvaluationRecord
  monthlyEvaluationApprovals : Dict EvaluationApprovalKey EvaluationApprovalRecord
  membershipRevisions : Dict RevisionKey MembershipRevision
  publications : Dict Nat MembershipPublication
  receipts : Dict (String × Nat × String) PublicationReceipt
  universeAttestations : Dict UniverseKey UniverseAttestation
  lastSequence : Nat
  subjects : Dict SubjectKey EligibilitySubject
  finalizations : Dict SubjectKey FinalizationReceipt

namespace CompositeStore

def new : CompositeStore :=
  { definitions := .empty, monthlyProposals := .empty, monthlyApprovals := .empty,
    monthlyEvaluations := .empty, monthlyEvaluationApprovals := .empty,
    membershipRevisions := .empty, publications := .empty, receipts := .empty,
    universeAttestations := .empty, lastSequence := 0, subjects := .empty, finalizations := .empty }

/-- `_save_immutable`, with the store that the new dictionary makes. -/
def saveImmutable {κ ν : Type} [DecidableEq κ] [DecidableEq ν] (store : CompositeStore)
    (values : Dict κ ν) (key : κ) (value : ν) (conflictCode : String)
    (put : Dict κ ν → CompositeStore) : Except CompositeError Unit × CompositeStore :=
  match values.saveImmutable key value with
  | some values => (.ok (), put values)
  | none => (.error (.conflict conflictCode), store)

/-- Checks that write nothing, and what follows them. -/
def checked {α : Type} (store : CompositeStore) (check : Except CompositeError α)
    (rest : α → Except CompositeError Unit × CompositeStore) :
    Except CompositeError Unit × CompositeStore :=
  match check with
  | .error error => (.error error, store)
  | .ok value => rest value

/-! ## Definitions, revisions and universes -/

/-- `reserved` of the staged custody. -/
def reserved (store : CompositeStore) (key : DefinitionKey) : Bool :=
  store.subjects.values.any (fun subject => subject.definitionKey = key)

/-- `save_definition` -/
def saveDefinition (store : CompositeStore) (definition : CompositeDefinition) :
    Except CompositeError Unit × CompositeStore :=
  if store.reserved definition.key then
    if store.definitions.get? definition.key ≠ some definition then
      (.error (.conflict "COMPOSITE_SUBJECT_DEFINITION_RESERVED_CONFLICT"), store)
    else (.ok (), store)
  else
    store.saveImmutable store.definitions definition.key definition
      "COMPOSITE_DEFINITION_IMMUTABLE_CONFLICT"
      (fun definitions => { store with definitions := definitions })

/-- The checks of `save_membership_revision` on a revision that is not stored. -/
def checkMembershipRevision (store : CompositeStore) (revision : MembershipRevision) :
    Except CompositeError Unit :=
  match revision.supersedesMembershipRevision with
  | none => .ok ()
  | some superseded =>
    match store.membershipRevisions.get?
        (revision.tenantId, revision.compositeId, revision.definitionVersion, superseded) with
    | none => .error (.conflict "COMPOSITE_MEMBERSHIP_SUPERSEDED_REVISION_NOT_FOUND")
    | some parent => valueAsConflict none (requireCorrectionWindow parent revision)

/-- `save_membership_revision`: the revision and the number are written before the publication is
built. -/
def saveMembershipRevision (hashing : Hashing) (store : CompositeStore)
    (revision : MembershipRevision) (now : Int) : Except CompositeError Unit × CompositeStore :=
  if !store.definitions.contains revision.definitionKey then
    (.error (.conflict "COMPOSITE_MEMBERSHIP_DEFINITION_NOT_FOUND"), store)
  else if store.membershipRevisions.contains revision.key then
    store.saveImmutable store.membershipRevisions revision.key revision
      "COMPOSITE_MEMBERSHIP_REVISION_IMMUTABLE_CONFLICT"
      (fun revisions => { store with membershipRevisions := revisions })
  else
    store.checked (store.checkMembershipRevision revision) fun _ =>
      let written := { store with
        membershipRevisions := store.membershipRevisions.set revision.key revision
        lastSequence := store.lastSequence + 1 }
      written.checked (publicationFromRevision (hashing.revision revision) revision
          written.lastSequence (.utc now)) fun publication =>
        (.ok (), { written with
          publications := written.publications.set written.lastSequence publication })

/-- `save_universe_attestation` -/
def saveUniverseAttestation (hashing : Hashing) (store : CompositeStore)
    (attestation : UniverseAttestation) : Except CompositeError Unit × CompositeStore :=
  match store.membershipRevisions.get? attestation.revisionKey with
  | none => (.error (.conflict "COMPOSITE_UNIVERSE_MEMBERSHIP_NOT_FOUND"), store)
  | some revision =>
    if hashing.revision revision ≠ attestation.membershipContentHash then
      (.error (.conflict "COMPOSITE_UNIVERSE_MEMBERSHIP_HASH_MISMATCH"), store)
    else
      store.saveImmutable store.universeAttestations attestation.key attestation
        "COMPOSITE_UNIVERSE_ATTESTATION_IMMUTABLE_CONFLICT"
        (fun attestations => { store with universeAttestations := attestations })

/-- `save_receipt` -/
def saveReceipt (store : CompositeStore) (receipt : PublicationReceipt) :
    Except CompositeError Unit × CompositeStore :=
  let key := (receipt.tenantId, receipt.publicationSequence, receipt.consumerId)
  match store.publications.get? receipt.publicationSequence with
  | none => (.error (.conflict "COMPOSITE_PUBLICATION_NOT_FOUND"), store)
  | some publication =>
    if publication.tenantId ≠ receipt.tenantId then
      (.error (.conflict "COMPOSITE_PUBLICATION_NOT_FOUND"), store)
    else if publication.membershipContentHash ≠ receipt.membershipContentHash then
      (.error (.conflict "COMPOSITE_PUBLICATION_HASH_MISMATCH"), store)
    else
      match store.receipts.get? key with
      | some existing =>
        if existing.received ≠ receipt.received ∨ existing.reasonCode ≠ receipt.reasonCode ∨
            existing.receiptEvidenceHash ≠ receipt.receiptEvidenceHash ∨
            existing.correlationId ≠ receipt.correlationId then
          (.error (.conflict "COMPOSITE_RECEIPT_IMMUTABLE_CONFLICT"), store)
        else (.ok (), store)
      | none => (.ok (), { store with receipts := store.receipts.set key receipt })

/-! ## Monthly policies -/

/-- `save_monthly_policy_proposal` -/
def saveMonthlyPolicyProposal (store : CompositeStore) (proposal : PolicyProposal) :
    Except CompositeError Unit × CompositeStore :=
  match store.definitions.get? proposal.scope.definitionKey with
  | none => (.error (.value "COMPOSITE_DEFINITION_NOT_FOUND"), store)
  | some definition =>
    if definition.eligibilityPolicyVersion ≠ proposal.eligibilityPolicyVersion ∨
        definition.strategyCode ≠ proposal.scope.strategyCode then
      (.error (.conflict "COMPOSITE_ELIGIBILITY_DEFINITION_POLICY_MISMATCH"), store)
    else
      store.saveImmutable store.monthlyProposals proposal.key (.monthly proposal)
        "COMPOSITE_ELIGIBILITY_PROPOSAL_IMMUTABLE_CONFLICT"
        (fun proposals => { store with monthlyProposals := proposals })

end CompositeStore

namespace Hashing

/-- The `content_hash` of a retained control, monthly or staged. -/
def policyProposalRecord (hashing : Hashing) : PolicyProposalRecord → String
  | .monthly proposal => hashing.policyProposal proposal
  | .staged control => hashing.control (.policyProposal control)

def policyApprovalRecord (hashing : Hashing) : PolicyApprovalRecord → String
  | .monthly approval => hashing.policyApproval approval
  | .staged control => hashing.control (.policyApproval control)

def evaluationRecord (hashing : Hashing) : EvaluationRecord → String
  | .monthly proposal => hashing.proposal proposal
  | .staged control => hashing.control (.evaluationProposal control)

def evaluationApprovalRecord (hashing : Hashing) : EvaluationApprovalRecord → String
  | .monthly approval => hashing.approval approval
  | .staged control => hashing.control (.evaluationApproval control)

end Hashing

namespace CompositeStore

variable (hashing : Hashing)

/-- `save_monthly_policy_approval` -/
def saveMonthlyPolicyApproval (store : CompositeStore) (approval : PolicyApproval) :
    Except CompositeError Unit × CompositeStore :=
  let mismatch := CompositeError.conflict "COMPOSITE_ELIGIBILITY_APPROVAL_PROPOSAL_MISMATCH"
  match store.monthlyProposals.get? approval.proposal.key with
  | none => (.error mismatch, store)
  | some retained =>
    if hashing.policyProposalRecord retained ≠ hashing.policyProposal approval.proposal then
      (.error mismatch, store)
    else
      store.saveImmutable store.monthlyApprovals approval.key (.monthly approval)
        "COMPOSITE_ELIGIBILITY_ACTIVE_POLICY_CONFLICT"
        (fun approvals => { store with monthlyApprovals := approvals })

/-! ## Monthly evaluations -/

/-- The approvals of `_monthly_evaluation_approvals` that are monthly ones. -/
def monthlyApprovalRecords (store : CompositeStore) : List MonthlyApproval :=
  store.monthlyEvaluationApprovals.values.filterMap fun record =>
    match record with
    | .monthly approval => some approval
    | .staged _ => none

/-- `_publication_for_membership` -/
def publicationForMembership (store : CompositeStore) (key : RevisionKey) :
    Option MembershipPublication :=
  store.publications.values.find? (fun publication => publication.revisionKey = key)

/-- `_assert_publication_integrity` -/
def assertPublicationIntegrity (store : CompositeStore) (publication : MembershipPublication) :
    Except CompositeError Unit :=
  ensure ((store.membershipRevisions.get? publication.revisionKey).any fun revision =>
      publication.membershipContentHash = hashing.revision revision)
    (.conflict "COMPOSITE_PUBLICATION_INTEGRITY_CONFLICT")

/-- `_assert_monthly_publication` -/
def assertMonthlyPublication (store : CompositeStore) (approval : MonthlyApproval) :
    Except CompositeError Unit := do
  let mismatch := CompositeError.conflict "COMPOSITE_ELIGIBILITY_APPROVED_PUBLICATION_MISMATCH"
  let key := approval.proposal.definitionKey
  let target := approval.proposal.targetMembershipRevision
  ensure ((store.membershipRevisions.get? (key.1, key.2.1, key.2.2, target)).any fun revision =>
    hashing.revision revision = approval.membershipContentHash) mismatch
  ensure ((store.universeAttestations.get?
      (key.1, key.2.1, key.2.2, target, approval.proposal.evaluationRevision)).any fun attestation =>
    hashing.universeAttestation attestation = approval.publishedUniverseContentHash) mismatch
  match store.publicationForMembership (key.1, key.2.1, key.2.2, target) with
  | none => throw mismatch
  | some publication => store.assertPublicationIntegrity hashing publication

/-- `_require_monthly_inputs` -/
def requireMonthlyInputs (store : CompositeStore) (proposal : MonthlyProposal) :
    Except CompositeError Unit := do
  ensure ((store.monthlyApprovals.get? proposal.monthKey).any fun policy =>
      hashing.policyApprovalRecord policy = hashing.policyApproval proposal.policyApproval)
    (.conflict "COMPOSITE_ELIGIBILITY_APPROVED_POLICY_MISMATCH")
  let key := proposal.definitionKey
  ensure (store.universeAttestations.get? (key.1, key.2.1, key.2.2,
        proposal.parentMembershipRevision, proposal.universeAttestation.attestationVersion) =
      some proposal.universeAttestation)
    (.conflict "COMPOSITE_ELIGIBILITY_RETAINED_UNIVERSE_MISMATCH")

/-- The latest publication of a definition. -/
def currentPublication (store : CompositeStore) (key : DefinitionKey) :
    Option MembershipPublication :=
  store.publications.values.reverse.find? (fun publication => publication.definitionKey = key)

/-- `_require_current_monthly_parent` -/
def requireCurrentMonthlyParent (store : CompositeStore) (proposal : MonthlyProposal) :
    Except CompositeError Unit :=
  let stale := CompositeError.conflict "COMPOSITE_ELIGIBILITY_STALE_MEMBERSHIP"
  match store.currentPublication proposal.definitionKey with
  | none => .error stale
  | some current => do
    ensure (current.membershipRevision = proposal.parentMembershipRevision &&
      current.membershipContentHash = proposal.parentMembershipContentHash) stale
    store.assertPublicationIntegrity hashing current
    match proposal.amendment with
    | none => pure ()
    | some amendment =>
      ensure (current.sequence = amendment.expectedCurrentPublicationSequence)
        (.conflict "COMPOSITE_MONTHLY_AMENDMENT_STALE_PROJECTION")
      proposal.requireParentClock current.decidedAt

/-- `_monthly_receipt` -/
def monthlyReceipt (store : CompositeStore) (key : EvaluationKey) (approvalContentHash : String) :
    Except CompositeError (Option MonthlyReceipt) :=
  let conflict := CompositeError.conflict "COMPOSITE_MONTHLY_EVIDENCE_CUSTODY_INTEGRITY_CONFLICT"
  match store.monthlyApprovalRecords.find? (fun item => item.proposal.key = key) with
  | none => .ok none
  | some approval =>
    let proposal := approval.proposal
    let target : RevisionKey := (key.1, key.2.1, key.2.2.1, proposal.targetMembershipRevision)
    if !proposal.publicationEvidence then .ok none
    else if hashing.approval approval ≠ approvalContentHash then
      .error (.conflict "COMPOSITE_MONTHLY_EVIDENCE_BINDING_MISMATCH")
    else
      match store.monthlyEvaluations.get? key,
        store.definitions.get? (key.1, key.2.1, key.2.2.1),
        store.monthlyApprovals.get? (key.1, key.2.1, proposal.evaluation.month),
        store.monthlyProposals.get? (key.1, key.2.1, key.2.2.1, proposal.evaluation.month,
          proposal.policyApproval.proposal.proposalRevision),
        store.membershipRevisions.get?
          (key.1, key.2.1, key.2.2.1, proposal.parentMembershipRevision),
        store.membershipRevisions.get? target,
        store.universeAttestations.get?
          (key.1, key.2.1, key.2.2.1, proposal.targetMembershipRevision, key.2.2.2),
        store.publicationForMembership target with
      | some (.monthly retained), some definition, some policy, some policyProposal, some parent,
          some membership, some attestation, some publication => do
        store.requireMonthlyInputs hashing retained
        let receipt ← publishedMonthlyReceipt hashing approval
          { definition := definition
            retainedPolicy := match policy with
              | .monthly approval => some approval
              | .staged _ => none
            retainedPolicyProposal := match policyProposal with
              | .monthly proposal => some proposal
              | .staged _ => none
            retainedProposal := retained
            parent := parent
            membership := membership
            universeAttestation := attestation
            publication := publication
            parentPublication := store.publicationForMembership
              (key.1, key.2.1, key.2.2.1, retained.parentMembershipRevision) }
        return some receipt
      | _, _, _, _, _, _, _, _ => .error conflict

/-- `_validated_monthly_receipt`, which `resolve_monthly_eligibility_evidence` returns. -/
def validatedMonthlyReceipt (store : CompositeStore) (key : EvaluationKey)
    (approvalContentHash : String) : Except CompositeError (Option MonthlyReceipt) := do
  match ← store.monthlyReceipt hashing key approvalContentHash with
  | none => return none
  | some receipt =>
    valueAsConflict (some "COMPOSITE_MONTHLY_EVIDENCE_CUSTODY_INTEGRITY_CONFLICT")
      (requireMonthlyReceiptLineage hashing receipt fun binding =>
        store.monthlyReceipt hashing (key.1, key.2.1, key.2.2.1, binding.revision) binding.digest)
    return some receipt

/-- The approvals that `_require_amendment` collects: those of the month, in the composite. -/
def monthApprovals (store : CompositeStore) (key : String × String × Month) :
    List MonthlyApproval :=
  store.monthlyApprovalRecords.filter (fun item => item.proposal.monthKey = key)

/-- Whether a later month of the composite has an approval. -/
def dependentMonth (store : CompositeStore) (key : String × String × Month) : Bool :=
  store.monthlyEvaluationApprovals.keys.any fun stored =>
    match stored with
    | .month month => month.1 = key.1 && month.2.1 = key.2.1 && key.2.2.before month.2.2
    | .evaluation _ => false

/-- `_require_amendment` -/
def requireAmendment (store : CompositeStore) (proposal : MonthlyProposal)
    (amendment : SourceAmendment) : Except CompositeError Unit := do
  let approvals := store.monthApprovals proposal.monthKey
  ensure (!(approvals.isEmpty && store.monthlyEvaluationApprovals.contains (.month proposal.monthKey)))
    (.conflict "COMPOSITE_MONTHLY_AMENDMENT_STAGED_ROOT_UNSUPPORTED")
  let key := proposal.definitionKey
  let binding := amendment.predecessorApprovalBinding
  match ← store.validatedMonthlyReceipt hashing (key.1, key.2.1, key.2.2, binding.revision)
      binding.digest with
  | none => throw (.conflict "COMPOSITE_MONTHLY_AMENDMENT_PREDECESSOR_RECEIPT_MISMATCH")
  | some receipt =>
    valueAsConflict none (requireAmendmentAuthority hashing proposal amendment approvals
      { productVersion := receipt.approval.productVersion
        revision := binding.revision
        digest := hashing.receipt receipt })
  ensure (!store.dependentMonth proposal.monthKey)
    (.conflict "COMPOSITE_MONTHLY_AMENDMENT_DEPENDENT_MONTH_UNSUPPORTED")

/-- `_require_amendment`, of a proposal that is an amendment. -/
def requireAmendment? (store : CompositeStore) (proposal : MonthlyProposal) :
    Except CompositeError Unit :=
  match proposal.amendment with
  | none => .ok ()
  | some amendment => store.requireAmendment hashing proposal amendment

/-- `save_monthly_evaluation_proposal` -/
def saveMonthlyEvaluationProposal (store : CompositeStore) (proposal : MonthlyProposal) :
    Except CompositeError Unit × CompositeStore :=
  match store.monthlyEvaluations.get? proposal.key with
  | some retained =>
    if retained ≠ .monthly proposal then
      (.error (.conflict "COMPOSITE_ELIGIBILITY_EVALUATION_PROPOSAL_IMMUTABLE_CONFLICT"), store)
    else (.ok (), store)
  | none =>
    store.checked (do
      store.requireMonthlyInputs hashing proposal
      store.requireCurrentMonthlyParent hashing proposal
      store.requireAmendment? hashing proposal) fun _ =>
    store.saveImmutable store.monthlyEvaluations proposal.key (.monthly proposal)
      "COMPOSITE_ELIGIBILITY_EVALUATION_PROPOSAL_IMMUTABLE_CONFLICT"
      (fun evaluations => { store with monthlyEvaluations := evaluations })

/-- What `save_monthly_evaluation_approval` checks and builds before it writes. -/
def prepareMonthlyApproval (store : CompositeStore) (approval : MonthlyApproval) (now : Int) :
    Except CompositeError (MembershipRevision × UniverseAttestation × MembershipPublication) := do
  let proposal := approval.proposal
  let key := proposal.definitionKey
  store.requireAmendment? hashing proposal
  ensure ((store.monthlyEvaluations.get? proposal.key).any fun retained =>
      hashing.evaluationRecord retained = hashing.proposal proposal)
    (.conflict "COMPOSITE_ELIGIBILITY_EVALUATION_APPROVAL_PROPOSAL_MISMATCH")
  store.requireMonthlyInputs hashing proposal
  store.requireCurrentMonthlyParent hashing proposal
  match store.membershipRevisions.get?
      (key.1, key.2.1, key.2.2, proposal.parentMembershipRevision) with
  | none => throw .index
  | some parent =>
    let (expected, revision, attestation) ← buildMonthlyPublication hashing proposal parent
      approval.approvedBy approval.approvedAt approval.operationVerification
    ensure (expected = approval)
      (.conflict "COMPOSITE_ELIGIBILITY_APPROVED_PUBLICATION_MISMATCH")
    ensure (!(store.membershipRevisions.contains
          (key.1, key.2.1, key.2.2, revision.membershipRevision) ||
        store.universeAttestations.contains (key.1, key.2.1, key.2.2,
          revision.membershipRevision, attestation.attestationVersion)))
      (.conflict "COMPOSITE_ELIGIBILITY_TARGET_REVISION_EXISTS")
    let published ← publicationFromRevision (hashing.revision revision) revision
      (store.lastSequence + 1) (.utc now)
    return (revision, attestation, published)

/-- The writes of `save_monthly_evaluation_approval`. -/
def publishMonth (store : CompositeStore) (approval : MonthlyApproval)
    (revision : MembershipRevision) (attestation : UniverseAttestation)
    (published : MembershipPublication) : CompositeStore :=
  let key := approval.proposal.definitionKey
  { store with
    membershipRevisions := store.membershipRevisions.set
      (key.1, key.2.1, key.2.2, revision.membershipRevision) revision
    universeAttestations := store.universeAttestations.set
      (key.1, key.2.1, key.2.2, revision.membershipRevision, attestation.attestationVersion)
      attestation
    monthlyEvaluationApprovals :=
      store.monthlyEvaluationApprovals.set approval.proposal.approvalKey (.monthly approval)
    publications := store.publications.set published.sequence published
    lastSequence := published.sequence }

/-- `save_monthly_evaluation_approval` -/
def saveMonthlyEvaluationApproval (store : CompositeStore) (approval : MonthlyApproval)
    (now : Int) : Except CompositeError Unit × CompositeStore :=
  match store.monthlyEvaluationApprovals.get? approval.proposal.approvalKey with
  | some existing =>
    if existing ≠ .monthly approval then
      (.error (.conflict "COMPOSITE_ELIGIBILITY_ACTIVE_EVALUATION_CONFLICT"), store)
    else (store.assertMonthlyPublication hashing approval, store)
  | none =>
    store.checked (store.prepareMonthlyApproval hashing approval now)
      fun (revision, attestation, published) =>
        (.ok (), store.publishMonth approval revision attestation published)

/-! ## Staged controls -/

/-- `save_eligibility_subject` -/
def saveEligibilitySubject (store : CompositeStore) (subject : EligibilitySubject) :
    Except CompositeError Unit × CompositeStore :=
  match store.subjects.get? subject.key with
  | some existing =>
    if hashing.subject existing ≠ hashing.subject subject then
      (.error (.conflict "COMPOSITE_SUBJECT_IMMUTABLE_CONFLICT"), store)
    else (.ok (), store)
  | none =>
    if store.definitions.contains subject.definitionKey ||
        store.reserved subject.definitionKey then
      (.error (.conflict "COMPOSITE_SUBJECT_DEFINITION_RESERVED_CONFLICT"), store)
    else (.ok (), { store with subjects := store.subjects.set subject.key subject })

/-- The control under `_control_key(key, month, kind, revision)`, when it is a staged one. -/
def stagedControl (store : CompositeStore) (key : SubjectKey) (month : Month) (kind : ControlKind)
    (revision : String) : Option StagedControl :=
  let (tenantId, compositeId, definitionVersion, _) := key
  match kind with
  | .policyProposal =>
    match store.monthlyProposals.get?
        (tenantId, compositeId, definitionVersion, month, revision) with
    | some (.staged control) => some (.policyProposal control)
    | _ => none
  | .policyApproval =>
    match store.monthlyApprovals.get? (tenantId, compositeId, month) with
    | some (.staged control) => some (.policyApproval control)
    | _ => none
  | .evaluationProposal =>
    match store.monthlyEvaluations.get?
        (tenantId, compositeId, definitionVersion, revision) with
    | some (.staged control) => some (.evaluationProposal control)
    | _ => none
  | .evaluationApproval =>
    match store.monthlyEvaluationApprovals.get? (.month (tenantId, compositeId, month)) with
    | some (.staged control) => some (.evaluationApproval control)
    | _ => none

/-- `get_control` -/
def getControl (store : CompositeStore) (key : SubjectKey) (kind : ControlKind)
    (revision : String) : Option StagedControl :=
  match store.subjects.get? key with
  | none => none
  | some subject =>
    (store.stagedControl key subject.month kind revision).filter fun control =>
      control.subject.key = key && control.revision = revision

/-- `require_control_custody` -/
def requireControlCustody (control : StagedControl) (subject : EligibilitySubject)
    (retainedPredecessor : Option StagedControl) : Except CompositeError Unit := do
  ensure (control.subject = subject)
    (.value "COMPOSITE_SUBJECT_RETAINED_SUBJECT_MISMATCH")
  match control.predecessor with
  | none => pure ()
  | some expected =>
    ensure (retainedPredecessor.any fun retained =>
        retained.kind = expected.kind && retained.revision = expected.revision &&
          hashing.control retained = hashing.control expected &&
          retained.subject.key = subject.key)
      (.value "COMPOSITE_SUBJECT_RETAINED_CONTROL_MISMATCH")
  match control with
  | .evaluationApproval approval =>
    let (revision, attestation) ← initialProjection hashing approval.proposal
      approval.claimsDigest approval.approvedBy approval.approvedAt
    ensure (hashing.revision revision = approval.membershipContentHash &&
        hashing.universeAttestation attestation = approval.universeContentHash)
      (.value "COMPOSITE_SUBJECT_PROJECTION_MISMATCH")
  | _ => pure ()

/-- `_require_same` on the control in a slot, and the write into a free one. -/
def saveControlIn {κ ν : Type} [DecidableEq κ] (store : CompositeStore) (control : StagedControl)
    (collection : Dict κ ν) (hashOf : ν → String) (slot : κ) (value : ν)
    (put : Dict κ ν → CompositeStore) : Except CompositeError Unit × CompositeStore :=
  match collection.get? slot with
  | some existing =>
    if hashOf existing ≠ hashing.control control then
      (.error (.conflict "COMPOSITE_SUBJECT_IMMUTABLE_CONFLICT"), store)
    else (.ok (), store)
  | none =>
    if store.finalizations.contains control.subject.key then
      (.error (.conflict "COMPOSITE_SUBJECT_ALREADY_FINALIZED_CONFLICT"), store)
    else (.ok (), put (collection.set slot value))

/-- `save_subject_control` -/
def saveSubjectControl (store : CompositeStore) (control : StagedControl) :
    Except CompositeError Unit × CompositeStore :=
  let subject := control.subject
  match store.subjects.get? subject.key with
  | none => (.error (.value "COMPOSITE_SUBJECT_NOT_FOUND"), store)
  | some actual =>
    let retained := control.predecessor.bind fun previous =>
      store.getControl subject.key previous.kind previous.revision
    store.checked (requireControlCustody hashing control actual retained) fun _ =>
      match control with
      | .policyProposal value =>
        store.saveControlIn hashing control store.monthlyProposals hashing.policyProposalRecord
          (subject.tenantId, subject.compositeId, subject.definitionVersion, subject.month,
            control.revision) (.staged value)
          (fun proposals => { store with monthlyProposals := proposals })
      | .policyApproval value =>
        store.saveControlIn hashing control store.monthlyApprovals hashing.policyApprovalRecord
          (subject.tenantId, subject.compositeId, subject.month) (.staged value)
          (fun approvals => { store with monthlyApprovals := approvals })
      | .evaluationProposal value =>
        store.saveControlIn hashing control store.monthlyEvaluations hashing.evaluationRecord
          (subject.tenantId, subject.compositeId, subject.definitionVersion, control.revision)
          (.staged value)
          (fun evaluations => { store with monthlyEvaluations := evaluations })
      | .evaluationApproval value =>
        store.saveControlIn hashing control store.monthlyEvaluationApprovals
          hashing.evaluationApprovalRecord
          (.month (subject.tenantId, subject.compositeId, subject.month)) (.staged value)
          (fun approvals => { store with monthlyEvaluationApprovals := approvals })

/-- What `finalize` checks and builds before it writes. -/
def prepareFinalization (store : CompositeStore) (finalization : SubjectFinalization) (now : Int) :
    Except CompositeError (MembershipRevision × UniverseAttestation × MembershipPublication ×
      FinalizationReceipt) := do
  let subject := finalization.subject
  let approval := finalization.evaluationApproval
  ensure (store.subjects.get? subject.key = some subject)
    (.conflict "COMPOSITE_SUBJECT_RETAINED_SUBJECT_MISMATCH")
  ensure (store.getControl subject.key .evaluationApproval approval.proposal.evaluationRevision =
      some (.evaluationApproval approval))
    (.conflict "COMPOSITE_SUBJECT_RETAINED_CONTROL_MISMATCH")
  ensure (!store.definitions.contains subject.definitionKey)
    (.conflict "COMPOSITE_SUBJECT_DEFINITION_RESERVED_CONFLICT")
  let (revision, attestation) ← initialProjection hashing approval.proposal approval.claimsDigest
    approval.approvedBy approval.approvedAt
  ensure (!(store.membershipRevisions.contains (subject.tenantId, subject.compositeId,
        subject.definitionVersion, revision.membershipRevision) ||
      store.universeAttestations.contains (subject.tenantId, subject.compositeId,
        subject.definitionVersion, revision.membershipRevision, attestation.attestationVersion)))
    (.conflict "COMPOSITE_ELIGIBILITY_TARGET_REVISION_EXISTS")
  let publication ← publicationFromRevision (hashing.revision revision) revision
    (store.lastSequence + 1) (.utc now)
  let receipt ← finalizationReceipt finalization publication.sequence (hashing.revision revision)
    (hashing.universeAttestation attestation)
  return (revision, attestation, publication, receipt)

/-- The writes of `finalize`, and of `finalize_eligibility_subject` after it. -/
def publishSubject (store : CompositeStore) (finalization : SubjectFinalization)
    (revision : MembershipRevision) (attestation : UniverseAttestation)
    (publication : MembershipPublication) (receipt : FinalizationReceipt) : CompositeStore :=
  let subject := finalization.subject
  { store with
    definitions := store.definitions.set subject.definitionKey finalization.definition
    membershipRevisions := store.membershipRevisions.set (subject.tenantId, subject.compositeId,
      subject.definitionVersion, revision.membershipRevision) revision
    universeAttestations := store.universeAttestations.set (subject.tenantId, subject.compositeId,
      subject.definitionVersion, revision.membershipRevision, attestation.attestationVersion)
      attestation
    publications := store.publications.set publication.sequence publication
    finalizations := store.finalizations.set subject.key receipt
    lastSequence := max store.lastSequence receipt.publicationSequence }

/-- `finalize_eligibility_subject` -/
def finalizeEligibilitySubject (store : CompositeStore) (finalization : SubjectFinalization)
    (now : Int) : Except CompositeError Unit × CompositeStore :=
  match store.finalizations.get? finalization.subject.key with
  | some retained =>
    if hashing.finalization retained.finalization ≠ hashing.finalization finalization then
      (.error (.conflict "COMPOSITE_SUBJECT_IMMUTABLE_CONFLICT"), store)
    else
      (.ok (), { store with lastSequence := max store.lastSequence retained.publicationSequence })
  | none =>
    store.checked (store.prepareFinalization hashing finalization now)
      fun (revision, attestation, publication, receipt) =>
        (.ok (), store.publishSubject finalization revision attestation publication receipt)

end CompositeStore

/-! ## Calls -/

/-- A call of the repository that may write.  The model of a membership revision accepts what a
caller builds. -/
inductive CompositeCall where
  | saveDefinition (definition : CompositeDefinition)
  | saveMembershipRevision (revision : MembershipRevision) (accepted : revision.Accepted) (now : Int)
  | saveUniverseAttestation (attestation : UniverseAttestation)
  | saveReceipt (receipt : PublicationReceipt)
  | saveMonthlyPolicyProposal (proposal : PolicyProposal)
  | saveMonthlyPolicyApproval (approval : PolicyApproval)
  | saveMonthlyEvaluationProposal (proposal : MonthlyProposal)
  | saveMonthlyEvaluationApproval (approval : MonthlyApproval) (now : Int)
  | saveEligibilitySubject (subject : EligibilitySubject)
  | saveSubjectControl (control : StagedControl)
  | finalizeEligibilitySubject (finalization : SubjectFinalization) (now : Int)

/-- What a call answers, and the store after it. -/
def CompositeStore.call (hashing : Hashing) (store : CompositeStore) :
    CompositeCall → Except CompositeError Unit × CompositeStore
  | .saveDefinition definition => store.saveDefinition definition
  | .saveMembershipRevision revision _ now => store.saveMembershipRevision hashing revision now
  | .saveUniverseAttestation attestation => store.saveUniverseAttestation hashing attestation
  | .saveReceipt receipt => store.saveReceipt receipt
  | .saveMonthlyPolicyProposal proposal => store.saveMonthlyPolicyProposal proposal
  | .saveMonthlyPolicyApproval approval => store.saveMonthlyPolicyApproval hashing approval
  | .saveMonthlyEvaluationProposal proposal => store.saveMonthlyEvaluationProposal hashing proposal
  | .saveMonthlyEvaluationApproval approval now =>
    store.saveMonthlyEvaluationApproval hashing approval now
  | .saveEligibilitySubject subject => store.saveEligibilitySubject hashing subject
  | .saveSubjectControl control => store.saveSubjectControl hashing control
  | .finalizeEligibilitySubject finalization now =>
    store.finalizeEligibilitySubject hashing finalization now

/-- One call of a client, and the calls of any number of them in the order in which they take the
lock. -/
def CompositeStore.step (hashing : Hashing) (store : CompositeStore) (call : CompositeCall) :
    CompositeStore := (store.call hashing call).2

end LotusManage.Composites
