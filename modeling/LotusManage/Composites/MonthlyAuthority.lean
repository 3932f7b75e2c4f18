import LotusManage.Composites.MonthlyPublication
import LotusManage.Lib.Dict

/-!
# Monthly authority

The approvals of one month of a composite are a chain: the ordinary approval, and amendments that each
name the one before.  `require_amendment_authority` admits an amendment at the end of the chain;
`published_monthly_receipt` rebuilds the receipt of an approval, and
`require_monthly_receipt_lineage` follows its predecessors back to the root.  The two count the
records of a chain separately.
-/

namespace LotusManage.Composites

variable (hashing : Hashing)

/-- `MAX_MONTHLY_AUTHORITY_RECORDS` -/
def maxMonthlyAuthorityRecords : Nat := 64

/-- The scope that `evaluation_key(proposal)[:3]` is. -/
def MonthlyProposal.definitionKey (proposal : MonthlyProposal) : DefinitionKey :=
  proposal.scope.definitionKey

/-! ## Admission -/

/-- `require_source_correction` -/
def requireSourceCorrection (proposal : MonthlyProposal) (amendment : SourceAmendment)
    (predecessor : MonthlyApproval) : Except CompositeError Unit := do
  let prior := predecessor.proposal
  ensure (amendment.expectedAuthorityBinding = approvalBinding hashing predecessor &&
      proposal.definitionKey = prior.definitionKey &&
      proposal.evaluation.month = prior.evaluation.month)
    (.value "COMPOSITE_MONTHLY_AMENDMENT_STALE_AUTHORITY")
  ensure (predecessor.approvedAt ≤ proposal.proposedAt)
    (.value "COMPOSITE_MONTHLY_AMENDMENT_CLOCK_MISMATCH")
  ensure (proposal.policyApproval = prior.policyApproval)
    (.value "COMPOSITE_MONTHLY_AMENDMENT_POLICY_CHANGE_UNSUPPORTED")
  ensure (proposal.universeAttestation.expectedPortfolioIds =
      prior.universeAttestation.expectedPortfolioIds)
    (.value "COMPOSITE_MONTHLY_AMENDMENT_POPULATION_CHANGE_UNSUPPORTED")
  let old := prior.observations
  let new := proposal.observations
  ensure (!((old.sourceCutId, old.sourceRevision, old.portfolios) =
      (new.sourceCutId, new.sourceRevision, new.portfolios)))
    (.value "COMPOSITE_MONTHLY_AMENDMENT_SOURCE_UNCHANGED")

/-- One turn of `_validated_children`. -/
def validatedChild (byHash : Dict String MonthlyApproval) (root : EvaluationBinding)
    (children : Dict String MonthlyApproval) (item : MonthlyApproval) :
    Except CompositeError (Dict String MonthlyApproval) :=
  match item.proposal.amendment with
  | none => .ok children
  | some claims =>
    match byHash.get? claims.predecessorApprovalBinding.digest with
    | none => .error (.value "COMPOSITE_MONTHLY_AUTHORITY_PREDECESSOR_MISMATCH")
    | some predecessor =>
      if approvalBinding hashing predecessor ≠ claims.predecessorApprovalBinding then
        .error (.value "COMPOSITE_MONTHLY_AUTHORITY_PREDECESSOR_MISMATCH")
      else if claims.originalApprovalBinding ≠ root then
        .error (.value "COMPOSITE_MONTHLY_AUTHORITY_ORIGINAL_MISMATCH")
      else if children.contains (hashing.approval predecessor) then
        .error (.value "COMPOSITE_MONTHLY_AUTHORITY_FORK_FORBIDDEN")
      else
        .ok (children.set (hashing.approval predecessor) item)

/-- `_validated_children` -/
def validatedChildren (approvals : List MonthlyApproval) (byHash : Dict String MonthlyApproval)
    (root : EvaluationBinding) : Except CompositeError (Dict String MonthlyApproval) :=
  approvals.foldlM (validatedChild hashing byHash root) Dict.empty

/-- The walk of `selected_monthly_approval` from the root, with the hashes that it has visited.  Each
pass visits one more of the records, so a walk out of fuel has come to a hash again. -/
def walkChain (children : Dict String MonthlyApproval) (count : Nat) :
    Nat → List String → MonthlyApproval → Except CompositeError MonthlyApproval
  | 0, _, _ => .error (.value "COMPOSITE_MONTHLY_AUTHORITY_HISTORY_CYCLE")
  | fuel + 1, visited, current =>
    if hashing.approval current ∈ visited then
      .error (.value "COMPOSITE_MONTHLY_AUTHORITY_HISTORY_CYCLE")
    else
      match children.get? (hashing.approval current) with
      | none =>
        if visited.length + 1 ≠ count then
          .error (.value "COMPOSITE_MONTHLY_AUTHORITY_HISTORY_DISCONNECTED")
        else .ok current
      | some child => walkChain children count fuel (hashing.approval current :: visited) child

/-- `selected_monthly_approval` -/
def selectedMonthlyApproval (approvals : List MonthlyApproval) (scope : DefinitionKey)
    (month : Month) : Except CompositeError MonthlyApproval := do
  ensure (!approvals.isEmpty && approvals.length ≤ maxMonthlyAuthorityRecords)
    (.value "COMPOSITE_MONTHLY_AUTHORITY_HISTORY_UNAVAILABLE")
  ensure (approvals.all fun item =>
      item.proposal.definitionKey = scope && item.proposal.evaluation.month = month)
    (.value "COMPOSITE_MONTHLY_AUTHORITY_SCOPE_MISMATCH")
  match approvals.filter (fun item => !item.amends) with
  | [root] =>
    let byHash := Dict.ofEntries (approvals.map (fun item => (hashing.approval item, item)))
    ensure (byHash.keys.length = approvals.length)
      (.value "COMPOSITE_MONTHLY_AUTHORITY_RECORD_AMBIGUOUS")
    let children ← validatedChildren hashing approvals byHash (approvalBinding hashing root)
    walkChain hashing children approvals.length (approvals.length + 1) [] root
  | _ => throw (.value "COMPOSITE_MONTHLY_AUTHORITY_ROOT_AMBIGUOUS")

/-- `require_amendment_authority` -/
def requireAmendmentAuthority (proposal : MonthlyProposal) (amendment : SourceAmendment)
    (approvals : List MonthlyApproval) (predecessorReceipt : EvaluationBinding) :
    Except CompositeError Unit := do
  let selected ← selectedMonthlyApproval hashing approvals proposal.definitionKey
    proposal.evaluation.month
  requireSourceCorrection hashing proposal amendment selected
  ensure (approvals.length < maxMonthlyAuthorityRecords)
    (.value "COMPOSITE_MONTHLY_AUTHORITY_HISTORY_LIMIT")
  match approvals.find? (fun item => !item.amends) with
  | none => throw .index
  | some root =>
    ensure (amendment.originalApprovalBinding = approvalBinding hashing root)
      (.value "COMPOSITE_MONTHLY_AUTHORITY_ORIGINAL_MISMATCH")
  ensure (amendment.predecessorReceiptBinding = predecessorReceipt)
    (.value "COMPOSITE_MONTHLY_AMENDMENT_PREDECESSOR_RECEIPT_MISMATCH")

/-! ## Receipts -/

/-- `require_exact_bound_content` and `require_approved_lineage` -/
def MonthlyReceipt.admit (receipt : MonthlyReceipt) : Except CompositeError MonthlyReceipt := do
  let proposal := receipt.approval.proposal
  ensure (proposal.publicationEvidence && proposal.sourceAssemblyEvidence.isSome)
    (.value "COMPOSITE_MONTHLY_EVIDENCE_UNAVAILABLE")
  ensure ((receipt.definition.key, receipt.definition.eligibilityPolicyVersion,
      receipt.definition.reportingCurrency, receipt.definition.strategyCode, receipt.sourceCutId) =
      (proposal.definitionKey, proposal.policyApproval.proposal.eligibilityPolicyVersion,
      proposal.observations.reportingCurrency, proposal.scope.strategyCode,
      proposal.universeAttestation.sourceCutId))
    (.value "COMPOSITE_MONTHLY_EVIDENCE_SCOPE_MISMATCH")
  ensure (receipt.membershipBinding =
        ⟨"CompositeMembership", proposal.targetMembershipRevision,
          receipt.approval.membershipContentHash⟩ &&
      receipt.universeBinding =
        ⟨"CompositeUniverseAttestation", proposal.evaluationRevision,
          receipt.approval.publishedUniverseContentHash⟩)
    (.value "COMPOSITE_MONTHLY_EVIDENCE_BINDING_MISMATCH")
  ensure (receipt.lineage = proposal.amendment)
    (.value "COMPOSITE_MONTHLY_AMENDMENT_RECEIPT_LINEAGE_MISMATCH")
  return receipt

/-- The publication announces the revision. -/
def MembershipPublication.announces (publication : MembershipPublication)
    (membership : MembershipRevision) : Bool :=
  decide (publication.revisionKey = membership.key) &&
    decide (publication.membershipContentHash = hashing.revision membership) &&
    decide (publication.policyVersion = membership.policyVersion) &&
    decide (publication.sourceCutId = membership.sourceCutId) &&
    decide (publication.decisionCount = membership.decisions.length) &&
    decide (publication.supersedesMembershipRevision = membership.supersedesMembershipRevision) &&
    decide (publication.affectedFrom = membership.affectedFrom) &&
    decide (publication.affectedTo = membership.affectedTo) &&
    publication.decidedAt.same membership.decidedAt

/-- The parent publication is the one that the amendment expected. -/
def SourceAmendment.follows (amendment : SourceAmendment) (parent : MembershipRevision) :
    Option MembershipPublication → Bool
  | none => false
  | some publication =>
    decide (publication.revisionKey = parent.key) &&
      decide (publication.membershipContentHash = hashing.revision parent) &&
      decide (publication.sequence = amendment.expectedCurrentPublicationSequence)

/-- The custody that `published_monthly_receipt` is given.  The policies are those of the monthly
controls; a staged one is equal to none. -/
structure MonthlyCustody where
  definition : CompositeDefinition
  retainedPolicy : Option PolicyApproval
  retainedPolicyProposal : Option PolicyProposal
  retainedProposal : MonthlyProposal
  parent : MembershipRevision
  membership : MembershipRevision
  universeAttestation : UniverseAttestation
  publication : MembershipPublication
  parentPublication : Option MembershipPublication

/-- `published_monthly_receipt` -/
def publishedMonthlyReceipt (approval : MonthlyApproval) (custody : MonthlyCustody) :
    Except CompositeError MonthlyReceipt := do
  let conflict := CompositeError.value "COMPOSITE_MONTHLY_EVIDENCE_CUSTODY_INTEGRITY_CONFLICT"
  match custody.retainedPolicy with
  | none => throw conflict
  | some policy =>
    ensure (some policy.proposal = custody.retainedPolicyProposal &&
      approval.proposal = custody.retainedProposal &&
      approval.proposal.policyApproval = policy) conflict
  let expected ← buildMonthlyPublication hashing custody.retainedProposal custody.parent
    approval.approvedBy approval.approvedAt approval.operationVerification
  ensure ((approval, custody.membership, custody.universeAttestation) = expected) conflict
  ensure (custody.publication.announces hashing custody.membership) conflict
  ensure (approval.proposal.amendment.all fun amendment =>
    amendment.follows hashing custody.parent custody.parentPublication) conflict
  MonthlyReceipt.admit
    { definition := custody.definition
      approval := approval
      membershipBinding := ⟨"CompositeMembership", custody.membership.membershipRevision,
        hashing.revision custody.membership⟩
      universeBinding := ⟨"CompositeUniverseAttestation",
        custody.universeAttestation.attestationVersion,
        hashing.universeAttestation custody.universeAttestation⟩
      sourceCutId := custody.universeAttestation.sourceCutId
      publicationSequence := custody.publication.sequence
      lineage := approval.proposal.amendment }

/-- The loop of `require_monthly_receipt_lineage`: `fuel` is what the approvals so far leave of
`MAX_MONTHLY_AUTHORITY_RECORDS`. -/
def receiptLineage (load : EvaluationBinding → Except CompositeError (Option MonthlyReceipt)) :
    Nat → List MonthlyApproval → MonthlyReceipt → Except CompositeError (List MonthlyApproval)
  | fuel, approvals, current =>
    let conflict := CompositeError.value "COMPOSITE_MONTHLY_EVIDENCE_CUSTODY_INTEGRITY_CONFLICT"
    match current.approval.proposal.amendment, fuel with
    | none, _ => .ok approvals
    | some _, 0 => .error conflict
    | some lineage, fuel + 1 => do
      match ← load lineage.predecessorApprovalBinding with
      | none => throw conflict
      | some predecessor =>
        ensure (hashing.receipt predecessor = lineage.predecessorReceiptBinding.digest &&
          predecessor.approval.productVersion = lineage.predecessorReceiptBinding.productVersion &&
          approvalBinding hashing predecessor.approval = lineage.predecessorApprovalBinding) conflict
        requireSourceCorrection hashing current.approval.proposal lineage predecessor.approval
        receiptLineage load fuel (approvals ++ [predecessor.approval]) predecessor

/-- `require_monthly_receipt_lineage` -/
def requireMonthlyReceiptLineage (receipt : MonthlyReceipt)
    (load : EvaluationBinding → Except CompositeError (Option MonthlyReceipt)) :
    Except CompositeError Unit := do
  let approvals ← receiptLineage hashing load (maxMonthlyAuthorityRecords - 1) [receipt.approval]
    receipt
  let _ ← selectedMonthlyApproval hashing approvals receipt.approval.proposal.definitionKey
    receipt.approval.proposal.evaluation.month

end LotusManage.Composites
