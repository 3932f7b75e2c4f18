import LotusManage.Composites.EligibilityRecords
import Mathlib.Data.List.Dedup

/-!
# Monthly publication

What an approved month becomes: `build_monthly_publication` replaces the decisions of the month in the
parent revision and attests its universe, and `initial_projection` does the first month of a subject.
Both only compute; the stores call them before they write.
-/

namespace LotusManage.Composites

/-! ## Universes -/

/-- `sorted` of a set of texts. -/
def sortedTexts (texts : List String) : List String := texts.dedup.insertionSort (· ≤ ·)

/-- `_covers_window`, of the windows in their order; `coveredTo` is `None` before the first. -/
def coversWindow (coverageFrom coverageTo : Int) : Option Int → List (Int × Int) → Bool
  | _, [] => false
  | coveredTo, (start, finish) :: windows =>
    let apart := match coveredTo with
      | none => decide (coverageFrom < start)
      | some covered => decide (covered + 1 < start)
    if apart then false
    else
      let covered := coveredTo.elim finish (max finish)
      if coverageTo ≤ covered then true else coversWindow coverageFrom coverageTo (some covered) windows

/-- What `reconcile_composite_universe` returns. -/
structure UniverseReconciliation where
  observed : List String
  missing : List String
  unexpected : List String
  gaps : List String

/-- The parts of the decisions on a portfolio inside the coverage. -/
def overlappingWindows (decisions : List MembershipDecision) (coverageFrom coverageTo : Int)
    (portfolioId : String) : List (Int × Int) :=
  decisions.filterMap fun decision =>
    if decision.portfolioId = portfolioId ∧ decision.effectiveFrom.ordinal ≤ coverageTo ∧
        coverageFrom ≤ decision.lastOrdinal then
      some (max decision.effectiveFrom.ordinal coverageFrom, min decision.lastOrdinal coverageTo)
    else none

/-- `reconcile_composite_universe` -/
def reconcileCompositeUniverse (decisions : List MembershipDecision) (coverageFrom coverageTo : Int)
    (expectedPortfolioIds : List String) : UniverseReconciliation :=
  let windows := overlappingWindows decisions coverageFrom coverageTo
  let observed := sortedTexts ((decisions.map MembershipDecision.portfolioId).filter
    (fun portfolioId => windows portfolioId ≠ []))
  { observed := observed
    missing := sortedTexts (expectedPortfolioIds.filter (· ∉ observed))
    unexpected := observed.filter (· ∉ expectedPortfolioIds)
    gaps := sortedTexts (expectedPortfolioIds.filter fun portfolioId =>
      decide (portfolioId ∈ observed) &&
        !coversWindow coverageFrom coverageTo none ((windows portfolioId).insertionSort
          (fun a b => toLex a ≤ toLex b))) }

/-- Nothing is missing, unexpected or uncovered. -/
def UniverseReconciliation.whole (reconciliation : UniverseReconciliation) : Bool :=
  reconciliation.missing.isEmpty && reconciliation.unexpected.isEmpty && reconciliation.gaps.isEmpty

/-- The key of `_canonical_source_products`. -/
def UniverseSourceProduct.sortKey (product : UniverseSourceProduct) :
    Lex (String × Lex (String × Lex (String × String))) :=
  toLex (product.ownerService, toLex (product.productName,
    toLex (product.contractVersion, product.sourceCutId)))

/-- `canonical_portfolio_ids` -/
def canonicalPortfolioIds (values : List String) : Except CompositeError (List String) := do
  requireTexts "COMPOSITE_UNIVERSE_PORTFOLIO_ID_REQUIRED" values
  ensure (decide values.Nodup) (.value "COMPOSITE_UNIVERSE_PORTFOLIO_ID_DUPLICATE")
  return values.insertionSort (· ≤ ·)

/-- `_validate_authoritative_source` -/
def validateAuthoritativeSource (products : List UniverseSourceProduct) (sourceCutId : String) :
    Except CompositeError Unit :=
  match products.filter (·.authorityScope = .authoritativeUniverse) with
  | [authority] =>
    ensure (authority.sourceCutId = sourceCutId)
      (.value "COMPOSITE_UNIVERSE_AUTHORITATIVE_SOURCE_CUT_MISMATCH")
  | _ => .error (.value "COMPOSITE_UNIVERSE_AUTHORITATIVE_SOURCE_REQUIRED")

/-- `_validate_posture` -/
def validatePosture (attestation : UniverseAttestation) : Except CompositeError Unit :=
  let discrepancies := !(attestation.missingPortfolioIds.isEmpty &&
    attestation.unexpectedPortfolioIds.isEmpty && attestation.coverageGapPortfolioIds.isEmpty)
  let expected := !attestation.expectedPortfolioIds.isEmpty
  match attestation.posture with
  | .complete => do
    ensure expected (.value "COMPOSITE_UNIVERSE_COMPLETE_SET_REQUIRED")
    ensure (!discrepancies && attestation.reasonCode.isNone)
      (.value "COMPOSITE_UNIVERSE_COMPLETE_CONTRADICTED")
  | .incomplete =>
    ensure (expected && discrepancies && attestation.reasonCode.isSome)
      (.value "COMPOSITE_UNIVERSE_INCOMPLETE_EVIDENCE_REQUIRED")
  | .unavailable =>
    ensure (!expected && !discrepancies && attestation.reasonCode.isSome)
      (.value "COMPOSITE_UNIVERSE_UNAVAILABLE_EVIDENCE_INVALID")

/-- The attestation as `DpmCompositeUniverseAttestation` keeps it, which sorts its lists. -/
def UniverseAttestation.admit (attestation : UniverseAttestation) :
    Except CompositeError UniverseAttestation := do
  requireTexts "COMPOSITE_UNIVERSE_ATTESTATION_REQUIRED_TEXT"
    [attestation.tenantId, attestation.compositeId, attestation.definitionVersion,
      attestation.membershipRevision, attestation.membershipContentHash,
      attestation.attestationVersion, attestation.policyVersion, attestation.sourceCutId,
      attestation.attestedBy, attestation.correlationId]
  let expected ← canonicalPortfolioIds attestation.expectedPortfolioIds
  let missing ← canonicalPortfolioIds attestation.missingPortfolioIds
  let unexpected ← canonicalPortfolioIds attestation.unexpectedPortfolioIds
  let gaps ← canonicalPortfolioIds attestation.coverageGapPortfolioIds
  ensure (!attestation.sourceProducts.isEmpty) (.value "too_short")
  attestation.sourceProducts.forM fun product =>
    requireTexts "COMPOSITE_UNIVERSE_SOURCE_PRODUCT_REQUIRED_TEXT"
      [product.ownerService, product.productName, product.contractVersion, product.sourceCutId,
        product.sourceWatermark, product.contentHash]
  ensure (decide (attestation.sourceProducts.map UniverseSourceProduct.sortKey).Nodup)
    (.value "COMPOSITE_UNIVERSE_SOURCE_PRODUCT_DUPLICATE")
  let products := attestation.sourceProducts.insertionSort (fun a b => a.sortKey ≤ b.sortKey)
  validateAuthoritativeSource products attestation.sourceCutId
  ensure (attestation.coverageFrom.ordinal ≤ attestation.coverageTo.ordinal)
    (.value "COMPOSITE_UNIVERSE_COVERAGE_WINDOW_INVALID")
  ensure attestation.attestedAt.aware
    (.value "COMPOSITE_UNIVERSE_ATTESTED_AT_TIMEZONE_REQUIRED")
  ensure (attestation.expectedPortfolioCount = expected.length)
    (.value "COMPOSITE_UNIVERSE_EXPECTED_COUNT_MISMATCH")
  let admitted := { attestation with
    sourceProducts := products
    expectedPortfolioIds := expected
    missingPortfolioIds := missing
    unexpectedPortfolioIds := unexpected
    coverageGapPortfolioIds := gaps }
  validatePosture admitted
  return admitted

/-! ## Decisions of a month -/

/-- `_retain_outside_month` -/
def retainOutsideMonth (first last : BusinessDate) (decisions : List MembershipDecision) :
    List MembershipDecision :=
  decisions.flatMap fun decision =>
    if last.ordinal < decision.effectiveFrom.ordinal ∨ decision.lastOrdinal < first.ordinal then
      [decision]
    else
      (if decision.effectiveFrom.ordinal < first.ordinal then
        [{ decision with effectiveTo := some (dayOfOrdinal (first.ordinal - 1)) }] else []) ++
      (if last.ordinal < decision.lastOrdinal then
        [{ decision with effectiveFrom := dayOfOrdinal (last.ordinal + 1) }] else [])

/-- The reasons that `monthly_decisions` takes from the assessments. -/
def PortfolioEvaluation.reasons (result : PortfolioEvaluation) : List String :=
  result.assessments.flatMap fun assessment =>
    if result.status = .excluded then assessment.failureReasons else assessment.unknownReasons

/-- One turn of `monthly_decisions`; an earlier observation of a portfolio is replaced by a later
one. -/
def monthlyDecision (evaluationHash : String) (snapshot : EligibilityObservations)
    (claimsDigest : String) (first last : BusinessDate) (result : PortfolioEvaluation) :
    Except CompositeError MembershipDecision := do
  match snapshot.portfolios.reverse.find? (·.portfolioId = result.portfolioId) with
  | none => throw .index
  | some observation =>
    match observation.discretionary with
    | none => throw (.value "COMPOSITE_ELIGIBILITY_DISCRETIONARY_FACT_UNAVAILABLE")
    | some discretionary =>
      let reasonCode ← match result.status, result.reasons with
        | .included, _ => pure none
        | _, reason :: _ => pure (some reason)
        | _, [] => throw .index
      let decision : MembershipDecision :=
        { portfolioId := result.portfolioId
          effectiveFrom := first
          effectiveTo := some last
          status := result.status
          reasonCode := reasonCode
          discretionary := discretionary
          approvalRef := some claimsDigest
          sourceSnapshotId := evaluationHash }
      decision.validate
      return decision

/-- `monthly_decisions` -/
def monthlyDecisions (hashing : Hashing) (evaluation : EligibilityEvaluation)
    (snapshot : EligibilityObservations) (claimsDigest : String) (first last : BusinessDate) :
    Except CompositeError (List MembershipDecision) :=
  evaluation.portfolios.mapM
    (monthlyDecision (hashing.evaluation evaluation) snapshot claimsDigest first last)

/-! ## Publication of a month -/

/-- `require_parent_clock` -/
def MonthlyProposal.requireParentClock (proposal : MonthlyProposal) (decidedAt : Timestamp) :
    Except CompositeError Unit :=
  match decidedAt.instant? with
  | none => .error .type
  | some instant =>
    ensure (instant ≤ proposal.proposedAt) (.value "COMPOSITE_MONTHLY_AMENDMENT_CLOCK_MISMATCH")

/-- `_require_publishable_month` -/
def requirePublishableMonth (hashing : Hashing) (proposal : MonthlyProposal)
    (parent : MembershipRevision) : Except CompositeError Unit := do
  ensure (parent.membershipRevision = proposal.parentMembershipRevision &&
      hashing.revision parent = proposal.parentMembershipContentHash)
    (.value "COMPOSITE_ELIGIBILITY_STALE_MEMBERSHIP")
  if proposal.amendment.isSome then proposal.requireParentClock parent.decidedAt
  ensure (proposal.universeAttestation.posture = .complete &&
      proposal.evaluation.declaredUniverseComplete)
    (.value "COMPOSITE_ELIGIBILITY_PUBLICATION_UNIVERSE_INCOMPLETE")
  let (first, last) := monthWindow proposal.evaluation.month
  ensure (last.text < proposal.observations.sourceGeneratedOn.text)
    (.value "COMPOSITE_ELIGIBILITY_PUBLICATION_SOURCE_NOT_FINALIZED")
  let reconciliation := reconcileCompositeUniverse parent.decisions first.ordinal last.ordinal
    proposal.universeAttestation.expectedPortfolioIds
  ensure (reconciliation.whole &&
      reconciliation.observed = proposal.observations.expectedPortfolioIds)
    (.value "COMPOSITE_ELIGIBILITY_PUBLICATION_UNIVERSE_INCOMPLETE")

/-- `proposal.product_version` -/
def EvaluationVersion.text : EvaluationVersion → String
  | v1 => "v1"
  | v2 => "v2"
  | v3 => "v3"
  | v4 => "v4"

/-- `"sha256:" + "0" * 64` -/
def zeroDigest : String := "sha256:" ++ String.ofList (List.replicate 64 '0')

/-- The source products of `_published_universe`: the approval of the month replaces an earlier
one. -/
def publishedProducts (proposal : MonthlyProposal) (sourceCutId approvalDigest : String) :
    List UniverseSourceProduct :=
  if proposal.publicationEvidence then
    proposal.universeAttestation.sourceProducts.filter (fun product =>
        !(decide (product.ownerService = "lotus-manage") &&
          decide (product.productName = "CompositeMonthlyEvaluationApproval"))) ++
      [{ ownerService := "lotus-manage"
         productName := "CompositeMonthlyEvaluationApproval"
         contractVersion := proposal.productVersion.text
         authorityScope := .policyInput
         sourceCutId := sourceCutId
         sourceWatermark := proposal.evaluationRevision
         contentHash := approvalDigest }]
  else proposal.universeAttestation.sourceProducts

/-- `_published_universe` -/
def publishedUniverse (hashing : Hashing) (proposal : MonthlyProposal) (revision : MembershipRevision)
    (approvedBy : String) (approvedAt : Int) (approvalDigest : String) :
    Except CompositeError UniverseAttestation := do
  let (first, last) := monthWindow proposal.evaluation.month
  let expected := proposal.observations.expectedPortfolioIds
  let reconciliation :=
    reconcileCompositeUniverse revision.decisions first.ordinal last.ordinal expected
  ensure reconciliation.whole (.value "COMPOSITE_ELIGIBILITY_PROJECTED_UNIVERSE_MISMATCH")
  UniverseAttestation.admit
    { tenantId := revision.tenantId
      compositeId := revision.compositeId
      definitionVersion := revision.definitionVersion
      membershipRevision := revision.membershipRevision
      membershipContentHash := hashing.revision revision
      attestationVersion := proposal.evaluationRevision
      coverageFrom := first
      coverageTo := last
      policyVersion := revision.policyVersion
      sourceCutId := revision.sourceCutId
      sourceProducts := publishedProducts proposal revision.sourceCutId approvalDigest
      posture := .complete
      expectedPortfolioIds := expected
      expectedPortfolioCount := expected.length
      observedPortfolioCount := reconciliation.observed.length
      attestedAt := .utc approvedAt
      attestedBy := approvedBy
      correlationId := proposal.correlationId }

/-- `require_operation_verification` -/
def requireOperationVerification (hashing : Hashing) (proposal : MonthlyProposal)
    (proof : PolicyVerification) (operation actor : String) (instant : Int) :
    Except CompositeError Unit := do
  ensure (proposal.policyApproval.productVersion = .v2)
    (.value "COMPOSITE_HISTORICAL_POLICY_REQUEST_MISMATCH")
  ensure (proposal.policyApproval.approvedAt ≤ instant)
    (.value "COMPOSITE_ELIGIBILITY_APPROVAL_BEFORE_PROPOSAL")
  ensure (some proof.mapping = proposal.policyApproval.verifiedMapping)
    (.value "COMPOSITE_HISTORICAL_POLICY_MAPPING_MISMATCH")
  let intent := if operation = "EVALUATION_PROPOSAL"
    then hashing.hash (hashing.proposalIntentText proposal) else hashing.proposal proposal
  ensure ((proof.operation, proof.revision, proof.actorId, proof.requestedAt, proof.intentDigest) =
      (operation, proposal.evaluationRevision, actor, instant, intent))
    (.value "COMPOSITE_HISTORICAL_POLICY_INTENT_MISMATCH")

/-- The verification of the operation, which an approval has exactly when it is historical. -/
def requireApprovalVerification (hashing : Hashing) (approval : MonthlyApproval) :
    Except CompositeError Unit :=
  match approval.proposal.historical, approval.operationVerification with
  | true, some proof =>
    requireOperationVerification hashing approval.proposal proof "EVALUATION_APPROVAL"
      approval.approvedBy approval.approvedAt
  | false, none => .ok ()
  | true, none => .error (.value "missing")
  | false, some _ => .error (.value "extra_forbidden")

/-- `decode_monthly_approval`, on the wire of an approval. -/
def MonthlyApproval.admit (hashing : Hashing) (approval : MonthlyApproval) :
    Except CompositeError MonthlyApproval := do
  let proposal := approval.proposal
  ensure (approval.approvedBy ≠ proposal.proposedBy)
    (.value "COMPOSITE_ELIGIBILITY_SELF_APPROVAL_FORBIDDEN")
  ensure (proposal.proposedAt ≤ approval.approvedAt)
    (.value "COMPOSITE_ELIGIBILITY_APPROVAL_BEFORE_PROPOSAL")
  ensure (approval.claimsDigest = hashing.claims proposal approval.approvedBy approval.approvedAt)
    (.value "COMPOSITE_ELIGIBILITY_EVALUATION_APPROVAL_CLAIMS_MISMATCH")
  requireApprovalVerification hashing approval
  return approval

variable {hashing : Hashing} {approval : MonthlyApproval} {revision : MembershipRevision}
  {attestation : UniverseAttestation}

theorem MonthlyApproval.admit_ok {admitted : MonthlyApproval}
    (h : approval.admit hashing = .ok admitted) : admitted = approval := by
  unfold MonthlyApproval.admit at h
  iterate 4 obtain ⟨_, _, h⟩ := Checks.bind_eq_ok h
  cases h
  rfl

/-- The decisions of the published revision, in their order. -/
def publishedDecisions (parent : MembershipRevision) (first last : BusinessDate)
    (monthly : List MembershipDecision) : List MembershipDecision :=
  (retainOutsideMonth first last parent.decisions ++ monthly).insertionSort
    (fun a b => toLex (a.portfolioId, a.effectiveFrom.text) ≤
      toLex (b.portfolioId, b.effectiveFrom.text))

/-- `build_monthly_publication` -/
def buildMonthlyPublication (hashing : Hashing) (proposal : MonthlyProposal)
    (parent : MembershipRevision) (approvedBy : String) (approvedAt : Int)
    (operationVerification : Option PolicyVerification) :
    Except CompositeError (MonthlyApproval × MembershipRevision × UniverseAttestation) := do
  requirePublishableMonth hashing proposal parent
  let (first, last) := monthWindow proposal.evaluation.month
  let claims := hashing.claims proposal approvedBy approvedAt
  let monthly ← monthlyDecisions hashing proposal.evaluation proposal.observations claims first last
  let revision : MembershipRevision :=
    { tenantId := proposal.scope.tenantId
      compositeId := proposal.scope.compositeId
      definitionVersion := proposal.scope.definitionVersion
      membershipRevision := proposal.targetMembershipRevision
      policyVersion := proposal.policyApproval.proposal.eligibilityPolicyVersion
      sourceCutId := proposal.universeAttestation.sourceCutId
      decisions := publishedDecisions parent first last monthly
      decidedBy := approvedBy
      decidedAt := .utc approvedAt
      correlationId := proposal.correlationId
      supersedesMembershipRevision := some parent.membershipRevision
      affectedFrom := some first
      affectedTo := some last }
  revision.validate
  let attestation ← publishedUniverse hashing proposal revision approvedBy approvedAt zeroDigest
  let approval ← MonthlyApproval.admit hashing
    { proposal := proposal
      approvedBy := approvedBy
      approvedAt := approvedAt
      claimsDigest := claims
      membershipContentHash := hashing.revision revision
      publishedUniverseContentHash := hashing.universeAttestation attestation
      operationVerification := operationVerification }
  if proposal.publicationEvidence then
    let linked ← publishedUniverse hashing proposal revision approvedBy approvedAt
      (hashing.approval approval)
    ensure (hashing.universeAttestation linked = hashing.universeAttestation attestation)
      (.value "COMPOSITE_ELIGIBILITY_PUBLICATION_LOCATOR_HASH_CYCLE")
    return (approval, revision, linked)
  else
    return (approval, revision, attestation)

theorem buildMonthlyPublication_ok {proposal : MonthlyProposal} {parent : MembershipRevision}
    {approvedBy : String} {approvedAt : Int} {operationVerification : Option PolicyVerification}
    (h : buildMonthlyPublication hashing proposal parent approvedBy approvedAt
      operationVerification = .ok (approval, revision, attestation)) :
    approval.proposal = proposal ∧
      revision.key = (proposal.scope.tenantId, proposal.scope.compositeId,
        proposal.scope.definitionVersion, proposal.targetMembershipRevision) := by
  unfold buildMonthlyPublication at h
  obtain ⟨_, _, h⟩ := Checks.bind_eq_ok h
  dsimp only at h
  obtain ⟨monthly, _, h⟩ := Checks.bind_eq_ok h
  obtain ⟨_, _, h⟩ := Checks.bind_eq_ok h
  obtain ⟨unlinked, _, h⟩ := Checks.bind_eq_ok h
  obtain ⟨admitted, hadmitted, h⟩ := Checks.bind_eq_ok h
  have hproposal := MonthlyApproval.admit_ok hadmitted
  split at h
  · obtain ⟨linked, _, h⟩ := Checks.bind_eq_ok h
    obtain ⟨_, _, h⟩ := Checks.bind_eq_ok h
    cases h
    exact ⟨congrArg MonthlyApproval.proposal hproposal, rfl⟩
  · cases h
    exact ⟨congrArg MonthlyApproval.proposal hproposal, rfl⟩

/-! ## First month of a subject -/

/-- `initial_projection` -/
def initialProjection (hashing : Hashing) (proposal : SubjectEvaluationProposal)
    (claims actor : String) (instant : Int) :
    Except CompositeError (MembershipRevision × UniverseAttestation) := do
  let subject := proposal.policyApproval.proposal.subject
  let (first, last) := monthWindow subject.month
  ensure (subject.universeComplete && proposal.evaluation.declaredUniverseComplete)
    (.value "COMPOSITE_ELIGIBILITY_PUBLICATION_UNIVERSE_INCOMPLETE")
  ensure (last.text < proposal.observations.sourceGeneratedOn.text)
    (.value "COMPOSITE_ELIGIBILITY_PUBLICATION_SOURCE_NOT_FINALIZED")
  let decisions ←
    monthlyDecisions hashing proposal.evaluation proposal.observations claims first last
  let revision : MembershipRevision :=
    { tenantId := subject.tenantId
      compositeId := subject.compositeId
      definitionVersion := subject.definitionVersion
      membershipRevision := proposal.targetMembershipRevision
      policyVersion := subject.eligibilityPolicyVersion
      sourceCutId := subject.universeSourceCutId
      decisions := decisions
      decidedBy := actor
      decidedAt := .utc instant
      correlationId := subject.correlationId }
  revision.validate
  let attestation ← UniverseAttestation.admit
    { tenantId := subject.tenantId
      compositeId := subject.compositeId
      definitionVersion := subject.definitionVersion
      membershipRevision := revision.membershipRevision
      membershipContentHash := hashing.revision revision
      attestationVersion := proposal.evaluationRevision
      coverageFrom := first
      coverageTo := last
      policyVersion := subject.eligibilityPolicyVersion
      sourceCutId := subject.universeSourceCutId
      sourceProducts := subject.universeSourceProducts ++ [proposal.observationBinding]
      posture := .complete
      expectedPortfolioIds := subject.universeMemberIds
      expectedPortfolioCount := subject.universeMemberIds.length
      observedPortfolioCount := subject.universeMemberIds.length
      attestedAt := .utc instant
      attestedBy := actor
      correlationId := subject.correlationId }
  return (revision, attestation)

theorem initialProjection_ok {proposal : SubjectEvaluationProposal} {claims actor : String}
    {instant : Int}
    (h : initialProjection hashing proposal claims actor instant = .ok (revision, attestation)) :
    revision.key = (proposal.policyApproval.proposal.subject.tenantId,
      proposal.policyApproval.proposal.subject.compositeId,
      proposal.policyApproval.proposal.subject.definitionVersion,
      proposal.targetMembershipRevision) := by
  unfold initialProjection at h
  dsimp only at h
  obtain ⟨_, _, h⟩ := Checks.bind_eq_ok h
  obtain ⟨_, _, h⟩ := Checks.bind_eq_ok h
  obtain ⟨decisions, _, h⟩ := Checks.bind_eq_ok h
  obtain ⟨_, _, h⟩ := Checks.bind_eq_ok h
  obtain ⟨_, _, h⟩ := Checks.bind_eq_ok h
  cases h
  rfl

/-- `finalization_receipt`: the receipt names the hashes that the approval names. -/
def finalizationReceipt (finalization : SubjectFinalization) (publicationSequence : Nat)
    (membershipContentHash universeContentHash : String) :
    Except CompositeError FinalizationReceipt := do
  ensure (1 ≤ publicationSequence) (.value "greater_than_equal")
  ensure (membershipContentHash = finalization.evaluationApproval.membershipContentHash &&
      universeContentHash = finalization.evaluationApproval.universeContentHash)
    (.value "COMPOSITE_SUBJECT_RECEIPT_BINDING_MISMATCH")
  return { finalization, publicationSequence, membershipContentHash, universeContentHash }

theorem finalizationReceipt_ok {finalization : SubjectFinalization} {publicationSequence : Nat}
    {membershipContentHash universeContentHash : String} {receipt : FinalizationReceipt}
    (h : finalizationReceipt finalization publicationSequence membershipContentHash
      universeContentHash = .ok receipt) : receipt.publicationSequence = publicationSequence := by
  unfold finalizationReceipt at h
  obtain ⟨_, _, h⟩ := Checks.bind_eq_ok h
  obtain ⟨_, _, h⟩ := Checks.bind_eq_ok h
  cases h
  rfl

end LotusManage.Composites
