import LotusManage.Composites.Repository
import LotusManage.Lib.Runs

/-!
# Integrity of the composite store

Every revision of the store has one publication, the publications are numbered without a gap, and
what is stored stays.  `Outcome` says what one call may do: it adds to the dictionaries, it publishes
one revision or none, and when it raises it has written nothing.

`save_membership_revision` is the exception.  It writes the revision and takes the number before it
builds the publication, which refuses a `decided_at` without a zone; the model of a revision does not
ask for one.  `announces` is the condition that excludes this, and `composite_store_intact` is the
result for the runs that meet it.
-/

namespace LotusManage.Composites

open Runs

variable {hashing : Hashing}

namespace CompositeStore

/-! ## Integrity -/

/-- The publication is the one that announces the revision under the key. -/
structure Announced (hashing : Hashing) (store : CompositeStore) (key : RevisionKey)
    (revision : MembershipRevision) (number : Nat) (publication : MembershipPublication) : Prop where
  stored : store.publications.get? number = some publication
  revisionKey : publication.revisionKey = key
  contentHash : publication.membershipContentHash = hashing.revision revision
  only : ∀ other otherPublication, store.publications.get? other = some otherPublication →
    otherPublication.revisionKey = key → other = number

/-- The numbers of the publications are those from one to the last, each revision has exactly one
publication, which has its hash, and a month of a composite has at most one ordinary approval. -/
structure Intact (hashing : Hashing) (store : CompositeStore) : Prop where
  numbered : store.publications.Numbered store.lastSequence
  sequenced : ∀ number publication, store.publications.get? number = some publication →
    publication.sequence = number
  announced : ∀ key revision, store.membershipRevisions.get? key = some revision →
    ∃ number publication, Announced hashing store key revision number publication
  ordinary : ∀ key key' approval approval',
    store.monthlyEvaluationApprovals.get? key = some (.monthly approval) →
    store.monthlyEvaluationApprovals.get? key' = some (.monthly approval') →
    approval.amends = false → approval'.amends = false →
    approval.proposal.monthKey = approval'.proposal.monthKey → key = key' ∧ approval = approval'

/-- What one store holds is in the other. -/
structure Kept (store store' : CompositeStore) : Prop where
  definitions : store.definitions.Extends store'.definitions
  monthlyProposals : store.monthlyProposals.Extends store'.monthlyProposals
  monthlyApprovals : store.monthlyApprovals.Extends store'.monthlyApprovals
  monthlyEvaluations : store.monthlyEvaluations.Extends store'.monthlyEvaluations
  monthlyEvaluationApprovals :
    store.monthlyEvaluationApprovals.Extends store'.monthlyEvaluationApprovals
  membershipRevisions : store.membershipRevisions.Extends store'.membershipRevisions
  publications : store.publications.Extends store'.publications
  receipts : store.receipts.Extends store'.receipts
  universeAttestations : store.universeAttestations.Extends store'.universeAttestations
  subjects : store.subjects.Extends store'.subjects
  finalizations : store.finalizations.Extends store'.finalizations

variable {store store' : CompositeStore} {revision : MembershipRevision} {now : Int}
  {attestation : UniverseAttestation} {publication : MembershipPublication} {call : CompositeCall}
  {calls : List CompositeCall}

theorem Kept.refl (store : CompositeStore) : store.Kept store := by
  constructor <;> exact Dict.Extends.refl _

theorem Kept.trans {store'' : CompositeStore} (h : store.Kept store') (h' : store'.Kept store'') :
    store.Kept store'' where
  definitions := h.definitions.trans h'.definitions
  monthlyProposals := h.monthlyProposals.trans h'.monthlyProposals
  monthlyApprovals := h.monthlyApprovals.trans h'.monthlyApprovals
  monthlyEvaluations := h.monthlyEvaluations.trans h'.monthlyEvaluations
  monthlyEvaluationApprovals := h.monthlyEvaluationApprovals.trans h'.monthlyEvaluationApprovals
  membershipRevisions := h.membershipRevisions.trans h'.membershipRevisions
  publications := h.publications.trans h'.publications
  receipts := h.receipts.trans h'.receipts
  universeAttestations := h.universeAttestations.trans h'.universeAttestations
  subjects := h.subjects.trans h'.subjects
  finalizations := h.finalizations.trans h'.finalizations

/-! ## What a call may do -/

/-- The revisions and the publications are those of before. -/
structure Quiet (store store' : CompositeStore) : Prop where
  membershipRevisions : store'.membershipRevisions = store.membershipRevisions
  publications : store'.publications = store.publications
  lastSequence : store'.lastSequence = store.lastSequence

/-- One revision more, with its publication under the next number. -/
structure Publishes (hashing : Hashing) (store store' : CompositeStore)
    (revision : MembershipRevision) (publication : MembershipPublication) : Prop where
  new : store.membershipRevisions.get? revision.key = none
  revisionKey : publication.revisionKey = revision.key
  contentHash : publication.membershipContentHash = hashing.revision revision
  sequence : publication.sequence = store.lastSequence + 1
  membershipRevisions :
    store'.membershipRevisions = store.membershipRevisions.set revision.key revision
  publications :
    store'.publications = store.publications.set (store.lastSequence + 1) publication
  lastSequence : store'.lastSequence = store.lastSequence + 1

/-- What a call that does not raise makes of the store. -/
structure Grows (hashing : Hashing) (store store' : CompositeStore) : Prop where
  journal : store.Quiet store' ∨
    ∃ revision publication, store.Publishes hashing store' revision publication
  approvals : ∀ key approval,
    store'.monthlyEvaluationApprovals.get? key = some (.monthly approval) →
    store.monthlyEvaluationApprovals.get? key = some (.monthly approval) ∨
      key = approval.proposal.approvalKey
  finalizations : ∀ key receipt, store'.finalizations.get? key = some receipt →
    store.finalizations.get? key = some receipt ∨
      receipt.publicationSequence = store'.lastSequence
  kept : store.Kept store'

/-- The outcome of a call: growth, and nothing written when it raises. -/
structure Outcome (hashing : Hashing) (store : CompositeStore)
    (result : Except CompositeError Unit × CompositeStore) : Prop where
  grows : store.Grows hashing result.2
  unchanged : ∀ error, result.1 = .error error → result.2 = store

theorem Grows.refl (store : CompositeStore) : store.Grows hashing store where
  journal := Or.inl ⟨rfl, rfl, rfl⟩
  approvals := fun _ _ hget => Or.inl hget
  finalizations := fun _ _ hget => Or.inl hget
  kept := Kept.refl store

theorem Grows.of_kept (hquiet : store.Quiet store')
    (happrovals : store'.monthlyEvaluationApprovals = store.monthlyEvaluationApprovals)
    (hfinalizations : store'.finalizations = store.finalizations) (hkept : store.Kept store') :
    store.Grows hashing store' where
  journal := Or.inl hquiet
  approvals := fun _ _ hget => Or.inl (happrovals ▸ hget)
  finalizations := fun _ _ hget => Or.inl (hfinalizations ▸ hget)
  kept := hkept

theorem Outcome.same (answer : Except CompositeError Unit) :
    store.Outcome hashing (answer, store) :=
  ⟨Grows.refl store, fun _ _ => rfl⟩

theorem Outcome.of_grows (h : store.Grows hashing store') :
    store.Outcome hashing (.ok (), store') :=
  ⟨h, fun _ herror => by cases herror⟩

theorem Outcome.checked {α : Type} {check : Except CompositeError α}
    {rest : α → Except CompositeError Unit × CompositeStore}
    (h : ∀ value, check = .ok value → store.Outcome hashing (rest value)) :
    store.Outcome hashing (store.checked check rest) := by
  unfold CompositeStore.checked
  split
  · exact Outcome.same _
  · exact h _ rfl

theorem Outcome.saveImmutable {κ ν : Type} [DecidableEq κ] [DecidableEq ν] {values : Dict κ ν}
    {key : κ} {value : ν} {conflictCode : String} {put : Dict κ ν → CompositeStore}
    (hput : put values = store)
    (hset : values.get? key = none → store.Grows hashing (put (values.set key value))) :
    store.Outcome hashing (store.saveImmutable values key value conflictCode put) := by
  unfold CompositeStore.saveImmutable
  split
  · rename_i values' hsave
    rcases Dict.saveImmutable_cases hsave with ⟨_, hsame⟩ | ⟨hnone, hnew⟩
    · rw [hsame, hput]
      exact Outcome.same _
    · rw [hnew]
      exact Outcome.of_grows (hset hnone)
  · exact Outcome.same _

/-! ## The calls -/

theorem outcome_saveDefinition (store : CompositeStore) (definition : CompositeDefinition) :
    store.Outcome hashing (store.saveDefinition definition) := by
  unfold saveDefinition
  split
  · split
    · exact Outcome.same _
    · exact Outcome.same _
  · refine Outcome.saveImmutable (by rfl) ?_
    intro hnone
    exact Grows.of_kept ⟨rfl, rfl, rfl⟩ rfl rfl
      { Kept.refl store with definitions := Dict.extends_set hnone definition }

theorem outcome_saveUniverseAttestation (store : CompositeStore)
    (attestation : UniverseAttestation) :
    store.Outcome hashing (store.saveUniverseAttestation hashing attestation) := by
  unfold saveUniverseAttestation
  split
  · exact Outcome.same _
  · split
    · exact Outcome.same _
    · refine Outcome.saveImmutable (by rfl) ?_
      intro hnone
      exact Grows.of_kept ⟨rfl, rfl, rfl⟩ rfl rfl
        { Kept.refl store with universeAttestations := Dict.extends_set hnone attestation }

theorem outcome_saveReceipt (store : CompositeStore) (receipt : PublicationReceipt) :
    store.Outcome hashing (store.saveReceipt receipt) := by
  unfold saveReceipt
  dsimp only
  split
  · exact Outcome.same _
  · split
    · exact Outcome.same _
    · split
      · exact Outcome.same _
      · split
        · split
          · exact Outcome.same _
          · exact Outcome.same _
        · rename_i hnone
          apply Outcome.of_grows
          exact Grows.of_kept ⟨rfl, rfl, rfl⟩ rfl rfl
            { Kept.refl store with receipts := Dict.extends_set hnone receipt }

theorem outcome_saveMonthlyPolicyProposal (store : CompositeStore) (proposal : PolicyProposal) :
    store.Outcome hashing (store.saveMonthlyPolicyProposal proposal) := by
  unfold saveMonthlyPolicyProposal
  split
  · exact Outcome.same _
  · split
    · exact Outcome.same _
    · refine Outcome.saveImmutable (by rfl) ?_
      intro hnone
      exact Grows.of_kept ⟨rfl, rfl, rfl⟩ rfl rfl
        { Kept.refl store with monthlyProposals := Dict.extends_set hnone _ }

theorem outcome_saveMonthlyPolicyApproval (store : CompositeStore) (approval : PolicyApproval) :
    store.Outcome hashing (store.saveMonthlyPolicyApproval hashing approval) := by
  unfold saveMonthlyPolicyApproval
  dsimp only
  split
  · exact Outcome.same _
  · split
    · exact Outcome.same _
    · refine Outcome.saveImmutable (by rfl) ?_
      intro hnone
      exact Grows.of_kept ⟨rfl, rfl, rfl⟩ rfl rfl
        { Kept.refl store with monthlyApprovals := Dict.extends_set hnone _ }

theorem outcome_saveMonthlyEvaluationProposal (store : CompositeStore) (proposal : MonthlyProposal) :
    store.Outcome hashing (store.saveMonthlyEvaluationProposal hashing proposal) := by
  unfold saveMonthlyEvaluationProposal
  split
  · split
    · exact Outcome.same _
    · exact Outcome.same _
  · apply Outcome.checked
    intro _ _
    refine Outcome.saveImmutable (by rfl) ?_
    intro hnone
    exact Grows.of_kept ⟨rfl, rfl, rfl⟩ rfl rfl
      { Kept.refl store with monthlyEvaluations := Dict.extends_set hnone _ }

theorem outcome_saveEligibilitySubject (store : CompositeStore) (subject : EligibilitySubject) :
    store.Outcome hashing (store.saveEligibilitySubject hashing subject) := by
  unfold saveEligibilitySubject
  split
  · split
    · exact Outcome.same _
    · exact Outcome.same _
  · rename_i hnone
    split
    · exact Outcome.same _
    · apply Outcome.of_grows
      exact Grows.of_kept ⟨rfl, rfl, rfl⟩ rfl rfl
        { Kept.refl store with subjects := Dict.extends_set hnone subject }

theorem outcome_saveControlIn {κ ν : Type} [DecidableEq κ] {control : StagedControl}
    {collection : Dict κ ν} {hashOf : ν → String} {slot : κ} {value : ν}
    {put : Dict κ ν → CompositeStore}
    (hset : collection.get? slot = none → store.Grows hashing (put (collection.set slot value))) :
    store.Outcome hashing
      (store.saveControlIn hashing control collection hashOf slot value put) := by
  unfold saveControlIn
  split
  · split
    · exact Outcome.same _
    · exact Outcome.same _
  · rename_i hnone
    split
    · exact Outcome.same _
    · exact Outcome.of_grows (hset hnone)

theorem outcome_saveSubjectControl (store : CompositeStore) (control : StagedControl) :
    store.Outcome hashing (store.saveSubjectControl hashing control) := by
  unfold saveSubjectControl
  dsimp only
  split
  · exact Outcome.same _
  · apply Outcome.checked
    intro _ _
    cases control with
    | policyProposal value =>
      apply outcome_saveControlIn
      intro hnone
      exact Grows.of_kept ⟨rfl, rfl, rfl⟩ rfl rfl
        { Kept.refl store with monthlyProposals := Dict.extends_set hnone _ }
    | policyApproval value =>
      apply outcome_saveControlIn
      intro hnone
      exact Grows.of_kept ⟨rfl, rfl, rfl⟩ rfl rfl
        { Kept.refl store with monthlyApprovals := Dict.extends_set hnone _ }
    | evaluationProposal value =>
      apply outcome_saveControlIn
      intro hnone
      exact Grows.of_kept ⟨rfl, rfl, rfl⟩ rfl rfl
        { Kept.refl store with monthlyEvaluations := Dict.extends_set hnone _ }
    | evaluationApproval value =>
      apply outcome_saveControlIn
      intro hnone
      refine ⟨Or.inl ⟨rfl, rfl, rfl⟩, ?_, fun _ _ hget => Or.inl hget,
        { Kept.refl store with monthlyEvaluationApprovals := Dict.extends_set hnone _ }⟩
      -- the new entry is a staged approval
      intro key approval hget
      dsimp only at hget
      rw [Dict.get?_set] at hget
      split at hget
      · cases hget
      · exact Or.inl hget

/-- Whether `save_membership_revision` gets as far as its writes. -/
def addsRevision (store : CompositeStore) (revision : MembershipRevision) : Bool :=
  store.definitions.contains revision.definitionKey &&
    !store.membershipRevisions.contains revision.key &&
    decide (store.checkMembershipRevision revision = .ok ())

/-- A revision that the call adds has been decided at a time with a zone. -/
def announces (store : CompositeStore) : CompositeCall → Bool
  | .saveMembershipRevision revision _ _ =>
    !store.addsRevision revision || revision.decidedAt.aware
  | _ => true

theorem outcome_saveMembershipRevision (hnumbered : store.publications.Numbered store.lastSequence)
    {accepted : revision.Accepted}
    (hannounces : store.announces (.saveMembershipRevision revision accepted now) = true) :
    store.Outcome hashing (store.saveMembershipRevision hashing revision now) := by
  unfold saveMembershipRevision
  split
  · exact Outcome.same _
  · rename_i hdefinition
    split
    · refine Outcome.saveImmutable (by rfl) ?_
      -- the key is taken
      rename_i hcontains
      intro hnone
      rw [Dict.contains, hnone] at hcontains
      cases hcontains
    · rename_i hnew
      apply Outcome.checked
      intro _ hchecked
      have hadds : store.addsRevision revision = true := by
        simp only [addsRevision, Bool.and_eq_true, Bool.not_eq_true', decide_eq_true_eq]
        refine ⟨⟨?_, by simpa using hnew⟩, hchecked⟩
        simpa using hdefinition
      have haware : revision.decidedAt.aware = true := by
        simpa [announces, hadds] using hannounces
      obtain ⟨publication, hpublication⟩ : ∃ publication,
          publicationFromRevision (hashing.revision revision) revision (store.lastSequence + 1)
            (.utc now) = .ok publication := by
        apply (publicationFromRevision_eq_ok_iff accepted ?_ (Nat.succ_pos _) rfl).mpr haware
        exact strip_contentHash_ne hashing.sha256Hex _
      have hnone : store.membershipRevisions.get? revision.key = none := by
        simpa [Dict.contains] using hnew
      obtain ⟨hkey, hhash, hsequence⟩ := publicationFromRevision_ok hpublication
      unfold CompositeStore.checked
      dsimp only
      rw [hpublication]
      apply Outcome.of_grows
      refine ⟨Or.inr ⟨revision, publication, hnone, hkey, hhash, hsequence, rfl, rfl, rfl⟩,
        fun _ _ hget => Or.inl hget, fun _ _ hget => Or.inl hget, ?_⟩
      exact { Kept.refl store with
        membershipRevisions := Dict.extends_set hnone revision
        publications := Dict.extends_set hnumbered.get?_succ publication }

/-- What `save_monthly_evaluation_approval` has built before it writes. -/
theorem prepareMonthlyApproval_ok {approval : MonthlyApproval} {published : MembershipPublication}
    (h : store.prepareMonthlyApproval hashing approval now = .ok (revision, attestation, published)) :
    revision.key = (approval.proposal.scope.tenantId, approval.proposal.scope.compositeId,
        approval.proposal.scope.definitionVersion, revision.membershipRevision) ∧
      store.membershipRevisions.get? revision.key = none ∧
      store.universeAttestations.get? (approval.proposal.scope.tenantId,
        approval.proposal.scope.compositeId, approval.proposal.scope.definitionVersion,
        revision.membershipRevision, attestation.attestationVersion) = none ∧
      publicationFromRevision (hashing.revision revision) revision (store.lastSequence + 1)
        (.utc now) = .ok published := by
  unfold prepareMonthlyApproval at h
  dsimp only at h
  iterate 4 obtain ⟨_, _, h⟩ := Checks.bind_eq_ok h
  split at h
  · cases h
  · obtain ⟨built, hbuilt, h⟩ := Checks.bind_eq_ok h
    obtain ⟨_, _, h⟩ := Checks.bind_eq_ok h
    obtain ⟨_, hfree, h⟩ := Checks.bind_eq_ok h
    obtain ⟨publication, hpublication, h⟩ := Checks.bind_eq_ok h
    cases h
    obtain ⟨_, hkey⟩ := buildMonthlyPublication_ok hbuilt
    have htarget : built.2.1.membershipRevision = approval.proposal.targetMembershipRevision :=
      congrArg (fun key : RevisionKey => key.2.2.2) hkey
    rw [← htarget] at hkey
    have hnone := (ensure_eq_ok_iff _ _).mp hfree
    simp only [MonthlyProposal.definitionKey, PolicyScope.definitionKey, Dict.contains,
      Bool.not_eq_true', Bool.or_eq_false_iff, Option.isSome_eq_false_iff,
      Option.isNone_iff_eq_none] at hnone
    exact ⟨hkey, by rw [hkey]; exact hnone.1, hnone.2, hpublication⟩

theorem outcome_saveMonthlyEvaluationApproval
    (hnumbered : store.publications.Numbered store.lastSequence) (approval : MonthlyApproval)
    (now : Int) :
    store.Outcome hashing (store.saveMonthlyEvaluationApproval hashing approval now) := by
  unfold saveMonthlyEvaluationApproval
  split
  · split
    · exact Outcome.same _
    · exact Outcome.same _
  · rename_i hslot
    apply Outcome.checked
    intro (revision, attestation, published) hprepared
    obtain ⟨hkey, hnew, hfree, hpublication⟩ := prepareMonthlyApproval_ok hprepared
    obtain ⟨hannounced, hhash, hsequence⟩ := publicationFromRevision_ok hpublication
    apply Outcome.of_grows
    refine ⟨Or.inr ⟨revision, published, hnew, hannounced, hhash, hsequence, ?_, ?_, hsequence⟩, ?_,
      fun _ _ hget => Or.inl hget, ?_⟩
    · rw [hkey]
      rfl
    · rw [← hsequence]
      rfl
    · intro key stored hget
      dsimp only [publishMonth] at hget
      rw [Dict.get?_set] at hget
      split at hget
      · rename_i hsame
        cases hget
        exact Or.inr hsame
      · exact Or.inl hget
    · refine { Kept.refl store with
        membershipRevisions := Dict.extends_set (hkey ▸ hnew) revision
        universeAttestations := Dict.extends_set hfree attestation
        monthlyEvaluationApprovals := Dict.extends_set hslot _
        publications := ?_ }
      dsimp only [publishMonth]
      rw [hsequence]
      exact Dict.extends_set hnumbered.get?_succ published

/-- What `finalize` has built before it writes. -/
theorem prepareFinalization_ok {finalization : SubjectFinalization} {receipt : FinalizationReceipt}
    (h : store.prepareFinalization hashing finalization now =
      .ok (revision, attestation, publication, receipt)) :
    revision.key = (finalization.subject.tenantId, finalization.subject.compositeId,
        finalization.subject.definitionVersion, revision.membershipRevision) ∧
      store.definitions.get? finalization.subject.definitionKey = none ∧
      store.membershipRevisions.get? revision.key = none ∧
      store.universeAttestations.get? (finalization.subject.tenantId,
        finalization.subject.compositeId, finalization.subject.definitionVersion,
        revision.membershipRevision, attestation.attestationVersion) = none ∧
      publicationFromRevision (hashing.revision revision) revision (store.lastSequence + 1)
        (.utc now) = .ok publication ∧
      receipt.publicationSequence = publication.sequence := by
  unfold prepareFinalization at h
  dsimp only at h
  obtain ⟨_, _, h⟩ := Checks.bind_eq_ok h
  obtain ⟨_, hcontrol, h⟩ := Checks.bind_eq_ok h
  obtain ⟨_, hdefinition, h⟩ := Checks.bind_eq_ok h
  obtain ⟨projection, hprojection, h⟩ := Checks.bind_eq_ok h
  obtain ⟨_, hfree, h⟩ := Checks.bind_eq_ok h
  obtain ⟨announced, hpublication, h⟩ := Checks.bind_eq_ok h
  obtain ⟨proof, hreceipt, h⟩ := Checks.bind_eq_ok h
  cases h
  have hkey := initialProjection_ok hprojection
  -- the retained approval is one of the subject
  have hsubject : finalization.evaluationApproval.proposal.policyApproval.proposal.subject.key =
      finalization.subject.key := by
    have hretained := of_decide_eq_true ((ensure_eq_ok_iff _ _).mp hcontrol)
    unfold getControl at hretained
    split at hretained
    · cases hretained
    · have hmatches := (Option.filter_eq_some_iff.mp hretained).2
      simp only [Bool.and_eq_true, decide_eq_true_eq] at hmatches
      exact hmatches.1
  simp only [EligibilitySubject.key, Prod.mk.injEq] at hsubject
  obtain ⟨htenant, hcomposite, hversion, _⟩ := hsubject
  have htarget : projection.1.membershipRevision =
      finalization.evaluationApproval.proposal.targetMembershipRevision :=
    congrArg (fun key : RevisionKey => key.2.2.2) hkey
  rw [htenant, hcomposite, hversion, ← htarget] at hkey
  have hnone := (ensure_eq_ok_iff _ _).mp hfree
  have hreserved := (ensure_eq_ok_iff _ _).mp hdefinition
  simp only [Dict.contains, Bool.not_eq_true', Bool.or_eq_false_iff, Option.isSome_eq_false_iff,
    Option.isNone_iff_eq_none] at hnone hreserved
  exact ⟨hkey, hreserved, by rw [hkey]; exact hnone.1, hnone.2, hpublication,
    finalizationReceipt_ok hreceipt⟩

theorem outcome_finalizeEligibilitySubject
    (hnumbered : store.publications.Numbered store.lastSequence)
    (hfinalized : ∀ key receipt, store.finalizations.get? key = some receipt →
      receipt.publicationSequence ≤ store.lastSequence) (finalization : SubjectFinalization)
    (now : Int) :
    store.Outcome hashing (store.finalizeEligibilitySubject hashing finalization now) := by
  unfold finalizeEligibilitySubject
  split
  · rename_i retained hretained
    split
    · exact Outcome.same _
    · rw [max_eq_left (hfinalized _ _ hretained)]
      exact Outcome.same _
  · rename_i hunfinished
    apply Outcome.checked
    intro (revision, attestation, publication, receipt) hprepared
    obtain ⟨hkey, hdefinition, hnew, hfree, hpublication, hnumber⟩ :=
      prepareFinalization_ok hprepared
    obtain ⟨hannounced, hhash, hsequence⟩ := publicationFromRevision_ok hpublication
    have hlast : max store.lastSequence receipt.publicationSequence = store.lastSequence + 1 := by
      rw [hnumber, hsequence]
      omega
    apply Outcome.of_grows
    refine ⟨Or.inr ⟨revision, publication, hnew, hannounced, hhash, hsequence, ?_, ?_, hlast⟩,
      fun _ _ hget => Or.inl hget, ?_, ?_⟩
    · rw [hkey]
      rfl
    · rw [← hsequence]
      rfl
    · intro key stored hget
      dsimp only [publishSubject] at hget ⊢
      rw [Dict.get?_set] at hget
      split at hget
      · cases hget
        refine Or.inr ?_
        rw [hlast, hnumber, hsequence]
      · exact Or.inl hget
    · refine { Kept.refl store with
        definitions := Dict.extends_set hdefinition _
        membershipRevisions := Dict.extends_set (hkey ▸ hnew) revision
        universeAttestations := Dict.extends_set hfree attestation
        publications := ?_
        finalizations := Dict.extends_set hunfinished _ }
      dsimp only [publishSubject]
      rw [hsequence]
      exact Dict.extends_set hnumbered.get?_succ publication

/-! ## Runs -/

/-- The invariant of the runs: integrity, with what its induction needs.  Every publication is of a
stored revision, every approval is in its own slot, and no finalization is ahead of the numbers. -/
structure Sound (hashing : Hashing) (store : CompositeStore) : Prop where
  numbered : store.publications.Numbered store.lastSequence
  sequenced : ∀ number publication, store.publications.get? number = some publication →
    publication.sequence = number
  announced : ∀ key revision, store.membershipRevisions.get? key = some revision →
    ∃ number publication, Announced hashing store key revision number publication
  published : ∀ number publication, store.publications.get? number = some publication →
    ∃ revision, store.membershipRevisions.get? publication.revisionKey = some revision
  keyed : ∀ key approval, store.monthlyEvaluationApprovals.get? key = some (.monthly approval) →
    key = approval.proposal.approvalKey
  finalized : ∀ key receipt, store.finalizations.get? key = some receipt →
    receipt.publicationSequence ≤ store.lastSequence

theorem sound_new : new.Sound hashing where
  numbered := Dict.numbered_empty
  sequenced := fun _ _ hget => by cases hget
  announced := fun _ _ hget => by cases hget
  published := fun _ _ hget => by cases hget
  keyed := fun _ _ hget => by cases hget
  finalized := fun _ _ hget => by cases hget

theorem Sound.intact (h : store.Sound hashing) : store.Intact hashing where
  numbered := h.numbered
  sequenced := h.sequenced
  announced := h.announced
  ordinary := by
    intro key key' approval approval' hget hget' hordinary hordinary' hmonth
    have hkey := h.keyed key approval hget
    have hkey' := h.keyed key' approval' hget'
    unfold MonthlyApproval.amends at hordinary hordinary'
    rw [MonthlyProposal.approvalKey, hordinary, if_neg Bool.false_ne_true] at hkey
    rw [MonthlyProposal.approvalKey, hordinary', if_neg Bool.false_ne_true, ← hmonth] at hkey'
    have hsame : key = key' := by rw [hkey, hkey']
    subst hsame
    rw [hget] at hget'
    cases hget'
    exact ⟨rfl, rfl⟩

theorem Publishes.announced (hsound : store.Sound hashing)
    (h : store.Publishes hashing store' revision publication) {key : RevisionKey}
    {stored : MembershipRevision} (hget : store'.membershipRevisions.get? key = some stored) :
    ∃ number announcement, Announced hashing store' key stored number announcement := by
  rw [h.membershipRevisions, Dict.get?_set] at hget
  by_cases hkey : key = revision.key
  · rw [if_pos hkey] at hget
    cases hget
    refine ⟨store.lastSequence + 1, publication, ?_, by rw [h.revisionKey, hkey], h.contentHash, ?_⟩
    · rw [h.publications]
      exact Dict.get?_set_self _ _ _
    · intro other otherPublication hother hrevision
      rw [h.publications, Dict.get?_set] at hother
      by_cases hnumber : other = store.lastSequence + 1
      · exact hnumber
      · rw [if_neg hnumber] at hother
        -- an older publication is of a revision that was stored
        obtain ⟨older, holder⟩ := hsound.published other otherPublication hother
        rw [hrevision, hkey, h.new] at holder
        cases holder
  · rw [if_neg hkey] at hget
    obtain ⟨number, announcement, hannounced⟩ := hsound.announced key stored hget
    have hmem := hsound.numbered.mem_keys_iff number
    have hnumber : number ≤ store.lastSequence :=
      (hmem.mp ((Dict.mem_keys_iff _ _).mpr ⟨_, hannounced.stored⟩)).2
    refine ⟨number, announcement, ?_, hannounced.revisionKey, hannounced.contentHash, ?_⟩
    · rw [h.publications, Dict.get?_set_of_ne _ _ (by omega)]
      exact hannounced.stored
    · intro other otherPublication hother hrevision
      rw [h.publications, Dict.get?_set] at hother
      by_cases hlast : other = store.lastSequence + 1
      · rw [if_pos hlast] at hother
        cases hother
        rw [h.revisionKey] at hrevision
        exact absurd hrevision.symm hkey
      · rw [if_neg hlast] at hother
        exact hannounced.only other otherPublication hother hrevision

theorem Grows.sound (h : store.Grows hashing store') (hsound : store.Sound hashing) :
    store'.Sound hashing := by
  have hkeyed : ∀ key approval,
      store'.monthlyEvaluationApprovals.get? key = some (.monthly approval) →
      key = approval.proposal.approvalKey := by
    intro key approval hget
    rcases h.approvals key approval hget with hold | hnew
    · exact hsound.keyed key approval hold
    · exact hnew
  rcases h.journal with hquiet | ⟨revision, publication, hpublishes⟩
  · obtain ⟨hrevisions, hpublications, hlast⟩ := hquiet
    refine ⟨?_, ?_, ?_, ?_, hkeyed, ?_⟩
    · rw [hpublications, hlast]
      exact hsound.numbered
    · rw [hpublications]
      exact hsound.sequenced
    · rw [hrevisions]
      intro key revision hget
      obtain ⟨number, publication, hannounced⟩ := hsound.announced key revision hget
      refine ⟨number, publication, ?_, hannounced.revisionKey, hannounced.contentHash, ?_⟩
      · rw [hpublications]
        exact hannounced.stored
      · rw [hpublications]
        exact hannounced.only
    · rw [hpublications, hrevisions]
      exact hsound.published
    · intro key receipt hget
      rw [hlast]
      rcases h.finalizations key receipt hget with hold | hnew
      · exact hsound.finalized key receipt hold
      · rw [hnew, hlast]
  · refine ⟨?_, ?_, fun key stored hget => hpublishes.announced hsound hget, ?_, hkeyed, ?_⟩
    · rw [hpublishes.publications, hpublishes.lastSequence]
      exact hsound.numbered.set publication
    · intro number stored hget
      rw [hpublishes.publications, Dict.get?_set] at hget
      split at hget
      · rename_i hnumber
        cases hget
        rw [hpublishes.sequence, hnumber]
      · exact hsound.sequenced number stored hget
    · intro number stored hget
      rw [hpublishes.publications, Dict.get?_set] at hget
      rw [hpublishes.membershipRevisions]
      split at hget
      · cases hget
        rw [hpublishes.revisionKey]
        exact ⟨revision, Dict.get?_set_self _ _ _⟩
      · obtain ⟨older, holder⟩ := hsound.published number stored hget
        exact ⟨older, Dict.extends_set hpublishes.new revision _ _ holder⟩
    · intro key receipt hget
      rcases h.finalizations key receipt hget with hold | hnew
      · have hle := hsound.finalized key receipt hold
        rw [hpublishes.lastSequence]
        omega
      · rw [hnew]

theorem Sound.outcome (h : store.Sound hashing) (hannounces : store.announces call = true) :
    store.Outcome hashing (store.call hashing call) := by
  cases call with
  | saveDefinition definition => exact outcome_saveDefinition store definition
  | saveMembershipRevision revision accepted now =>
    exact outcome_saveMembershipRevision h.numbered hannounces
  | saveUniverseAttestation attestation => exact outcome_saveUniverseAttestation store attestation
  | saveReceipt receipt => exact outcome_saveReceipt store receipt
  | saveMonthlyPolicyProposal proposal => exact outcome_saveMonthlyPolicyProposal store proposal
  | saveMonthlyPolicyApproval approval => exact outcome_saveMonthlyPolicyApproval store approval
  | saveMonthlyEvaluationProposal proposal =>
    exact outcome_saveMonthlyEvaluationProposal store proposal
  | saveMonthlyEvaluationApproval approval now =>
    exact outcome_saveMonthlyEvaluationApproval h.numbered approval now
  | saveEligibilitySubject subject => exact outcome_saveEligibilitySubject store subject
  | saveSubjectControl control => exact outcome_saveSubjectControl store control
  | finalizeEligibilitySubject finalization now =>
    exact outcome_finalizeEligibilitySubject h.numbered h.finalized finalization now

/-- The store after the calls of a run. -/
def after (hashing : Hashing) (calls : List CompositeCall) : CompositeStore :=
  run (step hashing) new calls

/-- The calls of a run meet the condition, each in the state in which it is made. -/
def AllAnnounce (hashing : Hashing) (store : CompositeStore) (calls : List CompositeCall) : Prop :=
  Along (step hashing) (fun store call => store.announces call = true) store calls

instance (hashing : Hashing) (store : CompositeStore) (calls : List CompositeCall) :
    Decidable (AllAnnounce hashing store calls) :=
  inferInstanceAs (Decidable (Along _ _ _ _))

theorem sound_run (h : AllAnnounce hashing store calls) (hsound : store.Sound hashing) :
    (run (step hashing) store calls).Sound hashing := by
  apply run_invariant (CompositeStore.Sound hashing) ?_ h hsound
  intro store call hsound hannounces
  exact (hsound.outcome hannounces).grows.sound hsound

theorem kept_run (h : AllAnnounce hashing store calls) (hsound : store.Sound hashing) :
    store.Kept (run (step hashing) store calls) := by
  induction calls generalizing store with
  | nil => exact Kept.refl store
  | cons call calls ih =>
    have hgrows := (hsound.outcome h.1).grows
    exact hgrows.kept.trans (ih h.2 (hgrows.sound hsound))

/-- A call that does not meet the condition raises, and what it leaves is not intact: the number that it
took has no publication. -/
theorem Sound.not_intact (h : store.Sound hashing) (hannounces : store.announces call = false) :
    (∃ error, (store.call hashing call).1 = .error error) ∧
      ¬ (store.step hashing call).Intact hashing := by
  cases call with
  | saveMembershipRevision revision accepted now =>
    simp only [announces, Bool.or_eq_false_iff, Bool.not_eq_false', addsRevision, Bool.and_eq_true,
      Bool.not_eq_true', decide_eq_true_eq] at hannounces
    obtain ⟨⟨⟨hdefinition, hnew⟩, hchecked⟩, hnaive⟩ := hannounces
    obtain ⟨error, hrefused⟩ : ∃ error, publicationFromRevision (hashing.revision revision) revision
        (store.lastSequence + 1) (.utc now) = .error error := by
      cases hbuilt : publicationFromRevision (hashing.revision revision) revision
          (store.lastSequence + 1) (.utc now) with
      | error error => exact ⟨error, rfl⟩
      | ok publication =>
        have haware := (publicationFromRevision_eq_ok_iff accepted
          (strip_contentHash_ne hashing.sha256Hex _) (Nat.succ_pos _) rfl).mp ⟨publication, hbuilt⟩
        rw [hnaive] at haware
        cases haware
    have hcall : store.call hashing (.saveMembershipRevision revision accepted now) =
        (.error error, { store with
          membershipRevisions := store.membershipRevisions.set revision.key revision
          lastSequence := store.lastSequence + 1 }) := by
      show store.saveMembershipRevision hashing revision now = _
      unfold saveMembershipRevision
      rw [hdefinition, hnew, hchecked]
      simp only [Bool.not_true, Bool.false_eq_true, if_false, CompositeStore.checked, hrefused]
    refine ⟨⟨error, congrArg Prod.fst hcall⟩, ?_⟩
    intro hintact
    have hnumbered := hintact.numbered
    rw [CompositeStore.step, hcall] at hnumbered
    have hlength : (List.range' 1 store.lastSequence).length =
        (List.range' 1 (store.lastSequence + 1)).length :=
      congrArg List.length (h.numbered.symm.trans hnumbered)
    rw [List.length_range', List.length_range'] at hlength
    omega
  | _ => cases hannounces

end CompositeStore

open CompositeStore

theorem after_append (hashing : Hashing) (past rest : List CompositeCall) :
    after hashing (past ++ rest) = run (step hashing) (after hashing past) rest :=
  run_append _ _ _ _

/-- In every state of a run whose calls meet the condition, the store is intact; all that it holds
stays to the end of the run; and whatever call is made next, if it meets the condition and raises, it
leaves the store as it is. -/
theorem composite_store_intact (hashing : Hashing) (past rest : List CompositeCall)
    (h : AllAnnounce hashing .new (past ++ rest)) :
    (after hashing past).Intact hashing ∧
      (after hashing past).Kept (after hashing (past ++ rest)) ∧
      ∀ call error, (after hashing past).announces call = true →
        ((after hashing past).call hashing call).1 = .error error →
        (after hashing past).step hashing call = after hashing past := by
  obtain ⟨hpast, hrest⟩ := along_append.mp h
  have hsound : (after hashing past).Sound hashing := sound_run hpast sound_new
  refine ⟨hsound.intact, ?_, ?_⟩
  · rw [after_append]
    exact kept_run hrest hsound
  · intro call error hannounces herror
    exact (hsound.outcome hannounces).unchanged error herror

/-- A call that does not meet the condition is the only way out: the store is intact in every state of
a run exactly when all calls of the run meet it, and the first call that does not meet it raises and
leaves a store that is not intact. -/
theorem intact_throughout_iff (hashing : Hashing) (calls : List CompositeCall) :
    ((∀ past, past <+: calls → (after hashing past).Intact hashing) ↔
      AllAnnounce hashing .new calls) ∧
    ∀ past call, past ++ [call] <+: calls → AllAnnounce hashing .new past →
      (after hashing past).announces call = false →
      (∃ error, ((after hashing past).call hashing call).1 = .error error) ∧
        ¬ (after hashing (past ++ [call])).Intact hashing := by
  have hbreaks : ∀ past call, AllAnnounce hashing .new past →
      (after hashing past).announces call = false →
      (∃ error, ((after hashing past).call hashing call).1 = .error error) ∧
        ¬ (after hashing (past ++ [call])).Intact hashing := by
    intro past call hpast hannounces
    rw [after_append]
    exact (sound_run hpast sound_new).not_intact hannounces
  refine ⟨⟨fun h => ?_, ?_⟩, fun past call _ => hbreaks past call⟩
  · induction calls using List.reverseRecOn with
    | nil => trivial
    | append_singleton past call ih =>
      have hpast := ih fun earlier hearlier => h earlier (hearlier.trans (List.prefix_append _ _))
      refine along_append.mpr ⟨hpast, ?_, trivial⟩
      by_contra hskips
      exact (hbreaks past call hpast (Bool.not_eq_true _ ▸ hskips)).2
        (h (past ++ [call]) (List.prefix_refl _))
  · rintro h past ⟨rest, rfl⟩
    exact (sound_run (along_append.mp h).1 sound_new).intact

/-! ## A revision without a zone -/

/-- Hashes that are the texts of the revisions and of the universes. -/
def sampleHashing : Hashing where
  sha256Hex := fun text => text
  revisionText := fun revision => revision.membershipRevision
  universeText := fun attestation => attestation.attestationVersion
  policyProposalText := fun proposal => proposal.proposalRevision
  policyApprovalText := fun approval => approval.proposal.proposalRevision
  evaluationText := fun evaluation => evaluation.body
  proposalText := fun proposal => proposal.evaluationRevision
  proposalIntentText := fun proposal => proposal.evaluationRevision
  claimsText := fun proposalContentHash _ _ => proposalContentHash
  approvalText := fun approval => approval.proposal.evaluationRevision
  receiptText := fun receipt => receipt.approval.proposal.evaluationRevision
  subjectText := fun subject => subject.subjectRevision
  controlText := fun control => control.revision
  finalizationText := fun finalization => finalization.subject.subjectRevision

def sampleDefinition : CompositeDefinition where
  tenantId := "tenant-sg"
  compositeId := "composite-1"
  definitionVersion := "v1"
  strategyCode := "GLOBAL_BALANCED"
  reportingCurrency := "SGD"
  eligibilityPolicyVersion := "policy-1"

/-- A first revision with one decision, decided at the time. -/
def sampleRevision (membershipRevision : String) (decidedAt : Timestamp) : MembershipRevision where
  tenantId := "tenant-sg"
  compositeId := "composite-1"
  definitionVersion := "v1"
  membershipRevision := membershipRevision
  policyVersion := "policy-1"
  sourceCutId := "cut-1"
  decisions :=
    [{ portfolioId := "pf-1", effectiveFrom := ⟨"2026-10-01", 739890⟩
       sourceSnapshotId := "snapshot-1" }]
  decidedAt := decidedAt
  decidedBy := "maker-1"
  correlationId := "corr-1"

/-- `datetime(2026, 10, 1)`, without a zone and in UTC. -/
def naiveTime : Timestamp := ⟨63926496000000000, none⟩
def utcTime : Timestamp := .utc 63926496000000000

theorem accepted_naive : (sampleRevision "rev-1" naiveTime).Accepted := by decide +kernel

theorem accepted_utc : (sampleRevision "rev-2" utcTime).Accepted := by decide +kernel

/-- A definition, a revision that was decided without a zone, and one in UTC. -/
def naiveCalls : List CompositeCall :=
  [.saveDefinition sampleDefinition,
    .saveMembershipRevision (sampleRevision "rev-1" naiveTime) accepted_naive 63926582400000000,
    .saveMembershipRevision (sampleRevision "rev-2" utcTime) accepted_utc 63926582400000000]

/-- The first revision is refused and stored all the same: it has no publication, and the number 1 is
missing from the publications for good. -/
theorem naive_revision_unpublished :
    ((after sampleHashing (naiveCalls.take 1)).call sampleHashing
        (.saveMembershipRevision (sampleRevision "rev-1" naiveTime) accepted_naive
          63926582400000000)).1 = .error (.value "COMPOSITE_PUBLICATION_TIMEZONE_REQUIRED") ∧
      (after sampleHashing (naiveCalls.take 2)).membershipRevisions.get?
        ("tenant-sg", "composite-1", "v1", "rev-1") = some (sampleRevision "rev-1" naiveTime) ∧
      (after sampleHashing (naiveCalls.take 2)).publications.keys = [] ∧
      (after sampleHashing (naiveCalls.take 2)).lastSequence = 1 ∧
      (after sampleHashing naiveCalls).publications.keys = [2] ∧
      (after sampleHashing naiveCalls).lastSequence = 2 := by
  decide +kernel

/-- The refused call leaves a store that is not intact. -/
theorem naive_revision_not_intact :
    ¬ (after sampleHashing (naiveCalls.take 2)).Intact sampleHashing :=
  ((intact_throughout_iff sampleHashing naiveCalls).2 [.saveDefinition sampleDefinition]
    (.saveMembershipRevision (sampleRevision "rev-1" naiveTime) accepted_naive 63926582400000000)
    ⟨naiveCalls.drop 2, rfl⟩ (by decide +kernel) (by decide +kernel)).2

/-- Without the refused call the store is intact: the revision in UTC has the first number. -/
theorem composite_store_intact_utc :
    (after sampleHashing [.saveDefinition sampleDefinition,
        .saveMembershipRevision (sampleRevision "rev-2" utcTime) accepted_utc
          63926582400000000]).Intact sampleHashing :=
  (composite_store_intact sampleHashing [.saveDefinition sampleDefinition,
    .saveMembershipRevision (sampleRevision "rev-2" utcTime) accepted_utc 63926582400000000] []
    (by decide +kernel)).1

end LotusManage.Composites
