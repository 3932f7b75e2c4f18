import LotusManage.Lib.Tables
import LotusManage.Packages.StoreCases

/-!
# Releases that are asked for again

A stored package does not keep its command.  `_matches_immutable_replay` rebuilds the mappings
from the instructions and takes the revisions of the three derived types out of the stored ones,
and compares the rest with what the caller sends.  `matches_iff` says what that comes to: the
mappings are equal up to order, and the caller's revisions are those of the first command
without the derived types.

So a command that itself brings a revision of a derived type does not match its own package
(`matches_self_iff`), although the builder admits it: only the three identities that the service
derives must not occur twice.
-/

namespace LotusManage.Packages

/-! ## The comparison -/

/-- The caller's revisions are all of types that the service does not derive. -/
def ReleaseCommand.NoDerivedSource (command : ReleaseCommand) : Prop :=
  ∀ revision ∈ command.sourceRevisions, revision.sourceType ∉ derivedSourceTypes

instance (command : ReleaseCommand) : Decidable command.NoDerivedSource := by
  unfold ReleaseCommand.NoDerivedSource
  infer_instance

/-- Two commands agree in every field that a package is about: scope, policy, funding, approval,
supersession, correlation, mappings and source revisions.  The order of the mappings and of the
revisions does not count. -/
structure SameMaterial (c c' : ReleaseCommand) : Prop where
  tenantId : c.tenantId = c'.tenantId
  waveId : c.waveId = c'.waveId
  waveItemId : c.waveItemId = c'.waveItemId
  rebalanceRunId : c.rebalanceRunId = c'.rebalanceRunId
  mandateId : c.mandateId = c'.mandateId
  mandateVersion : c.mandateVersion = c'.mandateVersion
  modelPortfolioId : c.modelPortfolioId = c'.modelPortfolioId
  modelPortfolioVersion : c.modelPortfolioVersion = c'.modelPortfolioVersion
  accountKey : c.accountKey = c'.accountKey
  policyRevision : c.policyRevision = c'.policyRevision
  fundingEvidence : c.fundingEvidence = c'.fundingEvidence
  approvalEvidence : c.approvalEvidence = c'.approvalEvidence
  supersedesPackageId : c.supersedesPackageId = c'.supersedesPackageId
  supersedesPackageVersion : c.supersedesPackageVersion = c'.supersedesPackageVersion
  correlationId : c.correlationId = c'.correlationId
  mappings : c.mappings.Perm c'.mappings
  sourceRevisions : c.sourceRevisions.Perm c'.sourceRevisions

variable {command command' : ReleaseCommand} {package p q : InstructionPackage}
  {hashing : PackageHashing} {calls : List PackageCall}

theorem mapping_rank (a b : MappingEvidence) (_ : a.originalIntentId ≠ b.originalIntentId) :
    a.le b ↔ a.originalIntentId ≤ b.originalIntentId :=
  Iff.rfl

theorem revision_rank (a b : SourceRevision)
    (_ : toLex a.identity ≠ toLex b.identity) : a.le b ↔ toLex a.identity ≤ toLex b.identity :=
  Iff.rfl

/-- The test of `_stored_external_source_revisions`. -/
def SourceRevision.external (revision : SourceRevision) : Bool :=
  !derivedSourceTypes.contains revision.sourceType

theorem SourceRevision.external_iff {revision : SourceRevision} :
    revision.external = true ↔ revision.sourceType ∉ derivedSourceTypes := by
  simp [SourceRevision.external]

theorem storedExternalSourceRevisions_eq (h : BuiltFrom command package) :
    storedExternalSourceRevisions package =
        (command.sourceRevisions.filter SourceRevision.external).insertionSort
          SourceRevision.le ∧
      ((command.sourceRevisions.filter SourceRevision.external).map
        (fun revision => toLex revision.identity)).Nodup := by
  obtain ⟨derived, hderived, hnodup, hrevisions⟩ := h.revisions
  have hnone : derived.filter SourceRevision.external = [] := by
    refine List.filter_eq_nil_iff.mpr ?_
    intro revision hmem hexternal
    exact SourceRevision.external_iff.mp hexternal (hderived revision hmem)
  have hperm : (package.sourceRevisions.filter SourceRevision.external).Perm
      (command.sourceRevisions.filter SourceRevision.external) := by
    rw [hrevisions]
    refine ((List.perm_insertionSort _ _).filter _).trans ?_
    rw [List.filter_append, hnone, List.nil_append]
  have hids : ((command.sourceRevisions.filter SourceRevision.external).map
      SourceRevision.identity).Nodup := by
    rw [List.map_append] at hnodup
    exact (hnodup.of_append_right).sublist (List.filter_sublist.map _)
  have hranks : ((command.sourceRevisions.filter SourceRevision.external).map
      (fun revision => toLex revision.identity)).Nodup := by
    have hmap := hids.map toLex.injective
    rw [List.map_map] at hmap
    exact hmap
  refine ⟨?_, hranks⟩
  exact ((insertionSort_eq_iff_perm hranks revision_rank).mpr hperm.symm).symm

theorem matches_iff (h : BuiltFrom command package) :
    matchesImmutableReplay package command' ↔
      samePackageScope package command' ∧ samePackageGovernance package command' ∧
        command.mappings.Perm command'.mappings ∧
        (command.sourceRevisions.filter SourceRevision.external).Perm
          command'.sourceRevisions := by
  have hmappings : storedMappingMaterial package = receivedMappingMaterial command' ↔
      command.mappings.Perm command'.mappings := by
    have hids : ((package.instructions.map ApprovedInstruction.mapping).map
        MappingEvidence.originalIntentId).Nodup :=
      ((h.mappings.map _).nodup_iff).mpr h.mappingIds
    refine (insertionSort_eq_iff_perm hids mapping_rank).trans ?_
    exact ⟨fun hperm => h.mappings.symm.trans hperm, fun hperm => h.mappings.trans hperm⟩
  obtain ⟨hexternal, hranks⟩ := storedExternalSourceRevisions_eq h
  have hrevisions : storedExternalSourceRevisions package = receivedSourceRevisions command' ↔
      (command.sourceRevisions.filter SourceRevision.external).Perm
        command'.sourceRevisions := by
    rw [hexternal]
    exact insertionSort_eq_iff_perm hranks revision_rank
  unfold matchesImmutableReplay
  rw [hmappings, hrevisions]

theorem matches_self_iff (h : BuiltFrom command package) :
    matchesImmutableReplay package command ↔ command.NoDerivedSource := by
  rw [matches_iff h]
  constructor
  · rintro ⟨_, _, _, hperm⟩ revision hmem
    have hfiltered := hperm.mem_iff.mpr hmem
    exact SourceRevision.external_iff.mp (List.mem_filter.mp hfiltered).2
  · intro hnone
    refine ⟨h.scope, h.governance, List.Perm.refl _, ?_⟩
    rw [List.filter_eq_self.mpr]
    intro revision hmem
    exact SourceRevision.external_iff.mpr (hnone revision hmem)

theorem noDerivedSource_of_matches (h : matchesImmutableReplay package command) :
    command.NoDerivedSource := by
  intro revision hmem
  have hreceived : revision ∈ receivedSourceRevisions command :=
    (List.mem_insertionSort _).mpr hmem
  rw [← h.2.2.2] at hreceived
  have hstored := (List.mem_insertionSort _).mp hreceived
  exact SourceRevision.external_iff.mp (List.mem_filter.mp hstored).2

theorem sameMaterial_of_matches (h : matchesImmutableReplay package command)
    (h' : matchesImmutableReplay package command') : SameMaterial command command' := by
  obtain ⟨⟨h1, h2, h3, h4, h5, h6, h7, h8, h9⟩, ⟨g1, g2, g3, g4, g5, g6⟩, hmappings, hrevisions⟩ :=
    h
  obtain ⟨⟨h1', h2', h3', h4', h5', h6', h7', h8', h9'⟩, ⟨g1', g2', g3', g4', g5', g6'⟩,
    hmappings', hrevisions'⟩ := h'
  refine ⟨h1 ▸ h1', h2 ▸ h2', h3 ▸ h3', h4 ▸ h4', h5 ▸ h5', h6 ▸ h6', h7 ▸ h7', h8 ▸ h8',
    h9 ▸ h9', g1 ▸ g1', g2 ▸ g2', g3 ▸ g3', g4 ▸ g4', g5 ▸ g5', g6 ▸ g6', ?_, ?_⟩
  · have hsame : command.mappings.insertionSort MappingEvidence.le =
        command'.mappings.insertionSort MappingEvidence.le :=
      hmappings.symm.trans hmappings'
    refine (List.perm_insertionSort MappingEvidence.le command.mappings).symm.trans ?_
    rw [hsame]
    exact List.perm_insertionSort MappingEvidence.le command'.mappings
  · have hsame : command.sourceRevisions.insertionSort SourceRevision.le =
        command'.sourceRevisions.insertionSort SourceRevision.le :=
      hrevisions.symm.trans hrevisions'
    refine (List.perm_insertionSort SourceRevision.le command.sourceRevisions).symm.trans ?_
    rw [hsame]
    exact List.perm_insertionSort SourceRevision.le command'.sourceRevisions

/-! ## Equal hashes -/

/-- Among the packages of the run, one hash belongs to one payload and to one material. -/
def HashesFaithful (hashing : PackageHashing) (calls : List PackageCall) : Prop :=
  ∀ p ∈ builtIn hashing calls, ∀ q ∈ builtIn hashing calls,
    (hashing.package p.hashPayload = hashing.package q.hashPayload →
      p.hashPayload = q.hashPayload) ∧
    (hashing.material p.material = hashing.material q.material → p.material = q.material)

instance (hashing : PackageHashing) (calls : List PackageCall) :
    Decidable (HashesFaithful hashing calls) := by
  unfold HashesFaithful
  infer_instance

theorem eq_of_payload_of_material (hcontent : p.contentHash = q.contentHash)
    (hpayload : p.hashPayload = q.hashPayload) (hmaterial : p.material = q.material) : p = q := by
  have hrevisions : p.sourceRevisions = q.sourceRevisions :=
    congrArg ApprovedMaterial.sourceRevisions hmaterial
  unfold InstructionPackage.hashPayload at hpayload
  cases p
  cases q
  simp only [InstructionPackage.mk.injEq] at hpayload hrevisions hcontent ⊢
  simp only [hpayload, hrevisions, hcontent, and_self]

theorem eq_of_contentHash_eq (hfaithful : HashesFaithful hashing calls)
    (hp : p ∈ builtIn hashing calls) (hq : q ∈ builtIn hashing calls)
    (happroved : Approved hashing p) (happroved' : Approved hashing q)
    (hcontent : p.contentHash = q.contentHash) : p = q := by
  obtain ⟨hpackage, hmaterial⟩ := hfaithful p hp q hq
  have hpayload : p.hashPayload = q.hashPayload := by
    refine hpackage ?_
    rw [← happroved.content, ← happroved'.content, hcontent]
  have hevidence : p.hashPayload.approvalEvidence = q.hashPayload.approvalEvidence := by
    rw [hpayload]
  have hevidence : p.approvalEvidence = q.approvalEvidence := hevidence
  refine eq_of_payload_of_material hcontent hpayload (hmaterial ?_)
  rw [← happroved.approval, ← happroved'.approval, hevidence]

/-! ## Replays -/

theorem accepted_cases (hfaithful : HashesFaithful hashing calls) {created : Bool}
    (h : ⟨command, .answered (.ok (package, created))⟩ ∈
      (PackageService.after hashing calls).releases) :
    (PackageService.after hashing calls).packages.get? command.key = some package ∧
      (BuiltFrom command package ∨ matchesImmutableReplay package command) := by
  have hsound := sound_after hashing calls
  obtain ⟨hstored, hmatches | ⟨built, hbuiltIn, hbuilt, happroved, hhash⟩⟩ :=
    hsound.releases _ h
  · exact ⟨hstored, .inr hmatches⟩
  · obtain ⟨_, hpackageIn, happroved', _⟩ := hsound.stored _ _ hstored
    have hsame := eq_of_contentHash_eq hfaithful hpackageIn hbuiltIn happroved' happroved hhash
    subst hsame
    exact ⟨hstored, .inl hbuilt⟩

theorem release_of_stored (hashing : PackageHashing) {store : PackageStore}
    (sources : ReleaseSources) (createdAt : Int) (h : store.get? command.key = some package) :
    release hashing store sources createdAt command =
      if matchesImmutableReplay package command then (store, .ok (package, false))
      else (store, .error (.conflict "INSTRUCTION_PACKAGE_IMMUTABLE_CONFLICT")) := by
  unfold release immutableReleaseWinner
  rw [h]
  dsimp only
  by_cases hmatches : matchesImmutableReplay package command
  · rw [if_pos hmatches, if_pos hmatches]
  · rw [if_neg hmatches, if_neg hmatches]

/-- The same command gets its package again, and a command that differs under the same key
conflicts. -/
structure ReplaysExactly (hashing : PackageHashing) (store : PackageStore)
    (command : ReleaseCommand) (package : InstructionPackage) : Prop where
  same : ∀ sources createdAt,
    release hashing store sources createdAt command = (store, .ok (package, false))
  different : ∀ command', command'.key = command.key → ¬ SameMaterial command command' →
    ∀ sources createdAt, release hashing store sources createdAt command' =
      (store, .error (.conflict "INSTRUCTION_PACKAGE_IMMUTABLE_CONFLICT"))

/-- Whatever is released and whatever the other repositories hold after a command was accepted,
its replay is exact if and only if it brought no revision of a type that the service derives. -/
theorem release_replay_iff (hashing : PackageHashing) (calls later : List PackageCall)
    (hfaithful : HashesFaithful hashing calls) (command : ReleaseCommand)
    (package : InstructionPackage) (created : Bool)
    (haccepted : ⟨command, .answered (.ok (package, created))⟩ ∈
      (PackageService.after hashing calls).releases) :
    ReplaysExactly hashing (PackageService.after hashing (calls ++ later)).packages command
        package ↔
      command.NoDerivedSource := by
  obtain ⟨hstored, hcase⟩ := accepted_cases hfaithful haccepted
  have hlater := PackageService.get?_after calls later hstored
  constructor
  · intro hreplays
    obtain hbuilt | hmatches := hcase
    · refine (matches_self_iff hbuilt).mp ?_
      by_contra hdiffers
      have hanswer := hreplays.same ⟨none, fun _ => none, fun _ => none, fun _ => none⟩ 0
      rw [release_of_stored hashing _ _ hlater, if_neg hdiffers] at hanswer
      cases congrArg Prod.snd hanswer
    · exact noDerivedSource_of_matches hmatches
  · intro hnone
    have hmatches : matchesImmutableReplay package command := by
      obtain hbuilt | hmatches := hcase
      · exact (matches_self_iff hbuilt).mpr hnone
      · exact hmatches
    constructor
    · intro sources createdAt
      rw [release_of_stored hashing _ _ hlater, if_pos hmatches]
    · intro command' hkey hdiffers sources createdAt
      rw [← hkey] at hlater
      rw [release_of_stored hashing _ _ hlater, if_neg ?_]
      exact fun hmatches' => hdiffers (sameMaterial_of_matches hmatches hmatches')

/-! ### One release and its replay -/

/-- Hashes that tell the packages of the samples apart. -/
def sampleHashing : PackageHashing :=
  { sha256Hex := fun text => String.ofList text.toList.reverse
    intents := fun intents => "sha256:intents-" ++ toString intents.length
    material := fun material => "sha256:" ++ Text.join "|"
      (material.sourceRevisions.map (fun revision =>
        revision.sourceType ++ ":" ++ revision.contentHash))
    package := fun package => "sha256:" ++ Text.join "|"
      [package.packageId, package.packageVersion, toString package.createdAt] }

/-- A wave with one item that is ready for its handoff. -/
def sampleWave : Waves.RebalanceWave :=
  { waveId := "drw_001"
    state := .handoffReady
    trigger :=
      { triggerType := .explicitPortfolioList, triggerId := "model-change-1",
        rationale := "Model change." }
    asOfDate := "2026-05-03"
    createdBy := "pm_001"
    correlationId := "corr-wave"
    tenantId := some "tenant-sg"
    items :=
      [{ waveItemId := "dwi_001"
         portfolioId := "PB_SG_GLOBAL_BAL_001"
         state := .handoffReady
         proofPackId := some "dpp_001"
         diagnostics := .ofEntries
           [("approval_actor_id", .text "pm-approver"), ("approval_reason_code", .text "OK")] }]
    aggregateMetrics :=
      { itemCount := 1, stateCounts := .empty, readyItemCount := 1, blockedItemCount := 0
        reviewRequiredItemCount := 0, sourceDegradedItemCount := 0 } }

/-- The answers of the other repositories. -/
def sampleSources : ReleaseSources :=
  { wave := some sampleWave
    proofPack := fun _ => some
      { proofPackId := "dpp_001", portfolioId := "PB_SG_GLOBAL_BAL_001"
        rebalanceRunId := some "rr_001", status := .ready, sections := []
        contentHash := "sha256:proof" }
    mandate := fun _ => some
      { mandateId := "MANDATE_001", mandateVersion := "1", modelPortfolioId := "MODEL_001"
        modelPortfolioVersion := none, payloadHash := "sha256:mandate" }
    run := fun _ => some
      { portfolioId := "PB_SG_GLOBAL_BAL_001"
        status := .ready
        intents := [.securityTrade
          { intentId := "oi_1", instrumentId := "EQ_1", side := .buy, quantity := some 10
            notional := some ⟨1000, "SGD"⟩, notionalBase := none }]
        cashBalances := []
        clientRestrictionPolicy := some
          { decision := .ready, sourceProductName := some "ClientRestrictionProfile"
            contentHash := some "sha256:policy", statefulContextHash := some "sha256:context"
            portfolioId := some "PB_SG_GLOBAL_BAL_001", clientId := some "client-1"
            asOfDate := some "2026-05-03" }
        requestHash := "sha256:request"
        lineageModelPortfolioId := none
        lineageModelPortfolioVersion := none } }

/-- The release of a package for the wave item. -/
def sampleCommand (packageVersion : String) (revision : SourceRevision)
    (approvedMaterialHash : String) (supersedesVersion : Option String) : ReleaseCommand :=
  { tenantId := "tenant-sg"
    packageId := "dip-instruction-001"
    packageVersion := packageVersion
    waveId := "drw_001"
    waveItemId := "dwi_001"
    rebalanceRunId := "rr_001"
    mandateId := "MANDATE_001"
    mandateVersion := "1"
    modelPortfolioId := "MODEL_001"
    modelPortfolioVersion := none
    policyRevision := "policy-1"
    accountKey := "ACC-1"
    mappings :=
      [{ originalIntentId := "oi_1", canonicalInstrumentKey := "CORE-EQ-1", accountKey := "ACC-1"
         mappingRevision := "1", mappingContentHash := "sha256:mapping", orderType := .limit
         timeInForce := .day, settlementDate := "2026-05-05", limitPrice := some "49.9500" }]
    sourceRevisions := [revision]
    fundingEvidence :=
      { disposition := .certified, policyId := "funding", policyVersion := "1"
        evidenceHash := "sha256:funding", settlementAwarenessEnabled := false }
    approvalEvidence :=
      { approvalId := "approval-instruction-001", approvedBy := "pm-approver"
        approvedAt := ⟨true, 1⟩, approvedMaterialHash := approvedMaterialHash
        approvalPolicyVersion := "dpm-approval.v1" }
    supersedesPackageId := supersedesVersion.map (fun _ => "dip-instruction-001")
    supersedesPackageVersion := supersedesVersion
    releasedBy := "release-manager"
    correlationId := "corr-instruction-release" }

/-- A command whose own revision is of a type of another owner. -/
def externalCommand : ReleaseCommand :=
  sampleCommand "1" ⟨"TacticalView", "view-1", "1", "sha256:view", true⟩
    ("sha256:DpmMandateDigitalTwin:sha256:mandate|DpmPreTradeProofPack:sha256:proof|" ++
      "DpmRunArtifact:sha256:request|TacticalView:sha256:view") none

/-- A command that brings the revision of a second run. -/
def derivedTypeCommand : ReleaseCommand :=
  sampleCommand "1" ⟨"DpmRunArtifact", "rr_000", "v1", "sha256:earlier", true⟩
    ("sha256:DpmMandateDigitalTwin:sha256:mandate|DpmPreTradeProofPack:sha256:proof|" ++
      "DpmRunArtifact:sha256:earlier|DpmRunArtifact:sha256:request") none

/-- The steps of one release. -/
def releaseSteps (index : Nat) (command : ReleaseCommand) (createdAt : Int) : List PackageCall :=
  [.begin command, .build index sampleSources createdAt, .save index]

/-- The package that a release has answered with. -/
def PackageService.answered? (s : PackageService) (index : Nat) : Option InstructionPackage :=
  match s.releases[index]? with
  | some ⟨_, .answered (.ok (package, _))⟩ => some package
  | _ => none

theorem PackageService.mem_of_answered? {s : PackageService} {index : Nat}
    (h : s.answered? index = some package) :
    ∃ release created, s.releases[index]? = some release ∧
      release.phase = .answered (.ok (package, created)) := by
  unfold PackageService.answered? at h
  split at h
  · rename_i hrelease
    cases h
    exact ⟨_, _, hrelease, rfl⟩
  · cases h

theorem release_replay_iff_external :
    let s := PackageService.after sampleHashing (releaseSteps 0 externalCommand 5)
    ∃ package, s.answered? 0 = some package ∧
      ReplaysExactly sampleHashing s.packages externalCommand package := by
  intro s
  let package := (s.answered? 0).get (by decide +kernel)
  have hanswered : s.answered? 0 = some package := (Option.some_get _).symm
  refine ⟨package, hanswered, ?_⟩
  obtain ⟨⟨command, phase⟩, created, hrelease, hphase⟩ :=
    PackageService.mem_of_answered? hanswered
  have hcommand : command = externalCommand := by
    have hall : ∀ release ∈ s.releases[0]?, release.command = externalCommand := by
      decide +kernel
    exact hall _ hrelease
  cases hphase
  subst hcommand
  have hiff := release_replay_iff sampleHashing (releaseSteps 0 externalCommand 5) []
    (by decide +kernel) externalCommand package created (List.mem_of_getElem? hrelease)
  rw [List.append_nil] at hiff
  exact hiff.mpr (by decide +kernel)

/-- The command with a revision of a derived type is accepted, and conflicts with its own
package when it is sent again. -/
theorem derived_type_release_conflicts :
    let s := PackageService.after sampleHashing (releaseSteps 0 derivedTypeCommand 5)
    HashesFaithful sampleHashing (releaseSteps 0 derivedTypeCommand 5) ∧
      (∃ package, s.answered? 0 = some package) ∧
      (release sampleHashing s.packages sampleSources 6 derivedTypeCommand).2 =
        .error (.conflict "INSTRUCTION_PACKAGE_IMMUTABLE_CONFLICT") := by
  intro s
  let package := (s.answered? 0).get (by decide +kernel)
  exact ⟨by decide +kernel, ⟨package, (Option.some_get _).symm⟩, by decide +kernel⟩

end LotusManage.Packages
