import LotusManage.Packages.Release

/-!
# The package repository and the release

`InMemoryDpmInstructionPackageRepository` of
`src/infrastructure/instruction_packages/in_memory.py`, and `release` of
`src/api/services/instruction_package_application.py` with the supersession check and the
comparison of a command with a stored package.

A package is stored once under its key and never changed.  The command that released it is not
kept: a replay is recognised by rebuilding from the package what the caller had sent.
-/

namespace LotusManage.Packages

/-- The packages by tenant, package and version. -/
abbrev PackageStore := Dict (String × String × String) InstructionPackage

/-! ## The repository -/

/-- `save_package`: whether the package is new. -/
def savePackage (store : PackageStore) (package : InstructionPackage) :
    Except PackageError (PackageStore × Bool) :=
  match store.get? package.key with
  | some existing =>
    if existing.contentHash ≠ package.contentHash then
      .error (.conflict "INSTRUCTION_PACKAGE_IMMUTABLE_CONFLICT")
    else .ok (store, false)
  | none => .ok (store.set package.key package, true)

/-- The order of the lists: latest first, then by package and version, backwards. -/
def InstructionPackage.newer (a b : InstructionPackage) : Prop :=
  toLex (b.createdAt, toLex (b.packageId, b.packageVersion)) ≤
    toLex (a.createdAt, toLex (a.packageId, a.packageVersion))

instance : DecidableRel InstructionPackage.newer := fun a b =>
  inferInstanceAs (Decidable (toLex (b.createdAt, toLex (b.packageId, b.packageVersion)) ≤
    toLex (a.createdAt, toLex (a.packageId, a.packageVersion))))

/-- `get_package_by_wave_item` -/
def getPackageByWaveItem (store : PackageStore) (tenantId waveId waveItemId : String) :
    List InstructionPackage :=
  (store.values.filter (fun package =>
    package.tenantId = tenantId ∧ package.waveId = waveId ∧
      package.waveItemId = waveItemId)).insertionSort InstructionPackage.newer

/-! ## Supersession -/

/-- `_validate_supersession` -/
def validateSupersession (store : PackageStore) (command : ReleaseCommand) :
    Except PackageError Unit :=
  match command.supersedesPackageId, command.supersedesPackageVersion with
  | none, some _ => .error (.refused "INSTRUCTION_PACKAGE_SUPERSESSION_INCOMPLETE")
  | none, none =>
    if getPackageByWaveItem store command.tenantId command.waveId command.waveItemId ≠ [] then
      .error (.refused "INSTRUCTION_PACKAGE_SUPERSESSION_REQUIRED")
    else .ok ()
  | some _, none => .error (.refused "INSTRUCTION_PACKAGE_SUPERSESSION_INCOMPLETE")
  | some packageId, some packageVersion =>
    match store.get? (command.tenantId, packageId, packageVersion) with
    | none => .error (.refused "INSTRUCTION_PACKAGE_SUPERSEDED_VERSION_NOT_FOUND")
    | some previous =>
      if previous.waveId ≠ command.waveId ∨ previous.waveItemId ≠ command.waveItemId then
        .error (.refused "INSTRUCTION_PACKAGE_SUPERSESSION_SCOPE_MISMATCH")
      else .ok ()

/-! ## The package of a command -/

/-- `DpmApprovedInstructionPackage.from_material` -/
def fromMaterial (hashing : PackageHashing) (package : InstructionPackage) :
    Except PackageError InstructionPackage :=
  if package.supersedesPackageId.isNone ≠ package.supersedesPackageVersion.isNone then
    .error (.invalid "INSTRUCTION_PACKAGE_SUPERSESSION_INCOMPLETE")
  else if ¬ (package.instructions.map ApprovedInstruction.instructionId).Nodup then
    .error (.invalid "INSTRUCTION_PACKAGE_DUPLICATE_INSTRUCTION_ID")
  else if package.instructions = [] then .error (.invalid "instructions")
  else .ok { package with contentHash := hashing.package package.hashPayload }

/-- `_approved_material_hash` -/
def approvedMaterialHash (hashing : PackageHashing) (command : ReleaseCommand)
    (approvedIntentHash : String) (instructions : List ApprovedInstruction)
    (revisions : List SourceRevision) : String :=
  hashing.material
    { tenantId := command.tenantId
      portfolioAccountScope := command.accountKey
      waveId := command.waveId
      waveItemId := command.waveItemId
      rebalanceRunId := command.rebalanceRunId
      mandateId := command.mandateId
      mandateVersion := command.mandateVersion
      modelPortfolioId := command.modelPortfolioId
      modelPortfolioVersion := command.modelPortfolioVersion
      policyRevision := command.policyRevision
      approvedIntentHash := approvedIntentHash
      instructions := instructions
      sourceRevisions := revisions
      fundingEvidence := command.fundingEvidence }

/-- The package of a command and what was loaded for it, before its content hash is set. -/
def packageOf (command : ReleaseCommand) (portfolioId : String) (proofPack : ProofPack)
    (mandate : Mandate) (instructions : List ApprovedInstruction) (approvedIntentHash : String)
    (revisions : List SourceRevision) (createdAt : Int) : InstructionPackage :=
  { packageId := command.packageId
    packageVersion := command.packageVersion
    tenantId := command.tenantId
    portfolioId := portfolioId
    accountKey := command.accountKey
    waveId := command.waveId
    waveItemId := command.waveItemId
    rebalanceRunId := command.rebalanceRunId
    proofPackId := proofPack.proofPackId
    mandateId := mandate.mandateId
    mandateVersion := mandate.mandateVersion
    modelPortfolioId := mandate.modelPortfolioId
    modelPortfolioVersion := mandate.modelPortfolioVersion
    policyRevision := command.policyRevision
    sourceRevisions := revisions
    approvedIntentHash := approvedIntentHash
    approvalEvidence := command.approvalEvidence
    fundingEvidence := command.fundingEvidence
    instructions := instructions
    supersedesPackageId := command.supersedesPackageId
    supersedesPackageVersion := command.supersedesPackageVersion
    createdAt := createdAt
    releasedBy := command.releasedBy
    correlationId := command.correlationId }

/-- `_build_package`: the package and the hash that the approval must bind.  The creation time
is the clock when the package is built. -/
def buildPackage (hashing : PackageHashing) (store : PackageStore) (sources : ReleaseSources)
    (createdAt : Int) (command : ReleaseCommand) :
    Except PackageError (InstructionPackage × String) := do
  let waveItem ← loadReleaseableWaveItem sources command
  let proofPack ← loadReleaseableProofPack sources command waveItem
  let mandate ← loadCurrentMandate sources command waveItem.portfolioId
  let run ← loadReleaseableRun sources command waveItem.portfolioId
  validateFunding command run
  let (instructions, approvedIntentHash) ← instructionsFromResult hashing command run
  let revisions ← sourceRevisions command proofPack mandate run
  validateSupersession store command
  let package ← fromMaterial hashing
    (packageOf command waveItem.portfolioId proofPack mandate instructions approvedIntentHash
      revisions createdAt)
  return (package, approvedMaterialHash hashing command approvedIntentHash instructions revisions)

/-! ## Replays -/

/-- The order of the mappings. -/
def MappingEvidence.le (a b : MappingEvidence) : Prop := a.originalIntentId ≤ b.originalIntentId

instance : DecidableRel MappingEvidence.le := fun a b =>
  inferInstanceAs (Decidable (a.originalIntentId ≤ b.originalIntentId))

/-- The mapping that an instruction was built with. -/
def ApprovedInstruction.mapping (instruction : ApprovedInstruction) : MappingEvidence :=
  { originalIntentId := instruction.originalIntentId
    canonicalInstrumentKey := instruction.canonicalInstrumentKey
    accountKey := instruction.accountKey
    mappingRevision := instruction.mappingRevision
    mappingContentHash := instruction.mappingContentHash
    orderType := instruction.orderType
    timeInForce := instruction.timeInForce
    settlementDate := instruction.settlementDate
    limitPrice := instruction.limitPrice }

/-- `_stored_mapping_material` -/
def storedMappingMaterial (existing : InstructionPackage) : List MappingEvidence :=
  (existing.instructions.map ApprovedInstruction.mapping).insertionSort MappingEvidence.le

/-- `_received_mapping_material` -/
def receivedMappingMaterial (command : ReleaseCommand) : List MappingEvidence :=
  command.mappings.insertionSort MappingEvidence.le

/-- `_received_source_revisions` -/
def receivedSourceRevisions (command : ReleaseCommand) : List SourceRevision :=
  command.sourceRevisions.insertionSort SourceRevision.le

/-- `_stored_external_source_revisions` -/
def storedExternalSourceRevisions (existing : InstructionPackage) : List SourceRevision :=
  (existing.sourceRevisions.filter (fun revision =>
    !derivedSourceTypes.contains revision.sourceType)).insertionSort SourceRevision.le

/-- `_same_package_scope` -/
def samePackageScope (existing : InstructionPackage) (command : ReleaseCommand) : Prop :=
  existing.tenantId = command.tenantId ∧ existing.waveId = command.waveId ∧
    existing.waveItemId = command.waveItemId ∧
    existing.rebalanceRunId = command.rebalanceRunId ∧
    existing.mandateId = command.mandateId ∧ existing.mandateVersion = command.mandateVersion ∧
    existing.modelPortfolioId = command.modelPortfolioId ∧
    existing.modelPortfolioVersion = command.modelPortfolioVersion ∧
    existing.accountKey = command.accountKey

/-- `_same_package_governance` -/
def samePackageGovernance (existing : InstructionPackage) (command : ReleaseCommand) : Prop :=
  existing.policyRevision = command.policyRevision ∧
    existing.fundingEvidence = command.fundingEvidence ∧
    existing.approvalEvidence = command.approvalEvidence ∧
    existing.supersedesPackageId = command.supersedesPackageId ∧
    existing.supersedesPackageVersion = command.supersedesPackageVersion ∧
    existing.correlationId = command.correlationId

/-- `_matches_immutable_replay` -/
def matchesImmutableReplay (existing : InstructionPackage) (command : ReleaseCommand) : Prop :=
  samePackageScope existing command ∧ samePackageGovernance existing command ∧
    storedMappingMaterial existing = receivedMappingMaterial command ∧
    storedExternalSourceRevisions existing = receivedSourceRevisions command

instance (existing : InstructionPackage) (command : ReleaseCommand) :
    Decidable (matchesImmutableReplay existing command) := by
  unfold matchesImmutableReplay samePackageScope samePackageGovernance
  infer_instance

/-- `_immutable_release_winner` -/
def immutableReleaseWinner (store : PackageStore) (command : ReleaseCommand) :
    Except PackageError (Option InstructionPackage) :=
  match store.get? command.key with
  | none => .ok none
  | some existing =>
    if matchesImmutableReplay existing command then .ok (some existing)
    else .error (.conflict "INSTRUCTION_PACKAGE_IMMUTABLE_CONFLICT")

end LotusManage.Packages
