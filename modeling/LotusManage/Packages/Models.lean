import LotusManage.Engine.Models
import LotusManage.Waves.Models

/-!
# Approved instruction packages

The records of `src/core/instruction_packages/models.py`, the release command of
`src/api/services/instruction_package_application.py`, and what a release reads of the wave, the
proof pack, the mandate and the run it is about.

A limit price is kept as the text of its `Decimal`, because a replay compares the texts; the
other decimals are compared as numbers.  An approval time is compared as `datetime` does: an
aware one by its instant, a naive one by its wall clock, and the two kinds never agree.
-/

namespace LotusManage.Packages

open LotusManage.Engine (CashBalance OrderIntent RunStatus SecurityTradeIntent Side)

/-! ## Evidence -/

/-- `DpmInstructionPackageSourceRevision` -/
structure SourceRevision where
  sourceType : String
  sourceId : String
  sourceVersion : String
  contentHash : String
  material : Bool := true
  deriving DecidableEq

/-- A `datetime` as `==` sees it. -/
structure Moment where
  aware : Bool
  micros : Int
  deriving DecidableEq

/-- `DpmInstructionApprovalEvidence` -/
structure ApprovalEvidence where
  approvalId : String
  approvedBy : String
  approvedAt : Moment
  approvedMaterialHash : String
  approvalPolicyVersion : String
  deriving DecidableEq

/-- `FundingDisposition` -/
inductive FundingDisposition where
  | certified
  | delegatedToExecutionOwner
  deriving DecidableEq

/-- `DpmInstructionFundingEvidence` -/
structure FundingEvidence where
  disposition : FundingDisposition
  policyId : String
  policyVersion : String
  evidenceHash : String
  settlementAwarenessEnabled : Bool
  feeReserveCurrency : Option String := none
  feeReserveAmount : Option Decimal := none
  delegatedSourceProduct : Option String := none
  deriving DecidableEq

/-- `InstructionOrderType` -/
inductive InstructionOrderType where
  | market
  | limit
  deriving DecidableEq

/-- `InstructionTimeInForce` -/
inductive InstructionTimeInForce where
  | day
  | gtc
  deriving DecidableEq

/-- `DpmInstructionMappingEvidence` -/
structure MappingEvidence where
  originalIntentId : String
  canonicalInstrumentKey : String
  accountKey : String
  mappingRevision : String
  mappingContentHash : String
  orderType : InstructionOrderType
  timeInForce : InstructionTimeInForce
  settlementDate : String
  limitPrice : Option String := none
  deriving DecidableEq

/-! ## The package -/

/-- `DpmApprovedInstruction`; its unit is a constant. -/
structure ApprovedInstruction where
  instructionId : String
  originalIntentId : String
  canonicalInstrumentKey : String
  accountKey : String
  side : Side
  quantity : Decimal
  currency : String
  orderType : InstructionOrderType
  timeInForce : InstructionTimeInForce
  settlementDate : String
  limitPrice : Option String
  dependencies : List String
  mappingRevision : String
  mappingContentHash : String
  deriving DecidableEq

/-- `DpmApprovedInstructionPackage`, less its three constant fields. -/
structure InstructionPackage where
  packageId : String
  packageVersion : String
  tenantId : String
  portfolioId : String
  accountKey : String
  waveId : String
  waveItemId : String
  rebalanceRunId : String
  proofPackId : String
  mandateId : String
  mandateVersion : String
  modelPortfolioId : String
  modelPortfolioVersion : Option String
  policyRevision : String
  sourceRevisions : List SourceRevision
  approvedIntentHash : String
  approvalEvidence : ApprovalEvidence
  fundingEvidence : FundingEvidence
  instructions : List ApprovedInstruction
  supersedesPackageId : Option String
  supersedesPackageVersion : Option String
  createdAt : Int
  releasedBy : String
  correlationId : String
  contentHash : String := ""
  deriving DecidableEq

/-- The key of the repository: tenant, package and version. -/
def InstructionPackage.key (package : InstructionPackage) : String × String × String :=
  (package.tenantId, package.packageId, package.packageVersion)

/-- `strip_keys(payload, exclude={"content_hash"})`: the key goes at every depth, so the hashes
of the source revisions go with the package's own. -/
def InstructionPackage.hashPayload (package : InstructionPackage) : InstructionPackage :=
  { package with
    sourceRevisions := package.sourceRevisions.map (fun revision =>
      { revision with contentHash := "" })
    contentHash := "" }

/-! ## The release command and its sources -/

/-- `DpmInstructionPackageReleaseCommand` -/
structure ReleaseCommand where
  tenantId : String
  packageId : String
  packageVersion : String
  waveId : String
  waveItemId : String
  rebalanceRunId : String
  mandateId : String
  mandateVersion : String
  modelPortfolioId : String
  modelPortfolioVersion : Option String
  policyRevision : String
  accountKey : String
  mappings : List MappingEvidence
  sourceRevisions : List SourceRevision
  fundingEvidence : FundingEvidence
  approvalEvidence : ApprovalEvidence
  supersedesPackageId : Option String := none
  supersedesPackageVersion : Option String := none
  releasedBy : String
  correlationId : String
  deriving DecidableEq

def ReleaseCommand.key (command : ReleaseCommand) : String × String × String :=
  (command.tenantId, command.packageId, command.packageVersion)

/-- `ProofPackStatus` -/
inductive ProofPackStatus where
  | ready
  | pendingReview
  | degraded
  | blocked
  deriving DecidableEq

/-- What `is_no_action_proof_pack` reads of a section. -/
structure ProofPackSection where
  sectionType : String
  method : Option String

/-- What a release reads of a `DpmPreTradeProofPack`. -/
structure ProofPack where
  proofPackId : String
  portfolioId : String
  rebalanceRunId : Option String
  status : ProofPackStatus
  sections : List ProofPackSection
  contentHash : String

/-- What a release reads of a `DpmMandateDigitalTwin`, with the hash of the whole record. -/
structure Mandate where
  mandateId : String
  mandateVersion : String
  modelPortfolioId : String
  modelPortfolioVersion : Option String
  payloadHash : String

/-- The decision of the client restriction policy. -/
inductive PolicyDecision where
  | notAssessed
  | ready
  | pendingReview
  | blocked
  deriving DecidableEq

/-- What a release reads of a `ClientRestrictionPolicyEvidence`. -/
structure ClientRestrictionPolicy where
  decision : PolicyDecision
  sourceProductName : Option String
  contentHash : Option String
  statefulContextHash : Option String
  portfolioId : Option String
  clientId : Option String
  asOfDate : Option String

/-- What a release reads of a stored run and its `RebalanceResult`. -/
structure RunRecord where
  portfolioId : String
  status : RunStatus
  intents : List OrderIntent
  cashBalances : List CashBalance
  clientRestrictionPolicy : Option ClientRestrictionPolicy
  requestHash : String
  lineageModelPortfolioId : Option String
  lineageModelPortfolioVersion : Option String

/-- The answers of the other repositories to the release of a command: of the wave repository
for its wave, and of the others by proof pack, portfolio and run.  All are for the tenant of the
command. -/
structure ReleaseSources where
  wave : Option Waves.RebalanceWave
  proofPack : String → Option ProofPack
  mandate : String → Option Mandate
  run : String → Option RunRecord

/-- What a release raises. -/
inductive PackageError where
  | notFound (code : String)
  | refused (code : String)
  | conflict (code : String)
  | invalid (code : String)
  deriving DecidableEq

/-- What the approval binds: the payload of `_approved_material_hash`. -/
structure ApprovedMaterial where
  tenantId : String
  portfolioAccountScope : String
  waveId : String
  waveItemId : String
  rebalanceRunId : String
  mandateId : String
  mandateVersion : String
  modelPortfolioId : String
  modelPortfolioVersion : Option String
  policyRevision : String
  approvedIntentHash : String
  instructions : List ApprovedInstruction
  sourceRevisions : List SourceRevision
  fundingEvidence : FundingEvidence
  deriving DecidableEq

/-- SHA-256 over UTF-8 text, and over the canonical JSON text of a payload. -/
structure PackageHashing where
  sha256Hex : String → String
  intents : List SecurityTradeIntent → String
  material : ApprovedMaterial → String
  package : InstructionPackage → String

end LotusManage.Packages
