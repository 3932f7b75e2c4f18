import Mathlib.Data.List.Sort
import Mathlib.Data.Prod.Lex
import Mathlib.Data.String.Basic
import LotusManage.Lib.Text
import LotusManage.Packages.Models

/-!
# Building a package

`_build_package` of `src/api/services/instruction_package_application.py` up to the supersession
check, which reads the packages, and `DpmApprovedInstructionPackage.from_material`.

The wave item, the proof pack, the mandate and the run are loaded and checked in this order, then
the funding, the mappings and the source revisions.  Every check is a function of its own with
the error that it raises.
-/

namespace LotusManage.Packages

open LotusManage.Engine (CashBalance OrderIntent SecurityTradeIntent)
open LotusManage.Waves (DiagnosticValue RebalanceWaveItem)

/-! ## Loading the sources -/

/-- The truth value of a diagnostic. -/
def truthy : Option DiagnosticValue → Bool
  | none => false
  | some .null => false
  | some (.flag value) => value
  | some (.number value) => value != 0
  | some (.text value) => value != ""
  | some (.json canonical) =>
    !(["null", "false", "0", "0.0", "\"\"", "[]", "\x7b\x7d"].contains canonical)
  | some (.counts values) => !values.items.isEmpty
  | some (.sourceAnalytics families) => !families.items.isEmpty

/-- The truth value of an optional text. -/
def filled (value : Option String) : Bool := value.getD "" != ""

/-- `_load_releaseable_wave_item` -/
def loadReleaseableWaveItem (sources : ReleaseSources) (command : ReleaseCommand) :
    Except PackageError RebalanceWaveItem :=
  match sources.wave with
  | none => .error (.notFound "INSTRUCTION_PACKAGE_WAVE_NOT_FOUND")
  | some wave =>
    match wave.items.find? (fun item => item.waveItemId = command.waveItemId) with
    | none => .error (.notFound "INSTRUCTION_PACKAGE_WAVE_ITEM_NOT_FOUND")
    | some item =>
      if item.state ≠ .handoffReady then
        .error (.refused "INSTRUCTION_PACKAGE_WAVE_ITEM_NOT_RELEASE_READY")
      else if !filled item.proofPackId then
        .error (.refused "INSTRUCTION_PACKAGE_PROOF_PACK_REQUIRED")
      else if !truthy (item.diagnostics.get? "approval_actor_id") ||
          !truthy (item.diagnostics.get? "approval_reason_code") then
        .error (.refused "INSTRUCTION_PACKAGE_WAVE_APPROVAL_EVIDENCE_REQUIRED")
      else .ok item

/-- `is_no_action_proof_pack` -/
def isNoActionProofPack (proofPack : ProofPack) : Bool :=
  proofPack.sections.any (fun section_ =>
    section_.sectionType = "selected_alternative" ∧ section_.method = some "DO_NOTHING_BASELINE")

/-- `_load_releaseable_proof_pack` -/
def loadReleaseableProofPack (sources : ReleaseSources) (command : ReleaseCommand)
    (waveItem : RebalanceWaveItem) : Except PackageError ProofPack :=
  match sources.proofPack (waveItem.proofPackId.getD "") with
  | none => .error (.refused "INSTRUCTION_PACKAGE_PROOF_PACK_NOT_FOUND")
  | some proofPack =>
    if isNoActionProofPack proofPack then
      .error (.refused "INSTRUCTION_PACKAGE_NO_ACTION_SELECTION")
    else if proofPack.status ≠ .ready then
      .error (.refused "INSTRUCTION_PACKAGE_PROOF_PACK_NOT_READY")
    else if proofPack.portfolioId ≠ waveItem.portfolioId ∨
        proofPack.rebalanceRunId ≠ some command.rebalanceRunId then
      .error (.refused "INSTRUCTION_PACKAGE_PROOF_PACK_LINEAGE_MISMATCH")
    else .ok proofPack

/-- `_load_current_mandate` -/
def loadCurrentMandate (sources : ReleaseSources) (command : ReleaseCommand)
    (portfolioId : String) : Except PackageError Mandate :=
  match sources.mandate portfolioId with
  | none => .error (.refused "INSTRUCTION_PACKAGE_MANDATE_REQUIRED")
  | some mandate =>
    if mandate.mandateId ≠ command.mandateId ∨ mandate.mandateVersion ≠ command.mandateVersion ∨
        mandate.modelPortfolioId ≠ command.modelPortfolioId ∨
        mandate.modelPortfolioVersion ≠ command.modelPortfolioVersion then
      .error (.refused "INSTRUCTION_PACKAGE_MANDATE_OR_MODEL_STALE")
    else .ok mandate

/-- The client policy of a run is ready for the portfolio. -/
def clientPolicyReady (policy : Option ClientRestrictionPolicy) (portfolioId : String) : Bool :=
  match policy with
  | none => false
  | some policy =>
    policy.decision = .ready && policy.sourceProductName = some "ClientRestrictionProfile" &&
      filled policy.contentHash && filled policy.statefulContextHash &&
      policy.portfolioId = some portfolioId && filled policy.clientId && policy.asOfDate.isSome

/-- `_load_releaseable_run` -/
def loadReleaseableRun (sources : ReleaseSources) (command : ReleaseCommand)
    (portfolioId : String) : Except PackageError RunRecord :=
  match sources.run command.rebalanceRunId with
  | none => .error (.refused "INSTRUCTION_PACKAGE_RUN_NOT_FOUND")
  | some run =>
    if run.portfolioId ≠ portfolioId then
      .error (.refused "INSTRUCTION_PACKAGE_RUN_PORTFOLIO_MISMATCH")
    else if run.status ≠ .ready then .error (.refused "INSTRUCTION_PACKAGE_RUN_NOT_READY")
    else if !clientPolicyReady run.clientRestrictionPolicy portfolioId then
      .error (.refused "INSTRUCTION_PACKAGE_CLIENT_POLICY_NOT_READY")
    else if (run.lineageModelPortfolioId ≠ none ∧
          run.lineageModelPortfolioId ≠ some command.modelPortfolioId) ∨
        (run.lineageModelPortfolioVersion ≠ none ∧
          run.lineageModelPortfolioVersion ≠ command.modelPortfolioVersion) then
      .error (.refused "INSTRUCTION_PACKAGE_RUN_MODEL_LINEAGE_MISMATCH")
    else .ok run

/-! ## Funding -/

/-- The cash of the reserve currency that a certified funding may count on. -/
def availableReserve (evidence : FundingEvidence) (balances : List CashBalance) :
    Option Decimal :=
  (balances.find? (fun balance => some balance.currency = evidence.feeReserveCurrency)).map
    (fun balance =>
      if evidence.settlementAwarenessEnabled then balance.settled.getD balance.amount
      else balance.amount)

/-- `_validate_funding` -/
def validateFunding (command : ReleaseCommand) (run : RunRecord) : Except PackageError Unit :=
  let evidence := command.fundingEvidence
  match evidence.feeReserveAmount with
  | none => .ok ()
  | some amount =>
    if evidence.disposition ≠ .certified ∨ amount = 0 then .ok ()
    else
      match availableReserve evidence run.cashBalances with
      | none => .error (.refused "INSTRUCTION_PACKAGE_FEE_RESERVE_INSUFFICIENT")
      | some available =>
        if available < amount then
          .error (.refused "INSTRUCTION_PACKAGE_FEE_RESERVE_INSUFFICIENT")
        else .ok ()

/-! ## Instructions -/

/-- The security trade of an intent. -/
def securityTradeOf : OrderIntent → Option SecurityTradeIntent
  | .securityTrade intent => some intent
  | .fxSpot _ => none

/-- `_security_intents_for_package` -/
def securityIntentsForPackage (run : RunRecord) :
    Except PackageError (List SecurityTradeIntent) :=
  let securityIntents := run.intents.filterMap securityTradeOf
  if securityIntents.length ≠ run.intents.length ∨ securityIntents = [] then
    .error (.refused "INSTRUCTION_PACKAGE_UNSUPPORTED_INTENT_TYPE")
  else if securityIntents.any (fun intent => intent.quantity.isNone || intent.notional.isNone) then
    .error (.refused "INSTRUCTION_PACKAGE_EXACT_QUANTITY_REQUIRED")
  else .ok securityIntents

/-- `_mappings_for_security_intents`: the checks on the mappings.  The ids of the mappings are
distinct, and they are the ids of the intents. -/
def checkMappings (mappings : List MappingEvidence) (securityIntents : List SecurityTradeIntent)
    (accountKey : String) : Except PackageError Unit :=
  let mappingIds := mappings.map MappingEvidence.originalIntentId
  let intentIds := securityIntents.map SecurityTradeIntent.intentId
  if ¬ mappingIds.Nodup ∨ ¬ (mappingIds ⊆ intentIds ∧ intentIds ⊆ mappingIds) then
    .error (.refused "INSTRUCTION_PACKAGE_MAPPING_COVERAGE_REQUIRED")
  else if mappings.any (fun mapping => mapping.accountKey != accountKey) then
    .error (.refused "INSTRUCTION_PACKAGE_ACCOUNT_SCOPE_MISMATCH")
  else .ok ()

/-- `derived_identity`: each component stands behind its length in UTF-8 bytes. -/
def derivedIdentity (hashing : PackageHashing) (stem : String) (components : List String) :
    String :=
  let encoded := components.map (fun component =>
    toString component.utf8ByteSize ++ ":" ++ component)
  stem ++ "_" ++ Text.take 32 (hashing.sha256Hex (Text.join "" encoded))

/-- The instruction id of an intent. -/
def instructionId (hashing : PackageHashing) (command : ReleaseCommand) (intentId : String) :
    String :=
  derivedIdentity hashing "dpi"
    [command.tenantId, command.packageId, command.packageVersion, intentId]

/-- The `DpmApprovedInstruction` of an intent and its mapping; the quantity is positive. -/
def buildInstruction (hashing : PackageHashing) (command : ReleaseCommand)
    (intent : SecurityTradeIntent) : Except PackageError ApprovedInstruction :=
  match intent.quantity, intent.notional,
      command.mappings.find? (fun mapping => mapping.originalIntentId = intent.intentId) with
  | some quantity, some notional, some mapping =>
    if quantity ≤ 0 then .error (.invalid "quantity")
    else
      .ok
        { instructionId := instructionId hashing command intent.intentId
          originalIntentId := intent.intentId
          canonicalInstrumentKey := mapping.canonicalInstrumentKey
          accountKey := command.accountKey
          side := intent.side
          quantity := quantity
          currency := notional.currency
          orderType := mapping.orderType
          timeInForce := mapping.timeInForce
          settlementDate := mapping.settlementDate
          limitPrice := mapping.limitPrice
          dependencies := intent.dependencies.map (instructionId hashing command)
          mappingRevision := mapping.mappingRevision
          mappingContentHash := mapping.mappingContentHash }
  | _, _, _ => .error (.invalid "instructions")

/-- Every dependency is an intent of the package. -/
def checkDependencies (securityIntents : List SecurityTradeIntent) : Except PackageError Unit :=
  if securityIntents.any (fun intent => intent.dependencies.any (fun dependency =>
      !(securityIntents.map SecurityTradeIntent.intentId).contains dependency)) then
    .error (.refused "INSTRUCTION_PACKAGE_UNSUPPORTED_INTENT_DEPENDENCY")
  else .ok ()

/-- `_instructions_from_result` -/
def instructionsFromResult (hashing : PackageHashing) (command : ReleaseCommand)
    (run : RunRecord) : Except PackageError (List ApprovedInstruction × String) := do
  let securityIntents ← securityIntentsForPackage run
  checkMappings command.mappings securityIntents command.accountKey
  checkDependencies securityIntents
  let instructions ← securityIntents.mapM (buildInstruction hashing command)
  return (instructions, hashing.intents securityIntents)

/-! ## Source revisions -/

/-- The types of the revisions that the service derives itself. -/
def derivedSourceTypes : List String :=
  ["DpmRunArtifact", "DpmPreTradeProofPack", "DpmMandateDigitalTwin"]

/-- The order of the revisions: by type, then by id. -/
def SourceRevision.le (a b : SourceRevision) : Prop :=
  toLex (a.sourceType, a.sourceId) ≤ toLex (b.sourceType, b.sourceId)

instance : DecidableRel SourceRevision.le := fun a b =>
  inferInstanceAs (Decidable (toLex (a.sourceType, a.sourceId) ≤ toLex (b.sourceType, b.sourceId)))

/-- The three revisions that the service derives. -/
def derivedRevisions (command : ReleaseCommand) (proofPack : ProofPack) (mandate : Mandate)
    (run : RunRecord) : List SourceRevision :=
  [{ sourceType := "DpmRunArtifact", sourceId := command.rebalanceRunId, sourceVersion := "v1"
     contentHash := run.requestHash },
   { sourceType := "DpmPreTradeProofPack", sourceId := proofPack.proofPackId
     sourceVersion := "v1", contentHash := proofPack.contentHash },
   { sourceType := "DpmMandateDigitalTwin", sourceId := command.mandateId
     sourceVersion := command.mandateVersion, contentHash := mandate.payloadHash }]

/-- `_source_revisions` -/
def sourceRevisions (command : ReleaseCommand) (proofPack : ProofPack) (mandate : Mandate)
    (run : RunRecord) : Except PackageError (List SourceRevision) :=
  let revisions := derivedRevisions command proofPack mandate run ++ command.sourceRevisions
  if (revisions.map (fun revision => (revision.sourceType, revision.sourceId))).Nodup then
    .ok (revisions.insertionSort SourceRevision.le)
  else .error (.refused "INSTRUCTION_PACKAGE_DUPLICATE_SOURCE_REVISION")

end LotusManage.Packages
