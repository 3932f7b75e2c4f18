import LotusManage.Waves.StateMachine

/-!
# Transitions of wave items

The item functions of the wave services, one section for each step of a wave:

* `src/api/services/wave_item_builder.py`: the candidate items of a new wave.
* `src/core/waves/source_readiness.py`: the source check.
* `src/api/services/wave_simulation_item.py`: the simulation of one item.
* `src/api/services/wave_selection_item.py`: the selection of an alternative.
* `src/api/services/wave_item_transitions.py`: approval, staging, hand-off and
  cancellation.

The mandate repository, the construction service and the proof-pack service are
outside a wave; what they answer is an argument here.
-/

namespace LotusManage.Waves

/-- `if comment: target[key] = comment` -/
def commentEntry (key : String) : Option String → List (String × DiagnosticValue)
  | none => []
  | some comment => if comment = "" then [] else [(key, .text comment)]

/-- An optional text as a value. -/
def DiagnosticValue.ofText? : Option String → DiagnosticValue
  | none => .null
  | some value => .text value

/-! ## Candidates -/

/-- A portfolio of a create request, with its identifiers stripped. -/
structure PortfolioInput where
  portfolioId : String
  mandateId : Option String
  sourceRefs : List WaveSourceRef
  diagnostics : List (String × DiagnosticValue)

/-- The fields of `DpmSourceProductLineage` that a wave reads. -/
structure SourceLineage where
  productName : String
  productVersion : String
  sourceSystem : String
  sourceRecordId : Option String
  dataQualityStatus : Option String

/-- The fields of `DpmMandateDigitalTwin` that a wave reads. -/
structure MandateDigitalTwin where
  mandateId : String
  portfolioId : String
  mandateVersion : String
  modelPortfolioId : String
  sourceLineage : List SourceLineage
  fieldGapCodes : List String

/-- A decimal number of at least three digits, `f"{index:03d}"`. -/
def paddedIndex (index : Nat) : String :=
  String.ofList (List.replicate (3 - (toString index).length) '0') ++ toString index

/-- `build_wave_item`, with the latest mandate of the portfolio. -/
def buildWaveItem (uuid4Hex : String) (index : Nat) (portfolio : PortfolioInput)
    (latestMandate : Option MandateDigitalTwin) : RebalanceWaveItem :=
  let mandateRefs : List WaveSourceRef :=
    match latestMandate with
    | none => []
    | some twin =>
      [{ sourceSystem := "lotus-manage"
         sourceType := "MANDATE_DIGITAL_TWIN"
         sourceId := twin.mandateId
         sourceVersion := some twin.mandateVersion
         supportabilityState := some "READY" }]
  let sourceRefs := portfolio.sourceRefs ++ mandateRefs
  let mandateId := (latestMandate.map MandateDigitalTwin.mandateId).or portfolio.mandateId
  let waveItemId := "dwi_" ++ paddedIndex index ++ "_" ++ takeText 8 uuid4Hex
  if sourceRefs.isEmpty then
    { waveItemId := waveItemId
      portfolioId := portfolio.portfolioId
      mandateId := mandateId
      state := .sourceBlocked
      reasonCodes := ["MISSING_AFFECTED_PORTFOLIO_SOURCE"]
      sourceRefs := sourceRefs
      diagnostics := Dict.ofEntries
        [("source_owner", .text "caller_or_lotus-core"),
         ("required_action", .text "SUPPLY_SOURCE_REF")] }
  else
    { waveItemId := waveItemId
      portfolioId := portfolio.portfolioId
      mandateId := mandateId
      state := .candidate
      reasonCodes := ["AFFECTED_PORTFOLIO_SOURCE_READY"]
      sourceRefs := sourceRefs
      diagnostics := Dict.ofEntries
        (("source_posture", .text "candidate_evidence_available") :: portfolio.diagnostics) }

/-! ## Source readiness -/

inductive MandateHealthState where
  | ready
  | pendingReview
  | blocked
  deriving DecidableEq

/-- The text of a health state. -/
def MandateHealthState.code : MandateHealthState → String
  | ready => "READY"
  | pendingReview => "PENDING_REVIEW"
  | blocked => "BLOCKED"

/-- The fields of `DpmMandateHealthSnapshot` that a wave reads; the date is its ISO text. -/
structure MandateHealthSnapshot where
  healthSnapshotId : String
  asOfDate : String
  healthState : MandateHealthState
  recommendedAction : String
  sourceReadinessState : String

/-- `_mandate_twin_ref` -/
def mandateTwinRef (twin : MandateDigitalTwin) : WaveSourceRef :=
  { sourceSystem := "lotus-manage"
    sourceType := "MANDATE_DIGITAL_TWIN"
    sourceId := twin.mandateId
    sourceVersion := some twin.mandateVersion
    supportabilityState := some (if twin.fieldGapCodes.isEmpty then "READY" else "DEGRADED") }

/-- `_mandate_health_ref` -/
def mandateHealthRef (health : MandateHealthSnapshot) : WaveSourceRef :=
  { sourceSystem := "lotus-manage"
    sourceType := "DPM_MANDATE_HEALTH_SNAPSHOT"
    sourceId := health.healthSnapshotId
    sourceVersion := some health.asOfDate
    supportabilityState := some health.healthState.code }

/-- `_source_readiness_ref` -/
def sourceReadinessRef (health : MandateHealthSnapshot) : WaveSourceRef :=
  { sourceSystem := "lotus-manage"
    sourceType := "DPM_SOURCE_READINESS"
    sourceId := health.healthSnapshotId
    sourceVersion := some health.asOfDate
    supportabilityState := some health.sourceReadinessState }

/-- `_core_lineage_refs`: a lineage without a record id, or with an empty one, is skipped. -/
def coreLineageRefs (twin : MandateDigitalTwin) : List WaveSourceRef :=
  twin.sourceLineage.filterMap (fun lineage =>
    match lineage.sourceRecordId with
    | none => none
    | some recordId =>
      if recordId = "" then none
      else
        some
          { sourceSystem := lineage.sourceSystem
            sourceType := lineage.productName
            sourceId := recordId
            sourceVersion := some lineage.productVersion
            supportabilityState := lineage.dataQualityStatus })

/-- `_state_from_health`: the state, the reason codes and the diagnostics of an item. -/
def stateFromHealth (health : MandateHealthSnapshot) (waveAsOfDate : String) :
    WaveItemState × List String × List (String × DiagnosticValue) :=
  if health.asOfDate < waveAsOfDate then
    (.sourceDegraded, ["MANDATE_HEALTH_STALE"],
      [("source_owner", .text "lotus-manage"),
       ("required_action", .text "REFRESH_MANDATE_HEALTH"),
       ("health_as_of_date", .text health.asOfDate),
       ("wave_as_of_date", .text waveAsOfDate)])
  else if health.healthState = .blocked ∨ health.sourceReadinessState = "INCOMPLETE" ∨
      health.sourceReadinessState = "UNAVAILABLE" then
    (.sourceBlocked,
      ["MANDATE_HEALTH_BLOCKED", "SOURCE_READINESS_" ++ health.sourceReadinessState],
      [("source_owner", .text "lotus-manage"),
       ("source_owner_upstream", .text "lotus-core"),
       ("required_action", .text "FIX_SOURCE_DATA"),
       ("health_state", .text health.healthState.code),
       ("source_readiness_state", .text health.sourceReadinessState)])
  else if health.sourceReadinessState = "DEGRADED" then
    (.sourceDegraded, ["SOURCE_READINESS_DEGRADED"],
      [("source_owner", .text "lotus-manage"),
       ("source_owner_upstream", .text "lotus-core"),
       ("required_action", .text "REVIEW_SOURCE_DEGRADATION"),
       ("health_state", .text health.healthState.code),
       ("source_readiness_state", .text health.sourceReadinessState)])
  else if health.healthState = .pendingReview then
    (.reviewRequired, ["MANDATE_HEALTH_PENDING_REVIEW"],
      [("source_owner", .text "lotus-manage"),
       ("required_action", .text health.recommendedAction),
       ("health_state", .text health.healthState.code),
       ("source_readiness_state", .text health.sourceReadinessState)])
  else
    (.sourceReady, ["SOURCE_READINESS_READY"],
      [("source_owner", .text "lotus-manage"),
       ("health_state", .text health.healthState.code),
       ("source_readiness_state", .text health.sourceReadinessState)])

/-- `classify_wave_item_source_readiness` -/
def classifyWaveItemSourceReadiness (item : RebalanceWaveItem) (waveAsOfDate : String)
    (mandateTwin : Option MandateDigitalTwin) (mandateHealth : Option MandateHealthSnapshot) :
    RebalanceWaveItem :=
  match mandateTwin with
  | none =>
    { item with
      state := .sourceBlocked
      reasonCodes := ["MANDATE_DIGITAL_TWIN_MISSING"]
      sourceRefs := dedupeSourceRefs item.sourceRefs
      diagnostics := item.diagnostics.merge
        [("source_owner", .text "lotus-manage"),
         ("source_owner_upstream", .text "lotus-core"),
         ("required_action", .text "REFRESH_MANDATE_DIGITAL_TWIN"),
         ("missing_source_family", .text "MANDATE_DIGITAL_TWIN")] }
  | some twin =>
    let refs := item.sourceRefs ++ mandateTwinRef twin :: coreLineageRefs twin
    match mandateHealth with
    | none =>
      { item with
        mandateId := some twin.mandateId
        modelPortfolioId := some twin.modelPortfolioId
        state := .sourceDegraded
        reasonCodes := ["MANDATE_HEALTH_MISSING"]
        sourceRefs := dedupeSourceRefs refs
        diagnostics := item.diagnostics.merge
          [("source_owner", .text "lotus-manage"),
           ("required_action", .text "RUN_MANDATE_HEALTH_REFRESH"),
           ("missing_source_family", .text "MANDATE_HEALTH")] }
    | some health =>
      let classified := stateFromHealth health waveAsOfDate
      { item with
        mandateId := some twin.mandateId
        modelPortfolioId := some twin.modelPortfolioId
        state := classified.1
        reasonCodes := classified.2.1
        sourceRefs :=
          dedupeSourceRefs (refs ++ [mandateHealthRef health, sourceReadinessRef health])
        diagnostics := item.diagnostics.merge classified.2.2 }

/-- What the mandate repository answers for an item: its mandate and the mandate's health. -/
structure MandateLookup where
  latestMandate : String → Option MandateDigitalTwin
  latestMandateByPortfolio : String → Option MandateDigitalTwin
  latestHealthSnapshot : String → Option MandateHealthSnapshot

/-- `resolve_mandate_twin` -/
def resolveMandateTwin (mandates : MandateLookup) (item : RebalanceWaveItem) :
    Option MandateDigitalTwin :=
  let named : Option MandateDigitalTwin :=
    match item.mandateId with
    | none => none
    | some mandateId =>
      if mandateId = "" then none
      else (mandates.latestMandate mandateId).filter
        (fun twin : MandateDigitalTwin => twin.portfolioId = item.portfolioId)
  named.or (mandates.latestMandateByPortfolio item.portfolioId)

/-- `classify_item_source_readiness` -/
def classifyItemSourceReadiness (mandates : MandateLookup) (waveAsOfDate : String)
    (item : RebalanceWaveItem) : RebalanceWaveItem :=
  let twin := resolveMandateTwin mandates item
  let health := twin.bind (fun twin => mandates.latestHealthSnapshot twin.mandateId)
  classifyWaveItemSourceReadiness item waveAsOfDate twin health

/-! ## Simulation -/

/-- What a wave keeps of a `ConstructionAlternativeSet`. -/
structure AlternativeSet where
  alternativeSetId : String
  portfolioId : String
  status : String
  alternativeCount : Nat
  proposedChanges : String
  sourceAnalytics : Dict String ItemSourceAnalytics

/-- What `generate_construction_alternative_set` does: it returns a set, or raises one of
`_CONSTRUCTION_SIMULATION_BLOCKING_ERRORS`, or raises another error. -/
inductive ConstructionOutcome where
  | generated (alternativeSet : AlternativeSet)
  | blocked (errorName : String)
  | raised (errorName : String)

/-- The simulation inputs of a request, by item id or portfolio id; an input is read for the
portfolio of its snapshot only. -/
structure SimulationInputs where
  portfolioIdOfInput : Dict String String
  generate : RebalanceWaveItem → ConstructionOutcome

/-- An item that the simulation blocks. -/
def simulationBlockedItem (item : RebalanceWaveItem) (reasonCode : String)
    (entries : List (String × DiagnosticValue)) : RebalanceWaveItem :=
  { item with
    state := .simulationBlocked
    reasonCodes := [reasonCode]
    diagnostics := item.diagnostics.merge entries }

/-- `_missing_construction_input_item` -/
def missingConstructionInputItem (item : RebalanceWaveItem) : RebalanceWaveItem :=
  simulationBlockedItem item "CONSTRUCTION_INPUT_MISSING"
    [("source_owner", .text "wave-simulation-request"),
     ("required_action", .text "SUPPLY_RFC0039_REBALANCE_REQUEST")]

/-- `_construction_generation_failed_item` -/
def constructionGenerationFailedItem (item : RebalanceWaveItem) (errorName : String) :
    RebalanceWaveItem :=
  simulationBlockedItem item "CONSTRUCTION_ALTERNATIVE_GENERATION_FAILED"
    [("source_owner", .text "lotus-manage-construction"),
     ("required_action", .text "REVIEW_CONSTRUCTION_INPUTS"),
     ("construction_error", .text errorName)]

/-- `_PORTFOLIO_IDENTITY_CONFLICT` -/
def portfolioIdentityConflict : String := "DPM_WAVE_SIMULATION_INPUT_IDENTITY_CONFLICT"

/-- `_portfolio_identity_conflict_item` -/
def portfolioIdentityConflictItem (item : RebalanceWaveItem) : RebalanceWaveItem :=
  simulationBlockedItem item portfolioIdentityConflict
    [("source_owner", .text "wave-simulation-request"),
     ("required_action", .text "SUPPLY_INPUT_FOR_ADMITTED_PORTFOLIO")]

/-- `_simulated_item` -/
def simulatedItem (item : RebalanceWaveItem) (alternativeSet : AlternativeSet) :
    RebalanceWaveItem :=
  { item with
    state := .simulated
    alternativeSetId := some alternativeSet.alternativeSetId
    reasonCodes := ["CONSTRUCTION_ALTERNATIVES_GENERATED"]
    diagnostics := item.diagnostics.merge
      [("construction_state", .text alternativeSet.status),
       ("alternative_count", .number alternativeSet.alternativeCount),
       ("proposed_changes", .json alternativeSet.proposedChanges),
       ("source_analytics", .sourceAnalytics alternativeSet.sourceAnalytics)] }

/-- `simulate_item` -/
def simulateItem (inputs : SimulationInputs) (item : RebalanceWaveItem) :
    Except WaveError RebalanceWaveItem :=
  if item.state ≠ .sourceReady then .ok item
  else
    match (inputs.portfolioIdOfInput.get? item.waveItemId).or
        (inputs.portfolioIdOfInput.get? item.portfolioId) with
    | none => .ok (missingConstructionInputItem item)
    | some portfolioId =>
      if portfolioId ≠ item.portfolioId then .ok (portfolioIdentityConflictItem item)
      else
        match inputs.generate item with
        | .raised errorName => .error (.raised errorName)
        | .blocked errorName => .ok (constructionGenerationFailedItem item errorName)
        | .generated alternativeSet =>
          if alternativeSet.portfolioId ≠ item.portfolioId then
            .ok (portfolioIdentityConflictItem item)
          else .ok (simulatedItem item alternativeSet)

/-! ## Selection -/

/-- Who gives a workflow command, and why. -/
structure CommandContext where
  actorId : String
  reasonCode : String
  comment : Option String
  correlationId : String
  stamp : EventStamp

/-- What the proof-pack service does for a selection: it is not asked, it raises one of
`_PROOF_PACK_GENERATION_DEGRADATION_ERRORS`, or it returns a pack. -/
inductive ProofPackOutcome where
  | notRequested
  | failed (errorName : String)
  | generated (proofPackId status : String)

/-- The selection of one alternative of an item's set. -/
structure Selection where
  alternativeId : String
  proposedChanges : String
  proofPack : ProofPackOutcome

/-- `with_selection_and_proof_pack`, for an alternative set that is found. -/
def withSelectionAndProofPack (context : CommandContext) (selection : Selection)
    (item : RebalanceWaveItem) : RebalanceWaveItem :=
  let item := { item with proofPackId := none }
  let diagnostics := item.diagnostics.merge
    ([("proposed_changes", .json selection.proposedChanges),
      ("selection_actor_id", .text context.actorId),
      ("selection_reason_code", .text context.reasonCode)] ++
      commentEntry "selection_comment" context.comment)
  match selection.proofPack with
  | .notRequested =>
    { item with
      state := .selected
      selectedAlternativeId := some selection.alternativeId
      reasonCodes := ["CONSTRUCTION_ALTERNATIVE_SELECTED"]
      diagnostics := diagnostics.merge
        [("proof_pack_state", .text "DEGRADED"),
         ("proof_pack_reason_code", .text "PROOF_PACK_GENERATION_NOT_REQUESTED")] }
  | .failed errorName =>
    { item with
      state := .selected
      selectedAlternativeId := some selection.alternativeId
      reasonCodes := ["CONSTRUCTION_ALTERNATIVE_SELECTED"]
      diagnostics := diagnostics.merge
        [("proof_pack_state", .text "DEGRADED"),
         ("proof_pack_reason_code", .text "PROOF_PACK_GENERATION_FAILED"),
         ("proof_pack_error", .text errorName)] }
  | .generated proofPackId status =>
    { item with
      state := if status = "BLOCKED" then .selected else .proofPackReady
      selectedAlternativeId := some selection.alternativeId
      proofPackId := some proofPackId
      reasonCodes :=
        ["CONSTRUCTION_ALTERNATIVE_SELECTED",
          if status = "BLOCKED" then "PROOF_PACK_BLOCKED" else "PROOF_PACK_READY"]
      diagnostics := diagnostics.merge [("proof_pack_state", .text status)] }

/-! ## Approval, staging, hand-off and cancellation -/

/-- `_proof_pack_blocked` -/
def proofPackBlocked (item : RebalanceWaveItem) : Bool :=
  decide (item.diagnostics.get? "proof_pack_state" = some (.text "BLOCKED"))

/-- The item that a workflow command moves on: the new state, a reason code and the
actor's entries under the command's keys. -/
def movedItem (toState : WaveItemState) (reasonCode command : String)
    (boundary : List (String × DiagnosticValue)) (context : CommandContext)
    (item : RebalanceWaveItem) : RebalanceWaveItem :=
  { item with
    state := toState
    reasonCodes := item.reasonCodes ++ [reasonCode]
    diagnostics := item.diagnostics.merge
      ([(command ++ "_actor_id", .text context.actorId),
        (command ++ "_reason_code", .text context.reasonCode)] ++ boundary ++
        commentEntry (command ++ "_comment") context.comment) }

theorem proofPackBlocked_movedItem {command : String}
    {boundary : List (String × DiagnosticValue)}
    (hactor : command ++ "_actor_id" ≠ "proof_pack_state")
    (hreason : command ++ "_reason_code" ≠ "proof_pack_state")
    (hcomment : command ++ "_comment" ≠ "proof_pack_state")
    (hboundary : ∀ e ∈ boundary, e.1 ≠ "proof_pack_state") (toState : WaveItemState)
    (reasonCode : String) (context : CommandContext) (item : RebalanceWaveItem) :
    proofPackBlocked (movedItem toState reasonCode command boundary context item) =
      proofPackBlocked item := by
  unfold proofPackBlocked movedItem
  rw [Dict.get?_merge_of_forall_ne]
  intro e he
  rw [List.mem_append, List.mem_append, List.mem_cons, List.mem_singleton] at he
  rcases he with ((rfl | rfl) | he) | he
  · exact hactor
  · exact hreason
  · exact hboundary e he
  · unfold commentEntry at he
    split at he
    · cases he
    · split at he
      · cases he
      · rw [List.mem_singleton] at he
        rw [he]
        exact hcomment

/-- The entry by which a command states that nothing was executed. -/
def noExternalExecution : List (String × DiagnosticValue) :=
  [("external_execution_claimed", .flag false)]

/-- `approve_item` -/
def approveItem (context : CommandContext) (item : RebalanceWaveItem) : RebalanceWaveItem :=
  if (item.state ≠ .selected ∧ item.state ≠ .proofPackReady) ∨ proofPackBlocked item then item
  else movedItem .approved "WAVE_ITEM_APPROVED" "approval" [] context item

/-- `stage_item` -/
def stageItem (context : CommandContext) (item : RebalanceWaveItem) : RebalanceWaveItem :=
  if item.state ≠ .approved ∨ proofPackBlocked item then item
  else movedItem .staged "WAVE_ITEM_STAGED" "stage" noExternalExecution context item

/-- `handoff_item` -/
def handoffItem (context : CommandContext) (item : RebalanceWaveItem) : RebalanceWaveItem :=
  if item.state ≠ .staged ∨ proofPackBlocked item then item
  else movedItem .handoffReady "WAVE_ITEM_HANDOFF_READY" "handoff" noExternalExecution context item

/-- `cancel_item` -/
def cancelItem (context : CommandContext) (item : RebalanceWaveItem) : RebalanceWaveItem :=
  if item.state = .handoffReady then item
  else movedItem .excluded "WAVE_ITEM_CANCELLED" "cancel" noExternalExecution context item

end LotusManage.Waves
