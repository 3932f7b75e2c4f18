import LotusManage.Waves.ItemTransitions
import LotusManage.Waves.SimulationStore

/-!
# Wave commands

The commands of `src/api/services/wave_service.py` on a wave, from files of that directory:

* `wave_preview.py`, `wave_creation.py` and `wave_create_command.py`: a new wave.
* `wave_source_check.py`, `wave_simulation.py`, `wave_item_selection_transition.py`,
  `wave_approval_transition.py`, `wave_stage_transition.py`, `wave_handoff_transition.py` and
  `wave_cancel_transition.py`: the wave that a command builds from the wave it read.
* `wave_transition_execution.py`, `wave_preparation_commands.py`, `wave_selection_command.py` and
  `wave_lifecycle_commands.py`: the guard before a command and the versioned update after it.

A command reads the wave once, builds the next wave without the repository and writes it with the
version it read.  `WaveCommand.execute` is what follows the read.  Random identifiers, times, hashes of
payloads and the answers of the other services are arguments.
-/

namespace LotusManage.Waves

/-! ## Metadata -/

/-- `_with_optional_comment` -/
def withOptionalComment (entries : List (String × DiagnosticValue)) (comment : Option String) :
    Dict String DiagnosticValue :=
  Dict.ofEntries (entries ++ commentEntry "comment" comment)

/-- `approval_event_metadata` -/
def approvalEventMetadata (approvedItemCount totalItemCount : Nat) (context : CommandContext) :
    Dict String DiagnosticValue :=
  withOptionalComment
    [("approved_item_count", .number approvedItemCount),
     ("exception_item_count", .number ((totalItemCount : Int) - approvedItemCount)),
     ("approval_reason_code", .text context.reasonCode)] context.comment

/-- `selection_event_metadata` -/
def selectionEventMetadata (waveItemId : String) (alternativeSetId : Option String)
    (selectedAlternativeId : String) (proofPackId : Option String)
    (proofPackState : Option DiagnosticValue) : Dict String DiagnosticValue :=
  Dict.ofEntries
    [("wave_item_id", .text waveItemId),
     ("alternative_set_id", .ofText? alternativeSetId),
     ("selected_alternative_id", .text selectedAlternativeId),
     ("proof_pack_id", .ofText? proofPackId),
     ("proof_pack_state", proofPackState.getD .null)]

/-- `stage_event_metadata` -/
def stageEventMetadata (stagedItemCount : Nat) (context : CommandContext) :
    Dict String DiagnosticValue :=
  withOptionalComment
    [("staged_item_count", .number stagedItemCount),
     ("stage_reason_code", .text context.reasonCode)] context.comment

/-- `handoff_event_metadata` -/
def handoffEventMetadata (handoffRef : WaveHandoffRef) (handoffItemCount : Nat)
    (context : CommandContext) : Dict String DiagnosticValue :=
  withOptionalComment
    [("handoff_ref_id", .text handoffRef.handoffRefId),
     ("handoff_item_count", .number handoffItemCount),
     ("external_execution_claimed", .flag false),
     ("handoff_reason_code", .text context.reasonCode)] context.comment

/-- `cancel_event_metadata` -/
def cancelEventMetadata (cancelledItemCount : Nat) (context : CommandContext) :
    Dict String DiagnosticValue :=
  withOptionalComment
    [("cancel_reason_code", .text context.reasonCode),
     ("cancelled_item_count", .number cancelledItemCount),
     ("external_execution_claimed", .flag false)] context.comment

/-! ## A new wave -/

/-- A create request, with the values drawn while it is served. -/
structure CreateRequest where
  triggerType : String
  triggerId : String
  rationale : String
  asOfDate : String
  actorId : String
  correlationId : String
  portfolios : List PortfolioInput
  idempotencyKey : String
  tenantId : String
  requestHash : String
  mandates : MandateLookup
  previewUuid4Hex : String
  waveUuid4Hex : String
  itemUuid4Hex : Nat → String
  previewStamp : EventStamp
  createStamp : EventStamp

/-- `SUPPORTED_CREATE_TRIGGER_TYPES` -/
def supportedTriggerType : String → Option WaveTriggerType
  | "EXPLICIT_PORTFOLIO_LIST" => some .explicitPortfolioList
  | "PM_BOOK_REVIEW" => some .pmBookReview
  | "CIO_MODEL_CHANGE" => some .cioModelChange
  | "TACTICAL_HOUSE_VIEW" => some .tacticalHouseView
  | "RISK_EVENT" => some .riskEvent
  | "BULK_REVIEW_CAMPAIGN" => some .bulkReviewCampaign
  | _ => none

/-- `validate_trigger_or_raise` -/
def validateTriggerOrRaise (triggerType : String) (portfolios : List PortfolioInput) :
    Except WaveError WaveTriggerType :=
  match supportedTriggerType triggerType with
  | none =>
    .error (.validation "NOT_SUPPORTED_TRIGGER"
      ("Trigger type " ++ triggerType ++ " is not supported for RFC-0041 Slice 4."))
  | some trigger =>
    if portfolios.isEmpty then
      .error (.validation "AFFECTED_PORTFOLIO_SET_EMPTY"
        ("Trigger type " ++ triggerType ++ " requires at least one source-backed portfolio."))
    else .ok trigger

/-- The items of a new wave; the first has index 1. -/
def CreateRequest.items (request : CreateRequest) : List RebalanceWaveItem :=
  (request.portfolios.zipIdx 1).map (fun e =>
    buildWaveItem (request.itemUuid4Hex e.2) e.2 e.1
      (request.mandates.latestMandateByPortfolio e.1.portfolioId))

/-- `build_preview_wave` -/
def buildPreviewWave (request : CreateRequest) : Except WaveError RebalanceWave :=
  match validateTriggerOrRaise request.triggerType request.portfolios with
  | .error e => .error e
  | .ok trigger =>
    let waveId := "dwv_preview_" ++ takeText 12 request.previewUuid4Hex
    let wave : RebalanceWave :=
      { waveId := waveId
        state := .draft
        trigger :=
          { triggerType := trigger
            triggerId := request.triggerId
            rationale := request.rationale
            sourceRefs := request.portfolios.flatMap PortfolioInput.sourceRefs }
        asOfDate := request.asOfDate
        createdBy := request.actorId
        correlationId := request.correlationId
        tenantId := some request.tenantId
        items := request.items
        aggregateMetrics := aggregateWaveItems request.items }
    applyWaveTransition wave .previewed
      (buildWaveEvent request.previewStamp waveId .draft .previewed request.actorId
        request.correlationId "WAVE_PREVIEWED"
        (Dict.ofEntries [("item_count", .number request.items.length)]) "STATE_TRANSITION")

/-- `promote_preview_to_created_wave` -/
def promotePreviewToCreatedWave (sha256Hex : String → String) (preview : RebalanceWave)
    (waveId actorId correlationId idempotencyKey : String) (stamp : EventStamp) :
    Except WaveError RebalanceWave :=
  let wave :=
    { preview with
      waveId := waveId
      events := preview.events.map (fun event => { event with waveId := waveId }) }
  applyWaveTransition wave .created
    (buildWaveEvent stamp waveId .previewed .created actorId correlationId "WAVE_CREATED"
      (Dict.ofEntries [("idempotency_key_hash", .text (sha256Hex idempotencyKey))])
      "STATE_TRANSITION")

/-- `get_wave_idempotency_record` -/
def getWaveIdempotencyRecord (sha256Hex : String → String) (repo : WaveRepository)
    (idempotencyKey tenantId : String) : Option (RebalanceWave × Option String) :=
  match repo.idempotencyIndex.get? (waveIdempotencyMappingKey sha256Hex
      tenantId idempotencyKey) with
  | none => none
  | some (waveId, requestHash) =>
    (getWave repo waveId tenantId).map (fun wave => (wave, requestHash))

/-- `create_persisted_wave`: the repository, the wave and whether it is a replay.  The save
repeats the key check under the lock, so a create that slips in between the lookup and the
save ends as it would have before the lookup. -/
def createPersistedWave (sha256Hex : String → String) (repo : WaveRepository)
    (request : CreateRequest) : Except WaveError (WaveRepository × RebalanceWave × Bool) :=
  match getWaveIdempotencyRecord sha256Hex repo request.idempotencyKey request.tenantId with
  | some (wave, requestHash) =>
    if requestHash ≠ some request.requestHash then
      .error (.validation "WAVE_CREATE_CONFLICT" "DPM_WAVE_IDEMPOTENCY_CONFLICT")
    else .ok (repo, wave, true)
  | none =>
    match buildPreviewWave request with
    | .error e => .error e
    | .ok preview =>
      match promotePreviewToCreatedWave sha256Hex preview
          ("dwv_" ++ takeText 12 request.waveUuid4Hex) request.actorId request.correlationId
          request.idempotencyKey request.createStamp with
      | .error e => .error e
      | .ok wave =>
        match saveWave sha256Hex repo wave (some request.idempotencyKey)
            (some request.requestHash) request.tenantId with
        | .error e => .error (.validation "WAVE_CREATE_CONFLICT" e.code)
        | .ok repo' => .ok (repo', wave, false)

/-! ## The wave that a command builds -/

/-- `build_source_checked_wave` -/
def buildSourceCheckedWave (wave : RebalanceWave) (actorId correlationId : String)
    (mandates : MandateLookup) (stamp : EventStamp) : Except WaveError RebalanceWave :=
  let classifiedItems := wave.items.map (classifyItemSourceReadiness mandates wave.asOfDate)
  let candidate := waveWithItemsAndAggregate wave classifiedItems
  let metrics := candidate.aggregateMetrics
  applyWaveTransition candidate .sourceChecked
    (buildWaveEvent stamp wave.waveId .created .sourceChecked actorId correlationId
      "WAVE_SOURCE_CHECKED"
      (Dict.ofEntries
        [("state_counts", .counts metrics.stateCounts),
         ("ready_item_count", .number metrics.readyItemCount),
         ("blocked_item_count", .number metrics.blockedItemCount),
         ("review_required_item_count", .number metrics.reviewRequiredItemCount),
         ("source_degraded_item_count", .number metrics.sourceDegradedItemCount)])
      "STATE_TRANSITION")

/-- `require_construction_tenant_id` -/
def requireConstructionTenantId : Option String → Except WaveError String
  | none => .error (.raised "ValueError")
  | some tenantId =>
    if tenantId.toList.all Char.isWhitespace then .error (.raised "ValueError") else .ok tenantId

/-- The items of `build_simulated_wave`; the first error that is not a blocking one escapes. -/
def simulateItems (inputs : SimulationInputs) : List RebalanceWaveItem →
    Except WaveError (List RebalanceWaveItem)
  | [] => .ok []
  | item :: items =>
    match simulateItem inputs item with
    | .error e => .error e
    | .ok item' =>
      match simulateItems inputs items with
      | .error e => .error e
      | .ok items' => .ok (item' :: items')

/-- `build_simulated_wave` -/
def buildSimulatedWave (wave : RebalanceWave) (actorId correlationId : String)
    (inputs : SimulationInputs) (startStamp endStamp : EventStamp) :
    Except WaveError RebalanceWave :=
  match applyWaveTransition wave .simulating
      (buildWaveEvent startStamp wave.waveId .sourceChecked .simulating actorId correlationId
        "WAVE_SIMULATION_STARTED"
        (Dict.ofEntries [("ready_item_count", .number wave.aggregateMetrics.readyItemCount)])
        "STATE_TRANSITION") with
  | .error e => .error e
  | .ok simulating =>
    match requireConstructionTenantId simulating.tenantId with
    | .error e => .error e
    | .ok _ =>
      match simulateItems inputs simulating.items with
      | .error e => .error e
      | .ok simulatedItems =>
        let candidate := waveWithItemsAndAggregate simulating simulatedItems
        let toState := simulationResultState simulatedItems
        let metrics := candidate.aggregateMetrics
        applyWaveTransition candidate toState
          (buildWaveEvent endStamp wave.waveId .simulating toState actorId correlationId
            "WAVE_SIMULATION_COMPLETED"
            (Dict.ofEntries
              [("state_counts", .counts metrics.stateCounts),
               ("ready_item_count", .number metrics.readyItemCount),
               ("blocked_item_count", .number metrics.blockedItemCount)])
            "STATE_TRANSITION")

/-- `selectable_wave_item` -/
def selectableWaveItem (wave : RebalanceWave) (waveItemId : String) :
    Except WaveError RebalanceWaveItem :=
  match wave.items.find? (fun item => item.waveItemId = waveItemId) with
  | none =>
    .error (.lookup "DPM_WAVE_ITEM_NOT_FOUND" ("Wave item " ++ waveItemId ++ " not found."))
  | some item =>
    if item.alternativeSetId.isNone then
      .error (.validation "DPM_WAVE_ITEM_ALTERNATIVES_MISSING"
        ("Wave item " ++ waveItemId ++ " has no generated alternatives."))
    else .ok item

/-- `build_wave_with_selected_item_alternative` -/
def buildWaveWithSelectedItemAlternative (wave : RebalanceWave)
    (selectedItem : RebalanceWaveItem) (context : CommandContext) (selection : Selection) :
    Except WaveError RebalanceWave :=
  let updatedItem := withSelectionAndProofPack context selection selectedItem
  let updatedItems := wave.items.map
    (fun item => if item.waveItemId = selectedItem.waveItemId then updatedItem else item)
  appendSameStateEvent (waveWithItemsAndAggregate wave updatedItems)
    (buildWaveEvent context.stamp wave.waveId wave.state wave.state context.actorId
      context.correlationId "WAVE_ITEM_ALTERNATIVE_SELECTED"
      (selectionEventMetadata selectedItem.waveItemId selectedItem.alternativeSetId
        selection.alternativeId updatedItem.proofPackId
        (updatedItem.diagnostics.get? "proof_pack_state"))
      "ITEM_SELECTION")

/-- The items in a state whose proof pack is not blocked. -/
def reached (state : WaveItemState) (items : List RebalanceWaveItem) : List RebalanceWaveItem :=
  items.filter (fun item => decide (item.state = state) && !proofPackBlocked item)

/-- The target state of `build_approved_wave`. -/
def approvalTarget (approvedCount totalCount : Nat) : WaveState :=
  if approvedCount = totalCount then .approved else .approvedWithExceptions

/-- `build_approved_wave` -/
def buildApprovedWave (wave : RebalanceWave) (context : CommandContext) :
    Except WaveError RebalanceWave :=
  let approvedItems := wave.items.map (approveItem context)
  let approvedCount := (reached .approved approvedItems).length
  if approvedCount = 0 then
    .error (.validation "DPM_WAVE_APPROVAL_NO_ELIGIBLE_ITEMS"
      ("Wave " ++ wave.waveId ++ " has no selected or proof-pack-ready items to approve."))
  else
    let toState := approvalTarget approvedCount approvedItems.length
    applyWaveTransition (waveWithItemsAndAggregate wave approvedItems) toState
      (buildWaveEvent context.stamp wave.waveId wave.state toState context.actorId
        context.correlationId "WAVE_APPROVED"
        (approvalEventMetadata approvedCount approvedItems.length context) "STATE_TRANSITION")

/-- `build_staged_wave` -/
def buildStagedWave (wave : RebalanceWave) (context : CommandContext) :
    Except WaveError RebalanceWave :=
  let stagedItems := wave.items.map (stageItem context)
  let stagedCount := (reached .staged stagedItems).length
  if stagedCount = 0 then
    .error (.validation "DPM_WAVE_STAGE_NO_ELIGIBLE_ITEMS"
      ("Wave " ++ wave.waveId ++ " has no approved items to stage."))
  else
    applyWaveTransition (waveWithItemsAndAggregate wave stagedItems) .staged
      (buildWaveEvent context.stamp wave.waveId wave.state .staged context.actorId
        context.correlationId "WAVE_STAGED" (stageEventMetadata stagedCount context)
        "STATE_TRANSITION")

/-- What a hand-off draws: a `uuid4` value and the hash over the other fields of the ref. -/
structure HandoffStamp where
  uuid4Hex : String
  contentHash : WaveHandoffRef → String

/-- `build_handoff_ref` -/
def buildHandoffRef (stamp : HandoffStamp) (waveId : String) (itemIds : List String)
    (context : CommandContext) : WaveHandoffRef :=
  let ref : WaveHandoffRef :=
    { handoffRefId := "dwh_" ++ takeText 12 stamp.uuid4Hex
      waveId := waveId
      itemIds := itemIds
      actorId := context.actorId
      reasonCode := context.reasonCode
      correlationId := context.correlationId
      contentHash := ""
      metadata := withOptionalComment
        [("handoff_contract", .text "RFC-0041_INTERNAL_OPERATIONS_HANDOFF_V1"),
         ("handoff_boundary", .text "NO_EXTERNAL_EXECUTION"),
         ("item_count", .number itemIds.length)] context.comment }
  { ref with contentHash := stamp.contentHash ref }

/-- `build_handoff_ready_wave` -/
def buildHandoffReadyWave (wave : RebalanceWave) (context : CommandContext)
    (handoffStamp : HandoffStamp) : Except WaveError RebalanceWave :=
  let handoffItems := wave.items.map (handoffItem context)
  let handoffItemIds := (reached .handoffReady handoffItems).map RebalanceWaveItem.waveItemId
  if handoffItemIds.isEmpty then
    .error (.validation "DPM_WAVE_HANDOFF_NO_ELIGIBLE_ITEMS"
      ("Wave " ++ wave.waveId ++ " has no staged items for operations handoff."))
  else
    let handoffRef := buildHandoffRef handoffStamp wave.waveId handoffItemIds context
    applyWaveTransition
      { waveWithItemsAndAggregate wave handoffItems with
        handoffRefs := wave.handoffRefs ++ [handoffRef] } .handoffReady
      (buildWaveEvent context.stamp wave.waveId .staged .handoffReady context.actorId
        context.correlationId "WAVE_HANDOFF_READY"
        (handoffEventMetadata handoffRef handoffItemIds.length context) "STATE_TRANSITION")

/-- `build_cancelled_wave`: an invalid transition becomes a validation error. -/
def buildCancelledWave (wave : RebalanceWave) (context : CommandContext) :
    Except WaveError RebalanceWave :=
  let cancelledItems := wave.items.map (cancelItem context)
  match applyWaveTransition (waveWithItemsAndAggregate wave cancelledItems) .cancelled
      (buildWaveEvent context.stamp wave.waveId wave.state .cancelled context.actorId
        context.correlationId "WAVE_CANCELLED"
        (cancelEventMetadata cancelledItems.length context) "STATE_TRANSITION") with
  | .ok wave' => .ok wave'
  | .error (.invalidTransition _) =>
    .error (.validation "DPM_WAVE_CANCEL_INVALID_STATE"
      ("Wave " ++ wave.waveId ++ " cannot be cancelled from state " ++ wave.state.code ++ "."))
  | .error e => .error e

/-! ## Commands -/

/-- A command on a persisted wave, with its arguments. -/
inductive WaveCommand where
  | sourceCheck (actorId correlationId : String) (mandates : MandateLookup) (stamp : EventStamp)
  | simulate (actorId correlationId : String) (inputs : SimulationInputs)
      (startStamp endStamp : EventStamp)
  | select (context : CommandContext) (waveItemId : String)
      (selected : Except WaveError Selection)
  | approve (context : CommandContext)
  | stage (context : CommandContext)
  | handoff (context : CommandContext) (handoffStamp : HandoffStamp)
  | cancel (context : CommandContext)

/-- The arguments of `prepare_wave_transition`. -/
structure TransitionGuard where
  replayStates : List WaveState
  allowedStates : Option (List WaveState)
  errorCode : String
  actionPhrase : String

/-- The guard of each command. -/
def WaveCommand.transitionGuard : WaveCommand → TransitionGuard
  | sourceCheck .. =>
    ⟨[.sourceChecked], some [.created], "DPM_WAVE_SOURCE_CHECK_INVALID_STATE",
      "be source-checked"⟩
  | simulate .. =>
    ⟨[.simulated, .partiallySimulated, .simulationFailed], some [.sourceChecked],
      "DPM_WAVE_SIMULATION_INVALID_STATE", "be simulated"⟩
  | select .. =>
    ⟨[], some [.simulated, .partiallySimulated], "DPM_WAVE_SELECTION_INVALID_STATE",
      "record alternative selection"⟩
  | approve _ =>
    ⟨[.approved, .approvedWithExceptions],
      some [.simulated, .partiallySimulated, .reviewRequired],
      "DPM_WAVE_APPROVAL_INVALID_STATE", "be approved"⟩
  | stage _ =>
    ⟨[.staged, .handoffReady], some [.approved, .approvedWithExceptions],
      "DPM_WAVE_STAGE_INVALID_STATE", "be staged"⟩
  | handoff .. =>
    ⟨[.handoffReady], some [.staged], "DPM_WAVE_HANDOFF_INVALID_STATE",
      "create handoff evidence"⟩
  | cancel _ => ⟨[.cancelled], none, "DPM_WAVE_CANCEL_INVALID_STATE", "be cancelled"⟩

/-- `prepare_wave_transition` on the wave that was read: whether the command is a replay. -/
def TransitionGuard.check (transitionGuard : TransitionGuard) (wave : RebalanceWave) :
    Except WaveError Bool :=
  if wave.state ∈ transitionGuard.replayStates then .ok true
  else
    match transitionGuard.allowedStates with
    | none => .ok false
    | some allowed =>
      if wave.state ∈ allowed then .ok false
      else
        .error (.validation transitionGuard.errorCode
          ("Wave " ++ wave.waveId ++ " cannot " ++ transitionGuard.actionPhrase ++
            " from state " ++ wave.state.code ++ "."))

/-- The wave that a command builds.  A selection first asks the construction service, whose
answer, or error, is an argument of the command. -/
def WaveCommand.build (wave : RebalanceWave) : WaveCommand → Except WaveError RebalanceWave
  | sourceCheck actorId correlationId mandates stamp =>
    buildSourceCheckedWave wave actorId correlationId mandates stamp
  | simulate actorId correlationId inputs startStamp endStamp =>
    buildSimulatedWave wave actorId correlationId inputs startStamp endStamp
  | select context waveItemId selected =>
    match selectableWaveItem wave waveItemId with
    | .error e => .error e
    | .ok item =>
      match selected with
      | .error e => .error e
      | .ok selection => buildWaveWithSelectedItemAlternative wave item context selection
  | approve context => buildApprovedWave wave context
  | stage context => buildStagedWave wave context
  | handoff context handoffStamp => buildHandoffReadyWave wave context handoffStamp
  | cancel context => buildCancelledWave wave context

/-- What a command does after its read: the guard, the new wave and the versioned update.
The result is the repository, the wave and whether the command is a replay. -/
def WaveCommand.execute (command : WaveCommand) (repo : WaveRepository) (wave : RebalanceWave)
    (tenantId : String) : Except WaveError (WaveRepository × RebalanceWave × Bool) :=
  match command.transitionGuard.check wave with
  | .error e => .error e
  | .ok true => .ok (repo, wave, true)
  | .ok false =>
    match command.build wave with
    | .error e => .error e
    | .ok wave' =>
      match updateWave repo wave' wave.version tenantId with
      | .error e => .error (.validation "DPM_WAVE_VERSION_CONFLICT" e.code)
      | .ok repo' => .ok (repo', wave', false)

/-- A command that nothing interrupts: the read and what follows it. -/
def WaveCommand.persisted (command : WaveCommand) (repo : WaveRepository)
    (waveId tenantId : String) : Except WaveError (WaveRepository × RebalanceWave × Bool) :=
  match getWave repo waveId tenantId with
  | none => .error (.lookup "DPM_WAVE_NOT_FOUND" ("Wave " ++ waveId ++ " was not found."))
  | some wave => command.execute repo wave tenantId

/-- `source_check_persisted_wave` -/
def sourceCheckPersistedWave (repo : WaveRepository)
    (waveId tenantId actorId correlationId : String)
    (mandates : MandateLookup) (stamp : EventStamp) :
    Except WaveError (WaveRepository × RebalanceWave × Bool) :=
  (WaveCommand.sourceCheck actorId correlationId mandates stamp).persisted repo waveId tenantId

/-- `simulate_persisted_wave` -/
def simulatePersistedWave (repo : WaveRepository) (waveId tenantId actorId correlationId : String)
    (inputs : SimulationInputs) (startStamp endStamp : EventStamp) :
    Except WaveError (WaveRepository × RebalanceWave × Bool) :=
  (WaveCommand.simulate actorId correlationId inputs startStamp endStamp).persisted repo waveId
    tenantId

/-- `select_persisted_wave_item_alternative` -/
def selectPersistedWaveItemAlternative (repo : WaveRepository) (waveId tenantId : String)
    (context : CommandContext) (waveItemId : String) (selected : Except WaveError Selection) :
    Except WaveError (WaveRepository × RebalanceWave × Bool) :=
  (WaveCommand.select context waveItemId selected).persisted repo waveId tenantId

/-- `approve_persisted_wave` -/
def approvePersistedWave (repo : WaveRepository) (waveId tenantId : String)
    (context : CommandContext) : Except WaveError (WaveRepository × RebalanceWave × Bool) :=
  (WaveCommand.approve context).persisted repo waveId tenantId

/-- `stage_persisted_wave` -/
def stagePersistedWave (repo : WaveRepository) (waveId tenantId : String)
    (context : CommandContext) : Except WaveError (WaveRepository × RebalanceWave × Bool) :=
  (WaveCommand.stage context).persisted repo waveId tenantId

/-- `handoff_persisted_wave` -/
def handoffPersistedWave (repo : WaveRepository) (waveId tenantId : String)
    (context : CommandContext) (handoffStamp : HandoffStamp) :
    Except WaveError (WaveRepository × RebalanceWave × Bool) :=
  (WaveCommand.handoff context handoffStamp).persisted repo waveId tenantId

/-- `cancel_persisted_wave` -/
def cancelPersistedWave (repo : WaveRepository) (waveId tenantId : String)
    (context : CommandContext) : Except WaveError (WaveRepository × RebalanceWave × Bool) :=
  (WaveCommand.cancel context).persisted repo waveId tenantId

end LotusManage.Waves
