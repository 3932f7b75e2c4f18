import LotusManage.Waves.Models
import Mathlib.Data.List.Sort
import Mathlib.Order.Lattice

/-!
# The in-memory wave repository

`src/infrastructure/waves/in_memory.py`, with the publication entry points of
`src/infrastructure/waves/simulation_publication.py`.  Every method takes the repository's lock, so a
method is one function from the repository to the repository and the value it returns.

A record is stored under the pair of its operation id and its wave item id; the two simulation indexes
lead from a tenant's key hash, and from a tenant's correlation id, to an operation id.

`storeItems` is the loop that writes a list of records back.  The source loops read the list before the
loop, so selecting the records, updating each and storing them gives what the loop leaves.
-/

namespace LotusManage.Waves

/-- `InMemoryDpmWaveRepository` -/
structure WaveRepository where
  waves : Dict String RebalanceWave
  idempotencyIndex : Dict String (String × Option String)
  correlationIndex : Dict (String × String) String
  simulationOperations : Dict String WaveSimulationOperation
  simulationOperationIdempotency : Dict (String × String) String
  simulationOperationCorrelations : Dict (String × String) String
  simulationItems : Dict (String × String) WaveSimulationItemRecord

/-- `InMemoryDpmWaveRepository()` -/
def WaveRepository.new : WaveRepository :=
  ⟨.empty, .empty, .empty, .empty, .empty, .empty, .empty⟩

inductive WaveStoreError where
  | idempotencyConflict
  | alreadyExists
  | correlationConflict
  | versionConflict
  | simulationIdempotencyConflict
  | simulationCorrelationConflict
  | simulationWaveNotFound
  | simulationWaveVersionConflict
  | simulationDuplicateItem
  | simulationItemOrdinalConflict
  | simulationItemIdentityConflict
  | simulationTransitionConflict
  | keyError
  deriving DecidableEq

/-- The text of the raised error. -/
def WaveStoreError.code : WaveStoreError → String
  | idempotencyConflict => "DPM_WAVE_IDEMPOTENCY_CONFLICT"
  | alreadyExists => "DPM_WAVE_ALREADY_EXISTS"
  | correlationConflict => "DPM_WAVE_CORRELATION_CONFLICT"
  | versionConflict => "DPM_WAVE_VERSION_CONFLICT"
  | simulationIdempotencyConflict => "DPM_WAVE_SIMULATION_IDEMPOTENCY_CONFLICT"
  | simulationCorrelationConflict => "DPM_WAVE_SIMULATION_CORRELATION_CONFLICT"
  | simulationWaveNotFound => "DPM_WAVE_SIMULATION_WAVE_NOT_FOUND"
  | simulationWaveVersionConflict => "DPM_WAVE_SIMULATION_WAVE_VERSION_CONFLICT"
  | simulationDuplicateItem => "DPM_WAVE_SIMULATION_DUPLICATE_ITEM"
  | simulationItemOrdinalConflict => "DPM_WAVE_SIMULATION_ITEM_ORDINAL_CONFLICT"
  | simulationItemIdentityConflict => "DPM_WAVE_SIMULATION_ITEM_IDENTITY_CONFLICT"
  | simulationTransitionConflict => "DPM_WAVE_SIMULATION_TRANSITION_CONFLICT"
  | keyError => "KeyError"

/-! ## Waves -/

/-- `wave_idempotency_mapping_key` -/
def waveIdempotencyMappingKey (sha256Hex : String → String) (tenantId idempotencyKey : String) :
    String :=
  derivedIdentity sha256Hex "wik" [tenantId, idempotencyKey]

/-- `_raise_if_idempotency_conflict` -/
def idempotencyConflicts (index : Dict String (String × Option String))
    (mappingKey : Option String) (waveId : String) (requestHash : Option String) : Bool :=
  match mappingKey with
  | none => false
  | some key =>
    match index.get? key with
    | none => false
    | some existing => decide (existing ≠ (waveId, requestHash))

/-- `save_wave` -/
def saveWave (sha256Hex : String → String) (repo : WaveRepository) (wave : RebalanceWave)
    (idempotencyKey requestHash : Option String) (tenantId : String) :
    Except WaveStoreError WaveRepository :=
  let mappingKey := idempotencyKey.map (waveIdempotencyMappingKey sha256Hex tenantId)
  if idempotencyConflicts repo.idempotencyIndex mappingKey wave.waveId requestHash then
    .error .idempotencyConflict
  else if repo.waves.contains wave.waveId then .error .alreadyExists
  else if repo.correlationIndex.contains (tenantId, wave.correlationId) then
    .error .correlationConflict
  else
    .ok { repo with
      idempotencyIndex :=
        match mappingKey with
        | none => repo.idempotencyIndex
        | some key => repo.idempotencyIndex.set key (wave.waveId, requestHash)
      waves := repo.waves.set wave.waveId { wave with tenantId := some tenantId }
      correlationIndex := repo.correlationIndex.set (tenantId, wave.correlationId) wave.waveId }

/-- `get_wave` -/
def getWave (repo : WaveRepository) (waveId tenantId : String) : Option RebalanceWave :=
  (repo.waves.get? waveId).filter (fun wave => wave.tenantId = some tenantId)

/-- `update_wave` -/
def updateWave (repo : WaveRepository) (wave : RebalanceWave) (expectedVersion : Int)
    (tenantId : String) : Except WaveStoreError WaveRepository :=
  match repo.waves.get? wave.waveId with
  | none => .error .versionConflict
  | some current =>
    if current.version ≠ expectedVersion ∨ current.tenantId ≠ some tenantId then
      .error .versionConflict
    else
      .ok { repo with
        waves := repo.waves.set wave.waveId { wave with tenantId := some tenantId } }

/-! ## Records of an operation -/

/-- `_simulation_items_for_operation` -/
def simulationItemsForOperation (items : Dict (String × String) WaveSimulationItemRecord)
    (operationId tenantId : String) : List WaveSimulationItemRecord :=
  (items.items.filter (fun e => e.1.1 = operationId ∧ e.2.tenantId = tenantId)).map Prod.snd

/-- The writes `self._simulation_items[(operation_id, item.wave_item_id)] = item` of a loop. -/
def storeItems (operationId : String) (rows : List WaveSimulationItemRecord)
    (items : Dict (String × String) WaveSimulationItemRecord) :
    Dict (String × String) WaveSimulationItemRecord :=
  (rows.map (fun row => ((operationId, row.waveItemId), row))).foldl
    (fun items e => items.set e.1 e.2) items

/-- `_refresh_simulation_operation_status`.  Every caller has read the operation before. -/
def refreshSimulationOperationStatus (repo : WaveRepository) (operationId : String)
    (updatedAt : Int) : WaveRepository :=
  match repo.simulationOperations.get? operationId with
  | none => repo
  | some operation =>
    let items :=
      simulationItemsForOperation repo.simulationItems operationId operation.tenantId
    let status := deriveWaveSimulationOperationStatus operation items
    { repo with
      simulationOperations := repo.simulationOperations.set operationId
        { operation with status := status, updatedAt := updatedAt } }

/-! ## Admission -/

/-- `_validate_simulation_admission_items` -/
def validateSimulationAdmissionItems (operation : WaveSimulationOperation)
    (items : List WaveSimulationItemRecord) (wave : RebalanceWave) : Except WaveStoreError Unit :=
  let waveItems := Dict.ofEntries (wave.items.map (fun item => (item.waveItemId, item)))
  if ¬ (items.map WaveSimulationItemRecord.waveItemId).Nodup then .error .simulationDuplicateItem
  else if (items.map WaveSimulationItemRecord.ordinal).insertionSort (· ≤ ·) ≠
      List.range items.length then
    .error .simulationItemOrdinalConflict
  else if items.any (fun item =>
      decide (item.operationId ≠ operation.operationId) ||
      decide (item.tenantId ≠ operation.tenantId) ||
      decide (item.waveId ≠ operation.waveId) ||
      match waveItems.get? item.waveItemId with
      | none => true
      | some waveItem => decide (waveItem.portfolioId ≠ item.portfolioId)) then
    .error .simulationItemIdentityConflict
  else .ok ()

/-- The part of `admit_simulation_operation` for a key that has no operation yet. -/
def admitNewOperation (repo : WaveRepository) (operation : WaveSimulationOperation)
    (items : List WaveSimulationItemRecord) (simulatingWave : RebalanceWave) :
    Except WaveStoreError (WaveRepository × WaveSimulationOperation × Bool) :=
  let indexKey := (operation.tenantId, operation.idempotencyKeyHash)
  let correlationKey := (operation.tenantId, operation.correlationId)
  if repo.simulationOperationCorrelations.contains correlationKey then
    .error .simulationCorrelationConflict
  else
    match repo.waves.get? operation.waveId with
    | none => .error .simulationWaveNotFound
    | some wave =>
      if wave.tenantId ≠ some operation.tenantId then .error .simulationWaveNotFound
      else if wave.version ≠ operation.admittedWaveVersion then
        .error .simulationWaveVersionConflict
      else
        match validateSimulationAdmissionItems operation items wave with
        | .error e => .error e
        | .ok _ =>
          if simulatingWave.waveId ≠ wave.waveId ∨
              simulatingWave.tenantId ≠ some operation.tenantId ∨
              simulatingWave.state ≠ .simulating ∨
              simulatingWave.version ≠ wave.version + 1 then
            .error .simulationTransitionConflict
          else
            .ok ({ repo with
              simulationOperations :=
                repo.simulationOperations.set operation.operationId operation
              simulationOperationIdempotency :=
                repo.simulationOperationIdempotency.set indexKey operation.operationId
              simulationOperationCorrelations :=
                repo.simulationOperationCorrelations.set correlationKey operation.operationId
              simulationItems := storeItems operation.operationId items repo.simulationItems
              waves := repo.waves.set wave.waveId simulatingWave }, operation, false)

/-- `admit_simulation_operation`: the stored operation and whether it is a replay. -/
def admitSimulationOperation (repo : WaveRepository) (operation : WaveSimulationOperation)
    (items : List WaveSimulationItemRecord) (simulatingWave : RebalanceWave) :
    Except WaveStoreError (WaveRepository × WaveSimulationOperation × Bool) :=
  match repo.simulationOperationIdempotency.get?
      (operation.tenantId, operation.idempotencyKeyHash) with
  | some existingId =>
    match repo.simulationOperations.get? existingId with
    | none => .error .keyError
    | some existing =>
      if existing.requestHash ≠ operation.requestHash ∨
          existing.riskAuthorityContextHash ≠ operation.riskAuthorityContextHash then
        .error .simulationIdempotencyConflict
      else .ok (repo, existing, true)
  | none => admitNewOperation repo operation items simulatingWave

/-! ## Claims -/

/-- A running record whose lease is still in the future. -/
def WaveSimulationItemRecord.leaseActive (item : WaveSimulationItemRecord) (now : Int) : Bool :=
  decide (item.status = .running) && item.leaseExpiresAt.any (fun lease => decide (now < lease))

/-- The selection condition of `claim_simulation_items`. -/
def WaveSimulationItemRecord.claimable (item : WaveSimulationItemRecord) (now : Int) : Bool :=
  decide (item.status = .pending) ||
    (decide (item.status = .running) &&
      item.leaseExpiresAt.any (fun lease => decide (lease ≤ now)))

/-- The sort order of the records: ordinal, then wave item id. -/
def simulationItemLe (a b : WaveSimulationItemRecord) : Bool :=
  decide (a.ordinal < b.ordinal) ||
    (decide (a.ordinal = b.ordinal) && !decide (b.waveItemId < a.waveItemId))

/-- A claim call: who claims how much, when, until when, and the `uuid4` values it draws. -/
structure ClaimCall where
  tenantId : String
  operationId : String
  workerId : String
  limit : Int
  claimedAt : Int
  leaseExpiresAt : Int
  uuid4Hex : Nat → String

/-- The records that a claim call takes, in the order in which it takes them. -/
def selectedForClaim (operation : WaveSimulationOperation) (call : ClaimCall)
    (ownedItems : List WaveSimulationItemRecord) : List WaveSimulationItemRecord :=
  let activeCount := ownedItems.countP (fun item => item.leaseActive call.claimedAt)
  let capacity := max 0 ((operation.maxConcurrency : Int) - activeCount)
  let claimLimit := min (max 0 call.limit) capacity
  ((ownedItems.filter (fun item => item.claimable call.claimedAt)).insertionSort
    (fun a b => simulationItemLe a b)).take claimLimit.toNat

/-- The attempts are spent: the claim only recovers the item. -/
def recoveryExhausted (operation : WaveSimulationOperation) (item : WaveSimulationItemRecord) :
    Bool :=
  decide (operation.maxAttempts ≤ item.attemptCount)

/-- The record under a new claim. -/
def claimedItem (operation : WaveSimulationOperation) (call : ClaimCall) (claimToken : String)
    (item : WaveSimulationItemRecord) : WaveSimulationItemRecord :=
  { item with
    status := .running
    attemptCount := item.attemptCount + (if recoveryExhausted operation item then 0 else 1)
    claimGeneration := item.claimGeneration + 1
    workerId := some call.workerId
    claimToken := some claimToken
    claimedAt := some call.claimedAt
    leaseExpiresAt := some call.leaseExpiresAt
    updatedAt := call.claimedAt }

/-- The claim that is handed out for a record. -/
def itemClaim (operation : WaveSimulationOperation) (call : ClaimCall) (claimToken : String)
    (item : WaveSimulationItemRecord) : WaveSimulationItemClaim :=
  { operationId := call.operationId
    tenantId := call.tenantId
    waveId := item.waveId
    waveItemId := item.waveItemId
    portfolioId := item.portfolioId
    inputPayload := item.inputPayload
    inputHash := item.inputHash
    sourceIdentityHash := item.sourceIdentityHash
    workerId := call.workerId
    claimToken := claimToken
    claimGeneration := item.claimGeneration + 1
    attemptCount := item.attemptCount + (if recoveryExhausted operation item then 0 else 1)
    leaseExpiresAt := call.leaseExpiresAt
    recoveryExhausted := recoveryExhausted operation item }

/-- The token of the `index`-th record that a call claims. -/
def ClaimCall.token (call : ClaimCall) (index : Nat) : String := "wsc_" ++ call.uuid4Hex index

/-- The operation statuses that grant no claim. -/
def SimulationOperationStatus.closedToClaims : SimulationOperationStatus → Bool
  | cancelRequested | cancelled | succeeded | failed => true
  | _ => false

/-- `claim_simulation_items` -/
def claimSimulationItems (repo : WaveRepository) (call : ClaimCall) :
    WaveRepository × List WaveSimulationItemClaim :=
  match repo.simulationOperations.get? call.operationId with
  | none => (repo, [])
  | some operation =>
    if operation.tenantId ≠ call.tenantId then (repo, [])
    else if operation.status.closedToClaims then (repo, [])
    else
      let ownedItems :=
        simulationItemsForOperation repo.simulationItems call.operationId call.tenantId
      let selected := (selectedForClaim operation call ownedItems).zipIdx
      let updated := selected.map (fun e => claimedItem operation call (call.token e.2) e.1)
      let claims := selected.map (fun e => itemClaim operation call (call.token e.2) e.1)
      (refreshSimulationOperationStatus
        { repo with
          simulationItems := storeItems call.operationId updated repo.simulationItems }
        call.operationId call.claimedAt, claims)

/-! ## Retries -/

/-- A failed record that `retry_simulation_items` takes up again. -/
def retries (operation : WaveSimulationOperation) (requested : Option (List String))
    (item : WaveSimulationItemRecord) : Bool :=
  requested.all (fun ids => decide (item.waveItemId ∈ ids)) &&
    (item.retryable && decide (item.status = .failed)) &&
    !decide (operation.maxAttempts ≤ item.attemptCount)

/-- The record that waits for a claim again. -/
def retriedItem (retriedAt : Int) (item : WaveSimulationItemRecord) : WaveSimulationItemRecord :=
  { item with
    status := .pending
    workerId := none
    claimToken := none
    claimedAt := none
    leaseExpiresAt := none
    errorCode := none
    errorMessage := none
    retryable := false
    completedAt := none
    updatedAt := retriedAt }

/-- `retry_simulation_items`.  An empty cancel reason counts as none here. -/
def retrySimulationItems (repo : WaveRepository) (tenantId operationId : String)
    (waveItemIds : Option (List String)) (retriedAt : Int) : WaveRepository × Nat :=
  match repo.simulationOperations.get? operationId with
  | none => (repo, 0)
  | some operation =>
    if operation.tenantId ≠ tenantId ∨
        operation.cancelReasonCode.any (fun reason => decide (reason ≠ "")) then (repo, 0)
    else
      let retried :=
        (simulationItemsForOperation repo.simulationItems operationId tenantId).filter
          (retries operation waveItemIds)
      (refreshSimulationOperationStatus
        { repo with
          simulationItems :=
            storeItems operationId (retried.map (retriedItem retriedAt)) repo.simulationItems }
        operationId retriedAt, retried.length)

/-! ## Cancellation -/

/-- A record that keeps a cancellation from being a no-op. -/
def outstanding (operation : WaveSimulationOperation) (item : WaveSimulationItemRecord) : Bool :=
  decide (item.status = .pending) || decide (item.status = .running) ||
    waveSimulationItemIsRetryable operation item

/-- A record that a cancellation cancels. -/
def cancels (operation : WaveSimulationOperation) (cancelledAt : Int)
    (item : WaveSimulationItemRecord) : Bool :=
  let expiredRunning :=
    decide (item.status = .running) &&
      item.leaseExpiresAt.any (fun lease => decide (lease < cancelledAt))
  let retryWaiting := waveSimulationItemIsRetryable operation item
  decide (item.status = .pending) || retryWaiting || expiredRunning

/-- The cancelled record. -/
def cancelledItem (cancelledAt : Int) (item : WaveSimulationItemRecord) :
    WaveSimulationItemRecord :=
  { item with
    status := .cancelled
    retryable := false
    completedAt := some cancelledAt
    updatedAt := cancelledAt }

/-- `operation.cancel_reason_code or reason_code` -/
def cancelReason (operation : WaveSimulationOperation) (reasonCode : String) : String :=
  match operation.cancelReasonCode with
  | none => reasonCode
  | some reason => if reason = "" then reasonCode else reason

/-- The operation statuses that a cancellation leaves alone. -/
def SimulationOperationStatus.closedToCancel : SimulationOperationStatus → Bool
  | succeeded | failed | cancelled => true
  | _ => false

/-- `cancel_simulation_operation` -/
def cancelSimulationOperation (repo : WaveRepository)
    (tenantId operationId reasonCode : String) (cancelledAt : Int) :
    WaveRepository × Option WaveSimulationOperation :=
  match repo.simulationOperations.get? operationId with
  | none => (repo, none)
  | some operation =>
    if operation.tenantId ≠ tenantId then (repo, none)
    else if operation.status.closedToCancel then (repo, some operation)
    else
      let items := simulationItemsForOperation repo.simulationItems operationId tenantId
      if ¬ items.any (outstanding operation) then (repo, some operation)
      else
        let operation' :=
          { operation with
            cancelReasonCode := some (cancelReason operation reasonCode)
            updatedAt := cancelledAt }
        let cancelled := items.filter (cancels operation' cancelledAt)
        let repo' :=
          refreshSimulationOperationStatus
            { repo with
              simulationOperations := repo.simulationOperations.set operationId operation'
              simulationItems :=
                storeItems operationId (cancelled.map (cancelledItem cancelledAt))
                  repo.simulationItems }
            operationId cancelledAt
        (repo', repo'.simulationOperations.get? operationId)

/-! ## Publications -/

/-- What a worker publishes under a claim. -/
inductive Publication where
  | result (claim : WaveSimulationItemClaim) (resultItem : RebalanceWaveItem) (completedAt : Int)
  | failure (claim : WaveSimulationItemClaim) (errorCode errorMessage : String) (retryable : Bool)
      (completedAt : Int)

/-- The claim that a publication presents. -/
def Publication.claim : Publication → WaveSimulationItemClaim
  | result claim _ _ => claim
  | failure claim _ _ _ _ => claim

/-- The terminal record of a publication. -/
structure TerminalRecord where
  completedAt : Int
  status : SimulationItemStatus
  resultItem : Option RebalanceWaveItem
  errorCode : Option String
  errorMessage : Option String
  retryable : Bool

/-- The conditions under which `_publish_simulation_item_terminal` refuses a claim. -/
def refusesPublication (item : WaveSimulationItemRecord) (claim : WaveSimulationItemClaim)
    (completedAt : Int) : Bool :=
  decide (item.tenantId ≠ claim.tenantId) ||
    decide (item.status ≠ .running) ||
    decide (item.claimToken ≠ some claim.claimToken) ||
    decide (item.claimGeneration ≠ claim.claimGeneration) ||
    !item.leaseExpiresAt.any (fun lease => decide (completedAt ≤ lease))

/-- The published record. -/
def publishedItem (operation : WaveSimulationOperation) (terminal : TerminalRecord)
    (item : WaveSimulationItemRecord) : WaveSimulationItemRecord :=
  { item with
    status := terminal.status
    resultItem := terminal.resultItem
    errorCode := terminal.errorCode
    errorMessage := terminal.errorMessage
    retryable := terminal.retryable && operation.cancelReasonCode.isNone
    completedAt := some terminal.completedAt
    updatedAt := terminal.completedAt }

/-- `_publish_simulation_item_terminal` -/
def publishSimulationItemTerminal (repo : WaveRepository) (claim : WaveSimulationItemClaim)
    (terminal : TerminalRecord) : Except WaveStoreError (WaveRepository × Bool) :=
  match repo.simulationItems.get? (claim.operationId, claim.waveItemId) with
  | none => .ok (repo, false)
  | some item =>
    if refusesPublication item claim terminal.completedAt then .ok (repo, false)
    else
      match repo.simulationOperations.get? claim.operationId with
      | none => .error .keyError
      | some operation =>
        .ok (refreshSimulationOperationStatus
          { repo with
            simulationItems := repo.simulationItems.set (claim.operationId, claim.waveItemId)
              (publishedItem operation terminal item) }
          claim.operationId terminal.completedAt, true)

/-- The terminal record that `publish_simulation_item_result` and
`publish_simulation_item_failure` pass on. -/
def Publication.terminal : Publication → TerminalRecord
  | result _ resultItem completedAt =>
    { completedAt := completedAt
      status := .succeeded
      resultItem := some resultItem
      errorCode := none
      errorMessage := none
      retryable := false }
  | failure _ errorCode errorMessage retryable completedAt =>
    { completedAt := completedAt
      status := .failed
      resultItem := none
      errorCode := some errorCode
      errorMessage := some errorMessage
      retryable := retryable }

/-- `publish_simulation_item_result` and `publish_simulation_item_failure` -/
def publishSimulationItem (repo : WaveRepository) (publication : Publication) :
    Except WaveStoreError (WaveRepository × Bool) :=
  publishSimulationItemTerminal repo publication.claim publication.terminal

end LotusManage.Waves
