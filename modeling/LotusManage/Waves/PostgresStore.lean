import LotusManage.Lib.Tables
import LotusManage.Waves.SimulationRuns

/-!
# The PostgreSQL wave simulation store

`src/infrastructure/waves/simulation_postgres.py` over the tables of migration `0039`.  Each method is
one transaction: it locks the operation row (or the wave row) with `FOR UPDATE`, and a method that
raises or rolls back leaves the tables as they were.

A method below is a function on the tables with the value it returns, or the code it raises.  The
conditions are those of the SQL text: a comparison with a column that is `NULL` is not true.
`ORDER BY wave_item_id` compares texts in the collation of the database, which is a parameter.

The `CHECK` constraints of the tables restate the bounds of the records and are left out.  So is the
event table of the waves, which the simulation methods only write.
-/

namespace LotusManage.Waves

/-- A row of `dpm_rebalance_waves`: the columns that the simulation methods read, and the wave
that `wave_json` holds. -/
structure WaveRow where
  waveId : String
  tenantId : Option String
  version : Int
  waveJson : RebalanceWave

/-- The row of a wave. -/
def waveRow (wave : RebalanceWave) : WaveRow :=
  { waveId := wave.waveId
    tenantId := wave.tenantId
    version := wave.version
    waveJson := wave }

/-- The tables, by primary key. -/
structure PostgresStore where
  waves : Dict String WaveRow
  operations : Dict String WaveSimulationOperation
  items : Dict (String × String) WaveSimulationItemRecord

namespace PostgresStore

/-! ## Selections -/

/-- `SELECT * FROM dpm_wave_simulation_operations WHERE tenant_id = %s AND operation_id = %s`,
with `fetchone()` -/
def selectOperation (store : PostgresStore) (tenantId operationId : String) :
    Option WaveSimulationOperation :=
  (store.operations.selectWhere (fun operation =>
    decide (operation.tenantId = tenantId) && decide (operation.operationId = operationId))).head?

/-- `_select_operation_by_idempotency` -/
def selectOperationByIdempotency (store : PostgresStore) (tenantId idempotencyKeyHash : String) :
    Option WaveSimulationOperation :=
  (store.operations.selectWhere (fun operation =>
    decide (operation.tenantId = tenantId) &&
      decide (operation.idempotencyKeyHash = idempotencyKeyHash))).head?

/-- `_select_operation_by_correlation` -/
def selectOperationByCorrelation (store : PostgresStore) (tenantId correlationId : String) :
    Option WaveSimulationOperation :=
  (store.operations.selectWhere (fun operation =>
    decide (operation.tenantId = tenantId) &&
      decide (operation.correlationId = correlationId))).head?

/-- `WHERE tenant_id = %s AND operation_id = %s` on the items. -/
def ofOperation (tenantId operationId : String) (item : WaveSimulationItemRecord) : Bool :=
  decide (item.tenantId = tenantId) && decide (item.operationId = operationId)

/-- `status = 'FAILED' AND retryable = TRUE AND attempt_count < %s` -/
def retryWaiting (maxAttempts : Nat) (item : WaveSimulationItemRecord) : Bool :=
  decide (item.status = .failed) && item.retryable && decide (item.attemptCount < maxAttempts)

/-! ## The status refresh -/

/-- The aggregates that `_refresh_operation_status` selects. -/
def itemCounts (store : PostgresStore) (operation : WaveSimulationOperation) :
    SimulationItemCounts :=
  let owned := ofOperation operation.tenantId operation.operationId
  let count (condition : WaveSimulationItemRecord → Bool) : Nat :=
    store.items.countWhere (fun item => owned item && condition item)
  { total := count (fun _ => true)
    pending := count (fun item => decide (item.status = .pending))
    running := count (fun item => decide (item.status = .running))
    succeeded := count (fun item => decide (item.status = .succeeded))
    failed := count (fun item => decide (item.status = .failed))
    cancelled := count (fun item => decide (item.status = .cancelled))
    retryWaiting := count (retryWaiting operation.maxAttempts) }

/-- `_refresh_operation_status` -/
def refreshOperationStatus (store : PostgresStore) (operation : WaveSimulationOperation)
    (updatedAt : Int) : PostgresStore × WaveSimulationOperation :=
  let status :=
    deriveWaveSimulationOperationStatusFromCounts operation (store.itemCounts operation)
  ({ store with
     operations := store.operations.updateWhere
       (fun row => decide (row.tenantId = operation.tenantId) &&
         decide (row.operationId = operation.operationId))
       (fun row => { row with status := status, updatedAt := updatedAt }) },
    { operation with status := status, updatedAt := updatedAt })

/-! ## Admission -/

/-- The code that a failed `INSERT` raises: `_constraint_name` finds neither of the two texts
that are mapped to a conflict in the name of a primary key. -/
def uniqueViolation : String := "UniqueViolation"

/-- `_insert_operation`, under the primary key and the two unique constraints. -/
def insertOperation (store : PostgresStore) (operation : WaveSimulationOperation) :
    Except String PostgresStore :=
  if (store.selectOperationByIdempotency operation.tenantId
      operation.idempotencyKeyHash).isSome then
    .error WaveStoreError.simulationIdempotencyConflict.code
  else if (store.selectOperationByCorrelation operation.tenantId
      operation.correlationId).isSome then
    .error WaveStoreError.simulationCorrelationConflict.code
  else
    match store.operations.insertRow operation.operationId operation with
    | none => .error uniqueViolation
    | some operations => .ok { store with operations := operations }

/-- `_insert_item`, under the primary key and the uniqueness of the ordinals of an operation. -/
def insertItem (store : PostgresStore) (item : WaveSimulationItemRecord) :
    Except String PostgresStore :=
  if (store.items.selectWhere (fun row => decide (row.operationId = item.operationId) &&
      decide (row.ordinal = item.ordinal))).length ≠ 0 then
    .error uniqueViolation
  else
    match store.items.insertRow (item.operationId, item.waveItemId) item with
    | none => .error uniqueViolation
    | some items => .ok { store with items := items }

/-- The loop over `_insert_item`. -/
def insertItems : PostgresStore → List WaveSimulationItemRecord → Except String PostgresStore
  | store, [] => .ok store
  | store, item :: items => do
    let store ← store.insertItem item
    store.insertItems items

/-- The rows that `_update_wave_to_simulating` addresses. -/
def previousVersionOf (wave : RebalanceWave) (row : WaveRow) : Bool :=
  decide (row.waveId = wave.waveId) && decide (row.tenantId = wave.tenantId) &&
    row.tenantId.isSome && decide (row.version = wave.version - 1)

/-- `_update_wave_to_simulating` -/
def updateWaveToSimulating (store : PostgresStore) (wave : RebalanceWave) :
    Except String PostgresStore :=
  if store.waves.countWhere (previousVersionOf wave) ≠ 1 then
    .error WaveStoreError.simulationWaveVersionConflict.code
  else
    .ok { store with
      waves := store.waves.updateWhere (previousVersionOf wave)
        (fun row => { row with version := wave.version, waveJson := wave }) }

/-- The part of `admit_simulation_operation` for a key that has no operation yet. -/
def admitNewOperation (store : PostgresStore) (row : WaveRow)
    (operation : WaveSimulationOperation) (items : List WaveSimulationItemRecord)
    (simulatingWave : RebalanceWave) :
    Except String (PostgresStore × WaveSimulationOperation × Bool) :=
  if row.version ≠ operation.admittedWaveVersion then
    .error WaveStoreError.simulationWaveVersionConflict.code
  else
    let wave := row.waveJson
    match validateSimulationAdmissionItems operation items wave with
    | .error e => .error e.code
    | .ok _ =>
      if simulatingWave.waveId ≠ wave.waveId ∨
          simulatingWave.tenantId ≠ some operation.tenantId ∨
          simulatingWave.state ≠ .simulating ∨
          simulatingWave.version ≠ wave.version + 1 then
        .error WaveStoreError.simulationTransitionConflict.code
      else if (store.selectOperationByCorrelation operation.tenantId
          operation.correlationId).isSome then
        .error WaveStoreError.simulationCorrelationConflict.code
      else do
        let store ← store.insertOperation operation
        let store ← store.insertItems items
        let store ← store.updateWaveToSimulating simulatingWave
        return (store, operation, false)

/-- `admit_simulation_operation` -/
def admitSimulationOperation (store : PostgresStore) (operation : WaveSimulationOperation)
    (items : List WaveSimulationItemRecord) (simulatingWave : RebalanceWave) :
    Except String (PostgresStore × WaveSimulationOperation × Bool) :=
  match (store.waves.selectWhere (fun row => decide (row.waveId = operation.waveId) &&
      decide (row.tenantId = some operation.tenantId))).head? with
  | none => .error WaveStoreError.simulationWaveNotFound.code
  | some row =>
    match store.selectOperationByIdempotency operation.tenantId
        operation.idempotencyKeyHash with
    | some existing =>
      if existing.requestHash ≠ operation.requestHash ∨
          existing.riskAuthorityContextHash ≠ operation.riskAuthorityContextHash then
        .error WaveStoreError.simulationIdempotencyConflict.code
      else .ok (store, existing, true)
    | none => store.admitNewOperation row operation items simulatingWave

/-! ## Claims -/

/-- `status = 'RUNNING' AND lease_expires_at > %s` -/
def leaseActive (claimedAt : Int) (item : WaveSimulationItemRecord) : Bool :=
  decide (item.status = .running) &&
    item.leaseExpiresAt.any (fun lease => decide (lease > claimedAt))

/-- `status = 'PENDING' OR (status = 'RUNNING' AND lease_expires_at <= %s)` -/
def claimable (claimedAt : Int) (item : WaveSimulationItemRecord) : Bool :=
  decide (item.status = .pending) ||
    (decide (item.status = .running) &&
      item.leaseExpiresAt.any (fun lease => decide (lease ≤ claimedAt)))

/-- `ORDER BY ordinal ASC, wave_item_id ASC` in a collation. -/
def rowLe (collation : String → String → Bool) (a b : WaveSimulationItemRecord) : Bool :=
  decide (a.ordinal < b.ordinal) ||
    (decide (a.ordinal = b.ordinal) && collation a.waveItemId b.waveItemId)

/-- The rows that a claim call takes, in the order in which it takes them. -/
def candidates (collation : String → String → Bool) (store : PostgresStore)
    (operation : WaveSimulationOperation) (call : ClaimCall) : List WaveSimulationItemRecord :=
  let owned := ofOperation call.tenantId call.operationId
  let activeCount :=
    store.items.countWhere (fun item => owned item && leaseActive call.claimedAt item)
  let claimLimit :=
    min (max 0 call.limit) (max 0 ((operation.maxConcurrency : Int) - activeCount))
  ((store.items.selectWhere (fun item => owned item && claimable call.claimedAt item)).insertionSort
    (fun a b => rowLe collation a b)).take claimLimit.toNat

/-- The `UPDATE` of `_claim_item`. -/
def claimRow (operation : WaveSimulationOperation) (call : ClaimCall) (claimToken : String)
    (store : PostgresStore) (item : WaveSimulationItemRecord) : PostgresStore :=
  { store with
    items := store.items.updateWhere
      (fun row => decide (row.operationId = operation.operationId) &&
        decide (row.waveItemId = item.waveItemId) && decide (row.tenantId = operation.tenantId))
      (fun row => { row with
        status := .running
        attemptCount := item.attemptCount + (if recoveryExhausted operation item then 0 else 1)
        claimGeneration := item.claimGeneration + 1
        workerId := some call.workerId
        claimToken := some claimToken
        claimedAt := some call.claimedAt
        leaseExpiresAt := some call.leaseExpiresAt
        updatedAt := call.claimedAt }) }

/-- The claim that `_claim_item` returns. -/
def rowClaim (operation : WaveSimulationOperation) (call : ClaimCall) (claimToken : String)
    (item : WaveSimulationItemRecord) : WaveSimulationItemClaim :=
  { operationId := operation.operationId
    tenantId := operation.tenantId
    waveId := operation.waveId
    waveItemId := item.waveItemId
    portfolioId := item.portfolioId
    inputPayload := item.inputPayload
    inputHash := item.inputHash
    sourceIdentityHash := item.sourceIdentityHash
    workerId := call.workerId
    claimToken := claimToken
    claimGeneration := item.claimGeneration + 1
    attemptCount := item.attemptCount + (if recoveryExhausted operation item then 0 else 1)
    leaseExpiresAt := call.leaseExpiresAt
    recoveryExhausted := recoveryExhausted operation item }

/-- `claim_simulation_items` -/
def claimSimulationItems (collation : String → String → Bool) (store : PostgresStore)
    (call : ClaimCall) : PostgresStore × List WaveSimulationItemClaim :=
  match store.selectOperation call.tenantId call.operationId with
  | none => (store, [])
  | some operation =>
    if operation.status.closedToClaims then (store, [])
    else
      let selected := (store.candidates collation operation call).zipIdx
      let claimed := selected.foldl
        (fun store e => store.claimRow operation call (call.token e.2) e.1) store
      ((claimed.refreshOperationStatus operation call.claimedAt).1,
        selected.map (fun e => rowClaim operation call (call.token e.2) e.1))

/-! ## Retries -/

/-- The rows that `retry_simulation_items` updates. -/
def retriesRow (operation : WaveSimulationOperation) (tenantId operationId : String)
    (waveItemIds : Option (List String)) (item : WaveSimulationItemRecord) : Bool :=
  ofOperation tenantId operationId item && decide (item.status = .failed) &&
    decide (item.retryable = true) && decide (item.attemptCount < operation.maxAttempts) &&
    waveItemIds.all (fun ids => decide (item.waveItemId ∈ ids))

/-- The columns that `retry_simulation_items` sets. -/
def retryRow (retriedAt : Int) (row : WaveSimulationItemRecord) : WaveSimulationItemRecord :=
  { row with
    status := .pending
    workerId := none
    claimToken := none
    claimedAt := none
    leaseExpiresAt := none
    errorCode := none
    errorMessage := none
    retryable := false
    completedAt := none
    updatedAt := retriedAt }

/-- `retry_simulation_items` -/
def retrySimulationItems (store : PostgresStore) (tenantId operationId : String)
    (waveItemIds : Option (List String)) (retriedAt : Int) : PostgresStore × Nat :=
  match store.selectOperation tenantId operationId with
  | none => (store, 0)
  | some operation =>
    if operation.cancelReasonCode.isSome then (store, 0)
    else
      let retried := retriesRow operation tenantId operationId waveItemIds
      let updated := { store with
        items := store.items.updateWhere retried (retryRow retriedAt) }
      ((updated.refreshOperationStatus operation retriedAt).1, store.items.countWhere retried)

/-! ## Cancellation -/

/-- The rows that make an operation cancellable. -/
def cancellable (operation : WaveSimulationOperation) (tenantId operationId : String)
    (item : WaveSimulationItemRecord) : Bool :=
  ofOperation tenantId operationId item &&
    (decide (item.status = .pending) || decide (item.status = .running) ||
      retryWaiting operation.maxAttempts item)

/-- The rows that a cancellation updates. -/
def cancelsRow (operation : WaveSimulationOperation) (tenantId operationId : String)
    (cancelledAt : Int) (item : WaveSimulationItemRecord) : Bool :=
  ofOperation tenantId operationId item &&
    (decide (item.status = .pending) || retryWaiting operation.maxAttempts item ||
      (decide (item.status = .running) &&
        item.leaseExpiresAt.any (fun lease => decide (lease < cancelledAt))))

/-- The columns that a cancellation sets. -/
def cancelRow (cancelledAt : Int) (row : WaveSimulationItemRecord) : WaveSimulationItemRecord :=
  { row with
    status := .cancelled
    retryable := false
    completedAt := some cancelledAt
    updatedAt := cancelledAt }

/-- The part of `cancel_simulation_operation` after the cancel reason is recorded. -/
def cancelRows (store : PostgresStore) (operation : WaveSimulationOperation)
    (tenantId operationId reasonCode : String) (cancelledAt : Int) :
    PostgresStore × Option WaveSimulationOperation :=
  let updated := { store with
    items := store.items.updateWhere (cancelsRow operation tenantId operationId cancelledAt)
      (cancelRow cancelledAt) }
  let operation' :=
    { operation with
      cancelReasonCode := some (cancelReason operation reasonCode)
      updatedAt := cancelledAt }
  let refreshed := updated.refreshOperationStatus operation' cancelledAt
  (refreshed.1, some refreshed.2)

/-- `cancel_simulation_operation` -/
def cancelSimulationOperation (store : PostgresStore) (tenantId operationId reasonCode : String)
    (cancelledAt : Int) : PostgresStore × Option WaveSimulationOperation :=
  match store.selectOperation tenantId operationId with
  | none => (store, none)
  | some operation =>
    if operation.status.closedToCancel then (store, some operation)
    else if operation.cancelReasonCode.isNone then
      if store.items.countWhere (cancellable operation tenantId operationId) = 0 then
        (store, some operation)
      else
        let marked := { store with
          operations := store.operations.updateWhere
            (fun row => decide (row.tenantId = tenantId) && decide (row.operationId = operationId))
            (fun row => { row with
              cancelReasonCode := some reasonCode
              updatedAt := cancelledAt }) }
        marked.cancelRows operation tenantId operationId reasonCode cancelledAt
    else store.cancelRows operation tenantId operationId reasonCode cancelledAt

/-! ## Publications -/

/-- The rows that `_publish_simulation_item_terminal` updates. -/
def acceptsRow (claim : WaveSimulationItemClaim) (completedAt : Int)
    (item : WaveSimulationItemRecord) : Bool :=
  ofOperation claim.tenantId claim.operationId item &&
    decide (item.waveItemId = claim.waveItemId) && decide (item.status = .running) &&
    decide (item.claimToken = some claim.claimToken) &&
    decide (item.claimGeneration = claim.claimGeneration) &&
    item.leaseExpiresAt.any (fun lease => decide (lease ≥ completedAt))

/-- The columns that a publication sets. -/
def publishRow (operation : WaveSimulationOperation) (terminal : TerminalRecord)
    (row : WaveSimulationItemRecord) : WaveSimulationItemRecord :=
  { row with
    status := terminal.status
    resultItem := terminal.resultItem
    errorCode := terminal.errorCode
    errorMessage := terminal.errorMessage
    retryable := terminal.retryable && operation.cancelReasonCode.isNone
    completedAt := some terminal.completedAt
    updatedAt := terminal.completedAt }

/-- `_publish_simulation_item_terminal` -/
def publishSimulationItemTerminal (store : PostgresStore) (claim : WaveSimulationItemClaim)
    (terminal : TerminalRecord) : PostgresStore × Bool :=
  match store.selectOperation claim.tenantId claim.operationId with
  | none => (store, false)
  | some operation =>
    let accepts := acceptsRow claim terminal.completedAt
    if store.items.countWhere accepts ≠ 1 then (store, false)
    else
      let updated := { store with
        items := store.items.updateWhere accepts (publishRow operation terminal) }
      ((updated.refreshOperationStatus operation terminal.completedAt).1, true)

/-- `publish_simulation_item_result` and `publish_simulation_item_failure` -/
def publishSimulationItem (store : PostgresStore) (publication : Publication) :
    PostgresStore × Bool :=
  store.publishSimulationItemTerminal publication.claim publication.terminal

end PostgresStore

end LotusManage.Waves
