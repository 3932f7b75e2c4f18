import LotusManage.Lib.Dict

/-!
# Waves and their simulation operations

`src/core/waves/models.py` and `src/core/waves/simulation_operations.py`, with
the two hashes of `src/core/common`.

A wave is an aggregate of portfolio items.  An asynchronous simulation of a wave
is an operation with one record for each item; workers claim records, compute
outside the store and publish a result or a failure under the claim.  The status
of the operation is derived from its records.

A timestamp is its number of microseconds, and a JSON payload is its canonical
text, which is the only form in which the code below reads one.  SHA-256 is a
parameter: nothing here depends on its values.
-/

namespace LotusManage.Waves

/-! ## Identities -/

/-- One component of `derived_identity`: its length in bytes, a colon, its text. -/
def identityComponent (component : String) : String :=
  toString component.utf8ByteSize ++ ":" ++ component

/-- `derived_identity(prefix, *components)` -/
def derivedIdentity (sha256Hex : String → String) (identityPrefix : String)
    (components : List String) : String :=
  identityPrefix ++ "_" ++
    String.ofList ((sha256Hex (String.join (components.map identityComponent))).toList.take 32)

/-- `hash_canonical_payload` of a payload in its canonical text. -/
def hashCanonicalPayload (sha256Hex : String → String) (canonicalJson : String) : String :=
  "sha256:" ++ sha256Hex canonicalJson

/-! ## Waves -/

inductive WaveState where
  | draft
  | previewed
  | created
  | sourceChecked
  | simulating
  | simulated
  | partiallySimulated
  | simulationFailed
  | reviewRequired
  | approved
  | approvedWithExceptions
  | staged
  | handoffReady
  | handoffBlocked
  | handoffAcknowledged
  | blocked
  | rejected
  | cancelled
  | closed
  deriving DecidableEq

/-- The text of a wave state. -/
def WaveState.code : WaveState → String
  | draft => "DRAFT"
  | previewed => "PREVIEWED"
  | created => "CREATED"
  | sourceChecked => "SOURCE_CHECKED"
  | simulating => "SIMULATING"
  | simulated => "SIMULATED"
  | partiallySimulated => "PARTIALLY_SIMULATED"
  | simulationFailed => "SIMULATION_FAILED"
  | reviewRequired => "REVIEW_REQUIRED"
  | approved => "APPROVED"
  | approvedWithExceptions => "APPROVED_WITH_EXCEPTIONS"
  | staged => "STAGED"
  | handoffReady => "HANDOFF_READY"
  | handoffBlocked => "HANDOFF_BLOCKED"
  | handoffAcknowledged => "HANDOFF_ACKNOWLEDGED"
  | blocked => "BLOCKED"
  | rejected => "REJECTED"
  | cancelled => "CANCELLED"
  | closed => "CLOSED"

inductive WaveItemState where
  | candidate
  | sourceReady
  | sourceDegraded
  | reviewRequired
  | sourceBlocked
  | simulated
  | simulationBlocked
  | selected
  | proofPackReady
  | approved
  | staged
  | handoffReady
  | excluded
  deriving DecidableEq

/-- The text of an item state. -/
def WaveItemState.code : WaveItemState → String
  | candidate => "CANDIDATE"
  | sourceReady => "SOURCE_READY"
  | sourceDegraded => "SOURCE_DEGRADED"
  | reviewRequired => "REVIEW_REQUIRED"
  | sourceBlocked => "SOURCE_BLOCKED"
  | simulated => "SIMULATED"
  | simulationBlocked => "SIMULATION_BLOCKED"
  | selected => "SELECTED"
  | proofPackReady => "PROOF_PACK_READY"
  | approved => "APPROVED"
  | staged => "STAGED"
  | handoffReady => "HANDOFF_READY"
  | excluded => "EXCLUDED"

inductive WaveTriggerType where
  | explicitPortfolioList
  | pmBookReview
  | cioModelChange
  | tacticalHouseView
  | riskEvent
  | bulkReviewCampaign
  deriving DecidableEq

/-- `DpmWaveSourceRef` -/
structure WaveSourceRef where
  sourceSystem : String
  sourceType : String
  sourceId : String
  sourceVersion : Option String := none
  supportabilityState : Option String := none
  contentHash : Option String := none
  sourceBatchFingerprint : Option String := none
  selectionBasis : Option String := none
  deriving DecidableEq

/-- The source analytics of one family, as `build_source_analytics_from_alternative_set`
records them on an item. -/
structure ItemSourceAnalytics where
  supportabilityState : String
  sourceSystems : List String
  sourceRefs : List WaveSourceRef
  reasonCodes : List String
  sourceMeasures : Dict String (List String)
  deriving DecidableEq

/-- A value in the diagnostics of an item or in the metadata of an event. -/
inductive DiagnosticValue where
  | null
  | flag (value : Bool)
  | number (value : Int)
  | text (value : String)
  | json (canonical : String)
  | counts (values : Dict String Nat)
  | sourceAnalytics (families : Dict String ItemSourceAnalytics)
  deriving DecidableEq

/-- `DpmWaveTrigger` -/
structure WaveTrigger where
  triggerType : WaveTriggerType
  triggerId : String
  rationale : String
  sourceRefs : List WaveSourceRef := []
  deriving DecidableEq

/-- `DpmRebalanceWaveItem` -/
structure RebalanceWaveItem where
  waveItemId : String
  portfolioId : String
  mandateId : Option String := none
  modelPortfolioId : Option String := none
  state : WaveItemState
  reasonCodes : List String := []
  sourceRefs : List WaveSourceRef := []
  alternativeSetId : Option String := none
  selectedAlternativeId : Option String := none
  proofPackId : Option String := none
  diagnostics : Dict String DiagnosticValue := .empty
  deriving DecidableEq

/-- `DpmWaveSourceAnalyticsSummary` -/
structure WaveSourceAnalyticsSummary where
  sourceFamily : String
  supportabilityState : String
  itemCount : Nat
  readyItemCount : Nat
  degradedItemCount : Nat
  blockedItemCount : Nat
  pendingReviewItemCount : Nat
  sourceSystems : List String
  sourceRefs : List WaveSourceRef
  reasonCodes : List String
  sourceMeasures : Dict String (List String)
  deriving DecidableEq

/-- `DpmWaveAggregateMetrics` -/
structure WaveAggregateMetrics where
  itemCount : Nat
  stateCounts : Dict String Nat
  readyItemCount : Nat
  blockedItemCount : Nat
  reviewRequiredItemCount : Nat
  sourceDegradedItemCount : Nat
  sourceAnalytics : List WaveSourceAnalyticsSummary := []
  deriving DecidableEq

/-- `DpmRebalanceWaveEvent` -/
structure RebalanceWaveEvent where
  eventId : String
  waveId : String
  fromState : Option WaveState
  toState : WaveState
  eventType : String
  actorId : String
  reasonCode : String
  correlationId : String
  createdAt : Int
  metadata : Dict String DiagnosticValue := .empty
  deriving DecidableEq

/-- `DpmWaveHandoffRef` -/
structure WaveHandoffRef where
  handoffRefId : String
  waveId : String
  itemIds : List String
  actorId : String
  reasonCode : String
  correlationId : String
  externalExecutionClaimed : Bool := false
  contentHash : String
  metadata : Dict String DiagnosticValue := .empty
  deriving DecidableEq

/-- `DpmRebalanceWave` -/
structure RebalanceWave where
  waveId : String
  state : WaveState
  trigger : WaveTrigger
  asOfDate : String
  createdBy : String
  correlationId : String
  tenantId : Option String
  version : Int := 1
  items : List RebalanceWaveItem
  aggregateMetrics : WaveAggregateMetrics
  events : List RebalanceWaveEvent := []
  handoffRefs : List WaveHandoffRef := []
  deriving DecidableEq

/-! ## Simulation operations -/

inductive SimulationOperationStatus where
  | pending
  | running
  | partiallyCompleted
  | succeeded
  | failed
  | cancelRequested
  | cancelled
  deriving DecidableEq

inductive SimulationItemStatus where
  | pending
  | running
  | succeeded
  | failed
  | cancelled
  deriving DecidableEq

/-- `DpmWaveSimulationOperation` -/
structure WaveSimulationOperation where
  operationId : String
  tenantId : String
  waveId : String
  requestHash : String
  idempotencyKeyHash : String
  correlationId : String
  actorId : String
  riskAuthorityContextHash : Option String := none
  sourceIdentityHash : String
  admittedWaveVersion : Int
  methods : List String := []
  maxConcurrency : Nat
  maxAttempts : Nat
  status : SimulationOperationStatus := .pending
  cancelReasonCode : Option String := none
  createdAt : Int
  updatedAt : Int
  deriving DecidableEq

/-- `DpmWaveSimulationItemRecord` -/
structure WaveSimulationItemRecord where
  operationId : String
  tenantId : String
  waveId : String
  waveItemId : String
  ordinal : Nat
  portfolioId : String
  inputPayload : String
  inputHash : String
  sourceIdentityHash : String
  status : SimulationItemStatus := .pending
  attemptCount : Nat := 0
  claimGeneration : Nat := 0
  workerId : Option String := none
  claimToken : Option String := none
  claimedAt : Option Int := none
  leaseExpiresAt : Option Int := none
  resultItem : Option RebalanceWaveItem := none
  errorCode : Option String := none
  errorMessage : Option String := none
  retryable : Bool := false
  completedAt : Option Int := none
  updatedAt : Int
  deriving DecidableEq

/-- `DpmWaveSimulationItemClaim` -/
structure WaveSimulationItemClaim where
  operationId : String
  tenantId : String
  waveId : String
  waveItemId : String
  portfolioId : String
  inputPayload : String
  inputHash : String
  sourceIdentityHash : String
  workerId : String
  claimToken : String
  claimGeneration : Nat
  attemptCount : Nat
  leaseExpiresAt : Int
  recoveryExhausted : Bool := false
  deriving DecidableEq

/-- `wave_simulation_item_is_retryable` -/
def waveSimulationItemIsRetryable (operation : WaveSimulationOperation)
    (item : WaveSimulationItemRecord) : Bool :=
  decide (item.status = .failed) && item.retryable &&
    decide (item.attemptCount < operation.maxAttempts)

/-- The counts that `derive_wave_simulation_operation_status_from_counts` takes. -/
structure SimulationItemCounts where
  total : Nat
  pending : Nat
  running : Nat
  succeeded : Nat
  failed : Nat
  cancelled : Nat
  retryWaiting : Nat

/-- `derive_wave_simulation_operation_status_from_counts` -/
def deriveWaveSimulationOperationStatusFromCounts (operation : WaveSimulationOperation)
    (counts : SimulationItemCounts) : SimulationOperationStatus :=
  if operation.cancelReasonCode.isSome then
    if counts.running ≠ 0 then .cancelRequested else .cancelled
  else if counts.running ≠ 0 then .running
  else if counts.pending ≠ 0 ∨ counts.retryWaiting ≠ 0 then
    if counts.succeeded ≠ 0 ∨ counts.failed ≠ 0 then .partiallyCompleted else .pending
  else if counts.succeeded = counts.total then .succeeded
  else if counts.failed = counts.total then .failed
  else if counts.succeeded ≠ 0 ∨ counts.failed ≠ 0 then .partiallyCompleted
  else if counts.cancelled = counts.total then .cancelled
  else .pending

/-- The number of records with a status. -/
def countStatus (items : List WaveSimulationItemRecord) (status : SimulationItemStatus) : Nat :=
  (items.map WaveSimulationItemRecord.status).count status

/-- `derive_wave_simulation_operation_status` -/
def deriveWaveSimulationOperationStatus (operation : WaveSimulationOperation)
    (items : List WaveSimulationItemRecord) : SimulationOperationStatus :=
  deriveWaveSimulationOperationStatusFromCounts operation
    { total := items.length
      pending := countStatus items .pending
      running := countStatus items .running
      succeeded := countStatus items .succeeded
      failed := countStatus items .failed
      cancelled := countStatus items .cancelled
      retryWaiting := items.countP (waveSimulationItemIsRetryable operation) }

end LotusManage.Waves
