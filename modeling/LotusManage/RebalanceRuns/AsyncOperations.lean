import LotusManage.Lib.Dict
import LotusManage.Lib.Runs

/-!
# Asynchronous operations and their execution tokens

The operation methods of `src/infrastructure/rebalance_runs/in_memory.py` with the records of
`src/core/rebalance_runs/models.py`.  A submitted operation is claimed under a token and a lease; once
the lease has run out another worker may take it over under a token of its own.  The result is
published under a token, and expired operations are purged, except while they run.

Each method takes the repository's lock, so an interleaving of the calls of any number of workers is a
list of `AsyncCall`.  `AsyncExecution` keeps, next to the two dictionaries, the granted claims and the
accepted publications in their order, and the ids drawn by submissions.

That two submissions draw different ids is what the code relies on (`SubmissionIdsDistinct`); tokens
are arbitrary.  No argument reads the clock either, so the results hold for any times.
-/

namespace LotusManage.RebalanceRuns

inductive AsyncOperationStatus where
  | pending
  | running
  | succeeded
  | failed
  deriving DecidableEq

/-- The statuses that a publication leaves behind. -/
def AsyncOperationStatus.Terminal (status : AsyncOperationStatus) : Prop :=
  status = .succeeded ∨ status = .failed

/-- `DpmAsyncOperationRecord`.  The operation type has the one value `ANALYZE_SCENARIOS`. -/
structure AsyncOperationRecord where
  tenantId : Option String := none
  operationId : String
  status : AsyncOperationStatus
  correlationId : String
  createdAt : Int
  startedAt : Option Int := none
  finishedAt : Option Int := none
  resultJson : Option String := none
  errorJson : Option String := none
  requestJson : Option String := none
  executionToken : Option String := none
  executionAttempt : Nat := 0
  executionClaimedAt : Option Int := none
  executionLeaseExpiresAt : Option Int := none

/-- The two dictionaries that `InMemoryDpmRunRepository` keeps for operations. -/
structure AsyncRepository where
  operations : Dict String AsyncOperationRecord
  operationByCorrelation : Dict (Option String × String) String

/-! ## Submission -/

/-- The arguments of `build_analyze_operation`. -/
structure SubmitCall where
  tenantId : String
  operationId : String
  correlationId : String
  requestJson : String
  createdAt : Int

/-- `build_analyze_operation` -/
def buildAnalyzeOperation (call : SubmitCall) : AsyncOperationRecord :=
  { tenantId := some call.tenantId
    operationId := call.operationId
    status := .pending
    correlationId := call.correlationId
    createdAt := call.createdAt
    requestJson := some call.requestJson }

/-- `create_operation`, which is `_save_operation`.  The flag says whether it stored the
operation; otherwise it raises `DPM_ASYNC_OPERATION_CORRELATION_CONFLICT`. -/
def createOperation (repo : AsyncRepository) (operation : AsyncOperationRecord) :
    AsyncRepository × Bool :=
  let correlationKey := (operation.tenantId, operation.correlationId)
  if (repo.operationByCorrelation.get? correlationKey).any
      (fun existing => decide (existing ≠ operation.operationId)) then (repo, false)
  else
    ({ operations := repo.operations.set operation.operationId operation
       operationByCorrelation :=
         repo.operationByCorrelation.set correlationKey operation.operationId }, true)

/-! ## Claims -/

/-- The arguments of `claim_operation_execution`. -/
structure ExecutionClaimCall where
  tenantId : String
  operationId : String
  executionToken : String
  claimedAt : Int
  leaseExpiresAt : Int

/-- The condition under which a claim is granted, the tenant apart. -/
def executable (operation : AsyncOperationRecord) (claimedAt : Int) : Bool :=
  let leaseExpired :=
    decide (operation.status = .running) &&
      operation.executionLeaseExpiresAt.any (fun lease => decide (lease ≤ claimedAt))
  operation.requestJson.isSome && (decide (operation.status = .pending) || leaseExpired)

/-- The operation under a new claim. -/
def claimedOperation (call : ExecutionClaimCall) (operation : AsyncOperationRecord) :
    AsyncOperationRecord :=
  { operation with
    status := .running
    startedAt := some call.claimedAt
    finishedAt := none
    resultJson := none
    errorJson := none
    executionToken := some call.executionToken
    executionAttempt := operation.executionAttempt + 1
    executionClaimedAt := some call.claimedAt
    executionLeaseExpiresAt := some call.leaseExpiresAt }

/-- `claim_operation_execution` -/
def claimOperationExecution (repo : AsyncRepository) (call : ExecutionClaimCall) :
    AsyncRepository × Option AsyncOperationRecord :=
  match repo.operations.get? call.operationId with
  | none => (repo, none)
  | some operation =>
    if operation.tenantId ≠ some call.tenantId then (repo, none)
    else if executable operation call.claimedAt = false then (repo, none)
    else
      ({ repo with
         operations := repo.operations.set call.operationId (claimedOperation call operation) },
        some (claimedOperation call operation))

/-! ## Publications -/

/-- What a worker publishes: the result text, or the error text. -/
inductive Outcome where
  | success (resultJson : String)
  | failure (errorJson : String)

/-- The arguments of `publish_operation_success` and `publish_operation_failure`. -/
structure PublishCall where
  tenantId : String
  operationId : String
  executionToken : String
  outcome : Outcome
  finishedAt : Int

/-- The condition under which both methods refuse, for a stored operation. -/
def refusesOutcome (operation : AsyncOperationRecord) (call : PublishCall) : Bool :=
  decide (operation.tenantId ≠ some call.tenantId) ||
    decide (operation.status ≠ .running) ||
    decide (operation.executionToken ≠ some call.executionToken)

/-- The published operation. -/
def publishedOperation (call : PublishCall) (operation : AsyncOperationRecord) :
    AsyncOperationRecord :=
  match call.outcome with
  | .success resultJson =>
    { operation with
      status := .succeeded
      resultJson := some resultJson
      errorJson := none
      finishedAt := some call.finishedAt
      executionLeaseExpiresAt := none }
  | .failure errorJson =>
    { operation with
      status := .failed
      resultJson := none
      errorJson := some errorJson
      finishedAt := some call.finishedAt
      executionLeaseExpiresAt := none }

/-- `publish_operation_success` and `publish_operation_failure` -/
def publishOperation (repo : AsyncRepository) (call : PublishCall) : AsyncRepository × Bool :=
  match repo.operations.get? call.operationId with
  | none => (repo, false)
  | some operation =>
    if refusesOutcome operation call then (repo, false)
    else
      ({ repo with
         operations := repo.operations.set call.operationId (publishedOperation call operation) },
        true)

/-! ## Purges -/

/-- The operations that a purge removes.  A running operation is recovery state. -/
def purgeable (cutoff : Int) (operation : AsyncOperationRecord) : Bool :=
  decide (operation.status ≠ .running) &&
    decide (operation.finishedAt.getD operation.createdAt < cutoff)

/-- One turn of the loop of `purge_expired_operations`. -/
def purgeOperation (cutoff : Int) (repo : AsyncRepository)
    (entry : String × AsyncOperationRecord) : AsyncRepository :=
  if purgeable cutoff entry.2 then
    let correlationKey := (entry.2.tenantId, entry.2.correlationId)
    { operations := repo.operations.erase entry.1
      operationByCorrelation :=
        if repo.operationByCorrelation.get? correlationKey = some entry.1 then
          repo.operationByCorrelation.erase correlationKey
        else repo.operationByCorrelation }
  else repo

/-- `purge_expired_operations`: the repository and the number of removed operations. -/
def purgeExpiredOperations (repo : AsyncRepository) (ttlSeconds now : Int) :
    AsyncRepository × Nat :=
  let cutoff := now - ttlSeconds * 1000000
  (repo.operations.items.foldl (purgeOperation cutoff) repo,
    repo.operations.items.countP (fun entry => purgeable cutoff entry.2))

/-! ## Interleavings -/

/-- A call that can change the operations. -/
inductive AsyncCall where
  | submit (call : SubmitCall)
  | claim (call : ExecutionClaimCall)
  | publish (call : PublishCall)
  | purge (ttlSeconds now : Int)

/-- A granted claim, or an accepted publication: the operation and the token. -/
structure TokenUse where
  operationId : String
  executionToken : String

/-- The repository with the granted claims and the accepted publications so far, and the
ids drawn by the submissions so far. -/
structure AsyncExecution where
  repository : AsyncRepository
  submitted : List String
  granted : List TokenUse
  published : List TokenUse

namespace AsyncExecution

/-- A new repository. -/
def new : AsyncExecution := ⟨⟨.empty, .empty⟩, [], [], []⟩

/-- One call. -/
def step (e : AsyncExecution) : AsyncCall → AsyncExecution
  | .submit call =>
    { e with
      repository := (createOperation e.repository (buildAnalyzeOperation call)).1
      submitted := e.submitted ++ [call.operationId] }
  | .claim call =>
    let claimed := claimOperationExecution e.repository call
    { e with
      repository := claimed.1
      granted :=
        if claimed.2.isSome then e.granted ++ [⟨call.operationId, call.executionToken⟩]
        else e.granted }
  | .publish call =>
    let outcome := publishOperation e.repository call
    { e with
      repository := outcome.1
      published :=
        if outcome.2 then e.published ++ [⟨call.operationId, call.executionToken⟩]
        else e.published }
  | .purge ttlSeconds now =>
    { e with repository := (purgeExpiredOperations e.repository ttlSeconds now).1 }

/-- The execution of an interleaving. -/
def after (calls : List AsyncCall) : AsyncExecution := Runs.run step new calls

/-- The granted claims of an operation. -/
def grantsOf (e : AsyncExecution) (operationId : String) : List TokenUse :=
  e.granted.filter (fun use => use.operationId = operationId)

/-- The token of the last granted claim of an operation. -/
def latestToken (e : AsyncExecution) (operationId : String) : Option String :=
  (e.grantsOf operationId).getLast?.map TokenUse.executionToken

end AsyncExecution

/-- The ids drawn by the submissions of an interleaving. -/
def submittedIds (calls : List AsyncCall) : List String :=
  calls.filterMap (fun
    | .submit call => some call.operationId
    | _ => none)

/-- No two submissions draw one id, which is what the code relies on `uuid4` for. -/
def SubmissionIdsDistinct (calls : List AsyncCall) : Prop := (submittedIds calls).Nodup

end LotusManage.RebalanceRuns
