import LotusManage.Lib.Runs
import LotusManage.Waves.SimulationStore

/-!
# Interleavings of wave simulation calls

The admission of `src/api/services/wave_simulation_operations.py` and the runs of
the repository under any number of workers.  `SimulationCall` lists the calls that
change the repository, and an interleaving is a list of them: each takes the lock
once.

The service reads the wave, resolves the payloads and computes the hashes before
it calls the repository, so an admission carries the wave as it was read, which
need not be the wave as it is stored when the call is made.

`Execution` keeps, next to the repository, the claims handed out and the claims
under which a publication was accepted, both in order.
-/

namespace LotusManage.Waves

/-! ## Admissions -/

/-- `wave_simulation_idempotency_key` -/
def waveSimulationIdempotencyKey (sha256Hex : String → String)
    (tenantId idempotencyKey : String) : String :=
  derivedIdentity sha256Hex "wsi" [tenantId, idempotencyKey]

/-- `_build_item_record`, with the item's source identity hash as an argument. -/
def buildItemRecord (sha256Hex : String → String) (operationId tenantId : String)
    (wave : RebalanceWave) (item : RebalanceWaveItem) (ordinal : Nat)
    (inputPayload sourceIdentityHash : String) (now : Int) : WaveSimulationItemRecord :=
  { operationId := operationId
    tenantId := tenantId
    waveId := wave.waveId
    waveItemId := item.waveItemId
    ordinal := ordinal
    portfolioId := item.portfolioId
    inputPayload := inputPayload
    inputHash := hashCanonicalPayload sha256Hex inputPayload
    sourceIdentityHash := sourceIdentityHash
    updatedAt := now }

/-- What `_admit_wave_simulation_operation` has when it calls the repository: the arguments
of the request, the wave it read, the resolved payloads and the hashes over them. -/
structure SimulationAdmission where
  waveId : String
  tenantId : String
  actorId : String
  correlationId : String
  idempotencyKey : String
  wave : RebalanceWave
  resolvedInputs : Dict String String
  itemSourceIdentityHash : RebalanceWaveItem → String
  requestHash : String
  sourceIdentityHash : String
  riskAuthorityContextHash : Option String
  methods : List String
  maxConcurrency : Nat
  maxAttempts : Nat
  event : RebalanceWaveEvent
  now : Int

namespace SimulationAdmission

variable (sha256Hex : String → String)

/-- `operation_id = derived_identity("wso", tenant_id, wave_id, idempotency_key)` -/
def operationId (a : SimulationAdmission) : String :=
  derivedIdentity sha256Hex "wso" [a.tenantId, a.waveId, a.idempotencyKey]

/-- The operation that the service builds. -/
def operation (a : SimulationAdmission) : WaveSimulationOperation :=
  { operationId := a.operationId sha256Hex
    tenantId := a.tenantId
    waveId := a.waveId
    requestHash := a.requestHash
    idempotencyKeyHash := waveSimulationIdempotencyKey sha256Hex a.tenantId a.idempotencyKey
    correlationId := a.correlationId
    actorId := a.actorId
    riskAuthorityContextHash := a.riskAuthorityContextHash
    sourceIdentityHash := a.sourceIdentityHash
    admittedWaveVersion := a.wave.version
    methods := a.methods
    maxConcurrency := a.maxConcurrency
    maxAttempts := a.maxAttempts
    createdAt := a.now
    updatedAt := a.now }

/-- The record of a wave item. -/
def itemRecord (a : SimulationAdmission) (item : RebalanceWaveItem) (ordinal : Nat) :
    WaveSimulationItemRecord :=
  buildItemRecord sha256Hex (a.operationId sha256Hex) a.tenantId a.wave item ordinal
    (a.resolvedInputs.getD item.waveItemId "\x7b\x7d") (a.itemSourceIdentityHash item) a.now

/-- The records that the service builds, one for each item of the wave. -/
def items (a : SimulationAdmission) : List WaveSimulationItemRecord :=
  a.wave.items.zipIdx.map (fun e => a.itemRecord sha256Hex e.1 e.2)

/-- The wave in its next state, `apply_wave_transition(wave, "SIMULATING", event)`. -/
def simulatingWave (a : SimulationAdmission) : RebalanceWave :=
  { a.wave with
    state := .simulating
    version := a.wave.version + 1
    events := a.wave.events ++ [a.event] }

end SimulationAdmission

/-! ## Calls and runs -/

/-- A call that can change the repository. -/
inductive SimulationCall where
  | saveWave (wave : RebalanceWave) (idempotencyKey requestHash : Option String)
      (tenantId : String)
  | updateWave (wave : RebalanceWave) (expectedVersion : Int) (tenantId : String)
  | admitOperation (admission : SimulationAdmission)
  | claim (call : ClaimCall)
  | publish (publication : Publication)
  | retry (tenantId operationId : String) (waveItemIds : Option (List String)) (retriedAt : Int)
  | cancel (tenantId operationId reasonCode : String) (cancelledAt : Int)

/-- The repository with the claims handed out and the claims published so far. -/
structure Execution where
  repository : WaveRepository
  issued : List WaveSimulationItemClaim
  accepted : List WaveSimulationItemClaim

namespace Execution

/-- A new repository. -/
def new : Execution := ⟨.new, [], []⟩

/-- One call.  A call that raises leaves the repository as it is. -/
def step (sha256Hex : String → String) (e : Execution) : SimulationCall → Execution
  | .saveWave wave idempotencyKey requestHash tenantId =>
    match Waves.saveWave sha256Hex e.repository wave idempotencyKey requestHash tenantId with
    | .error _ => e
    | .ok repository => { e with repository := repository }
  | .updateWave wave expectedVersion tenantId =>
    match Waves.updateWave e.repository wave expectedVersion tenantId with
    | .error _ => e
    | .ok repository => { e with repository := repository }
  | .admitOperation admission =>
    match admitSimulationOperation e.repository (admission.operation sha256Hex)
        (admission.items sha256Hex) admission.simulatingWave with
    | .error _ => e
    | .ok (repository, _, _) => { e with repository := repository }
  | .claim call =>
    { e with
      repository := (claimSimulationItems e.repository call).1
      issued := e.issued ++ (claimSimulationItems e.repository call).2 }
  | .publish publication =>
    match publishSimulationItem e.repository publication with
    | .error _ => e
    | .ok (repository, false) => { e with repository := repository }
    | .ok (repository, true) =>
      { e with repository := repository, accepted := e.accepted ++ [publication.claim] }
  | .retry tenantId operationId waveItemIds retriedAt =>
    { e with
      repository :=
        (retrySimulationItems e.repository tenantId operationId waveItemIds retriedAt).1 }
  | .cancel tenantId operationId reasonCode cancelledAt =>
    { e with
      repository :=
        (cancelSimulationOperation e.repository tenantId operationId reasonCode cancelledAt).1 }

/-- The execution of an interleaving. -/
def after (sha256Hex : String → String) (calls : List SimulationCall) : Execution :=
  Runs.run (step sha256Hex) new calls

/-- The last claim handed out for an item. -/
def latestClaim (e : Execution) (operationId waveItemId : String) :
    Option WaveSimulationItemClaim :=
  e.issued.reverse.find? (fun c => c.operationId = operationId ∧ c.waveItemId = waveItemId)

end Execution

/-- The admissions of an interleaving. -/
def admissions (calls : List SimulationCall) : List SimulationAdmission :=
  calls.filterMap (fun
    | .admitOperation admission => some admission
    | _ => none)

/-- The operation ids of the admissions do not collide: one id is derived for one tenant and
one key.  This is what `derived_identity` promises of its SHA-256 prefix. -/
def OperationIdsInjective (sha256Hex : String → String) (admitted : List SimulationAdmission) :
    Prop :=
  ∀ a ∈ admitted, ∀ b ∈ admitted, a.operationId sha256Hex = b.operationId sha256Hex →
    a.tenantId = b.tenantId ∧ a.idempotencyKey = b.idempotencyKey

end LotusManage.Waves
