import LotusManage.Waves.Commands
import LotusManage.Waves.StoreSound

/-!
# Asynchronous simulation of a wave

The services of `src/api/services/wave_simulation_operations.py`: the admission, which moves a
source-checked wave to `SIMULATING`, the work on one claim, which ends in a publication, and the
reconciliation, which carries the records of an operation back into the wave; with the reads of
`src/infrastructure/waves/in_memory.py` that they use.

A reconciliation reads the wave, the operation and the records page by page, and writes the wave with
the version it read; when that version is gone it starts over.  `reconciledWave` is what it computes
from its reads, and `reconcileWaveSimulationOperation` is a call that nothing interrupts.

One reconciliation replaces the item of a succeeded record by the published result, blocks the item of
a failed or a cancelled record, and leaves the other items alone.  Doing it twice is doing it once,
also in the order of the keys of the diagnostics, so `reconciled_items != wave.items` compares equal
values as equal here too.
-/

namespace LotusManage.Waves

/-! ## Reads of the repository -/

/-- `get_simulation_operation` -/
def getSimulationOperation (repo : WaveRepository) (tenantId operationId : String) :
    Option WaveSimulationOperation :=
  (repo.simulationOperations.get? operationId).filter
    (fun operation => operation.tenantId = tenantId)

/-- `get_simulation_operation_by_idempotency` -/
def getSimulationOperationByIdempotency (repo : WaveRepository)
    (tenantId idempotencyKeyHash : String) : Option WaveSimulationOperation :=
  (repo.simulationOperationIdempotency.get? (tenantId, idempotencyKeyHash)).bind
    repo.simulationOperations.get?

/-- `DpmWaveSimulationItemPage` -/
structure SimulationItemPage where
  items : List WaveSimulationItemRecord
  totalCount : Nat
  nextOffset : Option Nat

/-- The records of an operation in the order of the pages. -/
def sortedSimulationItems (repo : WaveRepository) (tenantId operationId : String) :
    List WaveSimulationItemRecord :=
  (simulationItemsForOperation repo.simulationItems operationId tenantId).insertionSort
    (fun a b => simulationItemLe a b)

/-- `list_simulation_items` -/
def listSimulationItems (repo : WaveRepository) (tenantId operationId : String)
    (limit offset : Nat) : SimulationItemPage :=
  match getSimulationOperation repo tenantId operationId with
  | none => ⟨[], 0, none⟩
  | some _ =>
    let items := sortedSimulationItems repo tenantId operationId
    let page := (items.drop offset).take limit
    { items := page
      totalCount := items.length
      nextOffset :=
        if offset + page.length < items.length then some (offset + page.length) else none }

/-- The page size of `_all_simulation_items`. -/
def simulationItemPageLimit : Nat := 500

variable {repo : WaveRepository} {tenantId operationId : String} {wave : RebalanceWave}
  {operation : WaveSimulationOperation} {record : WaveSimulationItemRecord}
  {records : List WaveSimulationItemRecord}

theorem lt_of_nextOffset_eq_some {offset next : Nat}
    (h : (listSimulationItems repo tenantId operationId simulationItemPageLimit
      offset).nextOffset = some next) :
    offset < next ∧ next < (sortedSimulationItems repo tenantId operationId).length := by
  unfold listSimulationItems at h
  split at h
  · cases h
  · dsimp only at h
    split at h
    · rename_i hlt
      cases h
      refine ⟨?_, hlt⟩
      rw [List.length_take, List.length_drop, simulationItemPageLimit] at hlt ⊢
      omega
    · cases h

/-- `_all_simulation_items`, from an offset on. -/
def allSimulationItemsFrom (repo : WaveRepository) (tenantId operationId : String)
    (offset : Nat) : List WaveSimulationItemRecord :=
  match _h : (listSimulationItems repo tenantId operationId simulationItemPageLimit
      offset).nextOffset with
  | none =>
    (listSimulationItems repo tenantId operationId simulationItemPageLimit offset).items
  | some next =>
    (listSimulationItems repo tenantId operationId simulationItemPageLimit offset).items ++
      allSimulationItemsFrom repo tenantId operationId next
termination_by (sortedSimulationItems repo tenantId operationId).length - offset
decreasing_by
  have hlt := lt_of_nextOffset_eq_some _h
  omega

/-- `_all_simulation_items` -/
def allSimulationItems (repo : WaveRepository) (tenantId operationId : String) :
    List WaveSimulationItemRecord :=
  allSimulationItemsFrom repo tenantId operationId 0

/-! ## Admission -/

/-- What `_admit_wave_simulation_operation` is called with, and what it computes from the
wave it read: the resolved payloads and the hashes over them. -/
structure AdmitRequest where
  actorId : String
  correlationId : String
  idempotencyKey : String
  resolvedInputs : Dict String String
  itemSourceIdentityHash : RebalanceWaveItem → String
  requestHash : String
  sourceIdentityHash : String
  riskAuthorityContextHash : Option String
  methods : List String
  maxConcurrency : Nat
  maxAttempts : Nat
  stamp : EventStamp
  now : Int

/-- The reason code of the event that admits an operation. -/
def asyncSimulationAccepted : String := "WAVE_ASYNC_SIMULATION_ACCEPTED"

/-- The event that records an admission. -/
def AdmitRequest.event (request : AdmitRequest) (sha256Hex : String → String)
    (tenantId : String) (wave : RebalanceWave) : RebalanceWaveEvent :=
  buildWaveEvent request.stamp wave.waveId .sourceChecked .simulating request.actorId
    request.correlationId asyncSimulationAccepted
    (Dict.ofEntries
      [("operation_id", .text
        (derivedIdentity sha256Hex "wso" [tenantId, wave.waveId, request.idempotencyKey])),
       ("item_count", .number wave.items.length),
       ("max_concurrency", .number request.maxConcurrency),
       ("max_attempts", .number request.maxAttempts),
       ("source_identity_hash", .text request.sourceIdentityHash)])
    "STATE_TRANSITION"

/-- The admission of a request, for the wave that was read. -/
def AdmitRequest.admission (request : AdmitRequest) (sha256Hex : String → String)
    (tenantId : String) (wave : RebalanceWave) : SimulationAdmission :=
  { waveId := wave.waveId
    tenantId := tenantId
    actorId := request.actorId
    correlationId := request.correlationId
    idempotencyKey := request.idempotencyKey
    wave := wave
    resolvedInputs := request.resolvedInputs
    itemSourceIdentityHash := request.itemSourceIdentityHash
    requestHash := request.requestHash
    sourceIdentityHash := request.sourceIdentityHash
    riskAuthorityContextHash := request.riskAuthorityContextHash
    methods := request.methods
    maxConcurrency := request.maxConcurrency
    maxAttempts := request.maxAttempts
    event := request.event sha256Hex tenantId wave
    now := request.now }

/-- `_admit_wave_simulation_operation` after its read of the wave: the repository, the
operation and whether it is a replay. -/
def admitWaveSimulationOperation (sha256Hex : String → String) (repo : WaveRepository)
    (tenantId : String) (wave : RebalanceWave) (request : AdmitRequest) :
    Except WaveError (WaveRepository × WaveSimulationOperation × Bool) :=
  let admission := request.admission sha256Hex tenantId wave
  match getSimulationOperationByIdempotency repo tenantId
      (waveSimulationIdempotencyKey sha256Hex tenantId request.idempotencyKey) with
  | some existing =>
    if existing.requestHash ≠ request.requestHash ∨
        existing.riskAuthorityContextHash ≠ request.riskAuthorityContextHash then
      .error (.validation "DPM_WAVE_SIMULATION_IDEMPOTENCY_CONFLICT"
        "The idempotency key already owns different immutable simulation input.")
    else .ok (repo, existing, true)
  | none =>
    if wave.state ≠ .sourceChecked then
      .error (.validation "DPM_WAVE_SIMULATION_INVALID_STATE"
        ("Wave " ++ wave.waveId ++ " must be SOURCE_CHECKED before asynchronous simulation."))
    else
      match applyWaveTransition wave .simulating admission.event with
      | .error e => .error e
      | .ok simulatingWave =>
        match admitSimulationOperation repo (admission.operation sha256Hex)
            (admission.items sha256Hex) simulatingWave with
        | .error e => .error (.validation e.code e.code)
        | .ok admitted => .ok admitted

/-! ## Work on a claim -/

/-- Why the inputs of a claim cannot be read: `DpmWaveFrozenInputIntegrityError`, or another
error. -/
inductive ClaimInputError where
  | integrity (code : String)
  | raised (name : String)

/-- What a worker computes outside the repository, and when. -/
structure ClaimWork where
  sourceIdentityHash : RebalanceWave → RebalanceWaveItem → String
  inputs : Except ClaimInputError SimulationInputs
  startedAt : Int
  completedAt : Int

/-- `type(exc).__name__` -/
def WaveError.typeName : WaveError → String
  | validation _ _ => "DpmWaveValidationError"
  | lookup _ _ => "DpmWaveLookupError"
  | invalidTransition _ => "DpmWaveInvalidTransitionError"
  | raised name => name

/-- `_simulation_inputs_for_claim` -/
def simulationInputsForClaim (sha256Hex : String → String) (claim : WaveSimulationItemClaim)
    (work : ClaimWork) : Except ClaimInputError SimulationInputs :=
  if hashCanonicalPayload sha256Hex claim.inputPayload ≠ claim.inputHash then
    .error (.integrity "DPM_WAVE_SIMULATION_INPUT_HASH_CONFLICT")
  else work.inputs

/-- The failure of a worker.  It reads the operation for the number of attempts, and raises
when there is none. -/
def workerFailure (claim : WaveSimulationItemClaim)
    (operation : Option WaveSimulationOperation) (name : String) (completedAt : Int) :
    Option Publication :=
  operation.map (fun operation =>
    let retryable := decide (claim.attemptCount < operation.maxAttempts)
    .failure claim
      (if retryable then "DPM_WAVE_SIMULATION_WORKER_FAILURE"
        else "DPM_WAVE_SIMULATION_RETRY_EXHAUSTED")
      name retryable completedAt)

/-- `_execute_claim` up to its publication, with the wave and the operation that it reads. -/
def executeClaim (sha256Hex : String → String) (claim : WaveSimulationItemClaim)
    (wave : Option RebalanceWave) (operation : Option WaveSimulationOperation)
    (work : ClaimWork) : Option Publication :=
  if claim.recoveryExhausted then
    some (.failure claim "DPM_WAVE_SIMULATION_RETRY_EXHAUSTED"
      "The prior worker lease expired after the maximum financial-work claims." false
      work.startedAt)
  else
    match wave with
    | none =>
      some (.failure claim "DPM_WAVE_SIMULATION_ITEM_NOT_FOUND"
        "The admitted wave is no longer available." false work.startedAt)
    | some wave =>
      match wave.items.find? (fun item => item.waveItemId = claim.waveItemId) with
      | none =>
        some (.failure claim "DPM_WAVE_SIMULATION_ITEM_NOT_FOUND"
          "The admitted wave item is no longer available." false work.startedAt)
      | some item =>
        if work.sourceIdentityHash wave item ≠ claim.sourceIdentityHash then
          some (.failure claim "DPM_WAVE_SIMULATION_SOURCE_REVISION_CONFLICT"
            "The wave item source identity changed after operation admission." false
            work.startedAt)
        else
          match simulationInputsForClaim sha256Hex claim work with
          | .error (.integrity code) =>
            some (.failure claim code
              "Persisted simulation input failed integrity validation." false
              work.completedAt)
          | .error (.raised name) => workerFailure claim operation name work.completedAt
          | .ok inputs =>
            match simulateItem inputs item with
            | .error e => workerFailure claim operation e.typeName work.completedAt
            | .ok resultItem =>
              if portfolioIdentityConflict ∈ resultItem.reasonCodes then
                some (.failure claim portfolioIdentityConflict
                  "Construction input or result did not match the admitted portfolio." false
                  work.completedAt)
              else some (.result claim resultItem work.completedAt)

/-! ## Reconciliation -/

/-- The text of an operation status. -/
def SimulationOperationStatus.code : SimulationOperationStatus → String
  | pending => "PENDING"
  | running => "RUNNING"
  | partiallyCompleted => "PARTIALLY_COMPLETED"
  | succeeded => "SUCCEEDED"
  | failed => "FAILED"
  | cancelRequested => "CANCEL_REQUESTED"
  | cancelled => "CANCELLED"

/-- The reason code of a record that ended without a result. -/
def simulationFailureCode (record : WaveSimulationItemRecord) : String :=
  let default :=
    if record.status = .cancelled then "DPM_WAVE_SIMULATION_CANCELLED"
    else "DPM_WAVE_SIMULATION_WORKER_FAILURE"
  match record.errorCode with
  | none => default
  | some code => if code = "" then default else code

/-- What a record that ended without a result leaves in the diagnostics of its item. -/
def simulationFailureEntries (record : WaveSimulationItemRecord) :
    List (String × DiagnosticValue) :=
  [("simulation_operation_id", .text record.operationId),
   ("simulation_attempt_count", .number record.attemptCount),
   ("simulation_error", .ofText? record.errorMessage)]

/-- The body of the loop of `_reconciled_wave_items`, for an item that has a record. -/
def reconciledItem (operation : WaveSimulationOperation) (record : WaveSimulationItemRecord)
    (item : RebalanceWaveItem) : RebalanceWaveItem :=
  match record.resultItem with
  | some resultItem => resultItem
  | none =>
    if record.status = .failed ∧ record.retryable = true ∧
        record.attemptCount < operation.maxAttempts then item
    else if record.status = .failed ∨ record.status = .cancelled then
      { item with
        state := .simulationBlocked
        reasonCodes := [simulationFailureCode record]
        diagnostics := item.diagnostics.merge (simulationFailureEntries record) }
    else item

/-- `_reconciled_wave_items` -/
def reconciledWaveItems (items : List RebalanceWaveItem) (operation : WaveSimulationOperation)
    (records : List WaveSimulationItemRecord) : List RebalanceWaveItem :=
  let byId := Dict.ofEntries (records.map (fun record => (record.waveItemId, record)))
  items.map (fun item =>
    match byId.get? item.waveItemId with
    | none => item
    | some record => reconciledItem operation record item)

/-- `_operation_items_are_terminal` -/
def operationItemsAreTerminal (operation : WaveSimulationOperation)
    (items : List WaveSimulationItemRecord) : Bool :=
  items.all (fun item =>
    decide (item.status = .succeeded ∨ item.status = .cancelled) ||
      (decide (item.status = .failed) && !waveSimulationItemIsRetryable operation item))

/-- The last event of a wave that admits an operation. -/
def asyncAdmission (wave : RebalanceWave) : Option RebalanceWaveEvent :=
  wave.events.reverse.find? (fun event => event.reasonCode = asyncSimulationAccepted)

/-- The check before a reconciliation: the wave is simulating, for this operation. -/
def awaitsReconciliation (wave : RebalanceWave) (operationId : String) : Bool :=
  decide (wave.state = .simulating) &&
    match asyncAdmission wave with
    | none => true
    | some admission =>
      decide (admission.metadata.get? "operation_id" = some (.text operationId))

/-- The event that ends a simulation. -/
def completionEvent (stamp : EventStamp) (candidate : RebalanceWave)
    (operation : WaveSimulationOperation) (finalState : WaveState) : RebalanceWaveEvent :=
  buildWaveEvent stamp candidate.waveId .simulating finalState operation.actorId
    operation.correlationId "WAVE_ASYNC_SIMULATION_COMPLETED"
    (Dict.ofEntries
      [("operation_id", .text operation.operationId),
       ("operation_status", .text operation.status.code),
       ("state_counts", .counts candidate.aggregateMetrics.stateCounts)])
    "STATE_TRANSITION"

/-- The wave that a reconciliation writes, or none when it has nothing to write. -/
def reconciledWave (wave : RebalanceWave) (operation : WaveSimulationOperation)
    (records : List WaveSimulationItemRecord) (stamp : EventStamp) :
    Except WaveError (Option RebalanceWave) :=
  let reconciledItems := reconciledWaveItems wave.items operation records
  let candidate := waveWithItemsAndAggregate wave reconciledItems
  if operationItemsAreTerminal operation records then
    let finalState := simulationResultState reconciledItems
    match applyWaveTransition candidate finalState
        (completionEvent stamp candidate operation finalState) with
    | .error e => .error e
    | .ok completed => .ok (some completed)
  else if reconciledItems ≠ wave.items then
    .ok (some { candidate with version := wave.version + 1 })
  else .ok none

/-- One round of `_reconcile_wave_simulation_operation_locked` after its reads: the repository
and the wave it returns, or none when the version is gone and the next round begins. -/
def reconcileRound (repo : WaveRepository) (tenantId : String) (wave : RebalanceWave)
    (operation : WaveSimulationOperation) (records : List WaveSimulationItemRecord)
    (stamp : EventStamp) : Except WaveError (Option (WaveRepository × RebalanceWave)) :=
  match reconciledWave wave operation records stamp with
  | .error e => .error e
  | .ok none => .ok (some (repo, wave))
  | .ok (some candidate) =>
    match updateWave repo candidate wave.version tenantId with
    | .error _ => .ok none
    | .ok repo' => .ok (some (repo', candidate))

/-- `reconcile_wave_simulation_operation`, when nothing else changes the repository during the
call.  The result is none when its only round loses the version. -/
def reconcileWaveSimulationOperation (repo : WaveRepository) (tenantId operationId : String)
    (stamp : EventStamp) : Except WaveError (Option (WaveRepository × RebalanceWave)) :=
  match getSimulationOperation repo tenantId operationId with
  | none =>
    .error (.lookup "DPM_WAVE_SIMULATION_OPERATION_NOT_FOUND"
      ("Simulation operation " ++ operationId ++ " was not found."))
  | some operation =>
    match getWave repo operation.waveId tenantId with
    | none =>
      .error (.lookup "DPM_WAVE_NOT_FOUND" ("Wave " ++ operation.waveId ++ " was not found."))
    | some wave =>
      if awaitsReconciliation wave operationId then
        reconcileRound repo tenantId wave operation
          (allSimulationItems repo tenantId operationId) stamp
      else .ok (some (repo, wave))

/-! ## What the pages hold -/

theorem getWave_eq_some {waveId : String} :
    getWave repo waveId tenantId = some wave ↔
      repo.waves.get? waveId = some wave ∧ wave.tenantId = some tenantId := by
  rw [getWave, Option.filter_eq_some_iff, decide_eq_true_eq]

theorem getSimulationOperation_eq_some :
    getSimulationOperation repo tenantId operationId = some operation ↔
      repo.simulationOperations.get? operationId = some operation ∧
        operation.tenantId = tenantId := by
  rw [getSimulationOperation, Option.filter_eq_some_iff, decide_eq_true_eq]

theorem mem_sortedSimulationItems :
    record ∈ sortedSimulationItems repo tenantId operationId ↔
      record ∈ simulationItemsForOperation repo.simulationItems operationId tenantId :=
  (List.perm_insertionSort _ _).mem_iff

section Pages

variable {repo : WaveRepository} {tenantId operationId : String}
  {operation : WaveSimulationOperation}

theorem listSimulationItems_of_found
    (h : getSimulationOperation repo tenantId operationId = some operation) (limit offset : Nat) :
    (listSimulationItems repo tenantId operationId limit offset).items =
        ((sortedSimulationItems repo tenantId operationId).drop offset).take limit ∧
      (listSimulationItems repo tenantId operationId limit offset).nextOffset =
        if offset + limit < (sortedSimulationItems repo tenantId operationId).length then
          some (offset + limit)
        else none := by
  unfold listSimulationItems
  rw [h]
  refine ⟨rfl, ?_⟩
  dsimp only
  rw [List.length_take, List.length_drop]
  by_cases hlt : offset + limit < (sortedSimulationItems repo tenantId operationId).length
  · have hmin : min limit ((sortedSimulationItems repo tenantId operationId).length - offset) =
        limit := by omega
    rw [hmin]
  · rw [if_neg hlt, if_neg]
    omega

theorem allSimulationItemsFrom_eq
    (h : getSimulationOperation repo tenantId operationId = some operation) (offset : Nat) :
    allSimulationItemsFrom repo tenantId operationId offset =
      (sortedSimulationItems repo tenantId operationId).drop offset := by
  -- the recursion of the loop: the last page, and a page with a successor
  fun_induction allSimulationItemsFrom repo tenantId operationId offset with
  | case1 offset hnext =>
    obtain ⟨hitems, hoffset⟩ := listSimulationItems_of_found h simulationItemPageLimit offset
    rw [hoffset] at hnext
    split at hnext
    · cases hnext
    · rw [hitems, List.take_of_length_le]
      rw [List.length_drop]
      omega
  | case2 offset next hnext ih =>
    obtain ⟨hitems, hoffset⟩ := listSimulationItems_of_found h simulationItemPageLimit offset
    rw [hoffset] at hnext
    split at hnext
    · cases hnext
      rw [hitems, ih, ← List.drop_drop, List.take_append_drop]
    · cases hnext

theorem allSimulationItems_eq
    (h : getSimulationOperation repo tenantId operationId = some operation) :
    allSimulationItems repo tenantId operationId =
      sortedSimulationItems repo tenantId operationId := by
  rw [allSimulationItems, allSimulationItemsFrom_eq h, List.drop_zero]

end Pages

/-! ## What a reconciliation does to an item -/

theorem operationItemsAreTerminal_iff :
    operationItemsAreTerminal operation records = true ↔
      ∀ record ∈ records, Finished operation record := by
  rw [operationItemsAreTerminal, List.all_eq_true]
  refine forall₂_congr fun record _ => ?_
  simp only [Bool.or_eq_true, decide_eq_true_eq, Bool.and_eq_true, Bool.not_eq_true', Finished,
    or_assoc]

section Items

variable {operation : WaveSimulationOperation} {record : WaveSimulationItemRecord}

theorem nodup_simulationFailureEntries (record : WaveSimulationItemRecord) :
    ((simulationFailureEntries record).map Prod.fst).Nodup := by
  simp [simulationFailureEntries]

theorem reconciledItem_reconciledItem (operation : WaveSimulationOperation)
    (record : WaveSimulationItemRecord) (item : RebalanceWaveItem) :
    reconciledItem operation record (reconciledItem operation record item) =
      reconciledItem operation record item := by
  unfold reconciledItem
  split
  · rfl
  · split
    · rfl
    · split
      · dsimp only
        rw [Dict.merge_merge_self (nodup_simulationFailureEntries record)]
      · rfl

theorem reconciledItem_of_not_finished
    (hresult : record.status = .succeeded ↔ record.resultItem.isSome = true)
    (hopen : ¬ Finished operation record) (item : RebalanceWaveItem) :
    reconciledItem operation record item = item := by
  simp only [Finished, not_or, not_and, Bool.not_eq_false] at hopen
  obtain ⟨hsucceeded, hcancelled, hfailed⟩ := hopen
  have hnone : record.resultItem = none := by
    rw [← Option.not_isSome_iff_eq_none]
    exact fun hsome => hsucceeded (hresult.mpr hsome)
  unfold reconciledItem
  rw [hnone]
  dsimp only
  by_cases hstatus : record.status = .failed
  · have hretry := hfailed hstatus
    simp only [waveSimulationItemIsRetryable, Bool.and_eq_true, decide_eq_true_eq] at hretry
    rw [if_pos ⟨hretry.1.1, hretry.1.2, hretry.2⟩]
  · rw [if_neg (fun h => hstatus h.1), if_neg (fun h => h.elim hstatus hcancelled)]

theorem reconciledItem_of_result {resultItem : RebalanceWaveItem}
    (hresult : record.resultItem = some resultItem) (item : RebalanceWaveItem) :
    reconciledItem operation record item = resultItem := by
  unfold reconciledItem
  rw [hresult]

theorem reconciledItem_of_failure (hnone : record.resultItem = none)
    (hfin : Finished operation record) (hstatus : record.status ≠ .succeeded)
    (item : RebalanceWaveItem) :
    reconciledItem operation record item =
      { item with
        state := .simulationBlocked
        reasonCodes := [simulationFailureCode record]
        diagnostics := item.diagnostics.merge (simulationFailureEntries record) } := by
  unfold reconciledItem
  rw [hnone]
  dsimp only
  rw [if_neg, if_pos]
  · rcases hfin with h | h | ⟨h, _⟩
    · exact absurd h hstatus
    · exact Or.inr h
    · exact Or.inl h
  · rintro ⟨hfailed, hretryable, hattempts⟩
    have hretry := hfin.not_isRetryable
    simp [waveSimulationItemIsRetryable, hfailed, hretryable, hattempts] at hretry

theorem waveItemId_reconciledItem {item : RebalanceWaveItem}
    (hresult : ∀ resultItem, record.resultItem = some resultItem →
      resultItem.waveItemId = item.waveItemId) :
    (reconciledItem operation record item).waveItemId = item.waveItemId := by
  unfold reconciledItem
  split
  · rename_i resultItem hsome
    exact hresult resultItem hsome
  · split
    · rfl
    · split <;> rfl

end Items

/-! ## The wave that a reconciliation writes -/

theorem get?_recordsById (hnodup : (records.map WaveSimulationItemRecord.waveItemId).Nodup)
    {id : String} :
    (Dict.ofEntries (records.map (fun record => (record.waveItemId, record)))).get? id =
        some record ↔ record ∈ records ∧ record.waveItemId = id := by
  constructor
  · intro h
    obtain ⟨row, hrow, heq⟩ := List.mem_map.mp (Dict.mem_of_get?_ofEntries h)
    cases heq
    exact ⟨hrow, rfl⟩
  · rintro ⟨hmem, rfl⟩
    refine Dict.get?_ofEntries_of_forall ?_ ?_
    · rw [List.map_map]
      exact List.mem_map_of_mem hmem
    · intro e he hkey
      obtain ⟨row, hrow, rfl⟩ := List.mem_map.mp he
      exact List.inj_on_of_nodup_map hnodup hrow hmem hkey

/-- The wave with the result of its simulation. -/
def completedWave (wave : RebalanceWave) (operation : WaveSimulationOperation)
    (records : List WaveSimulationItemRecord) (stamp : EventStamp) : RebalanceWave :=
  let items := reconciledWaveItems wave.items operation records
  let candidate := waveWithItemsAndAggregate wave items
  { candidate with
    state := simulationResultState items
    version := wave.version + 1
    events := wave.events ++
      [completionEvent stamp candidate operation (simulationResultState items)] }

/-- The wave with the results so far. -/
def progressedWave (wave : RebalanceWave) (operation : WaveSimulationOperation)
    (records : List WaveSimulationItemRecord) : RebalanceWave :=
  { waveWithItemsAndAggregate wave (reconciledWaveItems wave.items operation records) with
    version := wave.version + 1 }

theorem simulationResultState_allowed (items : List RebalanceWaveItem) :
    simulationResultState items ∈ allowedWaveTransitions .simulating := by
  rcases simulationResultState_cases items with h | h | h <;> rw [h] <;> decide

/-- A reconciliation of a simulating wave completes it, records progress or has nothing to
write; its transition never fails. -/
theorem reconciledWave_cases (hstate : wave.state = .simulating)
    (operation : WaveSimulationOperation) (records : List WaveSimulationItemRecord)
    (stamp : EventStamp) :
    (operationItemsAreTerminal operation records = true ∧
        reconciledWave wave operation records stamp =
          .ok (some (completedWave wave operation records stamp))) ∨
      (operationItemsAreTerminal operation records = false ∧
        reconciledWaveItems wave.items operation records ≠ wave.items ∧
        reconciledWave wave operation records stamp =
          .ok (some (progressedWave wave operation records))) ∨
      (operationItemsAreTerminal operation records = false ∧
        reconciledWaveItems wave.items operation records = wave.items ∧
        reconciledWave wave operation records stamp = .ok none) := by
  unfold reconciledWave
  dsimp only
  cases hterminal : operationItemsAreTerminal operation records with
  | true =>
    refine Or.inl ⟨rfl, ?_⟩
    have hallowed : simulationResultState (reconciledWaveItems wave.items operation records) ∈
        allowedWaveTransitions (waveWithItemsAndAggregate wave
          (reconciledWaveItems wave.items operation records)).state := by
      show _ ∈ allowedWaveTransitions wave.state
      rw [hstate]
      exact simulationResultState_allowed _
    have htransition := applyWaveTransition_of_event
      (waveWithItemsAndAggregate wave (reconciledWaveItems wave.items operation records))
      (simulationResultState (reconciledWaveItems wave.items operation records))
      (completionEvent stamp
        (waveWithItemsAndAggregate wave (reconciledWaveItems wave.items operation records))
        operation (simulationResultState (reconciledWaveItems wave.items operation records)))
      rfl (congrArg some hstate.symm) rfl
    rw [if_pos hallowed] at htransition
    rw [if_pos rfl, htransition]
    rfl
  | false =>
    rw [if_neg Bool.false_ne_true]
    by_cases hitems : reconciledWaveItems wave.items operation records = wave.items
    · rw [if_neg (not_not.mpr hitems)]
      exact Or.inr (Or.inr ⟨rfl, hitems, rfl⟩)
    · rw [if_pos hitems]
      exact Or.inr (Or.inl ⟨rfl, hitems, rfl⟩)

theorem AdmitRequest.transition (request : AdmitRequest) (sha256Hex : String → String)
    (tenantId : String) (hstate : wave.state = .sourceChecked) :
    applyWaveTransition wave .simulating (request.event sha256Hex tenantId wave) =
      .ok (request.admission sha256Hex tenantId wave).simulatingWave := by
  rw [applyWaveTransition_of_event wave .simulating (request.event sha256Hex tenantId wave) rfl
    (congrArg some hstate.symm) rfl, hstate]
  rfl

end LotusManage.Waves
