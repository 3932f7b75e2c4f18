import LotusManage.Waves.OperationStatus

/-!
# Admission is idempotent and atomic

`admit_simulation_operation` makes five groups of writes after seven checks.
`admitSimulationOperation` returns the repository or an error, so a rejection cannot be seen to leave a
write behind.  `admitStatements` is the same method statement by statement over a mutable repository: a
raise keeps what was written before it.  `run_admitStatements` shows that the two agree, and with it that
every rejection comes before the first write.

The runs of this module make admissions of arbitrary operations, records and waves, with the other calls
between them.  They keep `AdmissionIndexInv`: an operation is indexed under its own tenant and key, and
a wave is stored under its own id.
-/

namespace LotusManage.Waves

/-! ## The method, statement by statement -/

/-- Methods of the repository: a raise keeps the state that was reached. -/
abbrev StoreM := ExceptT WaveStoreError (StateM WaveRepository)

/-- The result of a method and the repository that it leaves. -/
def StoreM.exec {α : Type} (method : StoreM α) (repo : WaveRepository) :
    Except WaveStoreError α × WaveRepository :=
  method.run.run repo

/-- The writes of an accepted admission, in their order. -/
def writeAdmission (operation : WaveSimulationOperation) (items : List WaveSimulationItemRecord)
    (wave simulatingWave : RebalanceWave) : StoreM PUnit := do
  modify fun repo => { repo with
    simulationOperations := repo.simulationOperations.set operation.operationId operation }
  modify fun repo => { repo with
    simulationOperationIdempotency := repo.simulationOperationIdempotency.set
      (operation.tenantId, operation.idempotencyKeyHash) operation.operationId }
  modify fun repo => { repo with
    simulationOperationCorrelations := repo.simulationOperationCorrelations.set
      (operation.tenantId, operation.correlationId) operation.operationId }
  for item in items do
    modify fun repo => { repo with
      simulationItems := repo.simulationItems.set (operation.operationId, item.waveItemId) item }
  modify fun repo => { repo with waves := repo.waves.set wave.waveId simulatingWave }

/-- `admit_simulation_operation`, in the order of its statements. -/
def admitStatements (operation : WaveSimulationOperation) (items : List WaveSimulationItemRecord)
    (simulatingWave : RebalanceWave) : StoreM (WaveSimulationOperation × Bool) := do
  let indexKey := (operation.tenantId, operation.idempotencyKeyHash)
  match (← get).simulationOperationIdempotency.get? indexKey with
  | some existingId =>
    match (← get).simulationOperations.get? existingId with
    | none => throw .keyError
    | some existing =>
      if existing.requestHash ≠ operation.requestHash ∨
          existing.riskAuthorityContextHash ≠ operation.riskAuthorityContextHash then
        throw .simulationIdempotencyConflict
      else
        return (existing, true)
  | none =>
    let correlationKey := (operation.tenantId, operation.correlationId)
    if (← get).simulationOperationCorrelations.contains correlationKey then
      throw .simulationCorrelationConflict
    match (← get).waves.get? operation.waveId with
    | none => throw .simulationWaveNotFound
    | some wave =>
      if wave.tenantId ≠ some operation.tenantId then
        throw .simulationWaveNotFound
      if wave.version ≠ operation.admittedWaveVersion then
        throw .simulationWaveVersionConflict
      ofExcept (validateSimulationAdmissionItems operation items wave)
      if simulatingWave.waveId ≠ wave.waveId ∨
          simulatingWave.tenantId ≠ some operation.tenantId ∨
          simulatingWave.state ≠ .simulating ∨
          simulatingWave.version ≠ wave.version + 1 then
        throw .simulationTransitionConflict
      writeAdmission operation items wave simulatingWave
      return (operation, false)

/-! ### Rules for executing a method -/

section Exec

variable {α β : Type} (repo : WaveRepository)

theorem StoreM.exec_bind (method : StoreM α) (next : α → StoreM β) :
    (method >>= next).exec repo =
      match method.exec repo with
      | (.ok a, repo') => (next a).exec repo'
      | (.error e, repo') => (.error e, repo') := by
  simp only [StoreM.exec, ExceptT.run_bind, StateT.run_bind]
  show StateT.run _ _ = _
  cases (StateT.run (ExceptT.run method) repo) with
  | mk result repo' => cases result <;> rfl

@[simp] theorem StoreM.exec_pure (a : α) : (pure a : StoreM α).exec repo = (.ok a, repo) := rfl

@[simp] theorem StoreM.exec_throw (e : WaveStoreError) :
    (throw e : StoreM α).exec repo = (.error e, repo) := rfl

@[simp] theorem StoreM.exec_get : (get : StoreM WaveRepository).exec repo = (.ok repo, repo) := rfl

@[simp] theorem StoreM.exec_modify (f : WaveRepository → WaveRepository) :
    (modify f : StoreM PUnit).exec repo = (.ok ⟨⟩, f repo) := rfl

theorem StoreM.exec_forIn_modify (write : α → WaveRepository → WaveRepository) :
    ∀ (rows : List α) (repo : WaveRepository),
      (forIn rows PUnit.unit (fun row _ => do
        modify (write row)
        pure (ForInStep.yield PUnit.unit)) : StoreM PUnit).exec repo =
        (.ok ⟨⟩, rows.foldl (fun repo row => write row repo) repo)
  | [], repo => rfl
  | row :: rows, repo => by
    rw [List.forIn_cons, List.foldl_cons, ← StoreM.exec_forIn_modify write rows (write row repo)]
    rfl

end Exec

theorem foldl_write_records (operationId : String) :
    ∀ (rows : List WaveSimulationItemRecord) (repo : WaveRepository),
      rows.foldl (fun repo row => { repo with
        simulationItems := repo.simulationItems.set (operationId, row.waveItemId) row }) repo =
        { repo with simulationItems := storeItems operationId rows repo.simulationItems }
  | [], repo => rfl
  | row :: rows, repo => by
    rw [List.foldl_cons, foldl_write_records operationId rows]
    rfl

variable (repo : WaveRepository) (operation : WaveSimulationOperation)
  (items : List WaveSimulationItemRecord) (sha256Hex : String → String)

theorem exec_writeAdmission (wave simulatingWave : RebalanceWave) :
    (writeAdmission operation items wave simulatingWave).exec repo =
      (.ok ⟨⟩, { repo with
        simulationOperations := repo.simulationOperations.set operation.operationId operation
        simulationOperationIdempotency := repo.simulationOperationIdempotency.set
          (operation.tenantId, operation.idempotencyKeyHash) operation.operationId
        simulationOperationCorrelations := repo.simulationOperationCorrelations.set
          (operation.tenantId, operation.correlationId) operation.operationId
        simulationItems := storeItems operation.operationId items repo.simulationItems
        waves := repo.waves.set wave.waveId simulatingWave }) := by
  unfold writeAdmission
  simp only [StoreM.exec_bind, StoreM.exec_modify, StoreM.exec_forIn_modify, foldl_write_records]

/-- The method leaves the repository that `admitSimulationOperation` returns; when it raises, the
repository is the one it was called on. -/
theorem run_admitStatements (simulatingWave : RebalanceWave) :
    (admitStatements operation items simulatingWave).exec repo =
      match admitSimulationOperation repo operation items simulatingWave with
      | .error e => (.error e, repo)
      | .ok (repo', stored, replay) => (.ok (stored, replay), repo') := by
  unfold admitStatements admitSimulationOperation
  simp only [StoreM.exec_bind, StoreM.exec_get]
  cases repo.simulationOperationIdempotency.get?
      (operation.tenantId, operation.idempotencyKeyHash) with
  | some existingId =>
    simp only [StoreM.exec_bind, StoreM.exec_get]
    cases repo.simulationOperations.get? existingId with
    | none => rfl
    | some existing =>
      dsimp only
      split <;> rfl
  | none =>
    simp only [StoreM.exec_bind, StoreM.exec_get, admitNewOperation]
    cases repo.simulationOperationCorrelations.contains
        (operation.tenantId, operation.correlationId) with
    | true => rfl
    | false =>
      simp only [Bool.false_eq_true, if_false, StoreM.exec_bind, StoreM.exec_get]
      cases repo.waves.get? operation.waveId with
      | none => rfl
      | some wave =>
        dsimp only
        by_cases htenant : wave.tenantId ≠ some operation.tenantId
        · rw [if_pos htenant, if_pos htenant]
          rfl
        rw [if_neg htenant, if_neg htenant]
        by_cases hversion : wave.version ≠ operation.admittedWaveVersion
        · rw [if_pos hversion, if_pos hversion]
          rfl
        rw [if_neg hversion, if_neg hversion, StoreM.exec_bind]
        cases validateSimulationAdmissionItems operation items wave with
        | error e => rfl
        | ok _ =>
          show StoreM.exec _ repo = _
          dsimp only
          split
          · rfl
          · rw [StoreM.exec_bind, exec_writeAdmission]
            rfl

/-! ## Runs of admissions -/

/-- An admission of any operation with any records and wave, or another call. -/
inductive AdmissionCall where
  | admitAny (operation : WaveSimulationOperation) (items : List WaveSimulationItemRecord)
      (simulatingWave : RebalanceWave)
  | other (call : SimulationCall)

/-- One call. -/
def AdmissionCall.step (sha256Hex : String → String) (e : Execution) : AdmissionCall → Execution
  | admitAny operation items simulatingWave =>
    { e with repository := ((admitStatements operation items simulatingWave).exec e.repository).2 }
  | other call => e.step sha256Hex call

/-- The repository after a sequence of admissions and other calls. -/
def repositoryAfter (sha256Hex : String → String) (calls : List AdmissionCall) : WaveRepository :=
  (Runs.run (AdmissionCall.step sha256Hex) Execution.new calls).repository

/-- Records and waves are stored under their own ids, and an operation is indexed under its own
tenant and key. -/
structure AdmissionIndexInv (repo : WaveRepository) : Prop where
  keyed : RecordsKeyed repo.simulationItems
  indexed : ∀ id operation, repo.simulationOperations.get? id = some operation →
    repo.simulationOperationIdempotency.get?
      (operation.tenantId, operation.idempotencyKeyHash) = some id
  waves : WavesKeyed repo.waves

theorem admissionIndexInv_new : AdmissionIndexInv WaveRepository.new := by
  constructor <;> simp [RecordsKeyed, WavesKeyed, WaveRepository.new]

section Indexed

variable {repo repo' : WaveRepository}

theorem indexed_of_sameOperations
    (h : ∀ id operation, repo.simulationOperations.get? id = some operation →
      repo.simulationOperationIdempotency.get?
        (operation.tenantId, operation.idempotencyKeyHash) = some id)
    (hops : SameOperations repo repo') (id : String) (operation : WaveSimulationOperation)
    (hget : repo'.simulationOperations.get? id = some operation) :
    repo'.simulationOperationIdempotency.get?
      (operation.tenantId, operation.idempotencyKeyHash) = some id := by
  obtain ⟨old, hold, hsame⟩ := hops.exists_before hget
  simp only [operationIdentity, Prod.mk.injEq] at hsame
  rw [hops.index, ← hsame.1, ← hsame.2.1]
  exact h id old hold

theorem indexed_of_admitEffect
    (h : ∀ id operation, repo.simulationOperations.get? id = some operation →
      repo.simulationOperationIdempotency.get?
        (operation.tenantId, operation.idempotencyKeyHash) = some id)
    {admitted : WaveSimulationOperation} {items : List WaveSimulationItemRecord}
    (hadmitted : AdmitEffect admitted items repo repo') (id : String)
    (operation : WaveSimulationOperation)
    (hget : repo'.simulationOperations.get? id = some operation) :
    repo'.simulationOperationIdempotency.get?
      (operation.tenantId, operation.idempotencyKeyHash) = some id := by
  rw [hadmitted.operations, Dict.get?_set] at hget
  rw [hadmitted.index]
  split at hget
  · rename_i hid
    cases hget
    rw [hid, Dict.get?_set_self]
  · have hindexed := h id operation hget
    rw [Dict.get?_set_of_ne]
    · exact hindexed
    · intro heq
      rw [heq, hadmitted.newKey] at hindexed
      cases hindexed

theorem AdmissionIndexInv.of_admitEffect (hinv : AdmissionIndexInv repo)
    {operation : WaveSimulationOperation} {items : List WaveSimulationItemRecord}
    (hadmitted : AdmitEffect operation items repo repo') (hwaves : WavesKeyed repo'.waves) :
    AdmissionIndexInv repo' := by
  refine ⟨?_, indexed_of_admitEffect hinv.indexed hadmitted, hwaves⟩
  rw [hadmitted.records]
  exact recordsKeyed_storeItems hinv.keyed _ _

end Indexed

theorem admissionIndexInv_step (e : Execution) (call : AdmissionCall)
    (hinv : AdmissionIndexInv e.repository) :
    AdmissionIndexInv (call.step sha256Hex e).repository := by
  cases call with
  | admitAny operation items simulatingWave =>
    simp only [AdmissionCall.step, run_admitStatements]
    split
    · exact hinv
    · rename_i repo' stored replay hadmits
      rcases admitSimulationOperation_cases hadmits with ⟨_, rfl⟩ | ⟨_, _, wave, haccepted⟩
      · exact hinv
      · refine hinv.of_admitEffect haccepted.effect ?_
        show WavesKeyed repo'.waves
        rw [haccepted.result, ← haccepted.sameWave]
        exact hinv.waves.set simulatingWave
  | other call =>
    have hwaves := wavesKeyed_step sha256Hex call hinv.waves
    have heffect := step_effect sha256Hex hinv.keyed call
    have hkeyed : RecordsKeyed (e.step sha256Hex call).repository.simulationItems := by
      intro key item hget
      rcases heffect.record_before hget with ⟨item₀, hitem₀, hsame⟩ | ⟨_, _, _, hkey, _⟩
      · simp only [recordIdentity, Prod.mk.injEq] at hsame
        exact hsame.2.2.2.1.trans (hinv.keyed key item₀ hitem₀)
      · rw [hkey]
    cases heffect with
    | moved hmove _ _ =>
      exact ⟨hkeyed, indexed_of_sameOperations hinv.indexed hmove.operations, hwaves⟩
    | admitted a _ hadmitted _ _ => exact hinv.of_admitEffect hadmitted hwaves
    | claimed _ _ hclaim _ _ =>
      exact ⟨hkeyed, indexed_of_sameOperations hinv.indexed hclaim.operations, hwaves⟩
    | published _ hpublish _ _ =>
      exact ⟨hkeyed, indexed_of_sameOperations hinv.indexed hpublish.operations, hwaves⟩

theorem admissionIndexInv_after (calls : List AdmissionCall) :
    AdmissionIndexInv (repositoryAfter sha256Hex calls) :=
  Runs.run_keeps (fun e : Execution => AdmissionIndexInv e.repository)
    (admissionIndexInv_step sha256Hex) calls admissionIndexInv_new

/-! ## The four parts -/

section Admit

variable {repo repo' : WaveRepository} {operation existing stored : WaveSimulationOperation}
  {items : List WaveSimulationItemRecord} {simulatingWave : RebalanceWave} {id : String}

theorem AdmissionIndexInv.unique (hinv : AdmissionIndexInv repo) {id₁ id₂ : String}
    {first second : WaveSimulationOperation}
    (hfirst : repo.simulationOperations.get? id₁ = some first)
    (hsecond : repo.simulationOperations.get? id₂ = some second)
    (htenant : first.tenantId = second.tenantId)
    (hkey : first.idempotencyKeyHash = second.idempotencyKeyHash) :
    id₁ = id₂ ∧ first = second := by
  have h₁ := hinv.indexed id₁ first hfirst
  have h₂ := hinv.indexed id₂ second hsecond
  rw [htenant, hkey, h₂] at h₁
  cases h₁
  exact ⟨rfl, Option.some.inj (hfirst.symm.trans hsecond)⟩

theorem AdmissionIndexInv.exec_repeat (hinv : AdmissionIndexInv repo)
    (hget : repo.simulationOperations.get? id = some existing)
    (htenant : existing.tenantId = operation.tenantId)
    (hkey : existing.idempotencyKeyHash = operation.idempotencyKeyHash) :
    (admitStatements operation items simulatingWave).exec repo =
      if existing.requestHash ≠ operation.requestHash ∨
          existing.riskAuthorityContextHash ≠ operation.riskAuthorityContextHash then
        (.error .simulationIdempotencyConflict, repo)
      else (.ok (existing, true), repo) := by
  have hindexed := hinv.indexed id existing hget
  rw [htenant, hkey] at hindexed
  rw [run_admitStatements, admitSimulationOperation, hindexed]
  simp only [hget]
  by_cases hconflict : existing.requestHash ≠ operation.requestHash ∨
      existing.riskAuthorityContextHash ≠ operation.riskAuthorityContextHash
  · rw [if_pos hconflict, if_pos hconflict]
  · rw [if_neg hconflict, if_neg hconflict]

theorem exec_versionConflict {wave : RebalanceWave}
    (hnewKey : repo.simulationOperationIdempotency.get?
      (operation.tenantId, operation.idempotencyKeyHash) = none)
    (hnewCorrelation : repo.simulationOperationCorrelations.contains
      (operation.tenantId, operation.correlationId) = false)
    (hwave : repo.waves.get? operation.waveId = some wave)
    (htenant : wave.tenantId = some operation.tenantId)
    (hversion : wave.version ≠ operation.admittedWaveVersion) :
    (admitStatements operation items simulatingWave).exec repo =
      (.error .simulationWaveVersionConflict, repo) := by
  rw [run_admitStatements, admitSimulationOperation, hnewKey]
  simp only [admitNewOperation, hnewCorrelation, Bool.false_eq_true, if_false, hwave]
  rw [if_neg (not_not.mpr htenant), if_pos hversion]

theorem exec_rejected {e : WaveStoreError}
    (h : (admitStatements operation items simulatingWave).exec repo = (.error e, repo')) :
    repo' = repo := by
  rw [run_admitStatements] at h
  split at h
  · cases h
    rfl
  · cases h

theorem AdmissionIndexInv.exec_accepted (hinv : AdmissionIndexInv repo)
    (h : (admitStatements operation items simulatingWave).exec repo =
      (.ok (stored, false), repo')) :
    stored = operation ∧ simulatingWave.state = .simulating ∧
      repo'.waves.get? operation.waveId = some simulatingWave ∧
      repo'.simulationOperations.get? operation.operationId = some operation ∧
      repo'.simulationOperationIdempotency.get?
        (operation.tenantId, operation.idempotencyKeyHash) = some operation.operationId ∧
      ∀ item ∈ items,
        repo'.simulationItems.get? (operation.operationId, item.waveItemId) = some item := by
  rw [run_admitStatements] at h
  split at h
  · cases h
  rename_i repo₁ stored₁ replay hadmits
  cases h
  rcases admitSimulationOperation_cases hadmits with ⟨hreplay, _⟩ | ⟨_, hstored, wave, haccepted⟩
  · cases hreplay
  have hid : wave.waveId = operation.waveId := hinv.waves _ wave haccepted.stored
  refine ⟨hstored, haccepted.simulating, ?_, ?_, ?_, ?_⟩
  · rw [haccepted.result, ← hid]
    exact Dict.get?_set_self _ _ _
  · rw [haccepted.result]
    exact Dict.get?_set_self _ _ _
  · rw [haccepted.result]
    exact Dict.get?_set_self _ _ _
  · intro item hitem
    rw [haccepted.result]
    exact get?_storeItems_of_mem haccepted.nodup _ hitem

end Admit

/-- Admission is idempotent and atomic, after every sequence of admissions of arbitrary operations
and other calls.  At most one operation exists for a tenant and a key; a repeat with the request
hash and the risk authority context hash of the stored operation returns it and changes nothing; a
repeat in which one of the two hashes is another one and a stale wave version raise; whatever is
raised, the repository is as it was; and an accepted admission stores the simulating wave, the
operation, its key and all its records. -/
theorem admission_idempotent_atomic (sha256Hex : String → String) (calls : List AdmissionCall) :
    (∀ id₁ id₂ first second,
      (repositoryAfter sha256Hex calls).simulationOperations.get? id₁ = some first →
      (repositoryAfter sha256Hex calls).simulationOperations.get? id₂ = some second →
      first.tenantId = second.tenantId →
      first.idempotencyKeyHash = second.idempotencyKeyHash → id₁ = id₂ ∧ first = second) ∧
    (∀ id existing operation items simulatingWave,
      (repositoryAfter sha256Hex calls).simulationOperations.get? id = some existing →
      existing.tenantId = operation.tenantId →
      existing.idempotencyKeyHash = operation.idempotencyKeyHash →
      existing.requestHash = operation.requestHash →
      existing.riskAuthorityContextHash = operation.riskAuthorityContextHash →
      (admitStatements operation items simulatingWave).exec (repositoryAfter sha256Hex calls) =
        (.ok (existing, true), repositoryAfter sha256Hex calls)) ∧
    (∀ id existing operation items simulatingWave,
      (repositoryAfter sha256Hex calls).simulationOperations.get? id = some existing →
      existing.tenantId = operation.tenantId →
      existing.idempotencyKeyHash = operation.idempotencyKeyHash →
      (existing.requestHash ≠ operation.requestHash ∨
        existing.riskAuthorityContextHash ≠ operation.riskAuthorityContextHash) →
      (admitStatements operation items simulatingWave).exec (repositoryAfter sha256Hex calls) =
        (.error .simulationIdempotencyConflict, repositoryAfter sha256Hex calls)) ∧
    (∀ operation items simulatingWave wave,
      (repositoryAfter sha256Hex calls).simulationOperationIdempotency.get?
        (operation.tenantId, operation.idempotencyKeyHash) = none →
      (repositoryAfter sha256Hex calls).simulationOperationCorrelations.contains
        (operation.tenantId, operation.correlationId) = false →
      (repositoryAfter sha256Hex calls).waves.get? operation.waveId = some wave →
      wave.tenantId = some operation.tenantId →
      wave.version ≠ operation.admittedWaveVersion →
      (admitStatements operation items simulatingWave).exec (repositoryAfter sha256Hex calls) =
        (.error .simulationWaveVersionConflict, repositoryAfter sha256Hex calls)) ∧
    (∀ operation items simulatingWave e repo',
      (admitStatements operation items simulatingWave).exec (repositoryAfter sha256Hex calls) =
        (.error e, repo') →
      repo' = repositoryAfter sha256Hex calls) ∧
    (∀ operation items simulatingWave stored repo',
      (admitStatements operation items simulatingWave).exec (repositoryAfter sha256Hex calls) =
        (.ok (stored, false), repo') →
      stored = operation ∧ simulatingWave.state = .simulating ∧
      repo'.waves.get? operation.waveId = some simulatingWave ∧
      repo'.simulationOperations.get? operation.operationId = some operation ∧
      repo'.simulationOperationIdempotency.get?
        (operation.tenantId, operation.idempotencyKeyHash) = some operation.operationId ∧
      ∀ item ∈ items,
        repo'.simulationItems.get? (operation.operationId, item.waveItemId) = some item) := by
  have hinv := admissionIndexInv_after sha256Hex calls
  refine ⟨?_, ?_, ?_, ?_, ?_, ?_⟩
  · intro id₁ id₂ first second hfirst hsecond htenant hkey
    exact hinv.unique hfirst hsecond htenant hkey
  · intro id existing operation items simulatingWave hget htenant hkey hrequest hrisk
    rw [hinv.exec_repeat hget htenant hkey, if_neg]
    rintro (hne | hne)
    · exact hne hrequest
    · exact hne hrisk
  · intro id existing operation items simulatingWave hget htenant hkey hconflict
    rw [hinv.exec_repeat hget htenant hkey, if_pos hconflict]
  · intro operation items simulatingWave wave hnewKey hnewCorrelation hwave htenant hversion
    exact exec_versionConflict hnewKey hnewCorrelation hwave htenant hversion
  · intro operation items simulatingWave e repo' hrejected
    exact exec_rejected hrejected
  · intro operation items simulatingWave stored repo' haccepted
    exact hinv.exec_accepted haccepted

/-! ### A repeat under another risk authority context -/

/-- The sample operation as it is submitted again, under another risk authority context. -/
def reauthorisedOperation : WaveSimulationOperation :=
  { sampleAdmission.operation sampleSha256Hex with
    riskAuthorityContextHash := some "sha256:context" }

/-- The sample wave is stored and its simulation admitted. -/
def sampleAdmissionCalls : List AdmissionCall :=
  [.other (.saveWave sampleWave none none "tenant-sg"),
   .admitAny (sampleAdmission.operation sampleSha256Hex) (sampleAdmission.items sampleSha256Hex)
     sampleAdmission.simulatingWave]

theorem repeat_with_same_request_hash_rejected :
    (repositoryAfter sampleSha256Hex sampleAdmissionCalls).simulationOperations.get?
        reauthorisedOperation.operationId = some (sampleAdmission.operation sampleSha256Hex) ∧
      (sampleAdmission.operation sampleSha256Hex).requestHash =
        reauthorisedOperation.requestHash ∧
      ((admitStatements reauthorisedOperation (sampleAdmission.items sampleSha256Hex)
        sampleAdmission.simulatingWave).exec
          (repositoryAfter sampleSha256Hex sampleAdmissionCalls)).1 =
        .error .simulationIdempotencyConflict := by
  refine ⟨by decide +kernel, rfl, ?_⟩
  rw [run_admitStatements]
  decide +kernel

/-- The same submission again is a replay, under another context it is refused, and neither writes. -/
theorem admission_idempotent_atomic_sample :
    (admitStatements (sampleAdmission.operation sampleSha256Hex) []
        sampleAdmission.simulatingWave).exec
          (repositoryAfter sampleSha256Hex sampleAdmissionCalls) =
        (.ok (sampleAdmission.operation sampleSha256Hex, true),
          repositoryAfter sampleSha256Hex sampleAdmissionCalls) ∧
      (admitStatements reauthorisedOperation (sampleAdmission.items sampleSha256Hex)
        sampleAdmission.simulatingWave).exec
          (repositoryAfter sampleSha256Hex sampleAdmissionCalls) =
        (.error .simulationIdempotencyConflict,
          repositoryAfter sampleSha256Hex sampleAdmissionCalls) := by
  obtain ⟨_, hreplay, hconflict, _⟩ :=
    admission_idempotent_atomic sampleSha256Hex sampleAdmissionCalls
  have hstored : (repositoryAfter sampleSha256Hex sampleAdmissionCalls).simulationOperations.get?
      reauthorisedOperation.operationId = some (sampleAdmission.operation sampleSha256Hex) := by
    decide +kernel
  constructor
  · exact hreplay _ _ _ _ _ hstored rfl rfl rfl rfl
  · exact hconflict _ _ _ _ _ hstored rfl rfl (Or.inr (by decide))

end LotusManage.Waves
