import LotusManage.Waves.StoreSteps
import LotusManage.Waves.WaveHistory

/-!
# Reconciliation under any interleaving

A reconciliation reads a wave, then the records of its operation page by page, and then writes the
wave; workers publish, other reconciliations finish and commands run in between.  Nothing is lost and
nothing is done twice:

* `Tracked` ties an operation to its wave.  While the operation is open the wave is `SIMULATING` and
  each of its items is the admitted item or the reconciled one of a finished record; afterwards every
  record is finished and the wave has moved on for good.
* `ReconciliationSound`: the pages read so far are the first records of the operation in an order that
  never changes, and those read as finished are stored as they were read.

A write that still finds its version was computed from the stored wave, so its items are again
reconciled items, and it leaves `SIMULATING` only when all pages were finished.
-/

namespace LotusManage.Waves

/-! ## One call of a client -/

/-- The store under the services is in order, and what the clients hold is dated. -/
structure StoreReady (sha256Hex : String → String) (admitted : List SimulationAdmission)
    (s : WaveService) : Prop where
  dated : Dated s
  store : StoreInv sha256Hex admitted s.execution
  sound : StoreSound s.repository

/-- A call admits one of the admissions, or none. -/
def AdmitsOneOf (sha256Hex : String → String) (admitted : List SimulationAdmission)
    (s : WaveService) (call : ServiceCall) : Prop :=
  ∀ a, s.storeCall sha256Hex call = some (.admitOperation a) → a ∈ admitted

/-- A call that is made in a ready state. -/
structure ReadyCall (sha256Hex : String → String) (admitted : List SimulationAdmission)
    (s : WaveService) (call : ServiceCall) : Prop where
  ids : OperationIdsInjective sha256Hex admitted
  ready : StoreReady sha256Hex admitted s
  admits : AdmitsOneOf sha256Hex admitted s call

theorem storeReady_new (sha256Hex : String → String) (admitted : List SimulationAdmission) :
    StoreReady sha256Hex admitted WaveService.new :=
  ⟨dated_new, storeInv_new, storeSound_new⟩

variable {sha256Hex : String → String} {admitted : List SimulationAdmission} {s : WaveService}
  {call : ServiceCall}

section Steps

variable {write : SimulationCall} {id : String} {operation : WaveSimulationOperation}
  {key : String × String} {wave : RebalanceWave}

theorem step_cases (sha256Hex : String → String) (s : WaveService) (call : ServiceCall) :
    ((s.step sha256Hex call).execution = s.execution ∧
        (s.step sha256Hex call).origins = s.origins) ∨
      ∃ write, s.storeCall sha256Hex call = some write ∧
        (s.step sha256Hex call).execution = s.execution.step sha256Hex write ∧
        (s.step sha256Hex call).origins =
          s.origins.merge (storedOrigin sha256Hex s.execution write).toList := by
  cases hcall : s.storeCall sha256Hex call with
  | none =>
    rw [WaveService.step_of_observe hcall, WaveService.execution_observe,
      WaveService.origins_observe]
    exact Or.inl ⟨rfl, rfl⟩
  | some write =>
    rw [WaveService.step_of_store hcall]
    exact Or.inr ⟨write, rfl, rfl, rfl⟩

theorem AdmitsOneOf.of_write (hcall : AdmitsOneOf sha256Hex admitted s call)
    (hwrite : s.storeCall sha256Hex call = some write) :
    ∀ a, write = .admitOperation a → a ∈ admitted :=
  fun a ha => hcall a (ha ▸ hwrite)

theorem storeReady_step (hc : ReadyCall sha256Hex admitted s call) :
    StoreReady sha256Hex admitted (s.step sha256Hex call) := by
  refine ⟨dated_step s call hc.ready.dated, ?_, ?_⟩
  · rcases step_cases sha256Hex s call with ⟨hsame, _⟩ | ⟨write, hwrite, hexec, _⟩
    · rw [hsame]
      exact hc.ready.store
    · rw [hexec]
      exact storeInv_step hc.ids _ write hc.ready.store (hc.admits.of_write hwrite)
  · rw [WaveService.repository]
    rcases step_cases sha256Hex s call with ⟨hsame, _⟩ | ⟨write, hwrite, hexec, _⟩
    · rw [hsame]
      exact hc.ready.sound
    · rw [hexec]
      exact storeSound_step hc.ids hc.ready.store.execution.1 (hc.admits.of_write hwrite)
        hc.ready.sound

/-! ## What a call keeps of an operation -/

theorem step_operation (hc : ReadyCall sha256Hex admitted s call)
    (hop : s.repository.simulationOperations.get? id = some operation) :
    ∃ operation', (s.step sha256Hex call).repository.simulationOperations.get? id =
      some operation' ∧ operationTerms operation' = operationTerms operation := by
  rw [WaveService.repository]
  rcases step_cases sha256Hex s call with ⟨hsame, _⟩ | ⟨write, hwrite, hexec, _⟩
  · rw [hsame]
    exact ⟨operation, hop, rfl⟩
  · rw [hexec]
    exact operation_carried hc.ids hc.ready.store.execution.1 (hc.admits.of_write hwrite) hop

theorem step_operation_before (hready : StoreReady sha256Hex admitted s)
    {operation' : WaveSimulationOperation}
    (hop' : (s.step sha256Hex call).repository.simulationOperations.get? id = some operation') :
    (∃ operation, s.repository.simulationOperations.get? id = some operation ∧
        operationTerms operation' = operationTerms operation) ∨
      ∃ a wave, s.storeCall sha256Hex call = some (.admitOperation a) ∧
        id = a.operationId sha256Hex ∧ operation' = a.operation sha256Hex ∧
        AdmissionAccepted (a.operation sha256Hex) (a.items sha256Hex) wave a.simulatingWave
          s.repository (s.step sha256Hex call).repository := by
  rw [WaveService.repository] at hop'
  rcases step_cases sha256Hex s call with ⟨hsame, _⟩ | ⟨write, hwrite, hexec, _⟩
  · rw [hsame] at hop'
    exact Or.inl ⟨operation', hop', rfl⟩
  · rw [hexec] at hop'
    rcases operation_before hready.store.execution.1.keyed hop' with
      hold | ⟨a, wave, ha, hid, hnew, haccepted⟩
    · exact Or.inl hold
    · refine Or.inr ⟨a, wave, ha ▸ hwrite, hid, hnew, ?_⟩
      rw [← hexec] at haccepted
      exact haccepted

theorem step_records (hc : ReadyCall sha256Hex admitted s call)
    (hop : s.repository.simulationOperations.get? key.1 = some operation) :
    ((s.step sha256Hex call).repository.simulationItems.get? key).map recordIdentity =
      (s.repository.simulationItems.get? key).map recordIdentity := by
  rw [WaveService.repository]
  rcases step_cases sha256Hex s call with ⟨hsame, _⟩ | ⟨write, hwrite, hexec, _⟩
  · rw [hsame]
    rfl
  · rw [hexec]
    exact records_carried hc.ids hc.ready.store.execution.1 (hc.admits.of_write hwrite) hop

theorem step_pageIds (hc : ReadyCall sha256Hex admitted s call)
    (hop : s.repository.simulationOperations.get? id = some operation) (tenantId : String) :
    pageIds (s.step sha256Hex call).repository tenantId id = pageIds s.repository tenantId id := by
  refine pageIds_congr (fun key hkey => ?_) tenantId
  rw [← hkey] at hop
  exact step_records hc hop

theorem step_finished (hc : ReadyCall sha256Hex admitted s call) {record : WaveSimulationItemRecord}
    (hop : s.repository.simulationOperations.get? key.1 = some operation)
    (hrecord : s.repository.simulationItems.get? key = some record)
    (hfin : Finished operation record) :
    (s.step sha256Hex call).repository.simulationItems.get? key = some record := by
  rw [WaveService.repository]
  rcases step_cases sha256Hex s call with ⟨hsame, _⟩ | ⟨write, hwrite, hexec, _⟩
  · rw [hsame]
    exact hrecord
  · rw [hexec]
    exact (finished_step hc.ids hc.ready.store.execution (hc.admits.of_write hwrite) hop hrecord
      hfin).1

theorem storedOrigin_eq_some {e : Execution} {origin : RebalanceWave}
    (h : storedOrigin sha256Hex e write = some (id, origin)) :
    ∃ a, write = .admitOperation a ∧ id = a.operationId sha256Hex ∧
      AdmissionAccepted (a.operation sha256Hex) (a.items sha256Hex) origin a.simulatingWave
        e.repository (e.step sha256Hex write).repository := by
  unfold storedOrigin at h
  split at h
  · rename_i a
    split at h
    · rename_i repo' operation hadmits
      rcases admitSimulationOperation_cases hadmits with ⟨hreplay, _⟩ | ⟨_, _, wave, haccepted⟩
      · cases hreplay
      · have hstored : e.repository.waves.get? a.waveId = some wave := haccepted.stored
        rw [hstored, Option.map_some] at h
        cases h
        refine ⟨a, rfl, rfl, ?_⟩
        simp only [Execution.step, hadmits]
        exact haccepted
    · cases h
  · cases h

theorem step_origins (hc : ReadyCall sha256Hex admitted s call)
    (hop : s.repository.simulationOperations.get? id = some operation) :
    (s.step sha256Hex call).origins.get? id = s.origins.get? id := by
  rcases step_cases sha256Hex s call with ⟨_, hsame⟩ | ⟨write, hwrite, _, horigins⟩
  · rw [hsame]
  · rw [horigins]
    cases horigin : storedOrigin sha256Hex s.execution write with
    | none => rfl
    | some logged =>
      obtain ⟨a, ha, hid, haccepted⟩ := storedOrigin_eq_some horigin
      have hne := haccepted.ne_of_stored hc.ids hc.ready.store.execution.1
        (hc.admits.of_write hwrite)
        ha hop
      show (s.origins.set logged.1 logged.2).get? id = _
      rw [Dict.get?_set_of_ne]
      rw [hid]
      exact hne

theorem AdmissionAccepted.ne {items : List WaveSimulationItemRecord}
    {simulatingWave : RebalanceWave} {repo : WaveRepository} :
    ¬ AdmissionAccepted operation items wave simulatingWave repo repo := by
  intro h
  have hindex := congrArg WaveRepository.simulationOperationIdempotency h.result
  have hnew := h.newKey
  rw [hindex, Dict.get?_set_self] at hnew
  cases hnew

theorem step_origins_admitted {a : SimulationAdmission}
    (hwrite : s.storeCall sha256Hex call = some (.admitOperation a))
    (haccepted : AdmissionAccepted (a.operation sha256Hex) (a.items sha256Hex) wave
      a.simulatingWave s.repository (s.step sha256Hex call).repository) :
    (s.step sha256Hex call).origins.get? (a.operationId sha256Hex) = some wave := by
  have hstored : s.execution.repository.waves.get? a.waveId = some wave := haccepted.stored
  rw [WaveService.step_of_store hwrite] at haccepted ⊢
  simp only [WaveService.store, WaveService.repository, Execution.step, storedOrigin] at haccepted ⊢
  -- an admission that raises, or replays, leaves the repository as it is
  cases hadmits : admitSimulationOperation s.execution.repository (a.operation sha256Hex)
      (a.items sha256Hex) a.simulatingWave with
  | error e =>
    rw [hadmits] at haccepted
    exact absurd haccepted AdmissionAccepted.ne
  | ok result =>
    obtain ⟨repo', operation, replay⟩ := result
    rw [hadmits] at haccepted
    rcases admitSimulationOperation_cases hadmits with ⟨_, rfl⟩ | ⟨rfl, _, _, _⟩
    · exact absurd haccepted AdmissionAccepted.ne
    · dsimp only
      rw [hstored]
      exact Dict.get?_set_self _ _ _

end Steps

/-! ## Published results -/

section Results

variable {claim claim' : WaveSimulationItemClaim} {operation : Option WaveSimulationOperation}
  {resultItem : RebalanceWaveItem}

theorem workerFailure_ne_result {name : String} {completedAt at' : Int} :
    workerFailure claim operation name completedAt ≠ some (.result claim' resultItem at') := by
  cases operation with
  | none => nofun
  | some operation => simp [workerFailure]

theorem executeClaim_eq_result {wave : Option RebalanceWave} {work : ClaimWork} {completedAt : Int}
    (h : executeClaim sha256Hex claim wave operation work =
      some (.result claim' resultItem completedAt)) :
    claim' = claim ∧ ∃ read item inputs, wave = some read ∧ item ∈ read.items ∧
      item.waveItemId = claim.waveItemId ∧ simulateItem inputs item = .ok resultItem := by
  unfold executeClaim at h
  split at h
  · cases h
  split at h
  · cases h
  rename_i read
  split at h
  · cases h
  rename_i item hfind
  split at h
  · cases h
  split at h
  · cases h
  · exact absurd h workerFailure_ne_result
  rename_i inputs _
  split at h
  · exact absurd h workerFailure_ne_result
  rename_i simulated hsimulate
  split at h
  · cases h
  cases h
  have hid : item.waveItemId = claim.waveItemId := by simpa using List.find?_some hfind
  exact ⟨rfl, read, item, inputs, rfl, List.mem_of_find?_eq_some hfind, hid, hsimulate⟩

/-- A result in a record was there before, or has just been published by a worker for the
running record. -/
theorem step_result (hready : StoreReady sha256Hex admitted s) {key : String × String}
    {record' : WaveSimulationItemRecord}
    (hget : (s.step sha256Hex call).repository.simulationItems.get? key = some record')
    (hresult : record'.resultItem = some resultItem) :
    (∃ record, s.repository.simulationItems.get? key = some record ∧
        record.resultItem = some resultItem) ∨
      ∃ claim read wave item inputs record, claim ∈ s.execution.issued ∧ key = claim.itemKey ∧
        read ∈ s.reads ∧ read.waveId = claim.waveId ∧ read.tenantId = claim.tenantId ∧
        read.wave = some wave ∧ item ∈ wave.items ∧ item.waveItemId = claim.waveItemId ∧
        simulateItem inputs item = .ok resultItem ∧
        s.repository.simulationItems.get? key = some record ∧ record.status = .running := by
  rw [WaveService.repository] at hget
  rcases step_cases sha256Hex s call with ⟨hsame, _⟩ | ⟨write, hwrite, hexec, _⟩
  · rw [hsame] at hget
    exact Or.inl ⟨record', hget, hresult⟩
  rw [hexec] at hget
  rcases result_before hready.store.execution.1.keyed hget hresult with
    hold | ⟨claim, completedAt, record, rfl, hkey, hrecord, hrunning⟩
  · exact Or.inl hold
  cases serviceWrite_of_storeCall hwrite with
  | @work _ _ _ issued read _ hissued hread hid htenant hexecute =>
    obtain ⟨rfl, wave, item, inputs, hwave, hitem, hitemId, hsimulate⟩ :=
      executeClaim_eq_result hexecute
    exact Or.inr ⟨claim, read, wave, item, inputs, record, hissued, hkey, hread, hid, htenant,
      hwave, hitem, hitemId, hsimulate, hrecord, hrunning⟩

/-- The result of a record is an item with the id of the record. -/
def ResultsOwned (s : WaveService) : Prop :=
  ∀ key record resultItem, s.repository.simulationItems.get? key = some record →
    record.resultItem = some resultItem → resultItem.waveItemId = key.2

theorem resultsOwned_step (hready : StoreReady sha256Hex admitted s) (howned : ResultsOwned s) :
    ResultsOwned (s.step sha256Hex call) := by
  intro key record' resultItem hget hresult
  rcases step_result hready hget hresult with
    ⟨record, hrecord, hold⟩ | ⟨claim, _, _, item, _, _, _, rfl, _, _, _, _, _, hid, hsimulate, _, _⟩
  · exact howned key record resultItem hrecord hold
  · exact (simulateItem_eq_ok hsimulate).1.trans hid

end Results

/-! ## Reconciliations under way -/

/-- What the reads of a reconciliation are worth: it belongs to a stored operation, its records
are the first ones of the operation, and a record that was read as finished is stored as it
was read. -/
structure ReconciliationSound (s : WaveService) (r : OpenReconciliation) : Prop where
  operation : ∃ operation,
    s.repository.simulationOperations.get? r.operation.operationId = some operation ∧
      operationTerms operation = operationTerms r.operation
  tenant : r.operation.tenantId = r.tenantId
  waveId : r.wave.waveId = r.operation.waveId
  awaits : awaitsReconciliation r.wave r.operation.operationId = true
  results : ∀ record ∈ r.records,
    (record.status = .succeeded ↔ record.resultItem.isSome = true)
  finished : ∀ record ∈ r.records, Finished r.operation record →
    s.repository.simulationItems.get? (r.operation.operationId, record.waveItemId) = some record
  pages : r.records.map WaveSimulationItemRecord.waveItemId =
    match r.nextOffset with
    | some offset => (pageIds s.repository r.tenantId r.operation.operationId).take offset
    | none => pageIds s.repository r.tenantId r.operation.operationId

section Reconciliations

variable {r : OpenReconciliation}

theorem ReconciliationSound.step (hc : ReadyCall sha256Hex admitted s call)
    (h : ReconciliationSound s r) : ReconciliationSound (s.step sha256Hex call) r := by
  obtain ⟨operation, hop, hterms⟩ := h.operation
  obtain ⟨operation', hop', hterms'⟩ := step_operation hc hop
  refine ⟨⟨operation', hop', hterms'.trans hterms⟩, h.tenant, h.waveId, h.awaits, h.results, ?_, ?_⟩
  · intro record hmem hfin
    exact step_finished hc hop (h.finished record hmem hfin)
      (hfin.of_terms hterms)
  · rw [step_pageIds hc hop]
    exact h.pages

theorem reconciliationSound_begun (hready : StoreReady sha256Hex admitted s)
    {tenantId operationId : String} {wave : RebalanceWave} {operation : WaveSimulationOperation}
    (hoperation : getSimulationOperation s.repository tenantId operationId = some operation)
    (hid : wave.waveId = operation.waveId)
    (hawaits : awaitsReconciliation wave operationId = true) :
    ReconciliationSound s ⟨tenantId, wave, operation, [], some 0⟩ := by
  obtain ⟨hop, htenant⟩ := getSimulationOperation_eq_some.mp hoperation
  have hself : operation.operationId = operationId := hready.sound.operations operationId _ hop
  subst hself
  exact
    { operation := ⟨operation, hop, rfl⟩
      tenant := htenant
      waveId := hid
      awaits := hawaits
      results := fun _ hmem => absurd hmem List.not_mem_nil
      finished := fun _ hmem => absurd hmem List.not_mem_nil
      pages := rfl }

theorem reconciliationSound_paged (hready : StoreReady sha256Hex admitted s) {offset : Nat}
    (hoffset : r.nextOffset = some offset) (h : ReconciliationSound s r) :
    ReconciliationSound s
      { r with
        records := r.records ++ (listSimulationItems s.repository r.tenantId
          r.operation.operationId simulationItemPageLimit offset).items
        nextOffset := (listSimulationItems s.repository r.tenantId
          r.operation.operationId simulationItemPageLimit offset).nextOffset } := by
  obtain ⟨operation, hop, hterms⟩ := h.operation
  have htenant : operation.tenantId = r.tenantId :=
    (congrArg (fun terms => terms.2.1) hterms).trans h.tenant
  have hfound := getSimulationOperation_eq_some.mpr ⟨hop, htenant⟩
  obtain ⟨hitems, hnext⟩ := listSimulationItems_of_found hfound simulationItemPageLimit offset
  -- a record of the page is stored as it is read
  have hstored : ∀ record ∈ (listSimulationItems s.repository r.tenantId
      r.operation.operationId simulationItemPageLimit offset).items,
      s.repository.simulationItems.get? (r.operation.operationId, record.waveItemId) =
        some record := by
    intro record hmem
    rw [hitems] at hmem
    have hsorted := List.mem_of_mem_drop (List.mem_of_mem_take hmem)
    exact get?_of_mem_simulationItemsForOperation hready.store.execution.1.keyed
      (mem_sortedSimulationItems.mp hsorted)
  refine ⟨h.operation, h.tenant, h.waveId, h.awaits, ?_, ?_, ?_⟩
  · intro record hmem
    rcases List.mem_append.mp hmem with hold | hnew
    · exact h.results record hold
    · exact hready.store.execution.2.result _ record (hstored record hnew)
  · intro record hmem hfin
    rcases List.mem_append.mp hmem with hold | hnew
    · exact h.finished record hold hfin
    · exact hstored record hnew
  · have hpages := h.pages
    rw [hoffset] at hpages
    dsimp only at hpages ⊢
    have htake : (r.records ++ (listSimulationItems s.repository r.tenantId
        r.operation.operationId simulationItemPageLimit offset).items).map
          WaveSimulationItemRecord.waveItemId =
        (pageIds s.repository r.tenantId r.operation.operationId).take
          (offset + simulationItemPageLimit) := by
      rw [List.map_append, hpages, hitems, List.map_take, List.map_drop, List.take_add]
      rfl
    rw [htake, hnext]
    split
    · rename_i offset' hsome
      split at hsome
      · cases hsome
        rfl
      · cases hsome
    · rename_i hnone
      split at hnone
      · cases hnone
      · rename_i hlast
        refine List.take_of_length_le ?_
        rw [pageIds, List.length_map]
        omega

theorem reconciliationsSound_step (hc : ReadyCall sha256Hex admitted s call)
    (h : ∀ r ∈ s.reconciliations, ReconciliationSound s r) :
    ∀ r ∈ (s.step sha256Hex call).reconciliations,
      ReconciliationSound (s.step sha256Hex call) r := by
  intro r hr
  cases reconciliation_step hr with
  | kept hmem => exact (h r hmem).step hc
  | begun operationId read wave operation _ _ hoperation hid hawaits heq _ =>
    have hbegun := reconciliationSound_begun hc.ready hoperation hid hawaits
    rw [heq]
    exact hbegun.step hc
  | paged past offset hmem hoffset heq _ =>
    have hpaged := reconciliationSound_paged hc.ready hoffset (h past hmem)
    rw [heq]
    exact hpaged.step hc

end Reconciliations

/-! ## Operations and their waves -/

/-- The last admission that the wave records is that of the operation. -/
def NamedBy (wave : RebalanceWave) (operationId : String) : Prop :=
  ∃ event, asyncAdmission wave = some event ∧
    event.metadata.get? "operation_id" = some (.text operationId)

/-- The item is the reconciled one of a finished record. -/
def Settled (repo : WaveRepository) (id : String) (operation : WaveSimulationOperation)
    (original item : RebalanceWaveItem) : Prop :=
  ∃ record, repo.simulationItems.get? (id, original.waveItemId) = some record ∧
    Finished operation record ∧ item = reconciledItem operation record original

/-- The item is the admitted one, or the reconciled one of a finished record. -/
def Carries (repo : WaveRepository) (id : String) (operation : WaveSimulationOperation)
    (original item : RebalanceWaveItem) : Prop :=
  item = original ∨ Settled repo id operation original item

/-- All records of an operation are finished. -/
def AllFinished (repo : WaveRepository) (id : String) (operation : WaveSimulationOperation) :
    Prop :=
  ∀ key record, key.1 = id → repo.simulationItems.get? key = some record →
    Finished operation record

/-- An operation with the wave it was admitted for and the stored one: while the operation is
open the wave simulates, with the results so far; afterwards all records are finished. -/
structure Tracked (s : WaveService) (id : String) (operation : WaveSimulationOperation)
    (origin wave : RebalanceWave) : Prop where
  admitted : s.origins.get? id = some origin
  stored : s.repository.waves.get? operation.waveId = some wave
  tenant : wave.tenantId = some operation.tenantId
  nodup : (origin.items.map RebalanceWaveItem.waveItemId).Nodup
  covered : ∀ item ∈ origin.items, ∃ record,
    s.repository.simulationItems.get? (id, item.waveItemId) = some record
  phase :
    (wave.state = .simulating ∧ NamedBy wave id ∧
      List.Forall₂ (Carries s.repository id operation) origin.items wave.items) ∨
    (wave.state.phase = 3 ∧ AllFinished s.repository id operation)

/-- Every stored operation is tracked. -/
def AllTracked (s : WaveService) : Prop :=
  ∀ id operation, s.repository.simulationOperations.get? id = some operation →
    ∃ origin wave, Tracked s id operation origin wave

section Tracking

variable {id : String} {operation operation' : WaveSimulationOperation}
  {original item : RebalanceWaveItem}

theorem NamedBy.eq_of_awaits {wave : RebalanceWave} {operationId : String}
    (hnamed : NamedBy wave id) (hawaits : awaitsReconciliation wave operationId = true) :
    operationId = id := by
  obtain ⟨event, hevent, hid⟩ := hnamed
  rw [awaitsReconciliation, hevent, Bool.and_eq_true, decide_eq_true_eq, decide_eq_true_eq,
    hid, Option.some.injEq, DiagnosticValue.text.injEq] at hawaits
  exact hawaits.2.symm

theorem namedBy_simulatingWave (request : AdmitRequest) (sha256Hex : String → String)
    (tenantId : String) (wave : RebalanceWave) :
    NamedBy (request.admission sha256Hex tenantId wave).simulatingWave
      ((request.admission sha256Hex tenantId wave).operationId sha256Hex) := by
  refine ⟨request.event sha256Hex tenantId wave, ?_, ?_⟩
  · show (List.reverse (wave.events ++ [request.event sha256Hex tenantId wave])).find? _ = _
    rw [List.reverse_append, List.reverse_singleton, List.singleton_append, List.find?_cons_of_pos]
    rfl
  · refine Dict.get?_ofEntries_of_forall (by simp) ?_
    intro e he hkey
    simp only [List.mem_cons, List.not_mem_nil, or_false] at he
    rcases he with rfl | rfl | rfl | rfl | rfl
    · rfl
    · simp at hkey
    · simp at hkey
    · simp at hkey
    · simp at hkey

/-! ### What a call keeps -/

theorem Settled.step (hc : ReadyCall sha256Hex admitted s call)
    (hop : s.repository.simulationOperations.get? id = some operation)
    (hterms : operationTerms operation' = operationTerms operation)
    (h : Settled s.repository id operation original item) :
    Settled (s.step sha256Hex call).repository id operation' original item := by
  obtain ⟨record, hrecord, hfin, heq⟩ := h
  refine ⟨record, step_finished hc hop hrecord hfin, hfin.of_terms hterms, ?_⟩
  rw [heq, reconciledItem_of_terms hterms]

theorem Carries.step (hc : ReadyCall sha256Hex admitted s call)
    (hop : s.repository.simulationOperations.get? id = some operation)
    (hterms : operationTerms operation' = operationTerms operation)
    (h : Carries s.repository id operation original item) :
    Carries (s.step sha256Hex call).repository id operation' original item :=
  h.imp_right (fun hsettled => hsettled.step hc hop hterms)

theorem AllFinished.step (hc : ReadyCall sha256Hex admitted s call)
    (hop : s.repository.simulationOperations.get? id = some operation)
    (hterms : operationTerms operation' = operationTerms operation)
    (h : AllFinished s.repository id operation) :
    AllFinished (s.step sha256Hex call).repository id operation' := by
  intro key record' hkey hget
  rw [← hkey] at hop
  obtain ⟨record, hrecord, _⟩ := exists_of_map_eq (step_records hc hop) hget
  have hfin := h key record hkey hrecord
  rw [step_finished hc hop hrecord hfin] at hget
  cases hget
  exact hfin.of_terms hterms

theorem covered_step (hc : ReadyCall sha256Hex admitted s call)
    {key : String × String} (hop : s.repository.simulationOperations.get? key.1 = some operation)
    {record : WaveSimulationItemRecord}
    (hrecord : s.repository.simulationItems.get? key = some record) :
    ∃ record', (s.step sha256Hex call).repository.simulationItems.get? key = some record' := by
  obtain ⟨record', hrecord', _⟩ := exists_of_map_eq (step_records hc hop).symm hrecord
  exact ⟨record', hrecord'⟩

/-! ### What a finished reconciliation writes -/

section Merged

variable {r : OpenReconciliation} {id : String} {operation : WaveSimulationOperation}
  {origin : RebalanceWave}

variable {record : WaveSimulationItemRecord} {original item : RebalanceWaveItem}
  {originals items : List RebalanceWaveItem}

theorem ReconciliationSound.all_pages (h : ReconciliationSound s r) (hread : r.nextOffset = none) :
    r.records.map WaveSimulationItemRecord.waveItemId =
      pageIds s.repository r.tenantId r.operation.operationId := by
  have hpages := h.pages
  rw [hread] at hpages
  exact hpages

theorem ReconciliationSound.nodup (hready : StoreReady sha256Hex admitted s)
    (h : ReconciliationSound s r) (hread : r.nextOffset = none) :
    (r.records.map WaveSimulationItemRecord.waveItemId).Nodup := by
  rw [h.all_pages hread, pageIds, sortedSimulationItems,
    ((List.perm_insertionSort _ _).map _).nodup_iff]
  exact nodup_simulationItemsForOperation hready.store.execution.1.keyed _ _

theorem ReconciliationSound.mem_records (hready : StoreReady sha256Hex admitted s)
    (h : ReconciliationSound s r) (hread : r.nextOffset = none) {key : String × String}
    (hkey : key.1 = r.operation.operationId)
    (hrecord : s.repository.simulationItems.get? key = some record) :
    ∃ read ∈ r.records, read.waveItemId = key.2 := by
  obtain ⟨operation, hop, hterms⟩ := h.operation
  obtain ⟨owner, howner, hof⟩ := hready.sound.records key record hrecord
  rw [hkey, hop] at howner
  cases howner
  have htenant : operation.tenantId = r.tenantId :=
    (congrArg (fun terms => terms.2.1) hterms).trans h.tenant
  have hmem : record ∈ operationItems s.repository r.operation.operationId operation :=
    mem_operationItems.mpr ⟨key, hkey, hrecord, hof.tenantId⟩
  rw [operationItems, htenant, ← mem_sortedSimulationItems] at hmem
  have hid : key.2 ∈ r.records.map WaveSimulationItemRecord.waveItemId := by
    rw [h.all_pages hread, ← hof.waveItemId]
    exact List.mem_map_of_mem hmem
  obtain ⟨read, hmemRead, hreadId⟩ := List.mem_map.mp hid
  exact ⟨read, hmemRead, hreadId⟩

theorem Carries.waveItemId (howned : ResultsOwned s)
    (h : Carries s.repository id operation original item) :
    item.waveItemId = original.waveItemId := by
  rcases h with rfl | ⟨record, hrecord, _, rfl⟩
  · rfl
  · exact waveItemId_reconciledItem fun resultItem hresult =>
      howned _ record resultItem hrecord hresult

theorem settled_of_read (h : ReconciliationSound s r) (hid : r.operation.operationId = id)
    (hterms : operationTerms operation = operationTerms r.operation)
    (hcarries : Carries s.repository id operation original item) (hmem : record ∈ r.records)
    (hrecordId : record.waveItemId = original.waveItemId) (hfin : Finished r.operation record) :
    Settled s.repository id operation original (reconciledItem r.operation record item) := by
  have hstored := h.finished record hmem hfin
  rw [hid, hrecordId] at hstored
  refine ⟨record, hstored, hfin.of_terms hterms, ?_⟩
  rw [← reconciledItem_of_terms hterms]
  rcases hcarries with rfl | ⟨past, hpast, _, rfl⟩
  · rfl
  · rw [hstored] at hpast
    cases hpast
    exact reconciledItem_reconciledItem operation record original

theorem carries_reconciledWaveItems (hready : StoreReady sha256Hex admitted s)
    (howned : ResultsOwned s) (h : ReconciliationSound s r) (hread : r.nextOffset = none)
    (hid : r.operation.operationId = id)
    (hterms : operationTerms operation = operationTerms r.operation)
    (hcarries : List.Forall₂ (Carries s.repository id operation) originals items) :
    List.Forall₂ (Carries s.repository id operation) originals
      (reconciledWaveItems items r.operation r.records) := by
  rw [reconciledWaveItems, List.forall₂_map_right_iff]
  refine hcarries.imp fun original item hitem => ?_
  split
  · exact hitem
  · rename_i record hfound
    obtain ⟨hmem, hrecordId⟩ := (get?_recordsById (h.nodup hready hread)).mp hfound
    by_cases hfin : Finished r.operation record
    · exact Or.inr (settled_of_read h hid hterms hitem hmem
        (hrecordId.trans (hitem.waveItemId howned)) hfin)
    · rw [reconciledItem_of_not_finished (h.results record hmem) hfin]
      exact hitem

theorem settled_reconciledWaveItems (hready : StoreReady sha256Hex admitted s)
    (howned : ResultsOwned s) (h : ReconciliationSound s r) (hread : r.nextOffset = none)
    (hid : r.operation.operationId = id)
    (hterms : operationTerms operation = operationTerms r.operation)
    (hterminal : operationItemsAreTerminal r.operation r.records = true)
    (hcovered : ∀ original ∈ originals, ∃ record,
      s.repository.simulationItems.get? (id, original.waveItemId) = some record)
    (hcarries : List.Forall₂ (Carries s.repository id operation) originals items) :
    List.Forall₂ (Settled s.repository id operation) originals
      (reconciledWaveItems items r.operation r.records) := by
  have hfinished := operationItemsAreTerminal_iff.mp hterminal
  rw [reconciledWaveItems, List.forall₂_map_right_iff]
  induction hcarries with
  | nil => exact .nil
  | @cons original item originals items hitem _ ih =>
    refine .cons ?_ (ih fun other hother => hcovered other (List.mem_cons_of_mem _ hother))
    obtain ⟨stored, hstored⟩ := hcovered original List.mem_cons_self
    obtain ⟨record, hmem, hrecordId⟩ := h.mem_records hready hread hid.symm hstored
    have hitemId := hitem.waveItemId howned
    rw [(get?_recordsById (h.nodup hready hread)).mpr ⟨hmem, hrecordId.trans hitemId.symm⟩]
    exact settled_of_read h hid hterms hitem hmem hrecordId (hfinished record hmem)

theorem allFinished_of_terminal (hready : StoreReady sha256Hex admitted s)
    (h : ReconciliationSound s r) (hread : r.nextOffset = none)
    (hid : r.operation.operationId = id)
    (hterms : operationTerms operation = operationTerms r.operation)
    (hterminal : operationItemsAreTerminal r.operation r.records = true) :
    AllFinished s.repository id operation := by
  have hfinished := operationItemsAreTerminal_iff.mp hterminal
  intro key stored hkey hstored
  obtain ⟨record, hmem, hrecordId⟩ := h.mem_records hready hread (hkey.trans hid.symm) hstored
  have hfin := hfinished record hmem
  have hsame := h.finished record hmem hfin
  rw [hrecordId, hid, ← hkey] at hsame
  rw [hstored] at hsame
  cases hsame
  exact hfin.of_terms hterms

end Merged

end Tracking

/-! ## Every operation is tracked -/

section AllTracked

variable {wave origin : RebalanceWave} {operation : WaveSimulationOperation}

theorem waveItemId_items (a : SimulationAdmission) :
    (a.items sha256Hex).map WaveSimulationItemRecord.waveItemId =
      a.wave.items.map RebalanceWaveItem.waveItemId := by
  have hmap : (a.items sha256Hex).map WaveSimulationItemRecord.waveItemId =
      (a.wave.items.zipIdx.map Prod.fst).map RebalanceWaveItem.waveItemId := by
    rw [SimulationAdmission.items, List.map_map, List.map_map]
    rfl
  rw [hmap, List.zipIdx_map_fst]

theorem tracked_admitted (hready : StoreReady sha256Hex admitted s) {a : SimulationAdmission}
    (hwrite : s.storeCall sha256Hex call = some (.admitOperation a))
    (haccepted : AdmissionAccepted (a.operation sha256Hex) (a.items sha256Hex) wave
      a.simulatingWave s.repository (s.step sha256Hex call).repository) :
    Tracked (s.step sha256Hex call) (a.operationId sha256Hex) (a.operation sha256Hex) wave
      a.simulatingWave := by
  have horigin := step_origins_admitted hwrite haccepted
  -- the admitted wave is the one that was read
  have hread : a.wave = wave ∧ NamedBy a.simulatingWave (a.operationId sha256Hex) := by
    cases serviceWrite_of_storeCall hwrite with
    | @admitSimulation request _ read base hmem hbase _ =>
      obtain ⟨_, _, hseen⟩ := hready.dated.reads read hmem base hbase
      exact ⟨(hseen.eq_of_version haccepted.stored haccepted.version).symm,
        namedBy_simulatingWave request sha256Hex read.tenantId base⟩
  obtain ⟨rfl, hnamed⟩ := hread
  have hids : ((a.items sha256Hex).map WaveSimulationItemRecord.waveItemId).Nodup :=
    haccepted.nodup
  have hsame : a.waveId = a.simulatingWave.waveId :=
    (hready.dated.keyed _ _ haccepted.stored).symm
  refine ⟨horigin, ?_, haccepted.sameTenant, ?_, ?_, Or.inl ⟨rfl, hnamed, ?_⟩⟩
  · rw [haccepted.result]
    show (s.repository.waves.set a.wave.waveId a.simulatingWave).get? a.waveId = _
    rw [hsame]
    exact Dict.get?_set_self _ _ _
  · rw [waveItemId_items] at hids
    exact hids
  · intro item hitem
    have hrow : item.waveItemId ∈
        (a.items sha256Hex).map WaveSimulationItemRecord.waveItemId := by
      rw [waveItemId_items]
      exact List.mem_map_of_mem hitem
    obtain ⟨row, hmem, hrowId⟩ := List.mem_map.mp hrow
    refine ⟨row, ?_⟩
    rw [haccepted.result, ← hrowId]
    exact get?_storeItems_of_mem hids s.repository.simulationItems hmem
  · exact List.forall₂_same.mpr fun _ _ => Or.inl rfl

theorem reconciled_phase (hready : StoreReady sha256Hex admitted s) (howned : ResultsOwned s)
    (hsound : ∀ r ∈ s.reconciliations, ReconciliationSound s r) {id : String}
    (hop : s.repository.simulationOperations.get? id = some operation) {wave' : RebalanceWave}
    (hstate : wave.state = .simulating) (hnamed : NamedBy wave id)
    (hcarries : List.Forall₂ (Carries s.repository id operation) origin.items wave.items)
    (hmove : WaveMove sha256Hex s call wave wave') :
    (wave'.state = .simulating ∧ NamedBy wave' id ∧
      List.Forall₂ (Carries s.repository id operation) origin.items wave'.items) ∨
    (wave'.state.phase = 3 ∧ AllFinished s.repository id operation) := by
  cases hmove with
  | command command _ _ hcheck hbuild =>
    exact absurd hstate (command.moves hcheck hbuild).notSimulating.1
  | admitted _ _ _ _ hchecked _ =>
    rw [hstate] at hchecked
    cases hchecked
  | reconciled index stamp r _ hr hwave hread _ heq =>
    have hreconciliation := hsound r (List.mem_of_getElem? hr)
    have hid : r.operation.operationId = id :=
      hnamed.eq_of_awaits (hwave ▸ hreconciliation.awaits)
    obtain ⟨stored, hstored, hterms⟩ := hreconciliation.operation
    rw [hid, hop] at hstored
    cases hstored
    rcases reconciledWave_eq_some hstate heq with ⟨hterminal, rfl⟩ | ⟨_, rfl⟩
    · refine Or.inr ⟨phase_simulationResultState _, ?_⟩
      exact allFinished_of_terminal hready hreconciliation hread hid hterms hterminal
    · refine Or.inl ⟨hstate, hnamed, ?_⟩
      exact carries_reconciledWaveItems hready howned hreconciliation hread hid hterms hcarries

theorem phase_le_three (state : WaveState) : state.phase ≤ 3 := by
  cases state <;> decide

theorem Tracked.step (hc : ReadyCall sha256Hex admitted s call)
    (howned : ResultsOwned s) (hsound : ∀ r ∈ s.reconciliations, ReconciliationSound s r)
    {id : String} {operation' : WaveSimulationOperation}
    (hop : s.repository.simulationOperations.get? id = some operation)
    (hterms : operationTerms operation' = operationTerms operation)
    (h : Tracked s id operation origin wave) :
    ∃ wave', Tracked (s.step sha256Hex call) id operation' origin wave' := by
  have hwaveId : operation'.waveId = operation.waveId :=
    congrArg (fun terms => terms.2.2.1) hterms
  have htenant : operation'.tenantId = operation.tenantId :=
    congrArg (fun terms => terms.2.1) hterms
  have horigin : (s.step sha256Hex call).origins.get? id = some origin :=
    (step_origins hc hop).trans h.admitted
  have hcovered : ∀ item ∈ origin.items, ∃ record,
      (s.step sha256Hex call).repository.simulationItems.get? (id, item.waveItemId) =
        some record := by
    intro item hitem
    obtain ⟨record, hrecord⟩ := h.covered item hitem
    have hkey : s.repository.simulationOperations.get? (id, item.waveItemId).1 =
        some operation := hop
    exact covered_step hc hkey hrecord
  -- the phase of the wave after the call, on the records before it
  have hphase : ∃ wave', (s.step sha256Hex call).repository.waves.get? operation.waveId =
      some wave' ∧ wave'.tenantId = wave.tenantId ∧
      ((wave'.state = .simulating ∧ NamedBy wave' id ∧
        List.Forall₂ (Carries s.repository id operation) origin.items wave'.items) ∨
      (wave'.state.phase = 3 ∧ AllFinished s.repository id operation)) := by
    rcases stored_step hc.ready.dated call h.stored with hkept | ⟨wave', hget, hmove⟩
    · exact ⟨wave, hkept, rfl, h.phase⟩
    · refine ⟨wave', hget, hmove.evolved.tenantId, ?_⟩
      rcases h.phase with ⟨hstate, hnamed, hcarries⟩ | ⟨hlast, hfinished⟩
      · exact reconciled_phase hc.ready howned hsound hop hstate hnamed hcarries hmove
      · refine Or.inr ⟨?_, hfinished⟩
        have hle := hmove.evolved.phase
        have hmax := phase_le_three wave'.state
        omega
  obtain ⟨wave', hget, hsame, hphase⟩ := hphase
  refine ⟨wave', horigin, ?_, ?_, h.nodup, hcovered, ?_⟩
  · rw [hwaveId]
    exact hget
  · rw [hsame, htenant]
    exact h.tenant
  · rcases hphase with ⟨hstate, hnamed, hcarries⟩ | ⟨hlast, hfinished⟩
    · refine Or.inl ⟨hstate, hnamed, hcarries.imp fun original item hitem => ?_⟩
      exact hitem.step hc hop hterms
    · exact Or.inr ⟨hlast, hfinished.step hc hop hterms⟩

theorem allTracked_step (hc : ReadyCall sha256Hex admitted s call)
    (howned : ResultsOwned s) (hsound : ∀ r ∈ s.reconciliations, ReconciliationSound s r)
    (htracked : AllTracked s) : AllTracked (s.step sha256Hex call) := by
  intro id operation' hop'
  rcases step_operation_before hc.ready hop' with
    ⟨operation, hop, hterms⟩ | ⟨a, wave, hwrite, rfl, rfl, haccepted⟩
  · obtain ⟨origin, wave, h⟩ := htracked id operation hop
    exact ⟨origin, h.step hc howned hsound hop hterms⟩
  · exact ⟨wave, a.simulatingWave, tracked_admitted hc.ready hwrite haccepted⟩

end AllTracked

/-! ## Runs -/

/-- The invariants of the services, for the admissions of an interleaving. -/
structure ServiceInv (sha256Hex : String → String) (admitted : List SimulationAdmission)
    (s : WaveService) : Prop where
  ready : StoreReady sha256Hex admitted s
  results : ResultsOwned s
  reconciliations : ∀ r ∈ s.reconciliations, ReconciliationSound s r
  tracked : AllTracked s

section Runs

theorem serviceInv_new (sha256Hex : String → String) (admitted : List SimulationAdmission) :
    ServiceInv sha256Hex admitted WaveService.new := by
  refine ⟨storeReady_new sha256Hex admitted, ?_, ?_, ?_⟩
  · simp [ResultsOwned, WaveService.new, WaveService.repository, Execution.new, WaveRepository.new]
  · simp [WaveService.new]
  · simp [AllTracked, WaveService.new, WaveService.repository, Execution.new, WaveRepository.new]

theorem serviceInv_step (hids : OperationIdsInjective sha256Hex admitted)
    (hinv : ServiceInv sha256Hex admitted s) (hcall : AdmitsOneOf sha256Hex admitted s call) :
    ServiceInv sha256Hex admitted (s.step sha256Hex call) :=
  have hc : ReadyCall sha256Hex admitted s call := ⟨hids, hinv.ready, hcall⟩
  ⟨storeReady_step hc, resultsOwned_step hinv.ready hinv.results,
    reconciliationsSound_step hc hinv.reconciliations,
    allTracked_step hc hinv.results hinv.reconciliations hinv.tracked⟩

theorem serviceInv_after {past rest : List ServiceCall}
    (hids : OperationIdsInjective sha256Hex (serviceAdmissions sha256Hex (past ++ rest))) :
    ServiceInv sha256Hex (serviceAdmissions sha256Hex (past ++ rest))
      (WaveService.after sha256Hex past) := by
  refine Runs.run_history
    (fun _ s => ServiceInv sha256Hex (serviceAdmissions sha256Hex (past ++ rest)) s)
    (fun earlier call hinv hcall => serviceInv_step hids hinv hcall) ?_
    (serviceInv_new sha256Hex (serviceAdmissions sha256Hex (past ++ rest)))
  intro earlier call later hsplit a ha
  rw [hsplit, List.append_assoc, List.cons_append]
  exact mem_serviceAdmissions ha

theorem serviceInv_end {calls : List ServiceCall}
    (hids : OperationIdsInjective sha256Hex (serviceAdmissions sha256Hex calls)) :
    ServiceInv sha256Hex (serviceAdmissions sha256Hex calls)
      (WaveService.after sha256Hex calls) := by
  rw [← List.append_nil calls] at hids ⊢
  have hinv := serviceInv_after hids
  rw [List.append_nil] at hinv ⊢
  exact hinv

end Runs

/-! ## Leaving the simulation -/

/-- What a finished record says about its item: a success carries the published result, and a
failure or a cancellation blocks the item with the recorded cause. -/
def RecordedOutcome (record : WaveSimulationItemRecord) (original item : RebalanceWaveItem) :
    Prop :=
  (record.status = .succeeded ∧ record.resultItem = some item) ∨
    ((record.status = .failed ∨ record.status = .cancelled) ∧
      item = { original with
        state := .simulationBlocked
        reasonCodes := [simulationFailureCode record]
        diagnostics := original.diagnostics.merge (simulationFailureEntries record) })

/-- The item carries the outcome of the finished record of the admitted item. -/
def CarriesOutcome (repo : WaveRepository) (operationId : String)
    (original item : RebalanceWaveItem) : Prop :=
  ∃ record, repo.simulationItems.get? (operationId, original.waveItemId) = some record ∧
    RecordedOutcome record original item

section Leaving

variable {id : String} {operation : WaveSimulationOperation} {wave wave' : RebalanceWave}

theorem Settled.outcome (hready : StoreReady sha256Hex admitted s)
    {original item : RebalanceWaveItem} (h : Settled s.repository id operation original item) :
    CarriesOutcome s.repository id original item := by
  obtain ⟨record, hrecord, hfin, rfl⟩ := h
  have hresult := hready.store.execution.2.result _ record hrecord
  refine ⟨record, hrecord, ?_⟩
  by_cases hstatus : record.status = .succeeded
  · obtain ⟨resultItem, hsome⟩ := Option.isSome_iff_exists.mp (hresult.mp hstatus)
    rw [reconciledItem_of_result hsome]
    exact Or.inl ⟨hstatus, hsome⟩
  · have hnone : record.resultItem = none := by
      rw [← Option.not_isSome_iff_eq_none]
      exact fun hsome => hstatus (hresult.mpr hsome)
    rw [reconciledItem_of_failure hnone hfin hstatus]
    refine Or.inr ⟨?_, rfl⟩
    rcases hfin with h | h | ⟨h, _⟩
    · exact absurd h hstatus
    · exact Or.inr h
    · exact Or.inl h

theorem waveItemIds_eq (howned : ResultsOwned s) {originals items : List RebalanceWaveItem}
    (h : List.Forall₂ (Carries s.repository id operation) originals items) :
    items.map RebalanceWaveItem.waveItemId = originals.map RebalanceWaveItem.waveItemId := by
  induction h with
  | nil => rfl
  | cons hitem _ ih => rw [List.map_cons, List.map_cons, hitem.waveItemId howned, ih]

/-- A wave leaves `SIMULATING` only through a reconciliation of its operation, when all records
of the operation are finished, with each admitted item settled. -/
theorem leaves_simulating (hinv : ServiceInv sha256Hex admitted s)
    (hget : s.repository.waves.get? id = some wave) (hstate : wave.state = .simulating)
    (hget' : (s.step sha256Hex call).repository.waves.get? id = some wave')
    (hleft : wave'.state ≠ .simulating) :
    ∃ operationId operation origin,
      s.repository.simulationOperations.get? operationId = some operation ∧
      operation.waveId = id ∧ s.origins.get? operationId = some origin ∧
      AllFinished s.repository operationId operation ∧
      (origin.items.map RebalanceWaveItem.waveItemId).Nodup ∧
      List.Forall₂ (Settled s.repository operationId operation) origin.items wave'.items := by
  have hid : wave.waveId = id := hinv.ready.dated.keyed id wave hget
  rcases stored_step hinv.ready.dated call hget with hkept | ⟨moved, hmoved, hmove⟩
  · rw [hkept] at hget'
    cases hget'
    exact absurd hstate hleft
  rw [hmoved] at hget'
  cases hget'
  cases hmove with
  | command command _ _ hcheck hbuild =>
    exact absurd hstate (command.moves hcheck hbuild).notSimulating.1
  | admitted _ _ _ _ hchecked _ =>
    rw [hstate] at hchecked
    cases hchecked
  | reconciled index stamp r _ hr hwave hread _ heq =>
    have hsound := hinv.reconciliations r (List.mem_of_getElem? hr)
    obtain ⟨operation, hop, hterms⟩ := hsound.operation
    have hwaveId : operation.waveId = id := by
      have hsame : operation.waveId = r.operation.waveId :=
        congrArg (fun terms => terms.2.2.1) hterms
      rw [hsame, ← hsound.waveId, hwave, hid]
    obtain ⟨origin, stored, htracked⟩ := hinv.tracked _ operation hop
    have hstored := htracked.stored
    rw [hwaveId, hget] at hstored
    cases hstored
    refine ⟨r.operation.operationId, operation, origin, hop, hwaveId, htracked.admitted, ?_⟩
    rcases reconciledWave_eq_some hstate heq with ⟨hterminal, rfl⟩ | ⟨_, rfl⟩
    · refine ⟨?_, htracked.nodup, ?_⟩
      · exact allFinished_of_terminal hinv.ready hsound hread rfl hterms hterminal
      · rcases htracked.phase with ⟨_, _, hcarries⟩ | ⟨hlast, _⟩
        · exact settled_reconciledWaveItems hinv.ready hinv.results hsound hread rfl hterms
            hterminal htracked.covered hcarries
        · rw [hstate] at hlast
          cases hlast
    · exact absurd hstate hleft

theorem never_simulating_again (past rest : List ServiceCall)
    (hget : (WaveService.after sha256Hex past).repository.waves.get? id = some wave)
    (hphase : wave.state.phase = 3)
    (hget' : (WaveService.after sha256Hex (past ++ rest)).repository.waves.get? id = some wave') :
    wave'.state ≠ .simulating := by
  obtain ⟨later, hlater, hevolved⟩ := stored_run past rest hget
  rw [hget'] at hlater
  cases hlater
  intro hstate
  rcases hevolved with rfl | hevolved
  · rw [hstate] at hphase
    cases hphase
  · have hle := hevolved.phase
    rw [hphase, hstate] at hle
    exact absurd hle (by decide)

/-- A reconciliation whose wave has left `SIMULATING` meanwhile changes nothing. -/
theorem finishReconcile_loses (hdated : Dated s) {index : Nat} {stamp : EventStamp}
    {r : OpenReconciliation} (hr : s.reconciliations[index]? = some r) {stored : RebalanceWave}
    (hget : s.repository.waves.get? r.wave.waveId = some stored)
    (hleft : stored.state ≠ .simulating) :
    (s.step sha256Hex (.finishReconcile index stamp)).repository = s.repository := by
  obtain ⟨_, hstate, hseen⟩ := hdated.reconciliations r (List.mem_of_getElem? hr)
  cases hcall : s.storeCall sha256Hex (.finishReconcile index stamp) with
  | none => rw [WaveService.step_of_observe hcall, repository_observe]
  | some write =>
    rw [WaveService.step_of_store hcall]
    cases serviceWrite_of_storeCall hcall with
    | @reconcile _ _ found wave' hfound hread hwave =>
      rw [hr] at hfound
      cases hfound
      -- the version that was read is gone
      have hconflict : updateWave s.execution.repository wave' r.wave.version r.tenantId =
          .error .versionConflict := by
        unfold updateWave
        rw [(reconciled_evolved hstate hwave).waveId]
        rw [WaveService.repository] at hget
        rw [hget]
        refine if_pos (Or.inl ?_)
        intro hversion
        have hsame := hseen.eq_of_version hget hversion
        exact hleft (hsame ▸ hstate)
      simp only [WaveService.store, WaveService.repository, Execution.step, hconflict]

end Leaving

/-! ## A call that nothing interrupts -/

theorem reconciledWaveItems_idem {items : List RebalanceWaveItem}
    {operation : WaveSimulationOperation} {records : List WaveSimulationItemRecord}
    (howned : ∀ record ∈ records, ∀ resultItem, record.resultItem = some resultItem →
      resultItem.waveItemId = record.waveItemId) :
    reconciledWaveItems (reconciledWaveItems items operation records) operation records =
      reconciledWaveItems items operation records := by
  unfold reconciledWaveItems
  dsimp only
  rw [List.map_map]
  refine List.map_congr_left fun item _ => ?_
  dsimp only [Function.comp_apply]
  cases hfound : (Dict.ofEntries
      (records.map (fun record => (record.waveItemId, record)))).get? item.waveItemId with
  | none =>
    dsimp only
    rw [hfound]
  | some record =>
    obtain ⟨row, hmem, heq⟩ := List.mem_map.mp (Dict.mem_of_get?_ofEntries hfound)
    simp only [Prod.mk.injEq] at heq
    obtain ⟨hid, rfl⟩ := heq
    have hkept : (reconciledItem operation row item).waveItemId = item.waveItemId :=
      waveItemId_reconciledItem fun resultItem hresult =>
        (howned row hmem resultItem hresult).trans hid
    dsimp only
    rw [hkept, hfound]
    exact reconciledItem_reconciledItem operation row item

/-- An operation and its wave, as a call reads them. -/
structure AtRest (repo : WaveRepository) (tenantId operationId : String)
    (operation : WaveSimulationOperation) (wave : RebalanceWave) : Prop where
  found : getSimulationOperation repo tenantId operationId = some operation
  stored : repo.waves.get? operation.waveId = some wave
  waveId : wave.waveId = operation.waveId
  tenant : wave.tenantId = some tenantId

section Uninterrupted

variable {repo : WaveRepository} {tenantId operationId : String}
  {operation : WaveSimulationOperation} {wave new : RebalanceWave}

theorem AtRest.reconcile (h : AtRest repo tenantId operationId operation wave)
    (stamp : EventStamp) :
    reconcileWaveSimulationOperation repo tenantId operationId stamp =
      if awaitsReconciliation wave operationId then
        reconcileRound repo tenantId wave operation
          (sortedSimulationItems repo tenantId operationId) stamp
      else .ok (some (repo, wave)) := by
  have hwave : getWave repo operation.waveId tenantId = some wave :=
    getWave_eq_some.mpr ⟨h.stored, h.tenant⟩
  unfold reconcileWaveSimulationOperation
  rw [h.found]
  dsimp only
  rw [hwave]
  dsimp only
  rw [allSimulationItems_eq h.found]

theorem AtRest.update (h : AtRest repo tenantId operationId operation wave)
    (hevolved : Evolved wave new) :
    updateWave repo new wave.version tenantId =
      .ok { repo with waves := repo.waves.set operation.waveId new } := by
  have hsame : { new with tenantId := some tenantId } = new := by
    rw [← h.tenant, ← hevolved.tenantId]
  unfold updateWave
  rw [hsame, hevolved.waveId, h.waveId, h.stored]
  refine if_neg ?_
  rintro (hversion | htenant)
  · exact hversion rfl
  · exact htenant h.tenant

theorem AtRest.set (h : AtRest repo tenantId operationId operation wave)
    (hevolved : Evolved wave new) :
    AtRest { repo with waves := repo.waves.set operation.waveId new } tenantId operationId
      operation new :=
  { found := h.found
    stored := Dict.get?_set_self _ _ _
    waveId := hevolved.waveId.trans h.waveId
    tenant := hevolved.tenantId.trans h.tenant }

theorem AtRest.reconcile_stored (h : AtRest repo tenantId operationId operation wave)
    (hawaits : awaitsReconciliation wave operationId = true) (hevolved : Evolved wave new)
    {stamp : EventStamp}
    (hnew : reconciledWave wave operation (sortedSimulationItems repo tenantId operationId) stamp =
      .ok (some new)) :
    reconcileWaveSimulationOperation repo tenantId operationId stamp =
      .ok (some ({ repo with waves := repo.waves.set operation.waveId new }, new)) := by
  rw [h.reconcile, if_pos hawaits, reconcileRound, hnew]
  dsimp only
  rw [h.update hevolved]

theorem AtRest.reconcile_idle (h : AtRest repo tenantId operationId operation wave)
    (hidle : awaitsReconciliation wave operationId = true →
      operationItemsAreTerminal operation (sortedSimulationItems repo tenantId operationId) =
        false ∧
      reconciledWaveItems wave.items operation (sortedSimulationItems repo tenantId operationId) =
        wave.items) (stamp : EventStamp) :
    reconcileWaveSimulationOperation repo tenantId operationId stamp = .ok (some (repo, wave)) := by
  rw [h.reconcile]
  split
  · rename_i hawaits
    obtain ⟨hopen, hmerged⟩ := hidle hawaits
    rw [awaitsReconciliation, Bool.and_eq_true, decide_eq_true_eq] at hawaits
    rw [reconcileRound]
    rcases reconciledWave_cases hawaits.1 operation
        (sortedSimulationItems repo tenantId operationId) stamp with
      ⟨hterminal, _⟩ | ⟨_, hchanged, _⟩ | ⟨_, _, hnothing⟩
    · rw [hopen] at hterminal
      cases hterminal
    · exact absurd hmerged hchanged
    · rw [hnothing]
  · rfl

theorem AtRest.reconcile_twice (h : AtRest repo tenantId operationId operation wave)
    (howned : ∀ record ∈ sortedSimulationItems repo tenantId operationId,
      ∀ resultItem, record.resultItem = some resultItem →
        resultItem.waveItemId = record.waveItemId) (stamp stamp' : EventStamp) :
    ∃ repo' wave', reconcileWaveSimulationOperation repo tenantId operationId stamp =
        .ok (some (repo', wave')) ∧
      reconcileWaveSimulationOperation repo' tenantId operationId stamp' =
        .ok (some (repo', wave')) := by
  cases hawaits : awaitsReconciliation wave operationId with
  | false =>
    have hidle : ∀ stamp, reconcileWaveSimulationOperation repo tenantId operationId stamp =
        .ok (some (repo, wave)) := by
      refine h.reconcile_idle fun htrue => ?_
      rw [hawaits] at htrue
      cases htrue
    exact ⟨repo, wave, hidle stamp, hidle stamp'⟩
  | true =>
    have hstate : wave.state = .simulating := by
      rw [awaitsReconciliation, Bool.and_eq_true, decide_eq_true_eq] at hawaits
      exact hawaits.1
    rcases reconciledWave_cases hstate operation
        (sortedSimulationItems repo tenantId operationId) stamp with
      ⟨_, hnew⟩ | ⟨hopen, _, hnew⟩ | ⟨hopen, hmerged, _⟩
    · -- completed: the next call finds another state
      have hevolved : Evolved wave (completedWave wave operation
          (sortedSimulationItems repo tenantId operationId) stamp) := completedWave_evolved hstate
      refine ⟨_, _, h.reconcile_stored hawaits hevolved hnew,
        (h.set hevolved).reconcile_idle (fun hagain => ?_) stamp'⟩
      rw [awaitsReconciliation, Bool.and_eq_true, decide_eq_true_eq] at hagain
      have hphase : (simulationResultState _).phase = WaveState.simulating.phase :=
        congrArg WaveState.phase hagain.1
      rw [phase_simulationResultState] at hphase
      cases hphase
    · -- progress: the next call merges the same records
      have hevolved : Evolved wave (progressedWave wave operation
          (sortedSimulationItems repo tenantId operationId)) := progressedWave_evolved
      refine ⟨_, _, h.reconcile_stored hawaits hevolved hnew,
        (h.set hevolved).reconcile_idle (fun _ => ⟨hopen, ?_⟩) stamp'⟩
      exact reconciledWaveItems_idem howned
    · have hidle : ∀ stamp, reconcileWaveSimulationOperation repo tenantId operationId stamp =
          .ok (some (repo, wave)) := h.reconcile_idle (fun _ => ⟨hopen, hmerged⟩)
      exact ⟨repo, wave, hidle stamp, hidle stamp'⟩

theorem ServiceInv.atRest {sha256Hex : String → String} {admitted : List SimulationAdmission}
    {s : WaveService} (hinv : ServiceInv sha256Hex admitted s)
    (hoperation : getSimulationOperation s.repository tenantId operationId = some operation) :
    ∃ wave, AtRest s.repository tenantId operationId operation wave := by
  obtain ⟨hop, htenant⟩ := getSimulationOperation_eq_some.mp hoperation
  obtain ⟨origin, wave, htracked⟩ := hinv.tracked operationId operation hop
  exact ⟨wave, hoperation, htracked.stored, hinv.ready.dated.keyed _ wave htracked.stored,
    htenant ▸ htracked.tenant⟩

end Uninterrupted

/-- Reconciliation of a wave with its simulation operation, over every interleaving of creates,
commands, admissions, workers and reconciliations, with version conflicts among them.

A wave leaves `SIMULATING` only when all records of its operation are finished, and never
simulates again.  The wave it becomes has each admitted item once and in its place, a succeeded
one with its published result and any other one blocked with its recorded failure or
cancellation; while the operation is open each item is the admitted one or carries such an
outcome.  A reconciliation that finishes after the wave has left changes nothing; and a call
that nothing interrupts returns, and a further call returns the same and changes nothing. -/
theorem wave_reconciled_once (sha256Hex : String → String) (calls : List ServiceCall)
    (hids : OperationIdsInjective sha256Hex (serviceAdmissions sha256Hex calls)) :
    (∀ past call rest, calls = past ++ call :: rest → ∀ id wave wave',
      (WaveService.after sha256Hex past).repository.waves.get? id = some wave →
      wave.state = .simulating →
      (WaveService.after sha256Hex (past ++ [call])).repository.waves.get? id = some wave' →
      wave'.state ≠ .simulating →
      (∃ operationId operation origin,
        (WaveService.after sha256Hex past).repository.simulationOperations.get? operationId =
          some operation ∧
        operation.waveId = id ∧
        (WaveService.after sha256Hex past).origins.get? operationId = some origin ∧
        AllFinished (WaveService.after sha256Hex past).repository operationId operation ∧
        wave'.items.map RebalanceWaveItem.waveItemId =
          origin.items.map RebalanceWaveItem.waveItemId ∧
        (wave'.items.map RebalanceWaveItem.waveItemId).Nodup ∧
        List.Forall₂ (CarriesOutcome (WaveService.after sha256Hex past).repository operationId)
          origin.items wave'.items) ∧
      (∀ mid tail, rest = mid ++ tail → ∀ later,
        (WaveService.after sha256Hex (past ++ call :: mid)).repository.waves.get? id =
          some later →
        later.state ≠ .simulating)) ∧
    (∀ operationId operation,
      (WaveService.after sha256Hex calls).repository.simulationOperations.get? operationId =
        some operation →
      ∃ origin wave,
        (WaveService.after sha256Hex calls).origins.get? operationId = some origin ∧
        (WaveService.after sha256Hex calls).repository.waves.get? operation.waveId = some wave ∧
        (wave.state = .simulating →
          List.Forall₂ (fun original item => item = original ∨
            CarriesOutcome (WaveService.after sha256Hex calls).repository operationId original
              item) origin.items wave.items)) ∧
    (∀ index stamp r stored,
      (WaveService.after sha256Hex calls).reconciliations[index]? = some r →
      (WaveService.after sha256Hex calls).repository.waves.get? r.wave.waveId = some stored →
      stored.state ≠ .simulating →
      ((WaveService.after sha256Hex calls).step sha256Hex
        (.finishReconcile index stamp)).repository =
          (WaveService.after sha256Hex calls).repository) ∧
    (∀ tenantId operationId operation stamp stamp',
      getSimulationOperation (WaveService.after sha256Hex calls).repository tenantId operationId =
        some operation →
      ∃ repo wave,
        reconcileWaveSimulationOperation (WaveService.after sha256Hex calls).repository tenantId
          operationId stamp = .ok (some (repo, wave)) ∧
        reconcileWaveSimulationOperation repo tenantId operationId stamp' =
          .ok (some (repo, wave))) := by
  have hend := serviceInv_end hids
  refine ⟨?_, ?_, ?_, ?_⟩
  · intro past call rest hsplit id wave wave' hget hstate hget' hleft
    subst hsplit
    have hinv := serviceInv_after hids
    rw [after_concat] at hget'
    obtain ⟨operationId, operation, origin, hop, hwaveId, horigin, hfinished, hnodup, hsettled⟩ :=
      leaves_simulating hinv hget hstate hget' hleft
    have hsame := waveItemIds_eq hinv.results (hsettled.imp fun _ _ h => Or.inr h)
    refine ⟨⟨operationId, operation, origin, hop, hwaveId, horigin, hfinished, hsame, ?_, ?_⟩, ?_⟩
    · rw [hsame]
      exact hnodup
    · exact hsettled.imp fun _ _ h => h.outcome hinv.ready
    · intro mid tail _ later hlater
      have hlast : wave'.state.phase = 3 := by
        rcases stored_step hinv.ready.dated call hget with hkept | ⟨moved, hmoved, hmove⟩
        · rw [hkept] at hget'
          cases hget'
          exact absurd hstate hleft
        · rw [hmoved] at hget'
          cases hget'
          have hle := hmove.evolved.phase
          have hmax := phase_le_three wave'.state
          have hne : wave'.state.phase ≠ 2 := fun h => hleft (WaveState.phase_eq_two.mp h)
          rw [hstate] at hle
          have htwo : WaveState.simulating.phase = 2 := rfl
          omega
      rw [← after_concat] at hget'
      rw [List.append_cons] at hlater
      exact never_simulating_again (past ++ [call]) mid hget' hlast hlater
  · intro operationId operation hop
    obtain ⟨origin, wave, htracked⟩ := hend.tracked operationId operation hop
    refine ⟨origin, wave, htracked.admitted, htracked.stored, fun hstate => ?_⟩
    rcases htracked.phase with ⟨_, _, hcarries⟩ | ⟨hlast, _⟩
    · exact hcarries.imp fun _ _ h => h.imp_right fun hsettled => hsettled.outcome hend.ready
    · rw [hstate] at hlast
      cases hlast
  · intro index stamp r stored hr hget hleft
    exact finishReconcile_loses hend.ready.dated hr hget hleft
  · intro tenantId operationId operation stamp stamp' hoperation
    obtain ⟨wave, hrest⟩ := hend.atRest hoperation
    refine hrest.reconcile_twice ?_ stamp stamp'
    intro record hmem resultItem hresult
    have hstored := get?_of_mem_simulationItemsForOperation hend.ready.store.execution.1.keyed
      (mem_sortedSimulationItems.mp hmem)
    exact hend.results _ record resultItem hstored hresult

/-! ### Two reconciliations of one wave -/

/-- The simulation of the wave of `sampleRequest`, without a construction input. -/
def sampleAdmitRequest : AdmitRequest :=
  { actorId := "pm_001"
    correlationId := "corr-wave-001"
    idempotencyKey := "key-1"
    resolvedInputs := .empty
    itemSourceIdentityHash := fun _ => "sha256:item"
    requestHash := "sha256:request"
    sourceIdentityHash := "sha256:source"
    riskAuthorityContextHash := none
    methods := []
    maxConcurrency := 1
    maxAttempts := 1
    stamp := sampleStamp
    now := 0 }

/-- The work of a worker that finds the item as it was admitted. -/
def sampleWork : ClaimWork :=
  { sourceIdentityHash := fun _ _ => "sha256:item"
    inputs := .ok { sampleInputs [] with portfolioIdOfInput := .empty }
    startedAt := 1
    completedAt := 2 }

/-- The one item is simulated, and then two reconciliations read everything before either of
them writes. -/
def racedCalls : List ServiceCall :=
  [.create (sampleRequest ["PB_SG_1"]),
   .read "dwv_0123456789ab" "tenant-sg",
   .command (.sourceCheck "pm_001" "corr-wave-001" healthyMandates sampleStamp) 0,
   .read "dwv_0123456789ab" "tenant-sg",
   .admitSimulation sampleAdmitRequest 1,
   .read "dwv_0123456789ab" "tenant-sg",
   .claim
    ⟨"tenant-sg", "wso_037534fccb6f7293aa21eeffbaf3bd73", "worker-1", 1, 1, 10, fun _ => "u1"⟩,
   .work 0 2 sampleWork,
   .beginReconcile "wso_037534fccb6f7293aa21eeffbaf3bd73" 2,
   .beginReconcile "wso_037534fccb6f7293aa21eeffbaf3bd73" 2,
   .readPage 0,
   .readPage 1,
   .finishReconcile 0 sampleStamp,
   .finishReconcile 1 sampleStamp]

theorem racedCalls_injective :
    OperationIdsInjective serviceSha256Hex (serviceAdmissions serviceSha256Hex racedCalls) := by
  have hlength : (serviceAdmissions serviceSha256Hex racedCalls).length = 1 := by decide +kernel
  obtain ⟨admission, hone⟩ := List.length_eq_one_iff.mp hlength
  rw [hone]
  exact .of_singleton serviceSha256Hex admission

/-- The first reconciliation stores the wave, and the second changes nothing. -/
theorem wave_reconciled_once_raced :
    let before := WaveService.after serviceSha256Hex (racedCalls.take 12)
    let after := WaveService.after serviceSha256Hex (racedCalls.take 13)
    let wave := (before.repository.waves.get? "dwv_0123456789ab").get (by decide +kernel)
    let wave' := (after.repository.waves.get? "dwv_0123456789ab").get (by decide +kernel)
    wave.state = .simulating ∧ wave'.state = .simulationFailed ∧
      (∃ operationId operation origin,
        before.repository.simulationOperations.get? operationId = some operation ∧
        operation.waveId = "dwv_0123456789ab" ∧
        before.origins.get? operationId = some origin ∧
        AllFinished before.repository operationId operation ∧
        List.Forall₂ (CarriesOutcome before.repository operationId) origin.items wave'.items) ∧
      (WaveService.after serviceSha256Hex racedCalls).updates =
        [("dwv_0123456789ab", 3), ("dwv_0123456789ab", 4), ("dwv_0123456789ab", 5)] := by
  intro before after wave wave'
  have hwave : before.repository.waves.get? "dwv_0123456789ab" = some wave :=
    (Option.some_get _).symm
  have hwave' : after.repository.waves.get? "dwv_0123456789ab" = some wave' :=
    (Option.some_get _).symm
  have hsplit : racedCalls = racedCalls.take 12 ++
      .finishReconcile 0 sampleStamp :: [.finishReconcile 1 sampleStamp] := rfl
  obtain ⟨hleaves, _⟩ := wave_reconciled_once serviceSha256Hex racedCalls racedCalls_injective
  obtain ⟨⟨operationId, operation, origin, hop, hid, horigin, hfinished, _, _, hcarries⟩, _⟩ :=
    hleaves _ _ _ hsplit "dwv_0123456789ab" wave wave' hwave (by decide +kernel) hwave'
      (by decide +kernel)
  exact ⟨by decide +kernel, by decide +kernel,
    ⟨operationId, operation, origin, hop, hid, horigin, hfinished, hcarries⟩, by decide +kernel⟩

end LotusManage.Waves
