import LotusManage.Waves.Admission

/-!
# Well-formed simulation stores

The relations between the dictionaries of the in-memory repository that its PostgreSQL counterpart gets
from its keys and constraints:

* a wave, an operation and a record are stored under their own ids;
* the two indexes of the operations are what a `SELECT` on the operations finds;
* a record belongs to a stored operation, and names its tenant and its wave;
* the ordinals of an operation are distinct;
* the stored statuses are sound.

`Kept` is what claims, publications, retries and cancellations have in common: they move statuses,
leases and results.  `storeSound_after` puts the calls together over every interleaving.
-/

namespace LotusManage.Waves

/-- The part of an operation that its admission fixes and that the store finds it by. -/
def operationCustody (operation : WaveSimulationOperation) :
    String × String × String × String × String :=
  (operation.operationId, operation.tenantId, operation.waveId, operation.idempotencyKeyHash,
    operation.correlationId)

/-- `(tenant_id, idempotency_key_hash)` -/
def idempotencyKeyOf (operation : WaveSimulationOperation) : String × String :=
  (operation.tenantId, operation.idempotencyKeyHash)

/-- `(tenant_id, correlation_id)` -/
def correlationKeyOf (operation : WaveSimulationOperation) : String × String :=
  (operation.tenantId, operation.correlationId)

/-- The index leads from a key to the one operation that has it. -/
def Indexes (index : Dict (String × String) String)
    (keyOf : WaveSimulationOperation → String × String)
    (operations : Dict String WaveSimulationOperation) : Prop :=
  ∀ key id, index.get? key = some id ↔
    ∃ operation, operations.get? id = some operation ∧ keyOf operation = key

/-- A record under its key, with the operation it belongs to. -/
structure RecordOf (operation : WaveSimulationOperation) (key : String × String)
    (item : WaveSimulationItemRecord) : Prop where
  operationId : item.operationId = key.1
  waveItemId : item.waveItemId = key.2
  tenantId : item.tenantId = operation.tenantId
  waveId : item.waveId = operation.waveId

/-- A well-formed simulation store. -/
structure StoreSound (repo : WaveRepository) : Prop where
  waves : WavesKeyed repo.waves
  operations : ∀ id operation, repo.simulationOperations.get? id = some operation →
    operation.operationId = id
  idempotency : Indexes repo.simulationOperationIdempotency idempotencyKeyOf
    repo.simulationOperations
  correlations : Indexes repo.simulationOperationCorrelations correlationKeyOf
    repo.simulationOperations
  records : ∀ key item, repo.simulationItems.get? key = some item →
    ∃ operation, repo.simulationOperations.get? key.1 = some operation ∧
      RecordOf operation key item
  ordinals : ∀ key key' item item', repo.simulationItems.get? key = some item →
    repo.simulationItems.get? key' = some item' → key.1 = key'.1 →
    item.ordinal = item'.ordinal → key = key'
  status : StatusInv repo

theorem storeSound_new : StoreSound WaveRepository.new := by
  constructor <;> simp [WaveRepository.new, WavesKeyed, Indexes, StatusInv]

section Sound

variable {repo repo' : WaveRepository}

variable {key : String × String} {id : String} {operation : WaveSimulationOperation}
  {index : Dict (String × String) String} {keyOf : WaveSimulationOperation → String × String}
  {operations : Dict String WaveSimulationOperation} {items : List WaveSimulationItemRecord}
  {wave : RebalanceWave}

theorem StoreSound.keyed (h : StoreSound repo) : RecordsKeyed repo.simulationItems := by
  intro key item hget
  obtain ⟨_, _, hrecord⟩ := h.records key item hget
  exact hrecord.waveItemId

theorem StoreSound.record_eq_none (h : StoreSound repo)
    (hnone : repo.simulationOperations.get? key.1 = none) :
    repo.simulationItems.get? key = none := by
  rw [Option.eq_none_iff_forall_ne_some]
  intro item hget
  obtain ⟨operation, hop, _⟩ := h.records key item hget
  rw [hnone] at hop
  cases hop

/-! ## Calls that keep the store -/

/-- The calls that change no wave and no part of an operation or a record that its admission
fixed. -/
structure Kept (before after : WaveRepository) : Prop where
  waves : after.waves = before.waves
  operations : ∀ id,
    (after.simulationOperations.get? id).map operationCustody =
      (before.simulationOperations.get? id).map operationCustody
  idempotency : after.simulationOperationIdempotency = before.simulationOperationIdempotency
  correlations : after.simulationOperationCorrelations = before.simulationOperationCorrelations
  records : ∀ key, (after.simulationItems.get? key).map recordIdentity =
    (before.simulationItems.get? key).map recordIdentity

theorem Kept.refl (repo : WaveRepository) : Kept repo repo :=
  ⟨rfl, fun _ => rfl, rfl, rfl, fun _ => rfl⟩

theorem Kept.trans {first second third : WaveRepository} (h : Kept first second)
    (h' : Kept second third) : Kept first third :=
  ⟨h'.waves.trans h.waves, fun id => (h'.operations id).trans (h.operations id),
    h'.idempotency.trans h.idempotency, h'.correlations.trans h.correlations,
    fun key => (h'.records key).trans (h.records key)⟩

theorem Kept.operation_before (h : Kept repo repo')
    (hget : repo'.simulationOperations.get? id = some operation) :
    ∃ old, repo.simulationOperations.get? id = some old ∧
      operationCustody old = operationCustody operation :=
  exists_of_map_eq (h.operations id) hget

theorem Kept.record_before (h : Kept repo repo') {item : WaveSimulationItemRecord}
    (hget : repo'.simulationItems.get? key = some item) :
    ∃ old, repo.simulationItems.get? key = some old ∧ recordIdentity old = recordIdentity item :=
  exists_of_map_eq (h.records key) hget

theorem Indexes.of_custody {operations' : Dict String WaveSimulationOperation}
    (h : Indexes index keyOf operations)
    (hkey : ∀ a b, operationCustody a = operationCustody b → keyOf a = keyOf b)
    (hsame : ∀ id, (operations'.get? id).map operationCustody =
      (operations.get? id).map operationCustody) : Indexes index keyOf operations' := by
  intro key id
  rw [h key id]
  constructor
  · rintro ⟨operation, hget, rfl⟩
    obtain ⟨operation', hget', hcustody⟩ := exists_of_map_eq (hsame id).symm hget
    exact ⟨operation', hget', hkey _ _ hcustody⟩
  · rintro ⟨operation', hget', rfl⟩
    obtain ⟨operation, hget, hcustody⟩ := exists_of_map_eq (hsame id) hget'
    exact ⟨operation, hget, hkey _ _ hcustody⟩

theorem StoreSound.of_kept (h : StoreSound repo) (hkept : Kept repo repo')
    (hstatus : StatusInv repo') : StoreSound repo' := by
  refine ⟨?_, ?_, ?_, ?_, ?_, ?_, hstatus⟩
  · rw [hkept.waves]
    exact h.waves
  · intro id operation hget
    obtain ⟨old, hold, hcustody⟩ := hkept.operation_before hget
    rw [← h.operations id old hold]
    exact (congrArg Prod.fst hcustody).symm
  · rw [hkept.idempotency]
    refine h.idempotency.of_custody ?_ hkept.operations
    intro a b hcustody
    simp only [operationCustody, Prod.mk.injEq] at hcustody
    rw [idempotencyKeyOf, idempotencyKeyOf, hcustody.2.1, hcustody.2.2.2.1]
  · rw [hkept.correlations]
    refine h.correlations.of_custody ?_ hkept.operations
    intro a b hcustody
    simp only [operationCustody, Prod.mk.injEq] at hcustody
    rw [correlationKeyOf, correlationKeyOf, hcustody.2.1, hcustody.2.2.2.2]
  · intro key item hget
    obtain ⟨old, hold, hidentity⟩ := hkept.record_before hget
    obtain ⟨operation, hop, hrecord⟩ := h.records key old hold
    obtain ⟨operation', hop', hcustody⟩ := exists_of_map_eq (hkept.operations key.1).symm hop
    simp only [operationCustody, Prod.mk.injEq] at hcustody
    simp only [recordIdentity, Prod.mk.injEq] at hidentity
    refine ⟨operation', hop', ?_, ?_, ?_, ?_⟩
    · exact hidentity.1.symm.trans hrecord.operationId
    · exact hidentity.2.2.2.1.symm.trans hrecord.waveItemId
    · exact (hidentity.2.1.symm.trans hrecord.tenantId).trans hcustody.2.1.symm
    · exact (hidentity.2.2.1.symm.trans hrecord.waveId).trans hcustody.2.2.1.symm
  · intro key key' item item' hget hget' hid hordinal
    obtain ⟨old, hold, hidentity⟩ := hkept.record_before hget
    obtain ⟨old', hold', hidentity'⟩ := hkept.record_before hget'
    simp only [recordIdentity, Prod.mk.injEq] at hidentity hidentity'
    refine h.ordinals key key' old old' hold hold' hid ?_
    exact (hidentity.2.2.2.2.1.trans hordinal).trans hidentity'.2.2.2.2.1.symm

theorem kept_refresh (repo : WaveRepository) (id : String) (updatedAt : Int) :
    Kept repo (refreshSimulationOperationStatus repo id updatedAt) := by
  cases hget : repo.simulationOperations.get? id with
  | none =>
    rw [refreshSimulationOperationStatus, hget]
    exact Kept.refl repo
  | some operation =>
    refine ⟨congrArg Prod.fst (created_refresh repo id updatedAt), ?_, ?_, ?_, ?_⟩
    · intro x
      rw [get?_operations_refresh hget]
      split
      · rename_i heq
        rw [heq, hget]
        rfl
      · rfl
    · rw [refreshSimulationOperationStatus, hget]
    · rw [refreshSimulationOperationStatus, hget]
    · intro key
      rw [simulationItems_refresh]

theorem Kept.refreshed {stored : WaveRepository} (h : Kept repo stored) (id : String)
    (updatedAt : Int) : Kept repo (refreshSimulationOperationStatus stored id updatedAt) :=
  h.trans (kept_refresh stored id updatedAt)

theorem kept_storeItems (repo : WaveRepository) (id : String)
    {rows : List WaveSimulationItemRecord}
    (hrows : ∀ row ∈ rows, ∃ item, repo.simulationItems.get? (id, row.waveItemId) = some item ∧
      recordIdentity row = recordIdentity item) :
    Kept repo { repo with simulationItems := storeItems id rows repo.simulationItems } := by
  refine ⟨rfl, fun _ => rfl, rfl, rfl, ?_⟩
  intro key
  show ((storeItems id rows repo.simulationItems).get? key).map recordIdentity = _
  rcases get?_storeItems_cases id rows repo.simulationItems key with
    hsame | ⟨row, hrow, hkey, hget⟩
  · rw [hsame]
  · obtain ⟨item, hitem, hidentity⟩ := hrows row hrow
    rw [hget, hkey, hitem, Option.map_some, Option.map_some, hidentity]

theorem kept_storeItems_map (hkeyed : RecordsKeyed repo.simulationItems)
    (operation : WaveSimulationOperation) (selected : List WaveSimulationItemRecord)
    (hselected : ∀ item ∈ selected, item ∈ operationItems repo id operation)
    (update : WaveSimulationItemRecord → WaveSimulationItemRecord)
    (hupdate : ∀ item, recordIdentity (update item) = recordIdentity item) :
    Kept repo
      { repo with simulationItems :=
        storeItems id (selected.map update) repo.simulationItems } := by
  refine kept_storeItems repo id ?_
  intro row hrow
  obtain ⟨item, hitem, rfl⟩ := List.mem_map.mp hrow
  refine ⟨item, ?_, hupdate item⟩
  have hid := hupdate item
  simp only [recordIdentity, Prod.mk.injEq] at hid
  rw [hid.2.2.2.1]
  exact get?_of_mem_simulationItemsForOperation hkeyed (hselected item hitem)

theorem kept_claim (hkeyed : RecordsKeyed repo.simulationItems) (call : ClaimCall) :
    Kept repo (claimSimulationItems repo call).1 := by
  rcases claimSimulationItems_cases repo call with hidle | ⟨operation, _, _, _, hresult⟩
  · rw [hidle]
    exact Kept.refl repo
  · rw [hresult]
    refine Kept.refreshed (kept_storeItems repo call.operationId ?_) _ _
    intro row hrow
    obtain ⟨e, he, rfl⟩ := List.mem_map.mp hrow
    have hmem := mem_of_mem_selectedForClaim (List.fst_mem_of_mem_zipIdx he)
    exact ⟨e.1, get?_of_mem_simulationItemsForOperation hkeyed hmem.1, rfl⟩

theorem kept_retry (hkeyed : RecordsKeyed repo.simulationItems) (tenantId operationId : String)
    (waveItemIds : Option (List String)) (retriedAt : Int) :
    Kept repo (retrySimulationItems repo tenantId operationId waveItemIds retriedAt).1 := by
  rcases retrySimulationItems_cases repo tenantId operationId waveItemIds retriedAt with
    hidle | ⟨operation, _, _, hresult⟩
  · rw [hidle]
    exact Kept.refl repo
  · rw [hresult]
    refine Kept.refreshed (kept_storeItems_map hkeyed operation _ ?_ (retriedItem retriedAt)
      (fun _ => rfl)) _ _
    exact fun item hitem => List.mem_of_mem_filter hitem

theorem kept_cancel (hkeyed : RecordsKeyed repo.simulationItems)
    (tenantId operationId reasonCode : String) (cancelledAt : Int) :
    Kept repo (cancelSimulationOperation repo tenantId operationId reasonCode cancelledAt).1 := by
  rcases cancelSimulationOperation_cases repo tenantId operationId reasonCode cancelledAt with
    hidle | ⟨operation, hget, _, _, _, hresult⟩
  · rw [hidle]
    exact Kept.refl repo
  · rw [hresult]
    have hrecords := kept_storeItems_map hkeyed operation
      ((operationItems repo operationId operation).filter
        (cancels (cancelMarked operation reasonCode cancelledAt) cancelledAt))
      (fun item hitem => List.mem_of_mem_filter hitem) (cancelledItem cancelledAt) (fun _ => rfl)
    apply Kept.refreshed
    refine ⟨rfl, ?_, rfl, rfl, hrecords.records⟩
    intro x
    show ((repo.simulationOperations.set operationId
      (cancelMarked operation reasonCode cancelledAt)).get? x).map operationCustody = _
    rw [Dict.get?_set]
    split
    · rename_i heq
      rw [heq, hget]
      rfl
    · rfl

theorem kept_publish {publication : Publication} {accepted : Bool}
    (h : publishSimulationItem repo publication = .ok (repo', accepted)) : Kept repo repo' := by
  rcases publishSimulationItem_cases repo publication with
    hidle | ⟨_, _, _, herror⟩ | ⟨item, operation, hitem, _, _, hresult⟩
  · rw [hidle] at h
    cases h
    exact Kept.refl repo
  · rw [herror] at h
    cases h
  · rw [hresult] at h
    cases h
    apply Kept.refreshed
    refine ⟨rfl, fun _ => rfl, rfl, rfl, ?_⟩
    intro key
    show ((repo.simulationItems.set publication.claim.itemKey
      (publishedItem operation publication.terminal item)).get? key).map recordIdentity = _
    rw [Dict.get?_set]
    split
    · rename_i heq
      rw [heq, hitem]
      rfl
    · rfl

/-! ## Admissions -/

/-- What the validation of the records of an admission establishes. -/
structure AdmissibleItems (operation : WaveSimulationOperation)
    (items : List WaveSimulationItemRecord) : Prop where
  ids : (items.map WaveSimulationItemRecord.waveItemId).Nodup
  ordinals : (items.map WaveSimulationItemRecord.ordinal).Nodup
  owned : ∀ item ∈ items, RecordOf operation (operation.operationId, item.waveItemId) item

theorem admissibleItems_of_validate
    (h : validateSimulationAdmissionItems operation items wave = .ok ()) :
    AdmissibleItems operation items := by
  unfold validateSimulationAdmissionItems at h
  dsimp only at h
  split at h
  · cases h
  rename_i hids
  rw [not_not] at hids
  split at h
  · cases h
  rename_i hordinals
  rw [ne_eq, not_not] at hordinals
  split at h
  · cases h
  rename_i hidentity
  refine ⟨hids, ?_, ?_⟩
  · -- sorted, the ordinals are a range
    rw [← (List.perm_insertionSort (· ≤ ·) _).nodup_iff, hordinals]
    exact List.nodup_range
  · intro item hitem
    rw [Bool.not_eq_true, List.any_eq_false] at hidentity
    have hsame := hidentity item hitem
    simp only [Bool.or_eq_true, decide_eq_true_eq, not_or, ne_eq, not_not] at hsame
    exact ⟨hsame.1.1.1, rfl, hsame.1.1.2, hsame.1.2⟩

theorem Indexes.set (h : Indexes index keyOf operations)
    (hkey : index.get? (keyOf operation) = none) (hid : operations.get? id = none) :
    Indexes (index.set (keyOf operation) id) keyOf (operations.set id operation) := by
  intro key x
  rw [Dict.get?_set, Dict.get?_set]
  by_cases hx : x = id
  · subst hx
    rw [if_pos rfl]
    split
    · rename_i heq
      exact ⟨fun _ => ⟨operation, rfl, heq.symm⟩, fun _ => rfl⟩
    · rename_i hne
      constructor
      · intro hget
        obtain ⟨old, hold, _⟩ := (h key x).mp hget
        rw [hid] at hold
        cases hold
      · rintro ⟨stored, hstored, rfl⟩
        cases hstored
        exact absurd rfl hne
  · rw [if_neg hx]
    split
    · rename_i heq
      constructor
      · intro hget
        cases hget
        exact absurd rfl hx
      · rintro ⟨old, hold, holdKey⟩
        have hget := (h key x).mpr ⟨old, hold, holdKey⟩
        rw [heq, hkey] at hget
        cases hget
    · exact h key x

theorem StoreSound.of_accepted (h : StoreSound repo) {simulatingWave : RebalanceWave}
    (haccepted : AdmissionAccepted operation items wave simulatingWave repo repo')
    (hnew : repo.simulationOperations.get? operation.operationId = none)
    (hpending : operation.status = .pending) (hcancel : operation.cancelReasonCode = none)
    (hitems : ∀ item ∈ items, item.status = .pending) : StoreSound repo' := by
  have hvalid := admissibleItems_of_validate haccepted.records
  have heffect := haccepted.effect
  have hfresh : ∀ key, key.1 = operation.operationId → repo.simulationItems.get? key = none := by
    intro key hkey
    refine h.record_eq_none ?_
    rw [hkey]
    exact hnew
  have hresult := haccepted.result
  subst hresult
  refine ⟨?_, ?_, ?_, ?_, ?_, ?_, ?_⟩
  · show WavesKeyed (repo.waves.set wave.waveId simulatingWave)
    rw [← haccepted.sameWave]
    exact h.waves.set simulatingWave
  · intro id stored hget
    rw [heffect.operations, Dict.get?_set] at hget
    split at hget
    · rename_i heq
      cases hget
      exact heq.symm
    · exact h.operations id stored hget
  · exact h.idempotency.set haccepted.newKey hnew
  · refine h.correlations.set ?_ hnew
    have hcorrelation := haccepted.newCorrelation
    rw [Dict.contains, Option.isSome_eq_false_iff, Option.isNone_iff_eq_none] at hcorrelation
    exact hcorrelation
  · intro key item hget
    rcases heffect.record_cases hget with hold | ⟨hmem, hkey⟩
    · obtain ⟨owner, howner, hrecord⟩ := h.records key item hold
      refine ⟨owner, ?_, hrecord⟩
      rw [heffect.operations, Dict.get?_set_of_ne]
      · exact howner
      · intro heq
        rw [heq, hnew] at howner
        cases howner
    · refine ⟨operation, ?_, ?_⟩
      · rw [heffect.operations, hkey, Dict.get?_set_self]
      · rw [hkey]
        exact hvalid.owned item hmem
  · intro key key' item item' hget hget' hid hordinal
    rcases heffect.record_cases hget with hold | ⟨hmem, hkey⟩
    · rcases heffect.record_cases hget' with hold' | ⟨hmem', hkey'⟩
      · exact h.ordinals key key' item item' hold hold' hid hordinal
      · rw [hfresh key (hid.trans (congrArg Prod.fst hkey'))] at hold
        cases hold
    · rcases heffect.record_cases hget' with hold' | ⟨hmem', hkey'⟩
      · rw [hfresh key' (hid.symm.trans (congrArg Prod.fst hkey))] at hold'
        cases hold'
      · rw [hkey, hkey', List.inj_on_of_nodup_map hvalid.ordinals hmem hmem' hordinal]
  · exact statusInv_admit h.status heffect hfresh hpending hcancel hitems

theorem StoreSound.of_wave (h : StoreSound repo) (wave : RebalanceWave)
    (idempotencyIndex : Dict String (String × Option String))
    (correlationIndex : Dict (String × String) String) :
    StoreSound { repo with
      waves := repo.waves.set wave.waveId wave
      idempotencyIndex := idempotencyIndex
      correlationIndex := correlationIndex } :=
  ⟨h.waves.set wave, h.operations, h.idempotency, h.correlations, h.records, h.ordinals,
    h.status.of_eq rfl rfl⟩

end Sound

/-! ## Runs -/

section Runs

variable {sha256Hex : String → String} {admitted : List SimulationAdmission}

theorem storeSound_step (hids : OperationIdsInjective sha256Hex admitted) {e : Execution}
    {call : SimulationCall} (hinv : AdmissionInv sha256Hex admitted e.repository)
    (hcall : ∀ a, call = .admitOperation a → a ∈ admitted) (h : StoreSound e.repository) :
    StoreSound (e.step sha256Hex call).repository := by
  have hstatus := statusInv_step hids hinv hcall h.status
  cases call with
  | saveWave wave idempotencyKey requestHash tenantId =>
    simp only [Execution.step]
    split
    · exact h
    · rename_i hsave
      obtain ⟨_, _, _, _, _, rfl⟩ := saveWave_eq_ok hsave
      exact h.of_wave { wave with tenantId := some tenantId } _ _
  | updateWave wave expectedVersion tenantId =>
    simp only [Execution.step]
    split
    · exact h
    · rename_i hupdate
      obtain ⟨_, _, _, _, rfl⟩ := updateWave_eq_ok hupdate
      exact h.of_wave { wave with tenantId := some tenantId } _ _
  | admitOperation a =>
    simp only [Execution.step]
    split
    · exact h
    · rename_i hadmits
      rcases admitSimulationOperation_cases hadmits with ⟨_, rfl⟩ | ⟨_, _, wave, haccepted⟩
      · exact h
      · refine h.of_accepted haccepted ?_ rfl rfl ?_
        · exact hinv.operationId_new hids (hcall a rfl) haccepted.newKey
        · intro item hitem
          obtain ⟨row, _, rfl⟩ := List.mem_map.mp hitem
          rfl
  | claim claimCall => exact h.of_kept (kept_claim h.keyed claimCall) hstatus
  | publish publication =>
    simp only [Execution.step]
    split
    · exact h
    · rename_i hpublish
      exact h.of_kept (kept_publish hpublish) (statusInv_publish h.status hpublish)
    · rename_i hpublish
      exact h.of_kept (kept_publish hpublish) (statusInv_publish h.status hpublish)
  | retry tenantId operationId waveItemIds retriedAt =>
    exact h.of_kept (kept_retry h.keyed _ _ _ _) hstatus
  | cancel tenantId operationId reasonCode cancelledAt =>
    exact h.of_kept (kept_cancel h.keyed _ _ _ _) hstatus

theorem storeSound_after {calls : List SimulationCall}
    (hids : OperationIdsInjective sha256Hex (admissions calls)) :
    StoreSound (Execution.after sha256Hex calls).repository := by
  have hinv : StoreInv sha256Hex (admissions calls) (Execution.after sha256Hex calls) ∧
      StoreSound (Execution.after sha256Hex calls).repository := by
    refine Runs.run_invariant (fun e => StoreInv sha256Hex (admissions calls) e ∧
      StoreSound e.repository) ?_ (along_admissions _ (fun call hcall => hcall))
      ⟨storeInv_new, storeSound_new⟩
    intro e call h hcall
    exact ⟨storeInv_step hids e call h.1 hcall, storeSound_step hids h.1.execution.1 hcall h.2⟩
  exact hinv.2

end Runs

end LotusManage.Waves
