import LotusManage.Waves.Reconciliation

/-!
# What one write keeps of an operation

A stored operation and its records change through many calls, but not in what a
reconciliation relies on while it reads them page by page:

* the operation keeps its owner, its wave and its number of attempts;
* its records keep their identities, so the pages keep their order;
* a record that is finished stays as it is (`finished_step`);
* a result appears in a record only through a publication.

`storeStep` sorts the calls by what they do: keep the store, write a wave, or admit an
operation; the other lemmas follow from it.
-/

namespace LotusManage.Waves

/-! ## The kinds of writes -/

/-- What a call on the repository does to it. -/
inductive StoreStep (sha256Hex : String → String) (e : Execution) (call : SimulationCall)
    (e' : Execution) : Prop where
  | kept (hkept : Kept e.repository e'.repository)
      (hoperations : SameOperations e.repository e'.repository)
  | waves (hoperations : e'.repository.simulationOperations = e.repository.simulationOperations)
      (hrecords : e'.repository.simulationItems = e.repository.simulationItems)
  | admitted (a : SimulationAdmission) (wave : RebalanceWave) (hcall : call = .admitOperation a)
      (haccepted : AdmissionAccepted (a.operation sha256Hex) (a.items sha256Hex) wave
        a.simulatingWave e.repository e'.repository)

variable {e : Execution}

theorem StoreStep.idle (sha256Hex : String → String) (call : SimulationCall) (e : Execution) :
    StoreStep sha256Hex e call e :=
  .kept (Kept.refl e.repository) (SameOperations.refl e.repository)

theorem storeStep (sha256Hex : String → String) (hkeyed : RecordsKeyed e.repository.simulationItems)
    (call : SimulationCall) : StoreStep sha256Hex e call (e.step sha256Hex call) := by
  cases call with
  | saveWave wave idempotencyKey requestHash tenantId =>
    simp only [Execution.step]
    split
    · exact .idle _ _ e
    · rename_i hsave
      exact .waves (simulation_saveWave hsave).1 (simulation_saveWave hsave).2
  | updateWave wave expectedVersion tenantId =>
    simp only [Execution.step]
    split
    · exact .idle _ _ e
    · rename_i hupdate
      exact .waves (simulation_updateWave hupdate).1 (simulation_updateWave hupdate).2
  | admitOperation a =>
    simp only [Execution.step]
    split
    · exact .idle _ _ e
    · rename_i hadmits
      rcases admitSimulationOperation_cases hadmits with ⟨_, rfl⟩ | ⟨_, _, wave, haccepted⟩
      · exact .idle _ _ e
      · exact .admitted a wave rfl haccepted
  | claim claimCall =>
    exact .kept (kept_claim hkeyed claimCall)
      (claimSimulationItems_effect hkeyed claimCall).operations
  | publish publication =>
    simp only [Execution.step]
    split
    · exact .idle _ _ e
    · rename_i hpublish
      rw [publishSimulationItem_refused hpublish]
      exact .idle _ _ e
    · rename_i hpublish
      exact .kept (kept_publish hpublish) (publishSimulationItem_effect hpublish).operations
  | retry tenantId operationId waveItemIds retriedAt =>
    exact .kept (kept_retry hkeyed _ _ _ _) (retrySimulationItems_effect hkeyed _ _ _ _).operations
  | cancel tenantId operationId reasonCode cancelledAt =>
    exact .kept (kept_cancel hkeyed _ _ _ _)
      (cancelSimulationOperation_effect hkeyed _ _ _ _).operations

/-! ## Operations -/

/-- The part of an operation that a reconciliation relies on. -/
def operationTerms (operation : WaveSimulationOperation) : String × String × String × Nat :=
  (operation.operationId, operation.tenantId, operation.waveId, operation.maxAttempts)

section Operations

variable {sha256Hex : String → String} {admitted : List SimulationAdmission} {e : Execution}
  {call : SimulationCall}

variable {operation operation' : WaveSimulationOperation} {id : String}

theorem operationTerms_of_custody
    (hcustody : operationCustody operation' = operationCustody operation)
    (hidentity : operationIdentity operation' = operationIdentity operation) :
    operationTerms operation' = operationTerms operation := by
  simp only [operationCustody, operationIdentity, Prod.mk.injEq] at hcustody hidentity
  rw [operationTerms, operationTerms, hcustody.1, hcustody.2.1, hcustody.2.2.1, hidentity.2.2]

theorem Finished.of_terms (h : operationTerms operation' = operationTerms operation)
    {record : WaveSimulationItemRecord} (hfin : Finished operation record) :
    Finished operation' record := by
  simp only [operationTerms, Prod.mk.injEq] at h
  unfold Finished waveSimulationItemIsRetryable at hfin ⊢
  rw [h.2.2.2]
  exact hfin

theorem reconciledItem_of_terms (h : operationTerms operation' = operationTerms operation)
    (record : WaveSimulationItemRecord) (item : RebalanceWaveItem) :
    reconciledItem operation' record item = reconciledItem operation record item := by
  simp only [operationTerms, Prod.mk.injEq] at h
  unfold reconciledItem
  rw [h.2.2.2]

theorem AdmissionAccepted.ne_of_stored (hids : OperationIdsInjective sha256Hex admitted)
    (hinv : AdmissionInv sha256Hex admitted e.repository)
    (hcall : ∀ a, call = .admitOperation a → a ∈ admitted) {a : SimulationAdmission}
    (ha : call = .admitOperation a) {wave : RebalanceWave} {repo' : WaveRepository}
    (haccepted : AdmissionAccepted (a.operation sha256Hex) (a.items sha256Hex) wave
      a.simulatingWave e.repository repo')
    (hop : e.repository.simulationOperations.get? id = some operation) :
    id ≠ a.operationId sha256Hex := by
  rintro rfl
  have hnew := hinv.operationId_new hids (hcall a ha) haccepted.newKey
  cases hnew.symm.trans hop

theorem operation_carried (hids : OperationIdsInjective sha256Hex admitted)
    (hinv : AdmissionInv sha256Hex admitted e.repository)
    (hcall : ∀ a, call = .admitOperation a → a ∈ admitted)
    (hop : e.repository.simulationOperations.get? id = some operation) :
    ∃ operation', (e.step sha256Hex call).repository.simulationOperations.get? id =
      some operation' ∧ operationTerms operation' = operationTerms operation := by
  cases storeStep sha256Hex hinv.keyed call with
  | kept hkept hoperations =>
    obtain ⟨operation', hop', hidentity⟩ := hoperations.exists_after hop
    have hcustody := hkept.operations id
    rw [hop, hop', Option.map_some, Option.map_some, Option.some.injEq] at hcustody
    exact ⟨operation', hop', operationTerms_of_custody hcustody hidentity⟩
  | waves hoperations _ => exact ⟨operation, by rw [hoperations, hop], rfl⟩
  | admitted a wave ha haccepted =>
    refine ⟨operation, ?_, rfl⟩
    rw [haccepted.result, Dict.get?_set_of_ne]
    · exact hop
    · exact haccepted.ne_of_stored hids hinv hcall ha hop

theorem operation_before (hkeyed : RecordsKeyed e.repository.simulationItems)
    (hop' : (e.step sha256Hex call).repository.simulationOperations.get? id = some operation') :
    (∃ operation, e.repository.simulationOperations.get? id = some operation ∧
        operationTerms operation' = operationTerms operation) ∨
      ∃ a wave, call = .admitOperation a ∧ id = a.operationId sha256Hex ∧
        operation' = a.operation sha256Hex ∧
        AdmissionAccepted (a.operation sha256Hex) (a.items sha256Hex) wave a.simulatingWave
          e.repository (e.step sha256Hex call).repository := by
  cases storeStep sha256Hex hkeyed call with
  | kept hkept hoperations =>
    obtain ⟨operation, hop, hidentity⟩ := hoperations.exists_before hop'
    have hcustody := hkept.operations id
    rw [hop, hop', Option.map_some, Option.map_some, Option.some.injEq] at hcustody
    exact Or.inl ⟨operation, hop, operationTerms_of_custody hcustody hidentity.symm⟩
  | waves hoperations _ =>
    rw [hoperations] at hop'
    exact Or.inl ⟨operation', hop', rfl⟩
  | admitted a wave ha haccepted =>
    have hstored := hop'
    rw [haccepted.result, Dict.get?_set] at hstored
    split at hstored
    · rename_i hid
      cases hstored
      exact Or.inr ⟨a, wave, ha, hid, rfl, haccepted⟩
    · exact Or.inl ⟨operation', hstored, rfl⟩

theorem records_carried (hids : OperationIdsInjective sha256Hex admitted)
    (hinv : AdmissionInv sha256Hex admitted e.repository)
    (hcall : ∀ a, call = .admitOperation a → a ∈ admitted) {key : String × String}
    (hop : e.repository.simulationOperations.get? key.1 = some operation) :
    ((e.step sha256Hex call).repository.simulationItems.get? key).map recordIdentity =
      (e.repository.simulationItems.get? key).map recordIdentity := by
  cases storeStep sha256Hex hinv.keyed call with
  | kept hkept _ => exact hkept.records key
  | waves _ hrecords => rw [hrecords]
  | admitted a wave ha haccepted =>
    have hne := haccepted.ne_of_stored hids hinv hcall ha hop
    rw [haccepted.result]
    congr 1
    refine get?_storeItems_of_forall_ne ?_ e.repository.simulationItems
    intro row _ heq
    exact hne (congrArg Prod.fst heq.symm)

end Operations

/-! ## Pages -/

/-- The item ids of the records of an operation, in the order of the pages. -/
def pageIds (repo : WaveRepository) (tenantId operationId : String) : List String :=
  (sortedSimulationItems repo tenantId operationId).map WaveSimulationItemRecord.waveItemId

theorem identities_perm {items items' : Dict (String × String) WaveSimulationItemRecord}
    {id : String}
    (h : ∀ key, key.1 = id →
      (items'.get? key).map recordIdentity = (items.get? key).map recordIdentity)
    (tenantId : String) :
    ((simulationItemsForOperation items' id tenantId).map recordIdentity).Perm
      ((simulationItemsForOperation items id tenantId).map recordIdentity) := by
  have hlist : ∀ d : Dict (String × String) WaveSimulationItemRecord,
      (simulationItemsForOperation d id tenantId).map recordIdentity =
        ((d.mapWithKeyTo (fun _ record => recordIdentity record)).items.filter
          (fun e => decide (e.1.1 = id ∧ e.2.2.1 = tenantId))).map Prod.snd := by
    intro d
    rw [Dict.mapWithKeyTo, List.filter_map, List.map_map, simulationItemsForOperation, List.map_map]
    rfl
  rw [hlist, hlist]
  refine List.Perm.map _ (Dict.filter_items_perm _ ?_)
  intro key identity hkey
  rw [decide_eq_true_eq] at hkey
  rw [Dict.get?_mapWithKeyTo, Dict.get?_mapWithKeyTo, h key hkey.1]

/-- The order of the pages, on what it looks at. -/
def pageKeyLe (a b : Nat × String) : Prop := a.1 < b.1 ∨ (a.1 = b.1 ∧ a.2 ≤ b.2)

theorem pageKeyLe_antisymm {a b : Nat × String} (h : pageKeyLe a b) (h' : pageKeyLe b a) :
    a = b := by
  rcases h with h | ⟨hord, hid⟩
  · rcases h' with h' | ⟨h', _⟩ <;> omega
  · rcases h' with h' | ⟨_, hid'⟩
    · omega
    · exact Prod.ext hord (le_antisymm hid hid')

theorem pageIds_congr {repo repo' : WaveRepository} {id : String}
    (h : ∀ key, key.1 = id → (repo'.simulationItems.get? key).map recordIdentity =
      (repo.simulationItems.get? key).map recordIdentity) (tenantId : String) :
    pageIds repo' tenantId id = pageIds repo tenantId id := by
  have hperm := (identities_perm h tenantId).map
    (fun identity => (identity.2.2.2.2.1, identity.2.2.2.1))
  rw [List.map_map, List.map_map] at hperm
  have hsorted : ∀ repo : WaveRepository,
      ((sortedSimulationItems repo tenantId id).map
        (fun record => (record.ordinal, record.waveItemId))).Pairwise pageKeyLe := by
    intro repo
    rw [List.pairwise_map]
    refine (List.pairwise_insertionSort (fun a b : WaveSimulationItemRecord =>
      simulationItemLe a b = true) _).imp ?_
    intro a b hle
    exact simulationItemLe_iff.mp hle
  have heq : (sortedSimulationItems repo' tenantId id).map
        (fun record => (record.ordinal, record.waveItemId)) =
      (sortedSimulationItems repo tenantId id).map
        (fun record => (record.ordinal, record.waveItemId)) := by
    refine List.Perm.eq_of_pairwise (fun _ _ _ _ => pageKeyLe_antisymm) (hsorted repo')
      (hsorted repo) ?_
    exact ((List.perm_insertionSort _ _).map _).trans
      (hperm.trans ((List.perm_insertionSort _ _).map _).symm)
  have hids := congrArg (List.map Prod.snd) heq
  rw [List.map_map, List.map_map] at hids
  exact hids

/-! ## Results -/

theorem result_before {sha256Hex : String → String} {call : SimulationCall}
    (hkeyed : RecordsKeyed e.repository.simulationItems) {key : String × String}
    {record' : WaveSimulationItemRecord} {resultItem : RebalanceWaveItem}
    (hget : (e.step sha256Hex call).repository.simulationItems.get? key = some record')
    (hresult : record'.resultItem = some resultItem) :
    (∃ record, e.repository.simulationItems.get? key = some record ∧
        record.resultItem = some resultItem) ∨
      ∃ claim completedAt record, call = .publish (.result claim resultItem completedAt) ∧
        key = claim.itemKey ∧ e.repository.simulationItems.get? key = some record ∧
        record.status = .running := by
  cases call with
  | saveWave wave idempotencyKey requestHash tenantId =>
    simp only [Execution.step] at hget
    split at hget
    · exact Or.inl ⟨record', hget, hresult⟩
    · rename_i hsave
      rw [(simulation_saveWave hsave).2] at hget
      exact Or.inl ⟨record', hget, hresult⟩
  | updateWave wave expectedVersion tenantId =>
    simp only [Execution.step] at hget
    split at hget
    · exact Or.inl ⟨record', hget, hresult⟩
    · rename_i hupdate
      rw [(simulation_updateWave hupdate).2] at hget
      exact Or.inl ⟨record', hget, hresult⟩
  | admitOperation a =>
    simp only [Execution.step] at hget
    split at hget
    · exact Or.inl ⟨record', hget, hresult⟩
    · rename_i hadmits
      rcases admitSimulationOperation_effect hadmits with rfl | hadmitted
      · exact Or.inl ⟨record', hget, hresult⟩
      · rcases hadmitted.record_cases hget with hold | ⟨hmem, _⟩
        · exact Or.inl ⟨record', hold, hresult⟩
        · obtain ⟨row, _, rfl⟩ := List.mem_map.mp hmem
          cases hresult
  | claim claimCall =>
    rcases (claimSimulationItems_effect hkeyed claimCall).record_before hget with
      hold | ⟨_, _, _, _, record, hrecord, _, rfl, _⟩
    · exact Or.inl ⟨record', hold, hresult⟩
    · exact Or.inl ⟨record, hrecord, hresult⟩
  | publish publication =>
    simp only [Execution.step] at hget
    split at hget
    · exact Or.inl ⟨record', hget, hresult⟩
    · rename_i hpublish
      rw [publishSimulationItem_refused hpublish] at hget
      exact Or.inl ⟨record', hget, hresult⟩
    · rename_i hpublish
      obtain ⟨operation, record, hrecord, hrunning, _, _, hset⟩ :=
        (publishSimulationItem_effect hpublish).published
      rw [hset, Dict.get?_set] at hget
      split at hget
      · rename_i hkey
        cases hget
        cases publication with
        | result claim item completedAt =>
          cases hresult
          exact Or.inr ⟨claim, completedAt, record, rfl, hkey, hkey ▸ hrecord, hrunning⟩
        | failure claim errorCode errorMessage retryable completedAt => cases hresult
      · exact Or.inl ⟨record', hget, hresult⟩
  | retry tenantId operationId waveItemIds retriedAt =>
    rcases (retrySimulationItems_effect hkeyed tenantId operationId waveItemIds
      retriedAt).record_before hget with hold | ⟨_, record, hrecord, hmove⟩
    · exact Or.inl ⟨record', hold, hresult⟩
    · cases hmove <;> exact Or.inl ⟨record, hrecord, hresult⟩
  | cancel tenantId operationId reasonCode cancelledAt =>
    rcases (cancelSimulationOperation_effect hkeyed tenantId operationId reasonCode
      cancelledAt).record_before hget with hold | ⟨_, record, hrecord, hmove⟩
    · exact Or.inl ⟨record', hold, hresult⟩
    · cases hmove <;> exact Or.inl ⟨record, hrecord, hresult⟩

end LotusManage.Waves
