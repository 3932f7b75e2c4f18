import LotusManage.Waves.StoreCases

/-!
# The stored status of an operation is its derived status

An operation caches the status that `derive_wave_simulation_operation_status` computes from its records
and its cancellation marker.  Claims, publications, retries and cancellations refresh the cache; an
admission stores `PENDING`, which an operation with records derives.  An operation without records
keeps the admitted `PENDING` until a call refreshes it, and derives `SUCCEEDED`.

The second field of `StatusSound` is what makes a cancellation final: once a cancel reason is recorded
no record waits for a claim or a retry.  A retry reads an empty cancel reason as none, so it is this
field, and not the guard of the retry, that keeps a cancelled operation closed.

A terminal status stays: all records of such an operation are finished, and every call leaves finished
records as they are.
-/

namespace LotusManage.Waves

/-! ## Counts -/

variable {items : List WaveSimulationItemRecord} {operation : WaveSimulationOperation}
  {status : SimulationOperationStatus}

theorem countStatus_eq_zero_iff {status : SimulationItemStatus} :
    countStatus items status = 0 ↔ ∀ item ∈ items, item.status ≠ status := by
  rw [countStatus, List.count_eq_zero, List.mem_map]
  constructor
  · intro h item hitem heq
    exact h ⟨item, hitem, heq⟩
  · rintro h ⟨item, hitem, heq⟩
    exact h item hitem heq

theorem derive_of_cancelled (h : operation.cancelReasonCode.isSome = true)
    (items : List WaveSimulationItemRecord) :
    deriveWaveSimulationOperationStatus operation items =
      if countStatus items .running ≠ 0 then .cancelRequested else .cancelled := by
  rw [deriveWaveSimulationOperationStatus, deriveWaveSimulationOperationStatusFromCounts, if_pos h]

theorem derive_of_pending (hcancel : operation.cancelReasonCode = none) (hne : items ≠ [])
    (hpending : ∀ item ∈ items, item.status = .pending) :
    deriveWaveSimulationOperationStatus operation items = .pending := by
  have hzero : ∀ status, status ≠ .pending → countStatus items status = 0 := by
    intro status hstatus
    rw [countStatus_eq_zero_iff]
    intro item hitem heq
    exact hstatus (heq.symm.trans (hpending item hitem))
  have hsome : countStatus items .pending ≠ 0 := by
    rw [ne_eq, countStatus_eq_zero_iff]
    intro h
    obtain ⟨item, hitem⟩ := List.exists_mem_of_ne_nil items hne
    exact h item hitem (hpending item hitem)
  simp [deriveWaveSimulationOperationStatus, deriveWaveSimulationOperationStatusFromCounts,
    hcancel, hzero, hsome]

/-- The statuses after which the operation is done. -/
def SimulationOperationStatus.Terminal (status : SimulationOperationStatus) : Prop :=
  status = .succeeded ∨ status = .failed ∨ status = .cancelled

theorem SimulationOperationStatus.Terminal.closedToClaims (h : status.Terminal) :
    status.closedToClaims = true := by
  rcases h with h | h | h <;> rw [h] <;> rfl

theorem SimulationOperationStatus.Terminal.closedToCancel (h : status.Terminal) :
    status.closedToCancel = true := by
  rcases h with h | h | h <;> rw [h] <;> rfl

theorem counts_of_terminal (hcancel : operation.cancelReasonCode = none)
    (h : (deriveWaveSimulationOperationStatus operation items).Terminal) :
    countStatus items .running = 0 ∧ countStatus items .pending = 0 ∧
      items.countP (waveSimulationItemIsRetryable operation) = 0 := by
  unfold deriveWaveSimulationOperationStatus deriveWaveSimulationOperationStatusFromCounts at h
  rw [hcancel] at h
  simp only [Option.isSome_none, Bool.false_eq_true, if_false] at h
  split at h
  · rcases h with h | h | h <;> cases h
  rename_i hrunning
  split at h
  · split at h <;> (rcases h with h | h | h <;> cases h)
  rename_i hwaiting
  simp only [ne_eq, not_or, not_not] at hrunning hwaiting
  exact ⟨hrunning, hwaiting.1, hwaiting.2⟩

/-! ## The invariant -/

/-- What the stored status of an operation says about its records. -/
structure StatusSound (repo : WaveRepository) (id : String) (operation : WaveSimulationOperation) :
    Prop where
  status : operation.status =
      deriveWaveSimulationOperationStatus operation (operationItems repo id operation) ∨
    (operationItems repo id operation = [] ∧ operation.cancelReasonCode = none ∧
      operation.status = .pending)
  closed : operation.cancelReasonCode.isSome = true →
    ∀ item ∈ operationItems repo id operation,
      item.status ≠ .pending ∧ waveSimulationItemIsRetryable operation item = false

/-- Every stored status is sound. -/
def StatusInv (repo : WaveRepository) : Prop :=
  ∀ id operation, repo.simulationOperations.get? id = some operation →
    StatusSound repo id operation

theorem statusInv_new : StatusInv WaveRepository.new := by
  intro id operation hget
  rw [WaveRepository.new, Dict.get?_empty] at hget
  cases hget

section Status

variable {repo repo' : WaveRepository} {id : String} {operation : WaveSimulationOperation}

theorem StatusSound.of_perm (h : StatusSound repo id operation)
    (hperm : (operationItems repo' id operation).Perm (operationItems repo id operation)) :
    StatusSound repo' id operation := by
  refine ⟨?_, ?_⟩
  · rcases h.status with hstatus | ⟨hnil, hcancel, hpending⟩
    · exact Or.inl (hstatus.trans (derive_perm operation hperm).symm)
    · rw [hnil] at hperm
      exact Or.inr ⟨hperm.eq_nil, hcancel, hpending⟩
  · intro hcancel item hitem
    exact h.closed hcancel item (hperm.mem_iff.mp hitem)

theorem StatusSound.finished (h : StatusSound repo id operation)
    (hterminal : operation.status.Terminal) :
    operation.status =
        deriveWaveSimulationOperationStatus operation (operationItems repo id operation) ∧
      ∀ item ∈ operationItems repo id operation, Finished operation item := by
  have hstatus : operation.status =
      deriveWaveSimulationOperationStatus operation (operationItems repo id operation) := by
    rcases h.status with hstatus | ⟨_, _, hpending⟩
    · exact hstatus
    · rw [hpending] at hterminal
      rcases hterminal with h | h | h <;> cases h
  refine ⟨hstatus, ?_⟩
  intro item hitem
  -- nothing runs, waits for a claim or waits for a retry
  have hdone : item.status ≠ .running ∧ item.status ≠ .pending ∧
      waveSimulationItemIsRetryable operation item = false := by
    rw [hstatus] at hterminal
    cases hcancel : operation.cancelReasonCode with
    | none =>
      obtain ⟨hrunning, hpending, hretry⟩ := counts_of_terminal hcancel hterminal
      rw [List.countP_eq_zero] at hretry
      exact ⟨countStatus_eq_zero_iff.mp hrunning item hitem,
        countStatus_eq_zero_iff.mp hpending item hitem,
        Bool.not_eq_true _ ▸ hretry item hitem⟩
    | some reason =>
      have hsome : operation.cancelReasonCode.isSome = true := by rw [hcancel]; rfl
      rw [derive_of_cancelled hsome] at hterminal
      split at hterminal
      · rcases hterminal with h | h | h <;> cases h
      · rename_i hrunning
        rw [ne_eq, not_not] at hrunning
        exact ⟨countStatus_eq_zero_iff.mp hrunning item hitem, h.closed hsome item hitem⟩
  obtain ⟨hrunning, hpending, hretry⟩ := hdone
  unfold Finished
  cases hs : item.status with
  | pending => exact absurd hs hpending
  | running => exact absurd hs hrunning
  | succeeded => exact Or.inl rfl
  | failed => exact Or.inr (Or.inr ⟨rfl, hretry⟩)
  | cancelled => exact Or.inr (Or.inl rfl)

theorem StatusSound.closedToClaims (h : StatusSound repo id operation)
    (hcancel : operation.cancelReasonCode.isSome = true) :
    operation.status.closedToClaims = true := by
  rcases h.status with hstatus | ⟨_, hnone, _⟩
  · rw [hstatus, derive_of_cancelled hcancel]
    split <;> rfl
  · rw [hnone] at hcancel
    cases hcancel

theorem StatusSound.retries_eq_nil (h : StatusSound repo id operation)
    (hcancel : operation.cancelReasonCode.isSome = true)
    (requested : Option (List String)) :
    (operationItems repo id operation).filter (retries operation requested) = [] := by
  rw [List.filter_eq_nil_iff]
  intro item hitem hretry
  have hwaiting := isRetryable_of_retries hretry
  rw [(h.closed hcancel item hitem).2] at hwaiting
  cases hwaiting

end Status

/-! ## Each call keeps the invariant -/

section Calls

variable {repo repo' : WaveRepository} {id : String}

variable {operation : WaveSimulationOperation}

theorem StatusInv.of_only (hinv : StatusInv repo) (honly : OnlyOperation id repo repo')
    (hthis : ∀ operation, repo'.simulationOperations.get? id = some operation →
      StatusSound repo' id operation) : StatusInv repo' := by
  intro x operation hget
  by_cases hx : x = id
  · subst hx
    exact hthis operation hget
  · rw [honly.operations x hx] at hget
    refine (hinv x operation hget).of_perm (simulationItemsForOperation_perm ?_ _)
    intro key hkey
    exact honly.records key (hkey ▸ hx)

theorem StatusInv.of_refresh {stored : WaveRepository} (hinv : StatusInv repo)
    (honly : OnlyOperation id repo stored)
    (hget : stored.simulationOperations.get? id = some operation)
    (hclosed : operation.cancelReasonCode.isSome = true →
      ∀ item ∈ operationItems stored id operation,
        item.status ≠ .pending ∧ waveSimulationItemIsRetryable operation item = false)
    (updatedAt : Int) : StatusInv (refreshSimulationOperationStatus stored id updatedAt) := by
  refine hinv.of_only (onlyOperation_refresh honly hget updatedAt) ?_
  intro operation' hget'
  rw [get?_operations_refresh hget, if_pos rfl] at hget'
  cases hget'
  have hitems : operationItems (refreshSimulationOperationStatus stored id updatedAt) id
      (refreshedOperation stored id updatedAt operation) = operationItems stored id operation := by
    rw [operationItems, simulationItems_refresh]
    rfl
  refine ⟨Or.inl ?_, ?_⟩
  · rw [hitems]
    rfl
  · rw [hitems]
    exact hclosed

theorem statusInv_claim (hinv : StatusInv repo) (call : ClaimCall) :
    StatusInv (claimSimulationItems repo call).1 := by
  rcases claimSimulationItems_cases repo call with hsame | ⟨operation, hget, _, hopen, hresult⟩
  · rw [hsame]
    exact hinv
  · rw [hresult]
    refine StatusInv.of_refresh hinv (onlyOperation_storeItems repo _ _) hget ?_ _
    intro hcancel
    rw [(hinv _ operation hget).closedToClaims hcancel] at hopen
    cases hopen

theorem statusInv_retry (hinv : StatusInv repo) (tenantId operationId : String)
    (waveItemIds : Option (List String)) (retriedAt : Int) :
    StatusInv (retrySimulationItems repo tenantId operationId waveItemIds retriedAt).1 := by
  rcases retrySimulationItems_cases repo tenantId operationId waveItemIds retriedAt with
    hsame | ⟨operation, hget, _, hresult⟩
  · rw [hsame]
    exact hinv
  · rw [hresult]
    refine StatusInv.of_refresh hinv (onlyOperation_storeItems repo _ _) hget ?_ _
    intro hcancel
    -- nothing is retried, so the records are as before
    rw [(hinv _ operation hget).retries_eq_nil hcancel]
    exact (hinv _ operation hget).closed hcancel

theorem onlyOperation_cancelled (repo : WaveRepository) (operationId : String)
    (operation : WaveSimulationOperation) (rows : List WaveSimulationItemRecord) :
    OnlyOperation operationId repo
      { repo with
        simulationOperations := repo.simulationOperations.set operationId operation
        simulationItems := storeItems operationId rows repo.simulationItems } := by
  refine ⟨?_, (onlyOperation_storeItems repo _ _).records⟩
  intro x hne
  exact Dict.get?_set_of_ne _ _ hne

theorem statusInv_cancel (hkeyed : RecordsKeyed repo.simulationItems) (hinv : StatusInv repo)
    (tenantId operationId reasonCode : String) (cancelledAt : Int) :
    StatusInv (cancelSimulationOperation repo tenantId operationId reasonCode cancelledAt).1 := by
  rcases cancelSimulationOperation_cases repo tenantId operationId reasonCode cancelledAt with
    hsame | ⟨operation, hget, _, _, _, hresult⟩
  · rw [hsame]
    exact hinv
  · rw [hresult]
    refine StatusInv.of_refresh hinv (onlyOperation_cancelled repo operationId _ _)
      (Dict.get?_set_self _ _ _) ?_ _
    intro _ item' hitem'
    have hmap := (simulationItemsForOperation_storeItems_map hkeyed operationId operation.tenantId
      (cancels (cancelMarked operation reasonCode cancelledAt) cancelledAt)
      (cancelledItem cancelledAt) (fun _ => rfl) (fun _ => rfl)).mem_iff.mp hitem'
    obtain ⟨item, _, rfl⟩ := List.mem_map.mp hmap
    split
    · exact ⟨nofun, rfl⟩
    · rename_i hkept
      simp only [cancels, Bool.or_eq_true, decide_eq_true_eq, not_or, Bool.not_eq_true] at hkept
      exact ⟨hkept.1.1, hkept.1.2⟩

theorem onlyOperation_set (repo : WaveRepository) (key : String × String)
    (item : WaveSimulationItemRecord) :
    OnlyOperation key.1 repo
      { repo with simulationItems := repo.simulationItems.set key item } := by
  refine ⟨fun _ _ => rfl, ?_⟩
  intro key' hne
  refine Dict.get?_set_of_ne _ _ ?_
  rintro rfl
  exact hne rfl

theorem statusInv_publish (hinv : StatusInv repo) {publication : Publication} {accepted : Bool}
    (h : publishSimulationItem repo publication = .ok (repo', accepted)) : StatusInv repo' := by
  rcases publishSimulationItem_cases repo publication with
    hsame | ⟨_, _, _, herror⟩ | ⟨item, operation, hitem, hget, _, hresult⟩
  · rw [hsame] at h
    cases h
    exact hinv
  · rw [herror] at h
    cases h
  · rw [hresult] at h
    cases h
    refine StatusInv.of_refresh hinv (onlyOperation_set repo publication.claim.itemKey _) hget ?_ _
    intro hcancel item' hitem'
    obtain ⟨key, hkey, hget', htenant⟩ := mem_operationItems.mp hitem'
    replace hget' : (repo.simulationItems.set publication.claim.itemKey
      (publishedItem operation publication.terminal item)).get? key = some item' := hget'
    rw [Dict.get?_set] at hget'
    split at hget'
    · -- a publication under a recorded cancellation is not retryable
      cases hget'
      have hretry : (publishedItem operation publication.terminal item).retryable = false := by
        rw [publishedItem, Option.isNone_eq_false_iff.mpr hcancel, Bool.and_false]
      refine ⟨?_, ?_⟩
      · cases publication <;> nofun
      · rw [waveSimulationItemIsRetryable, hretry, Bool.and_false, Bool.false_and]
    · exact (hinv _ operation hget).closed hcancel item'
        (mem_operationItems.mpr ⟨key, hkey, hget', htenant⟩)

theorem statusInv_admit (hinv : StatusInv repo) {items : List WaveSimulationItemRecord}
    (hadmitted : AdmitEffect operation items repo repo')
    (hnew : ∀ key, key.1 = operation.operationId → repo.simulationItems.get? key = none)
    (hpending : operation.status = .pending) (hcancel : operation.cancelReasonCode = none)
    (hitems : ∀ item ∈ items, item.status = .pending) : StatusInv repo' := by
  refine hinv.of_only hadmitted.onlyOperation ?_
  intro operation' hget'
  rw [hadmitted.operations, Dict.get?_set_self] at hget'
  cases hget'
  have hall : ∀ item ∈ operationItems repo' operation.operationId operation,
      item.status = .pending := by
    intro item hitem
    obtain ⟨key, hkey, hget, _⟩ := mem_operationItems.mp hitem
    rcases hadmitted.record_cases hget with hold | ⟨hmem, _⟩
    · rw [hnew key hkey] at hold
      cases hold
    · exact hitems item hmem
  refine ⟨?_, ?_⟩
  · by_cases hnil : operationItems repo' operation.operationId operation = []
    · exact Or.inr ⟨hnil, hcancel, hpending⟩
    · rw [derive_of_pending hcancel hnil hall]
      exact Or.inl hpending
  · rw [hcancel]
    nofun

theorem StatusInv.of_eq (hinv : StatusInv repo)
    (hoperations : repo'.simulationOperations = repo.simulationOperations)
    (hrecords : repo'.simulationItems = repo.simulationItems) : StatusInv repo' := by
  intro x operation hget
  rw [hoperations] at hget
  refine (hinv x operation hget).of_perm ?_
  rw [operationItems, operationItems, hrecords]

end Calls

/-! ## Runs -/

section Runs

variable {sha256Hex : String → String} {admitted : List SimulationAdmission}

variable {repo repo' : WaveRepository} {wave : RebalanceWave} {e : Execution}
  {call : SimulationCall} {id : String} {operation : WaveSimulationOperation}

theorem simulation_saveWave {idempotencyKey requestHash : Option String} {tenantId : String}
    (h : saveWave sha256Hex repo wave idempotencyKey requestHash tenantId = .ok repo') :
    repo'.simulationOperations = repo.simulationOperations ∧
      repo'.simulationItems = repo.simulationItems := by
  obtain ⟨_, _, _, _, _, rfl⟩ := saveWave_eq_ok h
  exact ⟨rfl, rfl⟩

theorem simulation_updateWave {expectedVersion : Int} {tenantId : String}
    (h : updateWave repo wave expectedVersion tenantId = .ok repo') :
    repo'.simulationOperations = repo.simulationOperations ∧
      repo'.simulationItems = repo.simulationItems := by
  obtain ⟨_, _, _, _, rfl⟩ := updateWave_eq_ok h
  exact ⟨rfl, rfl⟩

theorem statusInv_step (hids : OperationIdsInjective sha256Hex admitted)
    (hinv : AdmissionInv sha256Hex admitted e.repository)
    (hcall : ∀ a, call = .admitOperation a → a ∈ admitted) (hstatus : StatusInv e.repository) :
    StatusInv (e.step sha256Hex call).repository := by
  cases call with
  | saveWave wave idempotencyKey requestHash tenantId =>
    simp only [Execution.step]
    split
    · exact hstatus
    · rename_i hsave
      obtain ⟨hoperations, hrecords⟩ := simulation_saveWave hsave
      exact hstatus.of_eq hoperations hrecords
  | updateWave wave expectedVersion tenantId =>
    simp only [Execution.step]
    split
    · exact hstatus
    · rename_i hupdate
      obtain ⟨hoperations, hrecords⟩ := simulation_updateWave hupdate
      exact hstatus.of_eq hoperations hrecords
  | admitOperation a =>
    simp only [Execution.step]
    split
    · exact hstatus
    · rename_i repository stored replay hadmits
      rcases admitSimulationOperation_effect hadmits with rfl | hadmitted
      · exact hstatus
      · refine statusInv_admit hstatus hadmitted (fun key hkey => hinv.record_eq_none ?_) rfl rfl ?_
        · rw [hkey]
          exact hinv.operationId_new hids (hcall a rfl) hadmitted.newKey
        · intro item hitem
          obtain ⟨row, _, rfl⟩ := List.mem_map.mp hitem
          rfl
  | claim claimCall => exact statusInv_claim hstatus claimCall
  | publish publication =>
    simp only [Execution.step]
    split
    · exact hstatus
    · rename_i hpublish
      exact statusInv_publish hstatus hpublish
    · rename_i hpublish
      exact statusInv_publish hstatus hpublish
  | retry tenantId operationId waveItemIds retriedAt =>
    exact statusInv_retry hstatus tenantId operationId waveItemIds retriedAt
  | cancel tenantId operationId reasonCode cancelledAt =>
    exact statusInv_cancel hinv.keyed hstatus tenantId operationId reasonCode cancelledAt

/-- How a stored operation may change: a recorded cancellation stays recorded, and a terminal
status stays. -/
structure OperationKept (operation operation' : WaveSimulationOperation) : Prop where
  cancelled : operation.cancelReasonCode.isSome = true → operation'.cancelReasonCode.isSome = true
  terminal : operation.status.Terminal → operation'.status = operation.status

theorem OperationKept.refl (operation : WaveSimulationOperation) :
    OperationKept operation operation :=
  ⟨id, fun _ => rfl⟩

theorem OperationKept.trans {first second third : WaveSimulationOperation}
    (h : OperationKept first second) (h' : OperationKept second third) :
    OperationKept first third := by
  refine ⟨fun hcancel => h'.cancelled (h.cancelled hcancel), fun hterminal => ?_⟩
  have hstatus := h.terminal hterminal
  exact (h'.terminal (hstatus ▸ hterminal)).trans hstatus

theorem operationKept_refresh {stored : WaveRepository} {touched : String}
    (honly : OnlyOperation touched repo stored) {before written : WaveSimulationOperation}
    (hget : repo.simulationOperations.get? id = some operation)
    (hbefore : repo.simulationOperations.get? touched = some before)
    (hwritten : stored.simulationOperations.get? touched = some written)
    (hcancel : before.cancelReasonCode.isSome = true → written.cancelReasonCode.isSome = true)
    (hterminal : before.status.Terminal → deriveWaveSimulationOperationStatus written
      (operationItems stored touched written) = before.status) (updatedAt : Int) :
    ∃ operation', (refreshSimulationOperationStatus stored touched
      updatedAt).simulationOperations.get? id = some operation' ∧
        OperationKept operation operation' := by
  rw [get?_operations_refresh hwritten]
  by_cases hne : id = touched
  · subst hne
    cases hget.symm.trans hbefore
    rw [if_pos rfl]
    exact ⟨_, rfl, hcancel, hterminal⟩
  · rw [if_neg hne]
    exact ⟨operation, (honly.operations id hne).trans hget, .refl operation⟩

/-- What a call does to a stored operation. -/
theorem operation_step (hids : OperationIdsInjective sha256Hex admitted)
    (hinv : AdmissionInv sha256Hex admitted e.repository)
    (hcall : ∀ a, call = .admitOperation a → a ∈ admitted) (howned : RecordsOwned e.repository)
    (hstatus : StatusInv e.repository)
    (hget : e.repository.simulationOperations.get? id = some operation) :
    ∃ operation', (e.step sha256Hex call).repository.simulationOperations.get? id =
      some operation' ∧ OperationKept operation operation' := by
  have hsame : ∀ {repo' : WaveRepository},
      repo'.simulationOperations = e.repository.simulationOperations →
      ∃ operation', repo'.simulationOperations.get? id = some operation' ∧
        OperationKept operation operation' := by
    intro repo' heq
    rw [heq]
    exact ⟨operation, hget, .refl operation⟩
  cases call with
  | saveWave wave idempotencyKey requestHash tenantId =>
    simp only [Execution.step]
    split
    · exact hsame rfl
    · rename_i hsave
      exact hsame (simulation_saveWave hsave).1
  | updateWave wave expectedVersion tenantId =>
    simp only [Execution.step]
    split
    · exact hsame rfl
    · rename_i hupdate
      exact hsame (simulation_updateWave hupdate).1
  | admitOperation a =>
    simp only [Execution.step]
    split
    · exact hsame rfl
    · rename_i repository stored replay hadmits
      rcases admitSimulationOperation_effect hadmits with rfl | hadmitted
      · exact hsame rfl
      · refine ⟨operation, ?_, .refl operation⟩
        have hnew := hinv.operationId_new hids (hcall a rfl) hadmitted.newKey
        show repository.simulationOperations.get? id = some operation
        rw [hadmitted.operations, Dict.get?_set_of_ne]
        · exact hget
        · rintro rfl
          cases hnew.symm.trans hget
  | claim claimCall =>
    show ∃ operation',
      (claimSimulationItems e.repository claimCall).1.simulationOperations.get? id =
      some operation' ∧ OperationKept operation operation'
    rcases claimSimulationItems_cases e.repository claimCall with
      hidle | ⟨claimed, hclaimed, _, hopen, hresult⟩
    · rw [hidle]
      exact hsame rfl
    rw [hresult]
    refine operationKept_refresh (onlyOperation_storeItems e.repository _ _) hget hclaimed hclaimed
      (fun h => h) ?_ _
    intro hterminal
    rw [hterminal.closedToClaims] at hopen
    cases hopen
  | publish publication =>
    rcases publishSimulationItem_cases e.repository publication with
      hidle | ⟨_, _, _, herror⟩ | ⟨item, claimed, hitem, hclaimed, haccept, hresult⟩
    · simp only [Execution.step, hidle]
      exact hsame rfl
    · simp only [Execution.step, herror]
      exact hsame rfl
    simp only [Execution.step, hresult]
    refine operationKept_refresh (onlyOperation_set e.repository publication.claim.itemKey _) hget
      hclaimed hclaimed (fun h => h) ?_ _
    intro hterminal
    -- the published record runs, and a terminal operation has finished records only
    have hmem : item ∈ operationItems e.repository publication.claim.operationId claimed :=
      mem_operationItems.mpr ⟨publication.claim.itemKey, rfl, hitem,
        (howned _ item claimed hitem hclaimed).2⟩
    have hfinished := ((hstatus _ claimed hclaimed).finished hterminal).2 item hmem
    simp only [refusesPublication, Bool.or_eq_false_iff, decide_eq_false_iff_not, ne_eq,
      not_not] at haccept
    exact absurd haccept.1.1.1.2 hfinished.ne_running
  | retry tenantId operationId waveItemIds retriedAt =>
    show ∃ operation', (retrySimulationItems e.repository tenantId operationId waveItemIds
      retriedAt).1.simulationOperations.get? id = some operation' ∧
        OperationKept operation operation'
    rcases retrySimulationItems_cases e.repository tenantId operationId waveItemIds retriedAt with
      hidle | ⟨retried, hretried, _, hresult⟩
    · rw [hidle]
      exact hsame rfl
    rw [hresult]
    refine operationKept_refresh (onlyOperation_storeItems e.repository _ _) hget hretried hretried
      (fun h => h) ?_ _
    intro hterminal
    -- finished records are not retried, so the status is derived from the same records
    obtain ⟨hderived, hfinished⟩ := (hstatus operationId retried hretried).finished hterminal
    have hnil : (operationItems e.repository operationId retried).filter
        (retries retried waveItemIds) = [] := by
      rw [List.filter_eq_nil_iff]
      intro item hitem hretry
      have hwaiting := isRetryable_of_retries hretry
      rw [(hfinished item hitem).not_isRetryable] at hwaiting
      cases hwaiting
    rw [hnil]
    exact hderived.symm
  | cancel tenantId operationId reasonCode cancelledAt =>
    show ∃ operation', (cancelSimulationOperation e.repository tenantId operationId reasonCode
      cancelledAt).1.simulationOperations.get? id = some operation' ∧
        OperationKept operation operation'
    rcases cancelSimulationOperation_cases e.repository tenantId operationId reasonCode
      cancelledAt with hidle | ⟨cancelled, hcancelled, _, hopen, _, hresult⟩
    · rw [hidle]
      exact hsame rfl
    rw [hresult]
    refine operationKept_refresh (onlyOperation_cancelled e.repository operationId _ _) hget
      hcancelled (Dict.get?_set_self _ _ _) (fun _ => rfl) ?_ _
    intro hterminal
    rw [hterminal.closedToCancel] at hopen
    cases hopen

/-- The invariants of the simulation store: admissions, fences, ownership and statuses. -/
structure StoreInv (sha256Hex : String → String) (admitted : List SimulationAdmission)
    (e : Execution) : Prop where
  execution : ExecutionInv sha256Hex admitted e
  owned : RecordsOwned e.repository
  status : StatusInv e.repository

theorem storeInv_new : StoreInv sha256Hex admitted Execution.new :=
  ⟨⟨admissionInv_new, fenceInv_new⟩, recordsOwned_new, statusInv_new⟩

theorem storeInv_step (hids : OperationIdsInjective sha256Hex admitted) (e : Execution)
    (call : SimulationCall) (hinv : StoreInv sha256Hex admitted e)
    (hcall : ∀ a, call = .admitOperation a → a ∈ admitted) :
    StoreInv sha256Hex admitted (e.step sha256Hex call) :=
  ⟨executionInv_step hids e call hinv.execution hcall,
    recordsOwned_step hids hinv.execution.1 hcall hinv.owned,
    statusInv_step hids hinv.execution.1 hcall hinv.status⟩

theorem storeInv_after {calls all : List SimulationCall}
    (hids : OperationIdsInjective sha256Hex (admissions all)) (hsub : ∀ call ∈ calls, call ∈ all) :
    StoreInv sha256Hex (admissions all) (Execution.after sha256Hex calls) :=
  Runs.run_invariant _ (storeInv_step hids) (along_admissions _ hsub) storeInv_new

theorem operation_run {past rest : List SimulationCall}
    (hids : OperationIdsInjective sha256Hex (admissions (past ++ rest)))
    (hget : (Execution.after sha256Hex past).repository.simulationOperations.get? id =
      some operation) :
    ∃ operation', (Execution.after sha256Hex (past ++ rest)).repository.simulationOperations.get?
      id = some operation' ∧ OperationKept operation operation' := by
  have hpast : StoreInv sha256Hex (admissions (past ++ rest)) (Execution.after sha256Hex past) :=
    storeInv_after hids (fun call hcall => List.mem_append_left rest hcall)
  rw [Execution.after, Runs.run_append]
  refine (Runs.run_invariant
    (fun e => StoreInv sha256Hex (admissions (past ++ rest)) e ∧
      ∃ operation', e.repository.simulationOperations.get? id = some operation' ∧
        OperationKept operation operation') ?_
    (along_admissions _ (fun call hcall => List.mem_append_right past hcall))
    ⟨hpast, operation, hget, .refl operation⟩).2
  rintro e call ⟨hinv, operation', hget', hkept⟩ hcall
  obtain ⟨operation'', hget'', hkept'⟩ :=
    operation_step hids hinv.execution.1 hcall hinv.owned hinv.status hget'
  exact ⟨storeInv_step hids e call hinv hcall, operation'', hget'', hkept.trans hkept'⟩

/-- The stored status of an operation is the derived one, over every interleaving of the
repository's calls.  For an operation with records the stored status is the one derived from the
records and the cancellation marker; an operation with a recorded cancel is `CANCELLED` exactly
when no record of it runs; after a cancel is recorded no claim and no retry is granted; and a
terminal status never changes. -/
theorem operation_status_derived (sha256Hex : String → String) (calls : List SimulationCall)
    (hids : OperationIdsInjective sha256Hex (admissions calls)) :
    (∀ id operation,
      (Execution.after sha256Hex calls).repository.simulationOperations.get? id =
        some operation →
      operationItems (Execution.after sha256Hex calls).repository id operation ≠ [] →
      operation.status = deriveWaveSimulationOperationStatus operation
        (operationItems (Execution.after sha256Hex calls).repository id operation)) ∧
    (∀ id operation,
      (Execution.after sha256Hex calls).repository.simulationOperations.get? id =
        some operation →
      operation.cancelReasonCode.isSome = true →
      (operation.status = .cancelled ↔
        ∀ item ∈ operationItems (Execution.after sha256Hex calls).repository id operation,
          item.status ≠ .running)) ∧
    (∀ past rest, calls = past ++ rest → ∀ id operation,
      (Execution.after sha256Hex past).repository.simulationOperations.get? id =
        some operation →
      operation.cancelReasonCode.isSome = true →
      (∀ call, call.operationId = id →
        (claimSimulationItems (Execution.after sha256Hex calls).repository call).2 = []) ∧
      (∀ tenantId waveItemIds retriedAt,
        (retrySimulationItems (Execution.after sha256Hex calls).repository tenantId id waveItemIds
          retriedAt).2 = 0)) ∧
    (∀ past rest, calls = past ++ rest → ∀ id operation,
      (Execution.after sha256Hex past).repository.simulationOperations.get? id =
        some operation →
      operation.status.Terminal →
      ∃ operation', (Execution.after sha256Hex calls).repository.simulationOperations.get? id =
        some operation' ∧ operation'.status = operation.status) := by
  have hinv := storeInv_after hids (fun call hcall => hcall)
  refine ⟨?_, ?_, ?_, ?_⟩
  · intro id operation hget hne
    rcases (hinv.status id operation hget).status with hstatus | ⟨hnil, _⟩
    · exact hstatus
    · exact absurd hnil hne
  · intro id operation hget hcancel
    rcases (hinv.status id operation hget).status with hstatus | ⟨_, hnone, _⟩
    · rw [hstatus, derive_of_cancelled hcancel, ← countStatus_eq_zero_iff]
      split
      · rename_i hrunning
        exact ⟨nofun, fun hzero => absurd hzero hrunning⟩
      · rename_i hrunning
        rw [ne_eq, not_not] at hrunning
        exact ⟨fun _ => hrunning, fun _ => rfl⟩
    · rw [hnone] at hcancel
      cases hcancel
  · rintro past rest rfl id operation hget hcancel
    obtain ⟨operation', hget', hkept⟩ := operation_run hids hget
    have hcancel' := hkept.cancelled hcancel
    have hsound := hinv.status id operation' hget'
    refine ⟨?_, ?_⟩
    · rintro call rfl
      rcases claimSimulationItems_cases (Execution.after sha256Hex (past ++ rest)).repository call
        with hidle | ⟨claimed, hclaimed, _, hopen, _⟩
      · rw [hidle]
      · cases hget'.symm.trans hclaimed
        rw [hsound.closedToClaims hcancel'] at hopen
        cases hopen
    · intro tenantId waveItemIds retriedAt
      rcases retrySimulationItems_cases (Execution.after sha256Hex (past ++ rest)).repository
        tenantId id waveItemIds retriedAt with hidle | ⟨retried, hretried, _, hresult⟩
      · rw [hidle]
      · cases hget'.symm.trans hretried
        rw [hresult, hsound.retries_eq_nil hcancel']
        rfl
  · rintro past rest rfl id operation hget hterminal
    obtain ⟨operation', hget', hkept⟩ := operation_run hids hget
    exact ⟨operation', hget', hkept.terminal hterminal⟩

end Runs

/-! ### A cancellation while an item runs -/

/-- The operation is cancelled while its item runs; the worker then publishes. -/
def cancelWhileRunningCalls : List SimulationCall :=
  [.saveWave sampleWave none none "tenant-sg",
   .admitOperation sampleAdmission,
   .claim (sampleClaimCall "worker-1" "u1" 1),
   .cancel "tenant-sg" "wso_14f63568252b7e25882bbdf2b1316d0f" "PM_WITHDRAWN" 2,
   .publish (samplePublication (sampleClaimCall "worker-1" "u1" 1) 1 3)]

theorem operation_status_derived_cancelled :
    ((Execution.after sampleSha256Hex
      (cancelWhileRunningCalls.take 4)).repository.simulationOperations.values.map
      WaveSimulationOperation.status) = [.cancelRequested] ∧
    ((Execution.after sampleSha256Hex
      cancelWhileRunningCalls).repository.simulationOperations.values.map
      WaveSimulationOperation.status) = [.cancelled] ∧
    (∀ id operation,
      (Execution.after sampleSha256Hex cancelWhileRunningCalls).repository.simulationOperations.get?
        id = some operation →
      operation.cancelReasonCode.isSome = true →
      (operation.status = .cancelled ↔
        ∀ item ∈ operationItems
          (Execution.after sampleSha256Hex cancelWhileRunningCalls).repository id operation,
          item.status ≠ .running)) :=
  ⟨by decide +kernel, by decide +kernel,
    (operation_status_derived sampleSha256Hex cancelWhileRunningCalls
      (.of_singleton sampleSha256Hex sampleAdmission)).2.1⟩

end LotusManage.Waves
