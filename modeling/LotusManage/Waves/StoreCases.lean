import LotusManage.Waves.Fencing
import Mathlib.Data.String.Basic

/-!
# The branches of the repository's calls

For each call of the repository, the ways in which it can end, with the repository that each leaves.
The effect lemmas of `StoreFacts` say what happens to a record; the lemmas here keep the operation that
the call read and the status that it stored.

* `WavesGrow`: a call stores at most one wave, and the keys of creations stay.
* `OnlyOperation`: a call touches one operation and its records.
* `simulationItemsForOperation_storeItems`: the records of an operation after a loop.
* `recordIdentity`: the part of a record that no call changes, and `RecordsOwned`: a record names the
  operation it is stored under, and the tenant of that operation.
-/

namespace LotusManage.Waves

/-- The records of a stored operation. -/
def operationItems (repo : WaveRepository) (id : String) (operation : WaveSimulationOperation) :
    List WaveSimulationItemRecord :=
  simulationItemsForOperation repo.simulationItems id operation.tenantId

variable {repo repo' before : WaveRepository} {id : String} {operation : WaveSimulationOperation}
  {items : Dict (String × String) WaveSimulationItemRecord} {simulatingWave wave : RebalanceWave}
  {e e' : Execution} {sha256Hex : String → String} {call : SimulationCall}

theorem mem_operationItems {item : WaveSimulationItemRecord} :
    item ∈ operationItems repo id operation ↔
      ∃ key, key.1 = id ∧ repo.simulationItems.get? key = some item ∧
        item.tenantId = operation.tenantId := by
  simp only [operationItems, simulationItemsForOperation, List.mem_map, List.mem_filter,
    decide_eq_true_eq, Dict.get?_eq_some_iff]
  constructor
  · rintro ⟨⟨key, row⟩, ⟨hmem, hid, htenant⟩, rfl⟩
    exact ⟨key, hid, hmem, htenant⟩
  · rintro ⟨key, hid, hmem, htenant⟩
    exact ⟨(key, item), ⟨hmem, hid, htenant⟩, rfl⟩

theorem simulationItemsForOperation_perm {items' : Dict (String × String) WaveSimulationItemRecord}
    (h : ∀ key, key.1 = id → items'.get? key = items.get? key) (tenantId : String) :
    (simulationItemsForOperation items' id tenantId).Perm
      (simulationItemsForOperation items id tenantId) := by
  refine List.Perm.map _ (Dict.filter_items_perm _ ?_)
  intro key item hkey
  simp only [decide_eq_true_eq] at hkey
  rw [h key hkey.1]

theorem derive_perm (operation : WaveSimulationOperation)
    {items items' : List WaveSimulationItemRecord} (h : items'.Perm items) :
    deriveWaveSimulationOperationStatus operation items' =
      deriveWaveSimulationOperationStatus operation items := by
  have hcount : ∀ status, countStatus items' status = countStatus items status := fun status =>
    (h.map _).count_eq status
  simp only [deriveWaveSimulationOperationStatus, hcount, h.length_eq, h.countP_eq]

/-! ## The order of the records -/

theorem simulationItemLe_iff {a b : WaveSimulationItemRecord} :
    simulationItemLe a b = true ↔
      a.ordinal < b.ordinal ∨ (a.ordinal = b.ordinal ∧ a.waveItemId ≤ b.waveItemId) := by
  simp only [simulationItemLe, Bool.or_eq_true, Bool.and_eq_true, Bool.not_eq_true',
    decide_eq_true_eq, decide_eq_false_iff_not, not_lt]

instance simulationItemLe_total :
    Std.Total (fun a b : WaveSimulationItemRecord => simulationItemLe a b = true) where
  total a b := by
    simp only [simulationItemLe_iff]
    rcases lt_trichotomy a.ordinal b.ordinal with hlt | heq | hgt
    · exact Or.inl (Or.inl hlt)
    · rcases le_total a.waveItemId b.waveItemId with hle | hle
      · exact Or.inl (Or.inr ⟨heq, hle⟩)
      · exact Or.inr (Or.inr ⟨heq.symm, hle⟩)
    · exact Or.inr (Or.inl hgt)

instance simulationItemLe_trans :
    IsTrans WaveSimulationItemRecord (fun a b => simulationItemLe a b = true) where
  trans a b c hab hbc := by
    rw [simulationItemLe_iff] at hab hbc ⊢
    rcases hab with hab | ⟨hab, hab'⟩ <;> rcases hbc with hbc | ⟨hbc, hbc'⟩
    · exact Or.inl (hab.trans hbc)
    · exact Or.inl (hbc ▸ hab)
    · exact Or.inl (hab ▸ hbc)
    · exact Or.inr ⟨hab.trans hbc, hab'.trans hbc'⟩

/-! ## The status refresh -/

/-- The operation that a refresh stores. -/
def refreshedOperation (repo : WaveRepository) (id : String) (updatedAt : Int)
    (operation : WaveSimulationOperation) : WaveSimulationOperation :=
  { operation with
    status := deriveWaveSimulationOperationStatus operation (operationItems repo id operation)
    updatedAt := updatedAt }

theorem get?_operations_refresh (hget : repo.simulationOperations.get? id = some operation)
    (updatedAt : Int) (x : String) :
    (refreshSimulationOperationStatus repo id updatedAt).simulationOperations.get? x =
      if x = id then some (refreshedOperation repo id updatedAt operation)
      else repo.simulationOperations.get? x := by
  unfold refreshSimulationOperationStatus
  rw [hget]
  exact Dict.get?_set _ _ _ _

/-! ## The branches -/

/-- The records that a granted claim call stores. -/
def claimedRecords (operation : WaveSimulationOperation) (call : ClaimCall)
    (owned : List WaveSimulationItemRecord) : List WaveSimulationItemRecord :=
  (selectedForClaim operation call owned).zipIdx.map
    (fun e => claimedItem operation call (call.token e.2) e.1)

/-- The claims that a granted claim call returns. -/
def grantedClaims (operation : WaveSimulationOperation) (call : ClaimCall)
    (owned : List WaveSimulationItemRecord) : List WaveSimulationItemClaim :=
  (selectedForClaim operation call owned).zipIdx.map
    (fun e => itemClaim operation call (call.token e.2) e.1)

theorem claimSimulationItems_cases (repo : WaveRepository) (call : ClaimCall) :
    claimSimulationItems repo call = (repo, []) ∨
      ∃ operation, repo.simulationOperations.get? call.operationId = some operation ∧
        operation.tenantId = call.tenantId ∧ operation.status.closedToClaims = false ∧
        claimSimulationItems repo call =
          (refreshSimulationOperationStatus
            { repo with
              simulationItems := storeItems call.operationId
                (claimedRecords operation call (operationItems repo call.operationId operation))
                repo.simulationItems }
            call.operationId call.claimedAt,
            grantedClaims operation call (operationItems repo call.operationId operation)) := by
  unfold claimSimulationItems
  split
  · exact Or.inl rfl
  rename_i operation hget
  split
  · exact Or.inl rfl
  rename_i htenant
  rw [ne_eq, not_not] at htenant
  split
  · exact Or.inl rfl
  rename_i hopen
  rw [Bool.not_eq_true] at hopen
  refine Or.inr ⟨operation, hget, htenant, hopen, ?_⟩
  rw [operationItems, htenant]
  rfl

theorem retrySimulationItems_cases (repo : WaveRepository) (tenantId operationId : String)
    (waveItemIds : Option (List String)) (retriedAt : Int) :
    retrySimulationItems repo tenantId operationId waveItemIds retriedAt = (repo, 0) ∨
      ∃ operation, repo.simulationOperations.get? operationId = some operation ∧
        operation.tenantId = tenantId ∧
        retrySimulationItems repo tenantId operationId waveItemIds retriedAt =
          (refreshSimulationOperationStatus
            { repo with
              simulationItems := storeItems operationId
                (((operationItems repo operationId operation).filter
                  (retries operation waveItemIds)).map (retriedItem retriedAt))
                repo.simulationItems }
            operationId retriedAt,
            ((operationItems repo operationId operation).filter
              (retries operation waveItemIds)).length) := by
  unfold retrySimulationItems
  split
  · exact Or.inl rfl
  rename_i operation hget
  split
  · exact Or.inl rfl
  rename_i hguard
  simp only [ne_eq, not_or, not_not] at hguard
  refine Or.inr ⟨operation, hget, hguard.1, ?_⟩
  rw [operationItems, hguard.1]

/-- The operation with its cancel reason recorded. -/
def cancelMarked (operation : WaveSimulationOperation) (reasonCode : String) (cancelledAt : Int) :
    WaveSimulationOperation :=
  { operation with
    cancelReasonCode := some (cancelReason operation reasonCode)
    updatedAt := cancelledAt }

/-- The repository that a cancellation leaves when there is something to cancel. -/
def cancelledRepository (repo : WaveRepository) (operationId : String)
    (operation : WaveSimulationOperation) (reasonCode : String) (cancelledAt : Int) :
    WaveRepository :=
  refreshSimulationOperationStatus
    { repo with
      simulationOperations := repo.simulationOperations.set operationId
        (cancelMarked operation reasonCode cancelledAt)
      simulationItems := storeItems operationId
        (((operationItems repo operationId operation).filter
          (cancels (cancelMarked operation reasonCode cancelledAt) cancelledAt)).map
            (cancelledItem cancelledAt))
        repo.simulationItems }
    operationId cancelledAt

theorem cancelSimulationOperation_cases (repo : WaveRepository)
    (tenantId operationId reasonCode : String) (cancelledAt : Int) :
    (cancelSimulationOperation repo tenantId operationId reasonCode cancelledAt).1 = repo ∨
      ∃ operation, repo.simulationOperations.get? operationId = some operation ∧
        operation.tenantId = tenantId ∧ operation.status.closedToCancel = false ∧
        (operationItems repo operationId operation).any (outstanding operation) = true ∧
        (cancelSimulationOperation repo tenantId operationId reasonCode cancelledAt).1 =
          cancelledRepository repo operationId operation reasonCode cancelledAt := by
  unfold cancelSimulationOperation
  split
  · exact Or.inl rfl
  rename_i operation hget
  split
  · exact Or.inl rfl
  rename_i htenant
  rw [ne_eq, not_not] at htenant
  split
  · exact Or.inl rfl
  rename_i hopen
  rw [Bool.not_eq_true] at hopen
  dsimp only
  split
  · exact Or.inl rfl
  rename_i hsome
  rw [not_not] at hsome
  subst htenant
  exact Or.inr ⟨operation, hget, rfl, hopen, hsome, rfl⟩

theorem publishSimulationItem_cases (repo : WaveRepository) (publication : Publication) :
    publishSimulationItem repo publication = .ok (repo, false) ∨
      (∃ item, repo.simulationItems.get? publication.claim.itemKey = some item ∧
        repo.simulationOperations.get? publication.claim.operationId = none ∧
        publishSimulationItem repo publication = .error .keyError) ∨
      ∃ item operation, repo.simulationItems.get? publication.claim.itemKey = some item ∧
        repo.simulationOperations.get? publication.claim.operationId = some operation ∧
        refusesPublication item publication.claim publication.terminal.completedAt = false ∧
        publishSimulationItem repo publication =
          .ok (refreshSimulationOperationStatus
            { repo with
              simulationItems := repo.simulationItems.set publication.claim.itemKey
                (publishedItem operation publication.terminal item) }
            publication.claim.operationId publication.terminal.completedAt, true) := by
  unfold publishSimulationItem publishSimulationItemTerminal
  split
  · exact Or.inl rfl
  rename_i item hitem
  split
  · exact Or.inl rfl
  rename_i haccept
  rw [Bool.not_eq_true] at haccept
  split
  · rename_i hnone
    exact Or.inr (Or.inl ⟨item, hitem, hnone, rfl⟩)
  · rename_i operation hget
    exact Or.inr (Or.inr ⟨item, operation, hitem, hget, haccept, rfl⟩)

theorem AdmissionAccepted.nodup {items : List WaveSimulationItemRecord}
    (h : AdmissionAccepted operation items wave simulatingWave repo repo') :
    (items.map WaveSimulationItemRecord.waveItemId).Nodup := by
  have hrecords := h.records
  unfold validateSimulationAdmissionItems at hrecords
  dsimp only at hrecords
  split at hrecords
  · cases hrecords
  · rename_i hnodup
    rw [not_not] at hnodup
    exact hnodup

/-! ## Waves -/

/-- The waves, and the keys that they were created under. -/
def WaveRepository.created (repo : WaveRepository) :
    Dict String RebalanceWave × Dict String (String × Option String) :=
  (repo.waves, repo.idempotencyIndex)

theorem created_refresh (repo : WaveRepository) (id : String) (updatedAt : Int) :
    (refreshSimulationOperationStatus repo id updatedAt).created = repo.created := by
  unfold refreshSimulationOperationStatus
  split <;> rfl

theorem created_claim (repo : WaveRepository) (call : ClaimCall) :
    (claimSimulationItems repo call).1.created = repo.created := by
  rcases claimSimulationItems_cases repo call with hidle | ⟨_, _, _, _, hresult⟩
  · rw [hidle]
  · rw [hresult]
    exact created_refresh _ _ _

theorem created_retry (repo : WaveRepository) (tenantId operationId : String)
    (waveItemIds : Option (List String)) (retriedAt : Int) :
    (retrySimulationItems repo tenantId operationId waveItemIds retriedAt).1.created =
      repo.created := by
  rcases retrySimulationItems_cases repo tenantId operationId waveItemIds retriedAt with
    hidle | ⟨_, _, _, hresult⟩
  · rw [hidle]
  · rw [hresult]
    exact created_refresh _ _ _

theorem created_cancel (repo : WaveRepository) (tenantId operationId reasonCode : String)
    (cancelledAt : Int) :
    (cancelSimulationOperation repo tenantId operationId reasonCode cancelledAt).1.created =
      repo.created := by
  rcases cancelSimulationOperation_cases repo tenantId operationId reasonCode cancelledAt with
    hidle | ⟨_, _, _, _, _, hresult⟩
  · rw [hidle]
  · rw [hresult]
    exact created_refresh _ _ _

theorem created_publish {publication : Publication} {accepted : Bool}
    (h : publishSimulationItem repo publication = .ok (repo', accepted)) :
    repo'.created = repo.created := by
  rcases publishSimulationItem_cases repo publication with
    hidle | ⟨_, _, _, herror⟩ | ⟨_, _, _, _, _, hresult⟩
  · rw [hidle] at h
    cases h
    rfl
  · rw [herror] at h
    cases h
  · rw [hresult] at h
    cases h
    exact created_refresh _ _ _

theorem created_step_publish (sha256Hex : String → String) (e : Execution)
    (publication : Publication) :
    (e.step sha256Hex (.publish publication)).repository.created = e.repository.created := by
  simp only [Execution.step]
  split
  · rfl
  · rename_i hpublish
    exact created_publish hpublish
  · rename_i hpublish
    exact created_publish hpublish

/-- A call stores at most one wave, under its own id, and the keys of creations stay. -/
structure WavesGrow (before after : WaveRepository) : Prop where
  waves : after.waves = before.waves ∨
    ∃ wave, after.waves = before.waves.set wave.waveId wave
  index : before.idempotencyIndex.Extends after.idempotencyIndex

theorem WavesGrow.of_created {after : WaveRepository} (h : after.created = before.created) :
    WavesGrow before after := by
  have hindex : after.idempotencyIndex = before.idempotencyIndex := congrArg Prod.snd h
  exact ⟨Or.inl (congrArg Prod.fst h), hindex ▸ Dict.Extends.refl _⟩

theorem waves_step (sha256Hex : String → String) (e : Execution) (call : SimulationCall) :
    WavesGrow e.repository (e.step sha256Hex call).repository := by
  have hrefl : WavesGrow e.repository e.repository := .of_created rfl
  cases call with
  | saveWave wave idempotencyKey requestHash tenantId =>
    simp only [Execution.step]
    split
    · exact hrefl
    · rename_i hsave
      obtain ⟨_, _, _, hindex, _, rfl⟩ := saveWave_eq_ok hsave
      exact ⟨Or.inr ⟨{ wave with tenantId := some tenantId }, rfl⟩, hindex⟩
  | updateWave wave expectedVersion tenantId =>
    simp only [Execution.step]
    split
    · exact hrefl
    · rename_i hupdate
      obtain ⟨_, _, _, _, rfl⟩ := updateWave_eq_ok hupdate
      exact ⟨Or.inr ⟨{ wave with tenantId := some tenantId }, rfl⟩, Dict.Extends.refl _⟩
  | admitOperation a =>
    simp only [Execution.step]
    split
    · exact hrefl
    · rename_i hadmits
      rcases admitSimulationOperation_cases hadmits with ⟨_, rfl⟩ | ⟨_, _, wave, haccepted⟩
      · exact hrefl
      · have hresult := haccepted.result
        subst hresult
        exact ⟨Or.inr ⟨a.simulatingWave, congrArg (Dict.set _ · _) haccepted.sameWave.symm⟩,
          Dict.Extends.refl _⟩
  | claim claimCall => exact .of_created (created_claim _ _)
  | publish publication => exact .of_created (created_step_publish _ _ _)
  | retry tenantId operationId waveItemIds retriedAt => exact .of_created (created_retry _ _ _ _ _)
  | cancel tenantId operationId reasonCode cancelledAt => exact .of_created (created_cancel _ _ _ _ _)

/-- A wave is stored under its own id. -/
def WavesKeyed (waves : Dict String RebalanceWave) : Prop :=
  ∀ id wave, waves.get? id = some wave → wave.waveId = id

theorem WavesKeyed.set {waves : Dict String RebalanceWave} (h : WavesKeyed waves)
    (wave : RebalanceWave) : WavesKeyed (waves.set wave.waveId wave) := by
  intro id stored hget
  rw [Dict.get?_set] at hget
  split at hget
  · rename_i heq
    cases hget
    exact heq.symm
  · exact h id stored hget

theorem wavesKeyed_step (sha256Hex : String → String) (call : SimulationCall)
    (h : WavesKeyed e.repository.waves) : WavesKeyed (e.step sha256Hex call).repository.waves := by
  rcases (waves_step sha256Hex e call).waves with hsame | ⟨wave, hset⟩
  · rw [hsame]
    exact h
  · rw [hset]
    exact h.set wave

/-! ## Calls touch one operation -/

/-- The calls that change one operation and its records. -/
structure OnlyOperation (id : String) (before after : WaveRepository) : Prop where
  operations : ∀ x, x ≠ id →
    after.simulationOperations.get? x = before.simulationOperations.get? x
  records : ∀ key, key.1 ≠ id → after.simulationItems.get? key = before.simulationItems.get? key

theorem onlyOperation_refresh {stored : WaveRepository} (h : OnlyOperation id before stored)
    (hget : stored.simulationOperations.get? id = some operation) (updatedAt : Int) :
    OnlyOperation id before (refreshSimulationOperationStatus stored id updatedAt) := by
  refine ⟨?_, ?_⟩
  · intro x hne
    rw [get?_operations_refresh hget, if_neg hne]
    exact h.operations x hne
  · intro key hne
    rw [simulationItems_refresh]
    exact h.records key hne

theorem onlyOperation_storeItems (repo : WaveRepository) (id : String)
    (rows : List WaveSimulationItemRecord) :
    OnlyOperation id repo
      { repo with simulationItems := storeItems id rows repo.simulationItems } := by
  refine ⟨fun _ _ => rfl, ?_⟩
  intro key hne
  refine get?_storeItems_of_forall_ne ?_ repo.simulationItems
  intro row _ heq
  exact hne (congrArg Prod.fst heq.symm)

theorem AdmitEffect.onlyOperation {after : WaveRepository} {items : List WaveSimulationItemRecord}
    (h : AdmitEffect operation items before after) :
    OnlyOperation operation.operationId before after := by
  refine ⟨?_, ?_⟩
  · intro x hne
    rw [h.operations, Dict.get?_set_of_ne _ _ hne]
  · rw [h.records]
    exact (onlyOperation_storeItems before operation.operationId items).records

theorem recordsKeyed_storeItems (hkeyed : RecordsKeyed items) (id : String)
    (rows : List WaveSimulationItemRecord) : RecordsKeyed (storeItems id rows items) := by
  intro key item hget
  rcases get?_storeItems_cases id rows items key with hsame | ⟨row, _, hkey, hrow⟩
  · exact hkeyed key item (hsame.symm.trans hget)
  · rw [hrow] at hget
    cases hget
    rw [hkey]

/-- The records of an operation after a loop has written some of them: the written ones, and
those whose ids were not written. -/
theorem simulationItemsForOperation_storeItems (hkeyed : RecordsKeyed items) (id tenantId : String)
    {rows : List WaveSimulationItemRecord}
    (hnodup : (rows.map WaveSimulationItemRecord.waveItemId).Nodup)
    (htenant : ∀ row ∈ rows, row.tenantId = tenantId) :
    (simulationItemsForOperation (storeItems id rows items) id tenantId).Perm
      (rows ++ (simulationItemsForOperation items id tenantId).filter
        (fun item => item.waveItemId ∉ rows.map WaveSimulationItemRecord.waveItemId)) := by
  have hafter := nodup_simulationItemsForOperation (recordsKeyed_storeItems hkeyed id rows) id
    tenantId
  have hbefore := nodup_simulationItemsForOperation hkeyed id tenantId
  have hmem : ∀ (d : Dict (String × String) WaveSimulationItemRecord), RecordsKeyed d →
      ∀ item, item ∈ simulationItemsForOperation d id tenantId ↔
        d.get? (id, item.waveItemId) = some item ∧ item.tenantId = tenantId := by
    intro d hd item
    constructor
    · intro h
      refine ⟨get?_of_mem_simulationItemsForOperation hd h, ?_⟩
      obtain ⟨e, he, rfl⟩ := List.mem_map.mp h
      rw [List.mem_filter, decide_eq_true_eq] at he
      exact he.2.2
    · rintro ⟨hget, ht⟩
      refine List.mem_map.mpr ⟨((id, item.waveItemId), item), ?_, rfl⟩
      rw [List.mem_filter, decide_eq_true_eq]
      exact ⟨(d.get?_eq_some_iff _ _).mp hget, rfl, ht⟩
  rw [List.perm_ext_iff_of_nodup (List.Nodup.of_map _ hafter)]
  · intro item
    rw [hmem _ (recordsKeyed_storeItems hkeyed id rows), List.mem_append, List.mem_filter,
      hmem items hkeyed, decide_eq_true_eq]
    by_cases hwritten : item.waveItemId ∈ rows.map WaveSimulationItemRecord.waveItemId
    · obtain ⟨row, hrow, hid⟩ := List.mem_map.mp hwritten
      have hget : (storeItems id rows items).get? (id, row.waveItemId) = some row :=
        get?_storeItems_of_mem hnodup items hrow
      rw [hid] at hget
      rw [hget, Option.some.injEq]
      constructor
      · rintro ⟨rfl, _⟩
        exact Or.inl hrow
      · rintro (hitem | ⟨_, hnot⟩)
        · exact ⟨List.inj_on_of_nodup_map hnodup hrow hitem hid, htenant item hitem⟩
        · exact absurd hwritten hnot
    · have hget : (storeItems id rows items).get? (id, item.waveItemId) =
          items.get? (id, item.waveItemId) := by
        refine get?_storeItems_of_forall_ne ?_ items
        intro row hrow heq
        exact hwritten (List.mem_map.mpr ⟨row, hrow, congrArg Prod.snd heq⟩)
      rw [hget]
      constructor
      · exact fun h => Or.inr ⟨h, hwritten⟩
      · rintro (hitem | ⟨h, _⟩)
        · exact absurd (List.mem_map.mpr ⟨item, hitem, rfl⟩) hwritten
        · exact h
  · refine List.Nodup.append (List.Nodup.of_map _ hnodup)
      ((List.Nodup.of_map _ hbefore).filter _) ?_
    intro item hrow hrest
    rw [List.mem_filter, decide_eq_true_eq] at hrest
    exact hrest.2 (List.mem_map.mpr ⟨item, hrow, rfl⟩)

theorem simulationItemsForOperation_storeItems_map (hkeyed : RecordsKeyed items)
    (id tenantId : String) (select : WaveSimulationItemRecord → Bool)
    (update : WaveSimulationItemRecord → WaveSimulationItemRecord)
    (hid : ∀ item, (update item).waveItemId = item.waveItemId)
    (htenant : ∀ item, (update item).tenantId = item.tenantId) :
    (simulationItemsForOperation
      (storeItems id (((simulationItemsForOperation items id tenantId).filter select).map update)
        items) id tenantId).Perm
      ((simulationItemsForOperation items id tenantId).map
        (fun item => if select item then update item else item)) := by
  set owned := simulationItemsForOperation items id tenantId with howned
  have hnodup : (owned.map WaveSimulationItemRecord.waveItemId).Nodup :=
    nodup_simulationItemsForOperation hkeyed id tenantId
  have hids : ((owned.filter select).map update).map WaveSimulationItemRecord.waveItemId =
      (owned.filter select).map WaveSimulationItemRecord.waveItemId := by
    rw [List.map_map]
    exact List.map_congr_left fun item _ => hid item
  refine (simulationItemsForOperation_storeItems hkeyed id tenantId ?_ ?_).trans ?_
  · rw [hids]
    exact hnodup.sublist (List.filter_sublist.map _)
  · intro row hrow
    obtain ⟨item, hitem, rfl⟩ := List.mem_map.mp hrow
    rw [htenant]
    obtain ⟨e, he, rfl⟩ := List.mem_map.mp (List.mem_of_mem_filter hitem)
    rw [List.mem_filter, decide_eq_true_eq] at he
    exact he.2.2
  · rw [hids, ← howned]
    -- the ids are distinct, so the records that were not written are those not selected
    have hrest : owned.filter (fun item => item.waveItemId ∉
          (owned.filter select).map WaveSimulationItemRecord.waveItemId) =
        owned.filter (fun item => !select item) := by
      refine List.filter_congr fun item hitem => ?_
      cases hselect : select item with
      | true =>
        simp only [Bool.not_true, decide_eq_false_iff_not, not_not]
        exact List.mem_map.mpr ⟨item, List.mem_filter.mpr ⟨hitem, hselect⟩, rfl⟩
      | false =>
        simp only [Bool.not_false, decide_eq_true_eq]
        intro hmem
        obtain ⟨item', hitem', heq⟩ := List.mem_map.mp hmem
        rw [List.mem_filter] at hitem'
        cases List.inj_on_of_nodup_map hnodup hitem'.1 hitem heq
        rw [hselect] at hitem'
        cases hitem'.2
    rw [hrest]
    refine List.Perm.trans ?_ ((List.filter_append_perm select owned).map _)
    rw [List.map_append]
    refine List.Perm.of_eq (congrArg₂ _ ?_ ?_)
    · refine List.map_congr_left fun item hitem => ?_
      rw [if_pos (List.of_mem_filter hitem)]
    · rw [eq_comm]
      refine (List.map_congr_left fun item hitem => ?_).trans (List.map_id _)
      have hselect := List.of_mem_filter hitem
      rw [Bool.not_eq_true'] at hselect
      rw [hselect]
      rfl

/-! ## The part of a record that no call changes -/

/-- The part of a record that its admission fixes. -/
def recordIdentity (item : WaveSimulationItemRecord) :
    String × String × String × String × Nat × String × String × String × String :=
  (item.operationId, item.tenantId, item.waveId, item.waveItemId, item.ordinal, item.portfolioId,
    item.inputPayload, item.inputHash, item.sourceIdentityHash)

theorem ExecutionEffect.record_before (heffect : ExecutionEffect sha256Hex call e e')
    {key : String × String} {item' : WaveSimulationItemRecord}
    (hget : e'.repository.simulationItems.get? key = some item') :
    (∃ item, e.repository.simulationItems.get? key = some item ∧
        recordIdentity item' = recordIdentity item) ∨
      ∃ a, call = .admitOperation a ∧ item' ∈ a.items sha256Hex ∧
        key = (a.operationId sha256Hex, item'.waveItemId) ∧
        AdmitEffect (a.operation sha256Hex) (a.items sha256Hex) e.repository e'.repository := by
  cases heffect with
  | moved hmove _ _ =>
    rcases hmove.record_before hget with hold | ⟨_, item, hitem, hstep⟩
    · exact Or.inl ⟨item', hold, rfl⟩
    · exact Or.inl ⟨item, hitem, by cases hstep <;> rfl⟩
  | admitted a ha hadmitted _ _ =>
    rcases hadmitted.record_cases hget with hold | ⟨hmem, hkey⟩
    · exact Or.inl ⟨item', hold, rfl⟩
    · exact Or.inr ⟨a, ha, hmem, hkey, hadmitted⟩
  | claimed claimCall claims hclaim _ _ =>
    rcases hclaim.record_before hget with hold | ⟨_, _, _, _, item, hitem, _, rfl, _⟩
    · exact Or.inl ⟨item', hold, rfl⟩
    · exact Or.inl ⟨item, hitem, rfl⟩
  | published publication hpublish _ _ =>
    rcases hpublish.record_before hget with ⟨_, hold⟩ | ⟨_, item, _, hitem, _, rfl⟩
    · exact Or.inl ⟨item', hold, rfl⟩
    · exact Or.inl ⟨item, hitem, rfl⟩

theorem ExecutionEffect.operation_before (heffect : ExecutionEffect sha256Hex call e e')
    {operation' : WaveSimulationOperation}
    (hget : e'.repository.simulationOperations.get? id = some operation') :
    (∃ operation, e.repository.simulationOperations.get? id = some operation ∧
        operationIdentity operation = operationIdentity operation') ∨
      ∃ a, call = .admitOperation a ∧ id = a.operationId sha256Hex ∧
        operation' = a.operation sha256Hex ∧
        AdmitEffect (a.operation sha256Hex) (a.items sha256Hex) e.repository e'.repository := by
  cases heffect with
  | moved hmove _ _ => exact Or.inl (hmove.operations.exists_before hget)
  | admitted a ha hadmitted _ _ =>
    rw [hadmitted.operations, Dict.get?_set] at hget
    split at hget
    · rename_i heq
      cases hget
      exact Or.inr ⟨a, ha, heq, rfl, hadmitted⟩
    · exact Or.inl ⟨operation', hget, rfl⟩
  | claimed claimCall claims hclaim _ _ => exact Or.inl (hclaim.operations.exists_before hget)
  | published publication hpublish _ _ => exact Or.inl (hpublish.operations.exists_before hget)

/-- A record names the operation that it is stored under, and the tenant of that operation. -/
def RecordsOwned (repo : WaveRepository) : Prop :=
  ∀ key item operation, repo.simulationItems.get? key = some item →
    repo.simulationOperations.get? key.1 = some operation →
    item.operationId = key.1 ∧ item.tenantId = operation.tenantId

theorem recordsOwned_new : RecordsOwned WaveRepository.new := by
  simp [RecordsOwned, WaveRepository.new]

theorem recordsOwned_step {admitted : List SimulationAdmission}
    (hids : OperationIdsInjective sha256Hex admitted)
    (hinv : AdmissionInv sha256Hex admitted e.repository)
    (hcall : ∀ a, call = .admitOperation a → a ∈ admitted) (howned : RecordsOwned e.repository) :
    RecordsOwned (e.step sha256Hex call).repository := by
  have heffect := step_effect sha256Hex hinv.keyed call
  intro key item' operation' hitem' hop'
  rcases heffect.record_before hitem' with
    ⟨item, hitem, hsame⟩ | ⟨a, _, hmem, hkey, hadmitted⟩
  · simp only [recordIdentity, Prod.mk.injEq] at hsame
    rcases heffect.operation_before hop' with ⟨operation, hop, hid⟩ | ⟨b, hb, hid, _, hadmitted⟩
    · have howner := howned key item operation hitem hop
      have htenant : operation.tenantId = operation'.tenantId := congrArg Prod.fst hid
      exact ⟨hsame.1.trans howner.1, (hsame.2.1.trans howner.2).trans htenant⟩
    · -- a new id has no records yet
      have hnone := hinv.operationId_new hids (hcall b hb) hadmitted.newKey
      rw [← hid] at hnone
      rw [hinv.record_eq_none hnone] at hitem
      cases hitem
  · obtain ⟨row, _, rfl⟩ := List.mem_map.mp hmem
    have hnew : (e.step sha256Hex call).repository.simulationOperations.get? key.1 =
        some (a.operation sha256Hex) := by
      rw [hadmitted.operations, hkey]
      exact Dict.get?_set_self _ _ _
    rw [hnew] at hop'
    cases hop'
    rw [hkey]
    exact ⟨rfl, rfl⟩

end LotusManage.Waves
