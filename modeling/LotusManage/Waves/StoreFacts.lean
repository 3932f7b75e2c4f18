import LotusManage.Lib.WriteOnce
import LotusManage.Waves.SimulationRuns
import Mathlib.Data.List.Perm.Basic

/-!
# What one call does to the simulation records

One lemma for each call of the repository.  They speak of a record under its key
(`get?` of the records), of the identity of an operation (its tenant, its key hash
and its attempt budget, which no call changes) and of the claims a call returns.

`RecordsKeyed` says that a record carries the wave item id it is stored under.
The claim, retry and cancel loops write a record back under its own id, so this is
what makes them write where they read.
-/

namespace LotusManage.Waves

/-- Every record is stored under its own wave item id. -/
def RecordsKeyed (items : Dict (String × String) WaveSimulationItemRecord) : Prop :=
  ∀ key item, items.get? key = some item → item.waveItemId = key.2

/-- The part of an operation that no call changes. -/
def operationIdentity (operation : WaveSimulationOperation) : String × String × Nat :=
  (operation.tenantId, operation.idempotencyKeyHash, operation.maxAttempts)

/-- The key that a claim's record is stored under. -/
def WaveSimulationItemClaim.itemKey (claim : WaveSimulationItemClaim) : String × String :=
  (claim.operationId, claim.waveItemId)

/-- The same operations, up to status, cancel reason and time, and the same key index. -/
structure SameOperations (before after : WaveRepository) : Prop where
  operations : ∀ id,
    (after.simulationOperations.get? id).map operationIdentity =
      (before.simulationOperations.get? id).map operationIdentity
  index : after.simulationOperationIdempotency = before.simulationOperationIdempotency

variable {before after repo repo' : WaveRepository} {operation : WaveSimulationOperation}
  {ownedItems : List WaveSimulationItemRecord} {item : WaveSimulationItemRecord}
  {publication : Publication}

theorem SameOperations.refl (repo : WaveRepository) : SameOperations repo repo :=
  ⟨fun _ => rfl, rfl⟩

theorem SameOperations.trans {first second third : WaveRepository}
    (h : SameOperations first second) (h' : SameOperations second third) :
    SameOperations first third :=
  ⟨fun id => (h'.operations id).trans (h.operations id), h'.index.trans h.index⟩

theorem exists_of_map_eq {α β : Type} {f : α → β} {read other : Option α} {x : α}
    (h : read.map f = other.map f) (hread : read = some x) : ∃ y, other = some y ∧ f y = f x := by
  rw [hread, Option.map_some, eq_comm, Option.map_eq_some_iff] at h
  exact h

theorem SameOperations.exists_before (h : SameOperations before after) {id : String}
    (hget : after.simulationOperations.get? id = some operation) :
    ∃ old, before.simulationOperations.get? id = some old ∧
      operationIdentity old = operationIdentity operation :=
  exists_of_map_eq (h.operations id) hget

theorem SameOperations.exists_after (h : SameOperations before after) {id : String}
    (hget : before.simulationOperations.get? id = some operation) :
    ∃ new, after.simulationOperations.get? id = some new ∧
      operationIdentity new = operationIdentity operation :=
  exists_of_map_eq (h.operations id).symm hget

/-! ## The status refresh -/

@[simp] theorem simulationItems_refresh (repo : WaveRepository) (operationId : String)
    (updatedAt : Int) :
    (refreshSimulationOperationStatus repo operationId updatedAt).simulationItems =
      repo.simulationItems := by
  unfold refreshSimulationOperationStatus
  split <;> rfl

theorem sameOperations_set {operationId : String} {new : WaveSimulationOperation}
    (hget : repo.simulationOperations.get? operationId = some operation)
    (hid : operationIdentity new = operationIdentity operation)
    (items : Dict (String × String) WaveSimulationItemRecord) :
    SameOperations repo { repo with
      simulationOperations := repo.simulationOperations.set operationId new
      simulationItems := items } := by
  refine ⟨fun id => ?_, rfl⟩
  show ((repo.simulationOperations.set operationId new).get? id).map operationIdentity = _
  rw [Dict.get?_set]
  split
  · rename_i heq
    rw [heq, hget, Option.map_some, Option.map_some, hid]
  · rfl

theorem sameOperations_refresh (repo : WaveRepository) (operationId : String) (updatedAt : Int) :
    SameOperations repo (refreshSimulationOperationStatus repo operationId updatedAt) := by
  unfold refreshSimulationOperationStatus
  split
  · exact SameOperations.refl repo
  · rename_i operation hget
    refine sameOperations_set hget ?_ repo.simulationItems
    rfl

/-! ## Records of an operation -/

section Records

variable {items : Dict (String × String) WaveSimulationItemRecord}

variable {operationId : String} {rows : List WaveSimulationItemRecord}

theorem get?_of_mem_simulationItemsForOperation (hkeyed : RecordsKeyed items) {tenantId : String}
    {item : WaveSimulationItemRecord}
    (hmem : item ∈ simulationItemsForOperation items operationId tenantId) :
    items.get? (operationId, item.waveItemId) = some item := by
  obtain ⟨⟨key, row⟩, hfilter, rfl⟩ := List.mem_map.mp hmem
  rw [List.mem_filter] at hfilter
  obtain ⟨hentry, hcond⟩ := hfilter
  simp only [decide_eq_true_eq] at hcond
  have hget : items.get? key = some row := (items.get?_eq_some_iff key row).mpr hentry
  have hkey : key = (operationId, row.waveItemId) :=
    Prod.ext hcond.1 (hkeyed key row hget).symm
  rw [← hkey]
  exact hget

theorem nodup_simulationItemsForOperation (hkeyed : RecordsKeyed items)
    (operationId tenantId : String) :
    ((simulationItemsForOperation items operationId tenantId).map
      WaveSimulationItemRecord.waveItemId).Nodup := by
  unfold simulationItemsForOperation
  set entries :=
    items.items.filter (fun e => e.1.1 = operationId ∧ e.2.tenantId = tenantId) with hentries
  have hkeys : (entries.map Prod.fst).Nodup :=
    items.nodup.sublist (List.Sublist.map Prod.fst List.filter_sublist)
  have hids :
      (entries.map Prod.snd).map WaveSimulationItemRecord.waveItemId =
        (entries.map Prod.fst).map Prod.snd := by
    rw [List.map_map, List.map_map]
    refine List.map_congr_left fun e he => ?_
    have hmem : e ∈ items.items := List.mem_of_mem_filter he
    exact hkeyed e.1 e.2 ((items.get?_eq_some_iff e.1 e.2).mpr hmem)
  rw [hids]
  -- all keys share the operation id, so the ids alone tell them apart
  refine List.Nodup.map_on ?_ hkeys
  have hop : ∀ key ∈ entries.map Prod.fst, key.1 = operationId := by
    intro key hkey
    obtain ⟨e, he, rfl⟩ := List.mem_map.mp hkey
    rw [hentries, List.mem_filter] at he
    simpa using And.left (of_decide_eq_true he.2)
  intro x hx y hy hxy
  exact Prod.ext ((hop x hx).trans (hop y hy).symm) hxy

theorem get?_storeItems_cases (operationId : String) (rows : List WaveSimulationItemRecord)
    (items : Dict (String × String) WaveSimulationItemRecord) (key : String × String) :
    (storeItems operationId rows items).get? key = items.get? key ∨
      ∃ row ∈ rows, key = (operationId, row.waveItemId) ∧
        (storeItems operationId rows items).get? key = some row := by
  rcases Dict.get?_foldl_set_cases key
    (rows.map (fun row => ((operationId, row.waveItemId), row))) items with
      hsame | ⟨row, hmem, hget⟩
  · exact Or.inl hsame
  · obtain ⟨row', hrow, heq⟩ := List.mem_map.mp hmem
    cases heq
    exact Or.inr ⟨row, hrow, rfl, hget⟩

theorem get?_storeItems_of_mem (hnodup : (rows.map WaveSimulationItemRecord.waveItemId).Nodup)
    (items : Dict (String × String) WaveSimulationItemRecord) {row : WaveSimulationItemRecord}
    (hmem : row ∈ rows) :
    (storeItems operationId rows items).get? (operationId, row.waveItemId) = some row := by
  refine Dict.get?_foldl_set _ _ items ?_ ?_
  · intro e he hkey
    obtain ⟨row', hrow', rfl⟩ := List.mem_map.mp he
    exact List.inj_on_of_nodup_map hnodup hrow' hmem (congrArg Prod.snd hkey)
  · intro habsent
    exact absurd (List.mem_map.mpr ⟨_, List.mem_map.mpr ⟨row, hmem, rfl⟩, rfl⟩) habsent

theorem get?_storeItems_of_forall_ne {key : String × String}
    (hne : ∀ row ∈ rows, (operationId, row.waveItemId) ≠ key)
    (items : Dict (String × String) WaveSimulationItemRecord) :
    (storeItems operationId rows items).get? key = items.get? key := by
  rcases get?_storeItems_cases operationId rows items key with hsame | ⟨row, hrow, hkey, _⟩
  · exact hsame
  · exact absurd hkey.symm (hne row hrow)

end Records

theorem sameOperations_store (repo : WaveRepository) (operationId : String)
    (items : Dict (String × String) WaveSimulationItemRecord) (updatedAt : Int) :
    SameOperations repo
      (refreshSimulationOperationStatus { repo with simulationItems := items } operationId
        updatedAt) := by
  have hitems : SameOperations repo { repo with simulationItems := items } := ⟨fun _ => rfl, rfl⟩
  exact hitems.trans (sameOperations_refresh _ operationId updatedAt)

/-! ## Claims -/

/-- What a claim call does: each claim it returns took one claimable record, and every other
record is as before. -/
structure ClaimEffect (call : ClaimCall) (before after : WaveRepository)
    (claims : List WaveSimulationItemClaim) : Prop where
  operations : SameOperations before after
  distinct : (claims.map WaveSimulationItemClaim.itemKey).Nodup
  taken : ∀ c ∈ claims, ∃ operation item,
    before.simulationItems.get? c.itemKey = some item ∧
    item.claimable call.claimedAt = true ∧
    after.simulationItems.get? c.itemKey = some (claimedItem operation call c.claimToken item) ∧
    c.claimGeneration = item.claimGeneration + 1
  others : ∀ key, (∀ c ∈ claims, c.itemKey ≠ key) →
    after.simulationItems.get? key = before.simulationItems.get? key

theorem ClaimEffect.none (call : ClaimCall) (repo : WaveRepository) :
    ClaimEffect call repo repo [] :=
  ⟨SameOperations.refl repo, List.nodup_nil, nofun, fun _ _ => rfl⟩

theorem mem_of_mem_selectedForClaim {call : ClaimCall}
    (h : item ∈ selectedForClaim operation call ownedItems) :
    item ∈ ownedItems ∧ item.claimable call.claimedAt = true := by
  have hsorted := List.mem_of_mem_take h
  rw [List.mem_insertionSort, List.mem_filter] at hsorted
  exact hsorted

theorem nodup_selectedForClaim (operation : WaveSimulationOperation) (call : ClaimCall)
    (h : (ownedItems.map WaveSimulationItemRecord.waveItemId).Nodup) :
    ((selectedForClaim operation call ownedItems).map
      WaveSimulationItemRecord.waveItemId).Nodup := by
  refine List.Nodup.sublist (List.Sublist.map _ (List.take_sublist _ _)) ?_
  rw [((List.perm_insertionSort _ _).map _).nodup_iff]
  exact h.sublist (List.Sublist.map _ List.filter_sublist)

theorem claimSimulationItems_effect (hkeyed : RecordsKeyed repo.simulationItems) (call : ClaimCall) :
    ClaimEffect call repo (claimSimulationItems repo call).1
      (claimSimulationItems repo call).2 := by
  unfold claimSimulationItems
  split
  · exact ClaimEffect.none call repo
  rename_i operation _
  split
  · exact ClaimEffect.none call repo
  split
  · exact ClaimEffect.none call repo
  dsimp only
  set owned := simulationItemsForOperation repo.simulationItems call.operationId call.tenantId
    with howned
  set selected := (selectedForClaim operation call owned).zipIdx with hselected
  have hnodup : (selected.map (fun e => e.1.waveItemId)).Nodup := by
    have h := nodup_selectedForClaim operation call
      (nodup_simulationItemsForOperation hkeyed call.operationId call.tenantId)
    rw [← howned, ← List.zipIdx_map_fst 0 (selectedForClaim operation call owned),
      List.map_map] at h
    exact h
  have hrows : ((selected.map
      (fun e => claimedItem operation call (call.token e.2) e.1)).map
        WaveSimulationItemRecord.waveItemId).Nodup := by
    rw [List.map_map]
    exact hnodup
  have hitem : ∀ e ∈ selected, repo.simulationItems.get? (call.operationId, e.1.waveItemId) =
      some e.1 ∧ e.1.claimable call.claimedAt = true := by
    intro e he
    have hmem := mem_of_mem_selectedForClaim (List.fst_mem_of_mem_zipIdx he)
    exact ⟨get?_of_mem_simulationItemsForOperation hkeyed hmem.1, hmem.2⟩
  refine ⟨sameOperations_store repo _ _ _, ?_, ?_, ?_⟩
  · rw [List.map_map]
    refine List.Nodup.of_map Prod.snd ?_
    rw [List.map_map]
    exact hnodup
  · intro c hc
    obtain ⟨e, he, rfl⟩ := List.mem_map.mp hc
    refine ⟨operation, e.1, (hitem e he).1, (hitem e he).2, ?_, rfl⟩
    rw [simulationItems_refresh]
    exact get?_storeItems_of_mem hrows repo.simulationItems (List.mem_map.mpr ⟨e, he, rfl⟩)
  · intro key hne
    rw [simulationItems_refresh]
    refine get?_storeItems_of_forall_ne ?_ repo.simulationItems
    intro row hrow
    obtain ⟨e, he, rfl⟩ := List.mem_map.mp hrow
    exact hne _ (List.mem_map.mpr ⟨e, he, rfl⟩)

/-! ## Retries and cancellations -/

/-- What a retry or a cancellation can do to a record. -/
inductive RecordMove (operation : WaveSimulationOperation) :
    WaveSimulationItemRecord → WaveSimulationItemRecord → Prop where
  | retried {item : WaveSimulationItemRecord} (retriedAt : Int)
      (hretry : waveSimulationItemIsRetryable operation item = true) :
      RecordMove operation item (retriedItem retriedAt item)
  | cancelled {item : WaveSimulationItemRecord} (cancelledAt : Int)
      (hopen : item.status = .pending ∨ item.status = .running ∨
        waveSimulationItemIsRetryable operation item = true) :
      RecordMove operation item (cancelledItem cancelledAt item)

/-- What a retry or a cancellation does to the repository. -/
structure MoveEffect (before after : WaveRepository) : Prop where
  operations : SameOperations before after
  records : ∀ key, after.simulationItems.get? key = before.simulationItems.get? key ∨
    ∃ operation item item', before.simulationOperations.get? key.1 = some operation ∧
      before.simulationItems.get? key = some item ∧
      after.simulationItems.get? key = some item' ∧ RecordMove operation item item'

theorem MoveEffect.none (repo : WaveRepository) : MoveEffect repo repo :=
  ⟨SameOperations.refl repo, fun _ => Or.inl rfl⟩

theorem records_storeItems_map (hkeyed : RecordsKeyed repo.simulationItems)
    {operationId tenantId : String}
    (hop : repo.simulationOperations.get? operationId = some operation)
    (select : WaveSimulationItemRecord → Bool)
    (update : WaveSimulationItemRecord → WaveSimulationItemRecord)
    (hid : ∀ item, (update item).waveItemId = item.waveItemId)
    (hmove : ∀ item, select item = true → RecordMove operation item (update item))
    (key : String × String) :
    let stored := storeItems operationId
      (((simulationItemsForOperation repo.simulationItems operationId tenantId).filter
        select).map update) repo.simulationItems
    stored.get? key = repo.simulationItems.get? key ∨
      ∃ operation item item', repo.simulationOperations.get? key.1 = some operation ∧
        repo.simulationItems.get? key = some item ∧ stored.get? key = some item' ∧
        RecordMove operation item item' := by
  intro stored
  rcases get?_storeItems_cases operationId
    (((simulationItemsForOperation repo.simulationItems operationId tenantId).filter
      select).map update) repo.simulationItems key with hsame | ⟨row, hrow, hkey, hget⟩
  · exact Or.inl hsame
  · obtain ⟨item, hitem, rfl⟩ := List.mem_map.mp hrow
    rw [List.mem_filter] at hitem
    rw [hid] at hkey
    refine Or.inr ⟨operation, item, update item, ?_, ?_, hget, hmove item hitem.2⟩
    · rw [hkey]
      exact hop
    · rw [hkey]
      exact get?_of_mem_simulationItemsForOperation hkeyed hitem.1

theorem isRetryable_of_retries {requested : Option (List String)}
    (h : retries operation requested item = true) :
    waveSimulationItemIsRetryable operation item = true := by
  simp only [retries, Bool.and_eq_true, Bool.not_eq_true', decide_eq_true_eq,
    decide_eq_false_iff_not, not_le] at h
  simp only [waveSimulationItemIsRetryable, Bool.and_eq_true, decide_eq_true_eq]
  exact ⟨⟨h.1.2.2, h.1.2.1⟩, h.2⟩

theorem open_of_cancels {cancelledAt : Int} (h : cancels operation cancelledAt item = true) :
    item.status = .pending ∨ item.status = .running ∨
      waveSimulationItemIsRetryable operation item = true := by
  simp only [cancels, Bool.or_eq_true, Bool.and_eq_true, decide_eq_true_eq] at h
  tauto

theorem retrySimulationItems_effect (hkeyed : RecordsKeyed repo.simulationItems)
    (tenantId operationId : String) (waveItemIds : Option (List String)) (retriedAt : Int) :
    MoveEffect repo
      (retrySimulationItems repo tenantId operationId waveItemIds retriedAt).1 := by
  unfold retrySimulationItems
  split
  · exact MoveEffect.none repo
  rename_i operation hop
  split
  · exact MoveEffect.none repo
  refine ⟨sameOperations_store repo _ _ _, fun key => ?_⟩
  rw [simulationItems_refresh]
  exact records_storeItems_map hkeyed hop _ (retriedItem retriedAt) (fun _ => rfl)
    (fun item h => RecordMove.retried retriedAt (isRetryable_of_retries h)) key

theorem cancelSimulationOperation_effect (hkeyed : RecordsKeyed repo.simulationItems)
    (tenantId operationId reasonCode : String) (cancelledAt : Int) :
    MoveEffect repo
      (cancelSimulationOperation repo tenantId operationId reasonCode cancelledAt).1 := by
  unfold cancelSimulationOperation
  split
  · exact MoveEffect.none repo
  rename_i operation hop
  split
  · exact MoveEffect.none repo
  split
  · exact MoveEffect.none repo
  dsimp only
  split
  · exact MoveEffect.none repo
  refine ⟨SameOperations.trans (sameOperations_set hop ?_ _) (sameOperations_refresh _ _ _),
    fun key => ?_⟩
  · rfl
  rw [simulationItems_refresh]
  -- the new cancel reason is not read by the retry condition
  exact records_storeItems_map hkeyed hop _ (cancelledItem cancelledAt) (fun _ => rfl)
    (fun item h => RecordMove.cancelled cancelledAt (open_of_cancels h)) key

/-! ## Publications -/

/-- What an accepted publication did. -/
structure PublishEffect (publication : Publication) (before after : WaveRepository) : Prop where
  operations : SameOperations before after
  published : ∃ operation item,
    before.simulationItems.get? publication.claim.itemKey = some item ∧
    item.status = .running ∧
    item.claimToken = some publication.claim.claimToken ∧
    item.claimGeneration = publication.claim.claimGeneration ∧
    after.simulationItems = before.simulationItems.set publication.claim.itemKey
      (publishedItem operation publication.terminal item)

theorem publishSimulationItem_effect
    (h : publishSimulationItem repo publication = .ok (repo', true)) :
    PublishEffect publication repo repo' := by
  unfold publishSimulationItem publishSimulationItemTerminal at h
  split at h
  · simp at h
  rename_i item hitem
  split at h
  · simp at h
  rename_i haccept
  split at h
  · simp at h
  rename_i operation hop
  simp only [Except.ok.injEq, Prod.mk.injEq, and_true] at h
  simp only [refusesPublication, Bool.or_eq_true, decide_eq_true_eq, not_or, ne_eq,
    not_not] at haccept
  refine ⟨?_, operation, item, hitem, haccept.1.1.1.2, haccept.1.1.2, haccept.1.2, ?_⟩
  · rw [← h]
    exact sameOperations_store repo _ _ _
  · rw [← h, simulationItems_refresh]
    rfl

theorem publishSimulationItem_refused
    (h : publishSimulationItem repo publication = .ok (repo', false)) : repo' = repo := by
  unfold publishSimulationItem publishSimulationItemTerminal at h
  split at h
  · simp only [Except.ok.injEq, Prod.mk.injEq, and_true] at h
    exact h.symm
  split at h
  · simp only [Except.ok.injEq, Prod.mk.injEq, and_true] at h
    exact h.symm
  split at h
  · cases h
  · simp at h

/-! ## Admissions -/

/-- What the admission of a new key did. -/
structure AdmitEffect (operation : WaveSimulationOperation)
    (items : List WaveSimulationItemRecord) (before after : WaveRepository) : Prop where
  newKey : before.simulationOperationIdempotency.get?
    (operation.tenantId, operation.idempotencyKeyHash) = none
  operations : after.simulationOperations =
    before.simulationOperations.set operation.operationId operation
  index : after.simulationOperationIdempotency = before.simulationOperationIdempotency.set
    (operation.tenantId, operation.idempotencyKeyHash) operation.operationId
  records : after.simulationItems = storeItems operation.operationId items before.simulationItems

variable {wave simulatingWave : RebalanceWave}

/-- What an accepted admission checked and wrote. -/
structure AdmissionAccepted (operation : WaveSimulationOperation)
    (items : List WaveSimulationItemRecord) (wave simulatingWave : RebalanceWave)
    (repo repo' : WaveRepository) : Prop where
  newKey : repo.simulationOperationIdempotency.get?
    (operation.tenantId, operation.idempotencyKeyHash) = none
  newCorrelation : repo.simulationOperationCorrelations.contains
    (operation.tenantId, operation.correlationId) = false
  stored : repo.waves.get? operation.waveId = some wave
  tenant : wave.tenantId = some operation.tenantId
  version : wave.version = operation.admittedWaveVersion
  records : validateSimulationAdmissionItems operation items wave = .ok ()
  sameWave : simulatingWave.waveId = wave.waveId
  sameTenant : simulatingWave.tenantId = some operation.tenantId
  simulating : simulatingWave.state = .simulating
  nextVersion : simulatingWave.version = wave.version + 1
  result : repo' = { repo with
    simulationOperations := repo.simulationOperations.set operation.operationId operation
    simulationOperationIdempotency := repo.simulationOperationIdempotency.set
      (operation.tenantId, operation.idempotencyKeyHash) operation.operationId
    simulationOperationCorrelations := repo.simulationOperationCorrelations.set
      (operation.tenantId, operation.correlationId) operation.operationId
    simulationItems := storeItems operation.operationId items repo.simulationItems
    waves := repo.waves.set wave.waveId simulatingWave }

theorem admitSimulationOperation_cases {stored : WaveSimulationOperation}
    {items : List WaveSimulationItemRecord} {replay : Bool}
    (h : admitSimulationOperation repo operation items simulatingWave = .ok (repo', stored, replay)) :
    (replay = true ∧ repo' = repo) ∨
      (replay = false ∧ stored = operation ∧
        ∃ wave, AdmissionAccepted operation items wave simulatingWave repo repo') := by
  unfold admitSimulationOperation at h
  split at h
  · split at h
    · cases h
    · split at h
      · cases h
      · cases h
        exact Or.inl ⟨rfl, rfl⟩
  rename_i hkey
  unfold admitNewOperation at h
  dsimp only at h
  split at h
  · cases h
  rename_i hcorrelation
  split at h
  · cases h
  rename_i wave hwave
  split at h
  · cases h
  rename_i htenant
  split at h
  · cases h
  rename_i hversion
  split at h
  · cases h
  rename_i hrecords
  split at h
  · cases h
  rename_i htransition
  cases h
  simp only [ne_eq, not_or, not_not] at htransition htenant hversion
  rw [Bool.not_eq_true] at hcorrelation
  exact Or.inr ⟨rfl, rfl, wave, hkey, hcorrelation, hwave, htenant, hversion, hrecords,
    htransition.1, htransition.2.1, htransition.2.2.1, htransition.2.2.2, rfl⟩

theorem AdmissionAccepted.effect {items : List WaveSimulationItemRecord}
    (h : AdmissionAccepted operation items wave simulatingWave repo repo') :
    AdmitEffect operation items repo repo' := by
  have hresult := h.result
  subst hresult
  exact ⟨h.newKey, rfl, rfl, rfl⟩

theorem admitSimulationOperation_effect {stored : WaveSimulationOperation}
    {items : List WaveSimulationItemRecord} {replay : Bool}
    (h : admitSimulationOperation repo operation items simulatingWave = .ok (repo', stored, replay)) :
    repo' = repo ∨ AdmitEffect operation items repo repo' := by
  rcases admitSimulationOperation_cases h with ⟨_, hsame⟩ | ⟨_, _, _, haccepted⟩
  · exact Or.inl hsame
  · exact Or.inr haccepted.effect

/-! ## Waves -/

theorem saveWave_eq_ok {sha256Hex : String → String}
    {idempotencyKey requestHash : Option String} {tenantId : String}
    (h : saveWave sha256Hex repo wave idempotencyKey requestHash tenantId = .ok repo') :
    repo.waves.get? wave.waveId = none ∧
      ∃ index correlations, repo.idempotencyIndex.Extends index ∧
        (∀ key, idempotencyKey = some key →
          index.get? (waveIdempotencyMappingKey sha256Hex tenantId key) =
            some (wave.waveId, requestHash)) ∧
        repo' = { repo with
        idempotencyIndex := index
        waves := repo.waves.set wave.waveId { wave with tenantId := some tenantId }
        correlationIndex := correlations } := by
  unfold saveWave at h
  dsimp only at h
  split at h
  · cases h
  rename_i hfree
  split at h
  · cases h
  rename_i hnew
  split at h
  · cases h
  cases h
  refine ⟨?_, _, _, ?_, ?_, rfl⟩
  · rw [Dict.get?_eq_none_iff, ← Dict.contains_eq_true_iff]
    exact hnew
  · cases idempotencyKey with
    | none => exact Dict.Extends.refl _
    | some key =>
      -- what is there already is what is written
      intro other value hget
      simp only [Option.map_some, idempotencyConflicts] at hfree ⊢
      rw [Dict.get?_set]
      split
      · rename_i heq
        rw [← heq, hget] at hfree
        exact congrArg some (not_not.mp fun hne => hfree (decide_eq_true (Ne.symm hne)))
      · exact hget
  · rintro key rfl
    exact Dict.get?_set_self _ _ _

theorem updateWave_eq_ok {expectedVersion : Int} {tenantId : String}
    (h : updateWave repo wave expectedVersion tenantId = .ok repo') :
    ∃ current, repo.waves.get? wave.waveId = some current ∧
      current.version = expectedVersion ∧ current.tenantId = some tenantId ∧
      repo' = { repo with
        waves := repo.waves.set wave.waveId { wave with tenantId := some tenantId } } := by
  unfold updateWave at h
  split at h
  · cases h
  rename_i current hcurrent
  split at h
  · cases h
  rename_i hmatch
  cases h
  simp only [ne_eq, not_or, not_not] at hmatch
  exact ⟨current, hcurrent, hmatch.1, hmatch.2, rfl⟩

end LotusManage.Waves
