import LotusManage.Waves.OperationStatus

/-!
# Concurrency, attempts and leases

A claim call hands out at most as many records as the operation has free slots, a slot being taken
while a running record's lease is in the future.  Three bounds hold in every interleaving:

* the records under a live lease are at most `max_concurrency`;
* the attempts of a record are at most `max_attempts` and at most its generation;
* an item is handed out again only when the earlier lease has run out, or the earlier worker has
  published under it.

The bounds on leases need a clock that does not go back (`ClockMonotone`): they are stated for instants
at or after every call made so far, which `Runs.run_history` carries along.

The nominal leases of an item may overlap: a worker that fails early gives the item back, and a retry
hands it out again while the lease of the failed attempt would still run.
-/

namespace LotusManage.Waves

/-! ## The clock -/

/-- The instant that a call compares leases with. -/
def SimulationCall.time? : SimulationCall → Option Int
  | claim call => some call.claimedAt
  | publish publication => some publication.terminal.completedAt
  | retry _ _ _ retriedAt => some retriedAt
  | cancel _ _ _ cancelledAt => some cancelledAt
  | _ => none

/-- The instants of the calls of an interleaving. -/
def callTimes (calls : List SimulationCall) : List Int := calls.filterMap SimulationCall.time?

/-- The clock does not go back. -/
def ClockMonotone (calls : List SimulationCall) : Prop := (callTimes calls).Pairwise (· ≤ ·)

/-- An instant at or after every call made so far. -/
def NotBefore (past : List SimulationCall) (t : Int) : Prop := ∀ s ∈ callTimes past, s ≤ t

variable {past rest : List SimulationCall} {call : ClaimCall} {t : Int}
  {item : WaveSimulationItemRecord} {repo : WaveRepository} {sha256Hex : String → String}

theorem callTimes_append (past rest : List SimulationCall) :
    callTimes (past ++ rest) = callTimes past ++ callTimes rest := by
  rw [callTimes, callTimes, callTimes, List.filterMap_append]

theorem mem_callTimes_of_time {call : SimulationCall} (h : call.time? = some t) :
    t ∈ callTimes (past ++ [call]) :=
  List.mem_filterMap.mpr ⟨call, List.mem_append_right _ List.mem_cons_self, h⟩

theorem NotBefore.of_append (h : NotBefore (past ++ rest) t) : NotBefore past t := by
  intro s hs
  refine h s ?_
  rw [callTimes_append]
  exact List.mem_append_left _ hs

theorem ClockMonotone.notBefore {call : SimulationCall} (h : ClockMonotone (past ++ call :: rest))
    (ht : call.time? = some t) : NotBefore past t := by
  rw [ClockMonotone, callTimes_append, List.pairwise_append] at h
  intro s hs
  refine h.2.2 s hs t ?_
  exact List.mem_filterMap.mpr ⟨call, List.mem_cons_self, ht⟩

/-! ## Live leases -/

/-- The records of an operation that run under a lease in the future. -/
def activeLeases (repo : WaveRepository) (id : String) (operation : WaveSimulationOperation)
    (now : Int) : Nat :=
  (operationItems repo id operation).countP (fun item => item.leaseActive now)

theorem leaseActive_of_not_running (h : item.status ≠ .running) (now : Int) :
    item.leaseActive now = false := by
  simp [WaveSimulationItemRecord.leaseActive, h]

theorem leaseActive_mono {now later : Int} (hle : now ≤ later) (h : item.leaseActive later = true) :
    item.leaseActive now = true := by
  simp only [WaveSimulationItemRecord.leaseActive, Bool.and_eq_true, Option.any_eq_true,
    decide_eq_true_eq] at h ⊢
  obtain ⟨hrunning, lease, hlease, hlater⟩ := h
  exact ⟨hrunning, lease, hlease, by omega⟩

theorem countP_leaseActive_mono {now later : Int} (hle : now ≤ later)
    (items : List WaveSimulationItemRecord) :
    items.countP (fun item => item.leaseActive later) ≤
      items.countP (fun item => item.leaseActive now) :=
  List.countP_mono_left (fun _ _ h => leaseActive_mono hle h)

/-- Records that a loop moves out of `RUNNING` free their slots. -/
theorem countP_leaseActive_map_le {update : WaveSimulationItemRecord → WaveSimulationItemRecord}
    (select : WaveSimulationItemRecord → Bool) (hmoved : ∀ item, (update item).status ≠ .running)
    (now : Int) (items : List WaveSimulationItemRecord) :
    (items.map (fun item => if select item then update item else item)).countP
        (fun item => item.leaseActive now) ≤
      items.countP (fun item => item.leaseActive now) := by
  rw [List.countP_map]
  refine List.countP_mono_left fun item _ h => ?_
  simp only [Function.comp_apply] at h
  split at h
  · rw [leaseActive_of_not_running (hmoved item)] at h
    cases h
  · exact h

theorem length_selectedForClaim_le {operation : WaveSimulationOperation}
    {owned : List WaveSimulationItemRecord}
    (h : owned.countP (fun item => item.leaseActive call.claimedAt) ≤ operation.maxConcurrency) :
    (selectedForClaim operation call owned).length +
        owned.countP (fun item => item.leaseActive call.claimedAt) ≤
      operation.maxConcurrency := by
  have hlength : (selectedForClaim operation call owned).length ≤
      (min (max 0 call.limit) (max 0 ((operation.maxConcurrency : Int) -
        owned.countP (fun item => item.leaseActive call.claimedAt)))).toNat := by
    unfold selectedForClaim
    exact List.length_take_le _ _
  omega

/-! ## The records that a claim call takes -/

theorem claim_record_cases (hkeyed : RecordsKeyed repo.simulationItems) {key : String × String}
    {item' : WaveSimulationItemRecord}
    (hget : (claimSimulationItems repo call).1.simulationItems.get? key = some item') :
    repo.simulationItems.get? key = some item' ∨
      ∃ operation item token, repo.simulationOperations.get? key.1 = some operation ∧
        repo.simulationItems.get? key = some item ∧
        item' = claimedItem operation call token item := by
  rcases claimSimulationItems_cases repo call with hidle | ⟨operation, hop, _, _, hresult⟩
  · rw [hidle] at hget
    exact Or.inl hget
  · rw [hresult] at hget
    simp only [simulationItems_refresh] at hget
    rcases get?_storeItems_cases call.operationId
      (claimedRecords operation call (operationItems repo call.operationId operation))
      repo.simulationItems key with hsame | ⟨row, hrow, hkey, hrow'⟩
    · exact Or.inl (hsame.symm.trans hget)
    · rw [hrow'] at hget
      cases hget
      obtain ⟨e, he, rfl⟩ := List.mem_map.mp hrow
      have hmem := (mem_of_mem_selectedForClaim (List.fst_mem_of_mem_zipIdx he)).1
      refine Or.inr ⟨operation, e.1, call.token e.2, ?_, ?_, rfl⟩
      · rw [hkey]
        exact hop
      · rw [hkey]
        exact get?_of_mem_simulationItemsForOperation hkeyed hmem

theorem leaseExpiresAt_of_mem_claims {c : WaveSimulationItemClaim}
    (h : c ∈ (claimSimulationItems repo call).2) : c.leaseExpiresAt = call.leaseExpiresAt := by
  rcases claimSimulationItems_cases repo call with hidle | ⟨operation, _, _, _, hresult⟩
  · rw [hidle] at h
    cases h
  · rw [hresult] at h
    obtain ⟨e, _, rfl⟩ := List.mem_map.mp h
    rfl

theorem claims_in_ordinal_order (repo : WaveRepository) (call : ClaimCall) :
    (claimSimulationItems repo call).2 = [] ∨
      ∃ operation, ∃ taken waiting : List WaveSimulationItemRecord,
        repo.simulationOperations.get? call.operationId = some operation ∧
        (taken ++ waiting).Perm ((operationItems repo call.operationId operation).filter
          (fun item => item.claimable call.claimedAt)) ∧
        (taken ++ waiting).Pairwise (fun a b => a.ordinal ≤ b.ordinal) ∧
        (claimSimulationItems repo call).2.map WaveSimulationItemClaim.waveItemId =
          taken.map WaveSimulationItemRecord.waveItemId := by
  rcases claimSimulationItems_cases repo call with hidle | ⟨operation, hop, _, _, hresult⟩
  · rw [hidle]
    exact Or.inl rfl
  set owned := operationItems repo call.operationId operation with howned
  set sorted := (owned.filter (fun item => item.claimable call.claimedAt)).insertionSort
    (fun a b => simulationItemLe a b) with hsorted
  set limit := (min (max 0 call.limit) (max 0 ((operation.maxConcurrency : Int) -
    owned.countP (fun item => item.leaseActive call.claimedAt)))).toNat with hlimit
  have hselected : selectedForClaim operation call owned = sorted.take limit := rfl
  refine Or.inr ⟨operation, sorted.take limit, sorted.drop limit, hop, ?_, ?_, ?_⟩
  · rw [List.take_append_drop]
    exact List.perm_insertionSort _ _
  · rw [List.take_append_drop]
    refine (List.pairwise_insertionSort (fun a b => simulationItemLe a b = true) _).imp ?_
    intro a b hle
    rcases simulationItemLe_iff.mp hle with hlt | ⟨heq, _⟩
    · exact hlt.le
    · exact heq.le
  · rw [hresult, grantedClaims, List.map_map, hselected]
    conv_rhs => rw [← List.zipIdx_map_fst 0 (sorted.take limit), List.map_map]
    rfl

/-! ## The bounds through one call -/

/-- What is known of a claim that was handed out: its lease has run out at some call, a
publication under it was accepted, or its record still runs under it or is cancelled. -/
def LeaseSettled (past : List SimulationCall) (e : Execution) (c : WaveSimulationItemClaim) :
    Prop :=
  (∃ s ∈ callTimes past, c.leaseExpiresAt ≤ s) ∨
    c.fence ∈ e.accepted.map WaveSimulationItemClaim.fence ∨
    ∃ item, e.repository.simulationItems.get? c.itemKey = some item ∧
      ((item.status = .running ∧ item.claimGeneration = c.claimGeneration ∧
          item.leaseExpiresAt = some c.leaseExpiresAt) ∨
        item.status = .cancelled)

/-- The bounds, for the calls made so far. -/
structure BoundsInv (past : List SimulationCall) (e : Execution) : Prop where
  active : ∀ id operation now,
    e.repository.simulationOperations.get? id = some operation → NotBefore past now →
    activeLeases e.repository id operation now ≤ operation.maxConcurrency
  attempts : ∀ key item operation, e.repository.simulationItems.get? key = some item →
    e.repository.simulationOperations.get? key.1 = some operation →
    item.attemptCount ≤ operation.maxAttempts ∧ item.attemptCount ≤ item.claimGeneration
  leases : ∀ c ∈ e.issued, LeaseSettled past e c

theorem boundsInv_new : BoundsInv [] Execution.new := by
  constructor <;> simp [Execution.new, WaveRepository.new]

/-- The live leases of the operations, as a bound on the repository alone. -/
def ActiveBounded (repo : WaveRepository) (now : Int) : Prop :=
  ∀ id operation, repo.simulationOperations.get? id = some operation →
    activeLeases repo id operation now ≤ operation.maxConcurrency

section Active

variable {repo repo' : WaveRepository} {id : String} {now : Int}

variable {operation : WaveSimulationOperation}

theorem ActiveBounded.of_only (h : ActiveBounded repo now) (honly : OnlyOperation id repo repo')
    (hthis : ∀ operation, repo'.simulationOperations.get? id = some operation →
      activeLeases repo' id operation now ≤ operation.maxConcurrency) :
    ActiveBounded repo' now := by
  intro x operation hget
  by_cases hx : x = id
  · subst hx
    exact hthis operation hget
  · rw [honly.operations x hx] at hget
    have hperm : (operationItems repo' x operation).Perm (operationItems repo x operation) := by
      refine simulationItemsForOperation_perm ?_ _
      intro key hkey
      exact honly.records key (hkey ▸ hx)
    rw [activeLeases, hperm.countP_eq]
    exact h x operation hget

theorem ActiveBounded.of_eq (h : ActiveBounded repo now)
    (hoperations : repo'.simulationOperations = repo.simulationOperations)
    (hrecords : repo'.simulationItems = repo.simulationItems) : ActiveBounded repo' now := by
  intro x operation hget
  rw [hoperations] at hget
  rw [activeLeases, operationItems, hrecords]
  exact h x operation hget

theorem ActiveBounded.of_refresh {stored : WaveRepository} (h : ActiveBounded repo now)
    (honly : OnlyOperation id repo stored)
    (hget : stored.simulationOperations.get? id = some operation)
    (hthis : activeLeases stored id operation now ≤ operation.maxConcurrency) (updatedAt : Int) :
    ActiveBounded (refreshSimulationOperationStatus stored id updatedAt) now := by
  refine h.of_only (onlyOperation_refresh honly hget updatedAt) ?_
  intro operation' hget'
  rw [get?_operations_refresh hget, if_pos rfl] at hget'
  cases hget'
  rw [activeLeases, operationItems, simulationItems_refresh]
  exact hthis

theorem activeBounded_claim (hkeyed : RecordsKeyed repo.simulationItems) {call : ClaimCall}
    (hbefore : ActiveBounded repo call.claimedAt) (hafter : ActiveBounded repo now)
    (hnow : call.claimedAt ≤ now) : ActiveBounded (claimSimulationItems repo call).1 now := by
  rcases claimSimulationItems_cases repo call with hidle | ⟨operation, hget, _, _, hresult⟩
  · rw [hidle]
    exact hafter
  rw [hresult]
  refine ActiveBounded.of_refresh hafter (onlyOperation_storeItems repo _ _) hget ?_ _
  set owned := operationItems repo call.operationId operation with howned
  have hrows : ((claimedRecords operation call owned).map
      WaveSimulationItemRecord.waveItemId).Nodup := by
    have hids := nodup_selectedForClaim operation call
      (nodup_simulationItemsForOperation hkeyed call.operationId operation.tenantId)
    rw [claimedRecords, List.map_map]
    rw [← List.zipIdx_map_fst 0 (selectedForClaim _ _ _), List.map_map] at hids
    exact hids
  have htenant : ∀ row ∈ claimedRecords operation call owned,
      row.tenantId = operation.tenantId := by
    intro row hrow
    obtain ⟨e, he, rfl⟩ := List.mem_map.mp hrow
    obtain ⟨_, _, _, htenant⟩ := mem_operationItems.mp
      (mem_of_mem_selectedForClaim (List.fst_mem_of_mem_zipIdx he)).1
    exact htenant
  have hperm := simulationItemsForOperation_storeItems hkeyed call.operationId
    operation.tenantId hrows
    htenant
  have hfree := length_selectedForClaim_le (hbefore call.operationId operation hget)
  calc
    _ = (claimedRecords operation call owned ++ owned.filter (fun item => item.waveItemId ∉
          (claimedRecords operation call owned).map WaveSimulationItemRecord.waveItemId)).countP
            (fun item => item.leaseActive now) := hperm.countP_eq _
    _ ≤ (claimedRecords operation call owned).length +
          owned.countP (fun item => item.leaseActive now) := by
        rw [List.countP_append]
        exact Nat.add_le_add List.countP_le_length (List.filter_sublist.countP_le)
    _ ≤ (selectedForClaim operation call owned).length +
          owned.countP (fun item => item.leaseActive call.claimedAt) := by
        refine Nat.add_le_add ?_ (countP_leaseActive_mono hnow owned)
        rw [claimedRecords, List.length_map, List.length_zipIdx]
    _ ≤ operation.maxConcurrency := hfree

theorem activeBounded_retry (hkeyed : RecordsKeyed repo.simulationItems)
    (h : ActiveBounded repo now) (tenantId operationId : String)
    (waveItemIds : Option (List String)) (retriedAt : Int) :
    ActiveBounded (retrySimulationItems repo tenantId operationId waveItemIds retriedAt).1 now := by
  rcases retrySimulationItems_cases repo tenantId operationId waveItemIds retriedAt with
    hidle | ⟨operation, hget, _, hresult⟩
  · rw [hidle]
    exact h
  rw [hresult]
  refine ActiveBounded.of_refresh h (onlyOperation_storeItems repo _ _) hget ?_ _
  have hperm := simulationItemsForOperation_storeItems_map hkeyed operationId operation.tenantId
    (retries operation waveItemIds) (retriedItem retriedAt)
    (fun _ => rfl) (fun _ => rfl)
  refine (hperm.countP_eq _).trans_le ?_
  refine (countP_leaseActive_map_le _ (fun item => ?_) now _).trans (h operationId operation hget)
  simp [retriedItem]

theorem activeBounded_cancel (hkeyed : RecordsKeyed repo.simulationItems)
    (h : ActiveBounded repo now) (tenantId operationId reasonCode : String) (cancelledAt : Int) :
    ActiveBounded (cancelSimulationOperation repo tenantId operationId reasonCode cancelledAt).1
      now := by
  rcases cancelSimulationOperation_cases repo tenantId operationId reasonCode cancelledAt with
    hidle | ⟨operation, hget, _, _, _, hresult⟩
  · rw [hidle]
    exact h
  rw [hresult]
  refine ActiveBounded.of_refresh h (onlyOperation_cancelled repo operationId _ _)
    (Dict.get?_set_self _ _ _) ?_ _
  have hperm := simulationItemsForOperation_storeItems_map hkeyed operationId operation.tenantId
    (cancels (cancelMarked operation reasonCode cancelledAt) cancelledAt)
    (cancelledItem cancelledAt) (fun _ => rfl) (fun _ => rfl)
  refine (hperm.countP_eq _).trans_le ?_
  refine (countP_leaseActive_map_le _ (fun item => ?_) now _).trans (h operationId operation hget)
  simp [cancelledItem]

theorem activeBounded_publish (hkeyed : RecordsKeyed repo.simulationItems)
    (howned : RecordsOwned repo) (h : ActiveBounded repo now) {publication : Publication}
    {accepted : Bool}
    (hpublish : publishSimulationItem repo publication = .ok (repo', accepted)) :
    ActiveBounded repo' now := by
  rcases publishSimulationItem_cases repo publication with
    hidle | ⟨_, _, _, herror⟩ | ⟨item, operation, hitem, hget, _, hresult⟩
  · rw [hidle] at hpublish
    cases hpublish
    exact h
  · rw [herror] at hpublish
    cases hpublish
  rw [hresult] at hpublish
  cases hpublish
  refine ActiveBounded.of_refresh h (onlyOperation_set repo publication.claim.itemKey _) hget ?_ _
  -- the write of one record is a loop over one record
  have hstore : repo.simulationItems.set publication.claim.itemKey
        (publishedItem operation publication.terminal item) =
      storeItems publication.claim.operationId
        [publishedItem operation publication.terminal item] repo.simulationItems := by
    have hid : item.waveItemId = publication.claim.waveItemId := hkeyed _ item hitem
    rw [storeItems, List.map_singleton, List.foldl_cons, List.foldl_nil]
    show _ = repo.simulationItems.set (publication.claim.operationId, item.waveItemId) _
    rw [hid]
    rfl
  have htenant : ∀ row ∈ [publishedItem operation publication.terminal item],
      row.tenantId = operation.tenantId := by
    intro row hrow
    rw [List.mem_singleton] at hrow
    rw [hrow]
    exact (howned _ item operation hitem hget).2
  have hnodup : ([publishedItem operation publication.terminal item].map
      WaveSimulationItemRecord.waveItemId).Nodup := List.nodup_singleton _
  have hperm := simulationItemsForOperation_storeItems hkeyed publication.claim.operationId
    operation.tenantId hnodup htenant
  have hstopped : (publishedItem operation publication.terminal item).leaseActive now = false := by
    refine leaseActive_of_not_running ?_ now
    cases publication <;> nofun
  calc
    _ = ([publishedItem operation publication.terminal item] ++ _).countP
          (fun item => item.leaseActive now) := by
        rw [activeLeases, operationItems, hstore]
        exact hperm.countP_eq _
    _ ≤ activeLeases repo publication.claim.operationId operation now := by
        rw [List.countP_append, List.countP_singleton, hstopped]
        simp only [Bool.false_eq_true, if_false, Nat.zero_add]
        exact List.filter_sublist.countP_le
    _ ≤ operation.maxConcurrency := h _ operation hget

theorem activeBounded_admit (h : ActiveBounded repo now) {items : List WaveSimulationItemRecord}
    (hadmitted : AdmitEffect operation items repo repo')
    (hnew : ∀ key, key.1 = operation.operationId → repo.simulationItems.get? key = none)
    (hitems : ∀ item ∈ items, item.status = .pending) : ActiveBounded repo' now := by
  refine h.of_only hadmitted.onlyOperation ?_
  intro operation' hget'
  have hzero : activeLeases repo' operation.operationId operation' now = 0 := by
    rw [activeLeases, List.countP_eq_zero]
    intro item hitem hactive
    obtain ⟨key, hkey, hget, _⟩ := mem_operationItems.mp hitem
    rcases hadmitted.record_cases hget with hold | ⟨hmem, _⟩
    · rw [hnew key hkey] at hold
      cases hold
    · rw [leaseActive_of_not_running (by rw [hitems item hmem]; nofun)] at hactive
      cases hactive
  omega

end Active


section Steps

variable {sha256Hex : String → String} {admitted : List SimulationAdmission}
  {past : List SimulationCall} {e : Execution} {call : SimulationCall}

variable {key : String × String} {item' item : WaveSimulationItemRecord}
  {operation : WaveSimulationOperation} {c : WaveSimulationItemClaim}

theorem boundsInv_active_step (hids : OperationIdsInjective sha256Hex admitted)
    (hstore : StoreInv sha256Hex admitted e)
    (hcall : ∀ a, call = .admitOperation a → a ∈ admitted) (hinv : BoundsInv past e)
    (hclock : ∀ t, call.time? = some t → NotBefore past t) {now : Int}
    (hnow : NotBefore (past ++ [call]) now) :
    ActiveBounded (e.step sha256Hex call).repository now := by
  have hkeyed := hstore.execution.1.keyed
  have hbounded : ActiveBounded e.repository now := fun id operation hget =>
    hinv.active id operation now hget hnow.of_append
  cases call with
  | saveWave wave idempotencyKey requestHash tenantId =>
    simp only [Execution.step]
    split
    · exact hbounded
    · rename_i hsave
      obtain ⟨hoperations, hrecords⟩ := simulation_saveWave hsave
      exact hbounded.of_eq hoperations hrecords
  | updateWave wave expectedVersion tenantId =>
    simp only [Execution.step]
    split
    · exact hbounded
    · rename_i hupdate
      obtain ⟨hoperations, hrecords⟩ := simulation_updateWave hupdate
      exact hbounded.of_eq hoperations hrecords
  | admitOperation a =>
    simp only [Execution.step]
    split
    · exact hbounded
    · rename_i repository stored replay hadmits
      rcases admitSimulationOperation_effect hadmits with rfl | hadmitted
      · exact hbounded
      · refine activeBounded_admit hbounded hadmitted
          (fun key hkey => hstore.execution.1.record_eq_none ?_) ?_
        · rw [hkey]
          exact hstore.execution.1.operationId_new hids (hcall a rfl) hadmitted.newKey
        · intro item hitem
          obtain ⟨row, _, rfl⟩ := List.mem_map.mp hitem
          rfl
  | claim claimCall =>
    refine activeBounded_claim hkeyed ?_ hbounded (hnow _ (mem_callTimes_of_time rfl))
    exact fun id operation hget =>
      hinv.active id operation claimCall.claimedAt hget (hclock _ rfl)
  | publish publication =>
    simp only [Execution.step]
    split
    · exact hbounded
    · rename_i hpublish
      exact activeBounded_publish hkeyed hstore.owned hbounded hpublish
    · rename_i hpublish
      exact activeBounded_publish hkeyed hstore.owned hbounded hpublish
  | retry tenantId operationId waveItemIds retriedAt =>
    exact activeBounded_retry hkeyed hbounded tenantId operationId waveItemIds retriedAt
  | cancel tenantId operationId reasonCode cancelledAt =>
    exact activeBounded_cancel hkeyed hbounded tenantId operationId reasonCode cancelledAt

/-- The two counters of a record. -/
def counters (item : WaveSimulationItemRecord) : Nat × Nat :=
  (item.attemptCount, item.claimGeneration)

theorem issued_of_not_claim (hnot : ∀ claimCall, call ≠ .claim claimCall) :
    (e.step sha256Hex call).issued = e.issued := by
  cases call with
  | claim claimCall => exact absurd rfl (hnot claimCall)
  | saveWave | updateWave | admitOperation | publish =>
    simp only [Execution.step]
    split <;> rfl
  | retry | cancel => rfl

theorem step_effect_of_not_claim (hkeyed : RecordsKeyed e.repository.simulationItems)
    (hnot : ∀ claimCall, call ≠ .claim claimCall) :
    (MoveEffect e.repository (e.step sha256Hex call).repository ∧
        (e.step sha256Hex call).accepted = e.accepted) ∨
      (∃ a, call = .admitOperation a ∧
        AdmitEffect (a.operation sha256Hex) (a.items sha256Hex) e.repository
          (e.step sha256Hex call).repository ∧
        (e.step sha256Hex call).accepted = e.accepted) ∨
      (∃ publication, PublishEffect publication e.repository (e.step sha256Hex call).repository ∧
        (e.step sha256Hex call).accepted = e.accepted ++ [publication.claim]) := by
  cases step_effect sha256Hex hkeyed call with
  | moved hmove _ haccepted => exact Or.inl ⟨hmove, haccepted⟩
  | admitted a ha hadmitted _ haccepted => exact Or.inr (Or.inl ⟨a, ha, hadmitted, haccepted⟩)
  | claimed claimCall claims hclaim hissued haccepted =>
    rw [issued_of_not_claim hnot, List.self_eq_append_right] at hissued
    subst hissued
    refine Or.inl ⟨⟨hclaim.operations, fun key => Or.inl (hclaim.others key ?_)⟩, haccepted⟩
    intro c hc
    cases hc
  | published publication hpublish _ haccepted =>
    exact Or.inr (Or.inr ⟨publication, hpublish, haccepted⟩)

theorem counters_before (hkeyed : RecordsKeyed e.repository.simulationItems)
    (hnot : ∀ claimCall, call ≠ .claim claimCall)
    (hget : (e.step sha256Hex call).repository.simulationItems.get? key = some item') :
    item'.attemptCount = 0 ∨ ∃ item, e.repository.simulationItems.get? key = some item ∧
      counters item' = counters item := by
  rcases step_effect_of_not_claim hkeyed hnot with
    ⟨hmove, _⟩ | ⟨a, _, hadmitted, _⟩ | ⟨publication, hpublish, _⟩
  · rcases hmove.record_before hget with hold | ⟨_, item, hitem, hstep⟩
    · exact Or.inr ⟨item', hold, rfl⟩
    · exact Or.inr ⟨item, hitem, by cases hstep <;> rfl⟩
  · rcases hadmitted.record_cases hget with hold | ⟨hmem, _⟩
    · exact Or.inr ⟨item', hold, rfl⟩
    · obtain ⟨row, _, rfl⟩ := List.mem_map.mp hmem
      exact Or.inl rfl
  · rcases hpublish.record_before hget with ⟨_, hold⟩ | ⟨_, item, _, hitem, _, rfl⟩
    · exact Or.inr ⟨item', hold, rfl⟩
    · exact Or.inr ⟨item, hitem, rfl⟩

theorem counters_claimedItem {call : ClaimCall} {token : String}
    (h : item.attemptCount ≤ operation.maxAttempts ∧ item.attemptCount ≤ item.claimGeneration) :
    (claimedItem operation call token item).attemptCount ≤ operation.maxAttempts ∧
      (claimedItem operation call token item).attemptCount ≤
        (claimedItem operation call token item).claimGeneration := by
  show item.attemptCount + (if recoveryExhausted operation item then 0 else 1) ≤ _ ∧
    item.attemptCount + (if recoveryExhausted operation item then 0 else 1) ≤
      item.claimGeneration + 1
  split
  · omega
  · rename_i hleft
    rw [recoveryExhausted, decide_eq_true_eq] at hleft
    omega

theorem boundsInv_attempts_step (hids : OperationIdsInjective sha256Hex admitted)
    (hstore : StoreInv sha256Hex admitted e) (hcall : ∀ a, call = .admitOperation a → a ∈ admitted)
    (hinv : BoundsInv past e) {operation' : WaveSimulationOperation}
    (hitem' : (e.step sha256Hex call).repository.simulationItems.get? key = some item')
    (hop' : (e.step sha256Hex call).repository.simulationOperations.get? key.1 = some operation') :
    item'.attemptCount ≤ operation'.maxAttempts ∧ item'.attemptCount ≤ item'.claimGeneration := by
  have hkeyed := hstore.execution.1.keyed
  -- a record that was there before belongs to an operation that was there before
  have hbudget : ∀ {item}, e.repository.simulationItems.get? key = some item →
      ∃ operation, e.repository.simulationOperations.get? key.1 = some operation ∧
        operation.maxAttempts = operation'.maxAttempts := by
    intro item hitem
    rcases (step_effect sha256Hex hkeyed call).operation_before hop' with
      ⟨operation, hop, hid⟩ | ⟨a, ha, hid, _, hadmitted⟩
    · exact ⟨operation, hop, congrArg (fun x => x.2.2) hid⟩
    · have hnone := hstore.execution.1.operationId_new hids (hcall a ha) hadmitted.newKey
      rw [← hid] at hnone
      rw [hstore.execution.1.record_eq_none hnone] at hitem
      cases hitem
  have hkept : ∀ {item}, e.repository.simulationItems.get? key = some item →
      counters item' = counters item →
      item'.attemptCount ≤ operation'.maxAttempts ∧ item'.attemptCount ≤ item'.claimGeneration := by
    intro item hitem hsame
    obtain ⟨operation, hop, hmax⟩ := hbudget hitem
    simp only [counters, Prod.mk.injEq] at hsame
    rw [hsame.1, hsame.2, ← hmax]
    exact hinv.attempts key item operation hitem hop
  by_cases hclaim : ∃ claimCall, call = .claim claimCall
  · obtain ⟨claimCall, rfl⟩ := hclaim
    rcases claim_record_cases hkeyed hitem' with hold | ⟨operation, item, token, hop, hitem, rfl⟩
    · exact hkept hold rfl
    · obtain ⟨operation₀, hop₀, hmax⟩ := hbudget hitem
      cases hop.symm.trans hop₀
      rw [← hmax]
      exact counters_claimedItem (hinv.attempts key item operation hitem hop)
  · push Not at hclaim
    rcases counters_before hkeyed hclaim hitem' with hzero | ⟨item, hitem, hsame⟩
    · rw [hzero]
      exact ⟨Nat.zero_le _, Nat.zero_le _⟩
    · exact hkept hitem hsame

theorem LeaseSettled.of_expired {past : List SimulationCall} {e' : Execution}
    (h : ∃ s ∈ callTimes past, c.leaseExpiresAt ≤ s) (call : SimulationCall) :
    LeaseSettled (past ++ [call]) e' c := by
  obtain ⟨s, hs, hle⟩ := h
  refine Or.inl ⟨s, ?_, hle⟩
  rw [callTimes_append]
  exact List.mem_append_left _ hs

theorem RecordMove.cancelled_of_settled (h : RecordMove operation item item')
    (hsettled : item.status = .running ∨ item.status = .cancelled) : item'.status = .cancelled := by
  cases h with
  | retried _ hretry =>
    have hfailed := status_of_isRetryable hretry
    rw [hfailed] at hsettled
    rcases hsettled with h | h <;> cases h
  | cancelled _ _ => rfl

theorem lease_le_of_claimable {now : Int} (hclaimable : item.claimable now = true)
    (hstate : (item.status = .running ∧ item.claimGeneration = c.claimGeneration ∧
        item.leaseExpiresAt = some c.leaseExpiresAt) ∨ item.status = .cancelled) :
    c.leaseExpiresAt ≤ now := by
  simp only [WaveSimulationItemRecord.claimable, Bool.or_eq_true, Bool.and_eq_true,
    decide_eq_true_eq, Option.any_eq_true] at hclaimable
  rcases hstate with ⟨hrunning, _, hlease⟩ | hcancelled
  · rcases hclaimable with hpending | ⟨_, lease, hlease', hle⟩
    · rw [hrunning] at hpending
      cases hpending
    · rw [hlease] at hlease'
      cases hlease'
      exact hle
  · rw [hcancelled] at hclaimable
    rcases hclaimable with h | ⟨h, _⟩ <;> cases h

theorem boundsInv_leases_step (hids : OperationIdsInjective sha256Hex admitted)
    (hstore : StoreInv sha256Hex admitted e) (hcall : ∀ a, call = .admitOperation a → a ∈ admitted)
    (hinv : BoundsInv past e) (hc : c ∈ (e.step sha256Hex call).issued) :
    LeaseSettled (past ++ [call]) (e.step sha256Hex call) c := by
  have hkeyed := hstore.execution.1.keyed
  -- a claim whose record is as before, in a run whose log of publications has grown
  have hkept : ∀ {e' : Execution}, LeaseSettled past e c →
      (∀ fence ∈ e.accepted.map WaveSimulationItemClaim.fence,
        fence ∈ e'.accepted.map WaveSimulationItemClaim.fence) →
      (∀ item, e.repository.simulationItems.get? c.itemKey = some item →
        (item.status = .running ∧ item.claimGeneration = c.claimGeneration ∧
            item.leaseExpiresAt = some c.leaseExpiresAt) ∨ item.status = .cancelled →
        LeaseSettled (past ++ [call]) e' c) →
      LeaseSettled (past ++ [call]) e' c := by
    intro e' hsettled haccepted hrecord
    rcases hsettled with hexpired | hpublished | ⟨item, hitem, hstate⟩
    · exact .of_expired hexpired call
    · exact Or.inr (Or.inl (haccepted _ hpublished))
    · exact hrecord item hitem hstate
  by_cases hclaim : ∃ claimCall, call = .claim claimCall
  · obtain ⟨claimCall, rfl⟩ := hclaim
    have heffect := claimSimulationItems_effect hkeyed claimCall
    rcases List.mem_append.mp hc with hold | hnew
    · refine hkept (hinv.leases c hold) (fun _ h => h) ?_
      intro item hitem hstate
      by_cases htaken : ∃ c' ∈ (claimSimulationItems e.repository claimCall).2,
          c'.itemKey = c.itemKey
      · -- the record was claimable, so it ran under a lease that has run out
        obtain ⟨c', hc', hkey⟩ := htaken
        obtain ⟨_, item', hitem', hclaimable, _⟩ := heffect.taken c' hc'
        rw [hkey] at hitem'
        cases hitem.symm.trans hitem'
        exact Or.inl ⟨claimCall.claimedAt, mem_callTimes_of_time rfl,
          lease_le_of_claimable hclaimable hstate⟩
      · push Not at htaken
        refine Or.inr (Or.inr ⟨item, ?_, hstate⟩)
        exact (heffect.others c.itemKey htaken).trans hitem
    · obtain ⟨_, item, _, _, hafter, hgeneration⟩ := heffect.taken c hnew
      refine Or.inr (Or.inr ⟨_, hafter, Or.inl ⟨rfl, hgeneration.symm, ?_⟩⟩)
      rw [leaseExpiresAt_of_mem_claims hnew]
      rfl
  push Not at hclaim
  rw [issued_of_not_claim hclaim] at hc
  rcases step_effect_of_not_claim hkeyed hclaim with
    ⟨hmove, haccepted⟩ | ⟨a, ha, hadmitted, haccepted⟩ | ⟨publication, hpublish, haccepted⟩
  · refine hkept (hinv.leases c hc) (fun _ h => haccepted ▸ h) ?_
    intro item hitem hstate
    rcases hmove.records c.itemKey with hsame | ⟨_, item₀, item', _, hitem₀, hitem', hstep⟩
    · exact Or.inr (Or.inr ⟨item, hsame.trans hitem, hstate⟩)
    · cases hitem.symm.trans hitem₀
      refine Or.inr (Or.inr ⟨item', hitem', Or.inr (hstep.cancelled_of_settled ?_)⟩)
      exact hstate.imp And.left id
  · refine hkept (hinv.leases c hc) (fun _ h => haccepted ▸ h) ?_
    intro item hitem hstate
    refine Or.inr (Or.inr ⟨item, ?_, hstate⟩)
    rw [hadmitted.onlyOperation.records]
    · exact hitem
    · intro heq
      have hnone := hstore.execution.1.operationId_new hids (hcall a ha) hadmitted.newKey
      rw [hstore.execution.1.record_eq_none (heq ▸ hnone)] at hitem
      cases hitem
  · refine hkept (hinv.leases c hc) ?_ ?_
    · intro fence hfence
      rw [haccepted, List.map_append]
      exact List.mem_append_left _ hfence
    · intro item hitem hstate
      obtain ⟨operation, item₀, hitem₀, hrunning, _, hgeneration, hset⟩ := hpublish.published
      by_cases hkey : c.itemKey = publication.claim.itemKey
      · rw [hkey] at hitem
        cases hitem.symm.trans hitem₀
        rcases hstate with ⟨_, hgeneration', _⟩ | hcancelled
        · refine Or.inr (Or.inl ?_)
          rw [haccepted, List.map_append, List.map_singleton]
          refine List.mem_append_right _ (List.mem_singleton.mpr ?_)
          exact Prod.ext hkey (hgeneration'.symm.trans hgeneration)
        · rw [hrunning] at hcancelled
          cases hcancelled
      · refine Or.inr (Or.inr ⟨item, ?_, hstate⟩)
        rw [hset, Dict.get?_set_of_ne _ _ hkey]
        exact hitem

theorem boundsInv_step (hids : OperationIdsInjective sha256Hex admitted)
    (hstore : StoreInv sha256Hex admitted e)
    (hcall : ∀ a, call = .admitOperation a → a ∈ admitted)
    (hclock : ∀ t, call.time? = some t → NotBefore past t) (hinv : BoundsInv past e) :
    BoundsInv (past ++ [call]) (e.step sha256Hex call) := by
  refine ⟨?_, ?_, ?_⟩
  · intro id operation now hget hnow
    exact boundsInv_active_step hids hstore hcall hinv hclock hnow id operation hget
  · intro key item operation hitem hop
    exact boundsInv_attempts_step hids hstore hcall hinv hitem hop
  · intro c hc
    exact boundsInv_leases_step hids hstore hcall hinv hc

end Steps

/-! ## Runs -/

theorem boundsInv_after {calls : List SimulationCall}
    (hids : OperationIdsInjective sha256Hex (admissions calls)) (hclock : ClockMonotone calls) :
    StoreInv sha256Hex (admissions calls) (Execution.after sha256Hex calls) ∧
      BoundsInv calls (Execution.after sha256Hex calls) := by
  have hcond : ∀ past call rest, calls = past ++ call :: rest →
      (∀ a, call = .admitOperation a → a ∈ admissions calls) ∧
        ∀ t, call.time? = some t → NotBefore past t := by
    intro past call rest hsplit
    refine ⟨?_, fun t ht => (hsplit ▸ hclock).notBefore ht⟩
    rintro a rfl
    refine mem_admissions ?_
    rw [hsplit]
    exact List.mem_append_right _ List.mem_cons_self
  refine Runs.run_history
    (fun past e => StoreInv sha256Hex (admissions calls) e ∧ BoundsInv past e)
    (fun past call hinv hcall => ?_) hcond ⟨storeInv_new, boundsInv_new⟩
  exact ⟨storeInv_step hids _ call hinv.1 hcall.1,
    boundsInv_step hids hinv.1 hcall.1 hcall.2 hinv.2⟩

theorem ClockMonotone.of_append (h : ClockMonotone (past ++ rest)) : ClockMonotone past := by
  rw [ClockMonotone, callTimes_append, List.pairwise_append] at h
  exact h.1

theorem OperationIdsInjective.of_append
    (h : OperationIdsInjective sha256Hex (admissions (past ++ rest))) :
    OperationIdsInjective sha256Hex (admissions past) := by
  intro a ha b hb
  have hsub : ∀ a ∈ admissions past, a ∈ admissions (past ++ rest) := by
    intro a ha
    rw [admissions, List.filterMap_append]
    exact List.mem_append_left _ ha
  exact h a (hsub a ha) b (hsub b hb)

/-- Concurrency, attempts, leases and order of claims, over every interleaving of the
repository's calls under a clock that does not go back.  After every claim, and at every later
instant before the next one, the running records whose lease is in the future are at most
`max_concurrency`; an item is handed out again only at or after the expiry of each earlier lease
under which no publication was accepted; the attempts of a record are at most `max_attempts` and
at most its generation; and a claim call takes the first claimable records by ordinal. -/
theorem simulation_claims_bounded (sha256Hex : String → String) (calls : List SimulationCall)
    (hids : OperationIdsInjective sha256Hex (admissions calls)) (hclock : ClockMonotone calls) :
    (∀ past call rest, calls = past ++ .claim call :: rest → ∀ id operation now,
      (Execution.after sha256Hex (past ++ [.claim call])).repository.simulationOperations.get? id =
        some operation →
      call.claimedAt ≤ now →
      activeLeases (Execution.after sha256Hex (past ++ [.claim call])).repository id operation
        now ≤ operation.maxConcurrency) ∧
    (∀ past call rest, calls = past ++ .claim call :: rest →
      ∀ c ∈ (claimSimulationItems (Execution.after sha256Hex past).repository call).2,
      ∀ earlier ∈ (Execution.after sha256Hex past).issued, earlier.itemKey = c.itemKey →
      earlier.leaseExpiresAt ≤ call.claimedAt ∨
        earlier.fence ∈
          (Execution.after sha256Hex past).accepted.map WaveSimulationItemClaim.fence) ∧
    (∀ key item operation,
      (Execution.after sha256Hex calls).repository.simulationItems.get? key = some item →
      (Execution.after sha256Hex calls).repository.simulationOperations.get? key.1 =
        some operation →
      item.attemptCount ≤ operation.maxAttempts ∧ item.attemptCount ≤ item.claimGeneration) ∧
    (∀ past call rest, calls = past ++ .claim call :: rest →
      (claimSimulationItems (Execution.after sha256Hex past).repository call).2 = [] ∨
      ∃ operation, ∃ taken waiting : List WaveSimulationItemRecord,
        (Execution.after sha256Hex past).repository.simulationOperations.get? call.operationId =
          some operation ∧
        (taken ++ waiting).Perm
          ((operationItems (Execution.after sha256Hex past).repository call.operationId
            operation).filter (fun item => item.claimable call.claimedAt)) ∧
        (taken ++ waiting).Pairwise (fun a b => a.ordinal ≤ b.ordinal) ∧
        (claimSimulationItems (Execution.after sha256Hex past).repository call).2.map
            WaveSimulationItemClaim.waveItemId =
          taken.map WaveSimulationItemRecord.waveItemId) := by
  refine ⟨?_, ?_, (boundsInv_after hids hclock).2.attempts, ?_⟩
  · rintro past call rest hsplit id operation now hget hnow
    have hcalls : calls = (past ++ [.claim call]) ++ rest := by
      rw [hsplit, List.append_assoc, List.singleton_append]
    rw [hcalls] at hids hclock
    refine (boundsInv_after hids.of_append hclock.of_append).2.active id operation now hget ?_
    have hpast : NotBefore past call.claimedAt := hclock.of_append.notBefore rfl
    intro s hs
    rw [callTimes_append, List.mem_append] at hs
    rcases hs with hs | hs
    · exact (hpast s hs).trans hnow
    · have hs' : s = call.claimedAt := by simpa [callTimes, SimulationCall.time?] using hs
      rw [hs']
      exact hnow
  · rintro past call rest rfl c hc earlier hearlier hkey
    have hinv := boundsInv_after hids.of_append hclock.of_append
    have hpast : NotBefore past call.claimedAt := hclock.notBefore rfl
    rcases hinv.2.leases earlier hearlier with ⟨s, hs, hle⟩ | hpublished | ⟨item, hitem, hstate⟩
    · exact Or.inl (hle.trans (hpast s hs))
    · exact Or.inr hpublished
    · -- the record was claimable, so it ran under a lease that has run out
      obtain ⟨_, item', hitem', hclaimable, _⟩ :=
        (claimSimulationItems_effect hinv.1.execution.1.keyed call).taken c hc
      rw [← hkey] at hitem'
      cases hitem.symm.trans hitem'
      exact Or.inl (lease_le_of_claimable hclaimable hstate)
  · rintro past call rest rfl
    exact claims_in_ordinal_order _ call

/-! ### A failed attempt gives its item back early -/

/-- The first worker fails at once and the item is retried; the second worker claims it while the
lease of the first would still run. -/
def retriedEarlyCalls : List SimulationCall :=
  [.saveWave sampleWave none none "tenant-sg",
   .admitOperation sampleAdmission,
   .claim (sampleClaimCall "worker-1" "u1" 1),
   .publish (.failure (samplePublication (sampleClaimCall "worker-1" "u1" 1) 1 2).claim
     "DPM_WAVE_SIMULATION_TIMEOUT" "The construction timed out." true 2),
   .retry "tenant-sg" "wso_14f63568252b7e25882bbdf2b1316d0f" none 3,
   .claim (sampleClaimCall "worker-2" "u2" 4)]

theorem clockMonotone_retriedEarly : ClockMonotone retriedEarlyCalls := by
  show (callTimes retriedEarlyCalls).Pairwise (· ≤ ·)
  decide +kernel

/-- The nominal leases of one item, from the claim to the expiry, never overlap. -/
def LeasesNeverOverlap (sha256Hex : String → String) (calls : List SimulationCall) : Prop :=
  ∀ past call rest, calls = past ++ .claim call :: rest →
    ∀ c ∈ (claimSimulationItems (Execution.after sha256Hex past).repository call).2,
    ∀ earlier ∈ (Execution.after sha256Hex past).issued, earlier.itemKey = c.itemKey →
    earlier.leaseExpiresAt ≤ call.claimedAt

theorem nominal_leases_overlap_after_retry :
    OperationIdsInjective sampleSha256Hex (admissions retriedEarlyCalls) ∧
      ClockMonotone retriedEarlyCalls ∧ ¬ LeasesNeverOverlap sampleSha256Hex retriedEarlyCalls := by
  refine ⟨(.of_singleton sampleSha256Hex sampleAdmission), clockMonotone_retriedEarly, ?_⟩
  intro hnever
  have hsplit : retriedEarlyCalls =
      retriedEarlyCalls.take 5 ++ .claim (sampleClaimCall "worker-2" "u2" 4) :: [] := rfl
  have hoverlap : ∃ c ∈ (claimSimulationItems (Execution.after sampleSha256Hex
      (retriedEarlyCalls.take 5)).repository (sampleClaimCall "worker-2" "u2" 4)).2,
      ∃ earlier ∈ (Execution.after sampleSha256Hex (retriedEarlyCalls.take 5)).issued,
        earlier.itemKey = c.itemKey ∧ 4 < earlier.leaseExpiresAt := by
    decide +kernel
  obtain ⟨c, hc, earlier, hearlier, hkey, hlt⟩ := hoverlap
  have hle := hnever _ _ _ hsplit c hc earlier hearlier hkey
  exact absurd hle (not_le_of_gt hlt)

/-- The second claim keeps to the four leases that the operation allows. -/
theorem simulation_claims_bounded_retried :
    let s := Execution.after sampleSha256Hex retriedEarlyCalls
    let operation :=
      (s.repository.simulationOperations.get? "wso_14f63568252b7e25882bbdf2b1316d0f").get
        (by decide +kernel)
    operation.maxConcurrency = 4 ∧
      activeLeases s.repository "wso_14f63568252b7e25882bbdf2b1316d0f" operation 4 ≤
        operation.maxConcurrency := by
  intro s operation
  have hget : s.repository.simulationOperations.get? "wso_14f63568252b7e25882bbdf2b1316d0f" =
      some operation := (Option.some_get _).symm
  have hsplit : retriedEarlyCalls =
      retriedEarlyCalls.take 5 ++ .claim (sampleClaimCall "worker-2" "u2" 4) :: [] := rfl
  obtain ⟨hactive, _⟩ := simulation_claims_bounded sampleSha256Hex retriedEarlyCalls
    (.of_singleton sampleSha256Hex sampleAdmission) clockMonotone_retriedEarly
  exact ⟨by decide +kernel,
    hactive _ _ _ hsplit "wso_14f63568252b7e25882bbdf2b1316d0f" operation 4 hget le_rfl⟩

end LotusManage.Waves
