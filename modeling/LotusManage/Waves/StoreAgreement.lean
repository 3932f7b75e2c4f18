import LotusManage.Waves.PostgresStore
import LotusManage.Waves.StoreSound

/-!
# The two wave simulation stores

The in-memory repository and the PostgreSQL store serve one port.  Both are run on the same calls, each
call one transaction, from states that correspond: the tables hold the waves, the operations and the
records of the repository, which is well formed (`StoreSound`).

The predicates of the two differ in form only: a loop over a dictionary is a `WHERE` clause, the claim
order is decided by the distinct ordinals, and the status refresh counts records or rows.  What differs
is the order of the checks of an admission, and how a cancel reason is tested:

* the repository looks up a key before the wave and a correlation id before everything else, the tables
  look up the wave first and the correlation id last;
* the repository overwrites an operation whose id is taken, the tables refuse it;
* the repository takes an empty cancel reason for none, the tables do not.

`AgreesAt` leaves these states out, and `stores_agree` is the simulation for the others.
-/

namespace LotusManage.Waves

/-! ## Corresponding states -/

/-- The tables hold what the repository holds. -/
structure SameRows (repo : WaveRepository) (store : PostgresStore) : Prop where
  waves : ∀ id, store.waves.get? id = (repo.waves.get? id).map waveRow
  operations : ∀ id, store.operations.get? id = repo.simulationOperations.get? id
  items : ∀ key, store.items.get? key = repo.simulationItems.get? key

/-- Corresponding states: a well-formed repository, and tables that hold the same. -/
structure Corresponds (repo : WaveRepository) (store : PostgresStore) : Prop where
  rows : SameRows repo store
  sound : StoreSound repo

/-- The tables of a repository. -/
def tablesOf (repo : WaveRepository) : PostgresStore :=
  { waves := repo.waves.mapWithKeyTo (fun _ wave => waveRow wave)
    operations := repo.simulationOperations
    items := repo.simulationItems }

variable {repo : WaveRepository} {store : PostgresStore}

theorem sameRows_tablesOf (repo : WaveRepository) : SameRows repo (tablesOf repo) :=
  ⟨fun id => Dict.get?_mapWithKeyTo repo.waves _ id, fun _ => rfl, fun _ => rfl⟩

/-! ## The records of an operation -/

section Records

variable {items table : Dict (String × String) WaveSimulationItemRecord}

/-- Every record names the operation it is stored under. -/
def RecordsNamed (items : Dict (String × String) WaveSimulationItemRecord) : Prop :=
  ∀ key item, items.get? key = some item → item.operationId = key.1

theorem selectWhere_ofOperation (hsame : ∀ key, table.get? key = items.get? key)
    (hnamed : RecordsNamed items) (tenantId id : String)
    (condition : WaveSimulationItemRecord → Bool) :
    (table.selectWhere (fun item =>
      PostgresStore.ofOperation tenantId id item && condition item)).Perm
      ((simulationItemsForOperation items id tenantId).filter condition) := by
  have hperm : (table.selectWhere (fun item =>
      PostgresStore.ofOperation tenantId id item && condition item)).Perm
      (items.selectWhere (fun item =>
        PostgresStore.ofOperation tenantId id item && condition item)) := by
    refine Dict.selectWhere_perm fun key row => ?_
    rw [hsame key]
  refine hperm.trans (List.Perm.of_eq ?_)
  rw [Dict.selectWhere, Dict.values, simulationItemsForOperation, List.filter_map,
    List.filter_map, List.filter_filter]
  refine congrArg (List.map Prod.snd) (List.filter_congr fun e he => ?_)
  have hname := hnamed e.1 e.2 ((items.get?_eq_some_iff e.1 e.2).mpr he)
  simp only [Function.comp, PostgresStore.ofOperation, hname, Bool.decide_and]
  cases condition e.2 <;> simp [Bool.and_comm]

theorem countWhere_ofOperation (hsame : ∀ key, table.get? key = items.get? key)
    (hnamed : RecordsNamed items) (tenantId id : String)
    (condition : WaveSimulationItemRecord → Bool) :
    table.countWhere (fun item =>
      PostgresStore.ofOperation tenantId id item && condition item) =
      (simulationItemsForOperation items id tenantId).countP condition := by
  rw [Dict.countWhere_eq_length,
    (selectWhere_ofOperation hsame hnamed tenantId id condition).length_eq,
    List.countP_eq_length_filter]

theorem countStatus_eq_countP (rows : List WaveSimulationItemRecord)
    (status : SimulationItemStatus) :
    countStatus rows status = rows.countP (fun item => decide (item.status = status)) := by
  rw [countStatus, List.count_eq_countP, List.countP_map]
  refine List.countP_congr fun item _ => ?_
  simp [Function.comp]

end Records

theorem derive_itemCounts (hitems : ∀ key, store.items.get? key = repo.simulationItems.get? key)
    (hnamed : RecordsNamed repo.simulationItems) (operation : WaveSimulationOperation) :
    deriveWaveSimulationOperationStatusFromCounts operation (store.itemCounts operation) =
      deriveWaveSimulationOperationStatus operation
        (operationItems repo operation.operationId operation) := by
  have hcount := countWhere_ofOperation hitems hnamed operation.tenantId operation.operationId
  rw [deriveWaveSimulationOperationStatus]
  refine congrArg _ ?_
  simp only [PostgresStore.itemCounts, hcount, countStatus_eq_countP, operationItems,
    List.countP_true]
  rfl

/-! ## Operations -/

section Operations

variable {repo : WaveRepository} {store : PostgresStore}

theorem Corresponds.named (h : Corresponds repo store) : RecordsNamed repo.simulationItems := by
  intro key item hget
  obtain ⟨_, _, hrecord⟩ := h.sound.records key item hget
  exact hrecord.operationId

theorem selectOperation_eq (h : Corresponds repo store) (tenantId operationId : String) :
    store.selectOperation tenantId operationId =
      (repo.simulationOperations.get? operationId).filter
        (fun operation => decide (operation.tenantId = tenantId)) := by
  rw [PostgresStore.selectOperation, Dict.selectWhere_eq_toList operationId]
  · rw [h.rows.operations, Option.head?_toList]
    cases hget : repo.simulationOperations.get? operationId with
    | none => rfl
    | some operation =>
      rw [Option.filter_some, Option.filter_some, h.sound.operations operationId operation hget]
      simp
  · intro id operation hget hcondition
    rw [h.rows.operations] at hget
    simp only [Bool.and_eq_true, decide_eq_true_eq] at hcondition
    exact (h.sound.operations id operation hget).symm.trans hcondition.2

theorem selectWhere_indexed (h : Corresponds repo store) {index : Dict (String × String) String}
    {keyOf : WaveSimulationOperation → String × String}
    (hindex : Indexes index keyOf repo.simulationOperations)
    {condition : WaveSimulationOperation → Bool} {key : String × String}
    (hcondition : ∀ operation, condition operation = true ↔ keyOf operation = key) :
    (store.operations.selectWhere condition).head? =
      (index.get? key).bind (fun id => repo.simulationOperations.get? id) := by
  cases hget : index.get? key with
  | none =>
    rw [Option.bind_none, List.head?_eq_none_iff, List.eq_nil_iff_forall_not_mem]
    intro operation hmem
    obtain ⟨⟨id, hstored⟩, hkey⟩ := Dict.mem_selectWhere.mp hmem
    rw [h.rows.operations] at hstored
    have hfound := (hindex key id).mpr ⟨operation, hstored, (hcondition operation).mp hkey⟩
    rw [hget] at hfound
    cases hfound
  | some id =>
    obtain ⟨operation, hstored, hkey⟩ := (hindex key id).mp hget
    rw [Option.bind_some, Dict.selectWhere_eq_toList id, Option.head?_toList,
      h.rows.operations, hstored, Option.filter_some, if_pos ((hcondition operation).mpr hkey)]
    intro id' operation' hget' hcondition'
    rw [h.rows.operations] at hget'
    have hfound := (hindex key id').mpr ⟨operation', hget', (hcondition operation').mp hcondition'⟩
    rw [hget] at hfound
    exact (Option.some.inj hfound).symm

theorem selectOperationByIdempotency_eq (h : Corresponds repo store)
    (tenantId idempotencyKeyHash : String) :
    store.selectOperationByIdempotency tenantId idempotencyKeyHash =
      (repo.simulationOperationIdempotency.get? (tenantId, idempotencyKeyHash)).bind
        (fun id => repo.simulationOperations.get? id) := by
  refine selectWhere_indexed h h.sound.idempotency ?_
  intro operation
  simp [idempotencyKeyOf]

theorem selectOperationByCorrelation_eq (h : Corresponds repo store)
    (tenantId correlationId : String) :
    store.selectOperationByCorrelation tenantId correlationId =
      (repo.simulationOperationCorrelations.get? (tenantId, correlationId)).bind
        (fun id => repo.simulationOperations.get? id) := by
  refine selectWhere_indexed h h.sound.correlations ?_
  intro operation
  simp [correlationKeyOf]

/-- The refresh of an operation in both stores, after both have written the same records.  The
rows of the operation may still differ in their time, which the refresh sets. -/
theorem sameRows_refresh (stored : WaveRepository) (written : PostgresStore) {id : String}
    {operation : WaveSimulationOperation} (updatedAt : Int)
    (hwaves : ∀ x, written.waves.get? x = (stored.waves.get? x).map waveRow)
    (hitems : ∀ key, written.items.get? key = stored.simulationItems.get? key)
    (hnamed : RecordsNamed stored.simulationItems)
    (hothers : ∀ x, x ≠ id → written.operations.get? x = stored.simulationOperations.get? x)
    (hkeyed : ∀ x other, stored.simulationOperations.get? x = some other → other.operationId = x)
    (hget : stored.simulationOperations.get? id = some operation) (rowTime : Int)
    (hrow : written.operations.get? id = some { operation with updatedAt := rowTime }) :
    SameRows (refreshSimulationOperationStatus stored id updatedAt)
        (written.refreshOperationStatus operation updatedAt).1 ∧
      (written.refreshOperationStatus operation updatedAt).2 =
        refreshedOperation stored id updatedAt operation := by
  have hid := hkeyed id operation hget
  have hstatus := derive_itemCounts hitems hnamed operation
  rw [hid] at hstatus
  refine ⟨⟨?_, ?_, ?_⟩, ?_⟩
  · intro x
    rw [show (refreshSimulationOperationStatus stored id updatedAt).waves = stored.waves from
      congrArg Prod.fst (created_refresh stored id updatedAt)]
    exact hwaves x
  · intro x
    rw [get?_operations_refresh hget]
    show (written.operations.updateWhere _ _).get? x = _
    rw [Dict.get?_updateWhere, hstatus]
    by_cases hx : x = id
    · subst hx
      rw [hrow, if_pos rfl, Option.map_some]
      simp only [decide_true, Bool.and_self, if_true]
      rfl
    · rw [if_neg hx, hothers x hx]
      cases hother : stored.simulationOperations.get? x with
      | none => rfl
      | some other =>
        have hne : other.operationId ≠ operation.operationId := by
          rw [hkeyed x other hother, hid]
          exact hx
        rw [Option.map_some, decide_eq_false hne, Bool.and_false]
        rfl
  · intro key
    rw [simulationItems_refresh]
    exact hitems key
  · show { operation with status := _, updatedAt := updatedAt } = _
    rw [hstatus]
    rfl

end Operations

/-! ## Loops and updates -/

section Updates

variable {items table : Dict (String × String) WaveSimulationItemRecord}

theorem get?_storeItems_map (hkeyed : RecordsKeyed items) (id tenantId : String)
    (select : WaveSimulationItemRecord → Bool)
    (update : WaveSimulationItemRecord → WaveSimulationItemRecord)
    (hid : ∀ item, (update item).waveItemId = item.waveItemId) (key : String × String) :
    (storeItems id (((simulationItemsForOperation items id tenantId).filter select).map update)
      items).get? key =
      (items.get? key).map (fun item =>
        if key.1 = id ∧ item.tenantId = tenantId ∧ select item = true then update item
        else item) := by
  set rows := ((simulationItemsForOperation items id tenantId).filter select).map update with hrows
  have hwritten : ∀ row ∈ rows, ∃ item, row = update item ∧ select item = true ∧
      item.tenantId = tenantId ∧ items.get? (id, item.waveItemId) = some item := by
    intro row hrow
    obtain ⟨item, hitem, rfl⟩ := List.mem_map.mp hrow
    rw [List.mem_filter] at hitem
    obtain ⟨e, he, rfl⟩ := List.mem_map.mp hitem.1
    rw [List.mem_filter, decide_eq_true_eq] at he
    exact ⟨e.2, rfl, hitem.2, he.2.2, get?_of_mem_simulationItemsForOperation hkeyed hitem.1⟩
  cases hget : items.get? key with
  | none =>
    rw [get?_storeItems_of_forall_ne, hget, Option.map_none]
    intro row hrow heq
    obtain ⟨item, rfl, _, _, hitem⟩ := hwritten row hrow
    rw [hid] at heq
    rw [heq, hget] at hitem
    cases hitem
  | some item =>
    rw [Option.map_some]
    split
    · rename_i hselected
      have hkey : key = (id, item.waveItemId) :=
        Prod.ext hselected.1 (hkeyed key item hget).symm
      have hmem : item ∈ simulationItemsForOperation items id tenantId := by
        refine List.mem_map.mpr ⟨(key, item), ?_, rfl⟩
        rw [List.mem_filter, decide_eq_true_eq]
        exact ⟨(items.get?_eq_some_iff key item).mp hget, hselected.1, hselected.2.1⟩
      have hnodup : (rows.map WaveSimulationItemRecord.waveItemId).Nodup := by
        have hids : rows.map WaveSimulationItemRecord.waveItemId =
            ((simulationItemsForOperation items id tenantId).filter select).map
              WaveSimulationItemRecord.waveItemId := by
          rw [hrows, List.map_map]
          exact List.map_congr_left fun item _ => hid item
        rw [hids]
        exact (nodup_simulationItemsForOperation hkeyed id tenantId).sublist
          (List.filter_sublist.map _)
      have hrow : update item ∈ rows :=
        List.mem_map.mpr ⟨item, List.mem_filter.mpr ⟨hmem, hselected.2.2⟩, rfl⟩
      have hread : (storeItems id rows items).get? (id, (update item).waveItemId) =
          some (update item) := get?_storeItems_of_mem hnodup items hrow
      rw [hid, ← hkey] at hread
      exact hread
    · rename_i hkept
      rw [get?_storeItems_of_forall_ne, hget]
      intro row hrow heq
      obtain ⟨item', rfl, hselect, htenant, hitem'⟩ := hwritten row hrow
      rw [hid] at heq
      rw [heq, hget] at hitem'
      cases hitem'
      exact hkept ⟨congrArg Prod.fst heq.symm, htenant, hselect⟩

theorem get?_updateWhere_ofOperation (hsame : ∀ key, table.get? key = items.get? key)
    (hkeyed : RecordsKeyed items) (hnamed : RecordsNamed items) (id tenantId : String)
    {condition select : WaveSimulationItemRecord → Bool}
    {update : WaveSimulationItemRecord → WaveSimulationItemRecord}
    (hcondition : ∀ item,
      condition item = (PostgresStore.ofOperation tenantId id item && select item))
    (hid : ∀ item, (update item).waveItemId = item.waveItemId) (key : String × String) :
    (table.updateWhere condition update).get? key =
      (storeItems id (((simulationItemsForOperation items id tenantId).filter select).map update)
        items).get? key := by
  rw [Dict.get?_updateWhere, get?_storeItems_map hkeyed id tenantId select update hid, hsame]
  cases hget : items.get? key with
  | none => rfl
  | some item =>
    have hname := hnamed key item hget
    simp only [Option.map_some, hcondition, PostgresStore.ofOperation, hname, Bool.and_eq_true,
      decide_eq_true_eq]
    refine congrArg some (if_congr ?_ rfl rfl)
    tauto

theorem recordsNamed_storeItems (hnamed : RecordsNamed items) (id : String)
    {rows : List WaveSimulationItemRecord} (hrows : ∀ row ∈ rows, row.operationId = id) :
    RecordsNamed (storeItems id rows items) := by
  intro key item hget
  rcases get?_storeItems_cases id rows items key with hsame | ⟨row, hrow, hkey, hread⟩
  · exact hnamed key item (hsame.symm.trans hget)
  · rw [hread] at hget
    cases hget
    rw [hkey]
    exact hrows _ hrow

end Updates

/-! ## Retries and cancellations -/

section Calls

variable {repo : WaveRepository} {store : PostgresStore}

variable {operation : WaveSimulationOperation} {operationId : String}
  {claim : WaveSimulationItemClaim} {item : WaveSimulationItemRecord}
  {items : List WaveSimulationItemRecord} {wave simulatingWave : RebalanceWave}
  {repo' : WaveRepository}

theorem recordsNamed_updated (h : Corresponds repo store) (id tenantId : String)
    (select : WaveSimulationItemRecord → Bool)
    (update : WaveSimulationItemRecord → WaveSimulationItemRecord)
    (hupdate : ∀ item, (update item).operationId = item.operationId) :
    RecordsNamed (storeItems id
      (((simulationItemsForOperation repo.simulationItems id tenantId).filter select).map update)
      repo.simulationItems) := by
  refine recordsNamed_storeItems h.named id ?_
  intro row hrow
  obtain ⟨item, hitem, rfl⟩ := List.mem_map.mp hrow
  have hstored := get?_of_mem_simulationItemsForOperation h.sound.keyed
    (List.mem_of_mem_filter hitem)
  exact (hupdate item).trans (h.named _ item hstored)

theorem sameRows_records (h : Corresponds repo store) {id : String}
    (hget : repo.simulationOperations.get? id = some operation)
    {items table : Dict (String × String) WaveSimulationItemRecord}
    (hitems : ∀ key, table.get? key = items.get? key) (hnamed : RecordsNamed items)
    (updatedAt : Int) :
    SameRows
      (refreshSimulationOperationStatus { repo with simulationItems := items } id updatedAt)
      (({ store with items := table } : PostgresStore).refreshOperationStatus operation
        updatedAt).1 := by
  have hrow : store.operations.get? id =
      some { operation with updatedAt := operation.updatedAt } := by
    rw [h.rows.operations]
    exact hget
  exact (sameRows_refresh { repo with simulationItems := items } { store with items := table }
    updatedAt h.rows.waves hitems hnamed (fun x _ => h.rows.operations x) h.sound.operations hget
    operation.updatedAt hrow).1

theorem retriesRow_eq (operation : WaveSimulationOperation) (tenantId operationId : String)
    (waveItemIds : Option (List String)) (item : WaveSimulationItemRecord) :
    PostgresStore.retriesRow operation tenantId operationId waveItemIds item =
      (PostgresStore.ofOperation tenantId operationId item &&
        retries operation waveItemIds item) := by
  rw [Bool.eq_iff_iff]
  simp only [PostgresStore.retriesRow, retries, Bool.and_eq_true, decide_eq_true_eq,
    Bool.not_eq_true', decide_eq_false_iff_not, not_le]
  tauto

theorem retry_agrees (h : Corresponds repo store) {tenantId : String}
    (waveItemIds : Option (List String)) (retriedAt : Int)
    (hreason : ∀ operation, repo.simulationOperations.get? operationId = some operation →
      operation.tenantId = tenantId → operation.cancelReasonCode ≠ some "") :
    SameRows (retrySimulationItems repo tenantId operationId waveItemIds retriedAt).1
        (store.retrySimulationItems tenantId operationId waveItemIds retriedAt).1 ∧
      (retrySimulationItems repo tenantId operationId waveItemIds retriedAt).2 =
        (store.retrySimulationItems tenantId operationId waveItemIds retriedAt).2 := by
  unfold retrySimulationItems PostgresStore.retrySimulationItems
  rw [selectOperation_eq h]
  cases hget : repo.simulationOperations.get? operationId with
  | none => exact ⟨h.rows, rfl⟩
  | some operation =>
    by_cases htenant : operation.tenantId = tenantId
    · rw [Option.filter_some, if_pos (decide_eq_true htenant)]
      cases hcancel : operation.cancelReasonCode with
      | some reason =>
        have hne : reason ≠ "" := by
          rintro rfl
          exact hreason operation hget htenant hcancel
        simp only [hcancel, Option.isSome_some, if_true, Option.any_some, hne, ne_eq,
          not_false_eq_true, decide_true, or_true]
        exact ⟨h.rows, trivial⟩
      | none =>
        simp only [hcancel, Option.isSome_none, Option.any_none, Bool.false_eq_true, if_false,
          htenant, ne_eq, not_true_eq_false, or_self]
        have hcondition := retriesRow_eq operation tenantId operationId waveItemIds
        refine ⟨sameRows_records h hget ?_ ?_ retriedAt, ?_⟩
        · exact get?_updateWhere_ofOperation h.rows.items h.sound.keyed h.named operationId
            tenantId hcondition (fun _ => rfl)
        · exact recordsNamed_updated h operationId tenantId _ _ (fun _ => rfl)
        · rw [funext hcondition, countWhere_ofOperation h.rows.items h.named,
            List.countP_eq_length_filter]
    · rw [Option.filter_some, if_neg (by simpa using htenant)]
      simp only [htenant, ne_eq, not_false_eq_true, true_or, if_true]
      exact ⟨h.rows, trivial⟩

theorem cancelRows_agrees (h : Corresponds repo store)
    (hget : repo.simulationOperations.get? operationId = some operation) (reasonCode : String)
    (cancelledAt rowTime : Int) {operations : Dict String WaveSimulationOperation}
    (hoperations : ∀ x, operations.get? x =
      if x = operationId then
        some { cancelMarked operation reasonCode cancelledAt with updatedAt := rowTime }
      else store.operations.get? x) :
    SameRows (cancelledRepository repo operationId operation reasonCode cancelledAt)
        (PostgresStore.cancelRows { store with operations := operations } operation
          operation.tenantId operationId reasonCode cancelledAt).1 ∧
      (cancelledRepository repo operationId operation reasonCode
          cancelledAt).simulationOperations.get? operationId =
        (PostgresStore.cancelRows { store with operations := operations } operation
          operation.tenantId operationId reasonCode cancelledAt).2 := by
  have hrefresh : SameRows (cancelledRepository repo operationId operation reasonCode cancelledAt) _ ∧
      _ := sameRows_refresh _
    { store with
      operations := operations
      items := store.items.updateWhere
        (PostgresStore.cancelsRow operation operation.tenantId operationId cancelledAt)
        (PostgresStore.cancelRow cancelledAt) }
    cancelledAt h.rows.waves ?_ ?_ ?_ ?_ (Dict.get?_set_self _ operationId _) rowTime ?_
  · refine ⟨hrefresh.1, ?_⟩
    rw [cancelledRepository, get?_operations_refresh (Dict.get?_set_self _ _ _), if_pos rfl]
    exact congrArg some hrefresh.2.symm
  · exact get?_updateWhere_ofOperation h.rows.items h.sound.keyed h.named operationId
      operation.tenantId (fun _ => rfl) (fun _ => rfl)
  · exact recordsNamed_updated h operationId operation.tenantId _ _ (fun _ => rfl)
  · intro x hne
    show operations.get? x = (repo.simulationOperations.set operationId _).get? x
    rw [hoperations, if_neg hne, Dict.get?_set_of_ne _ _ hne]
    exact h.rows.operations x
  · intro x other hother
    replace hother : (repo.simulationOperations.set operationId
      (cancelMarked operation reasonCode cancelledAt)).get? x = some other := hother
    rw [Dict.get?_set] at hother
    split at hother
    · rename_i heq
      cases hother
      rw [heq]
      exact h.sound.operations operationId operation hget
    · exact h.sound.operations x other hother
  · show operations.get? operationId = _
    rw [hoperations, if_pos rfl]

theorem outstanding_of_cancelRequested (h : StatusInv repo) {id : String}
    (hget : repo.simulationOperations.get? id = some operation)
    (hcancel : operation.cancelReasonCode.isSome = true)
    (hopen : operation.status.closedToCancel = false) :
    (operationItems repo id operation).any (outstanding operation) = true := by
  rcases (h id operation hget).status with hstatus | ⟨_, hnone, _⟩
  · rw [derive_of_cancelled hcancel] at hstatus
    by_cases hrunning : countStatus (operationItems repo id operation) .running = 0
    · rw [if_neg (not_not.mpr hrunning)] at hstatus
      rw [hstatus] at hopen
      cases hopen
    · rw [countStatus_eq_zero_iff] at hrunning
      push Not at hrunning
      obtain ⟨item, hitem, hrun⟩ := hrunning
      rw [List.any_eq_true]
      exact ⟨item, hitem, by simp [outstanding, hrun]⟩
  · rw [hnone] at hcancel
    cases hcancel

theorem cancelSimulationOperation_eq
    (hget : repo.simulationOperations.get? operationId = some operation) (reasonCode : String)
    (cancelledAt : Int) :
    cancelSimulationOperation repo operation.tenantId operationId reasonCode cancelledAt =
      if operation.status.closedToCancel = true then (repo, some operation)
      else if (operationItems repo operationId operation).any (outstanding operation) = true then
        (cancelledRepository repo operationId operation reasonCode cancelledAt,
          (cancelledRepository repo operationId operation reasonCode
            cancelledAt).simulationOperations.get? operationId)
      else (repo, some operation) := by
  unfold cancelSimulationOperation
  rw [hget]
  dsimp only
  rw [if_neg (not_not.mpr rfl)]
  split
  · rfl
  · rw [ite_not]
    rfl

theorem countWhere_cancellable (h : Corresponds repo store) (operationId : String)
    (operation : WaveSimulationOperation) :
    store.items.countWhere
        (PostgresStore.cancellable operation operation.tenantId operationId) = 0 ↔
      (operationItems repo operationId operation).any (outstanding operation) = false := by
  have hcount : store.items.countWhere
      (PostgresStore.cancellable operation operation.tenantId operationId) =
      (operationItems repo operationId operation).countP (outstanding operation) :=
    countWhere_ofOperation h.rows.items h.named operation.tenantId operationId
      (outstanding operation)
  rw [hcount, List.countP_eq_zero, List.any_eq_false]

theorem cancel_agrees (h : Corresponds repo store) {tenantId : String} (reasonCode : String)
    (cancelledAt : Int)
    (hreason : ∀ operation, repo.simulationOperations.get? operationId = some operation →
      operation.tenantId = tenantId → operation.status.closedToCancel = false →
      operation.cancelReasonCode ≠ some "") :
    SameRows (cancelSimulationOperation repo tenantId operationId reasonCode cancelledAt).1
        (store.cancelSimulationOperation tenantId operationId reasonCode cancelledAt).1 ∧
      (cancelSimulationOperation repo tenantId operationId reasonCode cancelledAt).2 =
        (store.cancelSimulationOperation tenantId operationId reasonCode cancelledAt).2 := by
  unfold PostgresStore.cancelSimulationOperation
  rw [selectOperation_eq h]
  cases hget : repo.simulationOperations.get? operationId with
  | none =>
    rw [cancelSimulationOperation, hget]
    exact ⟨h.rows, rfl⟩
  | some operation =>
    by_cases htenant : operation.tenantId = tenantId
    · subst htenant
      rw [cancelSimulationOperation_eq hget, Option.filter_some, if_pos (decide_eq_true rfl)]
      dsimp only
      by_cases hclosed : operation.status.closedToCancel = true
      · rw [if_pos hclosed, if_pos hclosed]
        exact ⟨h.rows, rfl⟩
      rw [if_neg hclosed, if_neg hclosed]
      rw [Bool.not_eq_true] at hclosed
      cases hcancel : operation.cancelReasonCode with
      | none =>
        rw [Option.isNone_none, if_pos rfl]
        by_cases hsome : (operationItems repo operationId operation).any
            (outstanding operation) = true
        · have hcount := mt (countWhere_cancellable h operationId operation).mp
            (ne_false_of_eq_true hsome)
          rw [if_pos hsome, if_neg hcount]
          refine cancelRows_agrees h hget reasonCode cancelledAt cancelledAt ?_
          intro x
          rw [Dict.get?_updateWhere, h.rows.operations]
          split
          · rename_i heq
            rw [heq, hget, Option.map_some]
            simp [cancelMarked, cancelReason, hcancel,
              h.sound.operations operationId operation hget]
          · rename_i hne
            cases hother : repo.simulationOperations.get? x with
            | none => rfl
            | some other =>
              have hid : other.operationId ≠ operationId := by
                rw [h.sound.operations x other hother]
                exact hne
              rw [Option.map_some, decide_eq_false hid, Bool.and_false]
              rfl
        · rw [if_neg hsome]
          rw [Bool.not_eq_true] at hsome
          rw [if_pos ((countWhere_cancellable h operationId operation).mpr hsome)]
          exact ⟨h.rows, rfl⟩
      | some reason =>
        have hne : reason ≠ "" := by
          rintro rfl
          exact hreason operation hget rfl hclosed hcancel
        have hsome : operation.cancelReasonCode.isSome = true := by rw [hcancel]; rfl
        rw [if_pos (outstanding_of_cancelRequested h.sound.status hget hsome hclosed),
          Option.isNone_some, if_neg Bool.false_ne_true]
        -- the reason is recorded already, so the row needs no update
        refine cancelRows_agrees h hget reasonCode cancelledAt operation.updatedAt ?_
        intro x
        split
        · rename_i heq
          rw [heq, h.rows.operations, hget]
          simp only [cancelMarked, cancelReason, hcancel, hne, if_false]
          rw [← hcancel]
        · rfl
    · rw [cancelSimulationOperation, hget, Option.filter_some,
        if_neg (fun h => htenant (of_decide_eq_true h))]
      dsimp only
      rw [if_pos htenant]
      exact ⟨h.rows, rfl⟩

/-! ## Publications -/

theorem key_of_acceptsRow (h : Corresponds repo store) {completedAt : Int} {key : String × String}
    (hget : repo.simulationItems.get? key = some item)
    (haccepts : PostgresStore.acceptsRow claim completedAt item = true) : key = claim.itemKey := by
  simp only [PostgresStore.acceptsRow, PostgresStore.ofOperation, Bool.and_eq_true,
    decide_eq_true_eq] at haccepts
  refine Prod.ext ?_ ?_
  · exact (h.named key item hget).symm.trans haccepts.1.1.1.1.1.2
  · exact (h.sound.keyed key item hget).symm.trans haccepts.1.1.1.1.2

theorem acceptsRow_eq (h : Corresponds repo store) (completedAt : Int)
    (hget : repo.simulationItems.get? claim.itemKey = some item) :
    PostgresStore.acceptsRow claim completedAt item =
      !refusesPublication item claim completedAt := by
  have hname : item.operationId = claim.operationId := h.named claim.itemKey item hget
  have hid : item.waveItemId = claim.waveItemId := h.sound.keyed claim.itemKey item hget
  rw [Bool.eq_iff_iff]
  simp only [PostgresStore.acceptsRow, PostgresStore.ofOperation, refusesPublication, hname, hid,
    decide_true, Bool.and_true, Bool.and_eq_true, decide_eq_true_eq, Bool.not_eq_true',
    Bool.or_eq_false_iff, decide_eq_false_iff_not, ne_eq, not_not, ge_iff_le, Bool.not_eq_false']

theorem publish_agrees (h : Corresponds repo store) (publication : Publication) :
    ∃ repo' accepted, publishSimulationItem repo publication = .ok (repo', accepted) ∧
      SameRows repo' (store.publishSimulationItem publication).1 ∧
      accepted = (store.publishSimulationItem publication).2 := by
  set claim := publication.claim with hclaim
  set completedAt := publication.terminal.completedAt with hcompleted
  have hselect : store.items.countWhere (PostgresStore.acceptsRow claim completedAt) =
      ((repo.simulationItems.get? claim.itemKey).filter
        (PostgresStore.acceptsRow claim completedAt)).toList.length := by
    rw [Dict.countWhere_eq_length, Dict.selectWhere_eq_toList claim.itemKey, h.rows.items]
    intro key item hget haccepts
    rw [h.rows.items] at hget
    exact key_of_acceptsRow h hget haccepts
  unfold PostgresStore.publishSimulationItem PostgresStore.publishSimulationItemTerminal
  rw [← hclaim, ← hcompleted, selectOperation_eq h]
  rcases publishSimulationItem_cases repo publication with
    hidle | ⟨item, hitem, hnone, _⟩ | ⟨item, operation, hitem, hget, haccept, hresult⟩
  · -- the repository refuses: no row is updated
    have hnone : ∀ operation, repo.simulationOperations.get? claim.operationId = some operation →
        store.items.countWhere (PostgresStore.acceptsRow claim completedAt) ≠ 1 := by
      intro operation hget hone
      cases hitem : repo.simulationItems.get? claim.itemKey with
      | none =>
        rw [hselect, hitem] at hone
        cases hone
      | some item =>
        rw [hselect, hitem, Option.filter_some, acceptsRow_eq h completedAt hitem] at hone
        cases hrefuse : refusesPublication item claim completedAt with
        | true =>
          rw [hrefuse] at hone
          cases hone
        | false =>
          rw [publishSimulationItem, publishSimulationItemTerminal, ← hclaim] at hidle
          rw [WaveSimulationItemClaim.itemKey] at hitem
          simp [hitem, ← hcompleted, hrefuse, hget] at hidle
    refine ⟨repo, false, hidle, ?_⟩
    cases hget : repo.simulationOperations.get? claim.operationId with
    | none => exact ⟨h.rows, rfl⟩
    | some operation =>
      rw [Option.filter_some]
      split
      · exact ⟨h.rows, rfl⟩
      · rename_i hselected
        split at hselected
        · cases hselected
          rw [if_pos (hnone operation hget)]
          exact ⟨h.rows, rfl⟩
        · cases hselected
  · -- a record without an operation is not stored
    obtain ⟨operation, hget, _⟩ := h.sound.records _ item hitem
    cases hnone.symm.trans hget
  · rw [← hclaim, ← hcompleted] at haccept
    have htenant : operation.tenantId = claim.tenantId := by
      obtain ⟨owner, howner, hrecord⟩ := h.sound.records _ item hitem
      cases hget.symm.trans howner
      simp only [refusesPublication, Bool.or_eq_false_iff, decide_eq_false_iff_not, ne_eq,
        not_not] at haccept
      rw [← hrecord.tenantId]
      exact haccept.1.1.1.1
    have haccepts := acceptsRow_eq h completedAt hitem
    rw [haccept, Bool.not_false] at haccepts
    have hone : store.items.countWhere (PostgresStore.acceptsRow claim completedAt) = 1 := by
      rw [hselect, hitem, Option.filter_some, if_pos haccepts]
      rfl
    refine ⟨_, true, hresult, ?_⟩
    rw [← hclaim] at hget
    rw [hget, Option.filter_some, if_pos (decide_eq_true htenant)]
    dsimp only
    rw [if_neg (not_not.mpr hone)]
    refine ⟨sameRows_records h hget ?_ ?_ completedAt, rfl⟩
    · intro key
      rw [Dict.get?_updateWhere, Dict.get?_set, h.rows.items]
      split
      · rename_i heq
        rw [heq, hitem, Option.map_some, if_pos haccepts]
        rfl
      · rename_i hne
        cases hother : repo.simulationItems.get? key with
        | none => rfl
        | some other =>
          rw [Option.map_some, if_neg (fun hother' => hne (key_of_acceptsRow h hother hother'))]
    · intro key other hother
      rw [Dict.get?_set] at hother
      split at hother
      · rename_i heq
        cases hother
        rw [heq]
        exact h.named _ item hitem
      · exact h.named key other hother

/-! ## Claims -/

theorem StoreSound.nodup_ordinals (h : StoreSound repo) (id tenantId : String) :
    ((simulationItemsForOperation repo.simulationItems id tenantId).map
      WaveSimulationItemRecord.ordinal).Nodup := by
  refine List.Nodup.map_on ?_
    (List.Nodup.of_map _ (nodup_simulationItemsForOperation h.keyed id tenantId))
  intro item hitem item' hitem' hordinal
  have hget := get?_of_mem_simulationItemsForOperation h.keyed hitem
  have hget' := get?_of_mem_simulationItemsForOperation h.keyed hitem'
  have hkey := h.ordinals _ _ item item' hget hget' rfl hordinal
  rw [hkey] at hget
  exact Option.some.inj (hget.symm.trans hget')

/-- The rows that the tables claim are the records that the repository claims, in one order: the
ordinals decide it, and the collation is not asked. -/
theorem candidates_eq (h : Corresponds repo store) (collation : String → String → Bool)
    (operation : WaveSimulationOperation) (call : ClaimCall) :
    store.candidates collation operation call =
      selectedForClaim operation call
        (simulationItemsForOperation repo.simulationItems call.operationId call.tenantId) := by
  have hactive : store.items.countWhere (fun item =>
      PostgresStore.ofOperation call.tenantId call.operationId item &&
        PostgresStore.leaseActive call.claimedAt item) =
      (simulationItemsForOperation repo.simulationItems call.operationId call.tenantId).countP
        (fun item => item.leaseActive call.claimedAt) :=
    countWhere_ofOperation h.rows.items h.named call.tenantId call.operationId
      (fun item => item.leaseActive call.claimedAt)
  have hperm := selectWhere_ofOperation h.rows.items h.named call.tenantId call.operationId
    (fun item => item.claimable call.claimedAt)
  have hnodup : ((store.items.selectWhere (fun item =>
      PostgresStore.ofOperation call.tenantId call.operationId item &&
        item.claimable call.claimedAt)).map WaveSimulationItemRecord.ordinal).Nodup := by
    rw [(hperm.map _).nodup_iff]
    exact (h.sound.nodup_ordinals call.operationId call.tenantId).sublist
      (List.filter_sublist.map _)
  have hsort : (store.items.selectWhere (fun item =>
      PostgresStore.ofOperation call.tenantId call.operationId item &&
        item.claimable call.claimedAt)).insertionSort
          (fun a b => PostgresStore.rowLe collation a b) =
      ((simulationItemsForOperation repo.simulationItems call.operationId call.tenantId).filter
        (fun item => item.claimable call.claimedAt)).insertionSort
          (fun a b => simulationItemLe a b) := by
    refine insertionSort_eq_of_perm hperm hnodup ?_ ?_
    · intro a b hne
      simp only [PostgresStore.rowLe, Bool.or_eq_true, Bool.and_eq_true, decide_eq_true_eq]
      omega
    · intro a b hne
      rw [simulationItemLe_iff]
      omega
  unfold PostgresStore.candidates selectedForClaim
  dsimp only
  rw [hactive]
  exact congrArg (List.take _) hsort

/-- The `UPDATE`s of the claims are the writes of the loop. -/
theorem get?_foldl_claimRow {operation : WaveSimulationOperation} {call : ClaimCall}
    (hid : operation.operationId = call.operationId) :
    ∀ (selected : List (WaveSimulationItemRecord × Nat)) (store : PostgresStore)
      (items : Dict (String × String) WaveSimulationItemRecord),
      (∀ key, store.items.get? key = items.get? key) →
      (∀ key item, items.get? key = some item → item.operationId = key.1 ∧
        item.waveItemId = key.2) →
      (selected.map (fun e => e.1.waveItemId)).Nodup →
      (∀ e ∈ selected, items.get? (call.operationId, e.1.waveItemId) = some e.1 ∧
        e.1.tenantId = operation.tenantId) →
      ∀ key, (selected.foldl (fun store e => store.claimRow operation call (call.token e.2) e.1)
        store).items.get? key =
        (storeItems call.operationId (selected.map
          (fun e => claimedItem operation call (call.token e.2) e.1)) items).get? key
  | [], _, _, hsame, _, _, _, key => hsame key
  | e :: selected, store, items, hsame, hnamed, hnodup, hstored, key => by
    obtain ⟨hget, htenant⟩ := hstored e List.mem_cons_self
    rw [List.map_cons, List.nodup_cons] at hnodup
    have hwrite : ∀ key, (store.claimRow operation call (call.token e.2) e.1).items.get? key =
        (items.set (call.operationId, e.1.waveItemId)
          (claimedItem operation call (call.token e.2) e.1)).get? key := by
      intro key
      show (store.items.updateWhere _ _).get? key = _
      rw [Dict.get?_updateWhere, Dict.get?_set, hsame]
      by_cases heq : key = (call.operationId, e.1.waveItemId)
      · have hname : e.1.operationId = operation.operationId := (hnamed _ e.1 hget).1.trans hid.symm
        rw [if_pos heq, heq, hget, Option.map_some, decide_eq_true hname, decide_eq_true rfl,
          decide_eq_true htenant]
        rfl
      · rw [if_neg heq]
        cases hother : items.get? key with
        | none => rfl
        | some other =>
          obtain ⟨hname, hitem⟩ := hnamed key other hother
          have hnot : (decide (other.operationId = operation.operationId) &&
              decide (other.waveItemId = e.1.waveItemId) &&
              decide (other.tenantId = operation.tenantId)) = false := by
            simp only [hname, hitem, hid, Bool.and_eq_false_iff, decide_eq_false_iff_not]
            by_contra hall
            push Not at hall
            exact heq (Prod.ext hall.1.1 hall.1.2)
          rw [Option.map_some, hnot]
          rfl
    rw [List.foldl_cons, List.map_cons]
    refine get?_foldl_claimRow hid selected _ _ hwrite ?_ hnodup.2 ?_ key
    · intro key item hitem
      rw [Dict.get?_set] at hitem
      split at hitem
      · rename_i heq
        cases hitem
        rw [heq]
        exact hnamed _ e.1 hget
      · exact hnamed key item hitem
    · intro e' he'
      obtain ⟨hget', htenant'⟩ := hstored e' (List.mem_cons_of_mem e he')
      refine ⟨?_, htenant'⟩
      rw [Dict.get?_set_of_ne]
      · exact hget'
      · intro heq
        exact hnodup.1 (List.mem_map.mpr ⟨e', he', congrArg Prod.snd heq⟩)

theorem foldl_claimRow_eq (operation : WaveSimulationOperation) (call : ClaimCall) :
    ∀ (selected : List (WaveSimulationItemRecord × Nat)) (store : PostgresStore),
      selected.foldl (fun store e => store.claimRow operation call (call.token e.2) e.1) store =
        { store with items := (selected.foldl
          (fun store e => store.claimRow operation call (call.token e.2) e.1) store).items }
  | [], _ => rfl
  | e :: selected, store => by
    rw [List.foldl_cons, foldl_claimRow_eq operation call selected]
    rfl

theorem claim_agrees (h : Corresponds repo store) (collation : String → String → Bool)
    (call : ClaimCall) :
    SameRows (claimSimulationItems repo call).1 (store.claimSimulationItems collation call).1 ∧
      (claimSimulationItems repo call).2 = (store.claimSimulationItems collation call).2 := by
  unfold claimSimulationItems PostgresStore.claimSimulationItems
  rw [selectOperation_eq h]
  cases hget : repo.simulationOperations.get? call.operationId with
  | none => exact ⟨h.rows, rfl⟩
  | some operation =>
    by_cases htenant : operation.tenantId = call.tenantId
    · rw [Option.filter_some, if_pos (decide_eq_true htenant)]
      dsimp only
      rw [if_neg (not_not.mpr htenant)]
      by_cases hclosed : operation.status.closedToClaims = true
      · rw [if_pos hclosed, if_pos hclosed]
        exact ⟨h.rows, rfl⟩
      rw [if_neg hclosed, if_neg hclosed, candidates_eq h]
      set owned := simulationItemsForOperation repo.simulationItems call.operationId call.tenantId
        with howned
      set selected := (selectedForClaim operation call owned).zipIdx with hselected
      have hid := h.sound.operations call.operationId operation hget
      have hmem : ∀ e ∈ selected, e.1 ∈ owned := fun e he =>
        (mem_of_mem_selectedForClaim (List.fst_mem_of_mem_zipIdx he)).1
      have hstored : ∀ e ∈ selected,
          repo.simulationItems.get? (call.operationId, e.1.waveItemId) = some e.1 ∧
            RecordOf operation (call.operationId, e.1.waveItemId) e.1 := by
        intro e he
        have hitem := get?_of_mem_simulationItemsForOperation h.sound.keyed (hmem e he)
        obtain ⟨owner, howner, hrecord⟩ := h.sound.records _ e.1 hitem
        cases hget.symm.trans howner
        exact ⟨hitem, hrecord⟩
      have hnodup : (selected.map (fun e => e.1.waveItemId)).Nodup := by
        have hids := nodup_selectedForClaim operation call
          (nodup_simulationItemsForOperation h.sound.keyed call.operationId call.tenantId)
        rw [← howned, ← List.zipIdx_map_fst 0 (selectedForClaim operation call owned),
          List.map_map] at hids
        exact hids
      have hnames : ∀ key item, repo.simulationItems.get? key = some item →
          item.operationId = key.1 ∧ item.waveItemId = key.2 := fun key item hitem =>
        ⟨h.named key item hitem, h.sound.keyed key item hitem⟩
      refine ⟨?_, ?_⟩
      · rw [foldl_claimRow_eq]
        refine sameRows_records h hget ?_ ?_ call.claimedAt
        · exact get?_foldl_claimRow hid selected store repo.simulationItems h.rows.items hnames
            hnodup (fun e he => ⟨(hstored e he).1, (hstored e he).2.tenantId⟩)
        · refine recordsNamed_storeItems h.named _ ?_
          intro row hrow
          obtain ⟨e, he, rfl⟩ := List.mem_map.mp hrow
          exact (hstored e he).2.operationId
      · refine List.map_congr_left fun e he => ?_
        simp only [itemClaim, PostgresStore.rowClaim, hid, htenant, (hstored e he).2.waveId]
    · rw [Option.filter_some, if_neg (fun h => htenant (of_decide_eq_true h))]
      dsimp only
      rw [if_pos htenant]
      exact ⟨h.rows, rfl⟩

/-! ## Admissions -/

/-- The checks of an admission on the stored wave, the records and the next wave. -/
def AdmissionChecksPass (repo : WaveRepository) (operation : WaveSimulationOperation)
    (items : List WaveSimulationItemRecord) (simulatingWave : RebalanceWave) : Prop :=
  ∃ wave ∈ repo.waves.get? operation.waveId,
    wave.tenantId = some operation.tenantId ∧ wave.version = operation.admittedWaveVersion ∧
      (validateSimulationAdmissionItems operation items wave).isOk = true ∧
      simulatingWave.waveId = wave.waveId ∧ simulatingWave.tenantId = some operation.tenantId ∧
      simulatingWave.state = .simulating ∧ simulatingWave.version = wave.version + 1

/-- The states in which both stores answer an admission alike.  A key that has an operation is
used on a wave of its tenant; a new key with a correlation id that is taken passes every other
check; and a new key with a new correlation id that passes them derives an operation id that is
not stored. -/
def AdmissionAgrees (repo : WaveRepository) (operation : WaveSimulationOperation)
    (items : List WaveSimulationItemRecord) (simulatingWave : RebalanceWave) : Prop :=
  if repo.simulationOperationIdempotency.contains
      (operation.tenantId, operation.idempotencyKeyHash) = true then
    ∃ wave ∈ repo.waves.get? operation.waveId, wave.tenantId = some operation.tenantId
  else if repo.simulationOperationCorrelations.contains
      (operation.tenantId, operation.correlationId) = true then
    AdmissionChecksPass repo operation items simulatingWave
  else
    AdmissionChecksPass repo operation items simulatingWave →
      repo.simulationOperations.get? operation.operationId = none

instance (repo : WaveRepository) (operation : WaveSimulationOperation)
    (items : List WaveSimulationItemRecord) (simulatingWave : RebalanceWave) :
    Decidable (AdmissionChecksPass repo operation items simulatingWave) := by
  unfold AdmissionChecksPass
  infer_instance

instance (repo : WaveRepository) (operation : WaveSimulationOperation)
    (items : List WaveSimulationItemRecord) (simulatingWave : RebalanceWave) :
    Decidable (AdmissionAgrees repo operation items simulatingWave) := by
  unfold AdmissionAgrees
  infer_instance

theorem insertItems_ok (operationId : String) :
    ∀ (rows : List WaveSimulationItemRecord) (store : PostgresStore)
      (items : Dict (String × String) WaveSimulationItemRecord),
      (∀ key, store.items.get? key = items.get? key) →
      (∀ row ∈ rows, row.operationId = operationId) →
      (rows.map WaveSimulationItemRecord.waveItemId).Nodup →
      (rows.map WaveSimulationItemRecord.ordinal).Nodup →
      (∀ row ∈ rows, items.get? (operationId, row.waveItemId) = none) →
      (∀ key item, items.get? key = some item → item.operationId = operationId →
        ∀ row ∈ rows, item.ordinal ≠ row.ordinal) →
      ∃ table, store.insertItems rows = .ok { store with items := table } ∧
        ∀ key, table.get? key = (storeItems operationId rows items).get? key
  | [], store, _, hsame, _, _, _, _, _ => ⟨store.items, rfl, hsame⟩
  | row :: rows, store, items, hsame, hnamed, hids, hordinals, hfresh, hfree => by
    rw [List.map_cons, List.nodup_cons] at hids hordinals
    have hname := hnamed row List.mem_cons_self
    have hempty : store.items.selectWhere (fun other =>
        decide (other.operationId = row.operationId) && decide (other.ordinal = row.ordinal)) =
        [] := by
      rw [List.eq_nil_iff_forall_not_mem]
      intro other hother
      obtain ⟨⟨key, hget⟩, hcondition⟩ := Dict.mem_selectWhere.mp hother
      rw [hsame] at hget
      simp only [Bool.and_eq_true, decide_eq_true_eq] at hcondition
      exact hfree key other hget (hcondition.1.trans hname) row List.mem_cons_self hcondition.2
    have hinsert : store.insertItem row = .ok { store with
        items := store.items.set (operationId, row.waveItemId) row } := by
      have hnew : store.items.contains (operationId, row.waveItemId) = false := by
        rw [Dict.contains, hsame, hfresh row List.mem_cons_self]
        rfl
      rw [PostgresStore.insertItem, hempty, if_neg (not_not.mpr List.length_nil), Dict.insertRow,
        hname, hnew]
      rfl
    have hsame' : ∀ key, (store.items.set (operationId, row.waveItemId) row).get? key =
        (items.set (operationId, row.waveItemId) row).get? key := by
      intro key
      rw [Dict.get?_set, Dict.get?_set, hsame]
    have hfresh' : ∀ other ∈ rows, (items.set (operationId, row.waveItemId) row).get?
        (operationId, other.waveItemId) = none := by
      intro other hother
      rw [Dict.get?_set_of_ne]
      · exact hfresh other (List.mem_cons_of_mem row hother)
      · intro heq
        exact hids.1 (List.mem_map.mpr ⟨other, hother, congrArg Prod.snd heq⟩)
    have hfree' : ∀ key item, (items.set (operationId, row.waveItemId) row).get? key = some item →
        item.operationId = operationId → ∀ other ∈ rows, item.ordinal ≠ other.ordinal := by
      intro key item hget hop other hother
      rw [Dict.get?_set] at hget
      split at hget
      · cases hget
        intro heq
        exact hordinals.1 (List.mem_map.mpr ⟨other, hother, heq.symm⟩)
      · exact hfree key item hget hop other (List.mem_cons_of_mem row hother)
    obtain ⟨table, hrest, htable⟩ := insertItems_ok operationId rows
      { store with items := store.items.set (operationId, row.waveItemId) row }
      (items.set (operationId, row.waveItemId) row) hsame'
      (fun other hother => hnamed other (List.mem_cons_of_mem row hother)) hids.2 hordinals.2
      hfresh' hfree'
    refine ⟨table, ?_, htable⟩
    rw [PostgresStore.insertItems, hinsert]
    exact hrest

theorem selectWave_eq (h : Corresponds repo store) (waveId tenantId : String) :
    (store.waves.selectWhere (fun row => decide (row.waveId = waveId) &&
      decide (row.tenantId = some tenantId))).head? =
      ((repo.waves.get? waveId).filter
        (fun wave => decide (wave.tenantId = some tenantId))).map waveRow := by
  rw [Dict.selectWhere_eq_toList waveId, Option.head?_toList, h.rows.waves]
  · cases hget : repo.waves.get? waveId with
    | none => rfl
    | some wave =>
      have hid : (waveRow wave).waveId = waveId := h.sound.waves waveId wave hget
      rw [Option.map_some, Option.filter_some, Option.filter_some, decide_eq_true hid,
        Bool.true_and]
      split
      · rename_i htenant
        rw [if_pos (show decide (wave.tenantId = some tenantId) = true from htenant)]
        rfl
      · rename_i htenant
        rw [if_neg (show ¬ decide (wave.tenantId = some tenantId) = true from htenant)]
        rfl
  · intro id row hget hcondition
    rw [h.rows.waves, Option.map_eq_some_iff] at hget
    obtain ⟨wave, hwave, rfl⟩ := hget
    simp only [Bool.and_eq_true, decide_eq_true_eq] at hcondition
    exact (h.sound.waves id wave hwave).symm.trans hcondition.1

theorem updateWaveToSimulating_ok (h : Corresponds repo store)
    (haccepted : AdmissionAccepted operation items wave simulatingWave repo repo')
    (written : PostgresStore) (hwritten : written.waves = store.waves) :
    ∃ waves, written.updateWaveToSimulating simulatingWave = .ok { written with waves := waves } ∧
      ∀ id, waves.get? id = ((repo.waves.set wave.waveId simulatingWave).get? id).map waveRow := by
  have hid : wave.waveId = operation.waveId := h.sound.waves _ wave haccepted.stored
  have haddressed : ∀ id row, written.waves.get? id = some row →
      PostgresStore.previousVersionOf simulatingWave row = true → id = operation.waveId := by
    intro id row hget hcondition
    rw [hwritten, h.rows.waves, Option.map_eq_some_iff] at hget
    obtain ⟨stored, hstored, rfl⟩ := hget
    simp only [PostgresStore.previousVersionOf, Bool.and_eq_true, decide_eq_true_eq] at hcondition
    rw [← h.sound.waves id stored hstored]
    exact hcondition.1.1.1.trans (haccepted.sameWave.trans hid)
  have hrow : written.waves.get? operation.waveId = some (waveRow wave) := by
    rw [hwritten, h.rows.waves, haccepted.stored]
    rfl
  have hcurrent : PostgresStore.previousVersionOf simulatingWave (waveRow wave) = true := by
    have hversion := haccepted.nextVersion
    simp only [PostgresStore.previousVersionOf, waveRow, haccepted.sameWave, haccepted.tenant,
      haccepted.sameTenant, Bool.and_eq_true, decide_eq_true_eq, Option.isSome_some, true_and]
    omega
  have hone : written.waves.countWhere (PostgresStore.previousVersionOf simulatingWave) = 1 := by
    rw [Dict.countWhere_eq_length, Dict.selectWhere_eq_toList operation.waveId haddressed, hrow,
      Option.filter_some, if_pos hcurrent]
    rfl
  refine ⟨written.waves.updateWhere (PostgresStore.previousVersionOf simulatingWave)
    (fun row => { row with version := simulatingWave.version, waveJson := simulatingWave }), ?_, ?_⟩
  · rw [PostgresStore.updateWaveToSimulating, if_neg (not_not.mpr hone)]
  · intro id
    rw [Dict.get?_updateWhere, hid, Dict.get?_set]
    by_cases heq : id = operation.waveId
    · rw [if_pos heq, heq, hrow, Option.map_some, Option.map_some, if_pos hcurrent]
      simp only [waveRow, Option.some.injEq, WaveRow.mk.injEq, and_true]
      exact ⟨haccepted.sameWave.symm, haccepted.tenant.trans haccepted.sameTenant.symm⟩
    · rw [if_neg heq, hwritten, h.rows.waves]
      cases hget : repo.waves.get? id with
      | none => rfl
      | some stored =>
        have hstored : written.waves.get? id = some (waveRow stored) := by
          rw [hwritten, h.rows.waves, hget]
          rfl
        rw [Option.map_some, Option.map_some,
          if_neg (fun hcondition => heq (haddressed id _ hstored hcondition))]

theorem admission_writes (h : Corresponds repo store)
    (haccepted : AdmissionAccepted operation items wave simulatingWave repo repo')
    (hnew : repo.simulationOperations.get? operation.operationId = none) :
    ∃ store', (do
        let store ← store.insertOperation operation
        let store ← store.insertItems items
        let store ← store.updateWaveToSimulating simulatingWave
        return (store, operation, false) : Except String _) = .ok (store', operation, false) ∧
      SameRows repo' store' := by
  have hvalid := admissibleItems_of_validate haccepted.records
  have hinsert : store.insertOperation operation = .ok { store with
      operations := store.operations.set operation.operationId operation } := by
    have hcorrelation := haccepted.newCorrelation
    rw [Dict.contains, Option.isSome_eq_false_iff, Option.isNone_iff_eq_none] at hcorrelation
    rw [PostgresStore.insertOperation, selectOperationByIdempotency_eq h, haccepted.newKey,
      selectOperationByCorrelation_eq h, hcorrelation, Dict.insertRow, Dict.contains,
      h.rows.operations, hnew]
    rfl
  have hrecords : ∀ key item, repo.simulationItems.get? key = some item →
      item.operationId ≠ operation.operationId := by
    intro key item hget heq
    obtain ⟨owner, howner, _⟩ := h.sound.records key item hget
    rw [← h.named key item hget, heq, hnew] at howner
    cases howner
  obtain ⟨table, hitems, htable⟩ := insertItems_ok operation.operationId items
    { store with operations := store.operations.set operation.operationId operation }
    repo.simulationItems h.rows.items (fun row hrow => (hvalid.owned row hrow).operationId)
    hvalid.ids hvalid.ordinals
    (fun row _ => h.sound.record_eq_none hnew)
    (fun key item hget hop => absurd hop (hrecords key item hget))
  obtain ⟨waves, hupdate, hwaves⟩ := updateWaveToSimulating_ok h haccepted
    { store with
      operations := store.operations.set operation.operationId operation
      items := table } rfl
  have hresult := haccepted.result
  subst hresult
  refine ⟨{ waves := waves
            operations := store.operations.set operation.operationId operation
            items := table }, ?_, hwaves, ?_, htable⟩
  · rw [hinsert]
    show (do
      let store ← PostgresStore.insertItems
        { store with operations := store.operations.set operation.operationId operation } items
      let store ← store.updateWaveToSimulating simulatingWave
      return (store, operation, false) : Except String _) = _
    rw [hitems]
    show (do
      let store ← PostgresStore.updateWaveToSimulating
        { store with
          operations := store.operations.set operation.operationId operation
          items := table } simulatingWave
      return (store, operation, false) : Except String _) = _
    rw [hupdate]
    rfl
  · intro id
    show (store.operations.set operation.operationId operation).get? id =
      (repo.simulationOperations.set operation.operationId operation).get? id
    rw [Dict.get?_set, Dict.get?_set, h.rows.operations]

/-- The same answer to an admission: the same code, or the same operation with corresponding
rows. -/
def SameAdmission (memory : Except WaveStoreError (WaveRepository × WaveSimulationOperation × Bool))
    (postgres : Except String (PostgresStore × WaveSimulationOperation × Bool)) : Prop :=
  match memory, postgres with
  | .error error, .error code => error.code = code
  | .ok (repo, operation, replay), .ok (store, operation', replay') =>
    SameRows repo store ∧ operation = operation' ∧ replay = replay'
  | _, _ => False

theorem admitNewOperation_agrees (h : Corresponds repo store)
    (hkey : repo.simulationOperationIdempotency.get?
      (operation.tenantId, operation.idempotencyKeyHash) = none)
    (hwave : repo.waves.get? operation.waveId = some wave)
    (htenant : wave.tenantId = some operation.tenantId)
    (hcorrelation : repo.simulationOperationCorrelations.contains
      (operation.tenantId, operation.correlationId) = false)
    (hnew : AdmissionChecksPass repo operation items simulatingWave →
      repo.simulationOperations.get? operation.operationId = none) :
    SameAdmission (admitNewOperation repo operation items simulatingWave)
      (store.admitNewOperation (waveRow wave) operation items simulatingWave) := by
  have hcorrelation' := hcorrelation
  rw [Dict.contains, Option.isSome_eq_false_iff, Option.isNone_iff_eq_none] at hcorrelation'
  unfold admitNewOperation PostgresStore.admitNewOperation
  dsimp only
  rw [hcorrelation, if_neg Bool.false_ne_true, hwave]
  dsimp only
  rw [if_neg (not_not.mpr htenant)]
  by_cases hversion : wave.version = operation.admittedWaveVersion
  · have hversion' : (waveRow wave).version = operation.admittedWaveVersion := hversion
    rw [if_neg (not_not.mpr hversion), if_neg (not_not.mpr hversion')]
    have hjson : (waveRow wave).waveJson = wave := rfl
    rw [hjson]
    cases hvalid : validateSimulationAdmissionItems operation items wave with
    | error e => exact rfl
    | ok _ =>
      dsimp only
      split
      · exact rfl
      · rename_i htransition
        simp only [ne_eq, not_or, not_not] at htransition
        rw [selectOperationByCorrelation_eq h, hcorrelation', Option.bind_none, Option.isSome_none,
          if_neg Bool.false_ne_true]
        have hpass : AdmissionChecksPass repo operation items simulatingWave := by
          refine ⟨wave, hwave, htenant, hversion, ?_, htransition⟩
          rw [hvalid]
          rfl
        obtain ⟨store', hwrites, hrows⟩ := admission_writes h
          ⟨hkey, hcorrelation, hwave, htenant, hversion, hvalid, htransition.1, htransition.2.1,
            htransition.2.2.1, htransition.2.2.2, rfl⟩ (hnew hpass)
        rw [hwrites]
        exact ⟨hrows, rfl, rfl⟩
  · have hversion' : ¬ (waveRow wave).version = operation.admittedWaveVersion := hversion
    rw [if_pos hversion, if_pos hversion']
    exact rfl

theorem admit_agrees (h : Corresponds repo store)
    (hagrees : AdmissionAgrees repo operation items simulatingWave) :
    SameAdmission (admitSimulationOperation repo operation items simulatingWave)
      (store.admitSimulationOperation operation items simulatingWave) := by
  unfold AdmissionAgrees at hagrees
  unfold admitSimulationOperation PostgresStore.admitSimulationOperation
  rw [selectWave_eq h, selectOperationByIdempotency_eq h]
  cases hkey : repo.simulationOperationIdempotency.get?
      (operation.tenantId, operation.idempotencyKeyHash) with
  | some id =>
    rw [Dict.contains, hkey, Option.isSome_some, if_pos rfl] at hagrees
    obtain ⟨wave, hwave, htenant⟩ := hagrees
    rw [Option.mem_def] at hwave
    obtain ⟨existing, hexisting, _⟩ := (h.sound.idempotency _ id).mp hkey
    rw [hwave, Option.filter_some, if_pos (decide_eq_true htenant), Option.map_some,
      Option.bind_some]
    dsimp only
    rw [hexisting]
    dsimp only
    split
    · exact rfl
    · exact ⟨h.rows, rfl, rfl⟩
  | none =>
    rw [Dict.contains, hkey, Option.isSome_none, if_neg Bool.false_ne_true] at hagrees
    rw [Option.bind_none]
    cases hcorrelation : repo.simulationOperationCorrelations.contains
        (operation.tenantId, operation.correlationId) with
    | true =>
      -- the tables come to the correlation id after every other check
      rw [if_pos hcorrelation] at hagrees
      obtain ⟨wave, hwave, htenant, hversion, hvalid, htransition⟩ := hagrees
      rw [Option.mem_def] at hwave
      rw [hwave, Option.filter_some, if_pos (decide_eq_true htenant), Option.map_some]
      dsimp only
      rw [admitNewOperation, if_pos hcorrelation]
      have hfound : (store.selectOperationByCorrelation operation.tenantId
          operation.correlationId).isSome = true := by
        rw [Dict.contains, Option.isSome_iff_exists] at hcorrelation
        obtain ⟨id, hid⟩ := hcorrelation
        obtain ⟨taken, htaken, _⟩ := (h.sound.correlations _ id).mp hid
        rw [selectOperationByCorrelation_eq h, hid, Option.bind_some, htaken]
        rfl
      have hversion' : (waveRow wave).version = operation.admittedWaveVersion := hversion
      have hjson : (waveRow wave).waveJson = wave := rfl
      rw [PostgresStore.admitNewOperation, if_neg (not_not.mpr hversion'), hjson]
      dsimp only
      cases hvalidate : validateSimulationAdmissionItems operation items wave with
      | error e =>
        rw [hvalidate] at hvalid
        cases hvalid
      | ok _ =>
        have hnext : ¬ (simulatingWave.waveId ≠ wave.waveId ∨
            simulatingWave.tenantId ≠ some operation.tenantId ∨
            simulatingWave.state ≠ .simulating ∨
            simulatingWave.version ≠ wave.version + 1) := by
          simp only [ne_eq, not_or, not_not]
          exact htransition
        dsimp only
        rw [if_neg hnext, if_pos hfound]
        exact rfl
    | false =>
      rw [if_neg (by rw [hcorrelation]; exact Bool.false_ne_true)] at hagrees
      cases hwave : repo.waves.get? operation.waveId with
      | none =>
        rw [admitNewOperation, hcorrelation, hwave]
        exact rfl
      | some wave =>
        by_cases htenant : wave.tenantId = some operation.tenantId
        · rw [Option.filter_some, if_pos (decide_eq_true htenant), Option.map_some]
          exact admitNewOperation_agrees h hkey hwave htenant hcorrelation hagrees
        · rw [Option.filter_some, if_neg (fun h => htenant (of_decide_eq_true h)),
            admitNewOperation, hcorrelation, hwave]
          dsimp only
          rw [if_neg Bool.false_ne_true, if_pos htenant]
          exact rfl

end Calls

/-! ## Runs of both stores -/

/-- A call of the simulation store. -/
inductive StoreCall where
  | admitOperation (admission : SimulationAdmission)
  | claim (call : ClaimCall)
  | publish (publication : Publication)
  | retry (tenantId operationId : String) (waveItemIds : Option (List String)) (retriedAt : Int)
  | cancel (tenantId operationId reasonCode : String) (cancelledAt : Int)

/-- What a call returns, or the code that it raises. -/
inductive StoreOutcome where
  | admitted (operation : WaveSimulationOperation) (replay : Bool)
  | claimed (claims : List WaveSimulationItemClaim)
  | published (accepted : Bool)
  | retried (count : Nat)
  | cancelled (operation : Option WaveSimulationOperation)
  | raised (code : String)
  deriving DecidableEq

/-- One call of the in-memory store. -/
def memoryStep (sha256Hex : String → String) (repo : WaveRepository) :
    StoreCall → WaveRepository × StoreOutcome
  | .admitOperation a =>
    match admitSimulationOperation repo (a.operation sha256Hex) (a.items sha256Hex)
        a.simulatingWave with
    | .error error => (repo, .raised error.code)
    | .ok (repo', operation, replay) => (repo', .admitted operation replay)
  | .claim call => ((claimSimulationItems repo call).1, .claimed (claimSimulationItems repo call).2)
  | .publish publication =>
    match publishSimulationItem repo publication with
    | .error error => (repo, .raised error.code)
    | .ok (repo', accepted) => (repo', .published accepted)
  | .retry tenantId operationId waveItemIds retriedAt =>
    let retried := retrySimulationItems repo tenantId operationId waveItemIds retriedAt
    (retried.1, .retried retried.2)
  | .cancel tenantId operationId reasonCode cancelledAt =>
    let cancelled := cancelSimulationOperation repo tenantId operationId reasonCode cancelledAt
    (cancelled.1, .cancelled cancelled.2)

/-- One transaction of the PostgreSQL store. -/
def postgresStep (sha256Hex : String → String) (collation : String → String → Bool)
    (store : PostgresStore) : StoreCall → PostgresStore × StoreOutcome
  | .admitOperation a =>
    match store.admitSimulationOperation (a.operation sha256Hex) (a.items sha256Hex)
        a.simulatingWave with
    | .error code => (store, .raised code)
    | .ok (store', operation, replay) => (store', .admitted operation replay)
  | .claim call =>
    let claimed := store.claimSimulationItems collation call
    (claimed.1, .claimed claimed.2)
  | .publish publication =>
    let published := store.publishSimulationItem publication
    (published.1, .published published.2)
  | .retry tenantId operationId waveItemIds retriedAt =>
    let retried := store.retrySimulationItems tenantId operationId waveItemIds retriedAt
    (retried.1, .retried retried.2)
  | .cancel tenantId operationId reasonCode cancelledAt =>
    let cancelled := store.cancelSimulationOperation tenantId operationId reasonCode cancelledAt
    (cancelled.1, .cancelled cancelled.2)

/-- The states in which both stores answer a call alike. -/
def AgreesAt (sha256Hex : String → String) (repo : WaveRepository) : StoreCall → Prop
  | .admitOperation a =>
    AdmissionAgrees repo (a.operation sha256Hex) (a.items sha256Hex) a.simulatingWave
  | .claim _ => True
  | .publish _ => True
  | .retry tenantId operationId _ _ =>
    ∀ operation ∈ repo.simulationOperations.get? operationId,
      operation.tenantId = tenantId → operation.cancelReasonCode ≠ some ""
  | .cancel tenantId operationId _ _ =>
    ∀ operation ∈ repo.simulationOperations.get? operationId,
      operation.tenantId = tenantId → operation.status.closedToCancel = false →
        operation.cancelReasonCode ≠ some ""

instance (sha256Hex : String → String) (repo : WaveRepository) :
    ∀ call, Decidable (AgreesAt sha256Hex repo call)
  | .admitOperation a =>
    inferInstanceAs (Decidable (AdmissionAgrees repo (a.operation sha256Hex) (a.items sha256Hex)
      a.simulatingWave))
  | .claim _ => isTrue trivial
  | .publish _ => isTrue trivial
  | .retry _ operationId _ _ =>
    inferInstanceAs (Decidable (∀ operation ∈ repo.simulationOperations.get? operationId, _ → _))
  | .cancel _ operationId _ _ =>
    inferInstanceAs
      (Decidable (∀ operation ∈ repo.simulationOperations.get? operationId, _ → _ → _))

theorem StoreSound.of_admission {repo' : WaveRepository} (h : StoreSound repo)
    {sha256Hex : String → String} {a : SimulationAdmission} {operation : WaveSimulationOperation}
    {replay : Bool} (hagrees : AgreesAt sha256Hex repo (.admitOperation a))
    (hadmits : admitSimulationOperation repo (a.operation sha256Hex) (a.items sha256Hex)
      a.simulatingWave = .ok (repo', operation, replay)) : StoreSound repo' := by
  rcases admitSimulationOperation_cases hadmits with ⟨_, rfl⟩ | ⟨_, _, wave, haccepted⟩
  · exact h
  · refine h.of_accepted haccepted ?_ rfl rfl ?_
    · replace hagrees : AdmissionAgrees repo (a.operation sha256Hex) (a.items sha256Hex)
        a.simulatingWave := hagrees
      unfold AdmissionAgrees at hagrees
      rw [Dict.contains, haccepted.newKey, Option.isSome_none, if_neg Bool.false_ne_true,
        haccepted.newCorrelation, if_neg Bool.false_ne_true] at hagrees
      refine hagrees ⟨wave, haccepted.stored, haccepted.tenant, haccepted.version, ?_,
        haccepted.sameWave, haccepted.sameTenant, haccepted.simulating, haccepted.nextVersion⟩
      rw [haccepted.records]
      rfl
    · intro item hitem
      obtain ⟨row, _, rfl⟩ := List.mem_map.mp hitem
      rfl

theorem step_agrees (sha256Hex : String → String) (collation : String → String → Bool)
    (call : StoreCall) (h : Corresponds repo store) (hagrees : AgreesAt sha256Hex repo call) :
    Corresponds (memoryStep sha256Hex repo call).1 (postgresStep sha256Hex collation store call).1 ∧
      (memoryStep sha256Hex repo call).2 = (postgresStep sha256Hex collation store call).2 := by
  cases call with
  | admitOperation a =>
    have hsame := admit_agrees h hagrees
    unfold memoryStep postgresStep
    dsimp only
    cases hmemory : admitSimulationOperation repo (a.operation sha256Hex) (a.items sha256Hex)
        a.simulatingWave with
    | error error =>
      rw [hmemory] at hsame
      cases hpostgres : store.admitSimulationOperation (a.operation sha256Hex)
          (a.items sha256Hex) a.simulatingWave with
      | error code =>
        rw [hpostgres] at hsame
        exact ⟨h, congrArg StoreOutcome.raised hsame⟩
      | ok answer =>
        rw [hpostgres] at hsame
        exact hsame.elim
    | ok answer =>
      rw [hmemory] at hsame
      obtain ⟨repo', operation, replay⟩ := answer
      cases hpostgres : store.admitSimulationOperation (a.operation sha256Hex)
          (a.items sha256Hex) a.simulatingWave with
      | error code =>
        rw [hpostgres] at hsame
        exact hsame.elim
      | ok answer' =>
        rw [hpostgres] at hsame
        obtain ⟨store', operation', replay'⟩ := answer'
        obtain ⟨hrows, rfl, rfl⟩ := hsame
        exact ⟨⟨hrows, h.sound.of_admission hagrees hmemory⟩, rfl⟩
  | claim call =>
    obtain ⟨hrows, hclaims⟩ := claim_agrees h collation call
    refine ⟨⟨hrows, ?_⟩, congrArg StoreOutcome.claimed hclaims⟩
    exact h.sound.of_kept (kept_claim h.sound.keyed call) (statusInv_claim h.sound.status call)
  | publish publication =>
    obtain ⟨repo', accepted, hpublish, hrows, haccepted⟩ := publish_agrees h publication
    unfold memoryStep postgresStep
    dsimp only
    rw [hpublish]
    refine ⟨⟨hrows, ?_⟩, congrArg StoreOutcome.published haccepted⟩
    exact h.sound.of_kept (kept_publish hpublish) (statusInv_publish h.sound.status hpublish)
  | retry tenantId operationId waveItemIds retriedAt =>
    obtain ⟨hrows, hcount⟩ := retry_agrees h waveItemIds retriedAt hagrees
    refine ⟨⟨hrows, ?_⟩, congrArg StoreOutcome.retried hcount⟩
    exact h.sound.of_kept (kept_retry h.sound.keyed _ _ _ _)
      (statusInv_retry h.sound.status _ _ _ _)
  | cancel tenantId operationId reasonCode cancelledAt =>
    obtain ⟨hrows, hoperation⟩ := cancel_agrees h reasonCode cancelledAt hagrees
    refine ⟨⟨hrows, ?_⟩, congrArg StoreOutcome.cancelled hoperation⟩
    exact h.sound.of_kept (kept_cancel h.sound.keyed _ _ _ _)
      (statusInv_cancel h.sound.keyed h.sound.status _ _ _ _)

/-- The stores agree: from corresponding states, over every sequence of calls that each meet
`AgreesAt` in the state in which they are made, both stores return the same values, raise the same
codes and stay in corresponding states. -/
theorem stores_agree (sha256Hex : String → String) (collation : String → String → Bool)
    (calls : List StoreCall) (repo : WaveRepository) (store : PostgresStore)
    (h : Corresponds repo store)
    (hagrees : Runs.Along (fun repo call => (memoryStep sha256Hex repo call).1)
      (AgreesAt sha256Hex) repo calls) :
    Corresponds (Runs.run (fun repo call => (memoryStep sha256Hex repo call).1) repo calls)
        (Runs.run (fun store call => (postgresStep sha256Hex collation store call).1) store calls) ∧
      Runs.outputs (memoryStep sha256Hex) repo calls =
        Runs.outputs (postgresStep sha256Hex collation) store calls :=
  Runs.agree Corresponds
    (fun _ _ call hsame hcall => step_agrees sha256Hex collation call hsame hcall) hagrees h

/-! ### A second key under one correlation id -/

/-- SHA-256 on the texts that the runs below hash. -/
def twoKeysSha256Hex (text : String) : String :=
  if text = "9:tenant-sg7:dwv_0015:key-2" then
    "781db1aa1351e7322925211607454f75252eaf1a27f314cb7d14551dc87f4ca9"
  else if text = "9:tenant-sg5:key-2" then
    "ee000adfea154e287d1d93ba31396fcfcccd03102202b4605d384187a84232c7"
  else sampleSha256Hex text

/-- The repository with the sample wave. -/
def sampleRepository : WaveRepository :=
  (Execution.after twoKeysSha256Hex [.saveWave sampleWave none none "tenant-sg"]).repository

theorem corresponds_sample : Corresponds sampleRepository (tablesOf sampleRepository) := by
  refine ⟨sameRows_tablesOf sampleRepository, storeSound_after ?_⟩
  intro a ha
  cases ha

/-- A second request reads the wave before the first one is admitted, under another key and the
same correlation id. -/
def sameCorrelationCalls : List StoreCall :=
  [.admitOperation sampleAdmission,
   .admitOperation { sampleAdmission with idempotencyKey := "key-2" }]

theorem correlation_conflict_reported_differently :
    Corresponds sampleRepository (tablesOf sampleRepository) ∧
    (Runs.outputs (memoryStep twoKeysSha256Hex) sampleRepository sameCorrelationCalls)[1]? =
      some (.raised "DPM_WAVE_SIMULATION_CORRELATION_CONFLICT") ∧
    (Runs.outputs (postgresStep twoKeysSha256Hex (fun a b => decide (a ≤ b)))
      (tablesOf sampleRepository) sameCorrelationCalls)[1]? =
      some (.raised "DPM_WAVE_SIMULATION_WAVE_VERSION_CONFLICT") :=
  ⟨corresponds_sample, by decide +kernel, by decide +kernel⟩

/-- An item is claimed, published and, with the operation finished, neither retried nor
cancelled; the repeated admission is a replay. -/
def replayedCalls : List StoreCall :=
  [.admitOperation sampleAdmission,
   .claim (sampleClaimCall "worker-1" "u1" 1),
   .publish (samplePublication (sampleClaimCall "worker-1" "u1" 1) 1 3),
   .retry "tenant-sg" "wso_14f63568252b7e25882bbdf2b1316d0f" none 4,
   .cancel "tenant-sg" "wso_14f63568252b7e25882bbdf2b1316d0f" "PM_WITHDRAWN" 5,
   .admitOperation sampleAdmission]

theorem stores_agree_replayed :
    (Runs.outputs (memoryStep twoKeysSha256Hex) sampleRepository replayedCalls)[2]? =
      some (.published true) ∧
    (Runs.outputs (postgresStep twoKeysSha256Hex (fun a b => decide (a ≤ b)))
      (tablesOf sampleRepository) replayedCalls)[2]? = some (.published true) ∧
    Runs.outputs (memoryStep twoKeysSha256Hex) sampleRepository replayedCalls =
      Runs.outputs (postgresStep twoKeysSha256Hex (fun a b => decide (a ≤ b)))
        (tablesOf sampleRepository) replayedCalls :=
  ⟨by decide +kernel, by decide +kernel,
    (stores_agree twoKeysSha256Hex (fun a b => decide (a ≤ b)) replayedCalls sampleRepository
      (tablesOf sampleRepository) corresponds_sample (by decide +kernel)).2⟩

end LotusManage.Waves
