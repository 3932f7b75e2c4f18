import LotusManage.Waves.Aggregate
import LotusManage.Waves.StoreFacts

/-!
# Claims are fences

By the time a worker publishes, its lease may have expired, another worker may hold the item, the item
may have been retried or the operation cancelled.  In every interleaving the repository still accepts a
publication under the latest claim only, no claim is published twice, a finished record never changes
and exactly the succeeded records carry a result.

`ExecutionEffect` says what one call can do.  Two invariants are followed through it:

* `AdmissionInv`: every operation was admitted under its own key, so a new key never reuses the id of a
  stored operation and an admission never overwrites a record.
* `FenceInv`: the generation of a record bounds the generations of all claims and publications of the
  item, and a running record carries the token of the latest claim.

No step of the argument reads the clock: the results hold for any times.
-/

namespace LotusManage.Waves

/-- What identifies a claim of an item. -/
def WaveSimulationItemClaim.fence (claim : WaveSimulationItemClaim) : (String × String) × Nat :=
  (claim.itemKey, claim.claimGeneration)

/-- A record that is done: succeeded, cancelled, or failed with no retry left. -/
def Finished (operation : WaveSimulationOperation) (item : WaveSimulationItemRecord) : Prop :=
  item.status = .succeeded ∨ item.status = .cancelled ∨
    (item.status = .failed ∧ waveSimulationItemIsRetryable operation item = false)

variable {operation operation' : WaveSimulationOperation} {item : WaveSimulationItemRecord}
  {sha256Hex : String → String} {repo repo' : WaveRepository} {wave : RebalanceWave}
  {e e' : Execution} {admitted : List SimulationAdmission} {call : SimulationCall}
  {claims : List WaveSimulationItemClaim} {key : String × String} {calls all : List SimulationCall}

theorem isRetryable_congr (h : operationIdentity operation' = operationIdentity operation)
    (item : WaveSimulationItemRecord) :
    waveSimulationItemIsRetryable operation' item =
      waveSimulationItemIsRetryable operation item := by
  have hmax : operation'.maxAttempts = operation.maxAttempts := congrArg (fun x => x.2.2) h
  rw [waveSimulationItemIsRetryable, waveSimulationItemIsRetryable, hmax]

theorem Finished.congr (h : operationIdentity operation' = operationIdentity operation)
    (hfin : Finished operation item) : Finished operation' item := by
  unfold Finished
  rw [isRetryable_congr h]
  exact hfin

theorem status_of_claimable {now : Int} (h : item.claimable now = true) :
    item.status = .pending ∨ item.status = .running := by
  simp only [WaveSimulationItemRecord.claimable, Bool.or_eq_true, Bool.and_eq_true,
    decide_eq_true_eq] at h
  exact h.imp id And.left

theorem Finished.ne_pending (h : Finished operation item) : item.status ≠ .pending := by
  rcases h with h | h | ⟨h, _⟩ <;> rw [h] <;> nofun

theorem Finished.ne_running (h : Finished operation item) : item.status ≠ .running := by
  rcases h with h | h | ⟨h, _⟩ <;> rw [h] <;> nofun

theorem status_of_isRetryable (h : waveSimulationItemIsRetryable operation item = true) :
    item.status = .failed := by
  simp only [waveSimulationItemIsRetryable, Bool.and_eq_true, decide_eq_true_eq] at h
  exact h.1.1

theorem Finished.not_isRetryable (h : Finished operation item) :
    waveSimulationItemIsRetryable operation item = false := by
  rcases h with h | h | ⟨_, h⟩
  · simp [waveSimulationItemIsRetryable, h]
  · simp [waveSimulationItemIsRetryable, h]
  · exact h

theorem RecordMove.not_finished {item' : WaveSimulationItemRecord}
    (h : RecordMove operation item item') : ¬ Finished operation item := by
  intro hfin
  cases h with
  | retried _ hretry =>
    rw [hfin.not_isRetryable] at hretry
    cases hretry
  | cancelled _ hopen =>
    rcases hopen with hpending | hrunning | hretry
    · exact hfin.ne_pending hpending
    · exact hfin.ne_running hrunning
    · rw [hfin.not_isRetryable] at hretry
      cases hretry

/-! ## What one call can do -/

/-- The four kinds of calls, by what they do to the records and to the two logs. -/
inductive ExecutionEffect (sha256Hex : String → String) (call : SimulationCall)
    (e e' : Execution) : Prop where
  | moved (hmove : MoveEffect e.repository e'.repository) (hissued : e'.issued = e.issued)
      (haccepted : e'.accepted = e.accepted)
  | admitted (a : SimulationAdmission) (hcall : call = .admitOperation a)
      (hadmitted : AdmitEffect (a.operation sha256Hex) (a.items sha256Hex)
        e.repository e'.repository)
      (hissued : e'.issued = e.issued) (haccepted : e'.accepted = e.accepted)
  | claimed (claimCall : ClaimCall) (claims : List WaveSimulationItemClaim)
      (hclaim : ClaimEffect claimCall e.repository e'.repository claims)
      (hissued : e'.issued = e.issued ++ claims) (haccepted : e'.accepted = e.accepted)
  | published (publication : Publication)
      (hpublish : PublishEffect publication e.repository e'.repository)
      (hissued : e'.issued = e.issued)
      (haccepted : e'.accepted = e.accepted ++ [publication.claim])

theorem ExecutionEffect.idle (sha256Hex : String → String) (call : SimulationCall)
    (e : Execution) : ExecutionEffect sha256Hex call e e :=
  .moved (MoveEffect.none e.repository) rfl rfl

theorem sameRecords_saveWave {idempotencyKey requestHash : Option String} {tenantId : String}
    (h : saveWave sha256Hex repo wave idempotencyKey requestHash tenantId = .ok repo') :
    MoveEffect repo repo' := by
  obtain ⟨_, _, _, _, _, rfl⟩ := saveWave_eq_ok h
  exact ⟨⟨fun _ => rfl, rfl⟩, fun _ => Or.inl rfl⟩

theorem sameRecords_updateWave {expectedVersion : Int} {tenantId : String}
    (h : updateWave repo wave expectedVersion tenantId = .ok repo') : MoveEffect repo repo' := by
  obtain ⟨_, _, _, _, rfl⟩ := updateWave_eq_ok h
  exact ⟨⟨fun _ => rfl, rfl⟩, fun _ => Or.inl rfl⟩

theorem step_effect (sha256Hex : String → String)
    (hkeyed : RecordsKeyed e.repository.simulationItems) (call : SimulationCall) :
    ExecutionEffect sha256Hex call e (e.step sha256Hex call) := by
  cases call with
  | saveWave wave idempotencyKey requestHash tenantId =>
    simp only [Execution.step]
    split
    · exact .idle sha256Hex _ e
    · rename_i hsave
      exact .moved (sameRecords_saveWave hsave) rfl rfl
  | updateWave wave expectedVersion tenantId =>
    simp only [Execution.step]
    split
    · exact .idle sha256Hex _ e
    · rename_i hupdate
      exact .moved (sameRecords_updateWave hupdate) rfl rfl
  | admitOperation a =>
    simp only [Execution.step]
    split
    · exact .idle sha256Hex _ e
    · rename_i repository stored replay hadmitted
      rcases admitSimulationOperation_effect hadmitted with rfl | heffect
      · exact .idle sha256Hex _ e
      · exact .admitted a rfl heffect rfl rfl
  | claim claimCall =>
    exact .claimed claimCall _ (claimSimulationItems_effect hkeyed claimCall) rfl rfl
  | publish publication =>
    simp only [Execution.step]
    split
    · exact .idle sha256Hex _ e
    · rename_i repository hpublish
      rw [publishSimulationItem_refused hpublish]
      exact .idle sha256Hex _ e
    · rename_i repository hpublish
      exact .published publication (publishSimulationItem_effect hpublish) rfl rfl
  | retry tenantId operationId waveItemIds retriedAt =>
    exact .moved (retrySimulationItems_effect hkeyed tenantId operationId waveItemIds retriedAt)
      rfl rfl
  | cancel tenantId operationId reasonCode cancelledAt =>
    exact .moved (cancelSimulationOperation_effect hkeyed tenantId operationId reasonCode
      cancelledAt) rfl rfl

/-! ## Operations are admitted under their own keys -/

/-- Every record is stored under its own id and belongs to a stored operation, and every
operation is indexed under the key of one of the admissions. -/
structure AdmissionInv (sha256Hex : String → String) (admitted : List SimulationAdmission)
    (repo : WaveRepository) : Prop where
  keyed : RecordsKeyed repo.simulationItems
  owned : ∀ key item, repo.simulationItems.get? key = some item →
    ∃ operation, repo.simulationOperations.get? key.1 = some operation
  indexed : ∀ id operation, repo.simulationOperations.get? id = some operation →
    repo.simulationOperationIdempotency.get?
      (operation.tenantId, operation.idempotencyKeyHash) = some id
  derived : ∀ id operation, repo.simulationOperations.get? id = some operation →
    ∃ a ∈ admitted, a.operationId sha256Hex = id ∧ a.tenantId = operation.tenantId ∧
      waveSimulationIdempotencyKey sha256Hex a.tenantId a.idempotencyKey =
        operation.idempotencyKeyHash

section Admissions

variable {sha256Hex : String → String} {admitted : List SimulationAdmission}
  {repo repo' : WaveRepository}

variable {a : SimulationAdmission} {key : String × String} {operation : WaveSimulationOperation}
  {item item' : WaveSimulationItemRecord}

theorem admissionInv_new : AdmissionInv sha256Hex admitted WaveRepository.new := by
  constructor <;> simp [RecordsKeyed, WaveRepository.new]

theorem AdmissionInv.of_sameOperations (hinv : AdmissionInv sha256Hex admitted repo)
    (hops : SameOperations repo repo')
    (hrecords : ∀ key item', repo'.simulationItems.get? key = some item' →
      ∃ item, repo.simulationItems.get? key = some item ∧ item'.waveItemId = item.waveItemId) :
    AdmissionInv sha256Hex admitted repo' := by
  refine ⟨?_, ?_, ?_, ?_⟩
  · intro key item' hget
    obtain ⟨item, hitem, hid⟩ := hrecords key item' hget
    exact hid.trans (hinv.keyed key item hitem)
  · intro key item' hget
    obtain ⟨item, hitem, _⟩ := hrecords key item' hget
    obtain ⟨operation, hop⟩ := hinv.owned key item hitem
    obtain ⟨new, hnew, _⟩ := hops.exists_after hop
    exact ⟨new, hnew⟩
  · intro id operation hget
    obtain ⟨old, hold, hsame⟩ := hops.exists_before hget
    simp only [operationIdentity, Prod.mk.injEq] at hsame
    rw [hops.index, ← hsame.1, ← hsame.2.1]
    exact hinv.indexed id old hold
  · intro id operation hget
    obtain ⟨old, hold, hsame⟩ := hops.exists_before hget
    simp only [operationIdentity, Prod.mk.injEq] at hsame
    rw [← hsame.1, ← hsame.2.1]
    exact hinv.derived id old hold

theorem AdmissionInv.operationId_new (hinv : AdmissionInv sha256Hex admitted repo)
    (hids : OperationIdsInjective sha256Hex admitted) (ha : a ∈ admitted)
    (hnew : repo.simulationOperationIdempotency.get?
      (a.tenantId, waveSimulationIdempotencyKey sha256Hex a.tenantId a.idempotencyKey) = none) :
    repo.simulationOperations.get? (a.operationId sha256Hex) = none := by
  rw [Option.eq_none_iff_forall_ne_some]
  intro operation hget
  obtain ⟨b, hb, hid, htenant, hkey⟩ := hinv.derived _ operation hget
  obtain ⟨ht, hk⟩ := hids a ha b hb hid.symm
  have hindexed := hinv.indexed _ operation hget
  rw [← htenant, ← hkey, ← ht, ← hk, hnew] at hindexed
  cases hindexed

theorem AdmissionInv.record_eq_none (hinv : AdmissionInv sha256Hex admitted repo)
    (hnone : repo.simulationOperations.get? key.1 = none) :
    repo.simulationItems.get? key = none := by
  rw [Option.eq_none_iff_forall_ne_some]
  intro item hget
  obtain ⟨operation, hop⟩ := hinv.owned key item hget
  rw [hnone] at hop
  cases hop

theorem AdmitEffect.record_cases {items : List WaveSimulationItemRecord}
    (hadmitted : AdmitEffect operation items repo repo')
    (hget : repo'.simulationItems.get? key = some item) :
    repo.simulationItems.get? key = some item ∨
      (item ∈ items ∧ key = (operation.operationId, item.waveItemId)) := by
  rw [hadmitted.records] at hget
  rcases get?_storeItems_cases operation.operationId items repo.simulationItems key with
    hsame | ⟨row, hrow, hkey, hrow'⟩
  · exact Or.inl (hsame.symm.trans hget)
  · rw [hrow'] at hget
    cases hget
    exact Or.inr ⟨hrow, hkey⟩

theorem AdmissionInv.of_admitted (hinv : AdmissionInv sha256Hex admitted repo) (ha : a ∈ admitted)
    (hadmitted : AdmitEffect (a.operation sha256Hex) (a.items sha256Hex) repo repo') :
    AdmissionInv sha256Hex admitted repo' := by
  refine ⟨?_, ?_, ?_, ?_⟩
  · intro key item hget
    rcases hadmitted.record_cases hget with hold | ⟨_, hkey⟩
    · exact hinv.keyed key item hold
    · rw [hkey]
  · intro key item hget
    rw [hadmitted.operations, Dict.get?_set]
    split
    · exact ⟨_, rfl⟩
    · rename_i hne
      rcases hadmitted.record_cases hget with hold | ⟨_, hkey⟩
      · exact hinv.owned key item hold
      · exact absurd (congrArg Prod.fst hkey) hne
  · intro id operation hget
    rw [hadmitted.operations, Dict.get?_set] at hget
    rw [hadmitted.index]
    split at hget
    · rename_i hid
      cases hget
      rw [hid, Dict.get?_set_self]
    · -- the new key was not indexed, so it is the key of no stored operation
      have hindexed := hinv.indexed id operation hget
      rw [Dict.get?_set_of_ne _ _ (fun heq => ?_)]
      · exact hindexed
      · rw [heq, hadmitted.newKey] at hindexed
        cases hindexed
  · intro id operation hget
    rw [hadmitted.operations, Dict.get?_set] at hget
    split at hget
    · rename_i hid
      cases hget
      exact ⟨a, ha, hid.symm, rfl, rfl⟩
    · exact hinv.derived id operation hget

theorem ClaimEffect.record_before {claimCall : ClaimCall} {claims : List WaveSimulationItemClaim}
    (hclaim : ClaimEffect claimCall repo repo' claims)
    (hget : repo'.simulationItems.get? key = some item') :
    repo.simulationItems.get? key = some item' ∨
      ∃ c ∈ claims, c.itemKey = key ∧ ∃ operation item,
        repo.simulationItems.get? key = some item ∧
        item.claimable claimCall.claimedAt = true ∧
        item' = claimedItem operation claimCall c.claimToken item ∧
        c.claimGeneration = item.claimGeneration + 1 := by
  by_cases hkey : ∃ c ∈ claims, c.itemKey = key
  · obtain ⟨c, hc, rfl⟩ := hkey
    obtain ⟨operation, item, hitem, hclaimable, hitem', hgen⟩ := hclaim.taken c hc
    rw [hitem'] at hget
    cases hget
    exact Or.inr ⟨c, hc, rfl, operation, item, hitem, hclaimable, rfl, hgen⟩
  · push Not at hkey
    rw [hclaim.others key hkey] at hget
    exact Or.inl hget

theorem MoveEffect.record_before (hmove : MoveEffect repo repo')
    (hget : repo'.simulationItems.get? key = some item') :
    repo.simulationItems.get? key = some item' ∨
      ∃ operation item, repo.simulationItems.get? key = some item ∧
        RecordMove operation item item' := by
  rcases hmove.records key with hsame | ⟨operation, item, item'', _, hitem, hitem'', hstep⟩
  · exact Or.inl (hsame.symm.trans hget)
  · rw [hitem''] at hget
    cases hget
    exact Or.inr ⟨operation, item, hitem, hstep⟩

theorem PublishEffect.record_before {publication : Publication}
    (hpublish : PublishEffect publication repo repo')
    (hget : repo'.simulationItems.get? key = some item') :
    (key ≠ publication.claim.itemKey ∧ repo.simulationItems.get? key = some item') ∨
      ∃ operation item, key = publication.claim.itemKey ∧
        repo.simulationItems.get? key = some item ∧
        item.claimGeneration = publication.claim.claimGeneration ∧
        item' = publishedItem operation publication.terminal item := by
  obtain ⟨operation, item, hitem, _, _, hgen, hafter⟩ := hpublish.published
  rw [hafter, Dict.get?_set] at hget
  split at hget
  · rename_i hkey
    cases hget
    rw [← hkey] at hitem
    exact Or.inr ⟨operation, item, hkey, hitem, hgen, rfl⟩
  · rename_i hkey
    exact Or.inl ⟨hkey, hget⟩

theorem RecordMove.waveItemId_eq (h : RecordMove operation item item') :
    item'.waveItemId = item.waveItemId := by
  cases h <;> rfl

end Admissions

theorem AdmissionInv.of_effect (hinv : AdmissionInv sha256Hex admitted e.repository)
    (hcall : ∀ a, call = .admitOperation a → a ∈ admitted)
    (heffect : ExecutionEffect sha256Hex call e e') :
    AdmissionInv sha256Hex admitted e'.repository := by
  cases heffect with
  | moved hmove _ _ =>
    refine hinv.of_sameOperations hmove.operations fun key item' hget => ?_
    rcases hmove.record_before hget with hold | ⟨_, item, hitem, hstep⟩
    · exact ⟨item', hold, rfl⟩
    · exact ⟨item, hitem, hstep.waveItemId_eq⟩
  | admitted a ha hadmitted _ _ => exact hinv.of_admitted (hcall a ha) hadmitted
  | claimed claimCall claims hclaim _ _ =>
    refine hinv.of_sameOperations hclaim.operations fun key item' hget => ?_
    rcases hclaim.record_before hget with hold | ⟨_, _, _, _, item, hitem, _, rfl, _⟩
    · exact ⟨item', hold, rfl⟩
    · exact ⟨item, hitem, rfl⟩
  | published publication hpublish _ _ =>
    refine hinv.of_sameOperations hpublish.operations fun key item' hget => ?_
    rcases hpublish.record_before hget with ⟨_, hold⟩ | ⟨_, item, _, hitem, _, rfl⟩
    · exact ⟨item', hold, rfl⟩
    · exact ⟨item, hitem, rfl⟩

/-! ## The latest claim -/

theorem itemKey_eq_iff (c : WaveSimulationItemClaim) (operationId waveItemId : String) :
    c.itemKey = (operationId, waveItemId) ↔
      c.operationId = operationId ∧ c.waveItemId = waveItemId :=
  Prod.mk.injEq _ _ _ _ ▸ Iff.rfl

theorem latestClaim_append_of_forall_ne (hissued : e'.issued = e.issued ++ claims)
    (hne : ∀ c ∈ claims, c.itemKey ≠ key) :
    e'.latestClaim key.1 key.2 = e.latestClaim key.1 key.2 := by
  have hnone : claims.reverse.find?
      (fun c => c.operationId = key.1 ∧ c.waveItemId = key.2) = none := by
    rw [List.find?_eq_none]
    intro c hc hmatch
    rw [List.mem_reverse] at hc
    exact hne c hc ((itemKey_eq_iff c key.1 key.2).mpr (of_decide_eq_true hmatch))
  rw [Execution.latestClaim, Execution.latestClaim, hissued, List.reverse_append,
    List.find?_append, hnone, Option.none_or]

theorem latestClaim_append_of_mem (hissued : e'.issued = e.issued ++ claims)
    (hdistinct : (claims.map WaveSimulationItemClaim.itemKey).Nodup) {c : WaveSimulationItemClaim}
    (hc : c ∈ claims) : e'.latestClaim c.itemKey.1 c.itemKey.2 = some c := by
  have hfind : claims.reverse.find?
      (fun d => d.operationId = c.itemKey.1 ∧ d.waveItemId = c.itemKey.2) = some c := by
    cases hfound : claims.reverse.find?
        (fun d => d.operationId = c.itemKey.1 ∧ d.waveItemId = c.itemKey.2) with
    | none =>
      rw [List.find?_eq_none] at hfound
      exact absurd (decide_eq_true ⟨rfl, rfl⟩) (hfound c (List.mem_reverse.mpr hc))
    | some d =>
      have hmem : d ∈ claims := List.mem_reverse.mp (List.mem_of_find?_eq_some hfound)
      have hmatch := List.find?_some hfound
      have hkey : d.itemKey = c.itemKey :=
        (itemKey_eq_iff d c.itemKey.1 c.itemKey.2).mpr (of_decide_eq_true hmatch)
      rw [List.inj_on_of_nodup_map hdistinct hmem hc hkey]
  rw [Execution.latestClaim, hissued, List.reverse_append, List.find?_append, hfind, Option.some_or]

/-! ## Generations fence the claims -/

/-- The generation of a record bounds its claims and publications, a running record carries
its latest claim, and exactly the succeeded records carry a result. -/
structure FenceInv (e : Execution) : Prop where
  result : ∀ key item, e.repository.simulationItems.get? key = some item →
    (item.status = .succeeded ↔ item.resultItem.isSome = true)
  issued : ∀ c ∈ e.issued, ∃ item, e.repository.simulationItems.get? c.itemKey = some item ∧
    c.claimGeneration ≤ item.claimGeneration
  running : ∀ key item, e.repository.simulationItems.get? key = some item →
    item.status = .running → ∃ c, e.latestClaim key.1 key.2 = some c ∧
      item.claimToken = some c.claimToken ∧ item.claimGeneration = c.claimGeneration
  accepted : ∀ c ∈ e.accepted, ∃ item,
    e.repository.simulationItems.get? c.itemKey = some item ∧
    c.claimGeneration ≤ item.claimGeneration ∧
    (item.status = .running → c.claimGeneration < item.claimGeneration)
  distinct : (e.accepted.map WaveSimulationItemClaim.fence).Nodup

theorem fenceInv_new : FenceInv Execution.new := by
  constructor <;> simp [Execution.new, WaveRepository.new]

section Fences

variable {e e' : Execution}

variable {item : WaveSimulationItemRecord}

theorem latestClaim_congr (hissued : e'.issued = e.issued) (operationId waveItemId : String) :
    e'.latestClaim operationId waveItemId = e.latestClaim operationId waveItemId := by
  rw [Execution.latestClaim, Execution.latestClaim, hissued]

theorem RecordMove.fields {operation : WaveSimulationOperation} {item' : WaveSimulationItemRecord}
    (h : RecordMove operation item item') :
    item'.claimGeneration = item.claimGeneration ∧ item'.resultItem = item.resultItem ∧
      item'.status ≠ .running ∧ item'.status ≠ .succeeded ∧ item.status ≠ .succeeded := by
  cases h with
  | retried _ hretry =>
    refine ⟨rfl, rfl, nofun, nofun, ?_⟩
    rw [status_of_isRetryable hretry]
    nofun
  | cancelled _ hopen =>
    refine ⟨rfl, rfl, nofun, nofun, ?_⟩
    rcases hopen with hpending | hrunning | hretry
    · rw [hpending]
      nofun
    · rw [hrunning]
      nofun
    · rw [status_of_isRetryable hretry]
      nofun

theorem MoveEffect.record_after (hmove : MoveEffect e.repository e'.repository)
    {key : String × String} (hget : e.repository.simulationItems.get? key = some item) :
    ∃ item', e'.repository.simulationItems.get? key = some item' ∧
      item'.claimGeneration = item.claimGeneration ∧
      (item'.status = .running → item.status = .running) := by
  rcases hmove.records key with hsame | ⟨operation, item₀, item', _, hitem, hitem', hstep⟩
  · exact ⟨item, hsame.trans hget, rfl, id⟩
  · rw [hget] at hitem
    cases hitem
    exact ⟨item', hitem', hstep.fields.1, fun hrun => absurd hrun hstep.fields.2.2.1⟩

theorem FenceInv.of_move (hinv : FenceInv e) (hmove : MoveEffect e.repository e'.repository)
    (hissued : e'.issued = e.issued) (haccepted : e'.accepted = e.accepted) : FenceInv e' := by
  refine ⟨?_, ?_, ?_, ?_, ?_⟩
  · intro key item' hget
    rcases hmove.record_before hget with hold | ⟨_, item, hitem, hstep⟩
    · exact hinv.result key item' hold
    · obtain ⟨_, hresult, _, hne', hne⟩ := hstep.fields
      rw [hresult, ← hinv.result key item hitem]
      exact ⟨fun h => absurd h hne', fun h => absurd h hne⟩
  · intro c hc
    rw [hissued] at hc
    obtain ⟨item, hitem, hle⟩ := hinv.issued c hc
    obtain ⟨item', hitem', hgen, _⟩ := hmove.record_after hitem
    exact ⟨item', hitem', hgen.symm ▸ hle⟩
  · intro key item' hget hrun
    rcases hmove.record_before hget with hold | ⟨_, item, _, hstep⟩
    · rw [latestClaim_congr hissued]
      exact hinv.running key item' hold hrun
    · exact absurd hrun hstep.fields.2.2.1
  · intro c hc
    rw [haccepted] at hc
    obtain ⟨item, hitem, hle, hlt⟩ := hinv.accepted c hc
    obtain ⟨item', hitem', hgen, hrun⟩ := hmove.record_after hitem
    rw [← hgen] at hle hlt
    exact ⟨item', hitem', hle, fun h => hlt (hrun h)⟩
  · rw [haccepted]
    exact hinv.distinct

theorem FenceInv.of_claim (hinv : FenceInv e) {claimCall : ClaimCall}
    {claims : List WaveSimulationItemClaim}
    (hclaim : ClaimEffect claimCall e.repository e'.repository claims)
    (hissued : e'.issued = e.issued ++ claims) (haccepted : e'.accepted = e.accepted) :
    FenceInv e' := by
  -- a record that was there is untouched, or runs under a generation above its old one
  have hafter : ∀ key item, e.repository.simulationItems.get? key = some item →
      ∃ item', e'.repository.simulationItems.get? key = some item' ∧
        (item' = item ∨ item.claimGeneration < item'.claimGeneration) := by
    intro key item hget
    by_cases hkey : ∃ c ∈ claims, c.itemKey = key
    · obtain ⟨c, hc, rfl⟩ := hkey
      obtain ⟨operation, item₀, hitem, _, hitem', _⟩ := hclaim.taken c hc
      rw [hget] at hitem
      cases hitem
      exact ⟨_, hitem', Or.inr (Nat.lt_succ_self _)⟩
    · push Not at hkey
      exact ⟨item, (hclaim.others key hkey).trans hget, Or.inl rfl⟩
  refine ⟨?_, ?_, ?_, ?_, ?_⟩
  · intro key item' hget
    rcases hclaim.record_before hget with hold | ⟨_, _, _, _, item, hitem, hclaimable, rfl, _⟩
    · exact hinv.result key item' hold
    · show SimulationItemStatus.running = .succeeded ↔ item.resultItem.isSome = true
      rw [← hinv.result key item hitem]
      refine ⟨nofun, fun h => ?_⟩
      rcases status_of_claimable hclaimable with hs | hs <;> rw [hs] at h <;> cases h
  · intro c hc
    rw [hissued, List.mem_append] at hc
    rcases hc with hc | hc
    · obtain ⟨item, hitem, hle⟩ := hinv.issued c hc
      obtain ⟨item', hitem', rfl | hlt⟩ := hafter c.itemKey item hitem
      · exact ⟨item', hitem', hle⟩
      · exact ⟨item', hitem', by omega⟩
    · obtain ⟨operation, item, _, _, hitem', hgen⟩ := hclaim.taken c hc
      exact ⟨_, hitem', hgen.le⟩
  · intro key item' hget hrun
    rcases hclaim.record_before hget with hold | ⟨c, hc, rfl, operation, item, _, _, rfl, hgen⟩
    · by_cases hkey : ∃ c ∈ claims, c.itemKey = key
      · obtain ⟨c, hc, rfl⟩ := hkey
        obtain ⟨operation, item, _, _, hitem', hgen⟩ := hclaim.taken c hc
        rw [hitem'] at hget
        cases hget
        exact ⟨c, latestClaim_append_of_mem hissued hclaim.distinct hc, rfl, hgen.symm⟩
      · push Not at hkey
        rw [latestClaim_append_of_forall_ne hissued hkey]
        exact hinv.running key item' hold hrun
    · exact ⟨c, latestClaim_append_of_mem hissued hclaim.distinct hc, rfl, hgen.symm⟩
  · intro c hc
    rw [haccepted] at hc
    obtain ⟨item, hitem, hle, hlt⟩ := hinv.accepted c hc
    obtain ⟨item', hitem', rfl | hgt⟩ := hafter c.itemKey item hitem
    · exact ⟨item', hitem', hle, hlt⟩
    · exact ⟨item', hitem', by omega, fun _ => by omega⟩
  · rw [haccepted]
    exact hinv.distinct

theorem Publication.terminal_status (publication : Publication) :
    publication.terminal.status ≠ .running ∧
      (publication.terminal.status = .succeeded ↔
        publication.terminal.resultItem.isSome = true) := by
  cases publication <;> simp [Publication.terminal]

theorem FenceInv.of_publish (hinv : FenceInv e) {publication : Publication}
    (hpublish : PublishEffect publication e.repository e'.repository)
    (hissued : e'.issued = e.issued)
    (haccepted : e'.accepted = e.accepted ++ [publication.claim]) : FenceInv e' := by
  obtain ⟨operation, item₀, hitem₀, hrun₀, _, hgen₀, hset⟩ := hpublish.published
  have hnotRunning := publication.terminal_status.1
  -- a record that was there keeps its generation, and runs only if it ran before
  have hafter : ∀ key item, e.repository.simulationItems.get? key = some item →
      ∃ item', e'.repository.simulationItems.get? key = some item' ∧
        item'.claimGeneration = item.claimGeneration ∧
        (item'.status = .running → item.status = .running) := by
    intro key item hget
    rw [hset, Dict.get?_set]
    split
    · rename_i hkey
      rw [hkey, hitem₀] at hget
      cases hget
      exact ⟨_, rfl, rfl, fun h => absurd h hnotRunning⟩
    · exact ⟨item, hget, rfl, id⟩
  refine ⟨?_, ?_, ?_, ?_, ?_⟩
  · intro key item' hget
    rcases hpublish.record_before hget with ⟨_, hold⟩ | ⟨_, item, _, _, _, rfl⟩
    · exact hinv.result key item' hold
    · exact publication.terminal_status.2
  · intro c hc
    rw [hissued] at hc
    obtain ⟨item, hitem, hle⟩ := hinv.issued c hc
    obtain ⟨item', hitem', hgen, _⟩ := hafter c.itemKey item hitem
    exact ⟨item', hitem', hgen.symm ▸ hle⟩
  · intro key item' hget hrun
    rcases hpublish.record_before hget with ⟨_, hold⟩ | ⟨_, item, _, _, _, rfl⟩
    · rw [latestClaim_congr hissued]
      exact hinv.running key item' hold hrun
    · exact absurd hrun hnotRunning
  · intro c hc
    rw [haccepted, List.mem_append, List.mem_singleton] at hc
    rcases hc with hc | rfl
    · obtain ⟨item, hitem, hle, hlt⟩ := hinv.accepted c hc
      obtain ⟨item', hitem', hgen, hrun⟩ := hafter c.itemKey item hitem
      rw [← hgen] at hle hlt
      exact ⟨item', hitem', hle, fun h => hlt (hrun h)⟩
    · refine ⟨publishedItem operation publication.terminal item₀, ?_, hgen₀.ge,
        fun h => absurd h hnotRunning⟩
      rw [hset, Dict.get?_set_self]
  · -- the item runs, so every earlier publication has a smaller generation
    rw [haccepted, List.map_append, List.nodup_append]
    refine ⟨hinv.distinct, List.nodup_singleton _, ?_⟩
    intro fence hmem fence' hmem'
    obtain ⟨c, hc, rfl⟩ := List.mem_map.mp hmem
    rw [List.map_singleton, List.mem_singleton] at hmem'
    rw [hmem']
    intro heq
    obtain ⟨hkey, hgen⟩ := Prod.mk.inj heq
    obtain ⟨item, hitem, _, hlt⟩ := hinv.accepted c hc
    rw [hkey, hitem₀] at hitem
    cases hitem
    have := hlt hrun₀
    omega

theorem FenceInv.of_admitted (hinv : FenceInv e) {sha256Hex : String → String}
    {a : SimulationAdmission}
    (hfresh : ∀ key : String × String, key.1 = a.operationId sha256Hex →
      e.repository.simulationItems.get? key = none)
    (hadmitted : AdmitEffect (a.operation sha256Hex) (a.items sha256Hex) e.repository e'.repository)
    (hissued : e'.issued = e.issued) (haccepted : e'.accepted = e.accepted) : FenceInv e' := by
  have hkept : ∀ key item, e.repository.simulationItems.get? key = some item →
      e'.repository.simulationItems.get? key = some item := by
    intro key item hget
    rw [hadmitted.records, get?_storeItems_of_forall_ne _ e.repository.simulationItems]
    · exact hget
    · intro row _ heq
      rw [hfresh key (congrArg Prod.fst heq.symm)] at hget
      cases hget
  -- a record of the admission has every default of a new record
  have hnew : ∀ item ∈ a.items sha256Hex, item.status = .pending ∧ item.resultItem = none := by
    intro item hitem
    obtain ⟨row, _, rfl⟩ := List.mem_map.mp hitem
    exact ⟨rfl, rfl⟩
  refine ⟨?_, ?_, ?_, ?_, ?_⟩
  · intro key item hget
    rcases hadmitted.record_cases hget with hold | ⟨hmem, _⟩
    · exact hinv.result key item hold
    · rw [(hnew item hmem).1, (hnew item hmem).2]
      exact ⟨nofun, nofun⟩
  · intro c hc
    rw [hissued] at hc
    obtain ⟨item, hitem, hle⟩ := hinv.issued c hc
    exact ⟨item, hkept _ _ hitem, hle⟩
  · intro key item hget hrun
    rcases hadmitted.record_cases hget with hold | ⟨hmem, _⟩
    · rw [latestClaim_congr hissued]
      exact hinv.running key item hold hrun
    · rw [(hnew item hmem).1] at hrun
      cases hrun
  · intro c hc
    rw [haccepted] at hc
    obtain ⟨item, hitem, hle⟩ := hinv.accepted c hc
    exact ⟨item, hkept _ _ hitem, hle⟩
  · rw [haccepted]
    exact hinv.distinct

end Fences

/-! ## Runs -/

/-- Both invariants, for the admissions of an interleaving. -/
def ExecutionInv (sha256Hex : String → String) (admitted : List SimulationAdmission)
    (e : Execution) : Prop :=
  AdmissionInv sha256Hex admitted e.repository ∧ FenceInv e

theorem executionInv_step (hids : OperationIdsInjective sha256Hex admitted) (e : Execution)
    (call : SimulationCall) (hinv : ExecutionInv sha256Hex admitted e)
    (hcall : ∀ a, call = .admitOperation a → a ∈ admitted) :
    ExecutionInv sha256Hex admitted (e.step sha256Hex call) := by
  obtain ⟨hadm, hfence⟩ := hinv
  have heffect := step_effect sha256Hex hadm.keyed call
  refine ⟨hadm.of_effect hcall heffect, ?_⟩
  cases heffect with
  | moved hmove hissued haccepted => exact hfence.of_move hmove hissued haccepted
  | admitted a ha hadmitted hissued haccepted =>
    refine hfence.of_admitted (fun key hkey => hadm.record_eq_none ?_) hadmitted hissued haccepted
    rw [hkey]
    exact hadm.operationId_new hids (hcall a ha) hadmitted.newKey
  | claimed claimCall claims hclaim hissued haccepted =>
    exact hfence.of_claim hclaim hissued haccepted
  | published publication hpublish hissued haccepted =>
    exact hfence.of_publish hpublish hissued haccepted

theorem mem_admissions {a : SimulationAdmission} (h : SimulationCall.admitOperation a ∈ calls) :
    a ∈ admissions calls :=
  List.mem_filterMap.mpr ⟨.admitOperation a, h, rfl⟩

theorem along_admissions (e : Execution) (hsub : ∀ call ∈ calls, call ∈ all) :
    Runs.Along (Execution.step sha256Hex) (fun _ call => ∀ a, call = .admitOperation a →
        a ∈ admissions all)
      e calls :=
  Runs.Along.of_forall e (fun call hcall _ ha => mem_admissions (ha ▸ hsub call hcall))

theorem executionInv_after (hids : OperationIdsInjective sha256Hex (admissions all))
    (hsub : ∀ call ∈ calls, call ∈ all) :
    ExecutionInv sha256Hex (admissions all) (Execution.after sha256Hex calls) :=
  Runs.run_invariant _ (executionInv_step hids) (along_admissions _ hsub)
    ⟨admissionInv_new, fenceInv_new⟩

theorem finished_step (hids : OperationIdsInjective sha256Hex admitted)
    (hinv : ExecutionInv sha256Hex admitted e)
    (hcall : ∀ a, call = .admitOperation a → a ∈ admitted)
    (hop : e.repository.simulationOperations.get? key.1 = some operation)
    (hitem : e.repository.simulationItems.get? key = some item) (hfin : Finished operation item) :
    (e.step sha256Hex call).repository.simulationItems.get? key = some item ∧
      ∃ operation', (e.step sha256Hex call).repository.simulationOperations.get? key.1 =
        some operation' ∧ Finished operation' item := by
  have hops : ∀ {repo' : WaveRepository}, SameOperations e.repository repo' →
      ∃ operation', repo'.simulationOperations.get? key.1 = some operation' ∧
        Finished operation' item := by
    intro repo' hsame
    obtain ⟨operation', hop', hid⟩ := hsame.exists_after hop
    exact ⟨operation', hop', hfin.congr hid⟩
  cases step_effect sha256Hex hinv.1.keyed call with
  | moved hmove _ _ =>
    refine ⟨?_, hops hmove.operations⟩
    rcases hmove.records key with hsame | ⟨operation₀, item₀, _, hop₀, hitem₀, _, hstep⟩
    · exact hsame.trans hitem
    · rw [hop] at hop₀
      rw [hitem] at hitem₀
      cases hop₀
      cases hitem₀
      exact absurd hfin hstep.not_finished
  | admitted a ha hadmitted _ _ =>
    have hnew := hinv.1.operationId_new hids (hcall a ha) hadmitted.newKey
    have hne : key.1 ≠ (a.operation sha256Hex).operationId := by
      intro heq
      have hsome := hop
      rw [heq] at hsome
      cases hnew.symm.trans hsome
    constructor
    · rw [hadmitted.records, get?_storeItems_of_forall_ne _ e.repository.simulationItems]
      · exact hitem
      · intro row _ heq
        exact hne (congrArg Prod.fst heq.symm)
    · refine ⟨operation, ?_, hfin⟩
      rw [hadmitted.operations, Dict.get?_set_of_ne _ _ hne]
      exact hop
  | claimed claimCall claims hclaim _ _ =>
    refine ⟨?_, hops hclaim.operations⟩
    rw [hclaim.others key ?_]
    · exact hitem
    · rintro c hc rfl
      obtain ⟨_, item₀, hitem₀, hclaimable, _, _⟩ := hclaim.taken c hc
      rw [hitem] at hitem₀
      cases hitem₀
      rcases status_of_claimable hclaimable with hs | hs
      · exact hfin.ne_pending hs
      · exact hfin.ne_running hs
  | published publication hpublish _ _ =>
    refine ⟨?_, hops hpublish.operations⟩
    obtain ⟨_, item₀, hitem₀, hrun, _, _, hset⟩ := hpublish.published
    rw [hset, Dict.get?_set_of_ne]
    · exact hitem
    · rintro rfl
      rw [hitem] at hitem₀
      cases hitem₀
      exact hfin.ne_running hrun

theorem finished_run {past rest : List SimulationCall}
    (hids : OperationIdsInjective sha256Hex (admissions (past ++ rest)))
    (hop : (Execution.after sha256Hex past).repository.simulationOperations.get? key.1 =
      some operation)
    (hitem : (Execution.after sha256Hex past).repository.simulationItems.get? key = some item)
    (hfin : Finished operation item) :
    (Execution.after sha256Hex (past ++ rest)).repository.simulationItems.get? key = some item := by
  have hpast : ExecutionInv sha256Hex (admissions (past ++ rest))
      (Execution.after sha256Hex past) :=
    executionInv_after hids (fun call hcall => List.mem_append_left rest hcall)
  rw [Execution.after, Runs.run_append]
  -- the record, its operation and the invariants, followed through the remaining calls
  refine (Runs.run_invariant
    (fun e => ExecutionInv sha256Hex (admissions (past ++ rest)) e ∧
      e.repository.simulationItems.get? key = some item ∧
      ∃ operation', e.repository.simulationOperations.get? key.1 = some operation' ∧
        Finished operation' item) ?_
    (along_admissions _ (fun call hcall => List.mem_append_right past hcall))
    ⟨hpast, hitem, operation, hop, hfin⟩).2.1
  rintro e call ⟨hinv, hget, operation', hop', hfin'⟩ hcall
  exact ⟨executionInv_step hids e call hinv hcall, finished_step hids hinv hcall hop' hget hfin'⟩

/-- Fencing of wave simulation items, over every interleaving of the repository's calls by any
number of workers.  A publication is accepted only while the item runs, and only under the
token and the generation of the latest claim of the item; no two accepted publications are
made under one claim; a finished record never changes; and exactly the succeeded records
have a result. -/
theorem simulation_items_fenced (sha256Hex : String → String) (calls : List SimulationCall)
    (hids : OperationIdsInjective sha256Hex (admissions calls)) :
    (∀ publication repo',
      publishSimulationItem (Execution.after sha256Hex calls).repository publication =
        .ok (repo', true) →
      ∃ item latest,
        (Execution.after sha256Hex calls).repository.simulationItems.get?
          (publication.claim.operationId, publication.claim.waveItemId) = some item ∧
        item.status = .running ∧
        (Execution.after sha256Hex calls).latestClaim publication.claim.operationId
          publication.claim.waveItemId = some latest ∧
        publication.claim.claimToken = latest.claimToken ∧
        publication.claim.claimGeneration = latest.claimGeneration) ∧
    ((Execution.after sha256Hex calls).accepted.map WaveSimulationItemClaim.fence).Nodup ∧
    (∀ past rest, calls = past ++ rest → ∀ key operation item,
      (Execution.after sha256Hex past).repository.simulationOperations.get? key.1 =
        some operation →
      (Execution.after sha256Hex past).repository.simulationItems.get? key = some item →
      Finished operation item →
      (Execution.after sha256Hex calls).repository.simulationItems.get? key = some item) ∧
    (∀ key item, (Execution.after sha256Hex calls).repository.simulationItems.get? key =
        some item →
      (item.status = .succeeded ↔ item.resultItem.isSome = true)) := by
  obtain ⟨_, hfence⟩ := executionInv_after hids (fun call hcall => hcall)
  refine ⟨?_, hfence.distinct, ?_, hfence.result⟩
  · intro publication repo' hok
    obtain ⟨_, item, hitem, hrun, htoken, hgen, _⟩ := (publishSimulationItem_effect hok).published
    obtain ⟨latest, hlatest, htoken', hgen'⟩ := hfence.running _ item hitem hrun
    refine ⟨item, latest, hitem, hrun, hlatest, ?_, hgen.symm.trans hgen'⟩
    exact Option.some.inj (htoken.symm.trans htoken')
  · rintro past rest rfl key operation item hop hitem hfin
    exact finished_run hids hop hitem hfin

/-! ### A takeover after an expired lease -/

/-- SHA-256 on the three texts that the run below hashes. -/
def sampleSha256Hex (text : String) : String :=
  if text = "9:tenant-sg7:dwv_0015:key-1" then
    "14f63568252b7e25882bbdf2b1316d0ff62244b80db0f9daa19b4fab98ef1f7a"
  else if text = "9:tenant-sg5:key-1" then
    "8d6272c1a3f67de67eeee6ec635bf2bb0a91c1148299332c367fd1da7d5e9cdb"
  else "44136fa355b3678a1146ad16f7e8649e94fb4fc21fe77e8310c060f61caaff8a"

def sampleItems : List RebalanceWaveItem :=
  [{ waveItemId := "dwi_001", portfolioId := "PB_SG_GLOBAL_BAL_001", state := .sourceReady }]

def sampleWave : RebalanceWave :=
  { waveId := "dwv_001"
    state := .sourceChecked
    trigger :=
      { triggerType := .explicitPortfolioList
        triggerId := "manual-wave-20260503-001"
        rationale := "Review explicitly selected portfolios after model drift triage." }
    asOfDate := "2026-05-03"
    createdBy := "pm_001"
    correlationId := "corr-wave-001"
    tenantId := some "tenant-sg"
    items := sampleItems
    aggregateMetrics := aggregateWaveItems sampleItems }

def sampleAdmission : SimulationAdmission :=
  { waveId := "dwv_001"
    tenantId := "tenant-sg"
    actorId := "pm_001"
    correlationId := "corr-sim-001"
    idempotencyKey := "key-1"
    wave := sampleWave
    resolvedInputs := .empty
    itemSourceIdentityHash := fun _ => "sha256:item"
    requestHash := "sha256:request"
    sourceIdentityHash := "sha256:source"
    riskAuthorityContextHash := none
    methods := []
    maxConcurrency := 4
    maxAttempts := 3
    event :=
      { eventId := "dwe_001"
        waveId := "dwv_001"
        fromState := some .sourceChecked
        toState := .simulating
        eventType := "STATE_TRANSITION"
        actorId := "pm_001"
        reasonCode := "WAVE_ASYNC_SIMULATION_ACCEPTED"
        correlationId := "corr-sim-001"
        createdAt := 0 }
    now := 0 }

/-- A worker claims one item of the sample operation for ten units of time. -/
def sampleClaimCall (workerId uuid4Hex : String) (claimedAt : Int) : ClaimCall :=
  { tenantId := "tenant-sg"
    operationId := "wso_14f63568252b7e25882bbdf2b1316d0f"
    workerId := workerId
    limit := 1
    claimedAt := claimedAt
    leaseExpiresAt := claimedAt + 10
    uuid4Hex := fun _ => uuid4Hex }

/-- A worker publishes a result under a claim of the sample item. -/
def samplePublication (call : ClaimCall) (generation : Nat) (completedAt : Int) : Publication :=
  .result
    { operationId := call.operationId
      tenantId := call.tenantId
      waveId := "dwv_001"
      waveItemId := "dwi_001"
      portfolioId := "PB_SG_GLOBAL_BAL_001"
      inputPayload := "\x7b\x7d"
      inputHash := "sha256:44136fa355b3678a1146ad16f7e8649e94fb4fc21fe77e8310c060f61caaff8a"
      sourceIdentityHash := "sha256:item"
      workerId := call.workerId
      claimToken := call.token 0
      claimGeneration := generation
      attemptCount := generation
      leaseExpiresAt := call.leaseExpiresAt }
    { waveItemId := "dwi_001", portfolioId := "PB_SG_GLOBAL_BAL_001", state := .simulated }
    completedAt

/-- The second worker takes the item over; both publish, the first one late. -/
def takeoverCalls : List SimulationCall :=
  [.saveWave sampleWave none none "tenant-sg",
   .admitOperation sampleAdmission,
   .claim (sampleClaimCall "worker-1" "u1" 1),
   .claim (sampleClaimCall "worker-2" "u2" 20),
   .publish (samplePublication (sampleClaimCall "worker-1" "u1" 1) 1 21),
   .publish (samplePublication (sampleClaimCall "worker-2" "u2" 20) 2 22)]

theorem OperationIdsInjective.of_singleton (sha256Hex : String → String)
    (a : SimulationAdmission) : OperationIdsInjective sha256Hex [a] := by
  intro x hx y hy _
  rw [List.mem_singleton] at hx hy
  rw [hx, hy]
  exact ⟨rfl, rfl⟩

theorem simulation_items_fenced_takeover :
    (Execution.after sampleSha256Hex takeoverCalls).issued.map
      WaveSimulationItemClaim.claimGeneration = [1, 2] ∧
    (Execution.after sampleSha256Hex takeoverCalls).accepted.map
      WaveSimulationItemClaim.claimGeneration = [2] ∧
    ((Execution.after sampleSha256Hex takeoverCalls).accepted.map
      WaveSimulationItemClaim.fence).Nodup :=
  ⟨by decide +kernel, by decide +kernel,
    (simulation_items_fenced sampleSha256Hex takeoverCalls
      (.of_singleton sampleSha256Hex sampleAdmission)).2.1⟩

end LotusManage.Waves
