import LotusManage.Waves.StoreAgreement

/-!
# Three readings of a lease

A claim, a publication and a cancellation each compare the lease of a running record with
their own time.  A claim takes the record over when the lease is not in the future
(`lease <= t`), a publication is refused when the lease is in the past (`lease < t`), and
a cancellation takes the record for abandoned when the lease is in the past.  The SQL of
the PostgreSQL store makes the same three comparisons.

The readings agree at every instant but one.  At the expiry itself the record can be
claimed by another worker while its claimant may still publish, and a cancellation waits
for that claimant.

`publish_reading` and `cancel_reading` say that the comparisons below are what the calls act on;
of a claim, `ClaimEffect.taken` says it.
-/

namespace LotusManage.Waves

/-- What the three calls make of a lease at one instant. -/
structure LeaseReadings where
  reclaimable : Bool
  publicationRejected : Bool
  abandoned : Bool
  deriving DecidableEq

/-- The three readings are one. -/
def LeaseReadings.Agree (readings : LeaseReadings) : Prop :=
  (readings.reclaimable = true ↔ readings.publicationRejected = true) ∧
    (readings.abandoned = true ↔ readings.reclaimable = true)

instance (readings : LeaseReadings) : Decidable readings.Agree :=
  inferInstanceAs (Decidable (_ ∧ _))

/-- The readings of the in-memory store. -/
def memoryReadings (operation : WaveSimulationOperation) (item : WaveSimulationItemRecord)
    (claim : WaveSimulationItemClaim) (t : Int) : LeaseReadings :=
  { reclaimable := item.claimable t
    publicationRejected := refusesPublication item claim t
    abandoned := cancels operation t item }

/-- The readings of the PostgreSQL store. -/
def postgresReadings (operation : WaveSimulationOperation) (item : WaveSimulationItemRecord)
    (claim : WaveSimulationItemClaim) (t : Int) : LeaseReadings :=
  { reclaimable := PostgresStore.claimable t item
    publicationRejected := !PostgresStore.acceptsRow claim t item
    abandoned := PostgresStore.cancelsRow operation item.tenantId item.operationId t item }

/-- The claim under which a running record is held. -/
structure HeldUnder (item : WaveSimulationItemRecord) (claim : WaveSimulationItemClaim)
    (lease : Int) : Prop where
  running : item.status = .running
  leaseExpiresAt : item.leaseExpiresAt = some lease
  tenantId : item.tenantId = claim.tenantId
  operationId : item.operationId = claim.operationId
  waveItemId : item.waveItemId = claim.waveItemId
  claimToken : item.claimToken = some claim.claimToken
  claimGeneration : item.claimGeneration = claim.claimGeneration

section Readings

variable {item : WaveSimulationItemRecord} {claim : WaveSimulationItemClaim} {lease : Int}

theorem memoryReadings_eq (h : HeldUnder item claim lease) (operation : WaveSimulationOperation)
    (t : Int) :
    memoryReadings operation item claim t =
      { reclaimable := decide (lease ≤ t)
        publicationRejected := !decide (t ≤ lease)
        abandoned := decide (lease < t) } := by
  simp [memoryReadings, WaveSimulationItemRecord.claimable, refusesPublication, cancels,
    waveSimulationItemIsRetryable, h.running, h.leaseExpiresAt, h.tenantId, h.claimToken,
    h.claimGeneration]

theorem postgresReadings_eq (h : HeldUnder item claim lease) (operation : WaveSimulationOperation)
    (t : Int) :
    postgresReadings operation item claim t =
      { reclaimable := decide (lease ≤ t)
        publicationRejected := !decide (t ≤ lease)
        abandoned := decide (lease < t) } := by
  simp [postgresReadings, PostgresStore.claimable, PostgresStore.acceptsRow,
    PostgresStore.cancelsRow, PostgresStore.ofOperation, PostgresStore.retryWaiting, h.running,
    h.leaseExpiresAt, h.tenantId, h.operationId, h.waveItemId, h.claimToken, h.claimGeneration]

theorem agree_comparisons_iff (lease t : Int) :
    LeaseReadings.Agree
      { reclaimable := decide (lease ≤ t)
        publicationRejected := !decide (t ≤ lease)
        abandoned := decide (lease < t) } ↔ t ≠ lease := by
  simp only [LeaseReadings.Agree, decide_eq_true_eq, Bool.not_eq_true', decide_eq_false_iff_not]
  omega

/-- The readings of a lease agree, in both stores, exactly at the instants that are not the
expiry of the lease. -/
theorem lease_readings_agree_iff (operation : WaveSimulationOperation)
    (item : WaveSimulationItemRecord) (claim : WaveSimulationItemClaim) (lease t : Int)
    (h : HeldUnder item claim lease) :
    (memoryReadings operation item claim t).Agree ∧
        (postgresReadings operation item claim t).Agree ↔ t ≠ lease := by
  rw [memoryReadings_eq h, postgresReadings_eq h, and_self]
  exact agree_comparisons_iff lease t

end Readings

/-! ## The calls act on these readings -/

section Calls

variable {repo : WaveRepository}

variable {item : WaveSimulationItemRecord} {operation : WaveSimulationOperation}

theorem publish_reading {publication : Publication}
    (hitem : repo.simulationItems.get? publication.claim.itemKey = some item)
    (hget : repo.simulationOperations.get? publication.claim.operationId = some operation) :
    (publishSimulationItem repo publication).map Prod.snd =
      .ok (!refusesPublication item publication.claim publication.terminal.completedAt) := by
  replace hitem : repo.simulationItems.get?
      (publication.claim.operationId, publication.claim.waveItemId) = some item := hitem
  rw [publishSimulationItem, publishSimulationItemTerminal, hitem]
  dsimp only
  cases refusesPublication item publication.claim publication.terminal.completedAt with
  | true => rfl
  | false =>
    rw [if_neg Bool.false_ne_true, hget]
    rfl

/-- A cancellation of an operation that is not closed, with a running record, cancels the record
exactly when its reading takes it for abandoned. -/
theorem cancel_reading (hkeyed : RecordsKeyed repo.simulationItems) {key : String × String}
    (hget : repo.simulationOperations.get? key.1 = some operation)
    (hopen : operation.status.closedToCancel = false)
    (hitem : repo.simulationItems.get? key = some item)
    (htenant : item.tenantId = operation.tenantId) (hrunning : item.status = .running)
    (reasonCode : String) (cancelledAt : Int) :
    (cancelSimulationOperation repo operation.tenantId key.1 reasonCode
      cancelledAt).1.simulationItems.get? key =
      some (if cancels operation cancelledAt item then cancelledItem cancelledAt item
        else item) := by
  have houtstanding : (operationItems repo key.1 operation).any (outstanding operation) = true := by
    rw [List.any_eq_true]
    exact ⟨item, mem_operationItems.mpr ⟨key, rfl, hitem, htenant⟩, by
      simp [outstanding, hrunning]⟩
  rw [cancelSimulationOperation_eq hget, hopen, if_neg Bool.false_ne_true, if_pos houtstanding]
  show (cancelledRepository repo key.1 operation reasonCode cancelledAt).simulationItems.get? key =
    _
  rw [cancelledRepository, simulationItems_refresh]
  have hmap := get?_storeItems_map hkeyed key.1 operation.tenantId
    (cancels (cancelMarked operation reasonCode cancelledAt) cancelledAt)
    (cancelledItem cancelledAt) (fun _ => rfl) key
  rw [hitem, Option.map_some] at hmap
  refine hmap.trans (congrArg some (if_congr ?_ rfl rfl))
  -- the recorded reason is not read by the comparison
  exact ⟨fun h => h.2.2, fun h => ⟨rfl, htenant, h⟩⟩

end Calls

/-! ### The expiry itself -/

/-- The sample operation with its item claimed at 1 until 11. -/
def heldRepository : WaveRepository :=
  (Execution.after sampleSha256Hex
    [.saveWave sampleWave none none "tenant-sg", .admitOperation sampleAdmission,
     .claim (sampleClaimCall "worker-1" "u1" 1)]).repository

/-- The record and the claim under which it is held. -/
def heldItem : WaveSimulationItemRecord :=
  claimedItem (sampleAdmission.operation sampleSha256Hex) (sampleClaimCall "worker-1" "u1" 1)
    "wsc_u1" (sampleAdmission.itemRecord sampleSha256Hex
      { waveItemId := "dwi_001", portfolioId := "PB_SG_GLOBAL_BAL_001", state := .sourceReady } 0)

def heldClaim : WaveSimulationItemClaim :=
  (samplePublication (sampleClaimCall "worker-1" "u1" 1) 1 11).claim

theorem heldUnder_sample : HeldUnder heldItem heldClaim 11 := by
  constructor <;> decide +kernel

/-- At the expiry a second worker is granted the item, and in the same state the first worker's
publication is accepted and a cancellation leaves the item running. -/
theorem lease_live_and_expired_at_expiry :
    heldRepository.simulationItems.values = [heldItem] ∧
    HeldUnder heldItem heldClaim 11 ∧
    ((claimSimulationItems heldRepository (sampleClaimCall "worker-2" "u2" 11)).2.map
      WaveSimulationItemClaim.waveItemId) = ["dwi_001"] ∧
    (publishSimulationItem heldRepository
      (samplePublication (sampleClaimCall "worker-1" "u1" 1) 1 11)).map Prod.snd = .ok true ∧
    ((cancelSimulationOperation heldRepository "tenant-sg" "wso_14f63568252b7e25882bbdf2b1316d0f"
      "PM_WITHDRAWN" 11).1.simulationItems.values.map WaveSimulationItemRecord.status) =
        [.running] ∧
    memoryReadings (sampleAdmission.operation sampleSha256Hex) heldItem heldClaim 11 =
      { reclaimable := true, publicationRejected := false, abandoned := false } ∧
    postgresReadings (sampleAdmission.operation sampleSha256Hex) heldItem heldClaim 11 =
      { reclaimable := true, publicationRejected := false, abandoned := false } :=
  ⟨by decide +kernel, heldUnder_sample, by decide +kernel, by decide +kernel, by decide +kernel,
    by decide +kernel, by decide +kernel⟩

theorem lease_readings_agree_iff_after :
    HeldUnder heldItem heldClaim 11 ∧
    ((memoryReadings (sampleAdmission.operation sampleSha256Hex) heldItem heldClaim 12).Agree ∧
      (postgresReadings (sampleAdmission.operation sampleSha256Hex) heldItem heldClaim 12).Agree ↔
        (12 : Int) ≠ 11) :=
  ⟨heldUnder_sample,
    lease_readings_agree_iff (sampleAdmission.operation sampleSha256Hex) heldItem heldClaim 11 12
      heldUnder_sample⟩

end LotusManage.Waves
