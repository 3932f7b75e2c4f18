import LotusManage.Waves.ReconciliationRuns

/-!
# Services that nothing interrupts

`serve` runs a service from its first read to its last write: the wave commands, an admission,
`execute_wave_simulation_work` with its loop over claims, and the retries, cancellations and reads
of results, the last two with the reconciliation that they end with.

`services_interleave` ties these to the system of `WaveService`, in which a service is taken apart
into its repository calls.  `Leads` is the reachability there, `OwnIds` says that records, waves and
operations are stored under their own ids, which is what lets a service find again what it has read.
-/

namespace LotusManage.Waves

/-! ## The services -/

/-- One turn of a worker: the claim it asks for, and what it computes for it. -/
structure WorkTurn where
  claimedAt : Int
  leaseExpiresAt : Int
  uuid4Hex : Nat → String
  work : ClaimWork

/-- The claim call of a turn. -/
def WorkTurn.claimCall (turn : WorkTurn) (tenantId operationId workerId : String) : ClaimCall :=
  { tenantId := tenantId
    operationId := operationId
    workerId := workerId
    limit := 1
    claimedAt := turn.claimedAt
    leaseExpiresAt := turn.leaseExpiresAt
    uuid4Hex := turn.uuid4Hex }

/-- A request to a service. -/
inductive WaveRequest where
  | create (request : CreateRequest)
  | command (command : WaveCommand) (waveId tenantId : String)
  | admission (request : AdmitRequest) (waveId tenantId : String)
  | work (tenantId operationId workerId : String) (turns : List WorkTurn) (stamp : EventStamp)
  | results (tenantId operationId : String) (stamp : EventStamp)
  | retry (tenantId operationId : String) (waveItemIds : Option (List String)) (retriedAt : Int)
  | cancel (tenantId operationId reasonCode : String) (cancelledAt : Int) (stamp : EventStamp)

namespace Execution

variable (sha256Hex : String → String)

/-- `reconcile_wave_simulation_operation` -/
def reconcile (e : Execution) (tenantId operationId : String) (stamp : EventStamp) : Execution :=
  e.keepRound (reconcileWaveSimulationOperation e.repository tenantId operationId stamp)

/-- The loop of `execute_wave_simulation_work`, with one turn for each of `max_items`: where it ends,
and whether it ends without an exception. -/
def workLoop (tenantId operationId workerId : String) : Execution → List WorkTurn → Execution × Bool
  | e, [] => (e, true)
  | e, turn :: turns =>
    let call := turn.claimCall tenantId operationId workerId
    let claimed := e.step sha256Hex (.claim call)
    match (claimSimulationItems e.repository call).2 with
    | [] => (claimed, true)
    | claim :: _ =>
      match executeClaim sha256Hex claim
          (getWave claimed.repository claim.waveId claim.tenantId)
          (getSimulationOperation claimed.repository claim.tenantId claim.operationId) turn.work with
      | none => (claimed, false)
      | some publication =>
        match publishSimulationItem claimed.repository publication with
        | .error _ => (claimed, false)
        | .ok _ =>
          workLoop tenantId operationId workerId (claimed.step sha256Hex (.publish publication)) turns

/-- A service from its first read to its last write. -/
def serve (e : Execution) : WaveRequest → Execution
  | .create request => e.keep (createPersistedWave sha256Hex e.repository request)
  | .command command waveId tenantId => e.keep (command.persisted e.repository waveId tenantId)
  | .admission request waveId tenantId =>
    match getWave e.repository waveId tenantId with
    | none => e
    | some wave => e.keep (admitWaveSimulationOperation sha256Hex e.repository tenantId wave request)
  | .work tenantId operationId workerId turns stamp =>
    match getSimulationOperation e.repository tenantId operationId with
    | none => e
    | some _ =>
      match workLoop sha256Hex tenantId operationId workerId e turns with
      | (worked, true) => worked.reconcile tenantId operationId stamp
      | (worked, false) => worked
  | .results tenantId operationId stamp => e.reconcile tenantId operationId stamp
  | .retry tenantId operationId waveItemIds retriedAt =>
    match getSimulationOperation e.repository tenantId operationId with
    | none => e
    | some _ => e.step sha256Hex (.retry tenantId operationId waveItemIds retriedAt)
  | .cancel tenantId operationId reasonCode cancelledAt stamp =>
    -- without the operation neither the cancellation nor the reconciliation writes
    (e.step sha256Hex (.cancel tenantId operationId reasonCode cancelledAt)).reconcile tenantId
      operationId stamp

end Execution

/-! ## What the interleaved system can reach -/

section Reachability

variable {sha256Hex : String → String}

/-- The system can go from one state to the other. -/
def Leads (sha256Hex : String → String) (s s' : WaveService) : Prop :=
  ∃ calls, Runs.run (WaveService.step sha256Hex) s calls = s'

/-- Records, waves and operations are stored under their own ids. -/
structure OwnIds (s : WaveService) : Prop where
  index : AdmissionIndexInv s.repository
  operations : ∀ id operation, s.repository.simulationOperations.get? id = some operation →
    operation.operationId = id

variable {s s' s'' : WaveService}

/-- The system can go to a state with the execution. -/
def Reaches (sha256Hex : String → String) (s : WaveService) (e : Execution) : Prop :=
  ∃ s', Leads sha256Hex s s' ∧ s'.execution = e

theorem Leads.refl (s : WaveService) : Leads sha256Hex s s := ⟨[], rfl⟩

theorem Leads.trans (h : Leads sha256Hex s s') (h' : Leads sha256Hex s' s'') :
    Leads sha256Hex s s'' := by
  obtain ⟨calls, rfl⟩ := h
  obtain ⟨calls', rfl⟩ := h'
  exact ⟨calls ++ calls', Runs.run_append _ _ _ _⟩

theorem Leads.step (h : Leads sha256Hex s s') (call : ServiceCall) :
    Leads sha256Hex s (s'.step sha256Hex call) :=
  h.trans ⟨[call], rfl⟩

theorem ownIds_new : OwnIds WaveService.new :=
  ⟨admissionIndexInv_new, by simp [WaveService.repository, WaveService.new, Execution.new,
    WaveRepository.new]⟩

theorem ownIds_step (s : WaveService) (call : ServiceCall) (h : OwnIds s) :
    OwnIds (s.step sha256Hex call) := by
  rcases step_cases sha256Hex s call with ⟨hsame, _⟩ | ⟨write, _, hexec, _⟩
  · have hrepository : (s.step sha256Hex call).repository = s.repository :=
      congrArg Execution.repository hsame
    exact ⟨hrepository ▸ h.index, hrepository ▸ h.operations⟩
  · have hrepository : (s.step sha256Hex call).repository =
        (s.execution.step sha256Hex write).repository := congrArg Execution.repository hexec
    refine ⟨hrepository ▸ admissionIndexInv_step sha256Hex s.execution (.other write) h.index, ?_⟩
    intro id operation hget
    rw [hrepository] at hget
    rcases operation_before h.index.keyed hget with ⟨old, hold, hterms⟩ | ⟨a, _, _, rfl, rfl, _⟩
    · exact (congrArg Prod.fst hterms).trans (h.operations id old hold)
    · rfl

theorem Leads.ownIds (hleads : Leads sha256Hex s s') (h : OwnIds s) : OwnIds s' := by
  obtain ⟨calls, rfl⟩ := hleads
  exact Runs.run_keeps OwnIds ownIds_step calls h

/-! ## Reads and writes -/

theorem readWave_read {waveId tenantId : String} {wave : RebalanceWave}
    (h : getWave s.repository waveId tenantId = some wave) :
    (s.step sha256Hex (.read waveId tenantId)).readWave s.reads.length = some (tenantId, wave) := by
  show ((s.reads ++ [_])[s.reads.length]?).bind _ = _
  rw [List.getElem?_concat_length, Option.bind_some, h]
  rfl

/-! ## Every service is reached -/

theorem served_command (command : WaveCommand) (waveId tenantId : String) :
    Reaches sha256Hex s (s.execution.keep (command.persisted s.repository waveId tenantId)) := by
  unfold WaveCommand.persisted
  cases hwave : getWave s.repository waveId tenantId with
  | none => exact ⟨s, .refl s, rfl⟩
  | some wave =>
    exact ⟨_, ((Leads.refl s).step _).step _, @execution_step_command sha256Hex _ wave command _ _
      (readWave_read hwave)⟩

theorem served_admission (request : AdmitRequest) {waveId tenantId : String} {wave : RebalanceWave}
    (hwave : getWave s.repository waveId tenantId = some wave) :
    Reaches sha256Hex s (s.execution.keep
      (admitWaveSimulationOperation sha256Hex s.repository tenantId wave request)) :=
  ⟨_, ((Leads.refl s).step _).step _, @execution_step_admission sha256Hex _ wave request _ _
    (readWave_read hwave)⟩

theorem reconciliation_readPage {index offset : Nat} {r : OpenReconciliation}
    {page : SimulationItemPage} (hr : s.reconciliations[index]? = some r)
    (hoffset : r.nextOffset = some offset) (hpage : listSimulationItems s.repository r.tenantId
      r.operation.operationId simulationItemPageLimit offset = page) :
    (s.step sha256Hex (.readPage index)).reconciliations[index]? =
      some { r with records := r.records ++ page.items, nextOffset := page.nextOffset } := by
  rw [WaveService.step_of_observe rfl, WaveService.observe, hr]
  dsimp only
  rw [hoffset]
  dsimp only
  rw [hpage]
  exact List.getElem?_set_self (List.getElem?_eq_some_iff.mp hr).1

theorem pages_read {repo : WaveRepository} {tenantId operationId : String} {index offset : Nat}
    {r : OpenReconciliation} (hr : s.reconciliations[index]? = some r)
    (hoffset : r.nextOffset = some offset) (hrepo : s.repository = repo)
    (htenant : r.tenantId = tenantId) (hid : r.operation.operationId = operationId) :
    ∃ s', Leads sha256Hex s s' ∧ s'.execution = s.execution ∧
      s'.reconciliations[index]? = some
        { r with
          records := r.records ++ allSimulationItemsFrom repo tenantId operationId offset
          nextOffset := none } := by
  have hexec (s : WaveService) : (s.step sha256Hex (.readPage index)).execution = s.execution := by
    rw [WaveService.step_of_observe rfl, WaveService.execution_observe]
  fun_induction allSimulationItemsFrom repo tenantId operationId offset generalizing s r with
  | case1 offset hnext =>
    have hpage := @reconciliation_readPage sha256Hex s index offset r _ hr hoffset
      (by rw [hrepo, htenant, hid])
    rw [hnext] at hpage
    exact ⟨_, (Leads.refl s).step _, hexec s, hpage⟩
  | case2 offset next hnext ih =>
    have hpage := @reconciliation_readPage sha256Hex s index offset r _ hr hoffset
      (by rw [hrepo, htenant, hid])
    rw [hnext] at hpage
    obtain ⟨s', hleads, hexec', hread⟩ :=
      ih hpage rfl ((congrArg Execution.repository (hexec s)).trans hrepo) htenant hid
    refine ⟨s', ((Leads.refl s).step _).trans hleads, hexec'.trans (hexec s), ?_⟩
    rw [hread, List.append_assoc]

theorem served_reconciliation (hids : OwnIds s) (tenantId operationId : String)
    (stamp : EventStamp) :
    Reaches sha256Hex s (s.execution.reconcile tenantId operationId stamp) := by
  unfold Execution.reconcile reconcileWaveSimulationOperation
  cases hop : getSimulationOperation s.execution.repository tenantId operationId with
  | none => exact ⟨s, .refl s, rfl⟩
  | some operation =>
    dsimp only
    cases hwave : getWave s.execution.repository operation.waveId tenantId with
    | none => exact ⟨s, .refl s, rfl⟩
    | some wave =>
      dsimp only
      by_cases hawaits : awaitsReconciliation wave operationId = true
      · have hid : operation.operationId = operationId :=
          hids.operations _ _ (getSimulationOperation_eq_some.mp hop).1
        have hwaveId : wave.waveId = operation.waveId :=
          hids.index.waves _ _ (getWave_eq_some.mp hwave).1
        let read := s.step sha256Hex (.read operation.waveId tenantId)
        let begun : WaveService := { read with
          reconciliations := s.reconciliations ++ [⟨tenantId, wave, operation, [], some 0⟩] }
        have hbegun : read.step sha256Hex (.beginReconcile operationId s.reads.length) = begun := by
          rw [WaveService.step_of_observe rfl, WaveService.observe, readWave_read hwave]
          dsimp only
          rw [show getSimulationOperation read.repository tenantId operationId = _ from hop]
          exact if_pos ⟨hwaveId, hawaits⟩
        have hbegins : Leads sha256Hex s begun := hbegun ▸ ((Leads.refl s).step _).step _
        obtain ⟨paged, hleads, hexec, hpaged⟩ := @pages_read sha256Hex begun s.repository tenantId
          operationId s.reconciliations.length 0 ⟨tenantId, wave, operation, [], some 0⟩
          List.getElem?_concat_length rfl rfl rfl hid
        refine ⟨_, (hbegins.trans hleads).step (.finishReconcile s.reconciliations.length stamp), ?_⟩
        rw [execution_step_finishReconcile hpaged rfl, if_pos hawaits, WaveService.repository, hexec]
        rfl
      · rw [if_neg hawaits]
        exact ⟨s, .refl s, rfl⟩

theorem served_workLoop (hids : OwnIds s) (tenantId operationId workerId : String)
    (turns : List WorkTurn) :
    Reaches sha256Hex s
      (s.execution.workLoop sha256Hex tenantId operationId workerId turns).1 := by
  induction turns generalizing s with
  | nil => exact ⟨s, .refl s, rfl⟩
  | cons turn turns ih =>
    let call := turn.claimCall tenantId operationId workerId
    let claimed := s.step sha256Hex (.claim call)
    have hclaimed : Leads sha256Hex s claimed := (Leads.refl s).step _
    unfold Execution.workLoop
    dsimp only
    split
    · exact ⟨claimed, hclaimed, rfl⟩
    · rename_i claim claims hclaims
      split
      · exact ⟨claimed, hclaimed, rfl⟩
      · rename_i publication hpublication
        split
        · exact ⟨claimed, hclaimed, rfl⟩
        · let read := claimed.step sha256Hex (.read claim.waveId claim.tenantId)
          let worked := read.step sha256Hex
            (.work s.execution.issued.length s.reads.length turn.work)
          have hworked : Leads sha256Hex s worked := (hclaimed.step _).step _
          have hstore : read.storeCall sha256Hex
              (.work s.execution.issued.length s.reads.length turn.work) =
                some (.publish publication) := by
            have hissued : read.execution.issued[s.execution.issued.length]? = some claim := by
              show (s.execution.issued ++ (claimSimulationItems _ call).2)[_]? = _
              rw [hclaims, List.getElem?_append_right le_rfl, Nat.sub_self]
              rfl
            rw [WaveService.storeCall, hissued, Option.bind_some, show read.reads[s.reads.length]? = _ from
              List.getElem?_concat_length, Option.bind_some, if_neg (by simp)]
            exact congrArg (Option.map SimulationCall.publish) hpublication
          have hexec : worked.execution = claimed.execution.step sha256Hex (.publish publication) := by
            show (read.step _ _).execution = _
            rw [WaveService.step_of_store hstore]
            rfl
          obtain ⟨s', hleads, hend⟩ := ih (hworked.ownIds hids)
          rw [hexec] at hend
          exact ⟨s', hworked.trans hleads, hend⟩

theorem served (hids : OwnIds s) (request : WaveRequest) :
    Reaches sha256Hex s (s.execution.serve sha256Hex request) := by
  cases request with
  | create request => exact ⟨_, (Leads.refl s).step _, execution_step_create request⟩
  | command command waveId tenantId => exact served_command command waveId tenantId
  | admission request waveId tenantId =>
    unfold Execution.serve
    dsimp only
    cases hwave : getWave s.execution.repository waveId tenantId with
    | none => exact ⟨s, .refl s, rfl⟩
    | some wave => exact served_admission request hwave
  | work tenantId operationId workerId turns stamp =>
    obtain ⟨worked, hleads, hworked⟩ :=
      @served_workLoop sha256Hex s hids tenantId operationId workerId turns
    unfold Execution.serve
    dsimp only
    split
    · exact ⟨s, .refl s, rfl⟩
    · split
      · rename_i hloop
        rw [hloop] at hworked
        obtain ⟨s', hleads', hend⟩ :=
          served_reconciliation (hleads.ownIds hids) tenantId operationId stamp
        rw [hworked] at hend
        exact ⟨s', hleads.trans hleads', hend⟩
      · rename_i hloop
        rw [hloop] at hworked
        exact ⟨worked, hleads, hworked⟩
  | results tenantId operationId stamp => exact served_reconciliation hids tenantId operationId stamp
  | retry tenantId operationId waveItemIds retriedAt =>
    unfold Execution.serve
    dsimp only
    cases hop : getSimulationOperation s.execution.repository tenantId operationId with
    | none => exact ⟨s, .refl s, rfl⟩
    | some operation =>
      have hstore : s.storeCall sha256Hex (.retry tenantId operationId waveItemIds retriedAt) =
          some (.retry tenantId operationId waveItemIds retriedAt) :=
        congrArg (Option.map _) hop
      refine ⟨_, (Leads.refl s).step (.retry tenantId operationId waveItemIds retriedAt), ?_⟩
      rw [WaveService.step_of_store hstore]
      rfl
  | cancel tenantId operationId reasonCode cancelledAt stamp =>
    have hleads : Leads sha256Hex s (s.step sha256Hex
      (.cancelOperation tenantId operationId reasonCode cancelledAt)) := (Leads.refl s).step _
    obtain ⟨s', hleads', hend⟩ :=
      served_reconciliation (hleads.ownIds hids) tenantId operationId stamp
    exact ⟨s', hleads.trans hleads', hend⟩

end Reachability

/-- Services that are served one after the other, from any state of an interleaving on, end where
some interleaving of their repository calls ends. -/
theorem services_interleave (sha256Hex : String → String) (past : List ServiceCall)
    (requests : List WaveRequest) :
    ∃ calls, (WaveService.after sha256Hex (past ++ calls)).execution =
      requests.foldl (Execution.serve sha256Hex) (WaveService.after sha256Hex past).execution := by
  have hpast : OwnIds (WaveService.after sha256Hex past) :=
    Runs.run_keeps OwnIds ownIds_step past ownIds_new
  suffices ∀ s, OwnIds s →
      Reaches sha256Hex s (requests.foldl (Execution.serve sha256Hex) s.execution) by
    obtain ⟨s', ⟨calls, rfl⟩, hend⟩ := this _ hpast
    refine ⟨calls, ?_⟩
    rw [WaveService.after, Runs.run_append]
    exact hend
  induction requests with
  | nil => exact fun s _ => ⟨s, .refl s, rfl⟩
  | cons request requests ih =>
    intro s hids
    obtain ⟨served, hleads, hserved⟩ := served hids request
    obtain ⟨s', hleads', hend⟩ := ih served (hleads.ownIds hids)
    rw [hserved] at hend
    exact ⟨s', hleads.trans hleads', hend⟩

end LotusManage.Waves
