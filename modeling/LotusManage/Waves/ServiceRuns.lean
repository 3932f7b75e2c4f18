import LotusManage.Waves.Reconciliation

/-!
# Interleavings of the wave services

The system that the wave commands, the workers and the reconciliations form together: any number of
clients, each a sequence of calls of the in-memory repository, in any order.  A service that reads and
then writes is taken apart into its repository calls:

* a command reads the wave, and later writes the wave it built from that read;
* an admission reads the wave, and later admits the operation it built from it;
* a worker claims records, reads the wave, and later publishes under its claim;
* a reconciliation reads the wave, the operation and the records page by page, and later writes the
  wave.

`WaveService` keeps, next to the repository, what the clients have read so far.  A later call names the
read it goes on from, so an interleaving may also reuse an old read, or finish a reconciliation twice;
a client does not, and what holds of every interleaving holds of those that a client can produce.  The
guards around admissions and reconciliations only restrict the order and are left out.

Two logs record what the runs have stored: `updates` the wave and the version that each stored update
was based on, and `origins` the wave for which each operation was admitted.
-/

namespace LotusManage.Waves

/-! ## The state -/

/-- The answer of one `get_wave` call. -/
structure WaveRead where
  tenantId : String
  waveId : String
  wave : Option RebalanceWave

/-- A reconciliation under way: what it has read, and the offset of its next page. -/
structure OpenReconciliation where
  tenantId : String
  wave : RebalanceWave
  operation : WaveSimulationOperation
  records : List WaveSimulationItemRecord
  nextOffset : Option Nat

/-- The repository with its claims, what the clients hold, and the two logs. -/
structure WaveService where
  execution : Execution
  reads : List WaveRead
  reconciliations : List OpenReconciliation
  updates : List (String × Int)
  origins : Dict String RebalanceWave

/-- A call of a client.  An index names a read, a claim or a reconciliation of the past. -/
inductive ServiceCall where
  | create (request : CreateRequest)
  | read (waveId tenantId : String)
  | command (command : WaveCommand) (readIndex : Nat)
  | admitSimulation (request : AdmitRequest) (readIndex : Nat)
  | claim (call : ClaimCall)
  | work (claimIndex readIndex : Nat) (work : ClaimWork)
  | retry (tenantId operationId : String) (waveItemIds : Option (List String)) (retriedAt : Int)
  | cancelOperation (tenantId operationId reasonCode : String) (cancelledAt : Int)
  | beginReconcile (operationId : String) (readIndex : Nat)
  | readPage (index : Nat)
  | finishReconcile (index : Nat) (stamp : EventStamp)

/-! ## What a service writes -/

/-- The wave that `create_persisted_wave` saves. -/
def createdWave (sha256Hex : String → String) (request : CreateRequest) :
    Except WaveError RebalanceWave :=
  match buildPreviewWave request with
  | .error e => .error e
  | .ok preview =>
    promotePreviewToCreatedWave sha256Hex preview ("dwv_" ++ takeText 12 request.waveUuid4Hex)
      request.actorId request.correlationId request.idempotencyKey request.createStamp

/-- The wave that a command writes after its read of a wave, if it writes one. -/
def WaveCommand.write? (command : WaveCommand) (wave : RebalanceWave) : Option RebalanceWave :=
  match command.transitionGuard.check wave with
  | .ok false =>
    match command.build wave with
    | .ok wave' => some wave'
    | .error _ => none
  | _ => none

/-- The wave that a reconciliation writes after its reads, if it writes one. -/
def OpenReconciliation.write? (reconciliation : OpenReconciliation) (stamp : EventStamp) :
    Option RebalanceWave :=
  if reconciliation.nextOffset.isSome then none
  else
    match reconciledWave reconciliation.wave reconciliation.operation reconciliation.records
        stamp with
    | .ok wave => wave
    | .error _ => none

namespace WaveService

/-- Before the first call. -/
def new : WaveService := ⟨.new, [], [], [], .empty⟩

/-- The repository. -/
def repository (s : WaveService) : WaveRepository := s.execution.repository

/-- The wave of a read that found one, with the tenant that read it. -/
def readWave (s : WaveService) (readIndex : Nat) : Option (String × RebalanceWave) :=
  (s.reads[readIndex]?).bind (fun read => read.wave.map (fun wave => (read.tenantId, wave)))

/-- The write that a call makes on the repository, if it makes one. -/
def storeCall (sha256Hex : String → String) (s : WaveService) : ServiceCall → Option SimulationCall
  | .create request =>
    match getWaveIdempotencyRecord sha256Hex s.repository request.idempotencyKey
        request.tenantId with
    | some _ => none
    | none =>
      match createdWave sha256Hex request with
      | .error _ => none
      | .ok wave =>
        some (.saveWave wave (some request.idempotencyKey) (some request.requestHash)
          request.tenantId)
  | .command command readIndex =>
    (s.readWave readIndex).bind (fun (tenantId, wave) =>
      (command.write? wave).map (fun wave' => .updateWave wave' wave.version tenantId))
  | .admitSimulation request readIndex =>
    (s.readWave readIndex).bind (fun (tenantId, wave) =>
      match getSimulationOperationByIdempotency s.repository tenantId
          (waveSimulationIdempotencyKey sha256Hex tenantId request.idempotencyKey) with
      | some _ => none
      | none =>
        if wave.state ≠ .sourceChecked then none
        else some (.admitOperation (request.admission sha256Hex tenantId wave)))
  | .claim call => some (.claim call)
  | .work claimIndex readIndex work =>
    (s.execution.issued[claimIndex]?).bind (fun claim =>
      (s.reads[readIndex]?).bind (fun read =>
        if read.waveId ≠ claim.waveId ∨ read.tenantId ≠ claim.tenantId then none
        else
          (executeClaim sha256Hex claim read.wave
            (getSimulationOperation s.repository claim.tenantId claim.operationId) work).map
              .publish))
  | .retry tenantId operationId waveItemIds retriedAt =>
    (getSimulationOperation s.repository tenantId operationId).map
      (fun _ => .retry tenantId operationId waveItemIds retriedAt)
  | .cancelOperation tenantId operationId reasonCode cancelledAt =>
    some (.cancel tenantId operationId reasonCode cancelledAt)
  | .finishReconcile index stamp =>
    (s.reconciliations[index]?).bind (fun reconciliation =>
      (reconciliation.write? stamp).map (fun wave =>
        .updateWave wave reconciliation.wave.version reconciliation.tenantId))
  | .read _ _ | .beginReconcile _ _ | .readPage _ => none

/-- What a call that only reads leaves with its client. -/
def observe (s : WaveService) : ServiceCall → WaveService
  | .read waveId tenantId =>
    { s with reads := s.reads ++ [⟨tenantId, waveId, getWave s.repository waveId tenantId⟩] }
  | .beginReconcile operationId readIndex =>
    match s.readWave readIndex with
    | none => s
    | some (tenantId, wave) =>
      match getSimulationOperation s.repository tenantId operationId with
      | none => s
      | some operation =>
        if wave.waveId = operation.waveId ∧ awaitsReconciliation wave operationId = true then
          { s with
            reconciliations := s.reconciliations ++ [⟨tenantId, wave, operation, [], some 0⟩] }
        else s
  | .readPage index =>
    match s.reconciliations[index]? with
    | none => s
    | some reconciliation =>
      match reconciliation.nextOffset with
      | none => s
      | some offset =>
        let page := listSimulationItems s.repository reconciliation.tenantId
          reconciliation.operation.operationId simulationItemPageLimit offset
        { s with
          reconciliations := s.reconciliations.set index
            { reconciliation with
              records := reconciliation.records ++ page.items
              nextOffset := page.nextOffset } }
  | _ => s

end WaveService

/-! ## Steps and runs -/

/-- The update of a wave that a write stores: the wave's id and the version it is based on. -/
def storedUpdate (sha256Hex : String → String) (e : Execution) :
    SimulationCall → Option (String × Int)
  | .updateWave wave expectedVersion tenantId =>
    match updateWave e.repository wave expectedVersion tenantId with
    | .ok _ => some (wave.waveId, expectedVersion)
    | .error _ => none
  | .admitOperation admission =>
    match admitSimulationOperation e.repository (admission.operation sha256Hex)
        (admission.items sha256Hex) admission.simulatingWave with
    | .ok (_, _, false) => some (admission.waveId, admission.wave.version)
    | _ => none
  | _ => none

/-- The operation that a write admits, with the wave as it is stored before. -/
def storedOrigin (sha256Hex : String → String) (e : Execution) :
    SimulationCall → Option (String × RebalanceWave)
  | .admitOperation admission =>
    match admitSimulationOperation e.repository (admission.operation sha256Hex)
        (admission.items sha256Hex) admission.simulatingWave with
    | .ok (_, _, false) =>
      (e.repository.waves.get? admission.waveId).map
        (fun wave => (admission.operationId sha256Hex, wave))
    | _ => none
  | _ => none

namespace WaveService

/-- One write on the repository, with the two logs. -/
def store (sha256Hex : String → String) (s : WaveService) (call : SimulationCall) : WaveService :=
  { s with
    execution := s.execution.step sha256Hex call
    updates := s.updates ++ (storedUpdate sha256Hex s.execution call).toList
    origins := s.origins.merge (storedOrigin sha256Hex s.execution call).toList }

/-- One call of a client. -/
def step (sha256Hex : String → String) (s : WaveService) (call : ServiceCall) : WaveService :=
  match s.storeCall sha256Hex call with
  | some write => s.store sha256Hex write
  | none => s.observe call

/-- The state after an interleaving. -/
def after (sha256Hex : String → String) (calls : List ServiceCall) : WaveService :=
  Runs.run (step sha256Hex) new calls

/-- The writes of an interleaving that starts in a state. -/
def storeCalls (sha256Hex : String → String) : WaveService → List ServiceCall → List SimulationCall
  | _, [] => []
  | s, call :: calls =>
    (s.storeCall sha256Hex call).toList ++ storeCalls sha256Hex (s.step sha256Hex call) calls

end WaveService

/-! ## The calls are the services -/

namespace Execution

/-- What a service leaves; one that raises leaves what it found. -/
def keep {α : Type} (e : Execution) : Except WaveError (WaveRepository × α × Bool) → Execution
  | .ok (repository, _, _) => { e with repository := repository }
  | .error _ => e

/-- What a reconciliation leaves. -/
def keepRound (e : Execution) : Except WaveError (Option (WaveRepository × RebalanceWave)) → Execution
  | .ok (some (repository, _)) => { e with repository := repository }
  | _ => e

end Execution

section Services

variable {sha256Hex : String → String} {s : WaveService}

variable {call : ServiceCall} {wave : RebalanceWave}

theorem WaveService.step_of_store {write : SimulationCall}
    (h : s.storeCall sha256Hex call = some write) :
    s.step sha256Hex call = s.store sha256Hex write := by
  rw [step, h]

theorem WaveService.step_of_observe (h : s.storeCall sha256Hex call = none) :
    s.step sha256Hex call = s.observe call := by
  rw [step, h]

theorem execution_step_create (request : CreateRequest) :
    (s.step sha256Hex (.create request)).execution =
      s.execution.keep (createPersistedWave sha256Hex s.repository request) := by
  rw [WaveService.step, WaveService.storeCall, createPersistedWave]
  cases getWaveIdempotencyRecord sha256Hex s.repository request.idempotencyKey
      request.tenantId with
  | some existing =>
    dsimp only
    split <;> rfl
  | none =>
    dsimp only
    unfold createdWave
    cases buildPreviewWave request with
    | error e => rfl
    | ok preview =>
      dsimp only
      cases promotePreviewToCreatedWave sha256Hex preview
          ("dwv_" ++ takeText 12 request.waveUuid4Hex) request.actorId request.correlationId
          request.idempotencyKey request.createStamp with
      | error e => rfl
      | ok wave =>
        simp only [WaveService.store, WaveService.repository, Execution.step]
        cases saveWave sha256Hex s.execution.repository wave (some request.idempotencyKey)
          (some request.requestHash) request.tenantId <;> rfl

theorem execution_step_command {command : WaveCommand} {readIndex : Nat} {tenantId : String}
    (hread : s.readWave readIndex = some (tenantId, wave)) :
    (s.step sha256Hex (.command command readIndex)).execution =
      s.execution.keep (command.execute s.repository wave tenantId) := by
  rw [WaveService.step, WaveService.storeCall, hread, Option.bind_some, WaveCommand.execute]
  unfold WaveCommand.write?
  dsimp only
  cases command.transitionGuard.check wave with
  | error e => rfl
  | ok replay =>
    cases replay with
    | true => rfl
    | false =>
      dsimp only
      cases command.build wave with
      | error e => rfl
      | ok wave' =>
        simp only [Option.map_some, WaveService.store, WaveService.repository, Execution.step]
        cases updateWave s.execution.repository wave' wave.version tenantId <;> rfl

theorem execution_step_admission {request : AdmitRequest} {readIndex : Nat} {tenantId : String}
    (hread : s.readWave readIndex = some (tenantId, wave)) :
    (s.step sha256Hex (.admitSimulation request readIndex)).execution = s.execution.keep
      (admitWaveSimulationOperation sha256Hex s.repository tenantId wave request) := by
  rw [WaveService.step, WaveService.storeCall, hread, Option.bind_some,
    admitWaveSimulationOperation]
  dsimp only
  cases getSimulationOperationByIdempotency s.repository tenantId
      (waveSimulationIdempotencyKey sha256Hex tenantId request.idempotencyKey) with
  | some existing =>
    dsimp only
    split <;> rfl
  | none =>
    dsimp only
    by_cases hstate : wave.state = .sourceChecked
    · rw [if_neg (not_not.mpr hstate), if_neg (not_not.mpr hstate)]
      have htransition := request.transition sha256Hex tenantId hstate
      rw [show (request.admission sha256Hex tenantId wave).event =
        request.event sha256Hex tenantId wave from rfl, htransition]
      simp only [WaveService.store, WaveService.repository, Execution.step]
      cases admitSimulationOperation s.execution.repository
        ((request.admission sha256Hex tenantId wave).operation sha256Hex)
        ((request.admission sha256Hex tenantId wave).items sha256Hex)
        (request.admission sha256Hex tenantId wave).simulatingWave <;> rfl
    · rw [if_pos hstate, if_pos hstate]
      rfl

theorem execution_step_finishReconcile {index : Nat} {stamp : EventStamp}
    {r : OpenReconciliation} (hr : s.reconciliations[index]? = some r)
    (hread : r.nextOffset = none) :
    (s.step sha256Hex (.finishReconcile index stamp)).execution = s.execution.keepRound
      (reconcileRound s.repository r.tenantId r.wave r.operation r.records stamp) := by
  have hwrite : r.write? stamp =
      match reconciledWave r.wave r.operation r.records stamp with
      | .ok wave => wave
      | .error _ => none := by
    rw [OpenReconciliation.write?, hread]
    rfl
  rw [WaveService.step, WaveService.storeCall, hr, Option.bind_some, reconcileRound, hwrite]
  cases reconciledWave r.wave r.operation r.records stamp with
  | error e => rfl
  | ok candidate =>
    cases candidate with
    | none => rfl
    | some wave =>
      simp only [Option.map_some, WaveService.store, WaveService.repository, Execution.step]
      cases updateWave s.execution.repository wave r.wave.version r.tenantId <;> rfl

end Services

/-! ## The writes of a run -/

section Writes

variable {sha256Hex : String → String}

variable (s : WaveService) (call : ServiceCall)

theorem WaveService.observe_eq :
    ∃ reads reconciliations, s.observe call =
      { s with reads := reads, reconciliations := reconciliations } := by
  unfold observe
  split
  · exact ⟨_, _, rfl⟩
  · split
    · exact ⟨_, _, rfl⟩
    · split
      · exact ⟨_, _, rfl⟩
      · split <;> exact ⟨_, _, rfl⟩
  · split
    · exact ⟨_, _, rfl⟩
    · split <;> exact ⟨_, _, rfl⟩
  · exact ⟨_, _, rfl⟩

@[simp] theorem WaveService.execution_observe : (s.observe call).execution = s.execution := by
  obtain ⟨_, _, h⟩ := s.observe_eq call
  rw [h]

@[simp] theorem WaveService.updates_observe : (s.observe call).updates = s.updates := by
  obtain ⟨_, _, h⟩ := s.observe_eq call
  rw [h]

@[simp] theorem WaveService.origins_observe : (s.observe call).origins = s.origins := by
  obtain ⟨_, _, h⟩ := s.observe_eq call
  rw [h]

theorem storeCalls_append (past rest : List ServiceCall) :
    s.storeCalls sha256Hex (past ++ rest) =
      s.storeCalls sha256Hex past ++
        (Runs.run (WaveService.step sha256Hex) s past).storeCalls sha256Hex rest := by
  induction past generalizing s with
  | nil => rfl
  | cons call past ih =>
    rw [List.cons_append, WaveService.storeCalls, WaveService.storeCalls, ih, List.append_assoc,
      Runs.run_cons]

theorem after_concat (calls : List ServiceCall) (call : ServiceCall) :
    WaveService.after sha256Hex (calls ++ [call]) =
      (WaveService.after sha256Hex calls).step sha256Hex call := by
  rw [WaveService.after, Runs.run_append]
  rfl

/-- The admissions that the writes of an interleaving make. -/
def serviceAdmissions (sha256Hex : String → String) (calls : List ServiceCall) :
    List SimulationAdmission :=
  admissions (WaveService.new.storeCalls sha256Hex calls)

theorem mem_serviceAdmissions {past rest : List ServiceCall} {call : ServiceCall}
    {a : SimulationAdmission}
    (h : (WaveService.after sha256Hex past).storeCall sha256Hex call = some (.admitOperation a)) :
    a ∈ serviceAdmissions sha256Hex (past ++ call :: rest) := by
  refine mem_admissions ?_
  rw [storeCalls_append, WaveService.storeCalls]
  refine List.mem_append_right _ (List.mem_append_left _ ?_)
  rw [WaveService.after] at h
  rw [h]
  exact List.mem_singleton_self _

end Writes

/-! ## What a call can write -/

/-- The writes of a call, with what the client has read and computed before. -/
inductive ServiceWrite (sha256Hex : String → String) (s : WaveService) :
    ServiceCall → SimulationCall → Prop where
  | create {request : CreateRequest} {wave : RebalanceWave}
      (hwave : createdWave sha256Hex request = .ok wave) :
      ServiceWrite sha256Hex s (.create request)
        (.saveWave wave (some request.idempotencyKey) (some request.requestHash) request.tenantId)
  | command {command : WaveCommand} {readIndex : Nat} {read : WaveRead} {wave wave' : RebalanceWave}
      (hread : read ∈ s.reads) (hwave : read.wave = some wave)
      (hcheck : command.transitionGuard.check wave = .ok false)
      (hbuild : command.build wave = .ok wave') :
      ServiceWrite sha256Hex s (.command command readIndex)
        (.updateWave wave' wave.version read.tenantId)
  | admitSimulation {request : AdmitRequest} {readIndex : Nat} {read : WaveRead}
      {wave : RebalanceWave}
      (hread : read ∈ s.reads) (hwave : read.wave = some wave)
      (hstate : wave.state = .sourceChecked) :
      ServiceWrite sha256Hex s (.admitSimulation request readIndex)
        (.admitOperation (request.admission sha256Hex read.tenantId wave))
  | claim (claimCall : ClaimCall) : ServiceWrite sha256Hex s (.claim claimCall) (.claim claimCall)
  | work {claimIndex readIndex : Nat} {work : ClaimWork} {claim : WaveSimulationItemClaim}
      {read : WaveRead} {publication : Publication} (hclaim : claim ∈ s.execution.issued)
      (hread : read ∈ s.reads) (hid : read.waveId = claim.waveId)
      (htenant : read.tenantId = claim.tenantId)
      (hexecute : executeClaim sha256Hex claim read.wave
        (getSimulationOperation s.repository claim.tenantId claim.operationId) work =
          some publication) :
      ServiceWrite sha256Hex s (.work claimIndex readIndex work) (.publish publication)
  | retry (tenantId operationId : String) (waveItemIds : Option (List String)) (retriedAt : Int) :
      ServiceWrite sha256Hex s (.retry tenantId operationId waveItemIds retriedAt)
        (.retry tenantId operationId waveItemIds retriedAt)
  | cancel (tenantId operationId reasonCode : String) (cancelledAt : Int) :
      ServiceWrite sha256Hex s (.cancelOperation tenantId operationId reasonCode cancelledAt)
        (.cancel tenantId operationId reasonCode cancelledAt)
  | reconcile {index : Nat} {stamp : EventStamp} {r : OpenReconciliation} {wave' : RebalanceWave}
      (hr : s.reconciliations[index]? = some r) (hread : r.nextOffset = none)
      (hwave : reconciledWave r.wave r.operation r.records stamp = .ok (some wave')) :
      ServiceWrite sha256Hex s (.finishReconcile index stamp)
        (.updateWave wave' r.wave.version r.tenantId)

section Inversion

variable {sha256Hex : String → String} {s : WaveService}

variable {wave wave' : RebalanceWave}

theorem readWave_eq_some {readIndex : Nat} {tenantId : String}
    (h : s.readWave readIndex = some (tenantId, wave)) :
    ∃ read ∈ s.reads, read.tenantId = tenantId ∧ read.wave = some wave := by
  obtain ⟨read, hread, hmap⟩ := Option.bind_eq_some_iff.mp h
  obtain ⟨found, hfound, heq⟩ := Option.map_eq_some_iff.mp hmap
  cases heq
  exact ⟨read, List.mem_of_getElem? hread, rfl, hfound⟩

theorem write?_command_eq_some {command : WaveCommand} (h : command.write? wave = some wave') :
    command.transitionGuard.check wave = .ok false ∧ command.build wave = .ok wave' := by
  unfold WaveCommand.write? at h
  split at h
  · rename_i hcheck
    split at h
    · rename_i hbuild
      cases h
      exact ⟨hcheck, hbuild⟩
    · cases h
  · cases h

theorem write?_reconciliation_eq_some {r : OpenReconciliation} {stamp : EventStamp}
    (h : r.write? stamp = some wave') :
    r.nextOffset = none ∧ reconciledWave r.wave r.operation r.records stamp = .ok (some wave') := by
  unfold OpenReconciliation.write? at h
  split at h
  · cases h
  rename_i hread
  refine ⟨Option.not_isSome_iff_eq_none.mp hread, ?_⟩
  split at h
  · rename_i hwave
    rw [hwave, h]
  · cases h

theorem serviceWrite_of_storeCall {call : ServiceCall} {write : SimulationCall}
    (h : s.storeCall sha256Hex call = some write) : ServiceWrite sha256Hex s call write := by
  cases call with
  | create request =>
    unfold WaveService.storeCall at h
    dsimp only at h
    split at h
    · cases h
    split at h
    · cases h
    rename_i hwave
    cases h
    exact .create hwave
  | command command readIndex =>
    obtain ⟨⟨tenantId, wave⟩, hread, hmap⟩ := Option.bind_eq_some_iff.mp h
    obtain ⟨wave', hwrite, heq⟩ := Option.map_eq_some_iff.mp hmap
    obtain ⟨read, hmem, rfl, hwave⟩ := readWave_eq_some hread
    obtain ⟨hcheck, hbuild⟩ := write?_command_eq_some hwrite
    cases heq
    exact .command hmem hwave hcheck hbuild
  | admitSimulation request readIndex =>
    obtain ⟨⟨tenantId, wave⟩, hread, hadmits⟩ := Option.bind_eq_some_iff.mp h
    obtain ⟨read, hmem, rfl, hwave⟩ := readWave_eq_some hread
    dsimp only at hadmits
    split at hadmits
    · cases hadmits
    split at hadmits
    · cases hadmits
    rename_i hstate
    cases hadmits
    exact .admitSimulation hmem hwave (not_not.mp hstate)
  | claim claimCall =>
    cases h
    exact .claim claimCall
  | work claimIndex readIndex work =>
    obtain ⟨claim, hclaim, hbind⟩ := Option.bind_eq_some_iff.mp h
    obtain ⟨read, hread, hpublish⟩ := Option.bind_eq_some_iff.mp hbind
    split at hpublish
    · cases hpublish
    rename_i hmatch
    simp only [ne_eq, not_or, not_not] at hmatch
    obtain ⟨publication, hexecute, rfl⟩ := Option.map_eq_some_iff.mp hpublish
    exact .work (List.mem_of_getElem? hclaim) (List.mem_of_getElem? hread) hmatch.1 hmatch.2
      hexecute
  | retry tenantId operationId waveItemIds retriedAt =>
    obtain ⟨_, _, rfl⟩ := Option.map_eq_some_iff.mp h
    exact .retry tenantId operationId waveItemIds retriedAt
  | cancelOperation tenantId operationId reasonCode cancelledAt =>
    cases h
    exact .cancel tenantId operationId reasonCode cancelledAt
  | finishReconcile index stamp =>
    obtain ⟨r, hr, hmap⟩ := Option.bind_eq_some_iff.mp h
    obtain ⟨wave', hwrite, rfl⟩ := Option.map_eq_some_iff.mp hmap
    obtain ⟨hread, hwave⟩ := write?_reconciliation_eq_some hwrite
    exact .reconcile hr hread hwave
  | read | beginReconcile | readPage => cases h

end Inversion

/-! ## What a call can read -/

/-- Where a reconciliation under way comes from: it was there before, it has just begun, or it
has just read a page. -/
inductive ReconciliationStep (s s' : WaveService) (r : OpenReconciliation) : Prop where
  | kept (hmem : r ∈ s.reconciliations)
  | begun (operationId : String) (read : WaveRead) (wave : RebalanceWave)
      (operation : WaveSimulationOperation) (hread : read ∈ s.reads)
      (hwave : read.wave = some wave)
      (hoperation : getSimulationOperation s.repository read.tenantId operationId =
        some operation)
      (hid : wave.waveId = operation.waveId)
      (hawaits : awaitsReconciliation wave operationId = true)
      (heq : r = ⟨read.tenantId, wave, operation, [], some 0⟩)
      (hrepo : s'.repository = s.repository)
  | paged (past : OpenReconciliation) (offset : Nat) (hmem : past ∈ s.reconciliations)
      (hoffset : past.nextOffset = some offset)
      (heq : r =
        { past with
          records := past.records ++ (listSimulationItems s.repository past.tenantId
            past.operation.operationId simulationItemPageLimit offset).items
          nextOffset := (listSimulationItems s.repository past.tenantId
            past.operation.operationId simulationItemPageLimit offset).nextOffset })
      (hrepo : s'.repository = s.repository)

section Observation

variable {sha256Hex : String → String} {s : WaveService}

variable {call : ServiceCall}

@[simp] theorem repository_observe (s : WaveService) (call : ServiceCall) :
    (s.observe call).repository = s.repository := by
  rw [WaveService.repository, WaveService.execution_observe]
  rfl

theorem mem_reads_step {read : WaveRead} (h : read ∈ (s.step sha256Hex call).reads) :
    read ∈ s.reads ∨
      (read.wave = getWave s.repository read.waveId read.tenantId ∧
        (s.step sha256Hex call).repository = s.repository) := by
  cases hcall : s.storeCall sha256Hex call with
  | some write =>
    rw [WaveService.step_of_store hcall] at h
    exact Or.inl h
  | none =>
    rw [WaveService.step_of_observe hcall] at h ⊢
    rw [repository_observe]
    unfold WaveService.observe at h
    split at h
    · rcases List.mem_append.mp h with hold | hnew
      · exact Or.inl hold
      · rw [List.mem_singleton] at hnew
        rw [hnew]
        exact Or.inr ⟨rfl, rfl⟩
    · split at h
      · exact Or.inl h
      · split at h
        · exact Or.inl h
        · split at h <;> exact Or.inl h
    · split at h
      · exact Or.inl h
      · split at h <;> exact Or.inl h
    · exact Or.inl h

theorem reconciliation_step {r : OpenReconciliation}
    (h : r ∈ (s.step sha256Hex call).reconciliations) :
    ReconciliationStep s (s.step sha256Hex call) r := by
  cases hcall : s.storeCall sha256Hex call with
  | some write =>
    rw [WaveService.step_of_store hcall] at h
    exact .kept h
  | none =>
    have hrepo : (s.step sha256Hex call).repository = s.repository := by
      rw [WaveService.step_of_observe hcall, repository_observe]
    rw [WaveService.step_of_observe hcall] at h
    unfold WaveService.observe at h
    split at h
    · exact .kept h
    · rename_i operationId readIndex
      split at h
      · exact .kept h
      rename_i tenantId wave hread
      obtain ⟨read, hmem, rfl, hwave⟩ := readWave_eq_some hread
      split at h
      · exact .kept h
      rename_i operation hoperation
      split at h
      · rename_i hbegin
        rcases List.mem_append.mp h with hold | hnew
        · exact .kept hold
        · rw [List.mem_singleton] at hnew
          exact .begun operationId read wave operation hmem hwave hoperation hbegin.1 hbegin.2
            hnew hrepo
      · exact .kept h
    · rename_i index
      split at h
      · exact .kept h
      rename_i past hpast
      split at h
      · exact .kept h
      rename_i offset hoffset
      rcases List.mem_or_eq_of_mem_set h with hold | hnew
      · exact .kept hold
      · exact .paged past offset (List.mem_of_getElem? hpast) hoffset hnew hrepo
    · exact .kept h

end Observation

end LotusManage.Waves
