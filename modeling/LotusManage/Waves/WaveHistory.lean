import LotusManage.Waves.ServiceRuns
import LotusManage.Waves.WaveMoves

/-!
# The history of a stored wave

What holds of the waves over every interleaving of the services: each stored wave is sound, a stored
change extends its event log and raises its version, and of two updates based on one version at most
one is stored.

The optimistic lock compares versions only, so the argument needs that a version determines the wave:
`SeenIn` says that a wave which was read is still stored, or that what is stored in its place has a
greater version.  A write whose version is still the stored one is then based on the stored wave itself,
and `step_waves` lists all that a call can do to the stored waves: nothing, a new wave, or one
`WaveMove` of one stored wave.
-/

namespace LotusManage.Waves

/-! ## A new wave -/

/-- What `create_persisted_wave` saves. -/
structure FreshWave (request : CreateRequest) (wave : RebalanceWave) : Prop where
  tenantId : wave.tenantId = some request.tenantId
  state : wave.state = .created
  items : wave.items = request.items
  refs : wave.handoffRefs = []
  sound : AggregateSound wave

variable {sha256Hex : String → String} {wave wave' : RebalanceWave} {s : WaveService}
  {call : ServiceCall} {repo repo' : WaveRepository}

theorem createdWave_fresh {request : CreateRequest} (h : createdWave sha256Hex request = .ok wave) :
    FreshWave request wave := by
  unfold createdWave at h
  split at h
  · cases h
  rename_i preview hpreview
  unfold buildPreviewWave at hpreview
  split at hpreview
  · cases hpreview
  rename_i trigger _
  obtain ⟨_, _, hfirst⟩ := applyWaveTransition_eq_ok hpreview
  obtain ⟨_, _, hsecond⟩ := applyWaveTransition_eq_ok h
  have hpreviewed := hfirst.eq
  subst hpreviewed
  rw [hsecond.eq]
  refine ⟨rfl, rfl, rfl, rfl, ?_, rfl⟩
  -- the log is `DRAFT` to `PREVIEWED` to `CREATED`
  refine ⟨?_, ?_, ?_⟩
  · exact List.isChain_pair.mpr rfl
  · have hpreview : WaveState.previewed ∈ allowedWaveTransitions .draft := by decide
    have hcreate : WaveState.created ∈ allowedWaveTransitions .previewed := by decide
    intro event hevent
    simp only [List.map_nil, List.map_cons, List.nil_append, List.cons_append, List.mem_cons,
      List.not_mem_nil, or_false] at hevent
    rcases hevent with rfl | rfl
    · exact ⟨.draft, rfl, Or.inr hpreview⟩
    · exact ⟨.previewed, rfl, Or.inr hcreate⟩
  · exact ⟨_, rfl, rfl⟩

/-! ## Waves that were read -/

/-- The wave is stored, or a later value of it is. -/
def SeenIn (waves : Dict String RebalanceWave) (wave : RebalanceWave) : Prop :=
  ∃ stored, waves.get? wave.waveId = some stored ∧ (stored = wave ∨ Evolved wave stored)

section Seen

variable {waves : Dict String RebalanceWave} {wave stored : RebalanceWave}

theorem SeenIn.eq_of_version (h : SeenIn waves wave)
    (hget : waves.get? wave.waveId = some stored) (hversion : stored.version = wave.version) :
    stored = wave := by
  obtain ⟨current, hcurrent, heq | hevolved⟩ := h
  · rw [hget] at hcurrent
    cases hcurrent
    exact heq
  · rw [hget] at hcurrent
    cases hcurrent
    exact absurd hversion (ne_of_gt hevolved.version)

end Seen

/-- What the clients hold was read from the repository, and a reconciliation under way
found the wave simulating. -/
structure Dated (s : WaveService) : Prop where
  keyed : WavesKeyed s.repository.waves
  reads : ∀ read ∈ s.reads, ∀ wave, read.wave = some wave →
    wave.waveId = read.waveId ∧ wave.tenantId = some read.tenantId ∧
      SeenIn s.repository.waves wave
  reconciliations : ∀ r ∈ s.reconciliations,
    r.wave.tenantId = some r.tenantId ∧ r.wave.state = .simulating ∧
      SeenIn s.repository.waves r.wave

/-! ## What a call can do to the stored waves -/

/-- A move of a stored wave by a call: a command, an admission, or a reconciliation that has
read all its pages. -/
inductive WaveMove (sha256Hex : String → String) (s : WaveService) (call : ServiceCall)
    (wave wave' : RebalanceWave) : Prop where
  | command (command : WaveCommand) (readIndex : Nat) (hcall : call = .command command readIndex)
      (hcheck : command.transitionGuard.check wave = .ok false)
      (hbuild : command.build wave = .ok wave')
  | admitted (request : AdmitRequest) (readIndex : Nat) (tenantId : String)
      (hcall : call = .admitSimulation request readIndex) (hstate : wave.state = .sourceChecked)
      (heq : wave' = (request.admission sha256Hex tenantId wave).simulatingWave)
  | reconciled (index : Nat) (stamp : EventStamp) (r : OpenReconciliation)
      (hcall : call = .finishReconcile index stamp) (hr : s.reconciliations[index]? = some r)
      (hwave : r.wave = wave) (hread : r.nextOffset = none) (hstate : wave.state = .simulating)
      (heq : reconciledWave wave r.operation r.records stamp = .ok (some wave'))

theorem WaveMove.evolved (h : WaveMove sha256Hex s call wave wave') : Evolved wave wave' := by
  cases h with
  | command command _ _ hcheck hbuild => exact (command.moves hcheck hbuild).evolved
  | admitted request _ tenantId _ hstate heq =>
    rw [heq]
    exact admitted_evolved request sha256Hex tenantId hstate
  | reconciled _ _ r _ _ _ _ hstate heq => exact reconciled_evolved hstate heq

theorem WaveMove.sound (h : WaveMove sha256Hex s call wave wave') (hsound : AggregateSound wave) :
    AggregateSound wave' := by
  cases h with
  | command command _ _ hcheck hbuild => exact (command.moves hcheck hbuild).sound hsound
  | admitted request _ tenantId _ hstate heq =>
    rw [heq]
    exact admitted_sound request sha256Hex tenantId hstate hsound
  | reconciled _ _ r _ _ _ _ hstate heq => exact reconciled_sound hstate heq hsound

theorem updateWave_based {base : RebalanceWave} {tenantId : String} (hseen : SeenIn repo.waves base)
    (htenant : base.tenantId = some tenantId) (hevolved : Evolved base wave)
    (h : updateWave repo wave base.version tenantId = .ok repo') :
    repo.waves.get? base.waveId = some base ∧
      repo' = { repo with waves := repo.waves.set base.waveId wave } := by
  obtain ⟨current, hcurrent, hversion, _, hresult⟩ := updateWave_eq_ok h
  have hsame : { wave with tenantId := some tenantId } = wave := by
    rw [← htenant, ← hevolved.tenantId]
  rw [hsame, hevolved.waveId] at hresult
  rw [hevolved.waveId] at hcurrent
  have heq := hseen.eq_of_version hcurrent hversion
  rw [heq] at hcurrent
  exact ⟨hcurrent, hresult⟩

section Steps

variable {sha256Hex : String → String} {s : WaveService}

theorem store_waves (hdated : Dated s) {call : ServiceCall} {write : SimulationCall}
    (hwrite : ServiceWrite sha256Hex s call write) :
    (s.store sha256Hex write).repository.waves = s.repository.waves ∨
      (∃ request wave, createdWave sha256Hex request = .ok wave ∧
        s.repository.waves.get? wave.waveId = none ∧
        (s.store sha256Hex write).repository.waves = s.repository.waves.set wave.waveId wave) ∨
      ∃ wave wave', s.repository.waves.get? wave.waveId = some wave ∧
        WaveMove sha256Hex s call wave wave' ∧
        (s.store sha256Hex write).repository.waves = s.repository.waves.set wave.waveId wave' := by
  simp only [WaveService.store, WaveService.repository]
  cases hwrite with
  | @create request wave hwave =>
    simp only [Execution.step]
    split
    · exact Or.inl rfl
    · rename_i repo' hsave
      obtain ⟨hnew, _, _, _, _, rfl⟩ := saveWave_eq_ok hsave
      refine Or.inr (Or.inl ⟨request, wave, hwave, hnew, ?_⟩)
      have hsame : { wave with tenantId := some request.tenantId } = wave := by
        rw [← (createdWave_fresh hwave).tenantId]
      exact congrArg (s.execution.repository.waves.set wave.waveId) hsame
  | @command command readIndex read wave wave' hread hwave hcheck hbuild =>
    obtain ⟨_, htenant, hseen⟩ := hdated.reads read hread wave hwave
    simp only [Execution.step]
    split
    · exact Or.inl rfl
    · rename_i repo' hupdate
      obtain ⟨hstored, hresult⟩ := updateWave_based hseen htenant
        (command.moves hcheck hbuild).evolved hupdate
      refine Or.inr (Or.inr ⟨wave, wave', hstored, .command command readIndex rfl
        hcheck hbuild, ?_⟩)
      rw [hresult]
      rfl
  | @admitSimulation request readIndex read wave hread hwave hstate =>
    obtain ⟨hid, htenant, hseen⟩ := hdated.reads read hread wave hwave
    simp only [Execution.step]
    split
    · exact Or.inl rfl
    · rename_i repo' operation replay hadmits
      rcases admitSimulationOperation_cases hadmits with ⟨_, rfl⟩ | ⟨_, _, stored, haccepted⟩
      · exact Or.inl rfl
      · have hget : s.execution.repository.waves.get? wave.waveId = some stored :=
          haccepted.stored
        have heq := hseen.eq_of_version hget haccepted.version
        subst heq
        refine Or.inr (Or.inr ⟨stored, _, hget,
          .admitted request readIndex read.tenantId rfl hstate rfl, ?_⟩)
        rw [haccepted.result]
  | claim claimCall => exact Or.inl (congrArg Prod.fst (created_claim s.execution.repository claimCall))
  | @work _ _ _ _ _ publication _ _ _ _ _ =>
    exact Or.inl (congrArg Prod.fst (created_step_publish sha256Hex s.execution publication))
  | retry tenantId operationId waveItemIds retriedAt => exact Or.inl (congrArg Prod.fst (created_retry _ _ _ _ _))
  | cancel tenantId operationId reasonCode cancelledAt => exact Or.inl (congrArg Prod.fst (created_cancel _ _ _ _ _))
  | @reconcile index stamp r wave' hr hread hwave =>
    obtain ⟨htenant, hstate, hseen⟩ := hdated.reconciliations r (List.mem_of_getElem? hr)
    simp only [Execution.step]
    split
    · exact Or.inl rfl
    · rename_i repo' hupdate
      obtain ⟨hstored, hresult⟩ := updateWave_based hseen htenant
        (reconciled_evolved hstate hwave) hupdate
      refine Or.inr (Or.inr ⟨r.wave, wave', hstored,
        .reconciled index stamp r rfl hr rfl hread hstate hwave, ?_⟩)
      rw [hresult]
      rfl

theorem step_waves (hdated : Dated s) (call : ServiceCall) :
    (s.step sha256Hex call).repository.waves = s.repository.waves ∨
      (∃ request wave, createdWave sha256Hex request = .ok wave ∧
        s.repository.waves.get? wave.waveId = none ∧
        (s.step sha256Hex call).repository.waves = s.repository.waves.set wave.waveId wave) ∨
      ∃ wave wave', s.repository.waves.get? wave.waveId = some wave ∧
        WaveMove sha256Hex s call wave wave' ∧
        (s.step sha256Hex call).repository.waves = s.repository.waves.set wave.waveId wave' := by
  cases hcall : s.storeCall sha256Hex call with
  | none =>
    rw [WaveService.step_of_observe hcall, WaveService.repository, WaveService.execution_observe]
    exact Or.inl rfl
  | some write =>
    rw [WaveService.step_of_store hcall]
    exact store_waves hdated (serviceWrite_of_storeCall hcall)

end Steps

/-! ## Runs -/

section Histories

variable {sha256Hex : String → String} {s : WaveService}

variable {id : String} {wave : RebalanceWave}

theorem stored_step (hdated : Dated s) (call : ServiceCall)
    (hget : s.repository.waves.get? id = some wave) :
    (s.step sha256Hex call).repository.waves.get? id = some wave ∨
      ∃ wave', (s.step sha256Hex call).repository.waves.get? id = some wave' ∧
        WaveMove sha256Hex s call wave wave' := by
  rcases step_waves hdated call with hsame |
      ⟨_, fresh, _, hnone, hset⟩ | ⟨old, new, hold, hmove, hset⟩
  · rw [hsame]
    exact Or.inl hget
  · rw [hset, Dict.get?_set_of_ne]
    · exact Or.inl hget
    · rintro rfl
      rw [hget] at hnone
      cases hnone
  · rw [hset, Dict.get?_set]
    split
    · rename_i hid
      rw [hid, hold] at hget
      cases hget
      exact Or.inr ⟨new, rfl, hmove⟩
    · exact Or.inl hget

theorem stored_before (hdated : Dated s) (call : ServiceCall) {wave' : RebalanceWave}
    (hget : (s.step sha256Hex call).repository.waves.get? id = some wave') :
    s.repository.waves.get? id = some wave' ∨
      (∃ request, createdWave sha256Hex request = .ok wave' ∧ s.repository.waves.get? id = none) ∨
      ∃ wave, s.repository.waves.get? id = some wave ∧ WaveMove sha256Hex s call wave wave' := by
  rcases step_waves hdated call with
    hsame | ⟨request, fresh, hfresh, hnone, hset⟩ | ⟨old, new, hold, hmove, hset⟩
  · rw [hsame] at hget
    exact Or.inl hget
  · rw [hset, Dict.get?_set] at hget
    split at hget
    · rename_i hid
      cases hget
      rw [hid]
      exact Or.inr (Or.inl ⟨request, hfresh, hnone⟩)
    · exact Or.inl hget
  · rw [hset, Dict.get?_set] at hget
    split at hget
    · rename_i hid
      cases hget
      rw [hid]
      exact Or.inr (Or.inr ⟨old, hold, hmove⟩)
    · exact Or.inl hget

theorem SeenIn.step (hdated : Dated s) (call : ServiceCall) (h : SeenIn s.repository.waves wave) :
    SeenIn (s.step sha256Hex call).repository.waves wave := by
  obtain ⟨stored, hget, hlater⟩ := h
  rcases stored_step hdated call hget with hkept | ⟨new, hnew, hmove⟩
  · exact ⟨stored, hkept, hlater⟩
  · refine ⟨new, hnew, Or.inr ?_⟩
    rcases hlater with rfl | hpast
    · exact hmove.evolved
    · exact hpast.trans hmove.evolved

theorem dated_new : Dated WaveService.new := by
  constructor <;> simp [WaveService.new, WaveService.repository, Execution.new,
    WaveRepository.new, WavesKeyed]

theorem dated_step (s : WaveService) (call : ServiceCall) (hdated : Dated s) :
    Dated (s.step sha256Hex call) := by
  refine ⟨?_, ?_, ?_⟩
  · rcases step_waves hdated call with
      hsame | ⟨_, fresh, _, _, hset⟩ | ⟨old, new, _, hmove, hset⟩
    · rw [hsame]
      exact hdated.keyed
    · rw [hset]
      exact hdated.keyed.set fresh
    · rw [hset, ← hmove.evolved.waveId]
      exact hdated.keyed.set new
  · intro read hread wave hwave
    rcases mem_reads_step hread with hold | ⟨hfound, hrepo⟩
    · obtain ⟨hid, htenant, hseen⟩ := hdated.reads read hold wave hwave
      exact ⟨hid, htenant, hseen.step hdated call⟩
    · rw [hfound, getWave_eq_some] at hwave
      have hid := hdated.keyed read.waveId wave hwave.1
      refine ⟨hid, hwave.2, ?_⟩
      rw [hrepo]
      exact ⟨wave, hid ▸ hwave.1, Or.inl rfl⟩
  · intro r hr
    cases reconciliation_step hr with
    | kept hmem =>
      obtain ⟨htenant, hstate, hseen⟩ := hdated.reconciliations r hmem
      exact ⟨htenant, hstate, hseen.step hdated call⟩
    | begun operationId read wave operation hread hwave _ _ hawaits heq _ =>
      obtain ⟨_, htenant, hseen⟩ := hdated.reads read hread wave hwave
      rw [heq]
      rw [awaitsReconciliation, Bool.and_eq_true, decide_eq_true_eq] at hawaits
      exact ⟨htenant, hawaits.1, hseen.step hdated call⟩
    | paged past offset hmem _ heq _ =>
      obtain ⟨htenant, hstate, hseen⟩ := hdated.reconciliations past hmem
      rw [heq]
      exact ⟨htenant, hstate, hseen.step hdated call⟩

theorem dated_after (calls : List ServiceCall) : Dated (WaveService.after sha256Hex calls) :=
  Runs.run_keeps Dated dated_step calls dated_new

/-- Every stored wave is sound. -/
def WavesSound (s : WaveService) : Prop :=
  ∀ id wave, s.repository.waves.get? id = some wave → AggregateSound wave

theorem wavesSound_step (hdated : Dated s) (call : ServiceCall) (hsound : WavesSound s) :
    WavesSound (s.step sha256Hex call) := by
  intro id wave' hget
  rcases stored_before hdated call hget with hold | ⟨request, hfresh, _⟩ | ⟨wave, hold, hmove⟩
  · exact hsound id wave' hold
  · exact (createdWave_fresh hfresh).sound
  · exact hmove.sound (hsound id wave hold)

/-! ## Updates -/

theorem storedUpdate_updateWave {expectedVersion version : Int} {tenantId : String}
    (hgrows : expectedVersion < wave.version)
    (h : storedUpdate sha256Hex s.execution (.updateWave wave expectedVersion tenantId) =
      some (id, version)) :
    ∃ old new, s.repository.waves.get? id = some old ∧ old.version = version ∧
      (s.store sha256Hex (.updateWave wave expectedVersion tenantId)).repository.waves.get? id =
        some new ∧ version < new.version := by
  unfold storedUpdate at h
  dsimp only at h
  cases hupdate : updateWave s.execution.repository wave expectedVersion tenantId with
  | error e =>
    rw [hupdate] at h
    cases h
  | ok repo' =>
    rw [hupdate] at h
    cases h
    obtain ⟨old, hold, hversion, _, hresult⟩ := updateWave_eq_ok hupdate
    refine ⟨old, { wave with tenantId := some tenantId }, hold, hversion, ?_, hgrows⟩
    simp only [WaveService.store, WaveService.repository, Execution.step, hupdate, hresult]
    exact Dict.get?_set_self _ _ _

theorem storedUpdate_eq_some (hdated : Dated s) {call : ServiceCall} {write : SimulationCall}
    (hwrite : ServiceWrite sha256Hex s call write) {version : Int}
    (h : storedUpdate sha256Hex s.execution write = some (id, version)) :
    ∃ old new, s.repository.waves.get? id = some old ∧ old.version = version ∧
      (s.store sha256Hex write).repository.waves.get? id = some new ∧ version < new.version := by
  cases hwrite with
  | create _ => cases h
  | @command command _ _ _ _ _ _ hcheck hbuild =>
    exact storedUpdate_updateWave (command.moves hcheck hbuild).evolved.version h
  | @admitSimulation request _ read wave _ _ hstate =>
    unfold storedUpdate at h
    dsimp only at h
    split at h
    · rename_i hadmits
      cases h
      rcases admitSimulationOperation_cases hadmits with ⟨hreplay, _⟩ | ⟨_, _, old, haccepted⟩
      · cases hreplay
      refine ⟨old, (request.admission sha256Hex read.tenantId wave).simulatingWave,
        haccepted.stored, haccepted.version, ?_, Int.lt_succ wave.version⟩
      simp only [WaveService.store, WaveService.repository, Execution.step, hadmits,
        haccepted.result]
      rw [← haccepted.sameWave]
      exact Dict.get?_set_self _ _ _
    · cases h
  | claim | work | retry | cancel => cases h
  | reconcile hr _ hwave =>
    obtain ⟨_, hstate, _⟩ := hdated.reconciliations _ (List.mem_of_getElem? hr)
    exact storedUpdate_updateWave (reconciled_evolved hstate hwave).version h

/-- Every logged update is below the stored version, and no update is logged twice. -/
structure UpdatesSound (s : WaveService) : Prop where
  below : ∀ id version, (id, version) ∈ s.updates →
    ∃ wave, s.repository.waves.get? id = some wave ∧ version < wave.version
  nodup : s.updates.Nodup

theorem updatesSound_step (hdated : Dated s) (call : ServiceCall) (hsound : UpdatesSound s) :
    UpdatesSound (s.step sha256Hex call) := by
  have hbelow : ∀ id version, (id, version) ∈ s.updates →
      ∃ wave, (s.step sha256Hex call).repository.waves.get? id = some wave ∧
        version < wave.version := by
    intro id version hmem
    obtain ⟨wave, hget, hlt⟩ := hsound.below id version hmem
    rcases stored_step hdated call hget with hkept | ⟨new, hnew, hmove⟩
    · exact ⟨wave, hkept, hlt⟩
    · exact ⟨new, hnew, hlt.trans hmove.evolved.version⟩
  cases hcall : s.storeCall sha256Hex call with
  | none =>
    have hupdates : (s.step sha256Hex call).updates = s.updates := by
      rw [WaveService.step_of_observe hcall, WaveService.updates_observe]
    exact ⟨fun id version hmem => hbelow id version (hupdates ▸ hmem), hupdates ▸ hsound.nodup⟩
  | some write =>
    have hwrite := serviceWrite_of_storeCall hcall
    have hupdates : (s.step sha256Hex call).updates =
        s.updates ++ (storedUpdate sha256Hex s.execution write).toList := by
      rw [WaveService.step_of_store hcall]
      rfl
    rw [WaveService.step_of_store hcall] at hbelow
    cases hlogged : storedUpdate sha256Hex s.execution write with
    | none =>
      rw [hlogged, Option.toList_none, List.append_nil] at hupdates
      rw [WaveService.step_of_store hcall] at hupdates ⊢
      exact ⟨fun id version hmem => hbelow id version (hupdates ▸ hmem), hupdates ▸ hsound.nodup⟩
    | some logged =>
      rw [hlogged, Option.toList_some] at hupdates
      obtain ⟨old, new, hold, hversion, hnew, hlt⟩ := storedUpdate_eq_some hdated hwrite hlogged
      rw [WaveService.step_of_store hcall] at hupdates ⊢
      constructor
      · intro id version hmem
        rw [hupdates, List.mem_append, List.mem_singleton] at hmem
        rcases hmem with hpast | heq
        · exact hbelow id version hpast
        · rw [← heq] at hnew hlt
          exact ⟨new, hnew, hlt⟩
      · -- an update on the stored version is not in the log yet
        rw [hupdates, List.nodup_append]
        refine ⟨hsound.nodup, List.nodup_singleton _, ?_⟩
        rintro past hpast last hlast rfl
        rw [List.mem_singleton] at hlast
        obtain ⟨wave, hget, hbase⟩ := hsound.below past.1 past.2 hpast
        rw [hlast, hold] at hget
        cases hget
        rw [hlast, hversion] at hbase
        exact absurd hbase (lt_irrefl _)

end Histories

/-! ## The aggregate invariant -/

section Aggregates

variable {sha256Hex : String → String}

variable {wave : RebalanceWave}

theorem sound_after (calls : List ServiceCall) :
    WavesSound (WaveService.after sha256Hex calls) ∧
      UpdatesSound (WaveService.after sha256Hex calls) := by
  have hinv : Dated (WaveService.after sha256Hex calls) ∧
      WavesSound (WaveService.after sha256Hex calls) ∧
      UpdatesSound (WaveService.after sha256Hex calls) := by
    refine Runs.run_keeps (fun s => Dated s ∧ WavesSound s ∧ UpdatesSound s) ?_ calls
      ⟨dated_new, ?_, ?_⟩
    · intro s call h
      exact ⟨dated_step s call h.1, wavesSound_step h.1 call h.2.1,
        updatesSound_step h.1 call h.2.2⟩
    · simp [WavesSound, WaveService.new, WaveService.repository, Execution.new, WaveRepository.new]
    · constructor <;> simp [WaveService.new]
  exact hinv.2

theorem stored_run (past rest : List ServiceCall) {id : String}
    (hget : (WaveService.after sha256Hex past).repository.waves.get? id = some wave) :
    ∃ wave', (WaveService.after sha256Hex (past ++ rest)).repository.waves.get? id =
      some wave' ∧ (wave' = wave ∨ Evolved wave wave') := by
  have hid := (dated_after past).keyed id wave hget
  rw [← hid] at hget ⊢
  rw [WaveService.after, Runs.run_append]
  exact (Runs.run_keeps (fun s => Dated s ∧ SeenIn s.repository.waves wave)
    (fun s call h => ⟨dated_step s call h.1, h.2.step h.1 call⟩) rest
    ⟨dated_after past, wave, hget, Or.inl rfl⟩).2

theorem command_loses {s : WaveService} {command : WaveCommand} {readIndex : Nat}
    {tenantId : String} {stored : RebalanceWave}
    (hread : s.readWave readIndex = some (tenantId, wave))
    (hstored : s.repository.waves.get? wave.waveId = some stored)
    (hversion : stored.version ≠ wave.version) :
    (s.step sha256Hex (.command command readIndex)).repository = s.repository := by
  rw [WaveService.repository, execution_step_command hread]
  unfold WaveCommand.execute
  cases hcheck : command.transitionGuard.check wave with
  | error e => rfl
  | ok replay =>
    cases replay with
    | true => rfl
    | false =>
      dsimp only
      cases hbuild : command.build wave with
      | error e => rfl
      | ok wave' =>
        have hconflict : updateWave s.repository wave' wave.version tenantId =
            .error .versionConflict := by
          unfold updateWave
          rw [(command.moves hcheck hbuild).evolved.waveId, hstored]
          exact if_pos (Or.inl hversion)
        dsimp only
        rw [hconflict]
        rfl

end Aggregates

/-- The wave aggregate over every interleaving of creates, commands, admissions, workers and
reconciliations, with calls that fail or lose the version among them.  The event log of every
stored wave is a chain of legal steps that ends in the state of the wave, and its metrics are
those of its items; a stored wave stays stored, and every stored change raises its version and
extends its event log; of two updates based on one version of a wave at most one is stored; and
a command that lost the version changes nothing. -/
theorem wave_aggregates_sound (sha256Hex : String → String) (calls : List ServiceCall) :
    (∀ id wave, (WaveService.after sha256Hex calls).repository.waves.get? id = some wave →
      EventsSound wave ∧ wave.aggregateMetrics = aggregateWaveItems wave.items) ∧
    (∀ past rest, calls = past ++ rest → ∀ id wave,
      (WaveService.after sha256Hex past).repository.waves.get? id = some wave →
      ∃ wave', (WaveService.after sha256Hex calls).repository.waves.get? id = some wave' ∧
        (wave' = wave ∨ (wave.version < wave'.version ∧ wave.events <+: wave'.events))) ∧
    (WaveService.after sha256Hex calls).updates.Nodup ∧
    (∀ command readIndex tenantId wave stored,
      (WaveService.after sha256Hex calls).readWave readIndex = some (tenantId, wave) →
      (WaveService.after sha256Hex calls).repository.waves.get? wave.waveId = some stored →
      stored.version ≠ wave.version →
      ((WaveService.after sha256Hex calls).step sha256Hex
        (.command command readIndex)).repository =
          (WaveService.after sha256Hex calls).repository) := by
  obtain ⟨hwaves, hupdates⟩ := sound_after calls
  refine ⟨?_, ?_, hupdates.nodup, ?_⟩
  · intro id wave hget
    exact ⟨(hwaves id wave hget).events, (hwaves id wave hget).metrics⟩
  · rintro past rest rfl id wave hget
    obtain ⟨wave', hget', hlater⟩ := stored_run past rest hget
    refine ⟨wave', hget', ?_⟩
    rcases hlater with heq | hevolved
    · exact Or.inl heq
    · exact Or.inr ⟨hevolved.version, hevolved.events⟩
  · intro command readIndex tenantId wave stored hread hstored hversion
    exact command_loses hread hstored hversion

/-! ### Two commands on one read -/

/-- SHA-256 on the texts that the runs below hash. -/
def serviceSha256Hex (text : String) : String :=
  if text = "key-1" then "be2974546978e3739e6d6da85c4be9f334ce32df2b9fd4b6ff1b55c0d57e9d44"
  else if text = "9:tenant-sg16:dwv_0123456789ab5:key-1" then
    "037534fccb6f7293aa21eeffbaf3bd73339586080c6691ed2171dfc7e63a7b50"
  else sampleSha256Hex text

/-- Two clients read the created wave; one checks its sources, the other cancels it and loses. -/
def contendedCalls : List ServiceCall :=
  [.create (sampleRequest ["PB_SG_1"]),
   .read "dwv_0123456789ab" "tenant-sg",
   .read "dwv_0123456789ab" "tenant-sg",
   .command (.sourceCheck "pm_001" "corr-wave-001" healthyMandates sampleStamp) 0,
   .command (.cancel sampleContext) 1]

theorem wave_aggregates_sound_contended :
    let s := WaveService.after serviceSha256Hex contendedCalls
    let wave := (s.repository.waves.get? "dwv_0123456789ab").get (by decide +kernel)
    (wave.state = .sourceChecked ∧ wave.version = 4 ∧ s.updates = [("dwv_0123456789ab", 3)]) ∧
      EventsSound wave ∧
      (∃ later, s.repository.waves.get? "dwv_0123456789ab" = some later ∧
        (later = wave ∨ (wave.version < later.version ∧ wave.events <+: later.events))) ∧
      (s.step serviceSha256Hex (.command (.cancel sampleContext) 1)).repository =
        s.repository := by
  intro s wave
  have hget : s.repository.waves.get? "dwv_0123456789ab" = some wave := (Option.some_get _).symm
  let read := (s.readWave 1).get (by decide +kernel)
  have hread : s.readWave 1 = some read := (Option.some_get _).symm
  have hid : read.2.waveId = "dwv_0123456789ab" := by decide +kernel
  obtain ⟨hsound, hhistory, _, hloses⟩ := wave_aggregates_sound serviceSha256Hex contendedCalls
  refine ⟨by decide +kernel, (hsound _ wave hget).1, ?_, ?_⟩
  · exact hhistory contendedCalls [] (List.append_nil _).symm "dwv_0123456789ab" wave hget
  · refine hloses _ 1 read.1 read.2 wave hread ?_ (by decide +kernel)
    rw [hid]
    exact hget

end LotusManage.Waves
