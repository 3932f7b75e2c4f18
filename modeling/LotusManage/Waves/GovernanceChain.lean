import LotusManage.Waves.ClaimBounds
import LotusManage.Waves.ReconciliationRuns

/-!
# The governance chain of wave items

Over every interleaving of the services an item of a stored wave is handed off only after it was staged,
staged only after it was approved, and approved only from a selection whose proof pack is not blocked.

`ItemStep` is what any move of a wave can do to one of its items.  Only the three controls lead to a
controlled state, each from the state before it; every other move leaves the item as it is or puts it
outside the chain.  A reconciliation replaces items too, so a published result has to be outside the
chain: a worker computes it from a wave that it read, and as long as a record is running the wave is
still simulating (`GovernedService.results`).
-/

namespace LotusManage.Waves

/-! ## One item -/

/-- The states that a control leads to. -/
def WaveItemState.controlled : WaveItemState → Bool
  | approved | staged | handoffReady => true
  | _ => false

/-- What a move of a wave can do to an item; only a hand-off makes it ready for the hand-off. -/
structure ItemStep (handsOff : Prop) (item item' : RebalanceWaveItem) : Prop where
  waveItemId : item'.waveItemId = item.waveItemId
  cleared : item'.state.controlled = true → item' = item ∨ proofPackBlocked item' = false
  approved : item'.state = .approved → item' = item ∨ approvable item = true
  staged : item'.state = .staged → item' = item ∨ item.state = .approved
  handoffReady : item'.state = .handoffReady → item' = item ∨ handsOff ∧ item.state = .staged

/-- An item that the controls leave alone: it is blocked, by its source, its simulation or its
proof pack, or it is excluded. -/
def Held (item : RebalanceWaveItem) : Prop :=
  item.state = .sourceBlocked ∨ item.state = .simulationBlocked ∨ item.state = .excluded ∨
    proofPackBlocked item = true

/-- The commands of the chain. -/
def WaveCommand.controls : WaveCommand → Bool
  | approve _ | stage _ | handoff .. => true
  | _ => false

section Items

variable {item item' : RebalanceWaveItem} {context : CommandContext} {handsOff handsOff' : Prop}

variable {command : WaveCommand}

theorem ItemStep.refl (item : RebalanceWaveItem) : ItemStep handsOff item item :=
  ⟨rfl, fun _ => .inl rfl, fun _ => .inl rfl, fun _ => .inl rfl, fun _ => .inl rfl⟩

theorem ItemStep.mono (h : ItemStep handsOff item item') (himp : handsOff → handsOff') :
    ItemStep handsOff' item item' :=
  ⟨h.waveItemId, h.cleared, h.approved, h.staged,
    fun hs => (h.handoffReady hs).imp_right (And.imp_left himp)⟩

theorem ItemStep.of_not_controlled (hid : item'.waveItemId = item.waveItemId)
    (hstate : item'.state.controlled = false) : ItemStep handsOff item item' := by
  refine ⟨hid, ?_, ?_, ?_, ?_⟩
  · intro h
    rw [hstate] at h
    cases h
  all_goals
    intro h
    rw [h] at hstate
    cases hstate

theorem WaveItemState.controlled_of_early {state : WaveItemState} (h : state.early = true) :
    state.controlled = false := by
  cases state <;> first | rfl | cases h

theorem itemStep_approveItem (context : CommandContext) (item : RebalanceWaveItem) :
    ItemStep handsOff item (approveItem context item) := by
  cases h : approvable item with
  | false =>
    rw [approveItem_of_not_approvable h]
    exact .refl item
  | true =>
    have hclear : proofPackBlocked item = false := by
      rw [approvable, Bool.and_eq_true, Bool.not_eq_true'] at h
      exact h.2
    rw [approveItem_of_approvable h]
    refine ⟨rfl, fun _ => .inr ?_, fun _ => .inr h, ?_, ?_⟩
    · rw [proofPackBlocked_approval, hclear]
    all_goals
      intro hstate
      cases hstate

theorem itemStep_stageItem (context : CommandContext) (item : RebalanceWaveItem) :
    ItemStep handsOff item (stageItem context item) := by
  unfold stageItem
  split
  · exact .refl item
  · rename_i hopen
    rw [not_or, not_not, Bool.not_eq_true] at hopen
    refine ⟨rfl, fun _ => .inr ?_, ?_, fun _ => .inr hopen.1, ?_⟩
    · rw [proofPackBlocked_movedItem (by decide) (by decide) (by decide) (by decide), hopen.2]
    all_goals
      intro hstate
      cases hstate

theorem itemStep_handoffItem (context : CommandContext) (item : RebalanceWaveItem) :
    ItemStep True item (handoffItem context item) := by
  unfold handoffItem
  split
  · exact .refl item
  · rename_i hopen
    rw [not_or, not_not, Bool.not_eq_true] at hopen
    refine ⟨rfl, fun _ => .inr ?_, ?_, ?_, fun _ => .inr ⟨trivial, hopen.1⟩⟩
    · rw [proofPackBlocked_movedItem (by decide) (by decide) (by decide) (by decide), hopen.2]
    all_goals
      intro hstate
      cases hstate

theorem itemStep_cancelItem (context : CommandContext) (item : RebalanceWaveItem) :
    ItemStep handsOff item (cancelItem context item) := by
  unfold cancelItem
  split
  · exact .refl item
  · exact .of_not_controlled rfl rfl

theorem WaveCommand.ItemMove.itemStep (h : command.ItemMove item item') :
    ItemStep (∃ context stamp, command = .handoff context stamp) item item' := by
  cases command with
  | sourceCheck => exact .of_not_controlled h.1 (WaveItemState.controlled_of_early h.2)
  | simulate =>
    obtain ⟨hid, rfl | hearly⟩ := h
    · exact .refl item'
    · exact .of_not_controlled hid (WaveItemState.controlled_of_early hearly)
  | select =>
    obtain ⟨hid, rfl | hstate | hstate⟩ := h
    · exact .refl item'
    all_goals exact .of_not_controlled hid (by rw [hstate]; rfl)
  | approve context => exact h ▸ itemStep_approveItem context item
  | stage context => exact h ▸ itemStep_stageItem context item
  | handoff context stamp =>
    exact h ▸ (itemStep_handoffItem context item).mono fun _ => ⟨context, stamp, rfl⟩
  | cancel context => exact h ▸ itemStep_cancelItem context item

theorem Held.skipped (h : Held item) :
    (item.state ≠ .selected ∧ item.state ≠ .proofPackReady ∧ item.state ≠ .approved ∧
        item.state ≠ .staged) ∨
      proofPackBlocked item = true := by
  rcases h with hs | hs | hs | hblocked
  · simp [hs]
  · simp [hs]
  · simp [hs]
  · exact .inr hblocked

theorem WaveCommand.ItemMove.held (h : command.ItemMove item item')
    (hcontrols : command.controls = true) (hheld : Held item) : item' = item := by
  have hskipped := hheld.skipped
  cases command with
  | sourceCheck | simulate | select => cases hcontrols
  | approve context =>
    rw [h, approveItem, if_pos (hskipped.imp_left fun hs => ⟨hs.1, hs.2.1⟩)]
  | stage context =>
    rw [h, stageItem, if_pos (hskipped.imp_left fun hs => hs.2.2.1)]
  | handoff context =>
    rw [h, handoffItem, if_pos (hskipped.imp_left fun hs => hs.2.2.2)]
  | cancel => cases hcontrols

end Items

/-! ## One wave -/

/-- What the items and the hand-off refs of a stored wave satisfy. -/
structure Governed (wave : RebalanceWave) : Prop where
  early : wave.state.phase ≤ 2 → ∀ item ∈ wave.items, item.state.early = true
  cleared : ∀ item ∈ wave.items, item.state.controlled = true → proofPackBlocked item = false
  notHandedOff : wave.state ≠ .handoffReady →
    wave.handoffRefs = [] ∧ ∀ item ∈ wave.items, item.state ≠ .handoffReady
  handedOff : wave.handoffRefs.flatMap WaveHandoffRef.itemIds =
    (wave.items.filter (fun item => item.state = .handoffReady)).map RebalanceWaveItem.waveItemId

/-- The results that the records carry are those of items outside the chain. -/
def ResultsEarly (repo : WaveRepository) : Prop :=
  ∀ key record resultItem, repo.simulationItems.get? key = some record →
    record.resultItem = some resultItem → resultItem.state.early = true

variable {sha256Hex : String → String} {admitted : List SimulationAdmission} {s : WaveService}
  {call : ServiceCall} {wave wave' : RebalanceWave}

section Waves

variable {items items' : List RebalanceWaveItem}

variable {R : RebalanceWaveItem → RebalanceWaveItem → Prop} {item' : RebalanceWaveItem}

theorem exists_getElem?_of_forall₂ (h : List.Forall₂ R items items') {index : Nat}
    (hitem : items'[index]? = some item') : ∃ item, items[index]? = some item ∧ R item item' := by
  induction h generalizing index with
  | nil => cases hitem
  | cons hstep _ ih =>
    cases index with
    | zero =>
      cases hitem
      exact ⟨_, rfl, hstep⟩
    | succ index => exact ih hitem

theorem exists_mem_of_forall₂ (h : List.Forall₂ R items items') (hitem : item' ∈ items') :
    ∃ item ∈ items, R item item' := by
  obtain ⟨index, hindex⟩ := List.mem_iff_getElem?.mp hitem
  obtain ⟨item, hget, hstep⟩ := exists_getElem?_of_forall₂ h hindex
  exact ⟨item, List.mem_of_getElem? hget, hstep⟩

theorem handedOff_of_forall_ne (h : ∀ item ∈ items, item.state ≠ .handoffReady) :
    items.filter (fun item => item.state = .handoffReady) = [] :=
  List.filter_eq_nil_iff.mpr fun item hitem => by simpa using h item hitem

theorem Governed.of_early (hearly : ∀ item ∈ wave.items, item.state.early = true)
    (hrefs : wave.handoffRefs = []) : Governed wave := by
  have hitems : ∀ item ∈ wave.items, item.state ≠ .handoffReady := by
    intro item hitem hstate
    have hfirst := hearly item hitem
    rw [hstate] at hfirst
    cases hfirst
  refine ⟨fun _ => hearly, ?_, fun _ => ⟨hrefs, hitems⟩, ?_⟩
  · intro item hitem hcontrolled
    rw [WaveItemState.controlled_of_early (hearly item hitem)] at hcontrolled
    cases hcontrolled
  · rw [hrefs, handedOff_of_forall_ne hitems]
    rfl

theorem Governed.cleared_of_steps {handsOff : Prop} (hgoverned : Governed wave)
    (hsteps : List.Forall₂ (ItemStep handsOff) wave.items wave'.items) :
    ∀ item ∈ wave'.items, item.state.controlled = true → proofPackBlocked item = false := by
  intro item' hitem' hcontrolled
  obtain ⟨item, hitem, hstep⟩ := exists_mem_of_forall₂ hsteps hitem'
  rcases hstep.cleared hcontrolled with rfl | hclear
  · exact hgoverned.cleared item' hitem hcontrolled
  · exact hclear

theorem Governed.of_steps (hgoverned : Governed wave) (hstate : wave.state ≠ .handoffReady)
    (hsteps : List.Forall₂ (ItemStep False) wave.items wave'.items)
    (hearly : wave'.state.phase ≤ 2 → ∀ item ∈ wave'.items, item.state.early = true)
    (hrefs : wave'.handoffRefs = wave.handoffRefs) : Governed wave' := by
  obtain ⟨hnone, hbefore⟩ := hgoverned.notHandedOff hstate
  have hitems : ∀ item ∈ wave'.items, item.state ≠ .handoffReady := by
    intro item' hitem' hready
    obtain ⟨item, hitem, hstep⟩ := exists_mem_of_forall₂ hsteps hitem'
    rcases hstep.handoffReady hready with rfl | ⟨hnever, _⟩
    · exact hbefore item' hitem hready
    · exact hnever
  refine ⟨hearly, hgoverned.cleared_of_steps hsteps, fun _ => ⟨hrefs.trans hnone, hitems⟩, ?_⟩
  rw [hrefs, hnone, handedOff_of_forall_ne hitems]
  rfl

theorem createdWave_governed {request : CreateRequest}
    (h : createdWave sha256Hex request = .ok wave) : Governed wave := by
  have hfresh := createdWave_fresh h
  refine .of_early (fun item hitem => ?_) hfresh.refs
  rw [hfresh.items] at hitem
  obtain ⟨e, _, rfl⟩ := List.mem_map.mp hitem
  unfold buildWaveItem
  dsimp only
  split <;> split <;> rfl

theorem WaveCommand.early_items {command : WaveCommand}
    (hcheck : command.transitionGuard.check wave = .ok false)
    (hbuild : command.build wave = .ok wave') (hphase : wave'.state.phase ≤ 2) :
    ∀ item ∈ wave'.items, item.state.early = true := by
  have hmoves := command.moves hcheck hbuild
  obtain ⟨_, hallowed⟩ := TransitionGuard.state_of_check hcheck
  have hbefore := hmoves.evolved.phase.trans hphase
  cases command with
  | sourceCheck =>
    intro item' hitem'
    obtain ⟨_, _, hmove⟩ := exists_mem_of_forall₂ hmoves.items hitem'
    exact hmove.2
  | simulate =>
    obtain ⟨_, _, h⟩ := buildSimulatedWave_rebuilt hbuild
    rw [h.state, phase_simulationResultState] at hphase
    exact absurd hphase (by decide)
  | cancel =>
    obtain ⟨_, h⟩ := buildCancelledWave_rebuilt hbuild
    simp [h.state, WaveState.phase] at hphase
  | _ =>
    -- every other command starts from a simulated wave
    exfalso
    have hstate := hallowed _ rfl
    revert hstate hbefore
    generalize wave.state = state
    cases state <;> decide

theorem Governed.of_handoff {context : CommandContext} {stamp : HandoffStamp}
    (hgoverned : Governed wave) (hmoves : (WaveCommand.handoff context stamp).Moves wave wave')
    (hearly : wave'.state.phase ≤ 2 → ∀ item ∈ wave'.items, item.state.early = true) :
    Governed wave' := by
  obtain ⟨hstate, ref, hrefs, hids⟩ := hmoves.handoff
  have hitems : List.Forall₂ (· = ·) (wave.items.map (handoffItem context)) wave'.items :=
    List.forall₂_map_left_iff.mpr (hmoves.items.imp fun _ _ hmove => Eq.symm hmove)
  rw [List.forall₂_eq_eq_eq] at hitems
  have hcleared := hgoverned.cleared_of_steps (hmoves.items.imp fun _ _ hmove => hmove.itemStep)
  refine ⟨hearly, hcleared, fun hne => absurd hstate hne, ?_⟩
  rw [hrefs, (hgoverned.notHandedOff hmoves.notHandedOff).1, List.nil_append,
    List.flatMap_singleton, hids, hitems, reached]
  refine congrArg _ (List.filter_congr fun item hitem => ?_)
  by_cases hready : item.state = .handoffReady
  · simp [hready, hcleared item hitem (by rw [hready]; rfl)]
  · simp [hready]

theorem reconciledWaveItems_early (hinv : ServiceInv sha256Hex admitted s)
    (hresults : ResultsEarly s.repository) {r : OpenReconciliation}
    (h : ReconciliationSound s r) (hread : r.nextOffset = none)
    (hearly : ∀ item ∈ items, item.state.early = true) :
    List.Forall₂ (fun item item' : RebalanceWaveItem =>
        item'.waveItemId = item.waveItemId ∧ item'.state.early = true) items
      (reconciledWaveItems items r.operation r.records) := by
  rw [reconciledWaveItems, List.forall₂_map_right_iff, List.forall₂_same]
  intro item hitem
  split
  · exact ⟨rfl, hearly item hitem⟩
  rename_i record hfound
  obtain ⟨hmem, hrecordId⟩ := (get?_recordsById (h.nodup hinv.ready hread)).mp hfound
  unfold reconciledItem
  split
  · -- a record with a result is finished, so it is stored as it was read
    rename_i resultItem hresult
    have hsucceeded : record.status = .succeeded :=
      (h.results record hmem).mpr (by rw [hresult]; rfl)
    have hstored := h.finished record hmem (.inl hsucceeded)
    exact ⟨(hinv.results _ record resultItem hstored hresult).trans hrecordId,
      hresults _ record resultItem hstored hresult⟩
  · split
    · exact ⟨rfl, hearly item hitem⟩
    · split
      · exact ⟨rfl, rfl⟩
      · exact ⟨rfl, hearly item hitem⟩

theorem WaveMove.governed (hinv : ServiceInv sha256Hex admitted s)
    (hresults : ResultsEarly s.repository) (hgoverned : Governed wave)
    (hmove : WaveMove sha256Hex s call wave wave') :
    List.Forall₂ (ItemStep True) wave.items wave'.items ∧ Governed wave' := by
  cases hmove with
  | command command _ _ hcheck hbuild =>
    have hmoves := command.moves hcheck hbuild
    have hearly := command.early_items hcheck hbuild
    refine ⟨hmoves.items.imp fun _ _ hmove => hmove.itemStep.mono fun _ => trivial, ?_⟩
    by_cases hhandoff : ∃ context stamp, command = .handoff context stamp
    · obtain ⟨context, stamp, rfl⟩ := hhandoff
      exact hgoverned.of_handoff hmoves hearly
    · have hkept : wave'.handoffRefs = wave.handoffRefs := by
        have hmove := hmoves.handoff
        unfold WaveCommand.HandoffMove at hmove
        split at hmove
        · exact absurd ⟨_, _, rfl⟩ hhandoff
        · exact hmove.2
      exact hgoverned.of_steps hmoves.notHandedOff
        (hmoves.items.imp fun _ _ hmove => hmove.itemStep.mono hhandoff) hearly hkept
  | admitted request _ tenantId _ hstate heq =>
    have hsteps : ∀ handsOff, List.Forall₂ (ItemStep handsOff) wave.items wave.items :=
      fun _ => List.forall₂_same.mpr fun item _ => .refl item
    rw [heq]
    refine ⟨hsteps True, hgoverned.of_steps (by simp [hstate]) (hsteps False)
      (fun _ => hgoverned.early ?_) rfl⟩
    simp [hstate, WaveState.phase]
  | reconciled index stamp r _ hr hwave hread hstate heq =>
    have hearly := reconciledWaveItems_early hinv hresults
      (hinv.reconciliations r (List.mem_of_getElem? hr)) hread
      (hgoverned.early (by simp [hstate, WaveState.phase]))
    obtain ⟨hitems, hrefs⟩ : wave'.items = reconciledWaveItems wave.items r.operation r.records ∧
        wave'.handoffRefs = wave.handoffRefs := by
      rcases reconciledWave_eq_some hstate heq with ⟨_, rfl⟩ | ⟨_, rfl⟩ <;> exact ⟨rfl, rfl⟩
    rw [← hitems] at hearly
    refine ⟨hearly.imp fun _ _ hitem =>
      .of_not_controlled hitem.1 (WaveItemState.controlled_of_early hitem.2), ?_⟩
    refine .of_early (fun item' hitem' => ?_)
      (hrefs.trans (hgoverned.notHandedOff (by simp [hstate])).1)
    obtain ⟨_, _, hitem⟩ := exists_mem_of_forall₂ hearly hitem'
    exact hitem.2

end Waves

/-! ## The services -/

/-- The stored waves and those that were read are governed, a claim names the wave of its
operation, and the results are outside the chain. -/
structure GovernedService (s : WaveService) : Prop where
  stored : ∀ id wave, s.repository.waves.get? id = some wave → Governed wave
  reads : ∀ read ∈ s.reads, ∀ wave, read.wave = some wave → Governed wave
  claims : ∀ c ∈ s.execution.issued, ∃ operation,
    s.repository.simulationOperations.get? c.operationId = some operation ∧
      operation.waveId = c.waveId
  results : ResultsEarly s.repository

section Service

variable {c : WaveSimulationItemClaim}

theorem mem_claimSimulationItems {repo : WaveRepository} {claimCall : ClaimCall}
    (hsound : StoreSound repo) (hkeyed : RecordsKeyed repo.simulationItems)
    (h : c ∈ (claimSimulationItems repo claimCall).2) :
    ∃ operation, repo.simulationOperations.get? c.operationId = some operation ∧
      operation.waveId = c.waveId := by
  unfold claimSimulationItems at h
  split at h
  · cases h
  rename_i operation hoperation
  split at h
  · cases h
  split at h
  · cases h
  obtain ⟨e, he, rfl⟩ := List.mem_map.mp h
  obtain ⟨howned, _⟩ := mem_of_mem_selectedForClaim (List.fst_mem_of_mem_zipIdx he)
  obtain ⟨owner, howner, hof⟩ := hsound.records _ e.1
    (get?_of_mem_simulationItemsForOperation hkeyed howned)
  exact ⟨owner, howner, hof.waveId.symm⟩

theorem claims_step (hc : ReadyCall sha256Hex admitted s call)
    (hclaims : ∀ c ∈ s.execution.issued, ∃ operation,
      s.repository.simulationOperations.get? c.operationId = some operation ∧
        operation.waveId = c.waveId) (hmem : c ∈ (s.step sha256Hex call).execution.issued) :
    ∃ operation, (s.step sha256Hex call).repository.simulationOperations.get? c.operationId =
      some operation ∧ operation.waveId = c.waveId := by
  -- the operation was there before the call
  have hbefore : ∃ operation, s.repository.simulationOperations.get? c.operationId =
      some operation ∧ operation.waveId = c.waveId := by
    rcases step_cases sha256Hex s call with ⟨hsame, _⟩ | ⟨write, _, hexec, _⟩
    · exact hclaims c (hsame ▸ hmem)
    · rw [hexec] at hmem
      by_cases hclaim : ∃ claimCall, write = .claim claimCall
      · obtain ⟨claimCall, rfl⟩ := hclaim
        rcases List.mem_append.mp hmem with hold | hnew
        · exact hclaims c hold
        · exact mem_claimSimulationItems hc.ready.sound hc.ready.store.execution.1.keyed hnew
      · rw [issued_of_not_claim fun claimCall heq => hclaim ⟨claimCall, heq⟩] at hmem
        exact hclaims c hmem
  obtain ⟨operation, hop, hwave⟩ := hbefore
  obtain ⟨operation', hop', hterms⟩ := step_operation hc hop
  exact ⟨operation', hop', (congrArg (fun terms => terms.2.2.1) hterms).trans hwave⟩

theorem resultsEarly_step (hinv : ServiceInv sha256Hex admitted s) (h : GovernedService s) :
    ResultsEarly (s.step sha256Hex call).repository := by
  intro key record' resultItem hget hresult
  rcases step_result hinv.ready hget hresult with
    ⟨record, hrecord, hold⟩ | ⟨claim, read, wave, item, inputs, record, hissued, rfl, hread,
      hreadId, _, hwave, hitem, _, hsimulate, hrecord, hrunning⟩
  · exact h.results key record resultItem hrecord hold
  obtain ⟨operation, hop, hclaimed⟩ := h.claims claim hissued
  obtain ⟨_, stored, htracked⟩ := hinv.tracked _ operation hop
  -- the record is running, so the operation is open and its wave is simulating
  have hsimulating : stored.state = .simulating := by
    rcases htracked.phase with ⟨hstate, _⟩ | ⟨_, hfinished⟩
    · exact hstate
    · exact absurd hrunning (hfinished claim.itemKey record rfl hrecord).ne_running
  obtain ⟨hid, _, seen, hseen, hlater⟩ := hinv.ready.dated.reads read hread wave hwave
  have hstored := htracked.stored
  rw [hclaimed, ← hreadId, ← hid, hseen] at hstored
  cases hstored
  have hphase : wave.state.phase ≤ 2 := by
    have htwo : stored.state.phase = 2 := WaveState.phase_eq_two.mpr hsimulating
    rcases hlater with rfl | hevolved
    · exact htwo.le
    · exact htwo ▸ hevolved.phase
  rcases (simulateItem_eq_ok hsimulate).2 with rfl | hearly
  · exact (h.reads read hread wave hwave).early hphase resultItem hitem
  · exact hearly

theorem governedService_new : GovernedService WaveService.new := by
  constructor <;> simp [WaveService.new, WaveService.repository, Execution.new,
    WaveRepository.new, ResultsEarly]

theorem governedService_step (hids : OperationIdsInjective sha256Hex admitted)
    (hinv : ServiceInv sha256Hex admitted s) (hcall : AdmitsOneOf sha256Hex admitted s call)
    (h : GovernedService s) : GovernedService (s.step sha256Hex call) := by
  refine ⟨?_, ?_, fun _ => claims_step ⟨hids, hinv.ready, hcall⟩ h.claims, resultsEarly_step hinv h⟩
  · intro id wave' hget
    rcases stored_before hinv.ready.dated call hget with
      hold | ⟨request, hfresh, _⟩ | ⟨wave, hold, hmove⟩
    · exact h.stored id wave' hold
    · exact createdWave_governed hfresh
    · exact (hmove.governed hinv h.results (h.stored id wave hold)).2
  · intro read hread wave hwave
    rcases mem_reads_step hread with hold | ⟨hfound, _⟩
    · exact h.reads read hold wave hwave
    · rw [hfound, getWave_eq_some] at hwave
      exact h.stored _ wave hwave.1

end Service

/-! ## Histories -/

/-- After a part of the calls, the item in a place of a stored wave satisfied a condition. -/
def EverWas (sha256Hex : String → String) (calls : List ServiceCall) (id : String) (index : Nat)
    (condition : RebalanceWaveItem → Prop) : Prop :=
  ∃ past rest wave item, calls = past ++ rest ∧
    (WaveService.after sha256Hex past).repository.waves.get? id = some wave ∧
    wave.items[index]? = some item ∧ condition item

/-- The controls that an item has passed, by the states that it was in before. -/
structure Chained (sha256Hex : String → String) (calls : List ServiceCall) (id : String)
    (index : Nat) (item : RebalanceWaveItem) : Prop where
  approved : item.state = .approved → EverWas sha256Hex calls id index fun earlier =>
    earlier.waveItemId = item.waveItemId ∧ approvable earlier = true
  staged : item.state = .staged → EverWas sha256Hex calls id index fun earlier =>
    earlier.waveItemId = item.waveItemId ∧ earlier.state = .approved
  handoffReady : item.state = .handoffReady → EverWas sha256Hex calls id index fun earlier =>
    earlier.waveItemId = item.waveItemId ∧ earlier.state = .staged

section Chain

variable {calls : List ServiceCall} {id : String} {index : Nat}
  {condition : RebalanceWaveItem → Prop} {item item' : RebalanceWaveItem}

theorem EverWas.later (h : EverWas sha256Hex calls id index condition) (call : ServiceCall) :
    EverWas sha256Hex (calls ++ [call]) id index condition := by
  obtain ⟨past, rest, wave, item, rfl, hget, hitem, hcondition⟩ := h
  exact ⟨past, rest ++ [call], wave, item, List.append_assoc _ _ _, hget, hitem, hcondition⟩

theorem EverWas.before
    (hget : (WaveService.after sha256Hex calls).repository.waves.get? id = some wave)
    (hitem : wave.items[index]? = some item) (hcondition : condition item) (call : ServiceCall) :
    EverWas sha256Hex (calls ++ [call]) id index condition :=
  ⟨calls, [call], wave, item, rfl, hget, hitem, hcondition⟩

theorem Chained.of_not_controlled (h : item.state.controlled = false) :
    Chained sha256Hex calls id index item := by
  refine ⟨?_, ?_, ?_⟩
  all_goals
    intro hstate
    rw [hstate] at h
    cases h

theorem Chained.later (h : Chained sha256Hex calls id index item) (call : ServiceCall) :
    Chained sha256Hex (calls ++ [call]) id index item :=
  ⟨fun hs => (h.approved hs).later call, fun hs => (h.staged hs).later call,
    fun hs => (h.handoffReady hs).later call⟩

theorem Chained.step
    (hget : (WaveService.after sha256Hex calls).repository.waves.get? id = some wave)
    (hitem : wave.items[index]? = some item) (hstep : ItemStep True item item')
    (h : Chained sha256Hex calls id index item) (call : ServiceCall) :
    Chained sha256Hex (calls ++ [call]) id index item' := by
  refine ⟨fun hs => ?_, fun hs => ?_, fun hs => ?_⟩
  · rcases hstep.approved hs with rfl | happrovable
    · exact (h.approved hs).later call
    · exact .before hget hitem ⟨hstep.waveItemId.symm, happrovable⟩ call
  · rcases hstep.staged hs with rfl | happroved
    · exact (h.staged hs).later call
    · exact .before hget hitem ⟨hstep.waveItemId.symm, happroved⟩ call
  · rcases hstep.handoffReady hs with rfl | ⟨_, hstaged⟩
    · exact (h.handoffReady hs).later call
    · exact .before hget hitem ⟨hstep.waveItemId.symm, hstaged⟩ call

/-- The invariants of the services together with the chain of every stored item. -/
structure GovernedRun (sha256Hex : String → String) (admitted : List SimulationAdmission)
    (calls : List ServiceCall) (s : WaveService) : Prop where
  inv : ServiceInv sha256Hex admitted s
  governed : GovernedService s
  chained : ∀ id wave, s.repository.waves.get? id = some wave → ∀ index item,
    wave.items[index]? = some item → Chained sha256Hex calls id index item

theorem GovernedRun.step {admitted : List SimulationAdmission}
    (hids : OperationIdsInjective sha256Hex admitted)
    (h : GovernedRun sha256Hex admitted calls (WaveService.after sha256Hex calls))
    (hcall : AdmitsOneOf sha256Hex admitted (WaveService.after sha256Hex calls) call) :
    GovernedRun sha256Hex admitted (calls ++ [call])
      ((WaveService.after sha256Hex calls).step sha256Hex call) := by
  refine ⟨serviceInv_step hids h.inv hcall, governedService_step hids h.inv hcall h.governed, ?_⟩
  intro id wave' hget index item' hitem'
  rcases stored_before h.inv.ready.dated call hget with
    hold | ⟨request, hfresh, _⟩ | ⟨wave, hold, hmove⟩
  · exact (h.chained id wave' hold index item' hitem').later call
  · have hstart : wave'.state.phase ≤ 2 := by simp [(createdWave_fresh hfresh).state, WaveState.phase]
    refine .of_not_controlled (WaveItemState.controlled_of_early ?_)
    exact (createdWave_governed hfresh).early hstart item' (List.mem_of_getElem? hitem')
  · obtain ⟨hsteps, _⟩ := hmove.governed h.inv h.governed.results (h.governed.stored id wave hold)
    obtain ⟨item, hitem, hstep⟩ := exists_getElem?_of_forall₂ hsteps hitem'
    exact (h.chained id wave hold index item hitem).step hold hitem hstep call

theorem governedRun_after (hids : OperationIdsInjective sha256Hex (serviceAdmissions sha256Hex calls)) :
    GovernedRun sha256Hex (serviceAdmissions sha256Hex calls) calls
      (WaveService.after sha256Hex calls) := by
  refine Runs.run_history (GovernedRun sha256Hex (serviceAdmissions sha256Hex calls))
    (fun past call h hcall => h.step hids hcall) ?_
    ⟨serviceInv_new sha256Hex _, governedService_new, ?_⟩
  · intro past call rest hsplit a ha
    rw [hsplit]
    exact mem_serviceAdmissions ha
  · intro id wave hget
    simp [WaveService.new, WaveService.repository, Execution.new, WaveRepository.new] at hget

theorem held_step {command : WaveCommand} {readIndex : Nat} {s : WaveService} (hdated : Dated s)
    (hcontrols : command.controls = true) (hget : s.repository.waves.get? id = some wave)
    (hget' : (s.step sha256Hex (.command command readIndex)).repository.waves.get? id =
      some wave') :
    List.Forall₂ (fun item item' => Held item → item' = item) wave.items wave'.items := by
  rcases stored_step hdated (.command command readIndex) hget with hkept | ⟨moved, hmoved, hmove⟩
  · rw [hkept] at hget'
    cases hget'
    exact List.forall₂_same.mpr fun _ _ _ => rfl
  · rw [hmoved] at hget'
    cases hget'
    cases hmove with
    | command _ _ hcall hcheck hbuild =>
      cases hcall
      exact (command.moves hcheck hbuild).items.imp fun _ _ hmove => hmove.held hcontrols
    | admitted _ _ _ hcall _ _ => cases hcall
    | reconciled _ _ _ hcall _ _ _ _ _ => cases hcall

end Chain

/-- The governance chain of wave items, over every interleaving of creates, commands, admissions,
workers and reconciliations.  An item that is ready for the hand-off was staged before, a staged
one was approved before, and an approved one was selected before, with a proof pack that is not
blocked.  Approval, staging and hand-off carry every blocked or excluded item unchanged.  And the
ids that are recorded for the hand-off of a wave are those of its items that are ready for it. -/
theorem wave_items_governed (sha256Hex : String → String) (calls : List ServiceCall)
    (hids : OperationIdsInjective sha256Hex (serviceAdmissions sha256Hex calls)) :
    (∀ id wave index item,
      (WaveService.after sha256Hex calls).repository.waves.get? id = some wave →
      wave.items[index]? = some item →
      (item.state = .handoffReady → EverWas sha256Hex calls id index fun earlier =>
        earlier.waveItemId = item.waveItemId ∧ earlier.state = .staged) ∧
      (item.state = .staged → EverWas sha256Hex calls id index fun earlier =>
        earlier.waveItemId = item.waveItemId ∧ earlier.state = .approved) ∧
      (item.state = .approved → EverWas sha256Hex calls id index fun earlier =>
        earlier.waveItemId = item.waveItemId ∧ approvable earlier = true)) ∧
    (∀ command readIndex id wave wave', command.controls = true →
      (WaveService.after sha256Hex calls).repository.waves.get? id = some wave →
      (WaveService.after sha256Hex (calls ++ [.command command readIndex])).repository.waves.get?
        id = some wave' →
      List.Forall₂ (fun item item' => Held item → item' = item) wave.items wave'.items) ∧
    (∀ id wave, (WaveService.after sha256Hex calls).repository.waves.get? id = some wave →
      wave.handoffRefs.flatMap WaveHandoffRef.itemIds =
        (wave.items.filter (fun item => item.state = .handoffReady)).map
          RebalanceWaveItem.waveItemId) := by
  have hrun := governedRun_after hids
  refine ⟨?_, ?_, ?_⟩
  · intro id wave index item hget hitem
    have hchained := hrun.chained id wave hget index item hitem
    exact ⟨hchained.handoffReady, hchained.staged, hchained.approved⟩
  · intro command readIndex id wave wave' hcontrols hget hget'
    rw [after_concat] at hget'
    exact held_step hrun.inv.ready.dated hcontrols hget hget'
  · intro id wave hget
    exact (hrun.governed.stored id wave hget).handedOff

/-! ### One of two items handed off -/

/-- The second portfolio has no construction input, so its item is blocked; the first item passes
every control. -/
def chainedCalls : List ServiceCall :=
  [.create (sampleRequest ["PB_SG_1", "PB_SG_2"]),
   .read "dwv_0123456789ab" "tenant-sg",
   .command (.sourceCheck "pm_001" "corr-wave-001" healthyMandates sampleStamp) 0,
   .read "dwv_0123456789ab" "tenant-sg",
   .command (.simulate "pm_001" "corr-wave-001" (sampleInputs ["PB_SG_1"]) sampleStamp sampleStamp)
    1,
   .read "dwv_0123456789ab" "tenant-sg",
   .command (.select sampleContext "dwi_001_01234567" (.ok sampleSelection)) 2,
   .read "dwv_0123456789ab" "tenant-sg",
   .command (.approve sampleContext) 3,
   .read "dwv_0123456789ab" "tenant-sg",
   .command (.stage sampleContext) 4,
   .read "dwv_0123456789ab" "tenant-sg",
   .command (.handoff sampleContext ⟨"0123456789abcdef", fun _ => "sha256:handoff"⟩) 5]

theorem chainedCalls_injective :
    OperationIdsInjective serviceSha256Hex (serviceAdmissions serviceSha256Hex chainedCalls) := by
  have hlength : (serviceAdmissions serviceSha256Hex chainedCalls).length = 0 := by decide +kernel
  rw [List.length_eq_zero_iff.mp hlength]
  intro a ha
  cases ha

theorem wave_items_governed_chained :
    let s := WaveService.after serviceSha256Hex chainedCalls
    let wave := (s.repository.waves.get? "dwv_0123456789ab").get (by decide +kernel)
    let item := (wave.items[0]?).get (by decide +kernel)
    (item.state = .handoffReady ∧
      EverWas serviceSha256Hex chainedCalls "dwv_0123456789ab" 0 fun earlier =>
        earlier.waveItemId = item.waveItemId ∧ earlier.state = .staged) ∧
      wave.items.map RebalanceWaveItem.state = [.handoffReady, .simulationBlocked] ∧
      (wave.items.filter (fun item => item.state = .handoffReady)).map
        RebalanceWaveItem.waveItemId = ["dwi_001_01234567"] := by
  intro s wave item
  have hwave : s.repository.waves.get? "dwv_0123456789ab" = some wave := (Option.some_get _).symm
  have hitem : wave.items[0]? = some item := (Option.some_get _).symm
  have hstate : item.state = .handoffReady := by decide +kernel
  have hrefs : wave.handoffRefs.flatMap WaveHandoffRef.itemIds = ["dwi_001_01234567"] := by
    decide +kernel
  obtain ⟨hchain, _, hids⟩ :=
    wave_items_governed serviceSha256Hex chainedCalls chainedCalls_injective
  refine ⟨⟨hstate, (hchain _ wave 0 item hwave hitem).1 hstate⟩, by decide +kernel, ?_⟩
  exact (hids _ wave hwave).symm.trans hrefs

end LotusManage.Waves
