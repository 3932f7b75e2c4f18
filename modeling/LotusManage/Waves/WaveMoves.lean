import LotusManage.Waves.Approval
import LotusManage.Waves.Reconciliation

/-!
# What a command does to a wave

One lemma for each builder of `Waves.Commands`: the wave keeps its identity, its version grows, its event
log is extended by legal events, its metrics are those of its items, and each item is moved by the
command's own rule.  `WaveCommand.moves` collects them, and `admitted_evolved` and `reconciled_evolved`
are about the two moves of an asynchronous simulation.

`WaveState.phase` counts how far a wave is: created, source checked, simulating, past its simulation.  No
move goes back, and no command touches a wave in `SIMULATING`; only an admission leads there and only a
reconciliation leads away.
-/

namespace LotusManage.Waves

/-! ## Moves -/

/-- How far a wave is on its way through the simulation. -/
def WaveState.phase : WaveState → Nat
  | draft | previewed | created => 0
  | sourceChecked => 1
  | simulating => 2
  | _ => 3

theorem WaveState.phase_eq_two {state : WaveState} : state.phase = 2 ↔ state = .simulating := by
  cases state <;> simp [phase]

/-- A later value of the same wave. -/
structure Evolved (wave wave' : RebalanceWave) : Prop where
  waveId : wave'.waveId = wave.waveId
  tenantId : wave'.tenantId = wave.tenantId
  version : wave.version < wave'.version
  events : wave.events <+: wave'.events
  phase : wave.state.phase ≤ wave'.state.phase

theorem Evolved.trans {first second third : RebalanceWave} (h : Evolved first second)
    (h' : Evolved second third) : Evolved first third :=
  ⟨h'.waveId.trans h.waveId, h'.tenantId.trans h.tenantId, h.version.trans h'.version,
    h.events.trans h'.events, h.phase.trans h'.phase⟩

/-- What every stored wave satisfies: its event log leads to its state, and its metrics are
those of its items. -/
structure AggregateSound (wave : RebalanceWave) : Prop where
  events : EventsSound wave
  metrics : wave.aggregateMetrics = aggregateWaveItems wave.items

/-- A wave rebuilt with new items and hand-off refs, in a state. -/
structure Rebuilt (wave wave' : RebalanceWave) (items : List RebalanceWaveItem)
    (refs : List WaveHandoffRef) (toState : WaveState) : Prop where
  waveId : wave'.waveId = wave.waveId
  tenantId : wave'.tenantId = wave.tenantId
  version : wave.version < wave'.version
  events : wave.events <+: wave'.events
  sound : EventsSound wave → EventsSound wave'
  metrics : wave'.aggregateMetrics = aggregateWaveItems wave'.items
  items : wave'.items = items
  refs : wave'.handoffRefs = refs
  state : wave'.state = toState

section Rebuilding

variable {wave wave' : RebalanceWave} {items : List RebalanceWaveItem}
  {refs : List WaveHandoffRef} {toState : WaveState}

variable {event : RebalanceWaveEvent}

theorem EventsSound.congr (hevents : wave'.events = wave.events)
    (hstate : wave'.state = wave.state) (h : EventsSound wave) : EventsSound wave' := by
  refine ⟨?_, ?_, ?_⟩
  · rw [hevents]
    exact h.linked
  · rw [hevents]
    exact h.legal
  · rw [hevents, hstate]
    exact h.last

theorem Rebuilt.evolved (h : Rebuilt wave wave' items refs toState)
    (hphase : wave.state.phase ≤ toState.phase) : Evolved wave wave' :=
  ⟨h.waveId, h.tenantId, h.version, h.events, h.state ▸ hphase⟩

theorem Rebuilt.aggregateSound (h : Rebuilt wave wave' items refs toState)
    (hsound : AggregateSound wave) : AggregateSound wave' :=
  ⟨h.sound hsound.events, h.metrics⟩

/-- The wave that a command passes on to the state machine. -/
def withItemsAndRefs (wave : RebalanceWave) (items : List RebalanceWaveItem)
    (refs : List WaveHandoffRef) : RebalanceWave :=
  { wave with
    items := items
    aggregateMetrics := aggregateWaveItems items
    handoffRefs := refs }

theorem Rebuilt.of_appended (h : Appended (withItemsAndRefs wave items refs) wave' event) :
    Rebuilt wave wave' items refs event.toState := by
  have hcandidate : EventsSound wave → EventsSound (withItemsAndRefs wave items refs) :=
    EventsSound.congr rfl rfl
  have hsound : EventsSound wave → EventsSound wave' :=
    fun hevents => (hcandidate hevents).of_appended h
  rw [h.eq] at hsound ⊢
  exact
    { waveId := rfl
      tenantId := rfl
      version := Int.lt_succ wave.version
      events := List.prefix_append _ _
      sound := hsound
      metrics := rfl
      items := rfl
      refs := rfl
      state := rfl }

theorem Rebuilt.of_transition
    (h : applyWaveTransition (withItemsAndRefs wave items refs) toState event = .ok wave') :
    toState ∈ allowedWaveTransitions wave.state ∧ Rebuilt wave wave' items refs toState := by
  obtain ⟨hallowed, hto, happended⟩ := applyWaveTransition_eq_ok h
  refine ⟨hallowed, ?_⟩
  rw [← hto]
  exact .of_appended happended

end Rebuilding

/-! ## The builders -/

section Builders

variable {wave wave' : RebalanceWave} {context : CommandContext}

theorem buildSourceCheckedWave_rebuilt {actorId correlationId : String}
    {mandates : MandateLookup} {stamp : EventStamp}
    (h : buildSourceCheckedWave wave actorId correlationId mandates stamp = .ok wave') :
    Rebuilt wave wave' (wave.items.map (classifyItemSourceReadiness mandates wave.asOfDate))
      wave.handoffRefs .sourceChecked := by
  have htransition : applyWaveTransition
      (withItemsAndRefs wave (wave.items.map (classifyItemSourceReadiness mandates wave.asOfDate))
        wave.handoffRefs) .sourceChecked _ = .ok wave' := h
  exact (Rebuilt.of_transition htransition).2

theorem Rebuilt.after_appended {middle : RebalanceWave} {event : RebalanceWaveEvent}
    {items : List RebalanceWaveItem} {refs : List WaveHandoffRef} {toState : WaveState}
    (h : Rebuilt middle wave' items refs toState) (happended : Appended wave middle event) :
    Rebuilt wave wave' items refs toState := by
  have hsound : EventsSound wave → EventsSound wave' :=
    fun hevents => h.sound (hevents.of_appended happended)
  have hevents : wave.events <+: middle.events := by
    rw [happended.eq]
    exact List.prefix_append _ _
  have hversion : wave.version < middle.version := by
    rw [happended.eq]
    exact Int.lt_succ wave.version
  refine ⟨h.waveId.trans ?_, h.tenantId.trans ?_, hversion.trans h.version,
    hevents.trans h.events, hsound, h.metrics, h.items, h.refs, h.state⟩ <;> rw [happended.eq]

theorem simulateItems_forall₂ {inputs : SimulationInputs} :
    ∀ {items items' : List RebalanceWaveItem}, simulateItems inputs items = .ok items' →
      List.Forall₂ (fun item item' => simulateItem inputs item = .ok item') items items'
  | [], items', h => by
    cases h
    exact .nil
  | item :: items, items', h => by
    unfold simulateItems at h
    split at h
    · cases h
    · rename_i item' hitem
      split at h
      · cases h
      · rename_i rest hrest
        cases h
        exact .cons hitem (simulateItems_forall₂ hrest)

theorem buildSimulatedWave_rebuilt {actorId correlationId : String} {inputs : SimulationInputs}
    {startStamp endStamp : EventStamp}
    (h : buildSimulatedWave wave actorId correlationId inputs startStamp endStamp = .ok wave') :
    ∃ items, List.Forall₂ (fun item item' => simulateItem inputs item = .ok item') wave.items
        items ∧
      Rebuilt wave wave' items wave.handoffRefs (simulationResultState items) := by
  unfold buildSimulatedWave at h
  split at h
  · cases h
  rename_i simulating hstart
  obtain ⟨_, _, happended⟩ := applyWaveTransition_eq_ok hstart
  split at h
  · cases h
  split at h
  · cases h
  rename_i items hitems
  have heq := happended.eq
  have hend : applyWaveTransition (withItemsAndRefs simulating items simulating.handoffRefs)
      (simulationResultState items) _ = .ok wave' := h
  have hrebuilt := (Rebuilt.of_transition hend).2.after_appended happended
  rw [heq] at hitems hrebuilt
  exact ⟨items, simulateItems_forall₂ hitems, hrebuilt⟩

theorem buildSelected_rebuilt {selectedItem : RebalanceWaveItem} {selection : Selection}
    (h : buildWaveWithSelectedItemAlternative wave selectedItem context selection = .ok wave') :
    Rebuilt wave wave'
      (wave.items.map (fun item =>
        if item.waveItemId = selectedItem.waveItemId then
          withSelectionAndProofPack context selection selectedItem
        else item))
      wave.handoffRefs wave.state := by
  obtain ⟨hto, happended⟩ := appendSameStateEvent_eq_ok h
  have hcandidate : Appended (withItemsAndRefs wave
      (wave.items.map (fun item =>
        if item.waveItemId = selectedItem.waveItemId then
          withSelectionAndProofPack context selection selectedItem
        else item)) wave.handoffRefs) wave' _ := happended
  exact .of_appended hcandidate

theorem buildApprovedWave_rebuilt (h : buildApprovedWave wave context = .ok wave') :
    Rebuilt wave wave' (wave.items.map (approveItem context)) wave.handoffRefs
      (approvalTargetOf wave context) := by
  unfold buildApprovedWave at h
  dsimp only at h
  split at h
  · cases h
  · have htransition : applyWaveTransition
        (withItemsAndRefs wave (wave.items.map (approveItem context)) wave.handoffRefs)
        (approvalTargetOf wave context) _ = .ok wave' := h
    exact (Rebuilt.of_transition htransition).2

theorem buildStagedWave_rebuilt (h : buildStagedWave wave context = .ok wave') :
    Rebuilt wave wave' (wave.items.map (stageItem context)) wave.handoffRefs .staged := by
  unfold buildStagedWave at h
  dsimp only at h
  split at h
  · cases h
  · have htransition : applyWaveTransition
        (withItemsAndRefs wave (wave.items.map (stageItem context)) wave.handoffRefs) .staged _ =
          .ok wave' := h
    exact (Rebuilt.of_transition htransition).2

theorem buildHandoffReadyWave_rebuilt {handoffStamp : HandoffStamp}
    (h : buildHandoffReadyWave wave context handoffStamp = .ok wave') :
    ∃ ref : WaveHandoffRef,
      ref.itemIds = (reached .handoffReady (wave.items.map (handoffItem context))).map
        RebalanceWaveItem.waveItemId ∧
      Rebuilt wave wave' (wave.items.map (handoffItem context)) (wave.handoffRefs ++ [ref])
        .handoffReady := by
  unfold buildHandoffReadyWave at h
  dsimp only at h
  split at h
  · cases h
  · have htransition : applyWaveTransition
        (withItemsAndRefs wave (wave.items.map (handoffItem context))
          (wave.handoffRefs ++ [buildHandoffRef handoffStamp wave.waveId
            ((reached .handoffReady (wave.items.map (handoffItem context))).map
              RebalanceWaveItem.waveItemId) context])) .handoffReady _ = .ok wave' := h
    exact ⟨_, rfl, (Rebuilt.of_transition htransition).2⟩

theorem buildCancelledWave_rebuilt (h : buildCancelledWave wave context = .ok wave') :
    .cancelled ∈ allowedWaveTransitions wave.state ∧
      Rebuilt wave wave' (wave.items.map (cancelItem context)) wave.handoffRefs .cancelled := by
  unfold buildCancelledWave at h
  dsimp only at h
  split at h
  · rename_i cancelled hcancel
    cases h
    have htransition : applyWaveTransition
        (withItemsAndRefs wave (wave.items.map (cancelItem context)) wave.handoffRefs)
        .cancelled _ = .ok wave' := hcancel
    exact Rebuilt.of_transition htransition
  · cases h
  · cases h

end Builders

/-! ## The items -/

/-- The item states before a selection. -/
def WaveItemState.early : WaveItemState → Bool
  | candidate | sourceReady | sourceDegraded | reviewRequired | sourceBlocked | simulated
  | simulationBlocked => true
  | selected | proofPackReady | approved | staged | handoffReady | excluded => false

theorem waveItemId_classifyItemSourceReadiness (mandates : MandateLookup) (asOfDate : String)
    (item : RebalanceWaveItem) :
    (classifyItemSourceReadiness mandates asOfDate item).waveItemId = item.waveItemId := by
  unfold classifyItemSourceReadiness classifyWaveItemSourceReadiness
  dsimp only
  split
  · rfl
  · split <;> rfl

theorem early_stateFromHealth (health : MandateHealthSnapshot) (asOfDate : String) :
    (stateFromHealth health asOfDate).1.early = true := by
  unfold stateFromHealth
  split
  · rfl
  · split
    · rfl
    · split
      · rfl
      · split <;> rfl

theorem early_classifyItemSourceReadiness (mandates : MandateLookup) (asOfDate : String)
    (item : RebalanceWaveItem) :
    (classifyItemSourceReadiness mandates asOfDate item).state.early = true := by
  unfold classifyItemSourceReadiness classifyWaveItemSourceReadiness
  dsimp only
  split
  · rfl
  · split
    · rfl
    · exact early_stateFromHealth _ _

theorem simulateItem_eq_ok {inputs : SimulationInputs} {item item' : RebalanceWaveItem}
    (h : simulateItem inputs item = .ok item') :
    item'.waveItemId = item.waveItemId ∧ (item' = item ∨ item'.state.early = true) := by
  unfold simulateItem at h
  split at h
  · cases h
    exact ⟨rfl, Or.inl rfl⟩
  split at h
  · cases h
    exact ⟨rfl, Or.inr rfl⟩
  split at h
  · cases h
    exact ⟨rfl, Or.inr rfl⟩
  split at h
  · cases h
  · cases h
    exact ⟨rfl, Or.inr rfl⟩
  · split at h <;> cases h <;> exact ⟨rfl, Or.inr rfl⟩

theorem withSelectionAndProofPack_spec (context : CommandContext) (selection : Selection)
    (item : RebalanceWaveItem) :
    (withSelectionAndProofPack context selection item).waveItemId = item.waveItemId ∧
      ((withSelectionAndProofPack context selection item).state = .selected ∨
        (withSelectionAndProofPack context selection item).state = .proofPackReady) := by
  unfold withSelectionAndProofPack
  dsimp only
  split
  · exact ⟨rfl, Or.inl rfl⟩
  · exact ⟨rfl, Or.inl rfl⟩
  · refine ⟨rfl, ?_⟩
    dsimp only
    split
    · exact Or.inl rfl
    · exact Or.inr rfl

/-- What a command does to one item. -/
def WaveCommand.ItemMove (item item' : RebalanceWaveItem) : WaveCommand → Prop
  | sourceCheck .. => item'.waveItemId = item.waveItemId ∧ item'.state.early = true
  | simulate .. =>
    item'.waveItemId = item.waveItemId ∧ (item' = item ∨ item'.state.early = true)
  | select .. =>
    item'.waveItemId = item.waveItemId ∧
      (item' = item ∨ item'.state = .selected ∨ item'.state = .proofPackReady)
  | approve context => item' = approveItem context item
  | stage context => item' = stageItem context item
  | handoff context _ => item' = handoffItem context item
  | cancel context => item' = cancelItem context item

/-- What a command does to the hand-off refs: only a hand-off adds one, which names the items
that it reached. -/
def WaveCommand.HandoffMove (wave wave' : RebalanceWave) : WaveCommand → Prop
  | handoff context _ =>
    wave'.state = .handoffReady ∧ ∃ ref : WaveHandoffRef,
      wave'.handoffRefs = wave.handoffRefs ++ [ref] ∧
      ref.itemIds = (reached .handoffReady (wave.items.map (handoffItem context))).map
        RebalanceWaveItem.waveItemId
  | _ => wave'.state ≠ .handoffReady ∧ wave'.handoffRefs = wave.handoffRefs

/-- What a command does to a wave. -/
structure WaveCommand.Moves (command : WaveCommand) (wave wave' : RebalanceWave) : Prop where
  evolved : Evolved wave wave'
  sound : AggregateSound wave → AggregateSound wave'
  notSimulating : wave.state ≠ .simulating ∧ wave'.state ≠ .simulating
  notHandedOff : wave.state ≠ .handoffReady
  items : List.Forall₂ (fun item item' => command.ItemMove item item') wave.items wave'.items
  handoff : command.HandoffMove wave wave'

section Commands

variable {wave wave' : RebalanceWave} {command : WaveCommand}

theorem TransitionGuard.state_of_check {transitionGuard : TransitionGuard}
    (h : transitionGuard.check wave = .ok false) :
    wave.state ∉ transitionGuard.replayStates ∧
      ∀ allowed, transitionGuard.allowedStates = some allowed → wave.state ∈ allowed := by
  unfold check at h
  split at h
  · cases h
  rename_i hreplay
  refine ⟨hreplay, ?_⟩
  intro allowed hallowed
  rw [hallowed] at h
  dsimp only at h
  split at h
  · assumption
  · cases h

theorem forall₂_map_self {R : RebalanceWaveItem → RebalanceWaveItem → Prop}
    {f : RebalanceWaveItem → RebalanceWaveItem} (items : List RebalanceWaveItem)
    (h : ∀ item, R item (f item)) : List.Forall₂ R items (items.map f) := by
  rw [List.forall₂_map_right_iff, List.forall₂_same]
  exact fun item _ => h item

theorem phase_simulationResultState (items : List RebalanceWaveItem) :
    (simulationResultState items).phase = 3 := by
  rcases simulationResultState_cases items with h | h | h <;> rw [h] <;> rfl

theorem approvalTarget_cases (approvedCount totalCount : Nat) :
    approvalTarget approvedCount totalCount = .approved ∨
      approvalTarget approvedCount totalCount = .approvedWithExceptions := by
  unfold approvalTarget
  split
  · exact Or.inl rfl
  · exact Or.inr rfl

theorem WaveCommand.Moves.of_rebuilt {items : List RebalanceWaveItem} {refs : List WaveHandoffRef}
    {toState : WaveState} (h : Rebuilt wave wave' items refs toState)
    (hphase : wave.state.phase ≤ toState.phase)
    (hfrom : wave.state ≠ .simulating ∧ wave.state ≠ .handoffReady)
    (hto : toState ≠ .simulating)
    (hitems : List.Forall₂ (fun item item' => command.ItemMove item item') wave.items items)
    (hhandoff : command.HandoffMove wave wave') : command.Moves wave wave' :=
  { evolved := h.evolved hphase
    sound := h.aggregateSound
    notSimulating := ⟨hfrom.1, h.state ▸ hto⟩
    notHandedOff := hfrom.2
    items := h.items ▸ hitems
    handoff := hhandoff }

theorem WaveCommand.moves (hcheck : command.transitionGuard.check wave = .ok false)
    (hbuild : command.build wave = .ok wave') : command.Moves wave wave' := by
  obtain ⟨hreplay, hallowed⟩ := TransitionGuard.state_of_check hcheck
  cases command with
  | sourceCheck actorId correlationId mandates stamp =>
    have h := buildSourceCheckedWave_rebuilt hbuild
    have hstate : wave.state = .created := by simpa using hallowed [.created] rfl
    refine .of_rebuilt h ?_ ?_ (by decide) ?_ ⟨?_, h.refs⟩
    · simp [hstate, WaveState.phase]
    · simp [hstate]
    · refine forall₂_map_self wave.items fun item => ⟨?_, ?_⟩
      · exact waveItemId_classifyItemSourceReadiness _ _ item
      · exact early_classifyItemSourceReadiness _ _ item
    · rw [h.state]
      decide
  | simulate actorId correlationId inputs startStamp endStamp =>
    obtain ⟨items, hitems, h⟩ := buildSimulatedWave_rebuilt hbuild
    have hstate : wave.state = .sourceChecked := by simpa using hallowed [.sourceChecked] rfl
    have hresult := simulationResultState_cases items
    refine .of_rebuilt h ?_ ?_ ?_ ?_ ⟨?_, h.refs⟩
    · rw [hstate, phase_simulationResultState]
      decide
    · simp [hstate]
    · rcases hresult with hr | hr | hr <;> simp [hr]
    · exact hitems.imp fun item item' hitem => simulateItem_eq_ok hitem
    · rw [h.state]
      rcases hresult with hr | hr | hr <;> simp [hr]
  | select context waveItemId selected =>
    have hstate : wave.state = .simulated ∨ wave.state = .partiallySimulated := by
      simpa using hallowed [.simulated, .partiallySimulated] rfl
    unfold build at hbuild
    dsimp only at hbuild
    split at hbuild
    · cases hbuild
    split at hbuild
    · cases hbuild
    rename_i selectedItem _ _ selection
    have h := buildSelected_rebuilt hbuild
    refine .of_rebuilt h (le_refl _) ?_ ?_ ?_ ⟨?_, h.refs⟩
    · rcases hstate with hs | hs <;> simp [hs]
    · rcases hstate with hs | hs <;> simp [hs]
    · refine forall₂_map_self wave.items fun item => ?_
      -- the selected item, and the others
      show _ ∧ _
      split
      · rename_i hid
        obtain ⟨hsame, hselected⟩ := withSelectionAndProofPack_spec context selection selectedItem
        exact ⟨hsame.trans hid.symm, Or.inr hselected⟩
      · exact ⟨rfl, Or.inl rfl⟩
    · rw [h.state]
      rcases hstate with hs | hs <;> simp [hs]
  | approve context =>
    have h := buildApprovedWave_rebuilt hbuild
    have hstate : wave.state = .simulated ∨ wave.state = .partiallySimulated ∨
        wave.state = .reviewRequired := by
      simpa using hallowed [.simulated, .partiallySimulated, .reviewRequired] rfl
    have htarget : approvalTargetOf wave context = .approved ∨
        approvalTargetOf wave context = .approvedWithExceptions := approvalTarget_cases _ _
    refine .of_rebuilt h ?_ ?_ ?_ (forall₂_map_self wave.items fun _ => rfl) ⟨?_, h.refs⟩
    · rcases htarget with ht | ht <;> rcases hstate with hs | hs | hs <;>
        simp [ht, hs, WaveState.phase]
    · rcases hstate with hs | hs | hs <;> simp [hs]
    · rcases htarget with ht | ht <;> simp [ht]
    · rw [h.state]
      rcases htarget with ht | ht <;> simp [ht]
  | stage context =>
    have h := buildStagedWave_rebuilt hbuild
    have hstate : wave.state = .approved ∨ wave.state = .approvedWithExceptions := by
      simpa using hallowed [.approved, .approvedWithExceptions] rfl
    refine .of_rebuilt h ?_ ?_ (by decide) (forall₂_map_self wave.items fun _ => rfl) ⟨?_, h.refs⟩
    · rcases hstate with hs | hs <;> simp [hs, WaveState.phase]
    · rcases hstate with hs | hs <;> simp [hs]
    · rw [h.state]
      decide
  | handoff context handoffStamp =>
    obtain ⟨ref, hids, h⟩ := buildHandoffReadyWave_rebuilt hbuild
    have hstate : wave.state = .staged := by simpa using hallowed [.staged] rfl
    refine .of_rebuilt h ?_ ?_ (by decide) (forall₂_map_self wave.items fun _ => rfl)
      ⟨h.state, ref, h.refs, hids⟩
    · simp [hstate, WaveState.phase]
    · simp [hstate]
  | cancel context =>
    obtain ⟨hcancel, h⟩ := buildCancelledWave_rebuilt hbuild
    refine .of_rebuilt h ?_ ⟨?_, ?_⟩ (by decide) (forall₂_map_self wave.items fun _ => rfl)
      ⟨?_, h.refs⟩
    · cases wave.state <;> simp [WaveState.phase]
    · intro hs
      rw [hs] at hcancel
      simp [allowedWaveTransitions] at hcancel
    · intro hs
      rw [hs] at hcancel
      simp [allowedWaveTransitions] at hcancel
    · rw [h.state]
      decide

end Commands

/-! ## The moves of an asynchronous simulation -/

section Simulation

variable {wave : RebalanceWave}

variable {wave' : RebalanceWave}

theorem admitted_evolved (request : AdmitRequest) (sha256Hex : String → String)
    (tenantId : String) (hstate : wave.state = .sourceChecked) :
    Evolved wave (request.admission sha256Hex tenantId wave).simulatingWave :=
  { waveId := rfl
    tenantId := rfl
    version := Int.lt_succ wave.version
    events := List.prefix_append _ _
    phase := by
      show _ ≤ WaveState.simulating.phase
      rw [hstate]
      decide }

theorem admitted_sound (request : AdmitRequest) (sha256Hex : String → String)
    (tenantId : String) (hstate : wave.state = .sourceChecked) (hsound : AggregateSound wave) :
    AggregateSound (request.admission sha256Hex tenantId wave).simulatingWave := by
  obtain ⟨_, _, happended⟩ :=
    applyWaveTransition_eq_ok (request.transition sha256Hex tenantId hstate)
  exact ⟨hsound.events.of_appended happended, hsound.metrics⟩

variable {operation : WaveSimulationOperation} {records : List WaveSimulationItemRecord}
  {stamp : EventStamp}

theorem completedWave_evolved (hstate : wave.state = .simulating) :
    Evolved wave (completedWave wave operation records stamp) :=
  { waveId := rfl
    tenantId := rfl
    version := Int.lt_succ wave.version
    events := List.prefix_append _ _
    phase := by
      show _ ≤ (simulationResultState _).phase
      rw [hstate, phase_simulationResultState]
      decide }

theorem progressedWave_evolved : Evolved wave (progressedWave wave operation records) :=
  { waveId := rfl
    tenantId := rfl
    version := Int.lt_succ wave.version
    events := List.prefix_refl _
    phase := le_refl _ }

theorem reconciledWave_eq_some (hstate : wave.state = .simulating)
    (h : reconciledWave wave operation records stamp = .ok (some wave')) :
    (operationItemsAreTerminal operation records = true ∧
        wave' = completedWave wave operation records stamp) ∨
      (operationItemsAreTerminal operation records = false ∧
        wave' = progressedWave wave operation records) := by
  rcases reconciledWave_cases hstate operation records stamp with
    ⟨hterminal, heq⟩ | ⟨hopen, _, heq⟩ | ⟨_, _, heq⟩
  · rw [heq] at h
    cases h
    exact Or.inl ⟨hterminal, rfl⟩
  · rw [heq] at h
    cases h
    exact Or.inr ⟨hopen, rfl⟩
  · rw [heq] at h
    cases h

theorem reconciled_evolved (hstate : wave.state = .simulating)
    (h : reconciledWave wave operation records stamp = .ok (some wave')) : Evolved wave wave' := by
  rcases reconciledWave_eq_some hstate h with ⟨_, rfl⟩ | ⟨_, rfl⟩
  · exact completedWave_evolved hstate
  · exact progressedWave_evolved

theorem reconciled_sound (hstate : wave.state = .simulating)
    (h : reconciledWave wave operation records stamp = .ok (some wave'))
    (hsound : AggregateSound wave) : AggregateSound wave' := by
  rcases reconciledWave_eq_some hstate h with ⟨_, rfl⟩ | ⟨_, rfl⟩
  · -- the completion event starts in `SIMULATING` and ends in a result state
    have hcandidate : EventsSound wave → EventsSound (waveWithItemsAndAggregate wave
        (reconciledWaveItems wave.items operation records)) := EventsSound.congr rfl rfl
    have happended : Appended
        (waveWithItemsAndAggregate wave (reconciledWaveItems wave.items operation records))
        (completedWave wave operation records stamp)
        (completionEvent stamp
          (waveWithItemsAndAggregate wave (reconciledWaveItems wave.items operation records))
          operation
            (simulationResultState (reconciledWaveItems wave.items operation records))) := by
      refine ⟨congrArg some hstate.symm, Or.inr ?_, rfl⟩
      show simulationResultState _ ∈ allowedWaveTransitions wave.state
      rw [hstate]
      exact simulationResultState_allowed _
    exact ⟨(hcandidate hsound.events).of_appended happended, rfl⟩
  · have hcandidate : EventsSound wave → EventsSound (progressedWave wave operation records) :=
      EventsSound.congr rfl rfl
    exact ⟨hcandidate hsound.events, rfl⟩

end Simulation

end LotusManage.Waves
