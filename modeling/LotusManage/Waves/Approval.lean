import LotusManage.Waves.Commands

/-!
# When an approval finds its transition

`approve_persisted_wave` accepts a wave in one of three states, approves the items it
can and computes the target from the mixture: `APPROVED` when every item ends
approved, `APPROVED_WITH_EXCEPTIONS` otherwise.  The state machine does not allow
every pairing of the wave's state with a target.  From `SIMULATED` only `APPROVED` is
allowed and from `PARTIALLY_SIMULATED` only `APPROVED_WITH_EXCEPTIONS`, so a wave whose
simulation succeeded throughout and of which some items were not selected cannot be
approved: the command raises the state machine's own error, which no caller maps.

`approval_total_iff` says exactly on which waves the command goes through.
-/

namespace LotusManage.Waves

/-- An item that the approval command accepts. -/
def approvable (item : RebalanceWaveItem) : Bool :=
  (decide (item.state = .selected) || decide (item.state = .proofPackReady)) &&
    !proofPackBlocked item

/-- An item that counts as approved after the command. -/
def endsApproved (item : RebalanceWaveItem) : Bool :=
  approvable item || (decide (item.state = .approved) && !proofPackBlocked item)

/-- The states in which `approve_persisted_wave` validates a wave. -/
def ApprovalState (state : WaveState) : Prop :=
  state = .simulated ∨ state = .partiallySimulated ∨ state = .reviewRequired

/-- The target state that `build_approved_wave` computes. -/
def approvalTargetOf (wave : RebalanceWave) (context : CommandContext) : WaveState :=
  approvalTarget (reached .approved (wave.items.map (approveItem context))).length
    (wave.items.map (approveItem context)).length

/-- The mixture of items fits the state of the wave: a simulated wave has no exception, and
a partially simulated one has at least one. -/
def MixtureFits (wave : RebalanceWave) : Prop :=
  (wave.state = .simulated → ∀ item ∈ wave.items, endsApproved item = true) ∧
    (wave.state = .partiallySimulated → ∃ item ∈ wave.items, endsApproved item = false)

instance (wave : RebalanceWave) : Decidable (MixtureFits wave) :=
  inferInstanceAs (Decidable ((_ → ∀ item ∈ wave.items, _) ∧ (_ → ∃ item ∈ wave.items, _)))

/-! ## The approved items -/

variable {context : CommandContext} {item : RebalanceWaveItem} {wave : RebalanceWave}
  {repo : WaveRepository}

theorem approveItem_of_approvable (h : approvable item = true) :
    approveItem context item =
      movedItem .approved "WAVE_ITEM_APPROVED" "approval" [] context item := by
  simp only [approvable, Bool.and_eq_true, Bool.or_eq_true, decide_eq_true_eq,
    Bool.not_eq_true'] at h
  rw [approveItem, if_neg]
  rw [h.2]
  rintro (⟨hselected, hready⟩ | hfalse)
  · exact h.1.elim hselected hready
  · cases hfalse

theorem approveItem_of_not_approvable (h : approvable item = false) :
    approveItem context item = item := by
  rw [approveItem, if_pos]
  by_cases hblocked : proofPackBlocked item = true
  · exact Or.inr hblocked
  · refine Or.inl ⟨?_, ?_⟩
    · intro hstate
      simp [approvable, hstate, hblocked] at h
    · intro hstate
      simp [approvable, hstate, hblocked] at h

theorem proofPackBlocked_approval (context : CommandContext) (item : RebalanceWaveItem) :
    proofPackBlocked (movedItem .approved "WAVE_ITEM_APPROVED" "approval" [] context item) =
      proofPackBlocked item :=
  proofPackBlocked_movedItem (by decide) (by decide) (by decide) (by simp) _ _ context item

theorem reached_approveItem (context : CommandContext) (item : RebalanceWaveItem) :
    (decide ((approveItem context item).state = .approved) &&
      !proofPackBlocked (approveItem context item)) = endsApproved item := by
  cases h : approvable item with
  | false =>
    rw [approveItem_of_not_approvable h, endsApproved, h, Bool.false_or]
  | true =>
    rw [approveItem_of_approvable h, proofPackBlocked_approval, endsApproved, h, Bool.true_or]
    simp only [approvable, Bool.and_eq_true, Bool.not_eq_true'] at h
    simp [movedItem, h.2]

theorem length_reached_approved (context : CommandContext) (items : List RebalanceWaveItem) :
    (reached .approved (items.map (approveItem context))).length = items.countP endsApproved := by
  rw [reached, ← List.countP_eq_length_filter, List.countP_map]
  refine List.countP_congr fun item _ => ?_
  show ((decide ((approveItem context item).state = .approved) &&
      !proofPackBlocked (approveItem context item)) = true ↔ _)
  rw [reached_approveItem]

theorem approvalTargetOf_eq (wave : RebalanceWave) (context : CommandContext) :
    approvalTargetOf wave context =
      if ∀ item ∈ wave.items, endsApproved item = true then .approved
      else .approvedWithExceptions := by
  have hall : wave.items.countP endsApproved = wave.items.length ↔
      ∀ item ∈ wave.items, endsApproved item = true := List.countP_eq_length
  rw [approvalTargetOf, approvalTarget, length_reached_approved, List.length_map]
  by_cases h : ∀ item ∈ wave.items, endsApproved item = true
  · rw [if_pos h, if_pos (hall.mpr h)]
  · rw [if_neg h, if_neg (fun hcount => h (hall.mp hcount))]

theorem approvalTargetOf_mem_iff (hstate : ApprovalState wave.state) (context : CommandContext) :
    approvalTargetOf wave context ∈ allowedWaveTransitions wave.state ↔ MixtureFits wave := by
  rw [approvalTargetOf_eq, MixtureFits]
  by_cases h : ∀ item ∈ wave.items, endsApproved item = true
  · rw [if_pos h]
    rcases hstate with hs | hs | hs <;> simp only [hs, allowedWaveTransitions]
    · simpa using h
    · simpa using h
    · simp
  · rw [if_neg h]
    push Not at h
    rcases hstate with hs | hs | hs <;> simp only [hs, allowedWaveTransitions]
    · simpa using h
    · simpa using h
    · simp

/-! ## The command -/

theorem buildApprovedWave_eq (hitem : ∃ item ∈ wave.items, approvable item = true) :
    buildApprovedWave wave context =
      let approvedItems := wave.items.map (approveItem context)
      let approvedCount := (reached .approved approvedItems).length
      let toState := approvalTargetOf wave context
      applyWaveTransition (waveWithItemsAndAggregate wave approvedItems) toState
        (buildWaveEvent context.stamp wave.waveId wave.state toState context.actorId
          context.correlationId "WAVE_APPROVED"
          (approvalEventMetadata approvedCount approvedItems.length context)
          "STATE_TRANSITION") := by
  obtain ⟨item, hmem, haccepts⟩ := hitem
  have hcount : (reached .approved (wave.items.map (approveItem context))).length ≠ 0 := by
    rw [length_reached_approved]
    refine Nat.pos_iff_ne_zero.mp (List.countP_pos_iff.mpr ⟨item, hmem, ?_⟩)
    rw [endsApproved, haccepts, Bool.true_or]
  unfold buildApprovedWave
  dsimp only
  rw [if_neg hcount]
  rfl

theorem buildApprovedWave_invalidTransition_iff (context : CommandContext)
    (hitem : ∃ item ∈ wave.items, approvable item = true) :
    (∃ message, buildApprovedWave wave context = .error (.invalidTransition message)) ↔
      approvalTargetOf wave context ∉ allowedWaveTransitions wave.state := by
  rw [buildApprovedWave_eq hitem]
  dsimp only
  rw [applyWaveTransition_of_event _ (approvalTargetOf wave context) _ rfl rfl rfl]
  by_cases hallowed : approvalTargetOf wave context ∈ allowedWaveTransitions wave.state
  · simp [waveWithItemsAndAggregate, hallowed]
  · simp [waveWithItemsAndAggregate, hallowed]

theorem approve_execute_eq {tenantId : String} (hstate : ApprovalState wave.state) :
    (WaveCommand.approve context).execute repo wave tenantId =
      match buildApprovedWave wave context with
      | .error e => .error e
      | .ok wave' =>
        match updateWave repo wave' wave.version tenantId with
        | .error e => .error (.validation "DPM_WAVE_VERSION_CONFLICT" e.code)
        | .ok repo' => .ok (repo', wave', false) := by
  have hcheck : (WaveCommand.approve context).transitionGuard.check wave = .ok false := by
    rcases hstate with hs | hs | hs <;>
      simp [WaveCommand.transitionGuard, TransitionGuard.check, hs]
  rw [WaveCommand.execute, hcheck]
  rfl

theorem approvePersistedWave_invalidTransition_iff {waveId tenantId : String}
    (context : CommandContext) (hget : getWave repo waveId tenantId = some wave)
    (hstate : ApprovalState wave.state) :
    (∃ message, approvePersistedWave repo waveId tenantId context =
        .error (.invalidTransition message)) ↔
      ∃ message, buildApprovedWave wave context = .error (.invalidTransition message) := by
  rw [approvePersistedWave, WaveCommand.persisted, hget]
  dsimp only
  rw [approve_execute_eq hstate]
  cases buildApprovedWave wave context with
  | error e => simp
  | ok wave' =>
    dsimp only
    split <;> simp

/-- A wave that the command has validated and of which it accepts an item finds its
transition exactly when the mixture of its items fits its state. -/
theorem approval_total_iff {repo : WaveRepository} {wave : RebalanceWave}
    {waveId tenantId : String} (context : CommandContext)
    (hget : getWave repo waveId tenantId = some wave) (hstate : ApprovalState wave.state)
    (hitem : ∃ item ∈ wave.items, approvable item = true) :
    (approvalTargetOf wave context ∈ allowedWaveTransitions wave.state ∧
        ∀ message, approvePersistedWave repo waveId tenantId context ≠
          .error (.invalidTransition message)) ↔
      MixtureFits wave := by
  have hraises := (approvePersistedWave_invalidTransition_iff context hget hstate).trans
    (buildApprovedWave_invalidTransition_iff context hitem)
  rw [← approvalTargetOf_mem_iff hstate context]
  constructor
  · exact And.left
  · intro hallowed
    refine ⟨hallowed, fun message hfail => ?_⟩
    exact hraises.mp ⟨message, hfail⟩ hallowed

/-! ## Two portfolios, one selection -/

def sampleStamp : EventStamp := ⟨"0123456789abcdef", 0⟩

def sampleContext : CommandContext :=
  { actorId := "pm_001"
    reasonCode := "APPROVED_BY_PM"
    comment := none
    correlationId := "corr-wave-001"
    stamp := sampleStamp }

/-- Every portfolio has a mandate, and every mandate is healthy. -/
def healthyMandates : MandateLookup :=
  { latestMandate := fun _ => none
    latestMandateByPortfolio := fun portfolioId =>
      some
        { mandateId := "MANDATE_" ++ portfolioId
          portfolioId := portfolioId
          mandateVersion := "1"
          modelPortfolioId := "MODEL_SG_BALANCED"
          sourceLineage := []
          fieldGapCodes := [] }
    latestHealthSnapshot := fun mandateId =>
      some
        { healthSnapshotId := "health_" ++ mandateId
          asOfDate := "2026-05-03"
          healthState := .ready
          recommendedAction := "NO_ACTION"
          sourceReadinessState := "READY" } }

/-- A request for a wave over the given portfolios. -/
def sampleRequest (portfolioIds : List String) : CreateRequest :=
  { triggerType := "EXPLICIT_PORTFOLIO_LIST"
    triggerId := "manual-wave-20260503-001"
    rationale := "Review explicitly selected portfolios after model drift triage."
    asOfDate := "2026-05-03"
    actorId := "pm_001"
    correlationId := "corr-wave-001"
    portfolios := portfolioIds.map (fun portfolioId => ⟨portfolioId, none, [], []⟩)
    idempotencyKey := "key-1"
    tenantId := "tenant-sg"
    requestHash := "sha256:request"
    mandates := healthyMandates
    previewUuid4Hex := "0123456789abcdef"
    waveUuid4Hex := "0123456789abcdef"
    itemUuid4Hex := fun _ => "0123456789abcdef"
    previewStamp := sampleStamp
    createStamp := sampleStamp }

/-- Every item has an input, and the construction service generates a set for it. -/
def sampleInputs (portfolioIds : List String) : SimulationInputs :=
  { portfolioIdOfInput := Dict.ofEntries (portfolioIds.map (fun id => (id, id)))
    generate := fun item => .generated
      { alternativeSetId := "cas_" ++ item.portfolioId
        portfolioId := item.portfolioId
        status := "READY"
        alternativeCount := 2
        proposedChanges := "[]"
        sourceAnalytics := .empty } }

def sampleSelection : Selection := ⟨"alt_min_turnover", "[]", .generated "dpp_001" "READY"⟩

/-- The commands that lead to a wave over the portfolios of which the first is selected. -/
def firstSelected (portfolioIds : List String) : Except WaveError WaveRepository := do
  let created ← createPersistedWave id .new (sampleRequest portfolioIds)
  let checked ← sourceCheckPersistedWave created.1 "dwv_0123456789ab" "tenant-sg" "pm_001"
    "corr-wave-001" healthyMandates sampleStamp
  let simulated ← simulatePersistedWave checked.1 "dwv_0123456789ab" "tenant-sg" "pm_001"
    "corr-wave-001" (sampleInputs portfolioIds) sampleStamp sampleStamp
  let selected ← selectPersistedWaveItemAlternative simulated.1 "dwv_0123456789ab" "tenant-sg"
    sampleContext "dwi_001_01234567" (.ok sampleSelection)
  return selected.1

/-- The repository after the commands, if none of them fails. -/
def firstSelectedRepository (portfolioIds : List String) : WaveRepository :=
  match firstSelected portfolioIds with
  | .ok repo => repo
  | .error _ => .new

def firstSelectedWave (portfolioIds : List String) : Option RebalanceWave :=
  getWave (firstSelectedRepository portfolioIds) "dwv_0123456789ab" "tenant-sg"

/-- The error of a command. -/
def errorOf {α : Type} : Except WaveError α → Option WaveError
  | .ok _ => none
  | .error e => some e

/-- Both simulations succeed and one alternative is selected: the approval fails. -/
theorem half_selected_wave_not_approved :
    (firstSelectedWave ["PB_SG_1", "PB_SG_2"]).map RebalanceWave.state = some .simulated ∧
    (firstSelectedWave ["PB_SG_1", "PB_SG_2"]).any (fun wave => wave.items.any approvable) = true ∧
    (firstSelectedWave ["PB_SG_1", "PB_SG_2"]).map
        (fun wave => approvalTargetOf wave sampleContext) = some .approvedWithExceptions ∧
    WaveState.approvedWithExceptions ∉ allowedWaveTransitions .simulated ∧
    errorOf (approvePersistedWave (firstSelectedRepository ["PB_SG_1", "PB_SG_2"])
        "dwv_0123456789ab" "tenant-sg" sampleContext) =
      some (.invalidTransition
        "DPM_WAVE_INVALID_TRANSITION:SIMULATED->APPROVED_WITH_EXCEPTIONS") := by
  refine ⟨?_, ?_, ?_, ?_, ?_⟩ <;> decide +kernel

/-- With a single portfolio the selected item is all there is, and the approval goes through. -/
theorem approval_total_single :
    let wave := (firstSelectedWave ["PB_SG_1"]).get (by decide +kernel)
    approvalTargetOf wave sampleContext ∈ allowedWaveTransitions wave.state ∧
      ∀ message, approvePersistedWave (firstSelectedRepository ["PB_SG_1"]) "dwv_0123456789ab"
        "tenant-sg" sampleContext ≠ .error (.invalidTransition message) := by
  intro wave
  have hget : getWave (firstSelectedRepository ["PB_SG_1"]) "dwv_0123456789ab" "tenant-sg" =
      some wave := (Option.some_get _).symm
  have hstate : ApprovalState wave.state := Or.inl (by decide +kernel)
  have hitem : ∃ item ∈ wave.items, approvable item = true := by decide +kernel
  exact (approval_total_iff sampleContext hget hstate hitem).mpr (by decide +kernel)

end LotusManage.Waves
