import LotusManage.Lib.Checks
import LotusManage.PmQuality.Scoring
import Mathlib.Algebra.BigOperators.Group.List.Basic

/-!
# What the scoring reads of the evidence

* `worstState_cases`: the worst state of a list is that of an element that ranks above all others.
* `evaluation_congr`: the evaluation reads the scores, the weights and the states of the results.
* `sameCores_of_perm`, `orderFree`: the order of the signals changes none of these, and the order of
  the items neither the state nor the score of a run.
-/

namespace LotusManage.PmQuality

/-! ## The worst state -/

theorem stateRank_injective : Function.Injective stateRank := by
  intro a b
  cases a <;> cases b <;> decide

theorem highestRanked_mem : ∀ (first : SignalState) (states : List SignalState),
    highestRanked first states ∈ first :: states
  | first, [] => List.mem_cons_self
  | first, state :: states => by
    rw [highestRanked]
    have hmem :=
      highestRanked_mem (if stateRank first < stateRank state then state else first) states
    split at hmem
    · rename_i hlt
      rw [if_pos hlt]
      exact List.mem_cons_of_mem first hmem
    · rename_i hlt
      rw [if_neg hlt]
      rcases List.mem_cons.mp hmem with heq | hmem
      · rw [heq]
        exact List.mem_cons_self
      · exact List.mem_cons_of_mem first (List.mem_cons_of_mem state hmem)

theorem rank_le_highestRanked : ∀ (first : SignalState) (states : List SignalState),
    ∀ state ∈ first :: states, stateRank state ≤ stateRank (highestRanked first states)
  | first, [], state, h => by
    rw [List.mem_singleton.mp h]
    exact le_refl _
  | first, next :: states, state, h => by
    rw [highestRanked]
    have hnext :=
      rank_le_highestRanked (if stateRank first < stateRank next then next else first) states
    have hpick := hnext _ List.mem_cons_self
    rcases List.mem_cons.mp h with rfl | h
    · refine le_trans ?_ hpick
      split <;> omega
    · rcases List.mem_cons.mp h with rfl | h
      · refine le_trans ?_ hpick
        split <;> omega
      · exact hnext state (List.mem_cons_of_mem _ h)

theorem worstState_cases {states : List SignalState} (h : states ≠ []) :
    ∃ worst ∈ states, (∀ state ∈ states, stateRank state ≤ stateRank worst) ∧
      worstState states = normalizedWorstState worst := by
  cases states with
  | nil => exact absurd rfl h
  | cons first states =>
    exact ⟨highestRanked first states, highestRanked_mem first states,
      rank_le_highestRanked first states, rfl⟩

theorem worstState_perm {states states' : List SignalState} (h : states.Perm states') :
    worstState states = worstState states' := by
  by_cases hnil : states = []
  · subst hnil
    rw [List.nil_perm.mp h]
  · have hnil' : states' ≠ [] := fun heq => hnil (List.perm_nil.mp (heq ▸ h))
    obtain ⟨worst, hmem, hall, hworst⟩ := worstState_cases hnil
    obtain ⟨worst', hmem', hall', hworst'⟩ := worstState_cases hnil'
    have hsame : worst = worst' := stateRank_injective
      (le_antisymm (hall' worst (h.mem_iff.mp hmem)) (hall worst' (h.mem_iff.mpr hmem')))
    rw [hworst, hworst', hsame]

/-! ## Severity -/

/-- The order of the states of a result: `READY` to `BLOCKED`; a disabled result comes below. -/
def severity : QualityState → Nat
  | .disabled => 0
  | .ready => 1
  | .pendingReview => 2
  | .degraded => 3
  | .breached => 4
  | .blocked => 5

/-- A state that comes after another one, among those that evidence is compared by. -/
def MoreSevere (state state' : QualityState) : Prop :=
  state ≠ .disabled ∧ severity state < severity state'

instance (state state' : QualityState) : Decidable (MoreSevere state state') :=
  inferInstanceAs (Decidable (state ≠ .disabled ∧ severity state < severity state'))

theorem stateRank_signal (state : QualityState) : stateRank state.signal = severity state + 1 := by
  cases state <;> rfl

theorem severity_normalized {state : SignalState} (h : 1 ≤ stateRank state) :
    severity (normalizedWorstState state) + 1 = stateRank state := by
  cases state <;> revert h <;> decide

/-- What counts of a result for the run: its score, its weight and its state. -/
def core (result : IndicatorResult) : Option Decimal × Decimal × QualityState :=
  (result.score, result.weight, result.state)

variable {signals signals' : List Signal}

/-! ## The evaluation -/

section Evaluation

variable {policy : Policy} {results results' : List IndicatorResult} {evaluation : Evaluation}

theorem hasIndicatorState_iff {s : QualityState} :
    hasIndicatorState results s = true ↔ ∃ result ∈ results, result.state = s := by
  unfold hasIndicatorState
  simp only [List.any_eq_true, decide_eq_true_eq]

theorem weightedScore_congr
    (h : results.map (fun r => (r.score, r.weight)) = results'.map (fun r => (r.score, r.weight))) :
    weightedScore results = weightedScore results' := by
  have hread : ∀ {β : Type} (f : Option Decimal × Decimal → β) (rs : List IndicatorResult),
      (rs.filter (·.score.isSome)).map (fun r => f (r.score, r.weight)) =
        ((rs.map (fun r => (r.score, r.weight))).filter (·.1.isSome)).map f := by
    intro β f rs
    rw [List.filter_map, List.map_map]
    rfl
  have hweights : (results.filter (·.score.isSome)).map (·.weight) =
      (results'.filter (·.score.isSome)).map (·.weight) := by
    rw [hread Prod.snd results, hread Prod.snd results', h]
  have hproducts : (results.filter (·.score.isSome)).map (fun r => r.score.getD 0 * r.weight) =
      (results'.filter (·.score.isSome)).map (fun r => r.score.getD 0 * r.weight) := by
    rw [hread (fun pair => pair.1.getD 0 * pair.2) results,
      hread (fun pair => pair.1.getD 0 * pair.2) results', h]
  unfold weightedScore
  dsimp only
  rw [hweights, hproducts]

theorem evaluation_cases (h : scoreRunEvaluation policy results = .ok evaluation) :
    (hasIndicatorState results .blocked = true ∧ evaluation.state = .blocked ∧
      evaluation.score = none) ∨
    (hasIndicatorState results .blocked = false ∧ ∃ score, weightedScore results = .ok score ∧
      evaluation.state = scoreState score policy results ∧ evaluation.score = some score) := by
  unfold scoreRunEvaluation at h
  split at h
  · rename_i hblocked
    cases h
    exact Or.inl ⟨hblocked, rfl, rfl⟩
  · rename_i hblocked
    obtain ⟨score, hscore, h⟩ := Checks.bind_eq_ok h
    cases h
    exact Or.inr ⟨Bool.not_eq_true _ ▸ hblocked, score, hscore, rfl, rfl⟩

theorem hasIndicatorState_congr (h : results.map (·.state) = results'.map (·.state))
    (s : QualityState) : hasIndicatorState results s = hasIndicatorState results' s := by
  have hread : ∀ rs : List IndicatorResult,
      hasIndicatorState rs s = (rs.map (·.state)).any (fun state => decide (state = s)) := by
    intro rs
    rw [List.any_map]
    rfl
  rw [hread, hread, h]

theorem evaluation_congr (hcore : results.map core = results'.map core)
    (h : scoreRunEvaluation policy results = .ok evaluation) :
    ∃ evaluation', scoreRunEvaluation policy results' = .ok evaluation' ∧
      evaluation'.state = evaluation.state ∧ evaluation'.score = evaluation.score := by
  have hscores : results.map (fun r => (r.score, r.weight)) =
      results'.map (fun r => (r.score, r.weight)) := by
    have := congrArg (List.map (fun c : Option Decimal × Decimal × QualityState => (c.1, c.2.1)))
      hcore
    rwa [List.map_map, List.map_map] at this
  have hstates : results.map (·.state) = results'.map (·.state) := by
    have := congrArg (List.map (fun c : Option Decimal × Decimal × QualityState => c.2.2)) hcore
    rwa [List.map_map, List.map_map] at this
  have hhas := hasIndicatorState_congr hstates
  unfold scoreRunEvaluation
  rcases evaluation_cases h with ⟨hblocked, hstate, hscore⟩ | ⟨hblocked, score, hw, hstate, hscore⟩
  · rw [if_pos ((hhas .blocked).symm.trans hblocked)]
    exact ⟨_, rfl, hstate.symm, hscore.symm⟩
  · rw [if_neg (by rw [← hhas .blocked, hblocked]; nofun), ← weightedScore_congr hscores, hw]
    refine ⟨_, rfl, ?_, hscore.symm⟩
    rw [hstate]
    show scoreState score policy results' = scoreState score policy results
    unfold scoreState
    rw [hhas, hhas]

end Evaluation

/-! ## The order of the evidence -/

theorem mean_perm {values values' : List Decimal} (h : values.Perm values') :
    mean values = mean values' := by
  unfold mean
  rw [h.sum_eq, h.length_eq]
  by_cases hnil : values = []
  · subst hnil
    rw [List.nil_perm.mp h]
  · rw [if_neg hnil, if_neg]
    rintro rfl
    exact hnil (List.perm_nil.mp h)

theorem core_indicatorResult_perm (h : signals.Perm signals') (weight : IndicatorWeight) :
    core (indicatorResult signals weight) = core (indicatorResult signals' weight) := by
  have hevidence : (indicatorSignals weight signals).Perm (indicatorSignals weight signals') :=
    h.filter _
  unfold indicatorResult
  dsimp only
  rw [hevidence.length_eq]
  split
  · rfl
  · unfold core
    dsimp only
    rw [mean_perm (hevidence.map _), worstState_perm (hevidence.map _)]

theorem sameCores_of_perm (h : signals.Perm signals') (weights : List IndicatorWeight) :
    (weights.map (indicatorResult signals)).map core =
      (weights.map (indicatorResult signals')).map core := by
  rw [List.map_map, List.map_map]
  exact List.map_congr_left (fun weight _ => core_indicatorResult_perm h weight)

theorem forM_ok_iff {α ε : Type} {check : α → Except ε Unit} : ∀ {xs : List α},
    forM xs check = .ok () ↔ ∀ x ∈ xs, check x = .ok ()
  | [] => iff_of_true rfl nofun
  | x :: xs => by
    rw [List.forM_cons, List.forall_mem_cons, ← forM_ok_iff]
    cases check x with
    | error e => exact iff_of_false nofun (fun h => nomatch h.1)
    | ok u => exact ⟨fun h => ⟨rfl, h⟩, fun h => h.2⟩

theorem validateLookbackWindow_perm {policy : Policy} (h : signals.Perm signals')
    (hvalid : validateLookbackWindow policy signals = .ok ()) :
    validateLookbackWindow policy signals' = .ok () := by
  unfold validateLookbackWindow at hvalid ⊢
  split
  · rfl
  · rename_i window hwindow
    rw [hwindow] at hvalid
    obtain ⟨⟨first, last⟩, hdates, hvalid⟩ := Checks.bind_eq_ok hvalid
    rw [hdates]
    dsimp only at hvalid
    split at hvalid
    · cases hvalid
    · rename_i hsome
      have hsome' : signals' ≠ [] := fun heq => hsome (List.perm_nil.mp (heq ▸ h))
      show (if signals' = [] then _ else forM signals' (validateSignalDate first last)) = _
      rw [if_neg hsome', forM_ok_iff]
      intro signal hmem
      exact forM_ok_iff.mp hvalid signal (h.mem_iff.mpr hmem)

/-! ## Runs -/

section Runs

variable {request : ScoreRequest} {items items' : List EvidenceItem} {run run' : ScoreRun}

/-- The results of a request, in the order of the policy. -/
def requestResults (request : ScoreRequest) (items : List EvidenceItem) : List IndicatorResult :=
  request.policy.weights.map (indicatorResult (requestSignals request items))

theorem buildScoreRun_cases (henabled : request.policy.enabled = true)
    (h : buildScoreRun request items = .ok run) :
    ∃ governance evaluation, request.policy.asOfDate = request.asOfDate ∧
      governanceEvidence request.policy request.asOfDate request.generatedBy = .ok governance ∧
      validateLookbackWindow request.policy (requestSignals request items) = .ok () ∧
      scoreRunEvaluation request.policy (requestResults request items) = .ok evaluation ∧
      run = scoreRun request evaluation (requestResults request items) (some governance) := by
  unfold buildScoreRun at h
  dsimp only at h
  split at h
  · cases h
  · rename_i hdate
    rw [if_neg (by rw [henabled]; nofun)] at h
    obtain ⟨governance, hgovernance, h⟩ := Checks.bind_eq_ok h
    obtain ⟨_, hvalid, h⟩ := Checks.bind_eq_ok h
    obtain ⟨evaluation, hevaluation, h⟩ := Checks.bind_eq_ok h
    cases h
    exact ⟨governance, evaluation, not_not.mp hdate, hgovernance, hvalid, hevaluation, rfl⟩

/-- Every order of the items is accepted, with the same state and score. -/
def OrderFree (request : ScoreRequest) (items : List EvidenceItem) (run : ScoreRun) : Prop :=
  ∀ items', items.Perm items' → ∃ run', buildScoreRun request items' = .ok run' ∧
    run'.state = run.state ∧ run'.score = run.score

theorem orderFree (henabled : request.policy.enabled = true)
    (h : buildScoreRun request items = .ok run) : OrderFree request items run := by
  intro items' hperm
  obtain ⟨governance, evaluation, hdate, hgovernance, hvalid, hevaluation, rfl⟩ :=
    buildScoreRun_cases henabled h
  have hsignals : (requestSignals request items).Perm (requestSignals request items') :=
    (hperm.map evidenceSignal).append_right _
  obtain ⟨evaluation', hevaluation', hstate, hscore⟩ :=
    evaluation_congr (sameCores_of_perm hsignals request.policy.weights) hevaluation
  refine ⟨scoreRun request evaluation' (requestResults request items') (some governance), ?_,
    hstate, hscore⟩
  unfold buildScoreRun
  dsimp only
  rw [if_neg (not_not.mpr hdate), if_neg (by rw [henabled]; nofun), hgovernance]
  show (validateLookbackWindow request.policy (requestSignals request items') >>= _) = _
  rw [validateLookbackWindow_perm hsignals hvalid]
  show (scoreRunEvaluation request.policy (requestResults request items') >>= _) = _
  have hrun : scoreRunEvaluation request.policy (requestResults request items') =
    .ok evaluation' := hevaluation'
  rw [hrun]
  rfl

end Runs

end LotusManage.PmQuality
