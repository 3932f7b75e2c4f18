import LotusManage.PmQuality.ScoringFacts

/-!
# Worse evidence

What a run reports when the state of one evidence item gets worse.

* `worstState_replaced`: when one signal of an indicator gets worse, the indicator takes on the new
  state or stays as it was.
* `worse_evidence_iff`: the state of the run gets better exactly when the new state hides, as
  degraded, a score below the watch threshold.
-/

namespace LotusManage.PmQuality

/-! ## One signal gets worse -/

/-- Two lists of signals that differ in the state of one, which is worse in the second list. -/
structure OneWorse (signals signals' : List Signal) (indicator : Indicator)
    (state state' : QualityState) : Prop where
  more_severe : MoreSevere state state'
  split : ∃ front old new rest, signals = front ++ old :: rest ∧
    signals' = front ++ new :: rest ∧ old.indicator = indicator ∧ new.indicator = indicator ∧
    old.score = new.score ∧ old.state = state.signal ∧ new.state = state'.signal

variable {signals signals' : List Signal} {indicator : Indicator} {state state' : QualityState}
  {weight : IndicatorWeight}

theorem OneWorse.other (h : OneWorse signals signals' indicator state state')
    (hother : weight.indicator ≠ indicator) :
    indicatorSignals weight signals = indicatorSignals weight signals' := by
  obtain ⟨front, old, new, rest, rfl, rfl, hold, hnew, _⟩ := h.split
  unfold indicatorSignals
  rw [List.filter_append, List.filter_append, List.filter_cons_of_neg, List.filter_cons_of_neg]
  · rw [hnew, decide_eq_true_eq]
    exact fun heq => hother heq.symm
  · rw [hold, decide_eq_true_eq]
    exact fun heq => hother heq.symm

theorem OneWorse.same (h : OneWorse signals signals' indicator state state')
    (hsame : weight.indicator = indicator) :
    ∃ front rest old new,
      indicatorSignals weight signals = front ++ old :: rest ∧
      indicatorSignals weight signals' = front ++ new :: rest ∧
      old.score = new.score ∧ old.state = state.signal ∧ new.state = state'.signal := by
  obtain ⟨front, old, new, rest, rfl, rfl, hold, hnew, hscore, hstate, hstate'⟩ := h.split
  refine ⟨indicatorSignals weight front, indicatorSignals weight rest, old, new, ?_, ?_, hscore,
    hstate, hstate'⟩
  · unfold indicatorSignals
    rw [List.filter_append, List.filter_cons_of_pos]
    rw [hold, hsame, decide_eq_true_eq]
  · unfold indicatorSignals
    rw [List.filter_append, List.filter_cons_of_pos]
    rw [hnew, hsame, decide_eq_true_eq]

theorem worstState_replaced {front rest : List SignalState} (hsevere : MoreSevere state state') :
    severity (worstState (front ++ state'.signal :: rest)) =
      max (severity (worstState (front ++ state.signal :: rest))) (severity state') := by
  have hmiddle : ∀ s : SignalState, s ∈ front ++ s :: rest := fun s =>
    List.mem_append_right front List.mem_cons_self
  have hcases : ∀ {s t : SignalState}, t ∈ front ++ s :: rest →
      t = s ∨ ∀ u : SignalState, t ∈ front ++ u :: rest := by
    intro s t hmem
    rcases List.mem_append.mp hmem with hfront | hrest
    · exact Or.inr (fun u => List.mem_append_left _ hfront)
    · rcases List.mem_cons.mp hrest with heq | hrest
      · exact Or.inl heq
      · exact Or.inr (fun u => List.mem_append_right _ (List.mem_cons_of_mem _ hrest))
  obtain ⟨worst, hmem, hall, hworst⟩ := worstState_cases (List.ne_nil_of_mem (hmiddle state.signal))
  obtain ⟨worst', hmem', hall', hworst'⟩ :=
    worstState_cases (List.ne_nil_of_mem (hmiddle state'.signal))
  have hold := hall _ (hmiddle state.signal)
  have hnew := hall' _ (hmiddle state'.signal)
  rw [stateRank_signal] at hold hnew
  have hlt := hsevere.2
  have hseverity := severity_normalized (le_trans (Nat.le_add_left 1 _) hold)
  have hseverity' := severity_normalized (le_trans (Nat.le_add_left 1 _) hnew)
  have hkept : stateRank worst ≤ stateRank worst' := by
    rcases hcases hmem with heq | hother
    · rw [heq, stateRank_signal]
      omega
    · exact hall' worst (hother state'.signal)
  have hbound : stateRank worst' ≤ max (stateRank worst) (severity state' + 1) := by
    rcases hcases hmem' with heq | hother
    · rw [heq, stateRank_signal]
      exact le_max_right _ _
    · exact le_trans (hall worst' (hother state.signal)) (le_max_left _ _)
  rw [hworst, hworst']
  omega

theorem OneWorse.result (h : OneWorse signals signals' indicator state state')
    (weight : IndicatorWeight) :
    (indicatorResult signals weight).score = (indicatorResult signals' weight).score ∧
    (indicatorResult signals weight).weight = (indicatorResult signals' weight).weight ∧
    (((weight.indicator ≠ indicator ∨ severity (indicatorResult signals weight).state = 5) ∧
      severity (indicatorResult signals' weight).state =
        severity (indicatorResult signals weight).state) ∨
    (weight.indicator = indicator ∧ severity (indicatorResult signals' weight).state =
      max (severity (indicatorResult signals weight).state) (severity state'))) := by
  by_cases hsame : weight.indicator = indicator
  · obtain ⟨front, rest, old, new, hold, hnew, hscore, hstate, hstate'⟩ := h.same hsame
    unfold indicatorResult
    dsimp only
    rw [hold, hnew]
    simp only [List.length_append, List.length_cons]
    split
    · exact ⟨rfl, rfl, Or.inl ⟨Or.inr rfl, rfl⟩⟩
    · dsimp only
      simp only [List.map_append, List.map_cons, hscore, hstate, hstate']
      exact ⟨trivial, trivial, Or.inr ⟨hsame, worstState_replaced h.more_severe⟩⟩
  · unfold indicatorResult
    rw [h.other hsame]
    exact ⟨rfl, rfl, Or.inl ⟨Or.inl hsame, rfl⟩⟩

/-! ## One item gets worse -/

/-- One item of a list is replaced by one of the same indicator and explicit score whose state is
more severe. -/
structure Replacement where
  front : List EvidenceItem
  old : EvidenceItem
  new : EvidenceItem
  rest : List EvidenceItem
  same_indicator : new.indicator = old.indicator
  same_score : new.score = old.score
  explicit : old.score.isSome = true
  more_severe : MoreSevere old.evidenceState new.evidenceState

namespace Replacement

/-- The items before the replacement. -/
def items (r : Replacement) : List EvidenceItem := r.front ++ r.old :: r.rest

/-- The items after the replacement. -/
def items' (r : Replacement) : List EvidenceItem := r.front ++ r.new :: r.rest

theorem oneWorse (r : Replacement) (request : ScoreRequest) :
    OneWorse (requestSignals request r.items) (requestSignals request r.items') r.old.indicator
      r.old.evidenceState r.new.evidenceState := by
  refine ⟨r.more_severe, r.front.map evidenceSignal, evidenceSignal r.old, evidenceSignal r.new,
    r.rest.map evidenceSignal ++ signalsFromOutcomeReviews request.outcomeReviews, ?_, ?_, rfl,
    r.same_indicator, ?_, rfl, rfl⟩
  · simp [requestSignals, signalsFromEvidence, items]
  · simp [requestSignals, signalsFromEvidence, items']
  · obtain ⟨score, hscore⟩ := Option.isSome_iff_exists.mp r.explicit
    unfold evidenceSignal
    dsimp only
    rw [r.same_score, hscore]
    rfl

end Replacement

/-- Neither the indicator of the replaced item nor the run has a less severe state than before. -/
def NeverBetter (r : Replacement) (run run' : ScoreRun) : Prop :=
  (∀ result ∈ run.indicatorResults, ∀ result' ∈ run'.indicatorResults,
    result.indicator = r.old.indicator → result'.indicator = r.old.indicator →
    ¬ MoreSevere result'.state result.state) ∧
  ¬ MoreSevere run'.state run.state

/-- Every indicator of the policy has its evidence, and none is degraded, breached or blocked. -/
def CalmEvidence (policy : Policy) (signals : List Signal) : Prop :=
  ∀ weight ∈ policy.weights,
    weight.minimumEvidenceCount ≤ (indicatorSignals weight signals).length ∧
    (∀ signal ∈ indicatorSignals weight signals,
      signal.state ∉ [SignalState.degraded, .breached, .blocked]) ∧
    ∃ signal ∈ indicatorSignals weight signals, signal.state ≠ .notSupported

/-- The weighted mean of the means of the indicators. -/
def evidenceScore (policy : Policy) (signals : List Signal) : Decimal :=
  quantizeCents ((policy.weights.map (fun weight =>
    mean ((indicatorSignals weight signals).map (·.score)) * weight.weight)).sum /
      (policy.weights.map (·.weight)).sum)

/-- The new state degrades an indicator of the policy, where the evidence was calm and its score
below the watch threshold. -/
def HidesLowScore (request : ScoreRequest) (r : Replacement) : Prop :=
  r.new.evidenceState = .degraded ∧
  (∃ weight ∈ request.policy.weights, weight.indicator = r.old.indicator) ∧
  CalmEvidence request.policy (requestSignals request r.items) ∧
  evidenceScore request.policy (requestSignals request r.items) < request.policy.watchThreshold

/-! ## Calm evidence -/

theorem calm_result {weight : IndicatorWeight} {signals : List Signal} :
    severity (indicatorResult signals weight).state ≤ 2 ↔
      weight.minimumEvidenceCount ≤ (indicatorSignals weight signals).length ∧
      (∀ signal ∈ indicatorSignals weight signals,
        signal.state ∉ [SignalState.degraded, .breached, .blocked]) ∧
      ∃ signal ∈ indicatorSignals weight signals, signal.state ≠ .notSupported := by
  have hrank : ∀ {s : SignalState}, s ∉ [SignalState.degraded, .breached, .blocked] ↔
      stateRank s ≤ 3 := by
    intro s
    cases s <;> decide
  have hnormalized : ∀ {s : SignalState}, severity (normalizedWorstState s) ≤ 2 ↔
      stateRank s ≤ 3 ∧ s ≠ .notSupported := by
    intro s
    cases s <;> decide
  by_cases hfew : (indicatorSignals weight signals).length < weight.minimumEvidenceCount
  · refine iff_of_false ?_ (fun h => absurd h.1 (Nat.not_le.mpr hfew))
    unfold indicatorResult
    dsimp only
    rw [if_pos hfew]
    show ¬ 5 ≤ 2
    decide
  · have hsome : (indicatorSignals weight signals).map (·.state) ≠ [] := by
      intro hnil
      rw [List.map_eq_nil_iff] at hnil
      rw [hnil] at hfew
      exact hfew weight.minimum_bounds.1
    obtain ⟨worst, hmem, hall, hworst⟩ := worstState_cases hsome
    have hstate : (indicatorResult signals weight).state = normalizedWorstState worst := by
      unfold indicatorResult
      dsimp only
      rw [if_neg hfew]
      exact hworst
    obtain ⟨signal, hsignal, rfl⟩ := List.mem_map.mp hmem
    rw [hstate, hnormalized]
    constructor
    · rintro ⟨hle, hne⟩
      refine ⟨Nat.not_lt.mp hfew, ?_, signal, hsignal, hne⟩
      intro other hother
      rw [hrank]
      exact (hall _ (List.mem_map.mpr ⟨other, hother, rfl⟩)).trans hle
    · rintro ⟨_, hcalm, other, hother, hne⟩
      refine ⟨hrank.mp (hcalm signal hsignal), ?_⟩
      intro hworstNone
      have hle := hall _ (List.mem_map.mpr ⟨other, hother, rfl⟩)
      rw [hworstNone] at hle
      exact hne (stateRank_injective (Nat.le_zero.mp hle))

theorem calmEvidence_iff {policy : Policy} {signals : List Signal} :
    CalmEvidence policy signals ↔
      ∀ weight ∈ policy.weights, severity (indicatorResult signals weight).state ≤ 2 :=
  forall₂_congr (fun _ _ => calm_result.symm)

theorem weightedScore_of_calm {policy : Policy} {signals : List Signal} {score : Decimal}
    (hcalm : CalmEvidence policy signals)
    (h : weightedScore (policy.weights.map (indicatorResult signals)) = .ok score) :
    score = evidenceScore policy signals := by
  have hresult : ∀ weight ∈ policy.weights, (indicatorResult signals weight).score =
      some (mean ((indicatorSignals weight signals).map (·.score))) ∧
      (indicatorResult signals weight).weight = weight.weight := by
    intro weight hweight
    unfold indicatorResult
    dsimp only
    rw [if_neg (Nat.not_lt.mpr (hcalm weight hweight).1)]
    exact ⟨rfl, rfl⟩
  have hall : (policy.weights.map (indicatorResult signals)).filter (·.score.isSome) =
      policy.weights.map (indicatorResult signals) := by
    rw [List.filter_eq_self]
    intro result hmem
    obtain ⟨weight, hweight, rfl⟩ := List.mem_map.mp hmem
    rw [(hresult weight hweight).1]
    rfl
  unfold weightedScore at h
  dsimp only at h
  rw [hall, List.map_map, List.map_map] at h
  have hweights : policy.weights.map ((·.weight) ∘ indicatorResult signals) =
      policy.weights.map (·.weight) :=
    List.map_congr_left (fun weight hweight => (hresult weight hweight).2)
  have hproducts : policy.weights.map
      ((fun result : IndicatorResult => result.score.getD 0 * result.weight) ∘
        indicatorResult signals) =
      policy.weights.map (fun weight =>
        mean ((indicatorSignals weight signals).map (·.score)) * weight.weight) := by
    refine List.map_congr_left (fun weight hweight => ?_)
    rw [Function.comp_apply, (hresult weight hweight).1, (hresult weight hweight).2]
    rfl
  rw [hweights, hproducts] at h
  split at h
  · cases h
  · exact (Except.ok.inj h).symm

/-! ## The run gets no better -/

section Comparison

variable {policy : Policy} {results : List IndicatorResult} {score : Decimal}

theorem severity_le_five (state : QualityState) : severity state ≤ 5 := by
  cases state <;> decide

theorem severity_injective : Function.Injective severity := by
  intro a b
  cases a <;> cases b <;> decide

/-- The state by the score alone. -/
def thresholdState (policy : Policy) (score : Decimal) : QualityState :=
  if policy.readyThreshold ≤ score then .ready
  else if policy.watchThreshold ≤ score then .pendingReview
  else .breached

theorem hasIndicatorState_severity {state : QualityState} :
    hasIndicatorState results state = true ↔
      ∃ result ∈ results, severity result.state = severity state := by
  rw [hasIndicatorState_iff]
  exact exists_congr (fun _ => and_congr_right (fun _ => severity_injective.eq_iff.symm))

theorem scoreState_cases (score : Decimal) (policy : Policy) (results : List IndicatorResult) :
    ((∃ result ∈ results, severity result.state = 4) ∧
      severity (scoreState score policy results) = 4) ∨
    ((∀ result ∈ results, severity result.state ≠ 4) ∧
      (∃ result ∈ results, severity result.state = 3) ∧
      severity (scoreState score policy results) = 3) ∨
    ((∀ result ∈ results, severity result.state ≠ 4 ∧ severity result.state ≠ 3) ∧
      scoreState score policy results = thresholdState policy score) := by
  have hbreached : hasIndicatorState results .breached = true ↔ _ := hasIndicatorState_severity
  have hdegraded : hasIndicatorState results .degraded = true ↔ _ := hasIndicatorState_severity
  unfold scoreState
  by_cases hb : hasIndicatorState results .breached = true
  · rw [if_pos hb]
    exact Or.inl ⟨hbreached.mp hb, rfl⟩
  · have hnone : ∀ result ∈ results, severity result.state ≠ 4 :=
      fun result hmem heq => hb (hbreached.mpr ⟨result, hmem, heq⟩)
    rw [if_neg hb]
    by_cases hd : hasIndicatorState results .degraded = true
    · rw [if_pos hd]
      exact Or.inr (Or.inl ⟨hnone, hdegraded.mp hd, rfl⟩)
    · rw [if_neg hd]
      refine Or.inr (Or.inr ⟨fun result hmem => ⟨hnone result hmem, fun heq => ?_⟩, rfl⟩)
      exact hd (hdegraded.mpr ⟨result, hmem, heq⟩)

theorem severity_scoreState_le (score : Decimal) (policy : Policy)
    (results : List IndicatorResult) : severity (scoreState score policy results) ≤ 4 := by
  obtain ⟨_, h⟩ | ⟨_, _, h⟩ | ⟨_, h⟩ := scoreState_cases score policy results
  · exact h.le
  · omega
  · rw [h]
    unfold thresholdState
    split
    · decide
    · split <;> decide

theorem thresholdState_eq_breached_iff {policy : Policy} {score : Decimal} :
    thresholdState policy score = .breached ↔ score < policy.watchThreshold := by
  have hordered := policy.thresholds_ordered
  unfold thresholdState
  split
  · rename_i hready
    exact iff_of_false nofun (not_lt.mpr (hordered.trans hready))
  · split
    · rename_i hwatch
      exact iff_of_false nofun (not_lt.mpr hwatch)
    · rename_i hwatch
      exact iff_of_true rfl (not_le.mp hwatch)

end Comparison

section Replaced

variable {request : ScoreRequest} {items : List EvidenceItem} {run run' : ScoreRun}
  {r : Replacement}

theorem run_cases (henabled : request.policy.enabled = true)
    (h : buildScoreRun request items = .ok run) :
    run.indicatorResults = requestResults request items ∧
    ((run.state = .blocked ∧ ∃ result ∈ requestResults request items, severity result.state = 5) ∨
    ((∀ result ∈ requestResults request items, severity result.state ≤ 4) ∧
      ∃ score, weightedScore (requestResults request items) = .ok score ∧
        run.state = scoreState score request.policy (requestResults request items))) := by
  obtain ⟨_, evaluation, _, _, _, hevaluation, rfl⟩ := buildScoreRun_cases henabled h
  refine ⟨rfl, ?_⟩
  rcases evaluation_cases hevaluation with ⟨hblocked, hstate, _⟩ | ⟨hblocked, score, hw, hstate, _⟩
  · exact Or.inl ⟨hstate, hasIndicatorState_severity.mp hblocked⟩
  · refine Or.inr ⟨?_, score, hw, hstate⟩
    intro result hmem
    have hle := severity_le_five result.state
    have hne : severity result.state ≠ 5 := by
      intro heq
      have hhas : hasIndicatorState (requestResults request items) .blocked = true :=
        hasIndicatorState_severity.mpr ⟨result, hmem, heq⟩
      rw [hhas] at hblocked
      cases hblocked
    omega

theorem mem_requestResults {result : IndicatorResult} :
    result ∈ requestResults request items ↔
      ∃ weight ∈ request.policy.weights,
        indicatorResult (requestSignals request items) weight = result := by
  unfold requestResults
  rw [List.mem_map]

theorem weightedScore_replaced :
    weightedScore (requestResults request r.items) =
      weightedScore (requestResults request r.items') := by
  refine weightedScore_congr ?_
  unfold requestResults
  rw [List.map_map, List.map_map]
  refine List.map_congr_left (fun weight _ => ?_)
  obtain ⟨hscore, hweight, _⟩ := (r.oneWorse request).result weight
  exact Prod.ext hscore hweight

theorem severity_result_le (request : ScoreRequest) (r : Replacement) (weight : IndicatorWeight) :
    severity (indicatorResult (requestSignals request r.items) weight).state ≤
      severity (indicatorResult (requestSignals request r.items') weight).state := by
  obtain ⟨_, _, ⟨_, heq⟩ | ⟨_, heq⟩⟩ := (r.oneWorse request).result weight
  · exact heq.ge
  · rw [heq]
    exact le_max_left _ _

theorem indicator_of_result (signals : List Signal) (weight : IndicatorWeight) :
    (indicatorResult signals weight).indicator = weight.indicator := by
  unfold indicatorResult
  dsimp only
  split <;> rfl

theorem indicator_never_better (henabled : request.policy.enabled = true)
    (hrun : buildScoreRun request r.items = .ok run)
    (hrun' : buildScoreRun request r.items' = .ok run') :
    ∀ result ∈ run.indicatorResults, ∀ result' ∈ run'.indicatorResults,
      result.indicator = r.old.indicator → result'.indicator = r.old.indicator →
      ¬ MoreSevere result'.state result.state := by
  rw [(run_cases henabled hrun).1, (run_cases henabled hrun').1]
  intro result hmem result' hmem' hindicator hindicator' hbetter
  obtain ⟨weight, hweight, rfl⟩ := mem_requestResults.mp hmem
  obtain ⟨weight', hweight', rfl⟩ := mem_requestResults.mp hmem'
  rw [indicator_of_result] at hindicator hindicator'
  have hsame : weight = weight' := List.inj_on_of_nodup_map request.policy.indicators_unique
    hweight hweight' (hindicator.trans hindicator'.symm)
  subst hsame
  exact absurd hbetter.2 (Nat.not_lt.mpr (severity_result_le request r weight))

theorem results_of_weight (r : Replacement) {weight : IndicatorWeight}
    (hweight : weight ∈ request.policy.weights) :
    indicatorResult (requestSignals request r.items) weight ∈ requestResults request r.items ∧
    indicatorResult (requestSignals request r.items') weight ∈ requestResults request r.items' :=
  ⟨mem_requestResults.mpr ⟨weight, hweight, rfl⟩, mem_requestResults.mpr ⟨weight, hweight, rfl⟩⟩

theorem result_after (r : Replacement) {result : IndicatorResult}
    (h : result ∈ requestResults request r.items) :
    ∃ after ∈ requestResults request r.items', severity result.state ≤ severity after.state := by
  obtain ⟨weight, hweight, rfl⟩ := mem_requestResults.mp h
  exact ⟨_, (results_of_weight r hweight).2, severity_result_le request r weight⟩

theorem hides_of_better (henabled : request.policy.enabled = true)
    (hrun : buildScoreRun request r.items = .ok run)
    (hrun' : buildScoreRun request r.items' = .ok run')
    (hbetter : severity run'.state < severity run.state) : HidesLowScore request r := by
  obtain ⟨_, ⟨hblocked', _⟩ | ⟨hle', score', hscore', hstate'⟩⟩ := run_cases henabled hrun'
  · rw [hblocked'] at hbetter
    exact absurd hbetter (Nat.not_lt.mpr (severity_le_five _))
  · obtain ⟨_, ⟨_, result, hmem, hfive⟩ | ⟨hle, score, hscore, hstate⟩⟩ := run_cases henabled hrun
    · obtain ⟨after, hafter, hup⟩ := result_after r hmem
      have hfour := hle' after hafter
      omega
    · rw [weightedScore_replaced, hscore'] at hscore
      cases hscore
      rw [hstate, hstate'] at hbetter
      have hbound := severity_scoreState_le score' request.policy (requestResults request r.items)
      obtain ⟨_, hfour'⟩ | ⟨hno', ⟨result', hmem', hthree'⟩, hdegraded'⟩ | ⟨hno', hscored'⟩ :=
        scoreState_cases score' request.policy (requestResults request r.items')
      · omega
      · obtain ⟨⟨result, hmem, hfour⟩, _⟩ | ⟨_, _, hdegraded⟩ | ⟨hno, hscored⟩ :=
          scoreState_cases score' request.policy (requestResults request r.items)
        · obtain ⟨after, hafter, hup⟩ := result_after r hmem
          have hle₂ := hle' after hafter
          have hne := hno' after hafter
          omega
        · omega
        · have hcalm : CalmEvidence request.policy (requestSignals request r.items) := by
            rw [calmEvidence_iff]
            intro weight hweight
            have hmem := (results_of_weight r hweight).1
            have hle₁ := hle _ hmem
            have hne := hno _ hmem
            omega
          have hlow : thresholdState request.policy score' = .breached := by
            refine severity_injective ?_
            rw [← hscored]
            show _ = 4
            omega
          obtain ⟨weight, hweight, rfl⟩ := mem_requestResults.mp hmem'
          have hquiet := calmEvidence_iff.mp hcalm weight hweight
          obtain ⟨_, _, ⟨_, heq⟩ | ⟨hindicator, heq⟩⟩ := (r.oneWorse request).result weight
          · omega
          · refine ⟨severity_injective ?_, ⟨weight, hweight, hindicator⟩, hcalm, ?_⟩
            · show _ = 3
              omega
            · rw [← weightedScore_of_calm hcalm (weightedScore_replaced.trans hscore')]
              exact thresholdState_eq_breached_iff.mp hlow
      · obtain ⟨⟨result, hmem, hsevere⟩, _⟩ | ⟨_, ⟨result, hmem, hsevere⟩, _⟩ | ⟨_, hscored⟩ :=
          scoreState_cases score' request.policy (requestResults request r.items)
        · obtain ⟨after, hafter, hup⟩ := result_after r hmem
          have hle₂ := hle' after hafter
          have hne := hno' after hafter
          omega
        · obtain ⟨after, hafter, hup⟩ := result_after r hmem
          have hle₂ := hle' after hafter
          have hne := hno' after hafter
          omega
        · rw [hscored, hscored'] at hbetter
          exact absurd hbetter (lt_irrefl _)

theorem better_of_hides (henabled : request.policy.enabled = true)
    (hrun : buildScoreRun request r.items = .ok run)
    (hrun' : buildScoreRun request r.items' = .ok run') (h : HidesLowScore request r) :
    MoreSevere run'.state run.state := by
  obtain ⟨hnew, ⟨weight, hweight, hindicator⟩, hcalm, hlow⟩ := h
  have hquiet := calmEvidence_iff.mp hcalm
  have hstate : run.state = .breached := by
    obtain ⟨_, ⟨_, result, hmem, hfive⟩ | ⟨_, score, hscore, hstate⟩⟩ := run_cases henabled hrun
    · obtain ⟨weight, hweight, rfl⟩ := mem_requestResults.mp hmem
      have hle := hquiet weight hweight
      omega
    · have hbelow : thresholdState request.policy score = .breached := by
        rw [thresholdState_eq_breached_iff, weightedScore_of_calm hcalm hscore]
        exact hlow
      obtain ⟨⟨result, hmem, hsevere⟩, _⟩ | ⟨_, ⟨result, hmem, hsevere⟩, _⟩ | ⟨_, hscored⟩ :=
        scoreState_cases score request.policy (requestResults request r.items)
      · obtain ⟨weight, hweight, rfl⟩ := mem_requestResults.mp hmem
        have hle := hquiet weight hweight
        omega
      · obtain ⟨weight, hweight, rfl⟩ := mem_requestResults.mp hmem
        have hle := hquiet weight hweight
        omega
      · rw [hstate, hscored, hbelow]
  have hthree : ∀ result ∈ requestResults request r.items', severity result.state ≤ 3 := by
    intro result hmem
    obtain ⟨weight, hweight, rfl⟩ := mem_requestResults.mp hmem
    have hle := hquiet weight hweight
    obtain ⟨_, _, ⟨_, heq⟩ | ⟨_, heq⟩⟩ := (r.oneWorse request).result weight
    · omega
    · rw [heq, hnew]
      exact max_le (hle.trans (by decide)) (le_refl 3)
  have hdegraded : severity
      (indicatorResult (requestSignals request r.items') weight).state = 3 := by
    have hle := hquiet weight hweight
    obtain ⟨_, _, ⟨hother | hfive, _⟩ | ⟨_, heq⟩⟩ := (r.oneWorse request).result weight
    · exact absurd hindicator hother
    · omega
    · rw [heq, hnew]
      exact max_eq_right (hle.trans (by decide))
  have hmem := (results_of_weight r hweight).2
  have hstate' : severity run'.state = 3 := by
    obtain ⟨_, ⟨_, result, hmem', hfive⟩ | ⟨_, score, _, hstate'⟩⟩ := run_cases henabled hrun'
    · have hle := hthree result hmem'
      omega
    · obtain ⟨⟨result, hmem', hfour⟩, _⟩ | ⟨_, _, hsevere⟩ | ⟨hno, _⟩ :=
        scoreState_cases score request.policy (requestResults request r.items')
      · have hle := hthree result hmem'
        omega
      · rw [hstate']
        exact hsevere
      · exact absurd hdegraded (hno _ hmem).2
  refine ⟨?_, ?_⟩
  · intro hdisabled
    rw [hdisabled] at hstate'
    cases hstate'
  · rw [hstate, hstate']
    decide

/-- Worse evidence gives no better result, and its order does not matter, exactly when the new state
does not hide a low score. -/
theorem worse_evidence_iff (henabled : request.policy.enabled = true)
    (hrun : buildScoreRun request r.items = .ok run)
    (hrun' : buildScoreRun request r.items' = .ok run') :
    (NeverBetter r run run' ∧ OrderFree request r.items run ∧ OrderFree request r.items' run') ↔
      ¬ HidesLowScore request r := by
  constructor
  · rintro ⟨⟨_, hnever⟩, _⟩ hhides
    exact hnever (better_of_hides henabled hrun hrun' hhides)
  · intro hnot
    refine ⟨⟨indicator_never_better henabled hrun hrun', ?_⟩, orderFree henabled hrun,
      orderFree henabled hrun'⟩
    intro hbetter
    exact hnot (hides_of_better henabled hrun hrun' hbetter.2)

end Replaced

/-- One indicator with the default thresholds. -/
def sourceQualityPolicy : Policy :=
  { policyId := "pmq_sg_dpm"
    policyVersion := "2026.05"
    enabled := true
    asOfDate := "2026-05-12"
    weights := [{ indicator := .sourceQuality, weight := 50 }]
    governanceApproval := some
      { approvalRef := "PMQ-APPROVAL-2026-05"
        approvedBy := "committee"
        approvedAt := "2026-05-01T00:00:00Z"
        fairnessReviewRef := "FAIRNESS-PMQ-2026-05"
        fairnessReviewedBy := "committee"
        fairnessReviewedAt := "2026-05-01T00:00:00Z" } }

def sourceQualityRequest : ScoreRequest :=
  { policy := sourceQualityPolicy
    asOfDate := "2026-05-12"
    generatedBy := "pm_ops" }

/-- An evidence item of source quality. -/
def sourceQualityItem (state : QualityState) (score : Nat) (h : score ≤ 100) : EvidenceItem :=
  { indicator := .sourceQuality
    evidenceState := state
    score := some score
    sourceSystem := "lotus-risk"
    sourceType := "RollingRiskMetricsReport"
    sourceId := "risk_pm_001"
    score_bounds := by
      rintro value ⟨⟩
      exact ⟨Nat.cast_nonneg score, by exact_mod_cast h⟩ }

/-- The one item of a run gets worse, with one score. -/
def sourceQualityReplacement (state state' : QualityState) (score : Nat) (h : score ≤ 100)
    (hsevere : MoreSevere state state') : Replacement :=
  { front := []
    old := sourceQualityItem state score h
    new := sourceQualityItem state' score h
    rest := []
    same_indicator := rfl
    same_score := rfl
    explicit := rfl
    more_severe := hsevere }

/-- A breached item in place of a ready one. -/
def breachedReplacement : Replacement :=
  sourceQualityReplacement .ready .breached 40 (by decide) (by decide)

/-- A degraded item in place of a ready one. -/
def degradedReplacement : Replacement :=
  sourceQualityReplacement .ready .degraded 40 (by decide) (by decide)

/-- The run of the request with one item, or a run of nothing. -/
def sourceQualityRun (items : List EvidenceItem) : ScoreRun :=
  match buildScoreRun sourceQualityRequest items with
  | .ok run => run
  | .error _ => scoreRun sourceQualityRequest ⟨.disabled, none, []⟩ [] none

theorem worse_evidence_breached :
    NeverBetter breachedReplacement (sourceQualityRun breachedReplacement.items)
      (sourceQualityRun breachedReplacement.items') ∧
    OrderFree sourceQualityRequest breachedReplacement.items
      (sourceQualityRun breachedReplacement.items) ∧
    OrderFree sourceQualityRequest breachedReplacement.items'
      (sourceQualityRun breachedReplacement.items') :=
  (worse_evidence_iff rfl (by decide +kernel) (by decide +kernel)).mpr (fun h => nomatch h.1)

/-- A source that degrades takes a run that is breached by its score out of breach. -/
theorem degraded_evidence_hides_breach :
    MoreSevere degradedReplacement.old.evidenceState degradedReplacement.new.evidenceState ∧
    degradedReplacement.old.score = degradedReplacement.new.score ∧
    (sourceQualityRun degradedReplacement.items).state = .breached ∧
    (sourceQualityRun degradedReplacement.items').state = .degraded ∧
    ¬ NeverBetter degradedReplacement (sourceQualityRun degradedReplacement.items)
      (sourceQualityRun degradedReplacement.items') := by
  refine ⟨by decide, rfl, by decide +kernel, by decide +kernel, ?_⟩
  intro hnever
  exact absurd hnever.2 (by decide +kernel)

end LotusManage.PmQuality
