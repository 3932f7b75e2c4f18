import LotusManage.Lib.Rankings
import LotusManage.Lib.Tables
import LotusManage.Mandates.ScorerFacts
import Mathlib.Algebra.Order.BigOperators.Group.List

/-!
# Mandate health snapshots

`calculate_mandate_health`, and what holds of the scores, the state, the top reasons and the action
of one snapshot.

* `topReasons_eq_nil_iff`, `blocked_in_topReasons`, `gap_in_topReasons`: the top reasons are empty
  exactly when every dimension scores 100, no blocked dimension is cut off, and a source gap is
  seen whenever there is one.
* `mem_topReasons`, `topReasons_nodup`: each top reason is that of one dimension, and no dimension has two.
-/

namespace LotusManage.Mandates

/-! ## The ten scores -/

variable {input : MandateHealthInput} {score : MandateDimensionScore}
  {scores : List MandateDimensionScore} {reason : MandateHealthReason}

theorem dimensionScores_dimensions (input : MandateHealthInput) :
    (mandateHealthDimensionScores input).map (·.dimension) =
      [.sourceReadiness, .allocationDrift, .riskDrift, .cashLiquidity, .taxTurnover,
        .eligibilityRestrictions, .performanceAttention, .workflowReadiness, .reviewCadence,
        .modelFreshness] := by
  simp only [mandateHealthDimensionScores, List.map_cons, List.map_nil,
    (scoreSourceReadiness_regular input).dimension_eq,
    (scoreAllocationDrift_finding input).dimension_eq, (scoreRiskDrift_regular input).dimension_eq,
    (scoreCashLiquidity_regular input).dimension_eq, (scoreTaxTurnover_regular input).dimension_eq,
    (scoreEligibilityRestrictions_regular input).dimension_eq,
    (scorePerformanceAttention_regular input).dimension_eq,
    (scoreWorkflowReadiness_regular input).dimension_eq,
    (scoreReviewCadence_regular input).dimension_eq,
    (scoreModelFreshness_regular input).dimension_eq]

theorem dimensionScores_nodup (input : MandateHealthInput) :
    ((mandateHealthDimensionScores input).map (·.dimension)).Nodup := by
  rw [dimensionScores_dimensions]
  decide

theorem dimensionScores_cases (h : score ∈ mandateHealthDimensionScores input) :
    score = scoreAllocationDrift input ∨ RegularFinding score.dimension score := by
  have hregular : ∀ {dimension : MandateHealthDimension} {s : MandateDimensionScore},
      RegularFinding dimension s → RegularFinding s.dimension s := by
    intro dimension s hs
    rw [hs.dimension_eq]
    exact hs
  simp only [mandateHealthDimensionScores, List.mem_cons, List.not_mem_nil, or_false] at h
  rcases h with rfl | rfl | rfl | rfl | rfl | rfl | rfl | rfl | rfl | rfl
  · exact Or.inr (hregular (scoreSourceReadiness_regular input))
  · exact Or.inl rfl
  · exact Or.inr (hregular (scoreRiskDrift_regular input))
  · exact Or.inr (hregular (scoreCashLiquidity_regular input))
  · exact Or.inr (hregular (scoreTaxTurnover_regular input))
  · exact Or.inr (hregular (scoreEligibilityRestrictions_regular input))
  · exact Or.inr (hregular (scorePerformanceAttention_regular input))
  · exact Or.inr (hregular (scoreWorkflowReadiness_regular input))
  · exact Or.inr (hregular (scoreReviewCadence_regular input))
  · exact Or.inr (hregular (scoreModelFreshness_regular input))

theorem dimensionScores_finding (h : score ∈ mandateHealthDimensionScores input) :
    Finding score.dimension score := by
  rcases dimensionScores_cases h with rfl | hregular
  · have hfinding := scoreAllocationDrift_finding input
    rwa [← hfinding.dimension_eq] at hfinding
  · exact hregular.toFinding

theorem full_iff_ready (hdrift : DriftRegular input)
    (h : score ∈ mandateHealthDimensionScores input) :
    score.score = 100 ↔ score.state = .ready := by
  refine ⟨?_, (dimensionScores_finding h).score_of_ready⟩
  rcases dimensionScores_cases h with rfl | hregular
  · exact (drift_full_iff input).mpr hdrift
  · exact hregular.full

/-! ## The weighted score -/

theorem dimensionScores_weights (input : MandateHealthInput) :
    ((mandateHealthDimensionScores input).map (·.weight)).sum = 100 := by
  have hweights : (mandateHealthDimensionScores input).map (·.weight) =
      ((mandateHealthDimensionScores input).map (·.dimension)).map dimensionWeights := by
    rw [List.map_map]
    exact List.map_congr_left (fun score h => (dimensionScores_finding h).weight_eq)
  rw [hweights, dimensionScores_dimensions]
  rfl

theorem weighted_sum_bounds (scores : List MandateDimensionScore) :
    0 ≤ (scores.map (fun score => (score.score * score.weight : Decimal))).sum ∧
      (scores.map (fun score => (score.score * score.weight : Decimal))).sum ≤
        100 * ((scores.map (·.weight)).sum : Nat) := by
  induction scores with
  | nil => simp
  | cons score scores ih =>
    have hlow : (0 : Decimal) ≤ score.score := by exact_mod_cast score.score_bounds.1
    have hhigh : (score.score : Decimal) ≤ 100 := by exact_mod_cast score.score_bounds.2
    have hweight : (0 : Decimal) ≤ score.weight := Nat.cast_nonneg _
    have hproduct := mul_le_mul_of_nonneg_right hhigh hweight
    have hnonneg := mul_nonneg hlow hweight
    rw [List.map_cons, List.sum_cons, List.map_cons, List.sum_cons, Nat.cast_add, mul_add]
    constructor
    · exact add_nonneg hnonneg ih.1
    · exact add_le_add hproduct ih.2

theorem weightedMandateHealthScore_bounds (h : (scores.map (·.weight)).sum = 100) :
    0 ≤ weightedMandateHealthScore scores ∧ weightedMandateHealthScore scores ≤ 100 := by
  obtain ⟨hlow, hhigh⟩ := weighted_sum_bounds scores
  rw [h] at hhigh
  push_cast at hhigh
  unfold weightedMandateHealthScore
  rw [roundHalfUp_of_nonneg (div_nonneg hlow (by norm_num))]
  constructor
  · apply Int.floor_nonneg.mpr
    linarith
  · apply Int.lt_add_one_iff.mp
    apply Int.floor_lt.mpr
    push_cast
    linarith

/-! ## The snapshot -/

/-- `calculate_mandate_health` -/
def calculateMandateHealth (sha256Hex : String → String) (now : Int) (input : MandateHealthInput)
    (tenantId : String) : MandateHealthSnapshot :=
  let input := { input with twin := effectiveMandateTwin input.twin }
  let dimensionScores := mandateHealthDimensionScores input
  let healthState := mandateHealthState dimensionScores
  let topReasons := topMandateHealthReasons dimensionScores
  { healthSnapshotId := mandateHealthSnapshotId sha256Hex input tenantId
    mandateId := input.twin.mandateId
    portfolioId := input.twin.portfolioId
    asOfDate := input.twin.asOfDate
    calculatedAt := now
    healthScore := weightedMandateHealthScore dimensionScores
    healthState := healthState
    dimensionScores := dimensionScores
    topReasons := topReasons
    recommendedAction := overallRecommendedAction healthState topReasons
      (hasUnsourcedContractualLimit input.twin.constraints)
    sourceReadinessState := input.sourceReadinessState
    evidenceRefs := mandateHealthEvidenceRefs input
    sourceAnalyticsPosture := sourceAnalyticsPosture input
    healthScore_bounds := weightedMandateHealthScore_bounds (dimensionScores_weights input) }

/-! ## The state -/

theorem mandateHealthState_eq_ready_iff :
    mandateHealthState scores = .ready ↔ ∀ score ∈ scores, score.state = .ready := by
  unfold mandateHealthState
  split
  · rename_i hblocked
    obtain ⟨score, hmem, hstate⟩ := hblocked
    exact iff_of_false nofun (fun hall => absurd ((hall score hmem).symm.trans hstate) nofun)
  · rename_i hblocked
    split
    · rename_i hpending
      obtain ⟨score, hmem, hstate⟩ := hpending
      exact iff_of_false nofun (fun hall => absurd ((hall score hmem).symm.trans hstate) nofun)
    · rename_i hpending
      refine iff_of_true rfl ?_
      intro score hmem
      cases hstate : score.state with
      | ready => rfl
      | pendingReview => exact absurd ⟨score, hmem, hstate⟩ hpending
      | blocked => exact absurd ⟨score, hmem, hstate⟩ hblocked

/-! ## The top reasons -/

theorem rankedReasons_perm (scores : List MandateDimensionScore) :
    (rankedReasons scores).Perm ((scores.filter (·.score < 100)).map reasonFromScore) :=
  List.perm_insertionSort _ _

theorem mem_rankedReasons :
    reason ∈ rankedReasons scores ↔
      ∃ score ∈ scores, score.score < 100 ∧ reasonFromScore score = reason := by
  rw [(rankedReasons_perm scores).mem_iff, List.mem_map]
  simp only [List.mem_filter, decide_eq_true_eq, and_assoc]

theorem topMandateHealthReasons_eq (scores : List MandateDimensionScore) :
    topMandateHealthReasons scores =
      Rankings.topKeeping (·.reasonCode.isSourceGap) 5 (rankedReasons scores) := by
  unfold topMandateHealthReasons Rankings.topKeeping
  dsimp only
  cases (rankedReasons scores).filter (·.reasonCode.isSourceGap) <;> rfl

theorem mem_topReasons (h : reason ∈ topMandateHealthReasons scores) :
    ∃ score ∈ scores, score.score < 100 ∧ reasonFromScore score = reason := by
  rw [topMandateHealthReasons_eq] at h
  exact mem_rankedReasons.mp ((Rankings.topKeeping_sublist _ 5 _).subset h)

theorem topReasons_nodup (h : (scores.map (·.dimension)).Nodup) :
    ((topMandateHealthReasons scores).map (·.dimension)).Nodup := by
  have hranked : ((rankedReasons scores).map (·.dimension)).Nodup := by
    rw [((rankedReasons_perm scores).map _).nodup_iff, List.map_map]
    exact h.sublist (List.filter_sublist.map _)
  rw [topMandateHealthReasons_eq]
  exact hranked.sublist ((Rankings.topKeeping_sublist _ 5 _).map _)

theorem topReasons_eq_nil_iff :
    topMandateHealthReasons scores = [] ↔ ∀ score ∈ scores, score.score = 100 := by
  rw [topMandateHealthReasons_eq, Rankings.topKeeping_eq_nil_iff, List.eq_nil_iff_forall_not_mem]
  constructor
  · intro hnone score hmem
    have hle := score.score_bounds.2
    by_contra hne
    exact hnone _ (mem_rankedReasons.mpr ⟨score, hmem, by omega, rfl⟩)
  · intro hall reason hreason
    obtain ⟨score, hmem, hlt, _⟩ := mem_rankedReasons.mp hreason
    exact hlt.ne (hall score hmem)

theorem gap_in_topReasons (hmem : score ∈ scores) (hlt : score.score < 100)
    (hgap : score.reasonCode.isSourceGap = true) :
    ∃ reason ∈ topMandateHealthReasons scores, reason.reasonCode.isSourceGap = true := by
  rw [topMandateHealthReasons_eq]
  exact Rankings.exists_mem_topKeeping
    ⟨reasonFromScore score, mem_rankedReasons.mpr ⟨score, hmem, hlt, rfl⟩, hgap⟩

/-! ## The blocked dimensions -/

theorem severityOf_eq_critical_iff {state : MandateHealthState} :
    severityOf state = .critical ↔ state = .blocked := by
  cases state <;> decide

theorem severityRank_eq_two_iff {severity : MonitoringSeverity} :
    severityRank severity = 2 ↔ severity = .critical := by
  cases severity <;> decide

theorem rankedReasons_severity (scores : List MandateDimensionScore) :
    (rankedReasons scores).Pairwise (fun a b =>
      severityRank b.severity ≤ severityRank a.severity) := by
  have hsorted := pairwise_insertionSort_rank (fun reason => OrderDual.toDual (reasonKey reason))
    ((scores.filter (·.score < 100)).map reasonFromScore)
  refine List.Pairwise.imp ?_ hsorted
  intro a b hle
  have hkey : reasonKey b ≤ reasonKey a := hle
  rcases Prod.Lex.toLex_le_toLex.mp hkey with hlt | ⟨heq, _⟩
  · exact hlt.le
  · exact heq.le

theorem blocked_in_topReasons
    (hfew : scores.countP (fun score => decide (score.state = .blocked)) ≤ 4)
    (hmem : score ∈ scores) (hlt : score.score < 100) (hblocked : score.state = .blocked) :
    reasonFromScore score ∈ topMandateHealthReasons scores := by
  have hcritical : (fun reason : MandateHealthReason => decide (reason.severity = .critical)) ∘
      reasonFromScore = fun s => decide (s.state = .blocked) :=
    funext (fun _ => decide_eq_decide.mpr severityOf_eq_critical_iff)
  have hcount : (rankedReasons scores).countP
      (fun reason => decide (reason.severity = .critical)) ≤ 4 := by
    rw [(rankedReasons_perm scores).countP_eq, List.countP_map, hcritical]
    exact le_trans List.filter_sublist.countP_le hfew
  rw [topMandateHealthReasons_eq]
  refine Rankings.mem_topKeeping_of_mem_take (Rankings.mem_take_of_countP_le ?_ hcount
    (mem_rankedReasons.mpr ⟨score, hmem, hlt, rfl⟩) ?_)
  · refine (rankedReasons_severity scores).imp ?_
    intro a b hle hb
    rw [decide_eq_true_eq, ← severityRank_eq_two_iff] at hb ⊢
    have hmax : severityRank a.severity ≤ 2 := by cases a.severity <;> decide
    omega
  · exact decide_eq_true (severityOf_eq_critical_iff.mpr hblocked)

theorem dimensionScores_blocked_few (input : MandateHealthInput) :
    (mandateHealthDimensionScores input).countP (fun score => decide (score.state = .blocked))
      ≤ 4 := by
  have hallowed : (mandateHealthDimensionScores input).countP
      (fun score => decide (score.state = .blocked)) ≤
        (mandateHealthDimensionScores input).countP (·.dimension.mayBlock) := by
    refine List.countP_mono_left ?_
    intro score hmem hblocked
    exact (dimensionScores_finding hmem).blocked_allowed (of_decide_eq_true hblocked)
  have hfour : (mandateHealthDimensionScores input).countP (·.dimension.mayBlock) = 4 := by
    have hmap := List.countP_map (p := MandateHealthDimension.mayBlock)
      (f := MandateDimensionScore.dimension) (l := mandateHealthDimensionScores input)
    rw [dimensionScores_dimensions] at hmap
    exact hmap.symm
  exact hallowed.trans hfour.le

end LotusManage.Mandates
