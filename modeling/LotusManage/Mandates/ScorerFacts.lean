import LotusManage.Mandates.HealthScoring
import Mathlib.Tactic.Linarith

/-!
# What the dimension scorers return

Each scorer scores its own dimension, and a source gap never scores 100 (`Finding`).  Nine of the
ten score 100 only when they are ready (`Full`), and the tenth, allocation drift, when it is ready
or when the drift is past the band by at most half a point (`drift_full_iff`).
-/

namespace LotusManage.Mandates

/-! ## Rounding -/

variable {dimension : MandateHealthDimension} {assessments : List MandateBudgetAssessment}
  {input : MandateHealthInput}

theorem scoreFromPenalty_eq (penalty : Decimal) :
    scoreFromPenalty penalty = ⌊100 - min (max penalty 0) 100 + 1 / 2⌋ := by
  have h : (0 : Decimal) ≤ 100 - min (max penalty 0) 100 :=
    sub_nonneg.mpr (min_le_right _ _)
  exact roundHalfUp_of_nonneg h

theorem scoreFromPenalty_antitone {penalty penalty' : Decimal} (h : penalty ≤ penalty') :
    scoreFromPenalty penalty' ≤ scoreFromPenalty penalty := by
  rw [scoreFromPenalty_eq, scoreFromPenalty_eq]
  apply Int.floor_le_floor
  have hbounded : min (max penalty 0) 100 ≤ min (max penalty' 0) 100 :=
    min_le_min_right _ (max_le_max_right _ h)
  linarith

theorem scoreFromPenalty_bounds (penalty : Decimal) :
    0 ≤ scoreFromPenalty penalty ∧ scoreFromPenalty penalty ≤ 100 := by
  have hlow : (0 : Decimal) ≤ min (max penalty 0) 100 := le_min (le_max_right _ _) (by norm_num)
  have hhigh : min (max penalty 0) 100 ≤ (100 : Decimal) := min_le_right _ _
  rw [scoreFromPenalty_eq]
  constructor
  · apply Int.floor_nonneg.mpr
    linarith
  · apply Int.lt_add_one_iff.mp
    apply Int.floor_lt.mpr
    push_cast
    linarith

theorem scoreFromPenalty_eq_full_iff {penalty : Decimal} (h : 0 ≤ penalty) :
    scoreFromPenalty penalty = 100 ↔ penalty ≤ 1 / 2 := by
  rw [scoreFromPenalty_eq, max_eq_left h, Int.floor_eq_iff]
  push_cast
  constructor
  · rintro ⟨hscore, _⟩
    rcases le_total penalty 100 with hle | hle
    · rw [min_eq_left hle] at hscore
      linarith
    · rw [min_eq_right hle] at hscore
      linarith
  · intro hle
    rw [min_eq_left (by linarith)]
    constructor <;> linarith

/-! ## The scorers -/

/-- The dimensions that have a blocking condition. -/
def MandateHealthDimension.mayBlock : MandateHealthDimension → Bool
  | sourceReadiness | taxTurnover | eligibilityRestrictions | workflowReadiness => true
  | _ => false

/-- A score of its own dimension: a ready dimension scores 100, and a source gap does not. -/
structure Finding (dimension : MandateHealthDimension) (score : MandateDimensionScore) : Prop where
  dimension_eq : score.dimension = dimension
  weight_eq : score.weight = dimensionWeights dimension
  score_of_ready : score.state = .ready → score.score = 100
  gap_below : score.reasonCode.isSourceGap = true → score.score < 100
  blocked_allowed : score.state = .blocked → dimension.mayBlock = true
  assessments_allowed : score.budgetAssessments ≠ [] → dimension = .taxTurnover

/-- Only a ready dimension scores 100. -/
def Full (score : MandateDimensionScore) : Prop := score.score = 100 → score.state = .ready

theorem finding_ready (hassessments : assessments ≠ [] → dimension = .taxTurnover) :
    Finding dimension (readyScore dimension assessments) :=
  ⟨rfl, rfl, fun _ => rfl, nofun, nofun, hassessments⟩

theorem full_ready (dimension : MandateHealthDimension)
    (assessments : List MandateBudgetAssessment) :
    Full (readyScore dimension assessments) := fun _ => rfl

section Attention

variable {dimension : MandateHealthDimension} {score : Int} {state : MandateHealthState}
  {code : ReasonCode} {measured threshold : Option MeasuredValue} {refs : List String}
  {assessments : List MandateBudgetAssessment}

theorem attentionScore_lt (h : score < 100) :
    (attentionScore dimension score state code measured threshold refs assessments).score
      < 100 := by
  show max 0 (min score 100) < 100
  omega

theorem finding_attention (h : score < 100) (hstate : state ≠ .ready)
    (hblocked : state = .blocked → dimension.mayBlock = true)
    (hassessments : assessments ≠ [] → dimension = .taxTurnover) :
    Finding dimension
      (attentionScore dimension score state code measured threshold refs assessments) :=
  ⟨rfl, rfl, fun hready => absurd hready hstate, fun _ => attentionScore_lt h, hblocked,
    hassessments⟩

theorem full_attention (h : score < 100) :
    Full (attentionScore dimension score state code measured threshold refs assessments) :=
  fun hfull => absurd hfull (attentionScore_lt h).ne

end Attention

/-- What the scorers other than allocation drift return. -/
structure RegularFinding (dimension : MandateHealthDimension) (score : MandateDimensionScore) :
    Prop extends Finding dimension score where
  full : Full score

theorem regular_ready (hassessments : assessments ≠ [] → dimension = .taxTurnover) :
    RegularFinding dimension (readyScore dimension assessments) :=
  ⟨finding_ready hassessments, full_ready dimension assessments⟩

theorem regular_attention {score : Int} {state : MandateHealthState} {code : ReasonCode}
    {measured threshold : Option MeasuredValue} {refs : List String} (h : score < 100)
    (hstate : state ≠ .ready) (hblocked : state = .blocked → dimension.mayBlock = true)
    (hassessments : assessments ≠ [] → dimension = .taxTurnover) :
    RegularFinding dimension
      (attentionScore dimension score state code measured threshold refs assessments) :=
  ⟨finding_attention h hstate hblocked hassessments, full_attention h⟩

theorem scoreSourceReadiness_regular (input : MandateHealthInput) :
    RegularFinding .sourceReadiness (scoreSourceReadiness input) := by
  unfold scoreSourceReadiness
  split
  · exact regular_attention (by decide) nofun (fun _ => rfl) (absurd rfl)
  · split
    · exact regular_attention (by decide) nofun nofun (absurd rfl)
    · exact regular_ready (absurd rfl)

theorem scoreSourceHealthContext_regular (context : SourceHealthContext)
    (dimension : MandateHealthDimension) (attention unavailable : ReasonCode) :
    RegularFinding dimension
      (scoreSourceHealthContext context dimension attention unavailable) := by
  unfold scoreSourceHealthContext
  split
  · exact regular_ready (absurd rfl)
  · split
    · exact regular_attention (by decide) nofun nofun (absurd rfl)
    · exact regular_attention (by decide) nofun nofun (absurd rfl)

theorem scoreRiskDrift_regular (input : MandateHealthInput) :
    RegularFinding .riskDrift (scoreRiskDrift input) := by
  unfold scoreRiskDrift
  split
  · exact scoreSourceHealthContext_regular _ _ _ _
  · split
    · exact regular_ready (absurd rfl)
    · split
      · exact regular_attention (by decide) nofun nofun (absurd rfl)
      · split
        · exact regular_ready (absurd rfl)
        · exact regular_attention (by decide) nofun nofun (absurd rfl)

theorem scoreCashLiquidity_regular (input : MandateHealthInput) :
    RegularFinding .cashLiquidity (scoreCashLiquidity input) := by
  unfold scoreCashLiquidity
  dsimp only
  split
  · exact regular_attention (by decide) nofun nofun (absurd rfl)
  · split
    · exact regular_attention (by decide) nofun nofun (absurd rfl)
    · split
      · exact regular_attention (by decide) nofun nofun (absurd rfl)
      · split
        · exact regular_attention (by decide) nofun nofun (absurd rfl)
        · exact regular_ready (absurd rfl)

theorem scoreEligibilityRestrictions_regular (input : MandateHealthInput) :
    RegularFinding .eligibilityRestrictions (scoreEligibilityRestrictions input) := by
  unfold scoreEligibilityRestrictions
  split
  · exact regular_attention (by decide) nofun (fun _ => rfl) (absurd rfl)
  · exact regular_ready (absurd rfl)

theorem scorePerformanceAttention_regular (input : MandateHealthInput) :
    RegularFinding .performanceAttention (scorePerformanceAttention input) := by
  unfold scorePerformanceAttention
  split
  · exact scoreSourceHealthContext_regular _ _ _ _
  · split
    · exact regular_attention (by decide) nofun nofun (absurd rfl)
    · exact regular_ready (absurd rfl)

theorem scoreWorkflowReadiness_regular (input : MandateHealthInput) :
    RegularFinding .workflowReadiness (scoreWorkflowReadiness input) := by
  unfold scoreWorkflowReadiness
  split
  · exact regular_attention (by decide) nofun (fun _ => rfl) (absurd rfl)
  · split
    · exact regular_attention (by decide) nofun nofun (absurd rfl)
    · split
      · exact regular_attention (by decide) nofun nofun (absurd rfl)
      · exact regular_ready (absurd rfl)

theorem scoreReviewCadence_regular (input : MandateHealthInput) :
    RegularFinding .reviewCadence (scoreReviewCadence input) := by
  unfold scoreReviewCadence
  split
  · split
    · exact regular_attention (by decide) nofun nofun (absurd rfl)
    · exact regular_ready (absurd rfl)
  · exact regular_ready (absurd rfl)

theorem scoreModelFreshness_regular (input : MandateHealthInput) :
    RegularFinding .modelFreshness (scoreModelFreshness input) := by
  unfold scoreModelFreshness
  split
  · split
    · exact regular_attention (by decide) nofun nofun (absurd rfl)
    · exact regular_ready (absurd rfl)
  · exact regular_ready (absurd rfl)

/-! ## Tax and turnover -/

/-- The control whose assessment a reason code belongs to. -/
def ReasonCode.budgetControl : ReasonCode → Option BudgetControl
  | taxBudgetNotApplicable | taxBudgetUsageMissing | taxBudgetBasisMismatch | taxBudgetExceeded
  | taxBudgetExhausted | taxBudgetReady => some .taxBudget
  | turnoverBudgetNotSourced | turnoverBudgetNotApplicable | turnoverBudgetUsageMissing
  | turnoverBudgetBasisMismatch | turnoverBudgetExceeded | turnoverBudgetExhausted
  | turnoverBudgetNearLimit | turnoverBudgetReady => some .turnoverBudget
  | _ => none

/-- An assessment of a control: its reason code is the control's own, and is no source gap when the
control is ready. -/
structure Assesses (control : BudgetControl) (assessment : MandateBudgetAssessment) : Prop where
  control_eq : assessment.control = control
  code_control : assessment.reasonCode.budgetControl = some control
  gap_not_ready : assessment.reasonCode.isSourceGap = true → assessment.state ≠ .ready

theorem taxBudgetAssessment_assesses (input : MandateHealthInput) :
    Assesses .taxBudget (taxBudgetAssessment input) := by
  unfold taxBudgetAssessment
  dsimp only
  split
  · exact ⟨rfl, rfl, nofun⟩
  · exact ⟨rfl, rfl, fun _ => nofun⟩
  · split
    · exact ⟨rfl, rfl, fun _ => nofun⟩
    · split
      · exact ⟨rfl, rfl, nofun⟩
      · split
        · exact ⟨rfl, rfl, nofun⟩
        · exact ⟨rfl, rfl, nofun⟩

theorem turnoverBudgetAssessment_assesses (input : MandateHealthInput) :
    Assesses .turnoverBudget (turnoverBudgetAssessment input) := by
  unfold turnoverBudgetAssessment
  dsimp only
  split
  · split
    · exact ⟨rfl, rfl, nofun⟩
    · exact ⟨rfl, rfl, fun _ => nofun⟩
  · exact ⟨rfl, rfl, fun _ => nofun⟩
  · split
    · exact ⟨rfl, rfl, fun _ => nofun⟩
    · split
      · exact ⟨rfl, rfl, nofun⟩
      · split
        · exact ⟨rfl, rfl, nofun⟩
        · split
          · exact ⟨rfl, rfl, nofun⟩
          · exact ⟨rfl, rfl, nofun⟩

/-- The two assessments of the dimension. -/
def budgetAssessmentsOf (input : MandateHealthInput) : List MandateBudgetAssessment :=
  [taxBudgetAssessment input, turnoverBudgetAssessment input]

theorem assessmentScore_lt (assessment : MandateBudgetAssessment) :
    assessmentScore assessment < 100 := by
  unfold assessmentScore
  split
  · decide
  · split <;> decide

theorem scoreTaxTurnover_cases (input : MandateHealthInput) :
    (∃ measured threshold, scoreTaxTurnover input =
      attentionScore .taxTurnover 40 .blocked .taxLotsIncomplete measured threshold []
        (budgetAssessmentsOf input)) ∨
    (∃ assessment ∈ budgetAssessmentsOf input, assessment.state ≠ .ready ∧
      scoreTaxTurnover input =
        attentionScore .taxTurnover (assessmentScore assessment) assessment.state
          assessment.reasonCode (assessment.measuredValue.map .decimal)
          (assessment.thresholdValue.map .decimal) [] (budgetAssessmentsOf input)) ∨
    scoreTaxTurnover input = readyScore .taxTurnover (budgetAssessmentsOf input) := by
  unfold scoreTaxTurnover
  dsimp only
  split
  · exact Or.inl ⟨_, _, rfl⟩
  · split
    · rename_i assessment hfind
      refine Or.inr (Or.inl ⟨assessment, ?_, by simpa using List.find?_some hfind, rfl⟩)
      have hmem := List.mem_of_find?_eq_some hfind
      unfold blockedFirst at hmem
      rwa [List.mem_insertionSort] at hmem
    · exact Or.inr (Or.inr rfl)

theorem scoreTaxTurnover_budgetAssessments (input : MandateHealthInput) :
    (scoreTaxTurnover input).budgetAssessments = budgetAssessmentsOf input := by
  obtain ⟨_, _, h⟩ | ⟨_, _, _, h⟩ | h := scoreTaxTurnover_cases input
  · rw [h]
    rfl
  · rw [h]
    rfl
  · rw [h]
    rfl

theorem scoreTaxTurnover_regular (input : MandateHealthInput) :
    RegularFinding .taxTurnover (scoreTaxTurnover input) := by
  obtain ⟨_, _, h⟩ | ⟨assessment, _, hstate, h⟩ | h := scoreTaxTurnover_cases input
  · rw [h]
    exact regular_attention (by decide) nofun (fun _ => rfl) (fun _ => rfl)
  · rw [h]
    exact regular_attention (assessmentScore_lt assessment) hstate (fun _ => rfl) (fun _ => rfl)
  · rw [h]
    exact regular_ready (fun _ => rfl)

/-! ## Allocation drift -/

theorem foldl_max_le_iff {bound : Decimal} : ∀ {values : List Decimal} {start : Decimal},
    values.foldl max start ≤ bound ↔ start ≤ bound ∧ ∀ value ∈ values, value ≤ bound
  | [], start => by simp
  | value :: values, start => by
    rw [List.foldl_cons, foldl_max_le_iff, max_le_iff, List.forall_mem_cons, and_assoc]

theorem maxOrZero_le_iff {bound : Decimal} (h : 0 ≤ bound) {values : List Decimal} :
    maxOrZero values ≤ bound ↔ ∀ value ∈ values, value ≤ bound := by
  cases values with
  | nil => simpa [maxOrZero] using h
  | cons value values =>
    rw [maxOrZero, foldl_max_le_iff, List.forall_mem_cons]

theorem maxDrift_le_iff {bound : Decimal} (h : 0 ≤ bound) {current target : Dict String Decimal} :
    maxDrift current target ≤ bound ↔
      ∀ entry ∈ target.items, targetDrift current entry ≤ bound := by
  unfold maxDrift
  rw [maxOrZero_le_iff h, List.forall_mem_map]

theorem maxDrift_nonneg (current target : Dict String Decimal) : 0 ≤ maxDrift current target := by
  unfold maxDrift
  cases hitems : target.items with
  | nil => exact le_refl _
  | cons entry entries =>
    rw [List.map_cons, maxOrZero]
    exact le_trans (abs_nonneg _) (foldl_max_le_iff.mp (le_refl _)).1

/-- Both weight maps have an entry, so that the drift is assessed. -/
def DriftAssessed (input : MandateHealthInput) : Prop :=
  input.currentWeights.nonempty = true ∧ input.targetWeights.nonempty = true

instance : DecidablePred DriftAssessed := fun input =>
  inferInstanceAs (Decidable (input.currentWeights.nonempty = true ∧
    input.targetWeights.nonempty = true))

theorem scoreAllocationDrift_of_assessed (h : DriftAssessed input) :
    scoreAllocationDrift input =
      let drift := maxDrift input.currentWeights input.targetWeights
      if drift ≤ defaultBand then readyScore .allocationDrift
      else
        attentionScore .allocationDrift (scoreFromPenalty ((drift - defaultBand) * 1000))
          .pendingReview .allocationDrift (some (.decimal drift)) (some (.decimal defaultBand)) := by
  unfold scoreAllocationDrift
  rw [if_neg]
  simp only [h.1, h.2, Bool.true_eq_false, or_self, not_false_eq_true]

theorem scoreAllocationDrift_of_not_assessed (h : ¬ DriftAssessed input) :
    scoreAllocationDrift input =
      attentionScore .allocationDrift 85 .pendingReview .allocationDriftNotAssessed := by
  unfold scoreAllocationDrift
  rw [if_pos]
  unfold DriftAssessed at h
  rwa [Classical.not_and_iff_not_or_not, Bool.not_eq_true, Bool.not_eq_true] at h

theorem scoreAllocationDrift_finding (input : MandateHealthInput) :
    Finding .allocationDrift (scoreAllocationDrift input) := by
  by_cases h : DriftAssessed input
  · rw [scoreAllocationDrift_of_assessed h]
    dsimp only
    split
    · exact finding_ready (absurd rfl)
    · exact ⟨rfl, rfl, nofun, nofun, nofun, absurd rfl⟩
  · rw [scoreAllocationDrift_of_not_assessed h]
    exact finding_attention (by decide) nofun nofun (absurd rfl)

/-- The drift is not assessed, within the band, or past it by more than rounding gives back. -/
def DriftRegular (input : MandateHealthInput) : Prop :=
  input.currentWeights.nonempty = false ∨ input.targetWeights.nonempty = false ∨
    (∀ entry ∈ input.targetWeights.items,
      targetDrift input.currentWeights entry ≤ 25 / 1000) ∨
    ∃ entry ∈ input.targetWeights.items, 255 / 10000 < targetDrift input.currentWeights entry

theorem drift_full_iff (input : MandateHealthInput) :
    Full (scoreAllocationDrift input) ↔ DriftRegular input := by
  by_cases h : DriftAssessed input
  · have hwithin : maxDrift input.currentWeights input.targetWeights ≤ 25 / 1000 ↔ _ :=
      maxDrift_le_iff (by norm_num)
    have hpast : maxDrift input.currentWeights input.targetWeights ≤ 255 / 10000 ↔ _ :=
      maxDrift_le_iff (by norm_num)
    have hregular : DriftRegular input ↔
        maxDrift input.currentWeights input.targetWeights ≤ 25 / 1000 ∨
          255 / 10000 < maxDrift input.currentWeights input.targetWeights := by
      unfold DriftRegular
      rw [hwithin, ← not_le, hpast]
      simp only [h.1, h.2, Bool.true_eq_false, false_or, not_forall, not_le, exists_prop]
    rw [hregular, scoreAllocationDrift_of_assessed h]
    dsimp only
    generalize maxDrift input.currentWeights input.targetWeights = drift
    by_cases hband : drift ≤ defaultBand
    · rw [if_pos hband]
      exact iff_of_true (full_ready _ _) (Or.inl hband)
    · rw [if_neg hband]
      have hpenalty : 0 ≤ (drift - defaultBand) * 1000 := by
        rw [not_le] at hband
        linarith
      have hscore := scoreFromPenalty_eq_full_iff hpenalty
      have hbounds := scoreFromPenalty_bounds ((drift - defaultBand) * 1000)
      have hclamp : max 0 (min (scoreFromPenalty ((drift - defaultBand) * 1000)) 100) =
          scoreFromPenalty ((drift - defaultBand) * 1000) := by omega
      unfold Full attentionScore
      dsimp only
      rw [hclamp, hscore]
      unfold defaultBand at hband ⊢
      constructor
      · intro hfull
        refine Or.inr (lt_of_not_ge (fun hle => ?_))
        exact absurd (hfull (by linarith)) nofun
      · rintro (hle | hlt) hle'
        · exact absurd hle hband
        · linarith
  · rw [scoreAllocationDrift_of_not_assessed h]
    refine iff_of_true (full_attention (by decide)) ?_
    unfold DriftAssessed at h
    rw [Classical.not_and_iff_not_or_not, Bool.not_eq_true, Bool.not_eq_true] at h
    exact h.imp id Or.inl

end LotusManage.Mandates
