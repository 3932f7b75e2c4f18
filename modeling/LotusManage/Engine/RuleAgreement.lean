import LotusManage.Engine.Conservation

/-!
# Data-quality blocking and the data-quality rule

The buckets that block a run are listed twice in the source: as a table that
`check_blocking_dq` goes through, and as a sequence of counters in
`_data_quality_rule_result`.  The counters have no line for the tax-lot bucket.
`data_quality_agrees_iff` says for which logs the two lists give one answer.
-/

namespace LotusManage.Engine

/-! ## The rules by name -/

variable {state : SimulatedState} {options : EngineOptions} {diagnostics : DiagnosticsData}
  {rule : RuleResult}

theorem evaluateRules_cases (h : rule ∈ evaluateRules state options diagnostics) :
    rule.ruleId ∈ ["CASH_BAND", "CASH_RESERVE_TARGET", "SINGLE_POSITION_MAX", "MIN_TRADE_SIZE"] ∨
      rule = dataQualityRuleResult diagnostics options ∨ rule = noShortingRuleResult state ∨
      rule = insufficientCashRuleResult state := by
  simp only [evaluateRules, List.mem_append, List.mem_cons, List.not_mem_nil, or_false,
    Option.mem_toList] at h
  rcases h with ((rfl | hreserve) | hsingle) | rfl | rfl | rfl | rfl
  · left
    unfold cashBandRuleResult
    dsimp only
    split <;> simp
  · left
    rw [ruleId_cashReserveTargetRuleResult hreserve]
    simp
  · left
    rw [ruleId_singlePositionMaxRuleResults hsingle]
    simp
  · exact Or.inr (Or.inl rfl)
  · left
    simp [minTradeSizeRuleResult]
  · exact Or.inr (Or.inr (Or.inl rfl))
  · exact Or.inr (Or.inr (Or.inr rfl))

theorem ruleId_nonNegativeRuleResult (ruleId reasonCode hint : String) (values : List Decimal) :
    (nonNegativeRuleResult ruleId reasonCode hint values).ruleId = ruleId := by
  unfold nonNegativeRuleResult
  dsimp only
  split <;> rfl

theorem ruleId_dataQualityRuleResult (diagnostics : DiagnosticsData) (options : EngineOptions) :
    (dataQualityRuleResult diagnostics options).ruleId = "DATA_QUALITY" := by
  unfold dataQualityRuleResult
  dsimp only
  split <;> rfl

theorem eq_dataQualityRuleResult (h : rule ∈ evaluateRules state options diagnostics)
    (hid : rule.ruleId = "DATA_QUALITY") : rule = dataQualityRuleResult diagnostics options := by
  rcases evaluateRules_cases h with hother | hquality | hshort | hcash
  · rw [hid] at hother
    exact absurd hother (by decide)
  · exact hquality
  · rw [hshort, noShortingRuleResult, ruleId_nonNegativeRuleResult] at hid
    exact absurd hid (by decide)
  · rw [hcash, insufficientCashRuleResult, ruleId_nonNegativeRuleResult] at hid
    exact absurd hid (by decide)

theorem eq_noShortingRuleResult (h : rule ∈ evaluateRules state options diagnostics)
    (hid : rule.ruleId = "NO_SHORTING") : rule = noShortingRuleResult state := by
  rcases evaluateRules_cases h with hother | hquality | hshort | hcash
  · rw [hid] at hother
    exact absurd hother (by decide)
  · rw [hquality, ruleId_dataQualityRuleResult] at hid
    exact absurd hid (by decide)
  · exact hshort
  · rw [hcash, insufficientCashRuleResult, ruleId_nonNegativeRuleResult] at hid
    exact absurd hid (by decide)

/-! ## The two lists of buckets -/

/-- One of the buckets that both lists have blocks: it has an entry, and its switch is
on where it has one. -/
def SharedBucketBlocks (dq : DataQualityLog) (options : EngineOptions) : Prop :=
  dq.shelfMissing ≠ [] ∨
    (dq.priceMissing ≠ [] ∧ options.blockOnMissingPrices = true) ∨
    (dq.fxMissing ≠ [] ∧ options.blockOnMissingFx = true) ∨
    dq.minimumTradeThresholdFxUnavailable ≠ []

instance (dq : DataQualityLog) (options : EngineOptions) :
    Decidable (SharedBucketBlocks dq options) :=
  inferInstanceAs (Decidable (_ ∨ _ ∨ _ ∨ _))

theorem checkBlockingDq_iff (dq : DataQualityLog) (options : EngineOptions) :
    checkBlockingDq dq options = true ↔ SharedBucketBlocks dq options ∨
      (dq.taxLotEvidenceIncomplete ≠ [] ∧ options.enableTaxAwareness = true) := by
  rw [checkBlockingDq, decide_eq_true_iff, SharedBucketBlocks]
  tauto

theorem dataQualityCount_pos_iff (diagnostics : DiagnosticsData) (options : EngineOptions) :
    0 < dataQualityCount diagnostics options ↔
      SharedBucketBlocks diagnostics.dataQuality options := by
  have hprices : 0 < (if options.blockOnMissingPrices
      then diagnostics.dataQuality.priceMissing.length else 0) ↔
        diagnostics.dataQuality.priceMissing ≠ [] ∧ options.blockOnMissingPrices = true := by
    split <;> rename_i h <;> simp [h, List.length_pos_iff]
  have hrates : 0 < (if options.blockOnMissingFx
      then diagnostics.dataQuality.fxMissing.length else 0) ↔
        diagnostics.dataQuality.fxMissing ≠ [] ∧ options.blockOnMissingFx = true := by
    split <;> rename_i h <;> simp [h, List.length_pos_iff]
  rw [dataQualityCount]
  rw [Nat.add_pos_iff_pos_or_pos, Nat.add_pos_iff_pos_or_pos, Nat.add_pos_iff_pos_or_pos, hprices,
    hrates, List.length_pos_iff, List.length_pos_iff, SharedBucketBlocks]
  tauto

/-- The rule engine reports a failed data-quality rule. -/
def DataQualityRuleFails (state : SimulatedState) (options : EngineOptions)
    (diagnostics : DiagnosticsData) : Prop :=
  ∃ rule ∈ evaluateRules state options diagnostics,
    rule.ruleId = "DATA_QUALITY" ∧ rule.severity = .hard ∧ rule.status = .fail

theorem dataQualityRuleFails_iff (state : SimulatedState) (options : EngineOptions)
    (diagnostics : DiagnosticsData) :
    DataQualityRuleFails state options diagnostics ↔
      SharedBucketBlocks diagnostics.dataQuality options := by
  rw [← dataQualityCount_pos_iff]
  constructor
  · rintro ⟨rule, hmem, hid, _, hfail⟩
    rw [eq_dataQualityRuleResult hmem hid, dataQualityRuleResult] at hfail
    by_contra hzero
    rw [if_neg hzero] at hfail
    cases hfail
  · intro hpos
    refine ⟨dataQualityRuleResult diagnostics options, by simp [evaluateRules],
      ruleId_dataQualityRuleResult _ _, ?_⟩
    rw [dataQualityRuleResult, if_pos hpos]
    exact ⟨rfl, rfl⟩

/-- The check blocks exactly when the rule fails, unless only the tax-lot bucket
blocks. -/
theorem data_quality_agrees_iff (state : SimulatedState) (options : EngineOptions)
    (diagnostics : DiagnosticsData) :
    (checkBlockingDq diagnostics.dataQuality options = true ↔
        DataQualityRuleFails state options diagnostics) ↔
      (options.enableTaxAwareness = true →
        diagnostics.dataQuality.taxLotEvidenceIncomplete ≠ [] →
          SharedBucketBlocks diagnostics.dataQuality options) := by
  rw [checkBlockingDq_iff, dataQualityRuleFails_iff, or_iff_left_iff_imp]
  constructor
  · intro h htax hlots
    exact h ⟨hlots, htax⟩
  · intro h hlots
    exact h hlots.2 hlots.1

/-- The diagnostics of a tax-aware run that may not sell for lack of tax lots. -/
def missingTaxLots : DiagnosticsData :=
  { dataQuality := { taxLotEvidenceIncomplete := ["AAA:TAX_LOTS_MISSING"] } }

/-- The check blocks, and no data-quality rule fails. -/
theorem missing_tax_lots_block_without_rule :
    checkBlockingDq missingTaxLots.dataQuality { enableTaxAwareness := true } = true ∧
      ¬ DataQualityRuleFails (buildSimulatedState ⟨"pf", "USD", [], []⟩ {} [] {})
        { enableTaxAwareness := true } missingTaxLots := by
  rw [dataQualityRuleFails_iff]
  exact ⟨by decide, by decide⟩

end LotusManage.Engine
