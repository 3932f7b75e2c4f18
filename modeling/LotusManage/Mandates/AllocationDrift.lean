import LotusManage.Mandates.ScorerFacts

/-!
# Allocation drift over all instruments

The drift of the health scoring is the largest over the instruments that the model targets.  A
holding that the model does not target is not examined.

* `score_antitone`: a larger drift never scores more.
* `maxDrift_set_le`: moving one weight further from its target never lowers the drift.
* `sees_every_instrument_iff`: when a ready dimension speaks for every instrument that is held or
  targeted.
-/

namespace LotusManage.Mandates

/-- The distance of an instrument from its target, over the union of the two maps. -/
def instrumentDrift (current target : Dict String Decimal) (instrumentId : String) : Decimal :=
  |current.getD instrumentId 0 - target.getD instrumentId 0|

variable {current target d : Dict String Decimal} {instrumentId : String}
  {input : MandateHealthInput}

theorem targetDrift_eq_instrumentDrift {entry : String × Decimal} (h : entry ∈ target.items) :
    targetDrift current entry = instrumentDrift current target entry.1 := by
  have hget : target.getD entry.1 0 = entry.2 := by
    rw [Dict.getD, (target.get?_eq_some_iff entry.1 entry.2).mpr h]
    rfl
  unfold targetDrift instrumentDrift
  rw [hget]

theorem mem_keys_iff_items : instrumentId ∈ d.keys ↔ ∃ entry ∈ d.items, entry.1 = instrumentId := by
  rw [Dict.keys, List.mem_map]

theorem maxDrift_le_iff_keys {bound : Decimal} (h : 0 ≤ bound) :
    maxDrift current target ≤ bound ↔
      ∀ instrumentId ∈ target.keys, instrumentDrift current target instrumentId ≤ bound := by
  rw [maxDrift_le_iff h]
  constructor
  · intro hall instrumentId hkey
    obtain ⟨entry, hmem, rfl⟩ := mem_keys_iff_items.mp hkey
    rw [← targetDrift_eq_instrumentDrift hmem]
    exact hall entry hmem
  · intro hall entry hmem
    rw [targetDrift_eq_instrumentDrift hmem]
    exact hall entry.1 (mem_keys_iff_items.mpr ⟨entry, hmem, rfl⟩)

/-! ## The score -/

/-- The score of a drift that is assessed. -/
def driftScore (drift : Decimal) : Int :=
  if drift ≤ defaultBand then 100
  else max 0 (min (scoreFromPenalty ((drift - defaultBand) * 1000)) 100)

theorem score_eq_driftScore (h : DriftAssessed input) :
    (scoreAllocationDrift input).score =
      driftScore (maxDrift input.currentWeights input.targetWeights) := by
  rw [scoreAllocationDrift_of_assessed h, driftScore]
  dsimp only
  split <;> rfl

theorem ready_iff_within (h : DriftAssessed input) :
    (scoreAllocationDrift input).state = .ready ↔
      maxDrift input.currentWeights input.targetWeights ≤ defaultBand := by
  rw [scoreAllocationDrift_of_assessed h]
  dsimp only
  split
  · rename_i hle
    exact iff_of_true rfl hle
  · rename_i hgt
    exact iff_of_false nofun hgt

theorem score_antitone {drift drift' : Decimal} (h : drift ≤ drift') :
    driftScore drift' ≤ driftScore drift := by
  unfold driftScore
  by_cases hwithin : drift ≤ defaultBand
  · rw [if_pos hwithin]
    split
    · exact le_refl _
    · omega
  · rw [if_neg hwithin, if_neg (fun hwithin' => hwithin (h.trans hwithin'))]
    have hscore := scoreFromPenalty_antitone
      (mul_le_mul_of_nonneg_right (sub_le_sub_right h defaultBand)
        (by norm_num : (0 : Decimal) ≤ 1000))
    omega

/-! ## Moving one weight -/

theorem getD_set (d : Dict String Decimal) (instrumentId other : String) (weight : Decimal) :
    (d.set instrumentId weight).getD other 0 =
      if other = instrumentId then weight else d.getD other 0 := by
  rw [Dict.getD, Dict.get?_set]
  split
  · rfl
  · rfl

theorem maxDrift_set_le {weight : Decimal}
    (h : instrumentDrift current target instrumentId ≤ |weight - target.getD instrumentId 0|) :
    maxDrift current target ≤ maxDrift (current.set instrumentId weight) target := by
  have hmoved := (maxDrift_le_iff_keys (maxDrift_nonneg _ _)).mp
    (le_refl (maxDrift (current.set instrumentId weight) target))
  rw [maxDrift_le_iff_keys (maxDrift_nonneg _ _)]
  intro other hother
  refine le_trans ?_ (hmoved other hother)
  unfold instrumentDrift at h ⊢
  rw [getD_set]
  split
  · rename_i hsame
    rw [hsame]
    exact h
  · exact le_refl _

theorem nonempty_set (d : Dict String Decimal) (instrumentId : String) (weight : Decimal) :
    (d.set instrumentId weight).nonempty = true := by
  cases hitems : (d.set instrumentId weight).items with
  | nil =>
    have hkey := (Dict.mem_keys_set d instrumentId instrumentId weight).mpr (Or.inl rfl)
    rw [Dict.keys, hitems] at hkey
    cases hkey
  | cons entry entries =>
    rw [Dict.nonempty, hitems]
    rfl

/-- The input with one current weight changed. -/
def withWeight (input : MandateHealthInput) (instrumentId : String) (weight : Decimal) :
    MandateHealthInput :=
  { input with currentWeights := input.currentWeights.set instrumentId weight }

theorem score_withWeight_le (h : DriftAssessed input) {weight : Decimal}
    (hfurther : instrumentDrift input.currentWeights input.targetWeights instrumentId ≤
      |weight - input.targetWeights.getD instrumentId 0|) :
    (scoreAllocationDrift (withWeight input instrumentId weight)).score ≤
      (scoreAllocationDrift input).score := by
  have hassessed : DriftAssessed (withWeight input instrumentId weight) :=
    ⟨nonempty_set _ _ _, h.2⟩
  rw [score_eq_driftScore h, score_eq_driftScore hassessed]
  exact score_antitone (maxDrift_set_le hfurther)

/-! ## Every instrument -/

/-- A ready dimension has every instrument within the band, and neither moving a weight further
from its target nor adding a holding that is not targeted raises the score. -/
structure SeesEveryInstrument (input : MandateHealthInput) : Prop where
  ready_within : (scoreAllocationDrift input).state = .ready →
    ∀ instrumentId, instrumentId ∈ input.currentWeights.keys ∨
      instrumentId ∈ input.targetWeights.keys →
      instrumentDrift input.currentWeights input.targetWeights instrumentId ≤ defaultBand
  moved_further : ∀ instrumentId weight,
    instrumentDrift input.currentWeights input.targetWeights instrumentId ≤
      |weight - input.targetWeights.getD instrumentId 0| →
    (scoreAllocationDrift (withWeight input instrumentId weight)).score ≤
      (scoreAllocationDrift input).score
  untargeted_added : ∀ instrumentId weight, instrumentId ∉ input.currentWeights.keys →
    instrumentId ∉ input.targetWeights.keys →
    (scoreAllocationDrift (withWeight input instrumentId weight)).score ≤
      (scoreAllocationDrift input).score

theorem getD_of_notMem (h : instrumentId ∉ d.keys) : d.getD instrumentId 0 = 0 := by
  rw [Dict.getD, (d.get?_eq_none_iff instrumentId).mpr h]
  rfl

/-- The drift speaks for every instrument exactly when a target is past the band, or no holding
that is not targeted has a weight past it. -/
theorem sees_every_instrument_iff (input : MandateHealthInput) (h : DriftAssessed input) :
    SeesEveryInstrument input ↔
      (∃ instrumentId ∈ input.targetWeights.keys, defaultBand <
        instrumentDrift input.currentWeights input.targetWeights instrumentId) ∨
      ∀ instrumentId ∈ input.currentWeights.keys, instrumentId ∉ input.targetWeights.keys →
        |input.currentWeights.getD instrumentId 0| ≤ defaultBand := by
  have hband : (0 : Decimal) ≤ defaultBand := by
    unfold defaultBand
    norm_num
  have hready := (ready_iff_within h).trans (maxDrift_le_iff_keys hband)
  have huntargeted : ∀ instrumentId, instrumentId ∉ input.targetWeights.keys →
      instrumentDrift input.currentWeights input.targetWeights instrumentId =
        |input.currentWeights.getD instrumentId 0| := by
    intro instrumentId hkey
    unfold instrumentDrift
    rw [getD_of_notMem hkey, sub_zero]
  constructor
  · intro hsees
    by_cases hwithin : ∀ instrumentId ∈ input.targetWeights.keys,
        instrumentDrift input.currentWeights input.targetWeights instrumentId ≤ defaultBand
    · right
      intro instrumentId hcurrent htarget
      rw [← huntargeted instrumentId htarget]
      exact hsees.ready_within (hready.mpr hwithin) instrumentId (Or.inl hcurrent)
    · left
      simpa only [not_forall, not_le, exists_prop] using hwithin
  · intro hcondition
    refine ⟨?_, fun _ _ hfurther => score_withWeight_le h hfurther, ?_⟩
    · intro hstate instrumentId hkey
      have hwithin := hready.mp hstate
      by_cases htarget : instrumentId ∈ input.targetWeights.keys
      · exact hwithin instrumentId htarget
      · rw [huntargeted instrumentId htarget]
        rcases hcondition with ⟨other, hother, hpast⟩ | hsmall
        · exact absurd (hwithin other hother) (not_le.mpr hpast)
        · exact hsmall instrumentId (hkey.resolve_right htarget) htarget
    · intro instrumentId weight hcurrent htarget
      refine score_withWeight_le h ?_
      rw [huntargeted instrumentId htarget, getD_of_notMem hcurrent, abs_zero]
      exact abs_nonneg _

/-- A twin without limits. -/
def plainTwin : MandateDigitalTwin :=
  { mandateId := "MANDATE_1"
    portfolioId := "PF_1"
    mandateVersion := "1"
    asOfDate :=
      { year := 2026, month := 5, day := 3
        year_bounds := year_2026, month_bounds := month_may, day_bounds := day_3_may }
    baseCurrency := "SGD"
    constraints := {} }

/-- One target is missed, and a small holding is not targeted. -/
def tiltedInput : MandateHealthInput :=
  { twin := plainTwin
    currentWeights := Dict.ofEntries [("EQ_1", 51 / 100), ("BD_1", 47 / 100), ("EQ_9", 2 / 100)]
    targetWeights := Dict.ofEntries [("EQ_1", 1 / 2), ("BD_1", 1 / 2)] }

theorem sees_every_instrument_tilted : SeesEveryInstrument tiltedInput :=
  (sees_every_instrument_iff tiltedInput (by decide +kernel)).mpr (Or.inl
    ⟨"BD_1", by decide +kernel, by decide +kernel⟩)

/-- A model of forty equal targets, and a portfolio of one other holding. -/
def untargetedInput : MandateHealthInput :=
  { twin := plainTwin
    currentWeights := Dict.ofEntries [("FUND_X", 1)]
    targetWeights := Dict.ofEntries
      ((List.range 40).map (fun n => ("EQ_" ++ toString n, 25 / 1000))) }

theorem untargeted_holding_unseen : DriftAssessed untargetedInput ∧
    (scoreAllocationDrift untargetedInput).state = .ready ∧
    (scoreAllocationDrift untargetedInput).score = 100 ∧
    ¬ SeesEveryInstrument untargetedInput := by
  refine ⟨by decide +kernel, by decide +kernel, by decide +kernel, ?_⟩
  intro hsees
  have hwithin := hsees.ready_within (by decide +kernel) "FUND_X" (Or.inl (by decide +kernel))
  exact absurd hwithin (by decide +kernel)

end LotusManage.Mandates
