import LotusManage.Engine.Targets
import LotusManage.Engine.Intents
import Mathlib.Tactic.Linarith
import Mathlib.Tactic.Positivity
import Mathlib.Algebra.Order.Field.Rat

/-!
# What target generation does to a weight

The controls of the heuristic method only raise and scale the weights of
instruments that may be bought.  The weight of any other instrument is scaled
down by the group constraints it belongs to and then capped, and nothing else
happens to it (`get?_generateTargetsHeuristic`).  No control adds or removes an
instrument.

Both methods hand the same trace on: one row for every model target and one for
every other instrument of the universe.
-/

namespace LotusManage.Engine

/-! ## Controls that only touch what may be bought -/

variable {buyList : List String} {id baseCcy : String}
  {first second eligibleTargets : Dict String Decimal} {model : ModelPortfolio} {totalVal : Decimal}
  {backend : SolverBackend} {shelf : List ShelfEntry} {options : EngineOptions}
  {diagnostics : DiagnosticsData} {stage : TargetStage}

theorem get?_redistributeSellOnlyExcess (eligibleTargets : Dict String Decimal)
    (sellOnlyExcess : Decimal) (h : id ∉ buyList) :
    (redistributeSellOnlyExcess eligibleTargets buyList sellOnlyExcess).1.get? id =
      eligibleTargets.get? id := by
  unfold redistributeSellOnlyExcess
  split
  · rfl
  · dsimp only
    split
    · rfl
    · rw [Dict.get?_mapWithKey]
      simp [h]

theorem keys_redistributeSellOnlyExcess (eligibleTargets : Dict String Decimal)
    (buyList : List String) (sellOnlyExcess : Decimal) :
    (redistributeSellOnlyExcess eligibleTargets buyList sellOnlyExcess).1.keys =
      eligibleTargets.keys := by
  unfold redistributeSellOnlyExcess
  split
  · rfl
  · dsimp only
    split
    · rfl
    · exact Dict.keys_mapWithKey _ _

theorem get?_scaleTradeableTargets (eligibleTargets : Dict String Decimal)
    (tradeableWeight allowedWeight : Decimal) (h : id ∉ buyList) :
    (scaleTradeableTargets eligibleTargets buyList tradeableWeight allowedWeight).1.get? id =
      eligibleTargets.get? id := by
  unfold scaleTradeableTargets
  split
  · rfl
  · rw [Dict.get?_mapWithKey]
    simp [h]

theorem keys_scaleTradeableTargets (eligibleTargets : Dict String Decimal)
    (buyList : List String) (tradeableWeight allowedWeight : Decimal) :
    (scaleTradeableTargets eligibleTargets buyList tradeableWeight allowedWeight).1.keys =
      eligibleTargets.keys := by
  unfold scaleTradeableTargets
  split
  · rfl
  · exact Dict.keys_mapWithKey _ _

theorem get?_capTradeableTargetsToAvailableWeight (eligibleTargets : Dict String Decimal)
    (h : id ∉ buyList) :
    (capTradeableTargetsToAvailableWeight eligibleTargets buyList).1.get? id =
      eligibleTargets.get? id := by
  unfold capTradeableTargetsToAvailableWeight
  dsimp only
  split
  · rfl
  · exact get?_scaleTradeableTargets _ _ _ h

theorem keys_capTradeableTargetsToAvailableWeight (eligibleTargets : Dict String Decimal)
    (buyList : List String) :
    (capTradeableTargetsToAvailableWeight eligibleTargets buyList).1.keys =
      eligibleTargets.keys := by
  unfold capTradeableTargetsToAvailableWeight
  dsimp only
  split
  · rfl
  · exact keys_scaleTradeableTargets _ _ _ _

theorem get?_applyMinCashBuffer (eligibleTargets : Dict String Decimal) (minCashBufferPct : Decimal)
    (statusWhenScaled : RunStatus) (h : id ∉ buyList) :
    (applyMinCashBuffer eligibleTargets buyList minCashBufferPct statusWhenScaled).1.get? id =
      eligibleTargets.get? id := by
  unfold applyMinCashBuffer
  split
  · rfl
  · exact get?_scaleTradeableTargets _ _ _ h

theorem keys_applyMinCashBuffer (eligibleTargets : Dict String Decimal) (buyList : List String)
    (minCashBufferPct : Decimal) (statusWhenScaled : RunStatus) :
    (applyMinCashBuffer eligibleTargets buyList minCashBufferPct statusWhenScaled).1.keys =
      eligibleTargets.keys := by
  unfold applyMinCashBuffer
  split
  · rfl
  · exact keys_scaleTradeableTargets _ _ _ _

/-! ## The single-position cap -/

theorem redistributeSinglePositionLoop_keys (maxWeight total : Decimal) :
    ∀ (candidates : List (String × Decimal)) (eligibleTargets : Dict String Decimal)
      (remainder : Decimal),
      (redistributeSinglePositionLoop maxWeight total candidates eligibleTargets remainder).1.keys =
        eligibleTargets.keys
  | [], eligibleTargets, remainder => rfl
  | (id, weight) :: candidates, eligibleTargets, remainder => by
    rw [redistributeSinglePositionLoop, redistributeSinglePositionLoop_keys, Dict.keys_update]

theorem redistributeSinglePositionLoop_get? (maxWeight total : Decimal) {id : String} :
    ∀ (candidates : List (String × Decimal)) (eligibleTargets : Dict String Decimal)
      (remainder : Decimal), (∀ candidate ∈ candidates, candidate.1 ≠ id) →
      (redistributeSinglePositionLoop maxWeight total candidates eligibleTargets
        remainder).1.get? id
        = eligibleTargets.get? id
  | [], eligibleTargets, remainder, _ => rfl
  | (other, weight) :: candidates, eligibleTargets, remainder, h => by
    rw [redistributeSinglePositionLoop, redistributeSinglePositionLoop_get?]
    · rw [Dict.get?_update, if_neg (Ne.symm (h (other, weight) List.mem_cons_self))]
    · exact fun candidate hmem => h candidate (List.mem_cons_of_mem _ hmem)

theorem get?_redistributeSinglePositionExcess (eligibleTargets : Dict String Decimal)
    (maxWeight excess : Decimal) (h : id ∉ buyList) :
    (redistributeSinglePositionExcess eligibleTargets buyList maxWeight excess).1.get? id =
      eligibleTargets.get? id := by
  unfold redistributeSinglePositionExcess
  dsimp only
  split
  · rfl
  · refine redistributeSinglePositionLoop_get? _ _ _ _ _ ?_
    intro candidate hmem heq
    have hbuy := (List.mem_filter.mp hmem).2
    simp only [decide_eq_true_eq] at hbuy
    exact h (heq ▸ hbuy.1)

theorem keys_redistributeSinglePositionExcess (eligibleTargets : Dict String Decimal)
    (buyList : List String) (maxWeight excess : Decimal) :
    (redistributeSinglePositionExcess eligibleTargets buyList maxWeight excess).1.keys =
      eligibleTargets.keys := by
  unfold redistributeSinglePositionExcess
  dsimp only
  split
  · rfl
  · exact redistributeSinglePositionLoop_keys _ _ _ _ _

/-- A weight under the single-position cap of the options. -/
def singlePositionCapped (options : EngineOptions) (weight : Decimal) : Decimal :=
  match options.singlePositionMaxWeight with
  | none => weight
  | some maxWeight => min weight maxWeight

theorem get?_applySinglePositionOption (eligibleTargets : Dict String Decimal)
    (options : EngineOptions) (h : id ∉ buyList) :
    (applySinglePositionOption eligibleTargets buyList options).1.get? id =
      (eligibleTargets.get? id).map (singlePositionCapped options) := by
  unfold applySinglePositionOption singlePositionCapped
  cases options.singlePositionMaxWeight with
  | none => simp
  | some maxWeight =>
    dsimp only
    unfold applySinglePositionMaxWeight
    have hcapped : (capSinglePositionTargets eligibleTargets maxWeight).1.get? id =
        (eligibleTargets.get? id).map (fun weight => min weight maxWeight) :=
      Dict.get?_mapWithKey _ _ _
    dsimp only
    split
    · exact hcapped
    · rw [← hcapped]
      exact get?_redistributeSinglePositionExcess _ _ _ h

theorem keys_applySinglePositionOption (eligibleTargets : Dict String Decimal)
    (buyList : List String) (options : EngineOptions) :
    (applySinglePositionOption eligibleTargets buyList options).1.keys = eligibleTargets.keys := by
  unfold applySinglePositionOption
  split
  · rfl
  · rename_i maxWeight _
    unfold applySinglePositionMaxWeight
    have hcapped : (capSinglePositionTargets eligibleTargets maxWeight).1.keys =
        eligibleTargets.keys := Dict.keys_mapWithKey _ _
    dsimp only
    split
    · exact hcapped
    · rw [← hcapped]
      exact keys_redistributeSinglePositionExcess _ _ _ _

theorem get?_heuristicTargetControlStatus (eligibleTargets : Dict String Decimal)
    (options : EngineOptions) (h : id ∉ buyList) :
    (heuristicTargetControlStatus eligibleTargets buyList options).1.get? id =
      (eligibleTargets.get? id).map (singlePositionCapped options) := by
  unfold heuristicTargetControlStatus
  dsimp only
  rw [get?_applyMinCashBuffer _ _ _ h, get?_applySinglePositionOption _ _ h,
    get?_capTradeableTargetsToAvailableWeight _ h]

theorem keys_heuristicTargetControlStatus (eligibleTargets : Dict String Decimal)
    (buyList : List String) (options : EngineOptions) :
    (heuristicTargetControlStatus eligibleTargets buyList options).1.keys =
      eligibleTargets.keys := by
  unfold heuristicTargetControlStatus
  dsimp only
  rw [keys_applyMinCashBuffer, keys_applySinglePositionOption,
    keys_capTradeableTargetsToAvailableWeight]

/-! ## Group constraints -/

/-- Some recorded event capped a group that contains the instrument. -/
def GroupCapped (events : List GroupConstraintEvent) (shelfAttrs : Dict String (Dict String String))
    (id : String) : Prop :=
  ∃ event ∈ events, ∃ attrKey attrVal,
    splitConstraintKey event.constraintKey = some (attrKey, attrVal) ∧
      isGroupMember shelfAttrs attrKey attrVal id = true

theorem GroupCapped.mono {events events' : List GroupConstraintEvent} (hsub : events ⊆ events')
    {shelfAttrs : Dict String (Dict String String)} (h : GroupCapped events shelfAttrs id) :
    GroupCapped events' shelfAttrs id := by
  obtain ⟨event, hmem, hgroup⟩ := h
  exact ⟨event, hsub hmem, hgroup⟩

/-- The weight of one instrument is scaled down, and kept when `kept` holds. -/
def ScaledDown (before after : Dict String Decimal) (id : String) (kept : Prop) : Prop :=
  ∃ factor : Decimal, 0 ≤ factor ∧ factor ≤ 1 ∧ (kept → factor = 1) ∧
    after.get? id = (before.get? id).map (factor * ·)

theorem ScaledDown.refl (targets : Dict String Decimal) (id : String) (kept : Prop) :
    ScaledDown targets targets id kept :=
  ⟨1, zero_le_one, le_refl _, fun _ => rfl, by simp⟩

theorem ScaledDown.trans {third : Dict String Decimal} {kept : Prop}
    (h : ScaledDown first second id kept) (h' : ScaledDown second third id kept) :
    ScaledDown first third id kept := by
  obtain ⟨c, hc0, hc1, hckept, hc⟩ := h
  obtain ⟨d, hd0, hd1, hdkept, hd⟩ := h'
  refine ⟨d * c, mul_nonneg hd0 hc0, mul_le_one₀ hd1 hc0 hc1, ?_, ?_⟩
  · intro hk
    rw [hckept hk, hdkept hk, one_mul]
  · rw [hd, hc, Option.map_map]
    refine congrArg (fun f => Option.map f (first.get? id)) (funext fun weight => ?_)
    exact (mul_assoc d c weight).symm

theorem get?_redistributeGroupConstraintExcess (eligibleTargets : Dict String Decimal)
    (isMember : String → Bool) (releasedWeight : Decimal) (h : id ∉ buyList) :
    (redistributeGroupConstraintExcess eligibleTargets buyList isMember releasedWeight).1.get? id =
      eligibleTargets.get? id := by
  unfold redistributeGroupConstraintExcess
  dsimp only
  split
  · rfl
  · rw [Dict.get?_mapWithKey]
    simp [isGroupCandidate, h]

theorem keys_redistributeGroupConstraintExcess (eligibleTargets : Dict String Decimal)
    (buyList : List String) (isMember : String → Bool) (releasedWeight : Decimal) :
    (redistributeGroupConstraintExcess eligibleTargets buyList isMember releasedWeight).1.keys =
      eligibleTargets.keys := by
  unfold redistributeGroupConstraintExcess
  dsimp only
  split
  · rfl
  · exact Dict.keys_mapWithKey _ _

theorem groupConstraintEvents_recordGroupConstraintEvent (diagnostics : DiagnosticsData)
    (constraintKey : String) (groupWeightBefore maxWeight releasedWeight : Decimal)
    (recipients : Dict String Decimal) :
    ∃ event, event.constraintKey = constraintKey ∧
      (recordGroupConstraintEvent diagnostics constraintKey groupWeightBefore maxWeight
        releasedWeight recipients).1.groupConstraintEvents =
          diagnostics.groupConstraintEvents ++ [event] := by
  unfold recordGroupConstraintEvent
  dsimp only
  split
  · exact ⟨_, rfl, rfl⟩
  · exact ⟨_, rfl, rfl⟩

theorem groupConstraintEvents_applyGroupConstraint (buyList : List String)
    (shelfAttrs : Dict String (Dict String String)) (constraintKey : String) (maxWeight : Decimal)
    (eligibleTargets : Dict String Decimal) (diagnostics : DiagnosticsData) :
    diagnostics.groupConstraintEvents ⊆
      (applyGroupConstraint buyList shelfAttrs constraintKey maxWeight eligibleTargets
        diagnostics).diagnostics.groupConstraintEvents := by
  unfold applyGroupConstraint
  split
  · exact List.Subset.refl _
  · dsimp only
    split
    · exact List.Subset.refl _
    · split
      · exact List.Subset.refl _
      · obtain ⟨event, _, hevents⟩ := groupConstraintEvents_recordGroupConstraintEvent diagnostics
          constraintKey _ maxWeight _ _
        rw [hevents]
        exact List.subset_append_left _ _

theorem splitConstraintKey_of_constraintKeyParts {constraintKey : String} {knownKeys : List String}
    {parts : String × String} (h : constraintKeyParts constraintKey knownKeys = .ok parts) :
    splitConstraintKey constraintKey = some parts := by
  unfold constraintKeyParts at h
  split at h
  · cases h
  · rename_i hsplit
    split at h
    · cases h
    · cases h
      exact hsplit

/-- One group constraint scales its members down when it caps them, and keeps what
it does not cap. -/
theorem applyGroupConstraint_scaledDown (shelfAttrs : Dict String (Dict String String))
    (constraintKey : String) {maxWeight : Decimal} (hmax : 0 ≤ maxWeight)
    (eligibleTargets : Dict String Decimal) (diagnostics : DiagnosticsData) (h : id ∉ buyList) :
    let stage := applyGroupConstraint buyList shelfAttrs constraintKey maxWeight eligibleTargets
      diagnostics
    ScaledDown eligibleTargets stage.eligibleTargets id
      (¬ GroupCapped stage.diagnostics.groupConstraintEvents shelfAttrs id) := by
  unfold applyGroupConstraint
  dsimp only
  split
  · exact ScaledDown.refl _ _ _
  · rename_i attrKey attrVal hparts
    have hsplit := splitConstraintKey_of_constraintKeyParts hparts
    split
    · exact ScaledDown.refl _ _ _
    · split
      · exact ScaledDown.refl _ _ _
      · rename_i hover
        -- the group weighs more than its bound, so the scale lies below one
        have hcurrent : maxWeight <
            weightOf eligibleTargets (isGroupMember shelfAttrs attrKey attrVal) := by
          linarith [not_le.mp hover]
        have hpos := lt_of_le_of_lt hmax hcurrent
        unfold ScaledDown
        rw [get?_redistributeGroupConstraintExcess _ _ _ h, capGroupConstraintMembers,
          Dict.get?_mapWithKey]
        cases hmember : isGroupMember shelfAttrs attrKey attrVal id with
        | true =>
          refine ⟨_, div_nonneg hmax hpos.le, (div_le_one hpos).mpr hcurrent.le, ?_, ?_⟩
          · intro hkept
            obtain ⟨event, hkey, hevents⟩ := groupConstraintEvents_recordGroupConstraintEvent
              diagnostics constraintKey _ maxWeight _ _
            refine absurd ⟨event, ?_, attrKey, attrVal, ?_, hmember⟩ hkept
            · rw [hevents]
              exact List.mem_append_right _ (List.mem_singleton.mpr rfl)
            · rw [hkey, hsplit]
          · refine congrArg (fun f => Option.map f (eligibleTargets.get? id))
              (funext fun weight => ?_)
            exact mul_comm _ _
        | false => exact ⟨1, zero_le_one, le_refl _, fun _ => rfl, by simp⟩

theorem keys_applyGroupConstraint (buyList : List String)
    (shelfAttrs : Dict String (Dict String String)) (constraintKey : String) (maxWeight : Decimal)
    (eligibleTargets : Dict String Decimal) (diagnostics : DiagnosticsData) :
    (applyGroupConstraint buyList shelfAttrs constraintKey maxWeight eligibleTargets
      diagnostics).eligibleTargets.keys = eligibleTargets.keys := by
  unfold applyGroupConstraint
  split
  · rfl
  · dsimp only
    split
    · rfl
    · split
      · rfl
      · exact (keys_redistributeGroupConstraintExcess _ _ _ _).trans (Dict.keys_mapWithKey _ _)

theorem groupConstraintEvents_applyGroupConstraintsLoop (buyList : List String)
    (shelfAttrs : Dict String (Dict String String))
    (groupConstraints : Dict String GroupConstraint) :
    ∀ (constraintKeys : List String) (eligibleTargets : Dict String Decimal)
      (diagnostics : DiagnosticsData),
      diagnostics.groupConstraintEvents ⊆
        (applyGroupConstraintsLoop buyList shelfAttrs groupConstraints constraintKeys
          eligibleTargets diagnostics).diagnostics.groupConstraintEvents
  | [], eligibleTargets, diagnostics => List.Subset.refl _
  | constraintKey :: constraintKeys, eligibleTargets, diagnostics => by
    rw [applyGroupConstraintsLoop]
    split
    · exact groupConstraintEvents_applyGroupConstraintsLoop buyList shelfAttrs groupConstraints
        constraintKeys _ _
    · rename_i constraint _
      have hstep := groupConstraintEvents_applyGroupConstraint buyList shelfAttrs constraintKey
        constraint.maxWeight eligibleTargets diagnostics
      dsimp only
      split
      · exact hstep
      · exact List.Subset.trans hstep (groupConstraintEvents_applyGroupConstraintsLoop buyList
          shelfAttrs groupConstraints constraintKeys _ _)

theorem ScaledDown.weaken {kept kept' : Prop} (h : ScaledDown first second id kept)
    (himp : kept' → kept) : ScaledDown first second id kept' := by
  obtain ⟨c, hc0, hc1, hckept, hc⟩ := h
  exact ⟨c, hc0, hc1, fun hk => hckept (himp hk), hc⟩

theorem applyGroupConstraintsLoop_scaledDown {buyList : List String}
    (shelfAttrs : Dict String (Dict String String))
    (groupConstraints : Dict String GroupConstraint) {id : String} (h : id ∉ buyList) :
    ∀ (constraintKeys : List String) (eligibleTargets : Dict String Decimal)
      (diagnostics : DiagnosticsData),
      let stage := applyGroupConstraintsLoop buyList shelfAttrs groupConstraints constraintKeys
        eligibleTargets diagnostics
      ScaledDown eligibleTargets stage.eligibleTargets id
        (¬ GroupCapped stage.diagnostics.groupConstraintEvents shelfAttrs id)
  | [], eligibleTargets, diagnostics => ScaledDown.refl _ _ _
  | constraintKey :: constraintKeys, eligibleTargets, diagnostics => by
    dsimp only
    rw [applyGroupConstraintsLoop]
    split
    · exact applyGroupConstraintsLoop_scaledDown shelfAttrs groupConstraints h constraintKeys
        eligibleTargets diagnostics
    · rename_i constraint _
      have hfirst := applyGroupConstraint_scaledDown shelfAttrs constraintKey
        constraint.maxWeightNonneg eligibleTargets diagnostics h
      dsimp only at hfirst ⊢
      split
      · exact hfirst
      · have hrest := applyGroupConstraintsLoop_scaledDown shelfAttrs groupConstraints h
          constraintKeys (applyGroupConstraint buyList shelfAttrs constraintKey
            constraint.maxWeight eligibleTargets diagnostics).eligibleTargets
          (applyGroupConstraint buyList shelfAttrs constraintKey constraint.maxWeight
            eligibleTargets diagnostics).diagnostics
        refine (hfirst.weaken fun hkept hcapped => hkept ?_).trans hrest
        exact hcapped.mono (groupConstraintEvents_applyGroupConstraintsLoop buyList shelfAttrs
          groupConstraints constraintKeys _ _)

theorem keys_applyGroupConstraintsLoop (buyList : List String)
    (shelfAttrs : Dict String (Dict String String))
    (groupConstraints : Dict String GroupConstraint) :
    ∀ (constraintKeys : List String) (eligibleTargets : Dict String Decimal)
      (diagnostics : DiagnosticsData),
      (applyGroupConstraintsLoop buyList shelfAttrs groupConstraints constraintKeys
        eligibleTargets diagnostics).eligibleTargets.keys = eligibleTargets.keys
  | [], eligibleTargets, diagnostics => rfl
  | constraintKey :: constraintKeys, eligibleTargets, diagnostics => by
    rw [applyGroupConstraintsLoop]
    split
    · exact keys_applyGroupConstraintsLoop buyList shelfAttrs groupConstraints constraintKeys _ _
    · dsimp only
      split
      · exact keys_applyGroupConstraint _ _ _ _ _ _
      · rw [keys_applyGroupConstraintsLoop buyList shelfAttrs groupConstraints constraintKeys,
          keys_applyGroupConstraint]

/-! ## The heuristic method -/

/-- The weight of an instrument that may not be bought: scaled down by its groups,
then capped. -/
theorem get?_generateTargetsHeuristic (model : ModelPortfolio)
    (eligibleTargets : Dict String Decimal) (sellOnlyExcess : Decimal) (shelf : List ShelfEntry)
    (options : EngineOptions) (totalVal : Decimal) (baseCcy : String)
    (diagnostics : DiagnosticsData) (h : id ∉ buyList)
    (hstatus : (generateTargetsHeuristic model eligibleTargets buyList sellOnlyExcess shelf options
      totalVal baseCcy diagnostics).status ≠ .blocked) :
    let stage := generateTargetsHeuristic model eligibleTargets buyList sellOnlyExcess shelf options
      totalVal baseCcy diagnostics
    ∃ factor : Decimal, 0 ≤ factor ∧ factor ≤ 1 ∧
      (¬ GroupCapped stage.diagnostics.groupConstraintEvents (shelfAttrsById shelf) id →
        factor = 1) ∧
      stage.eligibleTargets.get? id =
        (eligibleTargets.get? id).map
          (fun weight => singlePositionCapped options (factor * weight)) := by
  obtain ⟨c, hc0, hc1, hckept, hc⟩ := applyGroupConstraintsLoop_scaledDown (shelfAttrsById shelf)
    options.groupConstraints h (sortedTexts options.groupConstraints.keys)
    (redistributeSellOnlyExcess eligibleTargets buyList sellOnlyExcess).1 diagnostics
  change (applyGroupConstraints _ buyList shelf options diagnostics).eligibleTargets.get? id = _
    at hc
  unfold generateTargetsHeuristic at hstatus ⊢
  dsimp only at hstatus ⊢
  split
  · rename_i hblocked
    rw [if_pos hblocked] at hstatus
    exact absurd rfl hstatus
  · refine ⟨c, hc0, hc1, hckept, ?_⟩
    rw [get?_heuristicTargetControlStatus _ _ h, hc, get?_redistributeSellOnlyExcess _ _ h,
      Option.map_map]
    rfl

theorem trace_generateTargetsHeuristic (model : ModelPortfolio)
    (eligibleTargets : Dict String Decimal) (buyList : List String) (sellOnlyExcess : Decimal)
    (shelf : List ShelfEntry) (options : EngineOptions) (totalVal : Decimal) (baseCcy : String)
    (diagnostics : DiagnosticsData)
    (hstatus : (generateTargetsHeuristic model eligibleTargets buyList sellOnlyExcess shelf options
      totalVal baseCcy diagnostics).status ≠ .blocked) :
    let stage := generateTargetsHeuristic model eligibleTargets buyList sellOnlyExcess shelf options
      totalVal baseCcy diagnostics
    stage.trace = buildTargetTrace model stage.eligibleTargets buyList totalVal baseCcy ∧
      stage.eligibleTargets.keys = eligibleTargets.keys := by
  dsimp only
  unfold generateTargetsHeuristic at hstatus ⊢
  dsimp only at hstatus ⊢
  split
  · rename_i hblocked
    rw [if_pos hblocked] at hstatus
    exact absurd rfl hstatus
  · refine ⟨rfl, ?_⟩
    rw [keys_heuristicTargetControlStatus]
    exact (keys_applyGroupConstraintsLoop _ _ _ _ _ _).trans
      (keys_redistributeSellOnlyExcess _ _ _)

/-! ## The trace and the sized targets -/

theorem instruments_buildTargetTrace (model : ModelPortfolio)
    (eligibleTargets : Dict String Decimal) (buyList : List String) (totalVal : Decimal)
    (baseCcy : String) (id : String) :
    id ∈ (buildTargetTrace model eligibleTargets buyList totalVal baseCcy).map (·.instrumentId) ↔
      id ∈ model.targets.map (·.instrumentId) ∨ id ∈ eligibleTargets.keys := by
  unfold buildTargetTrace
  rw [List.map_append, List.mem_append, List.map_map, List.map_map]
  constructor
  · rintro (hmodel | hother)
    · exact Or.inl hmodel
    · obtain ⟨entry, hentry, rfl⟩ := List.mem_map.mp hother
      exact Or.inr (List.mem_map_of_mem (List.mem_filter.mp hentry).1)
  · intro h
    by_cases hmodel : id ∈ model.targets.map (·.instrumentId)
    · exact Or.inl hmodel
    · rcases h with h | h
      · exact absurd h hmodel
      · obtain ⟨entry, hentry, rfl⟩ := List.mem_map.mp h
        refine Or.inr (List.mem_map.mpr ⟨entry, List.mem_filter.mpr ⟨hentry, ?_⟩, rfl⟩)
        simpa using hmodel

theorem finalWeight_buildTargetTrace {row : TargetInstrument}
    (h : row ∈ buildTargetTrace model eligibleTargets buyList totalVal baseCcy) :
    row.finalWeight = eligibleTargets.getD row.instrumentId 0 := by
  unfold buildTargetTrace at h
  rcases List.mem_append.mp h with hmodel | hother
  · obtain ⟨target, _, rfl⟩ := List.mem_map.mp hmodel
    rfl
  · obtain ⟨entry, hentry, rfl⟩ := List.mem_map.mp hother
    have hget := (Dict.get?_eq_some_iff eligibleTargets entry.1 entry.2).mpr
      (List.mem_filter.mp hentry).1
    change entry.2 = eligibleTargets.getD entry.1 0
    rw [Dict.getD, hget, Option.getD_some]

/-- The sized targets are the model targets and the instruments of the universe,
each with its final weight. -/
theorem mem_targetWeightByInstrument (model : ModelPortfolio)
    (eligibleTargets : Dict String Decimal) (buyList : List String) (totalVal : Decimal)
    (baseCcy : String) (id : String) (weight : Decimal) :
    (id, weight) ∈ (targetWeightByInstrument
        (buildTargetTrace model eligibleTargets buyList totalVal baseCcy)).items ↔
      (id ∈ model.targets.map (·.instrumentId) ∨ id ∈ eligibleTargets.keys) ∧
        weight = eligibleTargets.getD id 0 := by
  have hkeys : id ∈ (targetWeightByInstrument
      (buildTargetTrace model eligibleTargets buyList totalVal baseCcy)).keys ↔
      id ∈ model.targets.map (·.instrumentId) ∨ id ∈ eligibleTargets.keys := by
    rw [targetWeightByInstrument, Dict.mem_keys_ofEntries, List.map_map,
      ← instruments_buildTargetTrace model eligibleTargets buyList totalVal baseCcy]
    rfl
  have hvalue : id ∈ (targetWeightByInstrument
      (buildTargetTrace model eligibleTargets buyList totalVal baseCcy)).keys →
      (targetWeightByInstrument (buildTargetTrace model eligibleTargets buyList totalVal
        baseCcy)).get? id = some (eligibleTargets.getD id 0) := by
    intro hmem
    rw [targetWeightByInstrument, Dict.mem_keys_ofEntries] at hmem
    refine Dict.get?_ofEntries_of_forall hmem ?_
    rintro entry hentry rfl
    obtain ⟨row, hrow, rfl⟩ := List.mem_map.mp hentry
    exact finalWeight_buildTargetTrace hrow
  rw [← Dict.get?_eq_some_iff, ← hkeys]
  constructor
  · intro h
    have hmem := (Dict.mem_keys_iff _ _).mpr ⟨weight, h⟩
    rw [hvalue hmem] at h
    exact ⟨hmem, (Option.some.inj h).symm⟩
  · rintro ⟨hmem, rfl⟩
    exact hvalue hmem

/-! ## Both methods -/

theorem mem_keys_applySolverValues (values : Nat → Decimal) {id : String} :
    ∀ (entries : List (String × Nat)) (eligibleTargets : Dict String Decimal),
      id ∈ eligibleTargets.keys →
      id ∈ (entries.foldl (fun targets entry =>
        targets.set entry.1 (quantizeWeight (max (values entry.2) 0))) eligibleTargets).keys
  | [], _, h => h
  | entry :: entries, eligibleTargets, h => by
    rw [List.foldl_cons]
    refine mem_keys_applySolverValues values entries _ ?_
    rw [Dict.mem_keys_set]
    exact Or.inr h

theorem trace_generateTargetsSolver {sellOnlyExcess : Decimal}
    (h : generateTargetsSolver backend model eligibleTargets buyList sellOnlyExcess shelf options
      totalVal baseCcy diagnostics = .ok stage) (hstatus : stage.status ≠ .blocked) :
    stage.trace = buildTargetTrace model stage.eligibleTargets buyList totalVal baseCcy ∧
      ∀ id ∈ eligibleTargets.keys, id ∈ stage.eligibleTargets.keys := by
  have hkeys := keys_redistributeSellOnlyExcess eligibleTargets buyList sellOnlyExcess
  unfold generateTargetsSolver at h
  dsimp only [bind, Except.bind, pure, Except.pure] at h
  split at h
  · cases h
    exact absurd rfl hstatus
  · split at h
    · cases h
      refine ⟨rfl, ?_⟩
      intro id hid
      dsimp only
      rw [hkeys]
      exact hid
    · split at h
      · cases h
      · split at h
        · cases h
          exact absurd rfl hstatus
        · split at h
          · cases h
            exact absurd rfl hstatus
          · cases h
            refine ⟨rfl, ?_⟩
            intro id hid
            rw [← hkeys] at hid
            exact mem_keys_applySolverValues _ _ _ hid

theorem trace_generateTargets {sellOnlyExcess : Decimal}
    (h : generateTargets backend model eligibleTargets buyList sellOnlyExcess shelf options
      totalVal baseCcy diagnostics = .ok stage) (hstatus : stage.status ≠ .blocked) :
    stage.trace = buildTargetTrace model stage.eligibleTargets buyList totalVal baseCcy ∧
      ∀ id ∈ eligibleTargets.keys, id ∈ stage.eligibleTargets.keys := by
  unfold generateTargets at h
  split at h
  · exact trace_generateTargetsSolver h hstatus
  · cases h
    obtain ⟨htrace, hkeys⟩ := trace_generateTargetsHeuristic model eligibleTargets buyList
      sellOnlyExcess shelf options totalVal baseCcy diagnostics hstatus
    refine ⟨htrace, ?_⟩
    intro id hid
    rw [hkeys]
    exact hid

end LotusManage.Engine
