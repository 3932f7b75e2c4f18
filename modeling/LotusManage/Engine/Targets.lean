import LotusManage.Engine.Solver

/-!
# Heuristic targets

`src/core/rebalance/targets.py`.  The heuristic method moves the weights of the
universe through five controls, in this order: the excess of sell-only targets
is redistributed, group constraints cap and redistribute, the buyable weights
are scaled to the weight that the others leave, a single position is capped, and
the buyable weights are scaled once more for the cash buffer.  Each control
returns a status, and the statuses are merged.

The source mutates `eligible_targets` in place; every function here returns the
new dictionary beside what the source returns.
-/

namespace LotusManage.Engine

/-! ## Group constraints -/

/-- `_constraint_key_parts`: the parts, or the warning that the source records. -/
def constraintKeyParts (constraintKey : String) (knownKeys : List String) :
    Except String (String × String) :=
  match splitConstraintKey constraintKey with
  | none => .error ("INVALID_CONSTRAINT_KEY_" ++ constraintKey)
  | some (attrKey, attrVal) =>
    if attrKey ∉ knownKeys then .error ("UNKNOWN_CONSTRAINT_ATTRIBUTE_" ++ attrKey)
    else .ok (attrKey, attrVal)

/-- `_cap_group_constraint_members`, for a group of weight `currentWeight`. -/
def capGroupConstraintMembers (eligibleTargets : Dict String Decimal)
    (isMember : String → Bool) (currentWeight maxWeight : Decimal) : Dict String Decimal :=
  eligibleTargets.mapWithKey fun id weight =>
    if isMember id then weight * (maxWeight / currentWeight) else weight

/-- Whether an instrument takes a share of the released weight. -/
def isGroupCandidate (buyList : List String) (isMember : String → Bool) (id : String) : Bool :=
  id ∈ buyList ∧ ¬ isMember id

/-- `_redistribute_group_constraint_excess`: the new weights and the recipients. -/
def redistributeGroupConstraintExcess (eligibleTargets : Dict String Decimal)
    (buyList : List String) (isMember : String → Bool) (releasedWeight : Decimal) :
    Dict String Decimal × Dict String Decimal :=
  let isCandidate := isGroupCandidate buyList isMember
  let totalCandidateWeight := weightOf eligibleTargets isCandidate
  if totalCandidateWeight ≤ 0 then (eligibleTargets, Dict.empty)
  else
    (eligibleTargets.mapWithKey fun id weight =>
        if isCandidate id then weight + releasedWeight * (weight / totalCandidateWeight)
        else weight,
      eligibleTargets.filterMapValues fun id weight =>
        if isCandidate id then some (releasedWeight * (weight / totalCandidateWeight)) else none)

/-- `_record_group_constraint_event` -/
def recordGroupConstraintEvent (diagnostics : DiagnosticsData) (constraintKey : String)
    (groupWeightBefore maxWeight releasedWeight : Decimal) (recipients : Dict String Decimal) :
    DiagnosticsData × RunStatus :=
  let diagnostics := diagnostics.warn ("CAPPED_BY_GROUP_LIMIT_" ++ constraintKey)
  if recipients.nonempty then
    ({ diagnostics with
        groupConstraintEvents := diagnostics.groupConstraintEvents ++
          [⟨constraintKey, groupWeightBefore, maxWeight, releasedWeight, recipients, .capped⟩] },
      .ready)
  else
    let diagnostics := diagnostics.warn "NO_ELIGIBLE_REDISTRIBUTION_DESTINATION"
    ({ diagnostics with
        groupConstraintEvents := diagnostics.groupConstraintEvents ++
          [⟨constraintKey, groupWeightBefore, maxWeight, releasedWeight, Dict.empty, .blocked⟩] },
      .blocked)

/-- The targets, the diagnostics and the status that a control leaves. -/
structure GroupStage where
  eligibleTargets : Dict String Decimal
  diagnostics : DiagnosticsData
  status : RunStatus

/-- `_apply_group_constraint` -/
def applyGroupConstraint (buyList : List String) (shelfAttrs : Dict String (Dict String String))
    (constraintKey : String) (maxWeight : Decimal) (eligibleTargets : Dict String Decimal)
    (diagnostics : DiagnosticsData) : GroupStage :=
  match constraintKeyParts constraintKey (knownAttrKeys shelfAttrs) with
  | .error warning => ⟨eligibleTargets, diagnostics.warn warning, .ready⟩
  | .ok (attrKey, attrVal) =>
    let isMember := isGroupMember shelfAttrs attrKey attrVal
    if eligibleTargets.keys.filter isMember = [] then ⟨eligibleTargets, diagnostics, .ready⟩
    else
      let currentW := weightOf eligibleTargets isMember
      if currentW ≤ maxWeight + 1 / 10000 then ⟨eligibleTargets, diagnostics, .ready⟩
      else
        let capped := capGroupConstraintMembers eligibleTargets isMember currentW maxWeight
        let excess := currentW - maxWeight
        let redistributed := redistributeGroupConstraintExcess capped buyList isMember excess
        let recorded := recordGroupConstraintEvent diagnostics constraintKey currentW maxWeight
          excess redistributed.2
        ⟨redistributed.1, recorded.1, recorded.2⟩

/-- The loop of `apply_group_constraints` over the constraints that are left. -/
def applyGroupConstraintsLoop (buyList : List String)
    (shelfAttrs : Dict String (Dict String String))
    (groupConstraints : Dict String GroupConstraint) :
    List String → Dict String Decimal → DiagnosticsData → GroupStage
  | [], eligibleTargets, diagnostics => ⟨eligibleTargets, diagnostics, .ready⟩
  | constraintKey :: constraintKeys, eligibleTargets, diagnostics =>
    match groupConstraints.get? constraintKey with
    | none =>
      applyGroupConstraintsLoop buyList shelfAttrs groupConstraints constraintKeys eligibleTargets
        diagnostics
    | some constraint =>
      let stage := applyGroupConstraint buyList shelfAttrs constraintKey constraint.maxWeight
        eligibleTargets diagnostics
      if stage.status = .blocked then stage
      else
        applyGroupConstraintsLoop buyList shelfAttrs groupConstraints constraintKeys
          stage.eligibleTargets stage.diagnostics

/-- `apply_group_constraints`.  The source's early return for an empty dictionary
is the loop over no key. -/
def applyGroupConstraints (eligibleTargets : Dict String Decimal) (buyList : List String)
    (shelf : List ShelfEntry) (options : EngineOptions) (diagnostics : DiagnosticsData) :
    GroupStage :=
  applyGroupConstraintsLoop buyList (shelfAttrsById shelf) options.groupConstraints
    (sortedTexts options.groupConstraints.keys) eligibleTargets diagnostics

/-! ## Weight controls -/

/-- `_TargetWeightPosture` -/
structure TargetWeightPosture where
  totalWeight : Decimal
  lockedWeight : Decimal
  tradeableWeight : Decimal
  availableTradeableWeight : Decimal

/-- `_target_weight_posture` -/
def targetWeightPosture (eligibleTargets : Dict String Decimal) (buyList : List String) :
    TargetWeightPosture :=
  let totalWeight := eligibleTargets.values.sum
  let lockedWeight := weightOf eligibleTargets (fun id => id ∉ buyList)
  { totalWeight := totalWeight
    lockedWeight := lockedWeight
    tradeableWeight := totalWeight - lockedWeight
    availableTradeableWeight := max 0 (1 - lockedWeight) }

/-- `_scale_tradeable_targets` and `_scale_tradeable_targets_for_cash_buffer`: the
new weights, and whether the buyable ones were scaled. -/
def scaleTradeableTargets (eligibleTargets : Dict String Decimal) (buyList : List String)
    (tradeableWeight allowedWeight : Decimal) : Dict String Decimal × Bool :=
  if tradeableWeight ≤ allowedWeight ∨ tradeableWeight ≤ 0 then (eligibleTargets, false)
  else
    (eligibleTargets.mapWithKey fun id weight =>
      if id ∈ buyList then weight * (allowedWeight / tradeableWeight) else weight, true)

/-- `_cap_tradeable_targets_to_available_weight` -/
def capTradeableTargetsToAvailableWeight (eligibleTargets : Dict String Decimal)
    (buyList : List String) : Dict String Decimal × RunStatus :=
  let posture := targetWeightPosture eligibleTargets buyList
  if posture.totalWeight ≤ 10001 / 10000 then (eligibleTargets, .ready)
  else
    let status := if posture.lockedWeight > 1 then RunStatus.pendingReview else .ready
    let scaled := scaleTradeableTargets eligibleTargets buyList posture.tradeableWeight
      posture.availableTradeableWeight
    (scaled.1,
      if posture.tradeableWeight > posture.availableTradeableWeight then .pendingReview
      else status)

/-- `_cap_single_position_targets` -/
def capSinglePositionTargets (eligibleTargets : Dict String Decimal) (maxWeight : Decimal) :
    Dict String Decimal × Decimal :=
  (eligibleTargets.mapWithKey fun _ weight => min weight maxWeight,
    (eligibleTargets.values.map (fun weight => max 0 (weight - maxWeight))).sum)

/-- The loop of `_redistribute_single_position_excess` over the candidates that
are left: the targets and what remains to be placed. -/
def redistributeSinglePositionLoop (maxWeight totalCandidateWeight : Decimal) :
    List (String × Decimal) → Dict String Decimal → Decimal → Dict String Decimal × Decimal
  | [], eligibleTargets, remainder => (eligibleTargets, remainder)
  | (id, weight) :: candidates, eligibleTargets, remainder =>
    let share := min (remainder * (weight / totalCandidateWeight)) (maxWeight - weight)
    redistributeSinglePositionLoop maxWeight totalCandidateWeight candidates
      (eligibleTargets.update id (· + share)) (remainder - share)

/-- `_redistribute_single_position_excess` -/
def redistributeSinglePositionExcess (eligibleTargets : Dict String Decimal)
    (buyList : List String) (maxWeight excess : Decimal) : Dict String Decimal × Decimal :=
  let candidates := eligibleTargets.items.filter (fun e => e.1 ∈ buyList ∧ e.2 < maxWeight)
  let totalCandidateWeight := (candidates.map Prod.snd).sum
  if totalCandidateWeight ≤ 0 then (eligibleTargets, excess)
  else redistributeSinglePositionLoop maxWeight totalCandidateWeight candidates eligibleTargets
    excess

/-- `_apply_single_position_max_weight` -/
def applySinglePositionMaxWeight (eligibleTargets : Dict String Decimal) (buyList : List String)
    (maxWeight : Decimal) : Dict String Decimal × RunStatus :=
  let capped := capSinglePositionTargets eligibleTargets maxWeight
  if capped.2 ≤ 0 then (capped.1, .ready)
  else
    let redistributed := redistributeSinglePositionExcess capped.1 buyList maxWeight capped.2
    (redistributed.1, if redistributed.2 > 1 / 1000 then .pendingReview else .ready)

/-- `_apply_min_cash_buffer` -/
def applyMinCashBuffer (eligibleTargets : Dict String Decimal) (buyList : List String)
    (minCashBufferPct : Decimal) (statusWhenScaled : RunStatus) :
    Dict String Decimal × RunStatus :=
  if minCashBufferPct ≤ 0 then (eligibleTargets, .ready)
  else
    let posture := targetWeightPosture eligibleTargets buyList
    let scaled := scaleTradeableTargets eligibleTargets buyList posture.tradeableWeight
      (max 0 (posture.availableTradeableWeight - minCashBufferPct))
    (scaled.1, if scaled.2 then statusWhenScaled else .ready)

/-- `_target_generation_status` -/
def targetGenerationStatus (current candidate : RunStatus) : RunStatus :=
  if candidate = .blocked ∨ current = .blocked then .blocked
  else if candidate = .pendingReview ∨ current = .pendingReview then .pendingReview
  else .ready

/-- The status of a scaled cash buffer in `_heuristic_target_control_status`. -/
def cashBufferStatusWhenScaled (options : EngineOptions) : RunStatus :=
  if options.cashReserveTargetWeight = some (effectiveCashReserveFloor options) then .ready
  else .pendingReview

/-- The single-position step of `_heuristic_target_control_status`. -/
def applySinglePositionOption (eligibleTargets : Dict String Decimal) (buyList : List String)
    (options : EngineOptions) : Dict String Decimal × RunStatus :=
  match options.singlePositionMaxWeight with
  | none => (eligibleTargets, .ready)
  | some maxWeight => applySinglePositionMaxWeight eligibleTargets buyList maxWeight

/-- `_heuristic_target_control_status` -/
def heuristicTargetControlStatus (eligibleTargets : Dict String Decimal) (buyList : List String)
    (options : EngineOptions) : Dict String Decimal × RunStatus :=
  let available := capTradeableTargetsToAvailableWeight eligibleTargets buyList
  let single := applySinglePositionOption available.1 buyList options
  let buffered := applyMinCashBuffer single.1 buyList (effectiveCashReserveFloor options)
    (cashBufferStatusWhenScaled options)
  (buffered.1,
    targetGenerationStatus (targetGenerationStatus available.2 single.2) buffered.2)

/-! ## The method -/

/-- `generate_targets_heuristic` -/
def generateTargetsHeuristic (model : ModelPortfolio) (eligibleTargets : Dict String Decimal)
    (buyList : List String) (sellOnlyExcess : Decimal) (shelf : List ShelfEntry)
    (options : EngineOptions) (totalVal : Decimal) (baseCcy : String)
    (diagnostics : DiagnosticsData) : TargetStage :=
  let redistributed := redistributeSellOnlyExcess eligibleTargets buyList sellOnlyExcess
  let group := applyGroupConstraints redistributed.1 buyList shelf options diagnostics
  if group.status = .blocked then ⟨[], .blocked, group.eligibleTargets, group.diagnostics⟩
  else
    let controlled := heuristicTargetControlStatus group.eligibleTargets buyList options
    { trace := buildTargetTrace model controlled.1 buyList totalVal baseCcy
      status := targetGenerationStatus redistributed.2 controlled.2
      eligibleTargets := controlled.1
      diagnostics := group.diagnostics }

/-- `generate_targets` -/
def generateTargets (backend : SolverBackend) (model : ModelPortfolio)
    (eligibleTargets : Dict String Decimal) (buyList : List String) (sellOnlyExcess : Decimal)
    (shelf : List ShelfEntry) (options : EngineOptions) (totalVal : Decimal) (baseCcy : String)
    (diagnostics : DiagnosticsData) : Except EngineError TargetStage :=
  match options.targetMethod with
  | .solver =>
    generateTargetsSolver backend model eligibleTargets buyList sellOnlyExcess shelf options
      totalVal baseCcy diagnostics
  | .heuristic =>
    .ok (generateTargetsHeuristic model eligibleTargets buyList sellOnlyExcess shelf options
      totalVal baseCcy diagnostics)

/-! ## The comparison of the two methods -/

/-- The comparison that `compare_target_generation_methods` reports. -/
structure TargetMethodComparison where
  primaryMethod : TargetMethod
  primaryStatus : RunStatus
  alternateMethod : TargetMethod
  alternateStatus : RunStatus
  tolerance : Decimal
  differingInstruments : List String
  alternateWarnings : List String

/-- The method that is not the primary one. -/
def TargetMethod.alternate : TargetMethod → TargetMethod
  | heuristic => solver
  | solver => heuristic

/-- `_to_weight_map` -/
def toWeightMap (trace : List TargetInstrument) : Dict String Decimal :=
  Dict.ofEntries (trace.map (fun t => (t.instrumentId, t.finalWeight)))

/-- `compare_target_generation_methods` -/
def compareTargetGenerationMethods (backend : SolverBackend) (model : ModelPortfolio)
    (eligibleTargets : Dict String Decimal) (buyList : List String) (sellOnlyExcess : Decimal)
    (shelf : List ShelfEntry) (options : EngineOptions) (totalVal : Decimal) (baseCcy : String)
    (primaryTrace : List TargetInstrument) (primaryStatus : RunStatus) :
    Except EngineError TargetMethodComparison := do
  let altOptions := { options with targetMethod := options.targetMethod.alternate }
  let alt ← generateTargets backend model eligibleTargets buyList sellOnlyExcess shelf altOptions
    totalVal baseCcy makeDiagnosticsData
  let primaryWeights := toWeightMap primaryTrace
  let alternateWeights := toWeightMap alt.trace
  let instruments := sortedTexts (primaryWeights.keys ++ alternateWeights.keys).dedup
  return { primaryMethod := options.targetMethod
           primaryStatus := primaryStatus
           alternateMethod := options.targetMethod.alternate
           alternateStatus := alt.status
           tolerance := options.compareTargetMethodsTolerance
           differingInstruments := instruments.filter fun id =>
             |primaryWeights.getD id 0 - alternateWeights.getD id 0| >
               options.compareTargetMethodsTolerance
           alternateWarnings := sortedTexts alt.diagnostics.warnings.dedup }

end LotusManage.Engine
