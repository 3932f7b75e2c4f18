import LotusManage.Engine.Universe
import Mathlib.Data.List.Sort

/-!
# Solver targets

`src/core/target_generation.py` and the two helpers it shares with the heuristic
method (`redistribute_sell_only_excess`, `effective_cash_reserve_floor`).

The convex solver itself is a third-party package.  It is the parameter
`SolverBackend` here: whether the packages are importable, which solvers they
report as installed, and what one call of `solve` gives for a problem, a solver
and a keyword profile.  The problem that the source builds, the order of the
attempts, the reading of the status and the rounding of the weights are the
source's own and are modelled.
-/

namespace LotusManage.Engine

/-! ## Helpers shared with the heuristic method -/

/-- `effective_cash_reserve_floor` -/
def effectiveCashReserveFloor (options : EngineOptions) : Decimal :=
  max options.minCashBufferPct (options.cashReserveTargetWeight.getD 0)

/-- The sum of the weights of the entries that satisfy a test on the key. -/
def weightOf (targets : Dict String Decimal) (p : String → Bool) : Decimal :=
  ((targets.items.filter (fun e => p e.1)).map Prod.snd).sum

/-- `redistribute_sell_only_excess` -/
def redistributeSellOnlyExcess (eligibleTargets : Dict String Decimal) (buyList : List String)
    (sellOnlyExcess : Decimal) : Dict String Decimal × RunStatus :=
  if sellOnlyExcess ≤ 0 then (eligibleTargets, .ready)
  else
    let totalRecipientWeight := weightOf eligibleTargets (fun id => id ∈ buyList)
    if totalRecipientWeight ≤ 0 then (eligibleTargets, .pendingReview)
    else
      (eligibleTargets.mapWithKey fun id weight =>
        if id ∈ buyList then weight + sellOnlyExcess * (weight / totalRecipientWeight)
        else weight, .ready)

/-- `constraint_key.split(":", 1)`, when the key has a colon. -/
def splitConstraintKey (constraintKey : String) : Option (String × String) :=
  match constraintKey.toList.span (· ≠ ':') with
  | (_, []) => none
  | (attrKey, _ :: attrVal) => some (String.ofList attrKey, String.ofList attrVal)

/-- `sorted` on texts. -/
def sortedTexts (texts : List String) : List String :=
  texts.insertionSort (fun a b => ¬ b < a)

/-- The attributes of every shelf instrument; the last entry of a repeated
instrument wins. -/
def shelfAttrsById (shelf : List ShelfEntry) : Dict String (Dict String String) :=
  Dict.ofEntries (shelf.map (fun entry => (entry.instrumentId, entry.attributes)))

/-- `known_attr_keys` -/
def knownAttrKeys (shelfAttrs : Dict String (Dict String String)) : List String :=
  (shelfAttrs.values.map Dict.keys).flatten

/-- Whether an instrument carries the attribute value of a constraint. -/
def isGroupMember (shelfAttrs : Dict String (Dict String String)) (attrKey attrVal : String)
    (instrumentId : String) : Bool :=
  ((shelfAttrs.get? instrumentId).bind (·.get? attrKey)) = some attrVal

/-! ## The target trace -/

/-- `_model_target_trace_row` -/
def modelTargetTraceRow (target : ModelTarget) (finalWeight totalVal : Decimal)
    (baseCcy : String) : TargetInstrument :=
  { instrumentId := target.instrumentId
    modelWeight := target.weight
    finalWeight := finalWeight
    finalValue := ⟨totalVal * finalWeight, baseCcy⟩
    tags :=
      (if target.weight > finalWeight then ["CAPPED_BY_MAX_WEIGHT"] else []) ++
        (if finalWeight > target.weight then ["REDISTRIBUTED_RECIPIENT"] else []) }

/-- `_non_model_target_trace_tag` -/
def nonModelTargetTraceTag (instrumentId : String) (finalWeight : Decimal)
    (buyList : List String) : String :=
  if instrumentId ∈ buyList ∨ finalWeight = 0 then "IMPLICIT_SELL_TO_ZERO" else "LOCKED_POSITION"

/-- `_non_model_target_trace_row` -/
def nonModelTargetTraceRow (instrumentId : String) (finalWeight : Decimal)
    (buyList : List String) (totalVal : Decimal) (baseCcy : String) : TargetInstrument :=
  { instrumentId := instrumentId
    modelWeight := 0
    finalWeight := finalWeight
    finalValue := ⟨totalVal * finalWeight, baseCcy⟩
    tags := [nonModelTargetTraceTag instrumentId finalWeight buyList] }

/-- `build_target_trace` -/
def buildTargetTrace (model : ModelPortfolio) (eligibleTargets : Dict String Decimal)
    (buyList : List String) (totalVal : Decimal) (baseCcy : String) : List TargetInstrument :=
  model.targets.map (fun target =>
      modelTargetTraceRow target (eligibleTargets.getD target.instrumentId 0) totalVal baseCcy) ++
    (eligibleTargets.items.filter (fun e => e.1 ∉ model.targets.map (·.instrumentId))).map
      (fun e => nonModelTargetTraceRow e.1 e.2 buyList totalVal baseCcy)

/-! ## The problem -/

/-- One group constraint of the problem: the weights at `members` plus
`lockedWeight` stay below `maxWeight`. -/
structure SolverGroupBound where
  members : List Nat
  lockedWeight : Decimal
  maxWeight : Decimal

/-- The convex problem: the weights closest to `modelWeights`, not negative, with
a sum between `minimum` and `maximum`. -/
structure SolverProblem where
  modelWeights : List Decimal
  minimum : Decimal
  maximum : Decimal
  singlePositionMaxWeight : Option Decimal
  groupBounds : List SolverGroupBound

/-- The outcome of a call of `solve` that did not raise. -/
structure SolveOutcome where
  /-- The status text, in lower case. -/
  status : String
  /-- The value of the weight variable, when it has one. -/
  weights : Option (Nat → Decimal)

/-- The third-party solver. -/
structure SolverBackend where
  /-- `has_solver_dependencies()` and the import both succeed. -/
  dependenciesAvailable : Bool
  /-- `cp.installed_solvers()`; empty when the call raises. -/
  installedSolvers : List String
  /-- `problem.solve(solver, **kwargs)` for the numbered keyword profile; `none`
  when the call raises one of the caught errors. -/
  solve : SolverProblem → String → Nat → Option SolveOutcome

/-- The backend of an installation without the solver packages. -/
def SolverBackend.notInstalled : SolverBackend := ⟨false, [], fun _ _ _ => none⟩

/-- `_solver_target_universe`: the buyable instruments of the universe. -/
def solverTradeableIds (eligibleTargets : Dict String Decimal) (buyList : List String) :
    List String :=
  eligibleTargets.keys.filter (fun id => id ∈ buyList)

/-- `locked_weight` of `_solver_target_universe` -/
def solverLockedWeight (eligibleTargets : Dict String Decimal) (buyList : List String) : Decimal :=
  weightOf eligibleTargets (fun id => id ∉ buyList)

/-- `_solver_group_members`: the tradeable members, and the weight of the others. -/
def solverGroupMembers (attrKey attrVal : String) (eligibleTargets : Dict String Decimal)
    (shelfAttrs : Dict String (Dict String String)) (tradeableIds : List String) :
    List String × Decimal :=
  (eligibleTargets.keys.filter
      (fun id => isGroupMember shelfAttrs attrKey attrVal id ∧ id ∈ tradeableIds),
    weightOf eligibleTargets
      (fun id => isGroupMember shelfAttrs attrKey attrVal id ∧ id ∉ tradeableIds))

/-- `_append_solver_group_constraint` -/
def appendSolverGroupConstraint (options : EngineOptions) (eligibleTargets : Dict String Decimal)
    (shelfAttrs : Dict String (Dict String String)) (tradeableIds : List String)
    (acc : List SolverGroupBound × DiagnosticsData) (constraintKey : String) :
    Except EngineError (List SolverGroupBound × DiagnosticsData) :=
  match splitConstraintKey constraintKey with
  | none => .error .constraintKeySplit
  | some (attrKey, attrVal) =>
    if attrKey ∉ knownAttrKeys shelfAttrs then
      .ok (acc.1, acc.2.warn ("UNKNOWN_CONSTRAINT_ATTRIBUTE_" ++ attrKey))
    else
      let members := solverGroupMembers attrKey attrVal eligibleTargets shelfAttrs tradeableIds
      if members.1 = [] ∧ members.2 = 0 then .ok acc
      else
        match options.groupConstraints.get? constraintKey with
        | none => .ok acc
        | some constraint =>
          .ok (acc.1 ++ [⟨members.1.map (fun id => tradeableIds.idxOf id), members.2,
            constraint.maxWeight⟩], acc.2)

/-- `_build_solver_problem` -/
def buildSolverProblem (model : ModelPortfolio) (tradeableIds : List String)
    (lockedWeight : Decimal) (eligibleTargets : Dict String Decimal) (shelf : List ShelfEntry)
    (options : EngineOptions) (diagnostics : DiagnosticsData) :
    Except EngineError (SolverProblem × DiagnosticsData) := do
  let modelWeights := Dict.ofEntries (model.targets.map (fun t => (t.instrumentId, t.weight)))
  let effectiveMinimumCashWeight :=
    max options.cashBandMinWeight (effectiveCashReserveFloor options)
  let (groupBounds, diagnostics) ← (sortedTexts options.groupConstraints.keys).foldlM
    (appendSolverGroupConstraint options eligibleTargets (shelfAttrsById shelf) tradeableIds)
    ([], diagnostics)
  return ({ modelWeights := tradeableIds.map (fun id => modelWeights.getD id 0)
            minimum := 1 - options.cashBandMaxWeight - lockedWeight
            maximum := 1 - effectiveMinimumCashWeight - lockedWeight
            singlePositionMaxWeight := options.singlePositionMaxWeight
            groupBounds := groupBounds }, diagnostics)

/-! ## The attempts -/

/-- `_build_solver_attempts`: the solvers in order, each with four keyword
profiles. -/
def solverAttempts : List (String × List Nat) := [("OSQP", [0, 1, 2, 3]), ("SCS", [0, 1, 2, 3])]

/-- `_solver_is_available` -/
def solverIsAvailable (solverName : String) (installed : List String) : Bool :=
  installed = [] ∨ solverName ∈ installed

/-- `_solver_status_is_optimal` -/
def solverStatusIsOptimal (status : String) : Bool :=
  status = "optimal" ∨ status = "optimal_inaccurate"

/-- `_solve_solver_attempts`: the first optimal outcome, and the latest status. -/
def solveSolverAttempts (backend : SolverBackend) (problem : SolverProblem) (solverName : String) :
    List Nat → Option String → Option SolveOutcome × Option String
  | [], latestStatus => (none, latestStatus)
  | profile :: profiles, latestStatus =>
    match backend.solve problem solverName profile with
    | none => solveSolverAttempts backend problem solverName profiles latestStatus
    | some outcome =>
      if solverStatusIsOptimal outcome.status then (some outcome, some outcome.status)
      else solveSolverAttempts backend problem solverName profiles (some outcome.status)

/-- `_solve_with_fallbacks` over the attempts that are left. -/
def solveWithFallbacks (backend : SolverBackend) (problem : SolverProblem) :
    List (String × List Nat) → Option String → Option SolveOutcome × Option String
  | [], latestStatus => (none, latestStatus)
  | (solverName, profiles) :: attempts, latestStatus =>
    if solverIsAvailable solverName backend.installedSolvers then
      match solveSolverAttempts backend problem solverName profiles latestStatus with
      | (some outcome, status) => (some outcome, status)
      | (none, status) => solveWithFallbacks backend problem attempts status
    else solveWithFallbacks backend problem attempts latestStatus

/-! ## Failure -/

/-- `_solver_failure_reason` -/
def solverFailureReason (latestStatus : Option String) : String :=
  match latestStatus with
  | none => "SOLVER_ERROR"
  | some status =>
    if status = "infeasible" ∨ status = "infeasible_inaccurate" then
      "INFEASIBLE_" ++ status.toUpper
    else if status = "unbounded" ∨ status = "unbounded_inaccurate" then
      "UNBOUNDED_" ++ status.toUpper
    else "SOLVER_NON_OPTIMAL_" ++ status.toUpper

/-- `_infeasibility_capacity_hints` -/
def infeasibilityCapacityHints (tradeableCount : Nat) (lockedWeight : Decimal)
    (options : EngineOptions) : List String :=
  let investedMin := 1 - options.cashBandMaxWeight - lockedWeight
  let investedMax := 1 - options.cashBandMinWeight - lockedWeight
  (if investedMin > investedMax then ["INFEASIBILITY_HINT_CASH_BAND_CONTRADICTION"] else []) ++
    match options.singlePositionMaxWeight with
    | none => []
    | some maxWeight =>
      if maxWeight * tradeableCount < investedMin then
        ["INFEASIBILITY_HINT_SINGLE_POSITION_CAPACITY"]
      else []

/-- The hint of one group constraint in `_collect_infeasibility_hints`. -/
def infeasibilityGroupHint (options : EngineOptions) (eligibleTargets : Dict String Decimal)
    (shelf : List ShelfEntry) (tradeableIds : List String) (constraintKey : String) :
    Option String :=
  match splitConstraintKey constraintKey, options.groupConstraints.get? constraintKey with
  | some (attrKey, attrVal), some constraint =>
    if constraint.maxWeight <
        (solverGroupMembers attrKey attrVal eligibleTargets (shelfAttrsById shelf)
          tradeableIds).2 then
      some ("INFEASIBILITY_HINT_LOCKED_GROUP_WEIGHT_" ++ constraintKey)
    else none
  | _, _ => none

/-- `_collect_infeasibility_hints` -/
def collectInfeasibilityHints (tradeableIds : List String) (lockedWeight : Decimal)
    (options : EngineOptions) (eligibleTargets : Dict String Decimal) (shelf : List ShelfEntry) :
    List String :=
  infeasibilityCapacityHints tradeableIds.length lockedWeight options ++
    (sortedTexts options.groupConstraints.keys).filterMap
      (infeasibilityGroupHint options eligibleTargets shelf tradeableIds)

/-- `_record_solver_failure`: the hints follow an infeasible status. -/
def recordSolverFailure (latestStatus : Option String) (hints : List String)
    (diagnostics : DiagnosticsData) : DiagnosticsData :=
  let diagnostics := diagnostics.warn (solverFailureReason latestStatus)
  if latestStatus = some "infeasible" ∨ latestStatus = some "infeasible_inaccurate" then
    { diagnostics with warnings := diagnostics.warnings ++ hints }
  else diagnostics

/-! ## The method -/

/-- `quantize(Decimal("0.0001"))`: the nearest multiple, ties to the even one. -/
def quantizeWeight (weight : Decimal) : Decimal :=
  let scaled := weight * 10000
  let below := scaled.floor
  let rest := scaled - below
  let units :=
    if rest < 1 / 2 then below
    else if rest > 1 / 2 then below + 1
    else if below % 2 = 0 then below else below + 1
  (units : Decimal) / 10000

/-- `_apply_solver_values`, for the values of a solved problem. -/
def applySolverValues (values : Nat → Decimal) (tradeableIds : List String)
    (eligibleTargets : Dict String Decimal) : Dict String Decimal :=
  tradeableIds.zipIdx.foldl
    (fun targets entry => targets.set entry.1 (quantizeWeight (max (values entry.2) 0)))
    eligibleTargets

/-- The result of a target stage: the trace, its status, the targets as the stage
left them, and the diagnostics. -/
structure TargetStage where
  trace : List TargetInstrument
  status : RunStatus
  eligibleTargets : Dict String Decimal
  diagnostics : DiagnosticsData

/-- `generate_targets_solver` -/
def generateTargetsSolver (backend : SolverBackend) (model : ModelPortfolio)
    (eligibleTargets : Dict String Decimal) (buyList : List String) (sellOnlyExcess : Decimal)
    (shelf : List ShelfEntry) (options : EngineOptions) (totalVal : Decimal) (baseCcy : String)
    (diagnostics : DiagnosticsData) : Except EngineError TargetStage := do
  if !backend.dependenciesAvailable then
    return ⟨[], .blocked, eligibleTargets, diagnostics.warn "SOLVER_ERROR"⟩
  let (eligibleTargets, status) :=
    redistributeSellOnlyExcess eligibleTargets buyList sellOnlyExcess
  let tradeableIds := solverTradeableIds eligibleTargets buyList
  let lockedWeight := solverLockedWeight eligibleTargets buyList
  if tradeableIds = [] then
    return ⟨buildTargetTrace model eligibleTargets buyList totalVal baseCcy, status,
      eligibleTargets, diagnostics⟩
  let (problem, diagnostics) ←
    buildSolverProblem model tradeableIds lockedWeight eligibleTargets shelf options diagnostics
  match solveWithFallbacks backend problem solverAttempts none with
  | (none, latestStatus) =>
    return ⟨[], .blocked, eligibleTargets, recordSolverFailure latestStatus
      (collectInfeasibilityHints tradeableIds lockedWeight options eligibleTargets shelf)
      diagnostics⟩
  | (some outcome, _) =>
    match outcome.weights with
    | none => return ⟨[], .blocked, eligibleTargets, diagnostics.warn "SOLVER_ERROR"⟩
    | some values =>
      let eligibleTargets := applySolverValues values tradeableIds eligibleTargets
      return ⟨buildTargetTrace model eligibleTargets buyList totalVal baseCcy, status,
        eligibleTargets, diagnostics⟩

end LotusManage.Engine
