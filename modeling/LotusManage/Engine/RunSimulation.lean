import LotusManage.Engine.Targets
import LotusManage.Engine.Intents
import LotusManage.Engine.Turnover
import LotusManage.Engine.WorkflowGates
import LotusManage.Engine.Execution

/-!
# A run of the engine

`src/core/rebalance/engine.py`.  The stages in order: value the portfolio, build
the universe, generate the targets, check the data, size the intents, check the
data again, limit the turnover, simulate the execution, and derive status and
gate.

The run identifier is drawn from a random source; it is an argument here.  The
explanation of the source's result is the simulation status and the method
comparison, which are fields here.
-/

namespace LotusManage.Engine

/-- The input of `run_simulation`. -/
structure RunInput where
  portfolio : PortfolioSnapshot
  marketData : MarketDataSnapshot
  model : ModelPortfolio
  shelf : List ShelfEntry
  options : EngineOptions
  runId : String := "rr_0"
  requestHash : String := "no_hash"
  correlationId : String := "c_none"

structure LineageData where
  portfolioSnapshotId : String
  marketDataSnapshotId : String
  requestHash : String

structure RebalanceResult where
  rebalanceRunId : String
  correlationId : String
  status : RunStatus
  before : SimulatedState
  universeData : UniverseData
  target : TargetData
  intents : List OrderIntent
  afterSimulated : SimulatedState
  reconciliation : Option Reconciliation
  taxImpact : Option TaxImpact
  ruleResults : List RuleResult
  diagnostics : DiagnosticsData
  gateDecision : Option GateDecision
  targetMethodComparison : Option TargetMethodComparison
  lineage : LineageData

/-! ## Stages -/

/-- The valuation before any trade. -/
def RunInput.before (input : RunInput) : SimulatedState :=
  buildSimulatedState input.portfolio input.marketData input.shelf input.options

/-- `tv` of `run_simulation` -/
def RunInput.totalValue (input : RunInput) : Decimal :=
  totalPortfolioValue input.portfolio input.marketData input.options

/-- The universe of the run. -/
def RunInput.universeOf (input : RunInput) : Universe :=
  buildUniverse input.model input.portfolio input.shelf input.options input.before

/-- The diagnostics after valuation and universe. -/
def RunInput.initialDiagnostics (input : RunInput) : DiagnosticsData :=
  let dataQuality := valuationLog input.portfolio input.marketData input.options
    makeDiagnosticsData.dataQuality
  { makeDiagnosticsData with
    dataQuality :=
      { dataQuality with
        shelfMissing := dataQuality.shelfMissing ++ input.universeOf.shelfMissing } }

/-- The target stage of the run. -/
def RunInput.targetStage (backend : SolverBackend) (input : RunInput) :
    Except EngineError TargetStage :=
  generateTargets backend input.model input.universeOf.eligibleTargets input.universeOf.buyList
    input.universeOf.sellOnlyExcess input.shelf input.options input.totalValue
    input.portfolio.baseCurrency input.initialDiagnostics

/-- `_record_target_method_comparison_warnings` -/
def recordTargetMethodComparisonWarnings (comparison : TargetMethodComparison)
    (diagnostics : DiagnosticsData) : DiagnosticsData :=
  let diagnostics :=
    if comparison.primaryStatus ≠ comparison.alternateStatus then
      diagnostics.warn "TARGET_METHOD_STATUS_DIVERGENCE"
    else diagnostics
  if comparison.differingInstruments = [] then diagnostics
  else diagnostics.warn "TARGET_METHOD_WEIGHT_DIVERGENCE"

/-- `_compare_target_methods_if_requested` -/
def RunInput.compareTargetMethodsIfRequested (backend : SolverBackend) (input : RunInput)
    (stage : TargetStage) : Except EngineError (Option TargetMethodComparison × DiagnosticsData) :=
  if !input.options.compareTargetMethods then .ok (none, stage.diagnostics)
  else
    match compareTargetGenerationMethods backend input.model input.universeOf.eligibleTargets
        input.universeOf.buyList input.universeOf.sellOnlyExcess input.shelf input.options
        input.totalValue input.portfolio.baseCurrency stage.trace stage.status with
    | .error error => .error error
    | .ok comparison =>
      .ok (some comparison, recordTargetMethodComparisonWarnings comparison stage.diagnostics)

/-- `universe` of a result; `coverage` is 1, or 0 for a blocked result. -/
def RunInput.universeData (input : RunInput) (coverage : Decimal) : UniverseData :=
  { universeId := "u_" ++ input.runId
    eligibleForBuy := input.universeOf.buyList
    eligibleForSell := input.universeOf.sellList
    excluded := input.universeOf.excluded
    coverage := ⟨coverage, coverage⟩ }

/-- `lineage` of a result. -/
def RunInput.lineage (input : RunInput) : LineageData :=
  ⟨input.portfolio.portfolioId, "md", input.requestHash⟩

/-- The gate decision of a result, when workflow gates are on. -/
def RunInput.gateDecision (input : RunInput) (status : RunStatus) (rules : List RuleResult)
    (diagnostics : DiagnosticsData) : Option GateDecision :=
  if input.options.enableWorkflowGates then
    some (evaluateGateDecision status rules [] diagnostics input.options false)
  else none

/-- `_make_blocked_result` -/
def RunInput.makeBlockedResult (input : RunInput) (trace : List TargetInstrument)
    (diagnostics : DiagnosticsData) : RebalanceResult :=
  let ruleResults := evaluateRules input.before input.options diagnostics
  { rebalanceRunId := input.runId
    correlationId := input.correlationId
    status := .blocked
    before := input.before
    universeData := input.universeData 0
    target := ⟨"t_" ++ input.runId, trace⟩
    intents := []
    afterSimulated := input.before
    reconciliation := none
    taxImpact := none
    ruleResults := ruleResults
    diagnostics := diagnostics
    gateDecision := input.gateDecision .blocked ruleResults diagnostics
    targetMethodComparison := none
    lineage := input.lineage }

/-- `_resolve_final_gate_status` -/
def resolveFinalGateStatus (targetStatus executionStatus : RunStatus) : RunStatus :=
  if targetStatus = .pendingReview ∧ executionStatus = .ready then .pendingReview
  else executionStatus

/-- The result of a run that got through both blocking checks. -/
def RunInput.simulatedResult (input : RunInput) (stage : TargetStage)
    (comparison : Option TargetMethodComparison) (taxImpact : Option TaxImpact)
    (execution : ExecutionSimulation) (after : SimulatedState) : RebalanceResult :=
  let gateStatus := resolveFinalGateStatus stage.status execution.status
  { rebalanceRunId := input.runId
    correlationId := input.correlationId
    status := gateStatus
    before := input.before
    universeData := input.universeData 1
    target := ⟨"t_" ++ input.runId, stage.trace⟩
    intents := execution.intents
    afterSimulated := after
    reconciliation := execution.reconciliation
    taxImpact := taxImpact
    ruleResults := execution.rules
    diagnostics := execution.diagnostics
    gateDecision := input.gateDecision gateStatus execution.rules execution.diagnostics
    targetMethodComparison := comparison
    lineage := input.lineage }

/-- The stages after the second blocking check: turnover and execution. -/
def RunInput.execution (input : RunInput) (intents : List SecurityTradeIntent)
    (diagnostics : DiagnosticsData) : ExecutionSimulation :=
  let limited := applyTurnoverLimit intents input.options input.totalValue
    input.portfolio.baseCurrency diagnostics
  generateFxAndSimulate input.portfolio input.marketData input.shelf limited.1 input.options
    input.totalValue limited.2

/-- The intents, tax impact and diagnostics of the sizing stage. -/
def RunInput.sizing (input : RunInput) (trace : List TargetInstrument)
    (diagnostics : DiagnosticsData) :
    Except EngineError (List SecurityTradeIntent × Option TaxImpact × DiagnosticsData) :=
  generateIntents input.portfolio input.marketData trace input.shelf input.options
    input.totalValue diagnostics

/-- `run_simulation` -/
def runSimulation (backend : SolverBackend) (input : RunInput) :
    Except EngineError RebalanceResult :=
  match input.targetStage backend with
  | .error error => .error error
  | .ok stage =>
    match input.compareTargetMethodsIfRequested backend stage with
    | .error error => .error error
    | .ok (comparison, diagnostics) =>
      if checkBlockingDq diagnostics.dataQuality input.options ∨ stage.status = .blocked then
        .ok (input.makeBlockedResult stage.trace diagnostics)
      else
        match input.sizing stage.trace diagnostics with
        | .error error => .error error
        | .ok (intents, taxImpact, diagnostics) =>
          if checkBlockingDq diagnostics.dataQuality input.options then
            .ok (input.makeBlockedResult stage.trace diagnostics)
          else
            let execution := input.execution intents diagnostics
            match execution.state with
            | none => .error .resultValidation
            | some after =>
              .ok (input.simulatedResult stage comparison taxImpact execution after)

end LotusManage.Engine
