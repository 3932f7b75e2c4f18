import LotusManage.Engine.RunSimulation
import LotusManage.Engine.AppliedValue

/-!
# The shape of a run

A run that returns either was blocked by a data check or by the target stage, or
went through every stage (`runSimulation_cases`).  `ExecutedRun` is the record of
a run that got through both blocking checks: the outcome of each stage, with the
equations that say so.
-/

namespace LotusManage.Engine

/-- The stages of a run that got through both blocking checks. -/
structure ExecutedRun (backend : SolverBackend) (input : RunInput) where
  stage : TargetStage
  comparison : Option TargetMethodComparison
  comparedDiagnostics : DiagnosticsData
  intents : List SecurityTradeIntent
  taxImpact : Option TaxImpact
  diagnostics : DiagnosticsData
  stageEq : input.targetStage backend = .ok stage
  comparisonEq : input.compareTargetMethodsIfRequested backend stage =
    .ok (comparison, comparedDiagnostics)
  firstCheck : checkBlockingDq comparedDiagnostics.dataQuality input.options = false
  stageNotBlocked : stage.status ≠ .blocked
  sizingEq : input.sizing stage.trace comparedDiagnostics = .ok (intents, taxImpact, diagnostics)
  secondCheck : checkBlockingDq diagnostics.dataQuality input.options = false

namespace ExecutedRun

variable {backend : SolverBackend} {input : RunInput} (run : ExecutedRun backend input)

/-- The trades that the turnover limit keeps. -/
def keptTrades : List SecurityTradeIntent :=
  (applyTurnoverLimit run.intents input.options input.totalValue input.portfolio.baseCurrency
    run.diagnostics).1

/-- The diagnostics after the turnover limit. -/
def keptDiagnostics : DiagnosticsData :=
  (applyTurnoverLimit run.intents input.options input.totalValue input.portfolio.baseCurrency
    run.diagnostics).2

/-- The FX stage of the run. -/
def fx : FxState :=
  fxState input.portfolio input.marketData run.keptTrades input.options run.keptDiagnostics

/-- The execution stage of the run. -/
def execution : ExecutionSimulation := input.execution run.intents run.diagnostics

/-- The intents in the order of their application. -/
def ordered : List OrderIntent := executionIntents run.fx input.options

/-- The result of the run, for the state after its execution. -/
def result (after : SimulatedState) : RebalanceResult :=
  input.simulatedResult run.stage run.comparison run.taxImpact run.execution after

end ExecutedRun

/-- The run gets past both blocking checks. -/
def RunInput.PastBlockingChecks (backend : SolverBackend) (input : RunInput) : Prop :=
  Nonempty (ExecutedRun backend input)

variable {backend : SolverBackend} {input : RunInput} {portfolio : PortfolioSnapshot}
  {marketData : MarketDataSnapshot} {intents : List SecurityTradeIntent} {options : EngineOptions}
  {diagnostics : DiagnosticsData}

theorem runSimulation_executed (run : ExecutedRun backend input) :
    runSimulation backend input = match run.execution.state with
      | none => .error .resultValidation
      | some after => .ok (run.result after) := by
  unfold runSimulation
  simp only [run.stageEq, run.comparisonEq]
  rw [if_neg (by simp [run.firstCheck, run.stageNotBlocked])]
  simp only [run.sizingEq]
  rw [if_neg (by simp [run.secondCheck])]
  rfl

theorem runSimulation_cases {result : RebalanceResult}
    (h : runSimulation backend input = .ok result) :
    (∃ trace diagnostics, result = input.makeBlockedResult trace diagnostics) ∨
      ∃ run : ExecutedRun backend input, ∃ after, run.execution.state = some after ∧
        result = run.result after := by
  unfold runSimulation at h
  split at h
  · cases h
  · rename_i stage hstage
    split at h
    · cases h
    · rename_i comparison compared hcompare
      split at h
      · cases h
        exact Or.inl ⟨_, _, rfl⟩
      · rename_i hfirst
        rw [not_or] at hfirst
        split at h
        · cases h
        · rename_i intents taxImpact diagnostics hsizing
          split at h
          · cases h
            exact Or.inl ⟨_, _, rfl⟩
          · rename_i hsecond
            dsimp only at h
            split at h
            · cases h
            · rename_i after hafter
              cases h
              exact Or.inr ⟨⟨stage, comparison, compared, intents, taxImpact, diagnostics, hstage,
                hcompare, by simpa using hfirst.1, hfirst.2, hsizing, by simpa using hsecond⟩,
                after, hafter, rfl⟩

theorem pastBlockingChecks_of_intents {result : RebalanceResult}
    (h : runSimulation backend input = .ok result) (hintents : result.intents ≠ []) :
    input.PastBlockingChecks backend := by
  rcases runSimulation_cases h with ⟨trace, diagnostics, rfl⟩ | ⟨run, _⟩
  · exact absurd rfl hintents
  · exact ⟨run⟩

theorem exists_result_of_evaluates (backend : SolverBackend) (input : RunInput)
    (test : RebalanceResult → Bool)
    (h : (match runSimulation backend input with
      | .ok result => test result
      | .error _ => false) = true) :
    ∃ result, runSimulation backend input = .ok result ∧ test result = true := by
  split at h
  · rename_i result hresult
    exact ⟨result, hresult, h⟩
  · cases h

/-! ## Trades among the intents -/

@[simp] theorem securityTrades_cons_trade (trade : SecurityTradeIntent)
    (intents : List OrderIntent) :
    securityTrades (.securityTrade trade :: intents) = trade :: securityTrades intents := rfl

@[simp] theorem securityTrades_cons_fx (conversion : FxSpotIntent) (intents : List OrderIntent) :
    securityTrades (.fxSpot conversion :: intents) = securityTrades intents := rfl

theorem securityTrades_map_core (intents : List OrderIntent) :
    securityTrades (intents.map OrderIntent.core) =
      (securityTrades intents).map SecurityTradeIntent.core := by
  induction intents with
  | nil => rfl
  | cons intent intents ih =>
    cases intent with
    | securityTrade trade =>
      rw [securityTrades_cons_trade, List.map_cons, List.map_cons, ← ih]
      rfl
    | fxSpot conversion =>
      rw [securityTrades_cons_fx, List.map_cons, ← ih]
      rfl

theorem securityTrades_trades_append_fx (trades : List SecurityTradeIntent)
    (conversions : List FxSpotIntent) :
    securityTrades (trades.map .securityTrade ++ conversions.map .fxSpot) = trades := by
  induction trades with
  | nil =>
    induction conversions with
    | nil => rfl
    | cons conversion conversions ih => exact ih
  | cons trade trades ih => exact congrArg (trade :: ·) ih

/-! ## The execution stage -/

theorem generateFxAndSimulate_blocked {shelf : List ShelfEntry} {totalValBefore : Decimal}
    (h : (fxState portfolio marketData intents options diagnostics).blocked = true) :
    (generateFxAndSimulate portfolio marketData shelf intents options totalValBefore
      diagnostics).state = none := by
  unfold generateFxAndSimulate
  dsimp only
  rw [if_pos h]

theorem state_simulateIntents (portfolio : PortfolioSnapshot) (marketData : MarketDataSnapshot)
    (shelf : List ShelfEntry) (intents : List OrderIntent) (options : EngineOptions)
    (totalValBefore : Decimal) (diagnostics : DiagnosticsData) :
    (simulateIntents portfolio marketData shelf intents options totalValBefore diagnostics).state =
      some (buildSimulatedState (applyExecutionIntents portfolio intents) marketData shelf
        options) := by
  unfold simulateIntents simulationResultWithReconciliation
  dsimp only
  split
  · split <;> rfl
  · rfl

theorem intents_simulateIntents (portfolio : PortfolioSnapshot) (marketData : MarketDataSnapshot)
    (shelf : List ShelfEntry) (intents : List OrderIntent) (options : EngineOptions)
    (totalValBefore : Decimal) (diagnostics : DiagnosticsData) :
    (simulateIntents portfolio marketData shelf intents options totalValBefore
      diagnostics).intents = intents := by
  unfold simulateIntents simulationResultWithReconciliation
  dsimp only
  split
  · split <;> rfl
  · rfl

theorem generateFxAndSimulate_cases
    (h : (fxState portfolio marketData intents options diagnostics).blocked = false)
    (shelf : List ShelfEntry) (totalValBefore : Decimal) :
    let fx := fxState portfolio marketData intents options diagnostics
    let execution := generateFxAndSimulate portfolio marketData shelf intents options
      totalValBefore diagnostics
    (options.enableSettlementAwareness = true ∧ ∃ breach diagnostics',
        execution = settlementBlockedSimulationResult portfolio marketData shelf
          (executionIntents fx options) options breach diagnostics') ∨
      ∃ diagnostics', execution = simulateIntents portfolio marketData shelf
        (executionIntents fx options) options totalValBefore diagnostics' ∧
        (options.enableSettlementAwareness = false → diagnostics' = fx.diagnostics) := by
  dsimp only
  unfold generateFxAndSimulate
  dsimp only
  rw [if_neg (by simp [h])]
  split
  · rename_i hsettle
    split
    · rename_i breach _ _
      exact Or.inl ⟨hsettle, breach, _, rfl⟩
    · exact Or.inr ⟨_, rfl, fun hoff => absurd (hsettle.symm.trans hoff) (by decide)⟩
  · exact Or.inr ⟨_, rfl, fun _ => rfl⟩

namespace ExecutedRun

variable {backend : SolverBackend} {input : RunInput} {run : ExecutedRun backend input}

variable {after : SimulatedState}

theorem fx_not_blocked (h : run.execution.state = some after) : run.fx.blocked = false := by
  cases hblocked : run.fx.blocked with
  | false => rfl
  | true =>
    have hnone : run.execution.state = none := generateFxAndSimulate_blocked hblocked
    rw [hnone] at h
    cases h

theorem intents_execution (h : run.execution.state = some after) :
    run.execution.intents = run.ordered := by
  have hcases := generateFxAndSimulate_cases (fx_not_blocked h) input.shelf input.totalValue
  rcases hcases with ⟨_, breach, diagnostics', hexec⟩ | ⟨diagnostics', hexec, _⟩
  · exact congrArg ExecutionSimulation.intents hexec
  · refine (congrArg ExecutionSimulation.intents hexec).trans ?_
    exact intents_simulateIntents _ _ _ _ _ _ _

theorem keptTrades_sized (run : ExecutedRun backend input) :
    (∀ intent ∈ run.keptTrades, IsSizedTrade input.portfolio input.marketData input.totalValue
        (targetWeightByInstrument run.stage.trace).items intent) ∧
      (run.keptTrades.map (·.instrumentId)).Nodup := by
  have hsized := generateIntents_sized run.sizingEq
  have hsub : run.keptTrades.Subperm run.intents := applyTurnoverLimit_subperm _ _ _ _ _
  exact ⟨fun intent hmem => hsized.1 intent (hsub.subset hmem),
    nodup_instruments_of_subperm hsub hsized.2⟩

theorem ordered_core_perm (run : ExecutedRun backend input) :
    ∃ conversions : List FxSpotIntent,
      (run.ordered.map OrderIntent.core).Perm
        (run.keptTrades.map (fun trade => .securityTrade trade.core) ++ conversions.map .fxSpot) ∧
      ∀ conversion ∈ conversions,
        FxNeutral input.marketData input.portfolio.baseCurrency conversion := by
  obtain ⟨conversions, hfx, hneutral⟩ := fxState_extends input.portfolio input.marketData
    run.keptTrades input.options run.keptDiagnostics
  refine ⟨conversions, ?_, hneutral⟩
  have hperm := executionIntents_core_perm run.fx input.options
  have hintents : run.fx.intents.map OrderIntent.core =
      run.keptTrades.map (fun trade => .securityTrade trade.core) ++ conversions.map .fxSpot := by
    rw [show run.fx.intents = run.keptTrades.map .securityTrade ++ conversions.map .fxSpot from hfx,
      List.map_append, List.map_map, List.map_map]
    rfl
  rw [hintents] at hperm
  exact hperm

theorem securityTrades_perm {intents intents' : List OrderIntent} (h : intents.Perm intents') :
    (securityTrades intents).Perm (securityTrades intents') := h.filterMap _

theorem trades_perm (run : ExecutedRun backend input) :
    ((securityTrades run.ordered).map SecurityTradeIntent.core).Perm
      (run.keptTrades.map SecurityTradeIntent.core) := by
  obtain ⟨conversions, hperm, _⟩ := run.ordered_core_perm
  have htrades := securityTrades_perm hperm
  rw [← securityTrades_map_core]
  refine htrades.trans ?_
  rw [show run.keptTrades.map (fun trade => OrderIntent.securityTrade trade.core) =
    (run.keptTrades.map SecurityTradeIntent.core).map .securityTrade by rw [List.map_map]; rfl]
  exact List.Perm.of_eq (securityTrades_trades_append_fx _ _)

theorem trades_sized (run : ExecutedRun backend input) :
    (∀ trade ∈ securityTrades run.ordered, IsSizedTrade input.portfolio input.marketData
        input.totalValue (targetWeightByInstrument run.stage.trace).items trade.core) ∧
      ((securityTrades run.ordered).map (·.instrumentId)).Nodup := by
  obtain ⟨hsized, hnodup⟩ := run.keptTrades_sized
  refine ⟨?_, ?_⟩
  · intro trade hmem
    have hcore := run.trades_perm.mem_iff.mp (List.mem_map_of_mem hmem)
    obtain ⟨kept, hkept, hcoreEq⟩ := List.mem_map.mp hcore
    have hsame : kept.core = kept := by
      obtain ⟨_, _, _, _, _, h⟩ := hsized kept hkept
      rw [SecurityTradeIntent.core, ← h.dependenciesEq]
    rw [← hcoreEq, hsame]
    exact hsized kept hkept
  · have hids := run.trades_perm.map (·.instrumentId)
    rw [List.map_map, List.map_map] at hids
    exact hids.nodup_iff.mpr hnodup

end ExecutedRun

end LotusManage.Engine
