import LotusManage.Engine.Conservation
import LotusManage.Lib.Checks

/-!
# When a run returns

Of the ways in which a run can raise, two never happen.  The exit that hands on a
portfolio in place of a simulated state needs a currency without a rate after
both data checks, and the first check has blocked such a run
(`missing_fx_exit_unreachable`).  A group constraint key without a colon does not
pass the validation of the options.

What is left is the division by the value of one unit: it raises for a unit of zero, and
for a quotient that does not fit into the 28 digits of the decimal context.
`runSimulation_returns_iff` says exactly which heuristic runs reach it with one of them.
-/

namespace LotusManage.Engine

variable {backend : SolverBackend} {input : RunInput}

/-! ## The data-quality log through the target stage -/

variable {options : EngineOptions} {eligibleTargets : Dict String Decimal} {model : ModelPortfolio}
  {buyList : List String} {shelf : List ShelfEntry} {baseCcy : String}
  {diagnostics : DiagnosticsData} {stage : TargetStage}

variable (run : ExecutedRun backend input)

theorem dataQuality_recordGroupConstraintEvent (diagnostics : DiagnosticsData)
    (constraintKey : String) (groupWeightBefore maxWeight releasedWeight : Decimal)
    (recipients : Dict String Decimal) :
    (recordGroupConstraintEvent diagnostics constraintKey groupWeightBefore maxWeight
      releasedWeight recipients).1.dataQuality = diagnostics.dataQuality := by
  unfold recordGroupConstraintEvent
  dsimp only
  split <;> rfl

theorem dataQuality_applyGroupConstraint (buyList : List String)
    (shelfAttrs : Dict String (Dict String String)) (constraintKey : String) (maxWeight : Decimal)
    (eligibleTargets : Dict String Decimal) (diagnostics : DiagnosticsData) :
    (applyGroupConstraint buyList shelfAttrs constraintKey maxWeight eligibleTargets
      diagnostics).diagnostics.dataQuality = diagnostics.dataQuality := by
  unfold applyGroupConstraint
  split
  · rfl
  · dsimp only
    split
    · rfl
    · split
      · rfl
      · exact dataQuality_recordGroupConstraintEvent _ _ _ _ _ _

theorem dataQuality_applyGroupConstraintsLoop (buyList : List String)
    (shelfAttrs : Dict String (Dict String String))
    (groupConstraints : Dict String GroupConstraint) :
    ∀ (constraintKeys : List String) (eligibleTargets : Dict String Decimal)
      (diagnostics : DiagnosticsData),
      (applyGroupConstraintsLoop buyList shelfAttrs groupConstraints constraintKeys
        eligibleTargets diagnostics).diagnostics.dataQuality = diagnostics.dataQuality
  | [], _, _ => rfl
  | constraintKey :: constraintKeys, eligibleTargets, diagnostics => by
    rw [applyGroupConstraintsLoop]
    split
    · exact dataQuality_applyGroupConstraintsLoop buyList shelfAttrs groupConstraints
        constraintKeys _ _
    · have hstep := dataQuality_applyGroupConstraint buyList shelfAttrs constraintKey
      dsimp only
      split
      · exact hstep _ _ _
      · exact (dataQuality_applyGroupConstraintsLoop buyList shelfAttrs groupConstraints
          constraintKeys _ _).trans (hstep _ _ _)

theorem dataQuality_generateTargetsHeuristic (model : ModelPortfolio)
    (eligibleTargets : Dict String Decimal) (buyList : List String) (sellOnlyExcess : Decimal)
    (shelf : List ShelfEntry) (options : EngineOptions) (totalVal : Decimal) (baseCcy : String)
    (diagnostics : DiagnosticsData) :
    (generateTargetsHeuristic model eligibleTargets buyList sellOnlyExcess shelf options totalVal
      baseCcy diagnostics).diagnostics.dataQuality = diagnostics.dataQuality := by
  have hgroup := dataQuality_applyGroupConstraintsLoop buyList (shelfAttrsById shelf)
    options.groupConstraints (sortedTexts options.groupConstraints.keys)
  unfold generateTargetsHeuristic
  dsimp only
  split
  · exact hgroup _ _
  · exact hgroup _ _

theorem dataQuality_appendSolverGroupConstraint {shelfAttrs : Dict String (Dict String String)}
    {tradeableIds : List String} {acc acc' : List SolverGroupBound × DiagnosticsData}
    {constraintKey : String}
    (h : appendSolverGroupConstraint options eligibleTargets shelfAttrs tradeableIds acc
      constraintKey = .ok acc') : acc'.2.dataQuality = acc.2.dataQuality := by
  unfold appendSolverGroupConstraint at h
  split at h
  · cases h
  · split at h
    · cases h
      rfl
    · dsimp only at h
      split at h
      · cases h
        rfl
      · split at h
        · cases h
          rfl
        · cases h
          rfl

theorem dataQuality_recordSolverFailure (latestStatus : Option String) (hints : List String)
    (diagnostics : DiagnosticsData) :
    (recordSolverFailure latestStatus hints diagnostics).dataQuality = diagnostics.dataQuality := by
  unfold recordSolverFailure
  dsimp only
  split <;> rfl

theorem dataQuality_generateTargetsSolver {sellOnlyExcess : Decimal} {totalVal : Decimal}
    (h : generateTargetsSolver backend model eligibleTargets buyList sellOnlyExcess shelf options
      totalVal baseCcy diagnostics = .ok stage) :
    stage.diagnostics.dataQuality = diagnostics.dataQuality := by
  unfold generateTargetsSolver buildSolverProblem at h
  dsimp only [bind, Except.bind, pure, Except.pure] at h
  split at h
  · cases h
    rfl
  · split at h
    · cases h
      rfl
    · split at h
      · cases h
      · rename_i built hbuilt
        split at hbuilt
        · cases hbuilt
        · rename_i bounds hbounds
          cases hbuilt
          have hquality := Checks.foldlM_keeps
            (fun acc => acc.2.dataQuality = diagnostics.dataQuality)
            (fun _ _ _ hacc hstep => (dataQuality_appendSolverGroupConstraint hstep).trans hacc)
            rfl hbounds
          split at h
          · cases h
            exact (dataQuality_recordSolverFailure _ _ _).trans hquality
          · split at h
            · cases h
              exact hquality
            · cases h
              exact hquality

theorem dataQuality_generateTargets {sellOnlyExcess : Decimal} {totalVal : Decimal}
    (h : generateTargets backend model eligibleTargets buyList sellOnlyExcess shelf options
      totalVal baseCcy diagnostics = .ok stage) :
    stage.diagnostics.dataQuality = diagnostics.dataQuality := by
  unfold generateTargets at h
  split at h
  · exact dataQuality_generateTargetsSolver h
  · cases h
    exact dataQuality_generateTargetsHeuristic _ _ _ _ _ _ _ _ _

theorem dataQuality_compareTargetMethods {comparison : Option TargetMethodComparison}
    (h : input.compareTargetMethodsIfRequested backend stage = .ok (comparison, diagnostics)) :
    diagnostics.dataQuality = stage.diagnostics.dataQuality := by
  unfold RunInput.compareTargetMethodsIfRequested at h
  split at h
  · cases h
    rfl
  · split at h
    · cases h
    · cases h
      unfold recordTargetMethodComparisonWarnings
      dsimp only
      split <;> split <;> rfl

theorem ExecutedRun.dataQuality_compared :
    run.comparedDiagnostics.dataQuality = input.initialDiagnostics.dataQuality :=
  (dataQuality_compareTargetMethods run.comparisonEq).trans
    (dataQuality_generateTargets run.stageEq)

/-! ## Rates of the cash rows -/

theorem fxMissing_recordCashGap {marketData : MarketDataSnapshot} {log : DataQualityLog}
    {cash : CashBalance} (h : (recordCashGap marketData baseCcy log cash).fxMissing = []) :
    log.fxMissing = [] ∧ ∃ rate, getFxRate marketData cash.currency baseCcy = some rate := by
  unfold recordCashGap at h
  split at h
  · rename_i hbase
    exact ⟨h, 1, by rw [hbase, getFxRate_self]⟩
  · split at h
    · simp at h
    · rename_i hrate
      rw [Option.isNone_iff_eq_none, ← ne_eq, Option.ne_none_iff_exists'] at hrate
      exact ⟨h, hrate⟩

theorem fxMissing_foldl_recordCashGap {marketData : MarketDataSnapshot} {baseCcy : String} :
    ∀ {rows : List CashBalance} {log : DataQualityLog},
      (rows.foldl (recordCashGap marketData baseCcy) log).fxMissing = [] →
      log.fxMissing = [] ∧
        ∀ cash ∈ rows, ∃ rate, getFxRate marketData cash.currency baseCcy = some rate
  | [], log, h => ⟨h, fun _ hmem => absurd hmem List.not_mem_nil⟩
  | cash :: rows, log, h => by
    obtain ⟨hfirst, hrows⟩ := @fxMissing_foldl_recordCashGap _ _ rows _ h
    obtain ⟨hlog, hrate⟩ := fxMissing_recordCashGap hfirst
    refine ⟨hlog, ?_⟩
    intro other hmem
    rcases List.mem_cons.mp hmem with rfl | hrest
    · exact hrate
    · exact hrows other hrest

theorem ExecutedRun.cash_rates (run : ExecutedRun backend input)
    (hblock : input.options.blockOnMissingFx = true) :
    ∀ cash ∈ input.portfolio.cashBalances,
      ∃ rate, getFxRate input.marketData cash.currency input.portfolio.baseCurrency =
        some rate := by
  have hfirst := run.firstCheck
  rw [run.dataQuality_compared] at hfirst
  have hmissing : input.initialDiagnostics.dataQuality.fxMissing = [] := by
    by_contra hne
    rw [checkBlockingDq, decide_eq_false_iff_not] at hfirst
    exact hfirst (Or.inr (Or.inr (Or.inl ⟨hne, hblock⟩)))
  exact (fxMissing_foldl_recordCashGap hmissing).2

theorem ExecutedRun.trade_rates :
    ∀ intent ∈ run.intents, ∀ notional, intent.notional = some notional →
      ∃ rate, getFxRate input.marketData notional.currency input.portfolio.baseCurrency =
        some rate := by
  intro intent hmem notional hnotional
  obtain ⟨_, price, rate, quantity, _, hsized⟩ := (generateIntents_sized run.sizingEq).1 intent hmem
  rw [hsized.notionalEq] at hnotional
  cases hnotional
  exact ⟨rate, hsized.rateEq⟩

/-! ## The FX exit -/

theorem ExecutedRun.fx_never_blocked : run.fx.blocked = false := by
  cases hblock : input.options.blockOnMissingFx with
  | false =>
    refine appendProjectedCashFxIntents_not_blocked _ _ (fun balance _ intentId => ?_) rfl
    unfold projectedCashFxResolution
    split
    · rfl
    · split
      · exact hblock
      · rfl
  | true =>
    refine fxState_not_blocked (run.cash_rates hblock) ?_ _ _
    intro intent hmem
    have hsub : run.keptTrades.Subperm run.intents := applyTurnoverLimit_subperm _ _ _ _ _
    exact run.trade_rates intent (hsub.subset hmem)

theorem ExecutedRun.exists_state : ∃ after, run.execution.state = some after := by
  rcases generateFxAndSimulate_cases run.fx_never_blocked input.shelf input.totalValue with
    ⟨_, breach, diagnostics, hexec⟩ | ⟨diagnostics, hexec, _⟩
  · exact ⟨_, congrArg ExecutionSimulation.state hexec⟩
  · exact ⟨_, (congrArg ExecutionSimulation.state hexec).trans (state_simulateIntents ..)⟩

theorem ExecutedRun.returns :
    ∃ after, run.execution.state = some after ∧
      runSimulation backend input = .ok (run.result after) := by
  obtain ⟨after, hafter⟩ := run.exists_state
  refine ⟨after, hafter, ?_⟩
  rw [runSimulation_executed run, hafter]

/-- When missing rates block, a run past both checks knows the rate of every currency
it meets, and its result receives a simulated state. -/
theorem missing_fx_exit_unreachable (run : ExecutedRun backend input)
    (hblock : input.options.blockOnMissingFx = true) :
    (∀ cash ∈ input.portfolio.cashBalances, ∃ rate,
        getFxRate input.marketData cash.currency input.portfolio.baseCurrency = some rate) ∧
      (∀ intent ∈ run.intents, ∀ notional, intent.notional = some notional → ∃ rate,
        getFxRate input.marketData notional.currency input.portfolio.baseCurrency = some rate) ∧
      run.fx.blocked = false ∧
      ∃ after, run.execution.state = some after ∧
        runSimulation backend input = .ok (run.result after) :=
  ⟨run.cash_rates hblock, run.trade_rates, run.fx_never_blocked, run.returns⟩

/-- Cash in two currencies, and a model that buys an instrument of the second one. -/
def twoCurrencyInput : RunInput :=
  { portfolio :=
      { portfolioId := "pf", baseCurrency := "USD"
        cashBalances := [⟨"USD", 800, none⟩, ⟨"EUR", 100, none⟩] }
    marketData := { prices := [⟨"AAA", 10, "EUR"⟩], fxRates := [⟨"EUR/USD", 2⟩] }
    model := ⟨[⟨"AAA", 1 / 2⟩]⟩
    shelf := [{ instrumentId := "AAA", status := .approved }]
    options := { groupConstraints := ⟨[("sector:TECH", { maxWeight := 1 / 2 })], by decide⟩ } }

theorem missing_fx_exit_unreachable_twoCurrency :
    ∃ run : ExecutedRun .notInstalled twoCurrencyInput,
      run.intents.map (·.notional) = [some ⟨250, "EUR"⟩] ∧ run.fx.blocked = false ∧
        ∃ after, run.execution.state = some after := by
  obtain ⟨result, hresult, htest⟩ := exists_result_of_evaluates .notInstalled twoCurrencyInput
    (fun result => decide (result.intents ≠ [] ∧
      (securityTrades result.intents).map (·.notional) = [some ⟨250, "EUR"⟩]))
    (by decide +kernel)
  obtain ⟨hintents, htrades⟩ := of_decide_eq_true htest
  obtain ⟨run⟩ := pastBlockingChecks_of_intents hresult hintents
  obtain ⟨_, _, hblocked, after, hafter, hreturns⟩ := missing_fx_exit_unreachable run rfl
  refine ⟨run, ?_, hblocked, after, hafter⟩
  -- no turnover limit: the kept trades are the generated ones, and their order does not matter
  rw [hresult] at hreturns
  cases hreturns
  have hperm : ((securityTrades run.ordered).map SecurityTradeIntent.core).Perm
      (run.intents.map SecurityTradeIntent.core) := run.trades_perm
  have hnotionals := (hperm.map (·.notional)).symm
  rw [List.map_map, List.map_map] at hnotionals
  have hordered : (securityTrades run.ordered).map (·.notional) = [some ⟨250, "EUR"⟩] := by
    rw [← ExecutedRun.intents_execution hafter]
    exact htrades
  exact List.perm_singleton.mp (hnotionals.trans (List.Perm.of_eq hordered))

/-! ## Targets of a heuristic run -/

/-- Every group constraint key names an attribute and a value, as the validation of
the options demands. -/
def EngineOptions.KeysSplit (options : EngineOptions) : Prop :=
  ∀ key ∈ options.groupConstraints.keys, (splitConstraintKey key).isSome = true

theorem exists_generateTargetsSolver {options : EngineOptions} (hkeys : options.KeysSplit)
    (model : ModelPortfolio) (eligibleTargets : Dict String Decimal) (buyList : List String)
    (sellOnlyExcess : Decimal) (shelf : List ShelfEntry) (totalVal : Decimal) (baseCcy : String)
    (diagnostics : DiagnosticsData) :
    ∃ stage, generateTargetsSolver backend model eligibleTargets buyList sellOnlyExcess shelf
      options totalVal baseCcy diagnostics = .ok stage := by
  have hbounds : ∀ (eligibleTargets : Dict String Decimal)
      (shelfAttrs : Dict String (Dict String String)) (tradeableIds : List String) acc,
      ∃ acc', (sortedTexts options.groupConstraints.keys).foldlM
        (appendSolverGroupConstraint options eligibleTargets shelfAttrs tradeableIds) acc =
          .ok acc' := by
    intro eligibleTargets shelfAttrs tradeableIds acc
    refine Checks.exists_foldlM ?_ acc
    intro acc key hkey
    have hsome := hkeys key ((List.mem_insertionSort _).mp hkey)
    unfold appendSolverGroupConstraint
    split
    · rename_i hnone
      rw [hnone] at hsome
      cases hsome
    · split
      · exact ⟨_, rfl⟩
      · dsimp only
        split
        · exact ⟨_, rfl⟩
        · split <;> exact ⟨_, rfl⟩
  unfold generateTargetsSolver buildSolverProblem
  dsimp only [bind, Except.bind, pure, Except.pure]
  split
  · exact ⟨_, rfl⟩
  · split
    · exact ⟨_, rfl⟩
    · obtain ⟨acc', hacc⟩ := hbounds (redistributeSellOnlyExcess eligibleTargets buyList
        sellOnlyExcess).1 (shelfAttrsById shelf) (solverTradeableIds (redistributeSellOnlyExcess
          eligibleTargets buyList sellOnlyExcess).1 buyList) ([], diagnostics)
      rw [hacc]
      dsimp only
      split
      · exact ⟨_, rfl⟩
      · split <;> exact ⟨_, rfl⟩

theorem exists_compareTargetMethods (hmethod : input.options.targetMethod = .heuristic)
    (hkeys : input.options.KeysSplit) (stage : TargetStage) :
    ∃ compared, input.compareTargetMethodsIfRequested backend stage = .ok compared := by
  unfold RunInput.compareTargetMethodsIfRequested
  split
  · exact ⟨_, rfl⟩
  · unfold compareTargetGenerationMethods generateTargets
    rw [hmethod]
    obtain ⟨alternate, halternate⟩ := @exists_generateTargetsSolver backend
      { input.options with targetMethod := .solver } hkeys input.model
      input.universeOf.eligibleTargets input.universeOf.buyList input.universeOf.sellOnlyExcess
      input.shelf input.totalValue input.portfolio.baseCurrency makeDiagnosticsData
    simp only [TargetMethod.alternate, halternate, bind, Except.bind, pure, Except.pure]
    exact ⟨_, rfl⟩

/-- The heuristic target stage of a run. -/
def RunInput.heuristicStage (input : RunInput) : TargetStage :=
  generateTargetsHeuristic input.model input.universeOf.eligibleTargets input.universeOf.buyList
    input.universeOf.sellOnlyExcess input.shelf input.options input.totalValue
    input.portfolio.baseCurrency input.initialDiagnostics

theorem targetStage_heuristic (hmethod : input.options.targetMethod = .heuristic) :
    input.targetStage backend = .ok input.heuristicStage := by
  unfold RunInput.targetStage generateTargets
  rw [hmethod]
  rfl

/-- The comparison of the methods returns, and logs no gap in the data. -/
theorem exists_compared_heuristic (hmethod : input.options.targetMethod = .heuristic)
    (hkeys : input.options.KeysSplit) :
    ∃ comparison compared, input.compareTargetMethodsIfRequested backend input.heuristicStage =
      .ok (comparison, compared) ∧
        compared.dataQuality = input.initialDiagnostics.dataQuality := by
  obtain ⟨⟨comparison, compared⟩, hcompare⟩ :=
    @exists_compareTargetMethods backend input hmethod hkeys input.heuristicStage
  exact ⟨comparison, compared, hcompare, (dataQuality_compareTargetMethods hcompare).trans
    (dataQuality_generateTargetsHeuristic _ _ _ _ _ _ _ _ _)⟩

/-- The run is blocked before it sizes anything: the valuation and the universe logged
a blocking gap, or a group constraint could not be met. -/
def RunInput.BlockedBeforeSizing (input : RunInput) : Prop :=
  checkBlockingDq input.initialDiagnostics.dataQuality input.options = true ∨
    input.heuristicStage.status = .blocked

/-- An instrument that the run sizes: a target of the model, or a held instrument. -/
def RunInput.Sizes (input : RunInput) (instrumentId : String) : Prop :=
  instrumentId ∈ input.model.targets.map (·.instrumentId) ∨
    ∃ position ∈ input.portfolio.positions,
      position.instrumentId = instrumentId ∧ position.quantity ≠ 0

/-- An instrument with a price and a rate one unit of which is worth nothing: its price
is zero, or its stored market value is zero on a positive quantity. -/
def RunInput.WorthlessUnit (input : RunInput) (instrumentId : String) : Prop :=
  ∃ price rate, priceOf input.marketData instrumentId = some price ∧
    getFxRate input.marketData price.currency input.portfolio.baseCurrency = some rate ∧
    unitValueOf input.portfolio price instrumentId = 0

theorem mem_keys_addModelTargets {shelfById : Dict String ShelfEntry} {options : EngineOptions}
    {id : String} :
    ∀ (targets : List ModelTarget) (acc : Universe),
      id ∈ (targets.foldl (addModelTargetToUniverse shelfById options) acc).eligibleTargets.keys →
      id ∈ acc.eligibleTargets.keys ∨ id ∈ targets.map (·.instrumentId)
  | [], _, h => Or.inl h
  | target :: targets, acc, h => by
    rw [List.foldl_cons] at h
    rw [List.map_cons, List.mem_cons]
    rcases mem_keys_addModelTargets targets _ h with hkeys | hmem
    · unfold addModelTargetToUniverse at hkeys
      split at hkeys
      · exact Or.inl hkeys
      · split at hkeys
        · exact Or.inl hkeys
        · split at hkeys
          · rw [Dict.mem_keys_set] at hkeys
            tauto
          · rw [Dict.mem_keys_set] at hkeys
            tauto
    · exact Or.inr (Or.inr hmem)

theorem mem_keys_addPositions_iff {shelfById : Dict String ShelfEntry}
    {currentVal : SimulatedState} {id : String} :
    ∀ (positions : List Position) (acc : Universe),
      id ∈ (positions.foldl (addPortfolioPositionToUniverse shelfById currentVal)
        acc).eligibleTargets.keys →
      id ∈ acc.eligibleTargets.keys ∨
        ∃ position ∈ positions, position.instrumentId = id ∧ position.quantity ≠ 0
  | [], _, h => Or.inl h
  | position :: positions, acc, h => by
    rw [List.foldl_cons] at h
    rcases mem_keys_addPositions_iff positions _ h with hkeys | ⟨other, hmem, hother⟩
    · unfold addPortfolioPositionToUniverse at hkeys
      split at hkeys
      · exact Or.inl hkeys
      · rename_i hskip
        rw [not_or] at hskip
        have hnew : id = position.instrumentId → ∃ row ∈ position :: positions,
            row.instrumentId = id ∧ row.quantity ≠ 0 :=
          fun hid => ⟨position, List.mem_cons_self, hid.symm, hskip.1⟩
        split at hkeys
        · split at hkeys
          · rw [Dict.mem_keys_set] at hkeys
            exact hkeys.elim (fun hid => Or.inr (hnew hid)) Or.inl
          · exact Or.inl hkeys
        · rw [Dict.mem_keys_set] at hkeys
          exact hkeys.elim (fun hid => Or.inr (hnew hid)) Or.inl
    · exact Or.inr ⟨other, List.mem_cons_of_mem _ hmem, hother⟩

theorem sizes_iff (input : RunInput) (id : String) :
    id ∈ input.model.targets.map (·.instrumentId) ∨ id ∈ input.universeOf.eligibleTargets.keys ↔
      input.Sizes id := by
  constructor
  · rintro (hmodel | hkeys)
    · exact Or.inl hmodel
    · rcases mem_keys_addPositions_iff _ _ hkeys with hkeys | hheld
      · rcases mem_keys_addModelTargets _ _ hkeys with hempty | hmodel
        · exact absurd hempty List.not_mem_nil
        · exact Or.inl hmodel
      · exact Or.inr hheld
  · rintro (hmodel | ⟨position, hmem, rfl, hquantity⟩)
    · exact Or.inl hmodel
    · refine Or.inr (mem_keys_buildUniverse _ _ _ hmem hquantity ?_)
      rw [RunInput.before, currentPositionWeight_buildSimulatedState, Option.isSome_map,
        List.find?_isSome]
      exact ⟨position, hmem, by simp⟩

theorem mem_sized_targets (hstage : input.heuristicStage.status ≠ .blocked) (id : String) :
    (∃ weight, (id, weight) ∈ (targetWeightByInstrument input.heuristicStage.trace).items) ↔
      input.Sizes id := by
  obtain ⟨htrace, hkeys⟩ := trace_generateTargetsHeuristic input.model
    input.universeOf.eligibleTargets input.universeOf.buyList input.universeOf.sellOnlyExcess
    input.shelf input.options input.totalValue input.portfolio.baseCurrency
    input.initialDiagnostics hstage
  rw [show input.heuristicStage.trace = _ from htrace, ← sizes_iff, ← hkeys]
  simp only [mem_targetWeightByInstrument]
  constructor
  · rintro ⟨_, hmem, _⟩
    exact hmem
  · intro hmem
    exact ⟨_, hmem, rfl⟩

/-! ## Sizing -/

section Sizing

variable {portfolio : PortfolioSnapshot} {marketData : MarketDataSnapshot}
  (shelf : List ShelfEntry) (options : EngineOptions) (totalVal : Decimal)

theorem exists_generateIntentStep {target : String × Decimal}
    (hunit : ∀ price rate, priceOf marketData target.1 = some price →
      getFxRate marketData price.currency portfolio.baseCurrency = some rate →
      unitValueOf portfolio price target.1 ≠ 0) (state : IntentState) :
    ∃ state', generateIntentStep portfolio marketData shelf options totalVal state target =
      .ok state' := by
  have hcontext : ∃ context, targetIntentContext target.1 target.2 portfolio marketData shelf
      options totalVal state.sizing = .ok context := by
    unfold targetIntentContext
    split
    · exact ⟨_, rfl⟩
    · rename_i price rate hmarket
      obtain ⟨hprice, hrate⟩ := intentMarketContext_eq_ok hmarket
      have hne : (currentInstrumentValueAndUnitValue (positionOf portfolio target.1)
          price).2 ≠ 0 := hunit price rate hprice hrate
      unfold sizedCandidate targetTradeDelta
      dsimp only
      rw [if_neg hne]
      exact ⟨_, rfl⟩
  obtain ⟨⟨context, sizing⟩, hcontext⟩ := hcontext
  unfold generateIntentStep
  rw [hcontext]
  cases context with
  | none | some => exact ⟨_, rfl⟩

theorem exists_generateIntentsLoop :
    ∀ (targets : List (String × Decimal)) (state : IntentState),
      (∀ target ∈ targets, ∀ price rate, priceOf marketData target.1 = some price →
        getFxRate marketData price.currency portfolio.baseCurrency = some rate →
        unitValueOf portfolio price target.1 ≠ 0) →
      ∃ state', generateIntentsLoop portfolio marketData shelf options totalVal targets state =
        .ok state'
  | [], state, _ => ⟨state, rfl⟩
  | target :: targets, state, hunits => by
    obtain ⟨next, hnext⟩ := exists_generateIntentStep shelf options totalVal
      (hunits target List.mem_cons_self) state
    rw [generateIntentsLoop, hnext]
    exact exists_generateIntentsLoop targets next
      fun other hmem => hunits other (List.mem_cons_of_mem _ hmem)

end Sizing

theorem exists_sizing_iff (trace : List TargetInstrument) (diagnostics : DiagnosticsData) :
    (∃ sized, input.sizing trace diagnostics = .ok sized) ↔
      ∀ id, (∃ weight, (id, weight) ∈ (targetWeightByInstrument trace).items) →
        ¬ input.WorthlessUnit id := by
  constructor
  · rintro ⟨sized, hsized⟩ id ⟨weight, hmem⟩ ⟨price, rate, hprice, hrate, hzero⟩
    exact unitValueOf_ne_zero_of_generateIntents hsized (id, weight) hmem price rate hprice hrate
      hzero
  · intro hunits
    obtain ⟨state, hstate⟩ := exists_generateIntentsLoop input.shelf input.options
      input.totalValue (targetWeightByInstrument trace).items
      ⟨[], ⟨initialTaxBudget input.options, diagnostics⟩⟩
      (fun target hmem price rate hprice hrate hzero =>
        hunits target.1 ⟨target.2, hmem⟩ ⟨price, rate, hprice, hrate, hzero⟩)
    unfold RunInput.sizing generateIntents
    rw [hstate]
    exact ⟨_, rfl⟩

/-! ## The whole run -/

/-- The quotient of a target fits into the decimal context. -/
def RunInput.unitsFit (input : RunInput) (target : String × Decimal) : Bool :=
  match priceOf input.marketData target.1 with
  | none => true
  | some price =>
    match getFxRate input.marketData price.currency input.portfolio.baseCurrency with
    | none => true
    | some rate =>
      (decimalIntDiv |input.totalValue * target.2 / rate -
        currentValueOf input.portfolio price target.1|
          (unitValueOf input.portfolio price target.1)).natAbs < 10 ^ 28

/-- `run_simulation`, where sizing raises for a quotient of more than 28 digits.  Past the checks
before it, sizing visits every target. -/
def runSimulationDividing (backend : SolverBackend) (input : RunInput) :
    Except EngineError RebalanceResult :=
  match input.targetStage backend with
  | .error error => .error error
  | .ok stage =>
    match input.compareTargetMethodsIfRequested backend stage with
    | .error error => .error error
    | .ok (_, diagnostics) =>
      if checkBlockingDq diagnostics.dataQuality input.options ∨ stage.status = .blocked ∨
          (targetWeightByInstrument stage.trace).items.all input.unitsFit = true then
        runSimulation backend input
      else .error .divisionImpossible

/-- The gap between the target and the value of an instrument is more units than fit. -/
def RunInput.TooManyUnits (input : RunInput) (id : String) : Prop :=
  ∃ weight price rate,
    (id, weight) ∈ (targetWeightByInstrument input.heuristicStage.trace).items ∧
    priceOf input.marketData id = some price ∧
    getFxRate input.marketData price.currency input.portfolio.baseCurrency = some rate ∧
    10 ^ 28 ≤ (decimalIntDiv |input.totalValue * weight / rate -
      currentValueOf input.portfolio price id| (unitValueOf input.portfolio price id)).natAbs

theorem unitsFit_eq_true_iff {target : String × Decimal} :
    input.unitsFit target = true ↔ ∀ price rate,
      priceOf input.marketData target.1 = some price →
      getFxRate input.marketData price.currency input.portfolio.baseCurrency = some rate →
      (decimalIntDiv |input.totalValue * target.2 / rate -
        currentValueOf input.portfolio price target.1|
          (unitValueOf input.portfolio price target.1)).natAbs < 10 ^ 28 := by
  unfold RunInput.unitsFit
  cases hprice : priceOf input.marketData target.1 with
  | none => exact iff_of_true rfl fun price rate h => by cases h
  | some price =>
    dsimp only
    cases hrate : getFxRate input.marketData price.currency input.portfolio.baseCurrency with
    | none =>
      refine iff_of_true rfl fun price' rate h hrate' => ?_
      cases h
      rw [hrate] at hrate'
      cases hrate'
    | some rate =>
      rw [decide_eq_true_iff]
      constructor
      · intro hfits price' rate' h hrate'
        cases h
        rw [hrate] at hrate'
        cases hrate'
        exact hfits
      · exact fun h => h price rate rfl hrate

theorem all_unitsFit_iff :
    (targetWeightByInstrument input.heuristicStage.trace).items.all input.unitsFit = true ↔
      ∀ id, ¬ input.TooManyUnits id := by
  rw [List.all_eq_true]
  constructor
  · rintro hfits id ⟨weight, price, rate, hmem, hprice, hrate, hmany⟩
    exact absurd (unitsFit_eq_true_iff.mp (hfits _ hmem) price rate hprice hrate)
      (Nat.not_lt.mpr hmany)
  · intro hfew target hmem
    refine unitsFit_eq_true_iff.mpr fun price rate hprice hrate => Nat.lt_of_not_le fun hmany => ?_
    exact hfew target.1 ⟨target.2, price, rate, hmem, hprice, hrate, hmany⟩

/-- Without the limit of the quotients, a heuristic run with validated options returns exactly when it
is blocked before sizing or no sized instrument has a worthless unit. -/
theorem exists_runSimulation_iff (backend : SolverBackend) (input : RunInput)
    (hmethod : input.options.targetMethod = .heuristic) (hkeys : input.options.KeysSplit) :
    (∃ result, runSimulation backend input = .ok result) ↔
      (input.BlockedBeforeSizing ∨ ∀ id, input.Sizes id → ¬ input.WorthlessUnit id) := by
  have hstage := @targetStage_heuristic backend input hmethod
  obtain ⟨comparison, compared, hcompare, hquality⟩ :=
    @exists_compared_heuristic backend input hmethod hkeys
  by_cases hblocked : input.BlockedBeforeSizing
  · refine iff_of_true ⟨input.makeBlockedResult input.heuristicStage.trace compared, ?_⟩
      (Or.inl hblocked)
    unfold runSimulation
    simp only [hstage, hcompare]
    rw [if_pos (by rw [hquality]; exact hblocked)]
  · have hpast := not_or.mp hblocked
    have hsized : (∃ sized, input.sizing input.heuristicStage.trace compared = .ok sized) ↔
        ∀ id, input.Sizes id → ¬ input.WorthlessUnit id := by
      rw [exists_sizing_iff]
      simp only [mem_sized_targets hpast.2]
    rw [or_iff_right hblocked, ← hsized]
    constructor
    · rintro ⟨result, hresult⟩
      unfold runSimulation at hresult
      simp only [hstage, hcompare] at hresult
      rw [if_neg (by rw [hquality]; exact hblocked)] at hresult
      split at hresult
      · cases hresult
      · rename_i sized hsized
        exact ⟨_, hsized⟩
    · rintro ⟨⟨intents, taxImpact, diagnostics⟩, hsizing⟩
      cases hsecond : checkBlockingDq diagnostics.dataQuality input.options with
      | true =>
        refine ⟨input.makeBlockedResult input.heuristicStage.trace diagnostics, ?_⟩
        unfold runSimulation
        simp only [hstage, hcompare]
        rw [if_neg (by rw [hquality]; exact hblocked)]
        simp only [hsizing]
        rw [if_pos hsecond]
      | false =>
        let run : ExecutedRun backend input :=
          ⟨input.heuristicStage, comparison, compared, intents, taxImpact, diagnostics, hstage,
            hcompare, by rw [hquality]; simpa using hpast.1, hpast.2, hsizing, hsecond⟩
        obtain ⟨after, _, hreturns⟩ := run.returns
        exact ⟨_, hreturns⟩

/-- A heuristic run with validated options returns exactly when it is blocked before
sizing, or no sized instrument has a worthless unit or a gap of too many units. -/
theorem runSimulation_returns_iff (backend : SolverBackend) (input : RunInput)
    (hmethod : input.options.targetMethod = .heuristic) (hkeys : input.options.KeysSplit) :
    (∃ result, runSimulationDividing backend input = .ok result) ↔
      (input.BlockedBeforeSizing ∨
        (∀ id, input.Sizes id → ¬ input.WorthlessUnit id) ∧ ∀ id, ¬ input.TooManyUnits id) := by
  have hstage := @targetStage_heuristic backend input hmethod
  obtain ⟨comparison, compared, hcompare, hquality⟩ :=
    @exists_compared_heuristic backend input hmethod hkeys
  have hreturns := exists_runSimulation_iff backend input hmethod hkeys
  unfold runSimulationDividing
  simp only [hstage, hcompare]
  rw [hquality, ← all_unitsFit_iff]
  by_cases hblocked : input.BlockedBeforeSizing
  · rw [if_pos (or_assoc.mp (Or.inl hblocked))]
    exact iff_of_true (hreturns.mpr (Or.inl hblocked)) (Or.inl hblocked)
  · rw [or_iff_right hblocked]
    by_cases hfits : (targetWeightByInstrument input.heuristicStage.trace).items.all
        input.unitsFit = true
    · rw [if_pos (Or.inr (Or.inr hfits)), hreturns, or_iff_right hblocked]
      exact ⟨fun hunits => ⟨hunits, hfits⟩, And.left⟩
    · rw [if_neg fun h => (or_assoc.mpr h).elim hblocked hfits]
      refine iff_of_false ?_ fun h => hfits h.2
      rintro ⟨_, hresult⟩
      cases hresult

theorem twoCurrency_returns :
    ∃ result, runSimulationDividing .notInstalled twoCurrencyInput = .ok result := by
  have hfits : (targetWeightByInstrument twoCurrencyInput.heuristicStage.trace).items.all
      twoCurrencyInput.unitsFit = true := by
    decide +kernel
  refine (runSimulation_returns_iff .notInstalled twoCurrencyInput rfl (by
    unfold EngineOptions.KeysSplit
    decide +kernel)).mpr (Or.inr ⟨?_, all_unitsFit_iff.mp hfits⟩)
  rintro id (hmodel | ⟨position, hmem, _⟩) ⟨price, rate, hprice, _, hzero⟩
  · rw [List.mem_singleton.mp hmodel] at hprice hzero
    cases hprice
    exact absurd hzero (by decide +kernel)
  · exact absurd hmem List.not_mem_nil

/-- The model wants an instrument that is quoted at zero. -/
def zeroPriceInput : RunInput :=
  { twoCurrencyInput with
    marketData := { prices := [⟨"AAA", 0, "EUR"⟩], fxRates := [⟨"EUR/USD", 2⟩] } }

theorem raises_of_evaluates (backend : SolverBackend) (input : RunInput) (error : EngineError)
    (h : (match runSimulationDividing backend input with
      | .ok _ => none
      | .error raised => some raised) = some error) :
    runSimulationDividing backend input = .error error := by
  split at h
  · cases h
  · rename_i raised hrun
    rw [hrun]
    exact congrArg Except.error (Option.some.inj h)

/-- A price of zero passes every check before sizing, and sizing divides by it. -/
theorem zero_price_raises :
    zeroPriceInput.options.targetMethod = .heuristic ∧ zeroPriceInput.options.KeysSplit ∧
      runSimulationDividing .notInstalled zeroPriceInput = .error .divisionByZero := by
  refine ⟨rfl, ?_, raises_of_evaluates .notInstalled zeroPriceInput .divisionByZero ?_⟩
  · unfold EngineOptions.KeysSplit
    decide +kernel
  · decide +kernel

-- a price of 1E-30 passes too, and its quotient is too long
example : (match runSimulationDividing .notInstalled
    { zeroPriceInput with
      marketData := { prices := [⟨"AAA", 1 / 10 ^ 30, "EUR"⟩], fxRates := [⟨"EUR/USD", 2⟩] } } with
      | .ok _ => none
      | .error raised => some raised) = some EngineError.divisionImpossible := by
  decide +kernel

end LotusManage.Engine
