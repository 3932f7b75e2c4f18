import LotusManage.Engine.DecimalArithmetic
import LotusManage.Engine.RuleAgreement
import LotusManage.Engine.RunReturns

/-!
# No shorting

A sale is clamped to the first row of its instrument when it is sized.  What
comes after the sizing keeps this: the turnover limit only removes trades, no
instrument is traded twice, and a trade writes to the row of its instrument only.
So every sale still fits its row when its turn comes, whatever was applied before
it, and no quantity of the simulated state is negative.
-/

namespace LotusManage.Engine

/-! ## Applying trades that fit -/

/-- A trade that leaves no negative quantity behind: it moves a quantity that is not
negative, and a sale fits the first row of its instrument. -/
def FitsHolding (portfolio : PortfolioSnapshot) (trade : SecurityTradeIntent) : Prop :=
  ∀ quantity, trade.quantity = some quantity → 0 ≤ quantity ∧
    (trade.side = .sell →
      ∃ row, positionOf portfolio trade.instrumentId = some row ∧ quantity ≤ row.quantity)

/-- No row has a negative quantity. -/
def NoneShort (portfolio : PortfolioSnapshot) : Prop :=
  ∀ position ∈ portfolio.positions, 0 ≤ position.quantity

variable {portfolio : PortfolioSnapshot} {trade : SecurityTradeIntent} {options : EngineOptions}
  {diagnostics : DiagnosticsData} {rule : RuleResult}

theorem NoneShort.row_nonneg (h : NoneShort portfolio) (instrumentId : String) :
    0 ≤ (tradedRow portfolio instrumentId).quantity := by
  unfold tradedRow
  cases hrow : positionOf portfolio instrumentId with
  | none => exact le_refl _
  | some row => exact h row (List.mem_of_find?_eq_some hrow)

theorem NoneShort.traded_nonneg (h : NoneShort portfolio) (hfits : FitsHolding portfolio trade)
    {quantity : Decimal} (hquantity : trade.quantity = some quantity) (notional : Money) :
    0 ≤ (tradePosition trade.side quantity notional
      (tradedRow portfolio trade.instrumentId)).quantity := by
  obtain ⟨hnonneg, hsale⟩ := hfits quantity hquantity
  rw [quantity_tradePosition]
  cases hside : trade.side with
  | buy =>
    have hrow := h.row_nonneg trade.instrumentId
    rw [tradeCash, sub_neg_eq_add]
    exact add_nonneg hrow hnonneg
  | sell =>
    obtain ⟨row, hrow, hle⟩ := hsale hside
    have htraded : tradedRow portfolio trade.instrumentId = row := by
      rw [tradedRow, hrow, Option.getD_some]
    rw [tradeCash, htraded]
    exact sub_nonneg.mpr hle

theorem NoneShort.applySecurityTrade (h : NoneShort portfolio) (hfits : FitsHolding portfolio trade) :
    NoneShort (applySecurityTradeToPortfolio portfolio trade) := by
  unfold applySecurityTradeToPortfolio
  split
  · rename_i notional quantity hnotional hquantity
    intro position hmem
    have hnew : decide (({ instrumentId := trade.instrumentId, quantity := 0 } :
        Position).instrumentId = trade.instrumentId) = true := decide_eq_true rfl
    have hfound := Rows.find?_ensureRow
      (p := fun position : Position => decide (position.instrumentId = trade.instrumentId)) hnew
      portfolio.positions
    rcases Rows.mem_modifyFirst hfound hmem with hold | rfl
    · rcases Rows.mem_ensureRow hold with hrow | rfl
      · exact h position hrow
      · exact le_refl _
    · exact h.traded_nonneg hfits hquantity notional
  · exact h

theorem positionOf_applySecurityTrade_of_ne (portfolio : PortfolioSnapshot) {other : String}
    (h : other ≠ trade.instrumentId) :
    positionOf (applySecurityTradeToPortfolio portfolio trade) other =
      positionOf portfolio other := by
  unfold applySecurityTradeToPortfolio
  split
  · exact positionOf_modifyPosition_of_ne (tradePosition_instrumentId _ _ _) portfolio h
  · rfl

/-- Trades of distinct instruments that fit the portfolio are applied in any order
without a negative quantity. -/
theorem noneShort_applyExecutionIntents :
    ∀ (intents : List OrderIntent) {portfolio : PortfolioSnapshot}, NoneShort portfolio →
      (∀ trade ∈ securityTrades intents, FitsHolding portfolio trade) →
      ((securityTrades intents).map (·.instrumentId)).Nodup →
      NoneShort (applyExecutionIntents portfolio intents)
  | [], _, h, _, _ => h
  | .fxSpot conversion :: intents, portfolio, h, hfits, hnodup =>
    @noneShort_applyExecutionIntents intents (applyFxSpotToPortfolio portfolio conversion) h hfits
      hnodup
  | .securityTrade trade :: intents, portfolio, h, hfits, hnodup => by
    rw [securityTrades_cons_trade] at hfits hnodup
    rw [List.map_cons, List.nodup_cons] at hnodup
    refine noneShort_applyExecutionIntents intents
      (h.applySecurityTrade (hfits trade List.mem_cons_self)) ?_ hnodup.2
    -- the trades that are left are of other instruments, and still fit
    intro other hmem quantity hquantity
    have hne : other.instrumentId ≠ trade.instrumentId := fun hsame =>
      hnodup.1 (hsame ▸ List.mem_map_of_mem hmem)
    have hrow : positionOf (applyExecutionIntent portfolio (.securityTrade trade))
        other.instrumentId = positionOf portfolio other.instrumentId :=
      positionOf_applySecurityTrade_of_ne portfolio hne
    rw [hrow]
    exact hfits other (List.mem_cons_of_mem _ hmem) quantity hquantity

/-! ## The rule -/

theorem foldl_least_of_nonneg :
    ∀ {values : List Decimal}, (∀ value ∈ values, 0 ≤ value) → ∀ start : Decimal,
      values.foldl (fun least value => if value < 0 then min least value else least) start = start
  | [], _, _ => rfl
  | value :: values, h, start => by
    rw [List.foldl_cons, if_neg (not_lt.mpr (h value List.mem_cons_self))]
    exact foldl_least_of_nonneg (fun other hmem => h other (List.mem_cons_of_mem _ hmem)) start

theorem status_nonNegativeRuleResult (ruleId reasonCode hint : String) {values : List Decimal}
    (h : ∀ value ∈ values, 0 ≤ value) :
    (nonNegativeRuleResult ruleId reasonCode hint values).status = .pass := by
  rw [nonNegativeRuleResult, foldl_least_of_nonneg h, if_neg (lt_irrefl 0)]

theorem quantities_nonneg {portfolio : PortfolioSnapshot} (h : NoneShort portfolio)
    (marketData : MarketDataSnapshot) (shelf : List ShelfEntry) (options : EngineOptions) :
    ∀ position ∈ (buildSimulatedState portfolio marketData shelf options).positions,
      0 ≤ position.quantity := by
  intro position hmem
  have hquantity := List.mem_map_of_mem (f := (·.quantity)) hmem
  rw [quantities_buildSimulatedState] at hquantity
  obtain ⟨row, hrow, heq⟩ := List.mem_map.mp hquantity
  rw [← heq]
  exact h row hrow

theorem status_of_noShorting {state : SimulatedState}
    (h : ∀ position ∈ state.positions, 0 ≤ position.quantity)
    (hmem : rule ∈ evaluateRules state options diagnostics) (hid : rule.ruleId = "NO_SHORTING") :
    rule.status = .pass := by
  rw [eq_noShortingRuleResult hmem hid]
  refine status_nonNegativeRuleResult _ _ _ fun value hvalue => ?_
  obtain ⟨position, hposition, rfl⟩ := List.mem_map.mp hvalue
  exact h position hposition

/-! ## The run -/

/-- A result that does not short the portfolio. -/
structure NeverShorts (portfolio : PortfolioSnapshot) (result : RebalanceResult) : Prop where
  once : ((securityTrades result.intents).map (·.instrumentId)).Nodup
  sales : ∀ trade ∈ securityTrades result.intents, trade.side = .sell →
    ∃ row, positionOf portfolio trade.instrumentId = some row ∧
      ∃ quantity, trade.quantity = some quantity ∧ quantity ≤ row.quantity
  after : ∀ position ∈ result.afterSimulated.positions, 0 ≤ position.quantity
  rule : ∀ rule ∈ result.ruleResults, rule.ruleId = "NO_SHORTING" → rule.status = .pass

variable {backend : SolverBackend} {input : RunInput}

variable (run : ExecutedRun backend input)

theorem mem_rules_simulateIntents {marketData : MarketDataSnapshot} {shelf : List ShelfEntry}
    {intents : List OrderIntent} {totalValBefore : Decimal}
    (h : rule ∈ (simulateIntents portfolio marketData shelf intents options totalValBefore
      diagnostics).rules) :
    rule.ruleId = "RECONCILIATION" ∨
      rule ∈ evaluateRules
        (buildSimulatedState (applyExecutionIntents portfolio intents) marketData shelf options)
        options (valueWithLog (applyExecutionIntents portfolio intents) marketData shelf options
          diagnostics).2 := by
  unfold simulateIntents simulationResultWithReconciliation at h
  dsimp only at h
  split at h
  · split at h
    · rcases List.mem_append.mp h with hrule | hrecon
      · exact Or.inr hrule
      · rw [List.mem_singleton.mp hrecon]
        exact Or.inl rfl
    · exact Or.inr h
  · exact Or.inr h

theorem ExecutedRun.trades_fit :
    ∀ trade ∈ securityTrades run.ordered, ∃ quantity, trade.quantity = some quantity ∧
      0 < quantity ∧ (trade.side = .sell →
        ∃ row, positionOf input.portfolio trade.instrumentId = some row ∧
          quantity ≤ row.quantity) := by
  intro trade hmem
  obtain ⟨_, _, _, quantity, _, hsized⟩ := run.trades_sized.1 trade hmem
  exact ⟨quantity, hsized.quantityEq, hsized.quantityPos, hsized.saleFits⟩

theorem ExecutedRun.noneShort_applied (hquantities : NoneShort input.portfolio) :
    NoneShort (applyExecutionIntents input.portfolio run.ordered) := by
  refine noneShort_applyExecutionIntents run.ordered hquantities ?_ run.trades_sized.2
  intro trade hmem quantity hquantity
  obtain ⟨sized, hsized, hpos, hsale⟩ := run.trades_fit trade hmem
  rw [hquantity] at hsized
  cases hsized
  exact ⟨hpos.le, hsale⟩

theorem ExecutedRun.neverShorts (hquantities : NoneShort input.portfolio) {after : SimulatedState}
    (hafter : run.execution.state = some after) :
    NeverShorts input.portfolio (run.result after) := by
  have hintents : (run.result after).intents = run.ordered :=
    ExecutedRun.intents_execution hafter
  have hcases := generateFxAndSimulate_cases run.fx_never_blocked input.shelf input.totalValue
  refine ⟨?_, ?_, ?_, ?_⟩
  · rw [hintents]
    exact run.trades_sized.2
  · rw [hintents]
    intro trade hmem hside
    obtain ⟨quantity, hquantity, _, hsale⟩ := run.trades_fit trade hmem
    obtain ⟨row, hrow, hle⟩ := hsale hside
    exact ⟨row, hrow, quantity, hquantity, hle⟩
  · rcases hcases with ⟨_, breach, _, hexec⟩ | ⟨_, hexec, _⟩
    · -- the settlement exit values the portfolio as it was
      have hstate := hafter.symm.trans (congrArg ExecutionSimulation.state hexec)
      cases hstate
      exact quantities_nonneg hquantities _ _ _
    · have hstate := hafter.symm.trans ((congrArg ExecutionSimulation.state hexec).trans
        (state_simulateIntents ..))
      cases hstate
      exact quantities_nonneg (run.noneShort_applied hquantities) _ _ _
  · intro rule hmem hid
    change rule ∈ run.execution.rules at hmem
    rcases hcases with ⟨_, breach, _, hexec⟩ | ⟨_, hexec, _⟩
    · change run.execution = _ at hexec
      rw [hexec] at hmem
      rw [List.mem_singleton.mp hmem] at hid
      exact absurd hid (by simp)
    · change run.execution = _ at hexec
      rw [hexec] at hmem
      rcases mem_rules_simulateIntents hmem with hrecon | hengine
      · rw [hid] at hrecon
        exact absurd hrecon (by decide)
      · exact status_of_noShorting
          (quantities_nonneg (run.noneShort_applied hquantities) _ _ _) hengine hid

/-- In exact arithmetic no run shorts a portfolio without a negative quantity. -/
theorem runs_never_short (backend : SolverBackend) (input : RunInput)
    (hquantities : ∀ position ∈ input.portfolio.positions, 0 ≤ position.quantity)
    {result : RebalanceResult} (h : runSimulation backend input = .ok result) :
    NeverShorts input.portfolio result := by
  rcases runSimulation_cases h with ⟨trace, diagnostics, rfl⟩ | ⟨run, after, hafter, rfl⟩
  · have hbefore := @quantities_nonneg input.portfolio hquantities
      input.marketData input.shelf input.options
    exact
      { once := List.nodup_nil
        sales := fun _ hmem => absurd hmem List.not_mem_nil
        after := hbefore
        rule := fun _ hmem hid => status_of_noShorting hbefore hmem hid }
  · exact run.neverShorts hquantities hafter

/-- Two units in three lots, which make up the holding within its tolerance. -/
def thirdsPosition : Position :=
  { instrumentId := "AAA"
    quantity := 2
    lots := [⟨"L1", 3333333333333333333333333333 / 10 ^ 28, ⟨95, "USD"⟩, "2024-01-02",
        by decide +kernel⟩,
      ⟨"L2", 3333333333333333333333333333 / 10 ^ 28, ⟨90, "USD"⟩, "2024-01-03", by decide +kernel⟩,
      ⟨"L3", 13334 / 10000, ⟨80, "USD"⟩, "2024-01-04", by decide +kernel⟩] }

/-- Only the two units are held. -/
def thirdsPortfolio : PortfolioSnapshot :=
  { portfolioId := "pf", baseCurrency := "USD", positions := [thirdsPosition] }

/-- With the 28 digits of the decimal context, a tax-aware exit adds the lots of the holding up to a
little more than it: the sale leaves a negative quantity and fails the rule. -/
theorem exit_shorts_rounded :
    let lots := thirdsPosition.lots.map fun lot => (lot, lot.unitCost.amount)
    let sold := (taxBudgetLimitedQuantityFromLotsWith fit28 lots 2 100 1 {}).1
    let after := applySecurityTradeToPortfolio thirdsPortfolio
      { intentId := "oi_1", instrumentId := "AAA", side := .sell, quantity := some sold
        notional := some ⟨sold * 100, "USD"⟩, notionalBase := some ⟨sold * 100, "USD"⟩ }
    targetTradeDelta 0 200 100 = .ok ⟨.sell, 2⟩ ∧
      (clampedSellQuantity 2 (some thirdsPosition) makeDiagnosticsData).1 = 2 ∧
      taxLotQuantityCovered thirdsPosition 2 = true ∧
      hifoSortedLots thirdsPosition "USD" {} = .ok lots ∧
      sold = 2000000000000000000000000001 / 10 ^ 27 ∧
      after.positions.map (·.quantity) = [-1 / 10 ^ 27] ∧
      (noShortingRuleResult (buildSimulatedState after { prices := [⟨"AAA", 100, "USD"⟩] } []
        {})).status = .fail := by
  decide +kernel
/-- Ten units are held, and the model asks for a negative weight. -/
def negativeWeightInput : RunInput :=
  { portfolio :=
      { portfolioId := "pf", baseCurrency := "USD", positions := [⟨"AAA", 10, none, []⟩] }
    marketData := { prices := [⟨"AAA", 100, "USD"⟩] }
    model := ⟨[⟨"AAA", -1⟩]⟩
    shelf := [{ instrumentId := "AAA", status := .approved }]
    options := {} }

theorem runs_never_short_negativeWeight :
    ∃ result, runSimulation .notInstalled negativeWeightInput = .ok result ∧
      (securityTrades result.intents).map (·.quantity) = [some 10] ∧
      NeverShorts negativeWeightInput.portfolio result := by
  obtain ⟨result, hresult, htest⟩ := exists_result_of_evaluates .notInstalled negativeWeightInput
    (fun result => decide ((securityTrades result.intents).map (·.quantity) = [some 10]))
    (by decide +kernel)
  exact ⟨result, hresult, of_decide_eq_true htest,
    runs_never_short .notInstalled negativeWeightInput (by decide +kernel) hresult⟩

end LotusManage.Engine
