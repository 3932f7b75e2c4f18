import LotusManage.Engine.Conservation

/-!
# Value conservation when the snapshot is trusted

In the trusting mode a row that stores a market value is worth that value, and a
trade writes to the stored value and not only to the quantity.  The write has
three branches: a stored value in the currency of the trade moves by the
notional, a missing one is set to the notional by a purchase, and one in another
currency stays.

`StoredValueFollows` is the condition on the row, before the trade, under which
its value moves by the notional.  A sized sale never reaches the floor of zero,
so the floor does not appear in it.  `trusted_trades_exact_iff` says that a run
applies its trades exactly when each of them meets the condition.
-/

namespace LotusManage.Engine

variable {marketData : MarketDataSnapshot} {options : EngineOptions}

/-! ## One row -/

/-- The stored value of the row, if it has one, moves with the trade: it is in the
currency of the notional, or it is absent and the trade is a sale or the first
purchase. -/
def StoredValueFollows (row : Position) (intent : SecurityTradeIntent) : Prop :=
  match row.marketValue, intent.notional with
  | some stored, some notional => stored.currency = notional.currency
  | none, some _ => intent.side = .sell ∨ row.quantity = 0
  | _, none => True

instance (row : Position) (intent : SecurityTradeIntent) :
    Decidable (StoredValueFollows row intent) :=
  match hstored : row.marketValue, hnotional : intent.notional with
  | some stored, some notional =>
    decidable_of_iff (stored.currency = notional.currency)
      (by simp [StoredValueFollows, hstored, hnotional])
  | none, some _ =>
    decidable_of_iff (intent.side = .sell ∨ row.quantity = 0)
      (by simp [StoredValueFollows, hstored, hnotional])
  | _, none => isTrue (by simp [StoredValueFollows, hnotional])

section Row

variable {row : Position} (quantity : Decimal) (notional : Money)

theorem marketValue_tradePosition_matching {stored : Money}
    (hstored : row.marketValue = some stored) (hccy : stored.currency = notional.currency)
    {side : Side} (hfloor : side = .sell → notional.amount ≤ stored.amount) :
    (tradePosition side quantity notional row).marketValue =
      some ⟨stored.amount - tradeCash side notional.amount, stored.currency⟩ := by
  cases side with
  | buy =>
    simp only [tradePosition, increaseMatchingMarketValue, hstored, if_pos hccy, tradeCash,
      sub_neg_eq_add]
  | sell =>
    have hnonneg : 0 ≤ stored.amount - notional.amount := by linarith [hfloor rfl]
    simp only [tradePosition, decreaseMatchingMarketValue, hstored, if_pos hccy, tradeCash,
      max_eq_right hnonneg]

theorem marketValue_tradePosition_other {stored : Money} (hstored : row.marketValue = some stored)
    (hccy : stored.currency ≠ notional.currency) (side : Side) :
    (tradePosition side quantity notional row).marketValue = some stored := by
  cases side with
  | buy => simp only [tradePosition, increaseMatchingMarketValue, hstored, if_neg hccy]
  | sell => simp only [tradePosition, decreaseMatchingMarketValue, hstored, if_neg hccy]

theorem marketValue_tradePosition_none (hnone : row.marketValue = none) (side : Side) :
    (tradePosition side quantity notional row).marketValue =
      match side with
      | .buy => some notional
      | .sell => none := by
  cases side with
  | buy => simp only [tradePosition, increaseMatchingMarketValue, hnone]
  | sell => simp only [tradePosition, decreaseMatchingMarketValue, hnone]

end Row

/-! ## One sized trade -/

section Trade

variable {portfolio : PortfolioSnapshot} {totalVal weight : Decimal} {price : Price}
  {rate quantity : Decimal} {intent : SecurityTradeIntent}

theorem SizedTrade.marketUnit_eq
    (h : SizedTrade portfolio marketData totalVal weight price rate quantity intent) :
    marketUnit marketData portfolio.baseCurrency intent.instrumentId = price.price * rate := by
  rw [marketUnit, h.priceEq]
  dsimp only
  rw [rateToBase_of_eq_some h.rateEq]

theorem SizedTrade.sale_le_stored
    (h : SizedTrade portfolio marketData totalVal weight price rate quantity intent)
    (hsell : intent.side = .sell) {stored : Money}
    (hstored : (tradedRow portfolio intent.instrumentId).marketValue = some stored) :
    quantity * unitValueOf portfolio price intent.instrumentId ≤ stored.amount := by
  obtain ⟨row, hrow, hfits⟩ := h.saleFits hsell
  rw [tradedRow, hrow, Option.getD_some] at hstored
  have hquantity : 0 < row.quantity := lt_of_lt_of_le h.quantityPos hfits
  have hid : row.instrumentId = intent.instrumentId := by simpa using List.find?_some hrow
  have hpriced : PricedByStoredValue portfolio row stored := ⟨by rw [hid, hrow], hquantity, hstored⟩
  have hunit : unitValueOf portfolio price intent.instrumentId = stored.amount / row.quantity := by
    rw [← hid]
    exact unitValueOf_of_pricedByStoredValue hpriced price
  have hunitPos := h.unitPos
  rw [hunit] at hunitPos ⊢
  calc quantity * (stored.amount / row.quantity)
      ≤ row.quantity * (stored.amount / row.quantity) := by gcongr
    _ = stored.amount := mul_div_cancel₀ _ hquantity.ne'

/-- The value of a row moves by the notional of its trade exactly when its stored
value follows the trade. -/
theorem SizedTrade.value_change_iff
    (h : SizedTrade portfolio marketData totalVal weight price rate quantity intent)
    (hmarket : MarketPositive marketData) (hmode : options.valuationMode = .trustSnapshot) :
    positionValue marketData portfolio.baseCurrency options
          (tradePosition intent.side quantity
            ⟨quantity * unitValueOf portfolio price intent.instrumentId, price.currency⟩
            (tradedRow portfolio intent.instrumentId)) -
        positionValue marketData portfolio.baseCurrency options
          (tradedRow portfolio intent.instrumentId) =
      -tradeCash intent.side
        (quantity * unitValueOf portfolio price intent.instrumentId * rate) ↔
      StoredValueFollows (tradedRow portfolio intent.instrumentId) intent := by
  have hratePos : 0 < rate := hmarket.rate_pos h.rateEq
  have hpricePos : 0 < price.price := hmarket.price_pos h.priceEq
  have hrateBase := rateToBase_of_eq_some h.rateEq
  have hnotional : 0 < quantity * unitValueOf portfolio price intent.instrumentId * rate :=
    mul_pos (mul_pos h.quantityPos h.unitPos) hratePos
  have hid := tradedRow_instrumentId portfolio intent.instrumentId
  rw [StoredValueFollows, h.notionalEq]
  cases hstored : (tradedRow portfolio intent.instrumentId).marketValue with
  | some stored =>
    dsimp only
    rw [positionValue_stored hmode _ hstored]
    by_cases hccy : stored.currency = price.currency
    · have hmoved := marketValue_tradePosition_matching quantity
        ⟨quantity * unitValueOf portfolio price intent.instrumentId, price.currency⟩ hstored hccy
        (fun hsell => h.sale_le_stored hsell hstored)
      rw [iff_true_right hccy, positionValue_stored hmode _ hmoved]
      dsimp only
      rw [hccy, hrateBase]
      unfold tradeCash
      cases intent.side <;> ring
    · have hkept := marketValue_tradePosition_other quantity
        ⟨quantity * unitValueOf portfolio price intent.instrumentId, price.currency⟩ hstored hccy
        intent.side
      rw [iff_false_right hccy, positionValue_stored hmode _ hkept, sub_self]
      -- the value stays, and the notional is positive
      unfold tradeCash
      cases intent.side <;> intro hzero <;> dsimp only at hzero <;> linarith
  | none =>
    dsimp only
    have hunit := unitValueOf_of_marketValue_none hstored price
    have hset := marketValue_tradePosition_none quantity
      ⟨quantity * unitValueOf portfolio price intent.instrumentId, price.currency⟩ hstored
      intent.side
    rw [positionValue_of_marketValue_none _ hstored, hid, h.marketUnit_eq]
    cases hside : intent.side with
    | sell =>
      rw [hside] at hset
      rw [iff_true_right (Or.inl rfl), positionValue_of_marketValue_none _ hset,
        tradePosition_instrumentId, quantity_tradePosition, hid, h.marketUnit_eq, hunit]
      unfold tradeCash
      ring
    | buy =>
      rw [hside] at hset
      rw [positionValue_stored hmode _ hset]
      dsimp only [tradeCash]
      rw [hrateBase, neg_neg, hunit]
      constructor
      · intro hdiff
        have hzero : (tradedRow portfolio intent.instrumentId).quantity * (price.price * rate) =
            0 := by linarith
        rcases mul_eq_zero.mp hzero with hzero | hzero
        · exact Or.inr hzero
        · exact absurd hzero (mul_pos hpricePos hratePos).ne'
      · rintro (hsell | hzero)
        · cases hsell
        · rw [hzero]
          ring

end Trade

/-! ## A run of intents -/

/-- The trade moves the value of its instrument by its notional in base currency. -/
def TradeExact (marketData : MarketDataSnapshot) (options : EngineOptions)
    (portfolio : PortfolioSnapshot) (intent : SecurityTradeIntent) : Prop :=
  ∀ notional, intent.notional = some notional →
    instrumentValue marketData options (applySecurityTradeToPortfolio portfolio intent)
          intent.instrumentId -
        instrumentValue marketData options portfolio intent.instrumentId =
      -tradeCash intent.side
        (notional.amount * rateToBase marketData portfolio.baseCurrency notional.currency)

/-- Every trade is exact in the portfolio that it is applied to. -/
def TradesExact (marketData : MarketDataSnapshot) (options : EngineOptions) :
    PortfolioSnapshot → List OrderIntent → Prop
  | _, [] => True
  | portfolio, .securityTrade intent :: intents =>
    TradeExact marketData options portfolio intent ∧
      TradesExact marketData options (applySecurityTradeToPortfolio portfolio intent) intents
  | portfolio, .fxSpot intent :: intents =>
    TradesExact marketData options (applyFxSpotToPortfolio portfolio intent) intents

theorem tradedRow_applySecurityTrade_of_ne (portfolio : PortfolioSnapshot)
    {intent : SecurityTradeIntent} {other : String} (h : other ≠ intent.instrumentId) :
    tradedRow (applySecurityTradeToPortfolio portfolio intent) other =
      tradedRow portfolio other := by
  unfold applySecurityTradeToPortfolio
  split
  · rename_i notional quantity _ _
    have hrow := positionOf_modifyPosition_of_ne
      (tradePosition_instrumentId intent.side quantity notional) portfolio h
    unfold tradedRow
    rw [← hrow]
    rfl
  · rfl

theorem TradeExact.totalPortfolioValue_eq {portfolio : PortfolioSnapshot}
    {intent : SecurityTradeIntent} {quantity : Decimal} {notional : Money}
    (h : TradeExact marketData options portfolio intent)
    (hquantity : intent.quantity = some quantity) (hnotional : intent.notional = some notional) :
    totalPortfolioValue (applySecurityTradeToPortfolio portfolio intent) marketData options =
      totalPortfolioValue portfolio marketData options := by
  rw [totalPortfolioValue_trade hquantity hnotional, h notional hnotional]
  unfold tradeCash
  cases intent.side <;> ring

theorem totalPortfolioValue_of_tradesExact :
    ∀ (intents : List OrderIntent) (portfolio : PortfolioSnapshot),
      (∀ intent ∈ intents, IntentNeutral marketData portfolio.baseCurrency intent) →
      (∀ trade ∈ securityTrades intents, ∃ quantity notional,
        trade.quantity = some quantity ∧ trade.notional = some notional) →
      TradesExact marketData options portfolio intents →
      totalPortfolioValue (applyExecutionIntents portfolio intents) marketData options =
        totalPortfolioValue portfolio marketData options
  | [], _, _, _, _ => rfl
  | .securityTrade trade :: intents, portfolio, hneutral, hamounts, hexact => by
    obtain ⟨quantity, notional, hquantity, hnotional⟩ := hamounts trade List.mem_cons_self
    have hbase := applyExecutionIntent_baseCurrency portfolio (.securityTrade trade)
    have ih := totalPortfolioValue_of_tradesExact intents
      (applySecurityTradeToPortfolio portfolio trade) (by
        intro intent hmem
        rw [show (applySecurityTradeToPortfolio portfolio trade).baseCurrency = _ from hbase]
        exact hneutral intent (List.mem_cons_of_mem _ hmem))
      (fun other hmem => hamounts other (List.mem_cons_of_mem _ hmem)) hexact.2
    exact ih.trans (hexact.1.totalPortfolioValue_eq hquantity hnotional)
  | .fxSpot conversion :: intents, portfolio, hneutral, hamounts, hexact => by
    have ih := totalPortfolioValue_of_tradesExact intents
      (applyFxSpotToPortfolio portfolio conversion)
      (fun intent hmem => hneutral intent (List.mem_cons_of_mem _ hmem)) hamounts hexact
    exact ih.trans
      (totalPortfolioValue_fxSpot portfolio (hneutral (.fxSpot conversion) List.mem_cons_self))

theorem SizedTrade.tradeExact_iff {portfolio current : PortfolioSnapshot}
    {totalVal weight : Decimal} {price : Price} {rate quantity : Decimal}
    {trade : SecurityTradeIntent}
    (h : SizedTrade portfolio marketData totalVal weight price rate quantity trade.core)
    (hmarket : MarketPositive marketData) (hmode : options.valuationMode = .trustSnapshot)
    (hbase : current.baseCurrency = portfolio.baseCurrency)
    (hrow : tradedRow current trade.instrumentId = tradedRow portfolio trade.instrumentId) :
    TradeExact marketData options current trade ↔
      StoredValueFollows (tradedRow portfolio trade.instrumentId) trade := by
  have hquantity : trade.quantity = some quantity := h.quantityEq
  have hnotional : trade.notional = some ⟨quantity * unitValueOf portfolio price
    trade.instrumentId, price.currency⟩ := h.notionalEq
  have hchange := h.value_change_iff hmarket hmode
  unfold TradeExact
  rw [instrumentValue_applySecurityTrade hquantity hnotional, instrumentValue, hrow, hbase,
    hnotional]
  refine Iff.trans ?_ hchange
  constructor
  · intro hexact
    rw [← rateToBase_of_eq_some h.rateEq]
    exact hexact _ rfl
  · rintro hexact notional hsome
    cases hsome
    rw [rateToBase_of_eq_some h.rateEq]
    exact hexact

/-- Sized trades of distinct instruments are exact exactly when the stored value
of each row follows its trade: no trade changes the row of another. -/
theorem tradesExact_iff {portfolio : PortfolioSnapshot} {totalVal : Decimal}
    (hmarket : MarketPositive marketData) (hmode : options.valuationMode = .trustSnapshot) :
    ∀ (intents : List OrderIntent) (current : PortfolioSnapshot),
      current.baseCurrency = portfolio.baseCurrency →
      ((securityTrades intents).map (·.instrumentId)).Nodup →
      (∀ trade ∈ securityTrades intents,
        tradedRow current trade.instrumentId = tradedRow portfolio trade.instrumentId ∧
        ∃ weight price rate quantity,
          SizedTrade portfolio marketData totalVal weight price rate quantity trade.core) →
      (TradesExact marketData options current intents ↔
        ∀ trade ∈ securityTrades intents,
          StoredValueFollows (tradedRow portfolio trade.instrumentId) trade)
  | [], _, _, _, _ => by
    rw [TradesExact, true_iff]
    exact fun _ hmem => absurd hmem List.not_mem_nil
  | .fxSpot conversion :: intents, current, hbase, hnodup, htrades =>
    tradesExact_iff hmarket hmode intents (applyFxSpotToPortfolio current conversion) hbase hnodup
      htrades
  | .securityTrade trade :: intents, current, hbase, hnodup, htrades => by
    change ((trade :: securityTrades intents).map (·.instrumentId)).Nodup at hnodup
    rw [List.map_cons, List.nodup_cons] at hnodup
    obtain ⟨hrow, weight, price, rate, quantity, hsized⟩ := htrades trade List.mem_cons_self
    have hhead := hsized.tradeExact_iff hmarket hmode hbase hrow
    have ih := tradesExact_iff hmarket hmode intents (applySecurityTradeToPortfolio current trade)
      ((applyExecutionIntent_baseCurrency current (.securityTrade trade)).trans hbase) hnodup.2 (by
        intro other hmem
        obtain ⟨hother, hsizedOther⟩ := htrades other (List.mem_cons_of_mem _ hmem)
        have hne : other.instrumentId ≠ trade.instrumentId := by
          intro heq
          exact hnodup.1 (heq ▸ List.mem_map_of_mem hmem)
        exact ⟨(tradedRow_applySecurityTrade_of_ne current hne).trans hother, hsizedOther⟩)
    rw [TradesExact, hhead, ih, securityTrades_cons_trade, List.forall_mem_cons]

/-! ## Whole runs -/

/-- The intents of a result are applied exactly: every trade moves the value of its
instrument by its notional, and the total after them is the total before. -/
def AppliedExactly (input : RunInput) (result : RebalanceResult) : Prop :=
  TradesExact input.marketData input.options input.portfolio result.intents ∧
    totalPortfolioValue (applyExecutionIntents input.portfolio result.intents) input.marketData
      input.options = result.before.totalValue.amount

theorem ExecutedRun.appliedExactly_iff {backend : SolverBackend} {input : RunInput}
    (run : ExecutedRun backend input) (hmarket : MarketPositive input.marketData)
    (hmode : input.options.valuationMode = .trustSnapshot) :
    (TradesExact input.marketData input.options input.portfolio run.ordered ∧
      totalPortfolioValue (applyExecutionIntents input.portfolio run.ordered) input.marketData
        input.options = input.totalValue) ↔
      ∀ trade ∈ securityTrades run.ordered,
        StoredValueFollows (tradedRow input.portfolio trade.instrumentId) trade := by
  obtain ⟨hsized, hnodup⟩ := run.trades_sized
  have hexact := tradesExact_iff hmarket hmode run.ordered input.portfolio rfl hnodup (by
    intro trade hmem
    obtain ⟨weight, price, rate, quantity, _, h⟩ := hsized trade hmem
    exact ⟨rfl, weight, price, rate, quantity, h⟩)
  rw [hexact, and_iff_left_of_imp]
  intro hfollows
  refine totalPortfolioValue_of_tradesExact run.ordered input.portfolio run.ordered_neutral ?_
    (hexact.mpr hfollows)
  intro trade hmem
  obtain ⟨_, _, _, quantity, _, h⟩ := hsized trade hmem
  exact ⟨quantity, _, h.quantityEq, h.notionalEq⟩

/-- In the trusting mode, a run applies its intents exactly if and only if the
stored value of every traded row follows the trade. -/
theorem trusted_trades_exact_iff (backend : SolverBackend) (input : RunInput)
    (result : RebalanceResult) (hmarket : MarketPositive input.marketData)
    (hmode : input.options.valuationMode = .trustSnapshot)
    (h : runSimulation backend input = .ok result) :
    AppliedExactly input result ↔
      ∀ trade ∈ securityTrades result.intents,
        StoredValueFollows (tradedRow input.portfolio trade.instrumentId) trade := by
  rcases runSimulation_cases h with ⟨trace, diagnostics, rfl⟩ | ⟨run, after, hafter, rfl⟩
  · -- a blocked result has no intents
    refine iff_of_true ⟨trivial, rfl⟩ ?_
    exact fun trade hmem => absurd hmem List.not_mem_nil
  · have hintents : (run.result after).intents = run.ordered := run.intents_execution hafter
    unfold AppliedExactly
    rw [hintents]
    exact run.appliedExactly_iff hmarket hmode

/-- Two holdings, one of them without a stored value, and cash. -/
def mixedSnapshotInput (targets : List ModelTarget) : RunInput :=
  { portfolio :=
      { portfolioId := "pf_mixed"
        baseCurrency := "USD"
        positions := [⟨"AAA", 10, none, []⟩, ⟨"BBB", 1, some ⟨100, "USD"⟩, []⟩]
        cashBalances := [⟨"USD", 900, none⟩] }
    marketData := twoQuotedAtHundred
    model := ⟨targets⟩
    shelf := [{ instrumentId := "AAA", status := .approved },
      { instrumentId := "BBB", status := .approved }]
    options := { valuationMode := .trustSnapshot } }

/-- Sales from both rows are exact. -/
theorem trusted_sales_exact :
    ∃ result, runSimulation .notInstalled (mixedSnapshotInput [⟨"AAA", 1 / 4⟩]) = .ok result ∧
      (securityTrades result.intents).length = 2 ∧
      AppliedExactly (mixedSnapshotInput [⟨"AAA", 1 / 4⟩]) result := by
  obtain ⟨result, hresult, htest⟩ := exists_result_of_evaluates .notInstalled
    (mixedSnapshotInput [⟨"AAA", 1 / 4⟩])
    (fun result => decide ((securityTrades result.intents).length = 2 ∧
      ∀ trade ∈ securityTrades result.intents, StoredValueFollows
        (tradedRow (mixedSnapshotInput [⟨"AAA", 1 / 4⟩]).portfolio trade.instrumentId) trade))
    (by decide +kernel)
  obtain ⟨hlength, hfollows⟩ := of_decide_eq_true htest
  refine ⟨result, hresult, hlength, ?_⟩
  exact (trusted_trades_exact_iff _ _ result marketPositive_twoQuotedAtHundred rfl hresult).mpr
    hfollows

/-- A purchase of a held instrument without a stored value sets the stored value to
the notional of the purchase: the units that were held before lose their value. -/
theorem purchase_without_stored_value_not_exact :
    MarketPositive (mixedSnapshotInput [⟨"AAA", 9 / 10⟩, ⟨"BBB", 1 / 20⟩]).marketData ∧
    ∃ result, runSimulation .notInstalled
        (mixedSnapshotInput [⟨"AAA", 9 / 10⟩, ⟨"BBB", 1 / 20⟩]) = .ok result ∧
      result.before.totalValue = ⟨2000, "USD"⟩ ∧
      result.afterSimulated.totalValue = ⟨1000, "USD"⟩ ∧
      ¬ AppliedExactly (mixedSnapshotInput [⟨"AAA", 9 / 10⟩, ⟨"BBB", 1 / 20⟩]) result := by
  obtain ⟨result, hresult, htest⟩ := exists_result_of_evaluates .notInstalled
    (mixedSnapshotInput [⟨"AAA", 9 / 10⟩, ⟨"BBB", 1 / 20⟩])
    (fun result => decide (result.before.totalValue = ⟨2000, "USD"⟩ ∧
      result.afterSimulated.totalValue = ⟨1000, "USD"⟩ ∧
      totalPortfolioValue (applyExecutionIntents
        (mixedSnapshotInput [⟨"AAA", 9 / 10⟩, ⟨"BBB", 1 / 20⟩]).portfolio result.intents)
        twoQuotedAtHundred { valuationMode := .trustSnapshot } = 1000)) (by decide +kernel)
  obtain ⟨hbefore, hafter, htotal⟩ := of_decide_eq_true htest
  refine ⟨marketPositive_twoQuotedAtHundred, result, hresult, hbefore, hafter, ?_⟩
  rintro ⟨_, hsame⟩
  have hvalue := htotal.symm.trans hsame
  rw [hbefore] at hvalue
  exact absurd hvalue (by decide +kernel)

end LotusManage.Engine
