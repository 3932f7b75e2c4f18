import LotusManage.Engine.Conservation

/-!
# Trades stay inside the universe

An instrument that may not be bought reaches the sizing stage with one of three
weights: none, zero, or the weight that its lock gave it.  The controls of the
heuristic method only lower such a weight, so its trade is a sale, and it is a
sale of a listed instrument unless a control lowered the weight of a lock.

The single-position cap and the group constraints do lower it: they look at
exposure, not at locks.  `trades_eligible` says that they are the only way in
which a locked instrument is traded.
-/

namespace LotusManage.Engine

/-! ## What sizing reads -/

/-- The holdings of a portfolio are not negative, and the sizing stage reads the
value that the valuation reads: the stored value of a row is its value at the
market price, or it is trusted and in the currency of the price. -/
structure HoldingsReadAsValued (portfolio : PortfolioSnapshot) (marketData : MarketDataSnapshot)
    (options : EngineOptions) : Prop where
  quantityNonneg : ∀ id row, positionOf portfolio id = some row → 0 ≤ row.quantity
  storedNonneg : ∀ id row stored, positionOf portfolio id = some row →
    row.marketValue = some stored → 0 ≤ stored.amount
  storedAgrees : ∀ id row stored price, positionOf portfolio id = some row →
    row.marketValue = some stored → priceOf marketData id = some price →
    match options.valuationMode with
    | .calculated => stored.amount = row.quantity * price.price
    | .trustSnapshot => stored.currency = price.currency

section Value

variable {portfolio : PortfolioSnapshot} {marketData : MarketDataSnapshot}
  {options : EngineOptions} {id : String} {row : Position} {price : Price}

theorem currentValueOf_of_none (hrow : positionOf portfolio id = none) (price : Price) :
    currentValueOf portfolio price id = 0 := by
  rw [currentValueOf, hrow, currentInstrumentValueAndUnitValue]

theorem currentValueOf_of_unstored (hrow : positionOf portfolio id = some row)
    (hstored : row.marketValue = none) (price : Price) :
    currentValueOf portfolio price id = row.quantity * price.price := by
  rw [currentValueOf, hrow, currentInstrumentValueAndUnitValue, hstored]

theorem currentValueOf_of_stored (hrow : positionOf portfolio id = some row) {stored : Money}
    (hstored : row.marketValue = some stored) (price : Price) :
    currentValueOf portfolio price id = stored.amount := by
  rw [currentValueOf, hrow, currentInstrumentValueAndUnitValue, hstored]
  dsimp only
  split <;> rfl

theorem HoldingsReadAsValued.positionValue_eq
    (h : HoldingsReadAsValued portfolio marketData options)
    (hrow : positionOf portfolio id = some row) (hprice : priceOf marketData id = some price)
    {rate : Decimal}
    (hrate : getFxRate marketData price.currency portfolio.baseCurrency = some rate) :
    positionValue marketData portfolio.baseCurrency options row =
      currentValueOf portfolio price id * rate := by
  have hid : row.instrumentId = id := by simpa using List.find?_some hrow
  have hunit : marketUnit marketData portfolio.baseCurrency row.instrumentId =
      price.price * rate := by
    rw [marketUnit, hid, hprice]
    dsimp only
    rw [rateToBase_of_eq_some hrate]
  cases hstored : row.marketValue with
  | none =>
    rw [positionValue_of_marketValue_none _ hstored, hunit,
      currentValueOf_of_unstored hrow hstored, mul_assoc]
  | some stored =>
    have hagrees := h.storedAgrees id row stored price hrow hstored hprice
    rw [currentValueOf_of_stored hrow hstored]
    cases hmode : options.valuationMode with
    | calculated =>
      rw [hmode] at hagrees
      rw [positionValue_calculated hmode, hunit, hagrees, mul_assoc]
    | trustSnapshot =>
      rw [hmode] at hagrees
      rw [positionValue_stored hmode _ hstored, hagrees, rateToBase_of_eq_some hrate]

theorem HoldingsReadAsValued.currentValueOf_nonneg
    (h : HoldingsReadAsValued portfolio marketData options)
    {totalVal weight rate quantity : Decimal}
    {trade : SecurityTradeIntent}
    (hsized : SizedTrade portfolio marketData totalVal weight price rate quantity trade) :
    0 ≤ currentValueOf portfolio price trade.instrumentId := by
  cases hrow : positionOf portfolio trade.instrumentId with
  | none => rw [currentValueOf_of_none hrow]
  | some row =>
    cases hstored : row.marketValue with
    | none =>
      have hunit := hsized.unitPos
      rw [unitValueOf_of_marketValue_none (by rw [tradedRow, hrow, Option.getD_some, hstored])]
        at hunit
      rw [currentValueOf_of_unstored hrow hstored]
      exact mul_nonneg (h.quantityNonneg _ row hrow) hunit.le
    | some stored =>
      rw [currentValueOf_of_stored hrow hstored]
      exact h.storedNonneg _ row stored hrow hstored

end Value

/-! ## The weight of an instrument outside the buy list -/

section Run

variable {backend : SolverBackend} {input : RunInput}

/-- A control of the target stage lowered the weight of the instrument: the
single-position cap lies below its current weight, or one of its groups was
capped. -/
def TrimmedByControl (backend : SolverBackend) (input : RunInput) (id : String) : Prop :=
  (∃ cap weight, input.options.singlePositionMaxWeight = some cap ∧
      currentPositionWeight input.before id = some weight ∧ cap < weight) ∨
    ∃ stage, input.targetStage backend = .ok stage ∧
      GroupCapped stage.diagnostics.groupConstraintEvents (shelfAttrsById input.shelf) id

variable {weight : Decimal}

variable (run : ExecutedRun backend input)

theorem ExecutedRun.weight_of_target {id : String}
    (hmem : (id, weight) ∈ (targetWeightByInstrument run.stage.trace).items) :
    weight = run.stage.eligibleTargets.getD id 0 := by
  obtain ⟨htrace, _⟩ := trace_generateTargets run.stageEq run.stageNotBlocked
  rw [htrace, mem_targetWeightByInstrument] at hmem
  exact hmem.2

/-- The weight with which an instrument outside the buy list is sized: zero for one
outside the universe, else the weight of the universe, scaled by its groups and
capped. -/
theorem ExecutedRun.weight_outside (hmethod : input.options.targetMethod = .heuristic) {id : String}
    (hmem : (id, weight) ∈ (targetWeightByInstrument run.stage.trace).items)
    (hbuy : id ∉ input.universeOf.buyList) :
    (id ∉ input.universeOf.eligibleTargets.keys ∧ weight = 0) ∨
      ∃ factor universeWeight, 0 ≤ factor ∧ factor ≤ 1 ∧
        (¬ GroupCapped run.stage.diagnostics.groupConstraintEvents (shelfAttrsById input.shelf) id →
          factor = 1) ∧
        input.universeOf.eligibleTargets.get? id = some universeWeight ∧
        weight = singlePositionCapped input.options (factor * universeWeight) := by
  have hweight := run.weight_of_target hmem
  have hstage := run.stageEq
  unfold RunInput.targetStage generateTargets at hstage
  rw [hmethod] at hstage
  have hstageEq := Except.ok.inj hstage
  have hnot := run.stageNotBlocked
  rw [← hstageEq] at hnot hweight ⊢
  obtain ⟨factor, h0, h1, hkept, hget⟩ := get?_generateTargetsHeuristic input.model
    input.universeOf.eligibleTargets input.universeOf.sellOnlyExcess input.shelf input.options
    input.totalValue input.portfolio.baseCurrency input.initialDiagnostics hbuy hnot
  cases huniverse : input.universeOf.eligibleTargets.get? id with
  | none =>
    refine Or.inl ⟨?_, ?_⟩
    · intro hkey
      obtain ⟨w, hw⟩ := (Dict.mem_keys_iff _ _).mp hkey
      rw [huniverse] at hw
      cases hw
    · rw [hweight, Dict.getD, hget, huniverse]
      rfl
  | some universeWeight =>
    refine Or.inr ⟨factor, universeWeight, h0, h1, hkept, rfl, ?_⟩
    rw [hweight, Dict.getD, hget, huniverse]
    rfl

/-! ## The side of its trade -/

theorem singlePositionCapped_le (options : EngineOptions) (weight : Decimal) :
    singlePositionCapped options weight ≤ weight := by
  unfold singlePositionCapped
  split
  · exact le_refl _
  · exact min_le_left _ _

theorem singlePositionCapped_of_le {options : EngineOptions}
    (h : ∀ cap, options.singlePositionMaxWeight = some cap → weight ≤ cap) :
    singlePositionCapped options weight = weight := by
  unfold singlePositionCapped
  split
  · rfl
  · rename_i cap hcap
    exact min_eq_left (h cap hcap)

/-- The portfolio is worth something, or it is worth less than nothing and the cap
is not negative. -/
def TotalUsable (input : RunInput) : Prop :=
  0 < input.totalValue ∨
    (input.totalValue < 0 ∧ ∀ cap, input.options.singlePositionMaxWeight = some cap → 0 ≤ cap)

theorem TotalUsable.target_le (h : TotalUsable input) {value factor : Decimal} (hvalue : 0 ≤ value)
    (h0 : 0 ≤ factor) (h1 : factor ≤ 1) :
    input.totalValue * singlePositionCapped input.options (factor * (value / input.totalValue)) ≤
      value := by
  rcases h with hpos | ⟨hneg, hcap⟩
  · have hle := singlePositionCapped_le input.options (factor * (value / input.totalValue))
    calc input.totalValue *
          singlePositionCapped input.options (factor * (value / input.totalValue))
        ≤ input.totalValue * (factor * (value / input.totalValue)) := by gcongr
      _ = factor * value := by field_simp
      _ ≤ value := mul_le_of_le_one_left hvalue h1
  · -- the weight is not positive, so the cap does not reach it
    have hweight : factor * (value / input.totalValue) ≤ 0 :=
      mul_nonpos_of_nonneg_of_nonpos h0 (div_nonpos_of_nonneg_of_nonpos hvalue hneg.le)
    rw [singlePositionCapped_of_le fun cap hsome => le_trans hweight (hcap cap hsome)]
    calc input.totalValue * (factor * (value / input.totalValue))
        = factor * value := by
          have hne : input.totalValue ≠ 0 := hneg.ne
          field_simp
      _ ≤ value := mul_le_of_le_one_left hvalue h1

theorem TotalUsable.ne_zero (h : TotalUsable input) : input.totalValue ≠ 0 := by
  rcases h with hpos | ⟨hneg, _⟩
  · exact hpos.ne'
  · exact hneg.ne

section Sized

variable {portfolio : PortfolioSnapshot} {marketData : MarketDataSnapshot}
  {totalVal weight : Decimal} {price : Price} {rate quantity : Decimal}
  {trade : SecurityTradeIntent}

theorem SizedTrade.sell_of_le
    (h : SizedTrade portfolio marketData totalVal weight price rate quantity trade)
    (hrate : 0 < rate)
    (hle : totalVal * weight ≤ currentValueOf portfolio price trade.instrumentId * rate) :
    trade.side = .sell := by
  rw [h.sideEq, if_neg]
  have hdiv : totalVal * weight / rate ≤ currentValueOf portfolio price trade.instrumentId :=
    (div_le_iff₀ hrate).mpr hle
  linarith

theorem SizedTrade.ne_current
    (h : SizedTrade portfolio marketData totalVal weight price rate quantity trade)
    (hrate : 0 < rate) :
    totalVal * weight ≠ currentValueOf portfolio price trade.instrumentId * rate := by
  intro heq
  have hle := h.quantityLe
  have hempty : decimalIntDiv 0 (unitValueOf portfolio price trade.instrumentId) = 0 := by
    rw [decimalIntDiv, zero_div]
    rfl
  rw [heq, mul_div_cancel_right₀ _ hrate.ne', sub_self, abs_zero, hempty] at hle
  exact absurd h.quantityPos (not_lt.mpr hle)

end Sized

/-- The trade of an instrument outside the buy list is a sale of a listed
instrument, or of a locked one that a control trimmed. -/
theorem ExecutedRun.sale_outside (hmethod : input.options.targetMethod = .heuristic)
    (hrates : RatesPositive input.marketData) (htotal : TotalUsable input)
    (hread : HoldingsReadAsValued input.portfolio input.marketData input.options)
    {trade : SecurityTradeIntent} {price : Price} {rate quantity : Decimal}
    (hsized : SizedTrade input.portfolio input.marketData input.totalValue weight price rate
      quantity trade)
    (hmem : (trade.instrumentId, weight) ∈ (targetWeightByInstrument run.stage.trace).items)
    (hbuy : trade.instrumentId ∉ input.universeOf.buyList) :
    trade.side = .sell ∧ (trade.instrumentId ∈ input.universeOf.sellList ∨
      (Locked input.shelf input.universeOf.excluded trade.instrumentId ∧
        TrimmedByControl backend input trade.instrumentId)) := by
  have hrate := hrates.rate_pos hsized.rateEq
  have hcurrent := hread.currentValueOf_nonneg hsized
  have hvalue : 0 ≤ currentValueOf input.portfolio price trade.instrumentId * rate :=
    mul_nonneg hcurrent hrate.le
  have hsound := buildUniverse_sound input.model input.portfolio input.shelf input.options
    input.before
  rcases run.weight_outside hmethod hmem hbuy with ⟨hkey, rfl⟩ | ⟨factor, universeWeight, h0, h1,
    hkept, hget, rfl⟩
  · -- outside the universe: a sale would need a holding, and holdings are inside
    have hsell := hsized.sell_of_le hrate (by rw [mul_zero]; exact hvalue)
    obtain ⟨row, hrow, hfits⟩ := hsized.saleFits hsell
    have hid : row.instrumentId = trade.instrumentId := by simpa using List.find?_some hrow
    refine absurd ?_ hkey
    rw [← hid]
    refine mem_keys_buildUniverse _ _ _ (List.mem_of_find?_eq_some hrow)
      (lt_of_lt_of_le hsized.quantityPos hfits).ne' ?_
    rw [hid, RunInput.before, currentPositionWeight_buildSimulatedState,
      show input.portfolio.positions.find? (fun position => position.instrumentId =
        trade.instrumentId) = some row from hrow]
    rfl
  · rcases hsound.outside _ _ hbuy hget with ⟨rfl, hsellList⟩ | ⟨hlocked, hweight⟩
    · refine ⟨hsized.sell_of_le hrate ?_, Or.inl hsellList⟩
      have hle := htotal.target_le (le_refl 0) h0 h1
      rw [zero_div] at hle
      exact le_trans hle hvalue
    · -- a lock: the weight of the universe is the weight of the row
      have hstate := hweight
      rw [RunInput.before, currentPositionWeight_buildSimulatedState, Option.map_eq_some_iff]
        at hstate
      obtain ⟨row, hrow, huniverse⟩ := hstate
      rw [hread.positionValue_eq hrow hsized.priceEq hsized.rateEq, safeTotalValue,
        if_neg (show totalPortfolioValue input.portfolio input.marketData input.options ≠ 0 from
          htotal.ne_zero)] at huniverse
      change currentValueOf input.portfolio price trade.instrumentId * rate / input.totalValue =
        universeWeight at huniverse
      refine ⟨hsized.sell_of_le hrate ?_, Or.inr ⟨hlocked, ?_⟩⟩
      · rw [← huniverse]
        exact htotal.target_le hvalue h0 h1
      · by_contra htrim
        rw [TrimmedByControl, not_or] at htrim
        obtain ⟨hcap, hgroup⟩ := htrim
        have hone : factor = 1 := hkept fun hcapped => hgroup ⟨run.stage, run.stageEq, hcapped⟩
        refine hsized.ne_current hrate ?_
        rw [hone, one_mul, singlePositionCapped_of_le, ← huniverse,
          mul_div_cancel₀ _ htotal.ne_zero]
        intro cap hsome
        by_contra hlt
        exact hcap ⟨cap, universeWeight, hsome, hweight, not_le.mp hlt⟩

end Run

/-! ## Whole runs -/

/-- What the universe of a result allows a trade to be. -/
def TradeEligible (backend : SolverBackend) (input : RunInput) (result : RebalanceResult)
    (trade : SecurityTradeIntent) : Prop :=
  (trade.side = .buy → trade.instrumentId ∈ result.universeData.eligibleForBuy) ∧
    (trade.side = .sell → trade.instrumentId ∈ result.universeData.eligibleForSell ∨
      (Locked input.shelf result.universeData.excluded trade.instrumentId ∧
        TrimmedByControl backend input trade.instrumentId)) ∧
    (Locked input.shelf result.universeData.excluded trade.instrumentId →
      trade.side = .sell ∧ TrimmedByControl backend input trade.instrumentId)

/-- With heuristic targets, every purchase is of an instrument that may be bought
and every sale is of one that may be sold; a locked instrument is only ever sold,
and only when the single-position cap or a group constraint trimmed it. -/
theorem trades_eligible (backend : SolverBackend) (input : RunInput) (result : RebalanceResult)
    (hmethod : input.options.targetMethod = .heuristic)
    (hrates : RatesPositive input.marketData) (htotal : TotalUsable input)
    (hread : HoldingsReadAsValued input.portfolio input.marketData input.options)
    (h : runSimulation backend input = .ok result) :
    ∀ trade ∈ securityTrades result.intents, TradeEligible backend input result trade := by
  intro trade hmem
  rcases runSimulation_cases h with ⟨trace, diagnostics, rfl⟩ | ⟨run, after, hafter, rfl⟩
  · exact absurd hmem List.not_mem_nil
  · have hintents : (run.result after).intents = run.ordered := run.intents_execution hafter
    rw [hintents] at hmem
    obtain ⟨weight, price, rate, quantity, htarget, hsized⟩ := run.trades_sized.1 trade hmem
    have hsound := buildUniverse_sound input.model input.portfolio input.shelf input.options
      input.before
    change (trade.side = .buy → trade.instrumentId ∈ input.universeOf.buyList) ∧
      (trade.side = .sell → trade.instrumentId ∈ input.universeOf.sellList ∨
        (Locked input.shelf input.universeOf.excluded trade.instrumentId ∧
          TrimmedByControl backend input trade.instrumentId)) ∧
      (Locked input.shelf input.universeOf.excluded trade.instrumentId →
        trade.side = .sell ∧ TrimmedByControl backend input trade.instrumentId)
    by_cases hbuy : trade.instrumentId ∈ input.universeOf.buyList
    · have hsellList := hsound.buySell _ hbuy
      refine ⟨fun _ => hbuy, fun _ => Or.inl hsellList, fun hlocked => ?_⟩
      exact absurd hsellList (hsound.lockedUnlisted _ hlocked).2
    · obtain ⟨hsell, hwhy⟩ := run.sale_outside hmethod hrates htotal hread hsized htarget hbuy
      have hside : trade.side = .sell := hsell
      refine ⟨fun hother => ?_, fun _ => hwhy, fun hlocked => ⟨hside, ?_⟩⟩
      · rw [hside] at hother
        cases hother
      · rcases hwhy with hlisted | ⟨_, htrimmed⟩
        · exact absurd hlisted (hsound.lockedUnlisted _ hlocked).2
        · exact htrimmed

/-- A suspended holding, a holding that the model reduces, and cash. -/
def suspendedHoldingInput (cap : Option Decimal) : RunInput :=
  { portfolio :=
      { portfolioId := "pf_suspended"
        baseCurrency := "USD"
        positions := [⟨"AAA", 10, none, []⟩, ⟨"BBB", 5, none, []⟩]
        cashBalances := [⟨"USD", 500, none⟩] }
    marketData := twoQuotedAtHundred
    model := ⟨[⟨"BBB", 1 / 10⟩]⟩
    shelf := [{ instrumentId := "AAA", status := .suspended },
      { instrumentId := "BBB", status := .approved }]
    options := { singlePositionMaxWeight := cap } }

theorem holdingsReadAsValued_of_unstored {portfolio : PortfolioSnapshot}
    (hquantity : ∀ row ∈ portfolio.positions, 0 ≤ row.quantity)
    (hunstored : ∀ row ∈ portfolio.positions, row.marketValue = none)
    (marketData : MarketDataSnapshot) (options : EngineOptions) :
    HoldingsReadAsValued portfolio marketData options := by
  have hnone : ∀ id row stored, positionOf portfolio id = some row →
      row.marketValue ≠ some stored := by
    intro id row stored hrow hstored
    rw [hunstored row (List.mem_of_find?_eq_some hrow)] at hstored
    cases hstored
  refine ⟨?_, ?_, ?_⟩
  · exact fun id row hrow => hquantity row (List.mem_of_find?_eq_some hrow)
  · exact fun id row stored hrow hstored => absurd hstored (hnone id row stored hrow)
  · exact fun id row stored price hrow hstored => absurd hstored (hnone id row stored hrow)

/-- Without a cap the suspended holding is left alone. -/
theorem trades_eligible_suspendedHolding :
    ∃ result, runSimulation .notInstalled (suspendedHoldingInput none) = .ok result ∧
      (securityTrades result.intents).map (·.instrumentId) = ["BBB"] ∧
      ∀ trade ∈ securityTrades result.intents,
        TradeEligible .notInstalled (suspendedHoldingInput none) result trade := by
  obtain ⟨result, hresult, htest⟩ := exists_result_of_evaluates .notInstalled
    (suspendedHoldingInput none)
    (fun result => decide ((securityTrades result.intents).map (·.instrumentId) = ["BBB"]))
    (by decide +kernel)
  refine ⟨result, hresult, of_decide_eq_true htest, ?_⟩
  refine trades_eligible _ _ result rfl marketPositive_twoQuotedAtHundred.2 (Or.inl ?_) ?_ hresult
  · decide +kernel
  · refine holdingsReadAsValued_of_unstored ?_ ?_ _ _
    · decide +kernel
    · decide +kernel

/-- A cap below the weight of the suspended holding sells it, although it is not
eligible for sale. -/
theorem suspendedHolding_sold :
    ∃ result, runSimulation .notInstalled (suspendedHoldingInput (some (3 / 10))) = .ok result ∧
      result.status = .ready ∧
      Locked (suspendedHoldingInput (some (3 / 10))).shelf result.universeData.excluded "AAA" ∧
      ∃ trade ∈ securityTrades result.intents, trade.instrumentId = "AAA" ∧ trade.side = .sell ∧
        trade.instrumentId ∉ result.universeData.eligibleForSell := by
  obtain ⟨result, hresult, htest⟩ := exists_result_of_evaluates .notInstalled
    (suspendedHoldingInput (some (3 / 10)))
    (fun result => decide (result.status = .ready ∧
      ⟨"AAA", "LOCKED_DUE_TO_SUSPENDED"⟩ ∈ result.universeData.excluded ∧
      ∃ trade ∈ securityTrades result.intents, trade.instrumentId = "AAA" ∧ trade.side = .sell ∧
        trade.instrumentId ∉ result.universeData.eligibleForSell)) (by decide +kernel)
  obtain ⟨hstatus, hexcluded, htrade⟩ := of_decide_eq_true htest
  exact ⟨result, hresult, hstatus, ⟨"LOCKED_DUE_TO_SUSPENDED", by decide +kernel, hexcluded⟩,
    htrade⟩

end LotusManage.Engine
