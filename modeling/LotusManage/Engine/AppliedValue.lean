import LotusManage.Engine.ExecutionFacts
import Mathlib.Tactic.Ring

/-!
# The value of a portfolio while intents are applied

`totalPortfolioValue` is a sum over rows, and an intent writes to one position
row and one or two cash rows.  So an intent moves the total by the change of the
position row plus the value of the cash it moves (`totalPortfolioValue_trade`),
and a neutral conversion does not move it.

When the mode is `calculated`, a row is worth its quantity at the market price
and the change depends on the intent alone: `tradeGain`.  The total after a run
of intents is then the total before plus the sum of the gains, in any order.
-/

namespace LotusManage.Engine

variable {marketData : MarketDataSnapshot} {options : EngineOptions}

/-! ## Cash -/

variable {intent : SecurityTradeIntent} {quantity : Decimal} {notional : Money}

variable (side : Side) (ccy : String) (amount : Decimal) (portfolio : PortfolioSnapshot)
  (baseCcy instrumentId : String)

theorem cashValueInBase_eq (cash : CashBalance) :
    cashValueInBase marketData baseCcy cash =
      cash.amount * rateToBase marketData baseCcy cash.currency := by
  rw [cashValueInBase, rateToBase]
  split
  · rename_i hccy
    rw [hccy, getFxRate_self, Option.getD_some, mul_one]
  · cases getFxRate marketData cash.currency baseCcy with
    | none => simp
    | some rate => rfl

@[simp] theorem addCash_positions :
    (addCash ccy amount portfolio).positions = portfolio.positions := rfl

@[simp] theorem addCash_baseCurrency :
    (addCash ccy amount portfolio).baseCurrency = portfolio.baseCurrency := rfl

theorem sum_map_addCash {v : CashBalance → Decimal} {gain : Decimal}
    (hnew : v { currency := ccy, amount := 0 } = 0)
    (hgain : ∀ row, row.currency = ccy → v { row with amount := row.amount + amount } =
      v row + gain) :
    ((addCash ccy amount portfolio).cashBalances.map v).sum =
      (portfolio.cashBalances.map v).sum + gain := by
  -- the row that is written, after a possible append
  have hccy : ((portfolio.cashBalances.find? (fun cash => decide (cash.currency = ccy))).getD
      { currency := ccy, amount := 0 }).currency = ccy := by
    cases hrow : portfolio.cashBalances.find? (fun cash => decide (cash.currency = ccy)) with
    | none => rfl
    | some row => simpa using List.find?_some hrow
  unfold addCash
  dsimp only
  rw [Rows.sum_map_modifyFirst _ (Rows.find?_ensureRow (by simp) portfolio.cashBalances),
    Rows.sum_map_ensureRow _ hnew, hgain _ hccy, add_sub_cancel_left]

theorem totalCashValue_addCash :
    totalCashValue (addCash ccy amount portfolio).cashBalances marketData baseCcy =
      totalCashValue portfolio.cashBalances marketData baseCcy +
        amount * rateToBase marketData baseCcy ccy := by
  refine sum_map_addCash _ _ _ (by simp [cashValueInBase_eq]) fun row hccy => ?_
  rw [cashValueInBase_eq, cashValueInBase_eq, ← hccy]
  ring

theorem totalPortfolioValue_addCash :
    totalPortfolioValue (addCash ccy amount portfolio) marketData options =
      totalPortfolioValue portfolio marketData options +
        amount * rateToBase marketData portfolio.baseCurrency ccy := by
  unfold totalPortfolioValue
  rw [addCash_baseCurrency, addCash_positions, totalCashValue_addCash, add_assoc]

/-! ## One position row -/

/-- The row that a trade of an instrument writes to. -/
def tradedRow (portfolio : PortfolioSnapshot) (instrumentId : String) : Position :=
  (positionOf portfolio instrumentId).getD { instrumentId := instrumentId, quantity := 0 }

/-- The value of an instrument in the portfolio: that of its first row. -/
def instrumentValue (marketData : MarketDataSnapshot) (options : EngineOptions)
    (portfolio : PortfolioSnapshot) (instrumentId : String) : Decimal :=
  positionValue marketData portfolio.baseCurrency options (tradedRow portfolio instrumentId)

theorem tradedRow_instrumentId :
    (tradedRow portfolio instrumentId).instrumentId = instrumentId := by
  unfold tradedRow
  cases hrow : positionOf portfolio instrumentId with
  | none => rfl
  | some row =>
    rw [positionOf] at hrow
    simpa using List.find?_some hrow

theorem positionValue_new :
    positionValue marketData baseCcy options { instrumentId := instrumentId, quantity := 0 }
      = 0 := by
  simp only [positionValue, valuePosition, positionValueInInstrumentCcy, trustedMarketValue,
    positionValueInBaseCcy]
  cases options.valuationMode <;> dsimp only <;> split <;> simp

section ModifyPosition

variable {f : Position → Position}
    (hf : ∀ position, (f position).instrumentId = position.instrumentId)

include hf

variable (portfolio : PortfolioSnapshot) (instrumentId : String)

theorem positionOf_modifyPosition :
    positionOf (modifyPosition instrumentId f portfolio) instrumentId =
      some (f (tradedRow portfolio instrumentId)) := by
  unfold positionOf modifyPosition
  dsimp only
  rw [Rows.find?_modifyFirst, Rows.find?_ensureRow (by simp)]
  · rfl
  · intro row hrow
    simpa [hf] using hrow

theorem positionOf_modifyPosition_of_ne {instrumentId other : String} (h : other ≠ instrumentId) :
    positionOf (modifyPosition instrumentId f portfolio) other = positionOf portfolio other := by
  unfold positionOf modifyPosition
  dsimp only
  rw [Rows.find?_modifyFirst_of_disjoint, Rows.find?_ensureRow_of_disjoint]
  · simpa using Ne.symm h
  · intro row hrow
    simp only [decide_eq_true_eq] at hrow
    simpa [hrow] using Ne.symm h
  · intro row hrow
    simp only [decide_eq_true_eq] at hrow
    simpa [hf, hrow] using Ne.symm h

omit hf in
/-- A write to a position row moves the total by the change of that row. -/
theorem totalPortfolioValue_modifyPosition :
    totalPortfolioValue (modifyPosition instrumentId f portfolio) marketData options =
      totalPortfolioValue portfolio marketData options +
        (positionValue marketData portfolio.baseCurrency options
            (f (tradedRow portfolio instrumentId)) -
          positionValue marketData portfolio.baseCurrency options
            (tradedRow portfolio instrumentId)) := by
  unfold totalPortfolioValue modifyPosition
  dsimp only
  rw [Rows.sum_map_modifyFirst _ (Rows.find?_ensureRow (by simp) portfolio.positions),
    Rows.sum_map_ensureRow _ (positionValue_new portfolio.baseCurrency instrumentId)]
  change _ + (positionValue marketData portfolio.baseCurrency options
      (f (tradedRow portfolio instrumentId)) - positionValue marketData portfolio.baseCurrency
        options (tradedRow portfolio instrumentId)) + _ = _
  ring

end ModifyPosition

theorem tradePosition_instrumentId (quantity : Decimal) (notional : Money) (position : Position) :
    (tradePosition side quantity notional position).instrumentId = position.instrumentId := by
  cases side with
  | buy =>
    unfold tradePosition increaseMatchingMarketValue
    dsimp only
    split
    · rfl
    · split <;> rfl
  | sell =>
    unfold tradePosition decreaseMatchingMarketValue
    dsimp only
    split
    · rfl
    · split <;> rfl

/-! ## One intent -/

theorem applySecurityTradeToPortfolio_eq (hquantity : intent.quantity = some quantity)
    (hnotional : intent.notional = some notional) (portfolio : PortfolioSnapshot) :
    applySecurityTradeToPortfolio portfolio intent =
      addCash notional.currency (tradeCash intent.side notional.amount)
        (modifyPosition intent.instrumentId (tradePosition intent.side quantity notional)
          portfolio) := by
  rw [applySecurityTradeToPortfolio, hquantity, hnotional]

theorem instrumentValue_applySecurityTrade (hquantity : intent.quantity = some quantity)
    (hnotional : intent.notional = some notional) (portfolio : PortfolioSnapshot) :
    instrumentValue marketData options (applySecurityTradeToPortfolio portfolio intent)
        intent.instrumentId =
      positionValue marketData portfolio.baseCurrency options
        (tradePosition intent.side quantity notional
          (tradedRow portfolio intent.instrumentId)) := by
  have hrow := positionOf_modifyPosition
    (tradePosition_instrumentId intent.side quantity notional) portfolio intent.instrumentId
  rw [applySecurityTradeToPortfolio_eq hquantity hnotional, instrumentValue]
  unfold tradedRow
  change positionValue marketData portfolio.baseCurrency options
    ((positionOf (modifyPosition intent.instrumentId _ portfolio) intent.instrumentId).getD _) = _
  rw [hrow, Option.getD_some]
  rfl

theorem totalPortfolioValue_trade (hquantity : intent.quantity = some quantity)
    (hnotional : intent.notional = some notional) (portfolio : PortfolioSnapshot) :
    totalPortfolioValue (applySecurityTradeToPortfolio portfolio intent) marketData options =
      totalPortfolioValue portfolio marketData options +
        (instrumentValue marketData options (applySecurityTradeToPortfolio portfolio intent)
            intent.instrumentId -
          instrumentValue marketData options portfolio intent.instrumentId) +
        tradeCash intent.side notional.amount *
          rateToBase marketData portfolio.baseCurrency notional.currency := by
  rw [instrumentValue_applySecurityTrade hquantity hnotional,
    applySecurityTradeToPortfolio_eq hquantity hnotional, totalPortfolioValue_addCash,
    totalPortfolioValue_modifyPosition]
  rfl

theorem totalPortfolioValue_fxSpot {intent : FxSpotIntent}
    (h : FxNeutral marketData portfolio.baseCurrency intent) :
    totalPortfolioValue (applyFxSpotToPortfolio portfolio intent) marketData options =
      totalPortfolioValue portfolio marketData options := by
  rw [FxNeutral] at h
  rw [applyFxSpotToPortfolio, totalPortfolioValue_addCash, totalPortfolioValue_addCash,
    addCash_baseCurrency, h]
  ring

/-! ## The calculated mode -/

/-- The value of one unit at the market price, in base currency. -/
def marketUnit (marketData : MarketDataSnapshot) (baseCcy instrumentId : String) : Decimal :=
  match priceOf marketData instrumentId with
  | none => 0
  | some price => price.price * rateToBase marketData baseCcy price.currency

theorem positionValue_calculated (hmode : options.valuationMode = .calculated) (baseCcy : String)
    (position : Position) :
    positionValue marketData baseCcy options position =
      position.quantity * marketUnit marketData baseCcy position.instrumentId := by
  simp only [positionValue, valuePosition, positionValueInInstrumentCcy, trustedMarketValue, hmode,
    positionValueInBaseCcy, positionValuationCurrency, marketUnit, positionPrice, rateToBase]
  cases priceOf marketData position.instrumentId with
  | none =>
    dsimp only [positionPriceValue]
    split <;> simp
  | some price =>
    dsimp only [positionPriceValue]
    cases getFxRate marketData price.currency baseCcy with
    | none => simp
    | some rate => simp [mul_assoc]

/-! ## Stored values -/

theorem positionValue_stored (hmode : options.valuationMode = .trustSnapshot) (baseCcy : String)
    {position : Position} {stored : Money} (hstored : position.marketValue = some stored) :
    positionValue marketData baseCcy options position =
      stored.amount * rateToBase marketData baseCcy stored.currency := by
  simp only [positionValue, valuePosition, positionValueInInstrumentCcy, trustedMarketValue, hmode,
    hstored, positionValueInBaseCcy, positionValuationCurrency, rateToBase]
  cases getFxRate marketData stored.currency baseCcy with
  | none => simp
  | some rate => rfl

theorem positionValue_of_marketValue_none {position : Position}
    (hnone : position.marketValue = none) :
    positionValue marketData baseCcy options position =
      position.quantity * marketUnit marketData baseCcy position.instrumentId := by
  have hcalculated : positionValue marketData baseCcy { options with valuationMode := .calculated }
      position = position.quantity * marketUnit marketData baseCcy position.instrumentId :=
    positionValue_calculated rfl baseCcy position
  rw [← hcalculated]
  have htrusted : trustedMarketValue position options = none := by
    unfold trustedMarketValue
    split
    · exact hnone
    · rfl
  simp only [positionValue, valuePosition, positionValueInInstrumentCcy, positionValuationCurrency,
    htrusted]
  rfl

/-! ## Gains in the calculated mode -/

/-- What a trade gains at the market price. -/
def tradeGain (marketData : MarketDataSnapshot) (baseCcy : String) (intent : SecurityTradeIntent) :
    Decimal :=
  match intent.notional, intent.quantity with
  | some notional, some quantity =>
    -tradeCash intent.side (quantity * marketUnit marketData baseCcy intent.instrumentId -
      notional.amount * rateToBase marketData baseCcy notional.currency)
  | _, _ => 0

/-- What an intent gains at the market price. -/
def intentGain (marketData : MarketDataSnapshot) (baseCcy : String) : OrderIntent → Decimal
  | .securityTrade intent => tradeGain marketData baseCcy intent
  | .fxSpot _ => 0

theorem quantity_tradePosition (quantity : Decimal) (notional : Money) (position : Position) :
    (tradePosition side quantity notional position).quantity =
      position.quantity - tradeCash side quantity := by
  cases side with
  | buy =>
    unfold tradePosition increaseMatchingMarketValue tradeCash
    dsimp only
    split
    · ring
    · split <;> ring
  | sell =>
    unfold tradePosition decreaseMatchingMarketValue tradeCash
    dsimp only
    split
    · rfl
    · split <;> rfl

theorem totalPortfolioValue_trade_calculated (hmode : options.valuationMode = .calculated)
    (portfolio : PortfolioSnapshot) (intent : SecurityTradeIntent) :
    totalPortfolioValue (applySecurityTradeToPortfolio portfolio intent) marketData options =
      totalPortfolioValue portfolio marketData options +
        tradeGain marketData portfolio.baseCurrency intent := by
  cases hnotional : intent.notional with
  | none => simp [applySecurityTradeToPortfolio, tradeGain, hnotional]
  | some notional =>
    cases hquantity : intent.quantity with
    | none => simp [applySecurityTradeToPortfolio, tradeGain, hnotional, hquantity]
    | some quantity =>
      have hgain : tradeGain marketData portfolio.baseCurrency intent =
          -tradeCash intent.side
            (quantity * marketUnit marketData portfolio.baseCurrency intent.instrumentId -
              notional.amount *
                rateToBase marketData portfolio.baseCurrency notional.currency) := by
        simp only [tradeGain, hnotional, hquantity]
      rw [applySecurityTradeToPortfolio_eq hquantity hnotional, hgain, totalPortfolioValue_addCash,
        totalPortfolioValue_modifyPosition, positionValue_calculated hmode,
        positionValue_calculated hmode, tradePosition_instrumentId, quantity_tradePosition,
        tradedRow_instrumentId]
      change _ + _ + _ * rateToBase marketData portfolio.baseCurrency notional.currency = _
      unfold tradeCash
      cases intent.side <;> ring

/-- The intents that a run applies: trades and neutral conversions. -/
def IntentNeutral (marketData : MarketDataSnapshot) (baseCcy : String) : OrderIntent → Prop
  | .securityTrade _ => True
  | .fxSpot intent => FxNeutral marketData baseCcy intent

theorem applyExecutionIntent_baseCurrency (intent : OrderIntent) :
    (applyExecutionIntent portfolio intent).baseCurrency = portfolio.baseCurrency := by
  cases intent with
  | fxSpot intent => rfl
  | securityTrade intent =>
    unfold applyExecutionIntent applySecurityTradeToPortfolio
    dsimp only
    split <;> rfl

theorem applyExecutionIntents_baseCurrency :
    ∀ (intents : List OrderIntent) (portfolio : PortfolioSnapshot),
      (applyExecutionIntents portfolio intents).baseCurrency = portfolio.baseCurrency
  | [], _ => rfl
  | intent :: intents, portfolio =>
    (applyExecutionIntents_baseCurrency intents _).trans
      (applyExecutionIntent_baseCurrency portfolio intent)

/-- In the calculated mode the total after a run of intents is the total before
plus the gains. -/
theorem totalPortfolioValue_applyExecutionIntents (hmode : options.valuationMode = .calculated) :
    ∀ (intents : List OrderIntent) (portfolio : PortfolioSnapshot),
      (∀ intent ∈ intents, IntentNeutral marketData portfolio.baseCurrency intent) →
      totalPortfolioValue (applyExecutionIntents portfolio intents) marketData options =
        totalPortfolioValue portfolio marketData options +
          (intents.map (intentGain marketData portfolio.baseCurrency)).sum
  | [], portfolio, _ => by
    rw [List.map_nil, List.sum_nil, add_zero]
    rfl
  | intent :: intents, portfolio, h => by
    have hbase := applyExecutionIntent_baseCurrency portfolio intent
    have ih := totalPortfolioValue_applyExecutionIntents hmode intents
      (applyExecutionIntent portfolio intent) (by
        intro other hmem
        rw [hbase]
        exact h other (List.mem_cons_of_mem _ hmem))
    have hone : totalPortfolioValue (applyExecutionIntent portfolio intent) marketData options =
        totalPortfolioValue portfolio marketData options +
          intentGain marketData portfolio.baseCurrency intent := by
      cases intent with
      | securityTrade trade => exact totalPortfolioValue_trade_calculated hmode portfolio trade
      | fxSpot conversion =>
        rw [intentGain, add_zero]
        exact totalPortfolioValue_fxSpot portfolio (h (.fxSpot conversion) List.mem_cons_self)
    rw [hbase, hone] at ih
    rw [List.map_cons, List.sum_cons, ← add_assoc]
    exact ih

end LotusManage.Engine
