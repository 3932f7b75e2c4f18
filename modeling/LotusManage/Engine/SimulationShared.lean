import LotusManage.Engine.Models
import LotusManage.Lib.Rows
import Mathlib.Data.List.Sort

/-!
# Applying intents to a portfolio

`src/core/common/simulation_shared.py`.  A security trade moves the quantity of
the position row, its stored market value and the cash row of the notional's
currency; an FX spot moves two cash rows.  A row that does not exist is appended
first, with nothing in it.
-/

namespace LotusManage.Engine

/-! ## Rows -/

/-- `ensure_position`, followed by a write to the row it returns. -/
def modifyPosition (instrumentId : String) (f : Position → Position)
    (portfolio : PortfolioSnapshot) : PortfolioSnapshot :=
  let isRow := fun position : Position => decide (position.instrumentId = instrumentId)
  { portfolio with
    positions := Rows.modifyFirst isRow f
      (Rows.ensureRow isRow { instrumentId := instrumentId, quantity := 0 } portfolio.positions) }

/-- `ensure_cash_balance(portfolio, currency).amount += amount` -/
def addCash (currency : String) (amount : Decimal) (portfolio : PortfolioSnapshot) :
    PortfolioSnapshot :=
  let isRow := fun cash : CashBalance => decide (cash.currency = currency)
  { portfolio with
    cashBalances := Rows.modifyFirst isRow
      (fun cash => { cash with amount := cash.amount + amount })
      (Rows.ensureRow isRow { currency := currency, amount := 0 } portfolio.cashBalances) }

/-! ## Security trades -/

/-- `_increase_matching_market_value` -/
def increaseMatchingMarketValue (notional : Money) (position : Position) : Position :=
  match position.marketValue with
  | none => { position with marketValue := some notional }
  | some marketValue =>
    if marketValue.currency = notional.currency then
      { position with
        marketValue := some { marketValue with amount := marketValue.amount + notional.amount } }
    else position

/-- `_decrease_matching_market_value` -/
def decreaseMatchingMarketValue (notional : Money) (position : Position) : Position :=
  match position.marketValue with
  | none => position
  | some marketValue =>
    if marketValue.currency = notional.currency then
      { position with
        marketValue :=
          some { marketValue with amount := max 0 (marketValue.amount - notional.amount) } }
    else position

/-- The position part of `_apply_security_buy` and `_apply_security_sell`. -/
def tradePosition (side : Side) (quantity : Decimal) (notional : Money) (position : Position) :
    Position :=
  match side with
  | .buy =>
    increaseMatchingMarketValue notional
      { position with quantity := position.quantity + quantity }
  | .sell =>
    decreaseMatchingMarketValue notional
      { position with quantity := position.quantity - quantity }

/-- The cash that a trade moves. -/
def tradeCash (side : Side) (amount : Decimal) : Decimal :=
  match side with
  | .buy => -amount
  | .sell => amount

/-- `apply_security_trade_to_portfolio` -/
def applySecurityTradeToPortfolio (portfolio : PortfolioSnapshot) (intent : SecurityTradeIntent) :
    PortfolioSnapshot :=
  match intent.notional, intent.quantity with
  | some notional, some quantity =>
    addCash notional.currency (tradeCash intent.side notional.amount)
      (modifyPosition intent.instrumentId (tradePosition intent.side quantity notional) portfolio)
  | _, _ => portfolio

/-- `apply_fx_spot_to_portfolio` -/
def applyFxSpotToPortfolio (portfolio : PortfolioSnapshot) (intent : FxSpotIntent) :
    PortfolioSnapshot :=
  addCash intent.buyCurrency intent.buyAmount
    (addCash intent.sellCurrency (-intent.sellAmountEstimated) portfolio)

/-- One turn of the loop of `_apply_execution_intents`. -/
def applyExecutionIntent (portfolio : PortfolioSnapshot) : OrderIntent → PortfolioSnapshot
  | .securityTrade intent => applySecurityTradeToPortfolio portfolio intent
  | .fxSpot intent => applyFxSpotToPortfolio portfolio intent

/-- `_apply_execution_intents` -/
def applyExecutionIntents (portfolio : PortfolioSnapshot) (intents : List OrderIntent) :
    PortfolioSnapshot :=
  intents.foldl applyExecutionIntent portfolio

/-! ## Order and reconciliation -/

/-- The sort key of `sort_execution_intents`: sales, then FX, then purchases. -/
def executionSortKey : OrderIntent → Nat
  | .securityTrade intent =>
    match intent.side with
    | .sell => 0
    | .buy => 2
  | .fxSpot _ => 1

/-- `sort_execution_intents` -/
def sortExecutionIntents (intents : List OrderIntent) : List OrderIntent :=
  intents.insertionSort (fun a b => executionSortKey a ≤ executionSortKey b)

/-- The tolerance of `build_reconciliation`. -/
def reconciliationTolerance (expectedAfterTotal : Decimal) : Decimal :=
  1 / 2 + expectedAfterTotal * (5 / 10000)

/-- `build_reconciliation` without the absolute scale: the reconciliation, the
difference and the tolerance. -/
def buildReconciliation (beforeTotal afterTotal expectedAfterTotal : Decimal)
    (baseCurrency : String) : Reconciliation × Decimal × Decimal :=
  let reconDiff := |afterTotal - expectedAfterTotal|
  let tolerance := reconciliationTolerance expectedAfterTotal
  ({ beforeTotalValue := ⟨beforeTotal, baseCurrency⟩
     afterTotalValue := ⟨afterTotal, baseCurrency⟩
     delta := ⟨afterTotal - beforeTotal, baseCurrency⟩
     tolerance := ⟨tolerance, baseCurrency⟩
     status := if reconDiff ≤ tolerance then .ok else .mismatch }, reconDiff, tolerance)

end LotusManage.Engine
