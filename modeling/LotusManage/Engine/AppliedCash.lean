import LotusManage.Engine.AppliedValue
import LotusManage.Lib.Totals

/-!
# The cash of a currency while intents are applied

Several rows of a portfolio may carry one currency.  An intent writes to the first
row of a currency, and what it does to the sum of all rows of the currency is
known without looking at the rows: `intentCash` of the intent is added
(`cashTotal_applyExecutionIntents`).
-/

namespace LotusManage.Engine

/-- The sum of the cash rows of a currency. -/
def cashTotal (rows : List CashBalance) (currency : String) : Decimal :=
  Dict.amountsAt currency (rows.map fun cash => (cash.currency, cash.amount))

theorem cashTotal_eq_sum (rows : List CashBalance) (currency : String) :
    cashTotal rows currency =
      (rows.map fun cash => if cash.currency = currency then cash.amount else 0).sum := by
  induction rows with
  | nil => rfl
  | cons cash rows ih =>
    rw [cashTotal, List.map_cons, Dict.amountsAt_cons, List.map_cons, List.sum_cons, ← ih]
    rfl

theorem cashTotal_addCash (ccy : String) (amount : Decimal) (portfolio : PortfolioSnapshot)
    (currency : String) :
    cashTotal (addCash ccy amount portfolio).cashBalances currency =
      cashTotal portfolio.cashBalances currency + if ccy = currency then amount else 0 := by
  rw [cashTotal_eq_sum, cashTotal_eq_sum]
  refine sum_map_addCash _ _ _ (by simp) fun row hccy => ?_
  rw [hccy]
  split
  · rfl
  · rw [add_zero]

/-- The cash that a trade moves in a currency when it is applied: a trade without a
quantity is not applied. -/
def appliedTradeCash (currency : String) (trade : SecurityTradeIntent) : Decimal :=
  match trade.notional, trade.quantity with
  | some notional, some _ =>
    if notional.currency = currency then tradeCash trade.side notional.amount else 0
  | _, _ => 0

/-- The cash that a conversion moves in a currency. -/
def conversionCash (currency : String) (conversion : FxSpotIntent) : Decimal :=
  (if conversion.buyCurrency = currency then conversion.buyAmount else 0) -
    if conversion.sellCurrency = currency then conversion.sellAmountEstimated else 0

/-- The cash that an intent moves in a currency when it is applied. -/
def intentCash (currency : String) : OrderIntent → Decimal
  | .securityTrade trade => appliedTradeCash currency trade
  | .fxSpot conversion => conversionCash currency conversion

@[simp] theorem intentCash_core (currency : String) (intent : OrderIntent) :
    intentCash currency intent.core = intentCash currency intent := by
  cases intent with
  | securityTrade | fxSpot => rfl

theorem cashTotal_applyExecutionIntent (portfolio : PortfolioSnapshot) (intent : OrderIntent)
    (currency : String) :
    cashTotal (applyExecutionIntent portfolio intent).cashBalances currency =
      cashTotal portfolio.cashBalances currency + intentCash currency intent := by
  cases intent with
  | securityTrade trade =>
    unfold applyExecutionIntent applySecurityTradeToPortfolio intentCash appliedTradeCash
    dsimp only
    cases trade.notional with
    | none => exact (add_zero _).symm
    | some notional =>
      cases trade.quantity with
      | none => exact (add_zero _).symm
      | some quantity => exact cashTotal_addCash _ _ _ _
  | fxSpot conversion =>
    unfold applyExecutionIntent applyFxSpotToPortfolio intentCash conversionCash
    dsimp only
    rw [cashTotal_addCash, cashTotal_addCash]
    by_cases hsell : conversion.sellCurrency = currency
    · rw [if_pos hsell, if_pos hsell]
      ring
    · rw [if_neg hsell, if_neg hsell]
      ring

theorem cashTotal_applyExecutionIntents (currency : String) :
    ∀ (intents : List OrderIntent) (portfolio : PortfolioSnapshot),
      cashTotal (applyExecutionIntents portfolio intents).cashBalances currency =
        cashTotal portfolio.cashBalances currency + (intents.map (intentCash currency)).sum
  | [], portfolio => by
    rw [List.map_nil, List.sum_nil, add_zero]
    rfl
  | intent :: intents, portfolio => by
    have ih := cashTotal_applyExecutionIntents currency intents
      (applyExecutionIntent portfolio intent)
    rw [cashTotal_applyExecutionIntent, add_assoc] at ih
    rw [List.map_cons, List.sum_cons]
    exact ih

theorem sum_intentCash_executionIntents (fx : FxState) (options : EngineOptions)
    (currency : String) :
    ((executionIntents fx options).map (intentCash currency)).sum =
      (fx.intents.map (intentCash currency)).sum := by
  have hperm := (executionIntents_core_perm fx options).map (intentCash currency)
  rw [List.map_map, List.map_map] at hperm
  have hcore : intentCash currency ∘ OrderIntent.core = intentCash currency :=
    funext fun intent => intentCash_core currency intent
  rw [hcore] at hperm
  exact hperm.sum_eq

end LotusManage.Engine
