import LotusManage.Engine.AppliedCash
import LotusManage.Engine.RunFacts

/-!
# Sweeping and funding the cash of a currency

The cash that the trades leave in a currency is swept into the base currency, or
funded from it with a buffer.  Three views of that cash meet here.

* The rows: their sum, moved by the trades that are applied (`balanceAfterTrades`).
* The projection from which the conversions are sized (`projectedBalance`): the
  last row of the currency, moved by every trade that carries a notional.
* The rows after the simulation, to which the conversions are applied.

`sweeps_cash_iff` says exactly when the third view is what the first one asks for:
the second view must be the first, or lead to a conversion of the same size.
-/

namespace LotusManage.Engine

/-! ## One conversion -/

/-- What the conversion of a projected balance moves in its currency. -/
def sweepAmount (fxBufferPct balance : Decimal) : Decimal :=
  if balance < 0 then |balance| * (1 + fxBufferPct) else -balance

/-- What is to be left in a currency: nothing of a surplus, the buffer of a deficit. -/
def leftAfterSweep (fxBufferPct balance : Decimal) : Decimal :=
  if balance < 0 then |balance| * fxBufferPct else 0

variable {baseCurrency : String} {marketData : MarketDataSnapshot} {options : EngineOptions}

variable (fxBufferPct : Decimal) (portfolio : PortfolioSnapshot) (trades : List SecurityTradeIntent)
  (rows : List CashBalance) (currency : String)

@[simp] theorem sweepAmount_zero : sweepAmount fxBufferPct 0 = 0 := by
  rw [sweepAmount, if_neg (lt_irrefl _), neg_zero]

theorem add_sweepAmount (balance : Decimal) :
    balance + sweepAmount fxBufferPct balance = leftAfterSweep fxBufferPct balance := by
  unfold sweepAmount leftAfterSweep
  by_cases h : balance < 0
  · rw [if_pos h, if_pos h, abs_of_neg h]
    ring
  · rw [if_neg h, if_neg h, add_neg_cancel]

theorem conversionCash_fxIntentForProjectedCashBalance {x : String} (hx : x ≠ baseCurrency)
    (currency : String) (balance rateToBase : Decimal) (intentId : String) (fxBufferPct : Decimal) :
    ((fxIntentForProjectedCashBalance currency balance baseCurrency rateToBase intentId
        fxBufferPct).map (conversionCash x)).getD 0 =
      if currency = x then sweepAmount fxBufferPct balance else 0 := by
  have hbase : ¬ baseCurrency = x := fun h => hx h.symm
  unfold fxIntentForProjectedCashBalance sweepAmount
  by_cases hneg : balance < 0
  · rw [if_pos hneg, if_pos hneg, Option.map_some, Option.getD_some, conversionCash]
    dsimp only
    rw [if_neg hbase, sub_zero]
  · rw [if_neg hneg, if_neg hneg]
    by_cases hpos : balance > 0
    · rw [if_pos hpos, Option.map_some, Option.getD_some, conversionCash]
      dsimp only
      rw [if_neg hbase, zero_sub]
      by_cases hcurrency : currency = x
      · rw [if_pos hcurrency, if_pos hcurrency]
      · rw [if_neg hcurrency, if_neg hcurrency, neg_zero]
    · have hzero : balance = 0 := le_antisymm (not_lt.mp hpos) (not_lt.mp hneg)
      rw [if_neg hpos, hzero, neg_zero, ite_self]
      rfl

/-! ## The loop over the projected cash -/

theorem blocked_appendProjectedCashFxIntents_of_blocked (baseCurrency : String)
    (marketData : MarketDataSnapshot) (options : EngineOptions) (currency : String)
    (balance : Decimal) (balances : List (String × Decimal)) (state : FxState)
    (h : (appendProjectedCashFxIntents baseCurrency marketData options
      ((currency, balance) :: balances) state).blocked = false) :
    (applyFxResolution (projectedCashFxResolution currency balance baseCurrency marketData
      ("oi_fx_" ++ toString (state.intents.length + 1)) options) state).blocked = false := by
  rw [appendProjectedCashFxIntents] at h
  split at h
  · rename_i hblocked
    rw [hblocked] at h
    cases h
  · rename_i hopen
    exact Bool.eq_false_iff.mpr hopen

theorem sum_intentCash_applyFxResolution {x : String} (hx : x ≠ baseCurrency)
    (hrate : (getFxRate marketData x baseCurrency).isSome) (currency : String) (balance : Decimal)
    (intentId : String) (state : FxState)
    (h : (applyFxResolution (projectedCashFxResolution currency balance baseCurrency marketData
      intentId options) state).blocked = false) :
    ((applyFxResolution (projectedCashFxResolution currency balance baseCurrency marketData
        intentId options) state).intents.map (intentCash x)).sum =
      (state.intents.map (intentCash x)).sum +
        if currency = x then sweepAmount options.fxBufferPct balance else 0 := by
  have happend : ∀ resolution : ProjectedCashFxResolution,
      (applyFxResolution resolution state).blocked = false →
      ((applyFxResolution resolution state).intents.map (intentCash x)).sum =
        (state.intents.map (intentCash x)).sum +
          (resolution.intent.map (conversionCash x)).getD 0 := by
    intro resolution hopen
    unfold applyFxResolution at hopen ⊢
    dsimp only at hopen ⊢
    split at hopen
    · cases hopen
    · rename_i hresolution
      rw [if_neg hresolution]
      cases resolution.intent with
      | none => exact (add_zero _).symm
      | some intent =>
        dsimp only
        rw [List.map_append, List.sum_append, List.map_singleton, List.sum_singleton]
        rfl
  rw [happend _ h]
  congr 1
  unfold projectedCashFxResolution
  by_cases hbase : currency = baseCurrency
  · rw [if_pos hbase, if_neg (fun h => hx (h.symm.trans hbase))]
    rfl
  · rw [if_neg hbase]
    cases hfound : getFxRate marketData currency baseCurrency with
    | none =>
      have hother : ¬ currency = x := by
        intro hsame
        rw [← hsame, hfound] at hrate
        cases hrate
      rw [if_neg hother]
      rfl
    | some rate =>
      exact conversionCash_fxIntentForProjectedCashBalance hx currency balance rate intentId
        options.fxBufferPct

theorem sum_intentCash_appendProjectedCashFxIntents {baseCurrency x : String}
    {marketData : MarketDataSnapshot} {options : EngineOptions} (hx : x ≠ baseCurrency)
    (hrate : (getFxRate marketData x baseCurrency).isSome) :
    ∀ (balances : List (String × Decimal)) (state : FxState),
      (appendProjectedCashFxIntents baseCurrency marketData options balances state).blocked =
        false →
      ((appendProjectedCashFxIntents baseCurrency marketData options balances
          state).intents.map (intentCash x)).sum =
        (state.intents.map (intentCash x)).sum +
          (balances.map fun e =>
            if e.1 = x then sweepAmount options.fxBufferPct e.2 else 0).sum
  | [], state, _ => by
    rw [List.map_nil, List.sum_nil, add_zero]
    rfl
  | (currency, balance) :: balances, state, h => by
    have hopen := blocked_appendProjectedCashFxIntents_of_blocked _ _ _ _ _ _ _ h
    have hturn := sum_intentCash_applyFxResolution hx hrate currency balance
      ("oi_fx_" ++ toString (state.intents.length + 1)) state hopen
    rw [appendProjectedCashFxIntents, if_neg (Bool.eq_false_iff.mp hopen)] at h ⊢
    rw [sum_intentCash_appendProjectedCashFxIntents hx hrate balances _ h, hturn, List.map_cons,
      List.sum_cons, add_assoc]

/-! ## The projected cash -/

/-- The cash that a trade moves in a currency by its notional, with or without a
quantity. -/
def notedTradeCash (currency : String) (trade : SecurityTradeIntent) : Decimal :=
  match trade.notional with
  | some notional =>
    if notional.currency = currency then tradeCash trade.side notional.amount else 0
  | none => 0

/-- The amount of the last row of a currency. -/
def lastRowAmount (rows : List CashBalance) (currency : String) : Decimal :=
  ((rows.filter (fun cash => cash.currency = currency)).getLast?.map (·.amount)).getD 0

/-- The amounts of the rows of a currency but the last. -/
def earlierRowsAmount (rows : List CashBalance) (currency : String) : Decimal :=
  ((rows.filter (fun cash => cash.currency = currency)).dropLast.map (·.amount)).sum

/-- The balance from which the conversion of a currency is sized. -/
def projectedBalance (portfolio : PortfolioSnapshot) (trades : List SecurityTradeIntent)
    (currency : String) : Decimal :=
  lastRowAmount portfolio.cashBalances currency + (trades.map (notedTradeCash currency)).sum

/-- The balance after the security trades, over all rows of the currency. -/
def balanceAfterTrades (portfolio : PortfolioSnapshot) (trades : List SecurityTradeIntent)
    (currency : String) : Decimal :=
  cashTotal portfolio.cashBalances currency + (trades.map (appliedTradeCash currency)).sum

/-- The cash of the trades that carry a notional and no quantity: it is projected and
never moved. -/
def unappliedTradeCash (trades : List SecurityTradeIntent) (currency : String) : Decimal :=
  ((trades.filter (fun trade => trade.quantity.isNone)).map (notedTradeCash currency)).sum

/-- The rows of a currency as entries of a dictionary. -/
def cashEntry (cash : CashBalance) : String × Decimal := (cash.currency, cash.amount)

theorem filter_map_cashEntry :
    (rows.map cashEntry).filter (fun e => e.1 = currency) =
      (rows.filter (fun cash => cash.currency = currency)).map cashEntry := by
  rw [List.filter_map]
  rfl

theorem getD_cashEntries :
    (Dict.ofEntries (rows.map cashEntry)).getD currency 0 = lastRowAmount rows currency := by
  rw [Dict.getD, Dict.get?_ofEntries_eq_getLast?, filter_map_cashEntry, List.getLast?_map,
    Option.map_map]
  rfl

theorem cashTotal_eq_earlier_add_last :
    cashTotal rows currency = earlierRowsAmount rows currency + lastRowAmount rows currency := by
  have h := Dict.amountsAt_eq_dropLast_add currency (rows.map cashEntry)
  rw [getD_cashEntries, filter_map_cashEntry, ← List.map_dropLast, List.map_map] at h
  exact h

theorem getD_projectCashAfterSecurityTrades :
    (projectCashAfterSecurityTrades portfolio trades).getD currency 0 =
      projectedBalance portfolio trades currency := by
  have hfold : ∀ (trades : List SecurityTradeIntent) (projected : Dict String Decimal),
      (trades.foldl projectTradeCash projected).getD currency 0 =
        projected.getD currency 0 + (trades.map (notedTradeCash currency)).sum := by
    intro trades
    induction trades with
    | nil => exact fun projected => (add_zero _).symm
    | cons trade trades ih =>
      intro projected
      have hturn : (projectTradeCash projected trade).getD currency 0 =
          projected.getD currency 0 + notedTradeCash currency trade := by
        unfold projectTradeCash notedTradeCash
        cases trade.notional with
        | none => exact (add_zero _).symm
        | some notional => exact Dict.getD_addAt _ _ _ _
      rw [List.foldl_cons, ih, hturn, List.map_cons, List.sum_cons, add_assoc]
  rw [projectCashAfterSecurityTrades, hfold, projectedBalance]
  exact congrArg (· + _) (getD_cashEntries _ _)

theorem sum_notedTradeCash :
    (trades.map (notedTradeCash currency)).sum =
      unappliedTradeCash trades currency + (trades.map (appliedTradeCash currency)).sum := by
  induction trades with
  | nil => exact (add_zero _).symm
  | cons trade trades ih =>
    rw [List.map_cons, List.map_cons, List.sum_cons, List.sum_cons, ih]
    cases hquantity : trade.quantity with
    | none =>
      have happlied : appliedTradeCash currency trade = 0 := by
        unfold appliedTradeCash
        rw [hquantity]
        split <;> simp_all
      have hunapplied : unappliedTradeCash (trade :: trades) currency =
          notedTradeCash currency trade + unappliedTradeCash trades currency := by
        unfold unappliedTradeCash
        rw [List.filter_cons_of_pos (by rw [hquantity]; rfl), List.map_cons, List.sum_cons]
      rw [happlied, hunapplied]
      ring
    | some quantity =>
      have happlied : appliedTradeCash currency trade = notedTradeCash currency trade := by
        unfold appliedTradeCash notedTradeCash
        rw [hquantity]
        cases trade.notional <;> rfl
      have hunapplied : unappliedTradeCash (trade :: trades) currency =
          unappliedTradeCash trades currency := by
        unfold unappliedTradeCash
        rw [List.filter_cons_of_neg (by rw [hquantity]; exact Bool.false_ne_true)]
      rw [happlied, hunapplied]
      ring

theorem balanceAfterTrades_eq :
    balanceAfterTrades portfolio trades currency =
      projectedBalance portfolio trades currency +
        (earlierRowsAmount portfolio.cashBalances currency -
          unappliedTradeCash trades currency) := by
  rw [balanceAfterTrades, projectedBalance, cashTotal_eq_earlier_add_last, sum_notedTradeCash]
  ring

/-! ## The base side of the conversions -/

/-- The conversions of an intent list, in order. -/
def fxSpots (intents : List OrderIntent) : List FxSpotIntent :=
  intents.filterMap fun
    | .securityTrade _ => none
    | .fxSpot conversion => some conversion

/-- The base value of the foreign leg of a conversion, as the base currency sees it: what
a sold balance brings in, or what a bought one costs. -/
def baseValueOfLeg (marketData : MarketDataSnapshot) (baseCurrency : String)
    (conversion : FxSpotIntent) : Decimal :=
  if conversion.buyCurrency = baseCurrency then
    conversion.sellAmountEstimated * rateToBase marketData baseCurrency conversion.sellCurrency
  else -(conversion.buyAmount * rateToBase marketData baseCurrency conversion.buyCurrency)

/-- A conversion moves the base currency by the base value of its foreign leg. -/
def PaidInBase (marketData : MarketDataSnapshot) (baseCurrency : String) : OrderIntent → Prop
  | .securityTrade _ => True
  | .fxSpot conversion =>
    conversionCash baseCurrency conversion = baseValueOfLeg marketData baseCurrency conversion

theorem paidInBase_projectedCashFxResolution {currency intentId : String} {balance : Decimal}
    {conversion : FxSpotIntent}
    (h : (projectedCashFxResolution currency balance baseCurrency marketData intentId
      options).intent = some conversion) :
    PaidInBase marketData baseCurrency (.fxSpot conversion) := by
  unfold projectedCashFxResolution at h
  split at h
  · cases h
  · rename_i hne
    split at h
    · cases h
    · rename_i rate hrate
      dsimp only at h
      unfold fxIntentForProjectedCashBalance at h
      unfold PaidInBase conversionCash baseValueOfLeg
      split at h
      · cases h
        dsimp only
        rw [if_neg hne, if_pos rfl, if_neg hne, rateToBase_of_eq_some hrate, zero_sub]
      · split at h
        · cases h
          dsimp only
          rw [if_pos rfl, if_neg hne, if_pos rfl, rateToBase_of_eq_some hrate, sub_zero]
        · cases h

theorem paidInBase_appendProjectedCashFxIntents (baseCurrency : String)
    (marketData : MarketDataSnapshot) (options : EngineOptions) :
    ∀ (balances : List (String × Decimal)) (state : FxState),
      (∀ intent ∈ state.intents, PaidInBase marketData baseCurrency intent) →
      ∀ intent ∈ (appendProjectedCashFxIntents baseCurrency marketData options balances
        state).intents, PaidInBase marketData baseCurrency intent
  | [], _, h => h
  | (currency, balance) :: balances, state, h => by
    have hturn : ∀ intent ∈ (applyFxResolution (projectedCashFxResolution currency balance
        baseCurrency marketData ("oi_fx_" ++ toString (state.intents.length + 1)) options)
        state).intents, PaidInBase marketData baseCurrency intent := by
      unfold applyFxResolution
      dsimp only
      split
      · exact h
      · split
        · exact h
        · rename_i conversion hconversion
          intro intent hmem
          rcases List.mem_append.mp hmem with hmem | hmem
          · exact h intent hmem
          · rw [List.mem_singleton.mp hmem]
            exact paidInBase_projectedCashFxResolution hconversion
    rw [appendProjectedCashFxIntents]
    split
    · exact hturn
    · exact paidInBase_appendProjectedCashFxIntents baseCurrency marketData options balances _
        hturn

theorem sum_map_intents (f : OrderIntent → Decimal) (intents : List OrderIntent) :
    (intents.map f).sum =
      ((securityTrades intents).map fun trade => f (.securityTrade trade)).sum +
        ((fxSpots intents).map fun conversion => f (.fxSpot conversion)).sum := by
  induction intents with
  | nil => exact (add_zero _).symm
  | cons intent intents ih =>
    rw [List.map_cons, List.sum_cons, ih]
    cases intent with
    | securityTrade trade =>
      rw [securityTrades_cons_trade, List.map_cons, List.sum_cons, add_assoc]
      rfl
    | fxSpot conversion =>
      show f (.fxSpot conversion) + _ =
        _ + ((conversion :: fxSpots intents).map fun conversion => f (.fxSpot conversion)).sum
      rw [securityTrades_cons_fx, List.map_cons, List.sum_cons]
      exact add_left_comm _ _ _

theorem fxSpots_executionIntents_perm (fx : FxState) (options : EngineOptions) :
    (fxSpots (executionIntents fx options)).Perm (fxSpots fx.intents) := by
  have hcore : ∀ intents : List OrderIntent,
      fxSpots (intents.map OrderIntent.core) = fxSpots intents := by
    intro intents
    unfold fxSpots
    rw [List.filterMap_map]
    congr 1
    funext intent
    cases intent <;> rfl
  have hperm := (executionIntents_core_perm fx options).filterMap fun
    | .securityTrade _ => none
    | .fxSpot conversion => some conversion
  rw [← hcore (executionIntents fx options), ← hcore fx.intents]
  exact hperm

/-! ## The cash after the simulation -/

section Simulation

variable {portfolio : PortfolioSnapshot} {marketData : MarketDataSnapshot}
  {trades : List SecurityTradeIntent} {options : EngineOptions} {diagnostics : DiagnosticsData}

/-- The intents are applied: neither the missing-rate exit nor the settlement exit is
taken. -/
structure AppliesIntents (portfolio : PortfolioSnapshot) (marketData : MarketDataSnapshot)
    (shelf : List ShelfEntry) (trades : List SecurityTradeIntent) (options : EngineOptions)
    (diagnostics : DiagnosticsData) : Prop where
  fxOpen : (fxState portfolio marketData trades options diagnostics).blocked = false
  ladderHolds : options.enableSettlementAwareness = true →
    (buildSettlementLadder portfolio shelf
      (executionIntents (fxState portfolio marketData trades options diagnostics) options) options
      (fxState portfolio marketData trades options diagnostics).diagnostics).cashLadderBreaches = []

/-- No balance is left unswept or unfunded, and the base currency pays for exactly the
conversions and its own trades. -/
structure SweepsCash (portfolio : PortfolioSnapshot) (marketData : MarketDataSnapshot)
    (trades : List SecurityTradeIntent) (options : EngineOptions) (execution : ExecutionSimulation)
    (after : SimulatedState) : Prop where
  foreign : ∀ currency, currency ≠ portfolio.baseCurrency →
    (getFxRate marketData currency portfolio.baseCurrency).isSome →
    cashTotal after.cashBalances currency =
      leftAfterSweep options.fxBufferPct (balanceAfterTrades portfolio trades currency)
  base : cashTotal after.cashBalances portfolio.baseCurrency =
    balanceAfterTrades portfolio trades portfolio.baseCurrency +
      ((fxSpots execution.intents).map
        (baseValueOfLeg marketData portfolio.baseCurrency)).sum

/-- With a buffer of minus one or less, a deficit asks for no conversion or for a sale, so
different balances can lead to conversions of one size. -/
def BufferConfuses (fxBufferPct projected balance : Decimal) : Prop :=
  (fxBufferPct = -1 ∧ projected ≤ 0 ∧ balance ≤ 0) ∨
    (fxBufferPct < -1 ∧
      ((projected < 0 ∧ 0 ≤ balance ∧ balance = projected * (1 + fxBufferPct)) ∨
        (balance < 0 ∧ 0 ≤ projected ∧ projected = balance * (1 + fxBufferPct))))

/-- The projection of a currency stands for its balance: what it overwrites of the rows
is what it counts of the trades that are never applied. -/
def ProjectionSuffices (portfolio : PortfolioSnapshot) (trades : List SecurityTradeIntent)
    (fxBufferPct : Decimal) (currency : String) : Prop :=
  earlierRowsAmount portfolio.cashBalances currency = unappliedTradeCash trades currency ∨
    BufferConfuses fxBufferPct (projectedBalance portfolio trades currency)
      (balanceAfterTrades portfolio trades currency)

theorem mixed_sweepAmount_iff {fxBufferPct deficit balance : Decimal} (hdeficit : deficit < 0)
    (hbalance : 0 ≤ balance) :
    -deficit * (1 + fxBufferPct) = -balance ↔
      (fxBufferPct = -1 ∧ balance ≤ 0) ∨
        (fxBufferPct < -1 ∧ balance = deficit * (1 + fxBufferPct)) := by
  constructor
  · intro h
    have hvalue : balance = deficit * (1 + fxBufferPct) := by linarith
    have hbuffer : 1 + fxBufferPct ≤ 0 := by
      by_contra hpos
      have hneg : deficit * (1 + fxBufferPct) < 0 :=
        mul_neg_of_neg_of_pos hdeficit (not_le.mp hpos)
      linarith
    rcases hbuffer.lt_or_eq with hlt | heq
    · exact Or.inr ⟨by linarith, hvalue⟩
    · rw [heq, mul_zero] at hvalue
      exact Or.inl ⟨by linarith, hvalue.le⟩
  · rintro (⟨rfl, hle⟩ | ⟨_, hvalue⟩)
    · have hzero : balance = 0 := le_antisymm hle hbalance
      rw [hzero]
      ring
    · rw [hvalue]
      ring

/-- Two balances lead to conversions of one size when they are the same, or when the
buffer confuses them. -/
theorem sweepAmount_eq_iff (fxBufferPct projected balance : Decimal) :
    sweepAmount fxBufferPct projected = sweepAmount fxBufferPct balance ↔
      projected = balance ∨ BufferConfuses fxBufferPct projected balance := by
  unfold sweepAmount BufferConfuses
  by_cases hp : projected < 0
  · by_cases hb : balance < 0
    · rw [if_pos hp, if_pos hb, abs_of_neg hp, abs_of_neg hb, mul_eq_mul_right_iff, neg_inj]
      constructor
      · rintro (h | h)
        · exact Or.inl h
        · exact Or.inr (Or.inl ⟨by linarith, hp.le, hb.le⟩)
      · rintro (h | ⟨h, _, _⟩ | ⟨_, ⟨_, h, _⟩ | ⟨_, h, _⟩⟩)
        · exact Or.inl h
        · exact Or.inr (by linarith)
        · exact absurd hb (not_lt.mpr h)
        · exact absurd hp (not_lt.mpr h)
    · have hb' : 0 ≤ balance := not_lt.mp hb
      rw [if_pos hp, if_neg hb, abs_of_neg hp, mixed_sweepAmount_iff hp hb']
      constructor
      · rintro (⟨h, hle⟩ | ⟨h, hvalue⟩)
        · exact Or.inr (Or.inl ⟨h, hp.le, hle⟩)
        · exact Or.inr (Or.inr ⟨h, Or.inl ⟨hp, hb', hvalue⟩⟩)
      · rintro (h | ⟨h, _, hle⟩ | ⟨h, ⟨_, _, hvalue⟩ | ⟨hneg, _, _⟩⟩)
        · exact absurd (h ▸ hp) hb
        · exact Or.inl ⟨h, hle⟩
        · exact Or.inr ⟨h, hvalue⟩
        · exact absurd hneg hb
  · have hp' : 0 ≤ projected := not_lt.mp hp
    by_cases hb : balance < 0
    · rw [if_neg hp, if_pos hb, abs_of_neg hb, eq_comm, mixed_sweepAmount_iff hb hp']
      constructor
      · rintro (⟨h, hle⟩ | ⟨h, hvalue⟩)
        · exact Or.inr (Or.inl ⟨h, hle, hb.le⟩)
        · exact Or.inr (Or.inr ⟨h, Or.inr ⟨hb, hp', hvalue⟩⟩)
      · rintro (h | ⟨h, hle, _⟩ | ⟨h, ⟨hneg, _, _⟩ | ⟨_, _, hvalue⟩⟩)
        · exact absurd (h ▸ hb) hp
        · exact Or.inl ⟨h, hle⟩
        · exact absurd hneg hp
        · exact Or.inr ⟨h, hvalue⟩
    · rw [if_neg hp, if_neg hb, neg_inj]
      constructor
      · exact Or.inl
      · rintro (h | ⟨_, hle, hle'⟩ | ⟨_, ⟨hneg, _, _⟩ | ⟨hneg, _, _⟩⟩)
        · exact h
        · exact (le_antisymm hle hp').trans (le_antisymm hle' (not_lt.mp hb)).symm
        · exact absurd hneg hp
        · exact absurd hneg hb

theorem projectionSuffices_iff (currency : String) :
    ProjectionSuffices portfolio trades options.fxBufferPct currency ↔
      sweepAmount options.fxBufferPct (projectedBalance portfolio trades currency) =
        sweepAmount options.fxBufferPct (balanceAfterTrades portfolio trades currency) := by
  rw [sweepAmount_eq_iff, ProjectionSuffices]
  have hgap := balanceAfterTrades_eq portfolio trades currency
  apply or_congr_left
  constructor
  · intro h
    rw [hgap, h, sub_self, add_zero]
  · intro h
    rw [← h] at hgap
    linarith

theorem sum_intentCash_fxState
    (h : (fxState portfolio marketData trades options diagnostics).blocked = false)
    {currency : String} (hne : currency ≠ portfolio.baseCurrency)
    (hrate : (getFxRate marketData currency portfolio.baseCurrency).isSome) :
    ((fxState portfolio marketData trades options diagnostics).intents.map
        (intentCash currency)).sum =
      (trades.map (appliedTradeCash currency)).sum +
        sweepAmount options.fxBufferPct (projectedBalance portfolio trades currency) := by
  have hloop := sum_intentCash_appendProjectedCashFxIntents hne hrate
    (projectCashAfterSecurityTrades portfolio trades).items
    ⟨trades.map .securityTrade, diagnostics, Dict.empty, false⟩ h
  have hread := Dict.sum_map_ite_key (projectCashAfterSecurityTrades portfolio trades) currency
    (sweepAmount options.fxBufferPct)
  have hget := getD_projectCashAfterSecurityTrades portfolio trades currency
  rw [Dict.getD] at hget
  rw [hread, List.map_map] at hloop
  refine hloop.trans (congrArg _ ?_)
  rw [← hget]
  cases (projectCashAfterSecurityTrades portfolio trades).get? currency with
  | none => exact (sweepAmount_zero _).symm
  | some balance => rfl

theorem sum_intentCash_fxState_base :
    ((fxState portfolio marketData trades options diagnostics).intents.map
        (intentCash portfolio.baseCurrency)).sum =
      (trades.map (appliedTradeCash portfolio.baseCurrency)).sum +
        ((fxSpots (fxState portfolio marketData trades options diagnostics).intents).map
          (baseValueOfLeg marketData portfolio.baseCurrency)).sum := by
  obtain ⟨conversions, hfx, _⟩ := fxState_extends portfolio marketData trades options diagnostics
  have hpaid := paidInBase_appendProjectedCashFxIntents portfolio.baseCurrency marketData options
    (projectCashAfterSecurityTrades portfolio trades).items
    ⟨trades.map .securityTrade, diagnostics, Dict.empty, false⟩ (by
      intro intent hmem
      obtain ⟨trade, _, rfl⟩ := List.mem_map.mp hmem
      trivial)
  rw [sum_map_intents]
  show ((securityTrades _).map (appliedTradeCash portfolio.baseCurrency)).sum +
    ((fxSpots _).map (conversionCash portfolio.baseCurrency)).sum = _
  congr 1
  · rw [show (fxState portfolio marketData trades options diagnostics).intents = _ from hfx,
      securityTrades_trades_append_fx]
  · apply congrArg
    apply List.map_congr_left
    intro conversion hmem
    obtain ⟨intent, hintent, hsome⟩ := List.mem_filterMap.mp hmem
    cases intent with
    | securityTrade trade => cases hsome
    | fxSpot conversion' =>
      cases hsome
      exact hpaid _ hintent

theorem AppliesIntents.execution_eq {shelf : List ShelfEntry}
    (h : AppliesIntents portfolio marketData shelf trades options diagnostics)
    (totalValBefore : Decimal) :
    let ordered := executionIntents (fxState portfolio marketData trades options diagnostics)
      options
    let execution := generateFxAndSimulate portfolio marketData shelf trades options
      totalValBefore diagnostics
    execution.intents = ordered ∧ execution.state = some (buildSimulatedState
      (applyExecutionIntents portfolio ordered) marketData shelf options) := by
  dsimp only
  unfold generateFxAndSimulate
  dsimp only
  rw [if_neg (by rw [h.fxOpen]; exact Bool.false_ne_true)]
  split
  · rename_i hsettle
    rw [h.ladderHolds hsettle]
    exact ⟨intents_simulateIntents _ _ _ _ _ _ _, state_simulateIntents _ _ _ _ _ _ _⟩
  · exact ⟨intents_simulateIntents _ _ _ _ _ _ _, state_simulateIntents _ _ _ _ _ _ _⟩

/-- Every currency is swept or funded as its balance asks for, and the base currency pays
for it, exactly when the projection of each foreign currency with a rate stands for its
balance. -/
theorem sweeps_cash_iff {shelf : List ShelfEntry}
    (h : AppliesIntents portfolio marketData shelf trades options diagnostics)
    (totalValBefore : Decimal) :
    let execution := generateFxAndSimulate portfolio marketData shelf trades options
      totalValBefore diagnostics
    ∃ after, execution.state = some after ∧
      (SweepsCash portfolio marketData trades options execution after ↔
        ∀ currency, currency ≠ portfolio.baseCurrency →
          (getFxRate marketData currency portfolio.baseCurrency).isSome →
          ProjectionSuffices portfolio trades options.fxBufferPct currency) := by
  obtain ⟨hintents, hstate⟩ := h.execution_eq totalValBefore
  refine ⟨_, hstate, ?_⟩
  have hafter : ∀ currency, cashTotal (buildSimulatedState (applyExecutionIntents portfolio
      (executionIntents (fxState portfolio marketData trades options diagnostics) options))
      marketData shelf options).cashBalances currency =
        cashTotal portfolio.cashBalances currency +
          ((fxState portfolio marketData trades options diagnostics).intents.map
            (intentCash currency)).sum := by
    intro currency
    rw [← sum_intentCash_executionIntents _ options]
    exact cashTotal_applyExecutionIntents currency _ portfolio
  -- the sum of the rows, as the balance after the trades and the conversion
  have hforeign : ∀ currency, currency ≠ portfolio.baseCurrency →
      (getFxRate marketData currency portfolio.baseCurrency).isSome →
      cashTotal (buildSimulatedState (applyExecutionIntents portfolio
        (executionIntents (fxState portfolio marketData trades options diagnostics) options))
        marketData shelf options).cashBalances currency =
          balanceAfterTrades portfolio trades currency +
            sweepAmount options.fxBufferPct (projectedBalance portfolio trades currency) := by
    intro currency hne hrate
    rw [hafter, sum_intentCash_fxState h.fxOpen hne hrate, balanceAfterTrades, add_assoc]
  constructor
  · intro hsweeps currency hne hrate
    have hrows := hsweeps.foreign currency hne hrate
    rw [hforeign currency hne hrate, ← add_sweepAmount] at hrows
    exact (projectionSuffices_iff currency).mpr (add_left_cancel hrows)
  · intro hsuffices
    constructor
    · intro currency hne hrate
      rw [hforeign currency hne hrate, ← add_sweepAmount]
      exact congrArg _ ((projectionSuffices_iff currency).mp (hsuffices currency hne hrate))
    · have hperm := (fxSpots_executionIntents_perm
        (fxState portfolio marketData trades options diagnostics) options).map
        (baseValueOfLeg marketData portfolio.baseCurrency)
      rw [hafter, sum_intentCash_fxState_base, hintents, hperm.sum_eq, balanceAfterTrades,
        add_assoc]

end Simulation

/-- Francs at two dollars, as the only quote. -/
def francQuote : MarketDataSnapshot := { fxRates := [⟨"CHF/USD", 2⟩] }

/-- A purchase for 150 francs. -/
def francPurchase : SecurityTradeIntent :=
  { intentId := "oi_1", instrumentId := "EQ", side := .buy, quantity := some 3
    notional := some ⟨150, "CHF"⟩, notionalBase := some ⟨300, "USD"⟩ }

def francHolder : PortfolioSnapshot :=
  { portfolioId := "pf", baseCurrency := "USD"
    cashBalances := [⟨"CHF", 100, none⟩, ⟨"USD", 500, none⟩] }

/-- A purchase that overdraws the only row of francs by 50 is funded with the buffer. -/
theorem sweeps_cash_francPurchase :
    let execution := generateFxAndSimulate francHolder francQuote [] [francPurchase] {} 0 {}
    ∃ after, execution.state = some after ∧
      (SweepsCash francHolder francQuote [francPurchase] {} execution after ↔
        ∀ currency, currency ≠ "USD" → (getFxRate francQuote currency "USD").isSome →
          ProjectionSuffices francHolder [francPurchase] (1 / 100) currency) := by
  have happlies : AppliesIntents francHolder francQuote [] [francPurchase] {} {} := by
    constructor
    · decide +kernel
    · intro h
      cases h
  exact sweeps_cash_iff happlies 0

/-- A portfolio with two rows of francs. -/
def twoFrancRows : PortfolioSnapshot :=
  { portfolioId := "pf", baseCurrency := "USD"
    cashBalances := [⟨"CHF", 100, none⟩, ⟨"CHF", 50, none⟩] }

/-- Of two rows of francs only the second is swept. -/
theorem earlier_row_left_unswept :
    AppliesIntents twoFrancRows francQuote [] [] {} {} ∧
      let execution := generateFxAndSimulate twoFrancRows francQuote [] [] {} 0 {}
      ∃ after, execution.state = some after ∧ cashTotal after.cashBalances "CHF" = 100 ∧
        ¬ SweepsCash twoFrancRows francQuote [] {} execution after := by
  have happlies : AppliesIntents twoFrancRows francQuote [] [] {} {} := by
    constructor
    · decide +kernel
    · intro h
      cases h
  have hleft : cashTotal (buildSimulatedState (applyExecutionIntents twoFrancRows
      (executionIntents (fxState twoFrancRows francQuote [] {} {}) {})) francQuote []
      {}).cashBalances "CHF" = 100 := by
    decide +kernel
  refine ⟨happlies, _, (happlies.execution_eq 0).2, hleft, ?_⟩
  intro hsweeps
  have hasked := hsweeps.foreign "CHF" (by decide +kernel) (by decide +kernel)
  rw [hleft] at hasked
  revert hasked
  decide +kernel

end LotusManage.Engine
