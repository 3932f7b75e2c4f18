import LotusManage.Engine.Execution
import LotusManage.Engine.Turnover
import LotusManage.Engine.SizingFacts

/-!
# What happens to the intents before they are applied

The sized trades pass the turnover limit, get FX intents appended, are linked to
their dependencies and are ordered.  None of this changes what a trade does: the
applied trades are, up to order and dependencies, the ones that the turnover
limit kept, and every other applied intent is an FX conversion at the quoted
rate.
-/

namespace LotusManage.Engine

/-! ## The turnover limit -/

theorem selectTurnoverBudgetIntents_sublist (budget portfolioValueBase : Decimal)
    (baseCurrency : String) :
    ∀ (intents : List SecurityTradeIntent) (used : Decimal),
      (selectTurnoverBudgetIntents budget portfolioValueBase baseCurrency intents used).1.Sublist
        intents
  | [], used => by
    rw [selectTurnoverBudgetIntents]
  | intent :: intents, used => by
    rw [selectTurnoverBudgetIntents]
    split
    · exact (selectTurnoverBudgetIntents_sublist budget portfolioValueBase baseCurrency intents
        used).cons intent
    · split
      · exact (selectTurnoverBudgetIntents_sublist budget portfolioValueBase baseCurrency intents
          (used + notionalAbs intent)).cons_cons intent
      · exact (selectTurnoverBudgetIntents_sublist budget portfolioValueBase baseCurrency intents
          used).cons intent

variable {intents : List SecurityTradeIntent} {marketData : MarketDataSnapshot}
  {intent : FxSpotIntent}

theorem applyTurnoverLimit_subperm (intents : List SecurityTradeIntent) (options : EngineOptions)
    (portfolioValueBase : Decimal) (baseCurrency : String) (diagnostics : DiagnosticsData) :
    (applyTurnoverLimit intents options portfolioValueBase baseCurrency diagnostics).1.Subperm
      intents := by
  unfold applyTurnoverLimit
  split
  · exact List.Subperm.refl _
  · dsimp only
    split
    · exact List.Subperm.refl _
    · refine (selectTurnoverBudgetIntents_sublist _ _ _ _ _).subperm.trans ?_
      exact (List.perm_insertionSort _ intents).subperm

theorem nodup_instruments_of_subperm {kept : List SecurityTradeIntent} (h : kept.Subperm intents)
    (hnodup : (intents.map (·.instrumentId)).Nodup) : (kept.map (·.instrumentId)).Nodup := by
  obtain ⟨selected, hperm, hsub⟩ := h
  rw [← (hperm.map _).nodup_iff]
  exact hnodup.sublist (hsub.map _)

/-! ## Dependencies and order -/

/-- A trade without its dependencies. -/
def SecurityTradeIntent.core (intent : SecurityTradeIntent) : SecurityTradeIntent :=
  { intent with dependencies := [] }

/-- An intent without the dependencies of a trade. -/
def OrderIntent.core : OrderIntent → OrderIntent
  | securityTrade intent => .securityTrade intent.core
  | fxSpot intent => .fxSpot intent

theorem core_linkIntentDependencies (fxDependencies sellDependencies : Dict String String)
    (includeSell : Bool) (intent : OrderIntent) :
    (linkIntentDependencies fxDependencies sellDependencies includeSell intent).core
      = intent.core := by
  cases intent with
  | fxSpot intent => rfl
  | securityTrade intent =>
    unfold linkIntentDependencies
    dsimp only
    split <;> rfl

theorem executionIntents_core_perm (fx : FxState) (options : EngineOptions) :
    ((executionIntents fx options).map OrderIntent.core).Perm
      (fx.intents.map OrderIntent.core) := by
  have hsort : (executionIntents fx options).Perm
      (linkExecutionDependencies fx.intents fx.fxIntentIdByCurrency
        options.linkBuyToSameCurrencySellDependency) :=
    List.perm_insertionSort _ _
  have hlink : (linkExecutionDependencies fx.intents fx.fxIntentIdByCurrency
      options.linkBuyToSameCurrencySellDependency).map OrderIntent.core =
        fx.intents.map OrderIntent.core := by
    rw [linkExecutionDependencies, List.map_map]
    refine List.map_congr_left ?_
    intro intent _
    exact core_linkIntentDependencies _ _ _ intent
  rw [← hlink]
  exact hsort.map _

/-! ## FX intents -/

/-- The rate of a currency to the base currency, zero when it is unknown. -/
def rateToBase (marketData : MarketDataSnapshot) (baseCcy ccy : String) : Decimal :=
  (getFxRate marketData ccy baseCcy).getD 0

/-- A conversion that buys as much value as it sells. -/
def FxNeutral (marketData : MarketDataSnapshot) (baseCcy : String) (intent : FxSpotIntent) :
    Prop :=
  intent.buyAmount * rateToBase marketData baseCcy intent.buyCurrency =
    intent.sellAmountEstimated * rateToBase marketData baseCcy intent.sellCurrency

theorem getFxRate_self (marketData : MarketDataSnapshot) (ccy : String) :
    getFxRate marketData ccy ccy = some 1 := by
  rw [getFxRate, if_pos rfl]

theorem rateToBase_self (marketData : MarketDataSnapshot) (ccy : String) :
    rateToBase marketData ccy ccy = 1 := by
  rw [rateToBase, getFxRate_self, Option.getD_some]

theorem rateToBase_of_eq_some {baseCcy ccy : String} {rate : Decimal}
    (h : getFxRate marketData ccy baseCcy = some rate) :
    rateToBase marketData baseCcy ccy = rate := by
  rw [rateToBase, h, Option.getD_some]

theorem fxIntentForProjectedCashBalance_neutral {currency baseCurrency : String} {rate : Decimal}
    (hrate : getFxRate marketData currency baseCurrency = some rate) {balance : Decimal}
    {intentId : String} {fxBufferPct : Decimal}
    (h : fxIntentForProjectedCashBalance currency balance baseCurrency rate intentId fxBufferPct
      = some intent) : FxNeutral marketData baseCurrency intent := by
  unfold fxIntentForProjectedCashBalance at h
  split at h
  · cases h
    rw [FxNeutral, rateToBase_of_eq_some hrate, rateToBase_self, mul_one]
  · split at h
    · cases h
      rw [FxNeutral, rateToBase_of_eq_some hrate, rateToBase_self, mul_one]
    · cases h

theorem projectedCashFxResolution_neutral {currency baseCurrency : String} {balance : Decimal}
    {intentId : String} {options : EngineOptions}
    (h : (projectedCashFxResolution currency balance baseCurrency marketData intentId
      options).intent = some intent) : FxNeutral marketData baseCurrency intent := by
  unfold projectedCashFxResolution at h
  split at h
  · cases h
  · split at h
    · cases h
    · rename_i rate hrate
      exact fxIntentForProjectedCashBalance_neutral hrate h

/-- The FX loop appends neutral conversions and nothing else. -/
def ExtendsByFx (marketData : MarketDataSnapshot) (baseCcy : String)
    (intents intents' : List OrderIntent) : Prop :=
  ∃ conversions : List FxSpotIntent, intents' = intents ++ conversions.map .fxSpot ∧
    ∀ intent ∈ conversions, FxNeutral marketData baseCcy intent

theorem applyFxResolution_extends {baseCcy : String} {resolution : ProjectedCashFxResolution}
    (h : ∀ intent, resolution.intent = some intent → FxNeutral marketData baseCcy intent)
    (state : FxState) :
    ExtendsByFx marketData baseCcy state.intents (applyFxResolution resolution state).intents := by
  have hnone : ExtendsByFx marketData baseCcy state.intents state.intents :=
    ⟨[], (List.append_nil _).symm, fun _ hmem => absurd hmem List.not_mem_nil⟩
  unfold applyFxResolution
  dsimp only
  split
  · exact hnone
  · split
    · exact hnone
    · rename_i intent hintent
      refine ⟨[intent], rfl, ?_⟩
      intro intent' hmem
      rw [List.mem_singleton.mp hmem]
      exact h intent hintent

theorem appendProjectedCashFxIntents_extends (baseCurrency : String)
    (marketData : MarketDataSnapshot) (options : EngineOptions) :
    ∀ (balances : List (String × Decimal)) (state : FxState),
      ExtendsByFx marketData baseCurrency state.intents
        (appendProjectedCashFxIntents baseCurrency marketData options balances state).intents
  | [], state => by
    rw [appendProjectedCashFxIntents]
    exact ⟨[], (List.append_nil _).symm, fun _ hmem => absurd hmem List.not_mem_nil⟩
  | (currency, balance) :: balances, state => by
    rw [appendProjectedCashFxIntents]
    have hneutral : ∀ intent, (projectedCashFxResolution currency balance baseCurrency marketData
        ("oi_fx_" ++ toString (state.intents.length + 1)) options).intent = some intent →
          FxNeutral marketData baseCurrency intent :=
      fun _ h => projectedCashFxResolution_neutral h
    obtain ⟨first, hfirst, hfirstNeutral⟩ := applyFxResolution_extends hneutral state
    split
    · exact ⟨first, hfirst, hfirstNeutral⟩
    · obtain ⟨rest, hrest, hrestNeutral⟩ :=
        appendProjectedCashFxIntents_extends baseCurrency marketData options balances
          (applyFxResolution (projectedCashFxResolution currency balance baseCurrency marketData
            ("oi_fx_" ++ toString (state.intents.length + 1)) options) state)
      refine ⟨first ++ rest, ?_, ?_⟩
      · rw [hrest, hfirst, List.map_append, List.append_assoc]
      · intro intent hmem
        rcases List.mem_append.mp hmem with hmem | hmem
        · exact hfirstNeutral intent hmem
        · exact hrestNeutral intent hmem

/-! ## When the FX stage is not blocked -/

theorem appendProjectedCashFxIntents_not_blocked {baseCurrency : String}
    {marketData : MarketDataSnapshot} {options : EngineOptions} :
    ∀ (balances : List (String × Decimal)) (state : FxState),
      (∀ balance ∈ balances, ∀ intentId, (projectedCashFxResolution balance.1 balance.2 baseCurrency
        marketData intentId options).blocked = false) →
      state.blocked = false →
      (appendProjectedCashFxIntents baseCurrency marketData options balances state).blocked = false
  | [], state, _, h => h
  | (currency, balance) :: balances, state, hresolutions, h => by
    have hstate : (applyFxResolution (projectedCashFxResolution currency balance baseCurrency
        marketData ("oi_fx_" ++ toString (state.intents.length + 1)) options) state).blocked =
          false := by
      unfold applyFxResolution
      dsimp only
      rw [hresolutions (currency, balance) List.mem_cons_self, if_neg Bool.false_ne_true]
      split <;> exact h
    rw [appendProjectedCashFxIntents, if_neg (by rw [hstate]; exact Bool.false_ne_true)]
    exact appendProjectedCashFxIntents_not_blocked balances _
      (fun other hmem => hresolutions other (List.mem_cons_of_mem _ hmem)) hstate

theorem mem_keys_projectTradeCash {currency : String} :
    ∀ (intents : List SecurityTradeIntent) (projected : Dict String Decimal),
      currency ∈ (intents.foldl projectTradeCash projected).keys →
      currency ∈ projected.keys ∨
        ∃ intent ∈ intents, ∃ notional, intent.notional = some notional ∧
          notional.currency = currency
  | [], projected, h => Or.inl h
  | intent :: intents, projected, h => by
    rw [List.foldl_cons] at h
    rcases mem_keys_projectTradeCash intents _ h with hkeys | ⟨other, hmem, hother⟩
    · unfold projectTradeCash at hkeys
      split at hkeys
      · exact Or.inl hkeys
      · rename_i notional hnotional
        rcases (Dict.mem_keys_set _ _ _ _).mp hkeys with hccy | hkeys
        · exact Or.inr ⟨intent, List.mem_cons_self, notional, hnotional, hccy.symm⟩
        · exact Or.inl hkeys
    · exact Or.inr ⟨other, List.mem_cons_of_mem _ hmem, hother⟩

theorem fxState_not_blocked {portfolio : PortfolioSnapshot}
    (hcash : ∀ cash ∈ portfolio.cashBalances,
      ∃ rate, getFxRate marketData cash.currency portfolio.baseCurrency = some rate)
    (hintents : ∀ intent ∈ intents, ∀ notional, intent.notional = some notional →
      ∃ rate, getFxRate marketData notional.currency portfolio.baseCurrency = some rate)
    (options : EngineOptions) (diagnostics : DiagnosticsData) :
    (fxState portfolio marketData intents options diagnostics).blocked = false := by
  refine appendProjectedCashFxIntents_not_blocked _ _ ?_ rfl
  intro balance hmem intentId
  have hrate : ∃ rate, getFxRate marketData balance.1 portfolio.baseCurrency = some rate := by
    have hkey : balance.1 ∈ (projectCashAfterSecurityTrades portfolio intents).keys :=
      List.mem_map_of_mem hmem
    rcases mem_keys_projectTradeCash intents _ hkey with hopening | ⟨intent, hintent, notional,
      hnotional, hccy⟩
    · rw [Dict.mem_keys_ofEntries, List.map_map] at hopening
      obtain ⟨cash, hrow, hccy⟩ := List.mem_map.mp hopening
      rw [← hccy]
      exact hcash cash hrow
    · rw [← hccy]
      exact hintents intent hintent notional hnotional
  obtain ⟨rate, hrate⟩ := hrate
  unfold projectedCashFxResolution
  split
  · rfl
  · rw [hrate]

theorem fxState_extends (portfolio : PortfolioSnapshot) (marketData : MarketDataSnapshot)
    (intents : List SecurityTradeIntent) (options : EngineOptions)
    (diagnostics : DiagnosticsData) :
    ExtendsByFx marketData portfolio.baseCurrency (intents.map .securityTrade)
      (fxState portfolio marketData intents options diagnostics).intents :=
  appendProjectedCashFxIntents_extends portfolio.baseCurrency marketData options _ _

end LotusManage.Engine
