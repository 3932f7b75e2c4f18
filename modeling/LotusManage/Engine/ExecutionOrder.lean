import LotusManage.Engine.RunReturns
import LotusManage.Lib.Numerals
import LotusManage.Lib.Tables

/-!
# The order of execution

The intents of a result can be executed in the order in which they stand.  The
trades are numbered by the sizing loop, the turnover limit takes some of them
away, and the conversions are numbered on from the length of what is left; the
numbers of the two stages can coincide, and the ids are still distinct because
they begin differently.

A purchase depends on the conversion that funds its currency and on the last sale
of its currency.  Both kinds sort before purchases, so what a purchase depends on
stands before it (`execution_order_executable`).
-/

namespace LotusManage.Engine

/-! ## The ids of the trades -/

/-- The ids that the sizing loop gives to so many trades. -/
def tradeIds (count : Nat) : List String :=
  (List.range count).map fun i => "oi_" ++ toString (i + 1)

variable {marketData : MarketDataSnapshot} {options : EngineOptions} {currency id : String}
  {intent : OrderIntent}

variable (trades count : Nat)

theorem tradeIds_succ :
    tradeIds (count + 1) = tradeIds count ++ ["oi_" ++ toString (count + 1)] := by
  rw [tradeIds, List.range_succ, List.map_append]
  rfl

theorem nodup_tradeIds : (tradeIds count).Nodup := by
  refine List.nodup_range.map ?_
  intro i j h
  have hsucc := Numerals.numbered_injective "oi_" h
  omega

theorem intentIds_generateIntents {portfolio : PortfolioSnapshot} {targets : List TargetInstrument}
    {shelf : List ShelfEntry} {totalVal : Decimal} {diagnostics diagnostics' : DiagnosticsData}
    {intents : List SecurityTradeIntent} {taxImpact : Option TaxImpact}
    (h : generateIntents portfolio marketData targets shelf options totalVal diagnostics
      = .ok (intents, taxImpact, diagnostics')) :
    intents.map (·.intentId) = tradeIds intents.length := by
  unfold generateIntents at h
  split at h
  · cases h
  · rename_i state hloop
    cases h
    refine generateIntentsLoop_induction
      (fun _ state => state.intents.map (·.intentId) = tradeIds state.intents.length) ?_
      (targetWeightByInstrument targets).items [] _ state rfl hloop
    intro _ _ state state' hinv hstep
    rcases generateIntentStep_cases hstep with ⟨_, hsame, _⟩ | ⟨_, _, candidate, _, _, _, _, _,
      ⟨_, hsame⟩ | ⟨_, _, hadd⟩⟩
    · rw [hsame]
      exact hinv
    · rw [hsame]
      exact hinv
    · rw [hadd, List.length_append, List.map_append, hinv]
      exact (tradeIds_succ _).symm

/-! ## The ids of the conversions -/

/-- The ids of so many conversions behind so many trades. -/
def conversionIds (trades count : Nat) : List String :=
  (List.range count).map fun i => "oi_fx_" ++ toString (trades + i + 1)

theorem conversionIds_succ :
    conversionIds trades (count + 1) =
      conversionIds trades count ++ ["oi_fx_" ++ toString (trades + count + 1)] := by
  rw [conversionIds, List.range_succ, List.map_append]
  rfl

theorem nodup_conversionIds : (conversionIds trades count).Nodup := by
  refine List.nodup_range.map ?_
  intro i j h
  have hsucc := Numerals.numbered_injective "oi_fx_" h
  omega

theorem tradeId_ne_conversionId (m n : Nat) : "oi_" ++ toString m ≠ "oi_fx_" ++ toString n := by
  have htail : ("fx_" ++ toString n).toList.head? = some 'f' := by
    rw [String.toList_append]
    rfl
  have hne := Numerals.numbered_ne (by decide) "oi_" m htail
  rw [← String.append_assoc] at hne
  exact hne

theorem intentId_projectedCashFxResolution {balance : Decimal} {baseCurrency : String}
    {intentId : String} {intent : FxSpotIntent}
    (h : (projectedCashFxResolution currency balance baseCurrency marketData intentId
      options).intent = some intent) : intent.intentId = intentId := by
  unfold projectedCashFxResolution at h
  split at h
  · cases h
  · split at h
    · cases h
    · dsimp only at h
      unfold fxIntentForProjectedCashBalance at h
      split at h
      · cases h
        rfl
      · split at h
        · cases h
          rfl
        · cases h

theorem buyCurrency_of_fundingCurrency {funded : String} {balance : Decimal} {baseCurrency : String}
    {intentId : String} {intent : FxSpotIntent}
    (hfunded : (projectedCashFxResolution currency balance baseCurrency marketData intentId
      options).fundingCurrency = some funded)
    (h : (projectedCashFxResolution currency balance baseCurrency marketData intentId
      options).intent = some intent) : intent.buyCurrency = funded := by
  unfold projectedCashFxResolution at h hfunded
  by_cases hbase : currency = baseCurrency
  · rw [if_pos hbase] at h
    cases h
  · rw [if_neg hbase] at h hfunded
    cases hrate : getFxRate marketData currency baseCurrency with
    | none =>
      simp only [hrate] at h
      cases h
    | some rate =>
      simp only [hrate] at h hfunded
      rw [Option.ite_none_right_eq_some] at hfunded
      obtain ⟨⟨hdeficit, _⟩, hcurrency⟩ := hfunded
      unfold fxIntentForProjectedCashBalance at h
      rw [if_pos hdeficit] at h
      cases h
      exact Option.some.inj hcurrency

/-- The conversions of the loop so far: they stand behind the trades, they are
numbered on, and a currency that counts as funded is bought by one of them. -/
def Numbered (trades : List SecurityTradeIntent) (state : FxState) : Prop :=
  ∃ conversions : List FxSpotIntent,
    state.intents = trades.map .securityTrade ++ conversions.map .fxSpot ∧
    conversions.map (·.intentId) = conversionIds trades.length conversions.length ∧
    ∀ currency id, state.fxIntentIdByCurrency.get? currency = some id →
      ∃ conversion ∈ conversions, conversion.intentId = id ∧ conversion.buyCurrency = currency

theorem Numbered.applyFxResolution {trades : List SecurityTradeIntent} {state : FxState}
    (h : Numbered trades state) (currency : String) (balance : Decimal) (baseCurrency : String)
    (marketData : MarketDataSnapshot) (options : EngineOptions) :
    Numbered trades (applyFxResolution (projectedCashFxResolution currency balance baseCurrency
      marketData ("oi_fx_" ++ toString (state.intents.length + 1)) options) state) := by
  obtain ⟨conversions, hintents, hids, hfunded⟩ := h
  unfold Engine.applyFxResolution
  dsimp only
  split
  · exact ⟨conversions, hintents, hids, hfunded⟩
  · split
    · exact ⟨conversions, hintents, hids, hfunded⟩
    · rename_i intent hintent
      have hid := intentId_projectedCashFxResolution hintent
      rw [hintents, List.length_append, List.length_map, List.length_map] at hid
      refine ⟨conversions ++ [intent], ?_, ?_, ?_⟩
      · dsimp only
        rw [hintents, List.map_append, List.append_assoc]
        rfl
      · rw [List.map_append, hids, List.length_append, List.length_singleton,
          conversionIds_succ, ← hid]
        rfl
      · -- the map names the new conversion under the currency that it buys
        have hold : ∀ currency id, state.fxIntentIdByCurrency.get? currency = some id →
            ∃ conversion ∈ conversions ++ [intent],
              conversion.intentId = id ∧ conversion.buyCurrency = currency := by
          intro currency id hget
          obtain ⟨conversion, hmem, hconversion⟩ := hfunded currency id hget
          exact ⟨conversion, List.mem_append_left _ hmem, hconversion⟩
        intro currency' id hget
        dsimp only at hget
        split at hget
        · rename_i funded hfunds
          rw [Dict.get?_set] at hget
          split at hget
          · rename_i hcurrency
            cases hget
            refine ⟨intent, List.mem_append_right _ List.mem_cons_self, rfl, ?_⟩
            rw [hcurrency]
            exact buyCurrency_of_fundingCurrency hfunds hintent
          · exact hold currency' id hget
        · exact hold currency' id hget

theorem Numbered.appendProjectedCashFxIntents {trades : List SecurityTradeIntent}
    (baseCurrency : String) (marketData : MarketDataSnapshot) (options : EngineOptions) :
    ∀ (balances : List (String × Decimal)) {state : FxState}, Numbered trades state →
      Numbered trades
        (appendProjectedCashFxIntents baseCurrency marketData options balances state)
  | [], _, h => h
  | (currency, balance) :: balances, state, h => by
    have hnext := h.applyFxResolution currency balance baseCurrency marketData options
    rw [Engine.appendProjectedCashFxIntents]
    split
    · exact hnext
    · exact Numbered.appendProjectedCashFxIntents baseCurrency marketData options balances hnext

theorem numbered_fxState (portfolio : PortfolioSnapshot) (marketData : MarketDataSnapshot)
    (trades : List SecurityTradeIntent) (options : EngineOptions)
    (diagnostics : DiagnosticsData) :
    Numbered trades (fxState portfolio marketData trades options diagnostics) := by
  refine Numbered.appendProjectedCashFxIntents _ _ _ _ ⟨[], ?_, rfl, ?_⟩
  · exact (List.append_nil _).symm
  · intro currency id hget
    cases hget

/-! ## Dependencies -/

@[simp] theorem intentId_linkIntentDependencies
    (fxDependencies sellDependencies : Dict String String)
    (includeSell : Bool) (intent : OrderIntent) :
    (linkIntentDependencies fxDependencies sellDependencies includeSell intent).intentId =
      intent.intentId := by
  cases intent with
  | fxSpot intent => rfl
  | securityTrade intent =>
    unfold linkIntentDependencies
    dsimp only
    split <;> rfl

@[simp] theorem sortKey_linkIntentDependencies
    (fxDependencies sellDependencies : Dict String String)
    (includeSell : Bool) (intent : OrderIntent) :
    executionSortKey (linkIntentDependencies fxDependencies sellDependencies includeSell intent) =
      executionSortKey intent := by
  cases intent with
  | fxSpot intent => rfl
  | securityTrade intent =>
    unfold linkIntentDependencies
    dsimp only
    split <;> rfl

theorem linkIntentDependencies_of_sortKey (h : executionSortKey intent < 2)
    (fxDependencies sellDependencies : Dict String String) (includeSell : Bool) :
    linkIntentDependencies fxDependencies sellDependencies includeSell intent = intent := by
  cases intent with
  | fxSpot intent => rfl
  | securityTrade intent =>
    unfold linkIntentDependencies
    dsimp only
    split
    · rename_i hside _
      simp only [executionSortKey, hside] at h
      exact absurd h (by decide)
    · rfl

theorem mem_appendIntentDependencyOnce {dependencies : List String} {dependency : Option String}
    (h : id ∈ appendIntentDependencyOnce dependencies dependency) :
    id ∈ dependencies ∨ dependency = some id := by
  unfold appendIntentDependencyOnce at h
  split at h
  · exact Or.inl h
  · split at h
    · exact Or.inl h
    · rcases List.mem_append.mp h with hold | hnew
      · exact Or.inl hold
      · rw [List.mem_singleton.mp hnew]
        exact Or.inr rfl

/-- A dependency of a linked purchase is the conversion or the sale that the maps name
for its currency. -/
theorem dependency_cases {fxDependencies sellDependencies : Dict String String} {includeSell : Bool}
    {trade linked : SecurityTradeIntent} (hnone : trade.dependencies = [])
    (hlinked : linkIntentDependencies fxDependencies sellDependencies includeSell
      (.securityTrade trade) = .securityTrade linked) (hmem : id ∈ linked.dependencies) :
    ∃ notional, linked.notional = some notional ∧
      (fxDependencies.get? notional.currency = some id ∨
        sellDependencies.get? notional.currency = some id) := by
  unfold linkIntentDependencies at hlinked
  dsimp only at hlinked
  split at hlinked
  · rename_i notional _ hnotional
    cases hlinked
    refine ⟨notional, hnotional, ?_⟩
    have hfx : ∀ id, id ∈ appendIntentDependencyOnce trade.dependencies
        (fxDependencies.get? notional.currency) →
          fxDependencies.get? notional.currency = some id := by
      intro id h
      rw [hnone] at h
      exact (mem_appendIntentDependencyOnce h).resolve_left List.not_mem_nil
    dsimp only at hmem
    split at hmem
    · exact (mem_appendIntentDependencyOnce hmem).imp_left (hfx id)
    · exact Or.inl (hfx id hmem)
  · cases hlinked
    rw [hnone] at hmem
    exact absurd hmem List.not_mem_nil

/-- An intent that provides cash in a currency: a conversion that buys it, or a sale in
it. -/
def Funds (currency : String) : OrderIntent → Prop
  | .fxSpot conversion => conversion.buyCurrency = currency
  | .securityTrade trade =>
    trade.side = .sell ∧ ∃ notional, trade.notional = some notional ∧
      notional.currency = currency

theorem Funds.sortKey_lt (h : Funds currency intent) : executionSortKey intent < 2 := by
  cases intent with
  | fxSpot conversion => exact Nat.one_lt_two
  | securityTrade trade =>
    simp only [executionSortKey, h.1]
    exact Nat.zero_lt_two

theorem exists_sale_of_sellIntentIdByCurrency {intents : List OrderIntent}
    (h : (sellIntentIdByCurrency intents).get? currency = some id) :
    ∃ intent ∈ intents, intent.intentId = id ∧ Funds currency intent := by
  obtain ⟨trade, htrade, hentry⟩ := List.mem_filterMap.mp (Dict.mem_of_get?_ofEntries h)
  obtain ⟨intent, hmem, hintent⟩ := List.mem_filterMap.mp htrade
  cases intent with
  | fxSpot conversion => cases hintent
  | securityTrade trade' =>
    cases hintent
    refine ⟨_, hmem, ?_⟩
    split at hentry
    · rename_i notional hside hnotional
      cases hentry
      exact ⟨rfl, hside, notional, hnotional, rfl⟩
    · cases hentry

/-! ## The order -/

/-- Intents that can be executed in the order in which they stand, and that come from a
generated list. -/
structure ExecutableOrder (generated ordered : List OrderIntent) : Prop where
  ids : (ordered.map (·.intentId)).Nodup
  sorted : ordered.Pairwise (fun a b => executionSortKey a ≤ executionSortKey b)
  stable : ∀ key, (ordered.filter (fun intent => executionSortKey intent = key)).map
      OrderIntent.core =
    (generated.filter (fun intent => executionSortKey intent = key)).map OrderIntent.core
  dependencies : ∀ before purchase after, ordered = before ++ .securityTrade purchase :: after →
    purchase.side = .buy → ∀ id ∈ purchase.dependencies,
      ∃ notional, purchase.notional = some notional ∧
        ∃ earlier ∈ before, earlier.intentId = id ∧ Funds notional.currency earlier

theorem mem_before_of_sorted {before after : List OrderIntent} {purchase : SecurityTradeIntent}
    (hsorted : (before ++ .securityTrade purchase :: after).Pairwise
      (fun a b => executionSortKey a ≤ executionSortKey b)) (hside : purchase.side = .buy)
    (hmem : intent ∈ before ++ .securityTrade purchase :: after)
    (hkey : executionSortKey intent < 2) : intent ∈ before := by
  have hpurchase : executionSortKey (.securityTrade purchase) = 2 := by
    simp only [executionSortKey, hside]
  rcases List.mem_append.mp hmem with hbefore | hrest
  · exact hbefore
  · have hle : executionSortKey (.securityTrade purchase) ≤ executionSortKey intent := by
      rcases List.mem_cons.mp hrest with rfl | hafter
      · exact le_refl _
      · exact List.rel_of_pairwise_cons (List.pairwise_append.mp hsorted).2.1 hafter
    omega

section Order

variable {trades : List SecurityTradeIntent} {fx : FxState} (options : EngineOptions)

theorem sorted_executionIntents :
    (executionIntents fx options).Pairwise
      (fun a b => executionSortKey a ≤ executionSortKey b) := by
  have : Std.Total (fun a b : OrderIntent => executionSortKey a ≤ executionSortKey b) :=
    ⟨fun a b => le_total _ _⟩
  have : IsTrans OrderIntent (fun a b => executionSortKey a ≤ executionSortKey b) :=
    ⟨fun a b c => le_trans⟩
  exact List.pairwise_insertionSort _ _

theorem perm_executionIntents :
    (executionIntents fx options).Perm (linkExecutionDependencies fx.intents
      fx.fxIntentIdByCurrency options.linkBuyToSameCurrencySellDependency) :=
  List.perm_insertionSort _ _

theorem stable_executionIntents (key : Nat) :
    ((executionIntents fx options).filter (fun intent => executionSortKey intent = key)).map
        OrderIntent.core =
      (fx.intents.filter (fun intent => executionSortKey intent = key)).map OrderIntent.core := by
  rw [executionIntents, sortExecutionIntents, filter_rank_insertionSort,
    linkExecutionDependencies, List.filter_map, List.map_map]
  simp only [Function.comp_def, sortKey_linkIntentDependencies, core_linkIntentDependencies]

theorem intentIds_executionIntents :
    ((executionIntents fx options).map (·.intentId)).Perm (fx.intents.map (·.intentId)) := by
  refine ((perm_executionIntents options).map _).trans (List.Perm.of_eq ?_)
  rw [linkExecutionDependencies, List.map_map]
  refine List.map_congr_left fun intent _ => ?_
  exact intentId_linkIntentDependencies _ _ _ intent

theorem mem_executionIntents_of_sortKey {intent : OrderIntent} (hmem : intent ∈ fx.intents)
    (hkey : executionSortKey intent < 2) : intent ∈ executionIntents fx options := by
  refine (perm_executionIntents options).mem_iff.mpr ?_
  refine List.mem_map.mpr ⟨intent, hmem, ?_⟩
  exact linkIntentDependencies_of_sortKey hkey _ _ _

/-- Whatever a purchase depends on is among the executed intents and funds its
currency. -/
theorem exists_funding (hnumbered : Numbered trades fx)
    (hfresh : ∀ trade ∈ trades, trade.dependencies = []) {purchase : SecurityTradeIntent}
    (hpurchase : .securityTrade purchase ∈ executionIntents fx options) {id : String}
    (hid : id ∈ purchase.dependencies) :
    ∃ notional, purchase.notional = some notional ∧
      ∃ intent ∈ executionIntents fx options, intent.intentId = id ∧
        Funds notional.currency intent := by
  obtain ⟨conversions, hintents, _, hfunded⟩ := hnumbered
  obtain ⟨intent, hmem, hlinked⟩ :=
    List.mem_map.mp ((perm_executionIntents options).mem_iff.mp hpurchase)
  cases intent with
  | fxSpot conversion => cases hlinked
  | securityTrade trade =>
    have htrade : trade ∈ trades := by
      rw [hintents] at hmem
      rcases List.mem_append.mp hmem with hmem | hmem
      · obtain ⟨trade', hmem', heq⟩ := List.mem_map.mp hmem
        cases heq
        exact hmem'
      · obtain ⟨_, _, heq⟩ := List.mem_map.mp hmem
        cases heq
    obtain ⟨notional, hnotional, hsource⟩ := dependency_cases (hfresh trade htrade) hlinked hid
    refine ⟨notional, hnotional, ?_⟩
    have hfound : ∃ intent ∈ fx.intents, intent.intentId = id ∧ Funds notional.currency intent := by
      rcases hsource with hfx | hsell
      · obtain ⟨conversion, hconversion, hid, hbuy⟩ := hfunded _ _ hfx
        refine ⟨.fxSpot conversion, ?_, hid, hbuy⟩
        rw [hintents]
        exact List.mem_append_right _ (List.mem_map_of_mem hconversion)
      · split at hsell
        · exact exists_sale_of_sellIntentIdByCurrency hsell
        · cases hsell
    obtain ⟨intent, hmem, hid, hfunds⟩ := hfound
    exact ⟨intent, mem_executionIntents_of_sortKey options hmem hfunds.sortKey_lt, hid, hfunds⟩

theorem executableOrder_executionIntents (hnumbered : Numbered trades fx)
    (hfresh : ∀ trade ∈ trades, trade.dependencies = [])
    (hids : (fx.intents.map (·.intentId)).Nodup) :
    ExecutableOrder fx.intents (executionIntents fx options) where
  ids := (intentIds_executionIntents options).nodup_iff.mpr hids
  sorted := sorted_executionIntents options
  stable := stable_executionIntents options
  dependencies := by
    intro before purchase after hordered hside id hid
    have hpurchase : .securityTrade purchase ∈ executionIntents fx options := by
      rw [hordered]
      exact List.mem_append_right _ List.mem_cons_self
    obtain ⟨notional, hnotional, intent, hmem, hintent, hfunds⟩ :=
      exists_funding options hnumbered hfresh hpurchase hid
    refine ⟨notional, hnotional, intent, ?_, hintent, hfunds⟩
    have hsorted := @sorted_executionIntents fx options
    rw [hordered] at hmem hsorted
    exact mem_before_of_sorted hsorted hside hmem hfunds.sortKey_lt

end Order

/-! ## The run -/

variable {backend : SolverBackend} {input : RunInput}

variable (run : ExecutedRun backend input)

theorem ExecutedRun.nodup_intentIds : (run.fx.intents.map (·.intentId)).Nodup := by
  obtain ⟨conversions, hintents, hconversions, _⟩ := numbered_fxState input.portfolio
    input.marketData run.keptTrades input.options run.keptDiagnostics
  have hgenerated := intentIds_generateIntents run.sizingEq
  -- the kept trades are among the generated ones, and each is listed once
  have hsub : (run.keptTrades.map (·.intentId)).Subperm (tradeIds run.intents.length) := by
    rw [← hgenerated]
    obtain ⟨selected, hperm, hsublist⟩ :=
      applyTurnoverLimit_subperm run.intents input.options input.totalValue
        input.portfolio.baseCurrency run.diagnostics
    exact ⟨selected.map (·.intentId), hperm.map _, hsublist.map _⟩
  have hintents' : run.fx.intents.map (·.intentId) = run.keptTrades.map (·.intentId) ++
      conversionIds run.keptTrades.length conversions.length := by
    rw [show run.fx.intents = _ from hintents, ← hconversions, List.map_append, List.map_map,
      List.map_map]
    rfl
  rw [hintents', List.nodup_append']
  have hkept : (run.keptTrades.map (·.intentId)).Nodup := by
    obtain ⟨selected, hperm, hsublist⟩ := hsub
    exact hperm.nodup_iff.mp ((nodup_tradeIds _).sublist hsublist)
  refine ⟨hkept, nodup_conversionIds _ _, ?_⟩
  intro id htrade hconversion
  obtain ⟨m, _, rfl⟩ := List.mem_map.mp (hsub.subset htrade)
  obtain ⟨n, _, hid⟩ := List.mem_map.mp hconversion
  exact tradeId_ne_conversionId _ _ hid.symm

theorem ExecutedRun.keptTrades_fresh : ∀ trade ∈ run.keptTrades, trade.dependencies = [] := by
  intro trade hmem
  obtain ⟨_, _, _, _, _, hsized⟩ := run.keptTrades_sized.1 trade hmem
  exact hsized.dependenciesEq

/-- A run past both data checks returns intents in an executable order. -/
theorem execution_order_executable (run : ExecutedRun backend input) :
    ∃ after, runSimulation backend input = .ok (run.result after) ∧
      ExecutableOrder run.fx.intents (run.result after).intents := by
  obtain ⟨after, hafter, hreturns⟩ := run.returns
  refine ⟨after, hreturns, ?_⟩
  have hintents : (run.result after).intents = executionIntents run.fx input.options :=
    ExecutedRun.intents_execution hafter
  rw [hintents]
  exact executableOrder_executionIntents input.options (numbered_fxState _ _ _ _ _)
    run.keptTrades_fresh run.nodup_intentIds

/-- The purchase in the other currency follows the conversion that funds it. -/
theorem execution_order_twoCurrency :
    ∃ result generated, runSimulation .notInstalled twoCurrencyInput = .ok result ∧
      result.intents.map executionSortKey = [1, 2] ∧ ExecutableOrder generated result.intents := by
  obtain ⟨result, hresult, htest⟩ := exists_result_of_evaluates .notInstalled twoCurrencyInput
    (fun result => decide (result.intents ≠ [] ∧ result.intents.map executionSortKey = [1, 2]))
    (by decide +kernel)
  obtain ⟨hintents, hkeys⟩ := of_decide_eq_true htest
  obtain ⟨run⟩ := pastBlockingChecks_of_intents hresult hintents
  obtain ⟨after, hreturns, horder⟩ := execution_order_executable run
  rw [hresult] at hreturns
  cases hreturns
  exact ⟨_, run.fx.intents, hresult, hkeys, horder⟩

end LotusManage.Engine
