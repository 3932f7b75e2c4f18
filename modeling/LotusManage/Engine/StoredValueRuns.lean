import LotusManage.Engine.Conservation

/-!
# Runs that trade a single row

For the converse of the conservation theorem a run is built that trades one held
row and nothing else: the model has one target, the shelf approves every held
instrument, and the minimum notional of every other instrument lies above any
trade that its row could give.  Everything else is the default.

`singleTrade_executed` says that such a run gets past both blocking checks and
that its only trade is one of the chosen row.
-/

namespace LotusManage.Engine

variable {portfolio : PortfolioSnapshot} {marketData : MarketDataSnapshot}

/-! ## The input -/

/-- Every held instrument is approved, and all but one have a minimum notional that
their row cannot reach. -/
def dustShelf (portfolio : PortfolioSnapshot) (marketData : MarketDataSnapshot)
    (traded : String) : List ShelfEntry :=
  portfolio.positions.map fun row =>
    { instrumentId := row.instrumentId
      status := .approved
      minNotional :=
        if row.instrumentId = traded then none
        else (priceOf marketData row.instrumentId).map fun price =>
          ⟨|currentValueOf portfolio price row.instrumentId| + 1, price.currency⟩ }

/-- The run with a single model target. -/
def singleTradeInput (portfolio : PortfolioSnapshot) (marketData : MarketDataSnapshot)
    (traded : String) (weight : Decimal) : RunInput :=
  { portfolio := portfolio
    marketData := marketData
    model := ⟨[⟨traded, weight⟩]⟩
    shelf := dustShelf portfolio marketData traded
    options := {} }

variable {id traded : String} {weight : Decimal} {options : EngineOptions}
  {candidate : TargetIntentContext}

theorem shelf_entry_dustShelf (marketData : MarketDataSnapshot) (traded : String)
    (h : ∃ row ∈ portfolio.positions, row.instrumentId = id) :
    ∃ entry, (shelfByInstrument (dustShelf portfolio marketData traded)).get? id = some entry ∧
      entry.status = .approved := by
  obtain ⟨row, hrow, rfl⟩ := h
  have hkey : row.instrumentId ∈
      (shelfByInstrument (dustShelf portfolio marketData traded)).keys := by
    rw [shelfByInstrument, Dict.mem_keys_ofEntries, List.map_map, dustShelf, List.map_map]
    exact List.mem_map.mpr ⟨row, hrow, rfl⟩
  obtain ⟨entry, hentry⟩ := (Dict.mem_keys_iff _ _).mp hkey
  refine ⟨entry, hentry, ?_⟩
  have hmem := Dict.mem_of_get?_ofEntries hentry
  obtain ⟨entry', hentry', heq⟩ := List.mem_map.mp hmem
  obtain ⟨row', _, hrow'⟩ := List.mem_map.mp hentry'
  rw [← (Prod.mk.inj heq).2, ← hrow']

/-! ## Universe and targets -/

/-- The universe of a single-target run: the target with its weight, and the held
instruments with weight zero. -/
structure SingleTargetUniverse (portfolio : PortfolioSnapshot) (traded : String)
    (weight : Decimal) (acc : Universe) : Prop where
  shelfMissing : acc.shelfMissing = []
  sellOnlyExcess : acc.sellOnlyExcess = 0
  tradedWeight : acc.eligibleTargets.get? traded = some weight
  others : ∀ id w, id ≠ traded → acc.eligibleTargets.get? id = some w →
    w = 0 ∧ ∃ row ∈ portfolio.positions, row.instrumentId = id

theorem SingleTargetUniverse.addPosition {acc : Universe}
    (h : SingleTargetUniverse portfolio traded weight acc) (currentVal : SimulatedState)
    {position : Position} (hmem : position ∈ portfolio.positions) :
    SingleTargetUniverse portfolio traded weight
      (addPortfolioPositionToUniverse
        (shelfByInstrument (dustShelf portfolio marketData traded)) currentVal acc position) := by
  obtain ⟨entry, hentry, hstatus⟩ := shelf_entry_dustShelf marketData traded
    ⟨position, hmem, rfl⟩
  have hnotLocked : lockedPositionReason
      ((shelfByInstrument (dustShelf portfolio marketData traded)).get? position.instrumentId) =
        none := by
    rw [hentry, lockedPositionReason, hstatus]
  unfold addPortfolioPositionToUniverse
  split
  · exact h
  · rename_i hnew
    rw [hnotLocked]
    rw [not_or] at hnew
    have hne : position.instrumentId ≠ traded := by
      intro heq
      refine hnew.2 ((Dict.contains_eq_true_iff _ _).mpr ?_)
      rw [heq]
      exact (Dict.mem_keys_iff _ _).mpr ⟨weight, h.tradedWeight⟩
    refine ⟨h.shelfMissing, h.sellOnlyExcess, ?_, ?_⟩
    · dsimp only
      rw [Dict.get?_set_of_ne _ _ (Ne.symm hne)]
      exact h.tradedWeight
    · intro id w hid hget
      dsimp only at hget
      rw [Dict.get?_set] at hget
      split at hget
      · rename_i heq
        cases hget
        exact ⟨rfl, position, hmem, heq.symm⟩
      · exact h.others id w hid hget

theorem singleTrade_universe (marketData : MarketDataSnapshot)
    (hheld : ∃ row ∈ portfolio.positions, row.instrumentId = traded) (weight : Decimal) :
    SingleTargetUniverse portfolio traded weight
      (singleTradeInput portfolio marketData traded weight).universeOf := by
  obtain ⟨entry, hentry, hstatus⟩ := shelf_entry_dustShelf marketData traded hheld
  -- the model target is bought with its weight
  have hmodel : SingleTargetUniverse portfolio traded weight
      (addModelTargetToUniverse (shelfByInstrument (dustShelf portfolio marketData traded)) {} {}
        ⟨traded, weight⟩) := by
    unfold addModelTargetToUniverse
    dsimp only
    rw [hentry]
    dsimp only
    rw [modelTargetExclusionReason, hstatus]
    dsimp only
    refine ⟨rfl, rfl, ?_, ?_⟩
    · simp
    · intro id w hid hget
      simp only [reduceCtorEq, if_false] at hget
      rw [Dict.get?_set_of_ne _ _ hid] at hget
      cases hget
  have hfold : ∀ (positions : List Position) (acc : Universe),
      (∀ position ∈ positions, position ∈ portfolio.positions) →
      SingleTargetUniverse portfolio traded weight acc →
      SingleTargetUniverse portfolio traded weight
        (positions.foldl (addPortfolioPositionToUniverse
          (shelfByInstrument (dustShelf portfolio marketData traded))
          (singleTradeInput portfolio marketData traded weight).before) acc) := by
    intro positions
    induction positions with
    | nil => exact fun acc _ h => h
    | cons position positions ih =>
      intro acc hmem h
      exact ih _ (fun other hother => hmem other (List.mem_cons_of_mem _ hother))
        (h.addPosition _ (hmem position List.mem_cons_self))
  exact hfold portfolio.positions _ (fun _ h => h) hmodel

theorem singleTrade_targetStage (backend : SolverBackend)
    (hheld : ∃ row ∈ portfolio.positions, row.instrumentId = traded) (hweight : weight ≤ 0) :
    let input := singleTradeInput portfolio marketData traded weight
    input.targetStage backend = .ok
      ⟨buildTargetTrace input.model input.universeOf.eligibleTargets input.universeOf.buyList
          input.totalValue portfolio.baseCurrency,
        .ready, input.universeOf.eligibleTargets, input.initialDiagnostics⟩ := by
  have huniverse := singleTrade_universe marketData hheld weight
  have hvalues : (singleTradeInput portfolio marketData traded
      weight).universeOf.eligibleTargets.values.sum ≤ 0 := by
    have hle := List.sum_le_card_nsmul (singleTradeInput portfolio marketData traded
      weight).universeOf.eligibleTargets.values 0 (by
        intro w hw
        obtain ⟨id, hget⟩ := (Dict.mem_values_iff _ _).mp hw
        by_cases hid : id = traded
        · rw [hid, huniverse.tradedWeight] at hget
          cases hget
          exact hweight
        · rw [(huniverse.others id w hid hget).1])
    simpa using hle
  dsimp only
  unfold RunInput.targetStage
  generalize (singleTradeInput portfolio marketData traded weight).universeOf = acc at *
  generalize (singleTradeInput portfolio marketData traded weight).initialDiagnostics = diagnostics
  -- every control of the default options leaves these targets as they are
  have hexcess : redistributeSellOnlyExcess acc.eligibleTargets acc.buyList acc.sellOnlyExcess =
      (acc.eligibleTargets, .ready) := by
    rw [redistributeSellOnlyExcess, if_pos huniverse.sellOnlyExcess.le]
  have hgroup : applyGroupConstraints acc.eligibleTargets acc.buyList
      (dustShelf portfolio marketData traded) {} diagnostics =
        ⟨acc.eligibleTargets, diagnostics, .ready⟩ := rfl
  have hcontrol : heuristicTargetControlStatus acc.eligibleTargets acc.buyList {} =
      (acc.eligibleTargets, .ready) := by
    have havailable : capTradeableTargetsToAvailableWeight acc.eligibleTargets acc.buyList =
        (acc.eligibleTargets, .ready) := by
      rw [capTradeableTargetsToAvailableWeight, targetWeightPosture, if_pos (by linarith)]
    have hbuffer : applyMinCashBuffer acc.eligibleTargets acc.buyList
        (effectiveCashReserveFloor {}) (cashBufferStatusWhenScaled {}) =
          (acc.eligibleTargets, .ready) := by
      rw [applyMinCashBuffer, if_pos (by simp [effectiveCashReserveFloor])]
    rw [heuristicTargetControlStatus, havailable]
    dsimp only [applySinglePositionOption]
    rw [hbuffer]
    rfl
  change Except.ok (generateTargetsHeuristic _ acc.eligibleTargets acc.buyList acc.sellOnlyExcess
    (dustShelf portfolio marketData traded) {} _ _ diagnostics) = _
  rw [generateTargetsHeuristic, hexcess]
  dsimp only
  rw [hgroup]
  dsimp only
  rw [if_neg (by decide), hcontrol]
  rfl

/-! ## Data quality -/

theorem valuationLog_of_covers (hcovers : MarketCovers portfolio marketData)
    (hmode : options.valuationMode = .calculated) (log : DataQualityLog) :
    valuationLog portfolio marketData options log = log := by
  have hposition : ∀ position ∈ portfolio.positions, ∀ log,
      recordPositionGaps marketData portfolio.baseCurrency options log position = log := by
    intro position hmem log
    obtain ⟨price, rate, hprice, hrate⟩ := hcovers.positions position hmem
    have hccy : (valuePosition position marketData portfolio.baseCurrency
        options).instrumentCurrency = price.currency := by
      simp only [valuePosition, positionValuationCurrency, trustedMarketValue, hmode, positionPrice,
        hprice]
    unfold recordPositionGaps
    rw [hccy, hprice]
    dsimp only
    rw [hrate]
    simp
  have hcash : ∀ cash ∈ portfolio.cashBalances, ∀ log,
      recordCashGap marketData portfolio.baseCurrency log cash = log := by
    intro cash hmem log
    obtain ⟨rate, hrate⟩ := hcovers.cash cash hmem
    unfold recordCashGap
    rw [hrate]
    simp
  have hfold : ∀ {α : Type} (rows : List α) (record : DataQualityLog → α → DataQualityLog),
      (∀ row ∈ rows, ∀ log, record log row = log) → ∀ log, rows.foldl record log = log := by
    intro α rows record
    induction rows with
    | nil => exact fun _ log => rfl
    | cons row rows ih =>
      intro h log
      rw [List.foldl_cons, h row List.mem_cons_self]
      exact ih (fun other hmem => h other (List.mem_cons_of_mem _ hmem)) log
  unfold valuationLog
  dsimp only
  rw [hfold portfolio.positions _ hposition, hfold portfolio.cashBalances _ hcash]

theorem dataQuality_warnOnce (diagnostics : DiagnosticsData) (code : String) :
    (diagnostics.warnOnce code).dataQuality = diagnostics.dataQuality := by
  unfold DiagnosticsData.warnOnce DiagnosticsData.warn
  split <;> rfl

/-- Without tax awareness the limits of a sale leave the log and the accumulator
as they are. -/
theorem sellQuantityAfterSafetyLimits_frame (instrumentId : String) (side : Side)
    (requestedQuantity : Decimal) (position : Option Position)
    (htax : options.enableTaxAwareness = false) (sellPrice : Decimal) (priceCurrency : String)
    (baseRate : Decimal) (marketData : MarketDataSnapshot) (taxBudget : TaxBudgetAccumulator)
    (diagnostics : DiagnosticsData) :
    (sellQuantityAfterSafetyLimits instrumentId side requestedQuantity position options sellPrice
      priceCurrency baseRate marketData taxBudget diagnostics).2.2.dataQuality =
      diagnostics.dataQuality := by
  unfold sellQuantityAfterSafetyLimits
  split
  · rfl
  · dsimp only
    have hclamp : (clampedSellQuantity requestedQuantity position diagnostics).2.dataQuality =
        diagnostics.dataQuality := by
      unfold clampedSellQuantity
      cases position with
      | none | some =>
        dsimp only
        split
        · rfl
        · exact dataQuality_warnOnce _ _
    have hlimited : taxBudgetLimitedSellQuantity instrumentId options position
        (clampedSellQuantity requestedQuantity position diagnostics).1 sellPrice priceCurrency
        baseRate marketData taxBudget (clampedSellQuantity requestedQuantity position
          diagnostics).2 = ⟨(clampedSellQuantity requestedQuantity position diagnostics).1,
            taxBudget, (clampedSellQuantity requestedQuantity position diagnostics).2⟩ := by
      unfold taxBudgetLimitedSellQuantity
      rw [htax]
      rfl
    rw [if_neg (by simp [htax]), hlimited]
    exact hclamp

/-! ## Sizing -/

theorem find?_dustShelf (marketData : MarketDataSnapshot) (traded : String)
    (h : ∃ row ∈ portfolio.positions, row.instrumentId = id) :
    ∃ entry, (dustShelf portfolio marketData traded).find? (fun entry => entry.instrumentId = id) =
        some entry ∧
      entry.minNotional = if id = traded then none
        else (priceOf marketData id).map fun price =>
          ⟨|currentValueOf portfolio price id| + 1, price.currency⟩ := by
  obtain ⟨row, hrow, rfl⟩ := h
  cases hfind : (dustShelf portfolio marketData traded).find?
      (fun entry => entry.instrumentId = row.instrumentId) with
  | none =>
    exfalso
    have hnone := List.find?_eq_none.mp hfind _ (List.mem_map.mpr ⟨row, hrow, rfl⟩)
    simp at hnone
  | some entry =>
    refine ⟨entry, rfl, ?_⟩
    have hid : entry.instrumentId = row.instrumentId := by simpa using List.find?_some hfind
    obtain ⟨row', _, hentry⟩ := List.mem_map.mp (List.mem_of_find?_eq_some hfind)
    rw [← hentry] at hid ⊢
    dsimp only at hid ⊢
    rw [hid]

theorem SizedCandidate.notional_le {shelf : List ShelfEntry} {totalVal : Decimal} {price : Price}
    {rate : Decimal}
    (h : SizedCandidate portfolio shelf options totalVal id weight price rate candidate) :
    candidate.quantity * unitValueOf portfolio price id ≤
      |totalVal * weight / rate - currentValueOf portfolio price id| := by
  have hunits := abs_decimalIntDiv_mul_le
    (abs_nonneg (totalVal * weight / rate - currentValueOf portfolio price id))
    (unitValueOf portfolio price id)
  rw [← h.requested] at hunits
  rcases lt_or_ge 0 (unitValueOf portfolio price id) with hpos | hneg
  · calc candidate.quantity * unitValueOf portfolio price id
        ≤ candidate.requestedQuantity * unitValueOf portfolio price id :=
          mul_le_mul_of_nonneg_right h.quantityLe hpos.le
      _ ≤ _ := le_trans (le_abs_self _) hunits
  · -- a unit value that is not positive gives no units, and no units are kept as they are
    have hempty : candidate.requestedQuantity ≤ 0 := by
      by_contra hcontra
      rw [h.requested] at hcontra
      exact absurd (decimalIntDiv_pos_unit (abs_nonneg _) (by exact_mod_cast not_le.mp hcontra))
        (not_lt.mpr hneg)
    rw [h.emptyKept hempty]
    exact le_trans (le_abs_self _) hunits

theorem dustExcluded_of_lt (hsuppress : options.suppressDustTrades = true) {threshold : Money}
    (hthreshold : candidate.threshold = some threshold)
    (hccy : threshold.currency = candidate.priceCurrency)
    (hlt : candidate.quantity * candidate.unitValue < threshold.amount) :
    dustExcluded options marketData candidate = true := by
  unfold dustExcluded minimumTradeThresholdExcludesCandidate tradeThresholdComparison
  rw [hthreshold]
  dsimp only
  rw [if_neg (by simp [hsuppress]), if_pos hccy]
  dsimp only [suppressDustTrade]
  rw [if_neg (by simp [hsuppress, hlt])]

theorem minimumTradeThresholdExcludesCandidate_frame (instrumentId : String) (side : Side)
    {intendedNotional : Money} {threshold : Option Money}
    (hccy : ∀ money, threshold = some money → money.currency = intendedNotional.currency)
    (options : EngineOptions) (marketData : MarketDataSnapshot) (diagnostics : DiagnosticsData) :
    (minimumTradeThresholdExcludesCandidate instrumentId side intendedNotional threshold options
      marketData diagnostics).2.dataQuality = diagnostics.dataQuality := by
  unfold minimumTradeThresholdExcludesCandidate
  cases threshold with
  | none => rfl
  | some money =>
    dsimp only
    split
    · rfl
    · rw [tradeThresholdComparison, if_pos (hccy money rfl)]
      dsimp only [suppressDustTrade]
      split <;> rfl

section SingleTrade

variable {traded : String} {totalVal : Decimal}

variable {weight : Decimal} {target : String × Decimal} {sized : List (String × Decimal)}
  {state state' : IntentState}

theorem threshold_dustShelf {id : String} {price : Price} {rate : Decimal}
    {candidate : TargetIntentContext}
    (h : SizedCandidate portfolio (dustShelf portfolio marketData traded) {} totalVal id weight
      price rate candidate) (hprice : priceOf marketData id = some price)
    (hheld : ∃ row ∈ portfolio.positions, row.instrumentId = id) :
    candidate.threshold = if id = traded then none
      else some ⟨|currentValueOf portfolio price id| + 1, price.currency⟩ := by
  obtain ⟨entry, hentry, hnotional⟩ := find?_dustShelf marketData traded hheld
  rw [h.threshold, hentry]
  change entry.minNotional = _
  rw [hnotional, hprice]
  rfl

theorem generateIntentStep_ok (traded : String) (totalVal : Decimal) {price : Price}
    {rate : Decimal} (hprice : priceOf marketData target.1 = some price)
    (hrate : getFxRate marketData price.currency portfolio.baseCurrency = some rate)
    (hunit : unitValueOf portfolio price target.1 ≠ 0)
    (hheld : ∃ row ∈ portfolio.positions, row.instrumentId = target.1) (state : IntentState) :
    ∃ state', generateIntentStep portfolio marketData (dustShelf portfolio marketData traded) {}
        totalVal state target = .ok state' ∧
      state'.sizing.diagnostics.dataQuality = state.sizing.diagnostics.dataQuality := by
  -- the candidate exists because the unit value is not zero
  obtain ⟨candidate, sizing, hsized, hframe⟩ : ∃ candidate sizing,
      sizedCandidate target.1 target.2 portfolio marketData
        (dustShelf portfolio marketData traded) {} totalVal price rate state.sizing =
          .ok (candidate, sizing) ∧
      sizing.diagnostics.dataQuality = state.sizing.diagnostics.dataQuality := by
    unfold sizedCandidate targetTradeDelta
    dsimp only
    rw [if_neg (show (currentInstrumentValueAndUnitValue (positionOf portfolio target.1)
        price).2 ≠ 0
      from hunit)]
    exact ⟨_, _, rfl, sellQuantityAfterSafetyLimits_frame _ _ _ _ rfl _ _ _ _ _ _⟩
  have hspec := sizedCandidate_spec hsized
  have hthreshold := threshold_dustShelf hspec hprice hheld
  have hccy : ∀ money, candidate.threshold = some money → money.currency =
      (Money.mk (candidate.quantity * candidate.unitValue) price.currency).currency := by
    intro money hmoney
    rw [hthreshold] at hmoney
    split at hmoney
    · cases hmoney
    · cases hmoney
      rfl
  have hexcluded := minimumTradeThresholdExcludesCandidate_frame target.1 candidate.side hccy {}
    marketData sizing.diagnostics
  unfold generateIntentStep targetIntentContext
  rw [show intentMarketContext target.1 portfolio marketData state.sizing.diagnostics =
    .ok (price, rate) by rw [intentMarketContext, hprice]; simp only [hrate]]
  dsimp only
  rw [hsized]
  dsimp only
  split
  · rename_i heq
    cases heq
  · rename_i sizing' heq
    refine ⟨_, rfl, ?_⟩
    rw [← (Prod.mk.inj (Except.ok.inj heq)).2]
    exact hexcluded.trans hframe
  · rename_i context sizing' heq
    refine ⟨_, rfl, ?_⟩
    rw [← (Prod.mk.inj (Except.ok.inj heq)).2]
    exact hexcluded.trans hframe

/-- The targets of a single-target run: the chosen one with its weight, and held
instruments with weight zero. -/
def SingleTarget (portfolio : PortfolioSnapshot) (traded : String) (weight : Decimal)
    (target : String × Decimal) : Prop :=
  (target.1 = traded → target.2 = weight) ∧ (target.1 ≠ traded → target.2 = 0) ∧
    ∃ row ∈ portfolio.positions, row.instrumentId = target.1

theorem generateIntentsLoop_ok (totalVal : Decimal) {weight : Decimal}
    (hcovers : MarketCovers portfolio marketData)
    (hunits : ∀ id price, priceOf marketData id = some price → unitValueOf portfolio price id ≠ 0) :
    ∀ (targets : List (String × Decimal)) (state : IntentState),
      (∀ target ∈ targets, SingleTarget portfolio traded weight target) →
      ∃ state', generateIntentsLoop portfolio marketData (dustShelf portfolio marketData traded) {}
          totalVal targets state = .ok state' ∧
        state'.sizing.diagnostics.dataQuality = state.sizing.diagnostics.dataQuality
  | [], state, _ => ⟨state, rfl, rfl⟩
  | target :: targets, state, h => by
    obtain ⟨_, _, hheld⟩ := h target List.mem_cons_self
    obtain ⟨row, hrow, hid⟩ := hheld
    obtain ⟨price, rate, hprice, hrate⟩ := hcovers.positions row hrow
    rw [hid] at hprice
    obtain ⟨next, hnext, hframe⟩ := generateIntentStep_ok traded totalVal hprice hrate
      (hunits _ _ hprice) ⟨row, hrow, hid⟩ state
    obtain ⟨state', hloop, hframe'⟩ := generateIntentsLoop_ok totalVal hcovers hunits targets next
      (fun other hmem => h other (List.mem_cons_of_mem _ hmem))
    refine ⟨state', ?_, hframe'.trans hframe⟩
    rw [generateIntentsLoop, hnext]
    exact hloop

theorem generateIntentStep_single
    (hinv : (∀ target ∈ sized, SingleTarget portfolio traded weight target) →
      ∀ intent ∈ state.intents, intent.instrumentId = traded)
    (h : generateIntentStep portfolio marketData (dustShelf portfolio marketData traded) {}
      totalVal state target = .ok state') :
    (∀ other ∈ sized ++ [target], SingleTarget portfolio traded weight other) →
      ∀ intent ∈ state'.intents, intent.instrumentId = traded := by
  intro htargets
  have hold := hinv (fun other hmem => htargets other (List.mem_append_left _ hmem))
  rcases generateIntentStep_cases h with ⟨_, hsame, _⟩ | ⟨price, rate, candidate, sizing, hprice,
    hrate, hsized, _, ⟨_, hsame⟩ | ⟨hkept, _, hadd⟩⟩
  · rw [hsame]
    exact hold
  · rw [hsame]
    exact hold
  · rw [hadd]
    intro intent hmem
    rcases List.mem_append.mp hmem with hmem | hmem
    · exact hold intent hmem
    · rw [List.mem_singleton.mp hmem]
      have hspec := sizedCandidate_spec hsized
      obtain ⟨_, hzero, hheld⟩ := htargets target
        (List.mem_append_right _ (List.mem_singleton.mpr rfl))
      change candidate.instrumentId = traded
      rw [hspec.instrument]
      by_contra hne
      -- the candidate of any other instrument lies below its minimum notional
      have hthreshold := threshold_dustShelf hspec hprice hheld
      rw [if_neg hne] at hthreshold
      have hdust : dustExcluded {} marketData candidate = true := by
        refine dustExcluded_of_lt rfl hthreshold hspec.currency.symm ?_
        have hle := hspec.notional_le
        rw [hzero hne, mul_zero, zero_div, zero_sub, abs_neg] at hle
        rw [hspec.unit]
        dsimp only
        linarith
      rw [hdust] at hkept
      cases hkept

theorem generateIntentStep_trades {row : Position} (hrow : positionOf portfolio traded = some row)
    (hquantity : 0 < row.quantity) (hgap : ∀ price rate, priceOf marketData traded = some price →
      getFxRate marketData price.currency portfolio.baseCurrency = some rate →
      0 < decimalIntDiv |totalVal * weight / rate - currentValueOf portfolio price traded|
        (unitValueOf portfolio price traded))
    (hquoted : Quoted marketData portfolio.baseCurrency traded)
    (hinv : (∀ target ∈ sized, SingleTarget portfolio traded weight target) →
      traded ∈ sized.map Prod.fst → ∃ intent, intent ∈ state.intents)
    (h : generateIntentStep portfolio marketData (dustShelf portfolio marketData traded) {}
      totalVal state target = .ok state') :
    (∀ other ∈ sized ++ [target], SingleTarget portfolio traded weight other) →
      traded ∈ (sized ++ [target]).map Prod.fst → ∃ intent, intent ∈ state'.intents := by
  intro htargets hmem
  rw [List.map_append, List.mem_append] at hmem
  have hgrow : ∀ intent ∈ state.intents, intent ∈ state'.intents := by
    intro intent hintent
    rcases generateIntentStep_cases h with ⟨_, hsame, _⟩ | ⟨_, _, _, _, _, _, _, _, ⟨_, hsame⟩ |
      ⟨_, _, hadd⟩⟩
    · rw [hsame]
      exact hintent
    · rw [hsame]
      exact hintent
    · rw [hadd]
      exact List.mem_append_left _ hintent
  rcases hmem with hold | hnew
  · obtain ⟨intent, hintent⟩ := hinv
      (fun other hother => htargets other (List.mem_append_left _ hother)) hold
    exact ⟨intent, hgrow intent hintent⟩
  · have hid : target.1 = traded := (List.mem_singleton.mp hnew).symm
    obtain ⟨hweight, _, hheld⟩ := htargets target
      (List.mem_append_right _ (List.mem_singleton.mpr rfl))
    rcases generateIntentStep_cases h with ⟨hmissing, _⟩ | ⟨price, rate, candidate, sizing, hprice,
      hrate, hsized, _, ⟨hnone, _⟩ | ⟨_, _, hadd⟩⟩
    · rw [hid] at hmissing
      exact absurd hquoted hmissing
    · exfalso
      have hspec := sizedCandidate_spec hsized
      have hthreshold := threshold_dustShelf hspec hprice hheld
      rw [if_pos hid] at hthreshold
      rw [hid] at hprice
      have hpos : 0 < candidate.quantity := by
        refine hspec.quantityPos rfl ?_ ?_
        · rw [hspec.requested, hid, hweight hid]
          exact_mod_cast hgap price rate hprice hrate
        · intro _
          rw [hid]
          exact ⟨row, hrow, hquantity⟩
      rcases hnone with hdust | hempty
      · rw [dustExcluded, hthreshold, minimumTradeThresholdExcludesCandidate] at hdust
        cases hdust
      · exact absurd hpos (not_lt.mpr hempty)
    · rw [hadd]
      exact ⟨_, List.mem_append_right _ (List.mem_singleton.mpr rfl)⟩

/-- The trace of a single-target run. -/
def singleTradeTrace (portfolio : PortfolioSnapshot) (marketData : MarketDataSnapshot)
    (traded : String) (weight : Decimal) : List TargetInstrument :=
  let input := singleTradeInput portfolio marketData traded weight
  buildTargetTrace input.model input.universeOf.eligibleTargets input.universeOf.buyList
    input.totalValue portfolio.baseCurrency

theorem singleTrade_targets (marketData : MarketDataSnapshot)
    (hheld : ∃ row ∈ portfolio.positions, row.instrumentId = traded) (weight : Decimal) :
    (∀ target ∈ (targetWeightByInstrument
        (singleTradeTrace portfolio marketData traded weight)).items,
      SingleTarget portfolio traded weight target) ∧
    (traded, weight) ∈ (targetWeightByInstrument
      (singleTradeTrace portfolio marketData traded weight)).items := by
  have huniverse := singleTrade_universe marketData hheld weight
  have htraded : (singleTradeInput portfolio marketData traded
      weight).universeOf.eligibleTargets.getD traded 0 = weight := by
    rw [Dict.getD, huniverse.tradedWeight, Option.getD_some]
  refine ⟨?_, ?_⟩
  · rintro ⟨id, w⟩ htarget
    rw [singleTradeTrace, mem_targetWeightByInstrument] at htarget
    obtain ⟨hkey, hw⟩ := htarget
    refine ⟨?_, ?_, ?_⟩
    · intro hid
      dsimp only at hid
      rw [hw, hid]
      exact htraded
    · intro hne
      dsimp only at hne
      rw [hw, Dict.getD]
      cases hget : (singleTradeInput portfolio marketData traded
          weight).universeOf.eligibleTargets.get? id with
      | none => rfl
      | some w => rw [Option.getD_some, (huniverse.others id w hne hget).1]
    · dsimp only
      by_cases hid : id = traded
      · rw [hid]
        exact hheld
      · rcases hkey with hmodel | hkey
        · exact absurd (List.mem_singleton.mp hmodel) hid
        · obtain ⟨w, hget⟩ := (Dict.mem_keys_iff _ _).mp hkey
          exact (huniverse.others id w hid hget).2
  · rw [singleTradeTrace, mem_targetWeightByInstrument]
    exact ⟨Or.inl (List.mem_singleton.mpr rfl), htraded.symm⟩

theorem singleTrade_dataQuality (hcovers : MarketCovers portfolio marketData)
    (hheld : ∃ row ∈ portfolio.positions, row.instrumentId = traded) (weight : Decimal) :
    (singleTradeInput portfolio marketData traded weight).initialDiagnostics.dataQuality = {} := by
  have hlog : valuationLog (singleTradeInput portfolio marketData traded weight).portfolio
      (singleTradeInput portfolio marketData traded weight).marketData
      (singleTradeInput portfolio marketData traded weight).options
      makeDiagnosticsData.dataQuality = makeDiagnosticsData.dataQuality :=
    valuationLog_of_covers hcovers rfl _
  unfold RunInput.initialDiagnostics
  dsimp only
  rw [hlog, (singleTrade_universe marketData hheld weight).shelfMissing]
  rfl

theorem eq_singleton_of_instrument {intents : List SecurityTradeIntent}
    (hnodup : (intents.map (·.instrumentId)).Nodup)
    (hall : ∀ intent ∈ intents, intent.instrumentId = traded)
    (hsome : ∃ intent, intent ∈ intents) :
    ∃ trade, intents = [trade] ∧ trade.instrumentId = traded := by
  match intents with
  | [] =>
    obtain ⟨intent, hintent⟩ := hsome
    cases hintent
  | [trade] => exact ⟨trade, rfl, hall trade List.mem_cons_self⟩
  | first :: second :: rest =>
    rw [List.map_cons, List.map_cons, List.nodup_cons] at hnodup
    refine absurd ?_ hnodup.1
    rw [hall first List.mem_cons_self, hall second (List.mem_cons_of_mem _ List.mem_cons_self)]
    exact List.mem_cons_self

/-- A single-target run gets past both blocking checks, and it trades the chosen
instrument and nothing else. -/
theorem singleTrade_executed (backend : SolverBackend) (hcovers : MarketCovers portfolio marketData)
    (hunits : ∀ id price, priceOf marketData id = some price → unitValueOf portfolio price id ≠ 0)
    {row : Position} (hrow : positionOf portfolio traded = some row) (hquantity : 0 < row.quantity)
    (hweight : weight ≤ 0) (hgap : ∀ price rate, priceOf marketData traded = some price →
      getFxRate marketData price.currency portfolio.baseCurrency = some rate →
      0 < decimalIntDiv |(singleTradeInput portfolio marketData traded weight).totalValue * weight /
          rate - currentValueOf portfolio price traded| (unitValueOf portfolio price traded)) :
    ∃ run : ExecutedRun backend (singleTradeInput portfolio marketData traded weight),
      ∃ trade, run.keptTrades = [trade] ∧ trade.instrumentId = traded := by
  have hmem : row ∈ portfolio.positions := List.mem_of_find?_eq_some hrow
  have hid : row.instrumentId = traded := by simpa using List.find?_some hrow
  have hheld : ∃ row ∈ portfolio.positions, row.instrumentId = traded := ⟨row, hmem, hid⟩
  have hquoted : Quoted marketData portfolio.baseCurrency traded := by
    rw [← hid]
    exact hcovers.positions row hmem
  have hdq := singleTrade_dataQuality hcovers hheld weight
  obtain ⟨htargets, htraded⟩ := singleTrade_targets marketData hheld weight
  obtain ⟨state, hloop, hframe⟩ := generateIntentsLoop_ok
    (singleTradeInput portfolio marketData traded weight).totalValue hcovers hunits
    (targetWeightByInstrument (singleTradeTrace portfolio marketData traded weight)).items
    ⟨[], ⟨initialTaxBudget {}, (singleTradeInput portfolio marketData traded
      weight).initialDiagnostics⟩⟩ htargets
  have hsizing : (singleTradeInput portfolio marketData traded weight).sizing
      (singleTradeTrace portfolio marketData traded weight)
      (singleTradeInput portfolio marketData traded weight).initialDiagnostics =
        .ok (state.intents, none, state.sizing.diagnostics) := by
    unfold RunInput.sizing
    exact generateIntents_of_loop hloop
  have hsingle := generateIntentsLoop_induction
    (fun sized state => (∀ target ∈ sized, SingleTarget portfolio traded weight target) →
      ∀ intent ∈ state.intents, intent.instrumentId = traded)
    (fun _ _ _ _ hinv hstep => generateIntentStep_single hinv hstep)
    _ [] _ state (fun _ intent hintent => absurd hintent List.not_mem_nil) hloop htargets
  have hsome := generateIntentsLoop_induction
    (fun sized state => (∀ target ∈ sized, SingleTarget portfolio traded weight target) →
      traded ∈ sized.map Prod.fst → ∃ intent, intent ∈ state.intents)
    (fun _ _ _ _ hinv hstep =>
      generateIntentStep_trades hrow hquantity hgap hquoted hinv hstep)
    _ [] _ state (fun _ hnil => absurd hnil List.not_mem_nil) hloop htargets
    (List.mem_map.mpr ⟨(traded, weight), htraded, rfl⟩)
  refine ⟨
    { stage := _
      comparison := none
      comparedDiagnostics := _
      intents := state.intents
      taxImpact := none
      diagnostics := state.sizing.diagnostics
      stageEq := singleTrade_targetStage backend hheld hweight
      comparisonEq := rfl
      firstCheck := by
        rw [hdq]
        rfl
      stageNotBlocked := RunStatus.noConfusion
      sizingEq := hsizing
      secondCheck := by
        rw [hframe, hdq]
        rfl }, ?_⟩
  exact eq_singleton_of_instrument (generateIntents_sized hsizing).2 hsingle hsome

end SingleTrade

/-! ## A row whose stored value is not its market value -/

theorem unitValueOf_ne_zero (hmarket : MarketPositive marketData)
    (hstored : ∀ row stored, PricedByStoredValue portfolio row stored → stored.amount ≠ 0)
    {price : Price} (hprice : priceOf marketData id = some price) :
    unitValueOf portfolio price id ≠ 0 := by
  have hpos := hmarket.price_pos hprice
  cases hrow : positionOf portfolio id with
  | none =>
    rw [unitValueOf, hrow, currentInstrumentValueAndUnitValue]
    exact hpos.ne'
  | some row =>
    have hid : row.instrumentId = id := by simpa using List.find?_some hrow
    subst hid
    cases hvalue : row.marketValue with
    | none =>
      rw [unitValueOf, hrow, currentInstrumentValueAndUnitValue, hvalue]
      exact hpos.ne'
    | some stored =>
      by_cases hq : 0 < row.quantity
      · have hpriced : PricedByStoredValue portfolio row stored := ⟨hrow, hq, hvalue⟩
        rw [unitValueOf_of_pricedByStoredValue hpriced]
        exact div_ne_zero (hstored row stored hpriced) hq.ne'
      · rw [unitValueOf, hrow, currentInstrumentValueAndUnitValue, hvalue]
        dsimp only
        rw [if_neg hq]
        exact hpos.ne'

theorem exists_weight_with_gap (total : Decimal) {value unit rate : Decimal} (hvalue : 0 < value)
    (hunit : 0 < unit) (hrate : 0 < rate) (h : total = 0 → unit ≤ value) :
    ∃ weight ≤ 0, unit ≤ |total * weight / rate - value| := by
  rcases lt_trichotomy total 0 with hneg | hzero | hpos
  · refine ⟨(value + unit) * rate / total, ?_, ?_⟩
    · exact div_nonpos_of_nonneg_of_nonpos (by positivity) hneg.le
    · have hgap : total * ((value + unit) * rate / total) / rate - value = unit := by
        have htotal : total ≠ 0 := hneg.ne
        field_simp
        ring
      rw [hgap]
      exact le_abs_self _
  · refine ⟨0, le_refl _, ?_⟩
    rw [mul_zero, zero_div, zero_sub, abs_neg, abs_of_pos hvalue]
    exact h hzero
  · refine ⟨-(unit * rate / total), ?_, ?_⟩
    · exact neg_nonpos.mpr (by positivity)
    · have hgap : total * -(unit * rate / total) / rate - value = -(unit + value) := by
        field_simp
        ring
      rw [hgap, abs_neg, abs_of_pos (by positivity)]
      linarith

/-- A row whose stored value is not its quantity at the market price can be traded
by some run, and that run gains or loses value. -/
theorem exists_run_not_conserving (backend : SolverBackend) (hmarket : MarketPositive marketData)
    (hcovers : MarketCovers portfolio marketData)
    (hnonzero : ∀ row stored, PricedByStoredValue portfolio row stored → stored.amount ≠ 0)
    {row : Position} {stored : Money} (hrow : PricedByStoredValue portfolio row stored)
    (hpos : 0 < stored.amount)
    (hne : stored.amount ≠ row.quantity * positionPriceValue (priceOf marketData row.instrumentId))
    (hunit : totalPortfolioValue portfolio marketData {} = 0 → 1 ≤ row.quantity) :
    ∃ weight, (singleTradeInput portfolio marketData row.instrumentId weight).PastBlockingChecks
        backend ∧
      ¬ ConservesValue backend (singleTradeInput portfolio marketData row.instrumentId weight) := by
  have hquantity : 0 < row.quantity := hrow.2.1
  have hmem : row ∈ portfolio.positions := List.mem_of_find?_eq_some hrow.1
  obtain ⟨price, rate, hprice, hrate⟩ := hcovers.positions row hmem
  have hratePos := hmarket.rate_pos hrate
  have hunitPos : 0 < stored.amount / row.quantity := div_pos hpos hquantity
  obtain ⟨weight, hweight, hgap⟩ := exists_weight_with_gap
    (totalPortfolioValue portfolio marketData {}) hpos hunitPos hratePos (by
      intro htotal
      exact div_le_self hpos.le (hunit htotal))
  obtain ⟨run, trade, hkept, htrade⟩ := singleTrade_executed backend hcovers
    (fun _ _ => unitValueOf_ne_zero hmarket hnonzero) hrow.1 hquantity hweight (by
      intro price' rate' hprice' hrate'
      rw [hprice] at hprice'
      cases hprice'
      rw [hrate] at hrate'
      cases hrate'
      rw [unitValueOf_of_pricedByStoredValue hrow, currentValueOf_of_pricedByStoredValue hrow]
      exact decimalIntDiv_pos hunitPos hgap)
  refine ⟨weight, ⟨run⟩, ?_⟩
  rintro ⟨result, hresult, htotal, _⟩
  rw [run.runSimulation_eq rfl (run.fx_not_blocked_of_covers hcovers)] at hresult
  cases hresult
  change run.afterState.totalValue =
    (singleTradeInput portfolio marketData row.instrumentId weight).before.totalValue at htotal
  rw [run.totalValue_afterState rfl] at htotal
  have hsum := (Money.mk.inj htotal).1
  -- the only trade gains the difference between market price and stored unit value
  obtain ⟨_, price', rate', quantity, _, hsized⟩ := run.keptTrades_sized.1 trade (by
    rw [hkept]
    exact List.mem_singleton.mpr rfl)
  have hgain : tradeGain marketData portfolio.baseCurrency trade = 0 := by
    rw [hkept, List.map_singleton, List.sum_singleton] at hsum
    exact left_eq_add.mp hsum.symm
  have hdiff := hsized.price_eq_unit_of_tradeGain_eq_zero (hmarket.rate_pos hsized.rateEq).ne' hgain
  have hpriceEq : priceOf marketData trade.instrumentId = some price' := hsized.priceEq
  rw [htrade, hprice] at hpriceEq
  cases hpriceEq
  rw [htrade] at hdiff
  refine hne ?_
  rw [hprice]
  change stored.amount = row.quantity * price.price
  rw [hdiff]
  change _ = row.quantity * unitValueOf portfolio price row.instrumentId
  rw [unitValueOf_of_pricedByStoredValue hrow, mul_div_cancel₀ _ hquantity.ne']

/-! ## Exactly when value is conserved -/

/-- The runs of a portfolio, in the calculated mode and without settlement
awareness, all conserve value. -/
def CalculatedRunsConserve (portfolio : PortfolioSnapshot) (marketData : MarketDataSnapshot) :
    Prop :=
  ∀ (backend : SolverBackend) (input : RunInput), input.portfolio = portfolio →
    input.marketData = marketData → input.options.valuationMode = .calculated →
    input.options.enableSettlementAwareness = false →
    (∀ target ∈ input.model.targets,
      Quoted marketData portfolio.baseCurrency target.instrumentId) →
    input.PastBlockingChecks backend → ConservesValue backend input

/-- With every price and rate present and positive, all runs of a portfolio conserve
value exactly when its stored values agree with the market. -/
theorem calculatedRunsConserve_iff (portfolio : PortfolioSnapshot)
    (marketData : MarketDataSnapshot) (hmarket : MarketPositive marketData)
    (hcovers : MarketCovers portfolio marketData) :
    CalculatedRunsConserve portfolio marketData ↔ StoredValuesAgree portfolio marketData := by
  constructor
  · intro hconserve
    by_contra hdisagree
    rw [StoredValuesAgree, not_or] at hdisagree
    obtain ⟨hzero, hdiffers⟩ := hdisagree
    have hnonzero : ∀ row stored, PricedByStoredValue portfolio row stored → stored.amount ≠ 0 :=
      fun row stored hrow hamount => hzero ⟨row, stored, hrow, hamount⟩
    push Not at hdiffers
    obtain ⟨row, stored, hrow, hpos, hne, hunit⟩ := hdiffers
    obtain ⟨weight, hpast, hnot⟩ := exists_run_not_conserving .notInstalled
      hmarket hcovers hnonzero hrow hpos hne hunit
    refine hnot (hconserve _ _ rfl rfl rfl rfl ?_ hpast)
    intro target htarget
    rw [List.mem_singleton.mp htarget]
    exact hcovers.positions row (List.mem_of_find?_eq_some hrow.1)
  · intro hagree backend input hportfolio hmarketData hmode hsettle _ hpast
    subst hportfolio
    subst hmarketData
    exact conserves_of_storedValuesAgree hmarket hcovers hmode hsettle hpast hagree

/-- Ten units of an instrument with a stored value, and some cash. -/
def tenUnitsStored (stored : Decimal) : PortfolioSnapshot :=
  { portfolioId := "pf_ten"
    baseCurrency := "USD"
    positions := [⟨"AAA", 10, some ⟨stored, "USD"⟩, []⟩]
    cashBalances := [⟨"USD", 1000, none⟩] }

/-- The instrument is quoted at one hundred. -/
def quotedAtHundred : MarketDataSnapshot :=
  { prices := [⟨"AAA", 100, "USD"⟩] }

theorem marketPositive_quotedAtHundred : MarketPositive quotedAtHundred := by
  refine ⟨?_, fun rate hrate => absurd hrate List.not_mem_nil⟩
  intro price hprice
  rw [List.mem_singleton.mp hprice]
  decide +kernel

theorem marketCovers_tenUnitsStored (stored : Decimal) :
    MarketCovers (tenUnitsStored stored) quotedAtHundred := by
  refine ⟨?_, ?_⟩
  · intro row hrow
    rw [List.mem_singleton.mp hrow]
    exact ⟨⟨"AAA", 100, "USD"⟩, 1, rfl, rfl⟩
  · intro cash hcash
    rw [List.mem_singleton.mp hcash]
    exact ⟨1, rfl⟩

theorem pricedByStoredValue_tenUnitsStored {stored : Decimal} {row : Position} {money : Money}
    (h : PricedByStoredValue (tenUnitsStored stored) row money) :
    row = ⟨"AAA", 10, some ⟨stored, "USD"⟩, []⟩ ∧ money = ⟨stored, "USD"⟩ := by
  obtain ⟨hfirst, _, hmoney⟩ := h
  have hrow := List.mem_singleton.mp (List.mem_of_find?_eq_some hfirst)
  rw [hrow] at hmoney
  exact ⟨hrow, (Option.some.inj hmoney).symm⟩

/-- Ten units stored at their market value. -/
theorem calculatedRunsConserve_tenUnitsStored :
    MarketPositive quotedAtHundred ∧ MarketCovers (tenUnitsStored 1000) quotedAtHundred ∧
      CalculatedRunsConserve (tenUnitsStored 1000) quotedAtHundred := by
  refine ⟨marketPositive_quotedAtHundred, marketCovers_tenUnitsStored 1000, ?_⟩
  rw [calculatedRunsConserve_iff _ _ marketPositive_quotedAtHundred
    (marketCovers_tenUnitsStored 1000)]
  refine Or.inr fun row money hrow _ => Or.inl ?_
  obtain ⟨rfl, rfl⟩ := pricedByStoredValue_tenUnitsStored hrow
  decide +kernel

/-- The ten units stored at twice their market value, with a model that sells most of
them. -/
def staleStoredInput : RunInput :=
  { portfolio := tenUnitsStored 2000
    marketData := quotedAtHundred
    model := ⟨[⟨"AAA", 1 / 10⟩]⟩
    shelf := [{ instrumentId := "AAA", status := .approved }]
    options := {} }

/-- The sale credits the stored value of nine units and removes their market value. -/
theorem staleStored_not_conserved :
    MarketPositive staleStoredInput.marketData ∧
      MarketCovers staleStoredInput.portfolio staleStoredInput.marketData ∧
      staleStoredInput.PastBlockingChecks .notInstalled ∧
      (∃ result, runSimulation .notInstalled staleStoredInput = .ok result ∧
        result.before.totalValue = ⟨2000, "USD"⟩ ∧
        result.afterSimulated.totalValue = ⟨2900, "USD"⟩ ∧
        result.status = .blocked ∧
        "RECONCILIATION" ∈ result.ruleResults.map (·.ruleId)) ∧
      ¬ CalculatedRunsConserve staleStoredInput.portfolio staleStoredInput.marketData := by
  obtain ⟨result, hresult, htest⟩ := exists_result_of_evaluates
    .notInstalled staleStoredInput
    (fun result => decide (result.intents ≠ [] ∧ result.before.totalValue = ⟨2000, "USD"⟩ ∧
      result.afterSimulated.totalValue = ⟨2900, "USD"⟩ ∧ result.status = .blocked ∧
      "RECONCILIATION" ∈ result.ruleResults.map (·.ruleId))) (by decide +kernel)
  obtain ⟨hintents, hbefore, hafter, hstatus, hrule⟩ := of_decide_eq_true htest
  have hpast := pastBlockingChecks_of_intents hresult hintents
  refine ⟨marketPositive_quotedAtHundred, marketCovers_tenUnitsStored 2000, hpast,
    ⟨result, hresult, hbefore, hafter, hstatus, hrule⟩, ?_⟩
  intro hconserve
  obtain ⟨result', hresult', htotal, _⟩ := hconserve _ staleStoredInput rfl rfl rfl rfl (by
    intro target htarget
    rw [List.mem_singleton.mp htarget]
    exact ⟨⟨"AAA", 100, "USD"⟩, 1, rfl, rfl⟩) hpast
  rw [hresult] at hresult'
  cases hresult'
  rw [hbefore, hafter] at htotal
  exact absurd htotal (by decide +kernel)

end LotusManage.Engine
