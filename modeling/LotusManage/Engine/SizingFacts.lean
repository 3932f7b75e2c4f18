import LotusManage.Engine.Intents
import Mathlib.Tactic.Linarith
import Mathlib.Tactic.Positivity
import Mathlib.Tactic.FieldSimp
import Mathlib.Algebra.Order.Field.Rat
import Mathlib.Algebra.Order.Floor.Ring

/-!
# What the sizing stage produces

Facts about `generateIntents` that every later argument uses.  A sized trade has
a positive whole or clamped quantity, a positive unit value, and a notional of
quantity times unit value; a sale never exceeds the first row of its instrument;
and no instrument is traded twice.

The loop of the stage is inverted once, in `generateIntentStep_cases`, and
`generateIntentsLoop_induction` is the rule for invariants of the whole loop.
-/

namespace LotusManage.Engine

/-! ## The limits of a sale -/

variable {a : Decimal}

theorem taxBudgetAllowedLotQuantity_le {lotSellQty : Decimal} (h : 0 ≤ lotSellQty)
    (perUnitGainBase : Decimal) (taxBudget : TaxBudgetAccumulator) :
    taxBudgetAllowedLotQuantity lotSellQty perUnitGainBase taxBudget ≤ lotSellQty := by
  rw [taxBudgetAllowedLotQuantity]
  split
  · exact le_refl _
  · split
    · exact le_refl _
    · split
      · exact h
      · exact min_le_left _ _

theorem taxBudgetAllowedLotQuantity_nonneg {lotSellQty : Decimal} (h : 0 ≤ lotSellQty)
    (perUnitGainBase : Decimal) (taxBudget : TaxBudgetAccumulator) :
    0 ≤ taxBudgetAllowedLotQuantity lotSellQty perUnitGainBase taxBudget := by
  rw [taxBudgetAllowedLotQuantity]
  split
  · exact h
  · split
    · exact h
    · rename_i limit _ hgain
      split
      · exact le_refl _
      · rename_i hused
        have hrest : 0 ≤ limit - taxBudget.taxBudgetUsedBase := by linarith
        exact le_min h (div_nonneg hrest (by linarith))

theorem lotScan_le (sellPrice baseRate : Decimal) :
    ∀ (lots : List (TaxLot × Decimal)) (remaining allowedQty : Decimal)
      (taxBudget : TaxBudgetAccumulator), 0 ≤ remaining →
      (lotScan sellPrice baseRate lots remaining allowedQty taxBudget).1 ≤ allowedQty + remaining
  | [], remaining, allowedQty, taxBudget, h => by
    rw [lotScan]
    linarith
  | (lot, cost) :: lots, remaining, allowedQty, taxBudget, h => by
    rw [lotScan]
    split
    · split
      · change allowedQty ≤ _
        linarith
      · exact lotScan_le sellPrice baseRate lots remaining allowedQty taxBudget h
    · rename_i allowance hallow
      -- what the lot gives is at most what remains
      have hle : allowance.allowedQuantity ≤ remaining := by
        rw [taxBudgetSaleAllowance] at hallow
        split at hallow
        · cases hallow
        · split at hallow
          · cases hallow
          · cases hallow
            refine le_trans (taxBudgetAllowedLotQuantity_le ?_ _ _) (min_le_left _ _)
            exact le_min h lot.quantityNonneg
      dsimp only
      split
      · change allowedQty + allowance.allowedQuantity ≤ _
        linarith
      · have ih := lotScan_le sellPrice baseRate lots (remaining - allowance.allowedQuantity)
          (allowedQty + allowance.allowedQuantity)
          (applyTaxBudgetLotAllowance allowance taxBudget) (by linarith)
        linarith

theorem taxBudgetLimitedSellQuantity_le {requestedQty : Decimal} (h : 0 ≤ requestedQty)
    (instrumentId : String) (options : EngineOptions) (position : Option Position)
    (sellPrice : Decimal) (priceCcy : String) (baseRate : Decimal)
    (marketData : MarketDataSnapshot) (taxBudget : TaxBudgetAccumulator)
    (diagnostics : DiagnosticsData) :
    (taxBudgetLimitedSellQuantity instrumentId options position requestedQty sellPrice priceCcy
      baseRate marketData taxBudget diagnostics).quantity ≤ requestedQty := by
  unfold taxBudgetLimitedSellQuantity
  split
  · exact le_refl _
  · split
    · exact h
    · split
      · exact h
      · split
        · exact h
        · split
          · exact h
          · rename_i sortedLots _
            have hscan := lotScan_le sellPrice baseRate sortedLots requestedQty 0 taxBudget h
            rw [zero_add] at hscan
            exact hscan

theorem clampedSellQuantity_spec {requestedQty : Decimal} (h : 0 < requestedQty)
    (position : Option Position) (diagnostics : DiagnosticsData) :
    let clamped := (clampedSellQuantity requestedQty position diagnostics).1
    0 ≤ clamped ∧ clamped ≤ requestedQty ∧
      (0 < clamped → ∃ row, position = some row ∧ clamped ≤ row.quantity) := by
  unfold clampedSellQuantity
  cases position with
  | none =>
    simp only
    split
    · rename_i hle
      exact absurd hle (not_le.mpr h)
    · refine ⟨le_max_right _ _, ?_, ?_⟩
      · simpa using h.le
      · intro hpos
        simp at hpos
  | some row =>
    simp only [Option.some.injEq, exists_eq_left']
    split
    · rename_i hle
      exact ⟨h.le, le_refl _, fun _ => hle⟩
    · rename_i hgt
      refine ⟨le_max_right _ _, ?_, ?_⟩
      · exact max_le (le_of_lt (not_le.mp hgt)) h.le
      · intro hpos
        have hrow : 0 < row.quantity := by
          by_contra hneg
          rw [max_eq_right (not_lt.mp hneg)] at hpos
          exact lt_irrefl _ hpos
        rw [max_eq_left hrow.le]

theorem sellQuantityAfterSafetyLimits_spec (instrumentId : String) (side : Side)
    (requestedQuantity : Decimal) (position : Option Position) (options : EngineOptions)
    (sellPrice : Decimal) (priceCurrency : String) (baseRate : Decimal)
    (marketData : MarketDataSnapshot) (taxBudget : TaxBudgetAccumulator)
    (diagnostics : DiagnosticsData) :
    let quantity := (sellQuantityAfterSafetyLimits instrumentId side requestedQuantity position
      options sellPrice priceCurrency baseRate marketData taxBudget diagnostics).1.quantity
    quantity ≤ requestedQuantity ∧ (0 < quantity → side = .sell →
      ∃ row, position = some row ∧ quantity ≤ row.quantity) := by
  rw [sellQuantityAfterSafetyLimits]
  split
  · rename_i hside
    refine ⟨le_refl _, ?_⟩
    intro hpos hsell
    rcases hside with hne | hle
    · exact absurd hsell hne
    · exact absurd hpos (not_lt.mpr hle)
  · rename_i hside
    rw [not_or, not_not, not_le] at hside
    obtain ⟨hnonneg, hle, hrow⟩ := clampedSellQuantity_spec hside.2 position diagnostics
    have hlimited := taxBudgetLimitedSellQuantity_le hnonneg instrumentId options position
      sellPrice priceCurrency baseRate marketData taxBudget
      (clampedSellQuantity requestedQuantity position diagnostics).2
    refine ⟨le_trans hlimited hle, ?_⟩
    intro hpos _
    obtain ⟨row, hposition, hclamped⟩ := hrow (lt_of_lt_of_le hpos hlimited)
    exact ⟨row, hposition, le_trans hlimited hclamped⟩

theorem sellQuantityAfterSafetyLimits_pos {instrumentId : String} {side : Side}
    {requestedQuantity : Decimal} (hrequested : 0 < requestedQuantity)
    {position : Option Position}
    (hheld : side = .sell → ∃ row, position = some row ∧ 0 < row.quantity)
    {options : EngineOptions} (htax : options.enableTaxAwareness = false) (sellPrice : Decimal)
    (priceCurrency : String) (baseRate : Decimal) (marketData : MarketDataSnapshot)
    (taxBudget : TaxBudgetAccumulator) (diagnostics : DiagnosticsData) :
    0 < (sellQuantityAfterSafetyLimits instrumentId side requestedQuantity position options
      sellPrice priceCurrency baseRate marketData taxBudget diagnostics).1.quantity := by
  unfold sellQuantityAfterSafetyLimits
  split
  · exact hrequested
  · rename_i hside
    rw [not_or, not_not] at hside
    obtain ⟨row, rfl, hrow⟩ := hheld hside.1
    simp only [taxBudgetLimitedSellQuantity, clampedSellQuantity, htax, Bool.not_false, if_true]
    split
    · exact hrequested
    · exact lt_max_of_lt_left hrow

/-! ## Whole units -/

theorem decimalIntDiv_pos {b : Decimal} (hb : 0 < b) (h : b ≤ a) : 0 < decimalIntDiv a b := by
  have hquot : 1 ≤ a / b := (one_le_div hb).mpr h
  rw [decimalIntDiv, if_pos (by linarith)]
  have hfloor : (1 : Int) ≤ (a / b).floor := Rat.le_floor_iff.mpr (by exact_mod_cast hquot)
  omega

theorem decimalIntDiv_pos_unit {b : Decimal} (ha : 0 ≤ a) (h : 0 < decimalIntDiv a b) : 0 < b := by
  by_contra hb
  have hquot : a / b ≤ 0 := div_nonpos_of_nonneg_of_nonpos ha (not_lt.mp hb)
  rw [decimalIntDiv] at h
  split at h
  · rename_i h0
    have hzero : a / b = 0 := le_antisymm hquot h0
    rw [hzero] at h
    exact absurd h (by decide)
  · have hceil : (a / b).ceil ≤ 0 := by
      rw [Rat.ceil_le_iff]
      exact_mod_cast hquot
    omega

theorem abs_decimalIntDiv_mul_le (ha : 0 ≤ a) (b : Decimal) :
    |(decimalIntDiv a b : Decimal) * b| ≤ a := by
  rcases eq_or_ne b 0 with rfl | hb
  · simpa using ha
  -- the truncated quotient lies between zero and the quotient
  have habs : |(decimalIntDiv a b : Decimal)| ≤ |a / b| := by
    rw [decimalIntDiv]
    split
    · rename_i h0
      have hfloor : (0 : Decimal) ≤ ((a / b).floor : Decimal) := by
        have : (0 : Int) ≤ (a / b).floor := Rat.le_floor_iff.mpr (by exact_mod_cast h0)
        exact_mod_cast this
      rw [abs_of_nonneg hfloor, abs_of_nonneg h0]
      exact Rat.floor_le _
    · rename_i h0
      have hneg : a / b ≤ 0 := (not_le.mp h0).le
      have hceil : ((a / b).ceil : Decimal) ≤ 0 := by
        have : (a / b).ceil ≤ 0 := Rat.ceil_le_iff.mpr (by exact_mod_cast hneg)
        exact_mod_cast this
      have hle : a / b ≤ ((a / b).ceil : Decimal) := Rat.ceil_le_iff.mp (le_refl _)
      rw [abs_of_nonpos hceil, abs_of_nonpos hneg]
      linarith
  calc |(decimalIntDiv a b : Decimal) * b|
      = |(decimalIntDiv a b : Decimal)| * |b| := abs_mul _ _
    _ ≤ |a / b| * |b| := by gcongr
    _ = a := by rw [← abs_mul, div_mul_cancel₀ a hb, abs_of_nonneg ha]

/-! ## One candidate -/

/-- The value of one unit of an instrument, as the sizing stage reads it. -/
def unitValueOf (portfolio : PortfolioSnapshot) (price : Price) (instrumentId : String) :
    Decimal :=
  (currentInstrumentValueAndUnitValue (positionOf portfolio instrumentId) price).2

/-- The value of the holding of an instrument, as the sizing stage reads it. -/
def currentValueOf (portfolio : PortfolioSnapshot) (price : Price) (instrumentId : String) :
    Decimal :=
  (currentInstrumentValueAndUnitValue (positionOf portfolio instrumentId) price).1

section Loop

variable {portfolio : PortfolioSnapshot} {marketData : MarketDataSnapshot}
  {shelf : List ShelfEntry} {options : EngineOptions} {totalVal : Decimal}

/-- What is known of a sized candidate: where its numbers come from. -/
structure SizedCandidate (portfolio : PortfolioSnapshot) (shelf : List ShelfEntry)
    (options : EngineOptions) (totalVal : Decimal) (instrumentId : String) (targetWeight : Decimal)
    (price : Price) (rate : Decimal) (candidate : TargetIntentContext) : Prop where
  instrument : candidate.instrumentId = instrumentId
  unit : candidate.unitValue = unitValueOf portfolio price instrumentId
  unitNeZero : unitValueOf portfolio price instrumentId ≠ 0
  baseRate : candidate.baseRate = rate
  currency : candidate.priceCurrency = price.currency
  threshold : candidate.threshold = tradeNotionalThreshold options
    (shelf.find? (fun entry => entry.instrumentId = instrumentId))
  side : candidate.side =
    if totalVal * targetWeight / rate - currentValueOf portfolio price instrumentId > 0 then .buy
    else .sell
  requested : candidate.requestedQuantity =
    decimalIntDiv |totalVal * targetWeight / rate - currentValueOf portfolio price instrumentId|
      (unitValueOf portfolio price instrumentId)
  quantityLe : candidate.quantity ≤ candidate.requestedQuantity
  emptyKept : candidate.requestedQuantity ≤ 0 → candidate.quantity = candidate.requestedQuantity
  saleFits : 0 < candidate.quantity → candidate.side = .sell →
    ∃ row, positionOf portfolio instrumentId = some row ∧ candidate.quantity ≤ row.quantity
  quantityPos : options.enableTaxAwareness = false → 0 < candidate.requestedQuantity →
    (candidate.side = .sell →
      ∃ row, positionOf portfolio instrumentId = some row ∧ 0 < row.quantity) →
    0 < candidate.quantity

variable {instrumentId : String} {targetWeight rate : Decimal} {price : Price}
  {state state' : SizingState} {candidate : TargetIntentContext}
  {diagnostics diagnostics' : DiagnosticsData} {target : String × Decimal}
  {targets : List TargetInstrument}

theorem sizedCandidate_spec
    (h : sizedCandidate instrumentId targetWeight portfolio marketData shelf options totalVal price
      rate state = .ok (candidate, state')) :
    SizedCandidate portfolio shelf options totalVal instrumentId targetWeight price rate
      candidate := by
  unfold sizedCandidate targetTradeDelta at h
  dsimp only at h
  split at h
  · cases h
  · rename_i tradeDelta hdelta
    split at hdelta
    · cases hdelta
    · rename_i hunit
      cases hdelta
      cases h
      have hspec := sellQuantityAfterSafetyLimits_spec instrumentId
        (if totalVal * targetWeight / rate - currentValueOf portfolio price instrumentId > 0
          then .buy else .sell)
        (decimalIntDiv |totalVal * targetWeight / rate -
          currentValueOf portfolio price instrumentId|
          (unitValueOf portfolio price instrumentId))
        (positionOf portfolio instrumentId) options (unitValueOf portfolio price instrumentId)
        price.currency rate marketData state.taxBudget state.diagnostics
      refine ⟨rfl, rfl, hunit, rfl, rfl, rfl, rfl, rfl, hspec.1, ?_, hspec.2, ?_⟩
      · intro hempty
        dsimp only
        rw [sellQuantityAfterSafetyLimits, if_pos (Or.inr hempty)]
      · intro htax hrequested hheld
        exact sellQuantityAfterSafetyLimits_pos hrequested hheld htax _ _ _ _ _ _

theorem SizedCandidate.unit_pos
    (h : SizedCandidate portfolio shelf options totalVal instrumentId targetWeight price rate
      candidate) (hpos : 0 < candidate.quantity) :
    0 < unitValueOf portfolio price instrumentId := by
  have hreq : 0 < candidate.requestedQuantity := lt_of_lt_of_le hpos h.quantityLe
  rw [h.requested] at hreq
  exact decimalIntDiv_pos_unit (abs_nonneg _) (by exact_mod_cast hreq)

/-! ## The loop -/

/-- Whether the minimum notional excludes a candidate.  The answer does not
depend on the diagnostics. -/
def dustExcluded (options : EngineOptions) (marketData : MarketDataSnapshot)
    (candidate : TargetIntentContext) : Bool :=
  (minimumTradeThresholdExcludesCandidate candidate.instrumentId candidate.side
    ⟨candidate.quantity * candidate.unitValue, candidate.priceCurrency⟩ candidate.threshold options
    marketData makeDiagnosticsData).1

theorem minimumTradeThresholdExcludesCandidate_fst (instrumentId : String) (side : Side)
    (intendedNotional : Money) (threshold : Option Money) (options : EngineOptions)
    (marketData : MarketDataSnapshot) (diagnostics diagnostics' : DiagnosticsData) :
    (minimumTradeThresholdExcludesCandidate instrumentId side intendedNotional threshold options
        marketData diagnostics).1 =
      (minimumTradeThresholdExcludesCandidate instrumentId side intendedNotional threshold options
        marketData diagnostics').1 := by
  unfold minimumTradeThresholdExcludesCandidate suppressDustTrade
  cases threshold with
  | none => rfl
  | some threshold =>
    dsimp only
    split
    · rfl
    · split
      · rfl
      · split <;> rfl

/-- An instrument has a price, and the price's currency has a rate. -/
def Quoted (marketData : MarketDataSnapshot) (baseCcy instrumentId : String) : Prop :=
  ∃ price rate, priceOf marketData instrumentId = some price ∧
    getFxRate marketData price.currency baseCcy = some rate

theorem intentMarketContext_eq_error
    (h : intentMarketContext instrumentId portfolio marketData diagnostics = .error diagnostics') :
    ¬ Quoted marketData portfolio.baseCurrency instrumentId := by
  rintro ⟨price, rate, hprice, hrate⟩
  rw [intentMarketContext, hprice] at h
  simp only [hrate] at h
  cases h

theorem intentMarketContext_eq_ok
    (h : intentMarketContext instrumentId portfolio marketData diagnostics = .ok (price, rate)) :
    priceOf marketData instrumentId = some price ∧
      getFxRate marketData price.currency portfolio.baseCurrency = some rate := by
  unfold intentMarketContext at h
  split at h
  · cases h
  · rename_i hprice
    split at h
    · cases h
    · rename_i hrate
      cases h
      exact ⟨hprice, hrate⟩

/-- The context of an instrument is absent for lack of a price or a rate, or it is
the sized candidate unless the minimum notional excludes it. -/
theorem targetIntentContext_cases {context : Option TargetIntentContext}
    (h : targetIntentContext instrumentId targetWeight portfolio marketData shelf options totalVal
      state = .ok (context, state')) :
    (¬ Quoted marketData portfolio.baseCurrency instrumentId ∧ context = none ∧
      state'.taxBudget = state.taxBudget) ∨
    ∃ price rate candidate sizing,
      priceOf marketData instrumentId = some price ∧
      getFxRate marketData price.currency portfolio.baseCurrency = some rate ∧
      sizedCandidate instrumentId targetWeight portfolio marketData shelf options totalVal price
        rate state = .ok (candidate, sizing) ∧
      state'.taxBudget = sizing.taxBudget ∧
      context = if dustExcluded options marketData candidate then none else some candidate := by
  unfold targetIntentContext at h
  split at h
  · rename_i hmissing
    cases h
    exact Or.inl ⟨intentMarketContext_eq_error hmissing, rfl, rfl⟩
  · rename_i price rate hmarket
    obtain ⟨hprice, hrate⟩ := intentMarketContext_eq_ok hmarket
    split at h
    · cases h
    · rename_i candidate sizing hsized
      cases h
      refine Or.inr ⟨price, rate, candidate, sizing, hprice, hrate, hsized, rfl, ?_⟩
      have hspec := sizedCandidate_spec hsized
      rw [dustExcluded, hspec.currency, hspec.instrument,
        minimumTradeThresholdExcludesCandidate_fst _ _ _ _ _ _ makeDiagnosticsData
          sizing.diagnostics]

/-- What one turn of the loop can do: the instrument has no price or rate; its
candidate is excluded or empty; or its trade is appended. -/
theorem generateIntentStep_cases {state state' : IntentState}
    (h : generateIntentStep portfolio marketData shelf options totalVal state target = .ok state') :
    (¬ Quoted marketData portfolio.baseCurrency target.1 ∧ state'.intents = state.intents ∧
      state'.sizing.taxBudget = state.sizing.taxBudget) ∨
    ∃ price rate candidate sizing,
      priceOf marketData target.1 = some price ∧
      getFxRate marketData price.currency portfolio.baseCurrency = some rate ∧
      sizedCandidate target.1 target.2 portfolio marketData shelf options totalVal price rate
        state.sizing = .ok (candidate, sizing) ∧
      state'.sizing.taxBudget = sizing.taxBudget ∧
      ((dustExcluded options marketData candidate = true ∨ candidate.quantity ≤ 0) ∧
          state'.intents = state.intents ∨
        dustExcluded options marketData candidate = false ∧ 0 < candidate.quantity ∧
          state'.intents = state.intents ++ [securityTradeIntent
            ("oi_" ++ toString (state.intents.length + 1)) candidate portfolio.baseCurrency
            options.enableTaxAwareness]) := by
  unfold generateIntentStep at h
  split at h
  · cases h
  · rename_i sizing' hcontext
    cases h
    rcases targetIntentContext_cases hcontext with ⟨hmissing, _, htax⟩ | ⟨price, rate, candidate,
      sizing, hprice, hrate, hsized, htax, hnone⟩
    · exact Or.inl ⟨hmissing, rfl, htax⟩
    · refine Or.inr ⟨price, rate, candidate, sizing, hprice, hrate, hsized, htax, Or.inl ⟨?_, rfl⟩⟩
      by_contra hkept
      rw [not_or] at hkept
      rw [if_neg hkept.1] at hnone
      cases hnone
  · rename_i context sizing' hcontext
    cases h
    rcases targetIntentContext_cases hcontext with ⟨_, hnone, _⟩ | ⟨price, rate, candidate,
      sizing, hprice, hrate, hsized, htax, hsome⟩
    · cases hnone
    · have hdust : dustExcluded options marketData candidate = false := by
        by_contra hdust
        rw [if_pos (by simpa using hdust)] at hsome
        cases hsome
      rw [hdust] at hsome
      cases hsome
      refine Or.inr ⟨price, rate, context, sizing, hprice, hrate, hsized, htax, ?_⟩
      unfold appendSecurityTradeIntent
      by_cases hq : context.quantity ≤ 0
      · exact Or.inl ⟨Or.inr hq, if_pos hq⟩
      · exact Or.inr ⟨hdust, not_le.mp hq, if_neg hq⟩

theorem generateIntentsLoop_induction (inv : List (String × Decimal) → IntentState → Prop)
    (hstep : ∀ sized target state state', inv sized state →
      generateIntentStep portfolio marketData shelf options totalVal state target = .ok state' →
      inv (sized ++ [target]) state') :
    ∀ (targets sized : List (String × Decimal)) (state state' : IntentState), inv sized state →
      generateIntentsLoop portfolio marketData shelf options totalVal targets state = .ok state' →
      inv (sized ++ targets) state'
  | [], sized, state, state', hinv, h => by
    rw [generateIntentsLoop] at h
    cases h
    rw [List.append_nil]
    exact hinv
  | target :: targets, sized, state, state', hinv, h => by
    rw [generateIntentsLoop] at h
    split at h
    · cases h
    · rename_i next hnext
      have ih := generateIntentsLoop_induction inv hstep targets (sized ++ [target]) next state'
        (hstep sized target state next hinv hnext) h
      rw [List.append_assoc] at ih
      exact ih

/-! ## Sized trades -/

/-- What is known of a security trade that the sizing stage produced for a target
weight. -/
structure SizedTrade (portfolio : PortfolioSnapshot) (marketData : MarketDataSnapshot)
    (totalVal targetWeight : Decimal) (price : Price) (rate quantity : Decimal)
    (intent : SecurityTradeIntent) : Prop where
  priceEq : priceOf marketData intent.instrumentId = some price
  rateEq : getFxRate marketData price.currency portfolio.baseCurrency = some rate
  quantityEq : intent.quantity = some quantity
  quantityPos : 0 < quantity
  unitPos : 0 < unitValueOf portfolio price intent.instrumentId
  notionalEq : intent.notional =
    some ⟨quantity * unitValueOf portfolio price intent.instrumentId, price.currency⟩
  notionalBaseEq : intent.notionalBase =
    some ⟨quantity * unitValueOf portfolio price intent.instrumentId * rate,
      portfolio.baseCurrency⟩
  dependenciesEq : intent.dependencies = []
  sideEq : intent.side =
    if totalVal * targetWeight / rate - currentValueOf portfolio price intent.instrumentId > 0
    then .buy else .sell
  quantityLe : quantity ≤
    decimalIntDiv |totalVal * targetWeight / rate -
        currentValueOf portfolio price intent.instrumentId|
      (unitValueOf portfolio price intent.instrumentId)
  saleFits : intent.side = .sell →
    ∃ row, positionOf portfolio intent.instrumentId = some row ∧ quantity ≤ row.quantity

/-- A security trade that the sizing stage could have produced for a target. -/
def IsSizedTrade (portfolio : PortfolioSnapshot) (marketData : MarketDataSnapshot)
    (totalVal : Decimal) (targets : List (String × Decimal)) (intent : SecurityTradeIntent) :
    Prop :=
  ∃ targetWeight price rate quantity, (intent.instrumentId, targetWeight) ∈ targets ∧
    SizedTrade portfolio marketData totalVal targetWeight price rate quantity intent

theorem SizedCandidate.sizedTrade
    (h : SizedCandidate portfolio shelf options totalVal instrumentId targetWeight price rate
      candidate) (hprice : priceOf marketData instrumentId = some price)
    (hrate : getFxRate marketData price.currency portfolio.baseCurrency = some rate)
    (hpos : 0 < candidate.quantity) (intentId : String) (taxAware : Bool) :
    SizedTrade portfolio marketData totalVal targetWeight price rate candidate.quantity
      (securityTradeIntent intentId candidate portfolio.baseCurrency taxAware) := by
  have hid : (securityTradeIntent intentId candidate portfolio.baseCurrency taxAware).instrumentId
      = instrumentId := h.instrument
  constructor
  · rw [hid, hprice]
  · exact hrate
  · rfl
  · exact hpos
  · rw [hid]
    exact h.unit_pos hpos
  · rw [hid, ← h.unit, ← h.currency]
    rfl
  · rw [hid, ← h.unit, ← h.baseRate]
    rfl
  · rfl
  · rw [hid]
    exact h.side
  · rw [hid, ← h.requested]
    exact h.quantityLe
  · intro hsell
    rw [hid]
    exact h.saleFits hpos hsell

/-- The intents of the sizing loop are sized trades of distinct instruments, each
one among the targets that were sized. -/
def SizedIntents (portfolio : PortfolioSnapshot) (marketData : MarketDataSnapshot)
    (totalVal : Decimal) (sized : List (String × Decimal)) (intents : List SecurityTradeIntent) :
    Prop :=
  (∀ intent ∈ intents, IsSizedTrade portfolio marketData totalVal sized intent) ∧
    (intents.map (·.instrumentId)).Sublist (sized.map Prod.fst)

theorem IsSizedTrade.mono {targets targets' : List (String × Decimal)}
    (hsub : targets ⊆ targets') {intent : SecurityTradeIntent}
    (h : IsSizedTrade portfolio marketData totalVal targets intent) :
    IsSizedTrade portfolio marketData totalVal targets' intent := by
  obtain ⟨weight, price, rate, quantity, hmem, hsized⟩ := h
  exact ⟨weight, price, rate, quantity, hsub hmem, hsized⟩

theorem generateIntentStep_sized {sized : List (String × Decimal)} {state state' : IntentState}
    (hinv : SizedIntents portfolio marketData totalVal sized state.intents)
    (h : generateIntentStep portfolio marketData shelf options totalVal state target = .ok state') :
    SizedIntents portfolio marketData totalVal (sized ++ [target]) state'.intents := by
  have hskip : SizedIntents portfolio marketData totalVal (sized ++ [target]) state.intents := by
    refine ⟨fun intent hmem => (hinv.1 intent hmem).mono (List.subset_append_left _ _), ?_⟩
    rw [List.map_append]
    exact hinv.2.trans (List.sublist_append_left _ _)
  rcases generateIntentStep_cases h with ⟨_, hsame, _⟩ | ⟨price, rate, candidate, sizing, hprice,
    hrate, hsized, _, ⟨_, hsame⟩ | ⟨_, hpos, hadd⟩⟩
  · rw [hsame]
    exact hskip
  · rw [hsame]
    exact hskip
  · have hspec := sizedCandidate_spec hsized
    rw [hadd]
    refine ⟨?_, ?_⟩
    · intro intent hmem
      rcases List.mem_append.mp hmem with hold | hnew
      · exact hskip.1 intent hold
      · rw [List.mem_singleton.mp hnew]
        refine ⟨target.2, price, rate, candidate.quantity, ?_,
          hspec.sizedTrade hprice hrate hpos _ _⟩
        refine List.mem_append_right _ (List.mem_singleton.mpr ?_)
        exact Prod.ext hspec.instrument rfl
    · rw [List.map_append, List.map_append]
      refine hinv.2.append ?_
      change [candidate.instrumentId].Sublist [target.1]
      rw [hspec.instrument]

theorem generateIntents_sized {intents : List SecurityTradeIntent} {taxImpact : Option TaxImpact}
    (h : generateIntents portfolio marketData targets shelf options totalVal diagnostics
      = .ok (intents, taxImpact, diagnostics')) :
    (∀ intent ∈ intents, IsSizedTrade portfolio marketData totalVal
        (targetWeightByInstrument targets).items intent) ∧
      (intents.map (·.instrumentId)).Nodup := by
  unfold generateIntents at h
  split at h
  · cases h
  · rename_i state hloop
    cases h
    have hinv := generateIntentsLoop_induction
      (fun sized state => SizedIntents portfolio marketData totalVal sized state.intents)
      (fun _ _ _ _ hinv hstep => generateIntentStep_sized hinv hstep)
      (targetWeightByInstrument targets).items [] ⟨[], ⟨initialTaxBudget options, diagnostics⟩⟩
      state ⟨fun _ hmem => absurd hmem List.not_mem_nil, List.nil_sublist _⟩ hloop
    exact ⟨hinv.1, (targetWeightByInstrument targets).nodup.sublist hinv.2⟩

theorem unitValueOf_ne_zero_of_generateIntents
    {sized : List SecurityTradeIntent × Option TaxImpact × DiagnosticsData}
    (h : generateIntents portfolio marketData targets shelf options totalVal diagnostics
      = .ok sized) :
    ∀ target ∈ (targetWeightByInstrument targets).items, ∀ price rate,
      priceOf marketData target.1 = some price →
      getFxRate marketData price.currency portfolio.baseCurrency = some rate →
      unitValueOf portfolio price target.1 ≠ 0 := by
  unfold generateIntents at h
  split at h
  · cases h
  · rename_i state hloop
    refine generateIntentsLoop_induction
      (fun sized _ => ∀ target ∈ sized, ∀ price rate, priceOf marketData target.1 = some price →
        getFxRate marketData price.currency portfolio.baseCurrency = some rate →
        unitValueOf portfolio price target.1 ≠ 0)
      ?_ (targetWeightByInstrument targets).items [] _ state
      (fun _ hmem => absurd hmem List.not_mem_nil) hloop
    intro sized target state state' hinv hstep other hmem price rate hprice hrate
    rcases List.mem_append.mp hmem with hold | hnew
    · exact hinv other hold price rate hprice hrate
    · rw [List.mem_singleton.mp hnew] at hprice ⊢
      rcases generateIntentStep_cases hstep with ⟨hmissing, _⟩ | ⟨price', rate', candidate, sizing,
        hprice', _, hsized, _⟩
      · exact absurd ⟨price, rate, hprice, hrate⟩ hmissing
      · rw [hprice] at hprice'
        cases hprice'
        exact (sizedCandidate_spec hsized).unitNeZero

end Loop

end LotusManage.Engine
