import LotusManage.Engine.RunFacts
import Mathlib.Algebra.Group.Prod
import Mathlib.Algebra.Order.Monoid.Prod
import Mathlib.Algebra.Order.BigOperators.Group.List

/-!
# The gains that a run reports

The lot scan of a sale adds the gain or loss of what each lot gives to the
accumulator of the run.  Seen from outside, a scan that allowed a quantity has
realized what that quantity realizes when it is taken from the lots in scan
order, whatever the budget was (`lotScan_realizes`).  So the accumulator after
the sizing stage holds the gains and losses of every sized sale.

Two filters come later: the minimum notional inside the loop, and the turnover
limit after it.  A sale that they discard has already been added.
`taxImpact_of_trades_iff` says that the reported impact is that of the trades of
the result exactly when the discarded sales realize nothing.
-/

namespace LotusManage.Engine

/-! ## What a quantity realizes -/

/-- A gain and a loss, both as amounts that are not negative. -/
abbrev Realized := Decimal × Decimal

/-- A signed result as gain and loss. -/
def realizedAmount (amount : Decimal) : Realized := (max amount 0, max (-amount) 0)

/-- What a quantity realizes when it is taken from the lots in their order. -/
def consumeLots (sellPrice baseRate : Decimal) : List (TaxLot × Decimal) → Decimal → Realized
  | [], _ => 0
  | (lot, lotUnitCost) :: lots, quantity =>
    if quantity ≤ 0 then 0
    else
      let taken := min quantity lot.quantity
      realizedAmount ((sellPrice - lotUnitCost) * baseRate * taken) +
        consumeLots sellPrice baseRate lots (quantity - taken)

/-- What a quantity realizes when it is taken from the lots of a position, from the
highest cost down. -/
def realizedFromLots (position : Option Position) (priceCcy : String)
    (marketData : MarketDataSnapshot) (sellPrice baseRate quantity : Decimal) : Realized :=
  match position with
  | none => 0
  | some position =>
    match hifoSortedLots position priceCcy marketData with
    | .error _ => 0
    | .ok lots => consumeLots sellPrice baseRate lots quantity

/-- What the sale of a quantity of an instrument realizes. -/
def realizedBySale (portfolio : PortfolioSnapshot) (marketData : MarketDataSnapshot)
    (instrumentId : String) (quantity : Decimal) : Realized :=
  match priceOf marketData instrumentId with
  | none => 0
  | some price =>
    match getFxRate marketData price.currency portfolio.baseCurrency with
    | none => 0
    | some rate =>
      realizedFromLots (positionOf portfolio instrumentId) price.currency marketData
        (unitValueOf portfolio price instrumentId) rate quantity

/-- What a trade realizes. -/
def tradeRealized (portfolio : PortfolioSnapshot) (marketData : MarketDataSnapshot)
    (trade : SecurityTradeIntent) : Realized :=
  match trade.side, trade.quantity with
  | .sell, some quantity => realizedBySale portfolio marketData trade.instrumentId quantity
  | _, _ => 0

variable {quantity : Decimal} {options : EngineOptions}

variable (position : Option Position) (priceCcy : String) (marketData : MarketDataSnapshot)
  (sellPrice baseRate : Decimal)

theorem realizedAmount_nonneg (amount : Decimal) : 0 ≤ realizedAmount amount :=
  ⟨le_max_right _ _, le_max_right _ _⟩

@[simp] theorem realizedAmount_zero : realizedAmount 0 = 0 := by
  simp [realizedAmount]

theorem consumeLots_of_nonpos (lots : List (TaxLot × Decimal)) (h : quantity ≤ 0) :
    consumeLots sellPrice baseRate lots quantity = 0 := by
  cases lots with
  | nil => rfl
  | cons entry lots => exact if_pos h

theorem consumeLots_nonneg (sellPrice baseRate : Decimal) :
    ∀ (lots : List (TaxLot × Decimal)) (quantity : Decimal),
      0 ≤ consumeLots sellPrice baseRate lots quantity
  | [], _ => le_refl _
  | (lot, cost) :: lots, quantity => by
    show 0 ≤ if quantity ≤ 0 then 0 else _
    split
    · exact le_refl _
    · exact add_nonneg (realizedAmount_nonneg _) (consumeLots_nonneg sellPrice baseRate lots _)

theorem consumeLots_cons {sellPrice baseRate : Decimal} {lot : TaxLot} {cost : Decimal}
    {lots : List (TaxLot × Decimal)} (hquantity : 0 ≤ quantity) {taken : Decimal}
    (htaken : taken = min quantity lot.quantity) :
    consumeLots sellPrice baseRate ((lot, cost) :: lots) quantity =
      realizedAmount ((sellPrice - cost) * baseRate * taken) +
        consumeLots sellPrice baseRate lots (quantity - taken) := by
  rw [consumeLots]
  split
  · rename_i hle
    have hzero : quantity = 0 := le_antisymm hle hquantity
    have hnone : taken = 0 := by
      rw [htaken, hzero]
      exact min_eq_left lot.quantityNonneg
    rw [hnone, hzero, mul_zero, realizedAmount_zero, sub_zero, zero_add,
      consumeLots_of_nonpos _ _ _ (le_refl 0)]
  · rw [htaken]

/-! ## The lot scan -/

/-- An accumulator after a sale: gain, loss and used budget have grown by what the
sale realized. -/
structure AddsRealized (before after : TaxBudgetAccumulator) (realized : Realized) : Prop where
  gain : after.totalRealizedGainBase = before.totalRealizedGainBase + realized.1
  loss : after.totalRealizedLossBase = before.totalRealizedLossBase + realized.2
  used : after.taxBudgetUsedBase = before.taxBudgetUsedBase + realized.1

theorem AddsRealized.refl (taxBudget : TaxBudgetAccumulator) : AddsRealized taxBudget taxBudget 0 :=
  ⟨(add_zero _).symm, (add_zero _).symm, (add_zero _).symm⟩

theorem AddsRealized.trans {first second third : TaxBudgetAccumulator} {a b : Realized}
    (h : AddsRealized first second a) (h' : AddsRealized second third b) :
    AddsRealized first third (a + b) := by
  refine ⟨?_, ?_, ?_⟩
  · rw [h'.gain, h.gain, Prod.fst_add, add_assoc]
  · rw [h'.loss, h.loss, Prod.snd_add, add_assoc]
  · rw [h'.used, h.used, Prod.fst_add, add_assoc]

theorem addsRealized_lotAllowance (allowance : TaxBudgetLotAllowance)
    (taxBudget : TaxBudgetAccumulator) :
    AddsRealized taxBudget (applyTaxBudgetLotAllowance allowance taxBudget)
      (realizedAmount allowance.realizedBase) := by
  unfold applyTaxBudgetLotAllowance realizedAmount
  split
  · rename_i hgain
    rw [max_eq_left hgain, max_eq_right (neg_nonpos.mpr hgain)]
    exact ⟨rfl, (add_zero _).symm, rfl⟩
  · rename_i hloss
    have hneg := not_le.mp hloss
    rw [max_eq_right hneg.le, max_eq_left (neg_nonneg.mpr hneg.le), abs_of_neg hneg]
    exact ⟨(add_zero _).symm, rfl, (add_zero _).symm⟩

theorem taxBudgetSaleAllowance_spec {remaining lotQuantity lotUnitCost sellPrice baseRate : Decimal}
    {taxBudget : TaxBudgetAccumulator} {allowance : TaxBudgetLotAllowance}
    (h : taxBudgetSaleAllowance remaining lotQuantity lotUnitCost sellPrice baseRate taxBudget =
      some allowance) :
    0 ≤ allowance.allowedQuantity ∧ allowance.allowedQuantity ≤ allowance.requestedQuantity ∧
      allowance.requestedQuantity = min remaining lotQuantity ∧
      allowance.realizedBase =
        (sellPrice - lotUnitCost) * baseRate * allowance.allowedQuantity := by
  unfold taxBudgetSaleAllowance at h
  split at h
  · cases h
  · rename_i hremaining
    split at h
    · cases h
    · rename_i hlot
      cases h
      have hsell : 0 ≤ min remaining lotQuantity :=
        le_min (not_le.mp hremaining).le (not_le.mp hlot).le
      exact ⟨taxBudgetAllowedLotQuantity_nonneg hsell _ _, taxBudgetAllowedLotQuantity_le hsell _ _,
        rfl, rfl⟩

theorem lotScan_realizes (sellPrice baseRate : Decimal) :
    ∀ (lots : List (TaxLot × Decimal)) (remaining allowedQty : Decimal)
      (taxBudget : TaxBudgetAccumulator), 0 ≤ remaining →
      ∃ taken, 0 ≤ taken ∧ taken ≤ remaining ∧
        (lotScan sellPrice baseRate lots remaining allowedQty taxBudget).1 = allowedQty + taken ∧
        AddsRealized taxBudget
          (lotScan sellPrice baseRate lots remaining allowedQty taxBudget).2
          (consumeLots sellPrice baseRate lots taken)
  | [], remaining, allowedQty, taxBudget, h =>
    ⟨0, le_refl _, h, (add_zero _).symm, AddsRealized.refl _⟩
  | (lot, cost) :: lots, remaining, allowedQty, taxBudget, h => by
    rw [lotScan]
    split
    · rename_i hnone
      split
      · refine ⟨0, le_refl _, h, (add_zero _).symm, ?_⟩
        rw [consumeLots_of_nonpos _ _ _ (le_refl 0)]
        exact AddsRealized.refl _
      · rename_i hstop
        -- the lot is empty: it gives nothing to the quantity either
        have hempty : lot.quantity = 0 := by
          refine le_antisymm ?_ lot.quantityNonneg
          by_contra hlot
          have hremaining : ¬ remaining ≤ 0 := by simpa [taxBudgetAllowanceStopsLotScan] using hstop
          rw [taxBudgetSaleAllowance, if_neg hremaining, if_neg hlot] at hnone
          cases hnone
        obtain ⟨taken, h0, hle, hscan, hadds⟩ := lotScan_realizes sellPrice baseRate lots remaining
          allowedQty taxBudget h
        refine ⟨taken, h0, hle, hscan, ?_⟩
        rw [consumeLots_cons h0 (show (0 : Decimal) = min taken lot.quantity by
          rw [hempty, min_eq_right h0]), mul_zero, realizedAmount_zero, sub_zero, zero_add]
        exact hadds
    · rename_i allowance hallow
      obtain ⟨hnonneg, hle, hrequested, hrealized⟩ := taxBudgetSaleAllowance_spec hallow
      have hlot : allowance.allowedQuantity ≤ lot.quantity :=
        le_trans hle (hrequested ▸ min_le_right _ _)
      have hremaining : allowance.allowedQuantity ≤ remaining :=
        le_trans hle (hrequested ▸ min_le_left _ _)
      have hone := addsRealized_lotAllowance allowance taxBudget
      rw [hrealized] at hone
      dsimp only
      split
      · -- the scan stops here, so the lot gives the whole of the allowed quantity
        refine ⟨allowance.allowedQuantity, hnonneg, hremaining, rfl, ?_⟩
        rw [consumeLots_cons hnonneg (min_eq_left hlot).symm, sub_self,
          consumeLots_of_nonpos _ _ _ (le_refl 0), add_zero]
        exact hone
      · rename_i hgoes
        obtain ⟨taken, h0, htaken, hscan, hadds⟩ := lotScan_realizes sellPrice baseRate lots
          (remaining - allowance.allowedQuantity) (allowedQty + allowance.allowedQuantity)
          (applyTaxBudgetLotAllowance allowance taxBudget) (by linarith)
        refine ⟨allowance.allowedQuantity + taken, by linarith, by linarith, ?_, ?_⟩
        · rw [hscan, add_assoc]
        · -- the lot gave all that was asked for: the whole lot, or the last units
          have hall : allowance.allowedQuantity = min remaining lot.quantity := by
            rw [← hrequested]
            refine le_antisymm hle ?_
            by_contra hlt
            exact hgoes (by simp [taxBudgetAllowanceStopsLotScan, not_le.mp hlt])
          have hfirst : allowance.allowedQuantity =
              min (allowance.allowedQuantity + taken) lot.quantity := by
            rcases le_total remaining lot.quantity with hlast | hwhole
            · rw [min_eq_left hlast] at hall
              have hzero : taken = 0 := le_antisymm (by linarith) h0
              rw [hzero, add_zero, min_eq_left hlot]
            · rw [min_eq_right hwhole] at hall
              rw [hall, min_eq_right (by linarith)]
          rw [consumeLots_cons (by linarith) hfirst, add_sub_cancel_left]
          exact hone.trans hadds

/-! ## One candidate -/

theorem realizedFromLots_of_nonpos (h : quantity ≤ 0) :
    realizedFromLots position priceCcy marketData sellPrice baseRate quantity = 0 := by
  unfold realizedFromLots
  split
  · rfl
  · split
    · rfl
    · exact consumeLots_of_nonpos _ _ _ h

theorem realizedFromLots_nonneg (quantity : Decimal) :
    0 ≤ realizedFromLots position priceCcy marketData sellPrice baseRate quantity := by
  unfold realizedFromLots
  split
  · exact le_refl _
  · split
    · exact le_refl _
    · exact consumeLots_nonneg _ _ _ _

theorem taxBudgetLimitedSellQuantity_realizes {requestedQty : Decimal} (h : 0 ≤ requestedQty)
    (instrumentId : String) (htax : options.enableTaxAwareness = true) (position : Option Position)
    (sellPrice : Decimal) (priceCcy : String) (baseRate : Decimal) (marketData : MarketDataSnapshot)
    (taxBudget : TaxBudgetAccumulator) (diagnostics : DiagnosticsData) :
    let sale := taxBudgetLimitedSellQuantity instrumentId options position requestedQty sellPrice
      priceCcy baseRate marketData taxBudget diagnostics
    AddsRealized taxBudget sale.taxBudget
      (realizedFromLots position priceCcy marketData sellPrice baseRate sale.quantity) := by
  -- a sale that the lots do not support is empty
  have hempty : AddsRealized taxBudget taxBudget
      (realizedFromLots position priceCcy marketData sellPrice baseRate 0) := by
    rw [realizedFromLots_of_nonpos _ _ _ _ _ (le_refl 0)]
    exact AddsRealized.refl _
  unfold taxBudgetLimitedSellQuantity
  rw [if_neg (by simp [htax])]
  cases position with
  | none => exact hempty
  | some row =>
    dsimp only
    split
    · exact hempty
    · split
      · exact hempty
      · cases hlots : hifoSortedLots row priceCcy marketData with
        | error pair => exact hempty
        | ok lots =>
          obtain ⟨taken, _, _, hscan, hadds⟩ := lotScan_realizes sellPrice baseRate lots
            requestedQty 0 taxBudget h
          rw [zero_add] at hscan
          simp only [taxBudgetLimitedQuantityFromLots, realizedFromLots, hlots]
          rw [hscan]
          exact hadds

theorem sellQuantityAfterSafetyLimits_realizes (instrumentId : String) (side : Side)
    (requestedQuantity : Decimal) (position : Option Position)
    (htax : options.enableTaxAwareness = true) (sellPrice : Decimal) (priceCurrency : String)
    (baseRate : Decimal) (marketData : MarketDataSnapshot) (taxBudget : TaxBudgetAccumulator)
    (diagnostics : DiagnosticsData) :
    let limited := sellQuantityAfterSafetyLimits instrumentId side requestedQuantity
      position options
      sellPrice priceCurrency baseRate marketData taxBudget diagnostics
    AddsRealized taxBudget limited.2.1 (match side with
      | .buy => 0
      | .sell => realizedFromLots position priceCurrency marketData sellPrice baseRate
          limited.1.quantity) := by
  unfold sellQuantityAfterSafetyLimits
  split
  · rename_i hnone
    cases side with
    | buy => exact AddsRealized.refl _
    | sell =>
      have hle : requestedQuantity ≤ 0 := by simpa using hnone
      dsimp only
      rw [realizedFromLots_of_nonpos _ _ _ _ _ hle]
      exact AddsRealized.refl _
  · rename_i hsale
    rw [not_or, not_not, not_le] at hsale
    obtain ⟨rfl, hrequested⟩ := hsale
    have hclamped := (clampedSellQuantity_spec hrequested position diagnostics).1
    exact taxBudgetLimitedSellQuantity_realizes hclamped instrumentId htax position sellPrice
      priceCurrency baseRate marketData taxBudget _

/-- What a candidate realizes. -/
def candidateRealized (portfolio : PortfolioSnapshot) (marketData : MarketDataSnapshot)
    (candidate : TargetIntentContext) : Realized :=
  match candidate.side with
  | .buy => 0
  | .sell => realizedBySale portfolio marketData candidate.instrumentId candidate.quantity

section Sizing

variable {portfolio : PortfolioSnapshot} {marketData : MarketDataSnapshot}
  {shelf : List ShelfEntry} {options : EngineOptions} {totalVal : Decimal}

theorem candidateRealized_nonneg (candidate : TargetIntentContext) :
    0 ≤ candidateRealized portfolio marketData candidate := by
  unfold candidateRealized realizedBySale
  split
  · exact le_refl _
  · split
    · exact le_refl _
    · split
      · exact le_refl _
      · exact realizedFromLots_nonneg _ _ _ _ _ _

theorem tradeRealized_securityTradeIntent (intentId : String) (candidate : TargetIntentContext)
    (baseCcy : String) (taxAware : Bool) :
    tradeRealized portfolio marketData (securityTradeIntent intentId candidate baseCcy taxAware) =
      candidateRealized portfolio marketData candidate := by
  unfold tradeRealized candidateRealized securityTradeIntent
  dsimp only
  cases candidate.side <;> rfl

theorem sizedCandidate_realizes (htax : options.enableTaxAwareness = true) {instrumentId : String}
    {targetWeight : Decimal} {price : Price} {rate : Decimal}
    (hprice : priceOf marketData instrumentId = some price)
    (hrate : getFxRate marketData price.currency portfolio.baseCurrency = some rate)
    {state state' : SizingState} {candidate : TargetIntentContext}
    (h : sizedCandidate instrumentId targetWeight portfolio marketData shelf options totalVal price
      rate state = .ok (candidate, state')) :
    AddsRealized state.taxBudget state'.taxBudget
      (candidateRealized portfolio marketData candidate) := by
  unfold sizedCandidate at h
  dsimp only at h
  split at h
  · cases h
  · rename_i tradeDelta _
    cases h
    have hadds := sellQuantityAfterSafetyLimits_realizes instrumentId tradeDelta.side
      tradeDelta.rawQuantity (positionOf portfolio instrumentId) htax
      (unitValueOf portfolio price instrumentId) price.currency rate marketData state.taxBudget
      state.diagnostics
    unfold candidateRealized realizedBySale
    dsimp only
    rw [hprice]
    dsimp only
    rw [hrate]
    exact hadds

/-! ## The candidates of a sizing stage -/

/-- The candidate that a turn of the loop sizes, with the accumulator that it
meets. -/
def sizedStep (portfolio : PortfolioSnapshot) (marketData : MarketDataSnapshot)
    (shelf : List ShelfEntry) (options : EngineOptions) (totalVal : Decimal) (state : IntentState)
    (target : String × Decimal) : List (TargetIntentContext × TaxBudgetAccumulator) :=
  match intentMarketContext target.1 portfolio marketData state.sizing.diagnostics with
  | .error _ => []
  | .ok (price, rate) =>
    match sizedCandidate target.1 target.2 portfolio marketData shelf options totalVal price rate
        state.sizing with
    | .error _ => []
    | .ok (candidate, _) => [(candidate, state.sizing.taxBudget)]

/-- The candidates that the loop sizes, before any filter, each with the accumulator
that it meets. -/
def sizedCandidates (portfolio : PortfolioSnapshot) (marketData : MarketDataSnapshot)
    (shelf : List ShelfEntry) (options : EngineOptions) (totalVal : Decimal) :
    List (String × Decimal) → IntentState → List (TargetIntentContext × TaxBudgetAccumulator)
  | [], _ => []
  | target :: targets, state =>
    sizedStep portfolio marketData shelf options totalVal state target ++
      match generateIntentStep portfolio marketData shelf options totalVal state target with
      | .error _ => []
      | .ok state => sizedCandidates portfolio marketData shelf options totalVal targets state

/-- One turn sizes nothing, or one candidate, which it may or may not turn into a
trade. -/
theorem generateIntentStep_realizes (htax : options.enableTaxAwareness = true)
    {state next : IntentState} {target : String × Decimal}
    (h : generateIntentStep portfolio marketData shelf options totalVal state target = .ok next) :
    (sizedStep portfolio marketData shelf options totalVal state target = [] ∧
      next.intents = state.intents ∧ next.sizing.taxBudget = state.sizing.taxBudget) ∨
    ∃ candidate, sizedStep portfolio marketData shelf options totalVal state target =
        [(candidate, state.sizing.taxBudget)] ∧
      candidate.instrumentId = target.1 ∧
      AddsRealized state.sizing.taxBudget next.sizing.taxBudget
        (candidateRealized portfolio marketData candidate) ∧
      (next.intents = state.intents ∨ ∃ intentId, next.intents = state.intents ++
        [securityTradeIntent intentId candidate portfolio.baseCurrency
          options.enableTaxAwareness]) := by
  rcases generateIntentStep_cases h with ⟨hmissing, hintents, hbudget⟩ | ⟨price, rate, candidate,
    sizing, hprice, hrate, hsized, hbudget, hkept⟩
  · refine Or.inl ⟨?_, hintents, hbudget⟩
    unfold sizedStep
    split
    · rfl
    · rename_i price rate hmarket
      obtain ⟨hprice, hrate⟩ := intentMarketContext_eq_ok hmarket
      exact absurd ⟨price, rate, hprice, hrate⟩ hmissing
  · refine Or.inr ⟨candidate, ?_, (sizedCandidate_spec hsized).instrument, ?_, ?_⟩
    · rw [sizedStep, intentMarketContext, hprice]
      simp only [hrate, hsized]
    · rw [hbudget]
      exact sizedCandidate_realizes htax hprice hrate hsized
    · rcases hkept with ⟨_, hsame⟩ | ⟨_, _, hadd⟩
      · exact Or.inl hsame
      · exact Or.inr ⟨_, hadd⟩

/-- What the candidates of a loop have to do with its outcome. -/
structure SizingRealizes (portfolio : PortfolioSnapshot) (marketData : MarketDataSnapshot)
    (candidates : List (TargetIntentContext × TaxBudgetAccumulator))
    (targets : List (String × Decimal)) (state final : IntentState) : Prop where
  adds : AddsRealized state.sizing.taxBudget final.sizing.taxBudget
    (candidates.map fun entry => candidateRealized portfolio marketData entry.1).sum
  instruments : (candidates.map fun entry => entry.1.instrumentId).Sublist (targets.map Prod.fst)
  trades : ∀ trade ∈ final.intents, trade ∈ state.intents ∨ ∃ entry ∈ candidates,
    trade.instrumentId = entry.1.instrumentId ∧
      tradeRealized portfolio marketData trade = candidateRealized portfolio marketData entry.1
  meets : ∀ earlier entry later, candidates = earlier ++ entry :: later →
    entry.2.taxBudgetUsedBase = state.sizing.taxBudget.taxBudgetUsedBase +
      (earlier.map fun entry => candidateRealized portfolio marketData entry.1).sum.1

theorem generateIntentsLoop_realizes (htax : options.enableTaxAwareness = true) :
    ∀ (targets : List (String × Decimal)) (state final : IntentState),
      generateIntentsLoop portfolio marketData shelf options totalVal targets state = .ok final →
      SizingRealizes portfolio marketData
        (sizedCandidates portfolio marketData shelf options totalVal targets state) targets state
        final
  | [], state, final, h => by
    rw [generateIntentsLoop] at h
    cases h
    refine ⟨AddsRealized.refl _, List.nil_sublist _, fun _ htrade => Or.inl htrade, ?_⟩
    intro earlier entry later hsplit
    exact absurd hsplit.symm (by simp [sizedCandidates])
  | target :: targets, state, final, h => by
    rw [generateIntentsLoop] at h
    split at h
    · cases h
    · rename_i next hnext
      have ih := generateIntentsLoop_realizes htax targets next final h
      rw [sizedCandidates, hnext]
      dsimp only
      rcases generateIntentStep_realizes htax hnext with ⟨hnone, hintents, hbudget⟩ | ⟨candidate,
        hone, hid, hadds, hkept⟩
      · rw [hnone, List.nil_append]
        refine ⟨?_, ih.instruments.cons _, ?_, ?_⟩
        · rw [← hbudget]
          exact ih.adds
        · rw [← hintents]
          exact ih.trades
        · rw [← hbudget]
          exact ih.meets
      · rw [hone, List.singleton_append]
        refine ⟨?_, ?_, ?_, ?_⟩
        · rw [List.map_cons, List.sum_cons]
          exact hadds.trans ih.adds
        · rw [List.map_cons, List.map_cons, hid]
          exact ih.instruments.cons_cons _
        · intro trade htrade
          rcases ih.trades trade htrade with hold | ⟨entry, hentry, hsame⟩
          · rcases hkept with hsameIntents | ⟨intentId, hadd⟩
            · rw [hsameIntents] at hold
              exact Or.inl hold
            · rw [hadd] at hold
              rcases List.mem_append.mp hold with hold | hnew
              · exact Or.inl hold
              · refine Or.inr ⟨(candidate, state.sizing.taxBudget), List.mem_cons_self, ?_⟩
                rw [List.mem_singleton.mp hnew, tradeRealized_securityTradeIntent]
                exact ⟨rfl, rfl⟩
          · exact Or.inr ⟨entry, List.mem_cons_of_mem _ hentry, hsame⟩
        · intro earlier entry later hsplit
          cases earlier with
          | nil =>
            cases hsplit
            rw [List.map_nil, List.sum_nil, Prod.fst_zero, add_zero]
          | cons first earlier =>
            rw [List.cons_append, List.cons.injEq] at hsplit
            obtain ⟨rfl, hrest⟩ := hsplit
            rw [ih.meets earlier entry later hrest, hadds.used, List.map_cons, List.sum_cons,
              Prod.fst_add, add_assoc]

end Sizing

/-! ## The impact of a run -/

section Run

variable {backend : SolverBackend} {input : RunInput}

/-- The candidates of the sizing stage of a run. -/
def RunInput.candidates (backend : SolverBackend) (input : RunInput) :
    List (TargetIntentContext × TaxBudgetAccumulator) :=
  match input.targetStage backend with
  | .error _ => []
  | .ok stage =>
    match input.compareTargetMethodsIfRequested backend stage with
    | .error _ => []
    | .ok (_, diagnostics) =>
      sizedCandidates input.portfolio input.marketData input.shelf input.options input.totalValue
        (targetWeightByInstrument stage.trace).items
        ⟨[], ⟨initialTaxBudget input.options, diagnostics⟩⟩

variable (run : ExecutedRun backend input)

theorem ExecutedRun.candidates_eq :
    input.candidates backend = sizedCandidates input.portfolio input.marketData input.shelf
      input.options input.totalValue (targetWeightByInstrument run.stage.trace).items
      ⟨[], ⟨initialTaxBudget input.options, run.comparedDiagnostics⟩⟩ := by
  unfold RunInput.candidates
  rw [run.stageEq]
  dsimp only
  rw [run.comparisonEq]

/-- What a candidate of a run realizes. -/
def RunInput.realized (input : RunInput) (entry : TargetIntentContext × TaxBudgetAccumulator) :
    Realized :=
  candidateRealized input.portfolio input.marketData entry.1

theorem ExecutedRun.sizing_realizes (htax : input.options.enableTaxAwareness = true) :
    ∃ final, run.intents = final.intents ∧
      run.taxImpact = some (taxImpactFromBudget final.sizing.taxBudget
        input.portfolio.baseCurrency) ∧
      SizingRealizes input.portfolio input.marketData (input.candidates backend)
        (targetWeightByInstrument run.stage.trace).items
        ⟨[], ⟨initialTaxBudget input.options, run.comparedDiagnostics⟩⟩ final := by
  have hsizing := run.sizingEq
  unfold RunInput.sizing generateIntents at hsizing
  split at hsizing
  · cases hsizing
  · rename_i final hloop
    rw [if_pos htax] at hsizing
    have hparts := Prod.mk.inj (Except.ok.inj hsizing)
    refine ⟨final, hparts.1.symm, (Prod.mk.inj hparts.2).1.symm, ?_⟩
    rw [run.candidates_eq]
    exact generateIntentsLoop_realizes htax _ _ _ hloop

theorem ExecutedRun.nodup_candidates (run : ExecutedRun backend input)
    (htax : input.options.enableTaxAwareness = true) :
    ((input.candidates backend).map fun entry => entry.1.instrumentId).Nodup := by
  obtain ⟨final, _, _, hrealizes⟩ := run.sizing_realizes htax
  exact (targetWeightByInstrument run.stage.trace).nodup.sublist hrealizes.instruments

theorem ExecutedRun.candidate_of_trade (htax : input.options.enableTaxAwareness = true)
    {trade : SecurityTradeIntent} (hmem : trade ∈ securityTrades run.ordered) :
    ∃ entry ∈ input.candidates backend, trade.instrumentId = entry.1.instrumentId ∧
      tradeRealized input.portfolio input.marketData trade = input.realized entry := by
  obtain ⟨final, hintents, _, hrealizes⟩ := run.sizing_realizes htax
  have hcore := run.trades_perm.mem_iff.mp (List.mem_map_of_mem hmem)
  obtain ⟨kept, hkept, hcoreEq⟩ := List.mem_map.mp hcore
  have hsub : run.keptTrades.Subperm run.intents := applyTurnoverLimit_subperm _ _ _ _ _
  have hfinal : kept ∈ final.intents := hintents ▸ hsub.subset hkept
  rcases hrealizes.trades kept hfinal with hnil | ⟨entry, hentry, hid, hsame⟩
  · exact absurd hnil List.not_mem_nil
  · refine ⟨entry, hentry, ?_, ?_⟩
    · exact (congrArg SecurityTradeIntent.instrumentId hcoreEq).symm.trans hid
    · exact (congrArg (tradeRealized input.portfolio input.marketData) hcoreEq).symm.trans hsame

/-- Whether an instrument is traded by a list of intents. -/
def tradesInstrument (intents : List OrderIntent) (instrumentId : String) : Bool :=
  (securityTrades intents).any fun trade => trade.instrumentId = instrumentId

theorem ExecutedRun.sum_reported (htax : input.options.enableTaxAwareness = true) :
    (((input.candidates backend).filter fun entry =>
        tradesInstrument run.ordered entry.1.instrumentId).map input.realized).sum =
      ((securityTrades run.ordered).map
        (tradeRealized input.portfolio input.marketData)).sum := by
  have hnodup := run.nodup_candidates htax
  refine Rows.sum_map_eq_of_keys (fun entry => entry.1.instrumentId) (·.instrumentId) ?_
    run.trades_sized.2 ?_ ?_
  · exact hnodup.sublist (List.filter_sublist.map _)
  · intro id
    constructor
    · intro h
      obtain ⟨entry, hentry, rfl⟩ := List.mem_map.mp h
      obtain ⟨trade, htrade, hid⟩ := List.any_eq_true.mp (List.mem_filter.mp hentry).2
      exact List.mem_map.mpr ⟨trade, htrade, by simpa using hid⟩
    · intro h
      obtain ⟨trade, htrade, rfl⟩ := List.mem_map.mp h
      obtain ⟨entry, hentry, hid, _⟩ := run.candidate_of_trade htax htrade
      refine List.mem_map.mpr ⟨entry, List.mem_filter.mpr ⟨hentry, ?_⟩, hid.symm⟩
      exact List.any_eq_true.mpr ⟨trade, htrade, by simpa using hid⟩
  · intro entry hentry trade htrade hid
    obtain ⟨other, hother, hotherId, hsame⟩ := run.candidate_of_trade htax htrade
    have heq : entry = other := List.inj_on_of_nodup_map hnodup (List.mem_filter.mp hentry).1 hother
      (hid.trans hotherId)
    rw [heq, hsame]

/-- The reported impact is that of the trades of the result, and the sales that are
not among them took nothing from the budget that later candidates met. -/
structure TaxImpactOfTrades (backend : SolverBackend) (input : RunInput) (result : RebalanceResult)
    (impact : TaxImpact) : Prop where
  gain : impact.totalRealizedGain.amount =
    ((securityTrades result.intents).map (tradeRealized input.portfolio input.marketData)).sum.1
  loss : impact.totalRealizedLoss.amount =
    ((securityTrades result.intents).map (tradeRealized input.portfolio input.marketData)).sum.2
  budget : ∀ earlier entry later, input.candidates backend = earlier ++ entry :: later →
    entry.2.taxBudgetUsedBase = ((earlier.filter fun entry =>
      tradesInstrument result.intents entry.1.instrumentId).map input.realized).sum.1

/-- The sales that the minimum notional or the turnover limit discards realize
neither a gain nor a loss. -/
def DiscardedSalesRealizeNothing (backend : SolverBackend) (input : RunInput)
    (result : RebalanceResult) : Prop :=
  ∀ entry ∈ input.candidates backend,
    tradesInstrument result.intents entry.1.instrumentId = false → input.realized entry = 0

theorem sum_realized_split (input : RunInput) (reported : String → Bool)
    (candidates : List (TargetIntentContext × TaxBudgetAccumulator)) :
    (candidates.map input.realized).sum =
      ((candidates.filter fun entry => reported entry.1.instrumentId).map input.realized).sum +
        ((candidates.filter fun entry => !reported entry.1.instrumentId).map
          input.realized).sum := by
  rw [← List.sum_append, ← List.map_append]
  exact ((List.filter_append_perm _ candidates).map _).sum_eq.symm

theorem sum_realized_of_discarded {reported : String → Bool}
    {candidates : List (TargetIntentContext × TaxBudgetAccumulator)}
    (h : ∀ entry ∈ candidates, reported entry.1.instrumentId = false → input.realized entry = 0) :
    (candidates.map input.realized).sum =
      ((candidates.filter fun entry => reported entry.1.instrumentId).map input.realized).sum := by
  rw [sum_realized_split input reported, add_eq_left]
  refine List.sum_eq_zero fun realized hmem => ?_
  obtain ⟨entry, hentry, rfl⟩ := List.mem_map.mp hmem
  obtain ⟨hcandidate, hdiscarded⟩ := List.mem_filter.mp hentry
  exact h entry hcandidate (by simpa using hdiscarded)

theorem ExecutedRun.impact_eq (htax : input.options.enableTaxAwareness = true) {impact : TaxImpact}
    (himpact : run.taxImpact = some impact) :
    (impact.totalRealizedGain.amount, impact.totalRealizedLoss.amount) =
      ((input.candidates backend).map input.realized).sum := by
  obtain ⟨final, _, hfinal, hrealizes⟩ := run.sizing_realizes htax
  rw [himpact] at hfinal
  cases hfinal
  refine Prod.ext ?_ ?_
  · exact hrealizes.adds.gain.trans (zero_add _)
  · exact hrealizes.adds.loss.trans (zero_add _)

/-- With tax awareness, the reported impact is that of the trades of the result if
and only if the discarded sales realize nothing. -/
theorem taxImpact_of_trades_iff (backend : SolverBackend) (input : RunInput)
    (result : RebalanceResult) (impact : TaxImpact)
    (htax : input.options.enableTaxAwareness = true)
    (h : runSimulation backend input = .ok result) (himpact : result.taxImpact = some impact) :
    TaxImpactOfTrades backend input result impact ↔
      DiscardedSalesRealizeNothing backend input result := by
  rcases runSimulation_cases h with ⟨trace, diagnostics, rfl⟩ | ⟨run, after, hafter, rfl⟩
  · cases himpact
  · have hintents : (run.result after).intents = run.ordered := run.intents_execution hafter
    have htotal := run.impact_eq htax himpact
    have hreported := run.sum_reported htax
    constructor
    · rintro ⟨hgain, hloss, _⟩ entry hentry hdiscarded
      rw [hintents] at hgain hloss hdiscarded
      -- what the discarded candidates realize is the rest of the reported sum
      have hrest : (((input.candidates backend).filter fun entry =>
          !tradesInstrument run.ordered entry.1.instrumentId).map input.realized).sum = 0 := by
        have hsplit := sum_realized_split input (tradesInstrument run.ordered)
          (input.candidates backend)
        rw [← htotal, hreported, hgain, hloss] at hsplit
        exact left_eq_add.mp hsplit
      refine List.all_zero_of_le_zero_le_of_sum_eq_zero ?_ hrest (List.mem_map_of_mem
        (List.mem_filter.mpr ⟨hentry, by simpa using hdiscarded⟩))
      intro realized hmem
      obtain ⟨other, _, rfl⟩ := List.mem_map.mp hmem
      exact candidateRealized_nonneg other.1
    · intro hdiscarded
      have hsum := sum_realized_of_discarded hdiscarded
      rw [hintents] at hsum
      rw [hreported, ← htotal] at hsum
      refine ⟨?_, ?_, ?_⟩
      · rw [hintents, ← hsum]
      · rw [hintents, ← hsum]
      · intro earlier entry later hsplit
        obtain ⟨final, _, _, hrealizes⟩ := run.sizing_realizes htax
        rw [hrealizes.meets earlier entry later hsplit]
        change 0 + (earlier.map input.realized).sum.1 = _
        rw [zero_add, sum_realized_of_discarded]
        intro other hother
        exact hdiscarded other (hsplit ▸ List.mem_append_left _ hother)

instance (backend : SolverBackend) (input : RunInput) (result : RebalanceResult) :
    Decidable (DiscardedSalesRealizeNothing backend input result) :=
  inferInstanceAs (Decidable (∀ entry ∈ input.candidates backend,
    tradesInstrument result.intents entry.1.instrumentId = false → input.realized entry = 0))

end Run

/-- Ten units bought at fifty and quoted at one hundred; the model sells one of
them. -/
def taxedHoldingInput (minTradeNotional : Option Money) : RunInput :=
  { portfolio :=
      { portfolioId := "pf_taxed"
        baseCurrency := "USD"
        positions := [⟨"AAA", 10, none, [⟨"L1", 10, ⟨50, "USD"⟩, "2024-01-02", by decide +kernel⟩]⟩]
        cashBalances := [] }
    marketData := { prices := [⟨"AAA", 100, "USD"⟩] }
    model := ⟨[⟨"AAA", 9 / 10⟩]⟩
    shelf := [{ instrumentId := "AAA", status := .approved }]
    options := { enableTaxAwareness := true, minTradeNotional := minTradeNotional } }

/-- Without a minimum notional the sale is reported with its gain. -/
theorem taxImpact_of_reported_sale :
    ∃ result impact, runSimulation .notInstalled (taxedHoldingInput none) = .ok result ∧
      result.taxImpact = some impact ∧ impact.totalRealizedGain = ⟨50, "USD"⟩ ∧
      TaxImpactOfTrades .notInstalled (taxedHoldingInput none) result impact := by
  obtain ⟨result, hresult, htest⟩ := exists_result_of_evaluates .notInstalled
    (taxedHoldingInput none)
    (fun result => decide (
      result.taxImpact.map (·.totalRealizedGain) = some ⟨50, "USD"⟩ ∧
        DiscardedSalesRealizeNothing .notInstalled (taxedHoldingInput none) result))
    (by decide +kernel)
  obtain ⟨hgain, hdiscarded⟩ := of_decide_eq_true htest
  obtain ⟨impact, himpact, hamount⟩ := Option.map_eq_some_iff.mp hgain
  exact ⟨result, impact, hresult, himpact, hamount,
    (taxImpact_of_trades_iff _ _ result impact rfl hresult himpact).mpr hdiscarded⟩

/-- With a minimum notional above the sale, the sale is suppressed and its gain is
still reported. -/
theorem suppressed_sale_reported :
    ∃ result impact, runSimulation .notInstalled (taxedHoldingInput (some ⟨500, "USD"⟩)) =
        .ok result ∧
      result.intents = [] ∧ result.taxImpact = some impact ∧
      impact.totalRealizedGain = ⟨50, "USD"⟩ ∧
      ¬ TaxImpactOfTrades .notInstalled (taxedHoldingInput (some ⟨500, "USD"⟩)) result impact := by
  obtain ⟨result, hresult, htest⟩ := exists_result_of_evaluates .notInstalled
    (taxedHoldingInput (some ⟨500, "USD"⟩))
    (fun result => decide (result.intents = [] ∧
      result.taxImpact.map (·.totalRealizedGain) = some ⟨50, "USD"⟩)) (by decide +kernel)
  obtain ⟨hintents, hgain⟩ := of_decide_eq_true htest
  obtain ⟨impact, himpact, hamount⟩ := Option.map_eq_some_iff.mp hgain
  refine ⟨result, impact, hresult, hintents, himpact, hamount, ?_⟩
  rintro ⟨hreported, _, _⟩
  rw [hintents, hamount] at hreported
  exact absurd hreported (by decide +kernel)

end LotusManage.Engine
