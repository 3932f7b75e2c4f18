import LotusManage.Engine.LotSelection

/-!
# The gains budget of a sizing stage

One accumulator serves all sales of `generate_intents`.  `generateIntentsBudgets`
lists the values that it passes through, lot by lot and sale by sale.  Every
change takes one lot: a gain is added to the realized gain and to the used
budget alike, a loss to the realized loss alone (`BudgetStep`).  So the used
budget is the realized gain, and it never passes the limit of the options.

What a sale takes from each lot is `saleRows`.  With tax awareness the sized
quantity of a sale is the sum of its rows.  Without it no lot is read: the sized
quantity is the requested one, clamped to the holding.
-/

namespace LotusManage.Engine

open LotusManage.Allocations LotusManage.Runs

/-! ## The scan that a sale reaches -/

/-- The lots that a sale scans, when it reaches the lot scan: with tax awareness, for a
position whose lots cover the quantity and all have costs. -/
def scannedLots (options : EngineOptions) (position : Option Position) (requestedQty : Decimal)
    (priceCcy : String) (marketData : MarketDataSnapshot) : Option (List (TaxLot × Decimal)) :=
  if !options.enableTaxAwareness then none
  else
    match position with
    | none => none
    | some position =>
      if position.lots = [] ∨ !taxLotQuantityCovered position requestedQty then none
      else
        match hifoSortedLots position priceCcy marketData with
        | .error _ => none
        | .ok lots => some lots

variable {requestedQuantity : Decimal} {marketData : MarketDataSnapshot}
  {lots : List (TaxLot × Decimal)} {options : EngineOptions} {before after : TaxBudgetAccumulator}

/-- A limited sale is its lot scan when it reaches one; otherwise the accumulator is
kept, and the quantity is all that is requested or nothing. -/
theorem taxBudgetLimitedSellQuantity_scan (instrumentId : String) (options : EngineOptions)
    (position : Option Position) (requestedQty sellPrice : Decimal) (priceCcy : String)
    (baseRate : Decimal) (marketData : MarketDataSnapshot) (taxBudget : TaxBudgetAccumulator)
    (diagnostics : DiagnosticsData) :
    let sale := taxBudgetLimitedSellQuantity instrumentId options position requestedQty sellPrice
      priceCcy baseRate marketData taxBudget diagnostics
    match scannedLots options position requestedQty priceCcy marketData with
    | some lots =>
      options.enableTaxAwareness = true ∧
      sale.quantity = (taxBudgetLimitedQuantityFromLots lots requestedQty sellPrice baseRate
          taxBudget).1 ∧
        sale.taxBudget = (taxBudgetLimitedQuantityFromLots lots requestedQty sellPrice baseRate
          taxBudget).2
    | none => sale.taxBudget = taxBudget ∧
        sale.quantity = if options.enableTaxAwareness then 0 else requestedQty := by
  unfold taxBudgetLimitedSellQuantity scannedLots
  cases options.enableTaxAwareness with
  | false => exact ⟨rfl, rfl⟩
  | true =>
    cases position with
    | none => exact ⟨rfl, rfl⟩
    | some row =>
      by_cases hlots : row.lots = []
      · simp [hlots, incompleteTaxLots]
      · cases hcovered : taxLotQuantityCovered row requestedQty with
        | false => simp [hlots, hcovered, incompleteTaxLots]
        | true =>
          cases hsorted : hifoSortedLots row priceCcy marketData with
          | error pair => simp [hlots, hcovered, hsorted, incompleteTaxLots]
          | ok lots => simp [hlots, hcovered, hsorted]

/-- The quantity that a sale asks of the lots: the requested one, clamped to the
holding. -/
def clampedHolding (requestedQuantity : Decimal) (position : Option Position) : Decimal :=
  min requestedQuantity (max ((position.map (·.quantity)).getD 0) 0)

theorem clampedSellQuantity_eq (h : 0 < requestedQuantity) (position : Option Position)
    (diagnostics : DiagnosticsData) :
    (clampedSellQuantity requestedQuantity position diagnostics).1 =
      clampedHolding requestedQuantity position := by
  have key : ∀ available : Decimal,
      (if requestedQuantity ≤ available then (requestedQuantity, diagnostics)
        else (max available 0,
          diagnostics.warnOnce "SELL_QUANTITY_CLAMPED_TO_AVAILABLE_HOLDING")).1 =
        min requestedQuantity (max available 0) := by
    intro available
    split
    · rename_i hle
      rw [min_eq_left (hle.trans (le_max_left _ _))]
    · rename_i hgt
      rw [min_eq_right (max_le (not_le.mp hgt).le h.le)]
  cases position with
  | none => exact key 0
  | some row => exact key row.quantity

/-- What a sale takes from the lots of the position; nothing when it does not reach the
lot scan. -/
def saleRows (options : EngineOptions) (side : Side) (requestedQuantity : Decimal)
    (position : Option Position) (sellPrice : Decimal) (priceCurrency : String)
    (baseRate : Decimal) (marketData : MarketDataSnapshot) (taxBudget : TaxBudgetAccumulator) :
    List ((TaxLot × Decimal) × Decimal) :=
  if side ≠ .sell ∨ requestedQuantity ≤ 0 then []
  else
    match scannedLots options position (clampedHolding requestedQuantity position) priceCurrency
        marketData with
    | none => []
    | some lots =>
      lotAllocation sellPrice baseRate lots (clampedHolding requestedQuantity position) taxBudget

/-- The accumulators that a sale passes through after the one that it meets. -/
def saleBudgets (options : EngineOptions) (side : Side) (requestedQuantity : Decimal)
    (position : Option Position) (sellPrice : Decimal) (priceCurrency : String)
    (baseRate : Decimal) (marketData : MarketDataSnapshot) (taxBudget : TaxBudgetAccumulator) :
    List TaxBudgetAccumulator :=
  if side ≠ .sell ∨ requestedQuantity ≤ 0 then []
  else
    match scannedLots options position (clampedHolding requestedQuantity position) priceCurrency
        marketData with
    | none => []
    | some lots =>
      lotScanBudgets sellPrice baseRate lots (clampedHolding requestedQuantity position) taxBudget

theorem clampedHolding_nonneg (h : 0 < requestedQuantity) (position : Option Position) :
    0 ≤ clampedHolding requestedQuantity position :=
  le_min h.le (le_max_right _ _)

theorem sellQuantityAfterSafetyLimits_passes (instrumentId : String) (side : Side)
    (requestedQuantity : Decimal) (position : Option Position) (options : EngineOptions)
    (sellPrice : Decimal) (priceCurrency : String) (baseRate : Decimal)
    (marketData : MarketDataSnapshot) (taxBudget : TaxBudgetAccumulator)
    (diagnostics : DiagnosticsData) :
    Passes LotTaken taxBudget
      (saleBudgets options side requestedQuantity position sellPrice priceCurrency baseRate
        marketData taxBudget)
      (sellQuantityAfterSafetyLimits instrumentId side requestedQuantity position options sellPrice
        priceCurrency baseRate marketData taxBudget diagnostics).2.1 := by
  unfold sellQuantityAfterSafetyLimits saleBudgets
  split
  · exact Passes.stay taxBudget
  · rename_i hsale
    rw [not_or, not_not, not_le] at hsale
    have hscan := taxBudgetLimitedSellQuantity_scan instrumentId options position
      (clampedHolding requestedQuantity position) sellPrice priceCurrency baseRate marketData
      taxBudget (clampedSellQuantity requestedQuantity position diagnostics).2
    dsimp only at hscan ⊢
    rw [clampedSellQuantity_eq hsale.2]
    split
    · rename_i hnone
      rw [hnone] at hscan
      rw [hscan.1]
      exact Passes.stay taxBudget
    · rename_i lots hsome
      rw [hsome] at hscan
      rw [hscan.2.2]
      exact lotScan_passes _ _ _ _ _ _

/-- A sized sale: its quantity against the holding, and against what it takes from the
lots. -/
structure SaleTakes (options : EngineOptions) (position : Option Position)
    (requestedQuantity quantity : Decimal) (rows : List ((TaxLot × Decimal) × Decimal)) : Prop where
  nonneg : 0 ≤ quantity
  holding : quantity ≤ clampedHolding requestedQuantity position
  taxAware : options.enableTaxAwareness = true → quantity = total rows
  taxUnaware : options.enableTaxAwareness = false →
    quantity = clampedHolding requestedQuantity position ∧ rows = []
  within : ∀ row ∈ rows, 0 ≤ row.2 ∧ row.2 ≤ lotQuantity row.1
  distinct : (rows.map fun row => row.1.1).Subperm ((position.map (·.lots)).getD [])

theorem map_fst_lotsWithCost {instrumentCcy : String} {marketData : MarketDataSnapshot} :
    ∀ {lots : List TaxLot} {costs : List (TaxLot × Decimal)},
      lotsWithCost instrumentCcy marketData lots = .ok costs → costs.map Prod.fst = lots
  | [], costs, h => by
    cases h
    rfl
  | lot :: lots, costs, h => by
    rw [lotsWithCost] at h
    split at h
    · cases h
    · split at h
      · cases h
      · rename_i rest hrest
        cases h
        rw [List.map_cons, map_fst_lotsWithCost hrest]

theorem perm_hifoSortedLots {position : Position} {priceCcy : String}
    (h : hifoSortedLots position priceCcy marketData = .ok lots) :
    (lots.map Prod.fst).Perm position.lots := by
  unfold hifoSortedLots at h
  cases hcosts : lotsWithCost priceCcy marketData position.lots with
  | error pair =>
    rw [hcosts] at h
    cases h
  | ok costs =>
    rw [hcosts] at h
    cases h
    rw [← map_fst_lotsWithCost hcosts]
    exact (List.perm_insertionSort _ costs).map Prod.fst

theorem perm_scannedLots {position : Option Position} {requestedQty : Decimal} {priceCcy : String}
    (h : scannedLots options position requestedQty priceCcy marketData = some lots) :
    (lots.map Prod.fst).Perm ((position.map (·.lots)).getD []) := by
  unfold scannedLots at h
  split at h
  · cases h
  · cases position with
    | none => cases h
    | some row =>
      dsimp only at h
      split at h
      · cases h
      · split at h
        · cases h
        · rename_i hsorted
          cases h
          exact perm_hifoSortedLots hsorted

theorem sellQuantityAfterSafetyLimits_takes (instrumentId : String) (h : 0 < requestedQuantity)
    (position : Option Position) (options : EngineOptions) (sellPrice : Decimal)
    (priceCurrency : String) (baseRate : Decimal) (marketData : MarketDataSnapshot)
    (taxBudget : TaxBudgetAccumulator) (diagnostics : DiagnosticsData) :
    SaleTakes options position requestedQuantity
      (sellQuantityAfterSafetyLimits instrumentId .sell requestedQuantity position options sellPrice
        priceCurrency baseRate marketData taxBudget diagnostics).1.quantity
      (saleRows options .sell requestedQuantity position sellPrice priceCurrency baseRate marketData
        taxBudget) := by
  have hclamped := clampedHolding_nonneg h position
  have hskip : ¬ (Side.sell ≠ .sell ∨ requestedQuantity ≤ 0) := by simpa using h
  unfold sellQuantityAfterSafetyLimits saleRows
  rw [if_neg hskip, if_neg hskip]
  dsimp only
  rw [clampedSellQuantity_eq h]
  have hscan := taxBudgetLimitedSellQuantity_scan instrumentId options position
    (clampedHolding requestedQuantity position) sellPrice priceCurrency baseRate marketData
    taxBudget (clampedSellQuantity requestedQuantity position diagnostics).2
  dsimp only at hscan ⊢
  cases hlots : scannedLots options position (clampedHolding requestedQuantity position)
      priceCurrency marketData with
  | none =>
    rw [hlots] at hscan
    rw [hscan.2]
    cases htax : options.enableTaxAwareness with
    | true =>
      exact ⟨le_refl _, hclamped, fun _ => rfl, fun hoff => absurd (htax ▸ hoff) (by decide),
        fun row hmem => absurd hmem List.not_mem_nil, List.nil_subperm⟩
    | false =>
      exact ⟨hclamped, le_refl _, fun hon => absurd (htax ▸ hon) (by decide), fun _ => ⟨rfl, rfl⟩,
        fun row hmem => absurd hmem List.not_mem_nil, List.nil_subperm⟩
  | some lots =>
    rw [hlots] at hscan
    obtain ⟨htax, hquantity, _⟩ := hscan
    have htakes := lotScan_takes sellPrice baseRate lots
      (clampedHolding requestedQuantity position) 0 taxBudget hclamped
    rw [hquantity, taxBudgetLimitedQuantityFromLots, htakes.quantity, zero_add]
    refine ⟨total_nonneg fun row hmem => (htakes.within row hmem).1, htakes.le, fun _ => rfl,
      fun hoff => absurd (htax ▸ hoff) (by decide), htakes.within, ?_⟩
    have hperm := perm_scannedLots hlots
    rw [← htakes.lotsEq, List.map_map] at hperm
    exact hperm.subperm

/-! ## The accumulator of a sizing stage -/

section Stage

variable (portfolio : PortfolioSnapshot) (marketData : MarketDataSnapshot)
  (shelf : List ShelfEntry) (options : EngineOptions) (totalVal : Decimal)

/-- What a sized candidate takes from the lots, with the accumulator that it meets. -/
def candidateRows (sized : TargetIntentContext × TaxBudgetAccumulator) :
    List ((TaxLot × Decimal) × Decimal) :=
  saleRows options sized.1.side sized.1.requestedQuantity
    (positionOf portfolio sized.1.instrumentId) sized.1.unitValue sized.1.priceCurrency
    sized.1.baseRate marketData sized.2

/-- The accumulators that the sizing of a candidate passes through. -/
def candidateBudgets (sized : TargetIntentContext × TaxBudgetAccumulator) :
    List TaxBudgetAccumulator :=
  saleBudgets options sized.1.side sized.1.requestedQuantity
    (positionOf portfolio sized.1.instrumentId) sized.1.unitValue sized.1.priceCurrency
    sized.1.baseRate marketData sized.2

/-- The accumulators that the loop of `generate_intents` passes through after the one
that it starts with. -/
def generateIntentsBudgets (targets : List (String × Decimal)) (state : IntentState) :
    List TaxBudgetAccumulator :=
  (sizedCandidates portfolio marketData shelf options totalVal targets state).flatMap
    (candidateBudgets portfolio marketData options)

variable {portfolio marketData shelf options totalVal}

theorem sizedCandidate_passes {instrumentId : String} {targetWeight : Decimal} {price : Price}
    {rate : Decimal} {state state' : SizingState} {candidate : TargetIntentContext}
    (h : sizedCandidate instrumentId targetWeight portfolio marketData shelf options totalVal price
      rate state = .ok (candidate, state')) :
    Passes LotTaken state.taxBudget
      (candidateBudgets portfolio marketData options (candidate, state.taxBudget))
      state'.taxBudget := by
  unfold sizedCandidate at h
  dsimp only at h
  split at h
  · cases h
  · cases h
    exact sellQuantityAfterSafetyLimits_passes _ _ _ _ _ _ _ _ _ _ _

variable (portfolio marketData shelf options totalVal) in
/-- One turn of the loop changes the accumulator only by the lots that its candidate
takes. -/
theorem generateIntentStep_passes (state : IntentState) (target : String × Decimal) :
    ∃ last, Passes LotTaken state.sizing.taxBudget
        ((sizedStep portfolio marketData shelf options totalVal state target).flatMap
          (candidateBudgets portfolio marketData options)) last ∧
      ∀ next, generateIntentStep portfolio marketData shelf options totalVal state target =
        .ok next → next.sizing.taxBudget = last := by
  unfold sizedStep
  cases hmarket : intentMarketContext target.1 portfolio marketData state.sizing.diagnostics with
  | error missing =>
    refine ⟨_, Passes.stay _, fun next hnext => ?_⟩
    rw [generateIntentStep, targetIntentContext, hmarket] at hnext
    cases hnext
    rfl
  | ok context =>
    obtain ⟨price, rate⟩ := context
    dsimp only
    cases hsized : sizedCandidate target.1 target.2 portfolio marketData shelf options totalVal
        price rate state.sizing with
    | error failure =>
      refine ⟨_, Passes.stay _, fun next hnext => ?_⟩
      rw [generateIntentStep, targetIntentContext, hmarket] at hnext
      simp only [hsized] at hnext
      cases hnext
    | ok sized =>
      obtain ⟨candidate, sizing⟩ := sized
      refine ⟨sizing.taxBudget, ?_, fun next hnext => ?_⟩
      · rw [List.flatMap_singleton]
        exact sizedCandidate_passes hsized
      · rcases generateIntentStep_cases hnext with ⟨hmissing, _, _⟩ | ⟨price', rate', candidate',
          sizing', hprice, hrate, hsized', hbudget, _⟩
        · obtain ⟨hprice, hrate⟩ := intentMarketContext_eq_ok hmarket
          exact absurd ⟨price, rate, hprice, hrate⟩ hmissing
        · obtain ⟨hprice', hrate'⟩ := intentMarketContext_eq_ok hmarket
          rw [hprice'] at hprice
          cases hprice
          rw [hrate'] at hrate
          cases hrate
          rw [hsized] at hsized'
          cases hsized'
          exact hbudget

variable (portfolio marketData shelf options totalVal) in
/-- The whole loop changes the accumulator only by the lots that its sales take. -/
theorem generateIntentsLoop_passes :
    ∀ (targets : List (String × Decimal)) (state : IntentState),
      ∃ last, Passes LotTaken state.sizing.taxBudget
          (generateIntentsBudgets portfolio marketData shelf options totalVal targets state) last ∧
        ∀ final, generateIntentsLoop portfolio marketData shelf options totalVal targets state =
          .ok final → final.sizing.taxBudget = last
  | [], state => by
    refine ⟨_, Passes.stay _, fun final hfinal => ?_⟩
    rw [generateIntentsLoop] at hfinal
    cases hfinal
    rfl
  | target :: targets, state => by
    obtain ⟨last, hpasses, hlast⟩ := generateIntentStep_passes portfolio marketData shelf options
      totalVal state target
    rw [generateIntentsBudgets, sizedCandidates, List.flatMap_append, generateIntentsLoop]
    cases hnext : generateIntentStep portfolio marketData shelf options totalVal state target with
    | error failure =>
      dsimp only
      rw [List.flatMap_nil, List.append_nil]
      exact ⟨last, hpasses, fun final hfinal => by cases hfinal⟩
    | ok next =>
      dsimp only
      obtain ⟨final, htail, hfinal⟩ := generateIntentsLoop_passes targets next
      rw [hlast next hnext] at htail
      exact ⟨final, hpasses.append htail, hfinal⟩

theorem candidate_of_mem_sizedCandidates :
    ∀ (targets : List (String × Decimal)) (state : IntentState),
      ∀ sized ∈ sizedCandidates portfolio marketData shelf options totalVal targets state,
        ∃ diagnostics, sized.1.quantity = (sellQuantityAfterSafetyLimits sized.1.instrumentId
          sized.1.side sized.1.requestedQuantity (positionOf portfolio sized.1.instrumentId) options
          sized.1.unitValue sized.1.priceCurrency sized.1.baseRate marketData sized.2
          diagnostics).1.quantity
  | [], state, sized, hmem => absurd hmem List.not_mem_nil
  | target :: targets, state, sized, hmem => by
    rw [sizedCandidates] at hmem
    rcases List.mem_append.mp hmem with hfirst | hlater
    · unfold sizedStep at hfirst
      split at hfirst
      · exact absurd hfirst List.not_mem_nil
      · split at hfirst
        · exact absurd hfirst List.not_mem_nil
        · rename_i hsized
          rw [List.mem_singleton] at hfirst
          cases hfirst
          unfold sizedCandidate at hsized
          dsimp only at hsized
          split at hsized
          · cases hsized
          · cases hsized
            exact ⟨state.sizing.diagnostics, rfl⟩
    · split at hlater
      · exact absurd hlater List.not_mem_nil
      · exact candidate_of_mem_sizedCandidates targets _ sized hlater

end Stage

/-! ## The budget is kept -/

/-- One change of the accumulator: a gain is added to the realized gain and to the used
budget, or a loss to the realized loss alone. -/
inductive BudgetStep (before after : TaxBudgetAccumulator) : Prop
  | gain (amount : Decimal) (nonneg : 0 ≤ amount)
      (eq : after = { before with
        totalRealizedGainBase := before.totalRealizedGainBase + amount
        taxBudgetUsedBase := before.taxBudgetUsedBase + amount })
  | loss (amount : Decimal) (pos : 0 < amount)
      (eq : after = { before with
        totalRealizedLossBase := before.totalRealizedLossBase + amount })

theorem LotTaken.budgetStep (h : LotTaken before after) : BudgetStep before after := by
  obtain ⟨_, _, _, _, _, allowance, _, rfl⟩ := h
  unfold applyTaxBudgetLotAllowance
  split
  · rename_i hgain
    exact BudgetStep.gain allowance.realizedBase hgain rfl
  · rename_i hloss
    exact BudgetStep.loss |allowance.realizedBase| (abs_pos.mpr (ne_of_lt (not_le.mp hloss))) rfl

/-- The used budget is the realized gain, and it is within the limit of the options. -/
structure BudgetKept (options : EngineOptions) (taxBudget : TaxBudgetAccumulator) : Prop where
  used : taxBudget.taxBudgetUsedBase = taxBudget.totalRealizedGainBase
  limit : taxBudget.taxBudgetLimitBase = options.maxRealizedCapitalGains
  within : ∀ limit, options.maxRealizedCapitalGains = some limit →
    taxBudget.taxBudgetUsedBase ≤ limit

theorem BudgetKept.initial (h : ∀ limit, options.maxRealizedCapitalGains = some limit → 0 ≤ limit) :
    BudgetKept options (initialTaxBudget options) :=
  ⟨rfl, rfl, h⟩

theorem BudgetKept.lotTaken (h : BudgetKept options before) (htaken : LotTaken before after) :
    BudgetKept options after := by
  have hwithin : WithinLimit before := fun limit hlimit => h.within limit (h.limit ▸ hlimit)
  obtain ⟨hsame, hafter⟩ := htaken.withinLimit hwithin
  refine ⟨?_, hsame.trans h.limit, fun limit hlimit => hafter limit ?_⟩
  · cases htaken.budgetStep with
    | gain amount _ heq =>
      rw [heq]
      exact congrArg (· + amount) h.used
    | loss amount _ heq =>
      rw [heq]
      exact h.used
  · rw [hsame, h.limit, hlimit]

/-- The gains budget over a whole sizing stage.  The accumulator changes only by gains,
added to the realized gain and the used budget alike, and by losses, added to the
realized loss alone; so in all the values it passes through the used budget is the
realized gain and within the limit.  A sale of a positive quantity is sized between
zero and the clamped holding: with tax awareness to the sum of what it takes from
the lots, without it to the clamped holding.  A sale of no positive quantity is left
as it is. -/
theorem tax_budget_never_exceeded (portfolio : PortfolioSnapshot)
    (marketData : MarketDataSnapshot) (targets : List TargetInstrument) (shelf : List ShelfEntry)
    (options : EngineOptions) (totalVal : Decimal) (diagnostics : DiagnosticsData)
    (hlimit : ∀ limit, options.maxRealizedCapitalGains = some limit → 0 ≤ limit) :
    let items := (targetWeightByInstrument targets).items
    let start : IntentState := ⟨[], ⟨initialTaxBudget options, diagnostics⟩⟩
    let passed := generateIntentsBudgets portfolio marketData shelf options totalVal items start
    (∃ last, Passes BudgetStep (initialTaxBudget options) passed last ∧ BudgetKept options last ∧
      ∀ final, generateIntentsLoop portfolio marketData shelf options totalVal items start =
        .ok final → final.sizing.taxBudget = last) ∧
    (∀ taxBudget ∈ passed, BudgetKept options taxBudget) ∧
    ∀ sized ∈ sizedCandidates portfolio marketData shelf options totalVal items start,
      sized.1.side = .sell →
      (0 < sized.1.requestedQuantity →
        SaleTakes options (positionOf portfolio sized.1.instrumentId) sized.1.requestedQuantity
          sized.1.quantity (candidateRows portfolio marketData options sized)) ∧
      (sized.1.requestedQuantity ≤ 0 →
        sized.1.quantity = sized.1.requestedQuantity ∧
          candidateRows portfolio marketData options sized = []) := by
  dsimp only
  obtain ⟨last, hpasses, hlast⟩ := generateIntentsLoop_passes portfolio marketData shelf options
    totalVal (targetWeightByInstrument targets).items ⟨[], ⟨initialTaxBudget options, diagnostics⟩⟩
  obtain ⟨hpassed, hend⟩ := hpasses.invariant (BudgetKept options)
    (fun _ _ htaken hkept => hkept.lotTaken htaken) (BudgetKept.initial hlimit)
  refine ⟨⟨last, hpasses.mono fun _ _ htaken => htaken.budgetStep, hend, hlast⟩, hpassed, ?_⟩
  intro sized hsized hsell
  obtain ⟨before, hquantity⟩ := candidate_of_mem_sizedCandidates _ _ sized hsized
  rw [hsell] at hquantity
  rw [candidateRows, hsell, hquantity]
  constructor
  · intro hpos
    exact sellQuantityAfterSafetyLimits_takes _ hpos _ _ _ _ _ _ _ _
  · intro hnone
    rw [sellQuantityAfterSafetyLimits, saleRows, if_pos (Or.inr hnone), if_pos (Or.inr hnone)]
    exact ⟨rfl, rfl⟩

/-- Two taxed positions of ten units, each bought at fifty and quoted at one hundred. -/
def twoTaxedPositions : PortfolioSnapshot :=
  { portfolioId := "pf_two_taxed"
    baseCurrency := "USD"
    positions := [
      ⟨"AAA", 10, none, [⟨"A1", 10, ⟨50, "USD"⟩, "2024-01-02", ten_nonneg⟩]⟩,
      ⟨"BBB", 10, none, [⟨"B1", 10, ⟨50, "USD"⟩, "2024-01-02", ten_nonneg⟩]⟩]
    cashBalances := [] }

/-- Both positions at a price of one hundred. -/
def twoTaxedPrices : MarketDataSnapshot :=
  { prices := [⟨"AAA", 100, "USD"⟩, ⟨"BBB", 100, "USD"⟩] }

/-- Targets that sell everything. -/
def sellEverything : List TargetInstrument :=
  [⟨"AAA", 0, 0, ⟨0, "USD"⟩, []⟩, ⟨"BBB", 0, 0, ⟨0, "USD"⟩, []⟩]

/-- With a budget of six hundred, the first sale uses five hundred and the second one two
units' worth, and the accumulator ends at the limit. -/
theorem tax_budget_two_positions :
    let options : EngineOptions :=
      { enableTaxAwareness := true, maxRealizedCapitalGains := some 600 }
    let passed := generateIntentsBudgets twoTaxedPositions twoTaxedPrices [] options 2000
      (targetWeightByInstrument sellEverything).items
      ⟨[], ⟨initialTaxBudget options, makeDiagnosticsData⟩⟩
    passed.map (·.taxBudgetUsedBase) = [500, 600] ∧
      ∀ taxBudget ∈ passed, BudgetKept options taxBudget := by
  refine ⟨by decide +kernel, ?_⟩
  exact (tax_budget_never_exceeded twoTaxedPositions twoTaxedPrices sellEverything []
    { enableTaxAwareness := true, maxRealizedCapitalGains := some 600 } 2000 makeDiagnosticsData
    (by decide +kernel)).2.1

/-- The same sale without tax awareness, and a short position at a negative price. -/
theorem sized_sale_not_from_lots :
    (∃ sized ∈ sizedCandidates twoTaxedPositions twoTaxedPrices [] {} 2000
        (targetWeightByInstrument sellEverything).items
        ⟨[], ⟨initialTaxBudget {}, makeDiagnosticsData⟩⟩,
      sized.1.side = .sell ∧ sized.1.quantity = 10 ∧
        total (candidateRows twoTaxedPositions twoTaxedPrices {} sized) = 0) ∧
    ∃ sized ∈ sizedCandidates
        { twoTaxedPositions with positions := [⟨"AAA", -5, none, []⟩] }
        { prices := [⟨"AAA", -100, "USD"⟩] } [] { enableTaxAwareness := true } 2000
        (targetWeightByInstrument [⟨"AAA", 0, 0, ⟨0, "USD"⟩, []⟩]).items
        ⟨[], ⟨initialTaxBudget {}, makeDiagnosticsData⟩⟩,
      sized.1.side = .sell ∧ sized.1.quantity = -5 := by
  decide +kernel

end LotusManage.Engine
