import LotusManage.Engine.RealizedGains

/-!
# What becomes of every sized candidate

`generate_intents` sizes each target in turn and checks the minimum notional before it
looks whether there is anything to trade.  A candidate with a positive quantity ends in
one place: an intent, a suppressed entry or a blocked evaluation.  A candidate with
nothing to trade is no intent, but the minimum is held against its notional of zero all
the same.

`sizingOutcome` says where a candidate ends, `Accounts` what a stretch of the loop adds
to the three lists, and `sized_trades_accounted` counts the entries of each instrument.
-/

namespace LotusManage.Engine

/-! ## Where a candidate ends -/

inductive SizingOutcome where
  | traded
  | suppressed
  | blocked
  | unaccounted
  deriving DecidableEq

/-- The threshold that a candidate is held against. -/
def activeThreshold (options : EngineOptions) (candidate : TargetIntentContext) : Option Money :=
  if options.suppressDustTrades then candidate.threshold else none

/-- Where a candidate ends that no threshold excludes. -/
def keptOutcome (candidate : TargetIntentContext) : SizingOutcome :=
  if candidate.quantity ≤ 0 then .unaccounted else .traded

/-- Where a candidate ends: the threshold is looked at before the quantity. -/
def sizingOutcome (options : EngineOptions) (marketData : MarketDataSnapshot)
    (candidate : TargetIntentContext) : SizingOutcome :=
  match activeThreshold options candidate with
  | none => keptOutcome candidate
  | some threshold =>
    match (tradeThresholdComparison threshold candidate.priceCurrency
        marketData).comparisonThreshold with
    | none => .blocked
    | some minimum =>
      if candidate.quantity * candidate.unitValue < minimum.amount then .suppressed
      else keptOutcome candidate

/-- The threshold of a candidate has no usable quote. -/
def ThresholdUnquoted (options : EngineOptions) (marketData : MarketDataSnapshot)
    (candidate : TargetIntentContext) : Prop :=
  ∃ threshold, activeThreshold options candidate = some threshold ∧
    (tradeThresholdComparison threshold candidate.priceCurrency marketData).comparisonThreshold =
      none

/-- The threshold of a candidate is worth something in the currency of the price. -/
def ThresholdPositive (options : EngineOptions) (marketData : MarketDataSnapshot)
    (candidate : TargetIntentContext) : Prop :=
  ∃ threshold minimum, activeThreshold options candidate = some threshold ∧
    (tradeThresholdComparison threshold candidate.priceCurrency marketData).comparisonThreshold =
      some minimum ∧ 0 < minimum.amount

section Outcome

variable {options : EngineOptions} {marketData : MarketDataSnapshot}
  {candidate : TargetIntentContext}

theorem keptOutcome_ne (candidate : TargetIntentContext) :
    keptOutcome candidate ≠ .suppressed ∧ keptOutcome candidate ≠ .blocked := by
  unfold keptOutcome
  split <;> exact ⟨fun h => (nomatch h), fun h => (nomatch h)⟩

theorem sizingOutcome_of_inactive (h : activeThreshold options candidate = none) :
    sizingOutcome options marketData candidate = keptOutcome candidate := by
  unfold sizingOutcome
  rw [h]

theorem sizingOutcome_of_unquoted {threshold : Money}
    (h : activeThreshold options candidate = some threshold)
    (hminimum : (tradeThresholdComparison threshold candidate.priceCurrency
      marketData).comparisonThreshold = none) :
    sizingOutcome options marketData candidate = .blocked := by
  unfold sizingOutcome
  rw [h]
  dsimp only
  rw [hminimum]

theorem sizingOutcome_of_quoted {threshold minimum : Money}
    (h : activeThreshold options candidate = some threshold)
    (hminimum : (tradeThresholdComparison threshold candidate.priceCurrency
      marketData).comparisonThreshold = some minimum) :
    sizingOutcome options marketData candidate =
      if candidate.quantity * candidate.unitValue < minimum.amount then .suppressed
      else keptOutcome candidate := by
  unfold sizingOutcome
  rw [h]
  dsimp only
  rw [hminimum]

theorem sizingOutcome_of_pos (h : 0 < candidate.quantity) :
    sizingOutcome options marketData candidate ≠ .unaccounted := by
  have hkept : keptOutcome candidate ≠ .unaccounted := by
    rw [keptOutcome, if_neg (not_le.mpr h)]
    exact fun h => nomatch h
  unfold sizingOutcome
  split
  · exact hkept
  · split
    · exact fun h => nomatch h
    · split
      · exact fun h => nomatch h
      · exact hkept

theorem sizingOutcome_of_zero (h : candidate.quantity = 0) :
    sizingOutcome options marketData candidate ≠ .traded ∧
      (sizingOutcome options marketData candidate = .suppressed ↔
        ThresholdPositive options marketData candidate) ∧
      (sizingOutcome options marketData candidate = .blocked ↔
        ThresholdUnquoted options marketData candidate) := by
  have hkept : keptOutcome candidate = .unaccounted := if_pos h.le
  unfold ThresholdPositive ThresholdUnquoted
  cases hactive : activeThreshold options candidate with
  | none =>
    rw [sizingOutcome_of_inactive hactive, hkept]
    simp
  | some threshold =>
    cases hminimum : (tradeThresholdComparison threshold candidate.priceCurrency
      marketData).comparisonThreshold with
    | none =>
      rw [sizingOutcome_of_unquoted hactive hminimum]
      simp [hminimum]
    | some minimum =>
      rw [sizingOutcome_of_quoted hactive hminimum, h, zero_mul, hkept]
      by_cases hpos : 0 < minimum.amount
      · simp [hminimum, hpos]
      · simp [hminimum, hpos]

end Outcome

/-! ## What a candidate adds to the lists -/

/-- The instruments of the candidates that end in a way. -/
def endingIn (options : EngineOptions) (marketData : MarketDataSnapshot)
    (outcome : SizingOutcome) (candidates : List TargetIntentContext) : List String :=
  (candidates.filter fun candidate => sizingOutcome options marketData candidate = outcome).map
    (·.instrumentId)

variable {options : EngineOptions} {marketData : MarketDataSnapshot}
  {before after between : DiagnosticsData} {candidates : List TargetIntentContext}
  {candidate : TargetIntentContext}

variable (diagnostics : DiagnosticsData) (instrumentId : String)

theorem endingIn_append (options : EngineOptions) (marketData : MarketDataSnapshot)
    (outcome : SizingOutcome) (candidates candidates' : List TargetIntentContext) :
    endingIn options marketData outcome (candidates ++ candidates') =
      endingIn options marketData outcome candidates ++
        endingIn options marketData outcome candidates' := by
  rw [endingIn, List.filter_append, List.map_append]
  rfl

theorem endingIn_singleton (options : EngineOptions) (marketData : MarketDataSnapshot)
    (outcome : SizingOutcome) (candidate : TargetIntentContext) :
    endingIn options marketData outcome [candidate] =
      if sizingOutcome options marketData candidate = outcome then [candidate.instrumentId]
      else [] := by
  unfold endingIn
  by_cases h : sizingOutcome options marketData candidate = outcome
  · rw [if_pos h, List.filter_cons_of_pos (by simpa using h)]
    rfl
  · rw [if_neg h, List.filter_cons_of_neg (by simpa using h)]
    rfl

/-- The evaluation refused its candidate for lack of a quote. -/
def isBlockedEvaluation (evaluation : MinimumTradeThresholdEvaluation) : Bool :=
  evaluation.comparisonOutcome = .blocked

/-- What a list of candidates adds to the suppressed entries and to the evaluations. -/
structure AddsEntries (options : EngineOptions) (marketData : MarketDataSnapshot)
    (candidates : List TargetIntentContext) (before after : DiagnosticsData) : Prop where
  suppressed : ∃ new, after.suppressedIntents = before.suppressedIntents ++ new ∧
    new.map (·.instrumentId) = endingIn options marketData .suppressed candidates
  blocked : ∃ new, after.minimumTradeThresholdEvaluations =
      before.minimumTradeThresholdEvaluations ++ new ∧
    (new.filter isBlockedEvaluation).map (·.instrumentId) =
      endingIn options marketData .blocked candidates

theorem AddsEntries.of_eq (hsuppressed : after.suppressedIntents = before.suppressedIntents)
    (hevaluations : after.minimumTradeThresholdEvaluations =
      before.minimumTradeThresholdEvaluations) : AddsEntries options marketData [] before after :=
  ⟨⟨[], by rw [hsuppressed, List.append_nil], rfl⟩,
    ⟨[], by rw [hevaluations, List.append_nil], rfl⟩⟩

theorem AddsEntries.trans {candidates' : List TargetIntentContext}
    (h : AddsEntries options marketData candidates before between)
    (h' : AddsEntries options marketData candidates' between after) :
    AddsEntries options marketData (candidates ++ candidates') before after := by
  obtain ⟨⟨suppressed, hs, hsIds⟩, ⟨evaluations, he, heIds⟩⟩ := h
  obtain ⟨⟨suppressed', hs', hsIds'⟩, ⟨evaluations', he', heIds'⟩⟩ := h'
  constructor
  · refine ⟨suppressed ++ suppressed', ?_, ?_⟩
    · rw [hs', hs, List.append_assoc]
    · rw [List.map_append, hsIds, hsIds', endingIn_append]
  · refine ⟨evaluations ++ evaluations', ?_, ?_⟩
    · rw [he', he, List.append_assoc]
    · rw [List.filter_append, List.map_append, heIds, heIds', endingIn_append]

theorem AddsEntries.of_kept
    (houtcome : sizingOutcome options marketData candidate = keptOutcome candidate)
    (hsuppressed : after.suppressedIntents = before.suppressedIntents)
    {new : List MinimumTradeThresholdEvaluation} (hnew : new.filter isBlockedEvaluation = [])
    (hevaluations : after.minimumTradeThresholdEvaluations =
      before.minimumTradeThresholdEvaluations ++ new) :
    AddsEntries options marketData [candidate] before after := by
  have hne := keptOutcome_ne candidate
  rw [← houtcome] at hne
  constructor
  · refine ⟨[], by rw [hsuppressed, List.append_nil], ?_⟩
    rw [endingIn_singleton, if_neg hne.1]
    rfl
  · refine ⟨new, hevaluations, ?_⟩
    rw [endingIn_singleton, if_neg hne.2, hnew]
    rfl

/-- The threshold test excludes the candidates that end suppressed or blocked, and adds
their entries and no others. -/
theorem addsEntries_minimumTradeThreshold (options : EngineOptions)
    (marketData : MarketDataSnapshot) (candidate : TargetIntentContext)
    (diagnostics : DiagnosticsData) :
    let excluded := minimumTradeThresholdExcludesCandidate candidate.instrumentId candidate.side
      ⟨candidate.quantity * candidate.unitValue, candidate.priceCurrency⟩ candidate.threshold
      options marketData diagnostics
    AddsEntries options marketData [candidate] diagnostics excluded.2 ∧
      (if excluded.1 then sizingOutcome options marketData candidate = .suppressed ∨
          sizingOutcome options marketData candidate = .blocked
        else sizingOutcome options marketData candidate = keptOutcome candidate) := by
  have hkept (h : activeThreshold options candidate = none) :
      AddsEntries options marketData [candidate] diagnostics diagnostics :=
    .of_kept (sizingOutcome_of_inactive h) rfl rfl (List.append_nil _).symm
  dsimp only
  cases hthreshold : candidate.threshold with
  | none =>
    have hactive : activeThreshold options candidate = none := by
      rw [activeThreshold, hthreshold, ite_self]
    exact ⟨hkept hactive, sizingOutcome_of_inactive hactive⟩
  | some threshold =>
    unfold minimumTradeThresholdExcludesCandidate
    dsimp only
    cases hsuppress : options.suppressDustTrades with
    | false =>
      have hactive : activeThreshold options candidate = none := by
        rw [activeThreshold, hsuppress]
        rfl
      exact ⟨hkept hactive, sizingOutcome_of_inactive hactive⟩
    | true =>
      have hactive : activeThreshold options candidate = some threshold := by
        rw [activeThreshold, hsuppress, hthreshold]
        rfl
      simp only [Bool.not_true, Bool.false_eq_true, if_false]
      cases hminimum : (tradeThresholdComparison threshold candidate.priceCurrency
        marketData).comparisonThreshold with
      | none =>
        have houtcome := sizingOutcome_of_unquoted hactive hminimum
        refine ⟨?_, Or.inr houtcome⟩
        constructor
        · refine ⟨[], (List.append_nil _).symm, ?_⟩
          rw [endingIn_singleton, houtcome]
          rfl
        · refine ⟨_, rfl, ?_⟩
          rw [endingIn_singleton, houtcome]
          rfl
      | some minimum =>
        have houtcome := sizingOutcome_of_quoted hactive hminimum
        dsimp only
        unfold suppressDustTrade
        simp only [hsuppress, Bool.not_true, Bool.false_eq_true, false_or]
        by_cases hlarge : minimum.amount ≤ candidate.quantity * candidate.unitValue
        · rw [if_neg (not_lt.mpr hlarge)] at houtcome
          rw [if_pos hlarge]
          exact ⟨.of_kept houtcome rfl rfl rfl, houtcome⟩
        · rw [if_pos (not_le.mp hlarge)] at houtcome
          rw [if_neg hlarge]
          refine ⟨?_, Or.inl houtcome⟩
          constructor
          · refine ⟨_, rfl, ?_⟩
            rw [endingIn_singleton, houtcome]
            rfl
          · refine ⟨_, rfl, ?_⟩
            rw [endingIn_singleton, houtcome]
            rfl

/-! ## What the limits of a sale leave alone -/

/-- The suppressed entries and the evaluations are the same. -/
def SameEntries (before after : DiagnosticsData) : Prop :=
  after.suppressedIntents = before.suppressedIntents ∧
    after.minimumTradeThresholdEvaluations = before.minimumTradeThresholdEvaluations

theorem SameEntries.refl : SameEntries diagnostics diagnostics :=
  ⟨rfl, rfl⟩

theorem SameEntries.trans (h : SameEntries before between) (h' : SameEntries between after) :
    SameEntries before after :=
  ⟨h'.1.trans h.1, h'.2.trans h.2⟩

theorem sameEntries_warnOnce (code : String) :
    SameEntries diagnostics (diagnostics.warnOnce code) := by
  unfold DiagnosticsData.warnOnce
  split
  · exact SameEntries.refl diagnostics
  · exact ⟨rfl, rfl⟩

theorem sameEntries_recordTaxLotEvidenceIncomplete (reasonCode : String)
    (diagnostics : DiagnosticsData) :
    SameEntries diagnostics
      (recordTaxLotEvidenceIncomplete instrumentId reasonCode diagnostics) := by
  unfold recordTaxLotEvidenceIncomplete
  dsimp only
  split
  · exact sameEntries_warnOnce _ _
  · exact SameEntries.trans ⟨rfl, rfl⟩ (sameEntries_warnOnce _ _)

theorem sameEntries_taxBudgetLimitedSellQuantity (options : EngineOptions)
    (position : Option Position) (requestedQty sellPrice : Decimal) (priceCcy : String)
    (baseRate : Decimal) (marketData : MarketDataSnapshot) (taxBudget : TaxBudgetAccumulator)
    (diagnostics : DiagnosticsData) :
    SameEntries diagnostics (taxBudgetLimitedSellQuantity instrumentId options position
      requestedQty sellPrice priceCcy baseRate marketData taxBudget diagnostics).diagnostics := by
  unfold taxBudgetLimitedSellQuantity
  split
  · exact SameEntries.refl diagnostics
  · split
    · exact sameEntries_recordTaxLotEvidenceIncomplete _ _ _
    · split
      · exact sameEntries_recordTaxLotEvidenceIncomplete _ _ _
      · split
        · exact sameEntries_recordTaxLotEvidenceIncomplete _ _ _
        · split
          · exact SameEntries.trans ⟨rfl, rfl⟩ (sameEntries_recordTaxLotEvidenceIncomplete _ _ _)
          · exact SameEntries.refl diagnostics

theorem sameEntries_sellQuantityAfterSafetyLimits (side : Side) (requestedQuantity : Decimal)
    (position : Option Position) (options : EngineOptions) (sellPrice : Decimal)
    (priceCurrency : String) (baseRate : Decimal) (marketData : MarketDataSnapshot)
    (taxBudget : TaxBudgetAccumulator) (diagnostics : DiagnosticsData) :
    SameEntries diagnostics (sellQuantityAfterSafetyLimits instrumentId side requestedQuantity
      position options sellPrice priceCurrency baseRate marketData taxBudget
      diagnostics).2.2 := by
  have hclamped : SameEntries diagnostics
      (clampedSellQuantity requestedQuantity position diagnostics).2 := by
    unfold clampedSellQuantity
    cases position with
    | none | some =>
      dsimp only
      split
      · exact SameEntries.refl diagnostics
      · exact sameEntries_warnOnce _ _
  unfold sellQuantityAfterSafetyLimits
  split
  · exact SameEntries.refl diagnostics
  · dsimp only
    have hlimited := sameEntries_taxBudgetLimitedSellQuantity instrumentId options position
      (clampedSellQuantity requestedQuantity position diagnostics).1 sellPrice priceCurrency
      baseRate marketData taxBudget (clampedSellQuantity requestedQuantity position diagnostics).2
    refine (hclamped.trans hlimited).trans ?_
    split
    · exact SameEntries.trans (sameEntries_warnOnce _ _) ⟨rfl, rfl⟩
    · exact SameEntries.refl _

/-! ## The loop over the targets -/

section Loop

variable (portfolio : PortfolioSnapshot) (marketData : MarketDataSnapshot)
  (shelf : List ShelfEntry) (options : EngineOptions) (totalVal : Decimal)

/-- The candidates that `generate_intents` sizes, in the order of the targets. -/
def candidatesOf (targets : List TargetInstrument) (diagnostics : DiagnosticsData) :
    List TargetIntentContext :=
  (sizedCandidates portfolio marketData shelf options totalVal
    (targetWeightByInstrument targets).items
    ⟨[], ⟨initialTaxBudget options, diagnostics⟩⟩).map Prod.fst

variable {portfolio marketData shelf options totalVal}

/-- What a stretch of the loop adds for its candidates. -/
structure Accounts (options : EngineOptions) (marketData : MarketDataSnapshot)
    (candidates : List TargetIntentContext) (before after : IntentState) : Prop where
  entries : AddsEntries options marketData candidates before.sizing.diagnostics
    after.sizing.diagnostics
  traded : ∃ new, after.intents = before.intents ++ new ∧
    new.map (·.instrumentId) = endingIn options marketData .traded candidates

theorem Accounts.refl (state : IntentState) : Accounts options marketData [] state state :=
  ⟨.of_eq rfl rfl, [], (List.append_nil _).symm, rfl⟩

theorem Accounts.trans {candidates candidates' : List TargetIntentContext}
    {before between after : IntentState}
    (h : Accounts options marketData candidates before between)
    (h' : Accounts options marketData candidates' between after) :
    Accounts options marketData (candidates ++ candidates') before after := by
  obtain ⟨hentries, new, hnew, hids⟩ := h
  obtain ⟨hentries', new', hnew', hids'⟩ := h'
  refine ⟨hentries.trans hentries', new ++ new', ?_, ?_⟩
  · rw [hnew', hnew, List.append_assoc]
  · rw [List.map_append, hids, hids', endingIn_append]

/-- A turn for an instrument with a price and a rate sizes one candidate and accounts
for it. -/
theorem accounts_generateIntentStep {state state' : IntentState} {target : String × Decimal}
    (hquoted : Quoted marketData portfolio.baseCurrency target.1)
    (h : generateIntentStep portfolio marketData shelf options totalVal state target
      = .ok state') :
    ∃ candidate, sizedStep portfolio marketData shelf options totalVal state target =
        [(candidate, state.sizing.taxBudget)] ∧
      candidate.instrumentId = target.1 ∧ Accounts options marketData [candidate] state state' := by
  unfold generateIntentStep targetIntentContext at h
  unfold sizedStep
  cases hmarket : intentMarketContext target.1 portfolio marketData state.sizing.diagnostics with
  | error diagnostics => exact absurd hquoted (intentMarketContext_eq_error hmarket)
  | ok found =>
    obtain ⟨price, rate⟩ := found
    rw [hmarket] at h
    dsimp only at h ⊢
    cases hsized : sizedCandidate target.1 target.2 portfolio marketData shelf options totalVal
      price rate state.sizing with
    | error error =>
      rw [hsized] at h
      cases h
    | ok sized =>
      obtain ⟨candidate, sizing⟩ := sized
      rw [hsized] at h
      dsimp only at h ⊢
      have hspec := sizedCandidate_spec hsized
      refine ⟨candidate, rfl, hspec.instrument, ?_⟩
      -- sizing leaves the entries alone, the threshold test adds those of the candidate
      have hsame : SameEntries state.sizing.diagnostics sizing.diagnostics := by
        unfold sizedCandidate at hsized
        dsimp only at hsized
        split at hsized
        · cases hsized
        · cases hsized
          exact sameEntries_sellQuantityAfterSafetyLimits _ _ _ _ _ _ _ _ _ _ _
      obtain ⟨hadds, houtcome⟩ := addsEntries_minimumTradeThreshold options marketData candidate
        sizing.diagnostics
      rw [hspec.instrument, hspec.currency] at hadds houtcome
      have hentries := (AddsEntries.of_eq hsame.1 hsame.2).trans hadds
      generalize minimumTradeThresholdExcludesCandidate target.1 candidate.side
        ⟨candidate.quantity * candidate.unitValue, price.currency⟩ candidate.threshold options
        marketData sizing.diagnostics = excluded at h hentries houtcome
      obtain ⟨isExcluded, diagnostics⟩ := excluded
      cases isExcluded with
      | true =>
        cases h
        refine ⟨hentries, [], (List.append_nil _).symm, ?_⟩
        rw [endingIn_singleton]
        rcases houtcome with houtcome | houtcome
        · rw [houtcome]
          rfl
        · rw [houtcome]
          rfl
      | false =>
        cases h
        refine ⟨hentries, ?_⟩
        replace houtcome : sizingOutcome options marketData candidate = keptOutcome candidate :=
          houtcome
        dsimp only [Bool.false_eq_true, if_false]
        unfold appendSecurityTradeIntent
        rw [endingIn_singleton, houtcome, keptOutcome]
        by_cases hempty : candidate.quantity ≤ 0
        · rw [if_pos hempty, if_pos hempty]
          exact ⟨[], (List.append_nil _).symm, rfl⟩
        · rw [if_neg hempty, if_neg hempty]
          exact ⟨_, rfl, rfl⟩

/-- The loop over instruments with prices and rates sizes one candidate for each and
accounts for all of them. -/
theorem accounts_generateIntentsLoop :
    ∀ (targets : List (String × Decimal)) {state state' : IntentState},
      (∀ target ∈ targets, Quoted marketData portfolio.baseCurrency target.1) →
      generateIntentsLoop portfolio marketData shelf options totalVal targets state = .ok state' →
      ((sizedCandidates portfolio marketData shelf options totalVal targets state).map
          Prod.fst).map (·.instrumentId) = targets.map Prod.fst ∧
        Accounts options marketData
          ((sizedCandidates portfolio marketData shelf options totalVal targets state).map
            Prod.fst) state state'
  | [], state, state', _, h => by
    rw [generateIntentsLoop] at h
    cases h
    exact ⟨rfl, Accounts.refl _⟩
  | target :: targets, state, state', hquoted, h => by
    rw [generateIntentsLoop] at h
    rw [sizedCandidates]
    cases hstep : generateIntentStep portfolio marketData shelf options totalVal state target with
    | error error =>
      rw [hstep] at h
      cases h
    | ok next =>
      rw [hstep] at h
      obtain ⟨candidate, hcandidate, hid, haccounts⟩ :=
        accounts_generateIntentStep (hquoted target List.mem_cons_self) hstep
      obtain ⟨hids, hrest⟩ := accounts_generateIntentsLoop targets
        (fun other hmem => hquoted other (List.mem_cons_of_mem _ hmem)) h
      dsimp only
      rw [hcandidate]
      refine ⟨?_, haccounts.trans hrest⟩
      show candidate.instrumentId :: _ = _
      rw [hid, List.map_cons]
      exact congrArg (target.1 :: ·) hids

end Loop

/-! ## Entries by instrument -/

/-- How often an instrument occurs among entries. -/
def entriesOf {α : Type} (instrumentId : α → String) (id : String) (entries : List α) : Nat :=
  (entries.map instrumentId).count id

theorem count_endingIn (hnodup : (candidates.map (·.instrumentId)).Nodup)
    (hmem : candidate ∈ candidates) (outcome : SizingOutcome) :
    (endingIn options marketData outcome candidates).count candidate.instrumentId =
      if sizingOutcome options marketData candidate = outcome then 1 else 0 := by
  have hsub : (endingIn options marketData outcome candidates).Sublist
      (candidates.map (·.instrumentId)) := List.filter_sublist.map _
  by_cases h : sizingOutcome options marketData candidate = outcome
  · rw [if_pos h]
    apply List.count_eq_one_of_mem (hnodup.sublist hsub)
    exact List.mem_map_of_mem (List.mem_filter.mpr ⟨hmem, by simpa using h⟩)
  · rw [if_neg h, List.count_eq_zero]
    intro hin
    obtain ⟨other, hother, hid⟩ := List.mem_map.mp hin
    obtain ⟨hotherMem, hends⟩ := List.mem_filter.mp hother
    have hsame : other = candidate := List.inj_on_of_nodup_map hnodup hotherMem hmem hid
    rw [hsame] at hends
    exact h (by simpa using hends)

/-- The entries that a sizing adds: intents, suppressed entries and blocked evaluations. -/
structure SizingAccounts (options : EngineOptions) (marketData : MarketDataSnapshot)
    (instruments : List String) (candidates : List TargetIntentContext)
    (intents : List SecurityTradeIntent) (suppressed : List SuppressedIntent)
    (blocked : List MinimumTradeThresholdEvaluation) : Prop where
  oneEach : candidates.map (·.instrumentId) = instruments
  nothingElse : ∀ id, id ∉ instruments →
    entriesOf (·.instrumentId) id intents = 0 ∧ entriesOf (·.instrumentId) id suppressed = 0 ∧
      entriesOf (·.instrumentId) id blocked = 0
  positive : ∀ candidate ∈ candidates, 0 < candidate.quantity →
    entriesOf (·.instrumentId) candidate.instrumentId intents +
        entriesOf (·.instrumentId) candidate.instrumentId suppressed +
      entriesOf (·.instrumentId) candidate.instrumentId blocked = 1
  zero : ∀ candidate ∈ candidates, candidate.quantity = 0 →
    entriesOf (·.instrumentId) candidate.instrumentId intents = 0 ∧
      entriesOf (·.instrumentId) candidate.instrumentId suppressed +
        entriesOf (·.instrumentId) candidate.instrumentId blocked ≤ 1 ∧
      (entriesOf (·.instrumentId) candidate.instrumentId suppressed = 1 ↔
        ThresholdPositive options marketData candidate) ∧
      (entriesOf (·.instrumentId) candidate.instrumentId blocked = 1 ↔
        ThresholdUnquoted options marketData candidate)

/-- Every sized trade is accounted for once, and a candidate with nothing to trade is
reported exactly when its threshold has no quote or is worth something. -/
theorem sized_trades_accounted {portfolio : PortfolioSnapshot} {marketData : MarketDataSnapshot}
    {targets : List TargetInstrument} {shelf : List ShelfEntry} {options : EngineOptions}
    {totalVal : Decimal} {diagnostics after : DiagnosticsData}
    {intents : List SecurityTradeIntent} {taxImpact : Option TaxImpact}
    (hquoted : ∀ target ∈ targets, Quoted marketData portfolio.baseCurrency target.instrumentId)
    (h : generateIntents portfolio marketData targets shelf options totalVal diagnostics =
      .ok (intents, taxImpact, after)) :
    ∃ suppressed evaluations,
      after.suppressedIntents = diagnostics.suppressedIntents ++ suppressed ∧
      after.minimumTradeThresholdEvaluations =
        diagnostics.minimumTradeThresholdEvaluations ++ evaluations ∧
      SizingAccounts options marketData (targetWeightByInstrument targets).keys
        (candidatesOf portfolio marketData shelf options totalVal targets diagnostics) intents
        suppressed (evaluations.filter isBlockedEvaluation) := by
  unfold generateIntents at h
  split at h
  · cases h
  · rename_i state hloop
    cases h
    have hkeys : ∀ target ∈ (targetWeightByInstrument targets).items,
        Quoted marketData portfolio.baseCurrency target.1 := by
      intro target hmem
      have hkey : target.1 ∈ (targetWeightByInstrument targets).keys := List.mem_map_of_mem hmem
      rw [targetWeightByInstrument, Dict.mem_keys_ofEntries, List.map_map] at hkey
      obtain ⟨instrument, hinstrument, hid⟩ := List.mem_map.mp hkey
      rw [← hid]
      exact hquoted instrument hinstrument
    obtain ⟨hids, ⟨⟨suppressed, hsuppressed, hsuppressedIds⟩, evaluations, hevaluations,
      hblockedIds⟩, new, hnew, htradedIds⟩ := accounts_generateIntentsLoop _ hkeys hloop
    change (candidatesOf portfolio marketData shelf options totalVal targets diagnostics).map
      (·.instrumentId) = (targetWeightByInstrument targets).keys at hids
    change _ = endingIn options marketData _
      (candidatesOf portfolio marketData shelf options totalVal targets diagnostics)
      at hsuppressedIds hblockedIds htradedIds
    rw [List.nil_append] at hnew
    rw [← hnew] at htradedIds
    have hnodup := (targetWeightByInstrument targets).nodup
    refine ⟨suppressed, evaluations, hsuppressed, hevaluations, ?_⟩
    generalize candidatesOf portfolio marketData shelf options totalVal targets diagnostics =
      candidates at hids hsuppressedIds hblockedIds htradedIds
    have hdistinct : (candidates.map (·.instrumentId)).Nodup := by
      rw [hids]
      exact hnodup
    have hother : ∀ id, id ∉ (targetWeightByInstrument targets).keys → ∀ outcome,
        (endingIn options marketData outcome candidates).count id = 0 := by
      intro id hnot outcome
      rw [List.count_eq_zero]
      intro hin
      apply hnot
      rw [← hids]
      exact (List.filter_sublist.map _).subset hin
    refine ⟨hids, ?_, ?_, ?_⟩
    · intro id hnot
      unfold entriesOf
      rw [htradedIds, hsuppressedIds, hblockedIds]
      exact ⟨hother id hnot _, hother id hnot _, hother id hnot _⟩
    · intro candidate hmem hpos
      have hends : sizingOutcome options marketData candidate ≠ .unaccounted :=
        sizingOutcome_of_pos hpos
      unfold entriesOf
      rw [htradedIds, hsuppressedIds, hblockedIds, count_endingIn hdistinct hmem,
        count_endingIn hdistinct hmem, count_endingIn hdistinct hmem]
      revert hends
      cases sizingOutcome options marketData candidate <;> simp
    · intro candidate hmem hzero
      obtain ⟨htraded, hpositive, hunquoted⟩ :=
        @sizingOutcome_of_zero options marketData candidate hzero
      unfold entriesOf
      rw [htradedIds, hsuppressedIds, hblockedIds, count_endingIn hdistinct hmem,
        count_endingIn hdistinct hmem, count_endingIn hdistinct hmem, ← hpositive, ← hunquoted]
      revert htraded
      cases sizingOutcome options marketData candidate <;> simp

/-! ## A holding that needs no trade -/

/-- Ten shares worth ten dollars each, and nothing else. -/
def balancedHolding : PortfolioSnapshot :=
  { portfolioId := "pf", baseCurrency := "USD"
    positions := [{ instrumentId := "EQ", quantity := 10 }] }

def balancedMarket : MarketDataSnapshot := { prices := [⟨"EQ", 10, "USD"⟩] }

/-- The target of the holding is the holding. -/
def balancedTargets : List TargetInstrument :=
  [{ instrumentId := "EQ", modelWeight := 1, finalWeight := 1, finalValue := ⟨100, "USD"⟩
     tags := [] }]

/-- A minimum in a currency without a quote. -/
def francMinimum : EngineOptions := { minTradeNotional := some ⟨50, "CHF"⟩ }

theorem sized_trades_accounted_balancedHolding :
    ∃ intents taxImpact after,
      generateIntents balancedHolding balancedMarket balancedTargets [] francMinimum 100 {} =
        .ok (intents, taxImpact, after) ∧
      ∃ suppressed evaluations,
        after.suppressedIntents = [] ++ suppressed ∧
        after.minimumTradeThresholdEvaluations = [] ++ evaluations ∧
        SizingAccounts francMinimum balancedMarket (targetWeightByInstrument balancedTargets).keys
          (candidatesOf balancedHolding balancedMarket [] francMinimum 100 balancedTargets {})
          intents suppressed (evaluations.filter isBlockedEvaluation) := by
  have hreturns : (match generateIntents balancedHolding balancedMarket balancedTargets []
      francMinimum 100 {} with
    | .ok _ => true
    | .error _ => false) = true := by
    decide +kernel
  split at hreturns
  · rename_i sized hsized
    refine ⟨sized.1, sized.2.1, sized.2.2, hsized, ?_⟩
    refine sized_trades_accounted ?_ hsized
    intro target hmem
    rw [balancedTargets, List.mem_singleton] at hmem
    rw [hmem]
    exact ⟨⟨"EQ", 10, "USD"⟩, 1, by decide +kernel, by decide +kernel⟩
  · cases hreturns

/-- A holding that needs no trade blocks the run for want of a quote of the minimum. -/
theorem balanced_holding_blocks :
    (candidatesOf balancedHolding balancedMarket [] francMinimum 100 balancedTargets {}).map
        (·.quantity) = [0] ∧
      ∃ intents taxImpact after,
        generateIntents balancedHolding balancedMarket balancedTargets [] francMinimum 100 {} =
          .ok (intents, taxImpact, after) ∧
        after.minimumTradeThresholdEvaluations.map (·.comparisonOutcome) = [.blocked] ∧
        checkBlockingDq after.dataQuality francMinimum = true := by
  refine ⟨by decide +kernel, ?_⟩
  have hreturns : (match generateIntents balancedHolding balancedMarket balancedTargets []
      francMinimum 100 {} with
    | .ok (_, _, after) =>
      decide (after.minimumTradeThresholdEvaluations.map (·.comparisonOutcome) = [.blocked] ∧
        checkBlockingDq after.dataQuality francMinimum = true)
    | .error _ => false) = true := by
    decide +kernel
  split at hreturns
  · rename_i intents taxImpact after hsized
    exact ⟨intents, taxImpact, after, hsized, of_decide_eq_true hreturns⟩
  · cases hreturns

end LotusManage.Engine
