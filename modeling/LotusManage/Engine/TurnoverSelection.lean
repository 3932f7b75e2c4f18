import LotusManage.Engine.Turnover
import LotusManage.Lib.Greedy
import LotusManage.Lib.Tables
import Mathlib.Algebra.Order.Field.Rat
import Mathlib.Data.Prod.Lex
import Mathlib.Data.String.Basic

/-!
# What the turnover limit keeps and drops

The loop over the ranked trades is `Greedy.take` with the base notional as the
weight, on the trades that have one.  The rank is a total order that ends with
the intent id, so the ranked list depends on the set of trades only.

A negative portfolio value makes the budget negative; then nothing fits, and
everything is dropped.
-/

namespace LotusManage.Engine

variable {intents intents' : List SecurityTradeIntent}

theorem notionalAbs_nonneg (intent : SecurityTradeIntent) : 0 ≤ notionalAbs intent := by
  unfold notionalAbs
  split
  · exact le_refl _
  · exact abs_nonneg _

theorem proposedTurnover_perm (h : intents.Perm intents') :
    proposedTurnover intents = proposedTurnover intents' :=
  (h.map notionalAbs).sum_eq

theorem selectTurnoverBudgetIntents_eq_take (budget portfolioValueBase : Decimal)
    (baseCurrency : String) :
    ∀ (intents : List SecurityTradeIntent) (used : Decimal),
      (∀ intent ∈ intents, intent.notionalBase.isSome = true) →
      selectTurnoverBudgetIntents budget portfolioValueBase baseCurrency intents used =
        ((Greedy.take notionalAbs budget intents used).1,
          (Greedy.take notionalAbs budget intents used).2.map
            (droppedTurnoverIntent · portfolioValueBase baseCurrency))
  | [], _, _ => rfl
  | intent :: intents, used, hbase => by
    have hrest := fun used => selectTurnoverBudgetIntents_eq_take budget portfolioValueBase
      baseCurrency intents used fun other hmem => hbase other (List.mem_cons_of_mem _ hmem)
    obtain ⟨notionalBase, hnotional⟩ :=
      Option.isSome_iff_exists.mp (hbase intent List.mem_cons_self)
    rw [selectTurnoverBudgetIntents, hnotional]
    dsimp only
    by_cases hfits : used + notionalAbs intent ≤ budget
    · rw [if_pos hfits, Greedy.take_cons_of_fits hfits, hrest]
    · rw [if_neg hfits, Greedy.take_cons_of_not_fits hfits, hrest, List.map_cons]

/-! ## The rank -/

/-- The rank key as a value of a linear order. -/
def turnoverRank (portfolioValueBase : Decimal) (intent : SecurityTradeIntent) :
    Decimal ×ₗ Decimal ×ₗ String ×ₗ String :=
  toLex (-calculateTurnoverScore intent portfolioValueBase,
    toLex (notionalAbs intent, toLex (intent.instrumentId, intent.intentId)))

theorem turnoverRankLe_iff (portfolioValueBase : Decimal) (a b : SecurityTradeIntent) :
    turnoverRankLe portfolioValueBase a b = true ↔
      turnoverRank portfolioValueBase a ≤ turnoverRank portfolioValueBase b := by
  rw [turnoverRank, turnoverRank, Prod.Lex.toLex_le_toLex, Prod.Lex.toLex_le_toLex,
    Prod.Lex.toLex_le_toLex, turnoverRankLe, decide_eq_true_iff, neg_lt_neg_iff, neg_inj, not_lt]

theorem rankedTurnoverIntents_eq_of_perm (h : intents.Perm intents')
    (hids : (intents.map (·.intentId)).Nodup) (portfolioValueBase : Decimal) :
    rankedTurnoverIntents intents portfolioValueBase =
      rankedTurnoverIntents intents' portfolioValueBase := by
  have hrank : (intents.map (turnoverRank portfolioValueBase)).Nodup := by
    refine List.Nodup.of_map (fun key => (ofLex (ofLex (ofLex key).2).2).2) ?_
    rw [List.map_map]
    exact hids
  exact insertionSort_eq_of_perm h hrank (fun a b _ => turnoverRankLe_iff portfolioValueBase a b)
    (fun a b _ => turnoverRankLe_iff portfolioValueBase a b)

/-! ## The limit -/

/-- The trades of a list are kept or dropped within a budget: none is lost, what is
kept stays within the budget, or is nothing when the budget is negative, and no
dropped trade would fit beside it. -/
structure SelectsWithin (budget : Decimal) (intents kept dropped : List SecurityTradeIntent) :
    Prop where
  partition : (kept ++ dropped).Perm intents
  within : dropped ≠ [] → 0 ≤ budget → proposedTurnover kept ≤ budget
  negative : dropped ≠ [] → budget < 0 → kept = []
  maximal : ∀ intent ∈ dropped, budget < proposedTurnover kept + notionalAbs intent

theorem SelectsWithin.all (budget : Decimal) (intents : List SecurityTradeIntent) :
    SelectsWithin budget intents intents [] where
  partition := by rw [List.append_nil]
  within h := absurd rfl h
  negative h := absurd rfl h
  maximal _ hmem := absurd hmem List.not_mem_nil

theorem SelectsWithin.take {ranked : List SecurityTradeIntent} (h : ranked.Perm intents)
    (budget : Decimal) :
    SelectsWithin budget intents (Greedy.take notionalAbs budget ranked 0).1
      (Greedy.take notionalAbs budget ranked 0).2 where
  partition := (Greedy.take_perm notionalAbs budget ranked 0).trans h
  within _ hbudget := by
    have hle : 0 + ((Greedy.take notionalAbs budget ranked 0).1.map notionalAbs).sum ≤ budget :=
      Greedy.total_take_le ranked hbudget
    rw [zero_add] at hle
    exact hle
  negative _ hbudget := Greedy.take_eq_nil notionalAbs_nonneg ranked hbudget
  maximal intent hmem := by
    have hlt := Greedy.not_fits_of_skipped notionalAbs_nonneg ranked 0 intent hmem
    rw [zero_add] at hlt
    exact hlt

section Limit

variable (options : EngineOptions) (portfolioValueBase : Decimal) (baseCurrency : String)

variable {maxTurnoverPct : Decimal} {intents : List SecurityTradeIntent}

theorem applyTurnoverLimit_of_none (hpct : options.maxTurnoverPct = none)
    (intents : List SecurityTradeIntent) (diagnostics : DiagnosticsData) :
    applyTurnoverLimit intents options portfolioValueBase baseCurrency diagnostics =
      (intents, diagnostics) := by
  rw [applyTurnoverLimit, hpct]

theorem applyTurnoverLimit_of_le (hpct : options.maxTurnoverPct = some maxTurnoverPct)
    (hproposed : proposedTurnover intents ≤ portfolioValueBase * maxTurnoverPct)
    (diagnostics : DiagnosticsData) :
    applyTurnoverLimit intents options portfolioValueBase baseCurrency diagnostics =
      (intents, diagnostics) := by
  rw [applyTurnoverLimit, hpct]
  dsimp only
  rw [if_pos hproposed]

theorem applyTurnoverLimit_of_not_le (hpct : options.maxTurnoverPct = some maxTurnoverPct)
    (hproposed : ¬ proposedTurnover intents ≤ portfolioValueBase * maxTurnoverPct)
    (hbase : ∀ intent ∈ intents, intent.notionalBase.isSome = true) (diagnostics : DiagnosticsData) :
    let taken := Greedy.take notionalAbs (portfolioValueBase * maxTurnoverPct)
      (rankedTurnoverIntents intents portfolioValueBase) 0
    let limited := applyTurnoverLimit intents options portfolioValueBase baseCurrency diagnostics
    limited.1 = taken.1 ∧ limited.2.droppedIntents = diagnostics.droppedIntents ++
      taken.2.map (droppedTurnoverIntent · portfolioValueBase baseCurrency) := by
  have hperm : (rankedTurnoverIntents intents portfolioValueBase).Perm intents :=
    List.perm_insertionSort _ intents
  have htake := selectTurnoverBudgetIntents_eq_take (portfolioValueBase * maxTurnoverPct)
    portfolioValueBase baseCurrency (rankedTurnoverIntents intents portfolioValueBase) 0
    fun intent hmem => hbase intent (hperm.mem_iff.mp hmem)
  dsimp only
  rw [applyTurnoverLimit, hpct]
  dsimp only
  rw [if_neg hproposed, htake]
  refine ⟨rfl, ?_⟩
  dsimp only
  split <;> rfl

theorem exists_dropped (hpct : options.maxTurnoverPct = some maxTurnoverPct)
    (hbase : ∀ intent ∈ intents, intent.notionalBase.isSome = true) (diagnostics : DiagnosticsData) :
    let limited := applyTurnoverLimit intents options portfolioValueBase baseCurrency diagnostics
    ∃ dropped, limited.2.droppedIntents = diagnostics.droppedIntents ++
        dropped.map (droppedTurnoverIntent · portfolioValueBase baseCurrency) ∧
      SelectsWithin (portfolioValueBase * maxTurnoverPct) intents limited.1 dropped := by
  dsimp only
  by_cases hproposed : proposedTurnover intents ≤ portfolioValueBase * maxTurnoverPct
  · rw [applyTurnoverLimit_of_le options portfolioValueBase baseCurrency hpct hproposed]
    exact ⟨[], (List.append_nil _).symm, SelectsWithin.all _ _⟩
  · obtain ⟨hkept, hdropped⟩ := applyTurnoverLimit_of_not_le options portfolioValueBase
      baseCurrency hpct hproposed hbase diagnostics
    refine ⟨_, hdropped, ?_⟩
    rw [hkept]
    exact SelectsWithin.take (List.perm_insertionSort _ intents) _

theorem kept_perm_of_perm {intents' : List SecurityTradeIntent} (hperm : intents'.Perm intents)
    (hids : (intents.map (·.intentId)).Nodup)
    (hbase : ∀ intent ∈ intents, intent.notionalBase.isSome = true)
    (diagnostics diagnostics' : DiagnosticsData) :
    (applyTurnoverLimit intents' options portfolioValueBase baseCurrency diagnostics').1.Perm
      (applyTurnoverLimit intents options portfolioValueBase baseCurrency diagnostics).1 := by
  cases hpct : options.maxTurnoverPct with
  | none =>
    rw [applyTurnoverLimit_of_none options portfolioValueBase baseCurrency hpct,
      applyTurnoverLimit_of_none options portfolioValueBase baseCurrency hpct]
    exact hperm
  | some maxTurnoverPct =>
    have hbase' : ∀ intent ∈ intents', intent.notionalBase.isSome = true :=
      fun intent hmem => hbase intent (hperm.mem_iff.mp hmem)
    have hsame := proposedTurnover_perm hperm
    by_cases hproposed : proposedTurnover intents ≤ portfolioValueBase * maxTurnoverPct
    · rw [applyTurnoverLimit_of_le options portfolioValueBase baseCurrency hpct hproposed,
        applyTurnoverLimit_of_le options portfolioValueBase baseCurrency hpct
          (hsame.trans_le hproposed)]
      exact hperm
    · have hproposed' : ¬ proposedTurnover intents' ≤ portfolioValueBase * maxTurnoverPct := by
        rw [hsame]
        exact hproposed
      rw [(applyTurnoverLimit_of_not_le options portfolioValueBase baseCurrency hpct hproposed
          hbase diagnostics).1,
        (applyTurnoverLimit_of_not_le options portfolioValueBase baseCurrency hpct hproposed'
          hbase' diagnostics').1,
        rankedTurnoverIntents_eq_of_perm hperm.symm hids]

/-- The limit partitions the trades within the budget, leaves no dropped trade that
would fit, and does not look at the order of the trades. -/
theorem turnover_limit_selects (intents : List SecurityTradeIntent)
    (hbase : ∀ intent ∈ intents, intent.notionalBase.isSome = true)
    (diagnostics : DiagnosticsData) :
    let limited := applyTurnoverLimit intents options portfolioValueBase baseCurrency diagnostics
    (options.maxTurnoverPct = none → limited = (intents, diagnostics)) ∧
      (∀ maxTurnoverPct, options.maxTurnoverPct = some maxTurnoverPct →
        ∃ dropped, limited.2.droppedIntents = diagnostics.droppedIntents ++
            dropped.map (droppedTurnoverIntent · portfolioValueBase baseCurrency) ∧
          SelectsWithin (portfolioValueBase * maxTurnoverPct) intents limited.1 dropped) ∧
      ((intents.map (·.intentId)).Nodup → ∀ intents', intents'.Perm intents →
        (applyTurnoverLimit intents' options portfolioValueBase baseCurrency
          diagnostics).1.Perm limited.1) :=
  ⟨fun hpct => applyTurnoverLimit_of_none options portfolioValueBase baseCurrency hpct intents
      diagnostics,
    fun _ hpct => exists_dropped options portfolioValueBase baseCurrency hpct hbase diagnostics,
    fun hids _ hperm => kept_perm_of_perm options portfolioValueBase baseCurrency hperm hids hbase
      diagnostics diagnostics⟩

end Limit

/-- A trade with a base notional. -/
def tradeOf (number : String) (notionalBase : Decimal) : SecurityTradeIntent :=
  { intentId := "oi_" ++ number, instrumentId := "I" ++ number, side := .buy, quantity := some 1
    notional := some ⟨notionalBase, "USD"⟩, notionalBase := some ⟨notionalBase, "USD"⟩ }

theorem turnover_limit_selects_three :
    let limited := applyTurnoverLimit [tradeOf "1" 10, tradeOf "2" 30, tradeOf "3" 100]
      { maxTurnoverPct := some (2 / 5) } 100 "USD" makeDiagnosticsData
    limited.1.map (·.intentId) = ["oi_2", "oi_1"] ∧
      ∃ dropped, SelectsWithin 40 [tradeOf "1" 10, tradeOf "2" 30, tradeOf "3" 100] limited.1
        dropped := by
  have hselects := turnover_limit_selects { maxTurnoverPct := some (2 / 5) } 100 "USD"
    [tradeOf "1" 10, tradeOf "2" 30, tradeOf "3" 100] (by decide) makeDiagnosticsData
  obtain ⟨dropped, _, hwithin⟩ := hselects.2.1 _ rfl
  refine ⟨by decide +kernel, dropped, ?_⟩
  have hbudget : (100 : Decimal) * (2 / 5) = 40 := by norm_num
  rw [hbudget] at hwithin
  exact hwithin

/-- A portfolio of negative value keeps nothing and is still above its budget; and the
kept trades come in the order of their rank, not in that of the input. -/
theorem turnover_limit_above_negative_budget :
    let negative := applyTurnoverLimit [tradeOf "1" 10] { maxTurnoverPct := some (1 / 2) } (-100)
      "USD" makeDiagnosticsData
    let ranked := applyTurnoverLimit [tradeOf "1" 10, tradeOf "2" 30, tradeOf "3" 100]
      { maxTurnoverPct := some (2 / 5) } 100 "USD" makeDiagnosticsData
    (negative.2.droppedIntents ≠ [] ∧
        ¬ proposedTurnover negative.1 ≤ (1 / 2 : Decimal) * (-100)) ∧
      ¬ ranked.1.Sublist [tradeOf "1" 10, tradeOf "2" 30, tradeOf "3" 100] := by
  refine ⟨by decide +kernel, ?_⟩
  decide +kernel

end LotusManage.Engine
