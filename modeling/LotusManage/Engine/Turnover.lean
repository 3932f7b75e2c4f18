import LotusManage.Engine.Models
import Mathlib.Data.List.Sort

/-!
# The turnover limit

`src/core/rebalance/turnover.py`.  When the proposed trades exceed the turnover
budget, they are ranked by score and taken greedily while they fit; the others
are dropped.
-/

namespace LotusManage.Engine

/-- `calculate_turnover_score` -/
def calculateTurnoverScore (intent : SecurityTradeIntent) (portfolioValueBase : Decimal) :
    Decimal :=
  if portfolioValueBase ≤ 0 then 0
  else
    match intent.notionalBase with
    | none => 0
    | some notionalBase => |notionalBase.amount| / portfolioValueBase

/-- `abs(intent.notional_base.amount)`, zero when there is none. -/
def notionalAbs (intent : SecurityTradeIntent) : Decimal :=
  match intent.notionalBase with
  | none => 0
  | some notionalBase => |notionalBase.amount|

/-- `_proposed_turnover` -/
def proposedTurnover (intents : List SecurityTradeIntent) : Decimal :=
  (intents.map notionalAbs).sum

/-- The rank key of an intent is at most the other one: score from the highest
down, then notional, instrument and intent id. -/
def turnoverRankLe (portfolioValueBase : Decimal) (a b : SecurityTradeIntent) : Bool :=
  let scoreA := calculateTurnoverScore a portfolioValueBase
  let scoreB := calculateTurnoverScore b portfolioValueBase
  scoreB < scoreA ∨ scoreA = scoreB ∧ (notionalAbs a < notionalAbs b ∨
    notionalAbs a = notionalAbs b ∧ (a.instrumentId < b.instrumentId ∨
      a.instrumentId = b.instrumentId ∧ ¬ b.intentId < a.intentId))

/-- `_ranked_turnover_intents` -/
def rankedTurnoverIntents (intents : List SecurityTradeIntent) (portfolioValueBase : Decimal) :
    List SecurityTradeIntent :=
  intents.insertionSort (fun a b => turnoverRankLe portfolioValueBase a b)

/-- `_dropped_turnover_intent` -/
def droppedTurnoverIntent (intent : SecurityTradeIntent) (portfolioValueBase : Decimal)
    (baseCurrency : String) : DroppedIntent :=
  { instrumentId := intent.instrumentId
    reason := "TURNOVER_LIMIT"
    potentialNotional := ⟨notionalAbs intent, baseCurrency⟩
    score := calculateTurnoverScore intent portfolioValueBase }

/-- The loop of `_select_turnover_budget_intents` over the ranked intents that
are left: the selected and the dropped ones. -/
def selectTurnoverBudgetIntents (budget portfolioValueBase : Decimal) (baseCurrency : String) :
    List SecurityTradeIntent → Decimal → List SecurityTradeIntent × List DroppedIntent
  | [], _ => ([], [])
  | intent :: intents, used =>
    match intent.notionalBase with
    | none => selectTurnoverBudgetIntents budget portfolioValueBase baseCurrency intents used
    | some _ =>
      if used + notionalAbs intent ≤ budget then
        let rest := selectTurnoverBudgetIntents budget portfolioValueBase baseCurrency intents
          (used + notionalAbs intent)
        (intent :: rest.1, rest.2)
      else
        let rest := selectTurnoverBudgetIntents budget portfolioValueBase baseCurrency intents used
        (rest.1, droppedTurnoverIntent intent portfolioValueBase baseCurrency :: rest.2)

/-- `apply_turnover_limit` -/
def applyTurnoverLimit (intents : List SecurityTradeIntent) (options : EngineOptions)
    (portfolioValueBase : Decimal) (baseCurrency : String) (diagnostics : DiagnosticsData) :
    List SecurityTradeIntent × DiagnosticsData :=
  match options.maxTurnoverPct with
  | none => (intents, diagnostics)
  | some maxTurnoverPct =>
    let budget := portfolioValueBase * maxTurnoverPct
    if proposedTurnover intents ≤ budget then (intents, diagnostics)
    else
      let selection := selectTurnoverBudgetIntents budget portfolioValueBase baseCurrency
        (rankedTurnoverIntents intents portfolioValueBase) 0
      let diagnostics :=
        { diagnostics with droppedIntents := diagnostics.droppedIntents ++ selection.2 }
      (selection.1,
        if diagnostics.droppedIntents = [] then diagnostics
        else diagnostics.warn "PARTIAL_REBALANCE_TURNOVER_LIMIT")

end LotusManage.Engine
