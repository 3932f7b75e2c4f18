import LotusManage.Engine.CashSweep
import LotusManage.Engine.DecimalArithmetic
import LotusManage.Lib.Checks
import LotusManage.Lib.RunningSums

/-!
# The settlement ladder

`build_settlement_ladder` keeps one array of daily flows for each currency, and the
arrays are written by index.  The facts here go in three steps.

* Every array covers the days up to the horizon and every write is due by then, so that
  the accesses checked one by one (`checkedBuildSettlementLadder`) never fail.
* What is due by a day is read off the rows and the intents, whatever the order of the
  writes (`dueThrough_ladderFlows`).
* On the horizon day everything is due, and what is due there is what the simulation
  applies, but for trades that carry a notional and no quantity
  (`ladderBalance_horizon`).
-/

namespace LotusManage.Engine

open RunningSums
open SignificantDigits (sumWith)

/-! ## What an intent is due to move -/

/-- The day on which an intent settles. -/
def settlementDay (settlementDays : Dict String Nat) (options : EngineOptions) :
    OrderIntent → Nat
  | .securityTrade trade => settlementDays.getD trade.instrumentId 2
  | .fxSpot _ => options.fxSettlementDays

/-- The cash that an intent is noted to move in a currency. -/
def notedIntentCash (currency : String) : OrderIntent → Decimal
  | .securityTrade trade => notedTradeCash currency trade
  | .fxSpot conversion => conversionCash currency conversion

/-- The currencies in which an intent is noted to move cash. -/
def intentCurrencies : OrderIntent → List String
  | .securityTrade trade =>
    match trade.notional with
    | some notional => [notional.currency]
    | none => []
  | .fxSpot conversion => [conversion.sellCurrency, conversion.buyCurrency]

/-- The currency occurs in a cash row or in an intent. -/
def OccursInCash (portfolio : PortfolioSnapshot) (intents : List OrderIntent)
    (currency : String) : Prop :=
  (∃ cash ∈ portfolio.cashBalances, cash.currency = currency) ∨
    ∃ intent ∈ intents, currency ∈ intentCurrencies intent

theorem foldl_max_ge : ∀ (days : List Nat) (start : Nat),
    start ≤ days.foldl max start ∧ ∀ day ∈ days, day ≤ days.foldl max start
  | [], _ => ⟨le_rfl, fun _ hmem => absurd hmem List.not_mem_nil⟩
  | day :: days, start => by
    obtain ⟨hstart, hdays⟩ := foldl_max_ge days (max start day)
    refine ⟨(le_max_left _ _).trans hstart, ?_⟩
    intro day' hmem
    rcases List.mem_cons.mp hmem with rfl | hmem
    · exact (le_max_right _ _).trans hstart
    · exact hdays day' hmem

variable {settlementDays : Dict String Nat} {options : EngineOptions} {intent : OrderIntent}
  {horizonDays : Nat} {flows : Dict String (List Decimal)}

variable (portfolio : PortfolioSnapshot) (shelf : List ShelfEntry) (intents : List OrderIntent)

theorem settlementDay_le_horizon {intents : List OrderIntent} (hmem : intent ∈ intents) :
    settlementDay settlementDays options intent ≤
      settlementHorizonDays settlementDays intents options := by
  unfold settlementHorizonDays
  cases intent with
  | securityTrade trade =>
    have htrade : trade ∈ securityTrades intents := List.mem_filterMap.mpr ⟨_, hmem, rfl⟩
    have hmax := (foldl_max_ge ((securityTrades intents).map
      (fun intent => settlementDays.getD intent.instrumentId 2)) 0).2 _
      (List.mem_map_of_mem htrade)
    exact hmax.trans (le_max_right _ _)
  | fxSpot conversion => exact (le_max_right _ _).trans (le_max_left _ _)

/-! ## The arrays of flows -/

/-- Every array of flows has an entry for each day up to the horizon. -/
def CoversHorizon (horizonDays : Nat) (flows : Dict String (List Decimal)) : Prop :=
  ∀ currency daily, flows.get? currency = some daily → daily.length = horizonDays + 1

/-- The array of a currency, as `_ensure_settlement_currency` leaves it. -/
def dailyFlows (horizonDays : Nat) (flows : Dict String (List Decimal)) (currency : String) :
    List Decimal :=
  flows.getD currency (List.replicate (horizonDays + 1) 0)

/-- The flows of a currency that are due by a day. -/
def dueThrough (horizonDays : Nat) (flows : Dict String (List Decimal)) (currency : String)
    (day : Nat) : Decimal :=
  sumThrough (dailyFlows horizonDays flows currency) day

theorem coversHorizon_empty (horizonDays : Nat) : CoversHorizon horizonDays Dict.empty := by
  intro currency daily h
  rw [Dict.get?_empty] at h
  cases h

theorem dueThrough_empty (horizonDays : Nat) (currency : String) (day : Nat) :
    dueThrough horizonDays Dict.empty currency day = 0 :=
  sumThrough_replicate_zero _ _

theorem CoversHorizon.length_dailyFlows (h : CoversHorizon horizonDays flows) (currency : String) :
    (dailyFlows horizonDays flows currency).length = horizonDays + 1 := by
  rw [dailyFlows, Dict.getD]
  cases hdaily : flows.get? currency with
  | none => exact List.length_replicate
  | some daily => exact h currency daily hdaily

theorem CoversHorizon.addFlow (h : CoversHorizon horizonDays flows) (currency : String) (day : Nat)
    (amount : Decimal) :
    CoversHorizon horizonDays (addFlow horizonDays flows currency day amount) := by
  intro other daily hdaily
  rw [Engine.addFlow, Dict.get?_set] at hdaily
  split at hdaily
  · cases hdaily
    rw [List.length_modify]
    exact h.length_dailyFlows currency
  · exact h other daily hdaily

theorem dailyFlows_addFlow (horizonDays : Nat) (flows : Dict String (List Decimal))
    (currency other : String) (day : Nat) (amount : Decimal) :
    dailyFlows horizonDays (addFlow horizonDays flows currency day amount) other =
      if other = currency then (dailyFlows horizonDays flows currency).modify day (· + amount)
      else dailyFlows horizonDays flows other := by
  rw [dailyFlows, Dict.getD, addFlow, Dict.get?_set]
  by_cases hsame : other = currency
  · rw [if_pos hsame, if_pos hsame]
    rfl
  · rw [if_neg hsame, if_neg hsame]
    rfl

theorem dueThrough_addFlow (h : CoversHorizon horizonDays flows) {due : Nat}
    (hdue : due ≤ horizonDays) (written currency : String) (amount : Decimal) (day : Nat) :
    dueThrough horizonDays (addFlow horizonDays flows written due amount) currency day =
      dueThrough horizonDays flows currency day +
        if due ≤ day then (if written = currency then amount else 0) else 0 := by
  rw [dueThrough, dailyFlows_addFlow]
  by_cases hsame : currency = written
  · have hlt : due < (dailyFlows horizonDays flows written).length := by
      rw [h.length_dailyFlows]
      exact Nat.lt_succ_of_le hdue
    rw [if_pos hsame, if_pos hsame.symm, sumThrough_modify amount _ due day hlt, hsame]
    rfl
  · have hother : ¬ written = currency := fun h => hsame h.symm
    rw [if_neg hsame, if_neg hother, ite_self, add_zero]
    rfl

theorem mem_keys_addFlow (horizonDays : Nat) (flows : Dict String (List Decimal))
    (currency other : String) (day : Nat) (amount : Decimal) :
    other ∈ (addFlow horizonDays flows currency day amount).keys ↔
      other = currency ∨ other ∈ flows.keys :=
  Dict.mem_keys_set _ _ _ _

/-! ## The flows of the intents -/

section Flows

variable {settlementDays : Dict String Nat} {horizonDays : Nat} {options : EngineOptions}

theorem CoversHorizon.addIntentFlow {flows : Dict String (List Decimal)}
    (h : CoversHorizon horizonDays flows) (settlementDays : Dict String Nat)
    (options : EngineOptions) (intent : OrderIntent) :
    CoversHorizon horizonDays (addIntentFlow settlementDays horizonDays options flows intent) := by
  unfold Engine.addIntentFlow
  cases intent with
  | securityTrade trade =>
    dsimp only
    split
    · exact h
    · exact h.addFlow _ _ _
  | fxSpot conversion => exact (h.addFlow _ _ _).addFlow _ _ _

theorem dueThrough_addIntentFlow {flows : Dict String (List Decimal)}
    (h : CoversHorizon horizonDays flows) {intent : OrderIntent}
    (hdue : settlementDay settlementDays options intent ≤ horizonDays) (currency : String)
    (day : Nat) :
    dueThrough horizonDays (addIntentFlow settlementDays horizonDays options flows intent)
        currency day =
      dueThrough horizonDays flows currency day +
        if settlementDay settlementDays options intent ≤ day then notedIntentCash currency intent
        else 0 := by
  cases intent with
  | securityTrade trade =>
    unfold addIntentFlow notedIntentCash notedTradeCash
    dsimp only
    cases hnotional : trade.notional with
    | none =>
      dsimp only
      rw [ite_self, add_zero]
    | some notional => exact dueThrough_addFlow h hdue _ _ _ _
  | fxSpot conversion =>
    replace hdue : options.fxSettlementDays ≤ horizonDays := hdue
    unfold addIntentFlow notedIntentCash conversionCash settlementDay
    dsimp only
    rw [dueThrough_addFlow (h.addFlow _ _ _) hdue, dueThrough_addFlow h hdue]
    by_cases hday : options.fxSettlementDays ≤ day
    · rw [if_pos hday, if_pos hday, if_pos hday]
      by_cases hsell : conversion.sellCurrency = currency
      · rw [if_pos hsell, if_pos hsell]
        ring
      · rw [if_neg hsell, if_neg hsell]
        ring
    · rw [if_neg hday, if_neg hday, if_neg hday, add_zero]

theorem mem_keys_addIntentFlow (flows : Dict String (List Decimal)) (intent : OrderIntent)
    (currency : String) :
    currency ∈ (addIntentFlow settlementDays horizonDays options flows intent).keys ↔
      currency ∈ flows.keys ∨ currency ∈ intentCurrencies intent := by
  cases intent with
  | securityTrade trade =>
    unfold addIntentFlow intentCurrencies
    dsimp only
    cases trade.notional with
    | none => simp
    | some notional =>
      dsimp only
      rw [mem_keys_addFlow, List.mem_singleton]
      exact or_comm
  | fxSpot conversion =>
    unfold addIntentFlow intentCurrencies
    dsimp only
    rw [mem_keys_addFlow, mem_keys_addFlow, List.mem_cons, List.mem_singleton]
    tauto

theorem CoversHorizon.addIntentFlows (settlementDays : Dict String Nat) (options : EngineOptions) :
    ∀ (intents : List OrderIntent) {flows : Dict String (List Decimal)},
      CoversHorizon horizonDays flows →
      CoversHorizon horizonDays
        (intents.foldl (Engine.addIntentFlow settlementDays horizonDays options) flows)
  | [], _, h => h
  | intent :: intents, _, h =>
    CoversHorizon.addIntentFlows settlementDays options intents
      (h.addIntentFlow settlementDays options intent)

theorem dueThrough_addIntentFlows (currency : String) (day : Nat) :
    ∀ (intents : List OrderIntent) {flows : Dict String (List Decimal)},
      CoversHorizon horizonDays flows →
      (∀ intent ∈ intents, settlementDay settlementDays options intent ≤ horizonDays) →
      dueThrough horizonDays
          (intents.foldl (addIntentFlow settlementDays horizonDays options) flows) currency day =
        dueThrough horizonDays flows currency day +
          (intents.map fun intent =>
            if settlementDay settlementDays options intent ≤ day then
              notedIntentCash currency intent
            else 0).sum
  | [], _, _, _ => (add_zero _).symm
  | intent :: intents, flows, h, hdue => by
    have ih := dueThrough_addIntentFlows currency day intents
      (h.addIntentFlow settlementDays options intent)
      fun other hmem => hdue other (List.mem_cons_of_mem _ hmem)
    rw [dueThrough_addIntentFlow h (hdue intent List.mem_cons_self), add_assoc] at ih
    rw [List.map_cons, List.sum_cons]
    exact ih

theorem mem_keys_addIntentFlows (currency : String) :
    ∀ (intents : List OrderIntent) (flows : Dict String (List Decimal)),
      currency ∈ (intents.foldl (addIntentFlow settlementDays horizonDays options) flows).keys ↔
        currency ∈ flows.keys ∨ ∃ intent ∈ intents, currency ∈ intentCurrencies intent
  | [], flows => by simp
  | intent :: intents, flows => by
    rw [List.foldl_cons, mem_keys_addIntentFlows currency intents, mem_keys_addIntentFlow,
      List.exists_mem_cons_iff, or_assoc]

/-! ## The opening flows -/

/-- The cash of a row on the first day: what is settled, else what is available. -/
def openingCash (cash : CashBalance) : Decimal := cash.settled.getD cash.amount

/-- The write of one cash row. -/
def addOpeningFlow (horizonDays : Nat) (flows : Dict String (List Decimal)) (cash : CashBalance) :
    Dict String (List Decimal) :=
  addFlow horizonDays flows cash.currency 0 (openingCash cash)

theorem CoversHorizon.addOpeningFlows :
    ∀ (rows : List CashBalance) {flows : Dict String (List Decimal)},
      CoversHorizon horizonDays flows →
      CoversHorizon horizonDays (rows.foldl (addOpeningFlow horizonDays) flows)
  | [], _, h => h
  | cash :: rows, _, h => CoversHorizon.addOpeningFlows rows (h.addFlow cash.currency 0 _)

theorem dueThrough_addOpeningFlows (currency : String) (day : Nat) :
    ∀ (rows : List CashBalance) {flows : Dict String (List Decimal)},
      CoversHorizon horizonDays flows →
      dueThrough horizonDays (rows.foldl (addOpeningFlow horizonDays) flows) currency day =
        dueThrough horizonDays flows currency day +
          (rows.map fun cash => if cash.currency = currency then openingCash cash else 0).sum
  | [], _, _ => (add_zero _).symm
  | cash :: rows, flows, h => by
    have ih := dueThrough_addOpeningFlows currency day rows
      (h.addFlow cash.currency 0 (openingCash cash))
    rw [dueThrough_addFlow h (Nat.zero_le _), if_pos (Nat.zero_le _), add_assoc] at ih
    rw [List.map_cons, List.sum_cons]
    exact ih

theorem mem_keys_addOpeningFlows (currency : String) :
    ∀ (rows : List CashBalance) (flows : Dict String (List Decimal)),
      currency ∈ (rows.foldl (addOpeningFlow horizonDays) flows).keys ↔
        currency ∈ flows.keys ∨ ∃ cash ∈ rows, cash.currency = currency
  | [], flows => by simp
  | cash :: rows, flows => by
    rw [List.foldl_cons, mem_keys_addOpeningFlows currency rows, addOpeningFlow,
      mem_keys_addFlow, List.exists_mem_cons_iff]
    tauto

end Flows

/-! ## All flows of a ladder -/

section Ladder

variable (portfolio : PortfolioSnapshot) (shelf : List ShelfEntry) (intents : List OrderIntent)
  (options : EngineOptions)

/-- The days of a ladder, after the first. -/
def ladderHorizon : Nat :=
  settlementHorizonDays (settlementDaysByInstrument shelf) intents options

/-- The flows of a ladder. -/
def ladderFlows : Dict String (List Decimal) :=
  settlementCashFlows portfolio intents (settlementDaysByInstrument shelf)
    (ladderHorizon shelf intents options) options

/-- The balance of a currency on a day: its opening cash, and what is due by the day. -/
def ladderBalance (currency : String) (day : Nat) : Decimal :=
  (portfolio.cashBalances.map fun cash =>
      if cash.currency = currency then openingCash cash else 0).sum +
    (intents.map fun intent =>
      if settlementDay (settlementDaysByInstrument shelf) options intent ≤ day then
        notedIntentCash currency intent
      else 0).sum

theorem ladderFlows_eq :
    ladderFlows portfolio shelf intents options =
      (intents.insertionSort (fun a b => ¬ b.intentId < a.intentId)).foldl
        (addIntentFlow (settlementDaysByInstrument shelf) (ladderHorizon shelf intents options)
          options)
        (portfolio.cashBalances.foldl (addOpeningFlow (ladderHorizon shelf intents options))
          Dict.empty) := rfl

theorem coversHorizon_ladderFlows :
    CoversHorizon (ladderHorizon shelf intents options)
      (ladderFlows portfolio shelf intents options) := by
  rw [ladderFlows_eq]
  exact (CoversHorizon.addOpeningFlows _ (coversHorizon_empty _)).addIntentFlows _ _ _

theorem dueThrough_ladderFlows (currency : String) (day : Nat) :
    dueThrough (ladderHorizon shelf intents options) (ladderFlows portfolio shelf intents options)
        currency day =
      ladderBalance portfolio shelf intents options currency day := by
  have hperm := List.perm_insertionSort
    (fun a b : OrderIntent => ¬ b.intentId < a.intentId) intents
  have hdue : ∀ intent ∈ intents.insertionSort
      (fun a b : OrderIntent => ¬ b.intentId < a.intentId),
      settlementDay (settlementDaysByInstrument shelf) options intent ≤
        ladderHorizon shelf intents options :=
    fun intent hmem => settlementDay_le_horizon (hperm.mem_iff.mp hmem)
  have hopening := CoversHorizon.addOpeningFlows portfolio.cashBalances
    (coversHorizon_empty (ladderHorizon shelf intents options))
  rw [ladderFlows_eq, dueThrough_addIntentFlows currency day _ hopening hdue,
    dueThrough_addOpeningFlows currency day _ (coversHorizon_empty _), dueThrough_empty, zero_add,
    (hperm.map _).sum_eq]
  rfl

theorem mem_keys_ladderFlows (currency : String) :
    currency ∈ (ladderFlows portfolio shelf intents options).keys ↔
      OccursInCash portfolio intents currency := by
  have hperm := List.perm_insertionSort
    (fun a b : OrderIntent => ¬ b.intentId < a.intentId) intents
  rw [ladderFlows_eq, mem_keys_addIntentFlows, mem_keys_addOpeningFlows]
  constructor
  · rintro ((hnone | hrow) | ⟨intent, hmem, hcurrency⟩)
    · exact absurd hnone List.not_mem_nil
    · exact Or.inl hrow
    · exact Or.inr ⟨intent, hperm.mem_iff.mp hmem, hcurrency⟩
  · rintro (hrow | ⟨intent, hmem, hcurrency⟩)
    · exact Or.inl (Or.inr hrow)
    · exact Or.inr ⟨intent, hperm.mem_iff.mpr hmem, hcurrency⟩

/-! ## The horizon day -/

theorem sum_notedIntentCash (currency : String) :
    (intents.map (notedIntentCash currency)).sum =
      (intents.map (intentCash currency)).sum +
        unappliedTradeCash (securityTrades intents) currency := by
  rw [sum_map_intents, sum_map_intents]
  show ((securityTrades intents).map (notedTradeCash currency)).sum + _ =
    ((securityTrades intents).map (appliedTradeCash currency)).sum + _ + _
  rw [sum_notedTradeCash]
  exact add_rotate _ _ _

theorem ladderBalance_horizon
    (hsettled : ∀ cash ∈ portfolio.cashBalances, cash.settled.getD cash.amount = cash.amount)
    (currency : String) :
    ladderBalance portfolio shelf intents options currency (ladderHorizon shelf intents options) =
      cashTotal (applyExecutionIntents portfolio intents).cashBalances currency +
        unappliedTradeCash (securityTrades intents) currency := by
  have hrows : (portfolio.cashBalances.map fun cash =>
      if cash.currency = currency then openingCash cash else 0) =
        portfolio.cashBalances.map fun cash =>
          if cash.currency = currency then cash.amount else 0 := by
    apply List.map_congr_left
    intro cash hmem
    rw [openingCash, hsettled cash hmem]
  have hdue : (intents.map fun intent =>
      if settlementDay (settlementDaysByInstrument shelf) options intent ≤
        ladderHorizon shelf intents options then notedIntentCash currency intent else 0) =
        intents.map (notedIntentCash currency) := by
    apply List.map_congr_left
    intro intent hmem
    exact if_pos (settlementDay_le_horizon hmem)
  rw [ladderBalance, hrows, hdue, ← cashTotal_eq_sum, cashTotal_applyExecutionIntents,
    sum_notedIntentCash, add_assoc]

end Ladder

/-! ## The points and the breaches -/

/-- The breach that a point below the floor stands for. -/
def breachAt (maxOverdraft : Decimal) (point : CashLadderPoint) : CashLadderBreach :=
  ⟨point.dateOffset, point.currency, point.projectedBalance, -maxOverdraft,
    "OVERDRAFT_ON_T_PLUS_" ++ toString point.dateOffset⟩

theorem points_settlementLadderLoop (currency : String) (maxOverdraft : Decimal) :
    ∀ (daily : List Decimal) (day : Nat) (before : Decimal),
      (settlementLadderLoop currency maxOverdraft daily day before).points =
        (List.range daily.length).map fun i =>
          ⟨day + i, currency, before + sumThrough daily i⟩
  | [], _, _ => rfl
  | flow :: daily, day, before => by
    rw [map_sumThrough_cons fun day balance => CashLadderPoint.mk day currency balance,
      ← points_settlementLadderLoop currency maxOverdraft daily (day + 1) (before + flow)]
    rfl

theorem breaches_settlementLadderLoop (currency : String) (maxOverdraft : Decimal) :
    ∀ (daily : List Decimal) (day : Nat) (before : Decimal),
      (settlementLadderLoop currency maxOverdraft daily day before).breaches =
        ((settlementLadderLoop currency maxOverdraft daily day before).points.filter
          fun point => point.projectedBalance < -maxOverdraft).map (breachAt maxOverdraft)
  | [], _, _ => rfl
  | flow :: daily, day, before => by
    have ih := breaches_settlementLadderLoop currency maxOverdraft daily (day + 1) (before + flow)
    rw [settlementLadderLoop]
    dsimp only
    by_cases hbreach : before + flow < -maxOverdraft
    · rw [if_pos hbreach, List.filter_cons_of_pos (by simpa using hbreach), List.map_cons, ← ih]
      rfl
    · rw [if_neg hbreach, List.filter_cons_of_neg (by simpa using hbreach), ih]

/-! ## Accesses checked one by one -/

/-- `flows[currency][day] += amount`, absent where the index is out of range. -/
def checkedAddFlow (horizonDays : Nat) (flows : Dict String (List Decimal)) (currency : String)
    (day : Nat) (amount : Decimal) : Option (Dict String (List Decimal)) :=
  let daily := flows.getD currency (List.replicate (horizonDays + 1) 0)
  (daily[day]?).map fun flow => flows.set currency (daily.set day (flow + amount))

/-- The flow of one intent, with checked accesses. -/
def checkedAddIntentFlow (settlementDays : Dict String Nat) (horizonDays : Nat)
    (options : EngineOptions) (flows : Dict String (List Decimal)) :
    OrderIntent → Option (Dict String (List Decimal))
  | .securityTrade intent =>
    match intent.notional with
    | none => some flows
    | some notional =>
      checkedAddFlow horizonDays flows notional.currency
        (settlementDays.getD intent.instrumentId 2) (tradeCash intent.side notional.amount)
  | .fxSpot intent => do
    let flows ← checkedAddFlow horizonDays flows intent.sellCurrency options.fxSettlementDays
      (-intent.sellAmountEstimated)
    checkedAddFlow horizonDays flows intent.buyCurrency options.fxSettlementDays intent.buyAmount

/-- `_settlement_cash_flows`, with checked accesses. -/
def checkedSettlementCashFlows (portfolio : PortfolioSnapshot) (intents : List OrderIntent)
    (settlementDays : Dict String Nat) (horizonDays : Nat) (options : EngineOptions) :
    Option (Dict String (List Decimal)) := do
  let opening ← portfolio.cashBalances.foldlM
    (fun flows cash =>
      checkedAddFlow horizonDays flows cash.currency 0 (cash.settled.getD cash.amount))
    Dict.empty
  (intents.insertionSort (fun a b => ¬ b.intentId < a.intentId)).foldlM
    (checkedAddIntentFlow settlementDays horizonDays options) opening

/-- The loop over the days that are left, with checked reads of the flows. -/
def checkedSettlementLadderLoop (currency : String) (maxOverdraft : Decimal)
    (daily : List Decimal) : List Nat → Decimal → Option SettlementLadderProjection
  | [], _ => some {}
  | day :: days, balanceBefore => do
    let flow ← daily[day]?
    let balance := balanceBefore + flow
    let rest ← checkedSettlementLadderLoop currency maxOverdraft daily days balance
    some
      { points := ⟨day, currency, balance⟩ :: rest.points
        breaches :=
          if balance < -maxOverdraft then
            ⟨day, currency, balance, -maxOverdraft, "OVERDRAFT_ON_T_PLUS_" ++ toString day⟩ ::
              rest.breaches
          else rest.breaches
        overdraftUtilized :=
          (balance < 0 ∧ maxOverdraft > 0 : Bool) || rest.overdraftUtilized }

/-- `_settlement_ladder_projection`, with checked accesses. -/
def checkedSettlementLadderProjection (flows : Dict String (List Decimal)) (horizonDays : Nat)
    (options : EngineOptions) : Option SettlementLadderProjection := do
  let projections ← (sortedTexts flows.keys).mapM fun currency => do
    let daily ← flows.get? currency
    checkedSettlementLadderLoop currency (options.maxOverdraftByCcy.getD currency 0) daily
      (List.range (horizonDays + 1)) 0
  some
    { points := (projections.map (·.points)).flatten
      breaches := (projections.map (·.breaches)).flatten
      overdraftUtilized := projections.any (·.overdraftUtilized) }

/-- `build_settlement_ladder`, with every access to the flows checked: absent where one
is out of range. -/
def checkedBuildSettlementLadder (portfolio : PortfolioSnapshot) (shelf : List ShelfEntry)
    (intents : List OrderIntent) (options : EngineOptions) (diagnostics : DiagnosticsData) :
    Option DiagnosticsData := do
  let settlementDays := settlementDaysByInstrument shelf
  let horizonDays := settlementHorizonDays settlementDays intents options
  let flows ← checkedSettlementCashFlows portfolio intents settlementDays horizonDays options
  let projection ← checkedSettlementLadderProjection flows horizonDays options
  let diagnostics :=
    { diagnostics with
      cashLadder := diagnostics.cashLadder ++ projection.points
      cashLadderBreaches := diagnostics.cashLadderBreaches ++ projection.breaches }
  if projection.overdraftUtilized then some (diagnostics.warn "SETTLEMENT_OVERDRAFT_UTILIZED")
  else some diagnostics

theorem checkedAddFlow_eq (h : CoversHorizon horizonDays flows) (currency : String) {day : Nat}
    (hday : day ≤ horizonDays) (amount : Decimal) :
    checkedAddFlow horizonDays flows currency day amount =
      some (addFlow horizonDays flows currency day amount) := by
  have hlt : day < (dailyFlows horizonDays flows currency).length := by
    rw [h.length_dailyFlows]
    exact Nat.lt_succ_of_le hday
  have hread := List.getElem?_eq_getElem hlt
  have hwrite := List.modify_eq_set_getElem? (· + amount) day
    (dailyFlows horizonDays flows currency)
  rw [hread] at hwrite
  unfold checkedAddFlow addFlow
  dsimp only
  rw [show flows.getD currency (List.replicate (horizonDays + 1) 0) =
    dailyFlows horizonDays flows currency from rfl, hread, hwrite]
  rfl

theorem checkedAddIntentFlow_eq (h : CoversHorizon horizonDays flows)
    (hdue : settlementDay settlementDays options intent ≤ horizonDays) :
    checkedAddIntentFlow settlementDays horizonDays options flows intent =
      some (addIntentFlow settlementDays horizonDays options flows intent) := by
  cases intent with
  | securityTrade trade =>
    unfold checkedAddIntentFlow addIntentFlow
    dsimp only
    cases trade.notional with
    | none => rfl
    | some notional => exact checkedAddFlow_eq h _ hdue _
  | fxSpot conversion =>
    replace hdue : options.fxSettlementDays ≤ horizonDays := hdue
    unfold checkedAddIntentFlow addIntentFlow
    dsimp only
    rw [checkedAddFlow_eq h _ hdue]
    exact checkedAddFlow_eq (h.addFlow _ _ _) _ hdue _

theorem checkedSettlementCashFlows_eq (options : EngineOptions) :
    checkedSettlementCashFlows portfolio intents (settlementDaysByInstrument shelf)
        (ladderHorizon shelf intents options) options =
      some (ladderFlows portfolio shelf intents options) := by
  have hperm := List.perm_insertionSort
    (fun a b : OrderIntent => ¬ b.intentId < a.intentId) intents
  have hopening : portfolio.cashBalances.foldlM
      (fun flows cash => checkedAddFlow (ladderHorizon shelf intents options) flows cash.currency
        0 (cash.settled.getD cash.amount)) Dict.empty =
      some (portfolio.cashBalances.foldl (addOpeningFlow (ladderHorizon shelf intents options))
        Dict.empty) :=
    (Checks.foldlM_eq_some_foldl (CoversHorizon (ladderHorizon shelf intents options))
      (fun _ _ _ h => ⟨checkedAddFlow_eq h _ (Nat.zero_le _) _, h.addFlow _ _ _⟩)
      (coversHorizon_empty _)).1
  have hcovers := CoversHorizon.addOpeningFlows portfolio.cashBalances
    (coversHorizon_empty (ladderHorizon shelf intents options))
  rw [checkedSettlementCashFlows, hopening, ladderFlows_eq]
  exact (Checks.foldlM_eq_some_foldl (CoversHorizon (ladderHorizon shelf intents options))
    (fun _ _ hmem h =>
      ⟨checkedAddIntentFlow_eq h (settlementDay_le_horizon (hperm.mem_iff.mp hmem)),
        h.addIntentFlow _ _ _⟩) hcovers).1

theorem checkedSettlementLadderLoop_eq (currency : String) (maxOverdraft : Decimal)
    (daily : List Decimal) :
    ∀ (rest : List Decimal) (day : Nat) (before : Decimal), daily.drop day = rest →
      checkedSettlementLadderLoop currency maxOverdraft daily (List.range' day rest.length)
          before =
        some (settlementLadderLoop currency maxOverdraft rest day before)
  | [], _, _, _ => rfl
  | flow :: rest, day, before, h => by
    have hread : daily[day]? = some flow := by
      have hhead : (daily.drop day)[0]? = daily[day + 0]? := List.getElem?_drop
      rw [h, Nat.add_zero] at hhead
      exact hhead.symm
    have hrest : daily.drop (day + 1) = rest := by
      rw [← List.drop_drop, h]
      rfl
    have ih := checkedSettlementLadderLoop_eq currency maxOverdraft daily rest (day + 1)
      (before + flow) hrest
    rw [List.length_cons, List.range'_succ, checkedSettlementLadderLoop, hread]
    show (checkedSettlementLadderLoop currency maxOverdraft daily
      (List.range' (day + 1) rest.length) (before + flow)).bind _ = _
    rw [ih]
    rfl

theorem checkedSettlementLadderProjection_eq (h : CoversHorizon horizonDays flows)
    (options : EngineOptions) :
    checkedSettlementLadderProjection flows horizonDays options =
      some (settlementLadderProjection flows options) := by
  have hone : ∀ currency ∈ sortedTexts flows.keys,
      (flows.get? currency).bind (fun daily => checkedSettlementLadderLoop currency
        (options.maxOverdraftByCcy.getD currency 0) daily (List.range (horizonDays + 1)) 0) =
      some (settlementLadderLoop currency (options.maxOverdraftByCcy.getD currency 0)
        (flows.getD currency []) 0 0) := by
    intro currency hmem
    obtain ⟨daily, hdaily⟩ := (Dict.mem_keys_iff flows currency).mp
      ((List.mem_insertionSort _).mp hmem)
    have hloop := checkedSettlementLadderLoop_eq currency
      (options.maxOverdraftByCcy.getD currency 0) daily daily 0 0 rfl
    rw [h currency daily hdaily, ← List.range_eq_range'] at hloop
    have hread : flows.getD currency [] = daily := by
      rw [Dict.getD, hdaily]
      rfl
    rw [hread, hdaily]
    exact hloop
  have hall : ∀ currencies : List String, (∀ currency ∈ currencies,
      currency ∈ sortedTexts flows.keys) →
      currencies.mapM (fun currency => (flows.get? currency).bind (fun daily =>
        checkedSettlementLadderLoop currency (options.maxOverdraftByCcy.getD currency 0) daily
          (List.range (horizonDays + 1)) 0)) =
      some (currencies.map fun currency => settlementLadderLoop currency
        (options.maxOverdraftByCcy.getD currency 0) (flows.getD currency []) 0 0) := by
    intro currencies
    induction currencies with
    | nil => exact fun _ => rfl
    | cons currency currencies ih =>
      intro hmem
      rw [List.mapM_cons, hone currency (hmem currency List.mem_cons_self),
        ih fun other hother => hmem other (List.mem_cons_of_mem _ hother)]
      rfl
  unfold checkedSettlementLadderProjection
  show ((sortedTexts flows.keys).mapM (fun currency => (flows.get? currency).bind (fun daily =>
    checkedSettlementLadderLoop currency (options.maxOverdraftByCcy.getD currency 0) daily
      (List.range (horizonDays + 1)) 0))).bind _ = _
  rw [hall _ fun _ hmem => hmem]
  rfl

theorem checkedBuildSettlementLadder_eq (options : EngineOptions) (diagnostics : DiagnosticsData) :
    checkedBuildSettlementLadder portfolio shelf intents options diagnostics =
      some (buildSettlementLadder portfolio shelf intents options diagnostics) := by
  have hflows := checkedSettlementCashFlows_eq portfolio shelf intents options
  have hprojection := checkedSettlementLadderProjection_eq
    (coversHorizon_ladderFlows portfolio shelf intents options) options
  unfold checkedBuildSettlementLadder
  show (checkedSettlementCashFlows portfolio intents (settlementDaysByInstrument shelf)
    (ladderHorizon shelf intents options) options).bind _ = _
  rw [hflows]
  show (checkedSettlementLadderProjection (ladderFlows portfolio shelf intents options)
    (ladderHorizon shelf intents options) options).bind _ = _
  rw [hprojection]
  unfold buildSettlementLadder
  dsimp only
  show (if (settlementLadderProjection (ladderFlows portfolio shelf intents options)
    options).overdraftUtilized then _ else _) = some (if (settlementLadderProjection
      (ladderFlows portfolio shelf intents options) options).overdraftUtilized then _ else _)
  split <;> rfl

/-! ## The ladder as a whole -/

/-- What the ladder adds to the diagnostics. -/
structure LadderCorrect (portfolio : PortfolioSnapshot) (shelf : List ShelfEntry)
    (intents : List OrderIntent) (options : EngineOptions)
    (before after : DiagnosticsData) : Prop where
  inRange : checkedBuildSettlementLadder portfolio shelf intents options before = some after
  complete : ∃ currencies : List String, currencies.Nodup ∧
    (∀ currency, currency ∈ currencies ↔ OccursInCash portfolio intents currency) ∧
    let points := (currencies.map fun currency =>
      (List.range (ladderHorizon shelf intents options + 1)).map fun day =>
        CashLadderPoint.mk day currency
          (ladderBalance portfolio shelf intents options currency day)).flatten
    after.cashLadder = before.cashLadder ++ points ∧
      after.cashLadderBreaches = before.cashLadderBreaches ++
        (points.filter fun point =>
          point.projectedBalance < -options.maxOverdraftByCcy.getD point.currency 0).map
          fun point => breachAt (options.maxOverdraftByCcy.getD point.currency 0) point
  horizon : (∀ cash ∈ portfolio.cashBalances, cash.settled.getD cash.amount = cash.amount) →
    ∀ currency, ladderBalance portfolio shelf intents options currency
        (ladderHorizon shelf intents options) =
      cashTotal (applyExecutionIntents portfolio intents).cashBalances currency +
        unappliedTradeCash (securityTrades intents) currency

/-- The ladder stays in range, has one point for each day and currency, shows the cash
that is due, and on its last day agrees with the simulation but for the trades that are
not applied. -/
theorem settlement_ladder_correct (portfolio : PortfolioSnapshot) (shelf : List ShelfEntry)
    (intents : List OrderIntent) (options : EngineOptions) (diagnostics : DiagnosticsData) :
    LadderCorrect portfolio shelf intents options diagnostics
      (buildSettlementLadder portfolio shelf intents options diagnostics) := by
  refine ⟨checkedBuildSettlementLadder_eq _ _ _ _ _, ?_,
    ladderBalance_horizon portfolio shelf intents options⟩
  have hcovers := coversHorizon_ladderFlows portfolio shelf intents options
  refine ⟨sortedTexts (ladderFlows portfolio shelf intents options).keys, ?_, ?_, ?_⟩
  · exact (List.perm_insertionSort _ _).nodup_iff.mpr
      (ladderFlows portfolio shelf intents options).nodup
  · intro currency
    rw [← mem_keys_ladderFlows portfolio shelf intents options]
    exact List.mem_insertionSort _
  -- the points of one currency
  have hone : ∀ currency ∈ sortedTexts (ladderFlows portfolio shelf intents options).keys,
      (settlementLadderLoop currency (options.maxOverdraftByCcy.getD currency 0)
        ((ladderFlows portfolio shelf intents options).getD currency []) 0 0).points =
      (List.range (ladderHorizon shelf intents options + 1)).map fun day =>
        CashLadderPoint.mk day currency
          (ladderBalance portfolio shelf intents options currency day) := by
    intro currency hmem
    obtain ⟨daily, hdaily⟩ := (Dict.mem_keys_iff _ currency).mp
      ((List.mem_insertionSort _).mp hmem)
    have hread : dailyFlows (ladderHorizon shelf intents options)
        (ladderFlows portfolio shelf intents options) currency = daily := by
      rw [dailyFlows, Dict.getD, hdaily]
      rfl
    rw [points_settlementLadderLoop, Dict.getD, hdaily, Option.getD_some,
      hcovers currency daily hdaily]
    apply List.map_congr_left
    intro day _
    rw [Nat.zero_add, zero_add, ← dueThrough_ladderFlows, dueThrough, hread]
  have hpoints : (settlementLadderProjection (ladderFlows portfolio shelf intents options)
      options).points =
      ((sortedTexts (ladderFlows portfolio shelf intents options).keys).map fun currency =>
        (List.range (ladderHorizon shelf intents options + 1)).map fun day =>
          CashLadderPoint.mk day currency
            (ladderBalance portfolio shelf intents options currency day)).flatten := by
    unfold settlementLadderProjection
    dsimp only
    rw [List.map_map]
    exact congrArg List.flatten (List.map_congr_left hone)
  have hbreaches : (settlementLadderProjection (ladderFlows portfolio shelf intents options)
      options).breaches =
      ((settlementLadderProjection (ladderFlows portfolio shelf intents options)
        options).points.filter fun point =>
          point.projectedBalance < -options.maxOverdraftByCcy.getD point.currency 0).map
          fun point => breachAt (options.maxOverdraftByCcy.getD point.currency 0) point := by
    unfold settlementLadderProjection
    dsimp only
    rw [List.filter_flatten, List.map_flatten, List.map_map, List.map_map, List.map_map,
      List.map_map]
    apply congrArg List.flatten
    apply List.map_congr_left
    intro currency hmem
    dsimp only [Function.comp]
    rw [breaches_settlementLadderLoop, hone currency hmem, List.filter_map, List.filter_map,
      List.map_map, List.map_map]
    rfl
  dsimp only
  unfold buildSettlementLadder
  dsimp only
  rw [← hpoints, ← hbreaches]
  show (if (settlementLadderProjection (ladderFlows portfolio shelf intents options)
    options).overdraftUtilized then _ else _ : DiagnosticsData).cashLadder = _ ∧
      (if (settlementLadderProjection (ladderFlows portfolio shelf intents options)
    options).overdraftUtilized then _ else _ : DiagnosticsData).cashLadderBreaches = _
  split <;> exact ⟨rfl, rfl⟩

/-- A purchase for 40 dollars without a quantity. -/
def unquantifiedPurchase : SecurityTradeIntent :=
  { intentId := "oi_1", instrumentId := "EQ", side := .buy, quantity := none
    notional := some ⟨40, "USD"⟩, notionalBase := some ⟨40, "USD"⟩ }

/-- The ladder pays for a trade that the simulation does not apply.  And with the 28 digits of the
decimal context the flows of a sale of one unit of three for 1000, of a purchase of one of seven, and
of the sweep of what is left, added up by days, part in a last digit from the same flows applied in
turn. -/
theorem unquantified_trade_in_ladder :
    (let portfolio : PortfolioSnapshot :=
      { portfolioId := "pf", baseCurrency := "USD", cashBalances := [⟨"USD", 100, none⟩] }
    let intents := [.securityTrade unquantifiedPurchase]
    (∀ cash ∈ portfolio.cashBalances, cash.settled = none) ∧
      ∃ point ∈ (buildSettlementLadder portfolio [] intents {} {}).cashLadder,
        point.dateOffset = ladderHorizon [] intents {} ∧ point.currency = "USD" ∧
        point.projectedBalance ≠
          cashTotal (applyExecutionIntents portfolio intents).cashBalances "USD") ∧
    (let sale := tradeCash .sell (fit28 (1000 / 3))
    let purchase := tradeCash .buy (fit28 (1000 / 7))
    let swept := sumWith fit28 [10000, sale, purchase]
    sumWith fit28 [10000, 0, sumWith fit28 [sale, purchase, -swept]] = 0 ∧
      sumWith fit28 [10000, sale, -swept, purchase] = -29 / 10 ^ 25) := by
  constructor
  · constructor
    · decide +kernel
    · refine ⟨⟨5, "USD", 60⟩, ?_, ?_, rfl, ?_⟩
      · decide +kernel
      · decide +kernel
      · decide +kernel
  · decide +kernel

end LotusManage.Engine
