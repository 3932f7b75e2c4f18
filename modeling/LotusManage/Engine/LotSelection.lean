import LotusManage.Engine.DecimalArithmetic
import LotusManage.Engine.RealizedGains
import LotusManage.Lib.Allocations
import LotusManage.Lib.Runs
import Mathlib.Algebra.Order.Group.MinMax
import Mathlib.Data.String.Basic
import Mathlib.Order.Bounds.Basic

/-!
# The lots that a sale takes

The lot scan of `tax_budget.py` returns one quantity.  `lotAllocation` is the same
scan with the quantity of every lot kept: it takes the lots in turn
(`lotAllocation_inTurn`), and it stops only when the requested quantity is
reached or when a lot with a gain uses up the budget.

The lots are scanned from the highest cost down, so for a positive base rate the
gain of a unit never falls along the scan.  Taking in turn is then taking the
cheapest first, and the general facts about allocations say that no other choice
of lots sells more within the budget, and none that sells as much realizes less
(`hifo_optimal`).
-/

namespace LotusManage.Engine

open LotusManage.Allocations LotusManage.Runs

/-! ## The scan, lot by lot -/

/-- What the lot scan takes from every lot; the lots behind the end of the scan give
nothing. -/
def lotAllocation (sellPrice baseRate : Decimal) :
    List (TaxLot × Decimal) → Decimal → TaxBudgetAccumulator → List ((TaxLot × Decimal) × Decimal)
  | [], _, _ => []
  | (lot, lotUnitCost) :: lots, remaining, taxBudget =>
    match taxBudgetSaleAllowance remaining lot.quantity lotUnitCost sellPrice baseRate
        taxBudget with
    | none =>
      ((lot, lotUnitCost), 0) ::
        if taxBudgetAllowanceStopsLotScan none remaining then lots.map (·, 0)
        else lotAllocation sellPrice baseRate lots remaining taxBudget
    | some allowance =>
      ((lot, lotUnitCost), allowance.allowedQuantity) ::
        if taxBudgetAllowanceStopsLotScan (some allowance)
            (remaining - allowance.allowedQuantity) then lots.map (·, 0)
        else lotAllocation sellPrice baseRate lots (remaining - allowance.allowedQuantity)
          (applyTaxBudgetLotAllowance allowance taxBudget)

/-- The quantity of a scanned lot. -/
def lotQuantity (entry : TaxLot × Decimal) : Decimal := entry.1.quantity

/-- The gain of one unit of a scanned lot; a loss is negative. -/
def perUnitGain (sellPrice baseRate : Decimal) (entry : TaxLot × Decimal) : Decimal :=
  (sellPrice - entry.2) * baseRate

/-- The gain of one unit, when it is a gain. -/
def gainPart (sellPrice baseRate : Decimal) (entry : TaxLot × Decimal) : Decimal :=
  max (perUnitGain sellPrice baseRate entry) 0

/-- The loss of one unit, when it is a loss. -/
def lossPart (sellPrice baseRate : Decimal) (entry : TaxLot × Decimal) : Decimal :=
  max (-perUnitGain sellPrice baseRate entry) 0

/-- A choice of the quantity that every lot gives. -/
abbrev LotSale (lots : List (TaxLot × Decimal)) := Allocation lotQuantity lots

variable {remaining baseRate : Decimal} {taxBudget : TaxBudgetAccumulator}
  {allowance : TaxBudgetLotAllowance}

/-- What can happen at a lot: nothing is left to sell; the lot is empty; the lot
gives what it can and the scan ends or goes on.  It goes on only after a lot that
gave all that was asked of it. -/
theorem lotTurn_cases (lot : TaxLot) (cost sellPrice baseRate : Decimal) (h : 0 ≤ remaining)
    (taxBudget : TaxBudgetAccumulator) :
    (remaining = 0 ∧
      taxBudgetSaleAllowance remaining lot.quantity cost sellPrice baseRate taxBudget = none ∧
      taxBudgetAllowanceStopsLotScan none remaining = true) ∨
    (lot.quantity = 0 ∧
      taxBudgetSaleAllowance remaining lot.quantity cost sellPrice baseRate taxBudget = none ∧
      taxBudgetAllowanceStopsLotScan none remaining = false) ∨
    ∃ allowance,
      taxBudgetSaleAllowance remaining lot.quantity cost sellPrice baseRate taxBudget =
        some allowance ∧
      0 ≤ allowance.allowedQuantity ∧ allowance.allowedQuantity ≤ remaining ∧
      allowance.allowedQuantity ≤ lot.quantity ∧
      allowance.realizedBase =
        perUnitGain sellPrice baseRate (lot, cost) * allowance.allowedQuantity ∧
      (taxBudgetAllowanceStopsLotScan (some allowance)
          (remaining - allowance.allowedQuantity) = true ∨
        taxBudgetAllowanceStopsLotScan (some allowance)
          (remaining - allowance.allowedQuantity) = false ∧
        allowance.allowedQuantity = min remaining lot.quantity) := by
  cases hallow : taxBudgetSaleAllowance remaining lot.quantity cost sellPrice baseRate
      taxBudget with
  | none =>
    by_cases hremaining : remaining ≤ 0
    · refine Or.inl ⟨le_antisymm hremaining h, rfl, ?_⟩
      simpa [taxBudgetAllowanceStopsLotScan] using hremaining
    · refine Or.inr (Or.inl ⟨?_, rfl, ?_⟩)
      · by_contra hlot
        have hpos : ¬ lot.quantity ≤ 0 := fun hle => hlot (le_antisymm hle lot.quantityNonneg)
        rw [taxBudgetSaleAllowance, if_neg hremaining, if_neg hpos] at hallow
        cases hallow
      · simpa [taxBudgetAllowanceStopsLotScan] using hremaining
  | some allowance =>
    obtain ⟨hnonneg, hle, hrequested, hrealized⟩ := taxBudgetSaleAllowance_spec hallow
    refine Or.inr (Or.inr ⟨allowance, rfl, hnonneg, hle.trans (hrequested ▸ min_le_left _ _),
      hle.trans (hrequested ▸ min_le_right _ _), hrealized, ?_⟩)
    cases hstop : taxBudgetAllowanceStopsLotScan (some allowance)
        (remaining - allowance.allowedQuantity) with
    | true => exact Or.inl rfl
    | false =>
      refine Or.inr ⟨rfl, ?_⟩
      rw [← hrequested]
      refine le_antisymm hle ?_
      by_contra hlt
      simp [taxBudgetAllowanceStopsLotScan, not_le.mp hlt] at hstop

@[simp] theorem total_map_zero (lots : List (TaxLot × Decimal)) :
    total (lots.map fun entry => (entry, (0 : Decimal))) = 0 := by
  refine total_eq_zero fun row hmem => ?_
  obtain ⟨entry, _, rfl⟩ := List.mem_map.mp hmem
  rfl

@[simp] theorem cost_map_zero (price : TaxLot × Decimal → Decimal)
    (lots : List (TaxLot × Decimal)) :
    cost price (lots.map fun entry => (entry, (0 : Decimal))) = 0 := by
  induction lots with
  | nil => rfl
  | cons entry lots ih => rw [List.map_cons, cost_cons, ih, mul_zero, add_zero]

theorem realizedAmount_mul {gain amount : Decimal} (h : 0 ≤ amount) :
    realizedAmount (gain * amount) = (max gain 0 * amount, max (-gain) 0 * amount) := by
  unfold realizedAmount
  rw [max_mul_of_nonneg _ _ h, max_mul_of_nonneg _ _ h, zero_mul, neg_mul]

/-- The scan in terms of what it takes from the lots. -/
structure LotScanTakes (sellPrice baseRate : Decimal) (lots : List (TaxLot × Decimal))
    (remaining allowedQty : Decimal) (taxBudget : TaxBudgetAccumulator)
    (rows : List ((TaxLot × Decimal) × Decimal)) : Prop where
  lotsEq : rows.map Prod.fst = lots
  within : ∀ row ∈ rows, 0 ≤ row.2 ∧ row.2 ≤ lotQuantity row.1
  quantity : (lotScan sellPrice baseRate lots remaining allowedQty taxBudget).1 =
    allowedQty + total rows
  le : total rows ≤ remaining
  adds : AddsRealized taxBudget (lotScan sellPrice baseRate lots remaining allowedQty taxBudget).2
    (cost (gainPart sellPrice baseRate) rows, cost (lossPart sellPrice baseRate) rows)

theorem lotScan_takes (sellPrice baseRate : Decimal) :
    ∀ (lots : List (TaxLot × Decimal)) (remaining allowedQty : Decimal)
      (taxBudget : TaxBudgetAccumulator), 0 ≤ remaining →
      LotScanTakes sellPrice baseRate lots remaining allowedQty taxBudget
        (lotAllocation sellPrice baseRate lots remaining taxBudget)
  | [], remaining, allowedQty, taxBudget, h =>
    { lotsEq := rfl
      within := fun row hmem => absurd hmem List.not_mem_nil
      quantity := (add_zero _).symm
      le := h
      adds := AddsRealized.refl taxBudget }
  | (lot, unitCost) :: lots, remaining, allowedQty, taxBudget, h => by
    have hempty : ∀ row ∈ lots.map fun entry => (entry, (0 : Decimal)),
        0 ≤ row.2 ∧ row.2 ≤ lotQuantity row.1 := by
      intro row hmem
      obtain ⟨entry, _, rfl⟩ := List.mem_map.mp hmem
      exact ⟨le_refl _, entry.1.quantityNonneg⟩
    rcases lotTurn_cases lot unitCost sellPrice baseRate h taxBudget with
      ⟨_, hallow, hstop⟩ | ⟨_, hallow, hstop⟩ |
        ⟨allowance, hallow, hnonneg, hremaining, hlot, hrealized, hstop⟩
    · -- nothing is left to sell
      refine ⟨?_, ?_, ?_, ?_, ?_⟩ <;>
        simp only [lotScan, lotAllocation, hallow, hstop, if_true]
      · rw [List.map_cons, List.map_map]
        exact congrArg _ (List.map_id lots)
      · exact List.forall_mem_cons.mpr ⟨⟨le_refl _, lot.quantityNonneg⟩, hempty⟩
      · rw [total_cons, total_map_zero, add_zero, add_zero]
      · rw [total_cons, total_map_zero, add_zero]
        exact h
      · rw [cost_cons, cost_cons, cost_map_zero, cost_map_zero, mul_zero, mul_zero, add_zero]
        exact AddsRealized.refl taxBudget
    · -- the lot is empty
      have ih := lotScan_takes sellPrice baseRate lots remaining allowedQty taxBudget h
      refine ⟨?_, ?_, ?_, ?_, ?_⟩ <;>
        simp only [lotScan, lotAllocation, hallow, hstop, Bool.false_eq_true, if_false]
      · rw [List.map_cons, ih.lotsEq]
      · exact List.forall_mem_cons.mpr ⟨⟨le_refl _, lot.quantityNonneg⟩, ih.within⟩
      · rw [ih.quantity, total_cons, zero_add]
      · rw [total_cons, zero_add]
        exact ih.le
      · rw [cost_cons, cost_cons, mul_zero, mul_zero, zero_add, zero_add]
        exact ih.adds
    · have hone := addsRealized_lotAllowance allowance taxBudget
      rw [hrealized, realizedAmount_mul hnonneg] at hone
      rcases hstop with hstop | ⟨hstop, _⟩
      · -- the scan ends with this lot
        refine ⟨?_, ?_, ?_, ?_, ?_⟩ <;>
          simp only [lotScan, lotAllocation, hallow, hstop, if_true]
        · rw [List.map_cons, List.map_map]
          exact congrArg _ (List.map_id lots)
        · exact List.forall_mem_cons.mpr ⟨⟨hnonneg, hlot⟩, hempty⟩
        · rw [total_cons, total_map_zero, add_zero]
        · rw [total_cons, total_map_zero, add_zero]
          exact hremaining
        · rw [cost_cons, cost_cons, cost_map_zero, cost_map_zero, add_zero, add_zero]
          exact hone
      · have ih := lotScan_takes sellPrice baseRate lots (remaining - allowance.allowedQuantity)
          (allowedQty + allowance.allowedQuantity)
          (applyTaxBudgetLotAllowance allowance taxBudget) (sub_nonneg.mpr hremaining)
        refine ⟨?_, ?_, ?_, ?_, ?_⟩ <;>
          simp only [lotScan, lotAllocation, hallow, hstop, Bool.false_eq_true, if_false]
        · rw [List.map_cons, ih.lotsEq]
        · exact List.forall_mem_cons.mpr ⟨⟨hnonneg, hlot⟩, ih.within⟩
        · rw [ih.quantity, total_cons, add_assoc]
        · have hle := ih.le
          rw [total_cons]
          linarith
        · rw [cost_cons, cost_cons]
          exact hone.trans ih.adds

/-! ## The budget along the scan -/

/-- The used budget is not above the limit, when there is one. -/
def WithinLimit (taxBudget : TaxBudgetAccumulator) : Prop :=
  ∀ limit, taxBudget.taxBudgetLimitBase = some limit → taxBudget.taxBudgetUsedBase ≤ limit

@[simp] theorem taxBudgetLimitBase_applyTaxBudgetLotAllowance (allowance : TaxBudgetLotAllowance)
    (taxBudget : TaxBudgetAccumulator) :
    (applyTaxBudgetLotAllowance allowance taxBudget).taxBudgetLimitBase =
      taxBudget.taxBudgetLimitBase := by
  unfold applyTaxBudgetLotAllowance
  split <;> rfl

theorem gain_mul_allowed_le (lotSellQty : Decimal) {perUnitGainBase limit : Decimal}
    (hlimit : taxBudget.taxBudgetLimitBase = some limit)
    (hwithin : taxBudget.taxBudgetUsedBase ≤ limit) (hgain : 0 < perUnitGainBase) :
    perUnitGainBase * taxBudgetAllowedLotQuantity lotSellQty perUnitGainBase taxBudget ≤
      limit - taxBudget.taxBudgetUsedBase := by
  rw [taxBudgetAllowedLotQuantity, hlimit]
  dsimp only
  rw [if_neg (not_le.mpr hgain)]
  split
  · rw [mul_zero]
    exact sub_nonneg.mpr hwithin
  · calc perUnitGainBase *
          min lotSellQty ((limit - taxBudget.taxBudgetUsedBase) / perUnitGainBase)
        ≤ perUnitGainBase * ((limit - taxBudget.taxBudgetUsedBase) / perUnitGainBase) :=
          mul_le_mul_of_nonneg_left (min_le_right _ _) hgain.le
      _ = limit - taxBudget.taxBudgetUsedBase := mul_div_cancel₀ _ hgain.ne'

theorem WithinLimit.apply {lotQuantity unitCost sellPrice : Decimal} (h : WithinLimit taxBudget)
    (hallow : taxBudgetSaleAllowance remaining lotQuantity unitCost sellPrice baseRate taxBudget =
      some allowance) : WithinLimit (applyTaxBudgetLotAllowance allowance taxBudget) := by
  intro limit hlimit
  rw [taxBudgetLimitBase_applyTaxBudgetLotAllowance] at hlimit
  have hwithin := h limit hlimit
  obtain ⟨hnonneg, _, _, hrealized⟩ := taxBudgetSaleAllowance_spec hallow
  rw [(addsRealized_lotAllowance allowance taxBudget).used, hrealized, realizedAmount_mul hnonneg]
  rcases le_or_gt ((sellPrice - unitCost) * baseRate) 0 with hloss | hgain
  · rw [max_eq_right hloss, zero_mul, add_zero]
    exact hwithin
  · rw [max_eq_left hgain.le]
    have hallowed : allowance.allowedQuantity =
        taxBudgetAllowedLotQuantity (min remaining lotQuantity) ((sellPrice - unitCost) * baseRate)
          taxBudget := by
      unfold taxBudgetSaleAllowance at hallow
      split at hallow
      · cases hallow
      · split at hallow
        · cases hallow
        · cases hallow
          rfl
    rw [hallowed]
    have hrest := gain_mul_allowed_le (min remaining lotQuantity) hlimit hwithin hgain
    linarith

/-- A lot that may not give all that is asked of it has a gain, and what it gives uses
up the budget. -/
theorem used_up_of_allowed_lt {lotSellQty perUnitGainBase : Decimal} (h : WithinLimit taxBudget)
    (hshort : taxBudgetAllowedLotQuantity lotSellQty perUnitGainBase taxBudget < lotSellQty) :
    0 < perUnitGainBase ∧ ∃ limit, taxBudget.taxBudgetLimitBase = some limit ∧
      taxBudget.taxBudgetUsedBase +
        perUnitGainBase * taxBudgetAllowedLotQuantity lotSellQty perUnitGainBase taxBudget =
          limit := by
  unfold taxBudgetAllowedLotQuantity at hshort ⊢
  cases hlimit : taxBudget.taxBudgetLimitBase with
  | none =>
    rw [hlimit] at hshort
    exact absurd hshort (lt_irrefl _)
  | some limit =>
    rw [hlimit] at hshort
    dsimp only at hshort ⊢
    by_cases hgain : perUnitGainBase ≤ 0
    · rw [if_pos hgain] at hshort
      exact absurd hshort (lt_irrefl _)
    · refine ⟨not_le.mp hgain, limit, rfl, ?_⟩
      rw [if_neg hgain] at hshort ⊢
      by_cases hused : limit ≤ taxBudget.taxBudgetUsedBase
      · rw [if_pos hused, mul_zero, add_zero]
        exact le_antisymm (h limit hlimit) hused
      · rw [if_neg hused] at hshort ⊢
        have hrest : (limit - taxBudget.taxBudgetUsedBase) / perUnitGainBase < lotSellQty :=
          (min_lt_iff.mp hshort).resolve_left (lt_irrefl _)
        rw [min_eq_right hrest.le, mul_div_cancel₀ _ (ne_of_gt (not_le.mp hgain))]
        ring

theorem used_up_of_stop {unitCost sellPrice : Decimal} {lot : TaxLot} (h : WithinLimit taxBudget)
    (hallow : taxBudgetSaleAllowance remaining lot.quantity unitCost sellPrice baseRate
      taxBudget = some allowance) (hstop : taxBudgetAllowanceStopsLotScan (some allowance)
      (remaining - allowance.allowedQuantity) = true) :
    0 < perUnitGain sellPrice baseRate (lot, unitCost) ∧
      ∃ limit, taxBudget.taxBudgetLimitBase = some limit ∧
        taxBudget.taxBudgetUsedBase +
          perUnitGain sellPrice baseRate (lot, unitCost) * allowance.allowedQuantity = limit := by
  unfold taxBudgetSaleAllowance at hallow
  split at hallow
  · cases hallow
  · rename_i hremaining
    split at hallow
    · cases hallow
    · rename_i hlot
      have hsell : 0 < min remaining lot.quantity := lt_min (not_le.mp hremaining) (not_le.mp hlot)
      cases hallow
      have hshort := of_decide_eq_true hstop
      exact used_up_of_allowed_lt h (hshort.elim (fun hnone => lt_of_le_of_lt hnone hsell) id)

/-- The accumulators that the lot scan passes through after the one it starts with. -/
def lotScanBudgets (sellPrice baseRate : Decimal) :
    List (TaxLot × Decimal) → Decimal → TaxBudgetAccumulator → List TaxBudgetAccumulator
  | [], _, _ => []
  | (lot, lotUnitCost) :: lots, remaining, taxBudget =>
    match taxBudgetSaleAllowance remaining lot.quantity lotUnitCost sellPrice baseRate
        taxBudget with
    | none =>
      if taxBudgetAllowanceStopsLotScan none remaining then []
      else lotScanBudgets sellPrice baseRate lots remaining taxBudget
    | some allowance =>
      applyTaxBudgetLotAllowance allowance taxBudget ::
        if taxBudgetAllowanceStopsLotScan (some allowance)
            (remaining - allowance.allowedQuantity) then []
        else lotScanBudgets sellPrice baseRate lots (remaining - allowance.allowedQuantity)
          (applyTaxBudgetLotAllowance allowance taxBudget)

/-- One lot is taken: its allowance is added to the accumulator. -/
def LotTaken (before after : TaxBudgetAccumulator) : Prop :=
  ∃ remaining lotQuantity unitCost sellPrice baseRate allowance,
    taxBudgetSaleAllowance remaining lotQuantity unitCost sellPrice baseRate before =
      some allowance ∧
    after = applyTaxBudgetLotAllowance allowance before

theorem lotScan_passes (sellPrice baseRate : Decimal) :
    ∀ (lots : List (TaxLot × Decimal)) (remaining allowedQty : Decimal)
      (taxBudget : TaxBudgetAccumulator),
      Passes LotTaken taxBudget (lotScanBudgets sellPrice baseRate lots remaining taxBudget)
        (lotScan sellPrice baseRate lots remaining allowedQty taxBudget).2
  | [], remaining, allowedQty, taxBudget => Passes.stay taxBudget
  | (lot, unitCost) :: lots, remaining, allowedQty, taxBudget => by
    rw [lotScan, lotScanBudgets]
    cases hallow : taxBudgetSaleAllowance remaining lot.quantity unitCost sellPrice baseRate
        taxBudget with
    | none =>
      dsimp only
      split
      · exact Passes.stay taxBudget
      · exact lotScan_passes sellPrice baseRate lots _ _ _
    | some allowance =>
      dsimp only
      refine Passes.step ⟨_, _, _, _, _, allowance, hallow, rfl⟩ ?_
      split
      · exact Passes.stay _
      · exact lotScan_passes sellPrice baseRate lots _ _ _

theorem LotTaken.withinLimit {before after : TaxBudgetAccumulator} (h : LotTaken before after)
    (hwithin : WithinLimit before) :
    after.taxBudgetLimitBase = before.taxBudgetLimitBase ∧ WithinLimit after := by
  obtain ⟨_, _, _, _, _, allowance, hallow, rfl⟩ := h
  exact ⟨taxBudgetLimitBase_applyTaxBudgetLotAllowance _ _, hwithin.apply hallow⟩

/-- The scan takes the lots in turn.  It stops at a lot only when the requested
quantity is reached or the budget is used up there. -/
theorem lotAllocation_inTurn (sellPrice baseRate : Decimal) :
    ∀ (lots : List (TaxLot × Decimal)) (remaining : Decimal) (taxBudget : TaxBudgetAccumulator),
      0 ≤ remaining → WithinLimit taxBudget →
      let rows := lotAllocation sellPrice baseRate lots remaining taxBudget
      ∃ stop, InTurn lotQuantity rows stop ∧ ∀ entry, stop = some entry →
        total rows = remaining ∨
          0 < perUnitGain sellPrice baseRate entry ∧
            ∃ limit, taxBudget.taxBudgetLimitBase = some limit ∧
              taxBudget.taxBudgetUsedBase + cost (gainPart sellPrice baseRate) rows = limit
  | [], remaining, taxBudget, h, hwithin => ⟨none, InTurn.nil, fun entry hentry => by cases hentry⟩
  | (lot, unitCost) :: lots, remaining, taxBudget, h, hwithin => by
    have hempty : ∀ row ∈ lots.map fun entry => (entry, (0 : Decimal)), row.2 = 0 := by
      intro row hmem
      obtain ⟨entry, _, rfl⟩ := List.mem_map.mp hmem
      rfl
    dsimp only
    rcases lotTurn_cases lot unitCost sellPrice baseRate h taxBudget with
      ⟨hremaining, hallow, hstop⟩ | ⟨hlot, hallow, hstop⟩ |
        ⟨allowance, hallow, hnonneg, hremaining, hlot, _, hstop⟩
    · simp only [lotAllocation, hallow, hstop, if_true]
      refine ⟨some (lot, unitCost), InTurn.stop hempty, fun entry _ => Or.inl ?_⟩
      rw [total_cons, total_map_zero, add_zero, hremaining]
    · simp only [lotAllocation, hallow, hstop, Bool.false_eq_true, if_false]
      obtain ⟨stop, hturn, hreason⟩ := lotAllocation_inTurn sellPrice baseRate lots remaining
        taxBudget h hwithin
      refine ⟨stop, InTurn.whole hlot.symm hturn, ?_⟩
      intro entry hentry
      rw [total_cons, cost_cons, zero_add, mul_zero, zero_add]
      exact hreason entry hentry
    · rcases hstop with hstop | ⟨hstop, hall⟩
      · simp only [lotAllocation, hallow, hstop, if_true]
        obtain ⟨hgain, limit, hlimit, hused⟩ := used_up_of_stop hwithin hallow hstop
        refine ⟨some (lot, unitCost), InTurn.stop hempty, fun entry hentry => Or.inr ?_⟩
        cases hentry
        refine ⟨hgain, limit, hlimit, ?_⟩
        rw [cost_cons, cost_map_zero, add_zero, gainPart, max_eq_left hgain.le]
        exact hused
      · simp only [lotAllocation, hallow, hstop, Bool.false_eq_true, if_false]
        have hrest : 0 ≤ remaining - allowance.allowedQuantity := sub_nonneg.mpr hremaining
        rcases le_total lot.quantity remaining with hwhole | hlast
        · -- the whole lot is taken and the scan goes on
          obtain ⟨stop, hturn, hreason⟩ := lotAllocation_inTurn sellPrice baseRate lots
            (remaining - allowance.allowedQuantity) (applyTaxBudgetLotAllowance allowance taxBudget)
            hrest (hwithin.apply hallow)
          refine ⟨stop, InTurn.whole (hall.trans (min_eq_right hwhole)) hturn, ?_⟩
          intro entry hentry
          rw [total_cons, cost_cons]
          rcases hreason entry hentry with hreached | ⟨hgain, limit, hlimit, hused⟩
          · left
            rw [hreached]
            ring
          · right
            refine ⟨hgain, limit, ?_, ?_⟩
            · rwa [taxBudgetLimitBase_applyTaxBudgetLotAllowance] at hlimit
            · obtain ⟨_, _, _, hrealized⟩ := taxBudgetSaleAllowance_spec hallow
              rw [(addsRealized_lotAllowance allowance taxBudget).used, hrealized,
                realizedAmount_mul hnonneg, add_assoc] at hused
              exact hused
        · -- the requested quantity is reached inside the lot, so nothing is left for the others
          have hreached : allowance.allowedQuantity = remaining := hall.trans (min_eq_left hlast)
          have htakes := lotScan_takes sellPrice baseRate lots
            (remaining - allowance.allowedQuantity) 0
            (applyTaxBudgetLotAllowance allowance taxBudget) hrest
          have hnone : total (lotAllocation sellPrice baseRate lots
              (remaining - allowance.allowedQuantity)
              (applyTaxBudgetLotAllowance allowance taxBudget)) ≤ 0 := by
            have hle := htakes.le
            rwa [hreached, sub_self] at hle ⊢
          have hzero := eq_zero_of_total_nonpos (fun row hmem => (htakes.within row hmem).1) hnone
          refine ⟨some (lot, unitCost), InTurn.stop hzero, fun entry _ => Or.inl ?_⟩
          rw [total_cons, total_eq_zero hzero, add_zero, hreached]

/-! ## The order of the scan -/

/-- The key of the scan order, compared lexicographically. -/
def lotKey (entry : TaxLot × Decimal) : Decimal ×ₗ String ×ₗ String :=
  toLex (entry.2, toLex (entry.1.purchaseDate, entry.1.lotId))

theorem lotKeyLe_iff (a b : TaxLot × Decimal) : lotKeyLe a b = true ↔ lotKey a ≤ lotKey b := by
  unfold lotKeyLe lotKey
  rw [decide_eq_true_eq, Prod.Lex.toLex_le_toLex, Prod.Lex.toLex_le_toLex]
  simp only [not_lt]

theorem pairwise_hifoSorted (lots : List (TaxLot × Decimal)) :
    (hifoSorted lots).Pairwise fun a b => b.2 ≤ a.2 := by
  have : Std.Total (fun a b => lotKeyLe b a = true) := by
    refine ⟨fun a b => ?_⟩
    rw [lotKeyLe_iff, lotKeyLe_iff]
    exact le_total _ _
  have : IsTrans _ (fun a b => lotKeyLe b a = true) := by
    refine ⟨fun a b c => ?_⟩
    rw [lotKeyLe_iff, lotKeyLe_iff, lotKeyLe_iff]
    exact fun hab hbc => hbc.trans hab
  refine (List.pairwise_insertionSort (fun a b => lotKeyLe b a = true) lots).imp ?_
  intro a b hab
  have hcost := of_decide_eq_true hab
  exact hcost.elim (fun h => h.le) (fun h => h.1.le)

theorem pairwise_perUnitGain (h : 0 ≤ baseRate) (sellPrice : Decimal)
    (lots : List (TaxLot × Decimal)) :
    (hifoSorted lots).Pairwise fun a b =>
      perUnitGain sellPrice baseRate a ≤ perUnitGain sellPrice baseRate b := by
  refine (pairwise_hifoSorted lots).imp fun hcost => ?_
  exact mul_le_mul_of_nonneg_right (by linarith) h

/-! ## The choice of the scan -/

section Optimality

variable {sellPrice baseRate requestedQty : Decimal} {lots : List (TaxLot × Decimal)}

/-- What the scan of lots takes, as a choice of lots. -/
def scannedSale (sellPrice baseRate : Decimal) (lots : List (TaxLot × Decimal))
    {requestedQty : Decimal} (h : 0 ≤ requestedQty) (taxBudget : TaxBudgetAccumulator) :
    LotSale lots where
  rows := lotAllocation sellPrice baseRate lots requestedQty taxBudget
  sourcesPerm := by rw [(lotScan_takes sellPrice baseRate lots requestedQty 0 taxBudget h).lotsEq]
  within := (lotScan_takes sellPrice baseRate lots requestedQty 0 taxBudget h).within

/-- A choice of lots that a sale may make: it sells no more than is requested, and
its gains fit into what is left of the budget. -/
structure FeasibleSale (sellPrice baseRate requestedQty : Decimal)
    (taxBudget : TaxBudgetAccumulator) (sale : LotSale lots) : Prop where
  requested : total sale.rows ≤ requestedQty
  budget : ∀ limit, taxBudget.taxBudgetLimitBase = some limit →
    cost (gainPart sellPrice baseRate) sale.rows ≤ limit - taxBudget.taxBudgetUsedBase

variable {taxBudget : TaxBudgetAccumulator}

theorem feasibleSale_scannedSale (h : WithinLimit taxBudget) (hrequested : 0 ≤ requestedQty) :
    FeasibleSale sellPrice baseRate requestedQty taxBudget
      (scannedSale sellPrice baseRate lots hrequested taxBudget) := by
  have htakes := lotScan_takes sellPrice baseRate lots requestedQty 0 taxBudget hrequested
  refine ⟨htakes.le, fun limit hlimit => ?_⟩
  have hafter := (lotScan_passes sellPrice baseRate lots requestedQty 0 taxBudget).invariant
    (fun passed => passed.taxBudgetLimitBase = taxBudget.taxBudgetLimitBase ∧ WithinLimit passed)
    (fun _ _ htaken hpassed => (htaken.withinLimit hpassed.2).imp_left (·.trans hpassed.1))
    ⟨rfl, h⟩
  have hused := hafter.2.2 limit (hafter.2.1.trans hlimit)
  rw [htakes.adds.used] at hused
  exact le_sub_iff_add_le'.mpr hused

theorem pairwise_scannedSale (hrequested : 0 ≤ requestedQty) (taxBudget : TaxBudgetAccumulator)
    {price : TaxLot × Decimal → Decimal} (hsorted : lots.Pairwise fun a b => price a ≤ price b) :
    (scannedSale sellPrice baseRate lots hrequested taxBudget).rows.Pairwise fun a b =>
      price a.1 ≤ price b.1 := by
  have hlots := (lotScan_takes sellPrice baseRate lots requestedQty 0 taxBudget hrequested).lotsEq
  rw [← hlots] at hsorted
  exact List.Pairwise.of_map Prod.fst (fun _ _ hab => hab) hsorted

theorem total_le_scannedSale (h : WithinLimit taxBudget) (hrequested : 0 ≤ requestedQty)
    (hsorted : lots.Pairwise fun a b =>
      gainPart sellPrice baseRate a ≤ gainPart sellPrice baseRate b) (sale : LotSale lots)
    (hsale : FeasibleSale sellPrice baseRate requestedQty taxBudget sale) :
    total sale.rows ≤ total (scannedSale sellPrice baseRate lots hrequested taxBudget).rows := by
  obtain ⟨stop, hturn, hreason⟩ := lotAllocation_inTurn sellPrice baseRate lots requestedQty
    taxBudget hrequested h
  cases stop with
  | none => exact total_le_of_whole _ sale hturn.all_whole
  | some entry =>
    rcases hreason entry rfl with hreached | ⟨hgain, limit, hlimit, hused⟩
    · exact hsale.requested.trans hreached.ge
    · -- the scan stopped at a gain with the budget used up: that gain is the level of the cut
      have hpos : 0 < gainPart sellPrice baseRate entry := lt_of_lt_of_le hgain (le_max_left _ _)
      have hcut := hturn.cutAt (pairwise_scannedSale hrequested taxBudget hsorted)
      refine total_le_of_cutAt _ sale hpos hcut ?_
      have hfits := hsale.budget limit hlimit
      change _ ≤ cost (gainPart sellPrice baseRate)
        (lotAllocation sellPrice baseRate lots requestedQty taxBudget)
      linarith

end Optimality

/-- In exact arithmetic the highest costs first is optimal.  For a position whose lots have costs in the
instrument currency, the quantity of the lot scan is the largest one that any
feasible choice of its lots sells; and of all choices that sell this quantity none
realizes a smaller gain, with or without the losses set against it. -/
theorem hifo_optimal {position : Position} {priceCcy : String} {marketData : MarketDataSnapshot}
    {lots : List (TaxLot × Decimal)}
    (hlots : hifoSortedLots position priceCcy marketData = .ok lots)
    {requestedQty sellPrice baseRate : Decimal} {taxBudget : TaxBudgetAccumulator}
    (hrequested : 0 ≤ requestedQty) (hrate : 0 < baseRate) (hwithin : WithinLimit taxBudget) :
    let scan := taxBudgetLimitedQuantityFromLots lots requestedQty sellPrice baseRate taxBudget
    IsGreatest {quantity | ∃ sale : LotSale lots,
      FeasibleSale sellPrice baseRate requestedQty taxBudget sale ∧ total sale.rows = quantity}
        scan.1 ∧
      ∀ sale : LotSale lots, total sale.rows = scan.1 →
        scan.2.totalRealizedGainBase - taxBudget.totalRealizedGainBase ≤
            cost (gainPart sellPrice baseRate) sale.rows ∧
          (scan.2.totalRealizedGainBase - taxBudget.totalRealizedGainBase) -
              (scan.2.totalRealizedLossBase - taxBudget.totalRealizedLossBase) ≤
            cost (perUnitGain sellPrice baseRate) sale.rows := by
  have hgains : lots.Pairwise fun a b =>
      perUnitGain sellPrice baseRate a ≤ perUnitGain sellPrice baseRate b := by
    unfold hifoSortedLots at hlots
    cases hcosts : lotsWithCost priceCcy marketData position.lots with
    | error pair =>
      rw [hcosts] at hlots
      cases hlots
    | ok costs =>
      rw [hcosts] at hlots
      cases hlots
      exact pairwise_perUnitGain hrate.le sellPrice costs
  have hparts : lots.Pairwise fun a b =>
      gainPart sellPrice baseRate a ≤ gainPart sellPrice baseRate b :=
    hgains.imp fun hab => max_le_max_right 0 hab
  have htakes := lotScan_takes sellPrice baseRate lots requestedQty 0 taxBudget hrequested
  obtain ⟨stop, hturn, _⟩ := lotAllocation_inTurn sellPrice baseRate lots requestedQty taxBudget
    hrequested hwithin
  have hquantity : total (scannedSale sellPrice baseRate lots hrequested taxBudget).rows =
      (taxBudgetLimitedQuantityFromLots lots requestedQty sellPrice baseRate taxBudget).1 := by
    rw [taxBudgetLimitedQuantityFromLots, htakes.quantity, zero_add]
    rfl
  refine ⟨⟨⟨_, feasibleSale_scannedSale hwithin hrequested, hquantity⟩, ?_⟩, ?_⟩
  · rintro quantity ⟨sale, hsale, rfl⟩
    rw [← hquantity]
    exact total_le_scannedSale hwithin hrequested hparts sale hsale
  · intro sale hsale
    rw [← hquantity] at hsale
    have hgain := InTurn.cost_le (scannedSale sellPrice baseRate lots hrequested taxBudget)
      sale hturn
      (pairwise_scannedSale hrequested taxBudget hparts) hsale
    have hnet := InTurn.cost_le (scannedSale sellPrice baseRate lots hrequested taxBudget)
      sale hturn
      (pairwise_scannedSale hrequested taxBudget hgains) hsale
    rw [taxBudgetLimitedQuantityFromLots, htakes.adds.gain, htakes.adds.loss, add_sub_cancel_left,
      add_sub_cancel_left]
    refine ⟨hgain, le_trans (le_of_eq ?_) hnet⟩
    rw [← cost_sub]
    exact congrArg (cost · _) (funext fun entry => max_zero_sub_max_neg_zero_eq_self _)

/-- One unit in one lot, with a gain of three at a price of one hundred. -/
def oneLotPosition : Position :=
  { instrumentId := "AAA"
    quantity := 1
    lots := [⟨"L1", 1, ⟨97, "USD"⟩, "2024-01-02", by decide +kernel⟩] }

/-- With the 28 digits of the decimal context, a budget of two lets the scan sell a little more than two
thirds of the unit, which no feasible choice sells. -/
theorem hifo_infeasible_rounded :
    let lots := oneLotPosition.lots.map fun lot => (lot, lot.unitCost.amount)
    let taxBudget : TaxBudgetAccumulator := { taxBudgetLimitBase := some 2 }
    let sold := (taxBudgetLimitedQuantityFromLotsWith fit28 lots 1 100 1 taxBudget).1
    hifoSortedLots oneLotPosition "USD" {} = .ok lots ∧
      sold = 6666666666666666666666666667 / 10 ^ 28 ∧
      ¬ ∃ sale : LotSale lots, FeasibleSale 100 1 1 taxBudget sale ∧ total sale.rows = sold := by
  intro lots taxBudget sold
  have hsold : sold = 6666666666666666666666666667 / 10 ^ 28 := by decide +kernel
  refine ⟨by decide +kernel, hsold, ?_⟩
  rintro ⟨sale, hsale, hquantity⟩
  have hwithin : WithinLimit taxBudget := by
    intro limit hlimit
    cases hlimit
    decide +kernel
  -- the exact scan sells most, and it sells two thirds
  have hmost := total_le_scannedSale hwithin (by decide +kernel) (List.pairwise_singleton _ _) sale
    hsale
  change total sale.rows ≤ total (lotAllocation 100 1 lots 1 taxBudget) at hmost
  rw [hquantity, hsold] at hmost
  exact absurd hmost (by decide +kernel)

/-- A position of three lots, two of them with a gain at a price of one hundred. -/
def threeLotPosition : Position :=
  { instrumentId := "AAA"
    quantity := 30
    lots := [⟨"L1", 10, ⟨50, "USD"⟩, "2024-01-02", ten_nonneg⟩,
      ⟨"L2", 10, ⟨120, "USD"⟩, "2024-01-03", ten_nonneg⟩,
      ⟨"L3", 10, ⟨90, "USD"⟩, "2024-01-04", ten_nonneg⟩] }

/-- With a budget of one hundred and fifty, the scan sells the loss lot, the lot with the
small gain and one unit of the last lot. -/
theorem hifo_optimal_three_lots :
    ∃ lots, hifoSortedLots threeLotPosition "USD" {} = .ok lots ∧
      (taxBudgetLimitedQuantityFromLots lots 25 100 1 { taxBudgetLimitBase := some 150 }).1 = 21 ∧
      IsGreatest {quantity | ∃ sale : LotSale lots,
        FeasibleSale 100 1 25 { taxBudgetLimitBase := some 150 } sale ∧
          total sale.rows = quantity} 21 := by
  have hwithin : WithinLimit { taxBudgetLimitBase := some 150 } := by
    intro limit hlimit
    cases hlimit
    decide +kernel
  cases hlots : hifoSortedLots threeLotPosition "USD" {} with
  | error pair =>
    have hok : (hifoSortedLots threeLotPosition "USD" {}).isOk = true := by decide +kernel
    rw [hlots] at hok
    cases hok
  | ok lots =>
    have hquantity : ((hifoSortedLots threeLotPosition "USD" {}).map fun lots =>
        (taxBudgetLimitedQuantityFromLots lots 25 100 1
          { taxBudgetLimitBase := some 150 }).1) = .ok 21 := by decide +kernel
    rw [hlots] at hquantity
    have hscan : (taxBudgetLimitedQuantityFromLots lots 25 100 1
        { taxBudgetLimitBase := some 150 }).1 = 21 := Except.ok.inj hquantity
    refine ⟨lots, rfl, hscan, ?_⟩
    have hoptimal :
        let scan := taxBudgetLimitedQuantityFromLots lots 25 100 1
          { taxBudgetLimitBase := some 150 }
        IsGreatest {quantity | ∃ sale : LotSale lots,
          FeasibleSale 100 1 25 { taxBudgetLimitBase := some 150 } sale ∧
            total sale.rows = quantity} scan.1 :=
      (hifo_optimal hlots (show (0 : Decimal) ≤ 25 by decide +kernel)
      (show (0 : Decimal) < 1 by decide +kernel) hwithin).1
    dsimp only at hoptimal
    rwa [hscan] at hoptimal

end LotusManage.Engine
