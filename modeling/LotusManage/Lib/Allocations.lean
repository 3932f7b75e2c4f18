import Mathlib.Algebra.Order.BigOperators.Group.List
import Mathlib.Algebra.Order.Field.Basic
import Mathlib.Tactic.Linarith
import Mathlib.Tactic.Ring

/-!
# Allocations

A quantity is taken from sources of bounded size, and a unit of every source has
a price.  An allocation says how much each source gives.

Lower all prices by one level.  Then no allocation costs less than the sources
that are cheaper than the level cost when they are taken whole
(`floor_le_cost`), and an allocation that takes exactly those, and anything of
the sources at the level, attains this bound (`cost_eq_floor_of_cutAt`).  From
the two follow both facts about taking from the sources in turn, the cheapest
first: no allocation of the same quantity costs less, and no allocation within
the same cost has a larger quantity.
-/

namespace LotusManage.Allocations

variable {S K : Type} [Field K]

/-- The quantity that rows give. -/
def total (rows : List (S × K)) : K :=
  (rows.map Prod.snd).sum

/-- What rows cost when a unit of a source has a price. -/
def cost (price : S → K) (rows : List (S × K)) : K :=
  (rows.map fun row => price row.1 * row.2).sum

variable {rows : List (S × K)} {level : K}

@[simp] theorem total_nil : total ([] : List (S × K)) = 0 := rfl

@[simp] theorem total_cons (row : S × K) (rows : List (S × K)) :
    total (row :: rows) = row.2 + total rows := by
  simp [total]

@[simp] theorem cost_nil (price : S → K) : cost price ([] : List (S × K)) = 0 := rfl

@[simp] theorem cost_cons (price : S → K) (row : S × K) (rows : List (S × K)) :
    cost price (row :: rows) = price row.1 * row.2 + cost price rows := by
  simp [cost]

theorem total_eq_zero (h : ∀ row ∈ rows, row.2 = 0) : total rows = 0 := by
  refine List.sum_eq_zero fun amount hmem => ?_
  obtain ⟨row, hrow, rfl⟩ := List.mem_map.mp hmem
  exact h row hrow

theorem cost_sub (price other : S → K) (rows : List (S × K)) :
    cost (fun source => price source - other source) rows = cost price rows - cost other rows := by
  induction rows with
  | nil => simp
  | cons row rows ih =>
    rw [cost_cons, cost_cons, cost_cons, ih]
    ring

theorem cost_sub_level (price : S → K) (level : K) (rows : List (S × K)) :
    cost price rows - level * total rows =
      (rows.map fun row => (price row.1 - level) * row.2).sum := by
  induction rows with
  | nil => simp
  | cons row rows ih =>
    rw [cost_cons, total_cons, List.map_cons, List.sum_cons, ← ih]
    ring

/-! ## Taking in turn -/

section InTurn

variable {size : S → K}

/-- Sources are taken whole one after the other, up to one that gives what it gives;
those behind it give nothing.  The second argument is the source where taking
stopped, when it did. -/
inductive InTurn (size : S → K) : List (S × K) → Option S → Prop
  | nil : InTurn size [] none
  | whole {row : S × K} {rows : List (S × K)} {stop : Option S} (hrow : row.2 = size row.1)
      (tail : InTurn size rows stop) : InTurn size (row :: rows) stop
  | stop {row : S × K} {rows : List (S × K)} (hrows : ∀ other ∈ rows, other.2 = 0) :
      InTurn size (row :: rows) (some row.1)

variable {rows : List (S × K)}

theorem InTurn.mem_of_stop {source : S} (h : InTurn size rows (some source)) :
    source ∈ rows.map Prod.fst := by
  generalize hstop : some source = stop at h
  induction h with
  | nil => cases hstop
  | whole _ _ ih => exact List.mem_cons_of_mem _ (ih hstop)
  | stop _ =>
    cases hstop
    exact List.mem_cons_self

theorem InTurn.all_whole (h : InTurn size rows none) : ∀ row ∈ rows, row.2 = size row.1 := by
  generalize hstop : (none : Option S) = stop at h
  induction h with
  | nil => simp
  | whole hrow _ ih =>
    intro row hmem
    rcases List.mem_cons.mp hmem with rfl | htail
    · exact hrow
    · exact ih hstop row htail
  | stop _ => cases hstop

end InTurn

/-! ## A level of the prices -/

variable [LinearOrder K]

/-- An amount from every source: none is negative, and none is more than its
source holds.  The order of the rows does not matter. -/
structure Allocation (size : S → K) (sources : List S) where
  rows : List (S × K)
  sourcesPerm : (rows.map Prod.fst).Perm sources
  within : ∀ row ∈ rows, 0 ≤ row.2 ∧ row.2 ≤ size row.1

/-- The rows take the whole of what is cheaper than a level and nothing of what is
dearer. -/
def CutAt (price size : S → K) (level : K) (rows : List (S × K)) : Prop :=
  ∀ row ∈ rows, (price row.1 < level → row.2 = size row.1) ∧ (level < price row.1 → row.2 = 0)

/-- What the sources that are cheaper than a level cost, when all prices are
lowered by the level. -/
def floor (price size : S → K) (level : K) (sources : List S) : K :=
  (sources.map fun source => min (price source - level) 0 * size source).sum

variable {price size : S → K} {sources : List S}

variable (sale other : Allocation size sources)

/-- The floor does not depend on the order of the sources. -/
theorem floor_rows (level : K) :
    floor price size level sources =
      (sale.rows.map fun row => min (price row.1 - level) 0 * size row.1).sum := by
  unfold floor
  rw [← (sale.sourcesPerm.map _).sum_eq, List.map_map]
  rfl

/-- Rows that are all whole are cut at every level above their prices. -/
theorem cutAt_of_whole (hwhole : ∀ row ∈ rows, row.2 = size row.1) :
    ∃ level, CutAt price size level rows := by
  induction rows with
  | nil => exact ⟨0, fun row hmem => absurd hmem List.not_mem_nil⟩
  | cons row rows ih =>
    obtain ⟨level, hlevel⟩ := ih fun other hmem => hwhole other (List.mem_cons_of_mem _ hmem)
    refine ⟨max level (price row.1), fun other hmem => ⟨fun _ => hwhole other hmem,
      fun hdear => ?_⟩⟩
    rcases List.mem_cons.mp hmem with rfl | htail
    · exact absurd hdear (not_lt.mpr (le_max_right _ _))
    · exact (hlevel other htail).2 (lt_of_le_of_lt (le_max_left _ _) hdear)

/-- Taken in turn, the cheapest first, the rows are cut at the price where taking
stopped. -/
theorem InTurn.cutAt {source : S} (h : InTurn size rows (some source))
    (hsorted : rows.Pairwise fun a b => price a.1 ≤ price b.1) :
    CutAt price size (price source) rows := by
  generalize hstop : some source = stop at h
  induction h with
  | nil => cases hstop
  | @whole row rows stop hrow tail ih =>
    rw [List.pairwise_cons] at hsorted
    have hfirst : price row.1 ≤ price source := by
      obtain ⟨other, hother, hsource⟩ := List.mem_map.mp (hstop ▸ tail).mem_of_stop
      exact hsource ▸ hsorted.1 other hother
    intro other hmem
    rcases List.mem_cons.mp hmem with rfl | htail
    · exact ⟨fun _ => hrow, fun hdear => absurd hfirst (not_le.mpr hdear)⟩
    · exact ih hsorted.2 hstop other htail
  | @stop row rows hrows =>
    cases hstop
    rw [List.pairwise_cons] at hsorted
    intro other hmem
    rcases List.mem_cons.mp hmem with rfl | htail
    · exact ⟨fun h => absurd h (lt_irrefl _), fun h => absurd h (lt_irrefl _)⟩
    · exact ⟨fun h => absurd h (not_lt.mpr (hsorted.1 other htail)), fun _ => hrows other htail⟩

variable [IsStrictOrderedRing K]

theorem total_nonneg (h : ∀ row ∈ rows, 0 ≤ row.2) : 0 ≤ total rows := by
  refine List.sum_nonneg fun amount hmem => ?_
  obtain ⟨row, hrow, rfl⟩ := List.mem_map.mp hmem
  exact h row hrow

theorem eq_zero_of_total_nonpos (h : ∀ row ∈ rows, 0 ≤ row.2) (htotal : total rows ≤ 0) :
    ∀ row ∈ rows, row.2 = 0 := by
  intro row hmem
  refine List.all_zero_of_le_zero_le_of_sum_eq_zero ?_ (le_antisymm htotal (total_nonneg h))
    (List.mem_map_of_mem hmem)
  intro amount hamount
  obtain ⟨other, hother, rfl⟩ := List.mem_map.mp hamount
  exact h other hother

theorem floor_row_le {price size amount : K} (h0 : 0 ≤ amount) (h1 : amount ≤ size) :
    min (price - level) 0 * size ≤ (price - level) * amount := by
  rcases le_total (price - level) 0 with hcheap | hdear
  · rw [min_eq_left hcheap]
    exact mul_le_mul_of_nonpos_left h1 hcheap
  · rw [min_eq_right hdear, zero_mul]
    exact mul_nonneg hdear h0

theorem floor_row_eq {price size amount : K} (hcheap : price < level → amount = size)
    (hdear : level < price → amount = 0) :
    min (price - level) 0 * size = (price - level) * amount := by
  rcases lt_trichotomy price level with h | h | h
  · rw [min_eq_left (sub_neg.mpr h).le, hcheap h]
  · rw [h, sub_self, min_self, zero_mul, zero_mul]
  · rw [min_eq_right (sub_pos.mpr h).le, hdear h, zero_mul, mul_zero]


/-- No allocation costs less than the floor of a level. -/
theorem floor_le_cost (level : K) :
    floor price size level sources ≤ cost price sale.rows - level * total sale.rows := by
  rw [floor_rows sale, cost_sub_level]
  exact List.sum_le_sum fun row hmem =>
    floor_row_le (sale.within row hmem).1 (sale.within row hmem).2

/-- An allocation that is cut at a level attains the floor. -/
theorem cost_eq_floor_of_cutAt (hcut : CutAt price size level sale.rows) :
    cost price sale.rows - level * total sale.rows = floor price size level sources := by
  rw [floor_rows sale, cost_sub_level]
  refine congrArg List.sum (List.map_congr_left fun row hmem => ?_)
  exact (floor_row_eq (hcut row hmem).1 (hcut row hmem).2).symm

/-- Against an allocation that is cut at a level, every unit more costs at least the
level. -/
theorem cost_add_le_of_cutAt (hcut : CutAt price size level sale.rows) :
    cost price sale.rows + level * (total other.rows - total sale.rows) ≤
      cost price other.rows := by
  have hother : floor price size level sources ≤ _ := floor_le_cost other level
  rw [← cost_eq_floor_of_cutAt sale hcut] at hother
  linarith

/-- An allocation that is cut at some level is cheapest for its quantity. -/
theorem cost_le_of_cutAt (hcut : CutAt price size level sale.rows)
    (htotal : total other.rows = total sale.rows) :
    cost price sale.rows ≤ cost price other.rows := by
  have h := cost_add_le_of_cutAt sale other hcut
  rwa [htotal, sub_self, mul_zero, add_zero] at h

/-- An allocation that is cut at a positive level has the largest quantity within its
cost. -/
theorem total_le_of_cutAt (hlevel : 0 < level) (hcut : CutAt price size level sale.rows)
    (hcost : cost price other.rows ≤ cost price sale.rows) :
    total other.rows ≤ total sale.rows := by
  have h := cost_add_le_of_cutAt sale other hcut
  have hmore : level * (total other.rows - total sale.rows) ≤ 0 := by linarith
  exact sub_nonpos.mp (nonpos_of_mul_nonpos_right hmore hlevel)

/-- An allocation that takes every source whole has the largest quantity. -/
theorem total_le_of_whole (hwhole : ∀ row ∈ sale.rows, row.2 = size row.1) :
    total other.rows ≤ total sale.rows := by
  have hsale : total sale.rows = (sources.map size).sum := by
    rw [← (sale.sourcesPerm.map size).sum_eq, List.map_map]
    exact congrArg List.sum (List.map_congr_left hwhole)
  have hother : total other.rows ≤ (sources.map size).sum := by
    rw [← (other.sourcesPerm.map size).sum_eq, List.map_map]
    exact List.sum_le_sum fun row hmem => (other.within row hmem).2
  exact hother.trans hsale.ge

/-- Taking in turn, the cheapest first, is cheapest for its quantity. -/
theorem InTurn.cost_le {stop : Option S} (h : InTurn size sale.rows stop)
    (hsorted : sale.rows.Pairwise fun a b => price a.1 ≤ price b.1)
    (htotal : total other.rows = total sale.rows) :
    cost price sale.rows ≤ cost price other.rows := by
  cases stop with
  | none =>
    obtain ⟨level, hcut⟩ : ∃ level, CutAt price size level sale.rows :=
      cutAt_of_whole h.all_whole
    exact cost_le_of_cutAt sale other hcut htotal
  | some source => exact cost_le_of_cutAt sale other (h.cutAt hsorted) htotal

end LotusManage.Allocations
