import Mathlib.Algebra.Order.BigOperators.Group.List
import Mathlib.Algebra.Order.Group.Defs
import Mathlib.Data.List.Perm.Basic

/-!
# Taking what fits

A list is gone through in its order, and an item is taken when its weight still
fits beside what has been taken; an item that does not fit is skipped, and the
scan goes on.

What is taken stays within the budget (`total_take_le`), and for weights that are
not negative no skipped item would fit beside it (`not_fits_of_skipped`): an item
is skipped because of what had been taken by then, and more is taken afterwards.
-/

namespace LotusManage.Greedy

variable {α M : Type} [AddCommGroup M] [LinearOrder M] {weight : α → M} {budget : M}

/-- The items that are taken and the items that are skipped, from what is used
already. -/
def take (weight : α → M) (budget : M) : List α → M → List α × List α
  | [], _ => ([], [])
  | x :: xs, used =>
    if used + weight x ≤ budget then
      let rest := take weight budget xs (used + weight x)
      (x :: rest.1, rest.2)
    else
      let rest := take weight budget xs used
      (rest.1, x :: rest.2)

theorem take_cons_of_fits {x : α} {used : M} (h : used + weight x ≤ budget) (xs : List α) :
    take weight budget (x :: xs) used =
      (x :: (take weight budget xs (used + weight x)).1,
        (take weight budget xs (used + weight x)).2) := by
  rw [take, if_pos h]

theorem take_cons_of_not_fits {x : α} {used : M} (h : ¬ used + weight x ≤ budget)
    (xs : List α) :
    take weight budget (x :: xs) used =
      ((take weight budget xs used).1, x :: (take weight budget xs used).2) := by
  rw [take, if_neg h]

/-- Every item is either taken or skipped. -/
theorem take_perm (weight : α → M) (budget : M) :
    ∀ (xs : List α) (used : M),
      ((take weight budget xs used).1 ++ (take weight budget xs used).2).Perm xs
  | [], _ => List.Perm.refl _
  | x :: xs, used => by
    by_cases h : used + weight x ≤ budget
    · rw [take_cons_of_fits h]
      exact (take_perm weight budget xs _).cons x
    · rw [take_cons_of_not_fits h]
      exact List.perm_middle.trans ((take_perm weight budget xs used).cons x)

/-- What is taken fits beside what was used. -/
theorem total_take_le :
    ∀ (xs : List α) {used : M}, used ≤ budget →
      used + ((take weight budget xs used).1.map weight).sum ≤ budget
  | [], used, h => by
    rw [take, List.map_nil, List.sum_nil, add_zero]
    exact h
  | x :: xs, used, h => by
    by_cases hx : used + weight x ≤ budget
    · rw [take_cons_of_fits hx, List.map_cons, List.sum_cons, ← add_assoc]
      exact total_take_le xs hx
    · rw [take_cons_of_not_fits hx]
      exact total_take_le xs h

variable [IsOrderedAddMonoid M]

theorem total_nonneg {xs : List α} (hweight : ∀ x, 0 ≤ weight x) : 0 ≤ (xs.map weight).sum := by
  refine List.sum_nonneg fun w hmem => ?_
  obtain ⟨x, _, rfl⟩ := List.mem_map.mp hmem
  exact hweight x

/-- No skipped item fits beside what is taken. -/
theorem not_fits_of_skipped (hweight : ∀ x, 0 ≤ weight x) :
    ∀ (xs : List α) (used : M), ∀ x ∈ (take weight budget xs used).2,
      budget < used + ((take weight budget xs used).1.map weight).sum + weight x
  | [], _, _, hmem => absurd hmem List.not_mem_nil
  | y :: ys, used, x, hmem => by
    by_cases hy : used + weight y ≤ budget
    · rw [take_cons_of_fits hy] at hmem ⊢
      rw [List.map_cons, List.sum_cons, ← add_assoc]
      exact not_fits_of_skipped hweight ys (used + weight y) x hmem
    · rw [take_cons_of_not_fits hy] at hmem ⊢
      rcases List.mem_cons.mp hmem with rfl | hrest
      · -- skipped for what was used by then, and what is taken later is not negative
        have hlater : 0 ≤ ((take weight budget ys used).1.map weight).sum := total_nonneg hweight
        calc budget < used + weight x := not_le.mp hy
          _ ≤ used + ((take weight budget ys used).1.map weight).sum + weight x := by
              rw [add_right_comm]
              exact le_add_of_nonneg_right hlater
      · exact not_fits_of_skipped hweight ys used x hrest

/-- Beyond the budget nothing is taken. -/
theorem take_eq_nil (hweight : ∀ x, 0 ≤ weight x) :
    ∀ (xs : List α) {used : M}, budget < used → (take weight budget xs used).1 = []
  | [], _, _ => rfl
  | x :: xs, used, h => by
    have hx : ¬ used + weight x ≤ budget :=
      not_le.mpr (lt_of_lt_of_le h (le_add_of_nonneg_right (hweight x)))
    rw [take_cons_of_not_fits hx]
    exact take_eq_nil hweight xs h

end LotusManage.Greedy
