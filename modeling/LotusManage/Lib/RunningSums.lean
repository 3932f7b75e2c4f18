import Mathlib.Algebra.BigOperators.Group.List.Basic
import Mathlib.Data.List.Range

/-!
# Running sums of a list

`sumThrough xs day` is what has come in by a day when `xs` holds the amount of every
day.  A write to one day is seen on that day and on every later one
(`sumThrough_modify`), and a loop that hands a balance from day to day shows the
running sums (`map_sumThrough_cons`).
-/

namespace LotusManage.RunningSums

variable {M : Type} [AddCommMonoid M]

/-- The sum of the first entries of a list, up to and with the one of the day. -/
def sumThrough (xs : List M) (day : Nat) : M := (xs.take (day + 1)).sum

theorem sumThrough_cons_zero (x : M) (xs : List M) : sumThrough (x :: xs) 0 = x := by
  rw [sumThrough, List.take_succ_cons, List.take_zero, List.sum_singleton]

theorem sumThrough_cons_succ (x : M) (xs : List M) (day : Nat) :
    sumThrough (x :: xs) (day + 1) = x + sumThrough xs day := by
  rw [sumThrough, List.take_succ_cons, List.sum_cons, sumThrough]

/-- Nothing comes in on days without an amount. -/
theorem sumThrough_replicate_zero (count day : Nat) :
    sumThrough (List.replicate count (0 : M)) day = 0 := by
  rw [sumThrough, List.take_replicate]
  exact List.sum_eq_zero fun x hx => List.eq_of_mem_replicate hx

/-- An amount that is added on one day is seen from that day on. -/
theorem sumThrough_modify (amount : M) :
    ∀ (xs : List M) (due day : Nat), due < xs.length →
      sumThrough (xs.modify due (· + amount)) day =
        sumThrough xs day + if due ≤ day then amount else 0
  | x :: xs, 0, 0, _ => by
    rw [List.modify_zero_cons, sumThrough_cons_zero, sumThrough_cons_zero, if_pos le_rfl]
  | x :: xs, 0, day + 1, _ => by
    rw [List.modify_zero_cons, sumThrough_cons_succ, sumThrough_cons_succ, if_pos (Nat.zero_le _)]
    exact add_right_comm _ _ _
  | x :: xs, due + 1, 0, _ => by
    rw [List.modify_succ_cons, sumThrough_cons_zero, sumThrough_cons_zero,
      if_neg (Nat.not_succ_le_zero due), add_zero]
  | x :: xs, due + 1, day + 1, h => by
    have ih := sumThrough_modify amount xs due day (Nat.lt_of_succ_lt_succ h)
    rw [List.modify_succ_cons, sumThrough_cons_succ, sumThrough_cons_succ, ih, ← add_assoc]
    congr 1
    exact if_congr Nat.succ_le_succ_iff.symm rfl rfl

/-- The running sums of a list, from a balance before its first day. -/
theorem map_sumThrough_cons {α : Type} (f : Nat → M → α) (x before : M) (xs : List M)
    (day : Nat) :
    (List.range (x :: xs).length).map
        (fun i => f (day + i) (before + sumThrough (x :: xs) i)) =
      f day (before + x) ::
        (List.range xs.length).map
          (fun i => f (day + 1 + i) (before + x + sumThrough xs i)) := by
  rw [List.length_cons, List.range_succ_eq_map, List.map_cons, List.map_map, sumThrough_cons_zero,
    Nat.add_zero]
  congr 1
  apply List.map_congr_left
  intro i _
  show f (day + (i + 1)) (before + sumThrough (x :: xs) (i + 1)) = _
  rw [sumThrough_cons_succ, ← add_assoc before, Nat.add_assoc day, Nat.add_comm 1 i]

end LotusManage.RunningSums
