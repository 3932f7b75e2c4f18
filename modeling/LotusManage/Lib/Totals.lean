import LotusManage.Lib.Dict
import Mathlib.Algebra.BigOperators.Group.List.Basic
import Mathlib.Data.List.Induction

/-!
# Totals kept in a dictionary

The accumulation `d[k] = d.get(k, 0) + v`: every amount of a list is added at its
key.  A read after one amount is what was there before plus that amount at its key
(`getD_addAt`), and the sum of all values grows by all the amounts
(`total_addAll`), whatever the keys are.
-/

namespace LotusManage.Dict

variable {κ M : Type} [DecidableEq κ] [AddCommMonoid M]

/-- `d[k] = d.get(k, 0) + v` -/
def addAt (d : Dict κ M) (k : κ) (v : M) : Dict κ M := d.set k (d.getD k 0 + v)

/-- The loop that adds every amount at its key. -/
def addAll (d : Dict κ M) (entries : List (κ × M)) : Dict κ M :=
  entries.foldl (fun d e => d.addAt e.1 e.2) d

/-- The amounts of a key in a list of entries. -/
def amountsAt (k : κ) (entries : List (κ × M)) : M :=
  ((entries.filter (fun e => e.1 = k)).map Prod.snd).sum

omit [DecidableEq κ] in
/-- The sum of all values. -/
def total (d : Dict κ M) : M := d.values.sum

variable (d : Dict κ M) (k : κ) (v : M)

@[simp] theorem amountsAt_nil : amountsAt k ([] : List (κ × M)) = 0 := rfl

theorem amountsAt_cons (e : κ × M) (entries : List (κ × M)) :
    amountsAt k (e :: entries) = (if e.1 = k then e.2 else 0) + amountsAt k entries := by
  by_cases h : e.1 = k
  · simp [amountsAt, h]
  · simp [amountsAt, h]

/-! ## Reads -/

omit [AddCommMonoid M] in
@[simp] theorem getD_empty : (empty : Dict κ M).getD k v = v := rfl

theorem getD_addAt (x : κ) (v : M) :
    (d.addAt k v).getD x 0 = d.getD x 0 + if k = x then v else 0 := by
  rw [addAt, getD, get?_set]
  by_cases hx : x = k
  · rw [if_pos hx, if_pos hx.symm, hx]
    rfl
  · rw [if_neg hx, if_neg (fun h => hx h.symm), add_zero]
    rfl

/-- A dictionary comprehension keeps the last entry of a key. -/
theorem get?_ofEntries_eq_getLast? {ν : Type} (entries : List (κ × ν)) :
    (ofEntries entries).get? k = (entries.filter (fun e => e.1 = k)).getLast?.map Prod.snd := by
  induction entries using List.reverseRecOn with
  | nil => rfl
  | append_singleton entries e ih =>
    have hlast : ofEntries (entries ++ [e]) = (ofEntries entries).set e.1 e.2 := by
      rw [ofEntries, List.foldl_append]
      rfl
    rw [hlast, get?_set, List.filter_append]
    by_cases hk : e.1 = k
    · rw [if_pos hk.symm, List.filter_cons_of_pos (by simpa using hk), List.filter_nil,
        List.getLast?_concat]
      rfl
    · rw [if_neg (fun h => hk h.symm), List.filter_cons_of_neg (by simpa using hk), List.filter_nil,
        List.append_nil]
      exact ih

/-- The amounts of a key are those of its entries but the last, and what a dictionary
comprehension keeps. -/
theorem amountsAt_eq_dropLast_add (entries : List (κ × M)) :
    amountsAt k entries =
      (((entries.filter (fun e => e.1 = k)).dropLast).map Prod.snd).sum +
        (ofEntries entries).getD k 0 := by
  rw [getD, get?_ofEntries_eq_getLast?, amountsAt]
  rcases List.eq_nil_or_concat (entries.filter (fun e => e.1 = k)) with hnil | ⟨rest, e, hlast⟩
  · rw [hnil]
    simp
  · rw [hlast, List.concat_eq_append, List.dropLast_concat, List.getLast?_concat, List.map_append,
      List.sum_append]
    simp

/-- A sum over the entries that looks at one key only is about what the key reads. -/
theorem sum_map_ite_key {ν N : Type} [AddCommMonoid N] (d : Dict κ ν) (k : κ) (f : ν → N) :
    (d.items.map (fun e => if e.1 = k then f e.2 else 0)).sum = ((d.get? k).map f).getD 0 := by
  have h : ∀ {es : List (κ × ν)}, (es.map Prod.fst).Nodup →
      (es.map (fun e => if e.1 = k then f e.2 else 0)).sum = ((es.lookup k).map f).getD 0 := by
    intro es
    induction es with
    | nil => exact fun _ => rfl
    | cons e es ih =>
      intro hnodup
      rw [List.map_cons, List.nodup_cons] at hnodup
      rw [List.map_cons, List.sum_cons, lookup_cons_eq_ite, ih hnodup.2]
      by_cases hk : e.1 = k
      · have hnone : es.lookup k = none := by
          rw [List.lookup_eq_none_iff]
          intro e' hmem
          have hne : e'.1 ≠ k := fun h => hnodup.1 (hk ▸ h ▸ List.mem_map_of_mem hmem)
          exact bne_iff_ne.mpr (Ne.symm hne)
        rw [if_pos hk, if_pos hk.symm, hnone]
        exact add_zero _
      · rw [if_neg hk, if_neg (fun h => hk h.symm), zero_add]
  exact h d.nodup

/-! ## The sum of all values -/

omit [DecidableEq κ] in
@[simp] theorem total_empty : (empty : Dict κ M).total = 0 := rfl

theorem sum_setItems (k : κ) (v : M) :
    ∀ es : List (κ × M),
      ((setItems k ((es.lookup k).getD 0 + v) es).map Prod.snd).sum = (es.map Prod.snd).sum + v
  | [] => by simp [setItems]
  | e :: es => by
    rw [lookup_cons_eq_ite, setItems]
    by_cases he : e.1 = k
    · rw [if_pos he, if_pos he.symm, List.map_cons, List.map_cons, List.sum_cons, List.sum_cons,
        Option.getD_some]
      exact add_right_comm _ _ _
    · rw [if_neg he, if_neg (fun h => he h.symm), List.map_cons, List.map_cons, List.sum_cons,
        List.sum_cons, sum_setItems k v es, add_assoc]

theorem total_addAt : (d.addAt k v).total = d.total + v :=
  sum_setItems k v d.items

/-- The accumulation adds every amount to the sum of all values. -/
theorem total_addAll :
    ∀ (entries : List (κ × M)) (d : Dict κ M),
      (d.addAll entries).total = d.total + (entries.map Prod.snd).sum
  | [], d => by
    rw [List.map_nil, List.sum_nil, add_zero]
    rfl
  | e :: entries, d => by
    have ih := total_addAll entries (d.addAt e.1 e.2)
    rw [total_addAt, add_assoc] at ih
    rw [List.map_cons, List.sum_cons]
    exact ih

end LotusManage.Dict
