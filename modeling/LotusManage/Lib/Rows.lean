import Mathlib.Data.List.Basic
import Mathlib.Data.List.Nodup
import Mathlib.Algebra.BigOperators.Group.List.Basic
import Mathlib.Tactic.Abel

/-!
# Row lists addressed by their first match

A record list that is searched with `next(row for row in rows if ...)` and then
changed through the reference that the search returns.  Several rows may match;
a read and a write both reach the first one only.

`ensureRow` is the search that appends a new row when nothing matches, and
`modifyFirst` is the write through the reference.  The lemmas say what the write
does to a sum over the rows, which is how a total of a row list is followed
through a sequence of writes.
-/

namespace LotusManage.Rows

variable {α : Type}

/-- The rows, with a new row appended when no row matches. -/
def ensureRow (p : α → Bool) (new : α) (rows : List α) : List α :=
  if rows.any p then rows else rows ++ [new]

/-- The rows after a write to the first row that matches. -/
def modifyFirst (p : α → Bool) (f : α → α) (rows : List α) : List α :=
  rows.replaceF (fun row => if p row then some (f row) else none)

variable {p : α → Bool} {row new : α} {rows : List α} {f : α → α}

theorem modifyFirst_cons_of_pos (h : p row = true) (f : α → α) (rows : List α) :
    modifyFirst p f (row :: rows) = f row :: rows := by
  simp [modifyFirst, h]

theorem modifyFirst_cons_of_neg (h : p row = false) (f : α → α) (rows : List α) :
    modifyFirst p f (row :: rows) = row :: modifyFirst p f rows := by
  simp [modifyFirst, h]

theorem any_eq_true_of_find?_eq_some (h : rows.find? p = some row) : rows.any p = true :=
  List.any_eq_true.mpr ⟨row, List.mem_of_find?_eq_some h, List.find?_some h⟩

theorem ensureRow_of_find?_eq_some (h : rows.find? p = some row) (new : α) :
    ensureRow p new rows = rows := by
  rw [ensureRow, if_pos (any_eq_true_of_find?_eq_some h)]

theorem ensureRow_of_find?_eq_none (h : rows.find? p = none) (new : α) :
    ensureRow p new rows = rows ++ [new] := by
  rw [ensureRow, if_neg]
  intro hany
  obtain ⟨row, hmem, hp⟩ := List.any_eq_true.mp hany
  exact List.find?_eq_none.mp h row hmem hp

/-- After `ensureRow` the search finds the old first match, or the new row. -/
theorem find?_ensureRow (hnew : p new = true) (rows : List α) :
    (ensureRow p new rows).find? p = some ((rows.find? p).getD new) := by
  cases hfind : rows.find? p with
  | none =>
    rw [ensureRow_of_find?_eq_none hfind, List.find?_append, hfind]
    simp [hnew]
  | some row =>
    rw [ensureRow_of_find?_eq_some hfind, hfind]
    rfl

/-- A write that keeps the match is what the next search finds. -/
theorem find?_modifyFirst (hf : ∀ row, p row = true → p (f row) = true) (rows : List α) :
    (modifyFirst p f rows).find? p = (rows.find? p).map f := by
  induction rows with
  | nil => rfl
  | cons row rows ih =>
    cases hp : p row with
    | true =>
      rw [modifyFirst_cons_of_pos hp, List.find?_cons_of_pos (hf row hp),
        List.find?_cons_of_pos hp, Option.map_some]
    | false =>
      rw [modifyFirst_cons_of_neg hp, List.find?_cons_of_neg (by simp [hp]),
        List.find?_cons_of_neg (by simp [hp]), ih]

/-- A write that keeps the match keeps every search for another match. -/
theorem find?_modifyFirst_of_disjoint {q : α → Bool} (hpq : ∀ row, p row = true → q row = false)
    (hf : ∀ row, p row = true → q (f row) = false) (rows : List α) :
    (modifyFirst p f rows).find? q = rows.find? q := by
  induction rows with
  | nil => rfl
  | cons row rows ih =>
    cases hp : p row with
    | true =>
      rw [modifyFirst_cons_of_pos hp, List.find?_cons_of_neg (by simp [hf row hp]),
        List.find?_cons_of_neg (by simp [hpq row hp])]
    | false =>
      rw [modifyFirst_cons_of_neg hp]
      cases hq : q row with
      | true => rw [List.find?_cons_of_pos hq, List.find?_cons_of_pos hq]
      | false =>
        rw [List.find?_cons_of_neg (by simp [hq]), List.find?_cons_of_neg (by simp [hq]), ih]

/-- A new row that does not match is invisible to the search. -/
theorem find?_ensureRow_of_disjoint {q : α → Bool} (hq : q new = false) (rows : List α) :
    (ensureRow p new rows).find? q = rows.find? q := by
  rw [ensureRow]
  split
  · rfl
  · rw [List.find?_append, List.find?_cons_of_neg (by simp [hq]), List.find?_nil, Option.or_none]

theorem mem_ensureRow (h : row ∈ ensureRow p new rows) : row ∈ rows ∨ row = new := by
  rw [ensureRow] at h
  split at h
  · exact Or.inl h
  · simpa using h

/-- A row after a write is an old one, or the written one. -/
theorem mem_modifyFirst {found : α} (hfound : rows.find? p = some found)
    (h : row ∈ modifyFirst p f rows) : row ∈ rows ∨ row = f found := by
  induction rows with
  | nil => exact absurd h List.not_mem_nil
  | cons head rows ih =>
    cases hp : p head with
    | true =>
      rw [List.find?_cons_of_pos hp] at hfound
      cases hfound
      rw [modifyFirst_cons_of_pos hp, List.mem_cons] at h
      exact h.elim Or.inr fun hmem => Or.inl (List.mem_cons_of_mem _ hmem)
    | false =>
      rw [List.find?_cons_of_neg (by simp [hp])] at hfound
      rw [modifyFirst_cons_of_neg hp, List.mem_cons] at h
      rcases h with rfl | hmem
      · exact Or.inl List.mem_cons_self
      · exact (ih hfound hmem).imp_left (List.mem_cons_of_mem _)

section Sums

variable {M : Type} [AddCommGroup M]

/-- A new row of no value leaves the sum as it is. -/
theorem sum_map_ensureRow {p : α → Bool} {new : α} (v : α → M) (hnew : v new = 0)
    (rows : List α) : ((ensureRow p new rows).map v).sum = (rows.map v).sum := by
  rw [ensureRow]
  split
  · rfl
  · simp [hnew]

/-- A write to the first match moves the sum by the change of that row. -/
theorem sum_map_modifyFirst {p : α → Bool} {f : α → α} (v : α → M) {rows : List α} {row : α}
    (h : rows.find? p = some row) :
    ((modifyFirst p f rows).map v).sum = (rows.map v).sum + (v (f row) - v row) := by
  induction rows with
  | nil => simp at h
  | cons head rows ih =>
    cases hp : p head with
    | true =>
      rw [List.find?_cons_of_pos hp] at h
      cases h
      rw [modifyFirst_cons_of_pos hp, List.map_cons, List.sum_cons, List.map_cons, List.sum_cons]
      abel
    | false =>
      rw [List.find?_cons_of_neg (by simp [hp])] at h
      rw [modifyFirst_cons_of_neg hp, List.map_cons, List.sum_cons, List.map_cons, List.sum_cons,
        ih h, add_assoc]

end Sums

/-! ## Two lists with the same keys -/

/-- Two lists with the same distinct keys have the same sum, when they agree on every
key. -/
theorem sum_map_eq_of_keys {α β κ M : Type} [DecidableEq κ] [AddCommMonoid M] {xs : List α}
    {ys : List β} (kx : α → κ) (ky : β → κ) {fx : α → M} {fy : β → M} (hx : (xs.map kx).Nodup)
    (hy : (ys.map ky).Nodup) (hkeys : ∀ key, key ∈ xs.map kx ↔ key ∈ ys.map ky)
    (hvalue : ∀ x ∈ xs, ∀ y ∈ ys, kx x = ky y → fx x = fy y) :
    (xs.map fx).sum = (ys.map fy).sum := by
  -- the value of a key, read off the first list
  let value : κ → M := fun key => ((xs.find? fun x => kx x = key).map fx).getD 0
  have hfind : ∀ x ∈ xs, xs.find? (fun x' => kx x' = kx x) = some x := by
    intro x hmem
    cases hrow : xs.find? (fun x' => kx x' = kx x) with
    | none => exact absurd (List.find?_eq_none.mp hrow x hmem) (by simp)
    | some x' =>
      have hkey : kx x' = kx x := by simpa using List.find?_some hrow
      rw [List.inj_on_of_nodup_map hx (List.mem_of_find?_eq_some hrow) hmem hkey]
  have hleft : xs.map fx = (xs.map kx).map value := by
    rw [List.map_map]
    refine List.map_congr_left fun x hmem => ?_
    simp only [Function.comp_apply, value, hfind x hmem, Option.map_some, Option.getD_some]
  have hright : ys.map fy = (ys.map ky).map value := by
    rw [List.map_map]
    refine List.map_congr_left fun y hmem => ?_
    obtain ⟨x, hx', hkey⟩ := List.mem_map.mp ((hkeys (ky y)).mpr (List.mem_map_of_mem hmem))
    simp only [Function.comp_apply, value, ← hkey, hfind x hx', Option.map_some, Option.getD_some]
    exact (hvalue x hx' y hmem hkey).symm
  rw [hleft, hright]
  exact (((List.perm_ext_iff_of_nodup hx hy).mpr hkeys).map value).sum_eq

end LotusManage.Rows
