import LotusManage.Lib.Dict
import Mathlib.Data.List.Sort

/-!
# Tables with a primary key

A table of a relational database is a dictionary from primary keys to rows: a key has at
most one row.  Statements address rows by a condition on their columns.

* `selectWhere` is `SELECT * FROM t WHERE p`, in no particular order, and `countWhere`
  is `SELECT COUNT(*)`.
* `updateWhere` is `UPDATE t SET ... WHERE p`; its row count is `countWhere`.
* `insertRow` is `INSERT INTO t`, which fails on a key that is taken.

The lemmas say what a statement does to the row under a key, and compare two tables that
hold the same rows: what they select are permutations of each other.
-/

namespace LotusManage

namespace Dict

section Tables

variable {κ ν : Type}

/-- `SELECT * FROM t WHERE p` -/
def selectWhere (t : Dict κ ν) (p : ν → Bool) : List ν := t.values.filter p

/-- `SELECT COUNT(*) FROM t WHERE p` -/
def countWhere (t : Dict κ ν) (p : ν → Bool) : Nat := t.values.countP p

/-- `UPDATE t SET ... WHERE p` -/
def updateWhere (t : Dict κ ν) (p : ν → Bool) (f : ν → ν) : Dict κ ν :=
  t.mapWithKey (fun _ row => if p row then f row else row)

variable {t : Dict κ ν} {p : ν → Bool}

theorem countWhere_eq_length (t : Dict κ ν) (p : ν → Bool) :
    t.countWhere p = (t.selectWhere p).length := by
  rw [countWhere, selectWhere, List.countP_eq_length_filter]

variable [DecidableEq κ]

/-- `INSERT INTO t`: nothing when the primary key is taken. -/
def insertRow (t : Dict κ ν) (key : κ) (row : ν) : Option (Dict κ ν) :=
  if t.contains key then none else some (t.set key row)

theorem mem_selectWhere {row : ν} :
    row ∈ t.selectWhere p ↔ (∃ key, t.get? key = some row) ∧ p row = true := by
  rw [selectWhere, List.mem_filter, mem_values_iff]

theorem get?_updateWhere (t : Dict κ ν) (p : ν → Bool) (f : ν → ν) (key : κ) :
    (t.updateWhere p f).get? key = (t.get? key).map (fun row => if p row then f row else row) :=
  get?_mapWithKey t _ key

/-- Selecting from two tables whose selected rows are the same, key by key. -/
theorem selectWhere_perm {t' : Dict κ ν} {p' : ν → Bool}
    (h : ∀ key row, t.get? key = some row ∧ p row = true ↔ t'.get? key = some row ∧ p' row = true) :
    (t.selectWhere p).Perm (t'.selectWhere p') := by
  have hitems : ∀ (t : Dict κ ν) (p : ν → Bool),
      t.selectWhere p = (t.items.filter (fun e => p e.2)).map Prod.snd := by
    intro t p
    rw [selectWhere, values, List.filter_map]
    rfl
  have hnodup : ∀ (t : Dict κ ν) (p : ν → Bool), (t.items.filter (fun e => p e.2)).Nodup :=
    fun t p => (List.Nodup.of_map Prod.fst t.nodup).filter _
  rw [hitems, hitems]
  refine List.Perm.map _ ?_
  rw [List.perm_ext_iff_of_nodup (hnodup t p) (hnodup t' p')]
  rintro ⟨key, row⟩
  simp only [List.mem_filter, ← get?_eq_some_iff]
  exact h key row

/-- A condition that only the row under one key meets selects that row, or nothing. -/
theorem selectWhere_eq_toList (key : κ)
    (h : ∀ key' row, t.get? key' = some row → p row = true → key' = key) :
    t.selectWhere p = ((t.get? key).filter p).toList := by
  have hsingle : (t.selectWhere p).Perm ((t.get? key).filter p).toList := by
    have hperm : (t.selectWhere p).Perm
        ((match (t.get? key).filter p with
          | none => Dict.empty
          | some row => (Dict.empty : Dict κ ν).set key row).selectWhere (fun _ => true)) := by
      refine selectWhere_perm fun key' row => ?_
      constructor
      · rintro ⟨hget, hp⟩
        have hkey := h key' row hget hp
        subst hkey
        rw [hget, Option.filter_some, if_pos hp]
        exact ⟨get?_set_self _ _ _, rfl⟩
      · rintro ⟨hget, _⟩
        cases hfilter : (t.get? key).filter p with
        | none =>
          rw [hfilter] at hget
          cases hget
        | some row' =>
          rw [hfilter] at hget
          simp only [get?_set] at hget
          split at hget
          · rename_i heq
            cases hget
            rw [Option.filter_eq_some_iff] at hfilter
            rw [heq]
            exact hfilter
          · cases hget
    refine hperm.trans ?_
    cases (t.get? key).filter p with
    | none | some => exact List.Perm.refl _
  cases hfilter : (t.get? key).filter p with
  | none =>
    rw [hfilter] at hsingle
    exact hsingle.eq_nil
  | some row =>
    rw [hfilter] at hsingle
    exact List.perm_singleton.mp hsingle

end Tables

end Dict

/-! ## `ORDER BY` -/

section Order

variable {α : Type} {r r' : α → α → Prop} [DecidableRel r] [DecidableRel r']

variable {rows : List α}

theorem orderedInsert_congr {a : α} (h : ∀ b ∈ rows, r a b ↔ r' a b) :
    rows.orderedInsert r a = rows.orderedInsert r' a := by
  induction rows with
  | nil => rfl
  | cons b rows ih =>
    rw [List.orderedInsert_cons, List.orderedInsert_cons,
      ih (fun c hc => h c (List.mem_cons_of_mem b hc))]
    by_cases hab : r a b
    · rw [if_pos hab, if_pos ((h b List.mem_cons_self).mp hab)]
    · rw [if_neg hab, if_neg (fun hab' => hab ((h b List.mem_cons_self).mpr hab'))]

/-- Two orders that agree on the rows sort them alike. -/
theorem insertionSort_congr (h : rows.Pairwise (fun a b => r a b ↔ r' a b)) :
    rows.insertionSort r = rows.insertionSort r' := by
  induction rows with
  | nil => rfl
  | cons a rows ih =>
    rw [List.pairwise_cons] at h
    rw [List.insertionSort_cons, List.insertionSort_cons, ih h.2]
    refine orderedInsert_congr fun b hb => h.1 b ?_
    exact (List.mem_insertionSort r').mp hb

/-- Rows sorted by a rank are in the order of their ranks. -/
theorem pairwise_insertionSort_rank {β : Type} [LinearOrder β] (rank : α → β) (rows : List α) :
    (rows.insertionSort (fun a b => rank a ≤ rank b)).Pairwise (fun a b => rank a ≤ rank b) := by
  have : Std.Total (fun a b : α => rank a ≤ rank b) := ⟨fun a b => le_total _ _⟩
  have : IsTrans α (fun a b => rank a ≤ rank b) := ⟨fun a b c => le_trans⟩
  exact List.pairwise_insertionSort _ rows

/-- Rows that a rank tells apart are in the strict order of their ranks. -/
theorem pairwise_lt_insertionSort {β : Type} [LinearOrder β] {rank : α → β}
    (hrank : (rows.map rank).Nodup) :
    (rows.insertionSort (fun a b => rank a ≤ rank b)).Pairwise (fun a b => rank a < rank b) := by
  have hdistinct : ((rows.insertionSort (fun a b => rank a ≤ rank b)).map rank).Nodup :=
    ((List.perm_insertionSort _ rows).map rank).nodup_iff.mpr hrank
  rw [List.Nodup, List.pairwise_map] at hdistinct
  exact ((pairwise_insertionSort_rank rank rows).and hdistinct).imp
    (fun h => lt_of_le_of_ne h.1 h.2)

/-- Rows that are told apart by a rank come in one order by it, however they are listed and
however ties would be broken. -/
theorem insertionSort_eq_of_perm {β : Type} [LinearOrder β] {rows' : List α} {rank : α → β}
    (hperm : rows.Perm rows') (hrank : (rows.map rank).Nodup)
    (hr : ∀ a b, rank a ≠ rank b → (r a b ↔ rank a ≤ rank b))
    (hr' : ∀ a b, rank a ≠ rank b → (r' a b ↔ rank a ≤ rank b)) :
    rows.insertionSort r = rows'.insertionSort r' := by
  have hagree : ∀ {s : α → α → Prop} {l : List α}, (l.map rank).Nodup →
      (∀ a b, rank a ≠ rank b → (s a b ↔ rank a ≤ rank b)) →
      l.Pairwise (fun a b => s a b ↔ rank a ≤ rank b) := by
    intro s l hl hs
    rw [List.Nodup, List.pairwise_map] at hl
    exact hl.imp (fun hne => hs _ _ hne)
  have hrank' : (rows'.map rank).Nodup := ((hperm.map rank).nodup_iff).mp hrank
  rw [insertionSort_congr (hagree hrank hr), insertionSort_congr (hagree hrank' hr')]
  have hsorted := pairwise_insertionSort_rank rank
  have hequal : ∀ a b, a ∈ rows.insertionSort (fun a b => rank a ≤ rank b) →
      b ∈ rows'.insertionSort (fun a b => rank a ≤ rank b) → rank a ≤ rank b → rank b ≤ rank a →
      a = b := by
    intro a b ha hb hab hba
    rw [List.mem_insertionSort] at ha hb
    exact List.inj_on_of_nodup_map hrank ha (hperm.mem_iff.mpr hb) (le_antisymm hab hba)
  exact List.Perm.eq_of_pairwise hequal (hsorted rows) (hsorted rows')
    ((List.perm_insertionSort _ rows).trans
      (hperm.trans (List.perm_insertionSort _ rows').symm))

/-- Sorted by a rank that tells the rows of one list apart, two lists are equal when they have
the same rows. -/
theorem insertionSort_eq_iff_perm {β : Type} [LinearOrder β] {rows' : List α} {rank : α → β}
    (hrank : (rows.map rank).Nodup) (hr : ∀ a b, rank a ≠ rank b → (r a b ↔ rank a ≤ rank b)) :
    rows.insertionSort r = rows'.insertionSort r ↔ rows.Perm rows' := by
  constructor
  · intro hsorted
    refine (List.perm_insertionSort r rows).symm.trans ?_
    rw [hsorted]
    exact List.perm_insertionSort r rows'
  · intro hperm
    exact insertionSort_eq_of_perm hperm hrank hr hr

/-- Rows that a rank tells apart are sorted before or after a selection. -/
theorem filter_insertionSort {β : Type} [LinearOrder β] {rank : α → β}
    (hrank : (rows.map rank).Nodup) (p : α → Bool) :
    (rows.insertionSort (fun a b => rank a ≤ rank b)).filter p =
      (rows.filter p).insertionSort (fun a b => rank a ≤ rank b) := by
  have : Std.Total (fun a b : α => rank a ≤ rank b) := ⟨fun a b => le_total _ _⟩
  have : IsTrans α (fun a b => rank a ≤ rank b) := ⟨fun a b c => le_trans⟩
  have hsorted := (pairwise_insertionSort_rank rank rows).filter p
  rw [← hsorted.insertionSort_eq]
  have hperm : ((rows.insertionSort (fun a b => rank a ≤ rank b)).filter p).Perm
      (rows.filter p) := (List.perm_insertionSort _ rows).filter p
  refine insertionSort_eq_of_perm hperm ?_ (fun _ _ _ => Iff.rfl) (fun _ _ _ => Iff.rfl)
  rw [(hperm.map rank).nodup_iff]
  exact hrank.sublist (List.filter_sublist.map rank)

/-- Sorting by a rank is stable: the rows of one rank stay in the order they came in. -/
theorem filter_rank_insertionSort {β : Type} [LinearOrder β] (rows : List α) (rank : α → β)
    (k : β) :
    (rows.insertionSort (fun a b => rank a ≤ rank b)).filter (fun row => rank row = k) =
      rows.filter (fun row => rank row = k) := by
  have hequal : (rows.filter (fun row => rank row = k)).Pairwise
      (fun a b => rank a ≤ rank b) := by
    refine List.pairwise_of_forall_mem_list ?_
    intro a ha b hb
    have hak : rank a = k := by simpa using (List.mem_filter.mp ha).2
    have hbk : rank b = k := by simpa using (List.mem_filter.mp hb).2
    exact (hak.trans hbk.symm).le
  have hsub := (List.sublist_insertionSort hequal List.filter_sublist).filter
    (fun row => decide (rank row = k))
  rw [List.filter_filter] at hsub
  simp only [Bool.and_self] at hsub
  have hperm := (List.perm_insertionSort (fun a b : α => rank a ≤ rank b) rows).filter
    (fun row => decide (rank row = k))
  exact (hsub.eq_of_length hperm.length_eq.symm).symm

end Order

end LotusManage
