import LotusManage.Lib.Tables
import Mathlib.Data.Prod.Lex

/-!
# `ORDER BY` against sorting by a key

A query with `ORDER BY` may return its rows in any order in which no row comes after one that its items
put behind it.  A program that sorts by a tuple, or takes the maximum by one, has one answer.

* `compareBy_cons_desc`: an item list that compares by the parts of a key compares by the key.
* `Answers.eq_descending`: when the key tells the rows apart, there is one answer, the rows sorted by
  the key from the top.
* `Answers.head?_eq_maxBy`: the first row of it is the maximum.
-/

namespace LotusManage.OrderBy

variable {α β γ : Type}

/-! ## Items -/

/-- An item of an `ORDER BY` list: how two rows compare by it. -/
abbrev Item (α : Type) := α → α → Ordering

/-- `key DESC` -/
def desc [Ord β] (key : α → β) : Item α := fun a b => compare (key b) (key a)

/-- `key DESC NULLS LAST` -/
def descNullsLast [Ord β] (key : α → Option β) : Item α := fun a b =>
  match key a, key b with
  | some x, some y => compare y x
  | some _, none => .lt
  | none, some _ => .gt
  | none, none => .eq

/-- The first item that tells two rows apart decides. -/
def compareBy : List (Item α) → Item α
  | [], _, _ => .eq
  | item :: items, a, b => (item a b).then (compareBy items a b)

/-- `answer` may be returned for `SELECT ... ORDER BY items` over these rows. -/
def Answers (items : List (Item α)) (rows answer : List α) : Prop :=
  answer.Perm rows ∧ answer.Pairwise (fun a b => compareBy items a b ≠ .gt)

/-! ## Keys -/

section Keys

variable [LinearOrder β] [LinearOrder γ]

/-- `sorted(rows, key=key, reverse=True)`: equal keys in their old order. -/
def descending (key : α → β) (rows : List α) : List α :=
  rows.insertionSort (fun a b => key b ≤ key a)

/-- `max(rows, key=key)`: the first of the highest. -/
def maxBy (key : α → β) : List α → Option α
  | [] => none
  | row :: rows => some (rows.foldl (fun best row => if key best < key row then row else best) row)

variable {items : List (Item α)} {key : α → β}

theorem compare_toLex (a c : β) (b d : γ) :
    compare (toLex (a, b)) (toLex (c, d)) = (compare a c).then (compare b d) := rfl

@[simp] theorem compareBy_single (key : α → β) (a b : α) :
    compareBy [desc key] a b = compare (key b) (key a) := Ordering.then_eq

theorem compareBy_cons_desc {rest : α → γ}
    (h : ∀ a b, compareBy items a b = compare (rest b) (rest a)) (key : α → β) (a b : α) :
    compareBy (desc key :: items) a b =
      compare (toLex (key b, rest b)) (toLex (key a, rest a)) := by
  rw [compare_toLex, ← h a b]
  rfl

theorem compareBy_append (items items' : List (Item α)) (a b : α) :
    compareBy (items ++ items') a b = (compareBy items a b).then (compareBy items' a b) := by
  induction items with
  | nil => rfl
  | cons item items ih =>
    rw [List.cons_append, compareBy, ih, compareBy, Ordering.then_assoc]

/-! ## The one answer -/

theorem pairwise_descending (key : α → β) (rows : List α) :
    (descending key rows).Pairwise (fun a b => key b ≤ key a) := by
  have : Std.Total (fun a b : α => key b ≤ key a) := ⟨fun a b => le_total _ _⟩
  have : IsTrans α (fun a b => key b ≤ key a) := ⟨fun _ _ _ hab hbc => hbc.trans hab⟩
  exact List.pairwise_insertionSort _ rows

theorem perm_descending (key : α → β) (rows : List α) : (descending key rows).Perm rows :=
  List.perm_insertionSort _ rows

omit [LinearOrder γ] in
theorem descending_map (key : γ → β) (f : α → γ) (rows : List α) :
    descending key (rows.map f) = (descending (fun row => key (f row)) rows).map f := by
  refine (List.map_insertionSort (fun a b : α => key (f b) ≤ key (f a))
    (fun a b : γ => key b ≤ key a) f rows ?_).symm
  exact fun _ _ _ _ => Iff.rfl

omit [LinearOrder γ] in
/-- Keys that order the rows alike. -/
theorem descending_congr {δ : Type} [LinearOrder δ] {key' : α → δ}
    (h : ∀ a b, key a ≤ key b ↔ key' a ≤ key' b) (rows : List α) :
    descending key rows = descending key' rows :=
  insertionSort_congr (List.pairwise_of_forall fun a b => h b a)

/-- Whatever the query returns, when the key tells the rows apart. -/
theorem Answers.eq_descending {rows rows' answer : List α} (h : Answers items rows answer)
    (hrows : rows.Perm rows') (hitems : ∀ a b, compareBy items a b = compare (key b) (key a))
    (hkey : (rows'.map key).Nodup) : answer = descending key rows' := by
  obtain ⟨hperm, hsorted⟩ := h
  have hdown : answer.Pairwise (fun a b => key b ≤ key a) := by
    refine hsorted.imp (fun {a b} hle => ?_)
    rw [hitems a b, ne_eq, compare_gt_iff_gt, not_lt] at hle
    exact hle
  refine List.Perm.eq_of_pairwise (fun a b ha hb hab hba => ?_) hdown
    (pairwise_descending key rows') ((hperm.trans hrows).trans (perm_descending key rows').symm)
  have ha' : a ∈ rows' := (hperm.trans hrows).mem_iff.mp ha
  have hb' : b ∈ rows' := (perm_descending key rows').mem_iff.mp hb
  exact List.inj_on_of_nodup_map hkey ha' hb' (le_antisymm hba hab)

/-! ## The maximum -/

theorem foldl_max_spec (key : α → β) (first : α) (rows : List α) :
    let best := rows.foldl (fun best row => if key best < key row then row else best) first
    best ∈ first :: rows ∧ ∀ row ∈ first :: rows, key row ≤ key best := by
  induction rows generalizing first with
  | nil =>
    refine ⟨List.mem_singleton_self first, fun row hrow => ?_⟩
    rw [List.mem_singleton.mp hrow]
    exact le_rfl
  | cons next rows ih =>
    rw [List.foldl_cons]
    by_cases hlt : key first < key next
    · rw [if_pos hlt]
      obtain ⟨hmem, hmax⟩ := ih next
      refine ⟨List.mem_cons_of_mem first hmem, ?_⟩
      rw [List.forall_mem_cons]
      exact ⟨hlt.le.trans (hmax next List.mem_cons_self), hmax⟩
    · rw [if_neg hlt]
      obtain ⟨hmem, hmax⟩ := ih first
      refine ⟨(List.cons_subset_cons first (List.subset_cons_self next rows)) hmem, ?_⟩
      rw [List.forall_mem_cons] at hmax
      rw [List.forall_mem_cons, List.forall_mem_cons]
      exact ⟨hmax.1, (not_lt.mp hlt).trans hmax.1, hmax.2⟩

/-- The first of the rows sorted from the top is the maximum. -/
theorem head?_descending {rows : List α} (hkey : (rows.map key).Nodup) :
    (descending key rows).head? = maxBy key rows := by
  have hsorted := pairwise_descending key rows
  have hperm := perm_descending key rows
  cases rows with
  | nil => rfl
  | cons row rows =>
    cases htop : descending key (row :: rows) with
    | nil =>
      rw [htop] at hperm
      exact absurd hperm.symm.eq_nil (List.cons_ne_nil row rows)
    | cons top rest =>
      rw [htop, List.pairwise_cons] at hsorted
      rw [htop] at hperm
      obtain ⟨hmem, hmax⟩ := foldl_max_spec key row rows
      refine congrArg some (List.inj_on_of_nodup_map hkey
        (hperm.mem_iff.mp List.mem_cons_self) hmem (le_antisymm ?_ ?_))
      · exact hmax top (hperm.mem_iff.mp List.mem_cons_self)
      · rcases List.mem_cons.mp (hperm.mem_iff.mpr hmem) with htop | hrest
        · rw [htop]
        · exact hsorted.1 _ hrest

end Keys

end LotusManage.OrderBy
