import LotusManage.Lib.Pages

/-!
# Walks by a cursor that is looked up again

A page starts after the first row whose key is the cursor.  `Lib.Pages` is about keys that no two rows
share; here rows may share keys, and then a reader may be sent back to rows it has read.

* `afterKey_page_end`: where the page after a page starts.
* `walk_of_firstHolders`: when every row that ends a page is the first with its key, the walk reads
  the rows in their order.
* `length_le_of_walk`: a walk that ends reads at least as many rows as there are, and more when a page
  ends with a row that is not the first with its key.
* `readsOnce_iff`: the walk ends and reads every row once exactly in the first case.
-/

namespace LotusManage.Pages

variable {α κ : Type} [DecidableEq κ]

/-- The rows after the first one whose key is the cursor; none when there is no such row. -/
def afterKey (key : α → κ) (rows : List α) : Option κ → List α
  | none => rows
  | some cursor =>
    match rows.findIdx? (fun row => decide (key row = cursor)) with
    | none => []
    | some i => rows.drop (i + 1)

/-- The page after a cursor. -/
def lookupPage (key : α → κ) (limit : Nat) (rows : List α) (cursor : Option κ) :
    Option (List α × Option κ) :=
  firstPage key limit (afterKey key rows cursor)

/-- The walk ends, and it has read every row once. -/
def ReadsOnce (key : α → κ) (limit : Nat) (rows : List α) : Prop :=
  ∃ read, (∃ enough, ∀ fuel, enough ≤ fuel →
    walk (lookupPage key limit) fuel [] rows none = some read) ∧ read.Perm rows

/-- The row at an index is the first with its key. -/
def FirstHolder (key : α → κ) (rows : List α) (i : Nat) : Prop :=
  ∀ j, j < i → rows[j]?.map key ≠ rows[i]?.map key

section PageEnds

variable {key : α → κ} {limit : Nat} {rows : List α}

variable {start : Nat} {cursor : Option κ}

theorem walk_nil (fuel : Nat) (cursor : Option κ) :
    walk (lookupPage key limit) (fuel + 1) [] rows cursor =
      match lookupPage key limit rows cursor with
      | none => none
      | some (page, none) => some page
      | some (page, some next) =>
        (walk (lookupPage key limit) fuel [] rows (some next)).map (page ++ ·) := by
  rw [walk, List.headD_nil, List.append_nil]
  rfl

/-- A page that is not the last ends with a row, and the next page starts after the first row with
the key of that one. -/
theorem afterKey_page_end (key : α → κ) (hlimit : 0 < limit) (hmore : start + limit < rows.length) :
    ∃ last i, ((rows.drop start).take limit).getLast? = some last ∧
      rows[start + limit - 1]? = some last ∧ i + 1 ≤ start + limit ∧
      afterKey key rows (some (key last)) = rows.drop (i + 1) ∧
      rows[i]?.map key = some (key last) ∧ FirstHolder key rows i := by
  have hlt : start + limit - 1 < rows.length := by omega
  have hlast : rows[start + limit - 1]? = some rows[start + limit - 1] := List.getElem?_eq_getElem hlt
  have hends : ((rows.drop start).take limit).getLast? = some rows[start + limit - 1] := by
    rw [List.getLast?_eq_getElem?, List.length_take, List.length_drop, List.getElem?_take,
      if_pos (by omega), List.getElem?_drop, ← hlast]
    congr 1
    omega
  have hheld : (rows.findIdx? (fun row => decide (key row = key rows[start + limit - 1]))).isSome := by
    rw [List.findIdx?_isSome, List.any_eq_true]
    exact ⟨_, List.getElem_mem hlt, by simp⟩
  obtain ⟨i, hi⟩ := Option.isSome_iff_exists.mp hheld
  obtain ⟨hilt, hkey, hbefore⟩ := List.findIdx?_eq_some_iff_getElem.mp hi
  have hkey : key rows[i] = key rows[start + limit - 1] := of_decide_eq_true hkey
  refine ⟨rows[start + limit - 1], i, hends, hlast, ?_, ?_, ?_, ?_⟩
  · by_contra hgt
    exact hbefore (start + limit - 1) (by omega) (by simp)
  · show (match rows.findIdx? _ with | none => [] | some i => rows.drop (i + 1)) = _
    rw [hi]
  · rw [List.getElem?_eq_getElem hilt, Option.map_some, hkey]
  · intro j hj heq
    rw [List.getElem?_eq_getElem hilt, List.getElem?_eq_getElem (hj.trans hilt), Option.map_some,
      Option.map_some, Option.some_inj, hkey] at heq
    exact hbefore j hj (decide_eq_true heq)

/-- One read from a start on. -/
theorem walk_from_cases (fuel : Nat) (hlimit : 0 < limit)
    (hcursor : afterKey key rows cursor = rows.drop start) :
    (rows.length ≤ start + limit ∧
      walk (lookupPage key limit) (fuel + 1) [] rows cursor = some (rows.drop start)) ∨
    (start + limit < rows.length ∧ ∃ next i, afterKey key rows (some next) = rows.drop (i + 1) ∧
      i + 1 ≤ start + limit ∧
      (i + 1 = start + limit ↔ FirstHolder key rows (start + limit - 1)) ∧
      walk (lookupPage key limit) (fuel + 1) [] rows cursor =
        (walk (lookupPage key limit) fuel [] rows (some next)).map
          ((rows.drop start).take limit ++ ·)) := by
  by_cases hmore : start + limit < rows.length
  · obtain ⟨last, i, hends, hlast, hi, hnext, hkey, hfirst⟩ :=
      afterKey_page_end key hlimit hmore
    refine Or.inr ⟨hmore, key last, i, hnext, hi, ⟨?_, ?_⟩, ?_⟩
    · intro heq
      rw [← heq, Nat.add_sub_cancel]
      exact hfirst
    · intro hholder
      by_contra hne
      refine hholder i (by omega) ?_
      rw [hkey, hlast, Option.map_some]
    · have hlen : limit < (rows.drop start).length := by
        rw [List.length_drop]
        omega
      rw [walk_nil]
      simp only [lookupPage, hcursor, firstPage, if_pos hlen, hends, Option.map_some]
  · refine Or.inl ⟨by omega, ?_⟩
    have hlen : ¬ limit < (rows.drop start).length := by
      rw [List.length_drop]
      omega
    rw [walk_nil]
    simp only [lookupPage, hcursor, firstPage, if_neg hlen]
    rw [List.take_of_length_le (by omega)]

/-- When the rows that end pages are the first with their keys, the rows are read in their order. -/
theorem walk_of_firstHolders (hlimit : 0 < limit) {fuel : Nat}
    (hcursor : afterKey key rows cursor = rows.drop start)
    (hends : ∀ pages, 0 < pages → start + pages * limit < rows.length →
      FirstHolder key rows (start + pages * limit - 1)) (hfuel : rows.length - start < fuel) :
    walk (lookupPage key limit) fuel [] rows cursor = some (rows.drop start) := by
  induction fuel generalizing start cursor with
  | zero => omega
  | succ fuel ih =>
    rcases walk_from_cases fuel hlimit hcursor with
      ⟨_, hwalk⟩ | ⟨hmore, next, i, hnext, _, hfirst, hwalk⟩
    · exact hwalk
    · have hholder := hends 1 Nat.one_pos (by omega)
      rw [Nat.one_mul] at hholder
      rw [hfirst.mpr hholder] at hnext
      rw [hwalk, ih hnext _ (by omega), Option.map_some, ← List.drop_drop, List.take_append_drop]
      intro pages hpages hlt
      have hstep : start + limit + pages * limit = start + (pages + 1) * limit := by
        rw [Nat.add_mul, Nat.one_mul]
        omega
      rw [hstep] at hlt ⊢
      exact hends (pages + 1) (Nat.succ_pos _) hlt

/-- A walk that ends has read at least as many rows as there are from its start on.  It has read more
when it was sent back. -/
theorem length_le_of_walk (hlimit : 0 < limit) {fuel : Nat} {read : List α}
    (hcursor : afterKey key rows cursor = rows.drop start)
    (hwalk : walk (lookupPage key limit) fuel [] rows cursor = some read) :
    rows.length ≤ start + read.length ∧
      (rows.length = start + read.length → ∀ pages, 0 < pages →
        start + pages * limit < rows.length → FirstHolder key rows (start + pages * limit - 1)) := by
  induction fuel generalizing start cursor read with
  | zero => cases hwalk
  | succ fuel ih =>
    rcases walk_from_cases fuel hlimit hcursor with
      ⟨hlast, heq⟩ | ⟨hmore, next, i, hnext, hi, hfirst, heq⟩
    · rw [heq] at hwalk
      cases hwalk
      rw [List.length_drop]
      refine ⟨by omega, ?_⟩
      intro _ pages hpages hlt
      have hpage : limit ≤ pages * limit := Nat.le_mul_of_pos_left limit hpages
      omega
    · rw [heq] at hwalk
      obtain ⟨rest, hrest, rfl⟩ := Option.map_eq_some_iff.mp hwalk
      obtain ⟨hle, hholders⟩ := ih hnext hrest
      rw [List.length_append, List.length_take, List.length_drop, Nat.min_eq_left (by omega)]
      refine ⟨by omega, ?_⟩
      intro hexact pages hpages hlt
      have hnextStart : i + 1 = start + limit := by omega
      rw [hnextStart] at hholders
      by_cases hone : pages = 1
      · rw [hone, Nat.one_mul]
        exact hfirst.mp hnextStart
      · obtain ⟨k, rfl⟩ : ∃ k, pages = k + 1 := ⟨pages - 1, by omega⟩
        have hstep : start + (k + 1) * limit = start + limit + k * limit := by
          rw [Nat.add_mul, Nat.one_mul]
          omega
        rw [hstep] at hlt ⊢
        exact hholders (by omega) k (by omega) hlt

/-- The walk ends and reads every row once exactly when every row that ends a page which is not the
last is the first with its key. -/
theorem readsOnce_iff (hlimit : 0 < limit) :
    ReadsOnce key limit rows ↔ ∀ pages, 0 < pages → pages * limit < rows.length →
      FirstHolder key rows (pages * limit - 1) := by
  have hstart : afterKey key rows none = rows.drop 0 := rfl
  constructor
  · rintro ⟨read, ⟨enough, hwalk⟩, hperm⟩ pages hpages hlt
    have hholders := (length_le_of_walk hlimit hstart (hwalk enough (Nat.le_refl _))).2
    rw [hperm.length_eq, Nat.zero_add] at hholders
    have hholder := hholders rfl pages hpages
    rw [Nat.zero_add] at hholder
    exact hholder hlt
  · intro hholders
    refine ⟨rows, ⟨rows.length + 1, ?_⟩, List.Perm.refl _⟩
    intro fuel hfuel
    refine walk_of_firstHolders hlimit hstart ?_ (by omega)
    intro pages hpages hlt
    rw [Nat.zero_add] at hlt ⊢
    exact hholders pages hpages hlt

end PageEnds

end LotusManage.Pages
