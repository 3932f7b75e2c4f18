import LotusManage.Lib.Tables

/-!
# Pages of a sorted list

A reader that goes through a sorted list by offset has, after every page, the front of the list
up to its offset (`take_append_page`).  A row that is inserted behind that front leaves it
(`take_orderedInsert`); one that is inserted into it moves the last row that was read to the
next page.

A reader that names the last row it has read, and is given the rows after that one, is moved by no
row that is inserted: `walk_spec` is about such a reader of a list that grows from page to page.
-/

namespace LotusManage.Pages

variable {α : Type}

/-- The page of a list at an offset. -/
def page (rows : List α) (offset limit : Nat) : List α := (rows.drop offset).take limit

variable {rows : List α}

/-- What was read before, with the next page. -/
theorem take_append_page (rows : List α) (offset limit : Nat) :
    rows.take offset ++ page rows offset limit =
      rows.take (offset + (page rows offset limit).length) := by
  unfold page
  rw [List.take_add, List.length_take, ← List.take_eq_take_min]

/-- A page does not go past the end. -/
theorem offset_add_page_le {offset : Nat} (limit : Nat) (h : offset ≤ rows.length) :
    offset + (page rows offset limit).length ≤ rows.length := by
  unfold page
  rw [List.length_take, List.length_drop]
  omega

/-- A row that comes behind the first rows leaves them. -/
theorem take_orderedInsert {r : α → α → Prop} [DecidableRel r] {a : α} :
    ∀ {rows : List α} {n : Nat}, n ≤ rows.length → (∀ b ∈ rows.take n, ¬ r a b) →
      (rows.orderedInsert r a).take n = rows.take n
  | _, 0, _, _ => by rw [List.take_zero, List.take_zero]
  | [], n + 1, hn, _ => absurd hn (Nat.not_succ_le_zero n)
  | b :: rows, n + 1, hn, h => by
    have hb : ¬ r a b := h b (by rw [List.take_succ_cons]; exact List.mem_cons_self)
    rw [List.orderedInsert_cons, if_neg hb, List.take_succ_cons, List.take_succ_cons,
      take_orderedInsert (Nat.le_of_succ_le_succ hn)]
    intro c hc
    exact h c (by rw [List.take_succ_cons]; exact List.mem_cons_of_mem _ hc)

/-! ## Pages of two selections

Two readers select rows of one sorted list, and each shows the first rows of its selection and
whether there are more. -/

theorem zero_lt_length_filter_iff {p : α → Bool} :
    0 < (rows.filter p).length ↔ ∃ x ∈ rows, p x = true := by
  rw [List.length_pos_iff_exists_mem]
  constructor
  · rintro ⟨x, hx⟩
    exact ⟨x, List.mem_filter.mp hx⟩
  · rintro ⟨x, hx⟩
    exact ⟨x, List.mem_filter.mpr hx⟩

/-- The readers show the same when the first rows that either selects are selected by both, and
what is left has a row for both or for none. -/
theorem page_filter_iff {p q : α → Bool} {n : Nat} (hnodup : rows.Nodup)
    (heither : ∀ x ∈ rows, p x = true ∨ q x = true) :
    ((rows.filter p).take n = (rows.filter q).take n ∧
      (n < (rows.filter p).length ↔ n < (rows.filter q).length)) ↔
    ((∀ x ∈ rows.take n, p x = true ∧ q x = true) ∧
      ((∃ x ∈ rows.drop n, p x = true) ↔ ∃ x ∈ rows.drop n, q x = true)) := by
  induction rows generalizing n with
  | nil => simp
  | cons x rows ih =>
    cases n with
    | zero =>
      rw [List.take_zero, List.take_zero, List.take_zero, List.drop_zero,
        zero_lt_length_filter_iff, zero_lt_length_filter_iff]
      simp
    | succ n =>
      obtain ⟨hx, hnodup⟩ := List.nodup_cons.mp hnodup
      have hrest := ih (n := n) hnodup (fun y hy => heither y (List.mem_cons_of_mem x hy))
      -- a row that only one selects is missing on the page of the other
      have hmissing : ∀ p' : α → Bool, x ∉ (rows.filter p').take (n + 1) :=
        fun _ hmem => hx (List.mem_filter.mp (List.mem_of_mem_take hmem)).1
      rw [List.take_succ_cons, List.drop_succ_cons]
      cases hp : p x with
      | true =>
        cases hq : q x with
        | true =>
          rw [List.filter_cons_of_pos hp, List.filter_cons_of_pos hq, List.take_succ_cons,
            List.take_succ_cons, List.length_cons, List.length_cons, Nat.add_lt_add_iff_right,
            Nat.add_lt_add_iff_right, List.cons.injEq, List.forall_mem_cons, eq_self_iff_true,
            true_and]
          refine hrest.trans ?_
          exact ⟨fun h => ⟨⟨⟨hp, hq⟩, h.1⟩, h.2⟩, fun h => ⟨h.1.2, h.2⟩⟩
        | false =>
          rw [List.filter_cons_of_pos hp, List.filter_cons_of_neg (by rw [hq]; decide),
            List.take_succ_cons, List.forall_mem_cons]
          refine iff_of_false ?_ ?_
          · rintro ⟨heq, _⟩
            refine hmissing q ?_
            rw [← heq]
            exact List.mem_cons_self
          · rintro ⟨⟨⟨_, hboth⟩, _⟩, _⟩
            rw [hq] at hboth
            cases hboth
      | false =>
        have hq : q x = true := by
          rcases heither x List.mem_cons_self with h | h
          · rw [hp] at h
            cases h
          · exact h
        rw [List.filter_cons_of_pos hq, List.filter_cons_of_neg (by rw [hp]; decide),
          List.take_succ_cons, List.forall_mem_cons]
        refine iff_of_false ?_ ?_
        · rintro ⟨heq, _⟩
          refine hmissing p ?_
          rw [heq]
          exact List.mem_cons_self
        · rintro ⟨⟨⟨hboth, _⟩, _⟩, _⟩
          rw [hp] at hboth
          cases hboth

/-- In a strictly sorted list, what comes after a row is what is greater. -/
theorem drop_succ_eq_filter {β : Type} [LinearOrder β] {rank : α → β} {x : α} {i : Nat}
    (hsorted : rows.Pairwise (fun a b => rank a < rank b)) (hi : rows[i]? = some x) :
    rows.drop (i + 1) = rows.filter (fun y => decide (rank x < rank y)) := by
  induction rows generalizing i with
  | nil => cases hi
  | cons a rows ih =>
    obtain ⟨ha, hsorted⟩ := List.pairwise_cons.mp hsorted
    rw [List.drop_succ_cons]
    cases i with
    | zero =>
      cases hi
      rw [List.drop_zero, List.filter_cons_of_neg (by simp), List.filter_eq_self.mpr]
      intro y hy
      exact decide_eq_true (ha y hy)
    | succ i =>
      rw [List.getElem?_cons_succ] at hi
      have hlt := ha x (List.mem_of_getElem? hi)
      rw [ih hsorted hi, List.filter_cons_of_neg]
      rw [decide_eq_true_iff]
      exact not_lt.mpr hlt.le

/-! ## Walks by cursor -/

section Walks

variable {κ : Type}

/-- The first rows, and the key of the last of them when there are more; `none` where there is no
last one. -/
def firstPage (key : α → κ) (limit : Nat) (rows : List α) : Option (List α × Option κ) :=
  let page := rows.take limit
  if limit < rows.length then page.getLast?.map (fun last => (page, some (key last)))
  else some (page, none)

/-- Reads page after page, each from the cursor of the one before; the next arrivals come between two
reads.  `none` when a read fails or the fuel is out. -/
def walk (list : List α → Option κ → Option (List α × Option κ)) :
    Nat → List (List α) → List α → Option κ → Option (List α)
  | 0, _, _, _ => none
  | fuel + 1, arrivals, rows, cursor =>
    match list rows cursor with
    | none => none
    | some (page, none) => some page
    | some (page, some next) =>
      (walk list fuel arrivals.tail (rows ++ arrivals.headD []) (some next)).map (page ++ ·)

variable {β : Type} [LinearOrder β] {rank : α → β} {key : α → κ} {selects : α → Bool}
  {limit : Nat}

/-- The selected rows after the cursor. -/
def selectsAfter (rank : α → β) (selects : α → Bool) (cursor : Option α) (row : α) : Bool :=
  selects row && cursor.all (fun c => decide (rank c < rank row))

/-- The selected rows after the cursor, in their order. -/
def remaining (rank : α → β) (selects : α → Bool) (rows : List α) (cursor : Option α) : List α :=
  (rows.filter (selectsAfter rank selects cursor)).insertionSort (fun a b => rank a ≤ rank b)

/-- The listing pages through the selected rows in the order of their ranks, after the row that the
cursor names. -/
def Keyset (rank : α → β) (key : α → κ) (selects : α → Bool) (limit : Nat)
    (list : List α → Option κ → Option (List α × Option κ)) : Prop :=
  ∀ rows, (rows.map key).Nodup → ∀ cursor : Option α,
    (∀ c ∈ cursor, c ∈ rows ∧ selects c = true) →
      list rows (cursor.map key) = firstPage key limit (remaining rank selects rows cursor)

variable {rows : List α} {cursor : Option α} {list : List α → Option κ → Option (List α × Option κ)}
  {arrivals : List (List α)}

@[simp] theorem selectsAfter_none : selectsAfter rank selects none = selects := by
  funext row
  exact Bool.and_true _

theorem mem_remaining {row : α} :
    row ∈ remaining rank selects rows cursor ↔
      row ∈ rows ∧ selectsAfter rank selects cursor row = true := by
  unfold remaining
  rw [List.mem_insertionSort, List.mem_filter]

theorem selectsAfter_eq_true_iff {row : α} :
    selectsAfter rank selects cursor row = true ↔
      selects row = true ∧ ∀ c ∈ cursor, rank c < rank row := by
  unfold selectsAfter
  rw [Bool.and_eq_true, Option.all_eq_true]
  simp

theorem pairwise_remaining (hrank : ∀ a b, rank a = rank b → key a = key b)
    (hnodup : (rows.map key).Nodup) (selects : α → Bool) (cursor : Option α) :
    (remaining rank selects rows cursor).Pairwise (fun a b => rank a < rank b) := by
  apply pairwise_lt_insertionSort
  rw [List.Nodup, List.pairwise_map] at hnodup ⊢
  exact (hnodup.filter _).imp (fun hne heq => hne (hrank _ _ heq))

/-- After one of the rows that remain, those remain that come after it. -/
theorem selectsAfter_some {c : α} (hc : selectsAfter rank selects cursor c = true) (row : α) :
    selectsAfter rank selects (some c) row =
      (decide (rank c < rank row) && selectsAfter rank selects cursor row) := by
  obtain ⟨_, hbefore⟩ := selectsAfter_eq_true_iff.mp hc
  rw [Bool.eq_iff_iff, Bool.and_eq_true, decide_eq_true_iff, selectsAfter_eq_true_iff,
    selectsAfter_eq_true_iff]
  constructor
  · intro h
    have hlt := h.2 c rfl
    exact ⟨hlt, h.1, fun c' hc' => (hbefore c' hc').trans hlt⟩
  · intro h
    refine ⟨h.2.1, ?_⟩
    intro c' hc'
    cases hc'
    exact h.1

theorem length_remaining_lt {c : α} (hmem : c ∈ rows)
    (hc : selectsAfter rank selects cursor c = true) :
    (remaining rank selects rows (some c)).length < (remaining rank selects rows cursor).length := by
  unfold remaining
  rw [List.length_insertionSort, List.length_insertionSort,
    List.filter_congr (fun row _ => selectsAfter_some hc row), ← List.filter_filter,
    List.length_filter_lt_length_iff_exists]
  exact ⟨c, List.mem_filter.mpr ⟨hmem, hc⟩, by simp⟩

/-- A page that is not the last, the row that it names, and what comes after that row. -/
theorem remaining_split (hrank : ∀ a b, rank a = rank b → key a = key b)
    (hnodup : (rows.map key).Nodup) (hlimit : 0 < limit)
    (hmore : limit < (remaining rank selects rows cursor).length) :
    ∃ last, ((remaining rank selects rows cursor).take limit).getLast? = some last ∧
      (∀ row ∈ (remaining rank selects rows cursor).take limit, rank row ≤ rank last) ∧
      ∀ row ∈ remaining rank selects rows cursor,
        row ∈ (remaining rank selects rows cursor).take limit ∨ rank last < rank row := by
  have hsorted := pairwise_remaining hrank hnodup selects cursor
  generalize remaining rank selects rows cursor = all at hsorted hmore
  have hne : all.take limit ≠ [] := by
    intro hnil
    have hlength := congrArg List.length hnil
    rw [List.length_take, List.length_nil] at hlength
    omega
  refine ⟨(all.take limit).getLast hne, List.getLast?_eq_some_getLast hne, ?_, ?_⟩
  · intro row hrow
    have htake := hsorted.sublist (List.take_sublist limit all)
    rw [← List.dropLast_concat_getLast hne] at htake hrow
    cases List.mem_append.mp hrow with
    | inl hfront => exact ((List.pairwise_append.mp htake).2.2 row hfront _ (List.mem_singleton_self _)).le
    | inr hlast => rw [List.mem_singleton.mp hlast]
  · intro row hrow
    rw [← List.take_append_drop limit all] at hrow hsorted
    cases List.mem_append.mp hrow with
    | inl hfront => exact .inl hfront
    | inr hrest =>
      right
      exact (List.pairwise_append.mp hsorted).2.2 _ (List.getLast_mem hne) row hrest

/-- **A walk by cursor.**  It ends when there is fuel for every row that may still be read; what it
reads is in order, is selected, and has every selected row that was there from the start. -/
theorem walk_spec (hlist : Keyset rank key selects limit list)
    (hrank : ∀ a b, rank a = rank b → key a = key b) (hlimit : 0 < limit) {fuel : Nat}
    (hnodup : ((rows ++ arrivals.flatten).map key).Nodup)
    (hcursor : ∀ c ∈ cursor, c ∈ rows ∧ selects c = true)
    (hfuel : (remaining rank selects (rows ++ arrivals.flatten) cursor).length < fuel) :
    ∃ read, walk list fuel arrivals rows (cursor.map key) = some read ∧
      read.Pairwise (fun a b => rank a < rank b) ∧
      (∀ row ∈ read, row ∈ rows ++ arrivals.flatten ∧ selectsAfter rank selects cursor row = true) ∧
      ∀ row ∈ rows, selectsAfter rank selects cursor row = true → row ∈ read := by
  induction fuel generalizing arrivals rows cursor with
  | zero => exact absurd hfuel (Nat.not_lt_zero _)
  | succ fuel ih =>
    have hnow : (rows.map key).Nodup := by
      rw [List.map_append] at hnodup
      exact (List.nodup_append.mp hnodup).1
    have hsorted := pairwise_remaining hrank hnow selects cursor
    rw [walk, hlist rows hnow cursor hcursor]
    unfold firstPage
    dsimp only
    by_cases hmore : limit < (remaining rank selects rows cursor).length
    · obtain ⟨last, hlast, hpage, hrest⟩ := remaining_split hrank hnow hlimit hmore
      have hpageSorted := hsorted.sublist (List.take_sublist limit _)
      have hmem : ∀ row ∈ (remaining rank selects rows cursor).take limit,
          row ∈ rows ∧ selectsAfter rank selects cursor row = true :=
        fun row hrow => mem_remaining.mp (List.mem_of_mem_take hrow)
      obtain ⟨hlastRow, hlastAfter⟩ := hmem last (List.mem_of_getLast? hlast)
      have hall : rows ++ arrivals.headD [] ++ arrivals.tail.flatten = rows ++ arrivals.flatten := by
        cases arrivals with
        | nil => simp
        | cons first arrivals => simp
      rw [← hall] at hnodup hfuel ⊢
      have hlastNext : last ∈ rows ++ arrivals.headD [] := List.mem_append_left _ hlastRow
      have hfewer := length_remaining_lt (List.mem_append_left arrivals.tail.flatten hlastNext)
        hlastAfter
      have hnext : ∀ c ∈ some last, c ∈ rows ++ arrivals.headD [] ∧ selects c = true := by
        intro c hc
        cases hc
        exact ⟨hlastNext, (selectsAfter_eq_true_iff.mp hlastAfter).1⟩
      obtain ⟨read, hread, hreadSorted, hreadMem, hcomplete⟩ :=
        ih hnodup hnext (Nat.lt_of_lt_of_le hfewer (Nat.le_of_lt_succ hfuel))
      rw [if_pos hmore, hlast]
      dsimp only [Option.map_some]
      rw [Option.map_some] at hread
      rw [hread, Option.map_some]
      refine ⟨_, rfl, ?_, ?_, ?_⟩
      · rw [List.pairwise_append]
        refine ⟨hpageSorted, hreadSorted, ?_⟩
        intro a ha b hb
        have hlt := (selectsAfter_eq_true_iff.mp (hreadMem b hb).2).2 last rfl
        exact lt_of_le_of_lt (hpage a ha) hlt
      · intro row hrow
        cases List.mem_append.mp hrow with
        | inl hfront =>
          obtain ⟨hrowMem, hafter⟩ := hmem row hfront
          exact ⟨List.mem_append_left _ (List.mem_append_left _ hrowMem), hafter⟩
        | inr hback =>
          obtain ⟨hrowMem, hafter⟩ := hreadMem row hback
          rw [selectsAfter_some hlastAfter, Bool.and_eq_true] at hafter
          exact ⟨hrowMem, hafter.2⟩
      · intro row hrow hafter
        rw [List.mem_append]
        cases hrest row (mem_remaining.mpr ⟨hrow, hafter⟩) with
        | inl hfront => exact .inl hfront
        | inr hlt =>
          right
          apply hcomplete row (List.mem_append_left _ hrow)
          rw [selectsAfter_some hlastAfter, decide_eq_true hlt, hafter, Bool.and_true]
    · rw [if_neg hmore, List.take_of_length_le (Nat.le_of_not_lt hmore)]
      refine ⟨_, rfl, hsorted, ?_, ?_⟩
      · intro row hrow
        obtain ⟨hmem, hafter⟩ := mem_remaining.mp hrow
        exact ⟨List.mem_append_left _ hmem, hafter⟩
      · intro row hrow hafter
        exact mem_remaining.mpr ⟨hrow, hafter⟩

/-- Of the rows that were there from the start, a walk reads the selected ones after the cursor, in
order, and nothing else. -/
theorem walk_filter [DecidableEq α] (hlist : Keyset rank key selects limit list)
    (hrank : ∀ a b, rank a = rank b → key a = key b) (hlimit : 0 < limit) {fuel : Nat}
    (hnodup : ((rows ++ arrivals.flatten).map key).Nodup)
    (hcursor : ∀ c ∈ cursor, c ∈ rows ∧ selects c = true)
    (hfuel : (rows ++ arrivals.flatten).length < fuel) :
    ∃ read, walk list fuel arrivals rows (cursor.map key) = some read ∧
      read.Pairwise (fun a b => rank a < rank b) ∧
      (∀ row ∈ read, row ∈ rows ++ arrivals.flatten ∧ selects row = true) ∧
      read.filter (· ∈ rows) = remaining rank selects rows cursor := by
  have hremaining : (remaining rank selects (rows ++ arrivals.flatten) cursor).length < fuel := by
    unfold remaining
    rw [List.length_insertionSort]
    exact Nat.lt_of_le_of_lt (List.length_filter_le _ _) hfuel
  obtain ⟨read, hread, hsorted, hmem, hcomplete⟩ :=
    walk_spec hlist hrank hlimit hnodup hcursor hremaining
  refine ⟨read, hread, hsorted, ?_, ?_⟩
  · intro row hrow
    exact ⟨(hmem row hrow).1, (selectsAfter_eq_true_iff.mp (hmem row hrow).2).1⟩
  · have hnow : (rows.map key).Nodup := by
      rw [List.map_append] at hnodup
      exact (List.nodup_append.mp hnodup).1
    have hfilterSorted := hsorted.filter (fun row => decide (row ∈ rows))
    have hrowsSorted := pairwise_remaining hrank hnow selects cursor
    have hperm : (read.filter (· ∈ rows)).Perm (remaining rank selects rows cursor) := by
      rw [List.perm_ext_iff_of_nodup (hfilterSorted.imp fun hlt heq => hlt.ne (congrArg rank heq))
        (hrowsSorted.imp fun hlt heq => hlt.ne (congrArg rank heq))]
      intro row
      rw [List.mem_filter, decide_eq_true_iff, mem_remaining]
      exact ⟨fun h => ⟨h.2, (hmem row h.1).2⟩, fun h => ⟨hcomplete row h.1 h.2, h.1⟩⟩
    exact hperm.eq_of_pairwise (fun a b _ _ hab hba => absurd hba (lt_asymm hab)) hfilterSorted
      hrowsSorted

end Walks

end LotusManage.Pages
