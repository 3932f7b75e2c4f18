import Mathlib.Data.List.Basic

/-!
# The top of a ranking

The first `n` of a ranked list, in which one element of a kind that must be seen takes the last
place when none of its kind has one.

* `topKeeping_sublist`: nothing is invented or repeated, and the order is kept.
* `mem_topKeeping_of_mem_take`: only the last place is given up.
* `exists_mem_topKeeping`: the kind is seen whenever the ranking has one of it.
* `mem_take_of_countP_le`: a kind that ranks above all others is in the first `n`, if at most `n`
  are of it.
-/

namespace LotusManage.Rankings

variable {α : Type}

/-- The first `n`, where one that `p` marks displaces the last unless a marked one is among
them. -/
def topKeeping (p : α → Bool) (n : Nat) (ranked : List α) : List α :=
  match ranked.filter p with
  | [] => ranked.take n
  | kept :: _ => if (ranked.take n).any p then ranked.take n
    else (ranked.take n).dropLast ++ [kept]

variable {p : α → Bool} {n : Nat} {ranked : List α}

/-- The first `n` stay, or they have no marked one and a marked one comes in. -/
theorem topKeeping_cases (p : α → Bool) (n : Nat) (ranked : List α) :
    (topKeeping p n ranked = ranked.take n ∧
      ((∃ x ∈ ranked, p x = true) → ∃ x ∈ ranked.take n, p x = true)) ∨
    ∃ kept ∈ ranked.drop n, p kept = true ∧
      topKeeping p n ranked = (ranked.take n).dropLast ++ [kept] := by
  unfold topKeeping
  split
  · rename_i hnone
    refine Or.inl ⟨rfl, fun ⟨x, hx, hp⟩ => ?_⟩
    have hmem : x ∈ ranked.filter p := List.mem_filter.mpr ⟨hx, hp⟩
    rw [hnone] at hmem
    cases hmem
  · rename_i kept rest hkept
    have hmem : kept ∈ ranked.filter p := by
      rw [hkept]
      exact List.mem_cons_self
    obtain ⟨hranked, hp⟩ := List.mem_filter.mp hmem
    split
    · rename_i hany
      exact Or.inl ⟨rfl, fun _ => List.any_eq_true.mp hany⟩
    · rename_i hany
      refine Or.inr ⟨kept, ?_, hp, rfl⟩
      rw [← List.take_append_drop n ranked, List.mem_append] at hranked
      rcases hranked with htop | hrest
      · exact absurd (List.any_eq_true.mpr ⟨kept, htop, hp⟩) hany
      · exact hrest

theorem topKeeping_sublist (p : α → Bool) (n : Nat) (ranked : List α) :
    (topKeeping p n ranked).Sublist ranked := by
  obtain ⟨h, _⟩ | ⟨kept, hkept, _, h⟩ := topKeeping_cases p n ranked
  · rw [h]
    exact List.take_sublist n ranked
  · rw [h]
    have hparts := (List.dropLast_sublist (ranked.take n)).append
      (List.singleton_sublist.mpr hkept)
    rwa [List.take_append_drop] at hparts

theorem mem_topKeeping_of_mem_take {x : α} (h : x ∈ ranked.take n) :
    x ∈ topKeeping p (n + 1) ranked := by
  obtain ⟨htop, _⟩ | ⟨kept, hkept, _, htop⟩ := topKeeping_cases p (n + 1) ranked
  · rw [htop]
    exact List.take_subset_take_left ranked (Nat.le_succ n) h
  · rw [htop]
    refine List.mem_append_left _ ?_
    have hlong : n + 1 < ranked.length := by
      have hpos := List.length_pos_of_mem hkept
      rw [List.length_drop] at hpos
      omega
    rwa [List.dropLast_take hlong, Nat.add_sub_cancel]

theorem exists_mem_topKeeping (h : ∃ x ∈ ranked, p x = true) :
    ∃ x ∈ topKeeping p n ranked, p x = true := by
  obtain ⟨htop, hseen⟩ | ⟨kept, _, hp, htop⟩ := topKeeping_cases p n ranked
  · rw [htop]
    exact hseen h
  · rw [htop]
    exact ⟨kept, List.mem_append_right _ List.mem_cons_self, hp⟩

theorem topKeeping_eq_nil_iff : topKeeping p (n + 1) ranked = [] ↔ ranked = [] := by
  constructor
  · intro htop
    obtain ⟨h, _⟩ | ⟨kept, _, _, h⟩ := topKeeping_cases p (n + 1) ranked
    · rw [h] at htop
      exact (List.take_eq_nil_iff.mp htop).resolve_left (Nat.succ_ne_zero n)
    · rw [h] at htop
      exact absurd htop (List.append_ne_nil_of_right_ne_nil _ (List.cons_ne_nil _ _))
  · rintro rfl
    exact List.sublist_nil.mp (topKeeping_sublist p (n + 1) [])

/-- In a list where the marked elements come first, few marked ones are all among the first. -/
theorem mem_take_of_countP_le {p : α → Bool} {n : Nat} : ∀ {ranked : List α},
    ranked.Pairwise (fun a b => p b = true → p a = true) → ranked.countP p ≤ n →
    ∀ {x : α}, x ∈ ranked → p x = true → x ∈ ranked.take n
  | [], _, _, _, hx, _ => by cases hx
  | a :: ranked, hsorted, hcount, x, hx, hp => by
    rw [List.pairwise_cons] at hsorted
    have ha : p a = true := by
      rcases List.mem_cons.mp hx with rfl | hx
      · exact hp
      · exact hsorted.1 x hx hp
    rw [List.countP_cons_of_pos ha] at hcount
    obtain ⟨m, rfl⟩ : ∃ m, n = m + 1 := ⟨n - 1, by omega⟩
    rw [List.take_succ_cons]
    rcases List.mem_cons.mp hx with rfl | hx
    · exact List.mem_cons_self
    · exact List.mem_cons_of_mem a
        (mem_take_of_countP_le hsorted.2 (Nat.le_of_succ_le_succ hcount) hx hp)

end LotusManage.Rankings
