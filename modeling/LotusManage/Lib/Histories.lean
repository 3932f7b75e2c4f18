import Mathlib.Data.List.Induction

/-!
# Histories

A history is a list that only grows at its end.  `Each` says of every entry how it stands to
the entries before it: that it was accepted after them, that it is legal after them, that it is
new among them.  `each_concat_iff` is the step of every proof about a history.
-/

namespace LotusManage.Histories

variable {α : Type}

/-- Every entry stands to the entries before it as the condition says. -/
def Each (cond : List α → α → Prop) (history : List α) : Prop :=
  ∀ past entry rest, history = past ++ entry :: rest → cond past entry

variable {cond : List α → α → Prop} {history : List α} {entry : α}

@[simp] theorem each_nil : Each cond [] := by
  intro past entry rest hsplit
  cases past <;> cases hsplit

/-- One more entry. -/
theorem each_concat_iff : Each cond (history ++ [entry]) ↔
    Each cond history ∧ cond history entry := by
  constructor
  · intro h
    refine ⟨?_, h history entry [] rfl⟩
    intro past earlier rest hsplit
    refine h past earlier (rest ++ [entry]) ?_
    rw [hsplit, List.append_assoc]
    rfl
  · rintro ⟨hpast, hlast⟩ past earlier rest hsplit
    rcases List.eq_nil_or_concat rest with rfl | ⟨rest', last, rfl⟩
    · obtain ⟨rfl, heq⟩ := List.append_inj' hsplit rfl
      cases heq
      exact hlast
    · rw [List.concat_eq_append, ← List.cons_append, ← List.append_assoc] at hsplit
      obtain ⟨hsame, _⟩ := List.append_inj' hsplit rfl
      exact hpast past earlier rest' hsame

/-- The condition holds of every earlier history. -/
theorem Each.of_append {more : List α} (h : Each cond (history ++ more)) : Each cond history := by
  intro past earlier rest hsplit
  refine h past earlier (rest ++ more) ?_
  rw [hsplit, List.append_assoc]
  rfl

/-- A history whose entries are new among those before them has no entry twice. -/
theorem nodup_map_of_each {β : Type} {f : α → β}
    (h : Each (fun past entry => f entry ∉ past.map f) history) : (history.map f).Nodup := by
  induction history using List.reverseRecOn with
  | nil => exact List.nodup_nil
  | append_singleton past last ih =>
    obtain ⟨hpast, hlast⟩ := each_concat_iff.mp h
    rw [List.map_append, List.nodup_append]
    refine ⟨ih hpast, List.pairwise_singleton _ _, ?_⟩
    rintro a ha b hb rfl
    rw [List.map_singleton, List.mem_singleton] at hb
    exact hlast (hb ▸ ha)

end LotusManage.Histories
