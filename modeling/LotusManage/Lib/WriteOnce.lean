import LotusManage.Lib.Dict

/-!
# Write-once dictionaries

A store of evidence only ever adds: a key that has a value keeps it.  `Extends` relates two states of
such a dictionary, `saveImmutable` is the write, which refuses another value under a taken key, and
`Numbered` says of a journal that its entries have the numbers from one on, in the order in which they
came.
-/

namespace LotusManage

namespace Dict

variable {κ ν : Type} [DecidableEq κ]

/-- Every entry of the first dictionary is an entry of the second. -/
def Extends (d d' : Dict κ ν) : Prop :=
  ∀ key value, d.get? key = some value → d'.get? key = some value

variable {d : Dict κ ν} {journal : Dict Nat ν} {last : Nat}

theorem Extends.refl (d : Dict κ ν) : d.Extends d := fun _ _ h => h

theorem Extends.trans {d' d'' : Dict κ ν} (h : d.Extends d') (h' : d'.Extends d'') :
    d.Extends d'' := by
  intro key value hget
  exact h' key value (h key value hget)

theorem extends_set {key : κ} (h : d.get? key = none) (value : ν) :
    d.Extends (d.set key value) := by
  intro other found hget
  rw [get?_set_of_ne d value ?_]
  · exact hget
  · intro heq
    rw [heq, h] at hget
    cases hget

/-- A write under a new key comes last. -/
theorem items_set_of_get?_none {key : κ} (h : d.get? key = none) (value : ν) :
    (d.set key value).items = d.items ++ [(key, value)] := by
  have hitems : ∀ items : List (κ × ν), items.lookup key = none →
      setItems key value items = items ++ [(key, value)] := by
    intro items
    induction items with
    | nil => intro _; rfl
    | cons entry rest ih =>
      intro hnone
      rw [lookup_cons_eq_ite] at hnone
      by_cases hkey : key = entry.1
      · rw [if_pos hkey] at hnone
        cases hnone
      · rw [if_neg hkey] at hnone
        rw [setItems, if_neg (fun heq => hkey heq.symm), ih hnone, List.cons_append]
  exact hitems d.items h

/-! ## Immutable values -/

section Immutable

variable [DecidableEq ν]

/-- The write of a store that never replaces a value: `none` when another one is under the key. -/
def saveImmutable (d : Dict κ ν) (key : κ) (value : ν) : Option (Dict κ ν) :=
  match d.get? key with
  | some existing => if existing = value then some d else none
  | none => some (d.set key value)

/-- What the write does when it is taken: nothing, or the new entry. -/
theorem saveImmutable_cases {d d' : Dict κ ν} {key : κ} {value : ν}
    (h : d.saveImmutable key value = some d') :
    (d.get? key = some value ∧ d' = d) ∨ (d.get? key = none ∧ d' = d.set key value) := by
  unfold saveImmutable at h
  split at h
  · rename_i existing hget
    by_cases hsame : existing = value
    · rw [if_pos hsame] at h
      cases h
      exact Or.inl ⟨by rw [hget, hsame], rfl⟩
    · rw [if_neg hsame] at h
      cases h
  · rename_i hget
    cases h
    exact Or.inr ⟨hget, rfl⟩

end Immutable

/-! ## Journals -/

/-- The entries of a journal have the numbers one to `last`, in their order. -/
def Numbered (journal : Dict Nat ν) (last : Nat) : Prop := journal.keys = List.range' 1 last

theorem numbered_empty : Numbered (empty : Dict Nat ν) 0 := rfl

/-- A number of the journal is one of them. -/
theorem Numbered.mem_keys_iff (h : journal.Numbered last) (number : Nat) :
    number ∈ journal.keys ↔ 1 ≤ number ∧ number ≤ last := by
  rw [h, List.mem_range'_1]
  omega

/-- The next number is free. -/
theorem Numbered.get?_succ (h : journal.Numbered last) : journal.get? (last + 1) = none := by
  rw [get?_eq_none_iff, h.mem_keys_iff]
  omega

/-- One more entry, with the next number. -/
theorem Numbered.set (h : journal.Numbered last) (entry : ν) :
    (journal.set (last + 1) entry).Numbered (last + 1) := by
  show (journal.set (last + 1) entry).items.map Prod.fst = _
  rw [items_set_of_get?_none h.get?_succ, List.map_append, List.range'_concat]
  have hkeys : journal.items.map Prod.fst = List.range' 1 last := h
  rw [hkeys]
  simp [Nat.add_comm]

end Dict

end LotusManage
