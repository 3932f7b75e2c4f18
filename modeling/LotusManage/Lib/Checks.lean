import Mathlib.Data.List.Forall2

/-!
# Checks that raise

A command is a sequence of checks in `Except`: each raises its error or hands its value on.  When
the whole returns, every check of it has returned, and the proofs take the sequence apart one
check at a time with `bind_eq_ok`.  `Raises` bounds what a sequence can raise by what its checks
can.
-/

namespace LotusManage.Checks

variable {ε α β : Type}

variable {check : Except ε α} {rest : α → Except ε β} {f : β → α → Except ε β} {xs : List α}
  {kind : ε → Prop}

/-- A check and what follows it. -/
theorem bind_eq_ok {value : β} (h : check >>= rest = .ok value) :
    ∃ checked, check = .ok checked ∧ rest checked = .ok value := by
  cases check with
  | error e => cases h
  | ok checked => exact ⟨checked, rfl, h⟩

/-- A loop that raises nothing has a result for every element. -/
theorem forall₂_of_mapM {f : α → Except ε β} :
    ∀ {xs : List α} {ys : List β}, xs.mapM f = .ok ys →
      List.Forall₂ (fun x y => f x = .ok y) xs ys
  | [], ys, h => by
    cases h
    exact .nil
  | x :: xs, ys, h => by
    rw [List.mapM_cons] at h
    obtain ⟨y, hy, h⟩ := bind_eq_ok h
    obtain ⟨ys', hys', h⟩ := bind_eq_ok h
    cases h
    exact .cons hy (forall₂_of_mapM hys')

/-- Loops whose passes agree on the elements of the list. -/
theorem foldlM_congr {g : β → α → Except ε β} {b : β} (h : ∀ b, ∀ x ∈ xs, f b x = g b x) :
    xs.foldlM f b = xs.foldlM g b := by
  induction xs generalizing b with
  | nil => rfl
  | cons x xs ih =>
    rw [List.foldlM_cons, List.foldlM_cons, h b x List.mem_cons_self]
    congr 1
    funext b'
    exact ih fun b x hx => h b x (List.mem_cons_of_mem _ hx)

/-- What every pass of a loop keeps, the loop keeps. -/
theorem foldlM_keeps {f : β → α → Except ε β} (inv : β → Prop)
    (hstep : ∀ b x b', inv b → f b x = .ok b' → inv b') :
    ∀ {xs : List α} {b b' : β}, inv b → xs.foldlM f b = .ok b' → inv b'
  | [], b, b', hinv, h => by
    cases h
    exact hinv
  | x :: xs, b, b', hinv, h => by
    rw [List.foldlM_cons] at h
    obtain ⟨next, hnext, hrest⟩ := bind_eq_ok h
    exact foldlM_keeps inv hstep (hstep b x next hinv hnext) hrest

/-- A loop whose passes all return has a result. -/
theorem exists_foldlM {f : β → α → Except ε β} :
    ∀ {xs : List α}, (∀ b, ∀ x ∈ xs, ∃ b', f b x = .ok b') → ∀ b, ∃ b', xs.foldlM f b = .ok b'
  | [], _, b => ⟨b, rfl⟩
  | x :: xs, h, b => by
    obtain ⟨next, hnext⟩ := h b x List.mem_cons_self
    obtain ⟨b', hrest⟩ := exists_foldlM (fun b y hy => h b y (List.mem_cons_of_mem _ hy)) next
    refine ⟨b', ?_⟩
    rw [List.foldlM_cons, hnext]
    exact hrest

/-- A loop whose passes never fail does what the loop without the checks does. -/
theorem foldlM_eq_some_foldl {f : β → α → Option β} {g : β → α → β} (inv : β → Prop) :
    ∀ {xs : List α}, (∀ b, ∀ x ∈ xs, inv b → f b x = some (g b x) ∧ inv (g b x)) →
      ∀ {b : β}, inv b → xs.foldlM f b = some (xs.foldl g b) ∧ inv (xs.foldl g b)
  | [], _, b, hb => ⟨rfl, hb⟩
  | x :: xs, h, b, hb => by
    obtain ⟨hpass, hkept⟩ := h b x List.mem_cons_self hb
    have hrest := foldlM_eq_some_foldl inv
      (fun b y hy => h b y (List.mem_cons_of_mem _ hy)) hkept
    rw [List.foldlM_cons, hpass]
    exact hrest

/-! ## What is raised -/

/-- Whatever the check raises is of the kind. -/
def Raises (kind : ε → Prop) (check : Except ε α) : Prop := ∀ e, check = .error e → kind e

theorem Raises.ok (value : α) : Raises kind (Except.ok value : Except ε α) := by
  intro e h
  cases h

theorem Raises.error {e : ε} (h : kind e) : Raises kind (Except.error e : Except ε α) := by
  intro e' he
  cases he
  exact h

theorem Raises.mono {kind' : ε → Prop} (h : Raises kind check) (himp : ∀ e, kind e → kind' e) :
    Raises kind' check :=
  fun e he => himp e (h e he)

/-- A check, and what follows it when it returns. -/
theorem Raises.bind (hcheck : Raises kind check)
    (hrest : ∀ value, check = .ok value → Raises kind (rest value)) :
    Raises kind (check >>= rest) := by
  cases check with
  | error e => exact Raises.error (hcheck e rfl)
  | ok value => exact hrest value rfl

/-- A loop over a list, with an invariant of the state that its passes hand on. -/
theorem Raises.foldlM (inv : β → Prop) (hone : ∀ b, ∀ x ∈ xs, inv b → Raises kind (f b x))
    (hstep : ∀ b, ∀ x ∈ xs, ∀ b', inv b → f b x = .ok b' → inv b') {b : β} (hb : inv b) :
    Raises kind (xs.foldlM f b) := by
  induction xs generalizing b with
  | nil => exact Raises.ok b
  | cons x xs ih =>
    rw [List.foldlM_cons]
    refine Raises.bind (hone b x List.mem_cons_self hb) fun b' hb' => ?_
    apply ih
    · exact fun b x hx => hone b x (List.mem_cons_of_mem _ hx)
    · exact fun b x hx => hstep b x (List.mem_cons_of_mem _ hx)
    · exact hstep b x List.mem_cons_self b' hb hb'

/-- A loop that checks every element. -/
theorem Raises.forM {f : α → Except ε PUnit} (h : ∀ x ∈ xs, Raises kind (f x)) :
    Raises kind (forM xs f) := by
  induction xs with
  | nil => exact Raises.ok _
  | cons x xs ih =>
    rw [List.forM_cons]
    refine Raises.bind (h x List.mem_cons_self) fun _ _ => ?_
    exact ih fun x hx => h x (List.mem_cons_of_mem _ hx)

/-- A loop that has checked every element. -/
theorem forM_eq_ok {f : α → Except ε PUnit} {u : PUnit.{1}} (h : forM xs f = .ok u) :
    ∀ x ∈ xs, ∃ u', f x = .ok u' := by
  induction xs with
  | nil => exact fun x hx => absurd hx List.not_mem_nil
  | cons x xs ih =>
    rw [List.forM_cons] at h
    obtain ⟨u', hx, hrest⟩ := bind_eq_ok h
    exact List.forall_mem_cons.mpr ⟨⟨u', hx⟩, ih hrest⟩

end LotusManage.Checks
