import LotusManage.Lib.Dict

/-!
# JSON trees

Values made of scalars, lists and dicts, over any scalars and keys.  A value is observed along a
path of list indices and keys: two values are the same when every path shows the same, and the
order of the members of a dict is not shown.

* `observe_strip`: leaving out members by their key, at every depth, hides exactly the paths
  through such a key.
* `same_strip_iff`: two stripped values are the same exactly when the values agree along the paths
  that are left.
* `plain_list`, `plain_dict`: a value without such a key shows nothing along a hidden path.
* `observe_setMember_of_ne`: setting a member changes nothing beside it.
-/

namespace LotusManage

/-- A value over keys `κ` and scalars `α`. -/
inductive JsonTree (κ α : Type) where
  | scalar (value : α)
  | list (items : List (JsonTree κ α))
  | dict (members : List (κ × JsonTree κ α))

namespace JsonTree

variable {κ α : Type} {exclude : List κ}

/-- One step into a value. -/
inductive Step (κ : Type) where
  | index (i : Nat)
  | key (k : κ)
  deriving DecidableEq

/-- What is seen at the end of a path. -/
inductive Shape (α : Type) where
  | scalar (value : α)
  | list (length : Nat)
  | dict
  deriving DecidableEq

def shape : JsonTree κ α → Shape α
  | scalar value => .scalar value
  | list items => .list items.length
  | dict _ => .dict

/-- A step through a key that is left out. -/
def Step.Hidden (exclude : List κ) : Step κ → Prop
  | .index _ => False
  | .key k => k ∈ exclude

/-- A path through a key that is left out. -/
def HiddenPath (exclude : List κ) (path : List (Step κ)) : Prop :=
  ∃ step ∈ path, step.Hidden exclude

variable {step : Step κ} {value value' inner : JsonTree κ α} {members : List (κ × JsonTree κ α)}

theorem not_hidden_nil : ¬ HiddenPath exclude ([] : List (Step κ)) := by
  intro h
  obtain ⟨_, hmem, _⟩ := h
  cases hmem

theorem hidden_cons_iff {path : List (Step κ)} :
    HiddenPath exclude (step :: path) ↔ step.Hidden exclude ∨ HiddenPath exclude path := by
  unfold HiddenPath
  simp

variable [DecidableEq κ]

/-- The value behind one step. -/
def child : JsonTree κ α → Step κ → Option (JsonTree κ α)
  | list items, .index i => items[i]?
  | dict members, .key k => members.lookup k
  | _, _ => none

/-- What a path shows. -/
def observe (value : JsonTree κ α) : List (Step κ) → Option (Shape α)
  | [] => some value.shape
  | step :: path =>
    match value.child step with
    | some inner => inner.observe path
    | none => none

/-- Every path shows the same. -/
def Same (value value' : JsonTree κ α) : Prop :=
  ∀ path, value.observe path = value'.observe path

theorem Same.refl (value : JsonTree κ α) : Same value value := fun _ => rfl

/-! ## Stripping -/

mutual

/-- `strip_keys(payload, exclude=...)` -/
def strip (exclude : List κ) : JsonTree κ α → JsonTree κ α
  | scalar value => scalar value
  | list items => list (stripItems exclude items)
  | dict members => dict (stripMembers exclude members)

/-- The list of `strip_keys`. -/
def stripItems (exclude : List κ) : List (JsonTree κ α) → List (JsonTree κ α)
  | [] => []
  | item :: items => strip exclude item :: stripItems exclude items

/-- The dict of `strip_keys`. -/
def stripMembers (exclude : List κ) : List (κ × JsonTree κ α) → List (κ × JsonTree κ α)
  | [] => []
  | (key, value) :: members =>
    if key ∈ exclude then stripMembers exclude members
    else (key, strip exclude value) :: stripMembers exclude members

end

theorem getElem?_stripItems (items : List (JsonTree κ α)) (i : Nat) :
    (stripItems exclude items)[i]? = items[i]?.map (strip exclude) := by
  induction items generalizing i with
  | nil => simp [stripItems]
  | cons item items ih =>
    cases i with
    | zero => simp [stripItems]
    | succ i => simpa [stripItems] using ih i

theorem length_stripItems (items : List (JsonTree κ α)) :
    (stripItems exclude items).length = items.length := by
  induction items with
  | nil => rfl
  | cons item items ih => rw [stripItems, List.length_cons, List.length_cons, ih]

theorem lookup_stripMembers (members : List (κ × JsonTree κ α)) (k : κ) :
    (stripMembers exclude members).lookup k =
      if k ∈ exclude then none else (members.lookup k).map (strip exclude) := by
  induction members with
  | nil => simp [stripMembers]
  | cons member members ih =>
    obtain ⟨key, value⟩ := member
    rw [stripMembers]
    by_cases hkey : key ∈ exclude
    · rw [if_pos hkey, ih, Dict.lookup_cons_eq_ite]
      by_cases hk : k ∈ exclude
      · rw [if_pos hk, if_pos hk]
      · have hne : k ≠ key := fun heq => hk (heq ▸ hkey)
        rw [if_neg hk, if_neg hk, if_neg hne]
    · rw [if_neg hkey, Dict.lookup_cons_eq_ite, Dict.lookup_cons_eq_ite, ih]
      by_cases hk : k = key
      · subst hk
        rw [if_pos rfl, if_pos rfl, if_neg hkey]
        rfl
      · rw [if_neg hk, if_neg hk]

instance : DecidablePred (Step.Hidden exclude) := fun step =>
  match step with
  | .index _ => inferInstanceAs (Decidable False)
  | .key k => inferInstanceAs (Decidable (k ∈ exclude))

theorem child_strip (value : JsonTree κ α) (step : Step κ) :
    (strip exclude value).child step =
      if step.Hidden exclude then none else (value.child step).map (strip exclude) := by
  cases value with
  | scalar value =>
    cases step <;> simp [strip, child]
  | list items =>
    cases step with
    | index i =>
      rw [strip, child, child, getElem?_stripItems]
      exact (if_neg (fun h => h)).symm
    | key k => simp [strip, child]
  | dict members =>
    cases step with
    | index i => simp [strip, child]
    | key k =>
      rw [strip, child, child, lookup_stripMembers]
      rfl

theorem shape_strip (value : JsonTree κ α) : (strip exclude value).shape = value.shape := by
  cases value with
  | scalar value => rfl
  | list items =>
    rw [strip, shape, shape, length_stripItems]
  | dict members => rfl

instance (path : List (Step κ)) : Decidable (HiddenPath exclude path) :=
  inferInstanceAs (Decidable (∃ step ∈ path, step.Hidden exclude))

/-- Stripping hides the paths through an excluded key, and no others. -/
theorem observe_strip (value : JsonTree κ α) (path : List (Step κ)) :
    (strip exclude value).observe path =
      if HiddenPath exclude path then none else value.observe path := by
  induction path generalizing value with
  | nil =>
    rw [if_neg not_hidden_nil]
    exact congrArg some (shape_strip value)
  | cons step path ih =>
    rw [observe, observe, child_strip]
    by_cases hstep : step.Hidden exclude
    · rw [if_pos hstep, if_pos (hidden_cons_iff.mpr (Or.inl hstep))]
    · rw [if_neg hstep]
      cases value.child step with
      | none => exact (ite_self none).symm
      | some inner =>
        show (strip exclude inner).observe path = _
        rw [ih]
        by_cases hrest : HiddenPath exclude path
        · rw [if_pos hrest, if_pos (hidden_cons_iff.mpr (Or.inr hrest))]
        · rw [if_neg hrest, if_neg (fun h => (hidden_cons_iff.mp h).elim hstep hrest)]

/-- Two values agree along the paths that stripping leaves. -/
theorem same_strip_iff :
    Same (strip exclude value) (strip exclude value') ↔
      ∀ path, ¬ HiddenPath exclude path → value.observe path = value'.observe path := by
  unfold Same
  refine forall_congr' (fun path => ?_)
  rw [observe_strip, observe_strip]
  by_cases hpath : HiddenPath exclude path
  · rw [if_pos hpath, if_pos hpath]
    exact iff_of_true rfl (fun h => absurd hpath h)
  · rw [if_neg hpath, if_neg hpath]
    exact ⟨fun h _ => h, fun h => h hpath⟩

/-! ## Values without an excluded key -/

/-- Nothing is seen along a hidden path. -/
def Plain (exclude : List κ) (value : JsonTree κ α) : Prop :=
  ∀ path, HiddenPath exclude path → value.observe path = none

theorem observe_cons_of_child (h : value.child step = some inner) (path : List (Step κ)) :
    value.observe (step :: path) = inner.observe path := by
  rw [observe, h]

theorem observe_cons_of_none (h : value.child step = none) (path : List (Step κ)) :
    value.observe (step :: path) = none := by
  rw [observe, h]

/-- A value shows nothing along hidden paths when no excluded key leads into it and its children
show nothing. -/
theorem plain_of_children (hidden : ∀ step : Step κ, step.Hidden exclude → value.child step = none)
    (children : ∀ step inner, value.child step = some inner → Plain exclude inner) :
    Plain exclude value := by
  intro path hpath
  cases path with
  | nil => exact absurd hpath not_hidden_nil
  | cons step path =>
    cases hchild : value.child step with
    | none => exact observe_cons_of_none hchild path
    | some inner =>
      rw [observe_cons_of_child hchild]
      apply children step inner hchild
      apply (hidden_cons_iff.mp hpath).resolve_left
      intro hstep
      rw [hidden step hstep] at hchild
      cases hchild

theorem plain_scalar (value : α) : Plain exclude (scalar value : JsonTree κ α) := by
  apply plain_of_children
  · intro step _
    cases step <;> rfl
  · intro step inner h
    cases step <;> cases h

theorem plain_list {items : List (JsonTree κ α)} (h : ∀ item ∈ items, Plain exclude item) :
    Plain exclude (list items) := by
  apply plain_of_children
  · intro step hstep
    cases step with
    | index i => exact hstep.elim
    | key k => rfl
  · intro step inner hchild
    cases step with
    | index i => exact h inner (List.mem_of_getElem? hchild)
    | key k => cases hchild

theorem mem_of_lookup {k : κ} (h : members.lookup k = some inner) : (k, inner) ∈ members := by
  obtain ⟨before, after, hsplit, _⟩ := List.lookup_eq_some_iff.mp h
  rw [hsplit]
  exact List.mem_append_right before List.mem_cons_self

theorem plain_dict (h : ∀ member ∈ members, member.1 ∉ exclude ∧ Plain exclude member.2) :
    Plain exclude (dict members) := by
  apply plain_of_children
  · intro step hstep
    cases step with
    | index i => rfl
    | key k =>
      apply List.lookup_eq_none_iff.mpr
      intro member hmem
      have hne : k ≠ member.1 := fun heq => (h member hmem).1 (heq ▸ hstep)
      simpa using hne
  · intro step inner hchild
    cases step with
    | index i => cases hchild
    | key k => exact (h _ (mem_of_lookup hchild)).2

/-! ## Setting a member -/

/-- `members[key] = value` -/
def setMember (members : List (κ × JsonTree κ α)) (key : κ) (value : JsonTree κ α) :
    JsonTree κ α :=
  dict (Dict.setItems key value members)

theorem observe_setMember_of_ne (members : List (κ × JsonTree κ α)) {key k : κ}
    (value : JsonTree κ α) (path : List (Step κ)) (h : k ≠ key) :
    (setMember members key value).observe (.key k :: path) =
      (dict members).observe (.key k :: path) := by
  unfold setMember
  rw [observe, observe, child, child, Dict.lookup_setItems, if_neg h]

theorem observe_setMember_self (members : List (κ × JsonTree κ α)) (key : κ)
    (value : JsonTree κ α) (path : List (Step κ)) :
    (setMember members key value).observe (.key key :: path) = value.observe path := by
  unfold setMember
  rw [observe, child, Dict.lookup_setItems, if_pos rfl]

end JsonTree

end LotusManage
