import Mathlib.Data.List.Nodup
import Mathlib.Tactic.Tauto

/-!
# Insertion-ordered dictionaries

The `dict` of the modelled language: at most one value for each key, and the keys are iterated in the
order of their first insertion.  A write to a key that is present replaces its value in place; a write
to a new key appends.  The key uniqueness is a field of the structure, so no operation can build a
dictionary that breaks it.

* `get?`, `getD`, `contains`: reads.
* `set`, `update`, `erase`: writes to one key.  `update` is the augmented assignment `d[k] += x`: it
  does nothing when the key is absent.
* `mapWithKey`, `filterMapValues`: loops that visit every entry once.

`get?` is the observation that the lemmas are stated in; the entry order is visible through `items`,
`keys` and `values` only.
-/

namespace LotusManage

/-- A finite map with distinct keys, in insertion order. -/
structure Dict (κ ν : Type) where
  items : List (κ × ν)
  nodup : (items.map Prod.fst).Nodup

namespace Dict

variable {κ ν : Type}

@[ext] theorem ext {d e : Dict κ ν} (h : d.items = e.items) : d = e := by
  cases d; cases e; cases h; rfl

instance [DecidableEq κ] [DecidableEq ν] : DecidableEq (Dict κ ν) := fun d e =>
  decidable_of_iff (d.items = e.items) ⟨Dict.ext, fun h => h ▸ rfl⟩

/-- The empty dictionary. -/
def empty : Dict κ ν := ⟨[], List.nodup_nil⟩

instance : Inhabited (Dict κ ν) := ⟨empty⟩

/-- `d.keys()` -/
def keys (d : Dict κ ν) : List κ := d.items.map Prod.fst

/-- `d.values()` -/
def values (d : Dict κ ν) : List ν := d.items.map Prod.snd

section Reads

variable [DecidableEq κ]

/-- `d.get(k)` -/
def get? (d : Dict κ ν) (k : κ) : Option ν := d.items.lookup k

/-- `d.get(k, default)` -/
def getD (d : Dict κ ν) (k : κ) (default : ν) : ν := (d.get? k).getD default

/-- `k in d` -/
def contains (d : Dict κ ν) (k : κ) : Bool := (d.get? k).isSome

/-- `bool(d)`: whether the dictionary has an entry. -/
def nonempty (d : Dict κ ν) : Bool := !d.items.isEmpty

end Reads

/-! ## Writes -/

section Writes

variable [DecidableEq κ]

/-- The entry list of `d[k] = v`. -/
def setItems (k : κ) (v : ν) : List (κ × ν) → List (κ × ν)
  | [] => [(k, v)]
  | e :: es => if e.1 = k then (k, v) :: es else e :: setItems k v es

theorem mem_keys_setItems (k : κ) (v : ν) (x : κ) :
    ∀ es : List (κ × ν), x ∈ (setItems k v es).map Prod.fst ↔ x = k ∨ x ∈ es.map Prod.fst
  | [] => by simp [setItems]
  | e :: es => by
    rw [setItems]
    split
    · rename_i he
      rw [List.map_cons, List.map_cons, List.mem_cons, List.mem_cons, he]
      tauto
    · rw [List.map_cons, List.map_cons, List.mem_cons, List.mem_cons, mem_keys_setItems k v x es]
      tauto

theorem nodup_setItems (k : κ) (v : ν) :
    ∀ es : List (κ × ν), (es.map Prod.fst).Nodup → ((setItems k v es).map Prod.fst).Nodup
  | [], _ => by simp [setItems]
  | e :: es, h => by
    rw [List.map_cons, List.nodup_cons] at h
    rw [setItems]
    split
    · rename_i he
      rw [List.map_cons, List.nodup_cons, ← he]
      exact h
    · rename_i he
      rw [List.map_cons, List.nodup_cons, mem_keys_setItems]
      refine ⟨?_, nodup_setItems k v es h.2⟩
      rintro (hk | hmem)
      · exact he hk
      · exact h.1 hmem

/-- `d[k] = v` -/
def set (d : Dict κ ν) (k : κ) (v : ν) : Dict κ ν :=
  ⟨setItems k v d.items, nodup_setItems k v d.items d.nodup⟩

/-- `d.pop(k, None)` -/
def erase (d : Dict κ ν) (k : κ) : Dict κ ν :=
  ⟨d.items.filter (fun e => e.1 ≠ k),
    d.nodup.sublist (List.Sublist.map Prod.fst List.filter_sublist)⟩

/-- `{k: v for k, v in entries}`: a later value of a repeated key wins. -/
def ofEntries (entries : List (κ × ν)) : Dict κ ν :=
  entries.foldl (fun d e => d.set e.1 e.2) empty

/-- `{**d, **entries}`: the entries are written over the dictionary, first to last. -/
def merge (d : Dict κ ν) (entries : List (κ × ν)) : Dict κ ν :=
  entries.foldl (fun d e => d.set e.1 e.2) d

/-- `Counter(xs)`: how often each value occurs, in the order of first occurrence. -/
def counter (xs : List κ) : Dict κ Nat :=
  xs.foldl (fun d x => d.set x (d.getD x 0 + 1)) empty

end Writes

/-- `{k: f(k, v) for k, v in d.items()}` -/
def mapWithKeyTo {μ : Type} (d : Dict κ ν) (f : κ → ν → μ) : Dict κ μ :=
  ⟨d.items.map (fun e => (e.1, f e.1 e.2)), by
    have h : (d.items.map (fun e => (e.1, f e.1 e.2))).map Prod.fst = d.items.map Prod.fst := by
      simp [List.map_map, Function.comp_def]
    rw [h]
    exact d.nodup⟩

/-- The loop `for k, v in d.items(): d[k] = f(k, v)`. -/
def mapWithKey (d : Dict κ ν) (f : κ → ν → ν) : Dict κ ν := d.mapWithKeyTo f

/-- `d[k] = f(d[k])` for a key that is present. -/
def update [DecidableEq κ] (d : Dict κ ν) (k : κ) (f : ν → ν) : Dict κ ν :=
  d.mapWithKey (fun k' v => if k' = k then f v else v)

/-- The loop over a copy of the entries that rewrites an entry or pops it. -/
def filterMapValues (d : Dict κ ν) (f : κ → ν → Option ν) : Dict κ ν :=
  ⟨d.items.filterMap (fun e => (f e.1 e.2).map (fun v => (e.1, v))), by
    refine d.nodup.sublist ?_
    rw [List.map_filterMap]
    have h : ∀ es : List (κ × ν),
        (es.filterMap fun e => ((f e.1 e.2).map fun v => (e.1, v)).map Prod.fst).Sublist
          (es.map Prod.fst) := by
      intro es
      induction es with
      | nil => simp
      | cons e es ih =>
        cases he : f e.1 e.2 with
        | none => simpa [he] using ih.cons e.1
        | some v => simpa [he] using ih
    exact h d.items⟩

/-! ## What a read sees -/

section Laws

variable [DecidableEq κ]

variable {x : κ} {d : Dict κ ν} {entries : List (κ × ν)} {v : ν}

@[simp] theorem get?_empty (k : κ) : (empty : Dict κ ν).get? k = none := rfl

theorem lookup_cons_eq_ite (x : κ) (e : κ × ν) (es : List (κ × ν)) :
    (e :: es).lookup x = if x = e.1 then some e.2 else es.lookup x := by
  rw [List.lookup_cons]
  by_cases hx : x = e.1
  · rw [if_pos hx, beq_iff_eq.mpr hx]
  · rw [if_neg hx, beq_false_of_ne hx]

theorem lookup_setItems (k : κ) (v : ν) (x : κ) :
    ∀ es : List (κ × ν), (setItems k v es).lookup x = if x = k then some v else es.lookup x
  | [] => by
    rw [setItems, lookup_cons_eq_ite]
  | e :: es => by
    rw [setItems]
    split
    · rename_i he
      rw [lookup_cons_eq_ite, lookup_cons_eq_ite, he]
      split <;> rfl
    · rename_i he
      rw [lookup_cons_eq_ite, lookup_cons_eq_ite, lookup_setItems k v x es]
      by_cases hx : x = k
      · rw [if_pos hx, if_pos hx, if_neg (fun h => he (h.symm.trans hx))]
      · rw [if_neg hx, if_neg hx]

theorem get?_set (d : Dict κ ν) (k x : κ) (v : ν) :
    (d.set k v).get? x = if x = k then some v else d.get? x :=
  lookup_setItems k v x d.items

@[simp] theorem get?_set_self (d : Dict κ ν) (k : κ) (v : ν) : (d.set k v).get? k = some v := by
  rw [get?_set, if_pos rfl]

theorem get?_set_of_ne (d : Dict κ ν) {k : κ} (v : ν) (h : x ≠ k) :
    (d.set k v).get? x = d.get? x := by
  rw [get?_set, if_neg h]

theorem get?_erase (d : Dict κ ν) (k x : κ) :
    (d.erase k).get? x = if x = k then none else d.get? x := by
  simp only [get?, erase]
  induction d.items with
  | nil => simp
  | cons e es ih =>
    rw [lookup_cons_eq_ite]
    by_cases he : e.1 = k
    · rw [List.filter_cons_of_neg (by simpa using he), ih]
      by_cases hx : x = k
      · rw [if_pos hx, if_pos hx]
      · rw [if_neg hx, if_neg hx, if_neg (fun h => hx (h.trans he))]
    · rw [List.filter_cons_of_pos (by simpa using he), lookup_cons_eq_ite, ih]
      by_cases hx : x = k
      · rw [if_pos hx, if_pos hx, if_neg (fun h => he (h.symm.trans hx))]
      · rw [if_neg hx, if_neg hx]

/-- A fold of pops removes exactly the popped keys. -/
theorem get?_foldl_erase (x : κ) :
    ∀ (keys : List κ) (d : Dict κ ν),
      (keys.foldl (fun d k => d.erase k) d).get? x = if x ∈ keys then none else d.get? x
  | [], d => by simp
  | k :: keys, d => by
    rw [List.foldl_cons, get?_foldl_erase x keys, get?_erase]
    by_cases hx : x = k
    · simp [hx]
    · simp [hx]

theorem lookup_map_snd {μ : Type} (f : κ → ν → μ) (x : κ) :
    ∀ es : List (κ × ν), (es.map (fun e => (e.1, f e.1 e.2))).lookup x = (es.lookup x).map (f x)
  | [] => rfl
  | e :: es => by
    rw [List.map_cons, lookup_cons_eq_ite, lookup_cons_eq_ite, lookup_map_snd f x es]
    split
    · rename_i hx
      rw [hx, Option.map_some]
    · rfl

theorem get?_mapWithKeyTo {μ : Type} (d : Dict κ ν) (f : κ → ν → μ) (x : κ) :
    (d.mapWithKeyTo f).get? x = (d.get? x).map (f x) :=
  lookup_map_snd f x d.items

@[simp] theorem get?_mapWithKey (d : Dict κ ν) (f : κ → ν → ν) (x : κ) :
    (d.mapWithKey f).get? x = (d.get? x).map (f x) :=
  get?_mapWithKeyTo d f x

theorem get?_update (d : Dict κ ν) (k x : κ) (f : ν → ν) :
    (d.update k f).get? x = if x = k then (d.get? x).map f else d.get? x := by
  rw [update, get?_mapWithKey]
  by_cases hx : x = k
  · simp [hx]
  · simp [hx]

omit [DecidableEq κ] in
@[simp] theorem keys_mapWithKey (d : Dict κ ν) (f : κ → ν → ν) :
    (d.mapWithKey f).keys = d.keys := by
  simp [keys, mapWithKey, mapWithKeyTo, List.map_map, Function.comp_def]

@[simp] theorem keys_update (d : Dict κ ν) (k : κ) (f : ν → ν) : (d.update k f).keys = d.keys :=
  keys_mapWithKey d _

theorem lookup_eq_some_iff (k : κ) (v : ν) :
    ∀ {es : List (κ × ν)}, (es.map Prod.fst).Nodup → (es.lookup k = some v ↔ (k, v) ∈ es)
  | [], _ => by simp
  | e :: es, h => by
    rw [List.map_cons, List.nodup_cons] at h
    rw [lookup_cons_eq_ite, List.mem_cons]
    split
    · rename_i hk
      constructor
      · intro hv
        exact Or.inl (Prod.ext hk (Option.some.inj hv).symm)
      · rintro (he | hmem)
        · rw [← he]
        · exact absurd (List.mem_map.mpr ⟨(k, v), hmem, hk⟩) h.1
    · rename_i hk
      rw [lookup_eq_some_iff k v h.2]
      constructor
      · exact Or.inr
      · rintro (he | hmem)
        · exact absurd (congrArg Prod.fst he) hk
        · exact hmem

/-- A read finds exactly the entries. -/
theorem get?_eq_some_iff (d : Dict κ ν) (k : κ) (v : ν) : d.get? k = some v ↔ (k, v) ∈ d.items :=
  lookup_eq_some_iff k v d.nodup

theorem mem_keys_iff (d : Dict κ ν) (k : κ) : k ∈ d.keys ↔ ∃ v, d.get? k = some v := by
  simp only [keys, List.mem_map, get?_eq_some_iff]
  constructor
  · rintro ⟨e, he, rfl⟩
    exact ⟨e.2, he⟩
  · rintro ⟨v, hv⟩
    exact ⟨(k, v), hv, rfl⟩

theorem get?_eq_none_iff (d : Dict κ ν) (k : κ) : d.get? k = none ↔ k ∉ d.keys := by
  rw [mem_keys_iff, Option.eq_none_iff_forall_ne_some]
  simp

theorem mem_values_iff (d : Dict κ ν) (v : ν) : v ∈ d.values ↔ ∃ k, d.get? k = some v := by
  simp only [values, List.mem_map, get?_eq_some_iff]
  constructor
  · rintro ⟨e, he, rfl⟩
    exact ⟨e.1, he⟩
  · rintro ⟨k, hk⟩
    exact ⟨(k, v), hk, rfl⟩

theorem contains_eq_true_iff (d : Dict κ ν) (k : κ) : d.contains k = true ↔ k ∈ d.keys := by
  rw [contains, Option.isSome_iff_exists, mem_keys_iff]

theorem mem_keys_set (d : Dict κ ν) (k x : κ) (v : ν) : x ∈ (d.set k v).keys ↔ x = k ∨ x ∈ d.keys :=
  mem_keys_setItems k v x d.items

theorem mem_keys_foldl_set (x : κ) :
    ∀ (entries : List (κ × ν)) (d : Dict κ ν),
      x ∈ (entries.foldl (fun d e => d.set e.1 e.2) d).keys ↔ x ∈ d.keys ∨ x ∈ entries.map Prod.fst
  | [], d => by simp
  | e :: entries, d => by
    rw [List.foldl_cons, mem_keys_foldl_set x entries, mem_keys_set, List.map_cons, List.mem_cons]
    tauto

/-- The keys of a dictionary comprehension are the keys of its entries. -/
theorem mem_keys_ofEntries (entries : List (κ × ν)) (x : κ) :
    x ∈ (ofEntries entries).keys ↔ x ∈ entries.map Prod.fst := by
  rw [ofEntries, mem_keys_foldl_set]
  simp [keys, empty]

theorem mem_of_get?_foldl_set {x : κ} {v : ν} :
    ∀ (entries : List (κ × ν)) (d : Dict κ ν),
      (entries.foldl (fun d e => d.set e.1 e.2) d).get? x = some v →
      d.get? x = some v ∨ (x, v) ∈ entries
  | [], d, h => Or.inl h
  | e :: entries, d, h => by
    rw [List.foldl_cons] at h
    rcases mem_of_get?_foldl_set entries _ h with hset | hmem
    · rw [get?_set] at hset
      split at hset
      · rename_i hx
        cases hset
        rw [hx]
        exact Or.inr List.mem_cons_self
      · exact Or.inl hset
    · exact Or.inr (List.mem_cons_of_mem _ hmem)

/-- A read after a sequence of writes sees the old value or one of the written ones. -/
theorem get?_foldl_set_cases (x : κ) :
    ∀ (entries : List (κ × ν)) (d : Dict κ ν),
      (entries.foldl (fun d e => d.set e.1 e.2) d).get? x = d.get? x ∨
        ∃ v, (x, v) ∈ entries ∧ (entries.foldl (fun d e => d.set e.1 e.2) d).get? x = some v
  | [], d => Or.inl rfl
  | e :: entries, d => by
    rw [List.foldl_cons]
    rcases get?_foldl_set_cases x entries (d.set e.1 e.2) with hsame | ⟨v, hmem, hv⟩
    · rw [hsame, get?_set]
      split
      · rename_i hx
        rw [hx]
        exact Or.inr ⟨e.2, List.mem_cons_self, rfl⟩
      · exact Or.inl rfl
    · exact Or.inr ⟨v, List.mem_cons_of_mem e hmem, hv⟩

/-- A merge keeps the keys it does not write. -/
theorem get?_merge_of_forall_ne (h : ∀ e ∈ entries, e.1 ≠ x) :
    (d.merge entries).get? x = d.get? x := by
  rcases get?_foldl_set_cases x entries d with hsame | ⟨v, hmem, _⟩
  · exact hsame
  · exact absurd rfl (h (x, v) hmem)

/-- A value of a dictionary comprehension comes from one of its entries. -/
theorem mem_of_get?_ofEntries (h : (ofEntries entries).get? x = some v) : (x, v) ∈ entries := by
  rcases mem_of_get?_foldl_set entries empty h with hempty | hmem
  · rw [get?_empty] at hempty
    cases hempty
  · exact hmem

theorem get?_foldl_set (x : κ) {v : ν} :
    ∀ (entries : List (κ × ν)) (d : Dict κ ν), (∀ e ∈ entries, e.1 = x → e.2 = v) →
      (x ∉ entries.map Prod.fst → d.get? x = some v) →
      (entries.foldl (fun d e => d.set e.1 e.2) d).get? x = some v
  | [], d, _, hnone => by
    rw [List.foldl_nil]
    exact hnone (by simp)
  | e :: entries, d, hval, hnone => by
    rw [List.foldl_cons]
    refine get?_foldl_set x entries _ (fun e' hmem => hval e' (List.mem_cons_of_mem _ hmem)) ?_
    intro hrest
    rw [get?_set]
    split
    · rename_i hx
      rw [hval e List.mem_cons_self hx.symm]
    · rename_i hx
      refine hnone ?_
      rw [List.map_cons, List.mem_cons, not_or]
      exact ⟨hx, hrest⟩

/-- A key whose entries all carry one value reads that value. -/
theorem get?_ofEntries_of_forall (hmem : x ∈ entries.map Prod.fst)
    (hval : ∀ e ∈ entries, e.1 = x → e.2 = v) : (ofEntries entries).get? x = some v :=
  get?_foldl_set x entries empty hval (fun hrest => absurd hmem hrest)

theorem setItems_eq_self {k : κ} {v : ν} :
    ∀ {es : List (κ × ν)}, es.lookup k = some v → setItems k v es = es
  | [], h => by cases h
  | e :: es, h => by
    rw [lookup_cons_eq_ite] at h
    rw [setItems]
    split
    · rename_i he
      rw [if_pos he.symm] at h
      cases h
      rw [← he]
    · rename_i he
      rw [if_neg (fun hk => he hk.symm)] at h
      rw [setItems_eq_self h]

/-- Writing a value that is there already changes nothing. -/
theorem set_eq_self {k : κ} (h : d.get? k = some v) : d.set k v = d := by
  cases d
  exact (Dict.mk.injEq ..).mpr (setItems_eq_self h)

theorem foldl_set_eq_self :
    ∀ {entries : List (κ × ν)} {d : Dict κ ν}, (∀ e ∈ entries, d.get? e.1 = some e.2) →
      entries.foldl (fun d e => d.set e.1 e.2) d = d
  | [], _, _ => rfl
  | e :: entries, d, h => by
    rw [List.foldl_cons, set_eq_self (h e List.mem_cons_self)]
    exact foldl_set_eq_self (fun e' he' => h e' (List.mem_cons_of_mem e he'))

/-- Merging the same entries again changes nothing. -/
theorem merge_merge_self (hnodup : (entries.map Prod.fst).Nodup) (d : Dict κ ν) :
    (d.merge entries).merge entries = d.merge entries := by
  refine foldl_set_eq_self ?_
  intro e he
  refine get?_foldl_set e.1 entries d ?_ ?_
  · intro e' he' hkey
    exact congrArg Prod.snd (List.inj_on_of_nodup_map hnodup he' he hkey)
  · intro hnot
    exact absurd (List.mem_map_of_mem he) hnot

theorem get?_filterMapValues (d : Dict κ ν) (f : κ → ν → Option ν) (x : κ) :
    (d.filterMapValues f).get? x = (d.get? x).bind (f x) := by
  have h : ∀ v, (d.filterMapValues f).get? x = some v ↔ (d.get? x).bind (f x) = some v := by
    intro v
    rw [get?_eq_some_iff, Option.bind_eq_some_iff]
    simp only [filterMapValues, List.mem_filterMap, Option.map_eq_some_iff, Prod.mk.injEq,
      get?_eq_some_iff]
    constructor
    · rintro ⟨e, he, w, hw, rfl, rfl⟩
      exact ⟨e.2, he, hw⟩
    · rintro ⟨w, hw, hv⟩
      exact ⟨(x, w), hw, v, hv, rfl, rfl⟩
  exact Option.ext h

/-- Two dictionaries that agree on the selected entries list the same selected entries, up to
their order. -/
theorem filter_items_perm {d' : Dict κ ν} (p : κ × ν → Bool)
    (h : ∀ k v, p (k, v) = true → (d.get? k = some v ↔ d'.get? k = some v)) :
    (d.items.filter p).Perm (d'.items.filter p) := by
  have hnodup : ∀ d : Dict κ ν, (d.items.filter p).Nodup := fun d =>
    (List.Nodup.of_map Prod.fst d.nodup).filter _
  rw [List.perm_ext_iff_of_nodup (hnodup d) (hnodup d')]
  rintro ⟨k, v⟩
  simp only [List.mem_filter, ← get?_eq_some_iff]
  constructor
  · rintro ⟨hget, hp⟩
    exact ⟨(h k v hp).mp hget, hp⟩
  · rintro ⟨hget, hp⟩
    exact ⟨(h k v hp).mpr hget, hp⟩

end Laws

end Dict

end LotusManage
