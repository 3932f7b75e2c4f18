import Mathlib.Data.List.Chain
import Mathlib.Logic.Relation

/-!
# Chains of successors

A record may name its successor, and a record without one is live.  `Leads` is a chain from a
key to a live key that visits no key twice, and `Reaches` is reachability along the successors.

`Leads.redirect` is the step of every proof that the chains stay finite: a live key that is
given a successor becomes a link, and every chain that ended in it goes on along the chain of
the successor, as long as that chain does not come back.

A path of a relation is a `List.IsChain`.  Where every element relates to at most one and the last
to none, a path visits nothing twice (`nodup_of_unique_next`).
-/

namespace LotusManage.Chains

variable {κ : Type} {next next' : κ → Option κ} {live live' : κ → Prop}

/-- The second key is reached from the first along the successors. -/
def Reaches (next : κ → Option κ) (a b : κ) : Prop :=
  Relation.ReflTransGen (fun x y => next x = some y) a b

/-- The keys of a chain from a key to a live key, without repetition. -/
inductive Leads (next : κ → Option κ) (live : κ → Prop) : κ → List κ → Prop where
  | here {k : κ} (hlive : live k) : Leads next live k [k]
  | link {k k' : κ} {path : List κ} (hnext : next k = some k') (hpath : Leads next live k' path)
      (hfresh : k ∉ path) : Leads next live k (k :: path)

variable {k : κ} {path : List κ}

theorem Leads.nodup (h : Leads next live k path) : path.Nodup := by
  induction h with
  | here => exact List.pairwise_singleton _ _
  | link _ _ hfresh ih => exact List.nodup_cons.mpr ⟨hfresh, ih⟩

/-- Every key of a chain is reached from its start. -/
theorem Leads.reaches (h : Leads next live k path) : ∀ x ∈ path, Reaches next k x := by
  induction h with
  | here =>
    intro x hx
    rw [List.mem_singleton.mp hx]
    exact .refl
  | link hnext _ _ ih =>
    intro x hx
    obtain rfl | hx := List.mem_cons.mp hx
    · exact .refl
    · exact .head hnext (ih x hx)

/-- A chain stays one when its links stay and live keys stay live. -/
theorem Leads.mono (h : Leads next live k path)
    (hnext : ∀ x ∈ path, ∀ y, next x = some y → next' x = some y)
    (hlive : ∀ x ∈ path, live x → live' x) : Leads next' live' k path := by
  induction h with
  | here hk => exact .here (hlive _ List.mem_cons_self hk)
  | link hlink _ hfresh ih =>
    refine .link (hnext _ List.mem_cons_self _ hlink) (ih ?_ ?_) hfresh
    · exact fun x hx => hnext x (List.mem_cons_of_mem _ hx)
    · exact fun x hx => hlive x (List.mem_cons_of_mem _ hx)

/-- No chain starts in a set of keys that the successors do not leave and in which no key is
live. -/
theorem not_leads_of_closed (dead : κ → Prop) (hnext : ∀ x y, dead x → next x = some y → dead y)
    (hlive : ∀ x, dead x → ¬ live x) (hk : dead k) : ¬ Leads next live k path := by
  intro h
  induction h with
  | here hlivek => exact hlive _ hk hlivek
  | link hlink _ _ ih => exact ih (hnext _ _ hk hlink)

/-- A live key `v` is given the successor `r`.  When the chain of `r` does not reach `v`, every
key that led to a live key still does. -/
theorem Leads.redirect {v r : κ} (hv : next v = none) (hv' : next' v = some r)
    (hnext : ∀ x, x ≠ v → next' x = next x) (hlive : ∀ x, x ≠ v → live x → live' x)
    (havoid : ¬ Reaches next r v) {rpath : List κ} (hr : Leads next live r rpath)
    (h : Leads next live k path) : ∃ path', Leads next' live' k path' := by
  have hvr : v ∉ rpath := fun hmem => havoid (hr.reaches v hmem)
  have hkeep : ∀ {x : κ} {xs : List κ}, Leads next live x xs → v ∉ xs →
      Leads next' live' x xs := by
    intro x xs hx hvx
    refine hx.mono ?_ ?_
    · intro y hy z hyz
      rw [hnext y (fun hyv => hvx (hyv ▸ hy))]
      exact hyz
    · exact fun y hy => hlive y (fun hyv => hvx (hyv ▸ hy))
  -- a chain that ends in `v` goes on along the chain of `r`
  have hcases : (v ∉ path) ∨ (Leads next' live' k (path ++ rpath) ∧ Reaches next k v) := by
    induction h with
    | @here k hk =>
      by_cases hkv : k = v
      · subst hkv
        exact .inr ⟨.link hv' (hkeep hr hvr) hvr, .refl⟩
      · exact .inl (fun hmem => hkv (List.mem_singleton.mp hmem).symm)
    | @link k k' path hlink _ hfresh ih =>
      have hkv : k ≠ v := by
        rintro rfl
        rw [hv] at hlink
        cases hlink
      obtain hmiss | ⟨hleads, hreaches⟩ := ih
      · refine .inl ?_
        intro hmem
        obtain rfl | hmem := List.mem_cons.mp hmem
        · exact hkv rfl
        · exact hmiss hmem
      · have hkreaches : Reaches next k v := .head hlink hreaches
        refine .inr ⟨.link ((hnext k hkv).trans hlink) hleads ?_, hkreaches⟩
        intro hmem
        obtain hmem | hmem := List.mem_append.mp hmem
        · exact hfresh hmem
        · exact havoid ((hr.reaches k hmem).trans hkreaches)
  obtain hmiss | ⟨hleads, _⟩ := hcases
  · exact ⟨path, hkeep h hmiss⟩
  · exact ⟨path ++ rpath, hleads⟩

/-! ## Paths -/

section Paths

variable {α : Type} {R : α → α → Prop} {path : List α}

/-- The only element that one of the path relates to comes after it. -/
theorem mem_tail_of_next (hnext : ∀ a b c, R a b → R a c → b = c)
    (hend : ∀ x, path.getLast? = some x → ∀ y, ¬ R x y) (hpath : path.IsChain R) {x y : α}
    (hx : x ∈ path) (hxy : R x y) : y ∈ path.tail := by
  induction path with
  | nil => cases hx
  | cons a rest ih =>
    cases rest with
    | nil =>
      obtain rfl := List.mem_singleton.mp hx
      exact absurd hxy (hend x rfl y)
    | cons b rest =>
      rw [List.isChain_cons_cons] at hpath
      obtain rfl | hx := List.mem_cons.mp hx
      · rw [hnext x y b hxy hpath.1]
        exact List.mem_cons_self
      · rw [List.getLast?_cons_cons] at hend
        exact List.mem_of_mem_tail (ih hend hpath.2 hx)

/-- A path along a relation to at most one element that ends where it relates to none visits nothing
twice. -/
theorem nodup_of_unique_next (hnext : ∀ a b c, R a b → R a c → b = c)
    (hend : ∀ x, path.getLast? = some x → ∀ y, ¬ R x y) (hpath : path.IsChain R) :
    path.Nodup := by
  induction path with
  | nil => exact List.nodup_nil
  | cons a rest ih =>
    cases rest with
    | nil => exact List.pairwise_singleton _ _
    | cons b rest =>
      rw [List.isChain_cons_cons] at hpath
      rw [List.getLast?_cons_cons] at hend
      have hrest := ih hend hpath.2
      rw [List.nodup_cons]
      refine ⟨?_, hrest⟩
      -- were `a` on the rest of the path, `b` would come after itself
      intro ha
      have hb : b ∈ rest := mem_tail_of_next hnext hend hpath.2 ha hpath.1
      exact (List.nodup_cons.mp hrest).1 hb

/-- What comes later on a path has an element just before it that relates to it. -/
theorem exists_before {a x : α} (hpath : (a :: path).IsChain R) (hx : x ∈ path) :
    ∃ before b after, a :: path = before ++ b :: x :: after ∧ R b x := by
  induction path generalizing a with
  | nil => cases hx
  | cons b rest ih =>
    rw [List.isChain_cons_cons] at hpath
    obtain rfl | hx := List.mem_cons.mp hx
    · exact ⟨[], a, rest, rfl, hpath.1⟩
    · obtain ⟨before, b', after, heq, hrel⟩ := ih hpath.2 hx
      exact ⟨a :: before, b', after, by rw [heq, List.cons_append], hrel⟩

end Paths

end LotusManage.Chains
