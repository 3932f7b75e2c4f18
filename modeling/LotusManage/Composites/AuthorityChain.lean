import LotusManage.Composites.StoreIntegrity
import LotusManage.Lib.Chains
import Mathlib.Data.List.Range

/-!
# The monthly authority is the tip of a chain

`selected_monthly_approval` reads the retained approvals of a month as a graph: each amendment points at
its predecessor.  It counts roots, hashes and children, and then walks from the root.  Together these
checks say that the approvals are one chain (`selectedMonthlyApproval_iff_chain`).
-/

namespace LotusManage.Composites

variable (hashing : Hashing)

/-- The item is an amendment of the predecessor, and claims the root. -/
def Amends (root : EvaluationBinding) (predecessor item : MonthlyApproval) : Prop :=
  ∃ claims, item.proposal.amendment = some claims ∧
    claims.predecessorApprovalBinding = approvalBinding hashing predecessor ∧
    claims.originalApprovalBinding = root

/-- A simple chain: a root, and amendments that each name the one before and all name the root. -/
structure AuthorityChain (root : MonthlyApproval) (rest : List MonthlyApproval) : Prop where
  ordinary : root.amends = false
  links : (root :: rest).IsChain (Amends hashing (approvalBinding hashing root))
  simple : (root :: rest).Nodup

variable {hashing}

variable {root : EvaluationBinding} {predecessor item current last : MonthlyApproval}
  {approvals done todo previous rest : List MonthlyApproval}
  {children children' : Dict String MonthlyApproval} {scope : DefinitionKey}

variable (amendments : Nat)

theorem Amends.amends (h : Amends hashing root predecessor item) : item.amends = true := by
  obtain ⟨claims, hclaims, _, _⟩ := h
  unfold MonthlyApproval.amends
  rw [hclaims, Option.isSome_some]

theorem Amends.same_hash {root' : EvaluationBinding} {predecessor' : MonthlyApproval}
    (h : Amends hashing root predecessor item) (h' : Amends hashing root' predecessor' item) :
    hashing.approval predecessor = hashing.approval predecessor' := by
  obtain ⟨claims, hclaims, hpredecessor, _⟩ := h
  obtain ⟨claims', hclaims', hpredecessor', _⟩ := h'
  rw [hclaims] at hclaims'
  cases hclaims'
  rw [hpredecessor] at hpredecessor'
  exact congrArg EvaluationBinding.digest hpredecessor'

/-- Different approvals of the list have different hashes. -/
def DistinctHashes (hashing : Hashing) (approvals : List MonthlyApproval) : Prop :=
  (approvals.map hashing.approval).Nodup

theorem DistinctHashes.inj (h : DistinctHashes hashing approvals) {item' : MonthlyApproval}
    (hitem : item ∈ approvals) (hitem' : item' ∈ approvals)
    (heq : hashing.approval item = hashing.approval item') : item = item' :=
  List.inj_on_of_nodup_map h hitem hitem' heq

/-! ## The records by their hash -/

/-- `by_hash` -/
def byHash (hashing : Hashing) (approvals : List MonthlyApproval) : Dict String MonthlyApproval :=
  Dict.ofEntries (approvals.map (fun item => (hashing.approval item, item)))

theorem map_fst_entries (approvals : List MonthlyApproval) :
    (approvals.map (fun item => (hashing.approval item, item))).map Prod.fst =
      approvals.map hashing.approval := by
  rw [List.map_map]
  rfl

theorem length_byHash_iff (approvals : List MonthlyApproval) :
    (byHash hashing approvals).keys.length = approvals.length ↔ DistinctHashes hashing approvals := by
  have hkeys : ∀ key, key ∈ (byHash hashing approvals).keys ↔ key ∈ approvals.map hashing.approval := by
    intro key
    unfold byHash
    rw [Dict.mem_keys_ofEntries, map_fst_entries]
  have hnodup : (byHash hashing approvals).keys.Nodup := (byHash hashing approvals).nodup
  constructor
  · intro hlength
    have hsub := List.subperm_of_subset hnodup (fun key hkey => (hkeys key).mp hkey)
    have hperm := hsub.perm_of_length_le (by rw [List.length_map, hlength])
    exact hperm.nodup hnodup
  · intro hdistinct
    have hperm := (List.perm_ext_iff_of_nodup hnodup hdistinct).mpr hkeys
    rw [hperm.length_eq, List.length_map]

theorem get?_byHash {hash : String} (h : (byHash hashing approvals).get? hash = some item) :
    item ∈ approvals ∧ hashing.approval item = hash := by
  have hmem := Dict.mem_of_get?_ofEntries h
  obtain ⟨item', hitem', heq⟩ := List.mem_map.mp hmem
  cases heq
  exact ⟨hitem', rfl⟩

theorem get?_byHash_of_mem (hdistinct : DistinctHashes hashing approvals) (hitem : item ∈ approvals) :
    (byHash hashing approvals).get? (hashing.approval item) = some item := by
  apply Dict.get?_ofEntries_of_forall
  · rw [map_fst_entries]
    exact List.mem_map_of_mem hitem
  · intro entry hentry hkey
    obtain ⟨item', hitem', rfl⟩ := List.mem_map.mp hentry
    exact hdistinct.inj hitem' hitem hkey

/-! ## The children -/

/-- The loop of `_validated_children` has gone through these approvals. -/
structure Validated (hashing : Hashing) (approvals : List MonthlyApproval) (root : EvaluationBinding)
    (done : List MonthlyApproval) (children : Dict String MonthlyApproval) : Prop where
  linked : ∀ item ∈ done, item.amends = true →
    ∃ predecessor ∈ approvals, Amends hashing root predecessor item
  children : ∀ hash item, children.get? hash = some item ↔ item ∈ done ∧
    ∃ predecessor ∈ approvals, Amends hashing root predecessor item ∧
      hashing.approval predecessor = hash

theorem Validated.start : Validated hashing approvals root [] Dict.empty where
  linked := fun item hitem => absurd hitem List.not_mem_nil
  children := by
    intro hash item
    rw [Dict.get?_empty]
    simp

theorem validatedChild_root {dict : Dict String MonthlyApproval} (h : item.amends = false) :
    validatedChild hashing dict root children item = .ok children := by
  have hnone := Option.isNone_iff_eq_none.mp (Option.isSome_eq_false_iff.mp h)
  unfold validatedChild
  rw [hnone]

theorem validatedChild_eq_ok_iff (hdistinct : DistinctHashes hashing approvals)
    (h : item.amends = true) :
    validatedChild hashing (byHash hashing approvals) root children item = .ok children' ↔
      ∃ predecessor ∈ approvals, Amends hashing root predecessor item ∧
        children.get? (hashing.approval predecessor) = none ∧
        children' = children.set (hashing.approval predecessor) item := by
  obtain ⟨claims, hclaims⟩ := Option.isSome_iff_exists.mp h
  unfold validatedChild
  rw [hclaims]
  dsimp only
  constructor
  · intro hok
    cases hget : (byHash hashing approvals).get? claims.predecessorApprovalBinding.digest with
    | none =>
      rw [hget] at hok
      cases hok
    | some predecessor =>
      rw [hget] at hok
      dsimp only at hok
      split at hok
      · cases hok
      · rename_i hbinding
        split at hok
        · cases hok
        · rename_i horiginal
          split at hok
          · cases hok
          · rename_i hfork
            cases hok
            refine ⟨predecessor, (get?_byHash hget).1, ⟨claims, hclaims, ?_, ?_⟩, ?_, rfl⟩
            · exact (not_not.mp hbinding).symm
            · exact not_not.mp horiginal
            · simpa [Dict.contains] using hfork
  · intro hok
    obtain ⟨predecessor, hmem, ⟨claims', hclaims', hbinding, horiginal⟩, hnew, rfl⟩ := hok
    rw [hclaims] at hclaims'
    cases hclaims'
    have hget : (byHash hashing approvals).get? claims.predecessorApprovalBinding.digest =
        some predecessor := by
      rw [hbinding]
      exact get?_byHash_of_mem hdistinct hmem
    rw [hget]
    dsimp only
    rw [if_neg (not_not.mpr hbinding.symm), if_neg (not_not.mpr horiginal), if_neg]
    unfold Dict.contains
    rw [hnew]
    simp

theorem Validated.skip (h : Validated hashing approvals root done children)
    (hitem : item.amends = false) :
    Validated hashing approvals root (done ++ [item]) children where
  linked := by
    intro item' hitem' hamends
    cases List.mem_append.mp hitem' with
    | inl hdone => exact h.linked item' hdone hamends
    | inr hlast =>
      rw [List.mem_singleton.mp hlast, hitem] at hamends
      cases hamends
  children := by
    intro hash item'
    rw [h.children hash item']
    constructor
    · intro hchild
      exact ⟨List.mem_append_left _ hchild.1, hchild.2⟩
    · intro hchild
      obtain ⟨hitem', predecessor, hpredecessor, hamends, hhash⟩ := hchild
      cases List.mem_append.mp hitem' with
      | inl hdone => exact ⟨hdone, predecessor, hpredecessor, hamends, hhash⟩
      | inr hlast =>
        rw [List.mem_singleton.mp hlast] at hamends
        rw [hamends.amends] at hitem
        cases hitem

theorem Validated.step (h : Validated hashing approvals root done children)
    (hpredecessor : predecessor ∈ approvals) (hamends : Amends hashing root predecessor item)
    (hnew : children.get? (hashing.approval predecessor) = none) :
    Validated hashing approvals root (done ++ [item])
      (children.set (hashing.approval predecessor) item) where
  linked := by
    intro item' hitem' hamends'
    cases List.mem_append.mp hitem' with
    | inl hdone => exact h.linked item' hdone hamends'
    | inr hlast =>
      rw [List.mem_singleton.mp hlast]
      exact ⟨predecessor, hpredecessor, hamends⟩
  children := by
    intro hash item'
    rw [Dict.get?_set]
    by_cases hhash : hash = hashing.approval predecessor
    · rw [if_pos hhash]
      constructor
      · intro heq
        obtain rfl := Option.some.inj heq
        exact ⟨List.mem_append_right _ (List.mem_singleton_self _),
          predecessor, hpredecessor, hamends, hhash.symm⟩
      · intro hchild
        obtain ⟨hitem', hlink⟩ := hchild
        cases List.mem_append.mp hitem' with
        | inl hdone =>
          have hget := (h.children hash item').mpr ⟨hdone, hlink⟩
          rw [hhash, hnew] at hget
          cases hget
        | inr hlast => rw [List.mem_singleton.mp hlast]
    · rw [if_neg hhash, h.children hash item']
      constructor
      · intro hchild
        exact ⟨List.mem_append_left _ hchild.1, hchild.2⟩
      · intro hchild
        obtain ⟨hitem', hlink⟩ := hchild
        cases List.mem_append.mp hitem' with
        | inl hdone => exact ⟨hdone, hlink⟩
        | inr hlast =>
          obtain ⟨predecessor', _, hamends', hhash'⟩ := hlink
          rw [List.mem_singleton.mp hlast] at hamends'
          exact absurd (hhash'.symm.trans (hamends'.same_hash hamends)) hhash

theorem Validated.run (hdistinct : DistinctHashes hashing approvals)
    (h : Validated hashing approvals root done children)
    (hok : todo.foldlM (validatedChild hashing (byHash hashing approvals) root) children =
      .ok children') : Validated hashing approvals root (done ++ todo) children' := by
  induction todo generalizing done children with
  | nil =>
    cases hok
    rw [List.append_nil]
    exact h
  | cons item todo ih =>
    rw [List.foldlM_cons] at hok
    obtain ⟨next, hnext, hok⟩ := Checks.bind_eq_ok hok
    rw [List.append_cons]
    apply ih _ hok
    cases hitem : item.amends with
    | false =>
      rw [validatedChild_root hitem] at hnext
      cases hnext
      exact h.skip hitem
    | true =>
      obtain ⟨predecessor, hpredecessor, hamends, hnew, rfl⟩ :=
        (validatedChild_eq_ok_iff hdistinct hitem).mp hnext
      exact h.step hpredecessor hamends hnew

theorem Validated.run_exists (hdistinct : DistinctHashes hashing approvals)
    (hall : approvals = done ++ todo) (hlinked : ∀ item ∈ approvals, item.amends = true →
      ∃ predecessor ∈ approvals, Amends hashing root predecessor item)
    (hfork : ∀ predecessor ∈ approvals, ∀ item ∈ approvals, ∀ item' ∈ approvals,
      Amends hashing root predecessor item → Amends hashing root predecessor item' → item = item')
    (h : Validated hashing approvals root done children) :
    ∃ children',
      todo.foldlM (validatedChild hashing (byHash hashing approvals) root) children =
        .ok children' := by
  induction todo generalizing done children with
  | nil => exact ⟨children, rfl⟩
  | cons item todo ih =>
    rw [List.foldlM_cons]
    have hrest := hall.trans (List.append_cons done item todo)
    have hmem : item ∈ approvals := by
      rw [hall]
      exact List.mem_append_right _ List.mem_cons_self
    cases hitem : item.amends with
    | false =>
      rw [validatedChild_root hitem]
      exact ih hrest (h.skip hitem)
    | true =>
      obtain ⟨predecessor, hpredecessor, hamends⟩ := hlinked item hmem hitem
      have hnew : children.get? (hashing.approval predecessor) = none := by
        rw [Option.eq_none_iff_forall_ne_some]
        intro other hother
        obtain ⟨hdone, predecessor', hpredecessor', hamends', hhash⟩ :=
          (h.children _ other).mp hother
        obtain rfl := hdistinct.inj hpredecessor' hpredecessor hhash
        have hotherMem : other ∈ approvals := by
          rw [hall]
          exact List.mem_append_left _ hdone
        obtain rfl := hfork predecessor' hpredecessor item hmem other hotherMem hamends hamends'
        -- the item is not twice in the list
        have hnodup : approvals.Nodup := List.Nodup.of_map _ hdistinct
        rw [hall, List.nodup_append] at hnodup
        exact hnodup.2.2 item hdone item List.mem_cons_self rfl
      have hstep := (validatedChild_eq_ok_iff hdistinct hitem).mpr
        ⟨predecessor, hpredecessor, hamends, hnew, rfl⟩
      rw [hstep]
      exact ih hrest (h.step hpredecessor hamends hnew)

/-! ## The walk -/

/-- The walk stands at the current approval after the previous ones, the latest first. -/
structure Walked (hashing : Hashing) (approvals : List MonthlyApproval) (root current : MonthlyApproval)
    (previous : List MonthlyApproval) : Prop where
  mem : ∀ item ∈ current :: previous, item ∈ approvals
  links : (current :: previous).IsChain fun item predecessor =>
    predecessor ∈ approvals ∧ Amends hashing (approvalBinding hashing root) predecessor item
  start : (current :: previous).getLast? = some root

theorem Walked.nodup {root : MonthlyApproval} (h : Walked hashing approvals root current previous)
    (hdistinct : DistinctHashes hashing approvals) (hroot : root.amends = false) :
    (current :: previous).Nodup := by
  refine Chains.nodup_of_unique_next ?_ ?_ h.links
  · intro item predecessor predecessor' hpredecessor hpredecessor'
    exact hdistinct.inj hpredecessor.1 hpredecessor'.1 (hpredecessor.2.same_hash hpredecessor'.2)
  · intro item hlast predecessor hpredecessor
    rw [h.start] at hlast
    obtain rfl := Option.some.inj hlast
    rw [hpredecessor.2.amends] at hroot
    cases hroot

theorem Walked.length_le {root : MonthlyApproval}
    (h : Walked hashing approvals root current previous)
    (hdistinct : DistinctHashes hashing approvals) (hroot : root.amends = false) :
    previous.length + 1 ≤ approvals.length :=
  (List.subperm_of_subset (h.nodup hdistinct hroot) h.mem).length_le

/-- The walk comes to no hash again: it ends at an approval without a child, and then the approvals are
counted. -/
theorem walkChain_cases {root : MonthlyApproval} (hdistinct : DistinctHashes hashing approvals)
    (hroot : root.amends = false)
    (hchildren : Validated hashing approvals (approvalBinding hashing root) approvals children)
    (h : Walked hashing approvals root current previous) {fuel : Nat}
    (hfuel : approvals.length < fuel + previous.length) :
    ∃ last path, Walked hashing approvals root last path ∧
      walkChain hashing children approvals.length fuel (previous.map hashing.approval) current =
        if path.length + 1 ≠ approvals.length then
          .error (.value "COMPOSITE_MONTHLY_AUTHORITY_HISTORY_DISCONNECTED")
        else .ok last := by
  induction fuel generalizing current previous with
  | zero =>
    have hlength := h.length_le hdistinct hroot
    omega
  | succ fuel ih =>
    rw [walkChain]
    have hfresh : hashing.approval current ∉ previous.map hashing.approval := by
      intro hvisited
      obtain ⟨item, hitem, heq⟩ := List.mem_map.mp hvisited
      obtain rfl := hdistinct.inj (h.mem item (List.mem_cons_of_mem _ hitem))
        (h.mem current List.mem_cons_self) heq
      exact (List.nodup_cons.mp (h.nodup hdistinct hroot)).1 hitem
    rw [if_neg hfresh]
    cases hchild : children.get? (hashing.approval current) with
    | none =>
      refine ⟨current, previous, h, ?_⟩
      rw [List.length_map]
    | some child =>
      obtain ⟨hmem, predecessor, hpredecessor, hamends, hhash⟩ :=
        (hchildren.children _ child).mp hchild
      have hcurrent : current ∈ approvals := h.mem current List.mem_cons_self
      obtain rfl := hdistinct.inj hpredecessor hcurrent hhash
      have hnext : Walked hashing approvals root child (predecessor :: previous) := by
        refine ⟨?_, ?_, ?_⟩
        · intro item hitem
          obtain rfl | hitem := List.mem_cons.mp hitem
          · exact hmem
          · exact h.mem item hitem
        · rw [List.isChain_cons_cons]
          exact ⟨⟨hcurrent, hamends⟩, h.links⟩
        · rw [List.getLast?_cons_cons]
          exact h.start
      exact ih hnext (by rw [List.length_cons]; omega)

theorem Walked.chain {root : MonthlyApproval} (h : Walked hashing approvals root current previous)
    (hdistinct : DistinctHashes hashing approvals) (hroot : root.amends = false)
    (hlength : previous.length + 1 = approvals.length) :
    ∃ rest, AuthorityChain hashing root rest ∧ (root :: rest).Perm approvals ∧
      (root :: rest).getLast? = some current := by
  have hnodup := h.nodup hdistinct hroot
  have hhead : (current :: previous).reverse.head? = some root := by
    rw [List.head?_reverse]
    exact h.start
  obtain ⟨rest, hrest⟩ := List.head?_eq_some_iff.mp hhead
  have hperm : (current :: previous).Perm approvals :=
    (List.subperm_of_subset hnodup h.mem).perm_of_length_le (by rw [List.length_cons, hlength])
  refine ⟨rest, ⟨hroot, ?_, ?_⟩, ?_, ?_⟩
  · rw [← hrest, List.isChain_reverse]
    exact h.links.imp (fun _ _ hlink => hlink.2)
  · rw [← hrest, List.nodup_reverse]
    exact hnodup
  · rw [← hrest]
    exact (List.reverse_perm _).trans hperm
  · rw [← hrest, List.getLast?_reverse, List.head?_cons]

/-! ## Along a chain -/

section Along

variable {root : MonthlyApproval} {rest : List MonthlyApproval}

variable {item current : MonthlyApproval} {before after : List MonthlyApproval}

theorem AuthorityChain.split (h : AuthorityChain hashing root rest)
    (hdistinct : DistinctHashes hashing (root :: rest)) {predecessor : MonthlyApproval}
    (hpredecessor : predecessor ∈ root :: rest) (hitem : item ∈ root :: rest)
    (hamends : Amends hashing (approvalBinding hashing root) predecessor item) :
    ∃ before after, root :: rest = before ++ predecessor :: item :: after := by
  have hrest : item ∈ rest := by
    obtain rfl | hrest := List.mem_cons.mp hitem
    · have hordinary := h.ordinary
      rw [hamends.amends] at hordinary
      cases hordinary
    · exact hrest
  obtain ⟨before, b, after, heq, hb⟩ := Chains.exists_before h.links hrest
  have hmem : b ∈ root :: rest := by
    rw [heq]
    exact List.mem_append_right _ List.mem_cons_self
  obtain rfl := hdistinct.inj hpredecessor hmem (hamends.same_hash hb)
  exact ⟨before, after, heq⟩

theorem AuthorityChain.after_unique (h : AuthorityChain hashing root rest)
    {before' after' : List MonthlyApproval} (heq : root :: rest = before ++ item :: after)
    (heq' : root :: rest = before' ++ item :: after') : after = after' := by
  have hbefore : item ∉ before := by
    intro hmem
    have hsimple := h.simple
    rw [heq, List.nodup_append] at hsimple
    exact hsimple.2.2 item hmem item List.mem_cons_self rfl
  have hafter : item ∉ after := by
    intro hmem
    have hsimple := h.simple
    rw [heq, List.nodup_append] at hsimple
    exact (List.nodup_cons.mp hsimple.2.1).1 hmem
  exact ((List.append_cons_inj_of_notMem hbefore hafter).mp (heq.symm.trans heq')).2.2

variable {approvals : List MonthlyApproval} {children : Dict String MonthlyApproval}

theorem AuthorityChain.linked (h : AuthorityChain hashing root rest)
    (hperm : (root :: rest).Perm approvals) :
    ∀ item ∈ approvals, item.amends = true →
      ∃ predecessor ∈ approvals, Amends hashing (approvalBinding hashing root) predecessor item := by
  intro item hitem hamends
  obtain rfl | hrest := List.mem_cons.mp (hperm.mem_iff.mpr hitem)
  · rw [h.ordinary] at hamends
    cases hamends
  · obtain ⟨before, predecessor, after, heq, hlink⟩ := Chains.exists_before h.links hrest
    refine ⟨predecessor, hperm.mem_iff.mp ?_, hlink⟩
    rw [heq]
    exact List.mem_append_right _ List.mem_cons_self

theorem AuthorityChain.unforked (h : AuthorityChain hashing root rest)
    (hperm : (root :: rest).Perm approvals) (hdistinct : DistinctHashes hashing approvals) :
    ∀ predecessor ∈ approvals, ∀ item ∈ approvals, ∀ item' ∈ approvals,
      Amends hashing (approvalBinding hashing root) predecessor item →
        Amends hashing (approvalBinding hashing root) predecessor item' → item = item' := by
  intro predecessor hpredecessor item hitem item' hitem' hamends hamends'
  have hdistinct' : DistinctHashes hashing (root :: rest) := (hperm.map _).nodup_iff.mpr hdistinct
  have hpredecessor := hperm.mem_iff.mpr hpredecessor
  obtain ⟨before, after, heq⟩ :=
    h.split hdistinct' hpredecessor (hperm.mem_iff.mpr hitem) hamends
  obtain ⟨before', after', heq'⟩ :=
    h.split hdistinct' hpredecessor (hperm.mem_iff.mpr hitem') hamends'
  exact (List.cons.inj (h.after_unique heq heq')).1

theorem AuthorityChain.get?_children (h : AuthorityChain hashing root rest)
    (hperm : (root :: rest).Perm approvals) (hdistinct : DistinctHashes hashing approvals)
    (hchildren : Validated hashing approvals (approvalBinding hashing root) approvals children)
    (heq : root :: rest = before ++ current :: after) :
    children.get? (hashing.approval current) = after.head? := by
  have hdistinct' : DistinctHashes hashing (root :: rest) := (hperm.map _).nodup_iff.mpr hdistinct
  have hcurrent : current ∈ root :: rest := by
    rw [heq]
    exact List.mem_append_right _ List.mem_cons_self
  apply Option.ext
  intro item
  rw [hchildren.children]
  constructor
  · intro hchild
    obtain ⟨hitem, predecessor, hpredecessor, hamends, hhash⟩ := hchild
    obtain rfl := hdistinct'.inj (hperm.mem_iff.mpr hpredecessor) hcurrent hhash
    obtain ⟨before', after', heq'⟩ :=
      h.split hdistinct' hcurrent (hperm.mem_iff.mpr hitem) hamends
    rw [h.after_unique heq heq', List.head?_cons]
  · intro hhead
    obtain ⟨after', rfl⟩ := List.head?_eq_some_iff.mp hhead
    have hitem : item ∈ root :: rest := by
      rw [heq]
      exact List.mem_append_right _ (List.mem_cons_of_mem _ List.mem_cons_self)
    have hlinks := h.links
    rw [heq] at hlinks
    have hamends := (List.isChain_append_cons_cons.mp hlinks).2.1
    exact ⟨hperm.mem_iff.mp hitem, current, hperm.mem_iff.mp hcurrent, hamends, rfl⟩

theorem DistinctHashes.fresh (h : DistinctHashes hashing (before ++ current :: after)) :
    hashing.approval current ∉ before.reverse.map hashing.approval := by
  unfold DistinctHashes at h
  rw [List.map_append, List.map_cons, List.nodup_append] at h
  rw [List.map_reverse, List.mem_reverse]
  intro hmem
  exact h.2.2 _ hmem _ List.mem_cons_self rfl

theorem AuthorityChain.walk (h : AuthorityChain hashing root rest)
    (hperm : (root :: rest).Perm approvals) (hdistinct : DistinctHashes hashing approvals)
    (hchildren : Validated hashing approvals (approvalBinding hashing root) approvals children)
    {last : MonthlyApproval} (hlast : (current :: after).getLast? = some last)
    (heq : root :: rest = before ++ current :: after) {fuel : Nat} (hfuel : after.length < fuel) :
    walkChain hashing children approvals.length fuel (before.reverse.map hashing.approval) current =
      .ok last := by
  have hdistinct' : DistinctHashes hashing (root :: rest) := (hperm.map _).nodup_iff.mpr hdistinct
  have hfresh : hashing.approval current ∉ before.reverse.map hashing.approval :=
    DistinctHashes.fresh (heq ▸ hdistinct')
  induction after generalizing before current fuel with
  | nil =>
    obtain ⟨fuel, rfl⟩ : ∃ n, fuel = n + 1 := ⟨fuel - 1, by omega⟩
    have hcount : (before.reverse.map hashing.approval).length + 1 = approvals.length := by
      rw [← hperm.length_eq, heq]
      simp
    rw [walkChain, if_neg hfresh, h.get?_children hperm hdistinct hchildren heq]
    dsimp only [List.head?_nil]
    rw [if_neg (not_not.mpr hcount)]
    exact congrArg Except.ok (Option.some.inj hlast)
  | cons item after ih =>
    obtain ⟨fuel, rfl⟩ : ∃ n, fuel = n + 1 := ⟨fuel - 1, by omega⟩
    rw [walkChain, if_neg hfresh, h.get?_children hperm hdistinct hchildren heq]
    dsimp only [List.head?_cons]
    have hvisited : hashing.approval current :: before.reverse.map hashing.approval =
        (before ++ [current]).reverse.map hashing.approval := by
      rw [List.reverse_append, List.reverse_singleton, List.singleton_append, List.map_cons]
    have hnext : root :: rest = (before ++ [current]) ++ item :: after := by
      rw [← List.append_cons]
      exact heq
    rw [List.getLast?_cons_cons] at hlast
    rw [List.length_cons] at hfuel
    rw [hvisited]
    exact ih hlast hnext (by omega) (DistinctHashes.fresh (hnext ▸ hdistinct'))

end Along

/-! ## The selection -/

/-- `COMPOSITE_MONTHLY_AUTHORITY_HISTORY_CYCLE` -/
def historyCycle : CompositeError := .value "COMPOSITE_MONTHLY_AUTHORITY_HISTORY_CYCLE"

theorem ensure_raises {kind : CompositeError → Prop} {condition : Bool} {error : CompositeError}
    (h : kind error) : Checks.Raises kind (ensure condition error) := by
  unfold ensure
  split
  · exact Checks.Raises.ok ()
  · exact Checks.Raises.error h

theorem validatedChild_raises (dict : Dict String MonthlyApproval) (root : EvaluationBinding)
    (children : Dict String MonthlyApproval) (item : MonthlyApproval) :
    Checks.Raises (· ≠ historyCycle) (validatedChild hashing dict root children item) := by
  unfold validatedChild
  split
  · exact Checks.Raises.ok _
  · split
    · exact Checks.Raises.error (by decide)
    · split
      · exact Checks.Raises.error (by decide)
      · split
        · exact Checks.Raises.error (by decide)
        · split
          · exact Checks.Raises.error (by decide)
          · exact Checks.Raises.ok _

theorem root_of_filter {root : MonthlyApproval}
    (h : approvals.filter (fun item => !item.amends) = [root]) :
    root ∈ approvals ∧ root.amends = false := by
  have hmem : root ∈ approvals.filter (fun item => !item.amends) := by
    rw [h]
    exact List.mem_singleton_self root
  obtain ⟨hroot, hordinary⟩ := List.mem_filter.mp hmem
  exact ⟨hroot, by simpa using hordinary⟩

theorem selection_walk {root : MonthlyApproval}
    (hroots : approvals.filter (fun item => !item.amends) = [root])
    (hdistinct : DistinctHashes hashing approvals)
    (hchildren : validatedChildren hashing approvals (byHash hashing approvals)
      (approvalBinding hashing root) = .ok children) :
    ∃ last path, Walked hashing approvals root last path ∧
      walkChain hashing children approvals.length (approvals.length + 1) [] root =
        if path.length + 1 ≠ approvals.length then
          .error (.value "COMPOSITE_MONTHLY_AUTHORITY_HISTORY_DISCONNECTED")
        else .ok last := by
  obtain ⟨hroot, hordinary⟩ := root_of_filter hroots
  have hvalidated := Validated.run hdistinct Validated.start hchildren
  rw [List.nil_append] at hvalidated
  have hstart : Walked hashing approvals root root [] := by
    refine ⟨?_, List.isChain_singleton _, rfl⟩
    intro item hitem
    rw [List.mem_singleton.mp hitem]
    exact hroot
  exact walkChain_cases hdistinct hordinary hvalidated hstart (by simp)

theorem selectedMonthlyApproval_raises (approvals : List MonthlyApproval) (scope : DefinitionKey)
    (month : Month) :
    Checks.Raises (· ≠ historyCycle) (selectedMonthlyApproval hashing approvals scope month) := by
  unfold selectedMonthlyApproval
  refine Checks.Raises.bind (ensure_raises (by decide)) fun _ _ => ?_
  refine Checks.Raises.bind (ensure_raises (by decide)) fun _ _ => ?_
  split
  · rename_i root hroots
    refine Checks.Raises.bind (ensure_raises (by decide)) fun _ hcount => ?_
    have hdistinct : DistinctHashes hashing approvals :=
      (length_byHash_iff approvals).mp (of_decide_eq_true ((ensure_eq_ok_iff _ _).mp hcount))
    refine Checks.Raises.bind ?_ fun children hchildren => ?_
    · refine Checks.Raises.foldlM (fun _ => True) ?_ (fun _ _ _ _ _ _ => trivial) trivial
      intro dict item _ _
      exact validatedChild_raises _ _ dict item
    · obtain ⟨last, path, _, hwalk⟩ := selection_walk hroots hdistinct hchildren
      rw [hwalk]
      split
      · exact Checks.Raises.error (by decide)
      · exact Checks.Raises.ok last
  · exact Checks.Raises.error (by decide)

theorem chain_of_selected {month : Month}
    (h : selectedMonthlyApproval hashing approvals scope month = .ok last) :
    approvals.length ≤ maxMonthlyAuthorityRecords ∧
    (∀ item ∈ approvals,
      item.proposal.definitionKey = scope ∧ item.proposal.evaluation.month = month) ∧
    ∃ root rest, AuthorityChain hashing root rest ∧ (root :: rest).Perm approvals ∧
      (root :: rest).getLast? = some last := by
  unfold selectedMonthlyApproval at h
  obtain ⟨_, hlength, h⟩ := Checks.bind_eq_ok h
  obtain ⟨_, hscope, h⟩ := Checks.bind_eq_ok h
  split at h
  · rename_i root hroots
    obtain ⟨_, hcount, h⟩ := Checks.bind_eq_ok h
    obtain ⟨children, hchildren, h⟩ := Checks.bind_eq_ok h
    have hdistinct : DistinctHashes hashing approvals :=
      (length_byHash_iff approvals).mp (of_decide_eq_true ((ensure_eq_ok_iff _ _).mp hcount))
    obtain ⟨last', path, hwalked, hwalk⟩ := selection_walk hroots hdistinct hchildren
    rw [hwalk] at h
    split at h
    · cases h
    · rename_i hpath
      cases h
      refine ⟨?_, ?_, root, ?_⟩
      · rw [ensure_eq_ok_iff, Bool.and_eq_true] at hlength
        exact of_decide_eq_true hlength.2
      · rw [ensure_eq_ok_iff, List.all_eq_true] at hscope
        intro item hitem
        simpa using hscope item hitem
      · exact hwalked.chain hdistinct (root_of_filter hroots).2 (not_not.mp hpath)
  · cases h

theorem AuthorityChain.filter {root : MonthlyApproval} (h : AuthorityChain hashing root rest)
    (hperm : (root :: rest).Perm approvals) :
    approvals.filter (fun item => !item.amends) = [root] := by
  have hrest : rest.filter (fun item => !item.amends) = [] := by
    rw [List.filter_eq_nil_iff]
    intro item hitem
    obtain ⟨_, _, _, _, hamends⟩ := Chains.exists_before h.links hitem
    rw [hamends.amends]
    decide
  have hfilter := (hperm.filter (fun item => !item.amends)).symm
  rw [List.filter_cons_of_pos (by rw [h.ordinary]; rfl), hrest] at hfilter
  exact List.perm_singleton.mp hfilter

theorem AuthorityChain.selected {root : MonthlyApproval} {month : Month}
    (h : AuthorityChain hashing root rest) (hperm : (root :: rest).Perm approvals)
    (hdistinct : DistinctHashes hashing approvals)
    (hlength : approvals.length ≤ maxMonthlyAuthorityRecords) (hscope : ∀ item ∈ approvals,
      item.proposal.definitionKey = scope ∧ item.proposal.evaluation.month = month)
    (hlast : (root :: rest).getLast? = some last) :
    selectedMonthlyApproval hashing approvals scope month = .ok last := by
  have hne : approvals.isEmpty = false := by
    rw [List.isEmpty_eq_false_iff]
    intro hempty
    rw [hempty] at hperm
    exact List.cons_ne_nil _ _ hperm.eq_nil
  have hbound : ensure (!approvals.isEmpty && decide (approvals.length ≤ maxMonthlyAuthorityRecords))
      (.value "COMPOSITE_MONTHLY_AUTHORITY_HISTORY_UNAVAILABLE") = .ok () := by
    rw [ensure_eq_ok_iff, hne, decide_eq_true hlength]
    rfl
  have hall : ensure (approvals.all fun item =>
      decide (item.proposal.definitionKey = scope) &&
        decide (item.proposal.evaluation.month = month))
      (.value "COMPOSITE_MONTHLY_AUTHORITY_SCOPE_MISMATCH") = .ok () := by
    rw [ensure_eq_ok_iff, List.all_eq_true]
    intro item hitem
    simpa using hscope item hitem
  have hcount : ensure (decide ((byHash hashing approvals).keys.length = approvals.length))
      (.value "COMPOSITE_MONTHLY_AUTHORITY_RECORD_AMBIGUOUS") = .ok () := by
    rw [ensure_eq_ok_iff, decide_eq_true_iff]
    exact (length_byHash_iff approvals).mpr hdistinct
  obtain ⟨children, hchildren⟩ := Validated.run_exists hdistinct (List.nil_append approvals).symm
    (h.linked hperm) (h.unforked hperm hdistinct) Validated.start
  have hvalidated := Validated.run hdistinct Validated.start hchildren
  rw [List.nil_append] at hvalidated
  have hfuel : rest.length < approvals.length + 1 := by
    rw [← hperm.length_eq, List.length_cons]
    omega
  have hwalk := h.walk hperm hdistinct hvalidated hlast
    (show root :: rest = [] ++ root :: rest from rfl) hfuel
  unfold selectedMonthlyApproval
  rw [hbound, hall, h.filter hperm]
  show (ensure (decide ((byHash hashing approvals).keys.length = approvals.length)) _ >>= fun _ =>
    validatedChildren hashing approvals (byHash hashing approvals) (approvalBinding hashing root) >>=
      fun children => walkChain hashing children approvals.length (approvals.length + 1) [] root) = _
  rw [hcount]
  show (validatedChildren hashing approvals (byHash hashing approvals) (approvalBinding hashing root) >>=
    fun children => walkChain hashing children approvals.length (approvals.length + 1) [] root) = _
  unfold validatedChildren
  rw [hchildren]
  exact hwalk

/-- **The authority of a month is the tip of its chain.**  Of at most 64 approvals of the scope and month
one is selected exactly when they are, in some order, a simple chain from one root, and then it is the
last of the chain, in whatever order the approvals come.  The walk never comes to a hash again; as it
visits one more approval each time, it ends. -/
theorem selectedMonthlyApproval_iff_chain (hashing : Hashing) (approvals : List MonthlyApproval)
    (scope : DefinitionKey) (month : Month)
    (hcollision : ∀ item ∈ approvals, ∀ item' ∈ approvals,
      hashing.approval item = hashing.approval item' → item = item') :
    (∀ last, selectedMonthlyApproval hashing approvals scope month = .ok last ↔
      approvals.length ≤ maxMonthlyAuthorityRecords ∧
      (∀ item ∈ approvals,
        item.proposal.definitionKey = scope ∧ item.proposal.evaluation.month = month) ∧
      ∃ root rest, AuthorityChain hashing root rest ∧ (root :: rest).Perm approvals ∧
        (root :: rest).getLast? = some last) ∧
    (∀ approvals', approvals'.Perm approvals → ∀ last,
      selectedMonthlyApproval hashing approvals' scope month = .ok last ↔
        selectedMonthlyApproval hashing approvals scope month = .ok last) ∧
    selectedMonthlyApproval hashing approvals scope month ≠ .error historyCycle := by
  have hchain : ∀ approvals' : List MonthlyApproval, approvals'.Perm approvals → ∀ last,
      selectedMonthlyApproval hashing approvals' scope month = .ok last ↔
        approvals.length ≤ maxMonthlyAuthorityRecords ∧
        (∀ item ∈ approvals,
          item.proposal.definitionKey = scope ∧ item.proposal.evaluation.month = month) ∧
        ∃ root rest, AuthorityChain hashing root rest ∧ (root :: rest).Perm approvals ∧
          (root :: rest).getLast? = some last := by
    intro approvals' hperm last
    constructor
    · intro h
      obtain ⟨hlength, hscope, root, rest, hchain, hall, hlast⟩ := chain_of_selected h
      refine ⟨hperm.length_eq ▸ hlength, ?_, root, rest, hchain, hall.trans hperm, hlast⟩
      exact fun item hitem => hscope item (hperm.mem_iff.mpr hitem)
    · intro h
      obtain ⟨hlength, hscope, root, rest, hchain, hall, hlast⟩ := h
      have hdistinct : DistinctHashes hashing (root :: rest) := by
        refine List.Nodup.map_on ?_ hchain.simple
        intro item hitem item' hitem' heq
        exact hcollision item (hall.mem_iff.mp hitem) item' (hall.mem_iff.mp hitem') heq
      have hall' := hall.trans hperm.symm
      refine hchain.selected hall' ((hall'.map _).nodup_iff.mp hdistinct) ?_ ?_ hlast
      · exact hperm.length_eq ▸ hlength
      · exact fun item hitem => hscope item (hperm.mem_iff.mp hitem)
  refine ⟨hchain approvals (List.Perm.refl _), ?_, ?_⟩
  · intro approvals' hperm last
    rw [hchain approvals' hperm last, hchain approvals (List.Perm.refl _) last]
  · intro hcycle
    exact selectedMonthlyApproval_raises approvals scope month historyCycle hcycle rfl

/-! ## Chains of any length -/

/-- The ordinary approval of January. -/
def ordinaryApproval : MonthlyApproval where
  proposal :=
    { evaluationRevision := "revision-1"
      targetMembershipRevision := "rev-2"
      parentMembershipRevision := "rev-1"
      parentMembershipContentHash := "sha256:rev-1"
      policyApproval :=
        { productVersion := .v1
          proposal :=
            { productVersion := .v1
              proposalRevision := "policy-1"
              eligibilityPolicyVersion := "policy-1"
              scope :=
                { tenantId := "tenant-sg"
                  compositeId := "composite-1"
                  definitionVersion := "v1"
                  strategyCode := "GLOBAL_BALANCED" }
              month := ⟨2026, 1⟩
              proposedBy := "maker-1"
              proposedAt := 0 }
          approvedBy := "checker-1"
          approvedAt := 0 }
      universeAttestation :=
        { tenantId := "tenant-sg"
          compositeId := "composite-1"
          definitionVersion := "v1"
          membershipRevision := "rev-1"
          membershipContentHash := "sha256:rev-1"
          attestationVersion := "universe-1"
          coverageFrom := ⟨"2026-01-01", 739617⟩
          coverageTo := ⟨"2026-01-31", 739647⟩
          policyVersion := "policy-1"
          sourceCutId := "cut-1"
          sourceProducts := []
          posture := .complete
          expectedPortfolioIds := ["pf-1"]
          expectedPortfolioCount := 1
          observedPortfolioCount := 1
          attestedAt := utcTime
          attestedBy := "maker-1"
          correlationId := "corr-1" }
      observations :=
        { sourceCutId := "cut-1"
          sourceRevision := "source-1"
          reportingCurrency := "SGD"
          sourceGeneratedOn := ⟨"2026-02-01", 739648⟩
          expectedPortfolioIds := ["pf-1"]
          portfolios := [] }
      sourceAssemblyEvidence := some "assembly-1"
      publicationEvidence := true
      evaluation := { month := ⟨2026, 1⟩, declaredUniverseComplete := true, portfolios := [] }
      proposedBy := "maker-1"
      proposedAt := 0
      correlationId := "corr-1" }
  approvedBy := "checker-1"
  approvedAt := 0
  claimsDigest := "sha256:claims"
  membershipContentHash := "sha256:rev-2"
  publishedUniverseContentHash := "sha256:universe-2"

/-- The ordinary approval, and the amendments of it one after the other. -/
def approvalAfter : Nat → MonthlyApproval
  | 0 => ordinaryApproval
  | amendments + 1 =>
    let predecessor := approvalAfter amendments
    let binding := approvalBinding sampleHashing predecessor
    { ordinaryApproval with
      proposal :=
        { ordinaryApproval.proposal with
          evaluationRevision := predecessor.proposal.evaluationRevision ++ "a"
          amendment := some
            { predecessorApprovalBinding := binding
              predecessorReceiptBinding := binding
              originalApprovalBinding := approvalBinding sampleHashing ordinaryApproval
              expectedAuthorityBinding := binding
              projectionParentMembershipBinding := ⟨"CompositeMembership", "rev-1", "sha256:rev-1"⟩
              expectedCurrentPublicationSequence := 1
              affectedFrom := ⟨"2026-01-01", 739617⟩
              affectedTo := ⟨"2026-01-31", 739647⟩ } } }

theorem length_revision_approvalAfter :
    (approvalAfter amendments).proposal.evaluationRevision.length = 10 + amendments := by
  induction amendments with
  | zero => decide
  | succ amendments ih =>
    show ((approvalAfter amendments).proposal.evaluationRevision ++ "a").length = _
    rw [String.length_append, ih]
    rfl

theorem hash_approvalAfter_inj {n m : Nat}
    (h : sampleHashing.approval (approvalAfter n) = sampleHashing.approval (approvalAfter m)) :
    n = m := by
  have hlength := congrArg String.length h
  have hhash : ∀ approval : MonthlyApproval, (sampleHashing.approval approval).length =
      7 + approval.proposal.evaluationRevision.length := by
    intro approval
    show ("sha256:" ++ approval.proposal.evaluationRevision).length = _
    rw [String.length_append]
    rfl
  rw [hhash, hhash, length_revision_approvalAfter, length_revision_approvalAfter] at hlength
  omega

/-- The ordinary approval and so many amendments. -/
def amendedApprovals (amendments : Nat) : List MonthlyApproval :=
  (List.range (amendments + 1)).map approvalAfter

theorem amendedApprovals_eq_cons :
    amendedApprovals amendments =
      ordinaryApproval :: (List.range amendments).map (fun n => approvalAfter (n + 1)) := by
  unfold amendedApprovals
  rw [List.range_succ_eq_map, List.map_cons, List.map_map]
  rfl

theorem amendedApprovals_collision :
    ∀ item ∈ amendedApprovals amendments, ∀ item' ∈ amendedApprovals amendments,
      sampleHashing.approval item = sampleHashing.approval item' → item = item' := by
  intro item hitem item' hitem' heq
  obtain ⟨n, _, rfl⟩ := List.mem_map.mp hitem
  obtain ⟨m, _, rfl⟩ := List.mem_map.mp hitem'
  rw [hash_approvalAfter_inj heq]

theorem amendedApprovals_chain :
    AuthorityChain sampleHashing ordinaryApproval
      ((List.range amendments).map (fun n => approvalAfter (n + 1))) where
  ordinary := rfl
  links := by
    rw [← amendedApprovals_eq_cons, amendedApprovals, List.isChain_map, List.isChain_range_succ]
    intro n _
    exact ⟨_, rfl, rfl, rfl⟩
  simple := by
    rw [← amendedApprovals_eq_cons, amendedApprovals]
    refine List.Nodup.map ?_ List.nodup_range
    intro n m heq
    exact hash_approvalAfter_inj (congrArg sampleHashing.approval heq)

theorem amendedApprovals_scope :
    ∀ item ∈ amendedApprovals amendments,
      item.proposal.definitionKey = ("tenant-sg", "composite-1", "v1") ∧
        item.proposal.evaluation.month = ⟨2026, 1⟩ := by
  intro item hitem
  obtain ⟨n, _, rfl⟩ := List.mem_map.mp hitem
  cases n with
  | zero | succ => exact ⟨rfl, rfl⟩

/-- The second amendment is selected of the three approvals, whatever their order. -/
theorem second_amendment_selected :
    selectedMonthlyApproval sampleHashing (amendedApprovals 2).reverse
      ("tenant-sg", "composite-1", "v1") ⟨2026, 1⟩ = .ok (approvalAfter 2) :=
  have hselected := selectedMonthlyApproval_iff_chain sampleHashing (amendedApprovals 2)
    ("tenant-sg", "composite-1", "v1") ⟨2026, 1⟩ (amendedApprovals_collision 2)
  (hselected.2.1 (amendedApprovals 2).reverse (List.reverse_perm _) (approvalAfter 2)).mpr
    ((hselected.1 (approvalAfter 2)).mpr
      ⟨by decide, amendedApprovals_scope 2, _, _, amendedApprovals_chain 2,
        amendedApprovals_eq_cons 2 ▸ List.Perm.refl _, rfl⟩)

/-- A simple chain of 65 approvals is refused. -/
theorem longer_chain_refused :
    AuthorityChain sampleHashing ordinaryApproval
      ((List.range 64).map (fun n => approvalAfter (n + 1))) ∧
    amendedApprovals 64 = ordinaryApproval :: (List.range 64).map (fun n => approvalAfter (n + 1)) ∧
    (∀ item ∈ amendedApprovals 64, ∀ item' ∈ amendedApprovals 64,
      sampleHashing.approval item = sampleHashing.approval item' → item = item') ∧
    (∀ item ∈ amendedApprovals 64,
      item.proposal.definitionKey = ("tenant-sg", "composite-1", "v1") ∧
        item.proposal.evaluation.month = ⟨2026, 1⟩) ∧
    ∀ last, selectedMonthlyApproval sampleHashing (amendedApprovals 64)
      ("tenant-sg", "composite-1", "v1") ⟨2026, 1⟩ ≠ .ok last := by
  refine ⟨amendedApprovals_chain 64, amendedApprovals_eq_cons 64, amendedApprovals_collision 64,
    amendedApprovals_scope 64, ?_⟩
  intro last hselected
  have hlength := (chain_of_selected hselected).1
  unfold amendedApprovals at hlength
  rw [List.length_map, List.length_range] at hlength
  exact absurd hlength (by decide)

end LotusManage.Composites
