import LotusManage.Packages.Replay

/-!
# The packages of one wave item

A second package for a wave item must supersede an earlier one, so that one package of the item
is live.  The check behind that reads the packages before the save and does not ask whether the
package that is superseded has been superseded already.

`SupersedesLast` is what the check misses: when a package is saved, the item has no package, or
the package supersedes one that no stored package supersedes.  Under it the packages of every
item are one chain, in the order in which they were saved (`ItemChain`), in every reachable
state.
-/

namespace LotusManage.Packages

open LotusManage.Runs (Along)

/-- The tenant, the wave and the item that a package is about. -/
def InstructionPackage.item (package : InstructionPackage) : String × String × String :=
  (package.tenantId, package.waveId, package.waveItemId)

/-- The key of the package that a package supersedes. -/
def InstructionPackage.supersedes (package : InstructionPackage) :
    Option (String × String × String) :=
  package.supersedesPackageId.bind (fun packageId =>
    package.supersedesPackageVersion.map (fun packageVersion =>
      (package.tenantId, packageId, packageVersion)))

/-- Among the packages of an item exactly one supersedes nothing, every other one supersedes a
package of the item, no two supersede the same, and at most one is not superseded. -/
structure SingleChain (store : PackageStore) (item : String × String × String) : Prop where
  root : (∃ package ∈ store.values, package.item = item) →
    ∃! package, (package ∈ store.values ∧ package.item = item) ∧ package.supersedes = none
  links : ∀ package ∈ store.values, package.item = item →
    ∀ key, package.supersedes = some key →
      ∃ previous, store.get? key = some previous ∧ previous.item = item
  once : ∀ p ∈ store.values, ∀ q ∈ store.values, p.item = item → q.item = item →
    ∀ key, p.supersedes = some key → q.supersedes = some key → p = q
  live : ∀ p ∈ store.values, ∀ q ∈ store.values, p.item = item → q.item = item →
    (∀ r ∈ store.values, r.supersedes ≠ some p.key) →
    (∀ r ∈ store.values, r.supersedes ≠ some q.key) → p = q

/-- When a package is saved as new, the item has none, or the package supersedes one that no
stored package supersedes. -/
def SupersedesLast (s : PackageService) : PackageCall → Prop
  | .save index =>
    match s.releases[index]? with
    | some ⟨_, .ready package⟩ =>
      s.packages.get? package.key = none →
        match package.supersedes with
        | none => ∀ stored ∈ s.packages.values, stored.item ≠ package.item
        | some key => ∀ stored ∈ s.packages.values, stored.supersedes ≠ some key
    | _ => True
  | _ => True

instance (s : PackageService) (call : PackageCall) : Decidable (SupersedesLast s call) := by
  unfold SupersedesLast
  split
  · split
    · split <;> infer_instance
    · infer_instance
  · infer_instance

/-! ## Chains -/

/-- The first package supersedes nothing, and every other one the package before it. -/
def Linked (chain : List InstructionPackage) : Prop :=
  ∀ (i : Nat) (package : InstructionPackage), chain[i]? = some package →
    package.supersedes = if i = 0 then none else chain[i - 1]?.map InstructionPackage.key

/-- The packages of an item in the order in which each supersedes the one before it. -/
structure ItemChain (store : PackageStore) (item : String × String × String)
    (chain : List InstructionPackage) : Prop where
  mem_iff : ∀ package, package ∈ chain ↔ package ∈ store.values ∧ package.item = item
  nodup : chain.Nodup
  linked : Linked chain

section Linked

variable {chain : List InstructionPackage} {package : InstructionPackage}

theorem Linked.concat (h : Linked chain)
    (hpackage : package.supersedes = chain.getLast?.map InstructionPackage.key) :
    Linked (chain ++ [package]) := by
  intro i p hp
  have hi : i < chain.length + 1 := by
    have := (List.getElem?_eq_some_iff.mp hp).1
    simpa using this
  by_cases hlast : i = chain.length
  · subst hlast
    rw [List.getElem?_concat_length] at hp
    cases hp
    rw [hpackage, List.getLast?_eq_getElem?]
    split
    · rename_i hempty
      rw [List.length_eq_zero_iff.mp hempty]
      rfl
    · rw [List.getElem?_append_left (by omega)]
  · rw [List.getElem?_append_left (by omega)] at hp
    rw [h i p hp]
    split
    · rfl
    · rw [List.getElem?_append_left (by omega)]

theorem Linked.pred (h : Linked chain) {i : Nat} (hi : chain[i]? = some package)
    {key : String × String × String} (hkey : package.supersedes = some key) :
    ∃ j previous, i = j + 1 ∧ chain[j]? = some previous ∧ previous.key = key := by
  have hlink := h i package hi
  rw [hkey] at hlink
  cases i with
  | zero => cases hlink
  | succ j =>
    rw [if_neg (Nat.succ_ne_zero j), Nat.add_sub_cancel] at hlink
    obtain ⟨previous, hprevious, hsame⟩ := Option.map_eq_some_iff.mp hlink.symm
    exact ⟨j, previous, rfl, hprevious, hsame⟩

end Linked

section ItemChain

variable {store : PackageStore} {item : String × String × String}
  {chain : List InstructionPackage}

variable {p : InstructionPackage} {i : Nat}

theorem ItemChain.exists_index (h : ItemChain store item chain) (hp : p ∈ store.values)
    (hitem : p.item = item) : ∃ i : Nat, chain[i]? = some p :=
  List.mem_iff_getElem?.mp ((h.mem_iff p).mpr ⟨hp, hitem⟩)

theorem ItemChain.mem_values (h : ItemChain store item chain) (hp : chain[i]? = some p) :
    p ∈ store.values ∧ p.item = item :=
  (h.mem_iff p).mp (List.mem_of_getElem? hp)

theorem ItemChain.index_inj (h : ItemChain store item chain) {j : Nat} (hi : chain[i]? = some p)
    (hj : chain[j]? = some p) : i = j :=
  (List.getElem?_inj (List.getElem?_eq_some_iff.mp hi).1 h.nodup).mp (hi.trans hj.symm)

theorem ItemChain.eq_last (h : ItemChain store item chain) (hi : chain[i]? = some p)
    (hlast : ∀ r ∈ store.values, r.supersedes ≠ some p.key) : i + 1 = chain.length := by
  have hlt := (List.getElem?_eq_some_iff.mp hi).1
  by_contra hne
  have hnext : i + 1 < chain.length := by omega
  have hget : chain[i + 1]? = some chain[i + 1] := List.getElem?_eq_getElem hnext
  have hlink := h.linked (i + 1) chain[i + 1] hget
  rw [if_neg (Nat.succ_ne_zero i), Nat.add_sub_cancel, hi] at hlink
  exact hlast _ (h.mem_values hget).1 hlink

theorem ItemChain.singleChain (h : ItemChain store item chain)
    (hkeys : ∀ key package, store.get? key = some package → package.key = key) :
    SingleChain store item := by
  have hstored : ∀ {i : Nat} {p : InstructionPackage}, chain[i]? = some p →
      store.get? p.key = some p := by
    intro i p hp
    obtain ⟨key, hget⟩ := (Dict.mem_values_iff _ _).mp (h.mem_values hp).1
    rw [hkeys key p hget]
    exact hget
  constructor
  · rintro ⟨package, hmem, hitem⟩
    obtain ⟨i, hi⟩ := h.exists_index hmem hitem
    have hpos : 0 < chain.length := by
      have := (List.getElem?_eq_some_iff.mp hi).1
      omega
    have hzero : chain[0]? = some chain[0] := List.getElem?_eq_getElem hpos
    refine ⟨chain[0], ⟨h.mem_values hzero, h.linked 0 _ hzero⟩, ?_⟩
    rintro other ⟨⟨hother, hitem'⟩, hroot⟩
    obtain ⟨j, hj⟩ := h.exists_index hother hitem'
    cases j with
    | zero =>
      rw [hzero] at hj
      cases hj
      rfl
    | succ j =>
      -- every package behind the first supersedes the one before it
      have hlink := h.linked (j + 1) other hj
      have hlt := (List.getElem?_eq_some_iff.mp hj).1
      rw [hroot, if_neg (Nat.succ_ne_zero j), Nat.add_sub_cancel,
        List.getElem?_eq_getElem (by omega)] at hlink
      cases hlink
  · intro package hmem hitem key hkey
    obtain ⟨i, hi⟩ := h.exists_index hmem hitem
    obtain ⟨j, previous, _, hj, rfl⟩ := h.linked.pred hi hkey
    exact ⟨previous, hstored hj, (h.mem_values hj).2⟩
  · intro p hp q hq hpitem hqitem key hpkey hqkey
    obtain ⟨i, hi⟩ := h.exists_index hp hpitem
    obtain ⟨j, hj⟩ := h.exists_index hq hqitem
    obtain ⟨i', previous, rfl, hi', hkey⟩ := h.linked.pred hi hpkey
    obtain ⟨j', previous', rfl, hj', hkey'⟩ := h.linked.pred hj hqkey
    have hsame : previous = previous' := by
      have hget := hstored hi'
      rw [hkey, ← hkey', hstored hj'] at hget
      cases hget
      rfl
    subst hsame
    rw [h.index_inj hi' hj', hj] at hi
    cases hi
    rfl
  · intro p hp q hq hpitem hqitem hplive hqlive
    obtain ⟨i, hi⟩ := h.exists_index hp hpitem
    obtain ⟨j, hj⟩ := h.exists_index hq hqitem
    have hlast := h.eq_last hi hplive
    have hlast' := h.eq_last hj hqlive
    have hij : i = j := by omega
    rw [hij, hj] at hi
    cases hi
    rfl

end ItemChain

/-! ## Steps and runs -/

/-- The packages of every item are one chain. -/
def Chained (store : PackageStore) : Prop :=
  ∀ item, ∃ chain, ItemChain store item chain

variable {store : PackageStore} {package : InstructionPackage} {chain : List InstructionPackage}

theorem mem_values_set {p : InstructionPackage} (hfree : store.get? package.key = none) :
    p ∈ (store.set package.key package).values ↔ p = package ∨ p ∈ store.values := by
  rw [Dict.mem_values_iff, Dict.mem_values_iff]
  constructor
  · rintro ⟨key, hget⟩
    rw [Dict.get?_set] at hget
    split at hget
    · cases hget
      exact .inl rfl
    · exact .inr ⟨key, hget⟩
  · rintro (rfl | ⟨key, hget⟩)
    · exact ⟨p.key, Dict.get?_set_self _ _ _⟩
    · refine ⟨key, ?_⟩
      rw [Dict.get?_set_of_ne _ _ ?_, hget]
      rintro rfl
      rw [hfree] at hget
      cases hget

theorem ItemChain.set_other {item : String × String × String} (h : ItemChain store item chain)
    (hfree : store.get? package.key = none) (hitem : package.item ≠ item) :
    ItemChain (store.set package.key package) item chain := by
  refine ⟨?_, h.nodup, h.linked⟩
  intro p
  rw [h.mem_iff, mem_values_set hfree]
  constructor
  · rintro ⟨hmem, hp⟩
    exact ⟨.inr hmem, hp⟩
  · rintro ⟨rfl | hmem, hp⟩
    · exact absurd hp hitem
    · exact ⟨hmem, hp⟩

theorem ItemChain.set_last (h : ItemChain store package.item chain)
    (hkeys : ∀ key p, store.get? key = some p → p.key = key) (hfree : store.get? package.key = none)
    (hlast : package.supersedes = chain.getLast?.map InstructionPackage.key) :
    ItemChain (store.set package.key package) package.item (chain ++ [package]) := by
  have hnew : package ∉ chain := by
    intro hmem
    obtain ⟨key, hget⟩ := (Dict.mem_values_iff _ _).mp ((h.mem_iff package).mp hmem).1
    rw [← hkeys key package hget, hfree] at hget
    cases hget
  refine ⟨?_, ?_, h.linked.concat hlast⟩
  · intro p
    rw [List.mem_append, List.mem_singleton, h.mem_iff, mem_values_set hfree]
    constructor
    · rintro (⟨hmem, hp⟩ | rfl)
      · exact ⟨.inr hmem, hp⟩
      · exact ⟨.inl rfl, rfl⟩
    · rintro ⟨rfl | hmem, hp⟩
      · exact .inr rfl
      · exact .inl ⟨hmem, hp⟩
  · rw [← List.concat_eq_append]
    exact h.nodup.concat hnew

theorem previous_of_checked {command : ReleaseCommand}
    (hkeys : ∀ key p, store.get? key = some p → p.key = key) (hbuilt : BuiltFrom command package)
    (hchecked : SupersessionChecked store command) {key : String × String × String}
    (hkey : package.supersedes = some key) :
    ∃ previous, store.get? key = some previous ∧ previous.key = key ∧
      previous.item = package.item := by
  unfold InstructionPackage.supersedes at hkey
  obtain ⟨packageId, hid, hkey⟩ := Option.bind_eq_some_iff.mp hkey
  obtain ⟨packageVersion, hversion, rfl⟩ := Option.map_eq_some_iff.mp hkey
  obtain ⟨htenant, hwave, hwaveItem, _⟩ := hbuilt.scope
  obtain ⟨_, _, _, hsupersedesId, hsupersedesVersion, _⟩ := hbuilt.governance
  obtain ⟨previous, hprevious, hpwave, hpitem⟩ := hchecked packageId packageVersion
    (hsupersedesId.symm.trans hid) (hsupersedesVersion.symm.trans hversion)
  rw [← htenant] at hprevious
  have hpkey := hkeys _ previous hprevious
  have hptenant : previous.tenantId = package.tenantId := congrArg Prod.fst hpkey
  refine ⟨previous, hprevious, hpkey, ?_⟩
  unfold InstructionPackage.item
  rw [hptenant, hpwave, hpitem, hwave, hwaveItem]

theorem Chained.set (h : Chained store) (hkeys : ∀ key p, store.get? key = some p → p.key = key)
    (hfree : store.get? package.key = none) (hprevious : ∀ key, package.supersedes = some key →
      ∃ previous, store.get? key = some previous ∧ previous.key = key ∧
        previous.item = package.item) (hlast : match package.supersedes with
      | none => ∀ stored ∈ store.values, stored.item ≠ package.item
      | some key => ∀ stored ∈ store.values, stored.supersedes ≠ some key) :
    Chained (store.set package.key package) := by
  intro item
  by_cases hitem : package.item = item
  · subst hitem
    obtain ⟨chain, hchain⟩ := h package.item
    refine ⟨chain ++ [package], hchain.set_last hkeys hfree ?_⟩
    cases hsupersedes : package.supersedes with
    | none =>
      rw [hsupersedes] at hlast
      have hempty : chain = [] := by
        refine List.eq_nil_iff_forall_not_mem.mpr ?_
        intro p hp
        obtain ⟨hmem, hitem⟩ := (hchain.mem_iff p).mp hp
        exact hlast p hmem hitem
      rw [hempty]
      rfl
    | some key =>
      rw [hsupersedes] at hlast
      obtain ⟨previous, hget, rfl, hitem⟩ := hprevious key hsupersedes
      obtain ⟨i, hi⟩ :=
        hchain.exists_index ((Dict.mem_values_iff _ _).mpr ⟨_, hget⟩) hitem
      have hend := hchain.eq_last hi hlast
      rw [List.getLast?_eq_getElem?, ← hend, Nat.add_sub_cancel, hi]
      rfl
  · obtain ⟨chain, hchain⟩ := h item
    exact ⟨chain, hchain.set_other hfree hitem⟩

theorem chained_step {hashing : PackageHashing} {past : List PackageCall} {call : PackageCall}
    (h : Chained (PackageService.after hashing past).packages)
    (hlast : SupersedesLast (PackageService.after hashing past) call) :
    Chained (PackageService.after hashing (past ++ [call])).packages := by
  have hsound := sound_after hashing past
  have hkeys : ∀ key p, (PackageService.after hashing past).packages.get? key = some p →
      p.key = key := fun key p hget => (hsound.stored key p hget).1
  rw [PackageService.after_concat]
  obtain hsame | ⟨index, command, package, rfl, hrelease, hfree, hset⟩ :=
    PackageService.step_packages hashing (PackageService.after hashing past) call
  · rw [hsame]
    exact h
  · rw [hset]
    obtain ⟨hbuilt, _, _, hchecked⟩ := hsound.releases _ (List.mem_of_getElem? hrelease)
    unfold SupersedesLast at hlast
    dsimp only at hlast
    rw [hrelease] at hlast
    refine h.set hkeys hfree ?_ (hlast hfree)
    exact fun key hkey => previous_of_checked hkeys hbuilt hchecked hkey

/-- In every reachable state the packages of every wave item form a single chain, when every
package that is saved as new is the first of its item or supersedes one that is not superseded
yet. -/
theorem package_chain_single (hashing : PackageHashing) (calls : List PackageCall)
    (hlast : Along (PackageService.step hashing) SupersedesLast .new calls) :
    ∀ past rest, calls = past ++ rest → ∀ item,
      SingleChain (PackageService.after hashing past).packages item := by
  have hall : ∀ past rest, calls = past ++ rest →
      Chained (PackageService.after hashing past).packages := by
    intro past
    induction past using List.reverseRecOn with
    | nil =>
      intro rest _ item
      refine ⟨[], ?_, List.nodup_nil, ?_⟩
      · intro package
        constructor
        · intro hmem
          cases hmem
        · rintro ⟨hmem, _⟩
          cases hmem
      · intro i package hget
        cases hget
    | append_singleton past call ih =>
      intro rest hsplit
      rw [List.append_assoc, List.singleton_append] at hsplit
      refine chained_step (ih _ hsplit) ?_
      rw [hsplit] at hlast
      exact hlast.at_call
  intro past rest hsplit item
  obtain ⟨chain, hchain⟩ := hall past rest hsplit item
  have hsound := sound_after hashing past
  exact hchain.singleChain (fun key p hget => (hsound.stored key p hget).1)

/-! ### Three versions -/

/-- A version of the sample package with its approval. -/
def sampleVersion (packageVersion : String) (supersedesVersion : Option String) :
    ReleaseCommand :=
  sampleCommand packageVersion ⟨"TacticalView", "view-1", "1", "sha256:view", true⟩
    externalCommand.approvalEvidence.approvedMaterialHash supersedesVersion

/-- The second version supersedes the first, and the third the second. -/
def supersededInTurn : List PackageCall :=
  releaseSteps 0 (sampleVersion "1" none) 5 ++ releaseSteps 1 (sampleVersion "2" (some "1")) 6 ++
    releaseSteps 2 (sampleVersion "3" (some "2")) 7

theorem package_chain_single_in_turn :
    (PackageService.after sampleHashing supersededInTurn).packages.values.length = 3 ∧
      SingleChain (PackageService.after sampleHashing supersededInTurn).packages
        ("tenant-sg", "drw_001", "dwi_001") := by
  refine ⟨by decide +kernel, ?_⟩
  exact package_chain_single sampleHashing supersededInTurn (by decide +kernel) supersededInTurn []
    (List.append_nil _).symm _

/-- The second and the third version both supersede the first. -/
def supersededTwice : List PackageCall :=
  releaseSteps 0 (sampleVersion "1" none) 5 ++ releaseSteps 1 (sampleVersion "2" (some "1")) 6 ++
    releaseSteps 2 (sampleVersion "3" (some "1")) 7

/-- All three are stored, and two of them are live. -/
theorem package_superseded_twice :
    (PackageService.after sampleHashing supersededTwice).packages.values.length = 3 ∧
      ¬ SingleChain (PackageService.after sampleHashing supersededTwice).packages
        ("tenant-sg", "drw_001", "dwi_001") := by
  refine ⟨by decide +kernel, ?_⟩
  intro hchain
  have honce := hchain.once
  revert honce
  decide +kernel

end LotusManage.Packages
