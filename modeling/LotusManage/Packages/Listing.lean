import LotusManage.Lib.Pages
import LotusManage.Packages.SupersessionChain

/-!
# Walks through the packages of a tenant

`list_packages` of the repository and of the service.  The first page fixes the snapshot time; its token
carries the time and the offset, and every later page cuts the packages that are stored then, up to the
snapshot time, at the offset.  The order is latest first, so a package that was built before the
snapshot and is saved during the walk may come in front of the offset: the last package of the page
before is then returned again.

`SavesBehind` excludes that and nothing else.  Under it the packages that a walk has returned are the
front of the list in every state, and a walk that has ended has returned every package that was there at
its start exactly once.
-/

namespace LotusManage.Packages

open LotusManage.Pages (page take_append_page offset_add_page_le take_orderedInsert)
open LotusManage.Runs (Along)

/-! ## The list -/

/-- The packages of `list_packages`, latest first.  The tenant of a key is that of its package. -/
def matchingPackages (store : PackageStore) (tenantId : String) (createdBefore : Int) :
    List InstructionPackage :=
  (store.values.filter (fun package =>
    package.tenantId = tenantId ∧ package.createdAt ≤ createdBefore)).insertionSort
      InstructionPackage.newer

/-- `list_packages` of the repository: one page and the number of all. -/
def listPackages (store : PackageStore) (tenantId : String) (createdBefore : Int)
    (limit offset : Nat) : List InstructionPackage × Nat :=
  let packages := matchingPackages store tenantId createdBefore
  (page packages offset limit, packages.length)

/-! ## Walks -/

/-- A walk: what its next page token says, and what it has returned. -/
structure Walk where
  tenantId : String
  snapshotAt : Int
  offset : Nat := 0
  returned : List InstructionPackage := []
  /-- the last page had no token -/
  finished : Bool := false

/-- `list_packages` of the service, for the next page. -/
def Walk.next (walk : Walk) (store : PackageStore) (limit : Nat) : Walk :=
  if walk.finished then walk
  else
    let (items, totalCount) :=
      listPackages store walk.tenantId walk.snapshotAt limit walk.offset
    let nextOffset := walk.offset + items.length
    { walk with
      offset := nextOffset
      returned := walk.returned ++ items
      finished := !decide (nextOffset < totalCount) }

/-- A step of a release, or the next page of the walk. -/
inductive WalkCall where
  | release (call : PackageCall)
  | page (limit : Nat)

/-- One call. -/
def walkStep (hashing : PackageHashing) (s : PackageService × Walk) :
    WalkCall → PackageService × Walk
  | .release call => (s.1.step hashing call, s.2)
  | .page limit => (s.1, s.2.next s.1.packages limit)

/-- A package that is saved as new during the walk and belongs to its list comes behind all that
was returned. -/
def SavesBehind (s : PackageService × Walk) : WalkCall → Prop
  | .release (.save index) =>
    match s.1.releases[index]? with
    | some ⟨_, .ready package⟩ =>
      s.1.packages.get? package.key = none → s.2.finished = false →
        package.tenantId = s.2.tenantId → package.createdAt ≤ s.2.snapshotAt →
          ∀ earlier ∈ s.2.returned, ¬ package.newer earlier
    | _ => True
  | _ => True

instance (s : PackageService × Walk) (call : WalkCall) : Decidable (SavesBehind s call) := by
  unfold SavesBehind
  split
  · split <;> infer_instance
  · infer_instance

/-! ## The list and a save -/

section Matching

variable {store : PackageStore} {tenantId : String} {createdBefore : Int}
  {package : InstructionPackage}

/-- What the list is ordered by. -/
def InstructionPackage.rank (package : InstructionPackage) : (ℤ ×ₗ String ×ₗ String)ᵒᵈ :=
  OrderDual.toDual (toLex (package.createdAt, toLex (package.packageId, package.packageVersion)))

theorem newer_iff_rank (a b : InstructionPackage) (_ : a.rank ≠ b.rank) :
    a.newer b ↔ a.rank ≤ b.rank :=
  Iff.rfl

theorem nodup_values_key (hkeys : ∀ key p, store.get? key = some p → p.key = key) :
    (store.values.map InstructionPackage.key).Nodup := by
  have hsame : store.values.map InstructionPackage.key = store.keys := by
    unfold Dict.values Dict.keys
    rw [List.map_map]
    refine List.map_congr_left ?_
    rintro ⟨key, p⟩ hmem
    exact hkeys key p ((Dict.get?_eq_some_iff _ _ _).mpr hmem)
  rw [hsame]
  exact store.nodup

theorem mem_matchingPackages {p : InstructionPackage} :
    p ∈ matchingPackages store tenantId createdBefore ↔
      p ∈ store.values ∧ p.tenantId = tenantId ∧ p.createdAt ≤ createdBefore := by
  unfold matchingPackages
  rw [List.mem_insertionSort, List.mem_filter, decide_eq_true_iff]

theorem nodup_rank (hkeys : ∀ key p, store.get? key = some p → p.key = key) :
    ((store.values.filter (fun p => p.tenantId = tenantId ∧ p.createdAt ≤ createdBefore)).map
      InstructionPackage.rank).Nodup := by
  have hkeysNodup := nodup_values_key hkeys
  refine List.Nodup.map_on ?_ ((hkeysNodup.of_map).filter _)
  intro p hp q hq hrank
  rw [List.mem_filter, decide_eq_true_iff] at hp hq
  have hsame : p.key = q.key := by
    have hdual := OrderDual.toDual.injective hrank
    have hpair := toLex.injective hdual
    have hids := toLex.injective (congrArg Prod.snd hpair)
    unfold InstructionPackage.key
    rw [hp.2.1, hq.2.1]
    exact congrArg (Prod.mk tenantId) hids
  exact List.inj_on_of_nodup_map hkeysNodup hp.1 hq.1 hsame

theorem nodup_matchingPackages (hkeys : ∀ key p, store.get? key = some p → p.key = key) :
    (matchingPackages store tenantId createdBefore).Nodup := by
  have hranks : ((store.values.filter (fun p =>
      p.tenantId = tenantId ∧ p.createdAt ≤ createdBefore)).map
        InstructionPackage.rank).Nodup := nodup_rank hkeys
  exact (List.perm_insertionSort _ _).nodup_iff.mpr hranks.of_map

theorem keys_set (hkeys : ∀ key p, store.get? key = some p → p.key = key) :
    ∀ key p, (store.set package.key package).get? key = some p → p.key = key := by
  intro key p hget
  rw [Dict.get?_set] at hget
  split at hget
  · rename_i hkey
    cases hget
    exact hkey.symm
  · exact hkeys key p hget

theorem matchingPackages_set (hkeys : ∀ key p, store.get? key = some p → p.key = key)
    (hfree : store.get? package.key = none) :
    matchingPackages (store.set package.key package) tenantId createdBefore =
      if package.tenantId = tenantId ∧ package.createdAt ≤ createdBefore then
        (matchingPackages store tenantId createdBefore).orderedInsert InstructionPackage.newer
          package
      else matchingPackages store tenantId createdBefore := by
  have hranks : (((store.set package.key package).values.filter (fun p =>
      p.tenantId = tenantId ∧ p.createdAt ≤ createdBefore)).map
        InstructionPackage.rank).Nodup := nodup_rank (keys_set hkeys)
  have hnodup : (store.values.filter (fun p =>
      p.tenantId = tenantId ∧ p.createdAt ≤ createdBefore)).Nodup :=
    ((nodup_values_key hkeys).of_map).filter _
  have hnew : package ∉ store.values := by
    intro hmem
    obtain ⟨key, hget⟩ := (Dict.mem_values_iff _ _).mp hmem
    rw [← hkeys key package hget, hfree] at hget
    cases hget
  unfold matchingPackages
  split
  · rename_i hmatches
    rw [← List.insertionSort_cons]
    refine insertionSort_eq_of_perm ?_ hranks newer_iff_rank newer_iff_rank
    refine (List.perm_ext_iff_of_nodup hranks.of_map (List.nodup_cons.mpr ⟨?_, hnodup⟩)).mpr ?_
    · exact fun hmem => hnew (List.mem_filter.mp hmem).1
    · intro p
      rw [List.mem_cons, List.mem_filter, List.mem_filter, mem_values_set hfree]
      constructor
      · rintro ⟨rfl | hmem, hp⟩
        · exact .inl rfl
        · exact .inr ⟨hmem, hp⟩
      · rintro (rfl | ⟨hmem, hp⟩)
        · exact ⟨.inl rfl, decide_eq_true hmatches⟩
        · exact ⟨.inr hmem, hp⟩
  · rename_i hmatches
    refine insertionSort_eq_of_perm ?_ hranks newer_iff_rank newer_iff_rank
    refine (List.perm_ext_iff_of_nodup hranks.of_map hnodup).mpr ?_
    intro p
    rw [List.mem_filter, List.mem_filter, mem_values_set hfree]
    constructor
    · rintro ⟨rfl | hmem, hp⟩
      · exact absurd (of_decide_eq_true hp) hmatches
      · exact ⟨hmem, hp⟩
    · rintro ⟨hmem, hp⟩
      exact ⟨.inr hmem, hp⟩

end Matching

/-! ## Steps and walks -/

/-- What holds of a walk that began with the packages `initial` in its list. -/
structure WalkSound (initial : List InstructionPackage) (s : PackageService × Walk) : Prop where
  keys : ∀ key p, s.1.packages.get? key = some p → p.key = key
  listed : ∀ p ∈ initial, p ∈ matchingPackages s.1.packages s.2.tenantId s.2.snapshotAt
  nodup : s.2.returned.Nodup
  walking : s.2.finished = false →
    s.2.offset ≤ (matchingPackages s.1.packages s.2.tenantId s.2.snapshotAt).length ∧
      s.2.returned =
        (matchingPackages s.1.packages s.2.tenantId s.2.snapshotAt).take s.2.offset
  complete : s.2.finished = true → ∀ p ∈ initial, p ∈ s.2.returned

variable {initial : List InstructionPackage} {s : PackageService × Walk}

theorem WalkSound.next (h : WalkSound initial s) (limit : Nat) :
    WalkSound initial (s.1, s.2.next s.1.packages limit) := by
  unfold Walk.next
  cases hfinished : s.2.finished with
  | true =>
    rw [if_pos rfl]
    exact h
  | false =>
    rw [if_neg Bool.false_ne_true]
    obtain ⟨hoffset, hreturned⟩ := h.walking hfinished
    -- what was returned is again the front of the list, up to the new offset
    have hfront := take_append_page
      (matchingPackages s.1.packages s.2.tenantId s.2.snapshotAt) s.2.offset limit
    have hend := offset_add_page_le limit hoffset
    dsimp only [listPackages]
    refine ⟨h.keys, h.listed, ?_, ?_, ?_⟩
    · show (s.2.returned ++ page _ s.2.offset limit).Nodup
      rw [hreturned, hfront]
      exact (nodup_matchingPackages h.keys).sublist (List.take_sublist _ _)
    · intro _
      refine ⟨hend, ?_⟩
      show s.2.returned ++ page _ s.2.offset limit = _
      rw [hreturned, hfront]
    · intro hlast p hp
      show p ∈ s.2.returned ++ page _ s.2.offset limit
      rw [hreturned, hfront, List.take_of_length_le]
      · exact h.listed p hp
      · have hnot : ¬ s.2.offset + (page (matchingPackages s.1.packages s.2.tenantId
            s.2.snapshotAt) s.2.offset limit).length <
              (matchingPackages s.1.packages s.2.tenantId s.2.snapshotAt).length := by
          simpa using hlast
        exact Nat.le_of_not_lt hnot

theorem WalkSound.set (h : WalkSound initial s) {service : PackageService}
    {package : InstructionPackage} (hfree : s.1.packages.get? package.key = none)
    (hset : service.packages = s.1.packages.set package.key package)
    (hbehind : s.2.finished = false → package.tenantId = s.2.tenantId →
      package.createdAt ≤ s.2.snapshotAt → ∀ earlier ∈ s.2.returned, ¬ package.newer earlier) :
    WalkSound initial (service, s.2) := by
  refine ⟨?_, ?_, h.nodup, ?_, h.complete⟩
  · intro key p hget
    rw [hset] at hget
    exact keys_set h.keys key p hget
  · intro p hp
    obtain ⟨hmem, hp⟩ := mem_matchingPackages.mp (h.listed p hp)
    refine mem_matchingPackages.mpr ⟨?_, hp⟩
    rw [hset, mem_values_set hfree]
    exact .inr hmem
  · intro hwalking
    obtain ⟨hoffset, hreturned⟩ := h.walking hwalking
    show s.2.offset ≤ (matchingPackages service.packages _ _).length ∧
      s.2.returned = (matchingPackages service.packages _ _).take s.2.offset
    rw [hset, matchingPackages_set h.keys hfree]
    split
    · rename_i hmatches
      rw [List.orderedInsert_length, take_orderedInsert hoffset]
      · exact ⟨Nat.le_succ_of_le hoffset, hreturned⟩
      · rw [← hreturned]
        exact hbehind hwalking hmatches.1 hmatches.2
    · exact ⟨hoffset, hreturned⟩

theorem walkSound_step {hashing : PackageHashing} (s : PackageService × Walk) (call : WalkCall)
    (h : WalkSound initial s) (hbehind : SavesBehind s call) :
    WalkSound initial (walkStep hashing s call) := by
  cases call with
  | page limit => exact h.next limit
  | release call =>
    obtain hsame | ⟨index, command, package, rfl, hrelease, hfree, hset⟩ :=
      PackageService.step_packages hashing s.1 call
    · refine ⟨?_, ?_, h.nodup, ?_, h.complete⟩
      · intro key p hget
        rw [walkStep, hsame] at hget
        exact h.keys key p hget
      · intro p hp
        rw [walkStep, hsame]
        exact h.listed p hp
      · intro hwalking
        rw [walkStep, hsame]
        exact h.walking hwalking
    · unfold SavesBehind at hbehind
      dsimp only at hbehind
      rw [hrelease] at hbehind
      exact h.set hfree hset (hbehind hfree)

/-- A walk returns no package twice, and when it has ended it has returned every package that was
there at its start exactly once, if every package that is saved into its list meanwhile comes
behind all that was returned. -/
theorem listing_snapshot (hashing : PackageHashing) (past : List PackageCall) (tenantId : String)
    (snapshotAt : Int) (calls : List WalkCall)
    (hbehind : Along (walkStep hashing) SavesBehind
      (PackageService.after hashing past, ⟨tenantId, snapshotAt, 0, [], false⟩) calls) :
    let walk := (Runs.run (walkStep hashing)
      (PackageService.after hashing past, ⟨tenantId, snapshotAt, 0, [], false⟩) calls).2
    walk.returned.Nodup ∧
      (walk.finished = true → ∀ package ∈ (PackageService.after hashing past).packages.values,
        package.tenantId = tenantId → package.createdAt ≤ snapshotAt →
          walk.returned.count package = 1) := by
  intro walk
  have hsound := sound_after hashing past
  have hstart : WalkSound
      (matchingPackages (PackageService.after hashing past).packages tenantId snapshotAt)
      (PackageService.after hashing past, ⟨tenantId, snapshotAt, 0, [], false⟩) := by
    refine ⟨fun key p hget => (hsound.stored key p hget).1, fun p hp => hp, List.nodup_nil, ?_,
      nofun⟩
    exact fun _ => ⟨Nat.zero_le _, rfl⟩
  have hend := Runs.run_invariant (WalkSound
    (matchingPackages (PackageService.after hashing past).packages tenantId snapshotAt))
    (fun s call hs hcall => walkSound_step s call hs hcall) hbehind hstart
  refine ⟨hend.nodup, ?_⟩
  intro hfinished package hmem htenant hcreated
  refine List.count_eq_one_of_mem hend.nodup (hend.complete hfinished package ?_)
  exact mem_matchingPackages.mpr ⟨hmem, htenant, hcreated⟩

/-! ### A package that is saved during the walk -/

/-- Two packages are stored, and a third is built and waits for its save. -/
def twoStoredOneBuilt (createdAt : Int) : List PackageCall :=
  releaseSteps 0 (sampleVersion "1" none) 5 ++ releaseSteps 1 (sampleVersion "2" (some "1")) 6 ++
    [.begin (sampleVersion "3" (some "2")), .build 2 sampleSources createdAt]

/-- The third package is saved after the first page. -/
def pagesAroundSave : List WalkCall :=
  [.page 1, .release (.save 2), .page 1, .page 1]

/-- A package that was built after the snapshot does not touch the walk. -/
theorem listing_snapshot_later_package :
    let walk := (Runs.run (walkStep sampleHashing)
      (PackageService.after sampleHashing (twoStoredOneBuilt 11), ⟨"tenant-sg", 10, 0, [], false⟩)
      pagesAroundSave).2
    walk.finished = true ∧ walk.returned.length = 2 ∧ walk.returned.Nodup := by
  intro walk
  obtain ⟨hnodup, _⟩ := listing_snapshot sampleHashing (twoStoredOneBuilt 11) "tenant-sg" 10
    pagesAroundSave (by decide +kernel)
  exact ⟨by decide +kernel, by decide +kernel, hnodup⟩

/-- A package that was built before the snapshot and is saved after the first page moves the
second package to the next page. -/
theorem listing_returns_package_twice :
    let walk := (Runs.run (walkStep sampleHashing)
      (PackageService.after sampleHashing (twoStoredOneBuilt 7), ⟨"tenant-sg", 10, 0, [], false⟩)
      pagesAroundSave).2
    walk.finished = true ∧
      walk.returned.map InstructionPackage.packageVersion = ["2", "2", "1"] ∧
      ¬ walk.returned.Nodup := by
  intro walk
  refine ⟨by decide +kernel, by decide +kernel, ?_⟩
  decide +kernel

end LotusManage.Packages
