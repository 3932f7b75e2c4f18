import Mathlib.Data.List.Infix
import LotusManage.Packages.ReleaseFacts

/-!
# What a step of a release does

`step_packages` sorts the steps by what they do to the packages: only a save adds one, under a
key that was free, and nothing is ever changed.  `mem_releases_step` says where a release of the
next state comes from.  From the two follows `Sound`, which holds after every interleaving: what
is stored and what is ready was built from a command and approved, a ready package has passed the
supersession check against packages that are still there, and an accepted release has its package
stored.
-/

namespace LotusManage.Packages

/-! ## Approved packages -/

/-- A package with the hashes that it carries. -/
structure Approved (hashing : PackageHashing) (package : InstructionPackage) : Prop where
  content : package.contentHash = hashing.package package.hashPayload
  approval : package.approvalEvidence.approvedMaterialHash = hashing.material package.material

/-- The package that the command supersedes is stored and of the same wave item. -/
def SupersessionChecked (store : PackageStore) (command : ReleaseCommand) : Prop :=
  ∀ packageId packageVersion, command.supersedesPackageId = some packageId →
    command.supersedesPackageVersion = some packageVersion →
      ∃ previous, store.get? (command.tenantId, packageId, packageVersion) = some previous ∧
        previous.waveId = command.waveId ∧ previous.waveItemId = command.waveItemId

variable {store : PackageStore} {command : ReleaseCommand} {hashing : PackageHashing}
  {package : InstructionPackage} {past : List PackageCall}

theorem supersessionChecked_of_validate (h : validateSupersession store command = .ok ()) :
    SupersessionChecked store command := by
  intro packageId packageVersion hid hversion
  unfold validateSupersession at h
  rw [hid, hversion] at h
  dsimp only at h
  split at h
  · cases h
  · rename_i previous hprevious
    split at h
    · cases h
    · rename_i hsame
      obtain ⟨hwave, hitem⟩ := not_or.mp hsame
      exact ⟨previous, hprevious, not_not.mp hwave, not_not.mp hitem⟩

theorem buildPhase_ready {sources : ReleaseSources} {createdAt : Int}
    (h : buildPhase hashing store sources createdAt command = .ready package) :
    BuiltFrom command package ∧ Approved hashing package ∧ SupersessionChecked store command := by
  unfold buildPhase at h
  split at h
  · split at h
    · cases h
    · cases h
  · rename_i built materialHash hbuild
    split at h
    · cases h
    · rename_i happroved
      cases h
      obtain ⟨hbuilt, hsupersession, hcontent, hmaterial⟩ := builtFrom_of_buildPackage hbuild
      refine ⟨hbuilt, ⟨hcontent, ?_⟩, supersessionChecked_of_validate hsupersession⟩
      obtain ⟨_, _, happroval, _⟩ := hbuilt.governance
      rw [happroval, not_not.mp happroved]
      exact hmaterial

theorem buildPhase_cases (hashing : PackageHashing) (store : PackageStore)
    (sources : ReleaseSources) (createdAt : Int) (command : ReleaseCommand) :
    (∃ package, buildPhase hashing store sources createdAt command = .ready package) ∨
      (∃ e, buildPhase hashing store sources createdAt command = .rereading e) ∨
      (∃ e, buildPhase hashing store sources createdAt command = .answered (.error e)) := by
  unfold buildPhase
  split
  · split
    · exact .inr (.inl ⟨_, rfl⟩)
    · exact .inr (.inr ⟨_, rfl⟩)
  · split
    · exact .inr (.inr ⟨_, rfl⟩)
    · exact .inl ⟨_, rfl⟩

/-! ## Steps -/

namespace PackageService

variable {hashing : PackageHashing} {s : PackageService}

variable {key : String × String × String} {package : InstructionPackage}

theorem step_packages (hashing : PackageHashing) (s : PackageService) (call : PackageCall) :
    (s.step hashing call).packages = s.packages ∨
      ∃ index command package, call = .save index ∧
        s.releases[index]? = some ⟨command, .ready package⟩ ∧
        s.packages.get? package.key = none ∧
        (s.step hashing call).packages = s.packages.set package.key package := by
  cases call with
  | begin command => exact .inl rfl
  | build index sources createdAt =>
    unfold step
    dsimp only
    split
    · exact .inl rfl
    · exact .inl rfl
  | save index =>
    unfold step
    dsimp only
    split
    · rename_i command package hrelease
      unfold savePhase savePackage
      split
      · exact .inl rfl
      · rename_i store' hsave
        split at hsave
        · split at hsave
          · cases hsave
          · cases hsave
        · rename_i hfree
          cases hsave
          exact .inr ⟨index, command, package, rfl, hrelease, hfree, rfl⟩
      · rename_i store' hsave
        split at hsave
        · split at hsave
          · cases hsave
          · cases hsave
            exact .inl rfl
        · cases hsave
    · exact .inl rfl
  | reread index =>
    unfold step
    dsimp only
    split
    · exact .inl rfl
    · exact .inl rfl
    · exact .inl rfl

/-- Where a release of the next state comes from, when it is not one of this state. -/
inductive Moved (hashing : PackageHashing) (s : PackageService) (call : PackageCall) :
    Release → Prop where
  | begun (command : ReleaseCommand) :
      Moved hashing s call ⟨command, readPhase s.packages command .building⟩
  | built (command : ReleaseCommand) (sources : ReleaseSources) (createdAt : Int) :
      Moved hashing s call ⟨command, buildPhase hashing s.packages sources createdAt command⟩
  | saved {command : ReleaseCommand} {package : InstructionPackage}
      (hmem : ⟨command, .ready package⟩ ∈ s.releases)
      (hpackages : (s.step hashing call).packages = (savePhase s.packages package).1) :
      Moved hashing s call ⟨command, (savePhase s.packages package).2⟩
  | reread (command : ReleaseCommand) (raised : PackageError) :
      Moved hashing s call
        ⟨command, readPhase s.packages command (.answered (.error raised))⟩
  | confirmed {command : ReleaseCommand} (hmem : ⟨command, .confirming⟩ ∈ s.releases) :
      Moved hashing s call ⟨command, confirmPhase s.packages command⟩

theorem mem_releases_step {call : PackageCall} {r : Release}
    (h : r ∈ (s.step hashing call).releases) : r ∈ s.releases ∨ Moved hashing s call r := by
  cases call with
  | begin command =>
    obtain h | h := List.mem_append.mp h
    · exact .inl h
    · rw [List.mem_singleton] at h
      subst h
      exact .inr (.begun command)
  | build index sources createdAt =>
    unfold step at h
    dsimp only at h
    split at h
    · obtain h | rfl := List.mem_or_eq_of_mem_set h
      · exact .inl h
      · exact .inr (.built _ sources createdAt)
    · exact .inl h
  | save index =>
    cases hrelease : s.releases[index]? with
    | none =>
      unfold step at h
      dsimp only at h
      rw [hrelease] at h
      exact .inl h
    | some release =>
      obtain ⟨command, phase⟩ := release
      unfold step at h
      dsimp only at h
      rw [hrelease] at h
      cases phase with
      | ready package =>
        obtain h | rfl := List.mem_or_eq_of_mem_set h
        · exact .inl h
        · refine .inr (.saved (List.mem_of_getElem? hrelease) ?_)
          unfold step
          dsimp only
          rw [hrelease]
      | building => exact .inl h
      | rereading raised => exact .inl h
      | confirming => exact .inl h
      | answered answer => exact .inl h
  | reread index =>
    unfold step at h
    dsimp only at h
    split at h
    · obtain h | rfl := List.mem_or_eq_of_mem_set h
      · exact .inl h
      · exact .inr (.reread _ _)
    · rename_i command hrelease
      obtain h | rfl := List.mem_or_eq_of_mem_set h
      · exact .inl h
      · exact .inr (.confirmed (List.mem_of_getElem? hrelease))
    · exact .inl h

theorem after_concat (past : List PackageCall) (call : PackageCall) :
    after hashing (past ++ [call]) = (after hashing past).step hashing call :=
  Runs.run_append _ _ _ _

theorem get?_step (call : PackageCall) (h : s.packages.get? key = some package) :
    (s.step hashing call).packages.get? key = some package := by
  obtain hsame | ⟨_, _, added, _, _, hfree, hset⟩ := step_packages hashing s call
  · rw [hsame, h]
  · rw [hset, Dict.get?_set_of_ne _ _ ?_, h]
    rintro rfl
    rw [hfree] at h
    cases h

theorem get?_after (past rest : List PackageCall)
    (h : (after hashing past).packages.get? key = some package) :
    (after hashing (past ++ rest)).packages.get? key = some package := by
  unfold after at h ⊢
  rw [Runs.run_append]
  exact Runs.run_keeps (fun s : PackageService => s.packages.get? key = some package)
    (fun s call hs => get?_step call hs) rest h

end PackageService

/-! ## What holds after every interleaving -/

/-- The package that is ready to be saved. -/
def Release.readyPackage? : Release → Option InstructionPackage
  | ⟨_, .ready package⟩ => some package
  | _ => none

/-- The packages that were ready at some time of the run. -/
def builtIn (hashing : PackageHashing) (calls : List PackageCall) : List InstructionPackage :=
  calls.inits.flatMap (fun past =>
    (PackageService.after hashing past).releases.filterMap Release.readyPackage?)

theorem builtIn_mono {calls : List PackageCall} (h : past <+: calls) :
    builtIn hashing past ⊆ builtIn hashing calls := by
  intro package hmem
  obtain ⟨earlier, hearlier, hready⟩ := List.mem_flatMap.mp hmem
  refine List.mem_flatMap.mpr ⟨earlier, ?_, hready⟩
  exact (List.mem_inits _ _).mpr (((List.mem_inits _ _).mp hearlier).trans h)

theorem mem_builtIn_of_ready
    (h : ⟨command, .ready package⟩ ∈ (PackageService.after hashing past).releases) :
    package ∈ builtIn hashing past := by
  refine List.mem_flatMap.mpr ⟨past, (List.mem_inits _ _).mpr (List.prefix_refl _), ?_⟩
  exact List.mem_filterMap.mpr ⟨_, h, rfl⟩

/-- A stored package has the content hash of one that was built from the command. -/
def BuiltAlike (hashing : PackageHashing) (past : List PackageCall) (command : ReleaseCommand)
    (existing : InstructionPackage) : Prop :=
  ∃ package ∈ builtIn hashing past, BuiltFrom command package ∧ Approved hashing package ∧
    existing.contentHash = package.contentHash

/-- What is known of a release in each of its phases. -/
def ReleaseSound (hashing : PackageHashing) (past : List PackageCall) (store : PackageStore) :
    Release → Prop
  | ⟨command, .ready package⟩ =>
    BuiltFrom command package ∧ Approved hashing package ∧ package ∈ builtIn hashing past ∧
      SupersessionChecked store command
  | ⟨command, .confirming⟩ =>
    ∃ existing, store.get? command.key = some existing ∧
      BuiltAlike hashing past command existing
  | ⟨command, .answered (.ok (package, _))⟩ =>
    store.get? command.key = some package ∧
      (matchesImmutableReplay package command ∨ BuiltAlike hashing past command package)
  | _ => True

/-- What holds of the packages and the releases after an interleaving. -/
structure Sound (hashing : PackageHashing) (past : List PackageCall) (s : PackageService) :
    Prop where
  stored : ∀ (key : String × String × String) (package : InstructionPackage),
    s.packages.get? key = some package →
      package.key = key ∧ package ∈ builtIn hashing past ∧ Approved hashing package ∧
        ∃ command, BuiltFrom command package ∧ SupersessionChecked s.packages command
  releases : ∀ r ∈ s.releases, ReleaseSound hashing past s.packages r

section Sound

variable {hashing : PackageHashing} {past calls : List PackageCall} {store store' : PackageStore}

variable {command : ReleaseCommand}

theorem SupersessionChecked.mono (h : SupersessionChecked store command)
    (hstore : ∀ key package, store.get? key = some package → store'.get? key = some package) :
    SupersessionChecked store' command := by
  intro packageId packageVersion hid hversion
  obtain ⟨previous, hprevious, hscope⟩ := h packageId packageVersion hid hversion
  exact ⟨previous, hstore _ _ hprevious, hscope⟩

theorem BuiltAlike.mono {existing : InstructionPackage}
    (h : BuiltAlike hashing past command existing) (hpast : past <+: calls) :
    BuiltAlike hashing calls command existing := by
  obtain ⟨package, hmem, hbuilt⟩ := h
  exact ⟨package, builtIn_mono hpast hmem, hbuilt⟩

theorem ReleaseSound.mono {r : Release} (h : ReleaseSound hashing past store r)
    (hpast : past <+: calls)
    (hstore : ∀ key package, store.get? key = some package → store'.get? key = some package) :
    ReleaseSound hashing calls store' r := by
  obtain ⟨command, phase⟩ := r
  cases phase with
  | building | rereading => trivial
  | ready package =>
    obtain ⟨hbuilt, happroved, hmem, hchecked⟩ := h
    exact ⟨hbuilt, happroved, builtIn_mono hpast hmem, hchecked.mono hstore⟩
  | confirming =>
    obtain ⟨existing, hexisting, halike⟩ := h
    exact ⟨existing, hstore _ _ hexisting, halike.mono hpast⟩
  | answered answer =>
    cases answer with
    | error e => trivial
    | ok answer =>
      obtain ⟨hstored, hcase⟩ := h
      exact ⟨hstore _ _ hstored, hcase.imp_right (fun halike => halike.mono hpast)⟩

theorem releaseSound_readPhase {absent : ReleasePhase}
    (habsent : ReleaseSound hashing past store ⟨command, absent⟩) :
    ReleaseSound hashing past store ⟨command, readPhase store command absent⟩ := by
  unfold readPhase immutableReleaseWinner
  cases hstored : store.get? command.key with
  | none => exact habsent
  | some existing =>
    dsimp only
    by_cases hmatches : matchesImmutableReplay existing command
    · rw [if_pos hmatches]
      exact ⟨hstored, .inl hmatches⟩
    · rw [if_neg hmatches]
      trivial

theorem releaseSound_savePhase {package : InstructionPackage}
    (h : ReleaseSound hashing past store ⟨command, .ready package⟩) :
    ReleaseSound hashing past (savePhase store package).1
      ⟨command, (savePhase store package).2⟩ := by
  obtain ⟨hbuilt, happroved, hmem, _⟩ := h
  unfold savePhase savePackage
  cases hstored : store.get? package.key with
  | none =>
    dsimp only
    refine ⟨?_, .inr ⟨package, hmem, hbuilt, happroved, rfl⟩⟩
    rw [← hbuilt.key]
    exact Dict.get?_set_self _ _ _
  | some existing =>
    dsimp only
    by_cases hhash : existing.contentHash = package.contentHash
    · rw [if_neg (not_not.mpr hhash)]
      exact ⟨existing, hbuilt.key ▸ hstored, package, hmem, hbuilt, happroved, hhash⟩
    · rw [if_pos hhash]
      trivial

theorem releaseSound_confirmPhase (h : ReleaseSound hashing past store ⟨command, .confirming⟩) :
    ReleaseSound hashing past store ⟨command, confirmPhase store command⟩ := by
  obtain ⟨existing, hstored, halike⟩ := h
  unfold confirmPhase
  rw [hstored]
  exact ⟨hstored, .inr halike⟩

end Sound

/-- Every step keeps `Sound`. -/
theorem sound_step (call : PackageCall) (h : Sound hashing past (PackageService.after hashing past)) :
    Sound hashing (past ++ [call]) (PackageService.after hashing (past ++ [call])) := by
  have hpast : past <+: past ++ [call] := List.prefix_append _ _
  have hkept : ∀ key package, (PackageService.after hashing past).packages.get? key =
      some package → (PackageService.after hashing (past ++ [call])).packages.get? key =
        some package := by
    intro key package hstored
    exact PackageService.get?_after past [call] hstored
  constructor
  · intro key package hstored
    rw [PackageService.after_concat] at hstored
    obtain hsame | ⟨index, command, added, _, hrelease, _, hset⟩ :=
      PackageService.step_packages hashing (PackageService.after hashing past) call
    · rw [hsame] at hstored
      obtain ⟨hkey, hmem, happroved, command, hbuilt, hchecked⟩ := h.stored key package hstored
      exact ⟨hkey, builtIn_mono hpast hmem, happroved, command, hbuilt, hchecked.mono hkept⟩
    · rw [hset, Dict.get?_set] at hstored
      split at hstored
      · rename_i hkey
        cases hstored
        obtain ⟨hbuilt, happroved, hmem, hchecked⟩ :=
          h.releases _ (List.mem_of_getElem? hrelease)
        exact ⟨hkey.symm, builtIn_mono hpast hmem, happroved, command, hbuilt, hchecked.mono hkept⟩
      · obtain ⟨hkey, hmem, happroved, command, hbuilt, hchecked⟩ := h.stored key package hstored
        exact ⟨hkey, builtIn_mono hpast hmem, happroved, command, hbuilt, hchecked.mono hkept⟩
  · intro r hr
    have hr' := hr
    rw [PackageService.after_concat] at hr'
    obtain hold | hmoved := PackageService.mem_releases_step hr'
    · exact (h.releases r hold).mono hpast hkept
    · cases hmoved with
      | begun command =>
        have habsent : ReleaseSound hashing past (PackageService.after hashing past).packages
          ⟨command, .building⟩ := trivial
        exact (releaseSound_readPhase habsent).mono hpast hkept
      | reread command raised =>
        have habsent : ReleaseSound hashing past (PackageService.after hashing past).packages
          ⟨command, .answered (.error raised)⟩ := trivial
        exact (releaseSound_readPhase habsent).mono hpast hkept
      | confirmed hmem =>
        exact (releaseSound_confirmPhase (h.releases _ hmem)).mono hpast hkept
      | built command sources createdAt =>
        obtain ⟨package, hphase⟩ | ⟨e, hphase⟩ | ⟨e, hphase⟩ := buildPhase_cases hashing
          (PackageService.after hashing past).packages sources createdAt command
        · rw [hphase] at hr ⊢
          obtain ⟨hbuilt, happroved, hchecked⟩ := buildPhase_ready hphase
          exact ⟨hbuilt, happroved, mem_builtIn_of_ready hr, hchecked.mono hkept⟩
        · rw [hphase]
          trivial
        · rw [hphase]
          trivial
      | saved hmem hpackages =>
        rw [PackageService.after_concat, hpackages]
        exact (releaseSound_savePhase (h.releases _ hmem)).mono hpast (fun _ _ hstored => hstored)

theorem sound_after (hashing : PackageHashing) (calls : List PackageCall) :
    Sound hashing calls (PackageService.after hashing calls) := by
  induction calls using List.reverseRecOn with
  | nil =>
    constructor
    · intro key package hstored
      cases hstored
    · intro r hr
      cases hr
  | append_singleton past call ih => exact sound_step call ih

end LotusManage.Packages
