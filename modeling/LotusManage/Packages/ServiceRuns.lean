import LotusManage.Lib.Runs
import LotusManage.Packages.Repository

/-!
# Interleavings of releases

`release` of `src/api/services/instruction_package_application.py`, in the steps between which
other clients may run: the read under the exact key, the build with its supersession check, the
save, and the second read after a lost race.  `ReleasePhase` is where a release stands, and
`PackageService` has the packages and every release that was begun.

`release` is the whole of it by one client with nothing in between.
-/

namespace LotusManage.Packages

/-! ## The phases of a release -/

/-- Where a release stands. -/
inductive ReleasePhase where
  /-- no package was found under the key -/
  | building
  /-- the package is built and approved -/
  | ready (package : InstructionPackage)
  /-- a race may be lost: the key is read again, and without a package the error is raised -/
  | rereading (raised : PackageError)
  /-- an equal package was there: it is read -/
  | confirming
  /-- what the caller got -/
  | answered (answer : Except PackageError (InstructionPackage × Bool))

/-- The read under the exact key. -/
def readPhase (store : PackageStore) (command : ReleaseCommand) (absent : ReleasePhase) :
    ReleasePhase :=
  match immutableReleaseWinner store command with
  | .error e => .answered (.error e)
  | .ok none => absent
  | .ok (some existing) => .answered (.ok (existing, false))

/-- The build, with the comparison of the approved material. -/
def buildPhase (hashing : PackageHashing) (store : PackageStore) (sources : ReleaseSources)
    (createdAt : Int) (command : ReleaseCommand) : ReleasePhase :=
  match buildPackage hashing store sources createdAt command with
  | .error e =>
    if e = .refused "INSTRUCTION_PACKAGE_SUPERSESSION_REQUIRED" then .rereading e
    else .answered (.error e)
  | .ok (package, materialHash) =>
    if command.approvalEvidence.approvedMaterialHash ≠ materialHash then
      .answered (.error (.refused "INSTRUCTION_PACKAGE_APPROVAL_MATERIAL_MISMATCH"))
    else .ready package

/-- The save. -/
def savePhase (store : PackageStore) (package : InstructionPackage) :
    PackageStore × ReleasePhase :=
  match savePackage store package with
  | .error e => (store, .rereading e)
  | .ok (store', true) => (store', .answered (.ok (package, true)))
  | .ok (store', false) => (store', .confirming)

/-- The read of the package that was there. -/
def confirmPhase (store : PackageStore) (command : ReleaseCommand) : ReleasePhase :=
  match store.get? command.key with
  | none => .answered (.error (.refused "INSTRUCTION_PACKAGE_REPLAY_UNAVAILABLE"))
  | some existing => .answered (.ok (existing, false))

/-! ## The service -/

/-- A release that was begun. -/
structure Release where
  command : ReleaseCommand
  phase : ReleasePhase

/-- The packages, and the releases in the order in which they were begun. -/
structure PackageService where
  packages : PackageStore
  releases : List Release

/-- One step of a release.  An index names a release that was begun.  The build takes what the
other repositories answer at that time, and the clock. -/
inductive PackageCall where
  | begin (command : ReleaseCommand)
  | build (index : Nat) (sources : ReleaseSources) (createdAt : Int)
  | save (index : Nat)
  | reread (index : Nat)

namespace PackageService

/-- Before the first release. -/
def new : PackageService := ⟨.empty, []⟩

/-- A release moves to another phase. -/
def move (s : PackageService) (index : Nat) (release : Release) (phase : ReleasePhase) :
    PackageService :=
  { s with releases := s.releases.set index { release with phase := phase } }

/-- One step.  A call that does not fit the phase of its release does nothing. -/
def step (hashing : PackageHashing) (s : PackageService) : PackageCall → PackageService
  | .begin command =>
    { s with releases := s.releases ++ [⟨command, readPhase s.packages command .building⟩] }
  | .build index sources createdAt =>
    match s.releases[index]? with
    | some ⟨command, .building⟩ =>
      s.move index ⟨command, .building⟩
        (buildPhase hashing s.packages sources createdAt command)
    | _ => s
  | .save index =>
    match s.releases[index]? with
    | some ⟨command, .ready package⟩ =>
      let saved := savePhase s.packages package
      { s.move index ⟨command, .ready package⟩ saved.2 with packages := saved.1 }
    | _ => s
  | .reread index =>
    match s.releases[index]? with
    | some ⟨command, .rereading raised⟩ =>
      s.move index ⟨command, .rereading raised⟩
        (readPhase s.packages command (.answered (.error raised)))
    | some ⟨command, .confirming⟩ =>
      s.move index ⟨command, .confirming⟩ (confirmPhase s.packages command)
    | _ => s

/-- The service after an interleaving of steps. -/
def after (hashing : PackageHashing) (calls : List PackageCall) : PackageService :=
  Runs.run (step hashing) new calls

end PackageService

/-! ## A release by itself -/

/-- `release`: the packages after it, and what the caller gets.  All reads after the first are of
the same packages. -/
def release (hashing : PackageHashing) (store : PackageStore) (sources : ReleaseSources)
    (createdAt : Int) (command : ReleaseCommand) :
    PackageStore × Except PackageError (InstructionPackage × Bool) :=
  match immutableReleaseWinner store command with
  | .error e => (store, .error e)
  | .ok (some existing) => (store, .ok (existing, false))
  | .ok none =>
    match buildPackage hashing store sources createdAt command with
    | .error e =>
      -- nothing is stored under the key, so the second read raises the first error
      (store, .error e)
    | .ok (package, materialHash) =>
      if command.approvalEvidence.approvedMaterialHash ≠ materialHash then
        (store, .error (.refused "INSTRUCTION_PACKAGE_APPROVAL_MATERIAL_MISMATCH"))
      else
        match savePackage store package with
        | .error e => (store, .error e)
        | .ok (store', true) => (store', .ok (package, true))
        | .ok (store', false) =>
          match store'.get? command.key with
          | none => (store', .error (.refused "INSTRUCTION_PACKAGE_REPLAY_UNAVAILABLE"))
          | some existing => (store', .ok (existing, false))

end LotusManage.Packages
