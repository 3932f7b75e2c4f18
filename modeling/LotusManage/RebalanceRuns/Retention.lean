import LotusManage.RebalanceRuns.Submissions

/-!
# Retention

`purge_expired_runs` removes the runs older than the retention horizon together with the
records that belong to them.  This module proves what it leaves in each dictionary and
derives from it that a completed claim leads to a stored run, in every run of the
repository in which no purge expires a run that a completed claim points at.

The purge never looks at the claims.  A purge that expires the run of a completed claim
leaves a key under which every later request ends in an inconsistent store.
-/

namespace LotusManage.RebalanceRuns

/-- Every run is stored under its own id. -/
def RunsKeyed (repo : RunRepository) : Prop :=
  ∀ id run, repo.runs.get? id = some run → run.rebalanceRunId = id

/-- The runs that a purge removes.  A horizon below one day disables the purge. -/
def isExpired (retentionDays now : Int) (run : RunRecord) : Bool :=
  decide (1 ≤ retentionDays) && decide (run.createdAt < retentionCutoff retentionDays now)

/-! ## What the purge leaves -/

section Purge

theorem runs_purgeExpiredRunRecords (expired : List RunRecord) :
    ∀ repo : RunRepository, (purgeExpiredRunRecords repo expired).runs =
      (expired.map RunRecord.rebalanceRunId).foldl (fun d k => d.erase k) repo.runs := by
  induction expired with
  | nil => exact fun _ => rfl
  | cons run expired ih => exact fun repo => ih _

theorem runArtifacts_purgeExpiredRunRecords (expired : List RunRecord) :
    ∀ repo : RunRepository, (purgeExpiredRunRecords repo expired).runArtifacts =
      (expired.map RunRecord.rebalanceRunId).foldl (fun d k => d.erase k) repo.runArtifacts := by
  induction expired with
  | nil => exact fun _ => rfl
  | cons run expired ih => exact fun repo => ih _

theorem runIdByCorrelation_purgeExpiredRunRecords {correlationId runId : String}
    (expired : List RunRecord) :
    ∀ repo : RunRepository, runId ∉ expired.map RunRecord.rebalanceRunId →
      repo.runIdByCorrelation.get? correlationId = some runId →
      (purgeExpiredRunRecords repo expired).runIdByCorrelation.get? correlationId = some runId := by
  induction expired with
  | nil => exact fun _ _ h => h
  | cons run expired ih =>
    intro repo hnot hget
    rw [List.map_cons, List.mem_cons, not_or] at hnot
    refine ih _ hnot.2 ?_
    dsimp only
    split
    · rename_i hpopped
      rw [Dict.get?_erase, if_neg]
      · exact hget
      · rintro rfl
        rw [hget] at hpopped
        exact hnot.1 (Option.some.inj hpopped)
    · exact hget

theorem getD_filterRows {κ ν : Type} [DecidableEq κ] (d : Dict κ (List ν)) (keep : ν → Bool)
    (key : κ) : (filterRows d keep).getD key [] = (d.getD key []).filter keep := by
  simp only [Dict.getD, filterRows, Dict.get?_filterMapValues]
  cases d.get? key with
  | none => rfl
  | some rows =>
    rw [Option.bind_some, Option.getD_some]
    split
    · rename_i hempty
      rw [Option.getD_none, List.isEmpty_iff.mp hempty]
    · rw [Option.getD_some]

end Purge

variable {repo : RunRepository} {retentionDays now : Int}

theorem mem_expiredRunIds_iff (hkeyed : RunsKeyed repo) (cutoff : Int) (id : String) :
    id ∈ (expiredRuns repo.runs cutoff).map RunRecord.rebalanceRunId ↔
      ∃ run, repo.runs.get? id = some run ∧ run.createdAt < cutoff := by
  simp only [expiredRuns, List.mem_map, List.mem_filter, Dict.mem_values_iff, decide_eq_true_eq]
  constructor
  · rintro ⟨run, ⟨⟨key, hget⟩, hold⟩, rfl⟩
    rw [hkeyed key run hget]
    exact ⟨run, hget, hold⟩
  · rintro ⟨run, hget, hold⟩
    exact ⟨run, ⟨⟨id, hget⟩, hold⟩, hkeyed id run hget⟩

/-- The identifiers of a run: its id, its correlation id, its key, and the key of a mapping that
leads to it. -/
def Identifies (repo : RunRepository) (run : RunRecord) (id : String) : Prop :=
  id = run.rebalanceRunId ∨ id = run.correlationId ∨
    (run.idempotencyKey = some id ∧ id ≠ "") ∨
    ∃ key mapping, repo.idempotency.get? key = some mapping ∧
      mapping.rebalanceRunId = run.rebalanceRunId ∧ mapping.idempotencyKey = id

/-- The identifiers through which the purge reaches the expired runs. -/
def IdentifiesExpired (repo : RunRepository) (retentionDays now : Int) (id : String) : Prop :=
  ∃ run, repo.runs.get? run.rebalanceRunId = some run ∧
    isExpired retentionDays now run = true ∧ Identifies repo run id

theorem isExpired_iff (hdays : ¬ retentionDays < 1) (run : RunRecord) :
    isExpired retentionDays now run = true ↔ run.createdAt < retentionCutoff retentionDays now := by
  simp only [isExpired, Bool.and_eq_true, decide_eq_true_eq]
  constructor
  · exact And.right
  · exact fun h => ⟨by omega, h⟩

theorem mem_lineageEntityIds_iff (hkeyed : RunsKeyed repo) (hdays : ¬ retentionDays < 1)
    (id : String) :
    id ∈ (purgedIdentities repo (retentionCutoff retentionDays now)).lineageEntityIds ↔
      IdentifiesExpired repo retentionDays now id := by
  have hmem : ∀ run, run ∈ expiredRuns repo.runs (retentionCutoff retentionDays now) ↔
      repo.runs.get? run.rebalanceRunId = some run ∧ isExpired retentionDays now run = true := by
    intro run
    rw [isExpired_iff hdays, expiredRuns, List.mem_filter, Dict.mem_values_iff, decide_eq_true_eq]
    constructor
    · rintro ⟨⟨key, hget⟩, hold⟩
      exact ⟨(hkeyed key run hget).symm ▸ hget, hold⟩
    · rintro ⟨hget, hold⟩
      exact ⟨⟨_, hget⟩, hold⟩
  dsimp only [purgedIdentities, ExpiredRunIdentities.lineageEntityIds, expiredRunIdentities,
    purgedMappingKeys]
  simp only [List.mem_append, List.mem_map, List.mem_filter, List.mem_filterMap, hmem,
    Dict.mem_values_iff, decide_eq_true_eq, IdentifiesExpired, Identifies]
  constructor
  · rintro ((⟨run, hrun, rfl⟩ | ⟨run, hrun, rfl⟩) | (⟨⟨run, hrun, hkey⟩, hne⟩ |
      ⟨mapping, ⟨⟨key, hget⟩, run, hrun, hid⟩, rfl⟩))
    · exact ⟨run, hrun.1, hrun.2, Or.inl rfl⟩
    · exact ⟨run, hrun.1, hrun.2, Or.inr (Or.inl rfl)⟩
    · exact ⟨run, hrun.1, hrun.2, Or.inr (Or.inr (Or.inl ⟨hkey, by simpa using hne⟩))⟩
    · exact ⟨run, hrun.1, hrun.2, Or.inr (Or.inr (Or.inr ⟨key, mapping, hget, hid.symm, rfl⟩))⟩
  · rintro ⟨run, hget, hold, rfl | rfl | ⟨hkey, hne⟩ | ⟨key, mapping, hmapping, hid, rfl⟩⟩
    · exact Or.inl (Or.inl ⟨run, ⟨hget, hold⟩, rfl⟩)
    · exact Or.inl (Or.inr ⟨run, ⟨hget, hold⟩, rfl⟩)
    · exact Or.inr (Or.inl ⟨⟨run, ⟨hget, hold⟩, hkey⟩, by simpa using hne⟩)
    · exact Or.inr (Or.inr ⟨mapping, ⟨⟨key, hmapping⟩, run, ⟨hget, hold⟩, hid.symm⟩, rfl⟩)

/-- The id is that of an expired run. -/
def expiredId (repo : RunRepository) (retentionDays now : Int) (id : String) : Bool :=
  (repo.runs.get? id).any (isExpired retentionDays now)

theorem mem_purgedRunIds_iff (hkeyed : RunsKeyed repo) (hdays : ¬ retentionDays < 1) (now : Int)
    (id : String) :
    id ∈ (purgedIdentities repo (retentionCutoff retentionDays now)).runIds ↔
      expiredId repo retentionDays now id = true := by
  dsimp only [purgedIdentities, expiredRunIdentities]
  rw [mem_expiredRunIds_iff hkeyed, expiredId]
  cases repo.runs.get? id with
  | none => simp
  | some run => simp [isExpired_iff hdays]

theorem purgeExpiredRuns_cases (repo : RunRepository) (retentionDays now : Int) :
    ((∀ id run, repo.runs.get? id = some run → isExpired retentionDays now run = false) ∧
      (purgeExpiredRuns repo retentionDays now).1 = repo) ∨
    (¬ retentionDays < 1 ∧ (purgeExpiredRuns repo retentionDays now).1 =
      { purgeExpiredRunRecords repo
          (expiredRuns repo.runs (retentionCutoff retentionDays now)) with
        idempotency := purgeExpiredIdempotencyMappings repo.idempotency
          (purgedIdentities repo (retentionCutoff retentionDays now)).runIds
        idempotencyHistory := purgeExpiredIdempotencyHistory repo.idempotencyHistory
          (purgedIdentities repo (retentionCutoff retentionDays now)).runIds
        workflowDecisions :=
          (purgedIdentities repo (retentionCutoff retentionDays now)).runIds.foldl
            (fun decisions runId => decisions.erase runId) repo.workflowDecisions
        lineageEdgesByEntity := purgeExpiredLineageEdges repo.lineageEdgesByEntity
          (purgedIdentities repo (retentionCutoff retentionDays now)).lineageEntityIds }) := by
  unfold purgeExpiredRuns
  by_cases hdays : retentionDays < 1
  · rw [if_pos hdays]
    refine Or.inl ⟨fun _ run _ => ?_, rfl⟩
    simp only [isExpired, Bool.and_eq_false_iff, decide_eq_false_iff_not]
    exact Or.inl (by omega)
  · rw [if_neg hdays]
    dsimp only
    split
    · rename_i hempty
      refine Or.inl ⟨fun id run hget => ?_, rfl⟩
      rw [List.isEmpty_iff, expiredRuns, List.filter_eq_nil_iff] at hempty
      have hfresh := hempty run ((repo.runs.mem_values_iff run).mpr ⟨id, hget⟩)
      rw [Bool.eq_false_iff, ne_eq, isExpired_iff hdays]
      simpa using hfresh
    · exact Or.inr ⟨hdays, rfl⟩

theorem expiredId_of_forall
    (h : ∀ id run, repo.runs.get? id = some run → isExpired retentionDays now run = false)
    (id : String) : expiredId repo retentionDays now id = false := by
  rw [expiredId]
  cases hget : repo.runs.get? id with
  | none => rfl
  | some run => exact h id run hget

theorem get?_foldl_erase_purged {ν : Type} (hkeyed : RunsKeyed repo) (hdays : ¬ retentionDays < 1)
    (now : Int) (d : Dict String ν) (id : String) :
    ((purgedIdentities repo (retentionCutoff retentionDays now)).runIds.foldl
        (fun d k => d.erase k) d).get? id =
      if expiredId repo retentionDays now id then none else d.get? id := by
  rw [Dict.get?_foldl_erase]
  simp only [mem_purgedRunIds_iff hkeyed hdays now id]

theorem runs_purgeExpiredRuns (hkeyed : RunsKeyed repo) (retentionDays now : Int) (id : String) :
    (purgeExpiredRuns repo retentionDays now).1.runs.get? id =
      if expiredId repo retentionDays now id then none else repo.runs.get? id := by
  rcases purgeExpiredRuns_cases repo retentionDays now with ⟨hfresh, hsame⟩ | ⟨hdays, hpurged⟩
  · rw [hsame, expiredId_of_forall hfresh]
    rfl
  · rw [hpurged]
    show (purgeExpiredRunRecords repo _).runs.get? id = _
    rw [runs_purgeExpiredRunRecords]
    exact get?_foldl_erase_purged hkeyed hdays now repo.runs id

/-! ## Runs are stored under their ids -/

theorem runs_step_cases (repo : RunRepository) (call : RunCall) :
    (repo.step call).runs = repo.runs ∨
      (∃ run, (repo.step call).runs = repo.runs.set run.rebalanceRunId run) ∨
      ∃ retentionDays now, call = .purgeExpiredRuns retentionDays now := by
  cases call with
  | claim claimCall =>
    refine Or.inl ?_
    simp only [RunRepository.step]
    cases hgrant : grantsClaim repo claimCall with
    | true => rw [claimSimulationSubmission_of_grants hgrant]
    | false =>
      obtain ⟨_, _, hclaim⟩ := claimSimulationSubmission_of_not_grants hgrant
      rw [hclaim]
  | abandon tenantId idempotencyKey claimToken abandonedAt =>
    refine Or.inl ?_
    simp only [RunRepository.step, abandonSimulationSubmissionClaim]
    split
    · rfl
    · split <;> rfl
  | complete completion =>
    simp only [RunRepository.step]
    cases hresult : (completeSimulationSubmission repo completion).2 with
    | error err => exact Or.inl (by rw [completeSimulationSubmission_of_error hresult])
    | ok u =>
      obtain ⟨claim, _, _, hpublish⟩ := completeSimulationSubmission_of_ok hresult
      rw [hpublish]
      exact Or.inr (Or.inl ⟨completion.run, rfl⟩)
  | saveRun run => exact Or.inr (Or.inl ⟨run, rfl⟩)
  | saveRunWithLineage run lineageEdges =>
    simp only [RunRepository.step, saveRunWithLineage]
    split
    · exact Or.inl rfl
    · split
      · exact Or.inl rfl
      · exact Or.inr (Or.inl ⟨run, rfl⟩)
  | saveRunArtifact rebalanceRunId artifactJson => exact Or.inl rfl
  | saveIdempotencyMapping record => exact Or.inl rfl
  | appendIdempotencyHistory record => exact Or.inl rfl
  | appendWorkflowDecision decision => exact Or.inl rfl
  | appendLineageEdge edge => exact Or.inl rfl
  | purgeExpiredRuns retentionDays now => exact Or.inr (Or.inr ⟨retentionDays, now, rfl⟩)

theorem RunsKeyed.step (hkeyed : RunsKeyed repo) (call : RunCall) : RunsKeyed (repo.step call) := by
  intro id stored hget
  rcases runs_step_cases repo call with hsame | ⟨run, hset⟩ | ⟨retentionDays, now, rfl⟩
  · rw [hsame] at hget
    exact hkeyed id stored hget
  · rw [hset, Dict.get?_set] at hget
    split at hget
    · rename_i hid
      cases hget
      exact hid.symm
    · exact hkeyed id stored hget
  · rw [RunRepository.step, runs_purgeExpiredRuns hkeyed] at hget
    split at hget
    · cases hget
    · exact hkeyed id stored hget

theorem runsKeyed_new : RunsKeyed RunRepository.new := by
  simp [RunsKeyed, RunRepository.new]

theorem runsKeyed_after (calls : List RunCall) : RunsKeyed (RunRepository.after calls) := by
  refine Runs.run_invariant RunsKeyed (fun repo call hkeyed _ => ?_)
    (Runs.Along.of_forall _ (fun _ _ => trivial)) runsKeyed_new
  exact RunsKeyed.step hkeyed call

/-! ## Completed claims -/

/-- Every completed claim leads to a stored run that its tenant owns in the sense of `owns`. -/
def ClaimsResolve (owns : String → RunRecord → Prop) (repo : RunRepository) : Prop :=
  ∀ key claim, repo.submissionClaims.get? key = some claim → claim.status = .completed →
    ∃ runId run, claim.rebalanceRunId = some runId ∧ repo.runs.get? runId = some run ∧
      owns key.1 run

/-- No purge expires a run that a completed claim points at. -/
def SparesCompleted (repo : RunRepository) : RunCall → Prop
  | .purgeExpiredRuns retentionDays now => ∀ key claim runId run,
    repo.submissionClaims.get? key = some claim → claim.status = .completed →
    claim.rebalanceRunId = some runId → repo.runs.get? runId = some run →
    isExpired retentionDays now run = false
  | _ => True

/-- The calls keep the owners: a completion stores a run that its tenant owns, and a run that
replaces another one under its id has the owners of the old one. -/
def KeepsOwners (owns : String → RunRecord → Prop) (repo : RunRepository) : RunCall → Prop
  | .complete call => owns call.tenantId call.run ∧
    ∀ old, repo.runs.get? call.run.rebalanceRunId = some old →
      ∀ tenantId, owns tenantId old → owns tenantId call.run
  | .saveRun run => ∀ old, repo.runs.get? run.rebalanceRunId = some old →
    ∀ tenantId, owns tenantId old → owns tenantId run
  | _ => True

/-- The run belongs to the tenant. -/
def OwnedBy (tenantId : String) (run : RunRecord) : Prop := run.tenantId = some tenantId

section Steps

variable {owns : String → RunRecord → Prop} {repo repo' : RunRepository}

variable {key : String × String}

theorem keepsOwners_true (calls : List RunCall) (repo : RunRepository) :
    Runs.Along RunRepository.step (KeepsOwners fun _ _ => True) repo calls := by
  induction calls generalizing repo with
  | nil => trivial
  | cons call calls ih =>
    refine ⟨?_, ih _⟩
    cases call <;> simp [KeepsOwners]

theorem claimsResolve_new : ClaimsResolve owns RunRepository.new := by
  simp [ClaimsResolve, RunRepository.new]

theorem ClaimsResolve.of_open (hinv : ClaimsResolve owns repo) (hruns : repo'.runs = repo.runs)
    {new : SubmissionClaimRecord} (hopen : new.status = .inProgress)
    (hclaims : repo'.submissionClaims = repo.submissionClaims.set key new) :
    ClaimsResolve owns repo' := by
  intro key' claim hget hdone
  rw [hruns]
  rw [hclaims, Dict.get?_set] at hget
  split at hget
  · cases hget
    rw [hopen] at hdone
    cases hdone
  · exact hinv key' claim hget hdone

theorem ClaimsResolve.of_set (hinv : ClaimsResolve owns repo) {run : RunRecord}
    (howner : ∀ old, repo.runs.get? run.rebalanceRunId = some old →
      ∀ tenantId, owns tenantId old → owns tenantId run) {claim : SubmissionClaimRecord}
    (hget : repo.submissionClaims.get? key = some claim) (hdone : claim.status = .completed) :
    ∃ runId stored, claim.rebalanceRunId = some runId ∧
      (repo.runs.set run.rebalanceRunId run).get? runId = some stored ∧ owns key.1 stored := by
  obtain ⟨runId, stored, hid, hstored, howns⟩ := hinv key claim hget hdone
  rw [hid]
  refine ⟨runId, ?_⟩
  rw [Dict.get?_set]
  split
  · rename_i hsame
    rw [hsame] at hstored
    exact ⟨run, rfl, rfl, howner stored hstored key.1 howns⟩
  · exact ⟨stored, rfl, hstored, howns⟩

theorem ClaimsResolve.step (hinv : ClaimsResolve owns repo) (hkeyed : RunsKeyed repo)
    (call : RunCall) (hspares : SparesCompleted repo call)
    (howners : KeepsOwners owns repo call) : ClaimsResolve owns (repo.step call) := by
  cases call with
  | claim claimCall =>
    simp only [RunRepository.step]
    cases hgrant : grantsClaim repo claimCall with
    | true =>
      rw [claimSimulationSubmission_of_grants hgrant]
      exact hinv.of_open rfl rfl rfl
    | false =>
      obtain ⟨_, _, hclaim⟩ := claimSimulationSubmission_of_not_grants hgrant
      rw [hclaim]
      exact hinv
  | abandon tenantId idempotencyKey claimToken abandonedAt =>
    simp only [RunRepository.step, abandonSimulationSubmissionClaim]
    split
    · exact hinv
    · split
      · rename_i hheld
        refine hinv.of_open rfl ?_ rfl
        exact hheld.1
      · exact hinv
  | complete completion =>
    simp only [RunRepository.step]
    cases hresult : (completeSimulationSubmission repo completion).2 with
    | error err =>
      rw [completeSimulationSubmission_of_error hresult]
      exact hinv
    | ok u =>
      obtain ⟨claim, _, _, hpublish⟩ := completeSimulationSubmission_of_ok hresult
      rw [hpublish]
      intro key stored hget hdone
      simp only [publishSubmission, saveRun] at hget ⊢
      rw [Dict.get?_set] at hget
      split at hget
      · -- the completed claim itself leads to the run that was just stored
        rename_i hkey
        cases hget
        rw [hkey]
        exact ⟨_, completion.run, rfl, Dict.get?_set_self _ _ _, howners.1⟩
      · exact hinv.of_set howners.2 hget hdone
  | saveRun run => exact fun key claim hget hdone => hinv.of_set howners hget hdone
  | saveRunWithLineage run lineageEdges =>
    simp only [RunRepository.step, saveRunWithLineage]
    split
    · exact hinv
    · split
      · exact hinv
      · -- the id is new, so no owner is replaced
        rename_i hnew
        rw [Bool.or_eq_true, not_or, Dict.contains, Bool.not_eq_true,
          Option.isSome_eq_false_iff, Option.isNone_iff_eq_none] at hnew
        intro key claim hget hdone
        refine hinv.of_set (fun old hold => ?_) hget hdone
        rw [hnew.1] at hold
        cases hold
  | saveRunArtifact rebalanceRunId artifactJson => exact hinv
  | saveIdempotencyMapping record => exact hinv
  | appendIdempotencyHistory record => exact hinv
  | appendWorkflowDecision decision => exact hinv
  | appendLineageEdge edge => exact hinv
  | purgeExpiredRuns retentionDays now =>
    simp only [RunRepository.step]
    intro key claim hget hdone
    rw [submissionClaims_purgeExpiredRuns] at hget
    obtain ⟨runId, run, hid, hrun, howns⟩ := hinv key claim hget hdone
    refine ⟨runId, run, hid, ?_, howns⟩
    have hfresh : expiredId repo retentionDays now runId = false := by
      rw [expiredId, hrun]
      exact hspares key claim runId run hget hdone hid hrun
    rw [runs_purgeExpiredRuns hkeyed, hfresh]
    exact hrun

theorem claimsResolve_after {calls : List RunCall}
    (hspares : Runs.Along RunRepository.step SparesCompleted RunRepository.new calls)
    (howners : Runs.Along RunRepository.step (KeepsOwners owns) RunRepository.new calls) :
    ClaimsResolve owns (RunRepository.after calls) := by
  refine (Runs.run_invariant (fun repo => RunsKeyed repo ∧ ClaimsResolve owns repo) ?_
    (hspares.and howners) ⟨runsKeyed_new, claimsResolve_new⟩).2
  rintro repo call ⟨hkeyed, hinv⟩ ⟨hcall, hcall'⟩
  exact ⟨hkeyed.step call, hinv.step hkeyed call hcall hcall'⟩

end Steps

theorem get?_claimSimulationSubmission (repo : RunRepository) (call : SubmissionClaimCall) :
    (claimSimulationSubmission repo call).1.submissionClaims.get? call.key =
      some (claimSimulationSubmission repo call).2 := by
  cases hgrant : grantsClaim repo call with
  | true =>
    rw [claimSimulationSubmission_of_grants hgrant]
    exact Dict.get?_set_self _ _ _
  | false =>
    obtain ⟨existing, hget, hclaim⟩ := claimSimulationSubmission_of_not_grants hgrant
    rw [hclaim]
    exact hget

theorem resolvedClaimResult_of_completed {call : SubmissionClaimCall}
    {claim : SubmissionClaimRecord} (hkeyed : RunsKeyed (purgeExpiredRuns repo retentionDays now).1)
    (hinv : ClaimsResolve OwnedBy (purgeExpiredRuns repo retentionDays now).1)
    (hget : repo.submissionClaims.get? call.key = some claim) (hdone : claim.status = .completed)
    (hhash : claim.requestHash = call.requestHash) :
    ∃ run, (resolvedClaimResult repo retentionDays now call claim).2 = .replay run ∧
      claim.rebalanceRunId = some run.rebalanceRunId := by
  rw [← submissionClaims_purgeExpiredRuns repo retentionDays now] at hget
  obtain ⟨runId, run, hid, hrun, howned⟩ := hinv call.key claim hget hdone
  refine ⟨run, ?_, ?_⟩
  · rw [resolvedClaimResult, if_neg (not_not.mpr hhash), if_pos hdone, hid, loadCompletedResult]
    have htenant : run.tenantId = some call.tenantId := howned
    simp only [lookupRunForTenant, getRunForTenant, hrun]
    rw [Option.filter_some, if_pos (decide_eq_true htenant)]
  · rw [hid, hkeyed runId run hrun]

/-- Completed claims resolve, in every run of the repository in which no purge expires a run
that a completed claim points at.  If moreover a run id stays with one tenant, then no request
ends in an inconsistent store, whatever its retention settings as long as its own cleanup
spares the claims too, and a request for a completed claim replays the run of the claim. -/
theorem completed_claims_resolve (calls : List RunCall)
    (hspares : Runs.Along RunRepository.step SparesCompleted RunRepository.new calls) :
    (∀ key claim, (RunRepository.after calls).submissionClaims.get? key = some claim →
      claim.status = .completed →
      ∃ runId run, claim.rebalanceRunId = some runId ∧
        (RunRepository.after calls).runs.get? runId = some run) ∧
    (Runs.Along RunRepository.step (KeepsOwners OwnedBy) RunRepository.new calls →
      ∀ call retentionDays now,
        SparesCompleted ((RunRepository.after calls).step (.claim call))
          (.purgeExpiredRuns retentionDays now) →
        (submit (RunRepository.after calls) retentionDays now call).2 ≠ .storeInconsistent ∧
        ∀ stored, (RunRepository.after calls).submissionClaims.get? call.key = some stored →
          stored.status = .completed → stored.requestHash = call.requestHash →
          ∃ run, (submit (RunRepository.after calls) retentionDays now call).2 = .replay run ∧
            stored.rebalanceRunId = some run.rebalanceRunId) := by
  constructor
  · intro key claim hget hdone
    have hinv := claimsResolve_after hspares (keepsOwners_true calls RunRepository.new)
    obtain ⟨runId, run, hid, hrun, _⟩ := hinv key claim hget hdone
    exact ⟨runId, run, hid, hrun⟩
  · intro howners call retentionDays now hcleanup
    have hkeyed := runsKeyed_after calls
    have hclaimed : ClaimsResolve OwnedBy
        (claimSimulationSubmission (RunRepository.after calls) call).1 :=
      (claimsResolve_after hspares howners).step hkeyed (.claim call) trivial trivial
    have hclaimedKeyed : RunsKeyed (claimSimulationSubmission (RunRepository.after calls) call).1 :=
      hkeyed.step (.claim call)
    have hcleaned : ClaimsResolve OwnedBy (purgeExpiredRuns
        (claimSimulationSubmission (RunRepository.after calls) call).1 retentionDays now).1 :=
      hclaimed.step hclaimedKeyed (.purgeExpiredRuns retentionDays now) hcleanup trivial
    have hcleanedKeyed : RunsKeyed (purgeExpiredRuns
        (claimSimulationSubmission (RunRepository.after calls) call).1 retentionDays now).1 :=
      hclaimedKeyed.step (.purgeExpiredRuns retentionDays now)
    have hget := get?_claimSimulationSubmission (RunRepository.after calls) call
    constructor
    · intro hbad
      rw [submit] at hbad
      by_cases hhash : (claimSimulationSubmission (RunRepository.after calls) call).2.requestHash =
          call.requestHash
      · by_cases hdone :
          (claimSimulationSubmission (RunRepository.after calls) call).2.status = .completed
        · obtain ⟨run, hreplay, _⟩ :=
            resolvedClaimResult_of_completed hcleanedKeyed hcleaned hget hdone hhash
          rw [hreplay] at hbad
          cases hbad
        · rw [resolvedClaimResult, if_neg (not_not.mpr hhash), if_neg hdone] at hbad
          split at hbad <;> cases hbad
      · rw [resolvedClaimResult, if_pos hhash] at hbad
        cases hbad
    · intro stored hstored hdone hhash
      have hgrant : grantsClaim (RunRepository.after calls) call = false := by
        by_contra hgrant
        rw [Bool.not_eq_false] at hgrant
        rw [(grantsClaim_existing hgrant hstored).1] at hdone
        cases hdone
      obtain ⟨existing, hexisting, hclaim⟩ := claimSimulationSubmission_of_not_grants hgrant
      rw [hstored] at hexisting
      cases hexisting
      rw [submit, hclaim]
      rw [hclaim] at hget hcleaned hcleanedKeyed
      exact resolvedClaimResult_of_completed hcleanedKeyed hcleaned hget hdone hhash

/-! ### A request before and after the retention horizon -/

/-- A number of days, in microseconds. -/
def days (n : Int) : Int := n * 86400000000

/-- A request of a tenant under the key `key-1`, with a lease of a minute. -/
def sampleSubmission (tenantId claimToken : String) (claimedAt : Int) : SubmissionClaimCall :=
  { tenantId := tenantId
    idempotencyKey := "key-1"
    requestHash := "sha256:request"
    claimToken := claimToken
    claimedAt := claimedAt
    claimExpiresAt := claimedAt + 60000000 }

/-- The claim of a request and its completion. -/
def submittedRun (tenantId claimToken rebalanceRunId correlationId : String) (now : Int) :
    List RunCall :=
  [.claim (sampleSubmission tenantId claimToken now),
   .complete (completionCall tenantId "key-1" "sha256:request" claimToken
    { rebalanceRunId := rebalanceRunId
      correlationId := correlationId
      status := "READY"
      resultJson := "\x7b\x7d" } "pf_123" none now)]

/-- One submission and a purge a day later, with a horizon of thirty days. -/
def recentCalls : List RunCall :=
  submittedRun "tenant-sg" "token-1" "rr_abc12345" "corr-1" 0 ++ [.purgeExpiredRuns 30 (days 1)]

theorem sparesCompleted_of_values
    (h : ∀ run ∈ repo.runs.values, isExpired retentionDays now run = false) :
    SparesCompleted repo (.purgeExpiredRuns retentionDays now) :=
  fun _ _ runId run _ _ _ hget => h run ((repo.runs.mem_values_iff run).mpr ⟨runId, hget⟩)

theorem completed_claims_resolve_recentCalls :
    ∃ run, (submit (RunRepository.after recentCalls) 30 (days 2)
      (sampleSubmission "tenant-sg" "token-2" (days 2))).2 = .replay run ∧
      some "rr_abc12345" = some run.rebalanceRunId := by
  have hspares : Runs.Along RunRepository.step SparesCompleted RunRepository.new recentCalls :=
    ⟨trivial, trivial, sparesCompleted_of_values (by decide +kernel), trivial⟩
  have howners : Runs.Along RunRepository.step (KeepsOwners OwnedBy) RunRepository.new
      recentCalls := ⟨trivial, ⟨rfl, nofun⟩, trivial, trivial⟩
  obtain ⟨_, hreplay⟩ := (completed_claims_resolve recentCalls hspares).2 howners
    (sampleSubmission "tenant-sg" "token-2" (days 2)) 30 (days 2)
    (sparesCompleted_of_values (by decide +kernel))
  exact hreplay
    { tenantId := "tenant-sg"
      idempotencyKey := "key-1"
      requestHash := "sha256:request"
      status := .completed
      claimToken := "token-1"
      claimedAt := 0
      claimExpiresAt := 0
      rebalanceRunId := some "rr_abc12345"
      completedAt := some 0 } (by decide +kernel) rfl rfl

/-- One submission and a purge a month later. -/
def expiredCalls : List RunCall :=
  submittedRun "tenant-sg" "token-1" "rr_abc12345" "corr-1" 0 ++ [.purgeExpiredRuns 30 (days 31)]

/-- The claim is still completed, its run is gone, and the key answers every identical request
with an inconsistent store. -/
theorem purged_claim_dangles :
    ((RunRepository.after expiredCalls).submissionClaims.get? ("tenant-sg", "key-1")).map
      (fun claim => (claim.status, claim.rebalanceRunId)) =
        some (.completed, some "rr_abc12345") ∧
    (RunRepository.after expiredCalls).runs.get? "rr_abc12345" = none ∧
    (submit (RunRepository.after expiredCalls) 30 (days 32)
      (sampleSubmission "tenant-sg" "token-2" (days 32))).2 = .storeInconsistent := by
  decide +kernel

end LotusManage.RebalanceRuns
