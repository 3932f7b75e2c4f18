import LotusManage.RebalanceRuns.Repository

/-!
# Submissions of a simulation

A simulation request first claims its tenant and key, computes outside the lock and then completes under
the claim (`execute_simulation_request` of `src/api/services/rebalance_sync_execution.py`).  The lease
may expire meanwhile and another request may take the claim over; the first one may still try to
complete or to abandon.

In every interleaving at most one completion succeeds for a tenant and key, it is made under the latest
claim, one key never serves two requests, a completed claim is final and a rejected completion changes
nothing.  `ClaimsEffect` says what one call can do to the claims.
-/

namespace LotusManage.RebalanceRuns

/-! ## The request -/

/-- How `_resolved_claim_result` sends a request on. -/
inductive SubmissionOutcome where
  /-- `IDEMPOTENCY_KEY_CONFLICT: request hash mismatch` -/
  | conflict
  /-- `DPM_IDEMPOTENCY_STORE_INCONSISTENT` -/
  | storeInconsistent
  | replay (run : RunRecord)
  /-- The request holds the claim and computes. -/
  | proceed
  /-- Another request holds the claim; this one polls until it is completed or expired. -/
  | waitForWinner
  deriving DecidableEq

/-- `get_run_for_tenant` of the service: expired runs are purged before the read. -/
def lookupRunForTenant (repo : RunRepository) (retentionDays now : Int)
    (tenantId rebalanceRunId : String) : RunRepository × Option RunRecord :=
  let cleaned := (purgeExpiredRuns repo retentionDays now).1
  (cleaned, getRunForTenant cleaned tenantId rebalanceRunId)

/-- `_load_completed_result` -/
def loadCompletedResult (repo : RunRepository) (retentionDays now : Int) (tenantId : String)
    (rebalanceRunId : Option String) : RunRepository × SubmissionOutcome :=
  match rebalanceRunId with
  | none => (repo, .storeInconsistent)
  | some runId =>
    match lookupRunForTenant repo retentionDays now tenantId runId with
    | (cleaned, none) => (cleaned, .storeInconsistent)
    | (cleaned, some run) => (cleaned, .replay run)

/-- `_resolved_claim_result` -/
def resolvedClaimResult (repo : RunRepository) (retentionDays now : Int)
    (call : SubmissionClaimCall) (claim : SubmissionClaimRecord) :
    RunRepository × SubmissionOutcome :=
  if claim.requestHash ≠ call.requestHash then (repo, .conflict)
  else if claim.status = .completed then
    loadCompletedResult repo retentionDays now call.tenantId claim.rebalanceRunId
  else if claim.claimToken = call.claimToken then (repo, .proceed)
  else (repo, .waitForWinner)

/-- The first half of `execute_simulation_request`: claim, and act on the claim found.  The
service keeps `retentionDays`; `now` is the time of the cleanup. -/
def submit (repo : RunRepository) (retentionDays now : Int) (call : SubmissionClaimCall) :
    RunRepository × SubmissionOutcome :=
  resolvedClaimResult (claimSimulationSubmission repo call).1 retentionDays now call
    (claimSimulationSubmission repo call).2

/-- The result of a simulation, as far as the completion reads it. -/
structure SimulationResult where
  rebalanceRunId : String
  correlationId : String
  status : String
  resultJson : String

/-- The metadata of an edge: the request hash under its name, as text. -/
def requestHashMetadata (requestHash : String) : String :=
  "\x7b\"request_hash\":\"" ++ requestHash ++ "\"\x7d"

/-- The call that `complete_simulation_submission` of the service makes.  The artifact is
there when artifacts are persisted. -/
def completionCall (tenantId idempotencyKey requestHash claimToken : String)
    (result : SimulationResult) (portfolioId : String) (artifactJson : Option String)
    (now : Int) : CompletionCall :=
  let edge (source : String) (edgeType : LineageEdgeType) : LineageEdgeRecord :=
    { tenantId := some tenantId
      sourceEntityId := source
      edgeType := edgeType
      targetEntityId := result.rebalanceRunId
      createdAt := now
      metadataJson := requestHashMetadata requestHash }
  { tenantId := tenantId
    idempotencyKey := idempotencyKey
    requestHash := requestHash
    claimToken := claimToken
    run :=
      { tenantId := some tenantId
        rebalanceRunId := result.rebalanceRunId
        correlationId := result.correlationId
        requestHash := requestHash
        idempotencyKey := some idempotencyKey
        portfolioId := portfolioId
        createdAt := now
        resultStatus := result.status
        resultJson := result.resultJson }
    artifactJson := artifactJson
    idempotencyHistory :=
      { tenantId := some tenantId
        idempotencyKey := idempotencyKey
        rebalanceRunId := result.rebalanceRunId
        correlationId := result.correlationId
        requestHash := requestHash
        createdAt := now }
    lineageEdges := [edge result.correlationId .correlationToRun,
      edge idempotencyKey .idempotencyToRun]
    completedAt := now }

/-! ## Executions -/

/-- Whether a claim call takes the claim. -/
def grantsClaim (repo : RunRepository) (call : SubmissionClaimCall) : Bool :=
  match repo.submissionClaims.get? call.key with
  | none => true
  | some existing => takesOver existing call

/-- The repository with the claims granted and the completions accepted so far. -/
structure SubmissionExecution where
  repository : RunRepository
  granted : List SubmissionClaimCall
  completed : List CompletionCall

namespace SubmissionExecution

def new : SubmissionExecution := ⟨.new, [], []⟩

/-- One call, with its entry in the logs. -/
def step (e : SubmissionExecution) (call : RunCall) : SubmissionExecution :=
  { repository := e.repository.step call
    granted :=
      match call with
      | .claim claimCall =>
        if grantsClaim e.repository claimCall then e.granted ++ [claimCall] else e.granted
      | _ => e.granted
    completed :=
      match call with
      | .complete completion =>
        match (completeSimulationSubmission e.repository completion).2 with
        | .ok _ => e.completed ++ [completion]
        | .error _ => e.completed
      | _ => e.completed }

/-- The execution of an interleaving. -/
def after (calls : List RunCall) : SubmissionExecution := Runs.run step new calls

/-- The last call that was granted the claim of a key. -/
def latestGrant (e : SubmissionExecution) (key : String × String) : Option SubmissionClaimCall :=
  e.granted.reverse.find? (fun call => call.key = key)

/-- The calls that were granted the claim of a key. -/
def grantsOf (e : SubmissionExecution) (key : String × String) : List SubmissionClaimCall :=
  e.granted.filter (fun call => call.key = key)

end SubmissionExecution

/-! ## What one call does to the claims -/

/-- The kinds of calls, by what they do to the claims and to the two logs. -/
inductive ClaimsEffect (e e' : SubmissionExecution) : Prop where
  | idle (hclaims : e'.repository.submissionClaims = e.repository.submissionClaims)
      (hgranted : e'.granted = e.granted) (hcompleted : e'.completed = e.completed)
  | granted (call : SubmissionClaimCall) (hgrant : grantsClaim e.repository call = true)
      (hclaims : e'.repository.submissionClaims =
        e.repository.submissionClaims.set call.key call.record)
      (hgranted : e'.granted = e.granted ++ [call]) (hcompleted : e'.completed = e.completed)
  | abandoned (key : String × String) (claim : SubmissionClaimRecord) (abandonedAt : Int)
      (hget : e.repository.submissionClaims.get? key = some claim)
      (hstatus : claim.status = .inProgress)
      (hclaims : e'.repository.submissionClaims =
        e.repository.submissionClaims.set key { claim with claimExpiresAt := abandonedAt })
      (hgranted : e'.granted = e.granted) (hcompleted : e'.completed = e.completed)
  | completed (call : CompletionCall) (claim : SubmissionClaimRecord)
      (hget : e.repository.submissionClaims.get? call.key = some claim)
      (hheld : claimLost claim call = false)
      (hclaims : e'.repository.submissionClaims =
        e.repository.submissionClaims.set call.key (completedClaim call claim))
      (hgranted : e'.granted = e.granted) (hcompleted : e'.completed = e.completed ++ [call])

variable {repo : RunRepository} {call : SubmissionClaimCall}

theorem submissionClaims_purgeExpiredRunRecords (expired : List RunRecord) :
    ∀ repo : RunRepository,
      (purgeExpiredRunRecords repo expired).submissionClaims = repo.submissionClaims := by
  induction expired with
  | nil => exact fun _ => rfl
  | cons run expired ih => exact fun repo => ih _

theorem submissionClaims_purgeExpiredRuns (repo : RunRepository) (retentionDays now : Int) :
    (purgeExpiredRuns repo retentionDays now).1.submissionClaims = repo.submissionClaims := by
  unfold purgeExpiredRuns
  split
  · rfl
  · dsimp only
    split
    · rfl
    · exact submissionClaims_purgeExpiredRunRecords _ repo

theorem submissionClaims_saveRunWithLineage (repo : RunRepository) (run : RunRecord)
    (lineageEdges : List LineageEdgeRecord) :
    (saveRunWithLineage repo run lineageEdges).1.submissionClaims = repo.submissionClaims := by
  unfold saveRunWithLineage
  split
  · rfl
  · split <;> rfl

theorem claimSimulationSubmission_of_grants (h : grantsClaim repo call = true) :
    claimSimulationSubmission repo call =
      ({ repo with submissionClaims := repo.submissionClaims.set call.key call.record },
        call.record) := by
  unfold grantsClaim at h
  unfold claimSimulationSubmission
  split
  · rfl
  · rename_i existing hget
    rw [hget] at h
    simp only [h, if_true]

theorem claimSimulationSubmission_of_not_grants (h : grantsClaim repo call = false) :
    ∃ existing, repo.submissionClaims.get? call.key = some existing ∧
      claimSimulationSubmission repo call = (repo, existing) := by
  unfold grantsClaim at h
  unfold claimSimulationSubmission
  split
  · rename_i hget
    rw [hget] at h
    cases h
  · rename_i existing hget
    rw [hget] at h
    simp only [h]
    exact ⟨existing, hget, rfl⟩

theorem completeSimulationSubmission_of_ok {call : CompletionCall} {u : Unit}
    (h : (completeSimulationSubmission repo call).2 = .ok u) :
    ∃ claim, repo.submissionClaims.get? call.key = some claim ∧ claimLost claim call = false ∧
      (completeSimulationSubmission repo call).1 = publishSubmission repo call claim := by
  unfold completeSimulationSubmission at h ⊢
  split at h
  · cases h
  · rename_i claim hget
    split at h
    · cases h
    · rename_i hheld
      rw [Bool.not_eq_true] at hheld
      simp only [hheld]
      exact ⟨claim, hget, hheld, rfl⟩

theorem completeSimulationSubmission_of_error {call : CompletionCall} {err : RunStoreError}
    (h : (completeSimulationSubmission repo call).2 = .error err) :
    (completeSimulationSubmission repo call).1 = repo := by
  unfold completeSimulationSubmission at h ⊢
  split at h
  · rfl
  · split at h
    · rename_i hlost
      simp only [hlost, if_true]
    · cases h

theorem step_claimsEffect (e : SubmissionExecution) (call : RunCall) :
    ClaimsEffect e (e.step call) := by
  cases call with
  | claim claimCall =>
    cases hgrant : grantsClaim e.repository claimCall with
    | true =>
      refine .granted claimCall hgrant ?_ ?_ rfl
      · simp only [SubmissionExecution.step, RunRepository.step,
          claimSimulationSubmission_of_grants hgrant]
      · simp only [SubmissionExecution.step, hgrant, if_true]
    | false =>
      obtain ⟨existing, _, hclaim⟩ := claimSimulationSubmission_of_not_grants hgrant
      refine .idle ?_ ?_ rfl
      · simp only [SubmissionExecution.step, RunRepository.step, hclaim]
      · simp [SubmissionExecution.step, hgrant]
  | abandon tenantId idempotencyKey claimToken abandonedAt =>
    cases hget : e.repository.submissionClaims.get? (tenantId, idempotencyKey) with
    | none =>
      refine .idle ?_ rfl rfl
      simp only [SubmissionExecution.step, RunRepository.step, abandonSimulationSubmissionClaim,
        hget]
    | some claim =>
      by_cases hheld : claim.status = .inProgress ∧ claim.claimToken = claimToken
      · refine .abandoned (tenantId, idempotencyKey) claim abandonedAt hget hheld.1 ?_ rfl rfl
        simp only [SubmissionExecution.step, RunRepository.step, abandonSimulationSubmissionClaim,
          hget, if_pos hheld]
      · refine .idle ?_ rfl rfl
        simp only [SubmissionExecution.step, RunRepository.step, abandonSimulationSubmissionClaim,
          hget, if_neg hheld]
  | complete completion =>
    cases hresult : (completeSimulationSubmission e.repository completion).2 with
    | ok u =>
      obtain ⟨claim, hget, hheld, hpublish⟩ := completeSimulationSubmission_of_ok hresult
      refine .completed completion claim hget hheld ?_ rfl ?_
      · simp only [SubmissionExecution.step, RunRepository.step, hpublish, publishSubmission]
      · simp only [SubmissionExecution.step, hresult]
    | error err =>
      refine .idle ?_ rfl ?_
      · simp only [SubmissionExecution.step, RunRepository.step,
          completeSimulationSubmission_of_error hresult]
      · simp only [SubmissionExecution.step, hresult]
  | saveRun run => exact .idle rfl rfl rfl
  | saveRunWithLineage run lineageEdges =>
    exact .idle (submissionClaims_saveRunWithLineage e.repository run lineageEdges) rfl rfl
  | saveRunArtifact rebalanceRunId artifactJson => exact .idle rfl rfl rfl
  | saveIdempotencyMapping record => exact .idle rfl rfl rfl
  | appendIdempotencyHistory record => exact .idle rfl rfl rfl
  | appendWorkflowDecision decision => exact .idle rfl rfl rfl
  | appendLineageEdge edge => exact .idle rfl rfl rfl
  | purgeExpiredRuns retentionDays now =>
    exact .idle (submissionClaims_purgeExpiredRuns e.repository retentionDays now) rfl rfl

/-! ## The invariant -/

/-- A stored claim carries the token and the request of its latest grant, every grant of a key
carries the request of its claim, and the completed keys are distinct and stay completed. -/
structure SubmissionInv (e : SubmissionExecution) : Prop where
  held : ∀ key claim, e.repository.submissionClaims.get? key = some claim →
    ∃ latest, e.latestGrant key = some latest ∧ latest.claimToken = claim.claimToken ∧
      latest.requestHash = claim.requestHash
  hash : ∀ call ∈ e.granted, ∃ claim,
    e.repository.submissionClaims.get? call.key = some claim ∧
      claim.requestHash = call.requestHash
  done : ∀ call ∈ e.completed, ∃ claim,
    e.repository.submissionClaims.get? call.key = some claim ∧ claim.status = .completed
  distinct : (e.completed.map CompletionCall.key).Nodup

theorem submissionInv_new : SubmissionInv SubmissionExecution.new := by
  constructor <;> simp [SubmissionExecution.new, RunRepository.new]

section Steps

variable {e e' : SubmissionExecution}

variable {call : SubmissionClaimCall} {claim : SubmissionClaimRecord} {key : String × String}

theorem latestGrant_congr (hgranted : e'.granted = e.granted) (key : String × String) :
    e'.latestGrant key = e.latestGrant key := by
  rw [SubmissionExecution.latestGrant, SubmissionExecution.latestGrant, hgranted]

theorem latestGrant_append (call : SubmissionClaimCall)
    (hgranted : e'.granted = e.granted ++ [call]) (key : String × String) :
    e'.latestGrant key = if call.key = key then some call else e.latestGrant key := by
  rw [SubmissionExecution.latestGrant, hgranted, List.reverse_append, List.reverse_singleton,
    List.singleton_append, List.find?_cons]
  by_cases hkey : call.key = key
  · simp [hkey]
  · simp [hkey, SubmissionExecution.latestGrant]

theorem takesOver_iff (existing : SubmissionClaimRecord) (call : SubmissionClaimCall) :
    takesOver existing call = true ↔ existing.status = .inProgress ∧
      existing.requestHash = call.requestHash ∧ existing.claimExpiresAt ≤ call.claimedAt := by
  simp only [takesOver, Bool.and_eq_true, decide_eq_true_eq, and_assoc]

theorem grantsClaim_existing {repo : RunRepository} (hgrant : grantsClaim repo call = true)
    {existing : SubmissionClaimRecord} (hget : repo.submissionClaims.get? call.key = some existing) :
    existing.status = .inProgress ∧ existing.requestHash = call.requestHash := by
  unfold grantsClaim at hgrant
  rw [hget] at hgrant
  have hover := (takesOver_iff existing call).mp hgrant
  exact ⟨hover.1, hover.2.1⟩

theorem claimLost_eq_false {call : CompletionCall} (h : claimLost claim call = false) :
    claim.status = .inProgress ∧ claim.claimToken = call.claimToken ∧
      claim.requestHash = call.requestHash := by
  simp only [claimLost, Bool.or_eq_false_iff, decide_eq_false_iff_not, ne_eq, not_not] at h
  exact ⟨h.1.1, h.1.2, h.2⟩

theorem SubmissionInv.of_set (hinv : SubmissionInv e) {new : SubmissionClaimRecord}
    (hget : e.repository.submissionClaims.get? key = some claim)
    (hclaims : e'.repository.submissionClaims = e.repository.submissionClaims.set key new)
    (htoken : new.claimToken = claim.claimToken) (hhash : new.requestHash = claim.requestHash)
    (hgranted : e'.granted = e.granted) :
    (∀ key' claim', e'.repository.submissionClaims.get? key' = some claim' →
      ∃ latest, e'.latestGrant key' = some latest ∧ latest.claimToken = claim'.claimToken ∧
        latest.requestHash = claim'.requestHash) ∧
    (∀ call ∈ e'.granted, ∃ claim',
      e'.repository.submissionClaims.get? call.key = some claim' ∧
        claim'.requestHash = call.requestHash) := by
  constructor
  · intro key' claim' hget'
    rw [hclaims, Dict.get?_set] at hget'
    rw [latestGrant_congr hgranted]
    split at hget'
    · rename_i hkey
      cases hget'
      rw [htoken, hhash]
      rw [← hkey] at hget
      exact hinv.held key' claim hget
    · exact hinv.held key' claim' hget'
  · intro call hcall
    rw [hgranted] at hcall
    obtain ⟨claim', hget', hhash'⟩ := hinv.hash call hcall
    rw [hclaims, Dict.get?_set]
    split
    · rename_i hkey
      rw [hkey, hget] at hget'
      cases hget'
      exact ⟨new, rfl, hhash.trans hhash'⟩
    · exact ⟨claim', hget', hhash'⟩

theorem SubmissionInv.of_granted (hinv : SubmissionInv e)
    (hgrant : grantsClaim e.repository call = true) (hclaims : e'.repository.submissionClaims =
      e.repository.submissionClaims.set call.key call.record)
    (hgranted : e'.granted = e.granted ++ [call]) (hcompleted : e'.completed = e.completed) :
    SubmissionInv e' := by
  refine ⟨?_, ?_, ?_, ?_⟩
  · intro key claim hget
    rw [hclaims, Dict.get?_set] at hget
    rw [latestGrant_append call hgranted]
    split at hget
    · rename_i hkey
      cases hget
      rw [if_pos hkey.symm]
      exact ⟨call, rfl, rfl, rfl⟩
    · rename_i hkey
      rw [if_neg (Ne.symm hkey)]
      exact hinv.held key claim hget
  · intro granted hmem
    rw [hclaims, Dict.get?_set]
    rw [hgranted, List.mem_append, List.mem_singleton] at hmem
    rcases hmem with hmem | rfl
    · obtain ⟨claim, hget, hhash⟩ := hinv.hash granted hmem
      split
      · rename_i hkey
        rw [hkey] at hget
        exact ⟨call.record, rfl, ((grantsClaim_existing hgrant hget).2.symm).trans hhash⟩
      · exact ⟨claim, hget, hhash⟩
    · rw [if_pos rfl]
      exact ⟨granted.record, rfl, rfl⟩
  · intro completion hmem
    rw [hcompleted] at hmem
    obtain ⟨claim, hget, hstatus⟩ := hinv.done completion hmem
    rw [hclaims, Dict.get?_set]
    split
    · -- a completed claim is not granted
      rename_i hkey
      rw [hkey] at hget
      rw [(grantsClaim_existing hgrant hget).1] at hstatus
      cases hstatus
    · exact ⟨claim, hget, hstatus⟩
  · rw [hcompleted]
    exact hinv.distinct

theorem SubmissionInv.of_effect (hinv : SubmissionInv e) (heffect : ClaimsEffect e e') :
    SubmissionInv e' := by
  cases heffect with
  | idle hclaims hgranted hcompleted =>
    refine ⟨?_, ?_, ?_, ?_⟩
    · intro key claim hget
      rw [latestGrant_congr hgranted]
      exact hinv.held key claim (hclaims ▸ hget)
    · rw [hgranted, hclaims]
      exact hinv.hash
    · rw [hcompleted, hclaims]
      exact hinv.done
    · rw [hcompleted]
      exact hinv.distinct
  | granted call hgrant hclaims hgranted hcompleted =>
    exact hinv.of_granted hgrant hclaims hgranted hcompleted
  | abandoned key claim abandonedAt hget hstatus hclaims hgranted hcompleted =>
    have hset := hinv.of_set hget hclaims rfl rfl hgranted
    refine ⟨hset.1, hset.2, ?_, ?_⟩
    · intro completion hmem
      rw [hcompleted] at hmem
      obtain ⟨claim', hget', hdone⟩ := hinv.done completion hmem
      rw [hclaims, Dict.get?_set]
      split
      · rename_i hkey
        rw [hkey, hget] at hget'
        cases hget'
        rw [hstatus] at hdone
        cases hdone
      · exact ⟨claim', hget', hdone⟩
    · rw [hcompleted]
      exact hinv.distinct
  | completed call claim hget hheld hclaims hgranted hcompleted =>
    have hset := hinv.of_set hget hclaims rfl rfl hgranted
    have hopen := (claimLost_eq_false hheld).1
    refine ⟨hset.1, hset.2, ?_, ?_⟩
    · intro completion hmem
      rw [hclaims, Dict.get?_set]
      rw [hcompleted, List.mem_append, List.mem_singleton] at hmem
      split
      · exact ⟨_, rfl, rfl⟩
      · rename_i hkey
        rcases hmem with hmem | rfl
        · exact hinv.done completion hmem
        · exact absurd rfl hkey
    · rw [hcompleted, List.map_append, List.nodup_append]
      refine ⟨hinv.distinct, List.nodup_singleton _, ?_⟩
      intro key hmem key' hmem'
      obtain ⟨completion, hdone, rfl⟩ := List.mem_map.mp hmem
      rw [List.map_singleton, List.mem_singleton] at hmem'
      rw [hmem']
      intro hkey
      obtain ⟨claim', hget', hstatus⟩ := hinv.done completion hdone
      rw [hkey, hget] at hget'
      cases hget'
      rw [hopen] at hstatus
      cases hstatus

theorem completed_step (heffect : ClaimsEffect e e')
    (hget : e.repository.submissionClaims.get? key = some claim) (hdone : claim.status = .completed) :
    e'.repository.submissionClaims.get? key = some claim ∧ e'.grantsOf key = e.grantsOf key := by
  cases heffect with
  | idle hclaims hgranted _ =>
    rw [hclaims, SubmissionExecution.grantsOf, SubmissionExecution.grantsOf, hgranted]
    exact ⟨hget, rfl⟩
  | granted call hgrant hclaims hgranted _ =>
    have hne : call.key ≠ key := by
      rintro rfl
      rw [(grantsClaim_existing hgrant hget).1] at hdone
      cases hdone
    rw [hclaims, Dict.get?_set_of_ne _ _ (Ne.symm hne), SubmissionExecution.grantsOf,
      SubmissionExecution.grantsOf, hgranted, List.filter_append]
    exact ⟨hget, by simp [hne]⟩
  | abandoned key' claim' abandonedAt hget' hstatus hclaims hgranted _ =>
    have hne : key ≠ key' := by
      rintro rfl
      rw [hget] at hget'
      cases hget'
      rw [hstatus] at hdone
      cases hdone
    rw [hclaims, Dict.get?_set_of_ne _ _ hne, SubmissionExecution.grantsOf,
      SubmissionExecution.grantsOf, hgranted]
    exact ⟨hget, rfl⟩
  | completed call claim' hget' hheld hclaims hgranted _ =>
    have hne : key ≠ call.key := by
      rintro rfl
      rw [hget] at hget'
      cases hget'
      rw [(claimLost_eq_false hheld).1] at hdone
      cases hdone
    rw [hclaims, Dict.get?_set_of_ne _ _ hne, SubmissionExecution.grantsOf,
      SubmissionExecution.grantsOf, hgranted]
    exact ⟨hget, rfl⟩

end Steps

/-! ## Runs -/

theorem along_true (e : SubmissionExecution) (calls : List RunCall) :
    Runs.Along SubmissionExecution.step (fun _ _ => True) e calls :=
  Runs.Along.of_forall e (fun _ _ => trivial)

theorem submissionInv_after (calls : List RunCall) :
    SubmissionInv (SubmissionExecution.after calls) :=
  Runs.run_invariant _ (fun e call hinv _ => hinv.of_effect (step_claimsEffect e call))
    (along_true _ calls) submissionInv_new

theorem completed_run {past rest : List RunCall} {key : String × String}
    {claim : SubmissionClaimRecord}
    (hget : (SubmissionExecution.after past).repository.submissionClaims.get? key = some claim)
    (hdone : claim.status = .completed) :
    (SubmissionExecution.after (past ++ rest)).repository.submissionClaims.get? key = some claim ∧
      (SubmissionExecution.after (past ++ rest)).grantsOf key =
        (SubmissionExecution.after past).grantsOf key := by
  rw [SubmissionExecution.after, Runs.run_append]
  refine Runs.run_invariant
    (fun e => e.repository.submissionClaims.get? key = some claim ∧
      e.grantsOf key = (SubmissionExecution.after past).grantsOf key) ?_ (along_true _ rest)
    ⟨hget, rfl⟩
  rintro e call ⟨hstored, hgrants⟩ _
  have hstep := completed_step (step_claimsEffect e call) hstored hdone
  exact ⟨hstep.1, hstep.2.trans hgrants⟩

/-- Submissions complete exactly once, over every interleaving of the repository's calls: at
most one completion succeeds for a tenant and key; it carries the token and the request of the
latest granted claim; a request with another hash changes nothing and is a conflict, and one
key is granted to one request hash only; a completed claim stays as it is and is not granted
again; and a rejected completion leaves the repository exactly as it was. -/
theorem submissions_exactly_once (calls : List RunCall) :
    ((SubmissionExecution.after calls).completed.map CompletionCall.key).Nodup ∧
    (∀ call u, (completeSimulationSubmission (SubmissionExecution.after calls).repository
        call).2 = .ok u →
      ∃ latest, (SubmissionExecution.after calls).latestGrant call.key = some latest ∧
        call.claimToken = latest.claimToken ∧ call.requestHash = latest.requestHash) ∧
    (∀ call stored retentionDays now,
      (SubmissionExecution.after calls).repository.submissionClaims.get? call.key = some stored →
      stored.requestHash ≠ call.requestHash →
      submit (SubmissionExecution.after calls).repository retentionDays now call =
        ((SubmissionExecution.after calls).repository, .conflict)) ∧
    (∀ call ∈ (SubmissionExecution.after calls).granted,
      ∀ call' ∈ (SubmissionExecution.after calls).granted, call.key = call'.key →
      call.requestHash = call'.requestHash) ∧
    (∀ past rest, calls = past ++ rest → ∀ key claim,
      (SubmissionExecution.after past).repository.submissionClaims.get? key = some claim →
      claim.status = .completed →
      (SubmissionExecution.after calls).repository.submissionClaims.get? key = some claim ∧
        (SubmissionExecution.after calls).grantsOf key =
          (SubmissionExecution.after past).grantsOf key) ∧
    (∀ call err, (completeSimulationSubmission (SubmissionExecution.after calls).repository
        call).2 = .error err →
      (completeSimulationSubmission (SubmissionExecution.after calls).repository call).1 =
        (SubmissionExecution.after calls).repository) := by
  have hinv := submissionInv_after calls
  refine ⟨hinv.distinct, ?_, ?_, ?_, ?_, fun _ _ => completeSimulationSubmission_of_error⟩
  · intro call u hok
    obtain ⟨claim, hget, hheld, _⟩ := completeSimulationSubmission_of_ok hok
    obtain ⟨_, htoken, hhash⟩ := claimLost_eq_false hheld
    obtain ⟨latest, hlatest, htoken', hhash'⟩ := hinv.held call.key claim hget
    exact ⟨latest, hlatest, (htoken'.trans htoken).symm, (hhash'.trans hhash).symm⟩
  · intro call stored retentionDays now hget hne
    have hgrant : grantsClaim (SubmissionExecution.after calls).repository call = false := by
      by_contra hgrant
      rw [Bool.not_eq_false] at hgrant
      exact hne (grantsClaim_existing hgrant hget).2
    obtain ⟨existing, hexisting, hclaim⟩ := claimSimulationSubmission_of_not_grants hgrant
    rw [hget] at hexisting
    cases hexisting
    rw [submit, hclaim]
    simp only [resolvedClaimResult, if_pos hne]
  · intro call hcall call' hcall' hkey
    obtain ⟨claim, hget, hhash⟩ := hinv.hash call hcall
    obtain ⟨claim', hget', hhash'⟩ := hinv.hash call' hcall'
    rw [← hkey, hget] at hget'
    cases hget'
    exact hhash.symm.trans hhash'
  · rintro past rest rfl key claim hget hdone
    exact completed_run hget hdone

end LotusManage.RebalanceRuns
