import LotusManage.Lib.Runs
import LotusManage.RebalanceRuns.Models

/-!
# The in-memory run repository

`src/infrastructure/rebalance_runs/in_memory.py` with the purge helpers of `in_memory_helpers.py`.
Every method takes the repository's lock, so a method is one function on the repository.  A method that
raises returns the repository as it leaves it next to the error.

The dictionaries are those of the class, except for the two of the asynchronous operations.  Idempotency
records and histories are keyed by tenant and key; the correlation index and the lineage edges are keyed
by the raw identifier.  `RunCall` lists the calls that change these dictionaries.
-/

namespace LotusManage.RebalanceRuns

/-- `InMemoryDpmRunRepository` -/
structure RunRepository where
  runs : Dict String RunRecord
  runIdByCorrelation : Dict String String
  idempotency : Dict (Option String × String) RunIdempotencyRecord
  idempotencyHistory : Dict (Option String × String) (List RunIdempotencyHistoryRecord)
  submissionClaims : Dict (String × String) SubmissionClaimRecord
  runArtifacts : Dict String String
  workflowDecisions : Dict String (List RunWorkflowDecisionRecord)
  lineageEdgesByEntity : Dict String (List LineageEdgeRecord)

/-- `InMemoryDpmRunRepository()` -/
def RunRepository.new : RunRepository :=
  ⟨.empty, .empty, .empty, .empty, .empty, .empty, .empty, .empty⟩

inductive RunStoreError where
  | claimLost
  | runAlreadyExists
  | lineageScopeMismatch

/-- The text of the raised error. -/
def RunStoreError.code : RunStoreError → String
  | claimLost => "DPM_SIMULATION_SUBMISSION_CLAIM_LOST"
  | runAlreadyExists => "DPM_RUN_ALREADY_EXISTS"
  | lineageScopeMismatch => "DPM_RUN_LINEAGE_SCOPE_MISMATCH"

/-- `d.setdefault(key, []).append(row)` -/
def appendRow {κ ν : Type} [DecidableEq κ] (d : Dict κ (List ν)) (key : κ) (row : ν) :
    Dict κ (List ν) :=
  d.set key (d.getD key [] ++ [row])

/-! ## Submission claims -/

/-- The arguments of `claim_simulation_submission`. -/
structure SubmissionClaimCall where
  tenantId : String
  idempotencyKey : String
  requestHash : String
  claimToken : String
  claimedAt : Int
  claimExpiresAt : Int

/-- The key that a claim call addresses. -/
def SubmissionClaimCall.key (call : SubmissionClaimCall) : String × String :=
  (call.tenantId, call.idempotencyKey)

/-- The claim that a granted call stores. -/
def SubmissionClaimCall.record (call : SubmissionClaimCall) : SubmissionClaimRecord :=
  { tenantId := call.tenantId
    idempotencyKey := call.idempotencyKey
    requestHash := call.requestHash
    status := .inProgress
    claimToken := call.claimToken
    claimedAt := call.claimedAt
    claimExpiresAt := call.claimExpiresAt }

/-- The condition under which a call takes an existing claim over: it is in progress for the
same request, and its lease has expired. -/
def takesOver (existing : SubmissionClaimRecord) (call : SubmissionClaimCall) : Bool :=
  decide (existing.status = .inProgress) && decide (existing.requestHash = call.requestHash) &&
    decide (existing.claimExpiresAt ≤ call.claimedAt)

/-- `claim_simulation_submission` -/
def claimSimulationSubmission (repo : RunRepository) (call : SubmissionClaimCall) :
    RunRepository × SubmissionClaimRecord :=
  let granted :=
    ({ repo with submissionClaims := repo.submissionClaims.set call.key call.record }, call.record)
  match repo.submissionClaims.get? call.key with
  | none => granted
  | some existing => if takesOver existing call then granted else (repo, existing)

/-- `abandon_simulation_submission_claim` -/
def abandonSimulationSubmissionClaim (repo : RunRepository)
    (tenantId idempotencyKey claimToken : String) (abandonedAt : Int) : RunRepository :=
  match repo.submissionClaims.get? (tenantId, idempotencyKey) with
  | none => repo
  | some claim =>
    if claim.status = .inProgress ∧ claim.claimToken = claimToken then
      { repo with
        submissionClaims := repo.submissionClaims.set (tenantId, idempotencyKey)
          { claim with claimExpiresAt := abandonedAt } }
    else repo

/-! ## Runs, mappings, decisions and lineage -/

/-- `append_lineage_edge`: an edge is listed under both of its ends. -/
def appendLineageEdge (edges : Dict String (List LineageEdgeRecord)) (edge : LineageEdgeRecord) :
    Dict String (List LineageEdgeRecord) :=
  let withSource := appendRow edges edge.sourceEntityId edge
  if edge.targetEntityId ≠ edge.sourceEntityId then
    appendRow withSource edge.targetEntityId edge
  else withSource

/-- `save_run` -/
def saveRun (repo : RunRepository) (run : RunRecord) : RunRepository :=
  { repo with
    runs := repo.runs.set run.rebalanceRunId run
    runIdByCorrelation := repo.runIdByCorrelation.set run.correlationId run.rebalanceRunId }

/-- `save_run_with_lineage` -/
def saveRunWithLineage (repo : RunRepository) (run : RunRecord)
    (lineageEdges : List LineageEdgeRecord) : RunRepository × Except RunStoreError Unit :=
  if lineageEdges.any (fun edge => decide (edge.tenantId ≠ run.tenantId) ||
      decide (edge.targetEntityId ≠ run.rebalanceRunId)) then
    (repo, .error .lineageScopeMismatch)
  else if repo.runs.contains run.rebalanceRunId ||
      repo.runIdByCorrelation.contains run.correlationId then
    (repo, .error .runAlreadyExists)
  else
    let saved := saveRun repo run
    ({ saved with
      lineageEdgesByEntity := lineageEdges.foldl appendLineageEdge saved.lineageEdgesByEntity },
      .ok ())

/-- `save_run_artifact` -/
def saveRunArtifact (repo : RunRepository) (rebalanceRunId artifactJson : String) :
    RunRepository :=
  { repo with runArtifacts := repo.runArtifacts.set rebalanceRunId artifactJson }

/-- `save_idempotency_mapping` -/
def saveIdempotencyMapping (repo : RunRepository) (record : RunIdempotencyRecord) :
    RunRepository :=
  { repo with
    idempotency := repo.idempotency.set (record.tenantId, record.idempotencyKey) record }

/-- `append_idempotency_history` -/
def appendIdempotencyHistory (repo : RunRepository) (record : RunIdempotencyHistoryRecord) :
    RunRepository :=
  { repo with
    idempotencyHistory :=
      appendRow repo.idempotencyHistory (record.tenantId, record.idempotencyKey) record }

/-- `append_workflow_decision` -/
def appendWorkflowDecision (repo : RunRepository) (decision : RunWorkflowDecisionRecord) :
    RunRepository :=
  { repo with workflowDecisions := appendRow repo.workflowDecisions decision.runId decision }

/-- `list_workflow_decisions` -/
def listWorkflowDecisions (repo : RunRepository) (rebalanceRunId : String) :
    List RunWorkflowDecisionRecord :=
  repo.workflowDecisions.getD rebalanceRunId []

/-- `get_run_for_tenant` -/
def getRunForTenant (repo : RunRepository) (tenantId rebalanceRunId : String) :
    Option RunRecord :=
  (repo.runs.get? rebalanceRunId).filter (fun run => run.tenantId = some tenantId)

/-! ## Completion -/

/-- The arguments of `complete_simulation_submission`. -/
structure CompletionCall where
  tenantId : String
  idempotencyKey : String
  requestHash : String
  claimToken : String
  run : RunRecord
  artifactJson : Option String
  idempotencyHistory : RunIdempotencyHistoryRecord
  lineageEdges : List LineageEdgeRecord
  completedAt : Int

/-- The key that a completion addresses. -/
def CompletionCall.key (call : CompletionCall) : String × String :=
  (call.tenantId, call.idempotencyKey)

/-- The claim is lost: it is completed, or another call holds it. -/
def claimLost (claim : SubmissionClaimRecord) (call : CompletionCall) : Bool :=
  decide (claim.status ≠ .inProgress) || decide (claim.claimToken ≠ call.claimToken) ||
    decide (claim.requestHash ≠ call.requestHash)

/-- The completed claim. -/
def completedClaim (call : CompletionCall) (claim : SubmissionClaimRecord) :
    SubmissionClaimRecord :=
  { claim with
    status := .completed
    rebalanceRunId := some call.run.rebalanceRunId
    completedAt := some call.completedAt
    claimExpiresAt := call.completedAt }

/-- The writes of `complete_simulation_submission` under a claim that is held. -/
def publishSubmission (repo : RunRepository) (call : CompletionCall)
    (claim : SubmissionClaimRecord) : RunRepository :=
  let key : Option String × String := (some call.tenantId, call.idempotencyKey)
  { saveRun repo call.run with
    runArtifacts :=
      match call.artifactJson with
      | none => repo.runArtifacts
      | some artifactJson => repo.runArtifacts.set call.run.rebalanceRunId artifactJson
    idempotency := repo.idempotency.set key
      { tenantId := some call.tenantId
        idempotencyKey := call.idempotencyKey
        requestHash := call.requestHash
        rebalanceRunId := call.run.rebalanceRunId
        createdAt := call.completedAt }
    idempotencyHistory := appendRow repo.idempotencyHistory key call.idempotencyHistory
    lineageEdgesByEntity := call.lineageEdges.foldl appendLineageEdge repo.lineageEdgesByEntity
    submissionClaims := repo.submissionClaims.set call.key (completedClaim call claim) }

/-- `complete_simulation_submission` -/
def completeSimulationSubmission (repo : RunRepository) (call : CompletionCall) :
    RunRepository × Except RunStoreError Unit :=
  match repo.submissionClaims.get? call.key with
  | none => (repo, .error .claimLost)
  | some claim =>
    if claimLost claim call then (repo, .error .claimLost)
    else (publishSubmission repo call claim, .ok ())

/-! ## Retention -/

/-- `now - timedelta(days=retention_days)` -/
def retentionCutoff (retentionDays now : Int) : Int := now - retentionDays * 86400000000

/-- `_expired_runs` -/
def expiredRuns (runs : Dict String RunRecord) (cutoff : Int) : List RunRecord :=
  runs.values.filter (fun run => run.createdAt < cutoff)

/-- `_ExpiredRunIdentities` -/
structure ExpiredRunIdentities where
  runIds : List String
  correlationIds : List String
  idempotencyKeys : List String

/-- `lineage_entity_ids` -/
def ExpiredRunIdentities.lineageEntityIds (ids : ExpiredRunIdentities) : List String :=
  ids.runIds ++ ids.correlationIds ++ ids.idempotencyKeys

/-- `_expired_run_identities` -/
def expiredRunIdentities (expired : List RunRecord) : ExpiredRunIdentities :=
  { runIds := expired.map RunRecord.rebalanceRunId
    correlationIds := expired.map RunRecord.correlationId
    idempotencyKeys := (expired.filterMap RunRecord.idempotencyKey).filter (· ≠ "") }

/-- `_purge_expired_run_records` -/
def purgeExpiredRunRecords (repo : RunRepository) (expired : List RunRecord) : RunRepository :=
  expired.foldl (fun repo run =>
    { repo with
      runs := repo.runs.erase run.rebalanceRunId
      runArtifacts := repo.runArtifacts.erase run.rebalanceRunId
      runIdByCorrelation :=
        if repo.runIdByCorrelation.get? run.correlationId = some run.rebalanceRunId then
          repo.runIdByCorrelation.erase run.correlationId
        else repo.runIdByCorrelation }) repo

/-- The mappings that `_purge_expired_idempotency_mappings` leaves. -/
def purgeExpiredIdempotencyMappings
    (idempotency : Dict (Option String × String) RunIdempotencyRecord)
    (expiredRunIds : List String) : Dict (Option String × String) RunIdempotencyRecord :=
  idempotency.filterMapValues
    (fun _ mapping => if mapping.rebalanceRunId ∈ expiredRunIds then none else some mapping)

/-- The keys that `_purge_expired_idempotency_mappings` adds to the expired keys. -/
def purgedMappingKeys (idempotency : Dict (Option String × String) RunIdempotencyRecord)
    (expiredRunIds : List String) : List String :=
  (idempotency.values.filter (fun mapping => mapping.rebalanceRunId ∈ expiredRunIds)).map
    RunIdempotencyRecord.idempotencyKey

/-- Keep the rows of every list that satisfy a condition, and drop the lists left empty. -/
def filterRows {κ ν : Type} (d : Dict κ (List ν)) (keep : ν → Bool) : Dict κ (List ν) :=
  d.filterMapValues (fun _ rows =>
    if (rows.filter keep).isEmpty then none else some (rows.filter keep))

/-- `_purge_expired_idempotency_history` -/
def purgeExpiredIdempotencyHistory
    (history : Dict (Option String × String) (List RunIdempotencyHistoryRecord))
    (expiredRunIds : List String) :
    Dict (Option String × String) (List RunIdempotencyHistoryRecord) :=
  filterRows history (fun row => row.rebalanceRunId ∉ expiredRunIds)

/-- `_purge_expired_lineage_edges` -/
def purgeExpiredLineageEdges (edges : Dict String (List LineageEdgeRecord))
    (expiredEntities : List String) : Dict String (List LineageEdgeRecord) :=
  filterRows edges (fun edge =>
    edge.sourceEntityId ∉ expiredEntities ∧ edge.targetEntityId ∉ expiredEntities)

/-- The identities of the runs that a purge with this cutoff removes, with the keys of the
mappings that lead to them. -/
def purgedIdentities (repo : RunRepository) (cutoff : Int) : ExpiredRunIdentities :=
  let identities := expiredRunIdentities (expiredRuns repo.runs cutoff)
  { identities with
    idempotencyKeys :=
      identities.idempotencyKeys ++ purgedMappingKeys repo.idempotency identities.runIds }

/-- `purge_expired_runs` -/
def purgeExpiredRuns (repo : RunRepository) (retentionDays now : Int) : RunRepository × Nat :=
  if retentionDays < 1 then (repo, 0)
  else
    let cutoff := retentionCutoff retentionDays now
    let expired := expiredRuns repo.runs cutoff
    if expired.isEmpty then (repo, 0)
    else
      let identities := purgedIdentities repo cutoff
      ({ purgeExpiredRunRecords repo expired with
        idempotency := purgeExpiredIdempotencyMappings repo.idempotency identities.runIds
        idempotencyHistory :=
          purgeExpiredIdempotencyHistory repo.idempotencyHistory identities.runIds
        workflowDecisions :=
          identities.runIds.foldl (fun decisions runId => decisions.erase runId)
            repo.workflowDecisions
        lineageEdgesByEntity :=
          purgeExpiredLineageEdges repo.lineageEdgesByEntity identities.lineageEntityIds },
        expired.length)

/-! ## Calls and runs -/

/-- A call that changes the repository. -/
inductive RunCall where
  | claim (call : SubmissionClaimCall)
  | abandon (tenantId idempotencyKey claimToken : String) (abandonedAt : Int)
  | complete (call : CompletionCall)
  | saveRun (run : RunRecord)
  | saveRunWithLineage (run : RunRecord) (lineageEdges : List LineageEdgeRecord)
  | saveRunArtifact (rebalanceRunId artifactJson : String)
  | saveIdempotencyMapping (record : RunIdempotencyRecord)
  | appendIdempotencyHistory (record : RunIdempotencyHistoryRecord)
  | appendWorkflowDecision (decision : RunWorkflowDecisionRecord)
  | appendLineageEdge (edge : LineageEdgeRecord)
  | purgeExpiredRuns (retentionDays now : Int)

/-- The repository after one call. -/
def RunRepository.step (repo : RunRepository) : RunCall → RunRepository
  | .claim call => (claimSimulationSubmission repo call).1
  | .abandon tenantId idempotencyKey claimToken abandonedAt =>
    abandonSimulationSubmissionClaim repo tenantId idempotencyKey claimToken abandonedAt
  | .complete call => (completeSimulationSubmission repo call).1
  | .saveRun run => RebalanceRuns.saveRun repo run
  | .saveRunWithLineage run lineageEdges =>
    (RebalanceRuns.saveRunWithLineage repo run lineageEdges).1
  | .saveRunArtifact rebalanceRunId artifactJson =>
    RebalanceRuns.saveRunArtifact repo rebalanceRunId artifactJson
  | .saveIdempotencyMapping record => RebalanceRuns.saveIdempotencyMapping repo record
  | .appendIdempotencyHistory record => RebalanceRuns.appendIdempotencyHistory repo record
  | .appendWorkflowDecision decision => RebalanceRuns.appendWorkflowDecision repo decision
  | .appendLineageEdge edge =>
    { repo with
      lineageEdgesByEntity := RebalanceRuns.appendLineageEdge repo.lineageEdgesByEntity edge }
  | .purgeExpiredRuns retentionDays now =>
    (RebalanceRuns.purgeExpiredRuns repo retentionDays now).1

/-- The repository after an interleaving of calls. -/
def RunRepository.after (calls : List RunCall) : RunRepository :=
  Runs.run RunRepository.step RunRepository.new calls

end LotusManage.RebalanceRuns
