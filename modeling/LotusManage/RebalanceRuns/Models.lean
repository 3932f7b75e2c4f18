import LotusManage.Lib.Dict

/-!
# Run support records

`src/core/rebalance_runs/models.py`: the records that the run repository keeps for a
rebalance run.  A timestamp is its number of microseconds.  A stored JSON document is
its text; of the result of a run the code below reads the status, which is a field of
its own here.
-/

namespace LotusManage.RebalanceRuns

/-- `DpmRunRecord`.  `resultStatus` is `str(result_json.get("status", ""))`. -/
structure RunRecord where
  tenantId : Option String := none
  rebalanceRunId : String
  correlationId : String
  requestHash : String
  idempotencyKey : Option String := none
  portfolioId : String
  createdAt : Int
  resultStatus : String
  resultJson : String
  deriving DecidableEq

/-- `DpmRunIdempotencyRecord` -/
structure RunIdempotencyRecord where
  tenantId : Option String := none
  idempotencyKey : String
  requestHash : String
  rebalanceRunId : String
  createdAt : Int

/-- `DpmRunIdempotencyHistoryRecord` -/
structure RunIdempotencyHistoryRecord where
  tenantId : Option String := none
  idempotencyKey : String
  rebalanceRunId : String
  correlationId : String
  requestHash : String
  createdAt : Int

inductive SubmissionStatus where
  | inProgress
  | completed
  deriving DecidableEq

/-- `DpmSimulationSubmissionClaimRecord` -/
structure SubmissionClaimRecord where
  tenantId : String
  idempotencyKey : String
  requestHash : String
  status : SubmissionStatus
  claimToken : String
  claimedAt : Int
  claimExpiresAt : Int
  rebalanceRunId : Option String := none
  completedAt : Option Int := none
  deriving DecidableEq

inductive LineageEdgeType where
  | correlationToRun
  | idempotencyToRun
  | operationToCorrelation
  | operationToRun
  deriving DecidableEq

/-- `DpmLineageEdgeRecord` -/
structure LineageEdgeRecord where
  tenantId : Option String := none
  sourceEntityId : String
  edgeType : LineageEdgeType
  targetEntityId : String
  createdAt : Int
  metadataJson : String
  deriving DecidableEq

inductive WorkflowStatus where
  | notRequired
  | pendingReview
  | approved
  | rejected
  deriving DecidableEq

inductive WorkflowActionType where
  | approve
  | reject
  | requestChanges
  deriving DecidableEq

/-- `DpmRunWorkflowDecisionRecord` -/
structure RunWorkflowDecisionRecord where
  decisionId : String
  runId : String
  action : WorkflowActionType
  reasonCode : String
  comment : Option String := none
  actorId : String
  decidedAt : Int
  correlationId : String
  deriving DecidableEq

end LotusManage.RebalanceRuns
