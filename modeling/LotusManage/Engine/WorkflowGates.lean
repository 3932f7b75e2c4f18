import LotusManage.Engine.Compliance
import Mathlib.Data.List.Sort

/-!
# Workflow gates

`src/core/common/workflow_gates.py`.  The gate of a run is the first route of an
ordered list whose condition holds.  The conditions read the status of the run,
the failed rules, the new suitability issues and two options; the last route has
no condition.
-/

namespace LotusManage.Engine

inductive GateName where
  | blocked
  | riskReviewRequired
  | complianceReviewRequired
  | mandateApprovalRequired
  | executionReady
  deriving DecidableEq

inductive NextStep where
  | fixInput
  | riskReview
  | complianceReview
  | requestMandateApproval
  | execute
  deriving DecidableEq

inductive ReasonSeverity where
  | high
  | medium
  | low
  deriving DecidableEq

/-- `_SEVERITY_ORDER` -/
def ReasonSeverity.order : ReasonSeverity → Nat
  | high => 0
  | medium => 1
  | low => 2

structure GateReason where
  reasonCode : String
  severity : ReasonSeverity
  source : String
  details : List (String × String)

structure GateDecisionSummary where
  hardFailCount : Nat
  softFailCount : Nat
  newHighSuitabilityCount : Nat
  newMediumSuitabilityCount : Nat

structure GateDecision where
  gate : GateName
  recommendedNextStep : NextStep
  reasons : List GateReason
  summary : GateDecisionSummary

inductive SuitabilityStatusChange where
  | new
  | resolved
  | persistent
  deriving DecidableEq

structure SuitabilityIssue where
  issueId : String
  issueKey : String
  severity : ReasonSeverity
  statusChange : SuitabilityStatusChange

/-! ## Reasons -/

/-- The reason of a data-quality bucket that has entries. -/
def dqReason (reasonCode : String) (bucket : List String) : List GateReason :=
  if bucket = [] then []
  else [⟨reasonCode, .high, "DATA_QUALITY", [("count", toString bucket.length)]⟩]

/-- `_dq_reasons` -/
def dqReasons (diagnostics : DiagnosticsData) : List GateReason :=
  dqReason "DATA_QUALITY_MISSING_PRICE" diagnostics.dataQuality.priceMissing ++
    dqReason "DATA_QUALITY_MISSING_FX" diagnostics.dataQuality.fxMissing ++
    dqReason "DATA_QUALITY_MIN_TRADE_THRESHOLD_FX_UNAVAILABLE"
      diagnostics.dataQuality.minimumTradeThresholdFxUnavailable

/-- The reason of a failed rule in `_rule_reasons`. -/
def ruleReason (rule : RuleResult) : Option GateReason :=
  if rule.failedAs .hard then
    some ⟨"HARD_RULE_FAIL:" ++ rule.ruleId, .high, "RULE_ENGINE",
      [("reason_code", rule.reasonCode)]⟩
  else if rule.failedAs .soft then
    some ⟨"SOFT_RULE_FAIL:" ++ rule.ruleId, .medium, "RULE_ENGINE",
      [("reason_code", rule.reasonCode)]⟩
  else none

/-- `hard_fail_count` and `soft_fail_count` of `_rule_reasons` -/
def failCount (ruleResults : List RuleResult) (severity : Severity) : Nat :=
  ruleResults.countP (·.failedAs severity)

/-- `_suitability_issue_reason` -/
def suitabilityIssueReason (issue : SuitabilityIssue) : Option GateReason :=
  if issue.statusChange ≠ .new then none
  else
    match issue.severity with
    | .high =>
      some ⟨"NEW_HIGH_SUITABILITY_ISSUE", .high, "SUITABILITY",
        [("issue_id", issue.issueId), ("issue_key", issue.issueKey)]⟩
    | .medium =>
      some ⟨"NEW_MEDIUM_SUITABILITY_ISSUE", .medium, "SUITABILITY",
        [("issue_id", issue.issueId), ("issue_key", issue.issueKey)]⟩
    | .low => none

/-- `new_high` and `new_medium` of `_suitability_reasons` -/
def newIssueCount (issues : List SuitabilityIssue) (severity : ReasonSeverity) : Nat :=
  issues.countP (fun issue => issue.statusChange = .new ∧ issue.severity = severity)

/-- The last component of the sort key of a reason. -/
def reasonDetail (reason : GateReason) : String :=
  match reason.details.lookup "issue_key" with
  | some issueKey => issueKey
  | none => (reason.details.lookup "reason_code").getD ""

/-- The sort key of a reason is at most the other one. -/
def gateReasonLe (a b : GateReason) : Bool :=
  a.severity.order < b.severity.order ∨ a.severity.order = b.severity.order ∧
    (a.source < b.source ∨ a.source = b.source ∧
      (a.reasonCode < b.reasonCode ∨ a.reasonCode = b.reasonCode ∧
        ¬ reasonDetail b < reasonDetail a))

/-- `_sorted_gate_reasons` -/
def sortedGateReasons (reasons : List GateReason) : List GateReason :=
  reasons.insertionSort (fun a b => gateReasonLe a b)

/-! ## Routes -/

/-- `_GateRouteContext` -/
structure GateRouteContext where
  status : RunStatus
  hardFailCount : Nat
  softFailCount : Nat
  newHigh : Nat
  newMedium : Nat
  mandateApprovalAlreadyObtained : Bool
  requiresMandateApproval : Bool

/-- `_select_gate_route` along `_GATE_ROUTE_PRECEDENCE` -/
def selectGateRoute (context : GateRouteContext) : GateName × NextStep :=
  if context.status = .blocked ∨ context.hardFailCount > 0 then (.blocked, .fixInput)
  else if context.newHigh > 0 then (.complianceReviewRequired, .complianceReview)
  else if context.softFailCount > 0 ∨ context.newMedium > 0 then
    (.riskReviewRequired, .riskReview)
  else if context.mandateApprovalAlreadyObtained then (.executionReady, .execute)
  else if context.requiresMandateApproval then
    (.mandateApprovalRequired, .requestMandateApproval)
  else (.executionReady, .execute)

/-- `evaluate_gate_decision`; no suitability result is the empty issue list. -/
def evaluateGateDecision (status : RunStatus) (ruleResults : List RuleResult)
    (suitability : List SuitabilityIssue) (diagnostics : DiagnosticsData)
    (options : EngineOptions) (defaultRequiresMandateApproval : Bool) : GateDecision :=
  let context : GateRouteContext :=
    { status := status
      hardFailCount := failCount ruleResults .hard
      softFailCount := failCount ruleResults .soft
      newHigh := newIssueCount suitability .high
      newMedium := newIssueCount suitability .medium
      mandateApprovalAlreadyObtained := options.mandateApprovalAlreadyObtained
      requiresMandateApproval :=
        options.workflowRequiresMandateApproval || defaultRequiresMandateApproval }
  let route := selectGateRoute context
  { gate := route.1
    recommendedNextStep := route.2
    reasons := sortedGateReasons (ruleResults.filterMap ruleReason ++
      suitability.filterMap suitabilityIssueReason ++ dqReasons diagnostics)
    summary := ⟨context.hardFailCount, context.softFailCount, context.newHigh,
      context.newMedium⟩ }

end LotusManage.Engine
