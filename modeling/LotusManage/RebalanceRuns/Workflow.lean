import LotusManage.RebalanceRuns.Repository

/-!
# The review workflow of a run

`src/core/rebalance_runs/workflow.py`, `workflow_projection.py` and `apply_workflow_action` of
`service.py`.

An action on a run reads the decisions of the run, takes the latest, resolves the status it leads to,
looks the action up in the transition table and appends a new decision.  No lock is held from the read
to the append, so the calls of several clients interleave between these steps, and `ReviewState` keeps
what each client has read.

The appended decisions are a path of the table when each append is made while the decision that the
client took for the latest is still the last one.  Two clients that both read before either appends
leave a path that the table does not have.
-/

namespace LotusManage.RebalanceRuns

/-! ## Transitions -/

/-- `VALID_WORKFLOW_TRANSITIONS` -/
def validWorkflowTransitions : Dict (WorkflowStatus × WorkflowActionType) WorkflowStatus :=
  .ofEntries
    [((.pendingReview, .approve), .approved),
     ((.pendingReview, .reject), .rejected),
     ((.pendingReview, .requestChanges), .pendingReview),
     ((.approved, .requestChanges), .pendingReview),
     ((.approved, .reject), .rejected),
     ((.rejected, .requestChanges), .pendingReview)]

/-- `workflow_required_for_run_status` -/
def workflowRequiredForRunStatus (workflowEnabled : Bool) (runStatus : String)
    (requiresReviewForStatuses : List String) : Bool :=
  workflowEnabled && decide (runStatus ∈ requiresReviewForStatuses)

/-- `status_for_action` -/
def statusForAction : WorkflowActionType → WorkflowStatus
  | .approve => .approved
  | .reject => .rejected
  | .requestChanges => .pendingReview

/-- `resolve_workflow_status` -/
def resolveWorkflowStatus (workflowEnabled : Bool) (runStatus : String)
    (latestDecision : Option RunWorkflowDecisionRecord)
    (requiresReviewForStatuses : List String) : WorkflowStatus :=
  if !workflowRequiredForRunStatus workflowEnabled runStatus requiresReviewForStatuses then
    .notRequired
  else
    match latestDecision with
    | none => .pendingReview
    | some decision => statusForAction decision.action

/-- `resolve_workflow_transition` -/
def resolveWorkflowTransition (currentStatus : WorkflowStatus) (action : WorkflowActionType) :
    Option WorkflowStatus :=
  validWorkflowTransitions.get? (currentStatus, action)

/-- `latest_workflow_decision`: the first decision with the greatest `decided_at`. -/
def latestWorkflowDecision : List RunWorkflowDecisionRecord → Option RunWorkflowDecisionRecord
  | [] => none
  | decision :: decisions =>
    some (decisions.foldl
      (fun latest d => if latest.decidedAt < d.decidedAt then d else latest) decision)

theorem resolveWorkflowTransition_eq {status next : WorkflowStatus} {action : WorkflowActionType}
    (h : resolveWorkflowTransition status action = some next) : next = statusForAction action := by
  revert h
  cases status <;> cases action <;> cases next <;> decide

/-! ## Clients -/

/-- The settings of `DpmRunSupportService` that the workflow reads. -/
structure WorkflowSettings where
  workflowEnabled : Bool
  requiresReviewForStatuses : List String

/-- The arguments of `apply_workflow_action` next to the run id. -/
structure WorkflowRequest where
  action : WorkflowActionType
  reasonCode : String
  comment : Option String
  actorId : String
  correlationId : String

/-- `build_workflow_decision_record` -/
def buildWorkflowDecisionRecord (rebalanceRunId : String) (request : WorkflowRequest)
    (decisionId : String) (decidedAt : Int) : RunWorkflowDecisionRecord :=
  { decisionId := decisionId
    runId := rebalanceRunId
    action := request.action
    reasonCode := request.reasonCode
    comment := request.comment
    actorId := request.actorId
    decidedAt := decidedAt
    correlationId := request.correlationId }

/-- Where a client stands in `apply_workflow_action`. -/
inductive ReviewClient where
  | idle
  /-- It has read the run and its latest decision. -/
  | hasRead (request : WorkflowRequest) (runStatus : String)
      (latestDecision : Option RunWorkflowDecisionRecord)
  /-- It has resolved the transition and goes on to append. -/
  | hasResolved (request : WorkflowRequest) (latestDecision : Option RunWorkflowDecisionRecord)

/-- The repository and the clients that act on one run. -/
structure ReviewState where
  repository : RunRepository
  clients : Nat → ReviewClient

/-- One step of one client. -/
inductive ReviewStep where
  | read (client : Nat) (request : WorkflowRequest)
  | resolve (client : Nat)
  | append (client : Nat) (decisionId : String) (decidedAt : Int)

namespace ReviewState

variable (settings : WorkflowSettings) (rebalanceRunId : String)

/-- All clients are idle. -/
def start (repository : RunRepository) : ReviewState := ⟨repository, fun _ => .idle⟩

/-- The decisions recorded for the run. -/
def history (s : ReviewState) : List RunWorkflowDecisionRecord :=
  listWorkflowDecisions s.repository rebalanceRunId

/-- The state with a client moved on. -/
def setClient (s : ReviewState) (client : Nat) (next : ReviewClient) : ReviewState :=
  { s with clients := Function.update s.clients client next }

/-- One step.  A client that raises is idle again. -/
def step (s : ReviewState) : ReviewStep → ReviewState
  | .read client request =>
    match s.clients client, s.repository.runs.get? rebalanceRunId with
    | .idle, some run =>
      if workflowRequiredForRunStatus settings.workflowEnabled run.resultStatus
          settings.requiresReviewForStatuses then
        s.setClient client (.hasRead request run.resultStatus
          (latestWorkflowDecision (s.history rebalanceRunId)))
      else s
    | _, _ => s
  | .resolve client =>
    match s.clients client with
    | .hasRead request runStatus latestDecision =>
      let currentStatus := resolveWorkflowStatus settings.workflowEnabled runStatus latestDecision
        settings.requiresReviewForStatuses
      match resolveWorkflowTransition currentStatus request.action with
      | none => s.setClient client .idle
      | some _ => s.setClient client (.hasResolved request latestDecision)
    | _ => s
  | .append client decisionId decidedAt =>
    match s.clients client with
    | .hasResolved request _ =>
      { s.setClient client .idle with
        repository := appendWorkflowDecision s.repository
          (buildWorkflowDecisionRecord rebalanceRunId request decisionId decidedAt) }
    | _ => s

end ReviewState

/-- The decisions are a path of the transition table from `PENDING_REVIEW`. -/
def LegalHistory (decisions : List RunWorkflowDecisionRecord) : Prop :=
  (decisions.foldlM (fun status decision => resolveWorkflowTransition status decision.action)
    WorkflowStatus.pendingReview).isSome = true

instance (decisions : List RunWorkflowDecisionRecord) : Decidable (LegalHistory decisions) :=
  inferInstanceAs (Decidable (_ = true))

/-- The decision that an appending client took for the latest is still the last one. -/
def appendsToLatest (rebalanceRunId : String) (s : ReviewState) : ReviewStep → Bool
  | .append client _ _ =>
    match s.clients client with
    | .hasResolved _ latestDecision =>
      decide ((s.history rebalanceRunId).getLast? = latestDecision)
    | _ => true
  | _ => true

/-! ## The invariant -/

/-- The status that a decision leaves the run in. -/
def statusAfter (decision : Option RunWorkflowDecisionRecord) : WorkflowStatus :=
  match decision with
  | none => .pendingReview
  | some decision => statusForAction decision.action

/-- The decisions are a legal path that ends where the last one leads, and a client that is
about to append has a valid transition from the decision it read. -/
structure ReviewInv (rebalanceRunId : String) (s : ReviewState) : Prop where
  path : (s.history rebalanceRunId).foldlM
    (fun status decision => resolveWorkflowTransition status decision.action)
    WorkflowStatus.pendingReview = some (statusAfter (s.history rebalanceRunId).getLast?)
  valid : ∀ client request latestDecision,
    s.clients client = .hasResolved request latestDecision →
    (resolveWorkflowTransition (statusAfter latestDecision) request.action).isSome = true

section Steps

variable {settings : WorkflowSettings} {rebalanceRunId : String} {s : ReviewState}

variable {latestDecision : Option RunWorkflowDecisionRecord}

theorem resolveWorkflowStatus_of_required {runStatus : String}
    (h : resolveWorkflowStatus settings.workflowEnabled runStatus latestDecision
      settings.requiresReviewForStatuses ≠ .notRequired) :
    resolveWorkflowStatus settings.workflowEnabled runStatus latestDecision
      settings.requiresReviewForStatuses = statusAfter latestDecision := by
  unfold resolveWorkflowStatus at h ⊢
  split
  · rename_i hrequired
    rw [if_pos hrequired] at h
    exact absurd rfl h
  · rfl

theorem ne_notRequired_of_transition {status : WorkflowStatus} {action : WorkflowActionType}
    (h : (resolveWorkflowTransition status action).isSome = true) : status ≠ .notRequired := by
  rintro rfl
  revert h
  cases action <;> decide

theorem ReviewInv.setClient (hinv : ReviewInv rebalanceRunId s) (client : Nat)
    {next : ReviewClient}
    (hnext : ∀ request latestDecision, next = .hasResolved request latestDecision →
      (resolveWorkflowTransition (statusAfter latestDecision) request.action).isSome = true) :
    ReviewInv rebalanceRunId (s.setClient client next) := by
  refine ⟨hinv.path, ?_⟩
  intro other request latestDecision hother
  simp only [ReviewState.setClient] at hother
  by_cases hsame : other = client
  · rw [hsame, Function.update_self] at hother
    exact hnext request latestDecision hother
  · rw [Function.update_of_ne hsame] at hother
    exact hinv.valid other request latestDecision hother

theorem history_append (rebalanceRunId : String)
    (repository : RunRepository) (request : WorkflowRequest)
    (decisionId : String) (decidedAt : Int) :
    listWorkflowDecisions (appendWorkflowDecision repository
      (buildWorkflowDecisionRecord rebalanceRunId request decisionId decidedAt)) rebalanceRunId =
      listWorkflowDecisions repository rebalanceRunId ++
        [buildWorkflowDecisionRecord rebalanceRunId request decisionId decidedAt] := by
  simp only [listWorkflowDecisions, appendWorkflowDecision, appendRow, Dict.getD]
  rw [show (buildWorkflowDecisionRecord rebalanceRunId request decisionId decidedAt).runId =
    rebalanceRunId from rfl, Dict.get?_set_self, Option.getD_some]

theorem ReviewInv.append (hinv : ReviewInv rebalanceRunId s) {client : Nat}
    {request : WorkflowRequest} (hclient : s.clients client = .hasResolved request latestDecision)
    (hlatest : (s.history rebalanceRunId).getLast? = latestDecision) (decisionId : String)
    (decidedAt : Int) :
    ReviewInv rebalanceRunId
      { s.setClient client .idle with
        repository := appendWorkflowDecision s.repository
          (buildWorkflowDecisionRecord rebalanceRunId request decisionId decidedAt) } := by
  obtain ⟨next, hnext⟩ := Option.isSome_iff_exists.mp (hinv.valid client request _ hclient)
  have hidle : ReviewInv rebalanceRunId (s.setClient client .idle) := hinv.setClient client nofun
  refine ⟨?_, hidle.valid⟩
  simp only [ReviewState.history]
  rw [history_append, List.foldlM_append, List.getLast?_concat]
  have hpath := hinv.path
  rw [hlatest] at hpath
  simp only [ReviewState.history] at hpath
  rw [hpath]
  show (resolveWorkflowTransition (statusAfter latestDecision) request.action).bind some = _
  rw [hnext, resolveWorkflowTransition_eq hnext]
  rfl

theorem ReviewInv.step (hinv : ReviewInv rebalanceRunId s) {reviewStep : ReviewStep}
    (hlatest : appendsToLatest rebalanceRunId s reviewStep = true) :
    ReviewInv rebalanceRunId (s.step settings rebalanceRunId reviewStep) := by
  cases reviewStep with
  | read client request =>
    simp only [ReviewState.step]
    split
    · split
      · exact hinv.setClient client nofun
      · exact hinv
    · exact hinv
  | resolve client =>
    simp only [ReviewState.step]
    split
    · rename_i request runStatus latestDecision _
      split
      · exact hinv.setClient client nofun
      · rename_i next hnext
        refine hinv.setClient client ?_
        rintro _ _ ⟨rfl, rfl⟩
        have hsome := Option.isSome_iff_exists.mpr ⟨next, hnext⟩
        rw [← resolveWorkflowStatus_of_required (ne_notRequired_of_transition hsome)]
        exact hsome
    · exact hinv
  | append client decisionId decidedAt =>
    simp only [ReviewState.step]
    split
    · rename_i request latestDecision hclient
      simp only [appendsToLatest, hclient, decide_eq_true_eq] at hlatest
      exact hinv.append hclient hlatest decisionId decidedAt
    · exact hinv

end Steps

/-- The decisions of a run are a path of the transition table, in every interleaving of any
number of clients in which each append is made while the decision that its client read as the
latest is still the last one. -/
theorem workflow_history_legal (settings : WorkflowSettings) (rebalanceRunId : String)
    (repository : RunRepository)
    (hstart : listWorkflowDecisions repository rebalanceRunId = []) (steps : List ReviewStep)
    (hlatest : Runs.Along (ReviewState.step settings rebalanceRunId)
      (fun s reviewStep => appendsToLatest rebalanceRunId s reviewStep = true)
      (ReviewState.start repository) steps) :
    LegalHistory ((Runs.run (ReviewState.step settings rebalanceRunId)
      (ReviewState.start repository) steps).history rebalanceRunId) := by
  have hinit : ReviewInv rebalanceRunId (ReviewState.start repository) := by
    refine ⟨?_, nofun⟩
    simp only [ReviewState.history, ReviewState.start]
    rw [hstart]
    rfl
  have hinv := Runs.run_invariant (ReviewInv rebalanceRunId)
    (fun s reviewStep hs happend => hs.step happend) hlatest hinit
  rw [LegalHistory, hinv.path]
  rfl

/-! ### Two reviewers of one run -/

def reviewSettings : WorkflowSettings :=
  { workflowEnabled := true, requiresReviewForStatuses := ["PENDING_REVIEW"] }

/-- A repository with one run that waits for review. -/
def reviewRepository : RunRepository :=
  saveRun RunRepository.new
    { tenantId := some "tenant-sg"
      rebalanceRunId := "rr_abc12345"
      correlationId := "corr-1234"
      requestHash := "sha256:request"
      portfolioId := "pf_123"
      createdAt := 0
      resultStatus := "PENDING_REVIEW"
      resultJson := "\x7b\x7d" }

def reviewRequest (action : WorkflowActionType) (actorId : String) : WorkflowRequest :=
  { action := action
    reasonCode := "REVIEWED"
    comment := none
    actorId := actorId
    correlationId := "corr-review" }

/-- Approval and a request for changes, one action after the other. -/
def sequentialSteps : List ReviewStep :=
  [.read 0 (reviewRequest .approve "reviewer-1"), .resolve 0, .append 0 "dwd_1" 10,
   .read 1 (reviewRequest .requestChanges "reviewer-2"), .resolve 1, .append 1 "dwd_2" 20]

theorem workflow_history_legal_sequential :
    ((Runs.run (ReviewState.step reviewSettings "rr_abc12345")
      (ReviewState.start reviewRepository) sequentialSteps).history "rr_abc12345").map
        RunWorkflowDecisionRecord.action = [.approve, .requestChanges] ∧
    LegalHistory ((Runs.run (ReviewState.step reviewSettings "rr_abc12345")
      (ReviewState.start reviewRepository) sequentialSteps).history "rr_abc12345") :=
  ⟨by decide +kernel, workflow_history_legal reviewSettings "rr_abc12345" reviewRepository rfl
    sequentialSteps (by decide +kernel)⟩

/-- Both reviewers read the run before either appends. -/
def racingSteps : List ReviewStep :=
  [.read 0 (reviewRequest .reject "reviewer-1"), .read 1 (reviewRequest .approve "reviewer-2"),
   .resolve 0, .resolve 1, .append 0 "dwd_1" 10, .append 1 "dwd_2" 20]

/-- The approval is recorded after the rejection, and the table has no such transition. -/
theorem racing_review_illegal :
    workflowRequiredForRunStatus reviewSettings.workflowEnabled "PENDING_REVIEW"
      reviewSettings.requiresReviewForStatuses = true ∧
    ((Runs.run (ReviewState.step reviewSettings "rr_abc12345")
      (ReviewState.start reviewRepository) racingSteps).history "rr_abc12345").map
        RunWorkflowDecisionRecord.action = [.reject, .approve] ∧
    ¬ LegalHistory ((Runs.run (ReviewState.step reviewSettings "rr_abc12345")
      (ReviewState.start reviewRepository) racingSteps).history "rr_abc12345") := by
  decide +kernel

end LotusManage.RebalanceRuns
