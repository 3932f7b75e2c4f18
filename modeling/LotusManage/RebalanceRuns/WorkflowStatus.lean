import Mathlib.Data.List.Sort
import LotusManage.RebalanceRuns.Workflow
import LotusManage.RebalanceRuns.Retention
import LotusManage.Lib.Histories

/-!
# The status of a reviewed run

`apply_workflow_action` of `src/core/rebalance_runs/service.py` as one call, and the two projections of
`workflow_projection.py` that read the decisions of a run.

The status of a run is not stored.  It follows the latest decision, the *first* of those with the
greatest `decided_at`, while the history response sorts by `decided_at` and keeps the order of the equal
ones, so it ends with the *last* of them.  Two decisions in one clock tick tell the two apart.

`workflow_status_folds_iff` says exactly when the two projections and the fold of the transition table
over the history agree.
-/

namespace LotusManage.RebalanceRuns

/-! ## The service -/

/-- What `apply_workflow_action` raises. -/
inductive WorkflowError where
  | disabled
  | runNotFound
  | notRequired
  | invalidTransition

/-- The texts of the errors. -/
def WorkflowError.code : WorkflowError → String
  | disabled => "DPM_WORKFLOW_DISABLED"
  | runNotFound => "DPM_RUN_NOT_FOUND"
  | notRequired => "DPM_WORKFLOW_NOT_REQUIRED_FOR_RUN_STATUS"
  | invalidTransition => "DPM_WORKFLOW_INVALID_TRANSITION"

/-- The settings of `DpmRunSupportService` that an action reads. -/
structure WorkflowService extends WorkflowSettings where
  supportabilityRetentionDays : Int

/-- A call of `apply_workflow_action`, with the clock and the id that it reads on its way. -/
structure WorkflowAction where
  request : WorkflowRequest
  decisionId : String
  cleanedUpAt : Int
  decidedAt : Int

/-- The decision that an action records. -/
def WorkflowAction.record (rebalanceRunId : String) (action : WorkflowAction) :
    RunWorkflowDecisionRecord :=
  buildWorkflowDecisionRecord rebalanceRunId action.request action.decisionId action.decidedAt

/-- `DpmRunWorkflowResponse` -/
structure RunWorkflowResponse where
  runId : String
  runStatus : String
  workflowStatus : WorkflowStatus
  requiresReview : Bool
  latestDecision : Option RunWorkflowDecisionRecord

/-- `apply_workflow_action` -/
def applyWorkflowAction (service : WorkflowService) (rebalanceRunId : String)
    (repo : RunRepository) (action : WorkflowAction) :
    Except WorkflowError (RunRepository × RunWorkflowResponse) :=
  let repo :=
    (purgeExpiredRuns repo service.supportabilityRetentionDays action.cleanedUpAt).1
  if !service.workflowEnabled then .error .disabled
  else
    match repo.runs.get? rebalanceRunId with
    | none => .error .runNotFound
    | some run =>
      if !workflowRequiredForRunStatus service.workflowEnabled run.resultStatus
          service.requiresReviewForStatuses then .error .notRequired
      else
        let latestDecision := latestWorkflowDecision (listWorkflowDecisions repo rebalanceRunId)
        let currentStatus := resolveWorkflowStatus service.workflowEnabled run.resultStatus
          latestDecision service.requiresReviewForStatuses
        match resolveWorkflowTransition currentStatus action.request.action with
        | none => .error .invalidTransition
        | some nextStatus =>
          let decision := action.record rebalanceRunId
          .ok (appendWorkflowDecision repo decision,
            { runId := rebalanceRunId
              runStatus := run.resultStatus
              workflowStatus := nextStatus
              requiresReview := true
              latestDecision := some decision })

/-- The repository after a sequence of accepted actions on one run. -/
def applyWorkflowActions (service : WorkflowService) (rebalanceRunId : String)
    (repo : RunRepository) (actions : List WorkflowAction) : Except WorkflowError RunRepository :=
  actions.foldlM
    (fun repo action => (applyWorkflowAction service rebalanceRunId repo action).map Prod.fst) repo

/-- `DpmRunWorkflowHistoryResponse`.  An entry has the fields of its decision. -/
structure RunWorkflowHistoryResponse where
  runId : String
  decisions : List RunWorkflowDecisionRecord

/-- `build_workflow_history_response` -/
def buildWorkflowHistoryResponse (rebalanceRunId : String)
    (decisions : List RunWorkflowDecisionRecord) : RunWorkflowHistoryResponse :=
  { runId := rebalanceRunId
    decisions := decisions.insertionSort (fun a b => a.decidedAt ≤ b.decidedAt) }

/-! ## Agreement -/

/-- The fold of the transition table over a history. -/
def foldedStatus (decisions : List RunWorkflowDecisionRecord) : Option WorkflowStatus :=
  decisions.foldlM (fun status decision => resolveWorkflowTransition status decision.action)
    WorkflowStatus.pendingReview

/-- The status that the service resolves from the latest decision is the fold of the history. -/
def StatusFolds (service : WorkflowService) (runStatus : String)
    (decisions : List RunWorkflowDecisionRecord) : Prop :=
  foldedStatus decisions =
    some (resolveWorkflowStatus service.workflowEnabled runStatus
      (latestWorkflowDecision decisions) service.requiresReviewForStatuses)

/-- The history response ends with the latest decision. -/
def HistoryEndsLatest (rebalanceRunId : String) (decisions : List RunWorkflowDecisionRecord) :
    Prop :=
  (buildWorkflowHistoryResponse rebalanceRunId decisions).decisions.getLast? =
    latestWorkflowDecision decisions

instance (service : WorkflowService) (runStatus : String)
    (decisions : List RunWorkflowDecisionRecord) :
    Decidable (StatusFolds service runStatus decisions) :=
  inferInstanceAs (Decidable (_ = _))

instance (rebalanceRunId : String) (decisions : List RunWorkflowDecisionRecord) :
    Decidable (HistoryEndsLatest rebalanceRunId decisions) :=
  inferInstanceAs (Decidable (_ = _))

/-- The last decision falls into the clock tick of the one before it. -/
def LastTied (decisions : List RunWorkflowDecisionRecord) : Prop :=
  ∃ past earlier last, decisions = past ++ [earlier, last] ∧ earlier.decidedAt = last.decidedAt

/-- An action that follows a decision made in the clock tick of its predecessor is one that the
table allows from the status of that decision. -/
def TiesLegal (decisions : List RunWorkflowDecisionRecord) : Prop :=
  Histories.Each (fun past decision => LastTied past →
    (resolveWorkflowTransition (statusAfter past.getLast?) decision.action).isSome = true)
    decisions

/-- Each decision was accepted: the table allows its action from the status of the latest
decision before it. -/
def EachAccepted (decisions : List RunWorkflowDecisionRecord) : Prop :=
  Histories.Each (fun past decision =>
    (resolveWorkflowTransition (statusAfter (latestWorkflowDecision past))
      decision.action).isSome = true) decisions

/-! ## The latest decision -/

section Latest

variable {decisions : List RunWorkflowDecisionRecord} {decision : RunWorkflowDecisionRecord}

/-- The clock of the decisions does not go back. -/
def DecidedInOrder (decisions : List RunWorkflowDecisionRecord) : Prop :=
  decisions.Pairwise (fun a b => a.decidedAt ≤ b.decidedAt)

theorem latestWorkflowDecision_concat :
    latestWorkflowDecision (decisions ++ [decision]) =
      some (match latestWorkflowDecision decisions with
        | none => decision
        | some latest => if latest.decidedAt < decision.decidedAt then decision else latest) := by
  cases decisions with
  | nil => rfl
  | cons first decisions =>
    simp only [List.cons_append, latestWorkflowDecision, List.foldl_append, List.foldl_cons,
      List.foldl_nil]

theorem mem_of_latestWorkflowDecision {latest : RunWorkflowDecisionRecord}
    (hlatest : latestWorkflowDecision decisions = some latest) : latest ∈ decisions := by
  induction decisions using List.reverseRecOn generalizing latest with
  | nil => cases hlatest
  | append_singleton past last ih =>
    rw [latestWorkflowDecision_concat] at hlatest
    cases hpast : latestWorkflowDecision past with
    | none =>
      rw [hpast] at hlatest
      cases hlatest
      exact List.mem_append_right past List.mem_cons_self
    | some earlier =>
      rw [hpast] at hlatest
      dsimp only at hlatest
      split at hlatest
      · cases hlatest
        exact List.mem_append_right past List.mem_cons_self
      · cases hlatest
        exact List.mem_append_left _ (ih hpast)

theorem decidedAt_latestWorkflowDecision (hclock : DecidedInOrder (decisions ++ [decision])) :
    ∃ latest, latestWorkflowDecision (decisions ++ [decision]) = some latest ∧
      latest.decidedAt = decision.decidedAt := by
  rw [latestWorkflowDecision_concat]
  refine ⟨_, rfl, ?_⟩
  cases hpast : latestWorkflowDecision decisions with
  | none => rfl
  | some earlier =>
    have hle : earlier.decidedAt ≤ decision.decidedAt :=
      (List.pairwise_append.mp hclock).2.2 earlier (mem_of_latestWorkflowDecision hpast) decision
        List.mem_cons_self
    dsimp only
    split
    · rfl
    · omega

theorem latestWorkflowDecision_of_not_tied (hclock : DecidedInOrder decisions)
    (huntied : ¬ LastTied decisions) : latestWorkflowDecision decisions = decisions.getLast? := by
  induction decisions using List.reverseRecOn with
  | nil => rfl
  | append_singleton past last _ =>
    rw [latestWorkflowDecision_concat, List.getLast?_concat]
    induction past using List.reverseRecOn with
    | nil => rfl
    | append_singleton before earlier _ =>
      have hpast : DecidedInOrder (before ++ [earlier]) := (List.pairwise_append.mp hclock).1
      obtain ⟨latest, hlatest, htime⟩ := decidedAt_latestWorkflowDecision hpast
      have hle : earlier.decidedAt ≤ last.decidedAt :=
        (List.pairwise_append.mp hclock).2.2 earlier
          (List.mem_append_right before List.mem_cons_self) last List.mem_cons_self
      have hne : earlier.decidedAt ≠ last.decidedAt := by
        intro heq
        exact huntied ⟨before, earlier, last, by rw [List.append_assoc]; rfl, heq⟩
      have hlt : latest.decidedAt < last.decidedAt := by omega
      rw [hlatest]
      dsimp only
      rw [if_pos hlt]

theorem latestWorkflowDecision_ne_of_tied (hclock : DecidedInOrder decisions)
    (hids : (decisions.map RunWorkflowDecisionRecord.decisionId).Nodup)
    (htied : LastTied decisions) : latestWorkflowDecision decisions ≠ decisions.getLast? := by
  obtain ⟨past, earlier, last, rfl, htime⟩ := htied
  have hsplit : past ++ [earlier, last] = past ++ [earlier] ++ [last] := by
    rw [List.append_assoc]
    rfl
  rw [hsplit] at hclock hids ⊢
  have hpast : DecidedInOrder (past ++ [earlier]) := (List.pairwise_append.mp hclock).1
  obtain ⟨latest, hlatest, heq⟩ := decidedAt_latestWorkflowDecision hpast
  rw [latestWorkflowDecision_concat, hlatest, List.getLast?_concat]
  dsimp only
  rw [if_neg (by omega)]
  intro hsame
  cases hsame
  rw [List.map_append, List.nodup_append] at hids
  exact hids.2.2 _ (List.mem_map_of_mem (mem_of_latestWorkflowDecision hlatest)) _
    (List.mem_map_of_mem List.mem_cons_self) rfl

theorem getLast?_buildWorkflowHistoryResponse (rebalanceRunId : String)
    (hclock : DecidedInOrder decisions) :
    (buildWorkflowHistoryResponse rebalanceRunId decisions).decisions.getLast? =
      decisions.getLast? := by
  have hsorted : decisions.insertionSort (fun a b => a.decidedAt ≤ b.decidedAt) = decisions :=
    List.Pairwise.insertionSort_eq hclock
  rw [buildWorkflowHistoryResponse, hsorted]

end Latest

/-! ## The fold of the history -/

section Fold

variable {decisions : List RunWorkflowDecisionRecord} {decision : RunWorkflowDecisionRecord}

theorem foldedStatus_concat :
    foldedStatus (decisions ++ [decision]) =
      (foldedStatus decisions).bind
        (fun status => resolveWorkflowTransition status decision.action) := by
  rw [foldedStatus, List.foldlM_append]
  exact congrArg _ (funext fun _ => bind_pure _)

theorem foldedStatus_eq {status : WorkflowStatus} (h : foldedStatus decisions = some status) :
    status = statusAfter decisions.getLast? := by
  induction decisions using List.reverseRecOn with
  | nil =>
    cases h
    rfl
  | append_singleton past last _ =>
    rw [foldedStatus_concat] at h
    obtain ⟨before, _, hnext⟩ := Option.bind_eq_some_iff.mp h
    rw [List.getLast?_concat]
    exact resolveWorkflowTransition_eq hnext

/-- Accepted decisions are a path of the table exactly when their ties are legal: after a last
decision with a clock tick of its own the service checked the action against that decision. -/
theorem isSome_foldedStatus_iff (hclock : DecidedInOrder decisions)
    (haccepted : EachAccepted decisions) :
    (foldedStatus decisions).isSome = true ↔ TiesLegal decisions := by
  induction decisions using List.reverseRecOn with
  | nil => exact ⟨fun _ => Histories.each_nil, fun _ => rfl⟩
  | append_singleton past last ih =>
    have hpast : DecidedInOrder past := (List.pairwise_append.mp hclock).1
    obtain ⟨haccepted, hlast⟩ := Histories.each_concat_iff.mp haccepted
    have hih := ih hpast haccepted
    rw [TiesLegal, Histories.each_concat_iff, ← TiesLegal, ← hih, foldedStatus_concat]
    have huntied : ¬ LastTied past →
        (resolveWorkflowTransition (statusAfter past.getLast?) last.action).isSome = true := by
      intro huntied
      rw [← latestWorkflowDecision_of_not_tied hpast huntied]
      exact hlast
    constructor
    · intro hsome
      obtain ⟨next, hnext⟩ := Option.isSome_iff_exists.mp hsome
      obtain ⟨status, hstatus, htransition⟩ := Option.bind_eq_some_iff.mp hnext
      refine ⟨Option.isSome_iff_exists.mpr ⟨status, hstatus⟩, fun _ => ?_⟩
      rw [← foldedStatus_eq hstatus, htransition]
      rfl
    · rintro ⟨hsome, htied⟩
      obtain ⟨status, hstatus⟩ := Option.isSome_iff_exists.mp hsome
      rw [hstatus, Option.bind_some, foldedStatus_eq hstatus]
      by_cases h : LastTied past
      · exact htied h
      · exact huntied h

end Fold

/-! ## Accepted actions -/

section Accepted

variable {service : WorkflowService} {rebalanceRunId : String} {repo repo' : RunRepository}

variable {action : WorkflowAction} {response : RunWorkflowResponse} {run : RunRecord}
  {actions : List WorkflowAction}

theorem applyWorkflowAction_eq_ok
    (h : applyWorkflowAction service rebalanceRunId repo action = .ok (repo', response)) :
    ∃ cleaned run,
      cleaned = (purgeExpiredRuns repo service.supportabilityRetentionDays action.cleanedUpAt).1 ∧
      cleaned.runs.get? rebalanceRunId = some run ∧
      (resolveWorkflowTransition
        (statusAfter (latestWorkflowDecision (listWorkflowDecisions cleaned rebalanceRunId)))
        action.request.action).isSome = true ∧
      repo' = appendWorkflowDecision cleaned (action.record rebalanceRunId) := by
  unfold applyWorkflowAction at h
  dsimp only at h
  split at h
  · cases h
  · split at h
    · cases h
    · rename_i run hrun
      split at h
      · cases h
      · split at h
        · cases h
        · rename_i next hnext
          cases h
          refine ⟨_, run, rfl, hrun, ?_, rfl⟩
          have hsome := Option.isSome_iff_exists.mpr ⟨next, hnext⟩
          rw [← resolveWorkflowStatus_of_required (ne_notRequired_of_transition hsome)]
          exact hsome

theorem listWorkflowDecisions_purgeExpiredRuns (hkeyed : RunsKeyed repo) {retentionDays now : Int}
    (hrun : (purgeExpiredRuns repo retentionDays now).1.runs.get? rebalanceRunId = some run) :
    repo.runs.get? rebalanceRunId = some run ∧
      listWorkflowDecisions (purgeExpiredRuns repo retentionDays now).1 rebalanceRunId =
        listWorkflowDecisions repo rebalanceRunId := by
  have hfresh : expiredId repo retentionDays now rebalanceRunId = false ∧
      repo.runs.get? rebalanceRunId = some run := by
    rw [runs_purgeExpiredRuns hkeyed] at hrun
    split at hrun
    · cases hrun
    · rename_i hfresh
      exact ⟨Bool.eq_false_iff.mpr hfresh, hrun⟩
  refine ⟨hfresh.2, ?_⟩
  rcases purgeExpiredRuns_cases repo retentionDays now with ⟨_, hsame⟩ | ⟨hdays, hpurged⟩
  · rw [hsame]
  · have hkept := get?_foldl_erase_purged hkeyed hdays now repo.workflowDecisions rebalanceRunId
    rw [hfresh.1] at hkept
    simp only [listWorkflowDecisions, Dict.getD]
    rw [hpurged]
    dsimp only
    rw [hkept]
    rfl

/-- A run under review: its decisions are those of the accepted actions, in order. -/
structure UnderReview (rebalanceRunId : String) (run : RunRecord)
    (actions : List WorkflowAction) (repo : RunRepository) : Prop where
  keyed : RunsKeyed repo
  stored : repo.runs.get? rebalanceRunId = some run
  history : listWorkflowDecisions repo rebalanceRunId =
    actions.map (WorkflowAction.record rebalanceRunId)
  accepted : EachAccepted (actions.map (WorkflowAction.record rebalanceRunId))

theorem UnderReview.apply (h : UnderReview rebalanceRunId run actions repo)
    (hok : applyWorkflowAction service rebalanceRunId repo action = .ok (repo', response)) :
    UnderReview rebalanceRunId run (actions ++ [action]) repo' := by
  obtain ⟨cleaned, found, rfl, hfound, htransition, rfl⟩ := applyWorkflowAction_eq_ok hok
  obtain ⟨hstored, hhistory⟩ := listWorkflowDecisions_purgeExpiredRuns h.keyed hfound
  have hsame : found = run := Option.some.inj (hstored.symm.trans h.stored)
  have hkeyed := h.keyed.step
    (.purgeExpiredRuns service.supportabilityRetentionDays action.cleanedUpAt)
  rw [hhistory, h.history] at htransition
  refine ⟨hkeyed.step (.appendWorkflowDecision (action.record rebalanceRunId)), ?_, ?_, ?_⟩
  · rw [← hsame]
    exact hfound
  · rw [WorkflowAction.record, history_append, hhistory, h.history, List.map_append]
    rfl
  · rw [List.map_append]
    exact Histories.each_concat_iff.mpr ⟨h.accepted, htransition⟩

theorem UnderReview.applyAll {past : List WorkflowAction}
    (h : UnderReview rebalanceRunId run past repo)
    (hok : applyWorkflowActions service rebalanceRunId repo actions = .ok repo') :
    UnderReview rebalanceRunId run (past ++ actions) repo' := by
  induction actions generalizing repo past with
  | nil =>
    cases hok
    rw [List.append_nil]
    exact h
  | cons action actions ih =>
    rw [applyWorkflowActions, List.foldlM_cons] at hok
    cases happly : applyWorkflowAction service rebalanceRunId repo action with
    | error e =>
      rw [happly] at hok
      cases hok
    | ok applied =>
      rw [happly] at hok
      have hnext := ih (h.apply happly) hok
      rw [List.append_assoc] at hnext
      exact hnext

end Accepted

/-- The status of a run is the fold of its decisions, and its history response ends with the
latest decision, exactly when the last decision has a clock tick of its own and every action
that follows a tied decision is one that the table allows from that decision. -/
theorem workflow_status_folds_iff (service : WorkflowService) (calls : List RunCall)
    (rebalanceRunId : String) (run : RunRecord)
    (hrun : (RunRepository.after calls).runs.get? rebalanceRunId = some run)
    (hrequired : workflowRequiredForRunStatus service.workflowEnabled run.resultStatus
      service.requiresReviewForStatuses = true)
    (hstart : listWorkflowDecisions (RunRepository.after calls) rebalanceRunId = [])
    (actions : List WorkflowAction) (repo : RunRepository)
    (haccepted : applyWorkflowActions service rebalanceRunId (RunRepository.after calls) actions =
      .ok repo)
    (hclock : DecidedInOrder (actions.map (WorkflowAction.record rebalanceRunId)))
    (hids : (actions.map WorkflowAction.decisionId).Nodup) :
    (StatusFolds service run.resultStatus (listWorkflowDecisions repo rebalanceRunId) ∧
      HistoryEndsLatest rebalanceRunId (listWorkflowDecisions repo rebalanceRunId)) ↔
    (¬ LastTied (actions.map (WorkflowAction.record rebalanceRunId)) ∧
      TiesLegal (actions.map (WorkflowAction.record rebalanceRunId))) := by
  have hinit : UnderReview rebalanceRunId run [] (RunRepository.after calls) :=
    ⟨runsKeyed_after calls, hrun, hstart, Histories.each_nil⟩
  have hreview := hinit.applyAll haccepted
  rw [List.nil_append] at hreview
  rw [hreview.history]
  have hids' : ((actions.map (WorkflowAction.record rebalanceRunId)).map
      RunWorkflowDecisionRecord.decisionId).Nodup := by
    rw [List.map_map]
    exact hids
  have hlast := getLast?_buildWorkflowHistoryResponse rebalanceRunId hclock
  have hlegal := isSome_foldedStatus_iff hclock hreview.accepted
  have hresolve : resolveWorkflowStatus service.workflowEnabled run.resultStatus
      (latestWorkflowDecision (actions.map (WorkflowAction.record rebalanceRunId)))
      service.requiresReviewForStatuses =
        statusAfter (latestWorkflowDecision
          (actions.map (WorkflowAction.record rebalanceRunId))) := by
    simp only [resolveWorkflowStatus, hrequired]
    rfl
  rw [StatusFolds, HistoryEndsLatest, hlast, hresolve, ← hlegal]
  constructor
  · rintro ⟨hfold, hends⟩
    refine ⟨fun htied => ?_, by rw [hfold]; rfl⟩
    exact latestWorkflowDecision_ne_of_tied hclock hids' htied hends.symm
  · rintro ⟨huntied, hsome⟩
    obtain ⟨status, hstatus⟩ := Option.isSome_iff_exists.mp hsome
    have hlatest := latestWorkflowDecision_of_not_tied hclock huntied
    refine ⟨?_, hlatest.symm⟩
    rw [hlatest, hstatus, foldedStatus_eq hstatus]

/-! ### Two actions on one run -/

def reviewService : WorkflowService :=
  { reviewSettings with supportabilityRetentionDays := 0 }

/-- One run that waits for review is saved. -/
def reviewCalls : List RunCall :=
  [.saveRun
    { tenantId := some "tenant-sg"
      rebalanceRunId := "rr_abc12345"
      correlationId := "corr-1234"
      requestHash := "sha256:request"
      portfolioId := "pf_123"
      createdAt := 0
      resultStatus := "PENDING_REVIEW"
      resultJson := "\x7b\x7d" }]

/-- A rejection at the time 10, and a request for changes at the given time. -/
def rejectThenReopen (reopenedAt : Int) : List WorkflowAction :=
  [⟨reviewRequest .reject "reviewer-1", "dwd_1", 10, 10⟩,
   ⟨reviewRequest .requestChanges "reviewer-2", "dwd_2", reopenedAt, reopenedAt⟩]

/-- The repository after the two actions, if both are accepted. -/
def reopened (reopenedAt : Int) : RunRepository :=
  match applyWorkflowActions reviewService "rr_abc12345" (.after reviewCalls)
      (rejectThenReopen reopenedAt) with
  | .ok repo => repo
  | .error _ => .new

instance (decisions : List RunWorkflowDecisionRecord) : Decidable (DecidedInOrder decisions) :=
  inferInstanceAs (Decidable (List.Pairwise _ decisions))

/-- The two actions in two clock ticks: the status and the history agree with the fold. -/
theorem workflow_status_folds_iff_reopened :
    StatusFolds reviewService "PENDING_REVIEW"
        (listWorkflowDecisions (reopened 20) "rr_abc12345") ∧
      HistoryEndsLatest "rr_abc12345" (listWorkflowDecisions (reopened 20) "rr_abc12345") := by
  let run := ((RunRepository.after reviewCalls).runs.get? "rr_abc12345").get (by decide +kernel)
  have hrun : (RunRepository.after reviewCalls).runs.get? "rr_abc12345" = some run :=
    (Option.some_get _).symm
  refine (workflow_status_folds_iff reviewService reviewCalls "rr_abc12345" run hrun
    (by decide +kernel) (by decide +kernel) (rejectThenReopen 20) (reopened 20) rfl
    (by decide +kernel) (by decide +kernel)).mpr ⟨?_, ?_⟩
  · rintro ⟨past, earlier, last, hsplit, htime⟩
    cases past with
    | nil =>
      cases hsplit
      exact absurd htime (by decide)
    | cons first past =>
      have hlength := congrArg List.length hsplit
      simp only [List.length_append, List.length_cons, List.length_nil] at hlength
      change 2 = _ at hlength
      omega
  · rintro past decision rest hsplit ⟨before, earlier, last, rfl, _⟩
    have hlength := congrArg List.length hsplit
    simp only [List.length_map, List.length_append, List.length_cons, List.length_nil] at hlength
    change 2 = _ at hlength
    omega

/-- The two actions in one clock tick: both are accepted, the fold is at `PENDING_REVIEW`, and
the service still takes the run for rejected. -/
theorem reopened_run_stays_rejected :
    (applyWorkflowActions reviewService "rr_abc12345" (.after reviewCalls)
      (rejectThenReopen 10)).toOption.isSome = true ∧
    DecidedInOrder ((rejectThenReopen 10).map (WorkflowAction.record "rr_abc12345")) ∧
    foldedStatus (listWorkflowDecisions (reopened 10) "rr_abc12345") = some .pendingReview ∧
    ¬ StatusFolds reviewService "PENDING_REVIEW"
      (listWorkflowDecisions (reopened 10) "rr_abc12345") ∧
    ¬ HistoryEndsLatest "rr_abc12345" (listWorkflowDecisions (reopened 10) "rr_abc12345") := by
  decide +kernel

end LotusManage.RebalanceRuns
