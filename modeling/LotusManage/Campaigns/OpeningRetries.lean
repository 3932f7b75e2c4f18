import LotusManage.Campaigns.TaskHistories

/-!
# Opening a task again

A repeated opening is recognised by the hash of the task it builds, and that task is open with one
entry in its ledger.  The stored task has the same hash as long as no transition has moved it.

* `openAssignmentTask_repeated`: what a repeated opening compares.
* `open_repeated_iff`: it is accepted exactly while the ledger of the stored task has one entry.
-/

namespace LotusManage.Campaigns

open LotusManage.Checks (bind_eq_ok)
open LotusManage.Text (strip)

/-- The stored task that an opening is compared with. -/
def storedTask (definition : CampaignDefinition) (taskRef : String) : Option AssignmentTask :=
  definition.assignmentTasks.find? (fun task => task.taskRef = taskRef)

theorem storedTask_eq_some_iff {definition : CampaignDefinition} {taskRef : String}
    {task : AssignmentTask} :
    storedTask definition taskRef = some task ↔
      ∃ index, assignmentTaskForRef definition taskRef = .ok (index, task) := by
  unfold storedTask
  rw [List.find?_eq_some_iff_getElem]
  constructor
  · rintro ⟨href, index, hlength, hget, hbefore⟩
    refine ⟨index, assignmentTaskForRef_eq_ok_iff.mpr ⟨?_, of_decide_eq_true href, ?_⟩⟩
    · rw [List.getElem?_eq_getElem hlength, hget]
    · intro earlier hlt other hother hsame
      obtain ⟨_, rfl⟩ := List.getElem?_eq_some_iff.mp hother
      have hnot := hbefore earlier hlt
      rw [decide_eq_true hsame] at hnot
      cases hnot
  · rintro ⟨index, hfound⟩
    obtain ⟨htask, href, hbefore⟩ := assignmentTaskForRef_eq_ok_iff.mp hfound
    obtain ⟨hlength, hget⟩ := List.getElem?_eq_some_iff.mp htask
    refine ⟨decide_eq_true href, index, hlength, hget, ?_⟩
    intro earlier hlt
    have hearlier : earlier < definition.assignmentTasks.length := hlt.trans hlength
    have hother := hbefore earlier hlt _ (List.getElem?_eq_getElem hearlier)
    rw [decide_eq_false hother]
    rfl

/-! ## The hash of an opened task -/

/-- The times at which a task is opened. -/
def OpenTaskRequest.at (request : OpenTaskRequest) (openedAt transitionedAt : Int) :
    OpenTaskRequest :=
  { request with openedAt := openedAt, transitionedAt := transitionedAt }

theorem contentHash_buildTask {hashing : Hashing} {definition later : CampaignDefinition}
    (hid : later.campaignId = definition.campaignId)
    (hversion : later.campaignVersion = definition.campaignVersion) (request : OpenTaskRequest)
    (openedAt transitionedAt : Int) :
    (buildTask hashing later (request.at openedAt transitionedAt)).contentHash =
      (buildTask hashing definition request).contentHash := by
  unfold buildTask taskHash buildTransition taskIdFor
  simp only [OpenTaskRequest.at, List.map_cons, List.map_nil, hid, hversion]

/-! ## Repeated openings -/

theorem openTaskRequestFields_at {request fields : OpenTaskRequest}
    (h : openTaskRequestFields request = .ok fields) (openedAt transitionedAt : Int) :
    openTaskRequestFields (request.at openedAt transitionedAt) =
      .ok (fields.at openedAt transitionedAt) := by
  unfold openTaskRequestFields at h ⊢
  obtain ⟨_, hassignees, h⟩ := bind_eq_ok h
  obtain ⟨_, htaskRef, h⟩ := bind_eq_ok h
  obtain ⟨_, hopenedBy, h⟩ := bind_eq_ok h
  obtain ⟨_, htaskReason, h⟩ := bind_eq_ok h
  obtain ⟨_, hcorrelationId, h⟩ := bind_eq_ok h
  cases h
  simp only [OpenTaskRequest.at, hassignees, htaskRef, hopenedBy, htaskReason, hcorrelationId]
  rfl

section Repeated

variable {hashing : Hashing} {definition opened later : CampaignDefinition}
  {request : OpenTaskRequest}

theorem storedTask_of_opened (h : openAssignmentTask hashing definition request = .ok opened) :
    ∃ task, storedTask opened (strip request.taskRef) = some task ∧
      task.contentHash = (buildTask hashing definition request.stripped).contentHash := by
  obtain ⟨fields, hfields, hcases⟩ := openAssignmentTask_cases h
  obtain ⟨_, rfl⟩ := openTaskRequestFields_eq_ok hfields
  rcases hcases with ⟨rfl, earlier, hfound, hhash⟩ | ⟨hfresh, rfl⟩
  · exact ⟨earlier, hfound, hhash⟩
  · refine ⟨buildTask hashing definition request.stripped, ?_, rfl⟩
    have hnone : definition.assignmentTasks.find?
        (fun task => task.taskRef = strip request.taskRef) = none := by
      apply List.find?_eq_none.mpr
      intro task hmem href
      exact hfresh task hmem (of_decide_eq_true href)
    show (definition.assignmentTasks ++ [buildTask hashing definition request.stripped]).find?
      (fun task => task.taskRef = strip request.taskRef) = _
    rw [List.find?_append, hnone]
    have hhere : (buildTask hashing definition request.stripped).taskRef =
        strip request.taskRef := rfl
    simp [hhere]

theorem openAssignmentTask_repeated
    (h : openAssignmentTask hashing definition request = .ok opened)
    (hgrow : TasksGrow opened later) (hactive : later.status = .active) {task : AssignmentTask}
    (hstored : storedTask later (strip request.taskRef) = some task)
    (openedAt transitionedAt : Int) :
    openAssignmentTask hashing later (request.at openedAt transitionedAt) = .ok later ↔
      task.contentHash = (buildTask hashing definition request.stripped).contentHash := by
  have hsame : later.governance = definition.governance ∧
      later.campaignId = definition.campaignId ∧
      later.campaignVersion = definition.campaignVersion := by
    rw [hgrow.governance, hgrow.campaignId, hgrow.campaignVersion]
    obtain ⟨_, _, hcases⟩ := openAssignmentTask_cases h
    rcases hcases with ⟨rfl, _⟩ | ⟨_, rfl⟩
    · exact ⟨rfl, rfl, rfl⟩
    · exact ⟨rfl, rfl, rfl⟩
  rw [← contentHash_buildTask hsame.2.1 hsame.2.2 request.stripped openedAt transitionedAt]
  unfold openAssignmentTask at h ⊢
  obtain ⟨_, _, h⟩ := bind_eq_ok h
  obtain ⟨fields, hfields, h⟩ := bind_eq_ok h
  obtain ⟨_, hentitled, _⟩ := bind_eq_ok h
  obtain ⟨_, rfl⟩ := openTaskRequestFields_eq_ok hfields
  have hrequire : requireActive later "BULK_REVIEW_CAMPAIGN_ASSIGNMENT_TASK_ACTIVE_REQUIRED" =
      .ok () := by
    unfold requireActive
    rw [if_neg (not_not.mpr hactive)]
  have hentitledAt : validateCampaignCommandActorEntitlement later
      (request.stripped.at openedAt transitionedAt).openedBy = .ok () := by
    rw [entitlement_congr hsame.1]
    exact hentitled
  have hstoredAt : later.assignmentTasks.find? (fun earlier => earlier.taskRef =
      (buildTask hashing later (request.stripped.at openedAt transitionedAt)).taskRef) =
        some task := hstored
  simp only [hrequire, openTaskRequestFields_at hfields, hentitledAt, hstoredAt, bind, Except.bind]
  by_cases hhash : task.contentHash =
      (buildTask hashing later (request.stripped.at openedAt transitionedAt)).contentHash
  · simp [hhash]
  · simp [hhash]

end Repeated

/-- On a definition that has gone through any commands, an accepted opening is accepted again, and
leaves the definition, exactly while no transition has moved the task: its ledger holds the opening
and nothing else.  The hash of the task is assumed to tell its ledger from longer ones of the run. -/
theorem open_repeated_iff (hashing : Hashing)
    (definition : CampaignDefinition) (hnone : definition.assignmentTasks = [])
    (commands : List TaskCommand) (request : OpenTaskRequest) (opened : CampaignDefinition)
    (hopened : openAssignmentTask hashing (afterTaskCommands hashing definition commands) request =
      .ok opened)
    (later : List TaskCommand)
    (hhash : ∀ task ∈ (afterTaskCommands hashing opened later).assignmentTasks,
      taskHash hashing task = taskHash hashing
        (buildTask hashing (afterTaskCommands hashing definition commands) request.stripped) →
      task.transitions.length = 1)
    (hactive : (afterTaskCommands hashing opened later).status = .active)
    (openedAt transitionedAt : Int) :
    openAssignmentTask hashing (afterTaskCommands hashing opened later)
        (request.at openedAt transitionedAt) = .ok (afterTaskCommands hashing opened later) ↔
      ∃ task, storedTask (afterTaskCommands hashing opened later) (strip request.taskRef) =
        some task ∧ task.transitions.length = 1 := by
  have hgrow := tasksGrow_after hashing opened later
  obtain ⟨task, hstored, hhashed⟩ := storedTask_of_opened hopened
  obtain ⟨index, hfound⟩ := storedTask_eq_some_iff.mp hstored
  obtain ⟨task', hfound', hprefix, hsame⟩ := hgrow.assignmentTaskForRef hfound
  have hstored' : storedTask (afterTaskCommands hashing opened later) (strip request.taskRef) =
      some task' := storedTask_eq_some_iff.mpr ⟨index, hfound'⟩
  rw [openAssignmentTask_repeated hopened hgrow hactive hstored' openedAt transitionedAt]
  -- the definition after the opening is one that commands lead to
  have hopenedRun : opened = afterTaskCommands hashing definition (commands ++ [.open request]) := by
    rw [afterTaskCommands, Runs.run_append]
    exact (taskStep_of_ok (show (TaskCommand.open request).perform hashing _ = _ from hopened)).symm
  have hsound : TasksSound hashing opened := by
    rw [hopenedRun]
    exact tasksSound_after hashing hnone _
  have hsound' : TasksSound hashing (afterTaskCommands hashing opened later) :=
    Runs.run_keeps (TasksSound hashing) (fun _ command h => h.taskStep command) later hsound
  have hmem' : task' ∈ (afterTaskCommands hashing opened later).assignmentTasks :=
    List.mem_of_find?_eq_some hstored'
  constructor
  · intro heq
    refine ⟨task', hstored', ?_⟩
    rw [hsound'.hashed task' hmem'] at heq
    exact hhash task' hmem' heq
  · rintro ⟨stored, hstored'', hlength⟩
    rw [hstored'] at hstored''
    cases hstored''
    obtain ⟨first, rest, hfirst, _⟩ :=
      (hsound.history task (List.mem_of_find?_eq_some hstored)).opened
    have hle := hprefix.length_le
    have hpos : 1 ≤ task.transitions.length := by
      rw [hfirst, List.length_cons]
      omega
    rw [hsame (by omega)]
    exact hhashed

/-! ### An opening repeated before and after the task is acknowledged -/

/-- Hashes that tell ledgers of different lengths apart. -/
def ledgerHashing : Hashing :=
  { sampleHashing with
    task := fun task => String.ofList (List.replicate task.transitions.length '#') }

def openedSample : CampaignDefinition :=
  afterTaskCommands ledgerHashing (sampleDefinition "2026.05") [.open sampleOpening]

/-- Until the task is acknowledged the same opening changes nothing, at whatever times it comes. -/
theorem opening_repeated_at_once :
    openAssignmentTask ledgerHashing openedSample (sampleOpening.at 9 9) = .ok openedSample := by
  have hlength : (storedTask openedSample "BRC-TASK-1").any
      (fun task => task.transitions.length == 1) = true := by
    decide +kernel
  obtain ⟨task, hstored, hone⟩ := (Option.any_eq_true _ _).mp hlength
  exact (open_repeated_iff ledgerHashing (sampleDefinition "2026.05") rfl [] sampleOpening
    openedSample (by decide +kernel) [] (by decide +kernel) (by decide +kernel) 9 9).mpr
      ⟨task, hstored, beq_iff_eq.mp hone⟩

/-- After the task is acknowledged the same opening is refused, though the definition is active. -/
theorem opening_refused_after_transition :
    openAssignmentTask ledgerHashing (sampleDefinition "2026.05") sampleOpening =
      .ok openedSample ∧
    (afterTaskCommands ledgerHashing openedSample
      [.transition (sampleTransition .acknowledged "BRC-TASK-1-ACK" 2)]).status = .active ∧
    openAssignmentTask ledgerHashing
        (afterTaskCommands ledgerHashing openedSample
          [.transition (sampleTransition .acknowledged "BRC-TASK-1-ACK" 2)]) sampleOpening =
      .error (.value "BULK_REVIEW_CAMPAIGN_ASSIGNMENT_TASK_REF_CONFLICT") := by
  refine ⟨by decide +kernel, by decide +kernel, by decide +kernel⟩

end LotusManage.Campaigns
