import LotusManage.Campaigns.StoreCases
import Mathlib.Data.List.Chain

/-!
# Task histories

Over every sequence of open and transition commands on one definition, rejected ones and replays
among them, the ledger of a task tells how the task came to be what it is.

* `transitionedTask_moves`: the one entry that a transition adds, and what it says of the task.
* `TaskHistory`: the invariant of a task.  It begins with the opening, every entry starts where the
  one before it ended, and the last one is what the task is now.
* `TasksGrow`: what a command does to the tasks of a definition.  It keeps the place and the
  reference of a task, and a task that changes has a longer ledger.
* `task_histories`: the invariant over a run, with what no command changes.
-/

namespace LotusManage.Campaigns

open LotusManage.Checks (bind_eq_ok)
open LotusManage.Text (strip)

/-! ## Commands -/

/-- A command on the tasks of a definition. -/
inductive TaskCommand where
  | open (request : OpenTaskRequest)
  | transition (request : TransitionRequest)

/-- The reference of the task that a command is about. -/
def TaskCommand.taskRef : TaskCommand → String
  | .open request => strip request.taskRef
  | .transition request => strip request.taskRef

def TaskCommand.perform (hashing : Hashing) (definition : CampaignDefinition) :
    TaskCommand → Except CampaignError CampaignDefinition
  | .open request => openAssignmentTask hashing definition request
  | .transition request => transitionAssignmentTask hashing definition request

/-- One call: a command that is rejected leaves the definition. -/
def taskStep (hashing : Hashing) (definition : CampaignDefinition) (command : TaskCommand) :
    CampaignDefinition :=
  match command.perform hashing definition with
  | .ok updated => updated
  | .error _ => definition

variable {hashing : Hashing} {definition updated later recorded : CampaignDefinition}
  {command : TaskCommand} {next : TaskStatus} {task moved : AssignmentTask}
  {request fields : TransitionRequest} {index : Nat}

theorem taskStep_of_ok (h : command.perform hashing definition = .ok updated) :
    taskStep hashing definition command = updated := by
  unfold taskStep
  rw [h]

/-- The definition after a sequence of commands. -/
def afterTaskCommands (hashing : Hashing) (definition : CampaignDefinition)
    (commands : List TaskCommand) : CampaignDefinition :=
  Runs.run (taskStep hashing) definition commands

/-! ## Histories -/

/-- The status that a transition leads to: the one of `_STATUS_TRANSITIONS`, from a status that it
allows, or the same status for the three types that have no entry there. -/
def StepAllowed (status : TaskStatus) (transition : TaskTransition) : Prop :=
  match statusTransitions transition.transitionType with
  | some (allowed, next) => status ∈ allowed ∧ transition.toStatus = next
  | none =>
    (transition.transitionType = .reassigned ∨ transition.transitionType = .escalated ∨
      transition.transitionType = .dueDateChanged) ∧ transition.toStatus = status

/-- An entry of the ledger starts where the entry before it ended. -/
structure Succeeds (earlier later : TaskTransition) : Prop where
  fromStatus : later.fromStatus = some earlier.toStatus
  allowed : StepAllowed earlier.toStatus later

/-- The entry says what the task is. -/
structure Describes (transition : TaskTransition) (task : AssignmentTask) : Prop where
  status : transition.toStatus = task.status
  assignedActorIds : transition.assignedActorIds = task.assignedActorIds
  escalationTier : transition.escalationTier = task.escalationTier
  slaPosture : transition.slaPosture = task.slaPosture
  dueAt : transition.dueAt = task.dueAt

/-- The ledger of a task. -/
structure TaskHistory (task : AssignmentTask) : Prop where
  opened : ∃ first rest, task.transitions = first :: rest ∧ first.transitionType = .opened ∧
    first.fromStatus = none ∧ first.toStatus = .open
  linked : task.transitions.IsChain Succeeds
  current : ∀ last ∈ task.transitions.getLast?, Describes last task
  refsDistinct : (task.transitions.map TaskTransition.transitionRef).Nodup
  assigned : task.status.closed = false → task.assignedActorIds ≠ []

/-! ## One transition -/

/-- What an accepted transition does to a task. -/
structure Moves (hashing : Hashing) (request : TransitionRequest) (task moved : AssignmentTask) :
    Prop where
  wasOpen : task.status.closed = false
  taskRef : moved.taskRef = task.taskRef
  hashed : moved.contentHash = taskHash hashing moved
  assigned : moved.status.closed = false → moved.assignedActorIds ≠ []
  entry : ∃ transition, moved.transitions = task.transitions ++ [transition] ∧
    transition.transitionRef = request.transitionRef ∧
    transition.fromStatus = some task.status ∧ StepAllowed task.status transition ∧
    Describes transition moved ∧ transitionMatchesRequest transition request = true

theorem nextStatus_eq_ok {status : TaskStatus} {transitionType : TaskTransitionType}
    (hopened : transitionType ≠ .opened) (h : nextStatus status transitionType = .ok next)
    {transition : TaskTransition} (htype : transition.transitionType = transitionType)
    (hto : transition.toStatus = next) : StepAllowed status transition := by
  unfold nextStatus at h
  unfold StepAllowed
  rw [htype]
  cases hentry : statusTransitions transitionType with
  | none =>
    rw [hentry] at h
    cases h
    refine ⟨?_, hto⟩
    cases transitionType with
    | reassigned => exact Or.inl rfl
    | escalated => exact Or.inr (Or.inl rfl)
    | dueDateChanged => exact Or.inr (Or.inr rfl)
    | opened => exact absurd rfl hopened
    | acknowledged => cases hentry
    | started => cases hentry
    | blocked => cases hentry
    | unblocked => cases hentry
    | resolved => cases hentry
    | cancelled => cases hentry
  | some entry =>
    rw [hentry] at h
    dsimp only at h ⊢
    split at h
    · cases h
      exact ⟨by assumption, hto⟩
    · cases h

theorem validateTransitionAllowed_eq_ok {transitionType : TaskTransitionType}
    (h : validateTransitionAllowed task transitionType = .ok ()) :
    transitionType ≠ .opened ∧ task.status.closed = false := by
  unfold validateTransitionAllowed at h
  split at h
  · cases h
  · split at h
    · cases h
    · rename_i hopened hclosed
      exact ⟨hopened, by simpa using hclosed⟩

theorem assigned_of_requirements {nextAssignees : List String}
    (h : validateTransitionFieldRequirements next nextAssignees request = .ok ()) :
    next.closed = false → nextAssignees ≠ [] := by
  intro hopen hnone
  unfold validateTransitionFieldRequirements at h
  simp [hopen, hnone] at h

theorem transitionedTask_moves (h : transitionedTask hashing task request = .ok moved) :
    Moves hashing request task moved := by
  unfold transitionedTask at h
  obtain ⟨_, hallowed, h⟩ := bind_eq_ok h
  obtain ⟨next, hnext, h⟩ := bind_eq_ok h
  obtain ⟨_, hrequired, h⟩ := bind_eq_ok h
  cases h
  obtain ⟨hopened, hopen⟩ := validateTransitionAllowed_eq_ok hallowed
  refine ⟨hopen, rfl, rfl, assigned_of_requirements hrequired, _, rfl, rfl, rfl, ?_,
    ⟨rfl, rfl, rfl, rfl, rfl⟩, ?_⟩
  · exact nextStatus_eq_ok hopened hnext rfl rfl
  · unfold transitionMatchesRequest transitionNextAssignees buildTransition
    cases request.assignedActorIds <;> cases request.escalationTier <;>
      cases request.slaPosture <;> cases request.dueAt <;> simp

theorem TaskHistory.moves (h : TaskHistory task) (hmoves : Moves hashing request task moved)
    (hfresh : request.transitionRef ∉ task.transitions.map TaskTransition.transitionRef) :
    TaskHistory moved := by
  obtain ⟨transition, hledger, href, hfrom, hallowed, hdescribes, _⟩ := hmoves.entry
  obtain ⟨first, rest, hfirst, htype, hnone, hto⟩ := h.opened
  refine ⟨⟨first, rest ++ [transition], by rw [hledger, hfirst]; rfl, htype, hnone, hto⟩, ?_, ?_, ?_,
    hmoves.assigned⟩
  · rw [hledger]
    refine h.linked.append (List.isChain_singleton transition) ?_
    intro last hlast next hnext
    cases hnext
    have hstatus := (h.current last hlast).status
    exact ⟨by rw [hfrom, hstatus], by rw [hstatus]; exact hallowed⟩
  · intro last hlast
    rw [hledger, List.getLast?_concat] at hlast
    cases hlast
    exact hdescribes
  · rw [hledger, List.map_append, List.nodup_append]
    refine ⟨h.refsDistinct, List.nodup_singleton _, ?_⟩
    intro a ha b hb heq
    rw [List.map_singleton, List.mem_singleton] at hb
    rw [heq, hb, href] at ha
    exact hfresh ha

/-! ## Opening a task -/

theorem requiredText_eq_ok {value errorCode text : String}
    (h : requiredText value errorCode = .ok text) : text = strip value := by
  unfold requiredText at h
  split at h
  · cases h
  · cases h
    rfl

/-- The fields of an opening: those of the request, stripped. -/
def OpenTaskRequest.stripped (request : OpenTaskRequest) : OpenTaskRequest :=
  { request with
    taskRef := strip request.taskRef
    openedBy := strip request.openedBy
    taskReason := strip request.taskReason
    assignedActorIds := normalizeActorIds request.assignedActorIds
    correlationId := strip request.correlationId }

theorem openTaskRequestFields_eq_ok {request fields : OpenTaskRequest}
    (h : openTaskRequestFields request = .ok fields) :
    normalizeActorIds request.assignedActorIds ≠ [] ∧ fields = request.stripped := by
  unfold openTaskRequestFields at h
  obtain ⟨_, hassignees, h⟩ := bind_eq_ok h
  obtain ⟨taskRef, htaskRef, h⟩ := bind_eq_ok h
  obtain ⟨openedBy, hopenedBy, h⟩ := bind_eq_ok h
  obtain ⟨taskReason, htaskReason, h⟩ := bind_eq_ok h
  obtain ⟨correlationId, hcorrelationId, h⟩ := bind_eq_ok h
  cases h
  rw [requiredText_eq_ok htaskRef, requiredText_eq_ok hopenedBy, requiredText_eq_ok htaskReason,
    requiredText_eq_ok hcorrelationId]
  refine ⟨?_, rfl⟩
  intro hnone
  rw [requireAssignees, if_pos hnone] at hassignees
  cases hassignees

theorem taskHistory_buildTask {request : OpenTaskRequest}
    (hassigned : request.assignedActorIds ≠ []) :
    TaskHistory (buildTask hashing definition request) := by
  refine ⟨⟨_, [], rfl, rfl, rfl, rfl⟩, List.isChain_singleton _, ?_, List.nodup_singleton _,
    fun _ => hassigned⟩
  intro last hlast
  cases hlast
  exact ⟨rfl, rfl, rfl, rfl, rfl⟩

/-! ## What a command does -/

/-- The definition with other tasks. -/
def CampaignDefinition.withTasks (hashing : Hashing) (definition : CampaignDefinition)
    (tasks : List AssignmentTask) : CampaignDefinition :=
  { definition with assignmentTasks := tasks, contentHash := "" }.hashed hashing

theorem openAssignmentTask_cases {request : OpenTaskRequest}
    (h : openAssignmentTask hashing definition request = .ok updated) :
    ∃ fields, openTaskRequestFields request = .ok fields ∧
      ((updated = definition ∧ ∃ earlier,
        definition.assignmentTasks.find? (fun task => task.taskRef = fields.taskRef) =
          some earlier ∧
        earlier.contentHash = (buildTask hashing definition fields).contentHash) ∨
      ((∀ task ∈ definition.assignmentTasks, task.taskRef ≠ fields.taskRef) ∧
        updated = definition.withTasks hashing
          (definition.assignmentTasks ++ [buildTask hashing definition fields]))) := by
  unfold openAssignmentTask at h
  obtain ⟨_, _, h⟩ := bind_eq_ok h
  obtain ⟨fields, hfields, h⟩ := bind_eq_ok h
  obtain ⟨_, _, h⟩ := bind_eq_ok h
  refine ⟨fields, hfields, ?_⟩
  dsimp only at h
  cases hfind : definition.assignmentTasks.find?
      (fun earlier => earlier.taskRef = (buildTask hashing definition fields).taskRef) with
  | some earlier =>
    rw [hfind] at h
    dsimp only at h
    split at h
    · rename_i hsame
      cases h
      exact Or.inl ⟨rfl, earlier, hfind, hsame⟩
    · cases h
  | none =>
    rw [hfind] at h
    refine Or.inr ⟨?_, validateDefinition_eq_ok h⟩
    intro task hmem href
    exact List.find?_eq_none.mp hfind task hmem (decide_eq_true href)

/-- The fields of a transition: those of the request, stripped. -/
def TransitionRequest.stripped (request : TransitionRequest) : TransitionRequest :=
  { request with
    taskRef := strip request.taskRef
    transitionRef := strip request.transitionRef
    transitionedBy := strip request.transitionedBy
    transitionReason := strip request.transitionReason
    correlationId := strip request.correlationId }

theorem transitionRequestFields_eq_ok (h : transitionRequestFields request = .ok fields) :
    fields = request.stripped := by
  unfold transitionRequestFields at h
  obtain ⟨taskRef, htaskRef, h⟩ := bind_eq_ok h
  obtain ⟨transitionRef, htransitionRef, h⟩ := bind_eq_ok h
  obtain ⟨transitionedBy, htransitionedBy, h⟩ := bind_eq_ok h
  obtain ⟨transitionReason, htransitionReason, h⟩ := bind_eq_ok h
  obtain ⟨correlationId, hcorrelationId, h⟩ := bind_eq_ok h
  cases h
  rw [requiredText_eq_ok htaskRef, requiredText_eq_ok htransitionRef,
    requiredText_eq_ok htransitionedBy, requiredText_eq_ok htransitionReason,
    requiredText_eq_ok hcorrelationId]
  rfl

theorem assignmentTaskForRef_eq_ok_iff {taskRef : String} :
    assignmentTaskForRef definition taskRef = .ok (index, task) ↔
      definition.assignmentTasks[index]? = some task ∧ task.taskRef = taskRef ∧
        ∀ earlier < index, ∀ other, definition.assignmentTasks[earlier]? = some other →
          other.taskRef ≠ taskRef := by
  unfold assignmentTaskForRef assignmentTaskIndex
  constructor
  · intro h
    split at h
    · cases h
    · rename_i found hfound
      obtain ⟨hlength, hhere, hbefore⟩ := List.findIdx?_eq_some_iff_getElem.mp hfound
      rw [List.getElem?_eq_getElem hlength] at h
      cases h
      refine ⟨List.getElem?_eq_getElem hlength, of_decide_eq_true hhere, ?_⟩
      intro earlier hlt other hother href
      obtain ⟨hearlier, rfl⟩ := List.getElem?_eq_some_iff.mp hother
      exact absurd (decide_eq_true href) (hbefore earlier hlt)
  · rintro ⟨htask, href, hbefore⟩
    obtain ⟨hlength, hget⟩ := List.getElem?_eq_some_iff.mp htask
    have hfound : definition.assignmentTasks.findIdx? (fun task => task.taskRef = taskRef) =
        some index := by
      refine List.findIdx?_eq_some_iff_getElem.mpr ⟨hlength, ?_, ?_⟩
      · rw [hget]
        exact decide_eq_true href
      · intro earlier hlt hsame
        have hearlier : earlier < definition.assignmentTasks.length := by omega
        exact hbefore earlier hlt _ (List.getElem?_eq_getElem hearlier) (of_decide_eq_true hsame)
    rw [hfound]
    dsimp only
    rw [htask]

theorem transitionAssignmentTask_cases
    (h : transitionAssignmentTask hashing definition request = .ok updated) :
    ∃ index task, assignmentTaskForRef definition (strip request.taskRef) = .ok (index, task) ∧
      ((updated = definition ∧ ∃ existing,
        task.transitions.find? (fun transition =>
          transition.transitionRef = strip request.transitionRef) = some existing ∧
        transitionMatchesRequest existing request.stripped = true) ∨
      (strip request.transitionRef ∉ task.transitions.map TaskTransition.transitionRef ∧
        ∃ moved, Moves hashing request.stripped task moved ∧
          updated = definition.withTasks hashing (definition.assignmentTasks.set index moved))) := by
  unfold transitionAssignmentTask at h
  obtain ⟨_, _, h⟩ := bind_eq_ok h
  obtain ⟨fields, hfields, h⟩ := bind_eq_ok h
  obtain ⟨_, _, h⟩ := bind_eq_ok h
  obtain ⟨⟨index, task⟩, hfound, h⟩ := bind_eq_ok h
  cases transitionRequestFields_eq_ok hfields
  refine ⟨index, task, hfound, ?_⟩
  dsimp only at h
  cases hfind : task.transitions.find?
      (fun transition => transition.transitionRef = request.stripped.transitionRef) with
  | some existing =>
    rw [hfind] at h
    dsimp only at h
    split at h
    · rename_i hsame
      cases h
      exact Or.inl ⟨rfl, existing, hfind, hsame⟩
    · cases h
  | none =>
    rw [hfind] at h
    obtain ⟨moved, hmoved, h⟩ := bind_eq_ok h
    refine Or.inr ⟨?_, moved, transitionedTask_moves hmoved, validateDefinition_eq_ok h⟩
    intro hmem
    obtain ⟨transition, htransition, href⟩ := List.mem_map.mp hmem
    exact List.find?_eq_none.mp hfind transition htransition (decide_eq_true href)

theorem taskStep_cases (hashing : Hashing) (definition : CampaignDefinition)
    (command : TaskCommand) :
    taskStep hashing definition command = definition ∨
    (∃ opened, opened.taskRef = command.taskRef ∧ TaskHistory opened ∧
      opened.contentHash = taskHash hashing opened ∧
      (∀ task ∈ definition.assignmentTasks, task.taskRef ≠ opened.taskRef) ∧
      taskStep hashing definition command =
        definition.withTasks hashing (definition.assignmentTasks ++ [opened])) ∨
    (∃ request index task moved,
      assignmentTaskForRef definition command.taskRef = .ok (index, task) ∧
      Moves hashing request task moved ∧
      request.transitionRef ∉ task.transitions.map TaskTransition.transitionRef ∧
      taskStep hashing definition command =
        definition.withTasks hashing (definition.assignmentTasks.set index moved)) := by
  unfold taskStep
  cases hperform : command.perform hashing definition with
  | error e => exact Or.inl rfl
  | ok updated =>
    cases command with
    | «open» request =>
      obtain ⟨fields, hfields, hcases⟩ := openAssignmentTask_cases hperform
      obtain ⟨hassigned, rfl⟩ := openTaskRequestFields_eq_ok hfields
      rcases hcases with ⟨hsame, _⟩ | ⟨hfresh, hopened⟩
      · exact Or.inl hsame
      · exact Or.inr (Or.inl ⟨buildTask hashing definition request.stripped, rfl,
          taskHistory_buildTask hassigned, rfl, hfresh, hopened⟩)
    | transition request =>
      obtain ⟨index, task, hfound, hcases⟩ := transitionAssignmentTask_cases hperform
      rcases hcases with ⟨hsame, _⟩ | ⟨hfresh, moved, hmoves, hmoved⟩
      · exact Or.inl hsame
      · exact Or.inr (Or.inr ⟨_, index, task, moved, hfound, hmoves, hfresh, hmoved⟩)

/-! ## The tasks of a definition -/

/-- Every task of the definition has its history and its hash, and no two have one reference. -/
structure TasksSound (hashing : Hashing) (definition : CampaignDefinition) : Prop where
  refsDistinct : (definition.assignmentTasks.map AssignmentTask.taskRef).Nodup
  history : ∀ task ∈ definition.assignmentTasks, TaskHistory task
  hashed : ∀ task ∈ definition.assignmentTasks, task.contentHash = taskHash hashing task

theorem map_taskRef_set {tasks : List AssignmentTask} (htask : tasks[index]? = some task)
    (href : moved.taskRef = task.taskRef) :
    (tasks.set index moved).map AssignmentTask.taskRef = tasks.map AssignmentTask.taskRef := by
  have hsame : (tasks.map AssignmentTask.taskRef)[index]? = some moved.taskRef := by
    rw [List.getElem?_map, htask, href]
    rfl
  obtain ⟨hplace, hget⟩ := List.getElem?_eq_some_iff.mp hsame
  rw [List.map_set, ← hget]
  exact List.set_getElem_self hplace

theorem TasksSound.taskStep (h : TasksSound hashing definition) (command : TaskCommand) :
    TasksSound hashing (taskStep hashing definition command) := by
  rcases taskStep_cases hashing definition command with
    hsame | ⟨opened, _, hhistory, hhashed, hfresh, hopened⟩ |
      ⟨request, index, task, moved, hfound, hmoves, hfresh, hmoved⟩
  · rw [hsame]
    exact h
  · rw [hopened]
    refine ⟨?_, ?_, ?_⟩
    · show ((definition.assignmentTasks ++ [opened]).map AssignmentTask.taskRef).Nodup
      rw [List.map_append, List.nodup_append]
      refine ⟨h.refsDistinct, List.nodup_singleton _, ?_⟩
      intro a ha b hb heq
      rw [List.map_singleton, List.mem_singleton] at hb
      obtain ⟨task, hmem, rfl⟩ := List.mem_map.mp ha
      exact hfresh task hmem (heq.trans hb)
    · intro task hmem
      rcases List.mem_append.mp hmem with hmem | hmem
      · exact h.history task hmem
      · rw [List.mem_singleton.mp hmem]
        exact hhistory
    · intro task hmem
      rcases List.mem_append.mp hmem with hmem | hmem
      · exact h.hashed task hmem
      · rw [List.mem_singleton.mp hmem]
        exact hhashed
  · obtain ⟨htask, _, _⟩ := assignmentTaskForRef_eq_ok_iff.mp hfound
    rw [hmoved]
    refine ⟨?_, ?_, ?_⟩
    · show ((definition.assignmentTasks.set index moved).map AssignmentTask.taskRef).Nodup
      rw [map_taskRef_set htask hmoves.taskRef]
      exact h.refsDistinct
    · intro other hmem
      rcases List.mem_or_eq_of_mem_set hmem with hmem | rfl
      · exact h.history other hmem
      · exact (h.history task (List.mem_of_getElem? htask)).moves hmoves hfresh
    · intro other hmem
      rcases List.mem_or_eq_of_mem_set hmem with hmem | rfl
      · exact h.hashed other hmem
      · exact hmoves.hashed

theorem taskStep_frame (htask : definition.assignmentTasks[index]? = some task)
    (hframe : command.taskRef ≠ task.taskRef ∨ task.status.closed = true) :
    (taskStep hashing definition command).assignmentTasks[index]? = some task := by
  rcases taskStep_cases hashing definition command with
    hsame | ⟨opened, _, _, _, _, hopened⟩ | ⟨request, found, other, moved, hfound, hmoves, _, hmoved⟩
  · rw [hsame]
    exact htask
  · rw [hopened]
    show (definition.assignmentTasks ++ [opened])[index]? = some task
    rw [List.getElem?_append_left (List.getElem?_eq_some_iff.mp htask).1]
    exact htask
  · obtain ⟨hother, href, _⟩ := assignmentTaskForRef_eq_ok_iff.mp hfound
    rw [hmoved]
    show (definition.assignmentTasks.set found moved)[index]? = some task
    have hne : found ≠ index := by
      intro heq
      rw [heq, htask] at hother
      cases hother
      cases hframe with
      | inl hnamed => exact hnamed href.symm
      | inr hclosed =>
        have hopen := hmoves.wasOpen
        rw [hclosed] at hopen
        cases hopen
    rw [List.getElem?_set_ne hne]
    exact htask

/-- The later definition is the earlier one with its tasks in their places, each as it was or with
a longer ledger, and with more tasks after them. -/
structure TasksGrow (earlier later : CampaignDefinition) : Prop where
  status : later.status = earlier.status
  governance : later.governance = earlier.governance
  campaignId : later.campaignId = earlier.campaignId
  campaignVersion : later.campaignVersion = earlier.campaignVersion
  tasks : ∀ (index : Nat) (task : AssignmentTask),
    earlier.assignmentTasks[index]? = some task →
      ∃ task' : AssignmentTask, later.assignmentTasks[index]? = some task' ∧
        task'.taskRef = task.taskRef ∧ task.transitions <+: task'.transitions ∧
        (task'.transitions.length = task.transitions.length → task' = task)

theorem TasksGrow.refl (definition : CampaignDefinition) : TasksGrow definition definition :=
  ⟨rfl, rfl, rfl, rfl, fun _ task htask => ⟨task, htask, rfl, List.prefix_refl _, fun _ => rfl⟩⟩

theorem TasksGrow.trans {first second third : CampaignDefinition} (h : TasksGrow first second)
    (h' : TasksGrow second third) : TasksGrow first third := by
  refine ⟨h'.status.trans h.status, h'.governance.trans h.governance,
    h'.campaignId.trans h.campaignId, h'.campaignVersion.trans h.campaignVersion, ?_⟩
  intro index task htask
  obtain ⟨task', htask', href, hprefix, hsame⟩ := h.tasks index task htask
  obtain ⟨task'', htask'', href', hprefix', hsame'⟩ := h'.tasks index task' htask'
  refine ⟨task'', htask'', href'.trans href, hprefix.trans hprefix', ?_⟩
  intro hlength
  have hle := hprefix.length_le
  have hle' := hprefix'.length_le
  rw [hsame' (by omega), hsame (by omega)]

theorem tasksGrow_taskStep (hashing : Hashing) (definition : CampaignDefinition)
    (command : TaskCommand) : TasksGrow definition (taskStep hashing definition command) := by
  rcases taskStep_cases hashing definition command with
    hsame | ⟨opened, _, _, _, _, hopened⟩ | ⟨request, found, other, moved, hfound, hmoves, _, hmoved⟩
  · rw [hsame]
    exact .refl definition
  · rw [hopened]
    refine ⟨rfl, rfl, rfl, rfl, ?_⟩
    intro index task htask
    refine ⟨task, ?_, rfl, List.prefix_refl _, fun _ => rfl⟩
    show (definition.assignmentTasks ++ [opened])[index]? = some task
    rw [List.getElem?_append_left (List.getElem?_eq_some_iff.mp htask).1]
    exact htask
  · obtain ⟨hother, _, _⟩ := assignmentTaskForRef_eq_ok_iff.mp hfound
    obtain ⟨transition, hledger, _⟩ := hmoves.entry
    rw [hmoved]
    refine ⟨rfl, rfl, rfl, rfl, ?_⟩
    intro index task htask
    show ∃ task', (definition.assignmentTasks.set found moved)[index]? = some task' ∧ _
    by_cases heq : found = index
    · cases heq
      rw [htask] at hother
      cases hother
      refine ⟨moved, ?_, hmoves.taskRef, ⟨[transition], hledger.symm⟩, ?_⟩
      · exact List.getElem?_set_self (List.getElem?_eq_some_iff.mp htask).1
      · intro hlength
        rw [hledger, List.length_append] at hlength
        simp at hlength
    · refine ⟨task, ?_, rfl, List.prefix_refl _, fun _ => rfl⟩
      rw [List.getElem?_set_ne heq]
      exact htask

theorem tasksGrow_after (hashing : Hashing) (definition : CampaignDefinition)
    (commands : List TaskCommand) :
    TasksGrow definition (afterTaskCommands hashing definition commands) :=
  Runs.run_keeps (TasksGrow definition)
    (fun reached command h => h.trans (tasksGrow_taskStep hashing reached command)) commands
    (.refl definition)

theorem TasksGrow.assignmentTaskForRef {earlier : CampaignDefinition} (h : TasksGrow earlier later)
    {taskRef : String} (hfound : assignmentTaskForRef earlier taskRef = .ok (index, task)) :
    ∃ task', assignmentTaskForRef later taskRef = .ok (index, task') ∧
      task.transitions <+: task'.transitions ∧
      (task'.transitions.length = task.transitions.length → task' = task) := by
  obtain ⟨htask, href, hbefore⟩ := assignmentTaskForRef_eq_ok_iff.mp hfound
  obtain ⟨task', htask', href', hprefix, hsame⟩ := h.tasks index task htask
  refine ⟨task', assignmentTaskForRef_eq_ok_iff.mpr ⟨htask', href'.trans href, ?_⟩, hprefix, hsame⟩
  intro place hlt other hother
  have hplace : place < earlier.assignmentTasks.length :=
    hlt.trans (List.getElem?_eq_some_iff.mp htask).1
  have hbefore' := hbefore place hlt _ (List.getElem?_eq_getElem hplace)
  obtain ⟨grown, hgrown, hgrownRef, _⟩ := h.tasks place _ (List.getElem?_eq_getElem hplace)
  rw [hgrown] at hother
  cases hother
  rw [hgrownRef]
  exact hbefore'

theorem tasksSound_after (hashing : Hashing) (hnone : definition.assignmentTasks = [])
    (commands : List TaskCommand) :
    TasksSound hashing (afterTaskCommands hashing definition commands) := by
  refine Runs.run_keeps (TasksSound hashing) (fun _ command h => h.taskStep command) commands ?_
  constructor
  · rw [hnone]
    exact List.nodup_nil
  · intro task hmem
    rw [hnone] at hmem
    cases hmem
  · intro task hmem
    rw [hnone] at hmem
    cases hmem

/-! ## Repeated transitions -/

theorem entitlement_congr (h : later.governance = definition.governance) (actorId : String) :
    validateCampaignCommandActorEntitlement later actorId =
      validateCampaignCommandActorEntitlement definition actorId := by
  unfold validateCampaignCommandActorEntitlement
  rw [h]

/-- The transition that a request asks for stands in the ledger of its task. -/
def InLedger (definition : CampaignDefinition) (request : TransitionRequest) : Prop :=
  ∃ index task existing,
    assignmentTaskForRef definition (strip request.taskRef) = .ok (index, task) ∧
    task.transitions.find? (fun transition =>
      transition.transitionRef = strip request.transitionRef) = some existing ∧
    transitionMatchesRequest existing request.stripped = true

theorem inLedger_of_accepted
    (h : transitionAssignmentTask hashing definition request = .ok recorded) :
    InLedger recorded request := by
  obtain ⟨index, task, hfound, hcases⟩ := transitionAssignmentTask_cases h
  rcases hcases with ⟨rfl, existing, hexisting, hmatches⟩ | ⟨hfresh, moved, hmoves, rfl⟩
  · exact ⟨index, task, existing, hfound, hexisting, hmatches⟩
  · obtain ⟨htask, href, hbefore⟩ := assignmentTaskForRef_eq_ok_iff.mp hfound
    obtain ⟨transition, hledger, htransition, _, _, _, hmatches⟩ := hmoves.entry
    refine ⟨index, moved, transition, assignmentTaskForRef_eq_ok_iff.mpr ⟨?_, ?_, ?_⟩, ?_, hmatches⟩
    · exact List.getElem?_set_self (List.getElem?_eq_some_iff.mp htask).1
    · rw [hmoves.taskRef, href]
    · intro place hlt other hother
      change (definition.assignmentTasks.set index moved)[place]? = some other at hother
      rw [List.getElem?_set_ne (by omega)] at hother
      exact hbefore place hlt other hother
    · have hnone : task.transitions.find? (fun transition =>
          transition.transitionRef = strip request.transitionRef) = none := by
        apply List.find?_eq_none.mpr
        intro earlier hmem hsame
        exact hfresh (List.mem_map.mpr ⟨earlier, hmem, of_decide_eq_true hsame⟩)
      have hhere : transition.transitionRef = strip request.transitionRef := htransition
      rw [hledger, List.find?_append, hnone]
      simp [hhere]

theorem InLedger.grow (h : InLedger definition request) (hgrow : TasksGrow definition later) :
    InLedger later request := by
  obtain ⟨index, task, existing, hfound, hexisting, hmatches⟩ := h
  obtain ⟨task', hfound', ⟨entries, hledger⟩, _⟩ := hgrow.assignmentTaskForRef hfound
  refine ⟨index, task', existing, hfound', ?_, hmatches⟩
  rw [← hledger, List.find?_append, hexisting]
  rfl

theorem transitionRequestFields_at (h : transitionRequestFields request = .ok fields) (now : Int) :
    transitionRequestFields { request with transitionedAt := now } =
      .ok { fields with transitionedAt := now } := by
  unfold transitionRequestFields at h ⊢
  obtain ⟨_, htaskRef, h⟩ := bind_eq_ok h
  obtain ⟨_, htransitionRef, h⟩ := bind_eq_ok h
  obtain ⟨_, htransitionedBy, h⟩ := bind_eq_ok h
  obtain ⟨_, htransitionReason, h⟩ := bind_eq_ok h
  obtain ⟨_, hcorrelationId, h⟩ := bind_eq_ok h
  cases h
  simp only [htaskRef, htransitionRef, htransitionedBy, htransitionReason, hcorrelationId]
  rfl

theorem transition_repeated (h : transitionAssignmentTask hashing definition request = .ok recorded)
    (hgrow : TasksGrow recorded later) (hactive : later.status = .active) (now : Int) :
    transitionAssignmentTask hashing later { request with transitionedAt := now } = .ok later := by
  obtain ⟨index, task, existing, hfound, hexisting, hmatches⟩ :=
    (inLedger_of_accepted h).grow hgrow
  have hgovernance : later.governance = definition.governance := by
    rw [hgrow.governance]
    obtain ⟨_, _, _, hcases⟩ := transitionAssignmentTask_cases h
    rcases hcases with ⟨rfl, _⟩ | ⟨_, _, _, rfl⟩
    · rfl
    · rfl
  unfold transitionAssignmentTask at h ⊢
  obtain ⟨_, _, h⟩ := bind_eq_ok h
  obtain ⟨fields, hfields, h⟩ := bind_eq_ok h
  obtain ⟨_, hentitled, _⟩ := bind_eq_ok h
  cases transitionRequestFields_eq_ok hfields
  have hrequire : requireActive later "BULK_REVIEW_CAMPAIGN_ASSIGNMENT_TASK_ACTIVE_REQUIRED" =
      .ok () := by
    unfold requireActive
    rw [if_neg (not_not.mpr hactive)]
  rw [← entitlement_congr hgovernance] at hentitled
  have hkept : transitionMatchesRequest existing
      { request.stripped with transitionedAt := now } = true := hmatches
  simp only [hrequire, transitionRequestFields_at hfields now, bind, Except.bind]
  have hfoundAt : assignmentTaskForRef later request.stripped.taskRef = .ok (index, task) := hfound
  have hexistingAt : task.transitions.find? (fun transition =>
      transition.transitionRef = request.stripped.transitionRef) = some existing := hexisting
  simp only [hentitled, hfoundAt, hexistingAt, hkept, if_true]

/-- What holds of the tasks after every sequence of commands on a definition without tasks. -/
theorem task_histories (hashing : Hashing) (definition : CampaignDefinition)
    (hnone : definition.assignmentTasks = []) (commands : List TaskCommand) :
    ((afterTaskCommands hashing definition commands).assignmentTasks.map
      AssignmentTask.taskRef).Nodup ∧
    (∀ task ∈ (afterTaskCommands hashing definition commands).assignmentTasks,
      TaskHistory task) ∧
    (∀ (index : Nat) (task : AssignmentTask),
      (afterTaskCommands hashing definition commands).assignmentTasks[index]? = some task →
      (∀ command : TaskCommand, command.taskRef ≠ task.taskRef →
        (taskStep hashing (afterTaskCommands hashing definition commands)
          command).assignmentTasks[index]? = some task) ∧
      (task.status.closed = true → ∀ later,
        (afterTaskCommands hashing definition (commands ++ later)).assignmentTasks[index]? =
          some task)) ∧
    ∀ request recorded,
      transitionAssignmentTask hashing (afterTaskCommands hashing definition commands) request =
        .ok recorded →
      ∀ later, (afterTaskCommands hashing recorded later).status = .active → ∀ now,
        transitionAssignmentTask hashing (afterTaskCommands hashing recorded later)
          { request with transitionedAt := now } =
            .ok (afterTaskCommands hashing recorded later) := by
  have hsound := tasksSound_after hashing hnone commands
  refine ⟨hsound.refsDistinct, hsound.history, ?_, ?_⟩
  · intro index task htask
    refine ⟨?_, ?_⟩
    · intro command hother
      exact taskStep_frame htask (Or.inl hother)
    intro hclosed later
    rw [afterTaskCommands, Runs.run_append]
    exact Runs.run_keeps
      (fun reached : CampaignDefinition => reached.assignmentTasks[index]? = some task)
      (fun reached command h => taskStep_frame h (Or.inr hclosed)) later htask
  · intro request recorded haccepted later hactive now
    exact transition_repeated haccepted (tasksGrow_after hashing recorded later) hactive now

/-! ### A task that is started and resolved -/

def sampleOpening : OpenTaskRequest where
  taskRef := "BRC-TASK-1"
  taskType := .approvalRemediation
  openedBy := "ops"
  taskReason := "Remediate the rejected approval."
  assignedActorIds := ["pm_7", "ops"]
  escalationTier := .pm
  slaPosture := .onTrack
  correlationId := "corr-campaign-task-001"
  openedAt := 1
  transitionedAt := 1

def sampleTransition (transitionType : TaskTransitionType) (transitionRef : String) (now : Int) :
    TransitionRequest where
  taskRef := "BRC-TASK-1"
  transitionType := transitionType
  transitionRef := transitionRef
  transitionedBy := "pm_7"
  transitionReason := "Worked on."
  correlationId := "corr-campaign-task-002"
  transitionedAt := now

def sampleTaskCommands : List TaskCommand :=
  [.open sampleOpening, .transition (sampleTransition .started "BRC-TASK-1-START" 2),
    .transition (sampleTransition .unblocked "BRC-TASK-1-UNBLOCK" 3),
    .transition (sampleTransition .resolved "BRC-TASK-1-RESOLVE" 4)]

theorem resolved_task_history :
    ∃ task ∈ (afterTaskCommands sampleHashing (sampleDefinition "2026.05")
        sampleTaskCommands).assignmentTasks,
      task.status = .resolved ∧ task.transitions.length = 3 ∧ TaskHistory task := by
  have hsome : ((afterTaskCommands sampleHashing (sampleDefinition "2026.05")
      sampleTaskCommands).assignmentTasks.find? (fun task =>
        task.status = .resolved ∧ task.transitions.length = 3)).isSome = true := by
    decide +kernel
  obtain ⟨task, htask⟩ := Option.isSome_iff_exists.mp hsome
  have hmem := List.mem_of_find?_eq_some htask
  have hresolved := List.find?_some htask
  simp only [decide_eq_true_eq] at hresolved
  exact ⟨task, hmem, hresolved.1, hresolved.2,
    (task_histories sampleHashing (sampleDefinition "2026.05") rfl sampleTaskCommands).2.1 task
      hmem⟩

end LotusManage.Campaigns
