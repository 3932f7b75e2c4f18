import LotusManage.Campaigns.MakerChecker
import LotusManage.Campaigns.ServiceRuns

/-!
# What a campaign call does to the store

`Extends` orders definitions by the evidence they carry, and `Appended` says what a command
that appends evidence does to the definition it has read.  `storeAfter_cases` then sorts the
calls: a call keeps the store, creates a definition, appends evidence to one, retires one or
supersedes one, and each case comes with everything that the call has read and checked.  The
proofs about runs use these cases and no definition of a command.
-/

namespace LotusManage.Campaigns

open LotusManage.Checks (bind_eq_ok)
open LotusManage.Text (strip)

/-! ## Evidence -/

/-- The later task was opened as the earlier one and has its transitions, in their order; without a
transition of its own it is the earlier one. -/
structure TaskKept (earlier later : AssignmentTask) : Prop where
  taskId : later.taskId = earlier.taskId
  taskRef : later.taskRef = earlier.taskRef
  taskType : later.taskType = earlier.taskType
  openedAt : later.openedAt = earlier.openedAt
  openedBy : later.openedBy = earlier.openedBy
  taskReason : later.taskReason = earlier.taskReason
  correlationId : later.correlationId = earlier.correlationId
  sourceRefs : later.sourceRefs = earlier.sourceRefs
  transitions : earlier.transitions <+: later.transitions
  unmoved : later.transitions.length = earlier.transitions.length → later = earlier

theorem TaskKept.refl (task : AssignmentTask) : TaskKept task task :=
  ⟨rfl, rfl, rfl, rfl, rfl, rfl, rfl, rfl, List.prefix_refl _, fun _ => rfl⟩

theorem TaskKept.trans {first second third : AssignmentTask} (h : TaskKept first second)
    (h' : TaskKept second third) : TaskKept first third where
  taskId := h'.taskId.trans h.taskId
  taskRef := h'.taskRef.trans h.taskRef
  taskType := h'.taskType.trans h.taskType
  openedAt := h'.openedAt.trans h.openedAt
  openedBy := h'.openedBy.trans h.openedBy
  taskReason := h'.taskReason.trans h.taskReason
  correlationId := h'.correlationId.trans h.correlationId
  sourceRefs := h'.sourceRefs.trans h.sourceRefs
  transitions := h.transitions.trans h'.transitions
  unmoved := by
    intro hlength
    have hle := h.transitions.length_le
    have hle' := h'.transitions.length_le
    rw [h'.unmoved (by omega), h.unmoved (by omega)]

/-- The later definition has all the evidence of the earlier one, in its order and in its
place. -/
structure Extends (earlier later : CampaignDefinition) : Prop where
  launches : earlier.launchHistory <+: later.launchHistory
  decisions : earlier.approvalDecisions <+: later.approvalDecisions
  actions : earlier.assignmentActions <+: later.assignmentActions
  tasks : ∀ (index : Nat) (task : AssignmentTask),
    earlier.assignmentTasks[index]? = some task →
      ∃ task' : AssignmentTask, later.assignmentTasks[index]? = some task' ∧ TaskKept task task'
  controls : earlier.makerCheckerControls <+: later.makerCheckerControls

variable {d d' base definition : CampaignDefinition} {hashing : Hashing}
  {store store' : DefinitionStore} {answer : Option CampaignDefinition}

theorem Extends.refl (definition : CampaignDefinition) : Extends definition definition :=
  ⟨List.prefix_refl _, List.prefix_refl _, List.prefix_refl _,
    fun _ task htask => ⟨task, htask, .refl task⟩, List.prefix_refl _⟩

theorem Extends.trans {first second third : CampaignDefinition} (h : Extends first second)
    (h' : Extends second third) : Extends first third := by
  refine ⟨h.launches.trans h'.launches, h.decisions.trans h'.decisions,
    h.actions.trans h'.actions, ?_, h.controls.trans h'.controls⟩
  intro index task htask
  obtain ⟨task', htask', hkept⟩ := h.tasks index task htask
  obtain ⟨task'', htask'', hkept'⟩ := h'.tasks index task' htask'
  exact ⟨task'', htask'', hkept.trans hkept'⟩

/-- Two definitions carry the same evidence. -/
structure SameEvidence (d d' : CampaignDefinition) : Prop where
  launches : d.launchHistory = d'.launchHistory
  decisions : d.approvalDecisions = d'.approvalDecisions
  actions : d.assignmentActions = d'.assignmentActions
  tasks : d.assignmentTasks = d'.assignmentTasks
  controls : d.makerCheckerControls = d'.makerCheckerControls

theorem SameEvidence.extends (h : SameEvidence d d') : Extends d d' := by
  refine ⟨h.launches ▸ List.prefix_refl _, h.decisions ▸ List.prefix_refl _,
    h.actions ▸ List.prefix_refl _, ?_, h.controls ▸ List.prefix_refl _⟩
  intro index task htask
  rw [h.tasks] at htask
  exact ⟨task, htask, .refl task⟩

theorem SameEvidence.symm (h : SameEvidence d d') : SameEvidence d' d :=
  ⟨h.launches.symm, h.decisions.symm, h.actions.symm, h.tasks.symm, h.controls.symm⟩

/-! ## Commands that append evidence -/

/-- The stored content hash is that of the payload. -/
def Hashed (hashing : Hashing) (definition : CampaignDefinition) : Prop :=
  definition.contentHash = campaignDefinitionHash hashing definition

theorem hashed_hashed (hashing : Hashing) (definition : CampaignDefinition) :
    Hashed hashing (definition.hashed hashing) := rfl

/-- What a command that appends evidence does to the definition it has read. -/
structure Appended (hashing : Hashing) (operation : WorkflowOperation)
    (base updated : CampaignDefinition) : Prop where
  key : updated.key = base.key
  status : updated.status = base.status
  supersession : updated.supersession = base.supersession
  hashed : Hashed hashing updated
  evidence : Extends base updated
  launches : operation ≠ .launch → updated.launchHistory = base.launchHistory
  content : operation = .launch → updated.hashPayload = base.hashPayload

section Appended

variable {hashing : Hashing} {base updated : CampaignDefinition} {operation : WorkflowOperation}

variable {task : AssignmentTask} {request : TransitionRequest} {command : EvidenceCommand}

theorem Appended.refl (hbase : Hashed hashing base) : Appended hashing operation base base :=
  ⟨rfl, rfl, rfl, hbase, .refl base, fun _ => rfl, fun _ => rfl⟩

theorem appended_recordLaunch (hbase : Hashed hashing base) {launch : LaunchRecord}
    (h : recordLaunch hashing base launch = .ok updated) :
    Appended hashing .launch base updated := by
  unfold recordLaunch at h
  split at h
  · cases h
    exact .refl hbase
  · rw [validateDefinition_eq_ok h]
    refine ⟨rfl, rfl, rfl, hashed_hashed _ _, ?_, fun hne => absurd rfl hne, fun _ => rfl⟩
    exact { Extends.refl base with launches := List.prefix_append _ _ }

theorem appended_recordApprovalDecision (hbase : Hashed hashing base) {request : DecisionRequest}
    (h : recordApprovalDecision hashing base request = .ok updated) :
    Appended hashing .approvalDecision base updated := by
  unfold recordApprovalDecision at h
  obtain ⟨_, _, h⟩ := bind_eq_ok h
  obtain ⟨input, _, h⟩ := bind_eq_ok h
  dsimp only at h
  split at h
  · split at h
    · cases h
      exact .refl hbase
    · cases h
  · rw [validateDefinition_eq_ok h]
    refine ⟨rfl, rfl, rfl, hashed_hashed _ _, ?_, fun _ => rfl, nofun⟩
    exact { Extends.refl base with decisions := List.prefix_append _ _ }

theorem appended_recordAssignmentAction (hbase : Hashed hashing base) {request : ActionRequest}
    (h : recordAssignmentAction hashing base request = .ok updated) :
    Appended hashing .assignmentAction base updated := by
  unfold recordAssignmentAction at h
  obtain ⟨_, _, h⟩ := bind_eq_ok h
  obtain ⟨input, _, h⟩ := bind_eq_ok h
  obtain ⟨_, _, h⟩ := bind_eq_ok h
  dsimp only at h
  split at h
  · split at h
    · cases h
      exact .refl hbase
    · cases h
  · rw [validateDefinition_eq_ok h]
    refine ⟨rfl, rfl, rfl, hashed_hashed _ _, ?_, fun _ => rfl, nofun⟩
    exact { Extends.refl base with actions := List.prefix_append _ _ }

theorem appended_openAssignmentTask (hbase : Hashed hashing base) {request : OpenTaskRequest}
    (h : openAssignmentTask hashing base request = .ok updated) :
    Appended hashing .assignmentTask base updated := by
  unfold openAssignmentTask at h
  obtain ⟨_, _, h⟩ := bind_eq_ok h
  obtain ⟨fields, _, h⟩ := bind_eq_ok h
  obtain ⟨_, _, h⟩ := bind_eq_ok h
  dsimp only at h
  split at h
  · split at h
    · cases h
      exact .refl hbase
    · cases h
  · rw [validateDefinition_eq_ok h]
    refine ⟨rfl, rfl, rfl, hashed_hashed _ _, ?_, fun _ => rfl, nofun⟩
    refine { Extends.refl base with tasks := ?_ }
    intro index task htask
    refine ⟨task, ?_, .refl task⟩
    have hindex := (List.getElem?_eq_some_iff.mp htask).1
    rw [← htask]
    exact List.getElem?_append_left hindex

theorem taskKept_transitionedTask {replacement : AssignmentTask}
    (h : transitionedTask hashing task request = .ok replacement) : TaskKept task replacement := by
  unfold transitionedTask at h
  obtain ⟨_, _, h⟩ := bind_eq_ok h
  obtain ⟨next, _, h⟩ := bind_eq_ok h
  obtain ⟨_, _, h⟩ := bind_eq_ok h
  cases h
  refine ⟨rfl, rfl, rfl, rfl, rfl, rfl, rfl, rfl, List.prefix_append _ _, ?_⟩
  intro hlength
  rw [List.length_append] at hlength
  simp at hlength

theorem assignmentTaskForRef_eq_ok {taskRef : String} {index : Nat}
    (h : assignmentTaskForRef base taskRef = .ok (index, task)) :
    base.assignmentTasks[index]? = some task := by
  unfold assignmentTaskForRef at h
  split at h
  · cases h
  · split at h
    · cases h
    · rename_i htask
      cases h
      exact htask

theorem appended_transitionAssignmentTask (hbase : Hashed hashing base)
    (h : transitionAssignmentTask hashing base request = .ok updated) :
    Appended hashing .assignmentTask base updated := by
  unfold transitionAssignmentTask at h
  obtain ⟨_, _, h⟩ := bind_eq_ok h
  obtain ⟨fields, _, h⟩ := bind_eq_ok h
  obtain ⟨_, _, h⟩ := bind_eq_ok h
  obtain ⟨⟨index, task⟩, hfound, h⟩ := bind_eq_ok h
  dsimp only at h
  split at h
  · split at h
    · cases h
      exact .refl hbase
    · cases h
  · obtain ⟨replacement, hreplacement, h⟩ := bind_eq_ok h
    rw [validateDefinition_eq_ok h]
    refine ⟨rfl, rfl, rfl, hashed_hashed _ _, ?_, fun _ => rfl, nofun⟩
    refine { Extends.refl base with tasks := ?_ }
    -- only the task of the reference changes
    intro position earlier hearlier
    have hposition := (List.getElem?_eq_some_iff.mp hearlier).1
    by_cases hsame : index = position
    · subst hsame
      rw [assignmentTaskForRef_eq_ok hfound] at hearlier
      cases hearlier
      exact ⟨replacement, List.getElem?_set_self hposition,
        taskKept_transitionedTask hreplacement⟩
    · refine ⟨earlier, ?_, .refl earlier⟩
      rw [← hearlier]
      exact List.getElem?_set_ne hsame

theorem appended_recordMakerCheckerControl (hbase : Hashed hashing base)
    {request : ControlRequest}
    (h : recordMakerCheckerControl hashing base request = .ok updated) :
    Appended hashing .makerCheckerControl base updated := by
  obtain ⟨rfl, _⟩ | ⟨_, rfl⟩ := recordMakerCheckerControl_cases h
  · exact .refl hbase
  · refine ⟨rfl, rfl, rfl, hashed_hashed _ _, ?_, fun _ => rfl, nofun⟩
    exact { Extends.refl base with controls := List.prefix_append _ _ }

theorem appended_build (hbase : Hashed hashing base) (h : command.build hashing base = .ok updated) :
    Appended hashing command.operation base updated := by
  cases command with
  | launch record =>
    obtain ⟨_, _, h⟩ := bind_eq_ok h
    exact appended_recordLaunch hbase h
  | decision request => exact appended_recordApprovalDecision hbase h
  | action request => exact appended_recordAssignmentAction hbase h
  | openTask request => exact appended_openAssignmentTask hbase h
  | moveTask request => exact appended_transitionAssignmentTask hbase h
  | control request => exact appended_recordMakerCheckerControl hbase h

theorem requireActive_eq_ok {definition : CampaignDefinition} {code : String} {value : Unit}
    (h : requireActive definition code = .ok value) : definition.status = .active := by
  unfold requireActive at h
  split at h
  · cases h
  · rename_i hactive
    exact not_not.mp hactive

theorem active_of_build (h : command.build hashing base = .ok updated) : base.status = .active := by
  cases command with
  | launch | decision | action | openTask | moveTask =>
    obtain ⟨_, hactive, _⟩ := bind_eq_ok h
    exact requireActive_eq_ok hactive
  | control request =>
    obtain ⟨_, hchecked, _⟩ := bind_eq_ok h
    obtain ⟨_, hactive, _⟩ := bind_eq_ok hchecked
    exact requireActive_eq_ok hactive

end Appended

/-! ## Lifecycle writes -/

theorem map_some_eq_ok {α : Type} {check : Except CampaignError α} {value : α}
    (h : check.map some = .ok (some value)) : check = .ok value := by
  cases check with
  | error e => cases h
  | ok checked =>
    cases h
    rfl

/-- What a retirement and a supersession do to the definition they have read, next to the
fields of their own. -/
structure Closed (hashing : Hashing) (base updated : CampaignDefinition) : Prop where
  key : updated.key = base.key
  active : base.status = .active
  hashed : Hashed hashing updated
  evidence : SameEvidence base updated

theorem closed_retiredDefinition {retired : CampaignDefinition} {request : RetireRequest}
    (h : retiredDefinition hashing base request = .ok (some retired)) :
    Closed hashing base retired ∧ retired.status = .retired := by
  unfold retiredDefinition at h
  split at h
  · cases h
  · split at h
    · cases h
    · rename_i hactive
      rw [validateDefinition_eq_ok (map_some_eq_ok h)]
      exact ⟨⟨rfl, not_not.mp hactive, hashed_hashed _ _, rfl, rfl, rfl, rfl, rfl⟩, rfl⟩

/-- What a supersession writes, with the replacement that it has found active. -/
structure SupersededBy (replacement superseded : CampaignDefinition) : Prop where
  active : replacement.status = .active
  status : superseded.status = .superseded
  campaignId : superseded.supersession.supersededByCampaignId = some replacement.campaignId
  campaignVersion :
    superseded.supersession.supersededByCampaignVersion = some replacement.campaignVersion

theorem closed_supersededDefinition {superseded : CampaignDefinition}
    {found : Option CampaignDefinition} {request : SupersedeRequest}
    (h : supersededDefinition hashing base found request = .ok (some superseded)) :
    Closed hashing base superseded ∧ strip request.replacementVersion ≠ base.campaignVersion ∧
      ∃ replacement, found = some replacement ∧ SupersededBy replacement superseded := by
  unfold supersededDefinition at h
  split at h
  · cases h
  · split at h
    · cases h
    · rename_i hactive
      obtain ⟨_, hversion, h⟩ := bind_eq_ok h
      obtain ⟨replacement, hreplacement, h⟩ := bind_eq_ok h
      obtain ⟨validated, hvalidated, h⟩ := bind_eq_ok h
      cases h
      rw [validateDefinition_eq_ok hvalidated]
      refine ⟨⟨rfl, not_not.mp hactive, hashed_hashed _ _, rfl, rfl, rfl, rfl, rfl⟩, ?_,
        replacement, ?_⟩
      · unfold validatedReplacementVersion at hversion
        split at hversion
        · cases hversion
        · rename_i hvalid
          exact fun hsame => hvalid (.inr hsame)
      · unfold validatedActiveReplacement at hreplacement
        split at hreplacement
        · cases hreplacement
        · split at hreplacement
          · cases hreplacement
          · rename_i hfound
            cases hreplacement
            exact ⟨rfl, not_not.mp hfound, rfl, rfl, rfl⟩

/-! ## Creation -/

theorem created_build {command : CreateDefinitionCommand}
    (h : command.build hashing = .ok definition) :
    Hashed hashing definition ∧ definition.status = .active := by
  unfold CreateDefinitionCommand.build at h
  have hvalidated := validateDefinition_eq_ok h
  unfold validateDefinition at h
  obtain ⟨_, _, h⟩ := bind_eq_ok h
  obtain ⟨_, _, h⟩ := bind_eq_ok h
  obtain ⟨_, hlifecycle, _⟩ := bind_eq_ok h
  rw [hvalidated]
  refine ⟨hashed_hashed _ _, ?_⟩
  show command.status = .active
  unfold validateLifecycle at hlifecycle
  dsimp only at hlifecycle
  cases hstatus : command.status with
  | active => rfl
  | retired | superseded =>
    rw [hstatus] at hlifecycle
    cases hlifecycle

/-! ## The cases of a call -/

/-- What a call does to the store, with what it has read and checked before. -/
inductive StoreMove (hashing : Hashing) (s : CampaignService) :
    CampaignCall → DefinitionStore → Prop where
  | kept (call : CampaignCall) : StoreMove hashing s call s.store
  | created (command : CreateDefinitionCommand) {definition : CampaignDefinition}
      (hashed : Hashed hashing definition) (active : definition.status = .active)
      (absent : s.store.get? definition.key = none) :
      StoreMove hashing s (.create command) (s.store.set definition.key definition)
  | appended (command : EvidenceCommand) (readIndex : Nat)
      {base updated stored : CampaignDefinition}
      (read : s.readDefinition readIndex = some base)
      (built : Appended hashing command.operation base updated)
      (baseActive : base.status = .active)
      (found : s.store.get? updated.key = some stored) (active : stored.status = .active)
      (unchanged : stored.contentHash = base.contentHash)
      (fence : validateWorkflowAppendFence stored updated command.operation = .ok ()) :
      StoreMove hashing s (.record command readIndex) (s.store.set updated.key updated)
  | retired (request : RetireRequest) (readIndex : Nat)
      {base updated stored : CampaignDefinition}
      (read : s.readDefinition readIndex = some base)
      (built : s.retirement hashing request readIndex = some updated)
      (closed : Closed hashing base updated) (status : updated.status = .retired)
      (found : s.store.get? updated.key = some stored) (active : stored.status = .active) :
      StoreMove hashing s (.retire request readIndex) (s.store.set updated.key updated)
  | superseded (request : SupersedeRequest) (readIndex replacementIndex : Nat)
      {base updated stored replacement : CampaignDefinition}
      (read : s.readDefinition readIndex = some base)
      (built : s.supersession hashing request readIndex replacementIndex = some updated)
      (closed : Closed hashing base updated)
      (replacementRead : s.reads[replacementIndex]? =
        some ⟨(base.tenantId, base.campaignId, strip request.replacementVersion),
          some replacement⟩)
      (other : strip request.replacementVersion ≠ base.campaignVersion)
      (link : SupersededBy replacement updated)
      (found : s.store.get? updated.key = some stored) (active : stored.status = .active) :
      StoreMove hashing s (.supersede request readIndex replacementIndex)
        (s.store.set updated.key updated)

theorem saveDefinition_cases (h : saveDefinition store definition = .ok store') :
    store' = store ∨
      (store.get? definition.key = none ∧ store' = store.set definition.key definition) := by
  unfold saveDefinition at h
  split at h
  · split at h
    · cases h
    · cases h
      exact .inl rfl
  · rename_i habsent
    cases h
    exact .inr ⟨habsent, rfl⟩

theorem recordActiveDefinitionUpdate_cases {expectedContentHash : String}
    {operation : WorkflowOperation}
    (h : recordActiveDefinitionUpdate store definition expectedContentHash operation =
      .ok (store', answer)) :
    (store' = store ∧ answer = none) ∨
    (store' = store ∧ answer = some definition ∧ store.get? definition.key = some definition) ∨
    (store' = store.set definition.key definition ∧ answer = some definition ∧
      ∃ stored, store.get? definition.key = some stored ∧ stored.status = .active ∧
        stored.contentHash = expectedContentHash ∧
        validateWorkflowAppendFence stored definition operation = .ok ()) := by
  unfold recordActiveDefinitionUpdate at h
  cases hstored : store.get? definition.key with
  | none =>
    rw [hstored] at h
    cases h
    exact .inl ⟨rfl, rfl⟩
  | some stored =>
    rw [hstored] at h
    dsimp only at h
    split at h
    · rename_i hsame
      cases h
      exact .inr (.inl ⟨rfl, congrArg some hsame, congrArg some hsame⟩)
    · split at h
      · cases h
      · rename_i hactive
        split at h
        · cases h
        · rename_i hhash
          split at h
          · cases h
          · rename_i hfence
            cases h
            exact .inr (.inr ⟨rfl, rfl, stored, rfl, not_not.mp hactive, not_not.mp hhash, hfence⟩)

theorem retireDefinition_cases (h : retireDefinition store definition = .ok (store', answer)) :
    store' = store ∨
      ∃ stored, store.get? definition.key = some stored ∧ stored.status = .active ∧
        store' = store.set definition.key definition := by
  unfold retireDefinition at h
  split at h
  · cases h
    exact .inl rfl
  · rename_i stored hstored
    split at h
    · cases h
      exact .inl rfl
    · split at h
      · cases h
      · rename_i hactive
        cases h
        exact .inr ⟨stored, hstored, not_not.mp hactive, rfl⟩

theorem supersedeDefinition_cases (h : supersedeDefinition store definition = .ok (store', answer)) :
    store' = store ∨
      ∃ stored, store.get? definition.key = some stored ∧ stored.status = .active ∧
        store' = store.set definition.key definition := by
  unfold supersedeDefinition at h
  split at h
  · cases h
    exact .inl rfl
  · rename_i stored hstored
    split at h
    · cases h
      exact .inl rfl
    · split at h
      · cases h
      · rename_i hactive
        cases h
        exact .inr ⟨stored, hstored, not_not.mp hactive, rfl⟩

namespace CampaignService

variable {hashing : Hashing} {s : CampaignService}

/-- What has been read carries its own hash. -/
def ReadsHashed (hashing : Hashing) (s : CampaignService) : Prop :=
  ∀ (readIndex : Nat) (definition : CampaignDefinition),
    s.readDefinition readIndex = some definition → Hashed hashing definition

variable {readIndex : Nat} {updated : CampaignDefinition}

theorem recordCall_cases (hreads : s.ReadsHashed hashing) {command : EvidenceCommand}
    {store' : DefinitionStore} {answer : Option CampaignDefinition}
    (h : s.recordCall hashing command readIndex = (store', answer)) :
    StoreMove hashing s (.record command readIndex) store' ∧
      ∀ definition, answer = some definition → store'.get? definition.key = some definition := by
  unfold recordCall at h
  split at h
  · cases h
    exact ⟨.kept _, by simp⟩
  · rename_i base hread
    split at h
    · cases h
      exact ⟨.kept _, by simp⟩
    · rename_i updated hbuild
      have hbuilt := appended_build (hreads readIndex base hread) hbuild
      split at h
      · unfold written at h
        split at h
        · rename_i result hwrite
          rw [h] at hwrite
          obtain ⟨rfl, rfl⟩ | ⟨rfl, rfl, hstored⟩ |
            ⟨rfl, rfl, stored, hstored, hactive, hhash, hfence⟩ :=
            recordActiveDefinitionUpdate_cases hwrite
          · exact ⟨.kept _, by simp⟩
          · refine ⟨.kept _, ?_⟩
            rintro definition ⟨⟩
            exact hstored
          · refine ⟨.appended command readIndex hread hbuilt (active_of_build hbuild) hstored
              hactive hhash hfence, ?_⟩
            rintro definition ⟨⟩
            exact Dict.get?_set_self _ _ _
        · cases h
          exact ⟨.kept _, by simp⟩
      · cases h
        exact ⟨.kept _, by simp⟩

theorem retirement_eq_some {request : RetireRequest}
    (h : s.retirement hashing request readIndex = some updated) :
    ∃ base, s.readDefinition readIndex = some base ∧ Closed hashing base updated ∧
      updated.status = .retired := by
  obtain ⟨base, hread, hbuild⟩ := Option.bind_eq_some_iff.mp h
  split at hbuild
  · rename_i hretired
    rw [hbuild] at hretired
    exact ⟨base, hread, closed_retiredDefinition hretired⟩
  · cases hbuild

theorem supersession_eq_some {request : SupersedeRequest} {replacementIndex : Nat}
    (h : s.supersession hashing request readIndex replacementIndex = some updated) :
    ∃ base replacement, s.readDefinition readIndex = some base ∧ Closed hashing base updated ∧
      s.reads[replacementIndex]? =
        some ⟨(base.tenantId, base.campaignId, strip request.replacementVersion),
          some replacement⟩ ∧
      strip request.replacementVersion ≠ base.campaignVersion ∧
      SupersededBy replacement updated := by
  obtain ⟨base, hread, h⟩ := Option.bind_eq_some_iff.mp h
  obtain ⟨⟨key, found⟩, hfound, h⟩ := Option.bind_eq_some_iff.mp h
  dsimp only at h
  split at h
  · cases h
  · rename_i hkey
    have hkey := not_not.mp hkey
    subst hkey
    split at h
    · rename_i hsuperseded
      rw [h] at hsuperseded
      obtain ⟨hclosed, hother, replacement, rfl, hlink⟩ := closed_supersededDefinition hsuperseded
      exact ⟨base, replacement, hread, hclosed, hfound, hother, hlink⟩
    · cases h

theorem storeAfter_cases (hreads : s.ReadsHashed hashing) (call : CampaignCall) :
    StoreMove hashing s call (s.storeAfter hashing call) := by
  cases call with
  | create command =>
    unfold storeAfter
    dsimp only
    cases hbuild : command.build hashing with
    | error e => exact .kept _
    | ok definition =>
      dsimp only
      cases hsave : saveDefinition s.store definition with
      | error e => exact .kept _
      | ok store' =>
        obtain rfl | ⟨habsent, rfl⟩ := saveDefinition_cases hsave
        · exact .kept _
        · obtain ⟨hhashed, hactive⟩ := created_build hbuild
          exact .created command hhashed hactive habsent
  | read tenantId campaignId campaignVersion => exact .kept _
  | record command readIndex => exact (recordCall_cases hreads rfl).1
  | retire request readIndex =>
    unfold storeAfter
    dsimp only
    cases hbuilt : s.retirement hashing request readIndex with
    | none => exact .kept _
    | some updated =>
      obtain ⟨base, hread, hclosed, hstatus⟩ := retirement_eq_some hbuilt
      dsimp only [written]
      cases hwrite : retireDefinition s.store updated with
      | error e => exact .kept _
      | ok result =>
        obtain ⟨store', answer⟩ := result
        obtain rfl | ⟨stored, hstored, hactive, rfl⟩ := retireDefinition_cases hwrite
        · exact .kept _
        · exact .retired request readIndex hread hbuilt hclosed hstatus hstored hactive
  | supersede request readIndex replacementIndex =>
    unfold storeAfter
    dsimp only
    cases hbuilt : s.supersession hashing request readIndex replacementIndex with
    | none => exact .kept _
    | some updated =>
      obtain ⟨base, replacement, hread, hclosed, hreplacement, hother, hlink⟩ :=
        supersession_eq_some hbuilt
      dsimp only [written]
      cases hwrite : supersedeDefinition s.store updated with
      | error e => exact .kept _
      | ok result =>
        obtain ⟨store', answer⟩ := result
        obtain rfl | ⟨stored, hstored, hactive, rfl⟩ := supersedeDefinition_cases hwrite
        · exact .kept _
        · exact .superseded request readIndex replacementIndex hread hbuilt hclosed hreplacement
            hother hlink hstored hactive

end CampaignService

end LotusManage.Campaigns
