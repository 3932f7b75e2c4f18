import LotusManage.Campaigns.Controls
import LotusManage.Lib.Runs
import LotusManage.Lib.Histories

/-!
# Maker-checker separation

Over every sequence of control requests on one definition, rejected and replayed ones among
them, the recorded controls keep maker and checker apart.

The argument is one invariant.  `AcceptedControls` says that every control of the list passed
its shape check and the lifecycle check over the controls before it, and has a reference of its
own; `recordMakerCheckerControl_cases` shows that recording keeps it.  `lifecycle_tracks` then
reads the lifecycle state, which the source recomputes from the list, as what it stands for:
the one submission that no review has answered, and the last assignment made since.
-/

namespace LotusManage.Campaigns

open LotusManage.Checks (bind_eq_ok)

/-! ## Runs -/

/-- One call: a request that is rejected leaves the definition. -/
def recordStep (hashing : Hashing) (definition : CampaignDefinition) (request : ControlRequest) :
    CampaignDefinition :=
  match recordMakerCheckerControl hashing definition request with
  | .ok recorded => recorded
  | .error _ => definition

/-- The definition after a sequence of requests. -/
def afterRequests (hashing : Hashing) (definition : CampaignDefinition)
    (requests : List ControlRequest) : CampaignDefinition :=
  Runs.run (recordStep hashing) definition requests

/-! ## Submissions and reviews -/

/-- A submission of the list that no later review has answered. -/
structure PendingAt (controls before : List MakerCheckerControl)
    (submission : MakerCheckerControl) (since : List MakerCheckerControl) : Prop where
  split : controls = before ++ submission :: since
  submitted : submission.controlAction = .submittedForReview
  unanswered : ∀ control ∈ since, control.controlAction ≠ .reviewCompleted

/-- The last assignment of a reviewer among the controls. -/
def lastAssignment (controls : List MakerCheckerControl) : Option MakerCheckerControl :=
  (controls.filter (fun control => control.controlAction = .reviewerAssigned)).getLast?

/-- A review answers a pending submission: it names the submitter, another reviewer, and the
reviewer and role of the last assignment made since. -/
structure Answers (review submission : MakerCheckerControl) (since : List MakerCheckerControl) :
    Prop where
  submitter : review.submitterActorId = submission.submitterActorId
  separate : ∃ submitter reviewer, review.submitterActorId = some submitter ∧
    review.reviewerActorId = some reviewer ∧ submitter ≠ reviewer
  assigned : ∀ assignment, lastAssignment since = some assignment →
    review.reviewerActorId = assignment.reviewerActorId ∧
      review.requiredReviewerRole = assignment.requiredReviewerRole

/-! ## What recording does -/

/-- The shape check of a recorded control. -/
def ShapeValid (control : MakerCheckerControl) : Prop :=
  validateControlShape control.controlAction
    { controlOutcome := control.controlOutcome
      submitterActorId := control.submitterActorId
      reviewerActorId := control.reviewerActorId
      requiredReviewerRole := control.requiredReviewerRole } = .ok ()

/-- A control that may follow the controls recorded so far. -/
structure Follows (controls : List MakerCheckerControl) (control : MakerCheckerControl) :
    Prop where
  shape : ShapeValid control
  lifecycle : validateControlLifecycle controls control = .ok ()
  fresh : control.controlRef ∉ controls.map MakerCheckerControl.controlRef

/-- The definition with one more control. -/
def CampaignDefinition.withControl (hashing : Hashing) (definition : CampaignDefinition)
    (control : MakerCheckerControl) : CampaignDefinition :=
  { definition with
    makerCheckerControls := definition.makerCheckerControls ++ [control]
    contentHash := "" }.hashed hashing

variable {definition : CampaignDefinition}

theorem existingControlByRef_eq_some {controlRef : String} {existing : MakerCheckerControl}
    (h : existingControlByRef definition controlRef = some existing) :
    existing ∈ definition.makerCheckerControls ∧ existing.controlRef = controlRef := by
  have href := List.find?_some h
  refine ⟨List.mem_reverse.mp (List.mem_of_find?_eq_some h), ?_⟩
  simpa using href

theorem existingControlByRef_eq_none {controlRef : String}
    (h : existingControlByRef definition controlRef = none) :
    controlRef ∉ definition.makerCheckerControls.map MakerCheckerControl.controlRef := by
  intro hmem
  obtain ⟨control, hcontrol, href⟩ := List.mem_map.mp hmem
  have hnone := List.find?_eq_none.mp h control (List.mem_reverse.mpr hcontrol)
  exact hnone (decide_eq_true href)

theorem recordMakerCheckerControl_cases {hashing : Hashing} {recorded : CampaignDefinition}
    {request : ControlRequest}
    (h : recordMakerCheckerControl hashing definition request = .ok recorded) :
    (recorded = definition ∧ ∃ existing,
      existingControlByRef definition (buildControl hashing definition request).controlRef =
        some existing ∧
      existing.contentHash = (buildControl hashing definition request).contentHash) ∨
    (Follows definition.makerCheckerControls (buildControl hashing definition request) ∧
      recorded = definition.withControl hashing (buildControl hashing definition request)) := by
  unfold recordMakerCheckerControl at h
  obtain ⟨_, hchecked, h⟩ := bind_eq_ok h
  dsimp only at h
  cases hexisting : existingControlByRef definition
      (buildControl hashing definition request).controlRef with
  | some existing =>
    rw [hexisting] at h
    dsimp only at h
    split at h
    · rename_i hsame
      cases h
      exact Or.inl ⟨rfl, existing, rfl, hsame⟩
    · cases h
  | none =>
    rw [hexisting] at h
    obtain ⟨_, hlifecycle, h⟩ := bind_eq_ok h
    refine Or.inr ⟨⟨?_, hlifecycle, existingControlByRef_eq_none hexisting⟩,
      validateDefinition_eq_ok h⟩
    unfold checkControlRequest at hchecked
    obtain ⟨_, _, hchecked⟩ := bind_eq_ok hchecked
    obtain ⟨_, _, hchecked⟩ := bind_eq_ok hchecked
    obtain ⟨_, _, hshape⟩ := bind_eq_ok hchecked
    exact hshape

/-- Every control of the list followed the controls before it. -/
def AcceptedControls (controls : List MakerCheckerControl) : Prop :=
  Histories.Each Follows controls

theorem AcceptedControls.recordStep {hashing : Hashing} {definition : CampaignDefinition}
    (h : AcceptedControls definition.makerCheckerControls) (request : ControlRequest) :
    AcceptedControls (recordStep hashing definition request).makerCheckerControls := by
  unfold Campaigns.recordStep
  cases hrecord : recordMakerCheckerControl hashing definition request with
  | error e => exact h
  | ok recorded =>
    rcases recordMakerCheckerControl_cases hrecord with ⟨rfl, _⟩ | ⟨hfollows, rfl⟩
    · exact h
    · exact Histories.each_concat_iff.mpr ⟨h, hfollows⟩

/-! ## The lifecycle state -/

section Lifecycle

variable {controls before since : List MakerCheckerControl}
  {control submission : MakerCheckerControl}

theorem controlLifecycleState_concat :
    controlLifecycleState (controls ++ [control]) =
      (controlLifecycleState controls).next control := by
  rw [controlLifecycleState, List.foldl_append]
  rfl

theorem pendingAt_concat (h : PendingAt (controls ++ [control]) before submission since) :
    (control.controlAction = .submittedForReview ∧ before = controls) ∨
    (control.controlAction ≠ .reviewCompleted ∧
      ∃ since', since = since' ++ [control] ∧ PendingAt controls before submission since') := by
  have hsplit := h.split
  rcases List.eq_nil_or_concat since with rfl | ⟨since', last, rfl⟩
  · obtain ⟨rfl, heq⟩ := List.append_inj' hsplit rfl
    cases heq
    exact Or.inl ⟨h.submitted, rfl⟩
  · rw [List.concat_eq_append, ← List.cons_append, ← List.append_assoc] at hsplit
    obtain ⟨hsame, heq⟩ := List.append_inj' hsplit rfl
    cases heq
    have hunanswered := h.unanswered
    rw [List.concat_eq_append] at hunanswered
    refine Or.inr ⟨hunanswered control (List.mem_append_right since' List.mem_cons_self), since',
      List.concat_eq_append, hsame, h.submitted, ?_⟩
    intro c hc
    exact hunanswered c (List.mem_append_left _ hc)

theorem PendingAt.concat (h : PendingAt controls before submission since)
    (hcontrol : control.controlAction ≠ .reviewCompleted) :
    PendingAt (controls ++ [control]) before submission (since ++ [control]) := by
  refine ⟨by rw [h.split, List.append_assoc]; rfl, h.submitted, ?_⟩
  intro c hc
  rcases List.mem_append.mp hc with hc | hc
  · exact h.unanswered c hc
  · rw [List.mem_singleton.mp hc]
    exact hcontrol

theorem lastAssignment_concat_of_ne (hcontrol : control.controlAction ≠ .reviewerAssigned) :
    lastAssignment (since ++ [control]) = lastAssignment since := by
  rw [lastAssignment, List.filter_append]
  simp [hcontrol, lastAssignment]

theorem lastAssignment_concat_of_assigned (hcontrol : control.controlAction = .reviewerAssigned) :
    lastAssignment (since ++ [control]) = some control := by
  rw [lastAssignment, List.filter_append]
  simp [hcontrol]

/-- The state while a submission waits for its review. -/
structure Awaits (controls : List MakerCheckerControl) (state : ControlLifecycleState)
    (before : List MakerCheckerControl) (submission : MakerCheckerControl)
    (since : List MakerCheckerControl) : Prop where
  pending : PendingAt controls before submission since
  only : ∀ before' submission' since', PendingAt controls before' submission' since' →
    before' = before
  submitter : state.pendingSubmitterActorId = submission.submitterActorId
  named : truthy submission.submitterActorId = true
  reviewer : state.pendingReviewerActorId =
    (lastAssignment since).bind MakerCheckerControl.reviewerActorId
  role : state.pendingReviewerRole =
    (lastAssignment since).bind MakerCheckerControl.requiredReviewerRole
  assigned : ∀ assignment, lastAssignment since = some assignment →
    truthy assignment.reviewerActorId = true ∧ truthy assignment.requiredReviewerRole = true

/-- The lifecycle state stands for the pending submission, or for there being none. -/
def Tracks (controls : List MakerCheckerControl) (state : ControlLifecycleState) : Prop :=
  (state.hasPendingReview = false ∧
    ∀ before submission since, ¬ PendingAt controls before submission since) ∨
  (state.hasPendingReview = true ∧
    ∃ before submission since, Awaits controls state before submission since)

theorem truthy_of_submission (h : Follows controls control)
    (haction : control.controlAction = .submittedForReview) :
    truthy control.submitterActorId = true := by
  have hshape := h.shape
  simp only [ShapeValid, validateControlShape, haction, validateSubmissionControl] at hshape
  split at hshape
  · cases hshape
  · simpa using ‹¬ (!truthy control.submitterActorId) = true›

theorem truthy_of_assignment (h : Follows controls control)
    (haction : control.controlAction = .reviewerAssigned) :
    truthy control.reviewerActorId = true ∧ truthy control.requiredReviewerRole = true := by
  have hshape := h.shape
  simp only [ShapeValid, validateControlShape, haction, validateReviewerAssignmentControl]
    at hshape
  split at hshape
  · cases hshape
  · rename_i hnamed
    simpa using hnamed

theorem not_pending_of_submission (h : Follows controls control)
    (haction : control.controlAction = .submittedForReview) :
    (controlLifecycleState controls).hasPendingReview = false := by
  have hlifecycle := h.lifecycle
  simp only [validateControlLifecycle, haction, validateSubmissionLifecycle] at hlifecycle
  split at hlifecycle
  · cases hlifecycle
  · simpa using ‹¬ (controlLifecycleState controls).hasPendingReview = true›

theorem Tracks.submitted (h : Tracks controls (controlLifecycleState controls))
    (hfollows : Follows controls control)
    (haction : control.controlAction = .submittedForReview) :
    Tracks (controls ++ [control]) ((controlLifecycleState controls).next control) := by
  have hidle := not_pending_of_submission hfollows haction
  obtain ⟨_, hnone⟩ : (controlLifecycleState controls).hasPendingReview = false ∧
      ∀ before submission since, ¬ PendingAt controls before submission since := by
    rcases h with hnone | ⟨hpending, _⟩
    · exact hnone
    · rw [hidle] at hpending
      cases hpending
  refine Or.inr ⟨?_, controls, control, [], ?_⟩
  · simp only [ControlLifecycleState.next, haction]
  · refine ⟨⟨rfl, haction, fun _ hmem => absurd hmem List.not_mem_nil⟩, ?_, ?_,
      truthy_of_submission hfollows haction, ?_, ?_, fun _ hlast => by cases hlast⟩
    · intro before' submission' since' hpending
      rcases pendingAt_concat hpending with ⟨_, hbefore⟩ | ⟨_, earlier, _, hearlier⟩
      · exact hbefore
      · exact absurd hearlier (hnone before' submission' earlier)
    · simp only [ControlLifecycleState.next, haction]
    · simp only [ControlLifecycleState.next, haction]
      rfl
    · simp only [ControlLifecycleState.next, haction]
      rfl

theorem Tracks.reviewed (haction : control.controlAction = .reviewCompleted) :
    Tracks (controls ++ [control]) ((controlLifecycleState controls).next control) := by
  refine Or.inl ⟨?_, ?_⟩
  · simp only [ControlLifecycleState.next, haction]
  · intro before submission since hpending
    rcases pendingAt_concat hpending with ⟨hsubmitted, _⟩ | ⟨hother, _⟩
    · rw [haction] at hsubmitted
      cases hsubmitted
    · exact hother haction

theorem Tracks.other {state : ControlLifecycleState}
    (h : Tracks controls (controlLifecycleState controls))
    (hsubmission : control.controlAction ≠ .submittedForReview)
    (hreview : control.controlAction ≠ .reviewCompleted)
    (hpending : state.hasPendingReview = (controlLifecycleState controls).hasPendingReview)
    (hsubmitter : state.pendingSubmitterActorId =
      (controlLifecycleState controls).pendingSubmitterActorId)
    (hassigned : ∀ since,
      (controlLifecycleState controls).pendingReviewerActorId =
        (lastAssignment since).bind MakerCheckerControl.reviewerActorId →
      (controlLifecycleState controls).pendingReviewerRole =
        (lastAssignment since).bind MakerCheckerControl.requiredReviewerRole →
      (∀ assignment, lastAssignment since = some assignment →
        truthy assignment.reviewerActorId = true ∧ truthy assignment.requiredReviewerRole = true) →
      state.pendingReviewerActorId =
        (lastAssignment (since ++ [control])).bind MakerCheckerControl.reviewerActorId ∧
      state.pendingReviewerRole =
        (lastAssignment (since ++ [control])).bind MakerCheckerControl.requiredReviewerRole ∧
      ∀ assignment, lastAssignment (since ++ [control]) = some assignment →
        truthy assignment.reviewerActorId = true ∧ truthy assignment.requiredReviewerRole = true) :
    Tracks (controls ++ [control]) state := by
  rcases h with ⟨hidle, hnone⟩ | ⟨hwaits, before, submission, since, hawaits⟩
  · refine Or.inl ⟨hpending.trans hidle, ?_⟩
    intro before submission since hlater
    rcases pendingAt_concat hlater with ⟨hsubmitted, _⟩ | ⟨_, earlier, _, hearlier⟩
    · exact hsubmission hsubmitted
    · exact hnone before submission earlier hearlier
  · obtain ⟨hreviewer, hrole, hnamed⟩ := hassigned since hawaits.reviewer hawaits.role
      hawaits.assigned
    refine Or.inr ⟨hpending.trans hwaits, before, submission, since ++ [control],
      hawaits.pending.concat hreview, ?_, hsubmitter.trans hawaits.submitter, hawaits.named,
      hreviewer, hrole, hnamed⟩
    intro before' submission' since' hlater
    rcases pendingAt_concat hlater with ⟨hsubmitted, _⟩ | ⟨_, earlier, _, hearlier⟩
    · exact absurd hsubmitted hsubmission
    · exact hawaits.only before' submission' earlier hearlier

theorem Tracks.exception {state : ControlLifecycleState}
    (h : Tracks controls (controlLifecycleState controls))
    (hsubmission : control.controlAction ≠ .submittedForReview)
    (hreview : control.controlAction ≠ .reviewCompleted)
    (hassignment : control.controlAction ≠ .reviewerAssigned)
    (hpending : state.hasPendingReview = (controlLifecycleState controls).hasPendingReview)
    (hsubmitter : state.pendingSubmitterActorId =
      (controlLifecycleState controls).pendingSubmitterActorId)
    (hreviewer : state.pendingReviewerActorId =
      (controlLifecycleState controls).pendingReviewerActorId)
    (hrole : state.pendingReviewerRole = (controlLifecycleState controls).pendingReviewerRole) :
    Tracks (controls ++ [control]) state := by
  refine h.other hsubmission hreview hpending hsubmitter ?_
  intro since hreviewer' hrole' hnamed
  rw [lastAssignment_concat_of_ne hassignment]
  exact ⟨hreviewer.trans hreviewer', hrole.trans hrole', hnamed⟩

theorem lifecycle_tracks (h : AcceptedControls controls) :
    Tracks controls (controlLifecycleState controls) := by
  induction controls using List.reverseRecOn with
  | nil =>
    refine Or.inl ⟨rfl, ?_⟩
    intro before submission since hpending
    have hsplit := hpending.split
    cases before <;> cases hsplit
  | append_singleton past last ih =>
    obtain ⟨hpast, hlast⟩ := Histories.each_concat_iff.mp h
    have htracks := ih hpast
    rw [controlLifecycleState_concat]
    cases haction : last.controlAction with
    | submittedForReview => exact htracks.submitted hlast haction
    | reviewCompleted => exact Tracks.reviewed haction
    | reviewerAssigned =>
      refine htracks.other (by simp [haction]) (by simp [haction])
        (by simp only [ControlLifecycleState.next, haction])
        (by simp only [ControlLifecycleState.next, haction]) ?_
      intro since _ _ _
      rw [lastAssignment_concat_of_assigned haction]
      refine ⟨by simp only [ControlLifecycleState.next, haction, Option.bind_some],
        by simp only [ControlLifecycleState.next, haction, Option.bind_some], ?_⟩
      intro assignment heq
      cases heq
      exact truthy_of_assignment hlast haction
    | controlExceptionRaised | controlExceptionResolved =>
      exact htracks.exception (by simp [haction]) (by simp [haction]) (by simp [haction])
        (by simp only [ControlLifecycleState.next, haction])
        (by simp only [ControlLifecycleState.next, haction])
        (by simp only [ControlLifecycleState.next, haction])
        (by simp only [ControlLifecycleState.next, haction])

theorem pendingAt_unique (h : AcceptedControls controls)
    {before' since' : List MakerCheckerControl} {submission' : MakerCheckerControl}
    (hpending : PendingAt controls before submission since)
    (hpending' : PendingAt controls before' submission' since') : before = before' := by
  rcases lifecycle_tracks h with ⟨_, hnone⟩ | ⟨_, only, _, _, hawaits⟩
  · exact absurd hpending (hnone before submission since)
  · rw [hawaits.only before submission since hpending,
      hawaits.only before' submission' since' hpending']

theorem exists_of_truthy {value : Option String} (h : truthy value = true) :
    ∃ text, value = some text := by
  cases value with
  | none => cases h
  | some text => exact ⟨text, rfl⟩

theorem separate_of_review (h : Follows controls control)
    (haction : control.controlAction = .reviewCompleted) :
    ∃ submitter reviewer, control.submitterActorId = some submitter ∧
      control.reviewerActorId = some reviewer ∧ submitter ≠ reviewer := by
  have hshape := h.shape
  simp only [ShapeValid, validateControlShape, haction, validateReviewCompletedControl] at hshape
  split at hshape
  · cases hshape
  · rename_i hnamed
    split at hshape
    · cases hshape
    · rename_i hseparate
      simp only [Bool.or_eq_true, Bool.not_eq_true', not_or, Bool.not_eq_false] at hnamed
      obtain ⟨submitter, hsubmitter⟩ := exists_of_truthy hnamed.1
      obtain ⟨reviewer, hreviewer⟩ := exists_of_truthy hnamed.2
      refine ⟨submitter, reviewer, hsubmitter, hreviewer, ?_⟩
      rintro rfl
      exact hseparate (hsubmitter.trans hreviewer.symm)

theorem answers_of_review (h : AcceptedControls controls) (hfollows : Follows controls control)
    (haction : control.controlAction = .reviewCompleted) :
    ∃ before submission since, PendingAt controls before submission since ∧
      Answers control submission since := by
  have hlifecycle := hfollows.lifecycle
  simp only [validateControlLifecycle, haction, validateReviewCompletedLifecycle] at hlifecycle
  split at hlifecycle
  · cases hlifecycle
  · rename_i hpending
    rcases lifecycle_tracks h with ⟨hidle, _⟩ | ⟨_, before, submission, since, hawaits⟩
    · rw [hidle] at hpending
      exact absurd rfl hpending
    · refine ⟨before, submission, since, hawaits.pending, ?_⟩
      rw [hawaits.submitter, hawaits.named, hawaits.reviewer, hawaits.role] at hlifecycle
      split at hlifecycle
      · cases hlifecycle
      · rename_i hsubmitter
        split at hlifecycle
        · cases hlifecycle
        · rename_i hreviewer
          split at hlifecycle
          · cases hlifecycle
          · rename_i hrole
            refine ⟨by simpa using hsubmitter, separate_of_review hfollows haction, ?_⟩
            intro assignment hlast
            obtain ⟨hnamed, hroleNamed⟩ := hawaits.assigned assignment hlast
            rw [hlast, Option.bind_some] at hreviewer hrole
            rw [hnamed] at hreviewer
            rw [hroleNamed] at hrole
            exact ⟨by simpa using hreviewer, by simpa using hrole⟩

end Lifecycle

/-! ## Replays -/

section Replays

variable {hashing : Hashing} {definition : CampaignDefinition}

/-- What a run of requests leaves as it is, and what it extends. -/
structure Continues (definition later : CampaignDefinition) : Prop where
  status : later.status = definition.status
  campaignId : later.campaignId = definition.campaignId
  campaignVersion : later.campaignVersion = definition.campaignVersion
  governance : later.governance = definition.governance
  controls : definition.makerCheckerControls <+: later.makerCheckerControls

variable {recorded later : CampaignDefinition} {request : ControlRequest}

theorem Continues.refl (definition : CampaignDefinition) : Continues definition definition :=
  ⟨rfl, rfl, rfl, rfl, List.prefix_refl _⟩

theorem Continues.trans {first second third : CampaignDefinition} (h : Continues first second)
    (h' : Continues second third) : Continues first third :=
  ⟨h'.status.trans h.status, h'.campaignId.trans h.campaignId,
    h'.campaignVersion.trans h.campaignVersion, h'.governance.trans h.governance,
    h.controls.trans h'.controls⟩

theorem continues_recordStep (request : ControlRequest) :
    Continues definition (recordStep hashing definition request) := by
  unfold recordStep
  cases hrecord : recordMakerCheckerControl hashing definition request with
  | error e => exact .refl definition
  | ok recorded =>
    rcases recordMakerCheckerControl_cases hrecord with ⟨rfl, _⟩ | ⟨_, rfl⟩
    · exact .refl _
    · exact ⟨rfl, rfl, rfl, rfl, List.prefix_append _ _⟩

theorem continues_afterRequests (requests : List ControlRequest) :
    Continues definition (afterRequests hashing definition requests) :=
  Runs.run_keeps (Continues definition)
    (fun _ request h => h.trans (continues_recordStep request)) requests (.refl definition)

theorem acceptedControls_afterRequests (requests : List ControlRequest)
    (h : AcceptedControls definition.makerCheckerControls) :
    AcceptedControls (afterRequests hashing definition requests).makerCheckerControls :=
  Runs.run_keeps (fun d : CampaignDefinition => AcceptedControls d.makerCheckerControls)
    (fun _ request h => h.recordStep request) requests h

theorem AcceptedControls.nodup {controls : List MakerCheckerControl}
    (h : AcceptedControls controls) : (controls.map MakerCheckerControl.controlRef).Nodup :=
  Histories.nodup_map_of_each fun past control rest hsplit =>
    (h past control rest hsplit).fresh

theorem existingControlByRef_of_mem
    (hnodup : (definition.makerCheckerControls.map MakerCheckerControl.controlRef).Nodup)
    {control : MakerCheckerControl} (hmem : control ∈ definition.makerCheckerControls) :
    existingControlByRef definition control.controlRef = some control := by
  cases hfind : existingControlByRef definition control.controlRef with
  | none =>
    exact absurd (List.mem_map_of_mem hmem) (existingControlByRef_eq_none hfind)
  | some existing =>
    obtain ⟨hexisting, href⟩ := existingControlByRef_eq_some hfind
    rw [List.inj_on_of_nodup_map hnodup hexisting hmem href]

theorem recorded_of_accepted
    (h : recordMakerCheckerControl hashing definition request = .ok recorded) :
    checkControlRequest definition request = .ok () ∧
    ∃ control ∈ recorded.makerCheckerControls,
      control.controlRef = (buildControl hashing definition request).controlRef ∧
      control.contentHash = (buildControl hashing definition request).contentHash := by
  have hchecked : checkControlRequest definition request = .ok () := by
    unfold recordMakerCheckerControl at h
    obtain ⟨_, hchecked, _⟩ := bind_eq_ok h
    exact hchecked
  refine ⟨hchecked, ?_⟩
  rcases recordMakerCheckerControl_cases h with ⟨rfl, existing, hfind, hhash⟩ | ⟨_, rfl⟩
  · obtain ⟨hmem, href⟩ := existingControlByRef_eq_some hfind
    exact ⟨existing, hmem, href, hhash⟩
  · exact ⟨_, List.mem_append_right _ List.mem_cons_self, rfl, rfl⟩

theorem recordMakerCheckerControl_replay {existing : MakerCheckerControl}
    (hchecked : checkControlRequest definition request = .ok ())
    (hfind : existingControlByRef definition
      (buildControl hashing definition request).controlRef = some existing)
    (hhash : existing.contentHash = (buildControl hashing definition request).contentHash) :
    recordMakerCheckerControl hashing definition request = .ok definition := by
  unfold recordMakerCheckerControl
  rw [hchecked]
  simp only [bind, Except.bind, hfind]
  exact if_pos hhash

/-- The request at another time. -/
def ControlRequest.at (request : ControlRequest) (recordedAt : Int) : ControlRequest :=
  { request with recordedAt := recordedAt }

theorem checkControlRequest_at (hstart : Continues definition later) (request : ControlRequest)
    (recordedAt : Int) :
    checkControlRequest later (request.at recordedAt) = checkControlRequest definition request := by
  have hactive : ∀ code, requireActive later code = requireActive definition code := by
    intro code
    rw [requireActive, hstart.status, requireActive]
  have hentitled : ∀ actorId, validateCampaignCommandActorEntitlement later actorId =
      validateCampaignCommandActorEntitlement definition actorId := by
    intro actorId
    rw [validateCampaignCommandActorEntitlement, hstart.governance,
      validateCampaignCommandActorEntitlement]
  have hnormal : normalizeControlRequest (request.at recordedAt) =
      normalizeControlRequest request := rfl
  simp only [checkControlRequest, hactive, hentitled, hnormal]
  rfl

theorem buildControl_at (hstart : Continues definition later) (request : ControlRequest)
    (recordedAt : Int) :
    buildControl hashing later (request.at recordedAt) =
      { buildControl hashing definition request with recordedAt := recordedAt } := by
  have hid : ∀ controlRef controlAction, controlId hashing later controlRef controlAction =
      controlId hashing definition controlRef controlAction := by
    intro controlRef controlAction
    unfold controlId
    rw [hstart.campaignId, hstart.campaignVersion]
  have hnormal : normalizeControlRequest (request.at recordedAt) =
      normalizeControlRequest request := rfl
  unfold buildControl
  rw [hnormal]
  simp only [hid, hstart.campaignId, hstart.campaignVersion, ControlRequest.at]

theorem replay_unchanged (h : recordMakerCheckerControl hashing definition request = .ok recorded)
    (hstart : Continues definition later) (hlater : Continues recorded later)
    (haccepted : AcceptedControls later.makerCheckerControls) (recordedAt : Int) :
    recordMakerCheckerControl hashing later (request.at recordedAt) = .ok later := by
  obtain ⟨hchecked, control, hmem, href, hhash⟩ := recorded_of_accepted h
  have hfind := existingControlByRef_of_mem haccepted.nodup (hlater.controls.subset hmem)
  rw [href] at hfind
  have hbuilt : buildControl hashing later (request.at recordedAt) =
      { buildControl hashing definition request with recordedAt := recordedAt } :=
    buildControl_at hstart request recordedAt
  have hfound : existingControlByRef later
      (buildControl hashing later (request.at recordedAt)).controlRef = some control := by
    rw [hbuilt]
    exact hfind
  refine recordMakerCheckerControl_replay
    ((checkControlRequest_at hstart request recordedAt).trans hchecked) hfound ?_
  rw [hbuilt]
  exact hhash

end Replays

/-- Maker-checker separation over every sequence of control requests on one definition, with
rejected and replayed requests among them.  Every review answers the one submission that was
pending before it, names its submitter and another reviewer, and names the reviewer and role
that were last assigned since; no two submissions are pending at once; the references are
pairwise distinct; and a request that is rejected or was accepted before leaves the definition
as it is. -/
theorem maker_checker_separated (hashing : Hashing) (definition : CampaignDefinition)
    (hstart : definition.makerCheckerControls = []) (requests : List ControlRequest) :
    let recorded := afterRequests hashing definition requests
    (∀ past review rest, recorded.makerCheckerControls = past ++ review :: rest →
      review.controlAction = .reviewCompleted →
      ∃ before submission since, PendingAt past before submission since ∧
        (∀ before' submission' since', PendingAt past before' submission' since' →
          before' = before) ∧
        Answers review submission since) ∧
    (∀ before submission since before' submission' since',
      PendingAt recorded.makerCheckerControls before submission since →
      PendingAt recorded.makerCheckerControls before' submission' since' → before = before') ∧
    (recorded.makerCheckerControls.map MakerCheckerControl.controlRef).Nodup ∧
    (∀ request e, recordMakerCheckerControl hashing recorded request = .error e →
      recordStep hashing recorded request = recorded) ∧
    (∀ past request rest accepted recordedAt, requests = past ++ request :: rest →
      recordMakerCheckerControl hashing (afterRequests hashing definition past) request =
        .ok accepted →
      recordMakerCheckerControl hashing recorded (request.at recordedAt) = .ok recorded) := by
  intro recorded
  have haccepted : AcceptedControls recorded.makerCheckerControls := by
    refine acceptedControls_afterRequests requests ?_
    rw [hstart]
    exact Histories.each_nil
  refine ⟨?_, ?_, haccepted.nodup, ?_, ?_⟩
  · intro past review rest hsplit haction
    have hpast : AcceptedControls past := by
      rw [hsplit] at haccepted
      exact haccepted.of_append
    obtain ⟨before, submission, since, hpending, hanswers⟩ :=
      answers_of_review hpast (haccepted past review rest hsplit) haction
    refine ⟨before, submission, since, hpending, ?_, hanswers⟩
    intro before' submission' since' hpending'
    exact pendingAt_unique hpast hpending' hpending
  · intro before submission since before' submission' since' hpending hpending'
    exact pendingAt_unique haccepted hpending hpending'
  · intro request e herror
    rw [recordStep, herror]
  · intro past request rest accepted recordedAt hsplit hok
    have hstep : recordStep hashing (afterRequests hashing definition past) request = accepted := by
      rw [recordStep, hok]
    have hlater : recorded = afterRequests hashing accepted rest := by
      show Runs.run (recordStep hashing) definition requests = _
      rw [hsplit, Runs.run_append, Runs.run_cons]
      exact congrArg (fun d => Runs.run (recordStep hashing) d rest) hstep
    have hcontinues : Continues accepted recorded := by
      rw [hlater]
      exact continues_afterRequests rest
    refine replay_unchanged hok ?_ hcontinues haccepted recordedAt
    refine Continues.trans ?_ hcontinues
    rw [← hstep]
    exact continues_recordStep request

/-! ### A submission, its assignment and its review -/

/-- Content hashes that tell the records of the samples apart. -/
def sampleHashing : Hashing :=
  { sha256Hex := fun text => text
    definition := fun d => "sha256:" ++ Text.join "-"
      [d.campaignVersion, toString d.approvalDecisions.length,
        toString d.assignmentActions.length, toString d.assignmentTasks.length,
        toString (d.assignmentTasks.flatMap AssignmentTask.transitions).length,
        toString d.makerCheckerControls.length, d.supersession.supersededByCampaignVersion.getD "",
        d.retirement.retiredBy.getD ""]
    decision := fun _ _ decision => "sha256:" ++ decision.decisionRef
    action := fun _ _ action => "sha256:" ++ action.actionRef
    transition := fun _ transition => "sha256:" ++ transition.transitionRef
    task := fun task => "sha256:" ++ task.taskRef
    control := fun _ _ control => "sha256:" ++ control.controlRef }

/-- An active definition over one portfolio. -/
def sampleDefinition (campaignVersion : String) : CampaignDefinition :=
  { tenantId := "tenant-sg"
    campaignId := "campaign-holdings-apple-tesla-20260510"
    campaignVersion := campaignVersion
    eligiblePortfolioTypes := ["DISCRETIONARY"]
    candidates := [⟨"PB_SG_GLOBAL_BAL_001", "DISCRETIONARY",
      [{ sourceSystem := "lotus-manage", sourceType := "AFFECTED_PORTFOLIO_MANIFEST",
         sourceId := "manifest_20260503_001" }]⟩] }

def sampleControlRequest (controlAction : ControlAction) (controlRef : String)
    (controlOutcome : ControlOutcome) (recordedAt : Int) : ControlRequest :=
  { controlAction := controlAction
    controlRef := controlRef
    recordedBy := "ops"
    controlReason := "Quarterly review."
    correlationId := "corr-campaign-maker-checker-control-001"
    controlOutcome := controlOutcome
    submitterActorId := some " pm_001 "
    reviewerActorId := some "cio_ops_committee"
    requiredReviewerRole := some "CIO_OPERATIONS_REVIEWER"
    recordedAt := recordedAt }

/-- A submission, an assignment, a second submission that is rejected, and the review. -/
def reviewedRequests : List ControlRequest :=
  [sampleControlRequest .submittedForReview "BRC-MC-1" .pending 1,
   sampleControlRequest .reviewerAssigned "BRC-MC-2" .pending 2,
   sampleControlRequest .submittedForReview "BRC-MC-3" .pending 3,
   sampleControlRequest .reviewCompleted "BRC-MC-4" .passed 4]

/-- The review answers the first submission; asked again, it changes nothing. -/
theorem maker_checker_separated_reviewed :
    let recorded := afterRequests sampleHashing (sampleDefinition "2026.05") reviewedRequests
    recorded.makerCheckerControls.map MakerCheckerControl.controlAction =
        [.submittedForReview, .reviewerAssigned, .reviewCompleted] ∧
      (recorded.makerCheckerControls.map MakerCheckerControl.controlRef).Nodup ∧
      recordMakerCheckerControl sampleHashing recorded
        ((sampleControlRequest .reviewCompleted "BRC-MC-4" .passed 4).at 9) = .ok recorded := by
  intro recorded
  obtain ⟨_, _, hnodup, _, hreplay⟩ :=
    maker_checker_separated sampleHashing (sampleDefinition "2026.05") rfl reviewedRequests
  have hsplit : reviewedRequests = reviewedRequests.take 3 ++
      sampleControlRequest .reviewCompleted "BRC-MC-4" .passed 4 :: [] := rfl
  refine ⟨by decide +kernel, hnodup, ?_⟩
  have hok : (recordMakerCheckerControl sampleHashing
      (afterRequests sampleHashing (sampleDefinition "2026.05") (reviewedRequests.take 3))
      (sampleControlRequest .reviewCompleted "BRC-MC-4" .passed 4)).isOk = true := by
    decide +kernel
  cases hrecord : recordMakerCheckerControl sampleHashing
      (afterRequests sampleHashing (sampleDefinition "2026.05") (reviewedRequests.take 3))
      (sampleControlRequest .reviewCompleted "BRC-MC-4" .passed 4) with
  | error e =>
    rw [hrecord] at hok
    cases hok
  | ok accepted => exact hreplay _ _ _ accepted 9 hsplit hrecord

end LotusManage.Campaigns
