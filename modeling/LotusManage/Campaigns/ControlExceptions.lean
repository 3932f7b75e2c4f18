import LotusManage.Campaigns.MakerChecker
import LotusManage.Lib.Tables
import Mathlib.Data.Prod.Lex

/-!
# Control exceptions

`build_bulk_review_campaign_definition_maker_checker_control_page`, and what it and the lifecycle
check say while a raised exception waits for its resolution.

The page reports the outcome of the newest control alone, and the lifecycle state keeps one flag for
all exceptions, which a submission resets.

* `newestFirst_eq_reverse`: with a clock that does not go back the page lists the controls from the
  last to the first.
* `unmasked_of_keeps` and `keeps_last_of_unmasked`: what has to be true of the accepted controls,
  one at a time, for no open exception to be masked.
* `exceptions_unmasked_iff`: the two over every sequence of requests.
-/

namespace LotusManage.Campaigns

open LotusManage.Histories (each_concat_iff)

/-! ## The page -/

/-- `DpmBulkReviewCampaignDefinitionMakerCheckerControlPage` -/
structure MakerCheckerControlPage where
  campaignId : String
  campaignVersion : String
  makerCheckerControls : List MakerCheckerControl
  latestControlAction : Option ControlAction
  currentControlOutcome : Option ControlOutcome
  currentReviewerActorId : Option String
  count : Nat
  limit : Nat
  offset : Nat

/-- The sort key of a control at its place in the list. -/
def pageKey (indexed : MakerCheckerControl × Nat) : Int ×ₗ Nat :=
  toLex (indexed.1.recordedAt, indexed.2)

/-- The controls sorted by time and place, in reverse. -/
def newestControlsFirst (controls : List MakerCheckerControl) : List MakerCheckerControl :=
  (controls.zipIdx.insertionSort (fun a b => pageKey b ≤ pageKey a)).map Prod.fst

/-- `build_bulk_review_campaign_definition_maker_checker_control_page` -/
def makerCheckerControlPage (definition : CampaignDefinition) (limit : Nat := 50)
    (offset : Nat := 0) : MakerCheckerControlPage :=
  let controls := newestControlsFirst definition.makerCheckerControls
  let page := (controls.drop offset).take limit
  let latest := controls.head?
  { campaignId := definition.campaignId
    campaignVersion := definition.campaignVersion
    makerCheckerControls := page
    latestControlAction := latest.map MakerCheckerControl.controlAction
    currentControlOutcome := latest.map MakerCheckerControl.controlOutcome
    currentReviewerActorId := latest.bind MakerCheckerControl.reviewerActorId
    count := page.length
    limit := limit
    offset := offset }

/-- The controls are recorded by a clock that does not go back. -/
def InTime (controls : List MakerCheckerControl) : Prop :=
  controls.Pairwise (fun earlier later => earlier.recordedAt ≤ later.recordedAt)

variable {controls past : List MakerCheckerControl} {definition : CampaignDefinition}
  {control : MakerCheckerControl}

theorem pageKey_sorted (h : InTime controls) :
    controls.zipIdx.Pairwise (fun a b => pageKey a < pageKey b) := by
  rw [List.pairwise_iff_getElem]
  intro i j hi hj hlt
  rw [List.length_zipIdx] at hi hj
  rw [List.getElem_zipIdx, List.getElem_zipIdx]
  have htime := List.pairwise_iff_getElem.mp h i j hi hj hlt
  rw [pageKey, pageKey, Prod.Lex.toLex_lt_toLex]
  dsimp only
  omega

theorem newestFirst_eq_reverse (h : InTime controls) :
    newestControlsFirst controls = controls.reverse := by
  have hsorted := pageKey_sorted h
  have hdistinct : (controls.zipIdx.map (fun e => OrderDual.toDual (pageKey e))).Nodup := by
    rw [List.Nodup, List.pairwise_map]
    exact hsorted.imp (fun hlt heq => absurd (OrderDual.toDual_inj.mp heq) hlt.ne)
  have hperm : controls.zipIdx.Perm controls.zipIdx.reverse := (List.reverse_perm _).symm
  have hsame : controls.zipIdx.insertionSort (fun a b => pageKey b ≤ pageKey a) =
      controls.zipIdx.reverse.insertionSort (fun a b => pageKey b ≤ pageKey a) :=
    insertionSort_eq_of_perm hperm hdistinct (fun _ _ _ => Iff.rfl) (fun _ _ _ => Iff.rfl)
  have hreverse : controls.zipIdx.reverse.Pairwise (fun a b => pageKey b ≤ pageKey a) := by
    rw [List.pairwise_reverse]
    exact hsorted.imp le_of_lt
  unfold newestControlsFirst
  rw [hsame, hreverse.insertionSort_eq, List.map_reverse, List.zipIdx_map_fst]

theorem currentControlOutcome_concat {last : MakerCheckerControl}
    (hcontrols : definition.makerCheckerControls = past ++ [last])
    (htime : InTime definition.makerCheckerControls) (limit offset : Nat) :
    (makerCheckerControlPage definition limit offset).currentControlOutcome =
      some last.controlOutcome := by
  unfold makerCheckerControlPage
  dsimp only
  rw [newestFirst_eq_reverse htime, hcontrols, List.reverse_concat]
  rfl

/-! ## Open exceptions -/

/-- A raised exception has no resolution after it. -/
def Unresolved (controls : List MakerCheckerControl) : Prop :=
  ∃ past raised rest, controls = past ++ raised :: rest ∧
    raised.controlAction = .controlExceptionRaised ∧
    ∀ control ∈ rest, control.controlAction ≠ .controlExceptionResolved

theorem not_unresolved_nil : ¬ Unresolved [] := by
  rintro ⟨past, raised, rest, hsplit, _⟩
  cases past <;> cases hsplit

theorem unresolved_concat :
    Unresolved (controls ++ [control]) ↔
      control.controlAction = .controlExceptionRaised ∨
        (control.controlAction ≠ .controlExceptionResolved ∧ Unresolved controls) := by
  constructor
  · rintro ⟨past, raised, rest, hsplit, haction, hrest⟩
    rcases List.eq_nil_or_concat rest with rfl | ⟨rest', last, rfl⟩
    · obtain ⟨_, heq⟩ := List.append_inj' hsplit rfl
      cases heq
      exact Or.inl haction
    · rw [List.concat_eq_append, ← List.cons_append, ← List.append_assoc] at hsplit
      obtain ⟨hsame, heq⟩ := List.append_inj' hsplit rfl
      cases heq
      rw [List.concat_eq_append] at hrest
      refine Or.inr ⟨hrest control (List.mem_append_right _ List.mem_cons_self), past, raised,
        rest', hsame, haction, ?_⟩
      intro earlier hmem
      exact hrest earlier (List.mem_append_left _ hmem)
  · rintro (haction | ⟨hother, past, raised, rest, rfl, haction, hrest⟩)
    · exact ⟨controls, control, [], rfl, haction, fun _ hmem => absurd hmem List.not_mem_nil⟩
    · refine ⟨past, raised, rest ++ [control], by rw [List.append_assoc]; rfl, haction, ?_⟩
      intro later hmem
      rcases List.mem_append.mp hmem with hmem | hmem
      · exact hrest later hmem
      · rw [List.mem_singleton.mp hmem]
        exact hother

/-- Nothing masks an open exception: the page does not report that the control passed, and the
lifecycle check accepts a resolution. -/
def NeverMasked (definition : CampaignDefinition) : Prop :=
  Unresolved definition.makerCheckerControls →
    (∀ limit offset, (makerCheckerControlPage definition limit offset).currentControlOutcome ≠
      some .passed) ∧
    ∀ resolution : MakerCheckerControl, resolution.controlAction = .controlExceptionResolved →
      validateControlLifecycle definition.makerCheckerControls resolution = .ok ()

/-- While an exception is open no submission is accepted and no control passes. -/
def KeepsExceptions (controls : List MakerCheckerControl) : Prop :=
  Histories.Each (fun past control => Unresolved past →
    control.controlAction ≠ .submittedForReview ∧ control.controlOutcome ≠ .passed) controls

theorem resolution_accepted_iff {resolution : MakerCheckerControl}
    (haction : resolution.controlAction = .controlExceptionResolved) :
    validateControlLifecycle controls resolution = .ok () ↔
      (controlLifecycleState controls).hasOpenException = true := by
  unfold validateControlLifecycle validateExceptionResolvedLifecycle
  rw [haction]
  cases hflag : (controlLifecycleState controls).hasOpenException <;> simp [hflag]

theorem hasOpenException_concat (controls : List MakerCheckerControl)
    (control : MakerCheckerControl) :
    (controlLifecycleState (controls ++ [control])).hasOpenException =
      match control.controlAction with
      | .controlExceptionRaised => true
      | .controlExceptionResolved | .submittedForReview => false
      | .reviewerAssigned | .reviewCompleted =>
        (controlLifecycleState controls).hasOpenException := by
  rw [controlLifecycleState_concat]
  unfold ControlLifecycleState.next
  cases control.controlAction <;> rfl

theorem outcome_of_exception (hshape : ShapeValid control)
    (haction : control.controlAction = .controlExceptionRaised ∨
      control.controlAction = .controlExceptionResolved) : control.controlOutcome ≠ .passed := by
  intro hpassed
  unfold ShapeValid at hshape
  cases haction with
  | inl hraised =>
    rw [hraised, validateControlShape, validateExceptionRaisedControl] at hshape
    simp [hpassed] at hshape
  | inr hresolved =>
    rw [hresolved, validateControlShape, validateExceptionResolvedControl] at hshape
    simp [hpassed] at hshape

section Masking

variable {controls : List MakerCheckerControl} {definition : CampaignDefinition}

theorem hasOpenException_of_unresolved (hkeeps : KeepsExceptions controls)
    (hopen : Unresolved controls) : (controlLifecycleState controls).hasOpenException = true := by
  induction controls using List.reverseRecOn with
  | nil => exact absurd hopen not_unresolved_nil
  | append_singleton past last ih =>
    obtain ⟨hpast, hlast⟩ := each_concat_iff.mp hkeeps
    rw [hasOpenException_concat]
    rcases unresolved_concat.mp hopen with hraised | ⟨hother, hbefore⟩
    · rw [hraised]
    · have hflag := ih hpast hbefore
      have hnotSubmitted := (hlast hbefore).1
      cases haction : last.controlAction with
      | controlExceptionRaised => rfl
      | controlExceptionResolved => exact absurd haction hother
      | submittedForReview => exact absurd haction hnotSubmitted
      | reviewerAssigned => exact hflag
      | reviewCompleted => exact hflag

theorem unmasked_of_keeps (haccepted : AcceptedControls definition.makerCheckerControls)
    (htime : InTime definition.makerCheckerControls)
    (hkeeps : KeepsExceptions definition.makerCheckerControls) : NeverMasked definition := by
  intro hopen
  refine ⟨?_, ?_⟩
  · intro limit offset
    rcases List.eq_nil_or_concat definition.makerCheckerControls with hnil | ⟨past, last, hlast⟩
    · rw [hnil] at hopen
      exact absurd hopen not_unresolved_nil
    · rw [List.concat_eq_append] at hlast
      rw [currentControlOutcome_concat hlast htime, ne_eq, Option.some_inj]
      rw [hlast] at hopen hkeeps haccepted
      rcases unresolved_concat.mp hopen with hraised | ⟨_, hbefore⟩
      · exact outcome_of_exception (each_concat_iff.mp haccepted).2.shape (Or.inl hraised)
      · exact ((each_concat_iff.mp hkeeps).2 hbefore).2
  · intro resolution haction
    exact (resolution_accepted_iff haction).mpr (hasOpenException_of_unresolved hkeeps hopen)

theorem keeps_last_of_unmasked {past : List MakerCheckerControl} {last : MakerCheckerControl}
    (hcontrols : definition.makerCheckerControls = past ++ [last])
    (haccepted : AcceptedControls definition.makerCheckerControls)
    (htime : InTime definition.makerCheckerControls) (hunmasked : NeverMasked definition)
    (hbefore : Unresolved past) :
    last.controlAction ≠ .submittedForReview ∧ last.controlOutcome ≠ .passed := by
  rw [hcontrols] at haccepted
  by_cases hresolved : last.controlAction = .controlExceptionResolved
  · refine ⟨by simp [hresolved], ?_⟩
    exact outcome_of_exception (each_concat_iff.mp haccepted).2.shape (Or.inr hresolved)
  · have hopen : Unresolved definition.makerCheckerControls := by
      rw [hcontrols]
      exact unresolved_concat.mpr (Or.inr ⟨hresolved, hbefore⟩)
    obtain ⟨hpage, hresolution⟩ := hunmasked hopen
    refine ⟨?_, ?_⟩
    · intro hsubmitted
      have hflag := (resolution_accepted_iff rfl).mp
        (hresolution { last with controlAction := .controlExceptionResolved } rfl)
      rw [hcontrols, hasOpenException_concat, hsubmitted] at hflag
      cases hflag
    · intro hpassed
      apply hpage 50 0
      rw [currentControlOutcome_concat hcontrols htime, hpassed]

end Masking

/-! ## Runs -/

theorem recordStep_controls (hashing : Hashing) (definition : CampaignDefinition)
    (request : ControlRequest) :
    (recordStep hashing definition request).makerCheckerControls = definition.makerCheckerControls ∨
      ∃ control, (recordStep hashing definition request).makerCheckerControls =
        definition.makerCheckerControls ++ [control] := by
  unfold recordStep
  cases hrecord : recordMakerCheckerControl hashing definition request with
  | error e => exact Or.inl rfl
  | ok recorded =>
    rcases recordMakerCheckerControl_cases hrecord with ⟨rfl, _⟩ | ⟨_, rfl⟩
    · exact Or.inl rfl
    · exact Or.inr ⟨_, rfl⟩

theorem controls_extend (hashing : Hashing) (definition : CampaignDefinition)
    (past rest : List ControlRequest) :
    (afterRequests hashing definition past).makerCheckerControls <+:
      (afterRequests hashing definition (past ++ rest)).makerCheckerControls := by
  rw [afterRequests, afterRequests, Runs.run_append]
  refine Runs.run_keeps (fun reached : CampaignDefinition =>
    (Runs.run (recordStep hashing) definition past).makerCheckerControls <+:
      reached.makerCheckerControls) ?_ rest (List.prefix_refl _)
  intro reached request hprefix
  rcases recordStep_controls hashing reached request with hsame | ⟨control, hmore⟩
  · rw [hsame]
    exact hprefix
  · rw [hmore]
    exact hprefix.trans (List.prefix_append _ _)

theorem exists_request_of_control {hashing : Hashing} (hnone : definition.makerCheckerControls = [])
    {requests : List ControlRequest} {rest : List MakerCheckerControl}
    (hsplit : (afterRequests hashing definition requests).makerCheckerControls =
      past ++ control :: rest) :
    ∃ first others, requests = first ++ others ∧
      (afterRequests hashing definition first).makerCheckerControls = past ++ [control] := by
  induction requests using List.reverseRecOn generalizing rest with
  | nil =>
    change definition.makerCheckerControls = _ at hsplit
    rw [hnone] at hsplit
    cases past <;> cases hsplit
  | append_singleton earlier request ih =>
    have hstep : afterRequests hashing definition (earlier ++ [request]) =
        recordStep hashing (afterRequests hashing definition earlier) request := by
      rw [afterRequests, Runs.run_append]
      rfl
    rw [hstep] at hsplit
    rcases recordStep_controls hashing (afterRequests hashing definition earlier) request with
      hsame | ⟨last, hmore⟩
    · rw [hsame] at hsplit
      obtain ⟨first, others, rfl, hfirst⟩ := ih hsplit
      exact ⟨first, others ++ [request], by rw [List.append_assoc], hfirst⟩
    · rcases List.eq_nil_or_concat rest with rfl | ⟨rest', last', rfl⟩
      · exact ⟨earlier ++ [request], [], (List.append_nil _).symm, by rw [hstep, hsplit]⟩
      · rw [hmore, List.concat_eq_append, ← List.cons_append, ← List.append_assoc] at hsplit
        obtain ⟨first, others, rfl, hfirst⟩ := ih (List.append_inj' hsplit rfl).1
        exact ⟨first, others ++ [request], by rw [List.append_assoc], hfirst⟩

/-- Over every sequence of requests on a definition, with a clock that does not go back, no state
reached masks an open exception exactly if, while one is open, no submission is accepted and no
control passes. -/
theorem exceptions_unmasked_iff (hashing : Hashing) (definition : CampaignDefinition)
    (hnone : definition.makerCheckerControls = []) (requests : List ControlRequest)
    (htime : InTime (afterRequests hashing definition requests).makerCheckerControls) :
    (∀ past rest, requests = past ++ rest →
      NeverMasked (afterRequests hashing definition past)) ↔
      KeepsExceptions (afterRequests hashing definition requests).makerCheckerControls := by
  have haccepted (past : List ControlRequest) :
      AcceptedControls (afterRequests hashing definition past).makerCheckerControls := by
    refine Runs.run_keeps (fun d : CampaignDefinition => AcceptedControls d.makerCheckerControls)
      (fun d request h => h.recordStep request) past ?_
    rw [hnone]
    exact Histories.each_nil
  constructor
  · intro hunmasked past control rest hsplit hopen
    obtain ⟨first, others, hrequests, hfirst⟩ := exists_request_of_control hnone hsplit
    refine keeps_last_of_unmasked hfirst (haccepted first) ?_ (hunmasked first others hrequests)
      hopen
    rw [hrequests] at htime
    exact htime.sublist (controls_extend hashing definition first others).sublist
  · rintro hkeeps past rest rfl
    obtain ⟨more, hmore⟩ := controls_extend hashing definition past rest
    rw [← hmore] at hkeeps htime
    refine unmasked_of_keeps (haccepted past) ?_ hkeeps.of_append
    exact htime.sublist (List.sublist_append_left _ _)

/-! ### An exception raised during a review -/

/-- An exception is raised and resolved before the review passes. -/
def resolvedInTime : List ControlRequest :=
  [sampleControlRequest .submittedForReview "BRC-MC-1" .pending 1,
   sampleControlRequest .controlExceptionRaised "BRC-MC-2" .exceptionOpen 2,
   sampleControlRequest .controlExceptionResolved "BRC-MC-3" .exceptionResolved 3,
   sampleControlRequest .reviewCompleted "BRC-MC-4" .passed 4]

theorem keepsExceptions_of_resolved {first raised resolved last : MakerCheckerControl}
    (hraised : raised.controlAction = .controlExceptionRaised ∧ raised.controlOutcome ≠ .passed)
    (hresolved : resolved.controlAction = .controlExceptionResolved ∧
      resolved.controlOutcome ≠ .passed) :
    KeepsExceptions [first, raised, resolved, last] := by
  change KeepsExceptions (((([] ++ [first]) ++ [raised]) ++ [resolved]) ++ [last])
  unfold KeepsExceptions
  rw [Histories.each_concat_iff, Histories.each_concat_iff, Histories.each_concat_iff,
    Histories.each_concat_iff]
  refine ⟨⟨⟨⟨Histories.each_nil, fun hopen => absurd hopen not_unresolved_nil⟩, fun _ => ?_⟩,
    fun _ => ?_⟩, fun hopen => ?_⟩
  · exact ⟨by rw [hraised.1]; decide, hraised.2⟩
  · exact ⟨by rw [hresolved.1]; decide, hresolved.2⟩
  · rw [unresolved_concat, hresolved.1] at hopen
    exact absurd hopen (by simp)

/-- The exception is not masked, neither when it has just been raised nor at the end. -/
theorem exceptions_unmasked_resolvedInTime :
    NeverMasked (afterRequests sampleHashing (sampleDefinition "2026.05")
        (resolvedInTime.take 2)) ∧
      NeverMasked (afterRequests sampleHashing (sampleDefinition "2026.05") resolvedInTime) := by
  have hunmasked := (exceptions_unmasked_iff sampleHashing (sampleDefinition "2026.05") rfl
    resolvedInTime (by unfold InTime; decide +kernel)).mpr ?_
  · exact ⟨hunmasked _ (resolvedInTime.drop 2) rfl, hunmasked _ [] rfl⟩
  have hrecorded : (afterRequests sampleHashing (sampleDefinition "2026.05")
      resolvedInTime).makerCheckerControls.map (fun control =>
        (control.controlAction, control.controlOutcome)) =
      [(.submittedForReview, .pending), (.controlExceptionRaised, .exceptionOpen),
        (.controlExceptionResolved, .exceptionResolved), (.reviewCompleted, .passed)] := by
    decide +kernel
  obtain ⟨first, others, hcontrols, _, hothers⟩ := List.map_eq_cons_iff.mp hrecorded
  obtain ⟨raised, others, rfl, hraised, hothers⟩ := List.map_eq_cons_iff.mp hothers
  obtain ⟨resolved, others, rfl, hresolved, hothers⟩ := List.map_eq_cons_iff.mp hothers
  obtain ⟨last, others, rfl, _, hnone⟩ := List.map_eq_cons_iff.mp hothers
  obtain rfl := List.map_eq_nil_iff.mp hnone
  rw [hcontrols]
  simp only [Prod.mk.injEq] at hraised hresolved
  exact keepsExceptions_of_resolved ⟨hraised.1, by rw [hraised.2]; decide⟩
    ⟨hresolved.1, by rw [hresolved.2]; decide⟩

/-- The review passes while the exception is open. -/
def passedWhileOpen : List ControlRequest :=
  [sampleControlRequest .submittedForReview "BRC-MC-1" .pending 1,
   sampleControlRequest .controlExceptionRaised "BRC-MC-2" .exceptionOpen 2,
   sampleControlRequest .reviewCompleted "BRC-MC-3" .passed 3]

/-- The campaign is submitted again after its review failed with an exception open. -/
def submittedWhileOpen : List ControlRequest :=
  [sampleControlRequest .submittedForReview "BRC-MC-1" .pending 1,
   sampleControlRequest .controlExceptionRaised "BRC-MC-2" .exceptionOpen 2,
   sampleControlRequest .reviewCompleted "BRC-MC-3" .failed 3,
   sampleControlRequest .submittedForReview "BRC-MC-4" .pending 4]

/-- In the first run the page reports that the control passed; in the second a resolution is
refused. -/
theorem open_exception_masked :
    (∃ recorded, afterRequests sampleHashing (sampleDefinition "2026.05") passedWhileOpen =
        recorded ∧
      recorded.makerCheckerControls.map MakerCheckerControl.controlAction =
        [.submittedForReview, .controlExceptionRaised, .reviewCompleted] ∧
      (makerCheckerControlPage recorded).currentControlOutcome = some .passed) ∧
    (∃ recorded, afterRequests sampleHashing (sampleDefinition "2026.05") submittedWhileOpen =
        recorded ∧
      recorded.makerCheckerControls.map MakerCheckerControl.controlAction =
        [.submittedForReview, .controlExceptionRaised, .reviewCompleted, .submittedForReview] ∧
      recordMakerCheckerControl sampleHashing recorded
          (sampleControlRequest .controlExceptionResolved "BRC-MC-5" .exceptionResolved 5) =
        .error (.value "BULK_REVIEW_CAMPAIGN_MAKER_CHECKER_OPEN_EXCEPTION_REQUIRED")) := by
  refine ⟨⟨_, rfl, ?_, ?_⟩, ⟨_, rfl, ?_, ?_⟩⟩
  · decide +kernel
  · decide +kernel
  · decide +kernel
  · decide +kernel

end LotusManage.Campaigns
