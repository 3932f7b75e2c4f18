import LotusManage.Lib.Histories
import LotusManage.RebalanceRuns.IdeaActions

/-!
# Histories of idea management actions

Intake callers and reviewers share one repository.  A review is three steps: the action is read,
the decision is built on the copy that was read, and the result is written back whole under the
version that the reviewer expects.  Between the steps every other caller may run, so `IdeaDesk`
keeps what was read and what was built next to the store.

`HistorySound` is what every stored action has: its events are numbered from one, each follows the
event before it, and the action stands where its last event left it.  The version of an action is
then the number of its events, and that is what makes the version check enough: a copy with as many
events as the stored action is the stored action (`Precedes`).
-/

namespace LotusManage.RebalanceRuns

open LotusManage.Text (strip)

/-! ## The callers -/

/-- A decision that was built: the action as it was read, the request, and the result. -/
structure IdeaDraft where
  base : IdeaAction
  request : ReviewRequest
  decided : IdeaAction

/-- The store, the actions that were read, and the decisions that were built. -/
structure IdeaDesk where
  store : IdeaActionStore
  reads : List IdeaAction
  drafts : List IdeaDraft

/-- One step of a caller.  An index names an action that was read or a decision that was built. -/
inductive IdeaCall where
  | createOrReplay (request : IntakeRequest)
  | getByIntakeId (tenantId legalEntityCode intakeId : String)
  | getByConversionIntent (tenantId legalEntityCode portfolioId conversionIntentId : String)
  | record (read : Nat) (request : ReviewRequest)
  | update (draft : Nat)

/-- What a caller gets. -/
inductive IdeaAnswer where
  | created (action : IdeaAction)
  | replayed (action : IdeaAction)
  | found (action : Option IdeaAction)
  | decided (action : IdeaAction)
  | updated (action : IdeaAction)
  | raised (error : IdeaActionError)
  /-- there is no read or decision of that index -/
  | nothing

namespace IdeaDesk

/-- Before the first call. -/
def new : IdeaDesk := ⟨.new, [], []⟩

/-- The desk with one more read. -/
def addRead (desk : IdeaDesk) (action : Option IdeaAction) : IdeaDesk × IdeaAnswer :=
  ({ desk with reads := desk.reads ++ action.toList }, .found action)

/-- One step. -/
def step (sha256Hex : Sha256Hex) (desk : IdeaDesk) : IdeaCall → IdeaDesk × IdeaAnswer
  | .createOrReplay request =>
    match createIdeaManagementAction sha256Hex request with
    | .error e => (desk, .raised e)
    | .ok proposed =>
      match desk.store.createOrReplay proposed with
      | .error e => (desk, .raised e)
      | .ok (store, action, true) => ({ desk with store := store }, .created action)
      | .ok (store, action, false) => ({ desk with store := store }, .replayed action)
  | .getByIntakeId tenantId legalEntityCode intakeId =>
    desk.addRead (desk.store.getByIntakeId tenantId legalEntityCode intakeId)
  | .getByConversionIntent tenantId legalEntityCode portfolioId conversionIntentId =>
    desk.addRead
      (desk.store.getByConversionIntent tenantId legalEntityCode portfolioId conversionIntentId)
  | .record read request =>
    match desk.reads[read]? with
    | none => (desk, .nothing)
    | some base =>
      match recordIdeaManagementReviewDecision sha256Hex base request with
      | .error e => (desk, .raised e)
      | .ok decided =>
        ({ desk with drafts := desk.drafts ++ [⟨base, request, decided⟩] }, .decided decided)
  | .update draft =>
    match desk.drafts[draft]? with
    | none => (desk, .nothing)
    | some ⟨_, request, decided⟩ =>
      match desk.store.update decided request.expectedSourceEventVersion with
      | .error e => (desk, .raised e)
      | .ok (store, action) => ({ desk with store := store }, .updated action)

/-- The desk after a step. -/
def next (sha256Hex : Sha256Hex) (desk : IdeaDesk) (call : IdeaCall) : IdeaDesk :=
  (desk.step sha256Hex call).1

/-- The desk after an interleaving of the steps of any number of callers. -/
def after (sha256Hex : Sha256Hex) (calls : List IdeaCall) : IdeaDesk :=
  Runs.run (next sha256Hex) new calls

end IdeaDesk

/-! ## A sound history -/

/-- How an event stands to the events before it.  Without any, it is the intake; otherwise it is a
step of the workflow from the status of the event before it, and names that event as its cause. -/
def FollowsEvents (past : List IdeaActionEvent) (event : IdeaActionEvent) : Prop :=
  event.sourceEventVersion = past.length + 1 ∧
    match past.getLast? with
    | none =>
      event.eventType = .intakeAccepted ∧ event.previousStatus = none ∧
        event.status = .pendingReview
    | some previous =>
      event.previousStatus = some previous.status ∧ event.causationId = previous.eventId ∧
        ∃ action, event.eventType = .decision action ∧
          validWorkflowTransitions.get? (previous.status, action) = some event.status

/-- What the history of a stored action is. -/
structure HistorySound (action : IdeaAction) : Prop where
  follows : Histories.Each FollowsEvents action.events
  /-- the action stands where its last event left it -/
  stands : ∃ last, action.events.getLast? = some last ∧ action.status = last.status ∧
    action.sourceEventVersion = last.sourceEventVersion
  /-- the event ids have no spaces at their ends, so that a cause is recorded as it is -/
  trimmed : ∀ event ∈ action.events, strip event.eventId = event.eventId

variable {action decided : IdeaAction} {event : IdeaActionEvent} {sha256Hex : Sha256Hex}
  {request : ReviewRequest} {store store' : IdeaActionStore} {draft : IdeaDraft} {desk' : IdeaDesk}

theorem HistorySound.version_eq (h : HistorySound action) :
    action.sourceEventVersion = action.events.length := by
  obtain ⟨last, hlast, _, hversion⟩ := h.stands
  obtain ⟨past, hpast⟩ := List.getLast?_eq_some_iff.mp hlast
  obtain ⟨hnumber, _⟩ := h.follows past last [] hpast
  rw [hversion, hnumber, hpast, List.length_append]
  rfl

/-! ## What the functions return -/

theorem requiredIdeaText_ok {value text code : String} {maxLength : Nat}
    (h : requiredIdeaText value maxLength code = .ok text) : text = strip value := by
  unfold requiredIdeaText at h
  split at h
  · cases h
  · split at h
    · cases h
    · cases h
      rfl

theorem validateIdeaEvent_ok {validated : IdeaActionEvent}
    (h : validateIdeaEvent event = .ok validated) :
    validated.eventId = strip event.eventId ∧
      validated.causationId = strip event.causationId ∧
      validated.sourceEventVersion = event.sourceEventVersion ∧
      validated.eventType = event.eventType ∧
      validated.previousStatus = event.previousStatus ∧ validated.status = event.status := by
  unfold validateIdeaEvent at h
  obtain ⟨eventId, hevent, h⟩ := Checks.bind_eq_ok h
  iterate 6 obtain ⟨_, _, h⟩ := Checks.bind_eq_ok h
  obtain ⟨causationId, hcausation, h⟩ := Checks.bind_eq_ok h
  cases h
  exact ⟨requiredIdeaText_ok hevent, requiredIdeaText_ok hcausation, rfl, rfl, rfl, rfl⟩

theorem validateIdeaAction_ok {validated : IdeaAction}
    (h : validateIdeaAction action = .ok validated) :
    validated.events = action.events ∧ validated.status = action.status ∧
      validated.sourceEventVersion = action.sourceEventVersion := by
  unfold validateIdeaAction at h
  iterate 14 obtain ⟨_, _, h⟩ := Checks.bind_eq_ok h
  cases h
  exact ⟨rfl, rfl, rfl⟩

theorem createIdeaManagementAction_sound {request : IntakeRequest}
    (h : createIdeaManagementAction sha256Hex request = .ok action) : HistorySound action := by
  unfold createIdeaManagementAction at h
  obtain ⟨event, hevent, h⟩ := Checks.bind_eq_ok h
  obtain ⟨hid, _, hversion, htype, hprevious, hstatus⟩ := validateIdeaEvent_ok hevent
  obtain ⟨hevents, hactionStatus, hactionVersion⟩ := validateIdeaAction_ok h
  refine ⟨?_, ?_, ?_⟩
  · rw [hevents]
    show Histories.Each FollowsEvents ([] ++ [event])
    refine Histories.each_concat_iff.mpr ⟨Histories.each_nil, ?_⟩
    exact ⟨hversion, htype, hprevious, hstatus⟩
  · rw [hevents]
    exact ⟨event, rfl, hactionStatus.trans hstatus.symm, hactionVersion.trans hversion.symm⟩
  · rw [hevents]
    intro e he
    rw [List.mem_singleton.mp he, hid, Text.strip_strip]

theorem recordIdeaManagementReviewDecision_ok
    (h : recordIdeaManagementReviewDecision sha256Hex action request = .ok decided) :
    decided.actionId = action.actionId ∧
      request.expectedSourceEventVersion = action.sourceEventVersion ∧
      ∃ last event, action.events.getLast? = some last ∧
        decided.events = action.events ++ [event] ∧
        decided.status = event.status ∧
        decided.sourceEventVersion = action.sourceEventVersion + 1 ∧
        event.sourceEventVersion = action.sourceEventVersion + 1 ∧
        event.previousStatus = some action.status ∧
        event.causationId = strip last.eventId ∧ strip event.eventId = event.eventId ∧
        event.eventType = .decision request.workflowAction ∧
        validWorkflowTransitions.get? (action.status, request.workflowAction) =
          some event.status := by
  unfold recordIdeaManagementReviewDecision at h
  obtain ⟨nextStatus, htransition, h⟩ := Checks.bind_eq_ok h
  obtain ⟨causationId, hcause, h⟩ := Checks.bind_eq_ok h
  obtain ⟨event, hevent, h⟩ := Checks.bind_eq_ok h
  obtain ⟨hid, hcausation, hversion, htype, hprevious, hstatus⟩ := validateIdeaEvent_ok hevent
  cases h
  unfold reviewTransition at htransition
  split at htransition
  · cases htransition
  · rename_i hexpected
    split at htransition
    · cases htransition
    · rename_i next hnext
      cases htransition
      unfold IdeaAction.lastEventId at hcause
      split at hcause
      · cases hcause
      · rename_i last hlast
        cases hcause
        refine ⟨rfl, not_not.mp hexpected, last, event, hlast, rfl, hstatus.symm, rfl, hversion,
          hprevious, hcausation, ?_, htype, ?_⟩
        · rw [hid, Text.strip_strip]
        · rw [hstatus]
          exact hnext

theorem HistorySound.decide (hsound : HistorySound action)
    (h : recordIdeaManagementReviewDecision sha256Hex action request = .ok decided) :
    HistorySound decided := by
  obtain ⟨_, _, last, event, hlast, hevents, hstatus, hdecided, hversion, hprevious, hcause, htrim,
    htype, hstep⟩ := recordIdeaManagementReviewDecision_ok h
  obtain ⟨last', hlast', hstands, _⟩ := hsound.stands
  cases hlast.symm.trans hlast'
  refine ⟨?_, ?_, ?_⟩
  · rw [hevents]
    refine Histories.each_concat_iff.mpr ⟨hsound.follows, ?_⟩
    refine ⟨by rw [hversion, hsound.version_eq], ?_⟩
    rw [hlast]
    refine ⟨by rw [hprevious, hstands], ?_, request.workflowAction, htype, ?_⟩
    · rw [hcause, hsound.trimmed last (List.mem_of_getLast? hlast)]
    · rw [← hstands]
      exact hstep
  · rw [hevents]
    exact ⟨event, List.getLast?_concat, hstatus, hdecided.trans hversion.symm⟩
  · rw [hevents]
    intro e he
    rcases List.mem_append.mp he with hold | hnew
    · exact hsound.trimmed e hold
    · rw [List.mem_singleton.mp hnew]
      exact htrim

/-! ## Copies of a stored action -/

/-- An action was read earlier from what is now stored: its history is a front of the stored one,
and as long as the history is the same, so is the action. -/
def Precedes (action stored : IdeaAction) : Prop :=
  action.events <+: stored.events ∧
    (action.events.length = stored.events.length → action = stored)

theorem Precedes.refl (action : IdeaAction) : Precedes action action :=
  ⟨List.prefix_rfl, fun _ => rfl⟩

theorem Precedes.concat {stored : IdeaAction} (h : Precedes action stored)
    (hevents : decided.events = stored.events ++ [event]) : Precedes action decided := by
  have hlength := h.1.length_le
  refine ⟨?_, ?_⟩
  · rw [hevents]
    exact h.1.trans (List.prefix_append _ _)
  · intro hsame
    rw [hevents, List.length_append, List.length_singleton] at hsame
    omega

/-- What holds of the desk at every time. -/
structure DeskSound (sha256Hex : Sha256Hex) (desk : IdeaDesk) : Prop where
  keyed : ∀ id action, desk.store.actions.get? id = some action → action.actionId = id
  sound : ∀ id action, desk.store.actions.get? id = some action → HistorySound action
  reads : ∀ read ∈ desk.reads, HistorySound read ∧
    ∃ stored, desk.store.actions.get? read.actionId = some stored ∧ Precedes read stored
  drafts : ∀ draft ∈ desk.drafts, draft.base ∈ desk.reads ∧
    recordIdeaManagementReviewDecision sha256Hex draft.base draft.request = .ok draft.decided

/-! ## What a step can do -/

theorem createOrReplay_ok {proposed : IdeaAction} {created : Bool}
    (h : store.createOrReplay proposed = .ok (store', action, created)) :
    (created = false ∧ store' = store) ∨
      (created = true ∧ action = proposed ∧ store' = store.insert proposed ∧
        store.actions.get? proposed.actionId = none) := by
  unfold IdeaActionStore.createOrReplay at h
  split at h
  · cases h
  · cases h
    exact .inl ⟨rfl, rfl⟩
  · rename_i hexisting
    cases h
    refine .inr ⟨rfl, rfl, rfl, ?_⟩
    unfold IdeaActionStore.existingForCreate at hexisting
    split at hexisting
    · rename_i hid
      -- no lookup has an id, and the last of them is the id itself
      unfold IdeaActionStore.existingId at hid
      rw [Option.or_eq_none_iff, Option.or_eq_none_iff, Option.or_eq_none_iff] at hid
      have hown := hid.2.2.2
      split at hown
      · cases hown
      · rename_i habsent
        rw [Dict.get?_eq_none_iff]
        rw [Dict.contains_eq_true_iff] at habsent
        exact habsent
    · split at hexisting
      · cases hexisting
      · split at hexisting
        · cases hexisting
        · cases hexisting

theorem update_ok {expected : Int} (h : store.update decided expected = .ok (store', action)) :
    action = decided ∧
      store' = { store with actions := store.actions.set decided.actionId decided } ∧
      ∃ existing, store.actions.get? decided.actionId = some existing ∧
        (existing.sourceEventVersion : Int) = expected := by
  unfold IdeaActionStore.update at h
  split at h
  · cases h
  · rename_i existing hexisting
    split at h
    · cases h
    · rename_i hversion
      split at h
      · cases h
      · cases h
        exact ⟨rfl, rfl, existing, hexisting, not_not.mp hversion⟩

/-- What one step does to the desk. -/
inductive DeskMove (sha256Hex : Sha256Hex) (desk : IdeaDesk) : IdeaDesk → Prop where
  | same : DeskMove sha256Hex desk desk
  | read {id : String} {action : IdeaAction} (hget : desk.store.actions.get? id = some action) :
    DeskMove sha256Hex desk { desk with reads := desk.reads ++ [action] }
  | record {draft : IdeaDraft} (hbase : draft.base ∈ desk.reads)
    (hrecord : recordIdeaManagementReviewDecision sha256Hex draft.base draft.request =
      .ok draft.decided) :
    DeskMove sha256Hex desk { desk with drafts := desk.drafts ++ [draft] }
  | create {request : IntakeRequest} {proposed : IdeaAction}
    (hcreate : createIdeaManagementAction sha256Hex request = .ok proposed)
    (habsent : desk.store.actions.get? proposed.actionId = none) :
    DeskMove sha256Hex desk { desk with store := desk.store.insert proposed }
  | update {draft : IdeaDraft} {existing : IdeaAction} (hdraft : draft ∈ desk.drafts)
    (hget : desk.store.actions.get? draft.decided.actionId = some existing)
    (hversion : (existing.sourceEventVersion : Int) = draft.request.expectedSourceEventVersion) :
    DeskMove sha256Hex desk { desk with store :=
      { desk.store with
        actions := desk.store.actions.set draft.decided.actionId draft.decided } }

variable {sha256Hex : Sha256Hex} {desk : IdeaDesk}

theorem addRead_move {id : String} :
    DeskMove sha256Hex desk (desk.addRead (desk.store.actions.get? id)).1 := by
  unfold IdeaDesk.addRead
  cases hget : desk.store.actions.get? id with
  | none =>
    rw [Option.toList_none, List.append_nil]
    exact .same
  | some action => exact .read hget

theorem step_move (sha256Hex : Sha256Hex) (desk : IdeaDesk) (call : IdeaCall) :
    DeskMove sha256Hex desk (desk.next sha256Hex call) := by
  cases call with
  | createOrReplay request =>
    unfold IdeaDesk.next IdeaDesk.step
    dsimp only
    split
    · exact .same
    · rename_i proposed hcreate
      split
      · exact .same
      · rename_i hstore
        rcases createOrReplay_ok hstore with ⟨hfalse, _⟩ | ⟨_, _, rfl, habsent⟩
        · cases hfalse
        · exact .create hcreate habsent
      · rename_i hstore
        rcases createOrReplay_ok hstore with ⟨_, rfl⟩ | ⟨htrue, _⟩
        · exact .same
        · cases htrue
  | getByIntakeId tenantId legalEntityCode intakeId => exact addRead_move
  | getByConversionIntent tenantId legalEntityCode portfolioId conversionIntentId =>
    exact addRead_move
  | record read request =>
    unfold IdeaDesk.next IdeaDesk.step
    dsimp only
    split
    · exact .same
    · rename_i base hbase
      split
      · exact .same
      · rename_i decided hrecord
        have hmem : (⟨base, request, decided⟩ : IdeaDraft).base ∈ desk.reads :=
          List.mem_of_getElem? hbase
        exact .record hmem hrecord
  | update draft =>
    unfold IdeaDesk.next IdeaDesk.step
    dsimp only
    split
    · exact .same
    · rename_i base request decided hdraft
      split
      · exact .same
      · rename_i store action hupdate
        obtain ⟨_, rfl, existing, hget, hversion⟩ := update_ok hupdate
        exact .update (List.mem_of_getElem? hdraft) hget hversion

theorem DeskSound.base_eq (hdesk : DeskSound sha256Hex desk) {existing : IdeaAction}
    (hdraft : draft ∈ desk.drafts)
    (hget : desk.store.actions.get? draft.decided.actionId = some existing)
    (hversion : (existing.sourceEventVersion : Int) = draft.request.expectedSourceEventVersion) :
    draft.base = existing := by
  obtain ⟨hread, hrecord⟩ := hdesk.drafts draft hdraft
  obtain ⟨hid, hexpected, _⟩ := recordIdeaManagementReviewDecision_ok hrecord
  obtain ⟨hbase, stored, hstored, hprecedes⟩ := hdesk.reads draft.base hread
  rw [← hid] at hstored
  cases hget.symm.trans hstored
  refine hprecedes.2 ?_
  have hlength := hbase.version_eq
  have hlength' := (hdesk.sound _ _ hget).version_eq
  omega

theorem DeskSound.move (hdesk : DeskSound sha256Hex desk) (hmove : DeskMove sha256Hex desk desk') :
    DeskSound sha256Hex desk' := by
  cases hmove with
  | same => exact hdesk
  | @read id action hget =>
    refine ⟨hdesk.keyed, hdesk.sound, ?_, ?_⟩
    · intro read hread
      rcases List.mem_append.mp hread with hold | hnew
      · exact hdesk.reads read hold
      · rw [List.mem_singleton.mp hnew]
        refine ⟨hdesk.sound id action hget, action, ?_, Precedes.refl action⟩
        rw [hdesk.keyed id action hget]
        exact hget
    · intro draft hdraft
      obtain ⟨hbase, hrecord⟩ := hdesk.drafts draft hdraft
      exact ⟨List.mem_append_left _ hbase, hrecord⟩
  | @record draft hbase hrecord =>
    refine ⟨hdesk.keyed, hdesk.sound, hdesk.reads, ?_⟩
    intro other hother
    rcases List.mem_append.mp hother with hold | hnew
    · exact hdesk.drafts other hold
    · rw [List.mem_singleton.mp hnew]
      exact ⟨hbase, hrecord⟩
  | @create request proposed hcreate habsent =>
    refine ⟨?_, ?_, ?_, hdesk.drafts⟩
    · intro id action hget
      rw [IdeaActionStore.insert, Dict.get?_set] at hget
      split at hget
      · rename_i heq
        cases hget
        exact heq.symm
      · exact hdesk.keyed id action hget
    · intro id action hget
      rw [IdeaActionStore.insert, Dict.get?_set] at hget
      split at hget
      · cases hget
        exact createIdeaManagementAction_sound hcreate
      · exact hdesk.sound id action hget
    · intro read hread
      obtain ⟨hsound, stored, hstored, hprecedes⟩ := hdesk.reads read hread
      refine ⟨hsound, stored, ?_, hprecedes⟩
      rw [IdeaActionStore.insert, Dict.get?_set_of_ne]
      · exact hstored
      · rintro heq
        rw [heq, habsent] at hstored
        cases hstored
  | @update draft existing hdraft hget hversion =>
    have hbase := hdesk.base_eq hdraft hget hversion
    obtain ⟨hread, hrecord⟩ := hdesk.drafts draft hdraft
    obtain ⟨_, _, last, event, _, hevents, _⟩ := recordIdeaManagementReviewDecision_ok hrecord
    rw [hbase] at hevents
    refine ⟨?_, ?_, ?_, hdesk.drafts⟩
    · intro id action haction
      rw [Dict.get?_set] at haction
      split at haction
      · rename_i heq
        cases haction
        exact heq.symm
      · exact hdesk.keyed id action haction
    · intro id action haction
      rw [Dict.get?_set] at haction
      split at haction
      · cases haction
        exact (hdesk.reads draft.base hread).1.decide hrecord
      · exact hdesk.sound id action haction
    · intro read hread
      obtain ⟨hsound, stored, hstored, hprecedes⟩ := hdesk.reads read hread
      refine ⟨hsound, ?_⟩
      rw [Dict.get?_set]
      split
      · rename_i heq
        rw [heq, hget] at hstored
        cases hstored
        exact ⟨draft.decided, rfl, hprecedes.concat hevents⟩
      · exact ⟨stored, hstored, hprecedes⟩

theorem deskSound_after (sha256Hex : Sha256Hex) (calls : List IdeaCall) :
    DeskSound sha256Hex (IdeaDesk.after sha256Hex calls) := by
  refine Runs.run_keeps (DeskSound sha256Hex) ?_ calls ?_
  · intro desk call hdesk
    exact hdesk.move (step_move sha256Hex desk call)
  · refine ⟨?_, ?_, ?_, ?_⟩
    · intro id action hget
      cases hget
    · intro id action hget
      cases hget
    · intro read hread
      cases hread
    · intro draft hdraft
      cases hdraft

/-! ## Histories only grow -/

/-- Every stored action is still stored, with a history that begins as it did. -/
def Extends (desk desk' : IdeaDesk) : Prop :=
  ∀ id action, desk.store.actions.get? id = some action →
    ∃ later, desk'.store.actions.get? id = some later ∧ action.events <+: later.events

theorem Extends.trans {desk'' : IdeaDesk} (h : Extends desk desk') (h' : Extends desk' desk'') :
    Extends desk desk'' := by
  intro id action hget
  obtain ⟨later, hlater, hprefix⟩ := h id action hget
  obtain ⟨last, hlast, hprefix'⟩ := h' id later hlater
  exact ⟨last, hlast, hprefix.trans hprefix'⟩

theorem DeskSound.extends_move (hdesk : DeskSound sha256Hex desk)
    (hmove : DeskMove sha256Hex desk desk') : Extends desk desk' := by
  intro id action haction
  cases hmove with
  | same | read | record => exact ⟨action, haction, List.prefix_rfl⟩
  | @create request proposed hcreate habsent =>
    refine ⟨action, ?_, List.prefix_rfl⟩
    rw [IdeaActionStore.insert, Dict.get?_set_of_ne]
    · exact haction
    · rintro rfl
      rw [habsent] at haction
      cases haction
  | @update draft existing hdraft hget hversion =>
    have hbase := hdesk.base_eq hdraft hget hversion
    obtain ⟨_, hrecord⟩ := hdesk.drafts draft hdraft
    obtain ⟨_, _, last, event, _, hevents, _⟩ := recordIdeaManagementReviewDecision_ok hrecord
    rw [Dict.get?_set]
    split
    · rename_i heq
      rw [heq, hget] at haction
      cases haction
      refine ⟨draft.decided, rfl, ?_⟩
      rw [hevents, hbase]
      exact List.prefix_append _ _
    · exact ⟨action, haction, List.prefix_rfl⟩

theorem extends_run (hdesk : DeskSound sha256Hex desk) (calls : List IdeaCall) :
    Extends desk (Runs.run (IdeaDesk.next sha256Hex) desk calls) := by
  have hboth : DeskSound sha256Hex (Runs.run (IdeaDesk.next sha256Hex) desk calls) ∧
      Extends desk (Runs.run (IdeaDesk.next sha256Hex) desk calls) := by
    refine Runs.run_keeps (fun later => DeskSound sha256Hex later ∧ Extends desk later) ?_ calls ?_
    · rintro later call ⟨hlater, hextends⟩
      have hmove := step_move sha256Hex later call
      exact ⟨hlater.move hmove, hextends.trans (hlater.extends_move hmove)⟩
    · exact ⟨hdesk, fun id action hget => ⟨action, hget, List.prefix_rfl⟩⟩
  exact hboth.2

/-! ## Decisions on one version -/

/-- The update with this index stores the decision of this draft. -/
def StoresDecision (sha256Hex : Sha256Hex) (desk : IdeaDesk) (index : Nat) (draft : IdeaDraft) :
    Prop :=
  desk.drafts[index]? = some draft ∧
    (desk.step sha256Hex (.update index)).2 = .updated draft.decided

theorem StoresDecision.stored {index : Nat} {draft : IdeaDraft}
    (h : StoresDecision sha256Hex desk index draft) :
    (∃ existing, desk.store.actions.get? draft.decided.actionId = some existing ∧
      (existing.sourceEventVersion : Int) = draft.request.expectedSourceEventVersion) ∧
    (desk.next sha256Hex (.update index)).store.actions.get? draft.decided.actionId =
      some draft.decided := by
  obtain ⟨hdraft, hanswer⟩ := h
  unfold IdeaDesk.next
  unfold IdeaDesk.step at hanswer ⊢
  dsimp only at hanswer ⊢
  rw [hdraft] at hanswer ⊢
  dsimp only at hanswer ⊢
  cases hupdate : desk.store.update draft.decided draft.request.expectedSourceEventVersion with
  | error e =>
    rw [hupdate] at hanswer
    cases hanswer
  | ok result =>
    obtain ⟨_, hstore, existing, hget, hversion⟩ := update_ok hupdate
    refine ⟨⟨existing, hget, hversion⟩, ?_⟩
    dsimp only
    rw [hstore]
    exact Dict.get?_set_self _ _ _

theorem StoresDecision.version_ne (hdesk : DeskSound sha256Hex desk) {index index' : Nat}
    {draft' : IdeaDraft} (h : StoresDecision sha256Hex desk index draft) (between : List IdeaCall)
    (h' : StoresDecision sha256Hex
      (Runs.run (IdeaDesk.next sha256Hex) desk (.update index :: between)) index' draft')
    (hsame : draft.decided.actionId = draft'.decided.actionId) :
    draft.request.expectedSourceEventVersion ≠ draft'.request.expectedSourceEventVersion := by
  have hnext := hdesk.move (step_move sha256Hex desk (.update index))
  have hlater := Runs.run_keeps (DeskSound sha256Hex)
    (fun later call hlater => hlater.move (step_move sha256Hex later call)) between hnext
  obtain ⟨⟨existing, hget, hversion⟩, hstored⟩ := h.stored
  obtain ⟨⟨existing', hget', hversion'⟩, _⟩ := h'.stored
  obtain ⟨later, hfound, hprefix⟩ := extends_run hnext between _ _ hstored
  rw [← hsame, Runs.run_cons] at hget'
  cases hfound.symm.trans hget'
  -- the decision added one event, and none is lost until the second decision
  have hbase := hdesk.base_eq (List.mem_of_getElem? h.1) hget hversion
  obtain ⟨_, hrecord⟩ := hdesk.drafts draft (List.mem_of_getElem? h.1)
  obtain ⟨_, _, _, event, _, hevents, _⟩ := recordIdeaManagementReviewDecision_ok hrecord
  have hlength := hprefix.length_le
  rw [hevents, hbase, List.length_append, List.length_singleton] at hlength
  have hcount := (hdesk.sound _ _ hget).version_eq
  have hcount' := (hlater.sound _ _ hget').version_eq
  omega

theorem step_raised {call : IdeaCall} {error : IdeaActionError}
    (h : (desk.step sha256Hex call).2 = .raised error) : (desk.step sha256Hex call).1 = desk := by
  cases call with
  | createOrReplay request =>
    unfold IdeaDesk.step at h ⊢
    dsimp only at h ⊢
    split at h
    · rfl
    · split at h
      · rfl
      · cases h
      · cases h
  | getByIntakeId | getByConversionIntent => cases h
  | record | update =>
    unfold IdeaDesk.step at h ⊢
    dsimp only at h ⊢
    split at h
    · cases h
    · split at h
      · rfl
      · cases h

/-- Over every interleaving of intakes, reads, decisions and writes: every stored history is sound,
later calls only extend it, of two decisions on one version of an action at most one is stored, and
a call that raises changes nothing. -/
theorem idea_action_history (sha256Hex : Sha256Hex) (calls : List IdeaCall) :
    (∀ id action, (IdeaDesk.after sha256Hex calls).store.actions.get? id = some action →
      HistorySound action) ∧
    (∀ more, Extends (IdeaDesk.after sha256Hex calls)
      (IdeaDesk.after sha256Hex (calls ++ more))) ∧
    (∀ index index' draft draft' between,
      StoresDecision sha256Hex (IdeaDesk.after sha256Hex calls) index draft →
      StoresDecision sha256Hex (IdeaDesk.after sha256Hex (calls ++ .update index :: between))
        index' draft' →
      draft.decided.actionId = draft'.decided.actionId →
      draft.request.expectedSourceEventVersion ≠ draft'.request.expectedSourceEventVersion) ∧
    (∀ call error, ((IdeaDesk.after sha256Hex calls).step sha256Hex call).2 = .raised error →
      (IdeaDesk.after sha256Hex (calls ++ [call])) = IdeaDesk.after sha256Hex calls) := by
  have hdesk := deskSound_after sha256Hex calls
  refine ⟨hdesk.sound, ?_, ?_, ?_⟩
  · intro more
    unfold IdeaDesk.after
    rw [Runs.run_append]
    exact extends_run hdesk more
  · intro index index' draft draft' between hfirst hsecond hsame
    unfold IdeaDesk.after at hsecond
    rw [Runs.run_append] at hsecond
    exact hfirst.version_ne hdesk between hsecond hsame
  · intro call error hraised
    unfold IdeaDesk.after
    rw [Runs.run_append]
    exact step_raised hraised

end LotusManage.RebalanceRuns
