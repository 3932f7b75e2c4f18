import Mathlib.Data.String.Basic
import LotusManage.RebalanceRuns.IdeaActionTables

/-!
# The two idea action stores

The in-memory repository looks an action up through four indexes and compares two fields with the
first action that they lead to.  The PostgreSQL repository inserts; when rows are in the way it
takes the first of them by action id and compares seven fields.  `Corresponds` relates the states of the
two: the rows are the actions, and each index holds exactly the column it is for.

`AgreesAt` says when both answer a call alike.  It fails, among others, for an intake that is sent
again under another idempotency key: one store replays it and the other reports a conflict.
-/

namespace LotusManage.RebalanceRuns.IdeaStores

open IdeaActionTables (sameIntake)

/-! ## Calls -/

/-- One call of a repository. -/
inductive StoreCall where
  | createOrReplay (action : IdeaAction)
  | update (action : IdeaAction) (expectedSourceEventVersion : Int)

/-- What the caller of a repository gets.  The text of a conflict is left out, and so is what else
was raised. -/
inductive StoreAnswer where
  | created (action : IdeaAction)
  | replayed (action : IdeaAction)
  | updated (action : IdeaAction)
  | conflict
  | failed
  deriving DecidableEq

/-- The answer for an error. -/
def StoreAnswer.ofError : IdeaActionError → StoreAnswer
  | .conflict _ => .conflict
  | _ => .failed

/-- The answer for a creation. -/
def StoreAnswer.ofCreation (action : IdeaAction) : Bool → StoreAnswer
  | true => .created action
  | false => .replayed action

/-- One call of the in-memory repository. -/
def memoryStep (store : IdeaActionStore) : StoreCall → IdeaActionStore × StoreAnswer
  | .createOrReplay action =>
    match store.createOrReplay action with
    | .error e => (store, .ofError e)
    | .ok (store', result, created) => (store', .ofCreation result created)
  | .update action expected =>
    match store.update action expected with
    | .error e => (store, .ofError e)
    | .ok (store', result) => (store', .updated result)

section Collation

variable {κ : Type} [LinearOrder κ] (rank : String → κ)

/-- One call of the PostgreSQL repository. -/
def postgresStep (tables : IdeaActionTables) : StoreCall → IdeaActionTables × StoreAnswer
  | .createOrReplay action =>
    match tables.createOrReplay rank action with
    | .error e => (tables, .ofError e)
    | .ok (tables', result, created) => (tables', .ofCreation result created)
  | .update action expected =>
    match tables.update action expected with
    | .error e => (tables, .ofError e)
    | .ok (tables', result) => (tables', .updated result)

/-! ## When both answer alike -/

/-- The event of a write meets the constraints, once the action is written. -/
def EventAccepted (tables : IdeaActionTables) (event : Option IdeaActionEvent) : Prop :=
  ∃ e ∈ event, tables.eventAccepted e = true

/-- A new action is read back as it is, and its first event meets the constraints. -/
def NewAccepted (tables : IdeaActionTables) (action : IdeaAction) : Prop :=
  tables.conflicting action = [] →
    loadAction action = .ok action ∧
      EventAccepted (tables.insertAction action) action.events.head?

/-- A repeat that the lookups find agrees with the stored action in the whole intake, and no other
row in the way comes first. -/
def RepeatIsExact (store : IdeaActionStore) (tables : IdeaActionTables) (action : IdeaAction) :
    Prop :=
  ∀ existing ∈ (store.existingId action).bind store.actions.get?,
    existing.actionId = action.actionId →
    existing.requestFingerprint = action.requestFingerprint →
    sameIntake existing action = true ∧
      ∀ row ∈ tables.conflicting action, row.actionId ≠ action.actionId →
        rank action.actionId < rank row.actionId

/-- A repeat in the whole intake whose row comes first is found by the lookups. -/
def ExactRepeatIsFound (store : IdeaActionStore) (tables : IdeaActionTables)
    (action : IdeaAction) : Prop :=
  ∀ row ∈ tables.actions.get? action.actionId, sameIntake row.payloadJson action = true →
    (∀ other ∈ tables.conflicting action, rank action.actionId ≤ rank other.actionId) →
    store.existingId action = some action.actionId

/-- An update that is made meets the constraints, and its action is read back as it is. -/
def UpdateAccepted (tables : IdeaActionTables) (action : IdeaAction) (expected : Int) : Prop :=
  action.sourceEventVersion = expected + 1 →
    textAccepted action.actionId = true ∧
    ∀ row ∈ tables.actions.get? action.actionId, (row.sourceEventVersion : Int) = expected →
      statusAccepted action.status = true ∧ versionAccepted action.sourceEventVersion = true ∧
      loadAction action = .ok action ∧
      EventAccepted
        { tables with actions := tables.actions.set action.actionId (row.updated action) }
        action.events.getLast?

/-- The states in which both stores answer a call alike. -/
def AgreesAt (states : IdeaActionStore × IdeaActionTables) : StoreCall → Prop
  | .createOrReplay action =>
    (actionInsertParams action).accepted = true ∧ NewAccepted states.2 action ∧
      RepeatIsExact rank states.1 states.2 action ∧
      ExactRepeatIsFound rank states.1 states.2 action
  | .update action expected => UpdateAccepted states.2 action expected

end Collation

/-! ## Corresponding states -/

/-- An index of the in-memory repository holds a column of the rows. -/
def Indexes {K : Type} [DecidableEq K] (index : Dict K String) (tables : IdeaActionTables)
    (column : IdeaActionRow → K) : Prop :=
  ∀ key id, index.get? key = some id ↔
    ∃ row, tables.actions.get? id = some row ∧ column row = key

/-- The columns that make the intake scope. -/
def intakeColumns (row : IdeaActionRow) : String × String × String :=
  (row.tenantId, row.legalEntityCode, row.intakeId)

/-- The columns that make the conversion scope. -/
def conversionColumns (row : IdeaActionRow) : String × String × String × String :=
  (row.tenantId, row.legalEntityCode, row.portfolioId, row.conversionIntentId)

/-- What holds of a row under its primary key. -/
structure RowSound (id : String) (row : IdeaActionRow) : Prop where
  key : row.actionId = id
  payload : row.payloadJson.actionId = id
  version : row.sourceEventVersion = row.payloadJson.sourceEventVersion
  accepted : row.accepted = true
  readable : loadAction row.payloadJson = .ok row.payloadJson

/-- The two stores hold the same actions. -/
structure Corresponds (store : IdeaActionStore) (tables : IdeaActionTables) : Prop where
  rows : ∀ id, store.actions.get? id = (tables.actions.get? id).map (·.payloadJson)
  sound : ∀ id row, tables.actions.get? id = some row → RowSound id row
  intake : Indexes store.byIntakeScope tables intakeColumns
  conversion : Indexes store.byConversionScope tables conversionColumns
  idempotency : Indexes store.byIdempotencyScope tables (·.idempotencyScopeHash)

variable {store : IdeaActionStore} {tables : IdeaActionTables} {action : IdeaAction}

variable {row : IdeaActionRow} {event : Option IdeaActionEvent}

theorem indexes_new {K : Type} [DecidableEq K] (column : IdeaActionRow → K) :
    Indexes .empty .new column := by
  intro key id
  constructor
  · intro h
    cases h
  · rintro ⟨row, h, _⟩
    cases h

theorem corresponds_new : Corresponds .new .new := by
  refine ⟨fun _ => rfl, ?_, indexes_new _, indexes_new _, indexes_new _⟩
  intro id row hrow
  cases hrow

theorem mem_conflicting :
    row ∈ tables.conflicting action ↔
      (∃ id, tables.actions.get? id = some row) ∧ row.conflicts action = true :=
  Dict.mem_selectWhere

theorem conflicts_iff :
    row.conflicts action = true ↔
      row.idempotencyScopeHash = action.idempotencyScopeHash ∨ row.actionId = action.actionId ∨
        intakeColumns row = action.intakeScope ∨
          conversionColumns row = action.conversionScope := by
  unfold IdeaActionRow.conflicts intakeColumns conversionColumns
  rw [Bool.or_eq_true, Bool.or_eq_true, Bool.or_eq_true, decide_eq_true_iff, decide_eq_true_iff,
    decide_eq_true_iff, decide_eq_true_iff, or_assoc, or_assoc]

theorem Indexes.find {K : Type} [DecidableEq K] {index : Dict K String}
    {column : IdeaActionRow → K} (h : Indexes index tables column) {key : K} {id : String}
    (hget : index.get? key = some id) :
    ∃ row, tables.actions.get? id = some row ∧ column row = key :=
  (h key id).mp hget

theorem Corresponds.row_of_existingId (h : Corresponds store tables) {id : String}
    (hid : store.existingId action = some id) :
    ∃ row, tables.actions.get? id = some row ∧ row.conflicts action = true := by
  unfold IdeaActionStore.existingId at hid
  rw [Option.or_eq_some_iff, Option.or_eq_some_iff, Option.or_eq_some_iff] at hid
  rcases hid with hhash | ⟨_, hintake | ⟨_, hconversion | ⟨_, hown⟩⟩⟩
  · obtain ⟨row, hrow, hkey⟩ := h.idempotency.find hhash
    exact ⟨row, hrow, conflicts_iff.mpr (.inl hkey)⟩
  · obtain ⟨row, hrow, hkey⟩ := h.intake.find hintake
    exact ⟨row, hrow, conflicts_iff.mpr (.inr (.inr (.inl hkey)))⟩
  · obtain ⟨row, hrow, hkey⟩ := h.conversion.find hconversion
    exact ⟨row, hrow, conflicts_iff.mpr (.inr (.inr (.inr hkey)))⟩
  · split at hown
    · rename_i hstored
      cases hown
      rw [Dict.contains_eq_true_iff, Dict.mem_keys_iff] at hstored
      obtain ⟨existing, hexisting⟩ := hstored
      rw [h.rows, Option.map_eq_some_iff] at hexisting
      obtain ⟨row, hrow, _⟩ := hexisting
      exact ⟨row, hrow, conflicts_iff.mpr (.inr (.inl (h.sound _ row hrow).key))⟩
    · cases hown

theorem Corresponds.conflicting_eq_nil (h : Corresponds store tables)
    (hid : store.existingId action = none) : tables.conflicting action = [] := by
  rw [List.eq_nil_iff_forall_not_mem]
  intro row hmem
  obtain ⟨⟨id, hrow⟩, hconflicts⟩ := mem_conflicting.mp hmem
  unfold IdeaActionStore.existingId at hid
  rw [Option.or_eq_none_iff, Option.or_eq_none_iff, Option.or_eq_none_iff] at hid
  obtain ⟨hhash, hintake, hconversion, hown⟩ := hid
  rcases conflicts_iff.mp hconflicts with hkey | hkey | hkey | hkey
  · rw [(h.idempotency _ id).mpr ⟨row, hrow, hkey⟩] at hhash
    cases hhash
  · have hstored : store.actions.contains action.actionId = true := by
      rw [Dict.contains_eq_true_iff, Dict.mem_keys_iff]
      refine ⟨row.payloadJson, ?_⟩
      rw [h.rows, ← hkey, (h.sound id row hrow).key, hrow]
      rfl
    rw [if_pos hstored] at hown
    cases hown
  · rw [(h.intake _ id).mpr ⟨row, hrow, hkey⟩] at hintake
    cases hintake
  · rw [(h.conversion _ id).mpr ⟨row, hrow, hkey⟩] at hconversion
    cases hconversion

/-! ## Creations -/

theorem Indexes.insert {K : Type} [DecidableEq K] {index : Dict K String}
    {column : IdeaActionRow → K} (h : Indexes index tables column)
    (hnew : tables.actions.get? action.actionId = none)
    (hcolumn : index.get? (column (actionInsertParams action)) = none) :
    Indexes (index.set (column (actionInsertParams action)) action.actionId)
      (tables.insertAction action) column := by
  intro key id
  unfold IdeaActionTables.insertAction
  rw [Dict.get?_set, Dict.get?_set]
  constructor
  · intro hget
    split at hget
    · rename_i hkey
      cases hget
      rw [if_pos rfl]
      exact ⟨_, rfl, hkey.symm⟩
    · obtain ⟨row, hrow, hkey⟩ := h.find hget
      rw [if_neg (by rintro rfl; rw [hnew] at hrow; cases hrow)]
      exact ⟨row, hrow, hkey⟩
  · rintro ⟨row, hrow, hkey⟩
    split at hrow
    · rename_i hid
      cases hrow
      rw [if_pos hkey.symm, hid]
    · have hget := (h key id).mpr ⟨row, hrow, hkey⟩
      rw [if_neg (by rintro rfl; rw [hcolumn] at hget; cases hget)]
      exact hget

theorem Corresponds.insert (h : Corresponds store tables)
    (hfree : tables.conflicting action = [])
    (haccepted : (actionInsertParams action).accepted = true)
    (hreadable : loadAction action = .ok action) :
    Corresponds (store.insert action) (tables.insertAction action) := by
  have hnone : ∀ id row, tables.actions.get? id = some row → ¬ row.conflicts action = true := by
    intro id row hrow hconflicts
    have hmem : row ∈ tables.conflicting action := mem_conflicting.mpr ⟨⟨id, hrow⟩, hconflicts⟩
    rw [hfree] at hmem
    cases hmem
  have hnew : tables.actions.get? action.actionId = none := by
    rw [Option.eq_none_iff_forall_ne_some]
    intro row hrow
    exact hnone _ row hrow (conflicts_iff.mpr (.inr (.inl (h.sound _ row hrow).key)))
  refine ⟨?_, ?_, ?_, ?_, ?_⟩
  · intro id
    unfold IdeaActionStore.insert IdeaActionTables.insertAction
    rw [Dict.get?_set, Dict.get?_set]
    split
    · rfl
    · exact h.rows id
  · intro id row hrow
    unfold IdeaActionTables.insertAction at hrow
    rw [Dict.get?_set] at hrow
    split at hrow
    · rename_i hid
      cases hrow
      exact ⟨hid.symm, hid.symm, rfl, haccepted, hreadable⟩
    · exact h.sound id row hrow
  · refine h.intake.insert hnew ?_
    rw [Option.eq_none_iff_forall_ne_some]
    intro id hid
    obtain ⟨row, hrow, hkey⟩ := h.intake.find hid
    exact hnone id row hrow (conflicts_iff.mpr (.inr (.inr (.inl hkey))))
  · refine h.conversion.insert hnew ?_
    rw [Option.eq_none_iff_forall_ne_some]
    intro id hid
    obtain ⟨row, hrow, hkey⟩ := h.conversion.find hid
    exact hnone id row hrow (conflicts_iff.mpr (.inr (.inr (.inr hkey))))
  · refine h.idempotency.insert hnew ?_
    rw [Option.eq_none_iff_forall_ne_some]
    intro id hid
    obtain ⟨row, hrow, hkey⟩ := h.idempotency.find hid
    exact hnone id row hrow (conflicts_iff.mpr (.inl hkey))

theorem Corresponds.of_insertEvent (h : Corresponds store tables) {tables' : IdeaActionTables}
    (hinsert : tables.insertEvent event = .ok tables') : Corresponds store tables' := by
  unfold IdeaActionTables.insertEvent at hinsert
  split at hinsert
  · cases hinsert
  · split at hinsert
    · cases hinsert
      exact ⟨h.rows, h.sound, h.intake, h.conversion, h.idempotency⟩
    · cases hinsert

theorem EventAccepted.insertEvent_ok (h : EventAccepted tables event) :
    ∃ tables', tables.insertEvent event = .ok tables' := by
  obtain ⟨e, he, haccepted⟩ := h
  rw [Option.mem_def] at he
  subst he
  unfold IdeaActionTables.insertEvent
  dsimp only
  rw [if_pos haccepted]
  exact ⟨_, rfl⟩

theorem sameIntake_iff {existing proposed : IdeaAction} :
    sameIntake existing proposed = true ↔
      existing.actionId = proposed.actionId ∧ existing.intakeId = proposed.intakeId ∧
      existing.tenantId = proposed.tenantId ∧
      existing.legalEntityCode = proposed.legalEntityCode ∧
      existing.portfolioId = proposed.portfolioId ∧
      existing.requestFingerprint = proposed.requestFingerprint ∧
      existing.idempotencyScopeHash = proposed.idempotencyScopeHash := by
  unfold sameIntake
  simp only [Bool.and_eq_true, decide_eq_true_iff, and_assoc]

section Collation

variable {κ : Type} [LinearOrder κ] {rank : String → κ}

theorem create_new (rank : String → κ) (h : Corresponds store tables)
    (hfree : tables.conflicting action = [])
    (haccepted : (actionInsertParams action).accepted = true)
    (hnew : NewAccepted tables action) :
    ∃ tables', store.createOrReplay action = .ok (store.insert action, action, true) ∧
      tables.createOrReplay rank action = .ok (tables', action, true) ∧
      Corresponds (store.insert action) tables' := by
  obtain ⟨hreadable, hevent⟩ := hnew hfree
  obtain ⟨tables', htables⟩ := hevent.insertEvent_ok
  refine ⟨tables', ?_, ?_, (h.insert hfree haccepted hreadable).of_insertEvent htables⟩
  · have hid : store.existingId action = none := by
      rw [Option.eq_none_iff_forall_ne_some]
      intro id hid
      obtain ⟨row, hrow, hconflicts⟩ := h.row_of_existingId hid
      have hmem : row ∈ tables.conflicting action := mem_conflicting.mpr ⟨⟨id, hrow⟩, hconflicts⟩
      rw [hfree] at hmem
      cases hmem
    unfold IdeaActionStore.createOrReplay IdeaActionStore.existingForCreate
    rw [hid]
  · unfold IdeaActionTables.createOrReplay
    rw [haccepted, hfree, List.isEmpty_nil, if_neg (by decide), if_pos rfl, htables]

theorem loadCreateConflict_eq (rank : String → κ) (h : Corresponds store tables)
    (hrows : tables.conflicting action ≠ []) :
    ∃ id row, tables.actions.get? id = some row ∧ row ∈ tables.conflicting action ∧
      (∀ other ∈ tables.conflicting action, rank row.actionId ≤ rank other.actionId) ∧
      tables.loadCreateConflict rank action = .ok (some row.payloadJson) := by
  unfold IdeaActionTables.loadCreateConflict
  cases hfirst : (tables.conflicting action).argmin (fun row => rank row.actionId) with
  | none => exact absurd (List.argmin_eq_none.mp hfirst) hrows
  | some row =>
    have hmem := List.argmin_mem hfirst
    obtain ⟨⟨id, hrow⟩, _⟩ := mem_conflicting.mp hmem
    refine ⟨id, row, hrow, hmem, ?_, ?_⟩
    · intro other hother
      exact List.le_of_mem_argmin (f := fun row : IdeaActionRow => rank row.actionId) hother hfirst
    · dsimp only
      rw [(h.sound id row hrow).readable]

/-- A creation on corresponding states, when rows are in the way: both stores replay the same
action, or both report a conflict. -/
theorem create_conflict (h : Corresponds store tables) (hrows : tables.conflicting action ≠ [])
    (haccepted : (actionInsertParams action).accepted = true)
    (hexact : RepeatIsExact rank store tables action)
    (hfound : ExactRepeatIsFound rank store tables action) :
    (∃ existing, store.createOrReplay action = .ok (store, existing, false) ∧
      tables.createOrReplay rank action = .ok (tables, existing, false)) ∨
    (∃ code code', store.createOrReplay action = .error (.conflict code) ∧
      tables.createOrReplay rank action = .error (.conflict code')) := by
  obtain ⟨id, hid⟩ : ∃ id, store.existingId action = some id := by
    rw [← Option.ne_none_iff_exists']
    intro hnone
    exact hrows (h.conflicting_eq_nil hnone)
  obtain ⟨row, hrow, hconflicts⟩ := h.row_of_existingId hid
  have hstored : store.actions.get? id = some row.payloadJson := by
    rw [h.rows, hrow]
    rfl
  obtain ⟨firstId, first, hfirst, hmem, hleast, hload⟩ := loadCreateConflict_eq rank h hrows
  have hpostgres : tables.createOrReplay rank action =
      if sameIntake first.payloadJson action then .ok (tables, first.payloadJson, false)
      else .error (.conflict "IDEA_ACTION_INTAKE_IDEMPOTENCY_CONFLICT") := by
    unfold IdeaActionTables.createOrReplay
    rw [haccepted, hload, if_neg (by decide), if_neg]
    rw [List.isEmpty_iff]
    exact hrows
  have hmemory : store.createOrReplay action =
      if row.payloadJson.requestFingerprint ≠ action.requestFingerprint ∨
          row.payloadJson.actionId ≠ action.actionId then
        .error (.conflict "IDEA_ACTION_INTAKE_IDEMPOTENCY_CONFLICT")
      else .ok (store, row.payloadJson, false) := by
    have hexisting : store.existingForCreate action =
        if row.payloadJson.requestFingerprint ≠ action.requestFingerprint ∨
            row.payloadJson.actionId ≠ action.actionId then
          .error (.conflict "IDEA_ACTION_INTAKE_IDEMPOTENCY_CONFLICT")
        else .ok (some row.payloadJson) := by
      unfold IdeaActionStore.existingForCreate
      rw [hid]
      dsimp only
      rw [hstored]
    unfold IdeaActionStore.createOrReplay
    rw [hexisting]
    by_cases hreplay : row.payloadJson.requestFingerprint ≠ action.requestFingerprint ∨
        row.payloadJson.actionId ≠ action.actionId
    · rw [if_pos hreplay, if_pos hreplay]
    · rw [if_neg hreplay, if_neg hreplay]
  rw [hpostgres, hmemory]
  by_cases hreplay : row.payloadJson.requestFingerprint ≠ action.requestFingerprint ∨
      row.payloadJson.actionId ≠ action.actionId
  · rw [if_pos hreplay, if_neg]
    · exact .inr ⟨_, _, rfl, rfl⟩
    · -- an exact repeat whose row comes first would have been found by the lookups
      intro hsame
      have hfields := sameIntake_iff.mp hsame
      have hkey : firstId = action.actionId :=
        (h.sound firstId first hfirst).payload.symm.trans hfields.1
      rw [hkey] at hfirst
      have hlookup := hfound first hfirst hsame (by
        intro other hother
        have hleast' := hleast other hother
        rw [(h.sound _ first hfirst).key] at hleast'
        exact hleast')
      cases hid.symm.trans hlookup
      cases hrow.symm.trans hfirst
      rcases hreplay with hne | hne
      · exact hne hfields.2.2.2.2.2.1
      · exact hne hfields.1
  · rw [if_neg hreplay]
    rw [not_or, not_not, not_not] at hreplay
    obtain ⟨hsame, hsmaller⟩ := hexact row.payloadJson
      (by rw [hid, Option.bind_some, Option.mem_def]; exact hstored) hreplay.2 hreplay.1
    have hown : id = action.actionId := (h.sound id row hrow).payload.symm.trans hreplay.2
    have hsound := h.sound id row hrow
    -- the row that was found is itself in the way, so no other can come first
    have hfirstKey : first.actionId = action.actionId := by
      by_contra hne
      have hlt := hsmaller first hmem hne
      have hle := hleast row (mem_conflicting.mpr ⟨⟨id, hrow⟩, hconflicts⟩)
      rw [hsound.key, hown] at hle
      exact absurd hle (not_le.mpr hlt)
    have hfirstId : firstId = id :=
      ((h.sound firstId first hfirst).key.symm.trans hfirstKey).trans hown.symm
    rw [hfirstId] at hfirst
    cases hrow.symm.trans hfirst
    rw [if_pos hsame]
    exact .inl ⟨_, rfl, rfl⟩

/-! ## Updates -/

theorem Indexes.update {K : Type} [DecidableEq K] {index : Dict K String}
    {column : IdeaActionRow → K} (h : Indexes index tables column) {row : IdeaActionRow}
    (hrow : tables.actions.get? action.actionId = some row)
    (hcolumn : column (row.updated action) = column row) :
    Indexes index
      { tables with actions := tables.actions.set action.actionId (row.updated action) }
      column := by
  intro key id
  rw [h key id, Dict.get?_set]
  constructor
  · rintro ⟨found, hfound, hkey⟩
    split
    · rename_i hid
      rw [hid, hrow] at hfound
      cases hfound
      exact ⟨_, rfl, hcolumn.trans hkey⟩
    · exact ⟨found, hfound, hkey⟩
  · rintro ⟨found, hfound, hkey⟩
    split at hfound
    · rename_i hid
      cases hfound
      rw [hid]
      exact ⟨row, hrow, hcolumn.symm.trans hkey⟩
    · exact ⟨found, hfound, hkey⟩

theorem accepted_updated {row : IdeaActionRow} (h : row.accepted = true)
    (hstatus : statusAccepted action.status = true)
    (hversion : versionAccepted action.sourceEventVersion = true) :
    (row.updated action).accepted = true := by
  unfold IdeaActionRow.accepted at h ⊢
  rw [Bool.and_eq_true, Bool.and_eq_true, Bool.and_eq_true] at h ⊢
  exact ⟨⟨⟨h.1.1.1, hstatus⟩, hversion⟩, h.2⟩

theorem Corresponds.update (h : Corresponds store tables) {row : IdeaActionRow}
    (hrow : tables.actions.get? action.actionId = some row)
    (hstatus : statusAccepted action.status = true)
    (hversion : versionAccepted action.sourceEventVersion = true)
    (hreadable : loadAction action = .ok action) :
    Corresponds { store with actions := store.actions.set action.actionId action }
      { tables with actions := tables.actions.set action.actionId (row.updated action) } := by
  refine ⟨?_, ?_, h.intake.update hrow rfl, h.conversion.update hrow rfl,
    h.idempotency.update hrow rfl⟩
  · intro id
    rw [Dict.get?_set, Dict.get?_set]
    split
    · rfl
    · exact h.rows id
  · intro id found hfound
    rw [Dict.get?_set] at hfound
    split at hfound
    · rename_i hid
      cases hfound
      have hsound := h.sound _ row hrow
      exact ⟨hsound.key.trans hid.symm, hid.symm, rfl,
        accepted_updated hsound.accepted hstatus hversion, hreadable⟩
    · exact h.sound id found hfound

theorem update_agrees (h : Corresponds store tables) {expected : Int}
    (haccepted : UpdateAccepted tables action expected) :
    (∃ store' tables', store.update action expected = .ok (store', action) ∧
      tables.update action expected = .ok (tables', action) ∧ Corresponds store' tables') ∨
    (∃ code code', store.update action expected = .error (.conflict code) ∧
      tables.update action expected = .error (.conflict code')) := by
  unfold IdeaActionStore.update
  rw [h.rows]
  by_cases hsequence : (action.sourceEventVersion : Int) ≠ expected + 1
  · -- one store looks at the version sequence first, the other last
    right
    have hpostgres : tables.update action expected =
        .error (.conflict "IDEA_MANAGEMENT_ACTION_VERSION_SEQUENCE_INVALID") := by
      unfold IdeaActionTables.update
      rw [if_pos hsequence]
    rw [hpostgres]
    cases tables.actions.get? action.actionId with
    | none => exact ⟨_, _, rfl, rfl⟩
    | some row =>
      rw [Option.map_some]
      dsimp only
      rw [if_pos hsequence]
      split
      · exact ⟨_, _, rfl, rfl⟩
      · exact ⟨_, _, rfl, rfl⟩
  · obtain ⟨htext, hupdate⟩ := haccepted (not_not.mp hsequence)
    have htext' : ¬ (!textAccepted action.actionId) = true := by
      rw [htext]
      decide
    unfold IdeaActionTables.update
    cases hrow : tables.actions.get? action.actionId with
    | none =>
      rw [Option.map_none]
      dsimp only
      rw [if_neg hsequence, if_neg htext']
      exact .inr ⟨_, _, rfl, rfl⟩
    | some row =>
      have hsound := h.sound _ row hrow
      rw [Option.map_some, Option.filter_some]
      dsimp only
      rw [← hsound.version]
      by_cases hversion : (row.sourceEventVersion : Int) = expected
      · obtain ⟨hstatus, hnumber, hreadable, hevent⟩ := hupdate row hrow hversion
        obtain ⟨tables', htables⟩ := hevent.insertEvent_ok
        have hrowAccepted : ¬ (!(row.updated action).accepted) = true := by
          rw [accepted_updated hsound.accepted hstatus hnumber]
          decide
        rw [if_neg (not_not.mpr hversion), if_neg hsequence, if_neg hsequence, if_neg htext',
          if_pos (decide_eq_true_iff.mpr hversion)]
        dsimp only
        rw [if_neg hrowAccepted, htables]
        exact .inl ⟨_, tables', rfl, rfl,
          (h.update hrow hstatus hnumber hreadable).of_insertEvent htables⟩
      · rw [if_pos hversion, if_neg hsequence, if_neg htext',
          if_neg (fun h => hversion (decide_eq_true_iff.mp h))]
        exact .inr ⟨_, _, rfl, rfl⟩

end Collation

/-! ## Sequences of calls -/

theorem step_agrees {κ : Type} [LinearOrder κ] (rank : String → κ) (call : StoreCall)
    (h : Corresponds store tables) (hagrees : AgreesAt rank (store, tables) call) :
    Corresponds (memoryStep store call).1 (postgresStep rank tables call).1 ∧
      (memoryStep store call).2 = (postgresStep rank tables call).2 := by
  cases call with
  | createOrReplay action =>
    obtain ⟨haccepted, hnew, hexact, hfound⟩ := hagrees
    unfold memoryStep postgresStep
    dsimp only
    by_cases hfree : tables.conflicting action = []
    · obtain ⟨tables', hmemory, hpostgres, hnext⟩ :=
        create_new rank h hfree haccepted hnew
      rw [hmemory, hpostgres]
      exact ⟨hnext, rfl⟩
    · rcases create_conflict h hfree haccepted hexact hfound with
        ⟨existing, hmemory, hpostgres⟩ | ⟨code, code', hmemory, hpostgres⟩
      · rw [hmemory, hpostgres]
        exact ⟨h, rfl⟩
      · rw [hmemory, hpostgres]
        exact ⟨h, rfl⟩
  | update action expected =>
    unfold memoryStep postgresStep
    dsimp only
    rcases update_agrees h hagrees with
      ⟨store', tables', hmemory, hpostgres, hnext⟩ | ⟨code, code', hmemory, hpostgres⟩
    · rw [hmemory, hpostgres]
      exact ⟨hnext, rfl⟩
    · rw [hmemory, hpostgres]
      exact ⟨h, rfl⟩

/-- The stores agree: over every sequence of calls from empty stores that each meet `AgreesAt` in
the states in which they are made, both stores give the same answers, and they end holding the same
actions, each of which PostgreSQL reads back as it is. -/
theorem idea_stores_agree {κ : Type} [LinearOrder κ] (rank : String → κ) (calls : List StoreCall)
    (hagrees : Runs.Along
      (fun states call => ((memoryStep states.1 call).1, (postgresStep rank states.2 call).1))
      (AgreesAt rank) (.new, .new) calls) :
    Runs.outputs memoryStep .new calls = Runs.outputs (postgresStep rank) .new calls ∧
      ∀ id, (Runs.run (fun store call => (memoryStep store call).1) .new calls).actions.get? id =
        ((Runs.run (fun tables call => (postgresStep rank tables call).1) .new calls).actions.get?
          id).bind (fun row => (loadAction row.payloadJson).toOption) := by
  obtain ⟨hend, houtputs⟩ := Runs.agree_both Corresponds
    (fun _ _ call hsame hcall => step_agrees rank call hsame hcall) hagrees corresponds_new
  refine ⟨houtputs, ?_⟩
  intro id
  rw [hend.rows id]
  cases hrow : (Runs.run (fun tables call => (postgresStep rank tables call).1) .new
      calls).actions.get? id with
  | none => rfl
  | some row =>
    rw [Option.map_some, Option.bind_some, (hend.sound id row hrow).readable]
    rfl

/-! ### An intake under a second idempotency key -/

section Tests

variable {κ : Type} [LinearOrder κ] (rank : String → κ)

instance (tables : IdeaActionTables) (event : Option IdeaActionEvent) :
    Decidable (EventAccepted tables event) :=
  inferInstanceAs (Decidable (∃ e ∈ event, tables.eventAccepted e = true))

instance (tables : IdeaActionTables) (action : IdeaAction) :
    Decidable (NewAccepted tables action) :=
  inferInstanceAs (Decidable (_ → _ ∧ EventAccepted _ _))

instance (store : IdeaActionStore) (tables : IdeaActionTables) (action : IdeaAction) :
    Decidable (RepeatIsExact rank store tables action) :=
  inferInstanceAs (Decidable (∀ existing ∈ (store.existingId action).bind store.actions.get?,
    _ → _ → _ ∧ ∀ row ∈ tables.conflicting action, _ → _))

instance (store : IdeaActionStore) (tables : IdeaActionTables) (action : IdeaAction) :
    Decidable (ExactRepeatIsFound rank store tables action) :=
  inferInstanceAs (Decidable (∀ row ∈ tables.actions.get? action.actionId, _ →
    (∀ other ∈ tables.conflicting action, _) → _))

instance (tables : IdeaActionTables) (action : IdeaAction) (expected : Int) :
    Decidable (UpdateAccepted tables action expected) :=
  inferInstanceAs (Decidable (_ → _ ∧ ∀ row ∈ tables.actions.get? action.actionId, _ → _))

instance (states : IdeaActionStore × IdeaActionTables) :
    ∀ call, Decidable (AgreesAt rank states call)
  | .createOrReplay _ =>
    inferInstanceAs (Decidable (_ ∧ NewAccepted _ _ ∧ RepeatIsExact _ _ _ _ ∧ _))
  | .update action expected => inferInstanceAs (Decidable (UpdateAccepted states.2 action expected))

end Tests

/-- The event of an accepted intake. -/
def sampleEvent : IdeaActionEvent where
  eventId := "imae_0abb6fac196b4f714e1b"
  actionId := "ima_5c1ab66c35e95d548e18"
  sourceEventVersion := 1
  eventType := .intakeAccepted
  previousStatus := none
  status := .pendingReview
  occurredAt := 0
  actorId := "pm_001"
  actorRole := "PORTFOLIO_MANAGER"
  reasonCode := "idea_conversion_intent_accepted_for_management_review"
  correlationId := "corr_001"
  causationId := "intent_001"

/-- The action of an accepted intake. -/
def sampleAction : IdeaAction where
  actionId := "ima_5c1ab66c35e95d548e18"
  intakeId := "iai_001"
  tenantId := "tenant-sg"
  legalEntityCode := "SG"
  portfolioId := "pf_001"
  ideaCandidateId := "idea_001"
  conversionIntentId := "intent_001"
  sourceRefs := ["\x7b\"kind\": \"idea\"\x7d"]
  requestFingerprint := "sha256:0123456789ab"
  idempotencyScopeHash := "sha256:0123456789abcdef01234567"
  status := .pendingReview
  sourceEventVersion := 1
  createdAt := 0
  updatedAt := 0
  correlationId := "corr_001"
  causationId := "intent_001"
  events := [sampleEvent]

/-- The action after its approval. -/
def approvedAction : IdeaAction :=
  { sampleAction with
    status := .approved
    sourceEventVersion := 2
    updatedAt := 60
    correlationId := "corr_002"
    causationId := "imae_0abb6fac196b4f714e1b"
    events := [sampleEvent,
      { eventId := "imae_089515479cc0139a80c0"
        actionId := "ima_5c1ab66c35e95d548e18"
        sourceEventVersion := 2
        eventType := .decision .approve
        previousStatus := some .pendingReview
        status := .approved
        occurredAt := 60
        actorId := "reviewer_001"
        actorRole := "REVIEWER"
        reasonCode := "reviewed"
        correlationId := "corr_002"
        causationId := "imae_0abb6fac196b4f714e1b" }] }

/-- A creation, its replay, an approval, a stale approval, and an intake whose content changed. -/
def agreedCalls : List StoreCall :=
  [.createOrReplay sampleAction, .createOrReplay sampleAction, .update approvedAction 1,
    .update approvedAction 1,
    .createOrReplay { sampleAction with requestFingerprint := "sha256:ba9876543210" }]

theorem idea_stores_agree_approved :
    Runs.outputs memoryStep .new agreedCalls =
      [.created sampleAction, .replayed sampleAction, .updated approvedAction, .conflict,
        .conflict] ∧
    Runs.outputs memoryStep .new agreedCalls =
      Runs.outputs (postgresStep (fun text => text)) .new agreedCalls :=
  ⟨by decide +kernel, (idea_stores_agree (fun text => text) agreedCalls (by decide +kernel)).1⟩

/-- The intake is sent again under another idempotency key. -/
def secondKeyCalls : List StoreCall :=
  [.createOrReplay sampleAction,
    .createOrReplay
      { sampleAction with idempotencyScopeHash := "sha256:76543210fedcba9876543210" }]

theorem second_key_answered_differently :
    Runs.outputs memoryStep .new secondKeyCalls =
      [.created sampleAction, .replayed sampleAction] ∧
    Runs.outputs (postgresStep (fun text => text)) .new secondKeyCalls =
      [.created sampleAction, .conflict] := by
  decide +kernel

end LotusManage.RebalanceRuns.IdeaStores
