import LotusManage.RebalanceRuns.AsyncOperations

/-!
# Execution tokens fence asynchronous operations

By the time a worker publishes, its lease may have run out and another worker may hold the operation, or
have published it, or the operation may have been purged.  In every interleaving the repository accepts
at most one publication of an operation, under the token of its latest granted claim only; it counts the
granted claims in `execution_attempt`; it grants no claim of an operation that is done; and a
publication that it refuses changes nothing.

`AsyncEffect` says what one call can do, and `AsyncInv` is followed through it.  A purged operation
leaves its id in `submitted`, and a later submission draws another id.
-/

namespace LotusManage.RebalanceRuns

/-! ## What one call can do -/

theorem get?_purge_cases (cutoff : Int) (id : String) :
    ∀ (entries : List (String × AsyncOperationRecord)) (repo : AsyncRepository),
      (entries.foldl (purgeOperation cutoff) repo).operations.get? id = repo.operations.get? id ∨
        (entries.foldl (purgeOperation cutoff) repo).operations.get? id = none
  | [], _ => Or.inl rfl
  | entry :: entries, repo => by
    rw [List.foldl_cons]
    rcases get?_purge_cases cutoff id entries (purgeOperation cutoff repo entry) with hsame | hnone
    · rw [hsame]
      unfold purgeOperation
      split
      · show (repo.operations.erase entry.1).get? id = _ ∨
          (repo.operations.erase entry.1).get? id = _
        rw [Dict.get?_erase]
        split
        · exact Or.inr rfl
        · exact Or.inl rfl
      · exact Or.inl rfl
    · exact Or.inr hnone

/-- The kinds of calls, by what they do to the operations and to the logs. -/
inductive AsyncEffect (call : AsyncCall) (e e' : AsyncExecution) : Prop where
  | kept (hcall : ∀ submission, call ≠ .submit submission)
      (hoperations : ∀ id, e'.repository.operations.get? id = e.repository.operations.get? id ∨
        e'.repository.operations.get? id = none)
      (hsubmitted : e'.submitted = e.submitted)
      (hgranted : e'.granted = e.granted) (hpublished : e'.published = e.published)
  | created (submission : SubmitCall) (hcall : call = .submit submission)
      (hoperations : e'.repository.operations = e.repository.operations ∨
        e'.repository.operations = e.repository.operations.set submission.operationId
          (buildAnalyzeOperation submission))
      (hsubmitted : e'.submitted = e.submitted ++ [submission.operationId])
      (hgranted : e'.granted = e.granted) (hpublished : e'.published = e.published)
  | granted (claim : ExecutionClaimCall) (operation : AsyncOperationRecord)
      (hget : e.repository.operations.get? claim.operationId = some operation)
      (hopen : operation.status = .pending ∨ operation.status = .running)
      (hoperations : e'.repository.operations =
        e.repository.operations.set claim.operationId (claimedOperation claim operation))
      (hsubmitted : e'.submitted = e.submitted)
      (hgranted : e'.granted = e.granted ++ [⟨claim.operationId, claim.executionToken⟩])
      (hpublished : e'.published = e.published)
  | published (publication : PublishCall) (operation : AsyncOperationRecord)
      (hget : e.repository.operations.get? publication.operationId = some operation)
      (hrunning : operation.status = .running)
      (htoken : operation.executionToken = some publication.executionToken)
      (hoperations : e'.repository.operations =
        e.repository.operations.set publication.operationId
          (publishedOperation publication operation))
      (hsubmitted : e'.submitted = e.submitted)
      (hgranted : e'.granted = e.granted)
      (hpublished : e'.published =
        e.published ++ [⟨publication.operationId, publication.executionToken⟩])

variable {calls : List AsyncCall} {e : AsyncExecution}

variable (repo : AsyncRepository) (call : PublishCall) (operation : AsyncOperationRecord)

theorem open_of_executable {operation : AsyncOperationRecord} {claimedAt : Int}
    (h : executable operation claimedAt = true) :
    operation.status = .pending ∨ operation.status = .running := by
  simp only [executable, Bool.and_eq_true, Bool.or_eq_true, decide_eq_true_eq] at h
  exact h.2.imp id And.left

theorem claimOperationExecution_cases (call : ExecutionClaimCall) :
    claimOperationExecution repo call = (repo, none) ∨
      ∃ operation, repo.operations.get? call.operationId = some operation ∧
        (operation.status = .pending ∨ operation.status = .running) ∧
        claimOperationExecution repo call =
          ({ repo with
             operations :=
               repo.operations.set call.operationId (claimedOperation call operation) },
            some (claimedOperation call operation)) := by
  unfold claimOperationExecution
  split
  · exact Or.inl rfl
  rename_i operation hget
  split
  · exact Or.inl rfl
  split
  · exact Or.inl rfl
  rename_i hexecutable
  rw [Bool.not_eq_false] at hexecutable
  exact Or.inr ⟨operation, hget, open_of_executable hexecutable, rfl⟩

theorem publishOperation_cases :
    publishOperation repo call = (repo, false) ∨
      ∃ operation, repo.operations.get? call.operationId = some operation ∧
        operation.status = .running ∧ operation.executionToken = some call.executionToken ∧
        publishOperation repo call =
          ({ repo with
             operations :=
               repo.operations.set call.operationId (publishedOperation call operation) },
            true) := by
  unfold publishOperation
  split
  · exact Or.inl rfl
  rename_i operation hget
  split
  · exact Or.inl rfl
  rename_i haccept
  simp only [refusesOutcome, Bool.or_eq_true, decide_eq_true_eq, not_or, ne_eq, not_not] at haccept
  exact Or.inr ⟨operation, hget, haccept.1.2, haccept.2, rfl⟩

theorem asyncStep_effect (e : AsyncExecution) (call : AsyncCall) :
    AsyncEffect call e (e.step call) := by
  cases call with
  | submit submission =>
    refine .created submission rfl ?_ rfl rfl rfl
    simp only [AsyncExecution.step, createOperation]
    split
    · exact Or.inl rfl
    · exact Or.inr rfl
  | claim claim =>
    rcases claimOperationExecution_cases e.repository claim with
      hrefused | ⟨operation, hget, hopen, hgranted⟩
    · have hstep : e.step (.claim claim) = e := by simp [AsyncExecution.step, hrefused]
      rw [hstep]
      exact .kept nofun (fun _ => Or.inl rfl) rfl rfl rfl
    · refine .granted claim operation hget hopen ?_ rfl ?_ rfl <;>
        simp [AsyncExecution.step, hgranted]
  | publish publication =>
    rcases publishOperation_cases e.repository publication with
      hrefused | ⟨operation, hget, hrunning, htoken, haccepted⟩
    · have hstep : e.step (.publish publication) = e := by simp [AsyncExecution.step, hrefused]
      rw [hstep]
      exact .kept nofun (fun _ => Or.inl rfl) rfl rfl rfl
    · refine .published publication operation hget hrunning htoken ?_ rfl rfl ?_ <;>
        simp [AsyncExecution.step, haccepted]
  | purge ttlSeconds now =>
    exact .kept nofun (fun id => get?_purge_cases _ id _ e.repository) rfl rfl rfl

theorem publishOperation_refused {repo : AsyncRepository} {call : PublishCall}
    (h : (publishOperation repo call).2 = false) : (publishOperation repo call).1 = repo := by
  rcases publishOperation_cases repo call with hrefused | ⟨operation, _, _, _, haccepted⟩
  · rw [hrefused]
  · rw [haccepted] at h
    cases h

/-! ## The invariant -/

theorem terminal_publishedOperation : (publishedOperation call operation).status.Terminal := by
  unfold publishedOperation
  split
  · exact Or.inl rfl
  · exact Or.inr rfl

theorem executionAttempt_publishedOperation :
    (publishedOperation call operation).executionAttempt = operation.executionAttempt := by
  unfold publishedOperation
  split <;> rfl

theorem AsyncOperationStatus.Terminal.not_open {status : AsyncOperationStatus}
    (h : status.Terminal) : ¬ (status = .pending ∨ status = .running) := by
  rcases h with h | h <;> rw [h] <;> simp

/-- Every id in the dictionaries and the logs was drawn by a submission; attempts count the
granted claims; a running operation carries the token of its latest claim; and a published
operation is done. -/
structure AsyncInv (e : AsyncExecution) : Prop where
  stored : ∀ id operation, e.repository.operations.get? id = some operation → id ∈ e.submitted
  grantedIds : ∀ use ∈ e.granted, use.operationId ∈ e.submitted
  publishedIds : ∀ use ∈ e.published, use.operationId ∈ e.submitted
  attempts : ∀ id operation, e.repository.operations.get? id = some operation →
    operation.executionAttempt = (e.grantsOf id).length
  latest : ∀ id operation, e.repository.operations.get? id = some operation →
    operation.status = .running → operation.executionToken = e.latestToken id
  distinct : (e.published.map TokenUse.operationId).Nodup
  done : ∀ use ∈ e.published, ∀ operation,
    e.repository.operations.get? use.operationId = some operation → operation.status.Terminal

theorem asyncInv_new : AsyncInv AsyncExecution.new := by
  constructor <;> simp [AsyncExecution.new]

section Grants

variable {e e' : AsyncExecution} {claim : ExecutionClaimCall}

theorem grantsOf_congr (h : e'.granted = e.granted) (id : String) :
    e'.grantsOf id = e.grantsOf id := by
  rw [AsyncExecution.grantsOf, AsyncExecution.grantsOf, h]

theorem latestToken_congr (h : e'.granted = e.granted) (id : String) :
    e'.latestToken id = e.latestToken id := by
  rw [AsyncExecution.latestToken, AsyncExecution.latestToken, grantsOf_congr h]

theorem grantsOf_granted
    (h : e'.granted = e.granted ++ [⟨claim.operationId, claim.executionToken⟩]) :
    e'.grantsOf claim.operationId =
      e.grantsOf claim.operationId ++ [⟨claim.operationId, claim.executionToken⟩] := by
  simp [AsyncExecution.grantsOf, h]

theorem grantsOf_granted_of_ne
    (h : e'.granted = e.granted ++ [⟨claim.operationId, claim.executionToken⟩]) {id : String}
    (hne : id ≠ claim.operationId) : e'.grantsOf id = e.grantsOf id := by
  simp [AsyncExecution.grantsOf, h, hne.symm]

theorem latestToken_granted
    (h : e'.granted = e.granted ++ [⟨claim.operationId, claim.executionToken⟩]) :
    e'.latestToken claim.operationId = some claim.executionToken := by
  rw [AsyncExecution.latestToken, grantsOf_granted h, List.getLast?_concat]
  rfl

theorem AsyncInv.grantsOf_eq_nil (hinv : AsyncInv e) {id : String} (hnew : id ∉ e.submitted) :
    e.grantsOf id = [] := by
  rw [AsyncExecution.grantsOf, List.filter_eq_nil_iff]
  intro use huse heq
  rw [decide_eq_true_eq] at heq
  exact hnew (heq ▸ hinv.grantedIds use huse)

end Grants

section Steps

variable {e e' : AsyncExecution}

variable {operation : AsyncOperationRecord}

theorem AsyncInv.of_kept (hinv : AsyncInv e)
    (hoperations : ∀ id, e'.repository.operations.get? id = e.repository.operations.get? id ∨
      e'.repository.operations.get? id = none)
    (hsubmitted : ∀ id ∈ e.submitted, id ∈ e'.submitted)
    (hgranted : e'.granted = e.granted) (hpublished : e'.published = e.published) :
    AsyncInv e' := by
  have hbefore : ∀ {id operation}, e'.repository.operations.get? id = some operation →
      e.repository.operations.get? id = some operation := by
    intro id operation hget
    rcases hoperations id with hsame | hnone
    · rw [← hsame]
      exact hget
    · rw [hnone] at hget
      cases hget
  refine ⟨?_, ?_, ?_, ?_, ?_, ?_, ?_⟩
  · exact fun id operation hget => hsubmitted id (hinv.stored id operation (hbefore hget))
  · rw [hgranted]
    exact fun use huse => hsubmitted _ (hinv.grantedIds use huse)
  · rw [hpublished]
    exact fun use huse => hsubmitted _ (hinv.publishedIds use huse)
  · intro id operation hget
    rw [grantsOf_congr hgranted]
    exact hinv.attempts id operation (hbefore hget)
  · intro id operation hget hrunning
    rw [latestToken_congr hgranted]
    exact hinv.latest id operation (hbefore hget) hrunning
  · rw [hpublished]
    exact hinv.distinct
  · rw [hpublished]
    exact fun use huse operation hget => hinv.done use huse operation (hbefore hget)

theorem AsyncInv.of_created (hinv : AsyncInv e) {submission : SubmitCall}
    (hnew : submission.operationId ∉ e.submitted)
    (hoperations : e'.repository.operations =
      e.repository.operations.set submission.operationId (buildAnalyzeOperation submission))
    (hsubmitted : e'.submitted = e.submitted ++ [submission.operationId])
    (hgranted : e'.granted = e.granted) (hpublished : e'.published = e.published) :
    AsyncInv e' := by
  have hsub : ∀ id ∈ e.submitted, id ∈ e'.submitted := by
    intro id hid
    rw [hsubmitted]
    exact List.mem_append_left _ hid
  refine ⟨?_, ?_, ?_, ?_, ?_, ?_, ?_⟩
  · intro id operation hget
    rw [hoperations, Dict.get?_set] at hget
    split at hget
    · rename_i heq
      rw [hsubmitted, heq]
      exact List.mem_append_right _ List.mem_cons_self
    · exact hsub id (hinv.stored id operation hget)
  · rw [hgranted]
    exact fun use huse => hsub _ (hinv.grantedIds use huse)
  · rw [hpublished]
    exact fun use huse => hsub _ (hinv.publishedIds use huse)
  · intro id operation hget
    rw [hoperations, Dict.get?_set] at hget
    rw [grantsOf_congr hgranted]
    split at hget
    · rename_i heq
      cases hget
      rw [heq, hinv.grantsOf_eq_nil hnew]
      rfl
    · exact hinv.attempts id operation hget
  · intro id operation hget hrunning
    rw [hoperations, Dict.get?_set] at hget
    rw [latestToken_congr hgranted]
    split at hget
    · cases hget
      cases hrunning
    · exact hinv.latest id operation hget hrunning
  · rw [hpublished]
    exact hinv.distinct
  · rw [hpublished]
    intro use huse operation hget
    have hne : use.operationId ≠ submission.operationId := by
      intro heq
      exact hnew (heq ▸ hinv.publishedIds use huse)
    rw [hoperations, Dict.get?_set_of_ne _ _ hne] at hget
    exact hinv.done use huse operation hget

theorem AsyncInv.stored_set (hinv : AsyncInv e) {id : String}
    (hget : e.repository.operations.get? id = some operation) (updated : AsyncOperationRecord) :
    ∀ id' operation', (e.repository.operations.set id updated).get? id' = some operation' →
      id' ∈ e.submitted := by
  intro id' operation' hget'
  rw [Dict.get?_set] at hget'
  split at hget'
  · rename_i heq
    rw [heq]
    exact hinv.stored _ operation hget
  · exact hinv.stored id' operation' hget'

theorem AsyncInv.of_granted (hinv : AsyncInv e) {claim : ExecutionClaimCall}
    (hget : e.repository.operations.get? claim.operationId = some operation)
    (hopen : operation.status = .pending ∨ operation.status = .running)
    (hoperations : e'.repository.operations =
      e.repository.operations.set claim.operationId (claimedOperation claim operation))
    (hsubmitted : e'.submitted = e.submitted)
    (hgranted : e'.granted = e.granted ++ [⟨claim.operationId, claim.executionToken⟩])
    (hpublished : e'.published = e.published) : AsyncInv e' := by
  refine ⟨?_, ?_, ?_, ?_, ?_, ?_, ?_⟩
  · rw [hoperations, hsubmitted]
    exact hinv.stored_set hget _
  · rw [hgranted, hsubmitted]
    intro use huse
    rcases List.mem_append.mp huse with hold | hnew
    · exact hinv.grantedIds use hold
    · rw [List.mem_singleton] at hnew
      rw [hnew]
      exact hinv.stored _ operation hget
  · rw [hpublished, hsubmitted]
    exact hinv.publishedIds
  · intro id operation' hget'
    rw [hoperations, Dict.get?_set] at hget'
    split at hget'
    · rename_i heq
      cases hget'
      rw [heq, grantsOf_granted hgranted, List.length_append, List.length_singleton]
      show operation.executionAttempt + 1 = _
      rw [hinv.attempts _ operation hget]
    · rename_i hne
      rw [grantsOf_granted_of_ne hgranted hne]
      exact hinv.attempts id operation' hget'
  · intro id operation' hget' hrunning
    rw [hoperations, Dict.get?_set] at hget'
    split at hget'
    · rename_i heq
      cases hget'
      rw [heq, latestToken_granted hgranted]
      rfl
    · rename_i hne
      rw [AsyncExecution.latestToken, grantsOf_granted_of_ne hgranted hne]
      exact hinv.latest id operation' hget' hrunning
  · rw [hpublished]
    exact hinv.distinct
  · rw [hpublished]
    intro use huse operation' hget'
    -- a published operation is done, so it is not the claimed one
    have hne : use.operationId ≠ claim.operationId := by
      intro heq
      exact (hinv.done use huse operation (heq ▸ hget)).not_open hopen
    rw [hoperations, Dict.get?_set_of_ne _ _ hne] at hget'
    exact hinv.done use huse operation' hget'

theorem AsyncInv.of_published (hinv : AsyncInv e) {publication : PublishCall}
    (hget : e.repository.operations.get? publication.operationId = some operation)
    (hrunning : operation.status = .running) (hoperations : e'.repository.operations =
      e.repository.operations.set publication.operationId
        (publishedOperation publication operation)) (hsubmitted : e'.submitted = e.submitted)
    (hgranted : e'.granted = e.granted) (hpublished : e'.published =
      e.published ++ [⟨publication.operationId, publication.executionToken⟩]) : AsyncInv e' := by
  refine ⟨?_, ?_, ?_, ?_, ?_, ?_, ?_⟩
  · rw [hoperations, hsubmitted]
    exact hinv.stored_set hget _
  · rw [hgranted, hsubmitted]
    exact hinv.grantedIds
  · rw [hpublished, hsubmitted]
    intro use huse
    rcases List.mem_append.mp huse with hold | hnew
    · exact hinv.publishedIds use hold
    · rw [List.mem_singleton] at hnew
      rw [hnew]
      exact hinv.stored _ operation hget
  · intro id operation' hget'
    rw [hoperations, Dict.get?_set] at hget'
    rw [grantsOf_congr hgranted]
    split at hget'
    · rename_i heq
      cases hget'
      rw [heq, executionAttempt_publishedOperation]
      exact hinv.attempts _ operation hget
    · exact hinv.attempts id operation' hget'
  · intro id operation' hget' hrunning'
    rw [hoperations, Dict.get?_set] at hget'
    rw [latestToken_congr hgranted]
    split at hget'
    · cases hget'
      exact absurd (Or.inr hrunning') (terminal_publishedOperation publication operation).not_open
    · exact hinv.latest id operation' hget' hrunning'
  · -- a published operation is done, and the operation was running
    rw [hpublished, List.map_append, List.map_singleton, List.nodup_append_comm]
    refine List.nodup_cons.mpr ⟨?_, hinv.distinct⟩
    intro hmem
    obtain ⟨use, huse, heq⟩ := List.mem_map.mp hmem
    simp only at heq
    exact (hinv.done use huse operation (heq ▸ hget)).not_open (Or.inr hrunning)
  · rw [hpublished]
    intro use huse operation' hget'
    rw [hoperations, Dict.get?_set] at hget'
    split at hget'
    · cases hget'
      exact terminal_publishedOperation publication operation
    · rename_i hne
      rcases List.mem_append.mp huse with hold | hnew
      · exact hinv.done use hold operation' hget'
      · rw [List.mem_singleton] at hnew
        rw [hnew] at hne
        exact absurd rfl hne

end Steps

/-! ## Runs -/

/-- A submission draws an id that was not drawn before. -/
def DrawsNewId (e : AsyncExecution) (call : AsyncCall) : Prop :=
  ∀ submission, call = .submit submission → submission.operationId ∉ e.submitted

theorem asyncInv_step (e : AsyncExecution) (call : AsyncCall) (hinv : AsyncInv e)
    (hnew : DrawsNewId e call) : AsyncInv (e.step call) := by
  cases asyncStep_effect e call with
  | kept _ hoperations hsubmitted hgranted hpublished =>
    exact hinv.of_kept hoperations (fun id hid => hsubmitted ▸ hid) hgranted hpublished
  | created submission hcall hoperations hsubmitted hgranted hpublished =>
    rcases hoperations with hsame | hset
    · refine hinv.of_kept (fun id => Or.inl (by rw [hsame])) ?_ hgranted hpublished
      intro id hid
      rw [hsubmitted]
      exact List.mem_append_left _ hid
    · exact hinv.of_created (hnew submission hcall) hset hsubmitted hgranted hpublished
  | granted claim operation hget hopen hoperations hsubmitted hgranted hpublished =>
    exact hinv.of_granted hget hopen hoperations hsubmitted hgranted hpublished
  | published publication operation hget hrunning _ hoperations hsubmitted hgranted hpublished =>
    exact hinv.of_published hget hrunning hoperations hsubmitted hgranted hpublished

theorem submitted_step (e : AsyncExecution) (call : AsyncCall) :
    (e.step call).submitted = e.submitted ++ submittedIds [call] := by
  cases call <;> simp [AsyncExecution.step, submittedIds]

theorem submittedIds_cons (call : AsyncCall) (calls : List AsyncCall) :
    submittedIds (call :: calls) = submittedIds [call] ++ submittedIds calls := by
  rw [submittedIds, submittedIds, submittedIds, ← List.filterMap_append]
  rfl

theorem along_drawsNewId (h : (e.submitted ++ submittedIds calls).Nodup) :
    Runs.Along AsyncExecution.step DrawsNewId e calls := by
  induction calls generalizing e with
  | nil => trivial
  | cons call calls ih =>
    rw [submittedIds_cons, ← List.append_assoc] at h
    refine ⟨?_, ih ?_⟩
    · rintro submission rfl hmem
      have hdisjoint := List.disjoint_of_nodup_append (List.Nodup.of_append_left h)
      exact hdisjoint hmem (by simp [submittedIds])
    · rw [submitted_step]
      exact h

theorem asyncInv_after (hids : SubmissionIdsDistinct calls) :
    AsyncInv (AsyncExecution.after calls) :=
  Runs.run_invariant _ asyncInv_step (along_drawsNewId hids) asyncInv_new

/-- An operation that is done, or is gone. -/
def Closed (e : AsyncExecution) (id : String) : Prop :=
  id ∈ e.submitted ∧
    ∀ operation, e.repository.operations.get? id = some operation → operation.status.Terminal

theorem closed_step {call : AsyncCall} {id : String} (hnew : DrawsNewId e call)
    (hclosed : Closed e id) :
    Closed (e.step call) id ∧ (e.step call).grantsOf id = e.grantsOf id := by
  obtain ⟨hmem, hdone⟩ := hclosed
  cases asyncStep_effect e call with
  | kept _ hoperations hsubmitted hgranted _ =>
    refine ⟨⟨hsubmitted ▸ hmem, ?_⟩, grantsOf_congr hgranted id⟩
    intro operation hget
    rcases hoperations id with hsame | hnone
    · exact hdone operation (hsame ▸ hget)
    · rw [hnone] at hget
      cases hget
  | created submission hcall hoperations hsubmitted hgranted _ =>
    refine ⟨⟨?_, ?_⟩, grantsOf_congr hgranted id⟩
    · rw [hsubmitted]
      exact List.mem_append_left _ hmem
    · intro operation hget
      have hne : id ≠ submission.operationId := fun heq => hnew submission hcall (heq ▸ hmem)
      rcases hoperations with hsame | hset
      · exact hdone operation (hsame ▸ hget)
      · rw [hset, Dict.get?_set_of_ne _ _ hne] at hget
        exact hdone operation hget
  | granted claim operation hget hopen hoperations hsubmitted hgranted _ =>
    have hne : id ≠ claim.operationId := by
      intro heq
      exact (hdone operation (heq ▸ hget)).not_open hopen
    refine ⟨⟨hsubmitted ▸ hmem, ?_⟩, grantsOf_granted_of_ne hgranted hne⟩
    intro operation' hget'
    rw [hoperations, Dict.get?_set_of_ne _ _ hne] at hget'
    exact hdone operation' hget'
  | published publication operation hget _ _ hoperations hsubmitted hgranted _ =>
    refine ⟨⟨hsubmitted ▸ hmem, ?_⟩, grantsOf_congr hgranted id⟩
    intro operation' hget'
    rw [hoperations, Dict.get?_set] at hget'
    split at hget'
    · cases hget'
      exact terminal_publishedOperation publication operation
    · exact hdone operation' hget'

theorem closed_run {id : String} (halong : Runs.Along AsyncExecution.step DrawsNewId e calls)
    (hclosed : Closed e id) :
    (Runs.run AsyncExecution.step e calls).grantsOf id = e.grantsOf id := by
  refine (Runs.run_invariant (fun e' => Closed e' id ∧ e'.grantsOf id = e.grantsOf id) ?_ halong
    ⟨hclosed, rfl⟩).2
  intro e' call hinv hnew
  have hstep := closed_step hnew hinv.1
  exact ⟨hstep.1, hstep.2.trans hinv.2⟩

theorem submitted_after (calls : List AsyncCall) :
    (AsyncExecution.after calls).submitted = submittedIds calls := by
  have h : ∀ (e : AsyncExecution), (Runs.run AsyncExecution.step e calls).submitted =
      e.submitted ++ submittedIds calls := by
    induction calls with
    | nil => simp [submittedIds]
    | cons call calls ih =>
      intro e
      rw [Runs.run_cons, ih, submitted_step, submittedIds_cons call calls, List.append_assoc]
  exact h AsyncExecution.new

/-- Fencing of asynchronous operations, over every interleaving of submissions, claims,
publications and purges by any number of workers.  An operation receives at most one terminal
publication; a publication is accepted only while the operation runs and only under the token of
its latest granted claim; the attempts of an operation count its granted claims; no claim of an
operation that is done is ever granted again; and a refused publication changes nothing. -/
theorem async_operations_fenced (calls : List AsyncCall) (hids : SubmissionIdsDistinct calls) :
    ((AsyncExecution.after calls).published.map TokenUse.operationId).Nodup ∧
    (∀ publication,
      (publishOperation (AsyncExecution.after calls).repository publication).2 = true →
      ∃ operation,
        (AsyncExecution.after calls).repository.operations.get? publication.operationId =
          some operation ∧
        operation.status = .running ∧
        (AsyncExecution.after calls).latestToken publication.operationId =
          some publication.executionToken) ∧
    (∀ id operation, (AsyncExecution.after calls).repository.operations.get? id =
        some operation →
      operation.executionAttempt = ((AsyncExecution.after calls).grantsOf id).length) ∧
    (∀ past rest, calls = past ++ rest → ∀ id operation,
      (AsyncExecution.after past).repository.operations.get? id = some operation →
      operation.status.Terminal →
      (AsyncExecution.after calls).grantsOf id = (AsyncExecution.after past).grantsOf id) ∧
    (∀ repo publication, (publishOperation repo publication).2 = false →
      (publishOperation repo publication).1 = repo) := by
  have hinv := asyncInv_after hids
  refine ⟨hinv.distinct, ?_, hinv.attempts, ?_, fun repo publication =>
    publishOperation_refused⟩
  · intro publication haccepted
    rcases publishOperation_cases (AsyncExecution.after calls).repository publication with
      hrefused | ⟨operation, hget, hrunning, htoken, _⟩
    · rw [hrefused] at haccepted
      cases haccepted
    · exact ⟨operation, hget, hrunning, (hinv.latest _ operation hget hrunning).symm.trans htoken⟩
  · rintro past rest rfl id operation hget hdone
    have hsplit : submittedIds (past ++ rest) = submittedIds past ++ submittedIds rest := by
      rw [submittedIds, submittedIds, submittedIds, List.filterMap_append]
    have hpast : SubmissionIdsDistinct past := by
      rw [SubmissionIdsDistinct, hsplit] at hids
      exact List.Nodup.of_append_left hids
    rw [AsyncExecution.after, Runs.run_append]
    refine closed_run (along_drawsNewId ?_) ⟨(asyncInv_after hpast).stored id operation hget, ?_⟩
    · show ((AsyncExecution.after past).submitted ++ submittedIds rest).Nodup
      rw [submitted_after, ← hsplit]
      exact hids
    · intro operation' hget'
      cases hget.symm.trans hget'
      exact hdone

/-! ### A takeover and a purge -/

/-- A worker claims the sample operation for ten units of time. -/
def sampleExecutionClaim (executionToken : String) (claimedAt : Int) : AsyncCall :=
  .claim
    { tenantId := "tenant_001"
      operationId := "dop_000000000001"
      executionToken := executionToken
      claimedAt := claimedAt
      leaseExpiresAt := claimedAt + 10 }

/-- A worker publishes the sample operation. -/
def sampleOutcome (executionToken : String) (finishedAt : Int) : AsyncCall :=
  .publish
    { tenantId := "tenant_001"
      operationId := "dop_000000000001"
      executionToken := executionToken
      outcome := .success "batch_abc12345"
      finishedAt := finishedAt }

/-- The second worker takes the operation over, both publish, and the operation is purged. -/
def operationTakeoverCalls : List AsyncCall :=
  [.submit
    { tenantId := "tenant_001"
      operationId := "dop_000000000001"
      correlationId := "corr-dpm-async-001"
      requestJson := "scenarios"
      createdAt := 0 },
   sampleExecutionClaim "dop_claim_1" 1,
   sampleExecutionClaim "dop_claim_2" 11,
   sampleOutcome "dop_claim_1" 12,
   sampleOutcome "dop_claim_2" 13,
   .purge 1 2000000,
   sampleOutcome "dop_claim_2" 2000001]

theorem async_operations_fenced_takeover :
    (AsyncExecution.after operationTakeoverCalls).granted.map TokenUse.executionToken =
      ["dop_claim_1", "dop_claim_2"] ∧
    (AsyncExecution.after operationTakeoverCalls).published.map TokenUse.executionToken =
      ["dop_claim_2"] ∧
    ((AsyncExecution.after operationTakeoverCalls).published.map TokenUse.operationId).Nodup :=
  ⟨by decide +kernel, by decide +kernel,
    (async_operations_fenced operationTakeoverCalls
      (show (submittedIds operationTakeoverCalls).Nodup by decide +kernel)).1⟩

end LotusManage.RebalanceRuns
