import LotusManage.RebalanceRuns.Retention

/-!
# What a purge leaves of the surviving runs

A purge should remove the expired runs with everything that belongs to them, and nothing else.
`PurgeIsolated` says so, dictionary by dictionary: the first six fields hold in every state, because
those dictionaries are keyed by a run id or name the run of each row.

Lineage edges are listed under the raw identifiers of their ends, and the purge drops every edge with an
end among the identifiers of an expired run: its id, its correlation id, its key and the keys mapped to
it.  These are not unique across tenants, and two runs of one tenant may share a correlation id, so an
edge of another tenant or of a surviving run can have such an end.  The isolation holds exactly when
none has.
-/

namespace LotusManage.RebalanceRuns

/-! ## The statement -/

/-- The edge has the identifier as an end. -/
def LineageEdgeRecord.HasEnd (edge : LineageEdgeRecord) (id : String) : Prop :=
  edge.sourceEntityId = id ∨ edge.targetEntityId = id

/-- The edge is attached to the run: it is of the run's tenant and ends in the run itself or, when it
ends in no stored run at all (an operation and a correlation id), in the run's correlation id or key. -/
def AttachedTo (repo : RunRepository) (run : RunRecord) (edge : LineageEdgeRecord) : Prop :=
  edge.tenantId = run.tenantId ∧ (edge.HasEnd run.rebalanceRunId ∨
    ((∀ id stored, repo.runs.get? id = some stored → ¬ edge.HasEnd id) ∧
      (edge.HasEnd run.correlationId ∨ ∃ key, run.idempotencyKey = some key ∧ edge.HasEnd key)))

/-- The edge is attached to a run that the purge keeps. -/
def AttachedToSurvivor (repo : RunRepository) (retentionDays now : Int)
    (edge : LineageEdgeRecord) : Prop :=
  ∃ run, repo.runs.get? run.rebalanceRunId = some run ∧
    isExpired retentionDays now run = false ∧ AttachedTo repo run edge

/-- The edge belongs to an expired run: it is of the run's tenant and carries one of the run's
identifiers. -/
def BelongsToExpired (repo : RunRepository) (retentionDays now : Int)
    (edge : LineageEdgeRecord) : Prop :=
  ∃ run, repo.runs.get? run.rebalanceRunId = some run ∧ isExpired retentionDays now run = true ∧
    edge.tenantId = run.tenantId ∧ ∃ id, Identifies repo run id ∧ edge.HasEnd id

/-- The edge carries an identifier of an expired run, of whatever tenant. -/
def CarriesExpired (repo : RunRepository) (retentionDays now : Int)
    (edge : LineageEdgeRecord) : Prop :=
  ∃ id, IdentifiesExpired repo retentionDays now id ∧ edge.HasEnd id

theorem BelongsToExpired.carriesExpired {repo : RunRepository} {retentionDays now : Int}
    {edge : LineageEdgeRecord} (h : BelongsToExpired repo retentionDays now edge) :
    CarriesExpired repo retentionDays now edge := by
  obtain ⟨run, hget, hexpired, _, id, hid, hend⟩ := h
  exact ⟨id, ⟨run, hget, hexpired, hid⟩, hend⟩

open Classical in
/-- The purge removes the expired runs and what belongs to them, and leaves every record and
every edge of a surviving run as it was. -/
structure PurgeIsolated (retentionDays now : Int) (repo purged : RunRepository) : Prop where
  runs : ∀ id, purged.runs.get? id =
    if expiredId repo retentionDays now id then none else repo.runs.get? id
  artifacts : ∀ id, purged.runArtifacts.get? id =
    if expiredId repo retentionDays now id then none else repo.runArtifacts.get? id
  decisions : ∀ id, purged.workflowDecisions.get? id =
    if expiredId repo retentionDays now id then none else repo.workflowDecisions.get? id
  mappings : ∀ key, purged.idempotency.get? key =
    (repo.idempotency.get? key).filter
      (fun mapping => !expiredId repo retentionDays now mapping.rebalanceRunId)
  histories : ∀ key, purged.idempotencyHistory.getD key [] =
    (repo.idempotencyHistory.getD key []).filter
      (fun row => !expiredId repo retentionDays now row.rebalanceRunId)
  correlations : ∀ correlationId runId,
    repo.runIdByCorrelation.get? correlationId = some runId →
    expiredId repo retentionDays now runId = false →
    purged.runIdByCorrelation.get? correlationId = some runId
  lineage : ∀ entityId, purged.lineageEdgesByEntity.getD entityId [] =
    (repo.lineageEdgesByEntity.getD entityId []).filter
      (fun edge => decide (AttachedToSurvivor repo retentionDays now edge ∨
        ¬ BelongsToExpired repo retentionDays now edge))

/-! ## The dictionaries that name the run -/

section Frame

variable {repo : RunRepository}

theorem runArtifacts_purgeExpiredRuns (hkeyed : RunsKeyed repo) (retentionDays now : Int)
    (id : String) :
    (purgeExpiredRuns repo retentionDays now).1.runArtifacts.get? id =
      if expiredId repo retentionDays now id then none else repo.runArtifacts.get? id := by
  rcases purgeExpiredRuns_cases repo retentionDays now with ⟨hfresh, hsame⟩ | ⟨hdays, hpurged⟩
  · rw [hsame, expiredId_of_forall hfresh]
    rfl
  · rw [hpurged]
    show (purgeExpiredRunRecords repo _).runArtifacts.get? id = _
    rw [runArtifacts_purgeExpiredRunRecords]
    exact get?_foldl_erase_purged hkeyed hdays now repo.runArtifacts id

theorem workflowDecisions_purgeExpiredRuns (hkeyed : RunsKeyed repo) (retentionDays now : Int)
    (id : String) :
    (purgeExpiredRuns repo retentionDays now).1.workflowDecisions.get? id =
      if expiredId repo retentionDays now id then none else repo.workflowDecisions.get? id := by
  rcases purgeExpiredRuns_cases repo retentionDays now with ⟨hfresh, hsame⟩ | ⟨hdays, hpurged⟩
  · rw [hsame, expiredId_of_forall hfresh]
    rfl
  · rw [hpurged]
    exact get?_foldl_erase_purged hkeyed hdays now repo.workflowDecisions id

theorem idempotency_purgeExpiredRuns (hkeyed : RunsKeyed repo) (retentionDays now : Int)
    (key : Option String × String) :
    (purgeExpiredRuns repo retentionDays now).1.idempotency.get? key =
      (repo.idempotency.get? key).filter
        (fun mapping => !expiredId repo retentionDays now mapping.rebalanceRunId) := by
  rcases purgeExpiredRuns_cases repo retentionDays now with ⟨hfresh, hsame⟩ | ⟨hdays, hpurged⟩
  · rw [hsame]
    cases repo.idempotency.get? key with
    | none => rfl
    | some mapping => rw [Option.filter_some, expiredId_of_forall hfresh,
        Bool.not_false, if_pos rfl]
  · rw [hpurged]
    show (purgeExpiredIdempotencyMappings repo.idempotency _).get? key = _
    rw [purgeExpiredIdempotencyMappings, Dict.get?_filterMapValues]
    simp only [mem_purgedRunIds_iff hkeyed hdays now]
    cases repo.idempotency.get? key with
    | none => rfl
    | some mapping =>
      rw [Option.bind_some, Option.filter_some]
      cases expiredId repo retentionDays now mapping.rebalanceRunId <;> rfl

theorem idempotencyHistory_purgeExpiredRuns (hkeyed : RunsKeyed repo) (retentionDays now : Int)
    (key : Option String × String) :
    (purgeExpiredRuns repo retentionDays now).1.idempotencyHistory.getD key [] =
      (repo.idempotencyHistory.getD key []).filter
        (fun row => !expiredId repo retentionDays now row.rebalanceRunId) := by
  rcases purgeExpiredRuns_cases repo retentionDays now with ⟨hfresh, hsame⟩ | ⟨hdays, hpurged⟩
  · rw [hsame]
    simp only [expiredId_of_forall hfresh, Bool.not_false, List.filter_true]
  · rw [hpurged]
    show (purgeExpiredIdempotencyHistory repo.idempotencyHistory _).getD key [] = _
    rw [purgeExpiredIdempotencyHistory, getD_filterRows]
    refine List.filter_congr fun row _ => ?_
    simp only [mem_purgedRunIds_iff hkeyed hdays now]
    cases expiredId repo retentionDays now row.rebalanceRunId <;> rfl

theorem runIdByCorrelation_purgeExpiredRuns (hkeyed : RunsKeyed repo) {retentionDays now : Int}
    {correlationId runId : String}
    (hget : repo.runIdByCorrelation.get? correlationId = some runId)
    (hfresh : expiredId repo retentionDays now runId = false) :
    (purgeExpiredRuns repo retentionDays now).1.runIdByCorrelation.get? correlationId =
      some runId := by
  rcases purgeExpiredRuns_cases repo retentionDays now with ⟨_, hsame⟩ | ⟨hdays, hpurged⟩
  · rw [hsame]
    exact hget
  · rw [hpurged]
    refine runIdByCorrelation_purgeExpiredRunRecords _ repo ?_ hget
    intro hmem
    have hexpired := (mem_purgedRunIds_iff hkeyed hdays now runId).mp hmem
    rw [hfresh] at hexpired
    cases hexpired

open Classical in
/-- The purge keeps the edges that carry no identifier of an expired run. -/
theorem lineageEdges_purgeExpiredRuns (hkeyed : RunsKeyed repo) (retentionDays now : Int)
    (entityId : String) :
    (purgeExpiredRuns repo retentionDays now).1.lineageEdgesByEntity.getD entityId [] =
      (repo.lineageEdgesByEntity.getD entityId []).filter
        (fun edge => decide (¬ CarriesExpired repo retentionDays now edge)) := by
  rcases purgeExpiredRuns_cases repo retentionDays now with ⟨hfresh, hsame⟩ | ⟨hdays, hpurged⟩
  · rw [hsame, List.filter_eq_self.mpr]
    intro edge _
    rw [decide_eq_true_eq]
    rintro ⟨id, ⟨run, hget, hexpired, _⟩, _⟩
    rw [hfresh _ run hget] at hexpired
    cases hexpired
  · rw [hpurged]
    show (purgeExpiredLineageEdges repo.lineageEdgesByEntity _).getD entityId [] = _
    rw [purgeExpiredLineageEdges, getD_filterRows]
    refine List.filter_congr fun edge _ => ?_
    simp only [mem_lineageEntityIds_iff hkeyed hdays, decide_eq_decide]
    constructor
    · rintro ⟨hsource, htarget⟩ ⟨id, hid, rfl | rfl⟩
      · exact hsource hid
      · exact htarget hid
    · intro hnone
      exact ⟨fun hid => hnone ⟨_, hid, Or.inl rfl⟩, fun hid => hnone ⟨_, hid, Or.inr rfl⟩⟩

end Frame

/-! ## The isolation -/

/-- A purge of a reachable repository is isolated exactly when every edge that carries an identifier of
an expired run belongs to an expired run and is attached to no surviving one. -/
theorem purge_isolated_iff (calls : List RunCall) (retentionDays now : Int) :
    PurgeIsolated retentionDays now (RunRepository.after calls)
        (purgeExpiredRuns (RunRepository.after calls) retentionDays now).1 ↔
      ∀ entityId, ∀ edge ∈ (RunRepository.after calls).lineageEdgesByEntity.getD entityId [],
        CarriesExpired (RunRepository.after calls) retentionDays now edge →
        BelongsToExpired (RunRepository.after calls) retentionDays now edge ∧
          ¬ AttachedToSurvivor (RunRepository.after calls) retentionDays now edge := by
  have hkeyed := runsKeyed_after calls
  have hlineage := lineageEdges_purgeExpiredRuns hkeyed retentionDays now
  constructor
  · intro hisolated entityId edge hmem hcarries
    have hlost : edge ∉ (purgeExpiredRuns (RunRepository.after calls) retentionDays
        now).1.lineageEdgesByEntity.getD entityId [] := by
      rw [hlineage entityId]
      simp only [List.mem_filter, decide_eq_true_eq]
      exact fun hkept => hkept.2 hcarries
    rw [hisolated.lineage entityId] at hlost
    simp only [List.mem_filter, decide_eq_true_eq] at hlost
    have hneither := not_or.mp fun hkept => hlost ⟨hmem, hkept⟩
    exact ⟨not_not.mp hneither.2, hneither.1⟩
  · intro hclean
    refine ⟨runs_purgeExpiredRuns hkeyed retentionDays now,
      runArtifacts_purgeExpiredRuns hkeyed retentionDays now,
      workflowDecisions_purgeExpiredRuns hkeyed retentionDays now,
      idempotency_purgeExpiredRuns hkeyed retentionDays now,
      idempotencyHistory_purgeExpiredRuns hkeyed retentionDays now,
      fun _ _ => runIdByCorrelation_purgeExpiredRuns hkeyed, ?_⟩
    intro entityId
    rw [hlineage entityId]
    refine List.filter_congr fun edge hmem => ?_
    rw [decide_eq_decide]
    constructor
    · exact fun hfree => Or.inr fun hbelongs => hfree hbelongs.carriesExpired
    · intro hkept hcarries
      obtain ⟨hbelongs, hunattached⟩ := hclean entityId edge hmem hcarries
      exact hkept.elim hunattached fun hother => hother hbelongs

/-! ### Two tenants with one key -/

/-- Two tenants submit under the key `key-1`, a month apart. -/
def sharedKeyCalls : List RunCall :=
  submittedRun "tenant-sg" "token-1" "rr_abc12345" "corr-1" 0 ++
    submittedRun "tenant-hk" "token-2" "rr_def67890" "corr-2" (days 31)

/-- The purge of the first tenant's run takes the second tenant's edge from the shared key to
the surviving run along. -/
theorem shared_key_edge_lost :
    ¬ PurgeIsolated 30 (days 32) (RunRepository.after sharedKeyCalls)
      (purgeExpiredRuns (RunRepository.after sharedKeyCalls) 30 (days 32)).1 := by
  intro hisolated
  have hsurvives : ((RunRepository.after sharedKeyCalls).runs.get? "rr_def67890").any
      (fun run => !isExpired 30 (days 32) run && decide (run.rebalanceRunId = "rr_def67890" ∧
        run.tenantId = some "tenant-hk")) = true := by decide +kernel
  obtain ⟨run, hrun, hfresh⟩ := (Option.any_eq_true _ _).mp hsurvives
  rw [Bool.and_eq_true, Bool.not_eq_true', decide_eq_true_eq] at hfresh
  set edge : LineageEdgeRecord :=
    { tenantId := some "tenant-hk"
      sourceEntityId := "key-1"
      edgeType := .idempotencyToRun
      targetEntityId := "rr_def67890"
      createdAt := days 31
      metadataJson := requestHashMetadata "sha256:request" }
  have hmem : edge ∈ (RunRepository.after sharedKeyCalls).lineageEdgesByEntity.getD
      "rr_def67890" [] := by decide +kernel
  have hlost : edge ∉ (purgeExpiredRuns (RunRepository.after sharedKeyCalls) 30
      (days 32)).1.lineageEdgesByEntity.getD "rr_def67890" [] := by decide +kernel
  refine hlost ?_
  rw [hisolated.lineage "rr_def67890"]
  simp only [List.mem_filter, decide_eq_true_eq]
  refine ⟨hmem, Or.inl ⟨run, ?_, hfresh.1, hfresh.2.2.symm, Or.inl (Or.inr ?_)⟩⟩
  · rw [hfresh.2.1]
    exact hrun
  · exact hfresh.2.1.symm

end LotusManage.RebalanceRuns
