import LotusManage.Waves.ReconciliationRuns

/-!
# Creating a wave once

The key of a create request is looked up before the wave is built, again under the lock of the save, and
once more when the save lost to another.  `createPersistedWaveOver` makes the three calls on three
repositories, for other services come in between.
-/

namespace LotusManage.Waves

/-- `create_persisted_wave`, with the repository of each of its calls. -/
def createPersistedWaveOver (sha256Hex : String → String) (looked saved again : WaveRepository)
    (request : CreateRequest) : Except WaveError (WaveRepository × RebalanceWave × Bool) :=
  match getWaveIdempotencyRecord sha256Hex looked request.idempotencyKey request.tenantId with
  | some (wave, requestHash) =>
    if requestHash ≠ some request.requestHash then
      .error (.validation "WAVE_CREATE_CONFLICT" "DPM_WAVE_IDEMPOTENCY_CONFLICT")
    else .ok (looked, wave, true)
  | none =>
    match createdWave sha256Hex request with
    | .error e => .error e
    | .ok wave =>
      match saveWave sha256Hex saved wave (some request.idempotencyKey) (some request.requestHash)
          request.tenantId with
      | .ok repo => .ok (repo, wave, false)
      | .error e =>
        if e ≠ .correlationConflict ∧ e ≠ .idempotencyConflict then
          .error (.validation "WAVE_CREATE_CONFLICT" e.code)
        else
          match getWaveIdempotencyRecord sha256Hex again request.idempotencyKey
              request.tenantId with
          | none => .error (.validation "WAVE_CREATE_CONFLICT" e.code)
          | some (winner, requestHash) =>
            if requestHash ≠ some request.requestHash then
              .error (.validation "WAVE_CREATE_CONFLICT" e.code)
            else .ok (again, winner, true)

section Creates

variable {sha256Hex : String → String} {repo : WaveRepository} {wave : RebalanceWave}
  {idempotencyKey tenantId : String} {requestHash : Option String} {request : CreateRequest}

theorem getWaveIdempotencyRecord_eq_some :
    getWaveIdempotencyRecord sha256Hex repo idempotencyKey tenantId = some (wave, requestHash) ↔
      ∃ waveId, repo.idempotencyIndex.get? (waveIdempotencyMappingKey sha256Hex tenantId
          idempotencyKey) = some (waveId, requestHash) ∧
        repo.waves.get? waveId = some wave ∧ wave.tenantId = some tenantId := by
  unfold getWaveIdempotencyRecord
  simp only [← getWave_eq_some]
  split
  · rename_i hnone
    simp [hnone]
  · rename_i hsome
    simp [hsome, and_comm]

theorem record_run (past rest : List ServiceCall)
    (h : getWaveIdempotencyRecord sha256Hex (WaveService.after sha256Hex past).repository
      idempotencyKey tenantId = some (wave, requestHash)) :
    ∃ current, getWaveIdempotencyRecord sha256Hex
        (WaveService.after sha256Hex (past ++ rest)).repository idempotencyKey tenantId =
          some (current, requestHash) ∧ (current = wave ∨ Evolved wave current) := by
  obtain ⟨waveId, hkey, hget, htenant⟩ := getWaveIdempotencyRecord_eq_some.mp h
  obtain ⟨current, hcurrent, hlater⟩ := stored_run past rest hget
  have hindex : (WaveService.after sha256Hex past).repository.idempotencyIndex.Extends
      (WaveService.after sha256Hex (past ++ rest)).repository.idempotencyIndex := by
    rw [WaveService.after, WaveService.after, Runs.run_append]
    refine Runs.run_keeps
      (fun s : WaveService => Dict.Extends _ s.execution.repository.idempotencyIndex) ?_ rest
      (Dict.Extends.refl _)
    intro s call hkept
    rcases step_cases sha256Hex s call with ⟨hsame, _⟩ | ⟨write, _, hexec, _⟩
    · rw [hsame]
      exact hkept
    · rw [hexec]
      exact hkept.trans (waves_step sha256Hex s.execution write).index
  refine ⟨current, getWaveIdempotencyRecord_eq_some.mpr
    ⟨waveId, hindex _ _ hkey, hcurrent, ?_⟩, hlater⟩
  rcases hlater with rfl | hevolved
  · exact htenant
  · exact hevolved.tenantId.trans htenant

theorem createPersistedWave_eq : createPersistedWave sha256Hex repo request =
    createPersistedWaveOver sha256Hex repo repo repo request := by
  unfold createPersistedWave createPersistedWaveOver
  cases getWaveIdempotencyRecord sha256Hex repo request.idempotencyKey request.tenantId with
  | some => rfl
  | none =>
    dsimp only
    unfold createdWave
    cases buildPreviewWave request with
    | error => rfl
    | ok preview =>
      dsimp only
      cases promotePreviewToCreatedWave sha256Hex preview _ _ _ _ _ with
      | error => rfl
      | ok wave =>
        dsimp only
        cases saveWave sha256Hex repo wave _ _ _ with
        | ok => rfl
        | error =>
          dsimp only
          split <;> rfl

theorem saveWave_of_record {used : RebalanceWave} (hfree : repo.waves.get? wave.waveId = none)
    (h : getWaveIdempotencyRecord sha256Hex repo idempotencyKey tenantId =
      some (used, requestHash)) (hash : Option String) :
    saveWave sha256Hex repo wave (some idempotencyKey) hash tenantId =
      .error .idempotencyConflict := by
  obtain ⟨waveId, hkey, hget, _⟩ := getWaveIdempotencyRecord_eq_some.mp h
  refine if_pos ?_
  rw [Option.map_some, idempotencyConflicts, hkey]
  refine decide_eq_true fun heq => ?_
  cases heq
  rw [hfree] at hget
  cases hget

end Creates

/-- Whatever the other services do between its three calls, a create ends as one that nothing
interrupts ends at one of the three moments, unless the wave id that it drew is taken. -/
theorem creates_linearize (sha256Hex : String → String) (past middle late : List ServiceCall)
    (request : CreateRequest) :
    let looked := (WaveService.after sha256Hex past).repository
    let saved := (WaveService.after sha256Hex (past ++ middle)).repository
    let again := (WaveService.after sha256Hex (past ++ middle ++ late)).repository
    (∃ repo ∈ [looked, saved, again], createPersistedWaveOver sha256Hex looked saved again request =
        createPersistedWave sha256Hex repo request) ∨
      ∃ wave, createdWave sha256Hex request = .ok wave ∧
        saved.waves.contains wave.waveId = true := by
  intro looked saved again
  simp only [createPersistedWave_eq]
  cases hlooked : getWaveIdempotencyRecord sha256Hex looked request.idempotencyKey
      request.tenantId with
  | some existing =>
    refine Or.inl ⟨looked, by simp, ?_⟩
    rw [createPersistedWaveOver, createPersistedWaveOver, hlooked]
  | none =>
    cases hwave : createdWave sha256Hex request with
    | error e =>
      refine Or.inl ⟨looked, by simp, ?_⟩
      rw [createPersistedWaveOver, createPersistedWaveOver, hlooked, hwave]
    | ok wave =>
      by_cases htaken : saved.waves.contains wave.waveId = true
      · exact Or.inr ⟨wave, rfl, htaken⟩
      left
      cases hsaved : getWaveIdempotencyRecord sha256Hex saved request.idempotencyKey
          request.tenantId with
      | some existing =>
        -- another create was first, and its wave is still there
        obtain ⟨current, hagain, _⟩ := record_run (past ++ middle) late hsaved
        have hfree : saved.waves.get? wave.waveId = none := by
          rwa [Dict.get?_eq_none_iff, ← Dict.contains_eq_true_iff]
        refine ⟨again, by simp, ?_⟩
        unfold createPersistedWaveOver
        rw [hlooked, hwave]
        dsimp only
        rw [saveWave_of_record hfree hsaved, hagain]
        rfl
      | none =>
        cases hsave : saveWave sha256Hex saved wave (some request.idempotencyKey)
            (some request.requestHash) request.tenantId with
        | ok repo =>
          refine ⟨saved, by simp, ?_⟩
          simp only [createPersistedWaveOver, hlooked, hsaved, hwave, hsave]
        | error e =>
          -- a key that came with another wave is a replay of that wave, anything else is refused
          by_cases hreplay : createPersistedWaveOver sha256Hex looked saved again request =
              createPersistedWaveOver sha256Hex saved saved saved request
          · exact ⟨saved, by simp, hreplay⟩
          refine ⟨again, by simp, ?_⟩
          simp only [createPersistedWaveOver, hlooked, hsaved, hwave, hsave, ite_self] at hreplay ⊢
          split at hreplay
          · exact absurd rfl hreplay
          rename_i hconflict
          split at hreplay
          · exact absurd rfl hreplay
          rename_i winner hash hagain
          split at hreplay
          · exact absurd rfl hreplay
          rename_i hhash
          simp only [hagain, if_neg hconflict, if_neg hhash]

end LotusManage.Waves
