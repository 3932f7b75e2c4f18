import LotusManage.Engine.RunFacts

/-!
# The status of a run and its gate

The status of a result merges the status of the target stage with that of the
execution stage; its gate is computed again, from the rules and the status.  The
two agree on what is blocked, and on what the rules send to review.

The gate looks at the status for `BLOCKED` only, so it does not see a review that
the target stage asked for: `gate_agrees_iff` says that this is the one case in
which the two disagree.
-/

namespace LotusManage.Engine

/-! ## Rules and routes -/

variable {after : SimulatedState}

theorem deriveStatusFromRules_eq_blocked_iff (rules : List RuleResult) :
    deriveStatusFromRules rules = .blocked ↔ 0 < failCount rules .hard := by
  rw [failCount, List.countP_pos_iff, deriveStatusFromRules]
  split
  · rename_i hhard
    simpa using hhard
  · rename_i hhard
    split <;> simpa using hhard

theorem deriveStatusFromRules_eq_ready_iff (rules : List RuleResult) :
    deriveStatusFromRules rules = .ready ↔
      failCount rules .hard = 0 ∧ failCount rules .soft = 0 := by
  rw [failCount, failCount, List.countP_eq_zero, List.countP_eq_zero, deriveStatusFromRules]
  split
  · rename_i hhard
    obtain ⟨rule, hmem, hfail⟩ := List.any_eq_true.mp hhard
    refine iff_of_false nofun ?_
    exact fun h => h.1 rule hmem hfail
  · rename_i hhard
    split
    · rename_i hsoft
      obtain ⟨rule, hmem, hfail⟩ := List.any_eq_true.mp hsoft
      refine iff_of_false nofun ?_
      exact fun h => h.2 rule hmem hfail
    · rename_i hsoft
      exact iff_of_true rfl ⟨by simpa using hhard, by simpa using hsoft⟩

theorem selectGateRoute_eq_blocked_iff (context : GateRouteContext) :
    (selectGateRoute context).1 = .blocked ↔
      context.status = .blocked ∨ 0 < context.hardFailCount := by
  unfold selectGateRoute
  split
  · rename_i hblocked
    exact iff_of_true rfl hblocked
  · rename_i hopen
    refine iff_of_false ?_ hopen
    split
    · exact nofun
    · split
      · exact nofun
      · split
        · exact nofun
        · split <;> exact nofun

/-- A route past the review gates. -/
def GateName.PastReview (gate : GateName) : Prop :=
  gate = .executionReady ∨ gate = .mandateApprovalRequired

theorem pastReview_selectGateRoute_iff {context : GateRouteContext} (hhigh : context.newHigh = 0)
    (hmedium : context.newMedium = 0) :
    (selectGateRoute context).1.PastReview ↔
      context.status ≠ .blocked ∧ context.hardFailCount = 0 ∧ context.softFailCount = 0 := by
  unfold selectGateRoute GateName.PastReview
  rw [hhigh, hmedium]
  split
  · rename_i hblocked
    refine iff_of_false (by simp) ?_
    rintro ⟨hstatus, hhard, _⟩
    rcases hblocked with hblocked | hblocked
    · exact hstatus hblocked
    · omega
  · rename_i hopen
    rw [not_or] at hopen
    rw [if_neg (lt_irrefl 0)]
    split
    · rename_i hsoft
      refine iff_of_false (by simp) ?_
      rintro ⟨_, _, hzero⟩
      omega
    · rename_i hsoft
      refine iff_of_true ?_ ⟨hopen.1, by omega, by omega⟩
      split
      · exact Or.inl rfl
      · split
        · exact Or.inr rfl
        · exact Or.inl rfl

/-! ## The execution stage -/

theorem status_simulateIntents (portfolio : PortfolioSnapshot) (marketData : MarketDataSnapshot)
    (shelf : List ShelfEntry) (intents : List OrderIntent) (options : EngineOptions)
    (totalValBefore : Decimal) (diagnostics : DiagnosticsData) :
    let execution := simulateIntents portfolio marketData shelf intents options totalValBefore
      diagnostics
    execution.status = .blocked ∨ execution.status = deriveStatusFromRules execution.rules := by
  unfold simulateIntents simulationResultWithReconciliation
  dsimp only
  split
  · split
    · exact Or.inl rfl
    · exact Or.inr rfl
  · exact Or.inl rfl

variable {backend : SolverBackend} {input : RunInput}

variable {run : ExecutedRun backend input}

theorem ExecutedRun.status_execution (hafter : run.execution.state = some after) :
    run.execution.status = .blocked ∨
      run.execution.status = deriveStatusFromRules run.execution.rules := by
  rcases generateFxAndSimulate_cases (run.fx_not_blocked hafter) input.shelf input.totalValue with
    ⟨_, breach, diagnostics', hexec⟩ | ⟨diagnostics', hexec, _⟩
  · exact Or.inl (congrArg ExecutionSimulation.status hexec)
  · have hexecution : run.execution = simulateIntents input.portfolio input.marketData input.shelf
      run.ordered input.options input.totalValue diagnostics' := hexec
    rw [hexecution]
    exact status_simulateIntents _ _ _ _ _ _ _

/-! ## Whole runs -/

/-- The gate of a result agrees with its status: it is the blocked gate exactly when
the run is blocked, and it lets a run past review only when the run is ready. -/
def GateAgrees (result : RebalanceResult) : Prop :=
  ∃ decision, result.gateDecision = some decision ∧
    (decision.gate = .blocked ↔ result.status = .blocked) ∧
    (decision.gate.PastReview → result.status = .ready)

/-- The run gets through both blocking checks, the target stage asks for a review,
and the execution stage finds nothing to review. -/
def ReviewFromTargetsOnly (backend : SolverBackend) (input : RunInput) : Prop :=
  ∃ run : ExecutedRun backend input,
    run.stage.status = .pendingReview ∧ run.execution.status = .ready

theorem ExecutedRun.gateAgrees (hafter : run.execution.state = some after)
    (hgates : input.options.enableWorkflowGates = true)
    (hreview : ¬ (run.stage.status = .pendingReview ∧ run.execution.status = .ready)) :
    GateAgrees (run.result after) := by
  have hstatus : (run.result after).status = run.execution.status := if_neg hreview
  refine ⟨evaluateGateDecision run.execution.status run.execution.rules []
    run.execution.diagnostics input.options false, ?_, ?_, ?_⟩
  · change input.gateDecision (resolveFinalGateStatus run.stage.status run.execution.status) _ _ = _
    rw [resolveFinalGateStatus, if_neg hreview, RunInput.gateDecision, if_pos hgates]
  · rw [hstatus]
    refine (selectGateRoute_eq_blocked_iff _).trans ?_
    change run.execution.status = .blocked ∨ 0 < failCount run.execution.rules .hard ↔ _
    refine ⟨?_, Or.inl⟩
    rintro (hblocked | hhard)
    · exact hblocked
    · rcases ExecutedRun.status_execution hafter with hblocked | hderived
      · exact hblocked
      · rw [hderived]
        exact (deriveStatusFromRules_eq_blocked_iff _).mpr hhard
  · rw [hstatus]
    intro hpast
    obtain ⟨hopen, hhard, hsoft⟩ := (pastReview_selectGateRoute_iff rfl rfl).mp hpast
    rcases ExecutedRun.status_execution hafter with hblocked | hderived
    · exact absurd hblocked hopen
    · rw [hderived]
      exact (deriveStatusFromRules_eq_ready_iff _).mpr ⟨hhard, hsoft⟩

theorem ExecutedRun.not_gateAgrees (hafter : run.execution.state = some after)
    (hgates : input.options.enableWorkflowGates = true)
    (htargets : run.stage.status = .pendingReview) (hready : run.execution.status = .ready) :
    ¬ GateAgrees (run.result after) := by
  have hresolved : resolveFinalGateStatus run.stage.status run.execution.status =
      .pendingReview := if_pos ⟨htargets, hready⟩
  rintro ⟨decision, hdecision, _, hpast⟩
  change input.gateDecision (resolveFinalGateStatus run.stage.status run.execution.status) _ _ =
    some decision at hdecision
  change _ → resolveFinalGateStatus run.stage.status run.execution.status = .ready at hpast
  rw [hresolved] at hdecision hpast
  rw [RunInput.gateDecision, if_pos hgates] at hdecision
  cases hdecision
  refine RunStatus.noConfusion (hpast ((pastReview_selectGateRoute_iff rfl rfl).mpr ?_))
  rcases ExecutedRun.status_execution hafter with hblocked | hderived
  · rw [hready] at hblocked
    cases hblocked
  · refine ⟨nofun, (deriveStatusFromRules_eq_ready_iff _).mp ?_⟩
    rw [← hderived]
    exact hready

theorem gateAgrees_makeBlockedResult (hgates : input.options.enableWorkflowGates = true)
    (trace : List TargetInstrument) (diagnostics : DiagnosticsData) :
    GateAgrees (input.makeBlockedResult trace diagnostics) := by
  refine ⟨_, if_pos hgates, iff_of_true ?_ rfl, ?_⟩
  · exact (selectGateRoute_eq_blocked_iff _).mpr (Or.inl rfl)
  · intro hpast
    exact absurd rfl ((pastReview_selectGateRoute_iff rfl rfl).mp hpast).1

/-- With gates on, the gate of a result agrees with its status if and only if the
run is not sent to review by its target stage alone. -/
theorem gate_agrees_iff (backend : SolverBackend) (input : RunInput) (result : RebalanceResult)
    (hgates : input.options.enableWorkflowGates = true)
    (h : runSimulation backend input = .ok result) :
    GateAgrees result ↔ ¬ ReviewFromTargetsOnly backend input := by
  constructor
  · rintro hagrees ⟨run, htargets, hready⟩
    rw [runSimulation_executed run] at h
    split at h
    · cases h
    · rename_i after hafter
      cases h
      exact ExecutedRun.not_gateAgrees hafter hgates htargets hready hagrees
  · intro hreview
    rcases runSimulation_cases h with ⟨trace, diagnostics, rfl⟩ | ⟨run, after, hafter, rfl⟩
    · exact gateAgrees_makeBlockedResult hgates trace diagnostics
    · exact ExecutedRun.gateAgrees hafter hgates fun hboth => hreview ⟨run, hboth⟩

/-- Cash, and a model that gives two instruments the same weight. -/
def evenModelInput (weight : Decimal) : RunInput :=
  { portfolio :=
      { portfolioId := "pf_even"
        baseCurrency := "USD"
        cashBalances := [⟨"USD", 1000, none⟩] }
    marketData := { prices := [⟨"AAA", 100, "USD"⟩, ⟨"BBB", 100, "USD"⟩] }
    model := ⟨[⟨"AAA", weight⟩, ⟨"BBB", weight⟩]⟩
    shelf := [{ instrumentId := "AAA", status := .approved },
      { instrumentId := "BBB", status := .approved }]
    options := {} }

/-- Weights that add up to one are not reviewed. -/
theorem gate_agrees_evenModel :
    ∃ result, runSimulation .notInstalled (evenModelInput (1 / 2)) = .ok result ∧
      GateAgrees result ∧ ¬ ReviewFromTargetsOnly .notInstalled (evenModelInput (1 / 2)) := by
  obtain ⟨result, hresult, htest⟩ := exists_result_of_evaluates .notInstalled
    (evenModelInput (1 / 2))
    (fun result => decide (result.status = .ready ∧
      result.gateDecision.map (·.gate) = some .executionReady)) (by decide +kernel)
  obtain ⟨hstatus, hgate⟩ := of_decide_eq_true htest
  obtain ⟨decision, hdecision, hroute⟩ := Option.map_eq_some_iff.mp hgate
  have hagrees : GateAgrees result := by
    refine ⟨decision, hdecision, ?_, fun _ => hstatus⟩
    rw [hroute, hstatus]
    exact iff_of_false nofun nofun
  exact ⟨result, hresult, hagrees, (gate_agrees_iff _ _ result rfl hresult).mp hagrees⟩

/-- Weights that add up to more than one are scaled and sent to review, and the gate
lets the run execute. -/
theorem overweight_model_gate_disagrees :
    ∃ result, runSimulation .notInstalled (evenModelInput (8 / 10)) = .ok result ∧
      result.status = .pendingReview ∧
      result.gateDecision.map (fun decision => (decision.gate, decision.recommendedNextStep)) =
        some (.executionReady, .execute) ∧
      ¬ GateAgrees result := by
  obtain ⟨result, hresult, htest⟩ := exists_result_of_evaluates .notInstalled
    (evenModelInput (8 / 10))
    (fun result => decide (result.status = .pendingReview ∧
      result.gateDecision.map (fun decision => (decision.gate, decision.recommendedNextStep)) =
        some (.executionReady, .execute))) (by decide +kernel)
  obtain ⟨hstatus, hgate⟩ := of_decide_eq_true htest
  refine ⟨result, hresult, hstatus, hgate, ?_⟩
  rintro ⟨decision, hdecision, _, hpast⟩
  rw [hdecision] at hgate
  have hready := hpast (Or.inl (Prod.mk.inj (Option.some.inj hgate)).1)
  rw [hstatus] at hready
  cases hready

end LotusManage.Engine
