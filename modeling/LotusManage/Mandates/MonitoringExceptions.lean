import LotusManage.Mandates.HealthSnapshots

/-!
# Monitoring exceptions

`monitoring_exceptions_from_health`: one exception for each top reason, then one for each budget
assessment that is not ready and that no top reason has published.

The exceptions of the tax and turnover dimension share a dimension, and their identities are told
apart by what they are about.

* `exceptions_of_snapshot`: the exceptions of a calculated snapshot, from the scores behind its top
  reasons.
* `self_consistent_iff`: a snapshot with its exceptions says one thing throughout exactly when the
  drift is not one that rounding hides.
-/

namespace LotusManage.Mandates

open Waves (derivedIdentity)

/-! ## The exceptions -/

/-- `KeyError` of a reason whose dimension has no score. -/
inductive MonitoringError where
  | unscoredDimension (dimension : MandateHealthDimension)
  deriving DecidableEq

/-- `matching_assessment`: the first assessment with the code of the reason. -/
def matchingAssessment (score : MandateDimensionScore) (code : ReasonCode) :
    Option MandateBudgetAssessment :=
  score.budgetAssessments.find? (fun assessment => assessment.reasonCode = code)

/-- What the identity of an exception for a control ends with. -/
def controlSuffix (control : BudgetControl) : List String :=
  if control = .taxBudget then ["TAX_BUDGET"] else []

/-- What the identity of an exception for a reason ends with. -/
def reasonSuffix (dimension : MandateHealthDimension)
    (matching : Option MandateBudgetAssessment) : List String :=
  if dimension = .taxTurnover then
    match matching with
    | none => ["TAX_LOTS"]
    | some assessment => controlSuffix assessment.control
  else []

/-- The components that identify an exception. -/
def exceptionIdentity (snapshot : MandateHealthSnapshot) (tenantId : String)
    (dimension : MandateHealthDimension) (suffix : List String) : List String :=
  [tenantId, snapshot.asOfDate.isoformat, snapshot.portfolioId, dimension.value] ++ suffix

section Exceptions

variable (sha256Hex : String → String) (snapshot : MandateHealthSnapshot)
  (sourceLineage : List SourceProductLineage) (tenantId : String)

/-- The exception of a top reason with the score of its dimension. -/
def reasonException (reason : MandateHealthReason) (score : MandateDimensionScore) :
    MonitoringException :=
  let matching := matchingAssessment score reason.reasonCode
  { exceptionId := derivedIdentity sha256Hex "me"
      (exceptionIdentity snapshot tenantId reason.dimension
        (reasonSuffix reason.dimension matching))
    mandateId := snapshot.mandateId
    portfolioId := snapshot.portfolioId
    detectedAt := snapshot.calculatedAt
    asOfDate := snapshot.asOfDate
    dimension := reason.dimension
    severity := reason.severity
    reasonCode := reason.reasonCode
    recommendedAction := reason.recommendedAction
    measuredValue := score.measuredValue
    thresholdValue := score.thresholdValue
    budgetAssessment := matching
    sourceLineage := sourceLineage }

/-- The exception of an assessment that no top reason has published. -/
def assessmentException (dimension : MandateHealthDimension)
    (assessment : MandateBudgetAssessment) : MonitoringException :=
  { exceptionId := derivedIdentity sha256Hex "me"
      (exceptionIdentity snapshot tenantId dimension (controlSuffix assessment.control))
    mandateId := snapshot.mandateId
    portfolioId := snapshot.portfolioId
    detectedAt := snapshot.calculatedAt
    asOfDate := snapshot.asOfDate
    dimension := dimension
    severity := severityOf assessment.state
    reasonCode := assessment.reasonCode
    recommendedAction := recommendedActionForDimension dimension assessment.state
      assessment.reasonCode
    measuredValue := assessment.measuredValue.map .decimal
    thresholdValue := assessment.thresholdValue.map .decimal
    budgetAssessment := some assessment
    sourceLineage := sourceLineage }

/-- `published` -/
def publishedReasons : List (MandateHealthDimension × ReasonCode) :=
  snapshot.topReasons.map (fun reason => (reason.dimension, reason.reasonCode))

/-- The assessments of a score that are not ready and not published. -/
def unpublishedAssessments (score : MandateDimensionScore) : List MandateBudgetAssessment :=
  score.budgetAssessments.filter (fun assessment => assessment.state ≠ .ready ∧
    (score.dimension, assessment.reasonCode) ∉ publishedReasons snapshot)

/-- `monitoring_exceptions_from_health` -/
def monitoringExceptionsFromHealth : Except MonitoringError (List MonitoringException) := do
  let scoreByDimension :=
    Dict.ofEntries (snapshot.dimensionScores.map (fun score => (score.dimension, score)))
  let raised ← snapshot.topReasons.mapM (fun reason =>
    match scoreByDimension.get? reason.dimension with
    | none => .error (.unscoredDimension reason.dimension)
    | some score =>
      .ok (reasonException sha256Hex snapshot sourceLineage tenantId reason score))
  return raised ++ snapshot.dimensionScores.flatMap (fun score =>
    (unpublishedAssessments snapshot score).map
      (assessmentException sha256Hex snapshot sourceLineage tenantId score.dimension))

end Exceptions

/-! ## Consistency -/

/-- The scores, the state, the reasons, the action and the exceptions of a snapshot agree. -/
structure SelfConsistent (sha256Hex : String → String) (snapshot : MandateHealthSnapshot)
    (sourceLineage : List SourceProductLineage) (tenantId : String) : Prop where
  full_iff_ready : ∀ score ∈ snapshot.dimensionScores, score.score = 100 ↔ score.state = .ready
  reasons_iff : snapshot.topReasons = [] ↔ snapshot.healthState = .ready
  blocked_reported : ∀ score ∈ snapshot.dimensionScores, score.state = .blocked →
    ∃ reason ∈ snapshot.topReasons, reason.dimension = score.dimension
  gap_reported : snapshot.recommendedAction = .fixSourceData →
    (∃ score ∈ snapshot.dimensionScores, score.reasonCode.isSourceGap = true) →
    ∃ reason ∈ snapshot.topReasons, reason.reasonCode.isSourceGap = true
  exceptions_raised : ∃ exceptions,
    monitoringExceptionsFromHealth sha256Hex snapshot sourceLineage tenantId = .ok exceptions ∧
    (exceptions.map (·.exceptionId)).Nodup ∧
    (∀ reason ∈ snapshot.topReasons, ∃! e, e ∈ exceptions ∧
      e.dimension = reason.dimension ∧ e.reasonCode = reason.reasonCode) ∧
    ∀ score ∈ snapshot.dimensionScores, ∀ assessment ∈ score.budgetAssessments,
      assessment.state ≠ .ready →
        ∃! e, e ∈ exceptions ∧ e.budgetAssessment = some assessment

/-! ## The scores behind the exceptions -/

theorem exists_map_eq {α β : Type} {f : α → β} {p : α → Prop} : ∀ {values : List β},
    (∀ value ∈ values, ∃ x, p x ∧ f x = value) →
    ∃ xs : List α, xs.map f = values ∧ ∀ x ∈ xs, p x
  | [], _ => ⟨[], rfl, nofun⟩
  | value :: values, h => by
    obtain ⟨x, hx, hvalue⟩ := h value List.mem_cons_self
    obtain ⟨xs, hxs, hall⟩ :=
      exists_map_eq (fun v hv => h v (List.mem_cons_of_mem value hv))
    refine ⟨x :: xs, by rw [List.map_cons, hvalue, hxs], ?_⟩
    exact List.forall_mem_cons.mpr ⟨hx, hall⟩

/-- A snapshot's top reasons are those of scores of its own, one for each dimension. -/
structure ReasonedBy (snapshot : MandateHealthSnapshot) (scores : List MandateDimensionScore) :
    Prop where
  dimensions_nodup : (snapshot.dimensionScores.map (·.dimension)).Nodup
  reasons_eq : scores.map reasonFromScore = snapshot.topReasons
  scores_subset : ∀ score ∈ scores, score ∈ snapshot.dimensionScores
  reasoned_nodup : (scores.map (·.dimension)).Nodup

theorem mapM_map_ok {α β γ ε : Type} {f : β → Except ε γ} {h : α → β} {g : α → γ} :
    ∀ {xs : List α}, (∀ x ∈ xs, f (h x) = .ok (g x)) → (xs.map h).mapM f = .ok (xs.map g)
  | [], _ => rfl
  | x :: xs, hok => by
    rw [List.map_cons, List.mapM_cons, hok x List.mem_cons_self,
      mapM_map_ok (fun y hy => hok y (List.mem_cons_of_mem x hy))]
    rfl

variable {sha256Hex : String → String} {snapshot : MandateHealthSnapshot}
  {sourceLineage : List SourceProductLineage} {tenantId : String}
  {scores : List MandateDimensionScore}

variable {score : MandateDimensionScore} {code : ReasonCode}
  {a b assessment : MandateBudgetAssessment}

theorem ReasonedBy.eq_of_dimension (h : ReasonedBy snapshot scores)
    {s t : MandateDimensionScore} (hs : s ∈ snapshot.dimensionScores)
    (ht : t ∈ snapshot.dimensionScores) (heq : s.dimension = t.dimension) : s = t :=
  List.inj_on_of_nodup_map h.dimensions_nodup hs ht heq

theorem ReasonedBy.score_of_dimension (h : ReasonedBy snapshot scores)
    (hmem : score ∈ snapshot.dimensionScores) :
    (Dict.ofEntries (snapshot.dimensionScores.map (fun s => (s.dimension, s)))).get?
      score.dimension = some score := by
  refine Dict.get?_ofEntries_of_forall ?_ ?_
  · rw [List.map_map]
    exact List.mem_map.mpr ⟨score, hmem, rfl⟩
  · intro entry hentry heq
    obtain ⟨other, hother, rfl⟩ := List.mem_map.mp hentry
    exact h.eq_of_dimension hother hmem heq

variable (sha256Hex sourceLineage tenantId) in
/-- The exceptions of the reasons, then those of the assessments. -/
def exceptionsOf (snapshot : MandateHealthSnapshot) (scores : List MandateDimensionScore) :
    List MonitoringException :=
  scores.map (fun score =>
    reasonException sha256Hex snapshot sourceLineage tenantId (reasonFromScore score) score) ++
  snapshot.dimensionScores.flatMap (fun score =>
    (unpublishedAssessments snapshot score).map
      (assessmentException sha256Hex snapshot sourceLineage tenantId score.dimension))

theorem monitoringExceptions_eq (h : ReasonedBy snapshot scores) :
    monitoringExceptionsFromHealth sha256Hex snapshot sourceLineage tenantId =
      .ok (exceptionsOf sha256Hex sourceLineage tenantId snapshot scores) := by
  unfold monitoringExceptionsFromHealth
  dsimp only
  rw [← h.reasons_eq, mapM_map_ok (g := fun score =>
    reasonException sha256Hex snapshot sourceLineage tenantId (reasonFromScore score) score)]
  · rfl
  · intro score hmem
    have hscore : (reasonFromScore score).dimension = score.dimension := rfl
    rw [hscore, h.score_of_dimension (h.scores_subset score hmem)]

theorem mem_exceptionsOf {e : MonitoringException} :
    e ∈ exceptionsOf sha256Hex sourceLineage tenantId snapshot scores ↔
      (∃ score ∈ scores, reasonException sha256Hex snapshot sourceLineage tenantId
        (reasonFromScore score) score = e) ∨
      ∃ score ∈ snapshot.dimensionScores, ∃ assessment ∈ score.budgetAssessments,
        assessment.state ≠ .ready ∧
        (score.dimension, assessment.reasonCode) ∉ publishedReasons snapshot ∧
        assessmentException sha256Hex snapshot sourceLineage tenantId score.dimension
          assessment = e := by
  simp only [exceptionsOf, unpublishedAssessments, List.mem_append, List.mem_map, List.mem_flatMap,
    List.mem_filter, decide_eq_true_eq, and_assoc]

theorem ReasonedBy.mem_published (h : ReasonedBy snapshot scores)
    {dimension : MandateHealthDimension} :
    (dimension, code) ∈ publishedReasons snapshot ↔
      ∃ score ∈ scores, score.dimension = dimension ∧ score.reasonCode = code := by
  unfold publishedReasons
  rw [← h.reasons_eq, List.map_map]
  simp only [List.mem_map, Function.comp_apply, Prod.mk.injEq]
  rfl

/-- The assessments of a snapshot: those of one dimension, with a control and a code each. -/
structure AssessedBy (snapshot : MandateHealthSnapshot) (tax turnover : MandateBudgetAssessment) :
    Prop where
  tax_assesses : Assesses .taxBudget tax
  turnover_assesses : Assesses .turnoverBudget turnover
  assessments_eq : ∀ score ∈ snapshot.dimensionScores, score.dimension = .taxTurnover →
    score.budgetAssessments = [tax, turnover]
  assessments_of : ∀ score ∈ snapshot.dimensionScores, score.budgetAssessments ≠ [] →
    score.dimension = .taxTurnover

variable {tax turnover : MandateBudgetAssessment}

theorem AssessedBy.eq_of_control (h : AssessedBy snapshot tax turnover) (ha : a ∈ [tax, turnover])
    (hb : b ∈ [tax, turnover]) (heq : a.control = b.control) : a = b := by
  simp only [List.mem_cons, List.not_mem_nil, or_false] at ha hb
  rcases ha with rfl | rfl <;> rcases hb with rfl | rfl
  · rfl
  · rw [h.tax_assesses.control_eq, h.turnover_assesses.control_eq] at heq
    cases heq
  · rw [h.tax_assesses.control_eq, h.turnover_assesses.control_eq] at heq
    cases heq
  · rfl

theorem AssessedBy.eq_of_code (h : AssessedBy snapshot tax turnover) (ha : a ∈ [tax, turnover])
    (hb : b ∈ [tax, turnover]) (heq : a.reasonCode = b.reasonCode) : a = b := by
  have hcode : ∀ c ∈ [tax, turnover], c.reasonCode.budgetControl = some c.control := by
    intro c hc
    simp only [List.mem_cons, List.not_mem_nil, or_false] at hc
    rcases hc with rfl | rfl
    · rw [h.tax_assesses.code_control, h.tax_assesses.control_eq]
    · rw [h.turnover_assesses.code_control, h.turnover_assesses.control_eq]
  refine h.eq_of_control ha hb (Option.some.inj ?_)
  rw [← hcode a ha, ← hcode b hb, heq]

/-! ## One exception for each finding -/

theorem exception_of_reason (h : ReasonedBy snapshot scores) {reason : MandateHealthReason}
    (hreason : reason ∈ snapshot.topReasons) :
    ∃! e, e ∈ exceptionsOf sha256Hex sourceLineage tenantId snapshot scores ∧
      e.dimension = reason.dimension ∧ e.reasonCode = reason.reasonCode := by
  rw [← h.reasons_eq] at hreason
  obtain ⟨score, hscore, rfl⟩ := List.mem_map.mp hreason
  refine ⟨reasonException sha256Hex snapshot sourceLineage tenantId (reasonFromScore score) score,
    ⟨mem_exceptionsOf.mpr (Or.inl ⟨score, hscore, rfl⟩), rfl, rfl⟩, ?_⟩
  rintro e ⟨hmem, hdimension, hcode⟩
  obtain ⟨other, hother, rfl⟩ | ⟨other, _, assessment, _, _, hunpublished, rfl⟩ :=
    mem_exceptionsOf.mp hmem
  · rw [h.eq_of_dimension (h.scores_subset other hother) (h.scores_subset score hscore) hdimension]
  · exact absurd (h.mem_published.mpr ⟨score, hscore, hdimension.symm, hcode.symm⟩) hunpublished

theorem matchingAssessment_eq (hassessed : AssessedBy snapshot tax turnover)
    (hscore : score ∈ snapshot.dimensionScores) (ha : assessment ∈ score.budgetAssessments) :
    matchingAssessment score assessment.reasonCode = some assessment := by
  have htax := hassessed.assessments_of score hscore (List.ne_nil_of_mem ha)
  have hboth := hassessed.assessments_eq score hscore htax
  unfold matchingAssessment
  cases hfind : score.budgetAssessments.find?
      (fun other => decide (other.reasonCode = assessment.reasonCode)) with
  | none => exact absurd (decide_eq_true rfl) (List.find?_eq_none.mp hfind assessment ha)
  | some other =>
    have hcode : other.reasonCode = assessment.reasonCode := by
      simpa using List.find?_some hfind
    have hother := List.mem_of_find?_eq_some hfind
    rw [hboth] at hother ha
    rw [hassessed.eq_of_code hother ha hcode]

theorem of_matchingAssessment (h : matchingAssessment score code = some assessment) :
    assessment ∈ score.budgetAssessments ∧ assessment.reasonCode = code :=
  ⟨List.mem_of_find?_eq_some h, by simpa using List.find?_some h⟩

theorem exception_of_assessment (h : ReasonedBy snapshot scores)
    (hassessed : AssessedBy snapshot tax turnover) (hscore : score ∈ snapshot.dimensionScores)
    (ha : assessment ∈ score.budgetAssessments) (hstate : assessment.state ≠ .ready) :
    ∃! e, e ∈ exceptionsOf sha256Hex sourceLineage tenantId snapshot scores ∧
      e.budgetAssessment = some assessment := by
  have hsame : ∀ other ∈ snapshot.dimensionScores, assessment ∈ other.budgetAssessments →
      other = score := by
    intro other hother hmem
    refine h.eq_of_dimension hother hscore ?_
    rw [hassessed.assessments_of other hother (List.ne_nil_of_mem hmem),
      hassessed.assessments_of score hscore (List.ne_nil_of_mem ha)]
  by_cases hpublished : (score.dimension, assessment.reasonCode) ∈ publishedReasons snapshot
  · obtain ⟨reasoned, hreasoned, hdimension, hcode⟩ := h.mem_published.mp hpublished
    have hreasoned_eq := h.eq_of_dimension (h.scores_subset reasoned hreasoned) hscore hdimension
    subst hreasoned_eq
    refine ⟨reasonException sha256Hex snapshot sourceLineage tenantId (reasonFromScore reasoned)
      reasoned, ⟨mem_exceptionsOf.mpr (Or.inl ⟨reasoned, hreasoned, rfl⟩), ?_⟩, ?_⟩
    · show matchingAssessment reasoned reasoned.reasonCode = some assessment
      rw [hcode]
      exact matchingAssessment_eq hassessed hscore ha
    · rintro e ⟨hmem, hbudget⟩
      obtain ⟨other, hother, rfl⟩ | ⟨other, hother, a, ha', _, hunpublished, rfl⟩ :=
        mem_exceptionsOf.mp hmem
      · rw [hsame other (h.scores_subset other hother) (of_matchingAssessment hbudget).1]
      · cases Option.some.inj hbudget
        rw [hsame other hother ha'] at hunpublished
        exact absurd hpublished hunpublished
  · refine ⟨assessmentException sha256Hex snapshot sourceLineage tenantId score.dimension
      assessment, ⟨mem_exceptionsOf.mpr
        (Or.inr ⟨score, hscore, assessment, ha, hstate, hpublished, rfl⟩), rfl⟩, ?_⟩
    rintro e ⟨hmem, hbudget⟩
    obtain ⟨other, hother, rfl⟩ | ⟨other, hother, a, ha', _, _, rfl⟩ := mem_exceptionsOf.mp hmem
    · obtain ⟨hmem', hcode⟩ := of_matchingAssessment hbudget
      have hsame' := hsame other (h.scores_subset other hother) hmem'
      exact absurd (h.mem_published.mpr ⟨other, hother, by rw [hsame'], hcode.symm⟩) hpublished
    · cases Option.some.inj hbudget
      rw [hsame other hother ha']

/-! ## Distinct identities -/

/-- What an identity can be about: each dimension, and two findings of its own for taxes. -/
def exceptionSlots : List (MandateHealthDimension × List String) :=
  [(.sourceReadiness, []), (.allocationDrift, []), (.riskDrift, []), (.cashLiquidity, []),
    (.taxTurnover, []), (.eligibilityRestrictions, []), (.performanceAttention, []),
    (.workflowReadiness, []), (.reviewCadence, []), (.modelFreshness, []),
    (.taxTurnover, ["TAX_LOTS"]), (.taxTurnover, ["TAX_BUDGET"])]

theorem plain_mem_exceptionSlots (dimension : MandateHealthDimension) :
    (dimension, []) ∈ exceptionSlots := by
  cases dimension <;> decide

theorem control_mem_exceptionSlots (control : BudgetControl) :
    (.taxTurnover, controlSuffix control) ∈ exceptionSlots := by
  cases control <;> decide

theorem reason_mem_exceptionSlots (dimension : MandateHealthDimension)
    (matching : Option MandateBudgetAssessment) :
    (dimension, reasonSuffix dimension matching) ∈ exceptionSlots := by
  unfold reasonSuffix
  split
  · rename_i htax
    rw [htax]
    cases matching with
    | none => decide
    | some assessment => exact control_mem_exceptionSlots assessment.control
  · exact plain_mem_exceptionSlots dimension

/-- The slot of a top reason's exception. -/
def scoreSlot (score : MandateDimensionScore) : MandateHealthDimension × List String :=
  (score.dimension, reasonSuffix score.dimension (matchingAssessment score score.reasonCode))

/-- The slots of all exceptions. -/
def slotsOf (snapshot : MandateHealthSnapshot) (scores : List MandateDimensionScore) :
    List (MandateHealthDimension × List String) :=
  scores.map scoreSlot ++ snapshot.dimensionScores.flatMap (fun score =>
    (unpublishedAssessments snapshot score).map
      (fun assessment => (score.dimension, controlSuffix assessment.control)))

theorem exceptionIds_eq :
    (exceptionsOf sha256Hex sourceLineage tenantId snapshot scores).map (·.exceptionId) =
      (slotsOf snapshot scores).map (fun slot => derivedIdentity sha256Hex "me"
        (exceptionIdentity snapshot tenantId slot.1 slot.2)) := by
  unfold exceptionsOf slotsOf
  rw [List.map_append, List.map_append, List.map_map, List.map_map, List.map_flatMap,
    List.map_flatMap]
  simp only [List.map_map]
  rfl

theorem controlSuffix_injective : Function.Injective controlSuffix := by
  intro a b
  cases a <;> cases b <;> decide

theorem mem_unpublishedAssessments :
    assessment ∈ unpublishedAssessments snapshot score ↔
      assessment ∈ score.budgetAssessments ∧ assessment.state ≠ .ready ∧
        (score.dimension, assessment.reasonCode) ∉ publishedReasons snapshot := by
  unfold unpublishedAssessments
  rw [List.mem_filter, decide_eq_true_eq]

theorem slotsOf_subset (h : AssessedBy snapshot tax turnover) :
    ∀ slot ∈ slotsOf snapshot scores, slot ∈ exceptionSlots := by
  intro slot hslot
  unfold slotsOf at hslot
  rcases List.mem_append.mp hslot with hslot | hslot
  · obtain ⟨score, _, rfl⟩ := List.mem_map.mp hslot
    exact reason_mem_exceptionSlots _ _
  · obtain ⟨score, hscore, hslot⟩ := List.mem_flatMap.mp hslot
    obtain ⟨assessment, hmem, rfl⟩ := List.mem_map.mp hslot
    rw [h.assessments_of score hscore
      (List.ne_nil_of_mem (mem_unpublishedAssessments.mp hmem).1)]
    exact control_mem_exceptionSlots assessment.control

theorem unpublishedSlots_nodup (h : AssessedBy snapshot tax turnover)
    (hscore : score ∈ snapshot.dimensionScores) :
    ((unpublishedAssessments snapshot score).map
      (fun assessment => (score.dimension, controlSuffix assessment.control))).Nodup := by
  have hall : (score.budgetAssessments.map
      (fun assessment => (score.dimension, controlSuffix assessment.control))).Nodup := by
    by_cases htax : score.dimension = .taxTurnover
    · rw [h.assessments_eq score hscore htax]
      simp only [List.map_cons, List.map_nil, h.tax_assesses.control_eq,
        h.turnover_assesses.control_eq]
      simp [controlSuffix]
    · have hnone : score.budgetAssessments = [] := by
        by_contra hne
        exact htax (h.assessments_of score hscore hne)
      rw [hnone]
      exact List.nodup_nil
  exact hall.sublist (List.filter_sublist.map _)

theorem scoreSlot_ne_unpublished (h : ReasonedBy snapshot scores)
    (hassessed : AssessedBy snapshot tax turnover) {other : MandateDimensionScore}
    (hscore : score ∈ scores) (hother : other ∈ snapshot.dimensionScores)
    (hmem : assessment ∈ unpublishedAssessments snapshot other) :
    scoreSlot score ≠ (other.dimension, controlSuffix assessment.control) := by
  intro heq
  obtain ⟨ha, _, hunpublished⟩ := mem_unpublishedAssessments.mp hmem
  have hscore' := h.scores_subset score hscore
  have hdimension : score.dimension = other.dimension := congrArg Prod.fst heq
  have hsuffix : reasonSuffix score.dimension (matchingAssessment score score.reasonCode) =
    controlSuffix assessment.control := congrArg Prod.snd heq
  have htax := hassessed.assessments_of other hother (List.ne_nil_of_mem ha)
  have hsame := h.eq_of_dimension hscore' hother hdimension
  subst hsame
  unfold reasonSuffix at hsuffix
  rw [if_pos htax] at hsuffix
  cases hmatching : matchingAssessment score score.reasonCode with
  | none =>
    rw [hmatching] at hsuffix
    cases hcontrol : assessment.control <;> rw [hcontrol] at hsuffix <;>
      exact absurd hsuffix (by decide)
  | some matching =>
    rw [hmatching] at hsuffix
    obtain ⟨hmatchingMem, hcode⟩ := of_matchingAssessment hmatching
    have hboth := hassessed.assessments_eq score hscore' htax
    rw [hboth] at ha hmatchingMem
    have hassessment := hassessed.eq_of_control hmatchingMem ha (controlSuffix_injective hsuffix)
    subst hassessment
    exact hunpublished (h.mem_published.mpr ⟨score, hscore, rfl, hcode.symm⟩)

theorem slotsOf_nodup (h : ReasonedBy snapshot scores)
    (hassessed : AssessedBy snapshot tax turnover) : (slotsOf snapshot scores).Nodup := by
  unfold slotsOf
  rw [List.nodup_append]
  refine ⟨?_, ?_, ?_⟩
  · refine List.Nodup.of_map Prod.fst ?_
    rw [List.map_map]
    exact h.reasoned_nodup
  · rw [List.nodup_flatMap]
    refine ⟨fun score hscore => unpublishedSlots_nodup hassessed hscore, ?_⟩
    refine (List.pairwise_map.mp h.dimensions_nodup).imp ?_
    intro score other hne slot hslot hslot'
    obtain ⟨_, _, rfl⟩ := List.mem_map.mp hslot
    obtain ⟨_, _, heq⟩ := List.mem_map.mp hslot'
    exact hne (congrArg Prod.fst heq).symm
  · intro slot hslot slot' hslot' heq
    obtain ⟨score, hscore, rfl⟩ := List.mem_map.mp hslot
    obtain ⟨other, hother, hslot'⟩ := List.mem_flatMap.mp hslot'
    obtain ⟨assessment, hmem, rfl⟩ := List.mem_map.mp hslot'
    exact scoreSlot_ne_unpublished h hassessed hscore hother hmem heq

/-- The identities that the exceptions of a snapshot can have. -/
def exceptionIdentities (snapshot : MandateHealthSnapshot) (tenantId : String) :
    List (List String) :=
  exceptionSlots.map (fun slot => exceptionIdentity snapshot tenantId slot.1 slot.2)

theorem exceptionIds_nodup (h : ReasonedBy snapshot scores)
    (hassessed : AssessedBy snapshot tax turnover)
    (hhash : ((exceptionIdentities snapshot tenantId).map (derivedIdentity sha256Hex "me")).Nodup) :
    ((exceptionsOf sha256Hex sourceLineage tenantId snapshot scores).map
      (·.exceptionId)).Nodup := by
  unfold exceptionIdentities at hhash
  rw [List.map_map] at hhash
  rw [exceptionIds_eq]
  refine (slotsOf_nodup h hassessed).map_on ?_
  intro slot hslot slot' hslot' heq
  exact List.inj_on_of_nodup_map hhash (slotsOf_subset hassessed slot hslot)
    (slotsOf_subset hassessed slot' hslot') heq

/-! ## Calculated snapshots -/

section Calculated

variable (sha256Hex : String → String) (now : Int) (input : MandateHealthInput) (tenantId : String)

/-- The input with the limits that count. -/
def effectiveInput (input : MandateHealthInput) : MandateHealthInput :=
  { input with twin := effectiveMandateTwin input.twin }

theorem calculate_dimensionScores :
    (calculateMandateHealth sha256Hex now input tenantId).dimensionScores =
      mandateHealthDimensionScores (effectiveInput input) := rfl

theorem calculate_topReasons :
    (calculateMandateHealth sha256Hex now input tenantId).topReasons =
      topMandateHealthReasons (mandateHealthDimensionScores (effectiveInput input)) := rfl

theorem calculate_reasonedBy :
    ∃ scores, ReasonedBy (calculateMandateHealth sha256Hex now input tenantId) scores := by
  have hdimensions := dimensionScores_nodup (effectiveInput input)
  have hbehind : ∀ reason ∈ topMandateHealthReasons
      (mandateHealthDimensionScores (effectiveInput input)),
      ∃ score, score ∈ mandateHealthDimensionScores (effectiveInput input) ∧
        reasonFromScore score = reason := by
    intro reason hreason
    obtain ⟨score, hmem, _, heq⟩ := mem_topReasons hreason
    exact ⟨score, hmem, heq⟩
  obtain ⟨scores, hreasons, hscores⟩ := exists_map_eq hbehind
  refine ⟨scores, hdimensions, hreasons, hscores, ?_⟩
  have hnodup := topReasons_nodup hdimensions
  rw [← hreasons, List.map_map] at hnodup
  exact hnodup

theorem calculate_assessedBy :
    AssessedBy (calculateMandateHealth sha256Hex now input tenantId)
      (taxBudgetAssessment (effectiveInput input))
      (turnoverBudgetAssessment (effectiveInput input)) := by
  refine ⟨taxBudgetAssessment_assesses _, turnoverBudgetAssessment_assesses _, ?_, ?_⟩
  · intro score hmem htax
    have htaxMem : scoreTaxTurnover (effectiveInput input) ∈
        mandateHealthDimensionScores (effectiveInput input) := by
      simp [mandateHealthDimensionScores]
    have hsame : score = scoreTaxTurnover (effectiveInput input) :=
      List.inj_on_of_nodup_map (dimensionScores_nodup (effectiveInput input)) hmem htaxMem
        (htax.trans (scoreTaxTurnover_regular _).dimension_eq.symm)
    rw [hsame]
    exact scoreTaxTurnover_budgetAssessments _
  · intro score hmem hne
    exact (dimensionScores_finding hmem).assessments_allowed hne

/-- The exceptions of a calculated snapshot: one for each top reason and one for each assessment
that is not ready. -/
theorem exceptions_of_snapshot (sourceLineage : List SourceProductLineage) (tenantId' : String)
    (hhash : ((exceptionIdentities (calculateMandateHealth sha256Hex now input tenantId)
      tenantId').map (derivedIdentity sha256Hex "me")).Nodup) :
    ∃ exceptions, monitoringExceptionsFromHealth sha256Hex
        (calculateMandateHealth sha256Hex now input tenantId) sourceLineage tenantId' =
        .ok exceptions ∧
      (exceptions.map (·.exceptionId)).Nodup ∧
      (∀ reason ∈ (calculateMandateHealth sha256Hex now input tenantId).topReasons,
        ∃! e, e ∈ exceptions ∧ e.dimension = reason.dimension ∧ e.reasonCode = reason.reasonCode) ∧
      ∀ score ∈ (calculateMandateHealth sha256Hex now input tenantId).dimensionScores,
        ∀ assessment ∈ score.budgetAssessments, assessment.state ≠ .ready →
          ∃! e, e ∈ exceptions ∧ e.budgetAssessment = some assessment := by
  obtain ⟨scores, hreasoned⟩ := calculate_reasonedBy sha256Hex now input tenantId
  have hassessed := calculate_assessedBy sha256Hex now input tenantId
  refine ⟨_, monitoringExceptions_eq hreasoned, exceptionIds_nodup hreasoned hassessed hhash,
    ?_, ?_⟩
  · intro reason hreason
    exact exception_of_reason hreasoned hreason
  · intro score hscore assessment ha hstate
    exact exception_of_assessment hreasoned hassessed hscore ha hstate

/-- A calculated snapshot and its exceptions agree exactly when the drift is not assessed, within
the band, or more than half a point past it. -/
theorem self_consistent_iff (sourceLineage : List SourceProductLineage) (tenantId' : String)
    (hhash : ((exceptionIdentities (calculateMandateHealth sha256Hex now input tenantId)
      tenantId').map (derivedIdentity sha256Hex "me")).Nodup) :
    SelfConsistent sha256Hex (calculateMandateHealth sha256Hex now input tenantId) sourceLineage
      tenantId' ↔ DriftRegular input := by
  constructor
  · intro hconsistent
    have hdrift : Full (scoreAllocationDrift (effectiveInput input)) := by
      refine (hconsistent.full_iff_ready (scoreAllocationDrift (effectiveInput input)) ?_).mp
      rw [calculate_dimensionScores]
      simp [mandateHealthDimensionScores]
    exact (drift_full_iff (effectiveInput input)).mp hdrift
  · intro hdrift
    have hdrift' : DriftRegular (effectiveInput input) := hdrift
    have hfull : ∀ score ∈ mandateHealthDimensionScores (effectiveInput input),
        score.score = 100 ↔ score.state = .ready :=
      fun score hmem => full_iff_ready hdrift' hmem
    have hbelow : ∀ score ∈ mandateHealthDimensionScores (effectiveInput input),
        score.state ≠ .ready → score.score < 100 := by
      intro score hmem hstate
      have hne := mt (hfull score hmem).mp hstate
      have hle := score.score_bounds.2
      omega
    refine ⟨hfull, ?_, ?_, ?_,
      exceptions_of_snapshot sha256Hex now input tenantId sourceLineage tenantId' hhash⟩
    · rw [calculate_topReasons, topReasons_eq_nil_iff]
      refine Iff.trans ?_ mandateHealthState_eq_ready_iff.symm
      exact forall₂_congr (fun score hmem => hfull score hmem)
    · intro score hmem hblocked
      have hlt := hbelow score hmem (by rw [hblocked]; decide)
      exact ⟨reasonFromScore score, blocked_in_topReasons
        (dimensionScores_blocked_few (effectiveInput input)) hmem hlt hblocked, rfl⟩
    · rintro _ ⟨score, hmem, hgap⟩
      exact gap_in_topReasons hmem ((dimensionScores_finding hmem).gap_below hgap) hgap

end Calculated

/-- The SHA-256 digests of the identities of one portfolio on one day. -/
def recordedSha256 : String → String
  | "7:default10:2026-05-0320:PB_SG_GLOBAL_BAL_00116:SOURCE_READINESS" =>
    "f3d508fd9d651dc1c40d2e80e9fec9f68d01ea4d109922a6ab3417f11495f0a0"
  | "7:default10:2026-05-0320:PB_SG_GLOBAL_BAL_00116:ALLOCATION_DRIFT" =>
    "5ecc519c3414db0e724a9ca5c876706e396b0e24a59153eee69283dc3c8259db"
  | "7:default10:2026-05-0320:PB_SG_GLOBAL_BAL_00110:RISK_DRIFT" =>
    "2e04da8a8cfa1eac4307be853a71dfd1d80c72cde8408f2ba10769133b9831cc"
  | "7:default10:2026-05-0320:PB_SG_GLOBAL_BAL_00114:CASH_LIQUIDITY" =>
    "d58927abd0d4d785a44e8affa9102f06480f15c34a8a32bb4fee9512a7fbb9a2"
  | "7:default10:2026-05-0320:PB_SG_GLOBAL_BAL_00112:TAX_TURNOVER" =>
    "5319cbc01be6d543145c07075cb2c1b26fbc6294edc97fe9c8a5e988589ddef3"
  | "7:default10:2026-05-0320:PB_SG_GLOBAL_BAL_00124:ELIGIBILITY_RESTRICTIONS" =>
    "e786d544e656ac8cb9f506ab9e39a1f8dd3758bfbcca9e1defacb300e278529e"
  | "7:default10:2026-05-0320:PB_SG_GLOBAL_BAL_00121:PERFORMANCE_ATTENTION" =>
    "e72b19e650402d1ae2f70473f7a3101895e2b8b0a76523b1d92f6d63a01db081"
  | "7:default10:2026-05-0320:PB_SG_GLOBAL_BAL_00118:WORKFLOW_READINESS" =>
    "21bb3235a3b54a2686063799bc2aaa331befe3dec7a9e5f06ba1aaf52e520f83"
  | "7:default10:2026-05-0320:PB_SG_GLOBAL_BAL_00114:REVIEW_CADENCE" =>
    "a26615c375dcf185a76bb90a42a4280c63db5ff053bfbd538c951e67ea457696"
  | "7:default10:2026-05-0320:PB_SG_GLOBAL_BAL_00115:MODEL_FRESHNESS" =>
    "3f5aaa9901724f2cfe299ddef31c3bde9df21335ef97a325b6032d965789dcea"
  | "7:default10:2026-05-0320:PB_SG_GLOBAL_BAL_00112:TAX_TURNOVER8:TAX_LOTS" =>
    "aa045316e728f91083cffe042a2faffead095283e9b9010dc2810d968aab0ed2"
  | "7:default10:2026-05-0320:PB_SG_GLOBAL_BAL_00112:TAX_TURNOVER10:TAX_BUDGET" =>
    "b4150a4bebee0de507fabbdd3ca611aae859aa679ec6e11a0ada8976efe42d79"
  | _ => ""

/-- A mandate with its cash band and without a turnover budget. -/
def bandedTwin : MandateDigitalTwin :=
  { mandateId := "MANDATE_PB_SG_GLOBAL_BAL_001"
    portfolioId := "PB_SG_GLOBAL_BAL_001"
    mandateVersion := "1"
    asOfDate :=
      { year := 2026, month := 5, day := 3
        year_bounds := year_2026, month_bounds := month_may, day_bounds := day_3_may }
    baseCurrency := "SGD"
    constraints :=
      { cashBandMinWeight := some 0
        cashBandMaxWeight := some 1
        turnoverBudgetApplicable := some false } }

/-- A drifted portfolio with incomplete tax lots and a restricted holding. -/
def driftedInput : MandateHealthInput :=
  { twin := bandedTwin
    currentWeights := Dict.ofEntries [("EQ_1", 60 / 100), ("BD_1", 40 / 100)]
    targetWeights := Dict.ofEntries [("EQ_1", 55 / 100), ("BD_1", 45 / 100)]
    restrictedHeldInstruments := ["BD_1"]
    taxLotMissingSecurityIds := ["EQ_1"] }

theorem drifted_snapshot_consistent :
    SelfConsistent recordedSha256
      (calculateMandateHealth recordedSha256 0 driftedInput "default") [] "default" :=
  (self_consistent_iff recordedSha256 0 driftedInput "default" [] "default"
    (by decide +kernel)).mpr
    (Or.inr (Or.inr (Or.inr ⟨("EQ_1", 55 / 100), by decide +kernel, by decide +kernel⟩)))

/-- The one finding is a drift that is half a point past the band. -/
def roundedDriftInput : MandateHealthInput :=
  { twin := bandedTwin
    currentWeights := Dict.ofEntries [("EQ_1", 5255 / 10000), ("BD_1", 4745 / 10000)]
    targetWeights := Dict.ofEntries [("EQ_1", 50 / 100), ("BD_1", 50 / 100)] }

/-- The mandate is pending review with every score at 100, no reason and no exception. -/
theorem rounded_drift_unreported :
    (calculateMandateHealth recordedSha256 0 roundedDriftInput "default").healthState =
        .pendingReview ∧
      (calculateMandateHealth recordedSha256 0 roundedDriftInput "default").topReasons = [] ∧
      monitoringExceptionsFromHealth recordedSha256
        (calculateMandateHealth recordedSha256 0 roundedDriftInput "default") [] "default" =
        .ok [] ∧
      ¬ SelfConsistent recordedSha256
        (calculateMandateHealth recordedSha256 0 roundedDriftInput "default") [] "default" := by
  have hstate : (calculateMandateHealth recordedSha256 0 roundedDriftInput "default").healthState =
      .pendingReview := by decide +kernel
  have htop : (calculateMandateHealth recordedSha256 0 roundedDriftInput "default").topReasons =
      [] := by decide +kernel
  refine ⟨hstate, htop, by decide +kernel, ?_⟩
  intro hconsistent
  have hready := hconsistent.reasons_iff.mp htop
  rw [hstate] at hready
  cases hready

end LotusManage.Mandates
