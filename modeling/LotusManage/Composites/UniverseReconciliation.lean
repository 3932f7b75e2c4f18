import LotusManage.Composites.CorrectionWindow
import LotusManage.Composites.MonthlyPublication
import LotusManage.Lib.Coverage

/-!
# Universe reconciliation

`reconcile_composite_universe` with the date arithmetic that it does.  The loop of `_covers_window` asks
for the day after the last covered one only while that one is before the end of the coverage, so no
addition leaves the calendar (`reconcileUniverse_eq`).  What it returns is exact by day: the
portfolios with a decision in force on some day of the coverage, and those that are expected and have a
day without one (`reconcileUniverse_day_exact`).
-/

namespace LotusManage.Composites

/-! ## The loop -/

/-- `_covers_window`, of the windows in their order; `coveredTo` is `None` before the first. -/
def checkedCoversWindow (coverageFrom coverageTo : Int) :
    Option Int → List (Int × Int) → Except IsoDate.DateError Bool
  | _, [] => .ok false
  | none, (start, finish) :: windows =>
    if coverageFrom < start then .ok false
    else if coverageTo ≤ finish then .ok true
    else checkedCoversWindow coverageFrom coverageTo (some finish) windows
  | some covered, (start, finish) :: windows => do
    let next ← IsoDate.nextDay covered
    if next < start then return false
    else if coverageTo ≤ max finish covered then return true
    else checkedCoversWindow coverageFrom coverageTo (some (max finish covered)) windows

/-- The gaps of `reconcile_composite_universe`, of portfolios that are expected and observed. -/
def coverageGaps (windows : String → List (Int × Int)) (coverageFrom coverageTo : Int) :
    List String → Except IsoDate.DateError (List String)
  | [] => .ok []
  | portfolioId :: rest => do
    let covered ← checkedCoversWindow coverageFrom coverageTo none
      ((windows portfolioId).insertionSort (fun a b => toLex a ≤ toLex b))
    let gaps ← coverageGaps windows coverageFrom coverageTo rest
    return if covered then gaps else portfolioId :: gaps

/-- `reconcile_composite_universe` -/
def reconcileUniverse (decisions : List MembershipDecision) (coverageFrom coverageTo : Int)
    (expectedPortfolioIds : List String) : Except IsoDate.DateError UniverseReconciliation := do
  if coverageTo < coverageFrom then
    throw (.value "COMPOSITE_UNIVERSE_COVERAGE_WINDOW_INVALID")
  else
    let windows := overlappingWindows decisions coverageFrom coverageTo
    let observed := sortedTexts ((decisions.map MembershipDecision.portfolioId).filter
      (fun portfolioId => windows portfolioId ≠ []))
    let gaps ← coverageGaps windows coverageFrom coverageTo
      (expectedPortfolioIds.filter (· ∈ observed))
    return {
      observed := observed
      missing := sortedTexts (expectedPortfolioIds.filter (· ∉ observed))
      unexpected := observed.filter (· ∉ expectedPortfolioIds)
      gaps := sortedTexts gaps }

variable {coverageFrom coverageTo : Int} {decisions : List MembershipDecision}

theorem coversWindow_none (coverageFrom coverageTo start finish : Int)
    (windows : List (Int × Int)) :
    coversWindow coverageFrom coverageTo none ((start, finish) :: windows) =
      if coverageFrom < start then false
      else if coverageTo ≤ finish then true
      else coversWindow coverageFrom coverageTo (some finish) windows := by
  simp only [coversWindow, decide_eq_true_eq, Option.elim_none]
  rfl

theorem coversWindow_some (coverageFrom coverageTo covered start finish : Int)
    (windows : List (Int × Int)) :
    coversWindow coverageFrom coverageTo (some covered) ((start, finish) :: windows) =
      if covered + 1 < start then false
      else if coverageTo ≤ max finish covered then true
      else coversWindow coverageFrom coverageTo (some (max finish covered)) windows := by
  simp only [coversWindow, decide_eq_true_eq, Option.elim_some]
  rfl

theorem checkedCoversWindow_eq (hto : coverageTo ≤ dateMaxOrdinal) (windows : List (Int × Int))
    {coveredTo : Option Int} (hcovered : ∀ covered ∈ coveredTo, covered < coverageTo) :
    checkedCoversWindow coverageFrom coverageTo coveredTo windows =
      .ok (coversWindow coverageFrom coverageTo coveredTo windows) := by
  induction windows generalizing coveredTo with
  | nil => cases coveredTo <;> rfl
  | cons window windows ih =>
    obtain ⟨start, finish⟩ := window
    cases coveredTo with
    | none =>
      rw [checkedCoversWindow, coversWindow_none]
      split
      · rfl
      · split
        · rfl
        · apply ih
          intro covered hmem
          cases hmem
          omega
    | some covered =>
      have hlt := hcovered covered rfl
      have hnext : IsoDate.nextDay covered = .ok (covered + 1) := if_pos (lt_of_lt_of_le hlt hto)
      rw [checkedCoversWindow, coversWindow_some, hnext]
      show (if covered + 1 < start then _ else _) = _
      split
      · rfl
      · split
        · rfl
        · apply ih
          intro covered' hmem
          cases hmem
          omega

theorem coverageGaps_eq (hto : coverageTo ≤ dateMaxOrdinal) (windows : String → List (Int × Int))
    (portfolioIds : List String) :
    coverageGaps windows coverageFrom coverageTo portfolioIds =
      .ok (portfolioIds.filter fun portfolioId =>
        !coversWindow coverageFrom coverageTo none ((windows portfolioId).insertionSort
          (fun a b => toLex a ≤ toLex b))) := by
  induction portfolioIds with
  | nil => rfl
  | cons portfolioId rest ih =>
    rw [coverageGaps, checkedCoversWindow_eq hto _ (by simp), ih, List.filter_cons]
    show Except.ok _ = Except.ok _
    cases coversWindow coverageFrom coverageTo none
      ((windows portfolioId).insertionSort (fun a b => toLex a ≤ toLex b)) <;> rfl

theorem reconcileUniverse_eq (decisions : List MembershipDecision)
    (hwindow : coverageFrom ≤ coverageTo) (hto : coverageTo ≤ dateMaxOrdinal)
    (expectedPortfolioIds : List String) :
    reconcileUniverse decisions coverageFrom coverageTo expectedPortfolioIds =
      .ok (reconcileCompositeUniverse decisions coverageFrom coverageTo expectedPortfolioIds) := by
  unfold reconcileUniverse reconcileCompositeUniverse
  rw [if_neg (not_lt_of_ge hwindow)]
  dsimp only
  rw [coverageGaps_eq hto, List.filter_filter]
  simp only [Bool.and_comm]
  rfl

/-! ## Days -/

theorem coversWindow_some_eq (coverageFrom coverageTo : Int) (windows : List (Int × Int))
    (covered : Int) : coversWindow coverageFrom coverageTo (some covered) windows =
      Coverage.covers coverageTo covered windows := by
  induction windows generalizing covered with
  | nil => rfl
  | cons window windows ih =>
    obtain ⟨start, finish⟩ := window
    rw [coversWindow_some, Coverage.covers, max_comm, ih]

theorem coversWindow_none_eq (coverageTo : Int) {windows : List (Int × Int)}
    (hfrom : ∀ window ∈ windows, coverageFrom ≤ window.2) :
    coversWindow coverageFrom coverageTo none windows =
      Coverage.covers coverageTo (coverageFrom - 1) windows := by
  cases windows with
  | nil => rfl
  | cons window windows =>
    obtain ⟨start, finish⟩ := window
    have hfinish : coverageFrom ≤ finish := hfrom _ List.mem_cons_self
    have hmax : max (coverageFrom - 1) finish = finish := by omega
    rw [coversWindow_none, Coverage.covers, coversWindow_some_eq, hmax, sub_add_cancel]

/-- A decision on the portfolio is in force on the day. -/
def DecidedOn (decisions : List MembershipDecision) (portfolioId : String) (day : Int) : Prop :=
  ∃ decision ∈ decisions, decision.portfolioId = portfolioId ∧ decision.InForce day

theorem mem_overlappingWindows {portfolioId : String} {window : Int × Int} :
    window ∈ overlappingWindows decisions coverageFrom coverageTo portfolioId ↔
      ∃ decision ∈ decisions, (decision.portfolioId = portfolioId ∧
        decision.effectiveFrom.ordinal ≤ coverageTo ∧ coverageFrom ≤ decision.lastOrdinal) ∧
        window = (max decision.effectiveFrom.ordinal coverageFrom,
          min decision.lastOrdinal coverageTo) := by
  unfold overlappingWindows
  rw [List.mem_filterMap]
  refine exists_congr fun decision => and_congr Iff.rfl ?_
  rw [Option.ite_none_right_eq_some, Option.some.injEq]
  exact and_congr Iff.rfl eq_comm

/-- The decisions of a list are valid, and their dates are dates. -/
structure WellDated (decisions : List MembershipDecision) : Prop where
  valid : ∀ decision ∈ decisions, decision.validate = .ok ()
  dated : ∀ decision ∈ decisions, decision.Dated

theorem WellDated.first_le_last (h : WellDated decisions) {decision : MembershipDecision}
    (hmem : decision ∈ decisions) : decision.effectiveFrom.ordinal ≤ decision.lastOrdinal := by
  have hfirst := (h.dated decision hmem).1.bounds
  have hforce := MembershipDecision.inForce_first (h.valid decision hmem)
  exact ((MembershipDecision.inForce_iff hfirst.2).mp hforce).2

theorem exists_window_iff {day : Int} (hto : coverageTo ≤ dateMaxOrdinal)
    (hfrom : coverageFrom ≤ day) (hday : day ≤ coverageTo) (portfolioId : String) :
    (∃ window ∈ overlappingWindows decisions coverageFrom coverageTo portfolioId,
      window.1 ≤ day ∧ day ≤ window.2) ↔ DecidedOn decisions portfolioId day := by
  constructor
  · intro ⟨window, hmem, hin⟩
    obtain ⟨decision, hdecision, hoverlap, heq⟩ := mem_overlappingWindows.mp hmem
    rw [heq] at hin
    dsimp only at hin
    have hcalendar : day ≤ dateMaxOrdinal := le_trans hday hto
    refine ⟨decision, hdecision, hoverlap.1, ?_⟩
    exact (MembershipDecision.inForce_iff hcalendar).mpr ⟨by omega, by omega⟩
  · intro ⟨decision, hdecision, hportfolio, hforce⟩
    have hforce := (MembershipDecision.inForce_iff (le_trans hday hto)).mp hforce
    refine ⟨_, mem_overlappingWindows.mpr ⟨decision, hdecision, ⟨hportfolio, ?_, ?_⟩, rfl⟩, ?_⟩
    · omega
    · omega
    · dsimp only
      omega

theorem WellDated.overlapping_ne_nil_iff (h : WellDated decisions)
    (hwindow : coverageFrom ≤ coverageTo) (hto : coverageTo ≤ dateMaxOrdinal) (portfolioId : String) :
    overlappingWindows decisions coverageFrom coverageTo portfolioId ≠ [] ↔
      ∃ day, coverageFrom ≤ day ∧ day ≤ coverageTo ∧ DecidedOn decisions portfolioId day := by
  constructor
  · intro hne
    obtain ⟨window, hmem⟩ := List.exists_mem_of_ne_nil _ hne
    obtain ⟨decision, hdecision, hoverlap, _⟩ := mem_overlappingWindows.mp hmem
    have hle := h.first_le_last hdecision
    -- the later of the two first days
    have hday : max decision.effectiveFrom.ordinal coverageFrom ≤ dateMaxOrdinal := by omega
    refine ⟨max decision.effectiveFrom.ordinal coverageFrom, le_max_right _ _, by omega,
      decision, hdecision, hoverlap.1, ?_⟩
    exact (MembershipDecision.inForce_iff hday).mpr ⟨by omega, by omega⟩
  · intro ⟨day, hfrom, hday, hdecided⟩
    obtain ⟨window, hmem, _⟩ :=
      (exists_window_iff hto hfrom hday portfolioId).mpr hdecided
    exact List.ne_nil_of_mem hmem

theorem coversWindow_iff (hwindow : coverageFrom ≤ coverageTo) (hto : coverageTo ≤ dateMaxOrdinal)
    (portfolioId : String) :
    coversWindow coverageFrom coverageTo none
        ((overlappingWindows decisions coverageFrom coverageTo portfolioId).insertionSort
          (fun a b => toLex a ≤ toLex b)) = true ↔
      ∀ day, coverageFrom ≤ day → day ≤ coverageTo → DecidedOn decisions portfolioId day := by
  have hsorted := pairwise_insertionSort_rank (fun window : Int × Int => toLex window)
    (overlappingWindows decisions coverageFrom coverageTo portfolioId)
  rw [coversWindow_none_eq, Coverage.covers_iff _ (by omega)]
  · constructor
    · intro hcovers day hfrom hday
      obtain ⟨window, hmem, hin⟩ := hcovers day (by omega) hday
      rw [List.mem_insertionSort] at hmem
      exact (exists_window_iff hto hfrom hday portfolioId).mp ⟨window, hmem, hin⟩
    · intro hdecided day hfrom hday
      have hfrom : coverageFrom ≤ day := by omega
      obtain ⟨window, hmem, hin⟩ :=
        (exists_window_iff hto hfrom hday portfolioId).mpr (hdecided day hfrom hday)
      exact ⟨window, (List.mem_insertionSort _).mpr hmem, hin⟩
  · refine hsorted.imp ?_
    intro a b hab
    rw [Prod.Lex.toLex_le_toLex] at hab
    omega
  · intro window hmem
    rw [List.mem_insertionSort] at hmem
    obtain ⟨decision, _, hoverlap, heq⟩ := mem_overlappingWindows.mp hmem
    rw [heq]
    dsimp only
    omega

/-! ## What is returned -/

theorem mem_sortedTexts {texts : List String} {text : String} :
    text ∈ sortedTexts texts ↔ text ∈ texts := by
  simp [sortedTexts]

theorem sortedTexts_sorted (texts : List String) : (sortedTexts texts).Pairwise (· < ·) := by
  have hsorted := pairwise_insertionSort_rank (fun text : String => text) texts.dedup
  have hnodup : (sortedTexts texts).Nodup :=
    (List.perm_insertionSort _ _).nodup_iff.mpr (List.nodup_dedup texts)
  exact (hsorted.and hnodup).imp (fun h => lt_of_le_of_ne h.1 h.2)

/-- The four lists of a reconciliation are what the days of the coverage say. -/
structure DayExact (decisions : List MembershipDecision) (coverageFrom coverageTo : Int)
    (expectedPortfolioIds : List String) (result : UniverseReconciliation) : Prop where
  sorted : result.observed.Pairwise (· < ·) ∧ result.missing.Pairwise (· < ·) ∧
    result.unexpected.Pairwise (· < ·) ∧ result.gaps.Pairwise (· < ·)
  observed : ∀ portfolioId, portfolioId ∈ result.observed ↔
    ∃ day, coverageFrom ≤ day ∧ day ≤ coverageTo ∧ DecidedOn decisions portfolioId day
  missing : ∀ portfolioId, portfolioId ∈ result.missing ↔
    portfolioId ∈ expectedPortfolioIds ∧ portfolioId ∉ result.observed
  unexpected : ∀ portfolioId, portfolioId ∈ result.unexpected ↔
    portfolioId ∈ result.observed ∧ portfolioId ∉ expectedPortfolioIds
  gaps : ∀ portfolioId, portfolioId ∈ result.gaps ↔
    portfolioId ∈ expectedPortfolioIds ∧ portfolioId ∈ result.observed ∧
      ∃ day, coverageFrom ≤ day ∧ day ≤ coverageTo ∧ ¬ DecidedOn decisions portfolioId day

theorem reconcileCompositeUniverse_dayExact (h : WellDated decisions)
    (hwindow : coverageFrom ≤ coverageTo) (hto : coverageTo ≤ dateMaxOrdinal)
    (expectedPortfolioIds : List String) :
    DayExact decisions coverageFrom coverageTo expectedPortfolioIds
      (reconcileCompositeUniverse decisions coverageFrom coverageTo expectedPortfolioIds) where
  sorted := ⟨sortedTexts_sorted _, sortedTexts_sorted _, (sortedTexts_sorted _).filter _,
    sortedTexts_sorted _⟩
  observed := by
    intro portfolioId
    rw [← h.overlapping_ne_nil_iff hwindow hto]
    unfold reconcileCompositeUniverse
    rw [mem_sortedTexts, List.mem_filter, decide_eq_true_iff]
    refine and_iff_right_of_imp ?_
    intro hne
    obtain ⟨window, hmem⟩ := List.exists_mem_of_ne_nil _ hne
    obtain ⟨decision, hdecision, hoverlap, _⟩ := mem_overlappingWindows.mp hmem
    exact List.mem_map.mpr ⟨decision, hdecision, hoverlap.1⟩
  missing := by
    intro portfolioId
    unfold reconcileCompositeUniverse
    rw [mem_sortedTexts, List.mem_filter, decide_eq_true_iff]
  unexpected := by
    intro portfolioId
    unfold reconcileCompositeUniverse
    rw [List.mem_filter, decide_eq_true_iff]
  gaps := by
    intro portfolioId
    unfold reconcileCompositeUniverse
    dsimp only
    rw [mem_sortedTexts, List.mem_filter, Bool.and_eq_true, decide_eq_true_iff,
      Bool.not_eq_true', ← Bool.not_eq_true, coversWindow_iff hwindow hto]
    simp only [not_forall, exists_prop]

/-- Reconciliation of valid decisions raises nothing on a coverage of calendar days, and is exact by
day. -/
theorem reconcileUniverse_day_exact (decisions : List MembershipDecision) (h : WellDated decisions)
    (coverageFrom coverageTo : Int) (hwindow : coverageFrom ≤ coverageTo)
    (hto : coverageTo ≤ dateMaxOrdinal) (expectedPortfolioIds : List String) :
    ∃ result,
      reconcileUniverse decisions coverageFrom coverageTo expectedPortfolioIds = .ok result ∧
        DayExact decisions coverageFrom coverageTo expectedPortfolioIds result :=
  ⟨_, reconcileUniverse_eq decisions hwindow hto expectedPortfolioIds,
    reconcileCompositeUniverse_dayExact h hwindow hto expectedPortfolioIds⟩

/-- A coverage that ends with the calendar. -/
theorem reconcileUniverse_day_exact_to_the_last_day :
    ∃ result, reconcileUniverse januaryDecisions 738886 3652059 ["P1", "P2"] = .ok result ∧
      DayExact januaryDecisions 738886 3652059 ["P1", "P2"] result :=
  reconcileUniverse_day_exact januaryDecisions ⟨by decide +kernel, by decide +kernel⟩ 738886 3652059
    (by decide) (by decide) ["P1", "P2"]

end LotusManage.Composites
