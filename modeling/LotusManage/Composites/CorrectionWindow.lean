import LotusManage.Composites.MembershipWindows
import LotusManage.Lib.Segments

/-!
# Correction windows

`require_correction_window` compares two revisions outside the window that the second one declares.  It
does not go through the days: it cuts the decisions at the window, sorts the parts and merges the
neighbours with the same evidence.  The result is a normal form of the evidence in force by day, so
two revisions pass exactly when on every day outside the window, up to the ends of the calendar, each
portfolio has the same evidence in both (`requireCorrectionWindow_iff`).
-/

namespace LotusManage.Composites

/-! ## Evidence by day -/

/-- `DecisionEvidence` -/
abbrev DecisionEvidence := MembershipStatus × Option String × Bool × Option String × String

def MembershipDecision.evidence (decision : MembershipDecision) : DecisionEvidence :=
  (decision.status, decision.reasonCode, decision.discretionary, decision.approvalRef,
    decision.sourceSnapshotId)

instance (decision : MembershipDecision) (day : Int) : Decidable (decision.InForce day) :=
  inferInstanceAs (Decidable (_ ∧ ∀ last ∈ decision.effectiveTo, day ≤ last.ordinal))

/-- The evidence of the decision on the portfolio that is in force on the day, if there is one. -/
def evidenceOn (decisions : List MembershipDecision) (portfolioId : String) (day : Int) :
    Option DecisionEvidence :=
  (decisions.find? (fun decision => decision.portfolioId = portfolioId ∧ decision.InForce day)).map
    MembershipDecision.evidence

/-- A day of the calendar. -/
def CalendarDay (day : Int) : Prop := 1 ≤ day ∧ day ≤ dateMaxOrdinal

/-- All dates of the revision are dates. -/
def MembershipRevision.Dated (revision : MembershipRevision) : Prop :=
  ∀ decision ∈ revision.decisions, decision.Dated

instance (revision : MembershipRevision) : Decidable revision.Dated :=
  inferInstanceAs (Decidable (∀ _ ∈ _, _))

variable {decisions : List MembershipDecision} {portfolioId : String} {day start finish : Int}
  {evidence : DecisionEvidence}
  {revision : MembershipRevision} {decision : MembershipDecision} {interval : DecisionInterval}

theorem evidenceOn_eq_some_iff (hdisjoint : WindowsDisjoint decisions) :
    evidenceOn decisions portfolioId day = some evidence ↔
      ∃ decision ∈ decisions, decision.portfolioId = portfolioId ∧ decision.InForce day ∧
        decision.evidence = evidence := by
  induction decisions with
  | nil => simp [evidenceOn]
  | cons decision decisions ih =>
    obtain ⟨hfirst, hrest⟩ := List.pairwise_cons.mp hdisjoint
    by_cases hhere : decision.portfolioId = portfolioId ∧ decision.InForce day
    · have hfind : evidenceOn (decision :: decisions) portfolioId day = some decision.evidence := by
        rw [evidenceOn, List.find?_cons_of_pos (by simpa using hhere)]
        rfl
      rw [hfind]
      constructor
      · intro heq
        exact ⟨decision, List.mem_cons_self, hhere.1, hhere.2, Option.some.inj heq⟩
      · intro ⟨other, hmem, hportfolio, hday, hevidence⟩
        cases List.mem_cons.mp hmem with
        | inl heq => rw [← hevidence, heq]
        | inr hlater =>
          have hapart := hfirst other hlater (hhere.1.trans hportfolio.symm) day
          exact absurd ⟨hhere.2, hday⟩ hapart
    · have hfind : evidenceOn (decision :: decisions) portfolioId day =
          evidenceOn decisions portfolioId day := by
        rw [evidenceOn, List.find?_cons_of_neg (by simpa using hhere)]
        rfl
      rw [hfind, ih hrest, List.exists_mem_cons_iff]
      constructor
      · exact .inr
      · intro h
        cases h with
        | inl h => exact absurd ⟨h.1, h.2.1⟩ hhere
        | inr h => exact h

theorem MembershipRevision.Accepted.windows (h : revision.Accepted) :
    (∀ decision ∈ revision.decisions, decision.validate = .ok ()) ∧
      WindowsDisjoint revision.decisions ∧
      ∀ first ∈ revision.affectedFrom, ∀ last ∈ revision.affectedTo,
        first.ordinal ≤ last.ordinal := by
  unfold MembershipRevision.Accepted MembershipRevision.validate at h
  obtain ⟨_, _, h⟩ := Checks.bind_eq_ok h
  obtain ⟨_, _, h⟩ := Checks.bind_eq_ok h
  obtain ⟨_, hdecisions, h⟩ := Checks.bind_eq_ok h
  obtain ⟨_, hwindows, h⟩ := Checks.bind_eq_ok h
  obtain ⟨_, _, h⟩ := Checks.bind_eq_ok h
  have hvalid : ∀ decision ∈ revision.decisions, decision.validate = .ok () := by
    intro decision hmem
    obtain ⟨_, hdecision⟩ := Checks.forM_eq_ok hdecisions decision hmem
    exact hdecision
  refine ⟨hvalid, windowsDisjoint_of_validate hvalid hwindows, ?_⟩
  intro first hfirst last hlast
  rw [Option.mem_def.mp hfirst, Option.mem_def.mp hlast] at h
  obtain ⟨_, hwindow, _⟩ := Checks.bind_eq_ok h
  exact of_decide_eq_true ((ensure_eq_ok_iff _ _).mp hwindow)

/-! ## Parts of decisions -/

def DecisionInterval.segment (interval : DecisionInterval) : Segment String DecisionEvidence :=
  ⟨interval.portfolioId, interval.first, interval.last, interval.evidence⟩

theorem DecisionInterval.segment_injective : Function.Injective DecisionInterval.segment := by
  intro a b h
  cases a
  cases b
  cases h
  rfl

theorem map_mergeIntervals (intervals : List DecisionInterval) :
    (mergeIntervals intervals).map DecisionInterval.segment =
      Segments.merge (intervals.map DecisionInterval.segment) := by
  induction intervals with
  | nil => rfl
  | cons interval rest ih =>
    rw [List.map_cons, Segments.merge, ← ih, mergeIntervals]
    cases mergeIntervals rest with
    | nil => rfl
    | cons next merged =>
      rw [List.map_cons, Segments.push_cons]
      dsimp only
      by_cases hcontinues : interval.portfolioId = next.portfolioId ∧
          interval.last + 1 = next.first ∧ interval.evidence = next.evidence
      · have hsegment : Segments.Continues interval.segment next.segment := hcontinues
        rw [if_pos hcontinues, if_pos hsegment]
        rfl
      · have hsegment : ¬ Segments.Continues interval.segment next.segment := hcontinues
        rw [if_neg hcontinues, if_neg hsegment]
        rfl

/-- The parts of one decision outside the window. -/
def MembershipDecision.fragments (decision : MembershipDecision) (start finish : Int) :
    List DecisionInterval :=
  [(decision.effectiveFrom.ordinal, min decision.lastOrdinal (start - 1)),
    (max decision.effectiveFrom.ordinal (finish + 1), decision.lastOrdinal)].filterMap
      fun (lower, upper) =>
        if lower ≤ upper then some ⟨decision.portfolioId, lower, upper, decision.evidence⟩ else none

theorem unaffectedFragments_eq (decisions : List MembershipDecision) (start finish : Int) :
    unaffectedFragments decisions start finish = decisions.flatMap (·.fragments start finish) := rfl

theorem MembershipDecision.mem_fragments (h : interval ∈ decision.fragments start finish) :
    interval.portfolioId = decision.portfolioId ∧ interval.evidence = decision.evidence ∧
      interval.first ≤ interval.last ∧ decision.effectiveFrom.ordinal ≤ interval.first ∧
      interval.last ≤ decision.lastOrdinal ∧
      (interval.last < start ∨ finish < interval.first) := by
  obtain ⟨⟨lower, upper⟩, hmem, hinterval⟩ := List.mem_filterMap.mp h
  dsimp only at hinterval
  split at hinterval
  · rename_i hle
    cases hinterval
    simp only [List.mem_cons, Prod.mk.injEq, List.not_mem_nil, or_false] at hmem
    refine ⟨rfl, rfl, hle, ?_⟩
    dsimp only
    omega
  · cases hinterval

theorem MembershipDecision.exists_fragment (hfirst : decision.effectiveFrom.ordinal ≤ day)
    (hlast : day ≤ decision.lastOrdinal) (houtside : day < start ∨ finish < day) :
    ∃ interval ∈ decision.fragments start finish, interval.first ≤ day ∧ day ≤ interval.last := by
  cases houtside with
  | inl hbefore =>
    have hle : decision.effectiveFrom.ordinal ≤ min decision.lastOrdinal (start - 1) := by omega
    refine ⟨⟨decision.portfolioId, decision.effectiveFrom.ordinal,
      min decision.lastOrdinal (start - 1), decision.evidence⟩, ?_, hfirst, by dsimp only; omega⟩
    refine List.mem_filterMap.mpr ⟨_, List.mem_cons_self, ?_⟩
    exact if_pos hle
  | inr hafter =>
    have hle : max decision.effectiveFrom.ordinal (finish + 1) ≤ decision.lastOrdinal := by omega
    refine ⟨⟨decision.portfolioId, max decision.effectiveFrom.ordinal (finish + 1),
      decision.lastOrdinal, decision.evidence⟩, ?_, by dsimp only; omega, hlast⟩
    refine List.mem_filterMap.mpr ⟨_, List.mem_cons_of_mem _ List.mem_cons_self, ?_⟩
    exact if_pos hle

/-- Parts that have no common day, when they are on one portfolio. -/
def Separate (a b : DecisionInterval) : Prop :=
  a.portfolioId = b.portfolioId → a.last < b.first ∨ b.last < a.first

theorem Separate.symm {a b : DecisionInterval} (h : Separate a b) : Separate b a :=
  fun hportfolio => (h hportfolio.symm).symm

theorem MembershipDecision.fragments_separate (decision : MembershipDecision)
    (hwindow : start ≤ finish) : (decision.fragments start finish).Pairwise Separate := by
  refine List.Pairwise.filterMap (R := fun a b => a.2 < b.1) _ ?_ ?_
  · intro a b hab x hx y hy _
    simp only [Option.ite_none_right_eq_some, Option.some.injEq] at hx hy
    obtain ⟨_, rfl⟩ := hx
    obtain ⟨_, rfl⟩ := hy
    exact .inl hab
  · apply List.pairwise_pair.mpr
    dsimp only
    omega

theorem lastOrdinal_of_mem {last : BusinessDate} (h : last ∈ decision.effectiveTo) :
    decision.lastOrdinal = last.ordinal := by
  rw [MembershipDecision.lastOrdinal, Option.mem_def.mp h]
  rfl

theorem separate_of_precedes {a b : MembershipDecision} (h : Precedes a b) :
    ∀ x ∈ a.fragments start finish, ∀ y ∈ b.fragments start finish, Separate x y := by
  intro x hx y hy _
  obtain ⟨last, hlast, hbefore⟩ := h
  obtain ⟨_, _, _, _, hxlast, _⟩ := MembershipDecision.mem_fragments hx
  obtain ⟨_, _, _, hyfirst, _, _⟩ := MembershipDecision.mem_fragments hy
  rw [lastOrdinal_of_mem hlast] at hxlast
  exact .inl (by omega)

theorem unaffectedFragments_separate (hvalid : ∀ decision ∈ decisions, decision.validate = .ok ())
    (hdisjoint : WindowsDisjoint decisions) (hwindow : start ≤ finish) :
    (unaffectedFragments decisions start finish).Pairwise Separate := by
  rw [unaffectedFragments_eq, List.pairwise_flatMap]
  refine ⟨fun decision _ => decision.fragments_separate hwindow, ?_⟩
  refine hdisjoint.imp_of_mem ?_
  intro a b ha hb hapart x hx y hy hportfolio
  have hsame : a.portfolioId = b.portfolioId := by
    rw [← (MembershipDecision.mem_fragments hx).1, hportfolio,
      (MembershipDecision.mem_fragments hy).1]
  cases hapart.precedes hsame (hvalid a ha) (hvalid b hb) with
  | inl hprecedes => exact separate_of_precedes hprecedes x hx y hy hportfolio
  | inr hprecedes => exact (separate_of_precedes hprecedes y hy x hx hportfolio.symm).symm

/-! ## The normal form -/

/-- The fragments of `_unaffected_intervals`, sorted. -/
def sortedFragments (decisions : List MembershipDecision) (start finish : Int) :
    List DecisionInterval :=
  (unaffectedFragments decisions start finish).insertionSort
    (fun a b => toLex (a.portfolioId, toLex (a.first, a.last)) ≤
      toLex (b.portfolioId, toLex (b.first, b.last)))

theorem mem_sortedFragments : interval ∈ sortedFragments decisions start finish ↔
      ∃ decision ∈ decisions, interval ∈ decision.fragments start finish := by
  rw [sortedFragments, List.mem_insertionSort, unaffectedFragments_eq, List.mem_flatMap]

theorem ordered_sortedFragments (hvalid : ∀ decision ∈ decisions, decision.validate = .ok ())
    (hdisjoint : WindowsDisjoint decisions) (hwindow : start ≤ finish) :
    Segments.Ordered ((sortedFragments decisions start finish).map DecisionInterval.segment) := by
  have hnonempty : ∀ interval ∈ sortedFragments decisions start finish,
      interval.first ≤ interval.last := by
    intro interval hmem
    obtain ⟨decision, _, hinterval⟩ := mem_sortedFragments.mp hmem
    exact (MembershipDecision.mem_fragments hinterval).2.2.1
  have hseparate : (sortedFragments decisions start finish).Pairwise Separate :=
    (List.perm_insertionSort _ _).pairwise_iff Separate.symm |>.mpr
      (unaffectedFragments_separate hvalid hdisjoint hwindow)
  have hsorted := pairwise_insertionSort_rank
    (fun i : DecisionInterval => toLex (i.portfolioId, toLex (i.first, i.last)))
    (unaffectedFragments decisions start finish)
  constructor
  · intro s hs
    obtain ⟨interval, hmem, rfl⟩ := List.mem_map.mp hs
    exact hnonempty interval hmem
  · rw [List.pairwise_map]
    refine (hseparate.and hsorted).imp_of_mem ?_
    intro a b _ hb hab
    apply Segments.before_of_first_le (hnonempty b hb)
    · rw [Prod.Lex.toLex_le_toLex, Prod.Lex.toLex_le_toLex] at hab
      dsimp only at hab
      cases hab.2 with
      | inl hlt => exact .inl hlt
      | inr heq =>
        refine .inr ⟨heq.1, ?_⟩
        show a.first ≤ b.first
        omega
    · exact hab.1

theorem holds_sortedFragments :
    Segments.Holds ((sortedFragments decisions start finish).map DecisionInterval.segment)
        portfolioId day evidence ↔
      (day < start ∨ finish < day) ∧ ∃ decision ∈ decisions, decision.portfolioId = portfolioId ∧
        decision.effectiveFrom.ordinal ≤ day ∧ day ≤ decision.lastOrdinal ∧
        decision.evidence = evidence := by
  constructor
  · intro ⟨s, hs, hkey, hfirst, hlast, hvalue⟩
    obtain ⟨interval, hmem, rfl⟩ := List.mem_map.mp hs
    obtain ⟨decision, hdecision, hinterval⟩ := mem_sortedFragments.mp hmem
    obtain ⟨hportfolio, hevidence, _, hfrom, hto, hside⟩ := MembershipDecision.mem_fragments hinterval
    simp only [DecisionInterval.segment] at hkey hfirst hlast hvalue
    refine ⟨by omega, decision, hdecision, ?_, by omega, by omega, ?_⟩
    · rw [← hportfolio, hkey]
    · rw [← hevidence, hvalue]
  · intro ⟨houtside, decision, hdecision, hportfolio, hfirst, hlast, hevidence⟩
    obtain ⟨interval, hinterval, hday⟩ :=
      MembershipDecision.exists_fragment hfirst hlast houtside
    obtain ⟨hid, hvalue, _⟩ := MembershipDecision.mem_fragments hinterval
    refine ⟨interval.segment, ?_, hid.trans hportfolio, hday.1, hday.2, hvalue.trans hevidence⟩
    exact List.mem_map_of_mem (mem_sortedFragments.mpr ⟨decision, hdecision, hinterval⟩)

/-! ## Days and intervals -/

/-- The decision begins and ends in the calendar. -/
def MembershipDecision.InCalendar (decision : MembershipDecision) : Prop :=
  1 ≤ decision.effectiveFrom.ordinal ∧ decision.lastOrdinal ≤ dateMaxOrdinal

theorem MembershipDecision.Dated.inCalendar (h : decision.Dated) : decision.InCalendar := by
  refine ⟨h.1.bounds.1, ?_⟩
  unfold MembershipDecision.lastOrdinal
  cases hlast : decision.effectiveTo with
  | none => exact le_refl _
  | some last => exact (h.2 last hlast).bounds.2

theorem MembershipDecision.inForce_iff (hday : day ≤ dateMaxOrdinal) : decision.InForce day ↔
      decision.effectiveFrom.ordinal ≤ day ∧ day ≤ decision.lastOrdinal := by
  unfold MembershipDecision.InForce MembershipDecision.lastOrdinal
  refine and_congr Iff.rfl ?_
  cases decision.effectiveTo with
  | none => simpa using hday
  | some last => simp

/-- What a revision needs for its intervals to stand for its days. -/
structure Regular (decisions : List MembershipDecision) : Prop where
  valid : ∀ decision ∈ decisions, decision.validate = .ok ()
  disjoint : WindowsDisjoint decisions
  calendar : ∀ decision ∈ decisions, decision.InCalendar

theorem MembershipRevision.Accepted.regular (h : revision.Accepted) (hdated : revision.Dated) :
    Regular revision.decisions where
  valid := h.windows.1
  disjoint := h.windows.2.1
  calendar := fun decision hmem => (hdated decision hmem).inCalendar

theorem Regular.holds_iff (h : Regular decisions) (hday : CalendarDay day)
    (houtside : day < start ∨ finish < day) :
    Segments.Holds ((sortedFragments decisions start finish).map DecisionInterval.segment)
        portfolioId day evidence ↔ evidenceOn decisions portfolioId day = some evidence := by
  rw [holds_sortedFragments, evidenceOn_eq_some_iff h.disjoint, and_iff_right houtside]
  refine exists_congr fun decision => and_congr Iff.rfl (and_congr Iff.rfl ?_)
  rw [MembershipDecision.inForce_iff hday.2, and_assoc]

theorem Regular.day_of_holds (h : Regular decisions)
    (hholds : Segments.Holds ((sortedFragments decisions start finish).map DecisionInterval.segment)
      portfolioId day evidence) : CalendarDay day ∧ (day < start ∨ finish < day) := by
  obtain ⟨houtside, decision, hmem, _, hfirst, hlast, _⟩ := holds_sortedFragments.mp hholds
  obtain ⟨hmin, hmax⟩ := h.calendar decision hmem
  exact ⟨⟨by omega, by omega⟩, houtside⟩

/-- The intervals of two revisions are equal exactly when the evidence of every day outside the window
is. -/
theorem unaffectedIntervals_eq_iff {parent : MembershipRevision}
    (hparent : Regular parent.decisions) (hrevision : Regular revision.decisions)
    (hwindow : start ≤ finish) :
    unaffectedIntervals parent start finish = unaffectedIntervals revision start finish ↔
      ∀ portfolioId day, CalendarDay day → (day < start ∨ finish < day) →
        evidenceOn parent.decisions portfolioId day =
          evidenceOn revision.decisions portfolioId day := by
  have hnormal : unaffectedIntervals parent start finish =
      unaffectedIntervals revision start finish ↔
        ∀ portfolioId day evidence,
          Segments.Holds ((sortedFragments parent.decisions start finish).map
              DecisionInterval.segment) portfolioId day evidence ↔
            Segments.Holds ((sortedFragments revision.decisions start finish).map
              DecisionInterval.segment) portfolioId day evidence := by
    rw [← Segments.merge_eq_iff (ordered_sortedFragments hparent.valid hparent.disjoint hwindow)
      (ordered_sortedFragments hrevision.valid hrevision.disjoint hwindow),
      ← map_mergeIntervals, ← map_mergeIntervals,
      (List.map_injective_iff.mpr DecisionInterval.segment_injective).eq_iff]
    rfl
  rw [hnormal]
  constructor
  · intro h portfolioId day hday houtside
    apply Option.ext
    intro evidence
    rw [← hparent.holds_iff hday houtside, ← hrevision.holds_iff hday houtside]
    exact h portfolioId day evidence
  · intro h portfolioId day evidence
    constructor
    · intro hholds
      obtain ⟨hday, houtside⟩ := hparent.day_of_holds hholds
      rw [hrevision.holds_iff hday houtside, ← h portfolioId day hday houtside,
        ← hparent.holds_iff hday houtside]
      exact hholds
    · intro hholds
      obtain ⟨hday, houtside⟩ := hrevision.day_of_holds hholds
      rw [hparent.holds_iff hday houtside, h portfolioId day hday houtside,
        ← hrevision.holds_iff hday houtside]
      exact hholds

/-- A correction passes exactly when it declares a window, and outside it, on every day of the
calendar, every portfolio has the evidence that it has in the parent. -/
theorem requireCorrectionWindow_iff (parent revision : MembershipRevision)
    (hparent : parent.Accepted) (hrevision : revision.Accepted) (hparentDated : parent.Dated)
    (hrevisionDated : revision.Dated) :
    requireCorrectionWindow parent revision = .ok () ↔
      ∃ first ∈ revision.affectedFrom, ∃ last ∈ revision.affectedTo,
        ∀ portfolioId day, CalendarDay day → (day < first.ordinal ∨ last.ordinal < day) →
          evidenceOn parent.decisions portfolioId day =
            evidenceOn revision.decisions portfolioId day := by
  unfold requireCorrectionWindow
  cases hfrom : revision.affectedFrom with
  | none => simp
  | some first =>
    cases hto : revision.affectedTo with
    | none => simp
    | some last =>
      have hwindow := hrevision.windows.2.2 first hfrom last hto
      dsimp only
      rw [ensure_eq_ok_iff, decide_eq_true_iff, unaffectedIntervals_eq_iff
        (hparent.regular hparentDated) (hrevision.regular hrevisionDated) hwindow]
      simp

/-- A revision with the decisions, that corrects the window. -/
def windowedRevision (name : String) (decisions : List MembershipDecision)
    (window : Option (String × BusinessDate × BusinessDate)) : MembershipRevision where
  tenantId := "T1"
  compositeId := "C1"
  definitionVersion := "1"
  membershipRevision := name
  policyVersion := "1"
  sourceCutId := "cut"
  decisions := decisions
  decidedAt := .utc 0
  decidedBy := "owner"
  correlationId := "correlation"
  supersedesMembershipRevision := window.map (·.1)
  affectedFrom := window.map (·.2.1)
  affectedTo := window.map (·.2.2)

/-- One open-ended decision. -/
def wholeParent : MembershipRevision :=
  windowedRevision "r1"
    [{ portfolioId := "P1"
       effectiveFrom := ⟨"2024-01-01", 738886⟩
       sourceSnapshotId := "S1" }] none

/-- The same decision, but for February, and split in March. -/
def splitCorrection : MembershipRevision :=
  windowedRevision "r2"
    [{ portfolioId := "P1"
       effectiveFrom := ⟨"2024-03-16", 738961⟩
       sourceSnapshotId := "S1" },
      { portfolioId := "P1"
        effectiveFrom := ⟨"2024-01-01", 738886⟩
        effectiveTo := some ⟨"2024-01-31", 738916⟩
        sourceSnapshotId := "S1" },
      { portfolioId := "P1"
        effectiveFrom := ⟨"2024-03-01", 738946⟩
        effectiveTo := some ⟨"2024-03-15", 738960⟩
        sourceSnapshotId := "S1" }]
    (some ("r1", ⟨"2024-02-01", 738917⟩, ⟨"2024-02-29", 738945⟩))

theorem requireCorrectionWindow_iff_split :
    requireCorrectionWindow wholeParent splitCorrection = .ok () ↔
      ∃ first ∈ splitCorrection.affectedFrom, ∃ last ∈ splitCorrection.affectedTo,
        ∀ portfolioId day, CalendarDay day → (day < first.ordinal ∨ last.ordinal < day) →
          evidenceOn wholeParent.decisions portfolioId day =
            evidenceOn splitCorrection.decisions portfolioId day :=
  requireCorrectionWindow_iff wholeParent splitCorrection (by decide +kernel) (by decide +kernel)
    (by decide +kernel) (by decide +kernel)

example : requireCorrectionWindow wholeParent splitCorrection = .ok () := by decide +kernel

end LotusManage.Composites
