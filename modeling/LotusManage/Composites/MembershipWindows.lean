import LotusManage.Composites.Membership
import LotusManage.Lib.IsoDates
import LotusManage.Lib.Tables
import Mathlib.Data.List.Dedup

/-!
# Membership windows

Which membership windows `_validate_decision_windows` accepts.  It compares each window with the next
one in the order of the texts of their first days, so what it accepts is disjoint whatever the spelling
of the dates (`windowsDisjoint_of_validate`).  Disjoint windows are accepted when the order of the texts
is the order of the days; a day has several texts, and windows that mix them can be refused
(`validate_iff_disjoint_iff`).
-/

namespace LotusManage.Composites

/-! ## Days of a decision -/

/-- The text is one that `date.fromisoformat` reads as the day. -/
def BusinessDate.Reads (date : BusinessDate) : Prop :=
  IsoDate.fromisoformat date.text = some date.ordinal

instance (date : BusinessDate) : Decidable date.Reads :=
  inferInstanceAs (Decidable (_ = _))

variable {date : BusinessDate} {decision a b : MembershipDecision}
  {decisions : List MembershipDecision}

theorem BusinessDate.Reads.bounds (h : date.Reads) :
    1 ≤ date.ordinal ∧ date.ordinal ≤ dateMaxOrdinal :=
  IsoDate.fromisoformat_bounds h

theorem BusinessDate.Reads.ordinal_eq {other : BusinessDate} (h : date.Reads) (h' : other.Reads)
    (htext : date.text = other.text) : date.ordinal = other.ordinal := by
  unfold BusinessDate.Reads at h h'
  rw [htext, h'] at h
  exact (Option.some.inj h).symm

/-- The dates of the decision are dates. -/
def MembershipDecision.Dated (decision : MembershipDecision) : Prop :=
  decision.effectiveFrom.Reads ∧ ∀ last ∈ decision.effectiveTo, last.Reads

instance (decision : MembershipDecision) : Decidable decision.Dated :=
  inferInstanceAs (Decidable (_ ∧ ∀ last ∈ decision.effectiveTo, last.Reads))

/-- The day is in the window of the decision, which has no end when there is no last day. -/
def MembershipDecision.InForce (decision : MembershipDecision) (day : Int) : Prop :=
  decision.effectiveFrom.ordinal ≤ day ∧ ∀ last ∈ decision.effectiveTo, day ≤ last.ordinal

/-- The window of one decision ends before that of the other begins. -/
def Precedes (a b : MembershipDecision) : Prop :=
  ∃ last ∈ a.effectiveTo, last.ordinal < b.effectiveFrom.ordinal

/-- Decisions on one portfolio have no day in common. -/
def Apart (a b : MembershipDecision) : Prop :=
  a.portfolioId = b.portfolioId → ∀ day, ¬ (a.InForce day ∧ b.InForce day)

/-- The windows of each portfolio are pairwise disjoint. -/
def WindowsDisjoint (decisions : List MembershipDecision) : Prop := decisions.Pairwise Apart

/-- For each portfolio, the texts of the first days are in the order of the days. -/
def TextOrdered (decisions : List MembershipDecision) : Prop :=
  ∀ a ∈ decisions, ∀ b ∈ decisions, a.portfolioId = b.portfolioId →
    a.effectiveFrom.ordinal < b.effectiveFrom.ordinal → a.effectiveFrom.text < b.effectiveFrom.text

theorem MembershipDecision.window_of_validate (h : decision.validate = .ok ()) :
    ∀ last ∈ decision.effectiveTo, decision.effectiveFrom.ordinal ≤ last.ordinal := by
  unfold MembershipDecision.validate at h
  obtain ⟨_, _, h⟩ := Checks.bind_eq_ok h
  obtain ⟨_, hwindow, _⟩ := Checks.bind_eq_ok h
  have hall := (ensure_eq_ok_iff _ _).mp hwindow
  intro last hlast
  rw [Option.mem_def.mp hlast] at hall
  simpa using hall

theorem MembershipDecision.inForce_first (h : decision.validate = .ok ()) :
    decision.InForce decision.effectiveFrom.ordinal :=
  ⟨le_refl _, decision.window_of_validate h⟩

theorem Apart.symm (h : Apart a b) : Apart b a := by
  intro hportfolio day hday
  exact h hportfolio.symm day ⟨hday.2, hday.1⟩

theorem Precedes.apart (h : Precedes a b) : Apart a b := by
  intro _ day hday
  obtain ⟨last, hlast, hbefore⟩ := h
  have ha := hday.1.2 last hlast
  have hb := hday.2.1
  omega

theorem Precedes.trans {c : MembershipDecision} (hb : b.validate = .ok ()) (hab : Precedes a b)
    (hbc : Precedes b c) : Precedes a c := by
  obtain ⟨last, hlast, hbefore⟩ := hab
  obtain ⟨last', hlast', hbefore'⟩ := hbc
  have hwindow := b.window_of_validate hb last' hlast'
  exact ⟨last, hlast, by omega⟩

theorem Precedes.ordinal_lt (ha : a.validate = .ok ()) (h : Precedes a b) :
    a.effectiveFrom.ordinal < b.effectiveFrom.ordinal := by
  obtain ⟨last, hlast, hbefore⟩ := h
  have hwindow := a.window_of_validate ha last hlast
  omega

theorem Apart.precedes (h : Apart a b) (hportfolio : a.portfolioId = b.portfolioId)
    (ha : a.validate = .ok ()) (hb : b.validate = .ok ()) : Precedes a b ∨ Precedes b a := by
  by_contra hnot
  rw [not_or] at hnot
  -- otherwise the later of the first days is in both windows
  apply h hportfolio (max a.effectiveFrom.ordinal b.effectiveFrom.ordinal)
  constructor
  · refine ⟨le_max_left _ _, ?_⟩
    intro last hlast
    have hwindow := a.window_of_validate ha last hlast
    apply max_le hwindow
    apply le_of_not_gt
    exact fun hlt => hnot.1 ⟨last, hlast, hlt⟩
  · refine ⟨le_max_right _ _, ?_⟩
    intro last hlast
    have hwindow := b.window_of_validate hb last hlast
    refine max_le ?_ hwindow
    apply le_of_not_gt
    exact fun hlt => hnot.2 ⟨last, hlast, hlt⟩

/-! ## One portfolio -/

theorem windowsApart_cons_cons (a b : MembershipDecision) (rest : List MembershipDecision) :
    windowsApart (a :: b :: rest) = true ↔ Precedes a b ∧ windowsApart (b :: rest) = true := by
  rw [windowsApart, Bool.and_eq_true]
  refine and_congr ?_ Iff.rfl
  simp [Precedes, Option.any_eq_true]

theorem windowsApart_iff (hvalid : ∀ decision ∈ decisions, decision.validate = .ok ()) :
    windowsApart decisions = true ↔ decisions.Pairwise Precedes := by
  induction decisions with
  | nil => simp [windowsApart]
  | cons a decisions ih =>
    have ih := ih (fun decision hmem => hvalid decision (List.mem_cons_of_mem _ hmem))
    cases decisions with
    | nil => simp [windowsApart]
    | cons b rest =>
      rw [windowsApart_cons_cons, ih, List.pairwise_cons (a := a)]
      have hb := hvalid b (List.mem_cons_of_mem _ List.mem_cons_self)
      constructor
      · intro ⟨hab, hrest⟩
        refine ⟨List.forall_mem_cons.mpr ⟨hab, ?_⟩, hrest⟩
        intro c hc
        exact hab.trans hb ((List.pairwise_cons.mp hrest).1 c hc)
      · intro ⟨hall, hrest⟩
        exact ⟨hall b List.mem_cons_self, hrest⟩

/-- The decisions on a portfolio, in the order of the texts of their first days. -/
def orderedDecisions (decisions : List MembershipDecision) (portfolioId : String) :
    List MembershipDecision :=
  (decisions.filter (·.portfolioId = portfolioId)).insertionSort
    (fun a b => a.effectiveFrom.text ≤ b.effectiveFrom.text)

theorem mem_orderedDecisions {portfolioId : String} :
    decision ∈ orderedDecisions decisions portfolioId ↔
      decision ∈ decisions ∧ decision.portfolioId = portfolioId := by
  simp [orderedDecisions]

theorem validateDecisionWindows_eq_ok_iff (decisions : List MembershipDecision) :
    validateDecisionWindows decisions = .ok () ↔
      ∀ portfolioId, windowsApart (orderedDecisions decisions portfolioId) = true := by
  unfold validateDecisionWindows
  rw [ensure_eq_ok_iff, List.all_eq_true]
  constructor
  · intro h portfolioId
    by_cases hmem : portfolioId ∈ decisions.map MembershipDecision.portfolioId
    · exact h portfolioId (List.mem_dedup.mpr hmem)
    · have hnone : decisions.filter (·.portfolioId = portfolioId) = [] := by
        apply List.filter_eq_nil_iff.mpr
        intro decision hdecision hportfolio
        apply hmem
        rw [← of_decide_eq_true hportfolio]
        exact List.mem_map_of_mem hdecision
      rw [orderedDecisions, hnone]
      rfl
  · intro h portfolioId _
    exact h portfolioId

/-! ## All decisions -/

theorem windowsDisjoint_iff (decisions : List MembershipDecision) :
    WindowsDisjoint decisions ↔
      ∀ portfolioId, (orderedDecisions decisions portfolioId).Pairwise Apart := by
  have hsorted : ∀ portfolioId, (orderedDecisions decisions portfolioId).Pairwise Apart ↔
      (decisions.filter (·.portfolioId = portfolioId)).Pairwise Apart := by
    intro portfolioId
    exact (List.perm_insertionSort _ _).pairwise_iff Apart.symm
  constructor
  · intro h portfolioId
    rw [hsorted]
    exact h.filter _
  · intro h
    apply List.pairwise_iff_forall_sublist.mpr
    intro a b hsublist hportfolio
    -- the two are a sublist of the decisions on their portfolio
    have hpair := hsublist.filter (·.portfolioId = a.portfolioId)
    rw [List.filter_cons_of_pos (by simp), List.filter_cons_of_pos (by simp [hportfolio])] at hpair
    have hapart := ((hsorted a.portfolioId).mp (h a.portfolioId)).sublist hpair
    exact (List.pairwise_pair.mp hapart) hportfolio

theorem windowsDisjoint_of_validate (hvalid : ∀ decision ∈ decisions, decision.validate = .ok ())
    (h : validateDecisionWindows decisions = .ok ()) : WindowsDisjoint decisions := by
  rw [windowsDisjoint_iff]
  intro portfolioId
  have hwindows := (validateDecisionWindows_eq_ok_iff decisions).mp h portfolioId
  rw [windowsApart_iff] at hwindows
  · exact hwindows.imp Precedes.apart
  · exact fun decision hmem => hvalid decision (mem_orderedDecisions.mp hmem).1

theorem textOrdered_of_validate (hvalid : ∀ decision ∈ decisions, decision.validate = .ok ())
    (hdated : ∀ decision ∈ decisions, decision.Dated)
    (h : validateDecisionWindows decisions = .ok ()) : TextOrdered decisions := by
  intro a ha b hb hportfolio hbefore
  have hwindows := (validateDecisionWindows_eq_ok_iff decisions).mp h b.portfolioId
  have hmem : ∀ decision ∈ orderedDecisions decisions b.portfolioId,
      decision.validate = .ok () ∧ decision.Dated := by
    intro decision hdecision
    have hdecision := (mem_orderedDecisions.mp hdecision).1
    exact ⟨hvalid decision hdecision, hdated decision hdecision⟩
  rw [windowsApart_iff (fun decision hdecision => (hmem decision hdecision).1)] at hwindows
  have hsorted := pairwise_insertionSort_rank (fun d : MembershipDecision => d.effectiveFrom.text)
    (decisions.filter (·.portfolioId = b.portfolioId))
  -- of two decisions the one that comes first in the sorted list begins before the other
  have hpair : (orderedDecisions decisions b.portfolioId).Pairwise (fun x y =>
      (x.effectiveFrom.ordinal < y.effectiveFrom.ordinal →
        x.effectiveFrom.text < y.effectiveFrom.text) ∧
      (y.effectiveFrom.ordinal < x.effectiveFrom.ordinal →
        y.effectiveFrom.text < x.effectiveFrom.text)) := by
    refine (hwindows.and hsorted).imp_of_mem ?_
    intro x y hx hy hxy
    obtain ⟨hprecedes, htext⟩ := hxy
    have hordinal := hprecedes.ordinal_lt (hmem x hx).1
    constructor
    · intro hlt
      apply lt_of_le_of_ne htext
      intro heq
      have hsame := (hmem x hx).2.1.ordinal_eq (hmem y hy).2.1 heq
      omega
    · intro hgt
      omega
  have hall := hpair.forall_of_forall_of_flip
    (fun x _ => ⟨fun h => absurd h (lt_irrefl _), fun h => absurd h (lt_irrefl _)⟩)
    (hpair.imp (fun h => ⟨h.2, h.1⟩))
  exact (hall (mem_orderedDecisions.mpr ⟨ha, hportfolio⟩)
    (mem_orderedDecisions.mpr ⟨hb, rfl⟩)).1 hbefore

theorem validate_of_textOrdered (hvalid : ∀ decision ∈ decisions, decision.validate = .ok ())
    (hdisjoint : WindowsDisjoint decisions) (htext : TextOrdered decisions) :
    validateDecisionWindows decisions = .ok () := by
  rw [validateDecisionWindows_eq_ok_iff]
  intro portfolioId
  have hmem : ∀ decision ∈ orderedDecisions decisions portfolioId,
      decision ∈ decisions ∧ decision.portfolioId = portfolioId :=
    fun decision hdecision => mem_orderedDecisions.mp hdecision
  rw [windowsApart_iff (fun decision hdecision => hvalid decision (hmem decision hdecision).1)]
  have hsorted := pairwise_insertionSort_rank (fun d : MembershipDecision => d.effectiveFrom.text)
    (decisions.filter (·.portfolioId = portfolioId))
  have hapart := (windowsDisjoint_iff decisions).mp hdisjoint portfolioId
  refine (hapart.and hsorted).imp_of_mem ?_
  intro a b ha hb hab
  obtain ⟨ha, haid⟩ := hmem a ha
  obtain ⟨hb, hbid⟩ := hmem b hb
  have hportfolio : a.portfolioId = b.portfolioId := haid.trans hbid.symm
  cases hab.1.precedes hportfolio (hvalid a ha) (hvalid b hb) with
  | inl hprecedes => exact hprecedes
  | inr hprecedes =>
    -- the second window would be the earlier one, and so would its text
    have hordinal := hprecedes.ordinal_lt (hvalid b hb)
    have hlt := htext b hb a ha hportfolio.symm hordinal
    exact absurd hlt (not_lt_of_ge hab.2)

/-- The check accepts exactly the disjoint windows, unless the windows are disjoint and the texts of
the first days of some portfolio are not in the order of the days. -/
theorem validate_iff_disjoint_iff (decisions : List MembershipDecision)
    (hvalid : ∀ decision ∈ decisions, decision.validate = .ok ())
    (hdated : ∀ decision ∈ decisions, decision.Dated) :
    (validateDecisionWindows decisions = .ok () ↔ WindowsDisjoint decisions) ↔
      (WindowsDisjoint decisions → TextOrdered decisions) := by
  constructor
  · intro hexact hdisjoint
    exact textOrdered_of_validate hvalid hdated (hexact.mpr hdisjoint)
  · intro htext
    constructor
    · exact windowsDisjoint_of_validate hvalid
    · intro hdisjoint
      exact validate_of_textOrdered hvalid hdisjoint (htext hdisjoint)

/-- Two decisions on one portfolio with their dates in one form. -/
def januaryDecisions : List MembershipDecision :=
  [{ portfolioId := "P1"
     effectiveFrom := ⟨"2024-02-01", 738917⟩
     sourceSnapshotId := "S1" },
    { portfolioId := "P1"
      effectiveFrom := ⟨"2024-01-01", 738886⟩
      effectiveTo := some ⟨"2024-01-31", 738916⟩
      sourceSnapshotId := "S1" }]

theorem validate_iff_disjoint_iff_january :
    (validateDecisionWindows januaryDecisions = .ok () ↔ WindowsDisjoint januaryDecisions) ↔
      (WindowsDisjoint januaryDecisions → TextOrdered januaryDecisions) :=
  validate_iff_disjoint_iff januaryDecisions (by decide +kernel) (by decide +kernel)

/-- January and everything from February on, with the dates spelled in two ways. -/
def mixedDecisions : List MembershipDecision :=
  [{ portfolioId := "P1"
     effectiveFrom := ⟨"20240101", 738886⟩
     effectiveTo := some ⟨"20240131", 738916⟩
     sourceSnapshotId := "S1" },
    { portfolioId := "P1"
      effectiveFrom := ⟨"2024-02-01", 738917⟩
      sourceSnapshotId := "S1" }]

theorem mixedDecisions_valid : (∀ decision ∈ mixedDecisions, decision.validate = .ok ()) ∧
    ∀ decision ∈ mixedDecisions, decision.Dated := by
  constructor
  · decide +kernel
  · decide +kernel

theorem mixedDecisions_disjoint : WindowsDisjoint mixedDecisions := by
  apply List.pairwise_pair.mpr
  apply Precedes.apart
  exact ⟨_, rfl, by decide⟩

/-- Disjoint windows are refused: the text of the first of February sorts before that of the first of
January. -/
theorem mixedDecisions_refused :
    ((∀ decision ∈ mixedDecisions, decision.validate = .ok ()) ∧
      ∀ decision ∈ mixedDecisions, decision.Dated) ∧
    ¬ (validateDecisionWindows mixedDecisions = .ok () ↔ WindowsDisjoint mixedDecisions) := by
  refine ⟨mixedDecisions_valid, ?_⟩
  intro hexact
  have haccepted := hexact.mpr mixedDecisions_disjoint
  revert haccepted
  decide +kernel

end LotusManage.Composites
