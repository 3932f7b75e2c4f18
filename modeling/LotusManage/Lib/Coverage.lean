import Mathlib.Data.List.Sort

/-!
# Coverage of days

Closed windows of days, given by their first and last days, and two loops that go through them once in
the order of their first days, with the last day that is covered so far: one asks whether the windows
leave no day of a range out (`covers_iff`), the other whether they are a partition of it
(`tileEnd_eq_some_iff`).
-/

namespace LotusManage.Coverage

/-- The day lies in the window. -/
def Contains (window : Int × Int) (day : Int) : Prop := window.1 ≤ day ∧ day ≤ window.2

instance (window : Int × Int) (day : Int) : Decidable (Contains window day) :=
  inferInstanceAs (Decidable (_ ∧ _))

/-- In how many of the windows the day lies. -/
def cover (windows : List (Int × Int)) (day : Int) : Nat :=
  windows.countP (fun window => Contains window day)

variable {windows : List (Int × Int)} {covered : Int}

theorem cover_cons (window : Int × Int) (windows : List (Int × Int)) (day : Int) :
    cover (window :: windows) day =
      cover windows day + if window.1 ≤ day ∧ day ≤ window.2 then 1 else 0 := by
  rw [cover, List.countP_cons]
  simp only [cover, decide_eq_true_eq]
  rfl

theorem cover_pos_iff {day : Int} :
    0 < cover windows day ↔ ∃ window ∈ windows, window.1 ≤ day ∧ day ≤ window.2 := by
  rw [cover, List.countP_pos_iff]
  simp only [decide_eq_true_eq]
  rfl

/-- Before the first of the first days nothing is covered. -/
theorem cover_eq_zero_of_lt {day : Int} (h : ∀ window ∈ windows, day < window.1) :
    cover windows day = 0 := by
  apply Nat.eq_zero_of_not_pos
  intro hpos
  obtain ⟨window, hmem, hday, _⟩ := cover_pos_iff.mp hpos
  have hlt := h window hmem
  omega

/-! ## No gap -/

/-- Whether the windows leave no day after `covered` out, up to the last day. -/
def covers (last : Int) : Int → List (Int × Int) → Bool
  | _, [] => false
  | covered, (first, finish) :: windows =>
    if covered + 1 < first then false
    else if last ≤ max covered finish then true
    else covers last (max covered finish) windows

theorem covers_iff {last : Int} (hsorted : windows.Pairwise (fun a b => a.1 ≤ b.1))
    (hcovered : covered < last) :
    covers last covered windows = true ↔
      ∀ day, covered < day → day ≤ last → ∃ window ∈ windows, window.1 ≤ day ∧ day ≤ window.2 := by
  induction windows generalizing covered with
  | nil =>
    constructor
    · intro h
      cases h
    · intro h
      obtain ⟨window, hmem, _⟩ := h last hcovered (le_refl _)
      cases hmem
  | cons window windows ih =>
    obtain ⟨first, finish⟩ := window
    obtain ⟨hfirst, hrest⟩ := List.pairwise_cons.mp hsorted
    rw [covers]
    by_cases hgap : covered + 1 < first
    · -- no window begins by the next day
      rw [if_pos hgap]
      constructor
      · intro h
        cases h
      · intro h
        obtain ⟨window, hmem, hday⟩ := h (covered + 1) (by omega) (by omega)
        cases List.mem_cons.mp hmem with
        | inl heq =>
          rw [heq] at hday
          have hday := hday.1
          dsimp only at hday
          omega
        | inr hlater =>
          have hle := hfirst window hlater
          dsimp only at hle
          omega
    · rw [if_neg hgap]
      by_cases hend : last ≤ max covered finish
      · rw [if_pos hend]
        refine iff_of_true rfl ?_
        intro day hday hlast
        exact ⟨_, List.mem_cons_self, by dsimp only; omega, by dsimp only; omega⟩
      · rw [if_neg hend, ih hrest (by omega)]
        constructor
        · intro h day hday hlast
          by_cases hle : day ≤ finish
          · exact ⟨_, List.mem_cons_self, by dsimp only; omega, hle⟩
          · obtain ⟨window, hmem, hin⟩ := h day (by omega) hlast
            exact ⟨window, List.mem_cons_of_mem _ hmem, hin⟩
        · intro h day hday hlast
          obtain ⟨window, hmem, hin⟩ := h day (by omega) hlast
          cases List.mem_cons.mp hmem with
          | inl heq =>
            rw [heq] at hin
            have hle := hin.2
            dsimp only at hle
            omega
          | inr hlater => exact ⟨window, hlater, hin⟩

/-! ## Partition -/

/-- The last day of windows of which each begins on the day after the one before it. -/
def tileEnd : Int → List (Int × Int) → Option Int
  | covered, [] => some covered
  | covered, (first, last) :: windows =>
    if first = covered + 1 then tileEnd last windows else none

theorem le_of_tileEnd (hvalid : ∀ window ∈ windows, window.1 ≤ window.2) {finish : Int}
    (h : tileEnd covered windows = some finish) : covered ≤ finish := by
  induction windows generalizing covered with
  | nil =>
    cases h
    exact le_refl _
  | cons window windows ih =>
    obtain ⟨first, last⟩ := window
    rw [tileEnd] at h
    split at h
    · have hle := ih (fun w hw => hvalid w (List.mem_cons_of_mem _ hw)) h
      have hwindow := hvalid _ List.mem_cons_self
      dsimp only at hwindow
      omega
    · cases h

/-- The windows are a partition of the days after `covered`, up to the last one. -/
theorem tileEnd_eq_some_iff (hvalid : ∀ window ∈ windows, window.1 ≤ window.2)
    (hsorted : windows.Pairwise (fun a b => a.1 ≤ b.1)) {finish : Int} (hle : covered ≤ finish) :
    tileEnd covered windows = some finish ↔
      ∀ day, cover windows day = if covered < day ∧ day ≤ finish then 1 else 0 := by
  induction windows generalizing covered with
  | nil =>
    rw [tileEnd, Option.some.injEq]
    constructor
    · intro h day
      rw [if_neg (by omega)]
      rfl
    · intro h
      by_contra hne
      have hday := h finish
      rw [if_pos (by omega)] at hday
      cases hday
  | cons window windows ih =>
    obtain ⟨first, last⟩ := window
    obtain ⟨hfirst, hrest⟩ := List.pairwise_cons.mp hsorted
    have hwindow := hvalid _ List.mem_cons_self
    have hvalid' : ∀ window ∈ windows, window.1 ≤ window.2 :=
      fun w hw => hvalid w (List.mem_cons_of_mem _ hw)
    dsimp only at hwindow
    rw [tileEnd]
    by_cases hnext : first = covered + 1
    · rw [if_pos hnext]
      by_cases hlast : last ≤ finish
      · rw [ih hvalid' hrest hlast]
        refine forall_congr' fun day => ?_
        rw [cover_cons]
        dsimp only
        split <;> split <;> split <;> omega
      · -- the window goes past the end
        constructor
        · intro h
          exact absurd (le_of_tileEnd hvalid' h) hlast
        · intro h
          have hday := h last
          rw [cover_cons, if_pos ⟨hwindow, le_refl _⟩, if_neg (by omega)] at hday
          omega
    · rw [if_neg hnext]
      refine iff_of_false (fun h => by cases h) ?_
      intro h
      by_cases hoverlap : first ≤ covered
      · have hday := h first
        rw [cover_cons, if_pos ⟨le_refl _, hwindow⟩, if_neg (by omega)] at hday
        omega
      · by_cases hmore : covered < finish
        · -- nothing begins on the next day
          have hday := h (covered + 1)
          rw [if_pos (by omega), cover_eq_zero_of_lt] at hday
          · cases hday
          · refine List.forall_mem_cons.mpr ⟨by dsimp only; omega, ?_⟩
            intro window hmem
            have hle := hfirst window hmem
            dsimp only at hle
            omega
        · have hday := h first
          rw [cover_cons, if_pos ⟨le_refl _, hwindow⟩, if_neg (by omega)] at hday
          omega

end LotusManage.Coverage
