import Mathlib.Tactic.Common

/-!
# Loops

A `while True` loop is its body: what one pass over a state does, which is to go on with another
state, to leave the loop with a result, or to raise.  `iterate body fuel s` makes at most `fuel`
passes and is `none` when these were not enough.

`iterate_mono` says that passes to spare change nothing, and `iterate_terminates` that a measure
which falls with every pass bounds the passes: the two together make the fuel harmless.
`iterate_last` hands an invariant of the passes to the last one.
-/

namespace LotusManage.Loops

variable {σ ε β : Type}

/-- What a pass over the body comes to, unless it raises. -/
inductive Pass (σ β : Type) where
  | more (s : σ)
  | done (result : β)

/-- At most `fuel` passes. -/
def iterate (body : σ → Except ε (Pass σ β)) : Nat → σ → Option (Except ε β)
  | 0, _ => none
  | fuel + 1, s =>
    match body s with
    | .error e => some (.error e)
    | .ok (.done result) => some (.ok result)
    | .ok (.more t) => iterate body fuel t

variable {body : σ → Except ε (Pass σ β)} {fuel : Nat} {s t : σ}

variable {r : Except ε β}

theorem iterate_succ_eq : iterate body (fuel + 1) s =
    match body s with
    | .error e => some (.error e)
    | .ok (.done result) => some (.ok result)
    | .ok (.more t) => iterate body fuel t := rfl

theorem iterate_succ_error {e : ε} (h : body s = .error e) :
    iterate body (fuel + 1) s = some (.error e) := by
  rw [iterate_succ_eq, h]

theorem iterate_succ_done {result : β} (h : body s = .ok (.done result)) :
    iterate body (fuel + 1) s = some (.ok result) := by
  rw [iterate_succ_eq, h]

theorem iterate_succ_more (h : body s = .ok (.more t)) :
    iterate body (fuel + 1) s = iterate body fuel t := by
  rw [iterate_succ_eq, h]

/-- One more pass to spare changes nothing. -/
theorem iterate_succ (h : iterate body fuel s = some r) : iterate body (fuel + 1) s = some r := by
  induction fuel generalizing s with
  | zero => cases h
  | succ fuel ih =>
    cases hbody : body s with
    | error e =>
      rw [iterate_succ_error hbody] at h
      rw [iterate_succ_error hbody, h]
    | ok pass =>
      cases pass with
      | done result =>
        rw [iterate_succ_done hbody] at h
        rw [iterate_succ_done hbody, h]
      | more t =>
        rw [iterate_succ_more hbody] at h
        rw [iterate_succ_more hbody]
        exact ih h

/-- Passes to spare change nothing. -/
theorem iterate_mono {fuel' : Nat} (hle : fuel ≤ fuel') (h : iterate body fuel s = some r) :
    iterate body fuel' s = some r := by
  induction hle with
  | refl => exact h
  | step _ ih => exact iterate_succ ih

/-- A loop whose measure falls with every pass that goes on makes at most one pass more than the
measure of the state it starts in. -/
theorem iterate_terminates (inv : σ → Prop) (measure : σ → Nat)
    (hstep : ∀ a b, inv a → body a = .ok (.more b) → inv b ∧ measure b < measure a)
    (hs : inv s) (hfuel : measure s < fuel) : ∃ r, iterate body fuel s = some r := by
  induction fuel generalizing s with
  | zero => omega
  | succ fuel ih =>
    cases hbody : body s with
    | error e => exact ⟨_, iterate_succ_error hbody⟩
    | ok pass =>
      cases pass with
      | done result => exact ⟨_, iterate_succ_done hbody⟩
      | more t =>
        obtain ⟨hinv, hlt⟩ := hstep s t hs hbody
        rw [iterate_succ_more hbody]
        exact ih hinv (by omega)

/-- The pass in which a loop ends: it starts where the invariant of the passes holds. -/
theorem iterate_last (inv : σ → Prop) (hstep : ∀ a b, inv a → body a = .ok (.more b) → inv b)
    (hs : inv s) (h : iterate body fuel s = some r) : ∃ t, inv t ∧ body t = r.map Pass.done := by
  induction fuel generalizing s with
  | zero => cases h
  | succ fuel ih =>
    cases hbody : body s with
    | error e =>
      rw [iterate_succ_error hbody] at h
      cases h
      exact ⟨s, hs, hbody⟩
    | ok pass =>
      cases pass with
      | done result =>
        rw [iterate_succ_done hbody] at h
        cases h
        exact ⟨s, hs, hbody⟩
      | more t =>
        rw [iterate_succ_more hbody] at h
        exact ih (hstep s t hs hbody) h

end LotusManage.Loops
