import Mathlib.Data.List.Sort

/-!
# Segments

A value in force over a closed range of days, under a key: a list of segments stands for the
partial function from keys and days to values.  Merging a segment with the next one, when they touch
and have one value, gives a normal form: two lists of segments in order, however they are split, have
the same normal form exactly when they stand for the same function (`merge_eq_iff`).
-/

namespace LotusManage

/-- The value is in force from the first day to the last, both included. -/
structure Segment (κ α : Type) where
  key : κ
  first : Int
  last : Int
  value : α
  deriving DecidableEq

namespace Segments

variable {κ α : Type} [LinearOrder κ] [DecidableEq α]

/-- The value is in force on the day. -/
def Holds (segments : List (Segment κ α)) (key : κ) (day : Int) (value : α) : Prop :=
  ∃ s ∈ segments, s.key = key ∧ s.first ≤ day ∧ day ≤ s.last ∧ s.value = value

/-- The first segment ends before the second begins, or has a smaller key. -/
def Before (s t : Segment κ α) : Prop := s.key < t.key ∨ (s.key = t.key ∧ s.last < t.first)

/-- The second segment goes on where the first one ends. -/
def Continues (s t : Segment κ α) : Prop :=
  s.key = t.key ∧ s.last + 1 = t.first ∧ s.value = t.value

instance (s t : Segment κ α) : Decidable (Continues s t) :=
  inferInstanceAs (Decidable (_ ∧ _ ∧ _))

/-- Segments in order, none of them empty. -/
structure Ordered (segments : List (Segment κ α)) : Prop where
  nonempty : ∀ s ∈ segments, s.first ≤ s.last
  apart : segments.Pairwise Before

/-- No segment continues the one before it. -/
def Normal : List (Segment κ α) → Prop
  | s :: t :: rest => ¬ Continues s t ∧ Normal (t :: rest)
  | _ => True

/-- A segment in front of a list in normal form. -/
def push (s : Segment κ α) : List (Segment κ α) → List (Segment κ α)
  | [] => [s]
  | t :: rest => if Continues s t then { s with last := t.last } :: rest else s :: t :: rest

variable {s t : Segment κ α} {segments xs ys : List (Segment κ α)} {key : κ} {day : Int} {value : α}

theorem push_cons (s t : Segment κ α) (rest : List (Segment κ α)) :
    push s (t :: rest) =
      if Continues s t then { s with last := t.last } :: rest else s :: t :: rest := rfl

/-- The normal form. -/
def merge : List (Segment κ α) → List (Segment κ α)
  | [] => []
  | s :: rest => push s (merge rest)

omit [LinearOrder κ] [DecidableEq α] in
theorem holds_cons : Holds (s :: segments) key day value ↔
      (s.key = key ∧ s.first ≤ day ∧ day ≤ s.last ∧ s.value = value) ∨
        Holds segments key day value := by
  simp [Holds]

omit [DecidableEq α] in
theorem Ordered.tail (h : Ordered (s :: segments)) : Ordered segments where
  nonempty := fun t ht => h.nonempty t (List.mem_cons_of_mem _ ht)
  apart := (List.pairwise_cons.mp h.apart).2

omit [DecidableEq α] in
/-- Of two segments without a common day, the one that begins first comes before the other. -/
theorem before_of_first_le (ht : t.first ≤ t.last)
    (hle : s.key < t.key ∨ (s.key = t.key ∧ s.first ≤ t.first))
    (hapart : s.key = t.key → s.last < t.first ∨ t.last < s.first) : Before s t := by
  cases hle with
  | inl hlt => exact .inl hlt
  | inr hle =>
    refine .inr ⟨hle.1, ?_⟩
    have hday := hapart hle.1
    have hfirst := hle.2
    omega

/-! ## Merging -/

/-- What is in force stays in force. -/
theorem holds_push (hs : s.first ≤ s.last) (hsegments : ∀ t ∈ segments, t.first ≤ t.last) (key : κ)
    (day : Int) (value : α) :
    Holds (push s segments) key day value ↔ Holds (s :: segments) key day value := by
  cases segments with
  | nil => rfl
  | cons t rest =>
    rw [push_cons]
    split
    · rename_i hcontinues
      obtain ⟨hkey, hday, hvalue⟩ := hcontinues
      have ht := hsegments t List.mem_cons_self
      rw [holds_cons, holds_cons, holds_cons, ← hkey, ← hvalue, ← or_assoc]
      refine or_congr ?_ Iff.rfl
      dsimp only
      constructor
      · intro ⟨hk, hfirst, hlast, hv⟩
        by_cases hle : day ≤ s.last
        · exact .inl ⟨hk, hfirst, hle, hv⟩
        · exact .inr ⟨hk, by omega, hlast, hv⟩
      · intro h
        cases h with
        | inl h => exact ⟨h.1, h.2.1, by omega, h.2.2.2⟩
        | inr h => exact ⟨h.1, by omega, h.2.2.1, h.2.2.2⟩
    · rfl

omit [DecidableEq α] in
/-- What is in force in a later list is after the segment. -/
theorem before_of_holds (h : ∀ t ∈ segments, Before s t) (ht : Holds segments t.key t.first t.value) :
    Before s t := by
  obtain ⟨x, hx, hkey, hfirst, _, _⟩ := ht
  have hbefore := h x hx
  unfold Before at hbefore ⊢
  rw [← hkey]
  cases hbefore with
  | inl hlt => exact .inl hlt
  | inr hlt => exact .inr ⟨hlt.1, by omega⟩

theorem ordered_push (h : Ordered (s :: segments)) : Ordered (push s segments) := by
  cases segments with
  | nil => exact h
  | cons t rest =>
    rw [push_cons]
    split
    · rename_i hcontinues
      have hs := h.nonempty s List.mem_cons_self
      have ht := h.nonempty t (List.mem_cons_of_mem _ List.mem_cons_self)
      have hrest := List.pairwise_cons.mp h.tail.apart
      constructor
      · intro x hx
        cases List.mem_cons.mp hx with
        | inl hx =>
          subst hx
          have hday := hcontinues.2.1
          show s.first ≤ t.last
          omega
        | inr hx => exact h.tail.tail.nonempty x hx
      · refine List.pairwise_cons.mpr ⟨?_, hrest.2⟩
        intro x hx
        have hbefore := hrest.1 x hx
        unfold Before at hbefore ⊢
        rw [← hcontinues.1] at hbefore
        exact hbefore
    · exact h

theorem normal_push (h : Normal segments) : Normal (push s segments) := by
  cases segments with
  | nil => trivial
  | cons t rest =>
    rw [push_cons]
    split
    · rename_i hcontinues
      cases rest with
      | nil => trivial
      | cons u rest =>
        refine ⟨?_, h.2⟩
        intro hnext
        apply h.1
        exact ⟨hcontinues.1.symm.trans hnext.1, hnext.2.1, hcontinues.2.2.symm.trans hnext.2.2⟩
    · rename_i hapart
      exact ⟨hapart, h⟩

/-- The normal form is in order, no segment of it continues another, and it stands for the same
function. -/
theorem merge_spec (h : Ordered segments) :
    Ordered (merge segments) ∧ Normal (merge segments) ∧
      ∀ key day value, Holds (merge segments) key day value ↔ Holds segments key day value := by
  induction segments with
  | nil => exact ⟨h, trivial, fun _ _ _ => Iff.rfl⟩
  | cons s rest ih =>
    obtain ⟨hordered, hnormal, hholds⟩ := ih h.tail
    have hs := h.nonempty s List.mem_cons_self
    have hcons : Ordered (s :: merge rest) := by
      constructor
      · exact List.forall_mem_cons.mpr ⟨hs, hordered.nonempty⟩
      · refine List.pairwise_cons.mpr ⟨?_, hordered.apart⟩
        intro t ht
        apply before_of_holds (List.pairwise_cons.mp h.apart).1
        apply (hholds _ _ _).mp
        exact ⟨t, ht, rfl, le_refl _, hordered.nonempty t ht, rfl⟩
    refine ⟨ordered_push hcons, normal_push hnormal, ?_⟩
    intro key day value
    show Holds (push s (merge rest)) key day value ↔ _
    rw [holds_push hs hordered.nonempty, holds_cons, holds_cons, hholds]

/-! ## Uniqueness -/

omit [DecidableEq α] in
/-- A day of the first segment is a day of no other. -/
theorem not_holds_of_first (h : Ordered (s :: segments)) (hday : day ≤ s.last) (value : α) :
    ¬ Holds segments s.key day value := by
  intro hholds
  obtain ⟨t, ht, hkey, hfirst, _, _⟩ := hholds
  have hbefore := (List.pairwise_cons.mp h.apart).1 t ht
  cases hbefore with
  | inl hlt => exact absurd hkey (ne_of_gt hlt)
  | inr hlt =>
    have hlast := hlt.2
    omega

omit [DecidableEq α] in
/-- Nothing of a list in order begins before its first segment. -/
theorem first_le_of_holds (h : Ordered (s :: segments))
    (hholds : Holds (s :: segments) key day value) :
    s.key < key ∨ (s.key = key ∧ s.first ≤ day) := by
  cases holds_cons.mp hholds with
  | inl hs => exact .inr ⟨hs.1, hs.2.1⟩
  | inr hrest =>
    obtain ⟨t, ht, hkey, hfirst, _, _⟩ := hrest
    have hs := h.nonempty s List.mem_cons_self
    have hbefore := (List.pairwise_cons.mp h.apart).1 t ht
    unfold Before at hbefore
    rw [hkey] at hbefore
    cases hbefore with
    | inl hlt => exact .inl hlt
    | inr hlt => exact .inr ⟨hlt.1, by omega⟩

omit [DecidableEq α] in
theorem holds_first (h : Ordered (s :: segments)) : Holds (s :: segments) s.key s.first s.value :=
  ⟨s, List.mem_cons_self, rfl, le_refl _, h.nonempty s List.mem_cons_self, rfl⟩

omit [DecidableEq α] in
/-- In a normal form the value of the first segment ends with it. -/
theorem not_holds_after_first (h : Ordered (s :: segments)) (hnormal : Normal (s :: segments)) :
    ¬ Holds (s :: segments) s.key (s.last + 1) s.value := by
  intro hholds
  cases holds_cons.mp hholds with
  | inl hs =>
    have hday := hs.2.2.1
    omega
  | inr hrest =>
    cases segments with
    | nil =>
      obtain ⟨t, ht, _⟩ := hrest
      cases ht
    | cons t rest =>
      have hbefore := (List.pairwise_cons.mp h.apart).1 t List.mem_cons_self
      have ht := h.tail.nonempty t List.mem_cons_self
      have hle := first_le_of_holds h.tail hrest
      have hkey : s.key = t.key := by
        cases hbefore with
        | inl hlt =>
          cases hle with
          | inl hgt => exact absurd hgt (not_lt_of_gt hlt)
          | inr heq => exact heq.1.symm
        | inr heq => exact heq.1
      have hfirst : s.last + 1 = t.first := by
        cases hbefore with
        | inl hlt => exact absurd hkey (ne_of_lt hlt)
        | inr hlt =>
          cases hle with
          | inl hgt => exact absurd hkey.symm (ne_of_lt hgt)
          | inr hle =>
            have := hlt.2
            have := hle.2
            omega
      -- the segment that holds on the day after the first is the next one
      cases holds_cons.mp hrest with
      | inl hnext => exact hnormal.1 ⟨hkey, hfirst, hnext.2.2.2.symm⟩
      | inr hlater =>
        rw [hkey] at hlater
        exact not_holds_of_first h.tail (by omega) _ hlater

omit [DecidableEq α] in
/-- The first segment of a normal form is as long as the function lets it be. -/
theorem last_le_of_holds (hxs : Ordered (s :: xs)) (hnormal : Normal (s :: xs))
    (hkey : s.key = t.key) (hfirst : s.first = t.first) (hvalue : s.value = t.value)
    (h : ∀ key day value, Holds (t :: ys) key day value → Holds (s :: xs) key day value) :
    t.last ≤ s.last := by
  apply le_of_not_gt
  intro hlonger
  have hs := hxs.nonempty s List.mem_cons_self
  apply not_holds_after_first hxs hnormal
  apply h
  exact ⟨t, List.mem_cons_self, hkey.symm, by omega, by omega, hvalue.symm⟩

omit [DecidableEq α] in
theorem holds_tail (hxs : Ordered (s :: xs))
    (h : ∀ key day value, Holds (s :: xs) key day value → Holds (s :: ys) key day value)
    (hholds : Holds xs key day value) : Holds ys key day value := by
  cases holds_cons.mp (h key day value (holds_cons.mpr (.inr hholds))) with
  | inl hs =>
    obtain ⟨hkey, _, hlast, _⟩ := hs
    rw [← hkey] at hholds
    exact absurd hholds (not_holds_of_first hxs hlast value)
  | inr hys => exact hys

omit [LinearOrder κ] [DecidableEq α] in
theorem Normal.tail (h : Normal (s :: segments)) : Normal segments := by
  cases segments with
  | nil => trivial
  | cons t rest => exact h.2

omit [DecidableEq α] in
/-- Two normal forms that stand for the same function are equal. -/
theorem eq_of_holds (hxs : Ordered xs) (hys : Ordered ys) (hnx : Normal xs) (hny : Normal ys)
    (h : ∀ key day value, Holds xs key day value ↔ Holds ys key day value) : xs = ys := by
  induction xs generalizing ys with
  | nil =>
    cases ys with
    | nil => rfl
    | cons t ys =>
      obtain ⟨x, hx, _⟩ := (h _ _ _).mpr (holds_first hys)
      cases hx
  | cons s xs ih =>
    cases ys with
    | nil =>
      obtain ⟨x, hx, _⟩ := (h _ _ _).mp (holds_first hxs)
      cases hx
    | cons t ys =>
      have hst := first_le_of_holds hys ((h _ _ _).mp (holds_first hxs))
      have hts := first_le_of_holds hxs ((h _ _ _).mpr (holds_first hys))
      have hkey : s.key = t.key := by
        cases hst with
        | inl hlt =>
          cases hts with
          | inl hgt => exact absurd hgt (not_lt_of_gt hlt)
          | inr heq => exact heq.1
        | inr heq => exact heq.1.symm
      have hfirst : s.first = t.first := by
        cases hst with
        | inl hlt => exact absurd hkey (ne_of_gt hlt)
        | inr hst =>
          cases hts with
          | inl hlt => exact absurd hkey (ne_of_lt hlt)
          | inr hts => exact le_antisymm hts.2 hst.2
      have hvalue : s.value = t.value := by
        have hheld := (h _ _ _).mp (holds_first hxs)
        rw [hkey, hfirst] at hheld
        cases holds_cons.mp hheld with
        | inl ht => exact ht.2.2.2.symm
        | inr hlater =>
          have ht := hys.nonempty t List.mem_cons_self
          exact absurd hlater (not_holds_of_first hys ht _)
      have hlast : s.last = t.last := by
        apply le_antisymm
        · exact last_le_of_holds hys hny hkey.symm hfirst.symm hvalue.symm
            (fun key day value => (h key day value).mp)
        · exact last_le_of_holds hxs hnx hkey hfirst hvalue
            (fun key day value => (h key day value).mpr)
      have hsame : s = t := by
        cases s
        cases t
        simp_all
      subst hsame
      congr 1
      apply ih hxs.tail hys.tail hnx.tail hny.tail
      intro key day value
      constructor
      · exact holds_tail hxs (fun key day value => (h key day value).mp)
      · exact holds_tail hys (fun key day value => (h key day value).mpr)

/-- **The normal form is canonical.** -/
theorem merge_eq_iff (hxs : Ordered xs) (hys : Ordered ys) :
    merge xs = merge ys ↔ ∀ key day value, Holds xs key day value ↔ Holds ys key day value := by
  obtain ⟨hmx, hnx, hhx⟩ := merge_spec hxs
  obtain ⟨hmy, hny, hhy⟩ := merge_spec hys
  constructor
  · intro heq key day value
    rw [← hhx, heq, hhy]
  · intro h
    apply eq_of_holds hmx hmy hnx hny
    intro key day value
    rw [hhx, hhy, h]

end Segments

end LotusManage
