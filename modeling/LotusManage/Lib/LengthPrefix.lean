import LotusManage.Lib.Text

/-!
# Length-prefixed encodings

Lists over one alphabet are joined, each behind its length and a separator.  The length is written
with a `header`; the items may hold separators and headers of their own.

* `frame_append_inj`: what follows an item starts where the item ends, so the item and the rest can
  be read back.
* `encode_injective`: the joined text determines the items, and how many there are.
-/

namespace LotusManage.LengthPrefix

variable {α : Type*} {header : Nat → List α} {separator : α}

/-- An item behind its length. -/
def frame (header : Nat → List α) (separator : α) (item : List α) : List α :=
  header item.length ++ separator :: item

/-- The items one after the other. -/
def encode (header : Nat → List α) (separator : α) (items : List (List α)) : List α :=
  (items.map (frame header separator)).flatten

@[simp] theorem encode_nil : encode header separator [] = [] := rfl

@[simp] theorem encode_cons (item : List α) (items : List (List α)) :
    encode header separator (item :: items) =
      frame header separator item ++ encode header separator items := rfl

theorem frame_ne_nil (item : List α) : frame header separator item ≠ [] := by
  simp [frame]

section Injective

variable (hheader : Function.Injective header) (hfree : ∀ n, separator ∉ header n)
include hheader hfree

/-- The first item and what follows it can be read back: the header ends at the first separator,
and it says where the item ends. -/
theorem frame_append_inj {a b s t : List α}
    (h : frame header separator a ++ s = frame header separator b ++ t) : a = b ∧ s = t := by
  rw [frame, frame, List.append_assoc, List.append_assoc, List.cons_append, List.cons_append] at h
  obtain ⟨hlength, hrest⟩ := Text.append_cons_inj h (hfree a.length) (hfree b.length)
  exact List.append_inj hrest (hheader hlength)

theorem encode_injective : Function.Injective (encode header separator) := by
  intro items others h
  induction items generalizing others with
  | nil =>
    cases others with
    | nil => rfl
    | cons b others =>
      rw [encode_nil, encode_cons, eq_comm, List.append_eq_nil_iff] at h
      exact absurd h.1 (frame_ne_nil b)
  | cons a items ih =>
    cases others with
    | nil =>
      rw [encode_nil, encode_cons, List.append_eq_nil_iff] at h
      exact absurd h.1 (frame_ne_nil a)
    | cons b others =>
      rw [encode_cons, encode_cons] at h
      obtain ⟨rfl, hrest⟩ := frame_append_inj hheader hfree h
      rw [ih hrest]

end Injective

end LotusManage.LengthPrefix
