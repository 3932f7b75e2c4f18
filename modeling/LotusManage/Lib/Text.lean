import Mathlib.Data.List.DropRight

/-!
# Text

The operations of Python's `str` that the model uses and that Lean's strings do not have.
They work on the list of code points, so that closed terms compute.
-/

namespace LotusManage.Text

/-- `str.isspace` of one code point: the characters that `str.strip` removes. -/
def isSpace (c : Char) : Bool :=
  let n := c.toNat
  (9 ≤ n && n ≤ 13) || (28 ≤ n && n ≤ 32) || n == 0x85 || n == 0xa0 || n == 0x1680 ||
    (0x2000 ≤ n && n ≤ 0x200a) || n == 0x2028 || n == 0x2029 || n == 0x202f || n == 0x205f ||
    n == 0x3000

/-- The code points without the spaces at both ends. -/
def stripList (text : List Char) : List Char :=
  ((text.dropWhile isSpace).reverse.dropWhile isSpace).reverse

/-- `str.strip` -/
def strip (text : String) : String := String.ofList (stripList text.toList)

variable {text text' rest rest' : String}

/-- Stripping twice is stripping once. -/
theorem stripList_stripList (text : List Char) : stripList (stripList text) = stripList text := by
  have hstrip : ∀ cs, stripList cs = (cs.dropWhile isSpace).rdropWhile isSpace := fun _ => rfl
  -- what is left of the first `dropWhile` begins as the whole does
  have hfront : ((text.dropWhile isSpace).rdropWhile isSpace).dropWhile isSpace =
      (text.dropWhile isSpace).rdropWhile isSpace := by
    obtain ⟨rest, hrest⟩ := List.rdropWhile_prefix isSpace (text.dropWhile isSpace)
    cases hcs : (text.dropWhile isSpace).rdropWhile isSpace with
    | nil => rfl
    | cons c cs =>
      have hhead : ¬ isSpace c = true := by
        have hnot := List.head?_dropWhile_not isSpace text
        rw [← hrest, hcs] at hnot
        simpa using hnot
      rw [List.dropWhile_cons_of_neg hhead]
  rw [hstrip, hstrip, hfront, List.rdropWhile_idempotent]

@[simp] theorem strip_strip (text : String) : strip (strip text) = strip text := by
  rw [strip, strip, String.toList_ofList, stripList_stripList]

/-- `"|".join` and the like. -/
def join (separator : String) : List String → String
  | [] => ""
  | [text] => text
  | text :: texts => text ++ separator ++ join separator texts

/-- `text[:n]` -/
def take (n : Nat) (text : String) : String := String.ofList (text.toList.take n)

/-- `str.split` at one character. -/
def split (separator : Char) : List Char → List (List Char)
  | [] => [[]]
  | c :: cs =>
    if c = separator then [] :: split separator cs
    else
      match split separator cs with
      | [] => [[c]]
      | part :: parts => (c :: part) :: parts

/-! ## Upper case -/

/-- `str.upper` of one code point of Latin-1, which is what a header value consists of. -/
def upperChar (c : Char) : List Char :=
  let n := c.toNat
  if (97 ≤ n ∧ n ≤ 122) ∨ (224 ≤ n ∧ n ≤ 254 ∧ n ≠ 247) then [Char.ofNat (n - 32)]
  else if n = 223 then ['S', 'S']
  else if n = 181 then [Char.ofNat 924]
  else if n = 255 then [Char.ofNat 376]
  else [c]

/-- `str.upper` -/
def upper (text : String) : String := String.ofList (text.toList.flatMap upperChar)

/-- A text that stripping leaves alone has no space at either end. -/
theorem stripList_eq_self_iff {text : List Char} :
    stripList text = text ↔ text.dropWhile isSpace = text ∧ text.rdropWhile isSpace = text := by
  have hstrip : stripList text = (text.dropWhile isSpace).rdropWhile isSpace := rfl
  rw [hstrip]
  constructor
  · intro h
    have hsuffix := List.dropWhile_suffix isSpace (l := text)
    have hprefix := List.rdropWhile_prefix isSpace (text.dropWhile isSpace)
    rw [h] at hprefix
    have hfront : text.dropWhile isSpace = text :=
      hsuffix.eq_of_length (Nat.le_antisymm hsuffix.length_le hprefix.length_le)
    rw [hfront] at h
    exact ⟨hfront, h⟩
  · rintro ⟨hfront, hback⟩
    rw [hfront, hback]

/-- A text without spaces has nothing to strip. -/
theorem strip_eq_self_of_no_space (h : ∀ c ∈ text.toList, isSpace c = false) :
    strip text = text := by
  have hlist : stripList text.toList = text.toList := by
    apply stripList_eq_self_iff.mpr
    constructor
    · apply List.dropWhile_eq_self_iff.mpr
      intro hlength
      rw [h _ (List.getElem_mem hlength)]
      exact Bool.false_ne_true
    · apply List.rdropWhile_eq_self_iff.mpr
      intro hne
      rw [h _ (List.getLast_mem hne)]
      exact Bool.false_ne_true
  rw [strip, hlist, String.ofList_toList]

/-- A text with a character that is no space is not blank. -/
theorem strip_ne_empty {c : Char} (hmem : c ∈ text.toList) (hc : isSpace c = false) :
    strip text ≠ "" := by
  intro hblank
  have hlist : stripList text.toList = [] := by
    have htoList := congrArg String.toList hblank
    rw [strip, String.toList_ofList] at htoList
    exact htoList
  rw [stripList, List.reverse_eq_nil_iff, List.dropWhile_eq_nil_iff] at hlist
  have hrest : text.toList.dropWhile isSpace = [] := by
    cases hcs : text.toList.dropWhile isSpace with
    | nil => rfl
    | cons d ds =>
      have hhead := List.head?_dropWhile_not isSpace text.toList
      rw [hcs] at hhead hlist
      rw [List.head?_cons] at hhead
      exact absurd (hlist d (List.mem_reverse.mpr List.mem_cons_self)) (by simpa using hhead)
  rw [List.dropWhile_eq_nil_iff] at hrest
  have hspace := hrest c hmem
  rw [hc] at hspace
  cases hspace

/-- Whether characters are free of spaces can be computed. -/
theorem no_space_of_all {cs : List Char} (h : cs.all (fun c => !isSpace c) = true) :
    ∀ c ∈ cs, isSpace c = false := by
  intro c hc
  simpa using List.all_eq_true.mp h c hc

/-- Upper case keeps what is no space, and drops nothing. -/
theorem upperChar_cases (c : Char) :
    ∃ d ds, upperChar c = d :: ds ∧ (isSpace c = false → ∀ e ∈ d :: ds, isSpace e = false) := by
  unfold upperChar
  dsimp only
  split
  · rename_i hletter
    refine ⟨_, _, rfl, ?_⟩
    intro _ e he
    rw [List.mem_singleton.mp he]
    have hall : ∀ n : Fin 256, (97 ≤ n.val ∧ n.val ≤ 122) ∨
        (224 ≤ n.val ∧ n.val ≤ 254 ∧ n.val ≠ 247) →
          isSpace (Char.ofNat (n.val - 32)) = false := by
      decide +kernel
    have hlt : c.toNat < 256 := by omega
    exact hall ⟨c.toNat, hlt⟩ hletter
  split
  · exact ⟨_, _, rfl, fun _ => no_space_of_all (by decide +kernel)⟩
  split
  · exact ⟨_, _, rfl, fun _ => no_space_of_all (by decide +kernel)⟩
  split
  · exact ⟨_, _, rfl, fun _ => no_space_of_all (by decide +kernel)⟩
  · refine ⟨_, _, rfl, ?_⟩
    intro hc e he
    rw [List.mem_singleton.mp he]
    exact hc

/-- The upper case of a stripped text is stripped. -/
theorem strip_upper_strip (text : String) : strip (upper (strip text)) = upper (strip text) := by
  unfold strip upper
  rw [String.toList_ofList, String.toList_ofList]
  congr 1
  obtain ⟨hfront, hback⟩ := stripList_eq_self_iff.mp (stripList_stripList text.toList)
  generalize stripList text.toList = cs at hfront hback
  rw [List.dropWhile_eq_self_iff] at hfront
  rw [List.rdropWhile_eq_self_iff] at hback
  apply stripList_eq_self_iff.mpr
  rw [List.dropWhile_eq_self_iff, List.rdropWhile_eq_self_iff]
  constructor
  · intro hlength
    cases cs with
    | nil => cases hlength
    | cons c cs =>
      have hc : isSpace c = false := Bool.eq_false_iff.mpr (hfront (Nat.zero_lt_succ _))
      obtain ⟨d, ds, hupper, hkeep⟩ := upperChar_cases c
      simp only [List.flatMap_cons, hupper, List.cons_append, List.getElem_cons_zero]
      rw [hkeep hc d List.mem_cons_self]
      exact Bool.false_ne_true
  · intro hne
    rcases List.eq_nil_or_concat' cs with rfl | ⟨init, c, rfl⟩
    · exact absurd rfl hne
    · have hlast := hback (List.concat_ne_nil _ _)
      rw [List.getLast_append_singleton] at hlast
      have hc : isSpace c = false := Bool.eq_false_iff.mpr hlast
      obtain ⟨d, ds, hupper, hkeep⟩ := upperChar_cases c
      have hend : (List.flatMap upperChar (init ++ [c])).getLast hne ∈ d :: ds := by
        simp only [List.flatMap_append, List.flatMap_singleton, hupper]
        rw [List.getLast_append_of_ne_nil _ (List.cons_ne_nil d ds)]
        exact List.getLast_mem _
      rw [hkeep hc _ hend]
      exact Bool.false_ne_true

/-! ## Joined texts -/

/-- What stands before the first separator, and what stands behind it. -/
theorem append_cons_inj {α : Type*} {separator : α} : ∀ {cs ds rest rest' : List α},
    cs ++ separator :: rest = ds ++ separator :: rest' → separator ∉ cs → separator ∉ ds →
      cs = ds ∧ rest = rest'
  | [], [], _, _, h, _, _ => ⟨rfl, (List.cons.inj h).2⟩
  | [], d :: ds, _, _, h, _, hds => by
    rw [List.nil_append, List.cons_append] at h
    exact absurd ((List.cons.inj h).1 ▸ List.mem_cons_self) hds
  | c :: cs, [], _, _, h, hcs, _ => by
    rw [List.nil_append, List.cons_append] at h
    exact absurd ((List.cons.inj h).1 ▸ List.mem_cons_self) hcs
  | c :: cs, d :: ds, _, _, h, hcs, hds => by
    obtain ⟨hchar, htail⟩ := List.cons.inj h
    obtain ⟨hcs', hrest⟩ := append_cons_inj htail (fun hmem => hcs (List.mem_cons_of_mem _ hmem))
      (fun hmem => hds (List.mem_cons_of_mem _ hmem))
    exact ⟨by rw [hchar, hcs'], hrest⟩

/-- A text without the separator is determined by the joined text that it begins. -/
theorem append_inj_of_notMem {separator : Char}
    (h : text ++ String.singleton separator ++ rest = text' ++ String.singleton separator ++ rest')
    (hfree : separator ∉ text.toList) (hfree' : separator ∉ text'.toList) :
    text = text' ∧ rest = rest' := by
  have hlist := congrArg String.toList h
  simp only [String.toList_append, String.toList_singleton, List.append_assoc,
    List.singleton_append] at hlist
  obtain ⟨htext, hrest⟩ := append_cons_inj hlist hfree hfree'
  exact ⟨String.toList_inj.mp htext, String.toList_inj.mp hrest⟩

/-- Texts of one length are determined by what they begin. -/
theorem append_inj (h : text ++ rest = text' ++ rest')
    (hlength : text.toList.length = text'.toList.length) : text = text' ∧ rest = rest' := by
  have hlist := congrArg String.toList h
  rw [String.toList_append, String.toList_append] at hlist
  obtain ⟨htext, hrest⟩ := List.append_inj hlist hlength
  exact ⟨String.toList_inj.mp htext, String.toList_inj.mp hrest⟩

/-- Texts that end in texts of one length are determined by what they end. -/
theorem append_inj_right (h : text ++ rest = text' ++ rest')
    (hlength : rest.toList.length = rest'.toList.length) : text = text' ∧ rest = rest' := by
  have hlist := congrArg String.toList h
  rw [String.toList_append, String.toList_append] at hlist
  obtain ⟨htext, hrest⟩ := List.append_inj' hlist hlength
  exact ⟨String.toList_inj.mp htext, String.toList_inj.mp hrest⟩

example : strip "  a b \n" = "a b" := by decide +kernel

end LotusManage.Text
