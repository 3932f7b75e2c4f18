import LotusManage.Lib.Loops
import LotusManage.Lib.SqlLexemes

/-!
# Splitting a migration into statements

`_split_sql_statements` of `postgres_migrations.py`, which runs an index over the text and keeps in flags
which quoted construct it is in.

* `completes_cutAt`: from the start of a lexeme the loop comes to its end without a cut.
* `migration_split_exact`: the pieces are what lies between the semicolons of the text.
-/

namespace LotusManage.Migrations

open Loops Sql

/-! ## Texts by index -/

/-- `sql.startswith(text, index)` -/
def startsWith (sql text : List Char) (index : Nat) : Bool := text.isPrefixOf (sql.drop index)

/-- `sql.find(c, index)` -/
def find (sql : List Char) (c : Char) (index : Nat) : Option Nat :=
  ((sql.drop index).idxOf? c).map (index + ·)

/-- `sql[start:stop]` -/
def slice (sql : List Char) (start stop : Nat) : List Char := (sql.drop start).take (stop - start)

/-- The tables behind `str.isalpha` and `str.isalnum`. -/
structure CharClasses where
  isalpha : Char → Bool
  isalnum : Char → Bool
  isalpha_ascii : ∀ c, c.toNat < 128 → isalpha c = c.isAlpha
  isalnum_ascii : ∀ c, c.toNat < 128 → isalnum c = c.isAlphanum

/-! ## The loop -/

/-- `_advance_line_comment_sql` -/
def advanceLineCommentSql (sql : List Char) (index : Nat) : Nat :=
  match find sql '\n' index with
  | none => sql.length
  | some newline => newline + 1

/-- The loop of `_advance_block_comment_sql`. -/
def blockCommentLoop (sql : List Char) (depth : Int) (index : Nat) : Nat :=
  if index < sql.length then
    if startsWith sql ['/', '*'] index then blockCommentLoop sql (depth + 1) (index + 2)
    else if startsWith sql ['*', '/'] index then
      if depth - 1 = 0 then index + 2 else blockCommentLoop sql (depth - 1) (index + 2)
    else blockCommentLoop sql depth (index + 1)
  else index
termination_by sql.length - index

/-- `_advance_block_comment_sql` -/
def advanceBlockCommentSql (sql : List Char) (index : Nat) : Nat := blockCommentLoop sql 0 index

/-- `_advance_dollar_quoted_sql` -/
def advanceDollarQuotedSql (sql : List Char) (index : Nat) (dollarTag : List Char) :
    Nat × Option (List Char) :=
  if startsWith sql dollarTag index then (index + dollarTag.length, none)
  else (index + 1, some dollarTag)

/-- `_advance_single_quoted_sql` -/
def advanceSingleQuotedSql (sql : List Char) (index : Nat) : Nat × Bool :=
  let char := sql[index]?
  if char = some '\'' ∧ index + 1 < sql.length ∧ sql[index + 1]? = some '\'' then (index + 2, true)
  else if char = some '\'' then (index + 1, false)
  else (index + 1, true)

/-- `_advance_double_quoted_sql` -/
def advanceDoubleQuotedSql (sql : List Char) (index : Nat) : Nat × Bool :=
  if sql[index]? = some '\x22' then (index + 1, false) else (index + 1, true)

/-- What `_dollar_quote_tag_at` takes between two dollar signs. -/
def isTagBody (classes : CharClasses) : List Char → Bool
  | [] => true
  | first :: rest => (classes.isalpha first || first == '_') &&
      (first :: rest).all (fun char => classes.isalnum char || char == '_')

/-- `_dollar_quote_tag_at` -/
def dollarQuoteTagAt (classes : CharClasses) (sql : List Char) (index : Nat) : Option (List Char) :=
  match find sql '$' (index + 1) with
  | none => none
  | some stop =>
    if isTagBody classes (slice sql (index + 1) stop) then some (slice sql index (stop + 1))
    else none

/-- The variables of the loop of `_split_sql_statements`. -/
structure Cursor where
  statements : List (List Char) := []
  start : Nat := 0
  index : Nat := 0
  dollarTag : Option (List Char) := none
  inSingleQuote : Bool := false
  inDoubleQuote : Bool := false

/-- One pass of the loop, over the character at the index. -/
def advance (classes : CharClasses) (sql : List Char) (s : Cursor) (char : Char) : Cursor :=
  match s.dollarTag with
  | some tag =>
    let (index, dollarTag) := advanceDollarQuotedSql sql s.index tag
    { s with index := index, dollarTag := dollarTag }
  | none =>
    if s.inSingleQuote then
      let (index, inSingleQuote) := advanceSingleQuotedSql sql s.index
      { s with index := index, inSingleQuote := inSingleQuote }
    else if s.inDoubleQuote then
      let (index, inDoubleQuote) := advanceDoubleQuotedSql sql s.index
      { s with index := index, inDoubleQuote := inDoubleQuote }
    else if char = '\'' then { s with inSingleQuote := true, index := s.index + 1 }
    else if char = '\x22' then { s with inDoubleQuote := true, index := s.index + 1 }
    else match if char = '$' then dollarQuoteTagAt classes sql s.index else none with
      | some tag => { s with dollarTag := some tag, index := s.index + tag.length }
      | none =>
        if startsWith sql ['-', '-'] s.index then
          { s with index := advanceLineCommentSql sql s.index }
        else if startsWith sql ['/', '*'] s.index then
          { s with index := advanceBlockCommentSql sql s.index }
        else if char = ';' then
          { s with
            statements := s.statements ++ [slice sql s.start s.index]
            start := s.index + 1
            index := s.index + 1 }
        else { s with index := s.index + 1 }

/-- A pass of the loop, or its end with the last piece. -/
def splitPass (classes : CharClasses) (sql : List Char) (s : Cursor) :
    Except Empty (Pass Cursor (List (List Char))) :=
  match sql[s.index]? with
  | none => .ok (.done (s.statements ++ [sql.drop s.start]))
  | some char => .ok (.more (advance classes sql s char))

/-- `_split_sql_statements` -/
def splitSqlStatements (classes : CharClasses) (sql : List Char) :
    Option (Except Empty (List (List Char))) :=
  iterate (splitPass classes sql) (sql.length + 1) {}

/-! ## The text from an index on -/

section Texts

variable {sql text rest : List Char} {index : Nat}

variable {c : Char}

theorem startsWith_eq_true_iff : startsWith sql text index = true ↔ text <+: sql.drop index :=
  List.isPrefixOf_iff_prefix

theorem drop_add (h : sql.drop index = text ++ rest) : sql.drop (index + text.length) = rest := by
  rw [← List.drop_drop, h, List.drop_left]

theorem drop_succ (h : sql.drop index = c :: rest) : sql.drop (index + 1) = rest := by
  have hsingle : sql.drop index = [c] ++ rest := h
  exact drop_add hsingle

theorem getElem?_of_drop (h : sql.drop index = c :: rest) : sql[index]? = some c := by
  rw [← List.head?_drop, h, List.head?_cons]

theorem getElem?_of_drop_nil (h : sql.drop index = []) : sql[index]? = none := by
  rw [← List.head?_drop, h, List.head?_nil]

theorem index_lt_of_drop (h : sql.drop index = c :: rest) : index < sql.length := by
  by_contra hend
  rw [List.drop_eq_nil_of_le (Nat.le_of_not_lt hend)] at h
  cases h

theorem find_of_drop (h : sql.drop index = text ++ c :: rest) (htext : c ∉ text) :
    find sql c index = some (index + text.length) := by
  have hfound : (text ++ c :: rest).idxOf? c = some text.length := by
    clear h
    induction text with
    | nil => rw [List.nil_append, List.idxOf?_cons, if_pos (beq_self_eq_true c)]; rfl
    | cons d text ih =>
      rw [List.mem_cons, not_or] at htext
      rw [List.cons_append, List.idxOf?_cons, ih htext.2,
        if_neg (by rw [beq_iff_eq]; exact fun hd => htext.1 hd.symm)]
      rfl
  rw [find, h, hfound]
  rfl

theorem find_eq_none (h : c ∉ sql.drop index) : find sql c index = none := by
  rw [find, List.idxOf?_eq_none_iff.mpr h]
  rfl

theorem slice_of_drop (h : sql.drop index = text ++ rest) :
    slice sql index (index + text.length) = text := by
  rw [slice, h, Nat.add_sub_cancel_left, List.take_left]

theorem slice_append {start : Nat} (hstart : start ≤ index) (h : sql.drop index = text ++ rest) :
    slice sql start (index + text.length) = slice sql start index ++ text := by
  have hdrop : (sql.drop start).drop (index - start) = text ++ rest := by
    rw [List.drop_drop, Nat.add_sub_of_le hstart, h]
  rw [slice, slice, show index + text.length - start = index - start + text.length by omega,
    List.take_add, hdrop, List.take_left]

end Texts

/-! ## The loop ends -/

section Ending

variable {classes : CharClasses} {sql : List Char}

variable {index : Nat} {tag : List Char}

theorem le_blockCommentLoop (sql : List Char) (depth : Int) (index : Nat) :
    index ≤ blockCommentLoop sql depth index := by
  induction depth, index using blockCommentLoop.induct sql with
  | case1 depth index hlt hopening ih =>
    rw [blockCommentLoop, if_pos hlt, if_pos hopening]
    omega
  | case2 depth index hlt hopening hclosing hdepth =>
    rw [blockCommentLoop, if_pos hlt, if_neg hopening, if_pos hclosing, if_pos hdepth]
    omega
  | case3 depth index hlt hopening hclosing hdepth ih =>
    rw [blockCommentLoop, if_pos hlt, if_neg hopening, if_pos hclosing, if_neg hdepth]
    omega
  | case4 depth index hlt hopening hclosing ih =>
    rw [blockCommentLoop, if_pos hlt, if_neg hopening, if_neg hclosing]
    omega
  | case5 depth index hend =>
    rw [blockCommentLoop, if_neg hend]

theorem lt_advanceBlockCommentSql (hindex : index < sql.length)
    (h : startsWith sql ['/', '*'] index = true) : index < advanceBlockCommentSql sql index := by
  rw [advanceBlockCommentSql, blockCommentLoop, if_pos hindex, if_pos h]
  have hle := le_blockCommentLoop sql (0 + 1) (index + 2)
  omega

theorem lt_advanceLineCommentSql (hindex : index < sql.length) :
    index < advanceLineCommentSql sql index := by
  unfold advanceLineCommentSql find
  cases (sql.drop index).idxOf? '\n' with
  | none => exact hindex
  | some offset =>
    show index < index + offset + 1
    omega

theorem dollarQuoteTagAt_cases (h : dollarQuoteTagAt classes sql index = some tag) :
    ∃ stop, find sql '$' (index + 1) = some stop ∧
      isTagBody classes (slice sql (index + 1) stop) = true ∧ tag = slice sql index (stop + 1) := by
  unfold dollarQuoteTagAt at h
  cases hfind : find sql '$' (index + 1) with
  | none =>
    rw [hfind] at h
    cases h
  | some stop =>
    simp only [hfind] at h
    refine ⟨stop, rfl, ?_⟩
    split_ifs at h with hbody
    exact ⟨hbody, (Option.some.inj h).symm⟩

theorem length_dollarQuoteTagAt (hindex : index < sql.length)
    (h : dollarQuoteTagAt classes sql index = some tag) : 0 < tag.length := by
  obtain ⟨stop, hfind, _, rfl⟩ := dollarQuoteTagAt_cases h
  have hstop : index + 1 ≤ stop := by
    unfold find at hfind
    obtain ⟨offset, _, hoffset⟩ := Option.map_eq_some_iff.mp hfind
    omega
  rw [slice, List.length_take, List.length_drop]
  omega

/-- The delimiter that is waited for is not empty. -/
def Cursor.Valid (s : Cursor) : Prop := ∀ tag ∈ s.dollarTag, 0 < tag.length

theorem advance_lt {s : Cursor} {char : Char} (hs : s.Valid) (hindex : s.index < sql.length) :
    s.index < (advance classes sql s char).index ∧ (advance classes sql s char).Valid := by
  unfold advance
  cases htag : s.dollarTag with
  | some tag =>
    have hpos := hs tag htag
    simp only [advanceDollarQuotedSql]
    split_ifs
    · exact ⟨Nat.lt_add_of_pos_right hpos, nofun⟩
    · refine ⟨Nat.lt_succ_self _, fun tag' htag' => ?_⟩
      cases htag'
      exact hpos
  | none =>
    have hvalid : ∀ {t : Cursor}, t.dollarTag = none → t.Valid := by
      intro t ht tag htag'
      rw [ht] at htag'
      cases htag'
    by_cases hsingle : s.inSingleQuote = true
    · refine ⟨?_, hvalid ?_⟩
      · simp only [if_pos hsingle, advanceSingleQuotedSql]
        split_ifs <;> omega
      · simp only [if_pos hsingle]
    by_cases hdouble : s.inDoubleQuote = true
    · refine ⟨?_, hvalid ?_⟩
      · simp only [if_neg hsingle, if_pos hdouble, advanceDoubleQuotedSql]
        split_ifs <;> omega
      · simp only [if_neg hsingle, if_pos hdouble]
    simp only [if_neg hsingle, if_neg hdouble]
    by_cases hquote : char = '\''
    · rw [if_pos hquote]
      exact ⟨Nat.lt_succ_self _, hvalid rfl⟩
    rw [if_neg hquote]
    by_cases hdquote : char = '\x22'
    · rw [if_pos hdquote]
      exact ⟨Nat.lt_succ_self _, hvalid rfl⟩
    rw [if_neg hdquote]
    cases hdollar : (if char = '$' then dollarQuoteTagAt classes sql s.index else none) with
    | some tag =>
      split_ifs at hdollar
      have hpos := length_dollarQuoteTagAt hindex hdollar
      refine ⟨Nat.lt_add_of_pos_right hpos, fun tag' htag' => ?_⟩
      cases htag'
      exact hpos
    | none =>
      split_ifs with hline hblock hsemicolon
      · exact ⟨lt_advanceLineCommentSql hindex, hvalid rfl⟩
      · exact ⟨lt_advanceBlockCommentSql hindex hblock, hvalid rfl⟩
      · exact ⟨Nat.lt_succ_self _, hvalid rfl⟩
      · exact ⟨Nat.lt_succ_self _, hvalid rfl⟩

theorem splitPass_more {s t : Cursor} (h : splitPass classes sql s = .ok (.more t)) :
    s.index < sql.length ∧ ∃ char, t = advance classes sql s char := by
  unfold splitPass at h
  cases hchar : sql[s.index]? with
  | none =>
    rw [hchar] at h
    cases h
  | some char =>
    rw [hchar] at h
    injection h with h
    injection h with h
    exact ⟨(List.getElem?_eq_some_iff.mp hchar).1, char, h.symm⟩

theorem splitSqlStatements_terminates (classes : CharClasses) (sql : List Char) :
    ∃ pieces, splitSqlStatements classes sql = some (.ok pieces) := by
  have hends : ∃ r, splitSqlStatements classes sql = some r := by
    refine iterate_terminates Cursor.Valid (fun s => sql.length - s.index) ?_ nofun
      (Nat.lt_succ_of_le (Nat.sub_le _ _))
    intro s t hs hmore
    obtain ⟨hindex, char, rfl⟩ := splitPass_more hmore
    obtain ⟨hlt, hvalid⟩ := @advance_lt classes sql s char hs hindex
    exact ⟨hvalid, by omega⟩
  obtain ⟨r, hr⟩ := hends
  cases r with
  | error e => cases e
  | ok pieces => exact ⟨pieces, hr⟩

end Ending

/-! ## Lexeme by lexeme -/

section Lexemes

variable {classes : CharClasses} {sql rest : List Char} {statements pieces : List (List Char)}
  {start index : Nat} {s : Cursor}

/-- From here the loop comes to these pieces. -/
def Completes (classes : CharClasses) (sql : List Char) (s : Cursor) (pieces : List (List Char)) :
    Prop :=
  ∃ passes, iterate (splitPass classes sql) passes s = some (.ok pieces)

variable {c : Char} {tail tag body text : List Char} {closed : Bool}

theorem splitPass_of_drop (h : sql.drop s.index = c :: rest) :
    splitPass classes sql s = .ok (.more (advance classes sql s c)) := by
  rw [splitPass, getElem?_of_drop h]

theorem completes_advance (h : sql.drop s.index = c :: rest) :
    Completes classes sql s pieces ↔ Completes classes sql (advance classes sql s c) pieces := by
  have hpass : splitPass classes sql s = .ok (.more (advance classes sql s c)) :=
    splitPass_of_drop h
  constructor
  · rintro ⟨passes, hpasses⟩
    cases passes with
    | zero => cases hpasses
    | succ passes =>
      rw [iterate_succ_more hpass] at hpasses
      exact ⟨passes, hpasses⟩
  · rintro ⟨passes, hpasses⟩
    exact ⟨passes + 1, (iterate_succ_more hpass).trans hpasses⟩

theorem completes_end (h : sql.drop s.index = []) :
    Completes classes sql s pieces ↔ pieces = s.statements ++ [sql.drop s.start] := by
  have hpass : splitPass classes sql s = .ok (.done (s.statements ++ [sql.drop s.start])) := by
    rw [splitPass, getElem?_of_drop_nil h]
  constructor
  · rintro ⟨passes, hpasses⟩
    cases passes with
    | zero => cases hpasses
    | succ passes =>
      rw [iterate_succ_done hpass] at hpasses
      injection hpasses with hpasses
      injection hpasses with hpasses
      exact hpasses.symm
  · rintro rfl
    exact ⟨1, iterate_succ_done hpass⟩

/-- Outside of every construct. -/
def plain (statements : List (List Char)) (start index : Nat) : Cursor :=
  { statements := statements, start := start, index := index }

/-- In a string. -/
def inString (statements : List (List Char)) (start index : Nat) : Cursor :=
  { statements := statements, start := start, index := index, inSingleQuote := true }

/-- In a quoted identifier. -/
def inIdentifier (statements : List (List Char)) (start index : Nat) : Cursor :=
  { statements := statements, start := start, index := index, inDoubleQuote := true }

/-- In a dollar quote. -/
def inDollar (tag : List Char) (statements : List (List Char)) (start index : Nat) : Cursor :=
  { statements := statements, start := start, index := index, dollarTag := some tag }

theorem completes_of_end {t : Cursor} (hs : sql.drop s.index = []) (ht : sql.drop t.index = [])
    (hstatements : s.statements = t.statements) (hstart : s.start = t.start)
    (h : Completes classes sql t pieces) : Completes classes sql s pieces := by
  rw [completes_end ht] at h
  rw [completes_end hs, hstatements, hstart, h]

theorem add_length_cons (index : Nat) (c : Char) (cs : List Char) :
    index + (c :: cs).length = index + 1 + cs.length := by
  rw [List.length_cons, Nat.add_right_comm, Nat.add_assoc index cs.length 1]

theorem completes_string (htail : QuotedTail '\'' false closed tail)
    (h : sql.drop index = tail ++ rest) (hends : Ends '\'' closed rest)
    (hrest : Completes classes sql (plain statements start (index + tail.length)) pieces) :
    Completes classes sql (inString statements start index) pieces := by
  induction htail generalizing index with
  | closing =>
    have hnext : sql[index + 1]? ≠ some '\'' := by
      rw [← List.head?_drop, drop_succ h]
      exact hends
    rw [completes_advance h]
    have hadvance : advance classes sql (inString statements start index) '\'' =
        plain statements start (index + 1) := by
      simp only [advance, inString, advanceSingleQuotedSql, if_true, getElem?_of_drop h, hnext,
        and_false, if_false]
      rfl
    rw [hadvance]
    exact hrest
  | unterminated =>
    have hrest' : rest = [] := hends
    subst hrest'
    exact completes_of_end (t := plain statements start index) h h rfl rfl hrest
  | @doubled closed tail htail ih =>
    have hnext := drop_succ h
    rw [completes_advance h]
    have hadvance : advance classes sql (inString statements start index) '\'' =
        inString statements start (index + 2) := by
      simp only [advance, inString, advanceSingleQuotedSql, if_true, getElem?_of_drop h,
        getElem?_of_drop hnext, index_lt_of_drop hnext, and_self]
    rw [hadvance]
    refine ih (drop_succ hnext) hends ?_
    rw [add_length_cons, add_length_cons] at hrest
    exact hrest
  | escaped _ hescapes => cases hescapes
  | @inside closed tail c hc _ htail ih =>
    rw [completes_advance h]
    have hadvance : advance classes sql (inString statements start index) c =
        inString statements start (index + 1) := by
      simp only [advance, inString, advanceSingleQuotedSql, if_true, getElem?_of_drop h,
        Option.some.injEq, hc, false_and, if_false]
    rw [hadvance]
    refine ih (drop_succ h) hends ?_
    rw [add_length_cons] at hrest
    exact hrest

theorem advance_identifier_quote (h : sql.drop index = '\x22' :: rest) :
    advance classes sql (inIdentifier statements start index) '\x22' =
      plain statements start (index + 1) := by
  simp only [advance, inIdentifier, advanceDoubleQuotedSql, if_true, getElem?_of_drop h,
    Bool.false_eq_true, if_false]
  rfl

theorem completes_identifier (htail : QuotedTail '\x22' false closed tail)
    (h : sql.drop index = tail ++ rest) (hends : Ends '\x22' closed rest)
    (hrest : Completes classes sql (plain statements start (index + tail.length)) pieces) :
    Completes classes sql (inIdentifier statements start index) pieces := by
  induction htail generalizing index with
  | closing =>
    rw [completes_advance h, advance_identifier_quote h]
    exact hrest
  | unterminated =>
    have hrest' : rest = [] := hends
    subst hrest'
    exact completes_of_end (t := plain statements start index) h h rfl rfl hrest
  | @doubled closed tail htail ih =>
    have hnext := drop_succ h
    rw [completes_advance h, advance_identifier_quote h,
      completes_advance (s := plain statements start (index + 1)) hnext]
    have hopen : advance classes sql (plain statements start (index + 1)) '\x22' =
        inIdentifier statements start (index + 2) := rfl
    rw [hopen]
    refine ih (drop_succ hnext) hends ?_
    rw [add_length_cons, add_length_cons] at hrest
    exact hrest
  | escaped _ hescapes => cases hescapes
  | @inside closed tail c hc _ htail ih =>
    rw [completes_advance h]
    have hadvance : advance classes sql (inIdentifier statements start index) c =
        inIdentifier statements start (index + 1) := by
      simp only [advance, inIdentifier, advanceDoubleQuotedSql, if_true, getElem?_of_drop h,
        Option.some.injEq, hc, Bool.false_eq_true, if_false]
    rw [hadvance]
    refine ih (drop_succ h) hends ?_
    rw [add_length_cons] at hrest
    exact hrest

theorem completes_dollar (htag : tag ≠ []) (htail : DollarTail tag closed tail)
    (h : sql.drop index = tail ++ rest) (hends : closed = false → rest = [])
    (hrest : Completes classes sql (plain statements start (index + tail.length)) pieces) :
    Completes classes sql (inDollar tag statements start index) pieces := by
  induction htail generalizing index with
  | closing =>
    obtain ⟨c, cs, rfl⟩ := List.exists_cons_of_ne_nil htag
    have hstarts : advanceDollarQuotedSql sql index (c :: cs) = (index + (c :: cs).length, none) := by
      refine if_pos ?_
      rw [startsWith_eq_true_iff, h]
      exact List.prefix_append _ _
    rw [completes_advance h]
    have hadvance : advance classes sql (inDollar (c :: cs) statements start index) c =
        plain statements start (index + (c :: cs).length) := by
      simp only [advance, inDollar, hstarts]
      rfl
    rw [hadvance]
    exact hrest
  | unterminated =>
    have hrest' := hends rfl
    subst hrest'
    exact completes_of_end (t := plain statements start index) h h rfl rfl hrest
  | @inside closed tail c hnot htail ih =>
    have hstarts : advanceDollarQuotedSql sql index tag = (index + 1, some tag) := by
      refine if_neg ?_
      rw [startsWith_eq_true_iff, h]
      exact fun hprefix => hnot (htail.prefix_inside hends hprefix)
    rw [completes_advance h]
    have hadvance : advance classes sql (inDollar tag statements start index) c =
        inDollar tag statements start (index + 1) := by
      simp only [advance, inDollar, hstarts]
    rw [hadvance]
    refine ih (drop_succ h) hends ?_
    rw [add_length_cons] at hrest
    exact hrest

/-! ### Comments -/

theorem blockCommentLoop_eq {depth : Nat} (htail : CommentTail depth closed tail)
    (hdepth : 0 < depth) (h : sql.drop index = tail ++ rest) (hends : closed = false → rest = []) :
    blockCommentLoop sql depth index = index + tail.length := by
  induction htail generalizing index with
  | closed => cases hdepth
  | unterminated =>
    have hrest := hends rfl
    subst hrest
    have hend : ¬ index < sql.length := by
      intro hlt
      rw [List.drop_eq_getElem_cons hlt] at h
      cases h
    rw [blockCommentLoop, if_neg hend]
    rfl
  | @opening depth closed tail htail ih =>
    have hstarts : startsWith sql ['/', '*'] index = true := by
      rw [startsWith_eq_true_iff, h]
      exact ⟨tail ++ rest, rfl⟩
    rw [blockCommentLoop, if_pos (index_lt_of_drop h), if_pos hstarts]
    have hloop := ih (Nat.succ_pos _) (drop_succ (drop_succ h)) hends
    rw [add_length_cons, add_length_cons, ← hloop]
    push_cast
    congr 1
  | @closing depth closed tail htail ih =>
    have hopens : ¬ startsWith sql ['/', '*'] index = true := by
      rw [startsWith_eq_true_iff, h]
      rintro ⟨cs, hcs⟩
      injection hcs with hc _
      exact absurd hc (by decide)
    have hstarts : startsWith sql ['*', '/'] index = true := by
      rw [startsWith_eq_true_iff, h]
      exact ⟨tail ++ rest, rfl⟩
    rw [blockCommentLoop, if_pos (index_lt_of_drop h), if_neg hopens, if_pos hstarts]
    rw [add_length_cons, add_length_cons]
    cases depth with
    | zero =>
      cases htail
      rw [if_pos (by omega)]
      rfl
    | succ depth =>
      have hloop := ih (Nat.succ_pos _) (drop_succ (drop_succ h)) hends
      rw [if_neg (by omega), ← hloop]
      congr 1
      omega
  | @inside depth closed tail c hopening hclosing htail ih =>
    have hopens : ¬ startsWith sql ['/', '*'] index = true := by
      rw [startsWith_eq_true_iff, h]
      exact fun hprefix => hopening (htail.prefix_inside hends hprefix)
    have hcloses : ¬ startsWith sql ['*', '/'] index = true := by
      rw [startsWith_eq_true_iff, h]
      exact fun hprefix => hclosing (htail.prefix_inside hends hprefix)
    rw [blockCommentLoop, if_pos (index_lt_of_drop h), if_neg hopens, if_neg hcloses,
      ih (Nat.succ_pos _) (drop_succ h) hends, add_length_cons]

/-! ### Outside of the constructs -/

theorem advance_ordinary (hquote : c ≠ '\'') (hdquote : c ≠ '\x22') (hsemicolon : c ≠ ';')
    (htag : (if c = '$' then dollarQuoteTagAt classes sql index else none) = none)
    (hline : ¬ startsWith sql ['-', '-'] index = true)
    (hblock : ¬ startsWith sql ['/', '*'] index = true) :
    advance classes sql (plain statements start index) c = plain statements start (index + 1) := by
  unfold advance plain
  simp only [Bool.false_eq_true, if_false]
  rw [if_neg hquote, if_neg hdquote, htag]
  simp only []
  rw [if_neg hline, if_neg hblock, if_neg hsemicolon]

theorem not_startsWith {a b : Char} (h : sql.drop index = c :: rest) (hc : c ≠ a) :
    ¬ startsWith sql [a, b] index = true := by
  rw [startsWith_eq_true_iff, h]
  rintro ⟨cs, hcs⟩
  injection hcs with hhead _
  exact hc hhead.symm

theorem tagCont_plain (h : tagCont c = true) :
    c ≠ '\'' ∧ c ≠ '\x22' ∧ c ≠ ';' ∧ c ≠ '$' ∧ c ≠ '-' ∧ c ≠ '/' := by
  refine ⟨?_, ?_, ?_, ?_, ?_, ?_⟩ <;>
  · rintro rfl
    exact absurd h (by decide)

theorem completes_word {cs : List Char} (hcs : ∀ c ∈ cs, tagCont c = true)
    (h : sql.drop index = cs ++ rest)
    (hrest : Completes classes sql (plain statements start (index + cs.length)) pieces) :
    Completes classes sql (plain statements start index) pieces := by
  induction cs generalizing index with
  | nil => exact hrest
  | cons c cs ih =>
    obtain ⟨hquote, hdquote, hsemicolon, hdollar, hminus, hslash⟩ :=
      tagCont_plain (hcs c List.mem_cons_self)
    rw [completes_advance (s := plain statements start index) h,
      advance_ordinary hquote hdquote hsemicolon (if_neg hdollar) (not_startsWith h hminus)
        (not_startsWith h hslash)]
    refine ih (fun d hd => hcs d (List.mem_cons_of_mem c hd)) (drop_succ h) ?_
    rw [← add_length_cons]
    exact hrest

theorem isTagBody_eq_true_iff (hascii : ∀ c ∈ body, c.toNat < 128) :
    isTagBody classes body = true ↔ IsTag body := by
  have hstart : ∀ c ∈ body, (classes.isalpha c || c == '_') = identStart c := by
    intro c hc
    rw [classes.isalpha_ascii c (hascii c hc), identStart,
      decide_eq_false (Nat.not_le.mpr (hascii c hc)), Bool.or_false]
  have hcont : ∀ c ∈ body, (classes.isalnum c || c == '_') = tagCont c := by
    intro c hc
    rw [classes.isalnum_ascii c (hascii c hc), tagCont, identStart,
      decide_eq_false (Nat.not_le.mpr (hascii c hc)), Bool.or_false, Char.isAlphanum, Bool.or_right_comm]
  cases body with
  | nil => exact iff_of_true rfl ⟨nofun, nofun⟩
  | cons first rest =>
    unfold isTagBody IsTag
    simp only []
    rw [hstart first List.mem_cons_self, Bool.and_eq_true, List.all_eq_true]
    refine and_congr ?_ (forall₂_congr fun c hc => by rw [hcont c hc])
    exact ⟨fun h c hc => Option.some.inj hc ▸ h, fun h => h first rfl⟩

theorem delimiter_ne_nil (tag : List Char) : delimiter tag ≠ [] := List.cons_ne_nil _ _

theorem notMem_of_isTag (htag : IsTag tag) : '$' ∉ tag := by
  intro hmem
  exact absurd (htag.2 _ hmem) (by decide)

theorem dollarQuoteTagAt_of_tag (hascii : ∀ c ∈ sql, c.toNat < 128) (htag : IsTag tag)
    (h : sql.drop index = delimiter tag ++ rest) :
    dollarQuoteTagAt classes sql index = some (delimiter tag) := by
  have hbody : sql.drop (index + 1) = tag ++ '$' :: rest := by
    have hcons : sql.drop index = '$' :: (tag ++ ['$'] ++ rest) := h
    rw [drop_succ hcons, List.append_assoc]
    rfl
  have hslice : slice sql (index + 1) (index + 1 + tag.length) = tag := slice_of_drop hbody
  have hmem : ∀ c ∈ tag, c.toNat < 128 := by
    intro c hc
    refine hascii c (List.mem_of_mem_drop (i := index + 1) ?_)
    rw [hbody]
    exact List.mem_append_left _ hc
  have hwhole : slice sql index (index + 1 + tag.length + 1) = delimiter tag := by
    have hlength : index + 1 + tag.length + 1 = index + (delimiter tag).length := by
      rw [delimiter, List.length_cons, List.length_append, List.length_singleton]
      omega
    rw [hlength]
    exact slice_of_drop h
  rw [dollarQuoteTagAt, find_of_drop hbody (notMem_of_isTag htag)]
  simp only []
  rw [hslice, if_pos ((isTagBody_eq_true_iff hmem).mpr htag), hwhole]

theorem dollarQuoteTagAt_eq_none (hascii : ∀ c ∈ sql, c.toNat < 128)
    (h : sql.drop index = '$' :: rest)
    (hnone : ∀ tag, IsTag tag → ¬ delimiter tag <+: '$' :: rest) :
    dollarQuoteTagAt classes sql index = none := by
  have hrest := drop_succ h
  by_cases hmem : '$' ∈ rest
  · obtain ⟨body, rest', rfl, hbody⟩ := List.eq_append_cons_of_mem hmem
    have hslice : slice sql (index + 1) (index + 1 + body.length) = body := slice_of_drop hrest
    have hbodyascii : ∀ c ∈ body, c.toNat < 128 := by
      intro c hc
      refine hascii c (List.mem_of_mem_drop (i := index + 1) ?_)
      rw [hrest]
      exact List.mem_append_left _ hc
    rw [dollarQuoteTagAt, find_of_drop hrest hbody]
    simp only []
    rw [hslice, if_neg]
    intro hisbody
    refine hnone body ((isTagBody_eq_true_iff hbodyascii).mp hisbody) ⟨rest', ?_⟩
    rw [delimiter, List.cons_append, List.append_assoc]
    rfl
  · rw [dollarQuoteTagAt, find_eq_none (hrest ▸ hmem)]

theorem completes_lineComment (hcr : ∀ c ∈ sql, c ≠ '\r')
    (h : sql.drop index = '-' :: '-' :: body ++ rest) (hbody : ∀ c ∈ body, c ≠ '\n' ∧ c ≠ '\r')
    (hends : ∀ c ∈ rest.head?, c = '\n' ∨ c = '\r') (hrest : Completes classes sql
      (plain statements start (index + ('-' :: '-' :: body).length)) pieces) :
    Completes classes sql (plain statements start index) pieces := by
  have hstarts : startsWith sql ['-', '-'] index = true := by
    rw [startsWith_eq_true_iff, h]
    exact ⟨body ++ rest, rfl⟩
  have hadvance : advance classes sql (plain statements start index) '-' =
      plain statements start (advanceLineCommentSql sql index) := by
    unfold advance plain
    simp only [Bool.false_eq_true, if_false]
    rw [if_neg (by decide), if_neg (by decide), if_neg (by decide)]
    simp only []
    rw [if_pos hstarts]
  rw [completes_advance (s := plain statements start index) h, hadvance]
  have hdrop := drop_add h
  have hnewline : '\n' ∉ '-' :: '-' :: body := by
    rw [List.mem_cons, List.mem_cons]
    rintro (hminus | hminus | hmem)
    · exact absurd hminus (by decide)
    · exact absurd hminus (by decide)
    · exact (hbody _ hmem).1 rfl
  cases rest with
  | nil =>
    have hline : advanceLineCommentSql sql index = sql.length := by
      rw [advanceLineCommentSql, find_eq_none]
      rw [h, List.append_nil]
      exact hnewline
    rw [hline]
    exact completes_of_end (s := plain statements start sql.length)
      (t := plain statements start (index + ('-' :: '-' :: body).length)) List.drop_length hdrop rfl rfl
      hrest
  | cons c rest =>
    have hc : c = '\n' := by
      refine (hends c rfl).resolve_right (hcr c (List.mem_of_mem_drop
        (i := index + ('-' :: '-' :: body).length) ?_))
      rw [hdrop]
      exact List.mem_cons_self
    subst hc
    rw [completes_advance (s := plain statements start _) hdrop] at hrest
    rw [advance_ordinary (by decide) (by decide) (by decide) (if_neg (by decide))
      (not_startsWith hdrop (by decide)) (not_startsWith hdrop (by decide))] at hrest
    rw [advanceLineCommentSql, find_of_drop h hnewline]
    exact hrest

theorem completes_blockComment (htail : CommentTail 1 closed tail)
    (h : sql.drop index = '/' :: '*' :: tail ++ rest) (hends : closed = false → rest = [])
    (hrest : Completes classes sql
      (plain statements start (index + ('/' :: '*' :: tail).length)) pieces) :
    Completes classes sql (plain statements start index) pieces := by
  have hstarts : startsWith sql ['/', '*'] index = true := by
    rw [startsWith_eq_true_iff, h]
    exact ⟨tail ++ rest, rfl⟩
  have hloop : advanceBlockCommentSql sql index = index + ('/' :: '*' :: tail).length := by
    rw [advanceBlockCommentSql, blockCommentLoop, if_pos (index_lt_of_drop h), if_pos hstarts,
      add_length_cons, add_length_cons]
    exact blockCommentLoop_eq htail Nat.one_pos (drop_succ (drop_succ h)) hends
  have hadvance : advance classes sql (plain statements start index) '/' =
      plain statements start (advanceBlockCommentSql sql index) := by
    unfold advance plain
    simp only [Bool.false_eq_true, if_false]
    rw [if_neg (by decide), if_neg (by decide), if_neg (by decide)]
    simp only []
    rw [if_neg (not_startsWith h (by decide)), if_pos hstarts]
  rw [completes_advance (s := plain statements start index) h, hadvance, hloop]
  exact hrest

/-! ## The pieces -/

/-- No identifier holds a dollar sign, which is then not directly after one of its characters. -/
def NoDollarInWords (lexemes : List Lexeme) : Prop :=
  ∀ lexeme ∈ lexemes, lexeme.kind = .word → '$' ∉ lexeme.text

def NoEscapeStrings (lexemes : List Lexeme) : Prop :=
  ∀ lexeme ∈ lexemes, lexeme.kind ≠ .escapeString

theorem completes_lexeme {kind : LexemeKind} (hascii : ∀ c ∈ sql, c.toNat < 128)
    (hcr : ∀ c ∈ sql, c ≠ '\r') (hlexeme : IsLexeme kind text rest) (hescape : kind ≠ .escapeString)
    (hdollar : kind = .word → '$' ∉ text) (hsemicolon : kind ≠ .semicolon)
    (h : sql.drop index = text ++ rest)
    (hrest : Completes classes sql (plain statements start (index + text.length)) pieces) :
    Completes classes sql (plain statements start index) pieces := by
  cases hlexeme with
  | @word c cs _ hstart hcont _ _ =>
    refine completes_word (fun d hd => ?_) h hrest
    rcases List.mem_cons.mp hd with rfl | hmem
    · rw [tagCont, hstart, Bool.true_or]
    · have hd' := hcont d hmem
      rw [identCont, Bool.or_eq_true, beq_iff_eq] at hd'
      exact hd'.resolve_right (fun heq => hdollar rfl (heq ▸ hd))
  | @string closed tail _ htail hends =>
    rw [completes_advance (s := plain statements start index) h]
    rw [add_length_cons] at hrest
    exact completes_string htail (drop_succ h) hends hrest
  | escapeString => exact absurd rfl hescape
  | @quotedIdentifier closed tail _ htail hends =>
    rw [completes_advance (s := plain statements start index) h]
    rw [add_length_cons] at hrest
    exact completes_identifier htail (drop_succ h) hends hrest
  | @dollarString tag tail _ closed htag htail hends =>
    rw [List.append_assoc] at h
    have hcons : sql.drop index = '$' :: (tag ++ ['$'] ++ (tail ++ rest)) := h
    have hadvance : advance classes sql (plain statements start index) '$' =
        inDollar (delimiter tag) statements start (index + (delimiter tag).length) := by
      unfold advance plain
      simp only [Bool.false_eq_true, if_false]
      rw [if_neg (by decide), if_neg (by decide), if_true, dollarQuoteTagAt_of_tag hascii htag h]
      rfl
    rw [completes_advance (s := plain statements start index) hcons, hadvance]
    rw [List.length_append, ← Nat.add_assoc] at hrest
    exact completes_dollar (delimiter_ne_nil tag) htail (drop_add h) hends hrest
  | lineComment hbody hends => exact completes_lineComment hcr h hbody hends hrest
  | blockComment htail hends => exact completes_blockComment htail h hends hrest
  | semicolon => exact absurd rfl hsemicolon
  | @other c _ hother =>
    obtain ⟨_, hquote, hdquote, hsemi, hline, hblock, htag⟩ := hother
    have hnone : (if c = '$' then dollarQuoteTagAt classes sql index else none) = none := by
      split_ifs with hc
      · subst hc
        exact dollarQuoteTagAt_eq_none hascii h htag
      · rfl
    rw [completes_advance (s := plain statements start index) h,
      advance_ordinary hquote hdquote hsemi hnone (fun hstarts => hline ?_)
        (fun hstarts => hblock ?_)]
    · exact hrest
    · rw [startsWith_eq_true_iff, h] at hstarts
      exact hstarts
    · rw [startsWith_eq_true_iff, h] at hstarts
      exact hstarts

theorem completes_cutAt {lexemes : List Lexeme} (hascii : ∀ c ∈ sql, c.toNat < 128)
    (hcr : ∀ c ∈ sql, c ≠ '\r') (hlexes : Lexes text lexemes) (hescape : NoEscapeStrings lexemes)
    (hdollar : NoDollarInWords lexemes) (hstart : start ≤ index) (h : sql.drop index = text) :
    Completes classes sql (plain statements start index)
      (statements ++ cutAt (slice sql start index) lexemes) := by
  induction hlexes generalizing statements start index with
  | nil =>
    rw [completes_end h, cutAt]
    have hlast : slice sql start index = sql.drop start := by
      have hdrop : (sql.drop start).drop (index - start) = [] := by
        rw [List.drop_drop, Nat.add_sub_of_le hstart, h]
      rw [slice, List.take_of_length_le (List.drop_eq_nil_iff.mp hdrop)]
    rw [hlast]
    rfl
  | @cons kind text rest lexemes hlexeme _ ih =>
    have hescape' : NoEscapeStrings lexemes := fun l hl => hescape l (List.mem_cons_of_mem _ hl)
    have hdollar' : NoDollarInWords lexemes := fun l hl => hdollar l (List.mem_cons_of_mem _ hl)
    rw [cutAt]
    by_cases hkind : kind = .semicolon
    · subst hkind
      cases hlexeme
      rw [if_pos rfl, completes_advance (s := plain statements start index) h]
      have hslice : slice sql (index + 1) (index + 1) = [] := by
        rw [slice, Nat.sub_self, List.take_zero]
      have hrest : Completes classes sql
          (plain (statements ++ [slice sql start index]) (index + 1) (index + 1))
          (statements ++ [slice sql start index] ++
            cutAt (slice sql (index + 1) (index + 1)) lexemes) :=
        ih hescape' hdollar' (Nat.le_refl (index + 1)) (drop_succ h)
      rw [hslice, List.append_assoc] at hrest
      have hadvance : advance classes sql (plain statements start index) ';' =
          plain (statements ++ [slice sql start index]) (index + 1) (index + 1) := by
        unfold advance plain
        simp only [Bool.false_eq_true, if_false]
        rw [if_neg (by decide), if_neg (by decide), if_neg (by decide)]
        simp only []
        rw [if_neg (not_startsWith h (by decide)), if_neg (not_startsWith h (by decide)), if_true]
      rw [hadvance]
      exact hrest
    · rw [if_neg hkind, ← slice_append hstart h]
      refine completes_lexeme hascii hcr hlexeme (hescape _ List.mem_cons_self)
        (hdollar _ List.mem_cons_self) hkind h ?_
      exact ih hescape' hdollar' (hstart.trans (Nat.le_add_right _ _)) (drop_add h)

end Lexemes

/-- The loop ends on every text, and where no escape string and no identifier with a dollar sign is
in the way, its pieces are what lies between the semicolons that stand outside of every construct. -/
theorem migration_split_exact (classes : CharClasses) (sql : List Char) :
    (∃ pieces, splitSqlStatements classes sql = some (.ok pieces)) ∧
    (∃ lexemes, Lexes sql lexemes) ∧
    ((∀ c ∈ sql, c.toNat < 128) → (∀ c ∈ sql, c ≠ '\r') → ∀ lexemes, Lexes sql lexemes →
      NoEscapeStrings lexemes → NoDollarInWords lexemes →
      splitSqlStatements classes sql = some (.ok (cutAt [] lexemes)) ∧
        join ';' (cutAt [] lexemes) = sql) := by
  have hends := splitSqlStatements_terminates classes sql
  refine ⟨hends, exists_lexes sql, fun hascii hcr lexemes hlexes hescape hdollar => ⟨?_, ?_⟩⟩
  · obtain ⟨pieces, hpieces⟩ := hends
    have hcompletes : Completes classes sql (plain [] 0 0) ([] ++ cutAt (slice sql 0 0) lexemes) :=
      completes_cutAt hascii hcr hlexes hescape hdollar (Nat.le_refl 0) rfl
    obtain ⟨passes, hpasses⟩ := hcompletes
    have hslice : slice sql 0 0 = [] := List.take_zero
    rw [hslice, List.nil_append] at hpasses
    have hlong := iterate_mono (Nat.le_add_right passes (sql.length + 1)) hpasses
    have hlong' := iterate_mono (Nat.le_add_left (sql.length + 1) passes) hpieces
    rw [hpieces, ← hlong', ← hlong]
    rfl
  · rw [join_cutAt hlexes, List.nil_append]

/-- A semicolon in a string makes no cut, also when the string is not closed. -/
theorem migration_split_open_string :
    splitSqlStatements ⟨Char.isAlpha, Char.isAlphanum, fun _ _ => rfl, fun _ _ => rfl⟩
      ['a', ';', '\'', ';'] = some (.ok [['a'], ['\'', ';']]) ∧
    join ';' [['a'], ['\'', ';']] = ['a', ';', '\'', ';'] := by
  have hstring : IsLexeme .string ['\'', ';'] [] :=
    .string (.inside (by decide) (by decide) .unterminated) rfl
  have hword : IsLexeme .word ['a'] [';', '\'', ';'] :=
    .word rfl (fun _ hd => absurd hd List.not_mem_nil) (fun _ hd => by cases hd; rfl) (by decide)
  have hlexes : Lexes ['a', ';', '\'', ';']
      [⟨.word, ['a']⟩, ⟨.semicolon, [';']⟩, ⟨.string, ['\'', ';']⟩] :=
    .cons hword (.cons .semicolon (.cons hstring .nil))
  exact (migration_split_exact _ ['a', ';', '\'', ';']).2.2 (by simp) (by simp) _ hlexes
    (by unfold NoEscapeStrings; decide) (by unfold NoDollarInWords; decide)

example : splitSqlStatements ⟨Char.isAlpha, Char.isAlphanum, fun _ _ => rfl, fun _ _ => rfl⟩
    "a'b;''c';/*d;/*;*/;*/$e$;$e;$e$--;".toList =
      some (.ok ["a'b;''c'".toList, "/*d;/*;*/;*/$e$;$e;$e$--;".toList]) := by decide +kernel

end LotusManage.Migrations
