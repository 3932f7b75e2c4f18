import Mathlib.Data.List.TakeWhile
import Mathlib.Data.Nat.Init
import Mathlib.Order.Basic
import Mathlib.Tactic.Common

/-!
# The lexical structure of SQL

How PostgreSQL reads a text: as words, quoted constructs, comments, semicolons and single characters,
each as long as it can be.  A construct that the text does not end runs to the end of the text.

An operator of several characters stops where a comment begins, so its characters are taken one by one,
as the digits of a number are.  The letter in front of a bit string or of a national one is a word of
its own; that of an escape string is not, since a backslash counts there.

* `Lexes`: a text is these lexemes.
* `exists_lexes`: every text is some.
* `join_cutAt`: the text is what lies between its semicolons.
-/

namespace LotusManage.Sql

/-! ## Characters -/

/-- A character that a word may start with: any beyond ASCII counts as a letter. -/
def identStart (c : Char) : Bool := c.isAlpha || c == '_' || decide (128 ≤ c.toNat)

/-- A character of a dollar quote's tag, after the first. -/
def tagCont (c : Char) : Bool := identStart c || c.isDigit

/-- A character of a word, after the first. -/
def identCont (c : Char) : Bool := tagCont c || c == '$'

/-- What may stand between the dollar signs of a dollar quote's delimiter. -/
def IsTag (tag : List Char) : Prop :=
  (∀ c ∈ tag.head?, identStart c = true) ∧ ∀ c ∈ tag, tagCont c = true

/-- The delimiter of a dollar quote. -/
def delimiter (tag : List Char) : List Char := '$' :: (tag ++ ['$'])

/-! ## What follows an opening -/

/-- The rest of a quoted construct, with its closing quote or up to the end of the text.  A quote is
written twice inside, and a backslash may take the next character with it. -/
inductive QuotedTail (quote : Char) (escapes : Bool) : Bool → List Char → Prop where
  | closing : QuotedTail quote escapes true [quote]
  | unterminated : QuotedTail quote escapes false []
  | doubled {closed : Bool} {tail : List Char} : QuotedTail quote escapes closed tail →
      QuotedTail quote escapes closed (quote :: quote :: tail)
  | escaped {closed : Bool} {tail : List Char} (c : Char) : escapes = true →
      QuotedTail quote escapes closed tail → QuotedTail quote escapes closed ('\x5c' :: c :: tail)
  | inside {closed : Bool} {tail : List Char} {c : Char} : c ≠ quote →
      (escapes = true → c = '\x5c' → tail = []) → QuotedTail quote escapes closed tail →
      QuotedTail quote escapes closed (c :: tail)

/-- The rest of a dollar quote: it closes with the first repetition of its delimiter. -/
inductive DollarTail (delim : List Char) : Bool → List Char → Prop where
  | closing : DollarTail delim true delim
  | unterminated : DollarTail delim false []
  | inside {closed : Bool} {tail : List Char} {c : Char} : ¬ delim <+: c :: tail →
      DollarTail delim closed tail → DollarTail delim closed (c :: tail)

/-- The rest of a comment that this many openings are waiting to close. -/
inductive CommentTail : Nat → Bool → List Char → Prop where
  | closed : CommentTail 0 true []
  | unterminated {depth : Nat} : CommentTail (depth + 1) false []
  | opening {depth : Nat} {closed : Bool} {tail : List Char} :
      CommentTail (depth + 2) closed tail → CommentTail (depth + 1) closed ('/' :: '*' :: tail)
  | closing {depth : Nat} {closed : Bool} {tail : List Char} :
      CommentTail depth closed tail → CommentTail (depth + 1) closed ('*' :: '/' :: tail)
  | inside {depth : Nat} {closed : Bool} {tail : List Char} {c : Char} :
      ¬ ['/', '*'] <+: c :: tail → ¬ ['*', '/'] <+: c :: tail →
      CommentTail (depth + 1) closed tail → CommentTail (depth + 1) closed (c :: tail)

/-! ## Lexemes -/

inductive LexemeKind where
  | word
  | string
  | escapeString
  | quotedIdentifier
  | dollarString
  | lineComment
  | blockComment
  | semicolon
  | other
  deriving DecidableEq

/-- A closed construct is not followed by its quote, which would go on with it; another one ends with
the text. -/
def Ends (quote : Char) (closed : Bool) (rest : List Char) : Prop :=
  if closed then rest.head? ≠ some quote else rest = []

/-- A character that starts nothing else. -/
def IsOther (c : Char) (rest : List Char) : Prop :=
  identStart c = false ∧ c ≠ '\'' ∧ c ≠ '\x22' ∧ c ≠ ';' ∧ ¬ ['-', '-'] <+: c :: rest ∧
    ¬ ['/', '*'] <+: c :: rest ∧ ∀ tag, IsTag tag → ¬ delimiter tag <+: c :: rest

/-- The lexeme in front of a text: its kind, its characters and what is left. -/
inductive IsLexeme : LexemeKind → List Char → List Char → Prop where
  | word {c : Char} {cs rest : List Char} : identStart c = true → (∀ d ∈ cs, identCont d = true) →
      (∀ d ∈ rest.head?, identCont d = false) →
      ¬ (c :: cs ∈ [['e'], ['E']] ∧ rest.head? = some '\'') → IsLexeme .word (c :: cs) rest
  | string {closed : Bool} {tail rest : List Char} : QuotedTail '\'' false closed tail →
      Ends '\'' closed rest → IsLexeme .string ('\'' :: tail) rest
  | escapeString {e : Char} {closed : Bool} {tail rest : List Char} : e = 'e' ∨ e = 'E' →
      QuotedTail '\'' true closed tail → Ends '\'' closed rest →
      IsLexeme .escapeString (e :: '\'' :: tail) rest
  | quotedIdentifier {closed : Bool} {tail rest : List Char} : QuotedTail '\x22' false closed tail →
      Ends '\x22' closed rest → IsLexeme .quotedIdentifier ('\x22' :: tail) rest
  | dollarString {tag tail rest : List Char} {closed : Bool} : IsTag tag →
      DollarTail (delimiter tag) closed tail → (closed = false → rest = []) →
      IsLexeme .dollarString (delimiter tag ++ tail) rest
  | lineComment {body rest : List Char} : (∀ c ∈ body, c ≠ '\n' ∧ c ≠ '\r') →
      (∀ c ∈ rest.head?, c = '\n' ∨ c = '\r') → IsLexeme .lineComment ('-' :: '-' :: body) rest
  | blockComment {closed : Bool} {tail rest : List Char} : CommentTail 1 closed tail →
      (closed = false → rest = []) → IsLexeme .blockComment ('/' :: '*' :: tail) rest
  | semicolon {rest : List Char} : IsLexeme .semicolon [';'] rest
  | other {c : Char} {rest : List Char} : IsOther c rest → IsLexeme .other [c] rest

structure Lexeme where
  kind : LexemeKind
  text : List Char
  deriving DecidableEq

/-- A text is these lexemes. -/
inductive Lexes : List Char → List Lexeme → Prop where
  | nil : Lexes [] []
  | cons {kind : LexemeKind} {text rest : List Char} {lexemes : List Lexeme} :
      IsLexeme kind text rest → Lexes rest lexemes → Lexes (text ++ rest) (⟨kind, text⟩ :: lexemes)

/-- What lies between the semicolons, after what was read before. -/
def cutAt (pending : List Char) : List Lexeme → List (List Char)
  | [] => [pending]
  | lexeme :: lexemes =>
    if lexeme.kind = .semicolon then pending :: cutAt [] lexemes
    else cutAt (pending ++ lexeme.text) lexemes

/-! ## A closed construct is as long as what closes it -/

theorem prefix_of_append {text tail rest : List Char} (h : text <+: tail ++ rest)
    (hlength : text.length ≤ tail.length) : text <+: tail :=
  List.prefix_of_prefix_length_le h (List.prefix_append tail rest) hlength

/-- Looking beyond the end of a dollar quote makes no difference. -/
theorem DollarTail.prefix_inside {delim tail rest : List Char} {closed : Bool} {c : Char}
    (h : DollarTail delim closed tail) (hends : closed = false → rest = [])
    (hbegins : delim <+: c :: tail ++ rest) : delim <+: c :: tail := by
  cases closed with
  | false =>
    rw [hends rfl, List.append_nil] at hbegins
    exact hbegins
  | true =>
    refine prefix_of_append hbegins (Nat.le_succ_of_le ?_)
    clear hbegins hends
    generalize hclosed : true = closed at h
    induction h with
    | closing => exact Nat.le_refl _
    | unterminated => cases hclosed
    | inside _ _ ih => exact Nat.le_succ_of_le (ih hclosed)

/-- Looking beyond the end of a comment makes no difference. -/
theorem CommentTail.prefix_inside {depth : Nat} {tail rest : List Char} {closed : Bool} {a b c : Char}
    (h : CommentTail (depth + 1) closed tail) (hends : closed = false → rest = [])
    (hbegins : [a, b] <+: c :: tail ++ rest) : [a, b] <+: c :: tail := by
  cases closed with
  | false =>
    rw [hends rfl, List.append_nil] at hbegins
    exact hbegins
  | true =>
    refine prefix_of_append hbegins ?_
    have hnonempty : tail ≠ [] := by
      rintro rfl
      cases h
    exact Nat.succ_le_succ (List.length_pos_iff.mpr hnonempty)

/-! ## Every text is some lexemes -/

theorem exists_quotedTail (quote : Char) (escapes : Bool) (cs : List Char) :
    ∃ closed tail rest, cs = tail ++ rest ∧ QuotedTail quote escapes closed tail ∧
      Ends quote closed rest := by
  induction hlength : cs.length using Nat.strong_induction_on generalizing cs with
  | _ n ih =>
    cases cs with
    | nil => exact ⟨false, [], [], rfl, .unterminated, rfl⟩
    | cons c cs =>
      rw [List.length_cons] at hlength
      by_cases hquote : c = quote
      · subst hquote
        cases cs with
        | nil => exact ⟨true, [c], [], rfl, .closing, fun h => by cases h⟩
        | cons d cs =>
          rw [List.length_cons] at hlength
          by_cases hdouble : d = c
          · subst hdouble
            obtain ⟨closed, tail, rest, rfl, htail, hends⟩ := ih cs.length (by omega) cs rfl
            exact ⟨closed, d :: d :: tail, rest, rfl, .doubled htail, hends⟩
          · exact ⟨true, [c], d :: cs, rfl, .closing, fun h => hdouble (Option.some.inj h)⟩
      · by_cases hescape : escapes = true ∧ c = '\x5c'
        · obtain ⟨hescapes, rfl⟩ := hescape
          cases cs with
          | nil =>
            exact ⟨false, ['\x5c'], [], rfl, .inside hquote (fun _ _ => rfl) .unterminated, rfl⟩
          | cons d cs =>
            rw [List.length_cons] at hlength
            obtain ⟨closed, tail, rest, rfl, htail, hends⟩ := ih cs.length (by omega) cs rfl
            exact ⟨closed, _, rest, rfl, .escaped d hescapes htail, hends⟩
        · obtain ⟨closed, tail, rest, rfl, htail, hends⟩ := ih cs.length (by omega) cs rfl
          exact ⟨closed, c :: tail, rest, rfl,
            .inside hquote (fun h h' => absurd ⟨h, h'⟩ hescape) htail, hends⟩

theorem exists_dollarTail (delim cs : List Char) :
    ∃ closed tail rest, cs = tail ++ rest ∧ DollarTail delim closed tail ∧
      (closed = false → rest = []) := by
  induction cs with
  | nil => exact ⟨false, [], [], rfl, .unterminated, fun _ => rfl⟩
  | cons c cs ih =>
    by_cases hdelim : delim <+: c :: cs
    · obtain ⟨rest, hrest⟩ := hdelim
      exact ⟨true, delim, rest, hrest.symm, .closing, fun h => by cases h⟩
    · obtain ⟨closed, tail, rest, rfl, htail, hends⟩ := ih
      refine ⟨closed, c :: tail, rest, rfl, .inside (fun h => hdelim ?_) htail, hends⟩
      exact h.trans (List.prefix_append (c :: tail) rest)

theorem exists_commentTail (depth : Nat) (cs : List Char) :
    ∃ closed tail rest, cs = tail ++ rest ∧ CommentTail depth closed tail ∧
      (closed = false → rest = []) := by
  induction hlength : cs.length using Nat.strong_induction_on generalizing cs depth with
  | _ n ih =>
    cases depth with
    | zero => exact ⟨true, [], cs, rfl, .closed, fun h => by cases h⟩
    | succ depth =>
      cases cs with
      | nil => exact ⟨false, [], [], rfl, .unterminated, fun _ => rfl⟩
      | cons c cs =>
        rw [List.length_cons] at hlength
        by_cases hopening : ['/', '*'] <+: c :: cs
        · obtain ⟨cs, hcs⟩ := hopening
          injection hcs with hc hcs
          subst hc hcs
          have hshorter : cs.length + 1 + 1 = n := hlength
          obtain ⟨closed, tail, rest, rfl, htail, hends⟩ :=
            ih cs.length (by omega) (depth + 2) cs rfl
          exact ⟨closed, _, rest, rfl, .opening htail, hends⟩
        · by_cases hclosing : ['*', '/'] <+: c :: cs
          · obtain ⟨cs, hcs⟩ := hclosing
            injection hcs with hc hcs
            subst hc hcs
            have hshorter : cs.length + 1 + 1 = n := hlength
            obtain ⟨closed, tail, rest, rfl, htail, hends⟩ :=
              ih cs.length (by omega) depth cs rfl
            exact ⟨closed, _, rest, rfl, .closing htail, hends⟩
          · obtain ⟨closed, tail, rest, rfl, htail, hends⟩ :=
              ih cs.length (by omega) (depth + 1) cs rfl
            have hlonger : c :: tail <+: c :: (tail ++ rest) := List.prefix_append (c :: tail) rest
            exact ⟨closed, c :: tail, rest, rfl, .inside (fun h => hopening (h.trans hlonger))
              (fun h => hclosing (h.trans hlonger)) htail, hends⟩

theorem exists_lexeme (c : Char) (cs : List Char) :
    ∃ kind text rest, c :: cs = text ++ rest ∧ text ≠ [] ∧ IsLexeme kind text rest := by
  by_cases hquote : c = '\''
  · subst hquote
    obtain ⟨closed, tail, rest, rfl, htail, hends⟩ := exists_quotedTail '\'' false cs
    exact ⟨_, _, rest, rfl, List.cons_ne_nil _ _, .string htail hends⟩
  by_cases hdquote : c = '\x22'
  · subst hdquote
    obtain ⟨closed, tail, rest, rfl, htail, hends⟩ := exists_quotedTail '\x22' false cs
    exact ⟨_, _, rest, rfl, List.cons_ne_nil _ _, .quotedIdentifier htail hends⟩
  by_cases hsemicolon : c = ';'
  · subst hsemicolon
    exact ⟨_, _, cs, rfl, List.cons_ne_nil _ _, .semicolon⟩
  by_cases hline : ['-', '-'] <+: c :: cs
  · obtain ⟨cs, hcs⟩ := hline
    rw [← hcs]
    have hsplit :=
      List.takeWhile_append_dropWhile (p := fun c => decide (c ≠ '\n' ∧ c ≠ '\r')) (l := cs)
    refine ⟨_, '-' :: '-' :: cs.takeWhile (fun c => decide (c ≠ '\n' ∧ c ≠ '\r')),
      cs.dropWhile (fun c => decide (c ≠ '\n' ∧ c ≠ '\r')), ?_, List.cons_ne_nil _ _,
      .lineComment (fun d hd => ?_) (fun d hd => ?_)⟩
    · exact congrArg (fun cs => '-' :: '-' :: cs) hsplit.symm
    · have hinside := List.mem_takeWhile_imp hd
      exact of_decide_eq_true hinside
    · have hnot := List.head?_dropWhile_not (fun c => decide (c ≠ '\n' ∧ c ≠ '\r')) cs
      rw [Option.mem_def.mp hd] at hnot
      have hor := of_decide_eq_false hnot
      rw [not_and_or, not_not, not_not] at hor
      exact hor
  by_cases hblock : ['/', '*'] <+: c :: cs
  · obtain ⟨cs, hcs⟩ := hblock
    rw [← hcs]
    obtain ⟨closed, tail, rest, rfl, htail, hends⟩ := exists_commentTail 1 cs
    exact ⟨_, '/' :: '*' :: tail, rest, rfl, List.cons_ne_nil _ _, .blockComment htail hends⟩
  by_cases hdollar : ∃ tag, IsTag tag ∧ delimiter tag <+: c :: cs
  · obtain ⟨tag, htag, cs, hcs⟩ := hdollar
    rw [← hcs]
    obtain ⟨closed, tail, rest, rfl, htail, hends⟩ := exists_dollarTail (delimiter tag) cs
    exact ⟨_, delimiter tag ++ tail, rest, (List.append_assoc _ _ _).symm,
      List.append_ne_nil_of_left_ne_nil (List.cons_ne_nil _ _) _, .dollarString htag htail hends⟩
  by_cases hstart : identStart c = true
  · by_cases hescape : (c = 'e' ∨ c = 'E') ∧ cs.head? = some '\''
    · obtain ⟨he, hhead⟩ := hescape
      cases cs with
      | nil => cases hhead
      | cons d cs =>
        cases hhead
        obtain ⟨closed, tail, rest, rfl, htail, hends⟩ := exists_quotedTail '\'' true cs
        exact ⟨_, c :: '\'' :: tail, rest, rfl, List.cons_ne_nil _ _, .escapeString he htail hends⟩
    · have hsplit := List.takeWhile_append_dropWhile (p := identCont) (l := cs)
      refine ⟨_, c :: cs.takeWhile identCont, cs.dropWhile identCont, ?_, List.cons_ne_nil _ _,
        .word hstart (fun d hd => List.mem_takeWhile_imp hd) (fun d hd => ?_) ?_⟩
      · rw [List.cons_append, hsplit]
      · have hnot := List.head?_dropWhile_not identCont cs
        rw [Option.mem_def.mp hd] at hnot
        exact hnot
      · rintro ⟨hmem, hhead⟩
        refine hescape ?_
        rw [List.mem_cons, List.mem_singleton, List.cons.injEq, List.cons.injEq] at hmem
        have hnil : cs.takeWhile identCont = [] := by
          rcases hmem with h | h
          · exact h.2
          · exact h.2
        rw [hnil, List.nil_append] at hsplit
        rw [hsplit] at hhead
        exact ⟨hmem.imp And.left And.left, hhead⟩
  · push Not at hdollar
    exact ⟨_, [c], cs, rfl, List.cons_ne_nil _ _, .other ⟨Bool.eq_false_iff.mpr hstart, hquote,
      hdquote, hsemicolon, hline, hblock, hdollar⟩⟩

/-- Every text is some lexemes. -/
theorem exists_lexes (sql : List Char) : ∃ lexemes, Lexes sql lexemes := by
  induction hlength : sql.length using Nat.strong_induction_on generalizing sql with
  | _ n ih =>
    cases sql with
    | nil => exact ⟨[], .nil⟩
    | cons c cs =>
      obtain ⟨kind, text, rest, hsplit, htext, hlexeme⟩ := exists_lexeme c cs
      rw [hsplit] at hlength ⊢
      have hpos := List.length_pos_iff.mpr htext
      rw [List.length_append] at hlength
      obtain ⟨lexemes, hlexes⟩ := ih rest.length (by omega) rest rfl
      exact ⟨_, .cons hlexeme hlexes⟩

/-! ## The pieces make up the text -/

/-- The pieces with a separator between any two. -/
def join (separator : Char) : List (List Char) → List Char
  | [] => []
  | [piece] => piece
  | piece :: next :: pieces => piece ++ separator :: join separator (next :: pieces)

theorem exists_cutAt (pending : List Char) (lexemes : List Lexeme) :
    ∃ piece pieces, cutAt pending lexemes = piece :: pieces := by
  induction lexemes generalizing pending with
  | nil => exact ⟨pending, [], rfl⟩
  | cons lexeme lexemes ih =>
    rw [cutAt]
    split_ifs
    · exact ⟨pending, cutAt [] lexemes, rfl⟩
    · exact ih (pending ++ lexeme.text)

theorem join_cutAt {sql : List Char} {lexemes : List Lexeme} (h : Lexes sql lexemes)
    (pending : List Char) : join ';' (cutAt pending lexemes) = pending ++ sql := by
  induction h generalizing pending with
  | nil => exact (List.append_nil pending).symm
  | @cons kind text rest lexemes hlexeme _ ih =>
    rw [cutAt]
    by_cases hkind : kind = .semicolon
    · subst hkind
      cases hlexeme
      obtain ⟨piece, pieces, hpieces⟩ := exists_cutAt [] lexemes
      rw [if_pos rfl, hpieces, join, ← hpieces, ih]
      rfl
    · rw [if_neg hkind, ih, List.append_assoc]

end LotusManage.Sql
