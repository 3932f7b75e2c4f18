import Mathlib.Data.List.Induction
import LotusManage.Composites.SourceReader

/-!
# Retained traversals

`_read` against any server: it makes at most one request more than the first page says there are
rows, and what it returns is the view that the pages declare, row by row.

`Consumed` is the invariant of the loop over the rows of a page and `Traversed` the one of the loop
over the pages; `pass_cases` says what one pass over a page can do.  A page that goes on has a row,
and no more rows are consumed than the first page declares: this is the measure of the loop.
-/

namespace LotusManage.Composites

open Loops

/-! ## The order of keys -/

/-- A key that comes after another. -/
def KeyLt (a b : RowKey) : Prop := keyLe? b a = some false

instance (a b : RowKey) : Decidable (KeyLt a b) :=
  inferInstanceAs (Decidable (keyLe? b a = some false))

variable {page : ReadResponse}

theorem keyLe?_self (a : RowKey) : keyLe? a a = some true := by
  induction a with
  | nil => rfl
  | cons part rest ih => rw [keyLe?, if_pos rfl, ih]

theorem KeyLt.irrefl (a : RowKey) : ¬ KeyLt a a := by
  intro h
  rw [KeyLt, keyLe?_self] at h
  cases h

theorem KeyPart.behind_trans {a b c : KeyPart} (hab : b.le? a = some false)
    (hbc : c.le? b = some false) : c.le? a = some false ∧ c ≠ a := by
  cases a with
  | number m =>
    cases b with
    | text s => cases hab
    | number n =>
      cases c with
      | text s => cases hbc
      | number k =>
        simp only [KeyPart.le?, Option.some.injEq, decide_eq_false_iff_not, not_le] at hab hbc ⊢
        refine ⟨by omega, ?_⟩
        intro heq
        cases heq
        omega
  | text s =>
    cases b with
    | number n => cases hab
    | text t =>
      cases c with
      | number n => cases hbc
      | text u =>
        simp only [KeyPart.le?, Option.some.injEq, decide_eq_false_iff_not, not_le] at hab hbc ⊢
        refine ⟨lt_trans hab hbc, ?_⟩
        intro heq
        cases heq
        exact lt_irrefl _ (lt_trans hab hbc)

theorem keyLt_cons {a b : KeyPart} {as bs : RowKey} :
    KeyLt (a :: as) (b :: bs) ↔ (b = a ∧ KeyLt as bs) ∨ (b ≠ a ∧ b.le? a = some false) := by
  rw [KeyLt, keyLe?]
  by_cases h : b = a
  · simp [h, KeyLt]
  · simp [h]

theorem KeyLt.trans {a b c : RowKey} (hab : KeyLt a b) (hbc : KeyLt b c) : KeyLt a c := by
  induction a generalizing b c with
  | nil =>
    cases c with
    | nil =>
      cases b with
      | nil => cases hab
      | cons part rest => cases hbc
    | cons part rest => rfl
  | cons x xs ih =>
    cases b with
    | nil => cases hab
    | cons y ys =>
      cases c with
      | nil => cases hbc
      | cons z zs =>
        rw [keyLt_cons] at hab hbc ⊢
        rcases hab with ⟨rfl, hab⟩ | ⟨hxy, hab⟩
        · rcases hbc with ⟨rfl, hbc⟩ | ⟨hyz, hbc⟩
          · exact .inl ⟨rfl, ih hab hbc⟩
          · exact .inr ⟨hyz, hbc⟩
        · rcases hbc with ⟨rfl, hbc⟩ | ⟨hyz, hbc⟩
          · exact .inr ⟨hxy, hab⟩
          · obtain ⟨hle, hne⟩ := KeyPart.behind_trans hab hbc
            exact .inr ⟨hne, hle⟩

/-- Entries that can be compared. -/
def KeyPart.Alike : KeyPart → KeyPart → Prop
  | number _, number _ => True
  | text _, text _ => True
  | _, _ => False

theorem keyLe?_isSome_of_alike {a b : RowKey} (h : List.Forall₂ KeyPart.Alike a b) :
    (keyLe? a b).isSome := by
  induction h with
  | nil => rfl
  | @cons x y xs ys hxy _ ih =>
    rw [keyLe?]
    by_cases heq : x = y
    · rw [if_pos heq]
      exact ih
    · rw [if_neg heq]
      cases x <;> cases y <;> first | rfl | exact hxy.elim

theorem keyLe?_isSome {row row' : Row} (h : row.kind = row'.kind) :
    (keyLe? row.key row'.key).isSome := by
  apply keyLe?_isSome_of_alike
  cases row <;> cases row' <;> try contradiction
  all_goals simp [Row.key, NativeCaptureCommitment.key, KeyPart.Alike]

/-! ## Validated pages -/

variable {sha256 : Sha256} {scope : ReadScope}

theorem headerBinding_raises (page : ReadResponse) (registry : Bool) (row : HeaderRow) :
    Checks.Raises ReaderError.IsValue (page.requireHeaderBinding sha256 registry row) :=
  require_raises _ _

theorem identity_raises (page : ReadResponse) (identity : NativeSourceIdentity) :
    Checks.Raises ReaderError.IsValue (page.requireIdentity identity) :=
  require_raises _ _

theorem rowBinding_raises (page : ReadResponse) (row : Row) :
    Checks.Raises ReaderError.IsValue (page.requireRowBinding sha256 row) := by
  cases row with
  | registryHeader row =>
    exact (headerBinding_raises page true row).bind fun _ _ => identity_raises page row.identity
  | financialHeader row =>
    exact (headerBinding_raises page false row).bind fun _ _ => identity_raises page row.identity
  | member row => exact .ok ()
  | input row => exact (require_raises _ _).bind fun _ _ => identity_raises page row.identity
  | segment row => exact .ok ()

theorem validate_raises (page : ReadResponse) :
    Checks.Raises ReaderError.IsValue (page.validate sha256) := by
  refine (require_raises _ _).bind fun _ _ => Checks.Raises.bind ?segments fun _ _ =>
    Checks.Raises.bind ?view fun _ _ => Checks.Raises.bind ?binding fun _ _ => ?rows
  case segments =>
    apply Checks.Raises.forM
    intro row _
    cases row with
    | segment row => exact (row.raw_raises sha256).bind fun _ _ => .ok ()
    | _ => exact .ok ()
  case view =>
    unfold ReadResponse.requireProductView
    split
    · exact .error ⟨_, rfl⟩
    · exact require_raises _ _
  case binding =>
    exact (require_raises _ _).bind fun _ _ => (require_raises _ _).bind fun _ _ =>
      require_raises _ _
  case rows => exact Checks.Raises.forM fun row _ => rowBinding_raises page row

theorem readPage_raises (answer : Answer) :
    Checks.Raises ReaderError.IsValue (readPage sha256 scope answer) := by
  cases answer with
  | unavailable => exact .ok none
  | refused code => exact .error ⟨code, rfl⟩
  | body page =>
    exact (validate_raises page).bind fun _ _ => (require_raises _ _).bind fun _ _ => .ok _

theorem validate_rows {u : Unit} (h : page.validate sha256 = .ok u) :
    (∀ row ∈ page.rows, ReadResponse.expectedKind page.productName page.view = some row.kind) ∧
    ∀ row, Row.segment row ∈ page.rows → row.raw sha256 = .ok row.content := by
  obtain ⟨_, _, h⟩ := Checks.bind_eq_ok h
  obtain ⟨_, hsegments, h⟩ := Checks.bind_eq_ok h
  obtain ⟨_, hview, _⟩ := Checks.bind_eq_ok h
  constructor
  · intro row hrow
    unfold ReadResponse.requireProductView at hview
    split at hview
    · cases hview
    · rename_i kind hkind
      have hall := require_eq_ok hview
      rw [Bool.and_eq_true, List.all_eq_true] at hall
      rw [hkind, of_decide_eq_true (hall.1 row hrow)]
  · intro row hrow
    obtain ⟨_, hraw⟩ := Checks.forM_eq_ok hsegments _ hrow
    cases hbytes : row.raw sha256 with
    | error e =>
      simp only [hbytes] at hraw
      cases hraw
    | ok raw => rw [(SegmentRow.raw_eq_ok hbytes).1]

/-- The kind of the rows that a traversal consumes. -/
def ReadScope.rowKind (scope : ReadScope) : Option RowKind :=
  ReadResponse.expectedKind scope.productName scope.view

theorem readPage_some {answer : Answer} (h : readPage sha256 scope answer = .ok (some page)) :
    answer = .body page ∧
    (∀ row ∈ page.rows, scope.rowKind = some row.kind) ∧
    ∀ row, Row.segment row ∈ page.rows → row.raw sha256 = .ok row.content := by
  cases answer with
  | unavailable | refused => cases h
  | body page' =>
    obtain ⟨_, hvalid, h⟩ := Checks.bind_eq_ok h
    obtain ⟨_, haddress, h⟩ := Checks.bind_eq_ok h
    cases h
    have hboth := require_eq_ok haddress
    simp only [Bool.and_eq_true, decide_eq_true_eq] at hboth
    obtain ⟨hkind, hraw⟩ := validate_rows hvalid
    rw [hboth.1.1.1.1.1, hboth.2] at hkind
    exact ⟨rfl, hkind, hraw⟩

/-! ## Rows -/

section Consuming

variable {σ : Type} {consume : σ → Row → Except ReaderError σ} {sink : σ}

/-- What was consumed so far. -/
structure Consumed (sha256 : Sha256) (consume : σ → Row → Except ReaderError σ) (sink : σ)
    (rows : List Row) (state : RowState σ) : Prop where
  ordered : (rows.map Row.key).Pairwise KeyLt
  previous : state.previous = rows.getLast?.map Row.key
  hashes : state.hashes = rows.filterMap (Row.hash sha256)
  sunk : rows.foldlM consume sink = .ok state.sink

variable {state : Retrieval σ} {state' : RowState σ} {page first : ReadResponse}
  {pages : List ReadResponse} {pass : Pass (Retrieval σ) (Option (ReadResponse × Retrieval σ))}

theorem Consumed.start : Consumed sha256 consume sink [] { previous := none, hashes := [], sink } :=
  ⟨.nil, rfl, rfl, rfl⟩

theorem requireAfter_eq_ok {previous : Option RowKey} {key : RowKey} {u : Unit}
    (h : requireAfter previous key = .ok u) : ∀ p ∈ previous, KeyLt p key := by
  intro p hp
  cases hp
  cases hle : keyLe? key p with
  | none =>
    simp only [requireAfter, hle] at h
    cases h
  | some behind =>
    simp only [requireAfter, hle] at h
    have hbehind := require_eq_ok h
    rw [KeyLt, hle]
    cases behind with
    | true => cases hbehind
    | false => rfl

theorem pairwise_concat_of_last {keys : List RowKey} {key : RowKey} (h : keys.Pairwise KeyLt)
    (hlast : ∀ p ∈ keys.getLast?, KeyLt p key) : (keys ++ [key]).Pairwise KeyLt := by
  rw [List.pairwise_append]
  refine ⟨h, List.pairwise_singleton _ _, ?_⟩
  intro a ha b hb
  rw [List.mem_singleton] at hb
  subst b
  induction keys using List.reverseRecOn with
  | nil => exact absurd ha List.not_mem_nil
  | append_singleton keys last _ =>
    have hkey : KeyLt last key := hlast last (by simp)
    rw [List.mem_append, List.mem_singleton] at ha
    rcases ha with ha | rfl
    · exact (List.pairwise_append.mp h).2.2 a ha last (by simp) |>.trans hkey
    · exact hkey

theorem Consumed.row {rows : List Row} {state : RowState σ} {row : Row}
    (hconsumed : Consumed sha256 consume sink rows state)
    (h : consumeRow sha256 consume state row = .ok state') :
    Consumed sha256 consume sink (rows ++ [row]) state' := by
  obtain ⟨_, hafter, h⟩ := Checks.bind_eq_ok h
  obtain ⟨sunk, hsunk, h⟩ := Checks.bind_eq_ok h
  cases h
  have hlast := requireAfter_eq_ok hafter
  rw [hconsumed.previous] at hlast
  constructor
  · rw [List.map_append]
    apply pairwise_concat_of_last hconsumed.ordered
    rw [List.getLast?_map]
    exact hlast
  · simp
  · rw [List.filterMap_append, ← hconsumed.hashes]
    cases hhash : row.hash sha256 <;> simp [hhash]
  · rw [List.foldlM_append, hconsumed.sunk]
    show List.foldlM consume state.sink [row] = _
    rw [List.foldlM_cons, hsunk]
    rfl

theorem Consumed.rows {rows more : List Row} {state : RowState σ}
    (hconsumed : Consumed sha256 consume sink rows state)
    (h : more.foldlM (consumeRow sha256 consume) state = .ok state') :
    Consumed sha256 consume sink (rows ++ more) state' := by
  induction more generalizing rows state with
  | nil =>
    cases h
    rwa [List.append_nil]
  | cons row more ih =>
    rw [List.foldlM_cons] at h
    obtain ⟨next, hrow, h⟩ := Checks.bind_eq_ok h
    have hnext := ih (hconsumed.row hrow) h
    rwa [List.append_assoc, List.singleton_append] at hnext

/-- A consumer's own errors, on rows of a kind. -/
def RaisedBy (kind : Option RowKind) (consume : σ → Row → Except ReaderError σ) (e : ReaderError) :
    Prop :=
  ∃ s row, kind = some row.kind ∧ consume s row = .error e

theorem consumePageRows_raises {kind : Option RowKind} {state : RowState σ}
    (hkind : ∀ row ∈ page.rows, kind = some row.kind)
    (hprevious : ∀ p ∈ state.previous, ∃ row : Row, p = row.key ∧ kind = some row.kind) :
    Checks.Raises (fun e => e.IsValue ∨ RaisedBy kind consume e)
      (consumePageRows sha256 consume page state) := by
  unfold consumePageRows
  refine Checks.Raises.foldlM (fun state : RowState σ =>
    ∀ p ∈ state.previous, ∃ row : Row, p = row.key ∧ kind = some row.kind) ?one ?step hprevious
  case one =>
    intro state row hrow hprevious
    unfold consumeRow
    refine Checks.Raises.bind ?_ fun _ _ => Checks.Raises.bind ?_ fun _ _ => .ok _
    · unfold requireAfter
      cases hp : state.previous with
      | none => exact .ok ()
      | some p =>
        obtain ⟨row', rfl, hkind'⟩ := hprevious p hp
        have hsome := keyLe?_isSome
          (Option.some.inj ((hkind row hrow).symm.trans hkind'))
        cases hle : keyLe? row.key row'.key with
        | none =>
          rw [hle] at hsome
          cases hsome
        | some behind =>
          simp only [hle]
          exact (require_raises _ _).mono fun e he => .inl he
    · exact fun e he => .inr ⟨state.sink, row, hkind row hrow, he⟩
  case step =>
    intro state row hrow state' _ h
    obtain ⟨_, _, h⟩ := Checks.bind_eq_ok h
    obtain ⟨_, _, h⟩ := Checks.bind_eq_ok h
    cases h
    intro p hp
    cases hp
    exact ⟨row, rfl, hkind row hrow⟩

/-! ## Pages in a row -/

variable {server : Server}

/-- The rows of pages, first to last. -/
def rowsOf (pages : List ReadResponse) : List Row := pages.flatMap (·.rows)

@[simp] theorem rowsOf_concat (pages : List ReadResponse) (page : ReadResponse) :
    rowsOf (pages ++ [page]) = rowsOf pages ++ page.rows := by
  simp [rowsOf]

/-- The tokens of pages, first to last. -/
def tokensOf (pages : List ReadResponse) : List String :=
  pages.filterMap (·.pagination.nextPageToken)

/-- The token that a request asks for: the one on the page before. -/
def requestToken (pages : List ReadResponse) : Nat → Option String
  | 0 => none
  | n + 1 => pages[n]?.bind (·.pagination.nextPageToken)

/-- The pages are the server's answers to the first requests. -/
def Answered (sha256 : Sha256) (scope : ReadScope) (server : Server) (pages : List ReadResponse) :
    Prop :=
  ∀ n (h : n < pages.length),
    readPage sha256 scope (server n (requestToken pages n)) = .ok (some pages[n])

theorem requestToken_append {more : List ReadResponse} {n : Nat} (h : n ≤ pages.length) :
    requestToken (pages ++ more) n = requestToken pages n := by
  cases n with
  | zero => rfl
  | succ n => rw [requestToken, requestToken, List.getElem?_append_left (by omega)]

theorem Answered.concat (h : Answered sha256 scope server pages)
    (hpage : readPage sha256 scope (server pages.length (requestToken pages pages.length)) =
      .ok (some page)) : Answered sha256 scope server (pages ++ [page]) := by
  intro n hn
  rw [List.length_append, List.length_singleton] at hn
  rw [requestToken_append (by omega)]
  by_cases hlt : n < pages.length
  · rw [List.getElem_append_left hlt]
    exact h n hlt
  · have hlast : n = pages.length := by omega
    subst n
    rw [List.getElem_concat_length rfl]
    exact hpage

theorem Answered.rows (h : Answered sha256 scope server pages) :
    (∀ row ∈ rowsOf pages, scope.rowKind = some row.kind) ∧
    ∀ row, Row.segment row ∈ rowsOf pages → row.raw sha256 = .ok row.content := by
  have hone : ∀ page ∈ pages, ∃ answer, readPage sha256 scope answer = .ok (some page) := by
    intro page hpage
    obtain ⟨n, hn, rfl⟩ := List.getElem_of_mem hpage
    exact ⟨_, h n hn⟩
  constructor
  · intro row hrow
    obtain ⟨page, hpage, hrow⟩ := List.mem_flatMap.mp hrow
    obtain ⟨_, hanswer⟩ := hone page hpage
    exact (readPage_some hanswer).2.1 row hrow
  · intro row hrow
    obtain ⟨page, hpage, hrow⟩ := List.mem_flatMap.mp hrow
    obtain ⟨_, hanswer⟩ := hone page hpage
    exact (readPage_some hanswer).2.2 row hrow

/-- Where the loop over the pages is after the pages `pages`. -/
structure Traversed (sha256 : Sha256) (scope : ReadScope) (server : Server)
    (consume : σ → Row → Except ReaderError σ) (sink : σ) (pages : List ReadResponse)
    (state : Retrieval σ) : Prop where
  answered : Answered sha256 scope server pages
  requests : state.requests = pages.length
  token : state.token = requestToken pages pages.length
  tokens : state.tokens = (tokensOf pages).reverse
  fresh : (tokensOf pages).Nodup
  first : state.first = pages.head?
  stable : ∀ first ∈ state.first, ∀ page ∈ pages, stablePage page = stablePage first
  count : state.count = (rowsOf pages).length
  within : ∀ first ∈ state.first, state.count ≤ first.pagination.totalCount
  consumed : Consumed sha256 consume sink (rowsOf pages) state.rows

theorem Traversed.start : Traversed sha256 scope server consume sink [] (.start sink) where
  answered := fun n h => absurd h (Nat.not_lt_zero n)
  requests := rfl
  token := rfl
  tokens := rfl
  fresh := .nil
  first := rfl
  stable := fun first h => by cases h
  count := rfl
  within := fun first h => by cases h
  consumed := Consumed.start

theorem requireStable_eq_ok (h : requireStable pages.head? page = .ok first)
    (hstable : ∀ first ∈ pages.head?, ∀ page ∈ pages, stablePage page = stablePage first) :
    (pages ++ [page]).head? = some first ∧
      ∀ p ∈ pages ++ [page], stablePage p = stablePage first := by
  cases pages with
  | nil =>
    cases h
    exact ⟨rfl, fun p hp => by rw [List.mem_singleton.mp hp]⟩
  | cons head rest =>
    obtain ⟨_, hpage, h⟩ := Checks.bind_eq_ok h
    cases h
    refine ⟨rfl, ?_⟩
    intro p hp
    rw [List.mem_append, List.mem_singleton] at hp
    rcases hp with hp | rfl
    · exact hstable _ rfl p hp
    · exact of_decide_eq_true (require_eq_ok hpage)

theorem continuationToken_eq_ok {tokens : List String} {token : Option String}
    (h : continuationToken page tokens = .ok token) :
    token = page.pagination.nextPageToken ∧ (∀ t ∈ token, t ∉ tokens ∧ page.rows ≠ []) := by
  unfold continuationToken at h
  split at h
  · rename_i hnone
    cases h
    exact ⟨hnone.symm, fun t ht => by cases ht⟩
  · rename_i t hsome
    obtain ⟨_, hcheck, h⟩ := Checks.bind_eq_ok h
    cases h
    have hboth := require_eq_ok hcheck
    simp only [Bool.and_eq_true, decide_eq_true_eq] at hboth
    refine ⟨hsome.symm, ?_⟩
    intro t' ht'
    cases ht'
    exact hboth

/-- What one pass over a page comes to: the loop has taken the page in, and it goes on when the page
has a token. -/
theorem pass_cases (htraversed : Traversed sha256 scope server consume sink pages state)
    (hpage : readPage sha256 scope (server state.requests state.token) = .ok (some page))
    (h : state.pass sha256 consume page = .ok pass) :
    ∃ first next, Traversed sha256 scope server consume sink (pages ++ [page]) next ∧
      next.first = some first ∧
      ((pass = .done (some (first, next)) ∧ page.pagination.nextPageToken = none) ∨
        (pass = .more next ∧ page.rows ≠ [])) := by
  obtain ⟨first, hfirst, h⟩ := Checks.bind_eq_ok h
  obtain ⟨rows, hrows, h⟩ := Checks.bind_eq_ok h
  obtain ⟨_, hwithin, h⟩ := Checks.bind_eq_ok h
  obtain ⟨token, htoken, h⟩ := Checks.bind_eq_ok h
  have hstable := htraversed.stable
  rw [htraversed.first] at hfirst hstable
  obtain ⟨hhead, hall⟩ := requireStable_eq_ok hfirst hstable
  obtain ⟨rfl, hnew⟩ := continuationToken_eq_ok htoken
  have htokens : tokensOf (pages ++ [page]) =
      tokensOf pages ++ page.pagination.nextPageToken.toList := by
    rw [tokensOf, List.filterMap_append]
    cases hnext : page.pagination.nextPageToken <;> simp [tokensOf, hnext]
  let next : Retrieval σ :=
    { requests := state.requests + 1, first := some first, token := page.pagination.nextPageToken,
      tokens := page.pagination.nextPageToken.toList ++ state.tokens,
      count := state.count + page.rows.length, rows }
  refine ⟨first, next, ⟨?answered, ?requests, ?token, ?tokens, ?fresh, ?first, ?stable, ?count,
    ?within, ?consumed⟩, rfl, ?_⟩
  case answered =>
    apply htraversed.answered.concat
    rw [← htraversed.token, ← htraversed.requests]
    exact hpage
  case requests =>
    show state.requests + 1 = _
    rw [htraversed.requests, List.length_append, List.length_singleton]
  case token => simp [requestToken, next]
  case tokens =>
    show page.pagination.nextPageToken.toList ++ state.tokens = _
    rw [htokens, htraversed.tokens, List.reverse_append]
    cases page.pagination.nextPageToken <;> rfl
  case fresh =>
    rw [htokens, List.nodup_append]
    refine ⟨htraversed.fresh, by cases page.pagination.nextPageToken <;> simp, ?_⟩
    intro t ht t' ht' heq
    subst t'
    apply (hnew t (Option.mem_toList.mp ht')).1
    rw [htraversed.tokens, List.mem_reverse]
    exact ht
  case first => exact hhead.symm
  case stable =>
    intro f hf
    cases hf
    exact hall
  case count =>
    show state.count + page.rows.length = _
    rw [htraversed.count, rowsOf_concat, List.length_append]
  case within =>
    intro f hf
    cases hf
    exact of_decide_eq_true (require_eq_ok hwithin)
  case consumed =>
    rw [rowsOf_concat]
    exact htraversed.consumed.rows hrows
  have hpass : (if page.pagination.nextPageToken.isNone then Pass.done (some (first, next))
      else Pass.more next) = pass := Except.ok.inj h
  subst pass
  cases htoken : page.pagination.nextPageToken with
  | none => exact .inl ⟨rfl, rfl⟩
  | some t => exact .inr ⟨rfl, (hnew t htoken).2⟩

theorem body_cases (h : Retrieval.body sha256 scope server consume state = .ok pass) :
    pass = .done none ∨
      ∃ page, readPage sha256 scope (server state.requests state.token) = .ok (some page) ∧
        state.pass sha256 consume page = .ok pass := by
  obtain ⟨answer, hanswer, h⟩ := Checks.bind_eq_ok h
  cases answer with
  | none =>
    cases h
    exact .inl rfl
  | some page => exact .inr ⟨page, hanswer, h⟩

theorem body_raises (htraversed : Traversed sha256 scope server consume sink pages state) :
    Checks.Raises (fun e => e.IsValue ∨ RaisedBy scope.rowKind consume e)
      (Retrieval.body sha256 scope server consume state) := by
  have hvalue : ∀ {α : Type} {check : Except ReaderError α},
      Checks.Raises ReaderError.IsValue check →
      Checks.Raises (fun e => e.IsValue ∨ RaisedBy scope.rowKind consume e) check :=
    fun h => h.mono fun e he => .inl he
  refine Checks.Raises.bind (hvalue (readPage_raises _)) fun answer hanswer => ?_
  cases answer with
  | none => exact .ok _
  | some page =>
    refine Checks.Raises.bind ?stable fun _ _ => Checks.Raises.bind ?rows fun _ _ =>
      Checks.Raises.bind (hvalue (require_raises _ _)) fun _ _ =>
      Checks.Raises.bind ?token fun _ _ => .ok _
    case stable =>
      unfold requireStable
      split
      · exact .ok _
      · exact hvalue ((require_raises _ _).bind fun _ _ => .ok _)
    case rows =>
      apply consumePageRows_raises (readPage_some hanswer).2.1
      intro p hp
      rw [htraversed.consumed.previous] at hp
      obtain ⟨row, hrow, rfl⟩ := Option.map_eq_some_iff.mp hp
      exact ⟨row, rfl, htraversed.answered.rows.1 row (List.mem_of_getLast? hrow)⟩
    case token =>
      unfold continuationToken
      split
      · exact .ok _
      · exact hvalue ((require_raises _ _).bind fun _ _ => .ok _)

/-! ## The whole traversal -/

/-- The `total_count` of the first page. -/
def declaredTotal (server : Server) : Nat :=
  match server 0 none with
  | .body page => page.pagination.totalCount
  | _ => 0

theorem Answered.declaredTotal {pages : List ReadResponse} {first : ReadResponse}
    (h : Answered sha256 scope server pages) (hfirst : pages.head? = some first) :
    declaredTotal server = first.pagination.totalCount := by
  cases pages with
  | nil => cases hfirst
  | cons page rest =>
    cases hfirst
    have hanswer := (readPage_some (h 0 (Nat.zero_lt_succ _))).1
    rw [Composites.declaredTotal, show server 0 none = _ from hanswer]
    rfl

/-- Where the loop goes on: every page had a row. -/
def GoesOn (sha256 : Sha256) (scope : ReadScope) (server : Server)
    (consume : σ → Row → Except ReaderError σ) (sink : σ) (state : Retrieval σ) : Prop :=
  ∃ pages, Traversed sha256 scope server consume sink pages state ∧ ∀ page ∈ pages, page.rows ≠ []

theorem length_le_rowsOf (h : ∀ page ∈ pages, page.rows ≠ []) :
    pages.length ≤ (rowsOf pages).length := by
  induction pages with
  | nil => exact Nat.zero_le _
  | cons page pages ih =>
    rw [List.forall_mem_cons] at h
    have hpage : 0 < page.rows.length := List.length_pos_iff.mpr h.1
    have hrest := ih h.2
    rw [rowsOf, List.flatMap_cons, List.length_append, List.length_cons]
    rw [rowsOf] at hrest
    omega

theorem GoesOn.step {next : Retrieval σ} (hgoes : GoesOn sha256 scope server consume sink state)
    (h : Retrieval.body sha256 scope server consume state = .ok (.more next)) :
    GoesOn sha256 scope server consume sink next ∧ next.requests = state.requests + 1 ∧
      next.requests ≤ declaredTotal server := by
  obtain ⟨pages, htraversed, hrows⟩ := hgoes
  rcases body_cases h with h | ⟨page, hpage, h⟩
  · cases h
  obtain ⟨first, next', hnext, hfirst, ⟨hdone, _⟩ | ⟨hmore, hnonempty⟩⟩ :=
    pass_cases htraversed hpage h
  · cases hdone
  cases hmore
  have hall : ∀ p ∈ pages ++ [page], p.rows ≠ [] := by
    intro p hp
    rw [List.mem_append, List.mem_singleton] at hp
    rcases hp with hp | rfl
    · exact hrows p hp
    · exact hnonempty
  refine ⟨⟨_, hnext, hall⟩, ?_, ?_⟩
  · rw [hnext.requests, htraversed.requests, List.length_append, List.length_singleton]
  · have htotal := hnext.answered.declaredTotal (hnext.first.symm.trans hfirst)
    have hwithin := hnext.within first hfirst
    rw [hnext.count] at hwithin
    rw [hnext.requests, htotal]
    exact (length_le_rowsOf hall).trans hwithin

/-- What the view that is returned shows: the pages are the server's answers to successive requests,
to the end; they carry one set of fields; and their rows, in order, are those that the first page
declares. -/
structure Retrieved (sha256 : Sha256) (scope : ReadScope) (server : Server)
    (consume : σ → Row → Except ReaderError σ) (sink : σ) (pages : List ReadResponse)
    (first : ReadResponse) (root : NativeViewRoot) (result : σ) : Prop where
  answered : Answered sha256 scope server pages
  ended : requestToken pages pages.length = none
  fresh : (tokensOf pages).Nodup
  head : pages.head? = some first
  bounded : pages.length ≤ first.pagination.totalCount + 1
  stable : ∀ page ∈ pages, stablePage page = stablePage first
  ordered : ((rowsOf pages).map Row.key).Pairwise KeyLt
  complete : (rowsOf pages).length = first.pagination.totalCount
  rooted : nativeOrderedRoot sha256 (rootRecipe scope.view).domain
    ((rowsOf pages).filterMap (Row.hash sha256)) = first.pagination.orderedSetHash
  root : root = {
    view := scope.view
    totalCount := first.pagination.totalCount
    orderedSetHash := first.pagination.orderedSetHash
    rootItemCount := first.pagination.rootItemCount
    rootKind := first.pagination.rootKind
    ordering := first.pagination.ordering }
  consumed : (rowsOf pages).foldlM consume sink = .ok result

/-- What a traversal may come to. -/
inductive ReadOutcome (sha256 : Sha256) (scope : ReadScope) (server : Server)
    (consume : σ → Row → Except ReaderError σ) (sink : σ) :
    Except ReaderError (Option (ReadResponse × NativeViewRoot × σ)) → Prop
  | raised {e : ReaderError} (h : e.IsValue ∨ RaisedBy scope.rowKind consume e) :
      ReadOutcome sha256 scope server consume sink (.error e)
  | unavailable : ReadOutcome sha256 scope server consume sink (.ok none)
  | view {pages : List ReadResponse} {first : ReadResponse} {root : NativeViewRoot} {result : σ}
      (h : Retrieved sha256 scope server consume sink pages first root result) :
      ReadOutcome sha256 scope server consume sink (.ok (some (first, root, result)))

theorem completeViewRoot_raises (page : ReadResponse) (view : View) (count : Nat)
    (hashes : List Digest) :
    Checks.Raises ReaderError.IsValue (completeViewRoot sha256 page view count hashes) :=
  (require_raises _ _).bind fun _ _ => .ok _

theorem Traversed.retrieved {root : NativeViewRoot}
    (h : Traversed sha256 scope server consume sink pages state) (hfirst : state.first = some first)
    (hended : requestToken pages pages.length = none)
    (hbounded : pages.length ≤ first.pagination.totalCount + 1)
    (hroot : completeViewRoot sha256 first scope.view state.count state.rows.hashes = .ok root) :
    Retrieved sha256 scope server consume sink pages first root state.rows.sink := by
  obtain ⟨_, hcheck, hroot⟩ := Checks.bind_eq_ok hroot
  cases hroot
  have hall := require_eq_ok hcheck
  simp only [Bool.and_eq_true, decide_eq_true_eq] at hall
  obtain ⟨⟨⟨⟨hcount, hitems⟩, hkind⟩, hordering⟩, hhash⟩ := hall
  have hhead := h.first.symm.trans hfirst
  refine ⟨h.answered, hended, h.fresh, hhead, hbounded, h.stable first hfirst,
    h.consumed.ordered, ?_, ?_, ?_, h.consumed.sunk⟩
  · rw [← h.count, hcount]
  · rw [← h.consumed.hashes, hhash]
  · rw [hcount, hitems, hkind, hordering]

theorem requestToken_concat (pages : List ReadResponse) (page : ReadResponse) :
    requestToken (pages ++ [page]) (pages ++ [page]).length = page.pagination.nextPageToken := by
  rw [List.length_append, List.length_singleton, requestToken, List.getElem?_concat_length]
  rfl

/-- The retained traversal: within `total_count + 1` pages it is over, and then it has raised, or
found no server, or read exactly the view that is declared. -/
theorem read_outcome (sha256 : Sha256) (scope : ReadScope) (server : Server)
    (consume : σ → Row → Except ReaderError σ) (sink : σ) :
    ∃ outcome, (∀ fuel, declaredTotal server + 1 ≤ fuel →
        read sha256 scope server consume sink fuel = some outcome) ∧
      ReadOutcome sha256 scope server consume sink outcome := by
  have hstart : GoesOn sha256 scope server consume sink (.start sink) :=
    ⟨[], Traversed.start, fun page h => absurd h List.not_mem_nil⟩
  -- Each pass that goes on uses up one of the rows that the first page declares.
  have hends : ∃ r, iterate (Retrieval.body sha256 scope server consume) (declaredTotal server + 1)
      (.start sink) = some r := by
    apply iterate_terminates (GoesOn sha256 scope server consume sink)
      (fun state => declaredTotal server - state.requests)
    · intro a b ha hab
      obtain ⟨hgoes, hrequests, hbound⟩ := ha.step hab
      exact ⟨hgoes, by omega⟩
    · exact hstart
    · exact Nat.lt_succ_of_le (Nat.sub_le _ _)
  obtain ⟨r, hr⟩ := hends
  refine ⟨r >>= finishRead sha256 scope, ?_, ?_⟩
  · intro fuel hfuel
    rw [read, iterate_mono hfuel hr]
    rfl
  obtain ⟨last, ⟨pages, htraversed, hrows⟩, hlast⟩ :=
    iterate_last (GoesOn sha256 scope server consume sink) (fun a b ha hab => (ha.step hab).1)
      hstart hr
  cases r with
  | error e => exact .raised (body_raises htraversed e hlast)
  | ok result =>
    rcases body_cases hlast with hnone | ⟨page, hpage, hpass⟩
    · cases hnone
      exact .unavailable
    obtain ⟨first, next, hnext, hfirst, ⟨hdone, htoken⟩ | ⟨hmore, _⟩⟩ :=
      pass_cases htraversed hpage hpass
    · cases hdone
      show ReadOutcome sha256 scope server consume sink
        (finishRead sha256 scope (some (first, next)))
      have hbounded : (pages ++ [page]).length ≤ first.pagination.totalCount + 1 := by
        have hlength := length_le_rowsOf hrows
        have hwithin := hnext.within first hfirst
        rw [hnext.count, rowsOf_concat, List.length_append] at hwithin
        rw [List.length_append, List.length_singleton]
        omega
      have hended := (requestToken_concat pages page).trans htoken
      cases hroot : completeViewRoot sha256 first scope.view next.count next.rows.hashes with
      | error e =>
        simp only [finishRead, hroot]
        exact .raised (.inl (completeViewRoot_raises _ _ _ _ e hroot))
      | ok root =>
        simp only [finishRead, hroot]
        exact .view (hnext.retrieved hfirst hended hbounded hroot)
    · cases hmore

end Consuming

end LotusManage.Composites
