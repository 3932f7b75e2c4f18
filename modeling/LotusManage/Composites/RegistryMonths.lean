import LotusManage.Composites.AuthorityPolicy
import LotusManage.Composites.PolicyLayers

/-!
# Registry declarations of a month

`_month_declaration` of `core_financial_sources.py`: one pass over the declarations of a registry
member, with the day up to which the month is covered.

* `exactMonth_map_iff`: over declarations in order, what it means for a month to be exact day by day.
* `passFrom_error_value`: before the last day of the calendar every error is a `ValueError`.
* `month_declaration_exact_iff`: the pass is exact unless it reaches the day after the last day of the
  calendar.
-/

namespace LotusManage.Composites

open IsoDate (DateError)

/-- `RegistryDeclaration` -/
structure RegistryDeclaration where
  effectiveFrom : String
  effectiveTo : Option String
  definitionVersion : String
  currency : String
  included : Bool
  discretionary : Option Bool
  deriving DecidableEq

/-- `RegistryMember` -/
structure RegistryMember where
  providerNamespace : String
  sourceMemberId : String
  portfolioId : Option String
  declarations : List RegistryDeclaration

/-- A declaration with the days of its texts. -/
structure DatedDeclaration where
  start : Int
  finish : Option Int
  declaration : RegistryDeclaration

/-! ## The pass -/

/-- The dates that `_ordered_declarations` reads. -/
def RegistryDeclaration.dated (declaration : RegistryDeclaration) :
    Except DateError DatedDeclaration := do
  let start ← readDate declaration.effectiveFrom
  let finish ← match declaration.effectiveTo with
    | some text => some <$> readDate text
    | none => pure none
  return ⟨start, finish, declaration⟩

/-- The interval that `_ordered_declarations` refuses; `previous` is the end of the declaration
before, if there is one. -/
def intervalInvalid (previous : Option (Option Int)) (dated : DatedDeclaration) : Bool :=
  dated.finish.any (fun finish => decide (finish ≤ dated.start)) ||
    previous.any (fun finish => finish.all (fun finish => decide (dated.start < finish)))

/-- `_ordered_declarations`: what the generator yields, and the error that it ends with. -/
def orderedDeclarations : Option (Option Int) → List RegistryDeclaration →
    List (Except DateError DatedDeclaration)
  | _, [] => []
  | previous, declaration :: rest =>
    match declaration.dated with
    | .error error => [.error error]
    | .ok dated =>
      if intervalInvalid previous dated then
        [.error (.value "CORE_CUSTODY_REGISTRY_INTERVAL_INVALID")]
      else .ok dated :: orderedDeclarations (some dated.finish) rest

/-- What the declarations of a month have in common. -/
def RegistryDeclaration.terms (declaration : RegistryDeclaration) :
    String × String × Bool × Option Bool :=
  (declaration.definitionVersion, declaration.currency, declaration.included,
    declaration.discretionary)

/-- `_require_unchanged_declaration` -/
def requireUnchangedDeclaration (selected : Option RegistryDeclaration)
    (declaration : RegistryDeclaration) : Except DateError Unit :=
  demand (selected.all (fun selected => decide (declaration.terms = selected.terms)))
    "CORE_CUSTODY_REGISTRY_MONTH_CHANGE_UNSUPPORTED"

/-- The declaration lies outside the month. -/
def DatedDeclaration.outside (dated : DatedDeclaration) (first last : Int) : Bool :=
  decide (last < dated.start) || dated.finish.any (fun finish => decide (finish ≤ first))

/-- The body of the loop, with the cursor and the selected declaration. -/
def monthStep (first last : Int) (state : Int × Option RegistryDeclaration)
    (dated : DatedDeclaration) : Except DateError (Int × Option RegistryDeclaration) := do
  if dated.outside first last then return state
  demand (dated.start ≤ state.1) "CORE_CUSTODY_REGISTRY_MONTH_GAP"
  requireUnchangedDeclaration state.2 dated.declaration
  let next ← IsoDate.nextDay last
  return (min (dated.finish.getD next) next, some dated.declaration)

/-- What `_month_declaration` does after the loop. -/
def selectedDeclaration (last : Int) (state : Int × Option RegistryDeclaration) :
    Except DateError RegistryDeclaration :=
  match state.2 with
  | none => .error (.value "CORE_CUSTODY_REGISTRY_MONTH_GAP")
  | some selected =>
    if state.1 ≤ last then .error (.value "CORE_CUSTODY_REGISTRY_MONTH_GAP")
    else if selected.included then .ok selected
    else .error (.value "CORE_CUSTODY_EXCLUDED_MEMBER_UNSUPPORTED")

/-- `_month_declaration` -/
def monthDeclaration (member : RegistryMember) (first last : Int) :
    Except DateError RegistryDeclaration := do
  let state ← (orderedDeclarations none member.declarations).foldlM (fun state item => do
    let dated ← item
    monthStep first last state dated) (first, none)
  selectedDeclaration last state

/-! ## Day by day -/

/-- The declaration is in force on a day. -/
def RegistryDeclaration.InForce (declaration : RegistryDeclaration) (day : Int) : Prop :=
  ∃ start, IsoDate.fromisoformat declaration.effectiveFrom = some start ∧ start ≤ day ∧
    ∀ text ∈ declaration.effectiveTo, ∃ finish, IsoDate.fromisoformat text = some finish ∧ day < finish

/-- Every declaration is in force on some day, and each is over before the next begins. -/
structure DaysInOrder (declarations : List RegistryDeclaration) : Prop where
  nonempty : ∀ declaration ∈ declarations, ∃ day, declaration.InForce day
  ordered : declarations.Pairwise (fun a b => ∀ day day', a.InForce day → b.InForce day' → day < day')

/-- The declaration is in force on some day of the month. -/
def RegistryDeclaration.InMonth (declaration : RegistryDeclaration) (first last : Int) : Prop :=
  ∃ day, first ≤ day ∧ day ≤ last ∧ declaration.InForce day

/-- The declarations are in order, on every day of the month one is in force, and those are included
and the same. -/
structure ExactMonth (declarations : List RegistryDeclaration) (first last : Int) : Prop extends
    DaysInOrder declarations where
  covered : ∀ day, first ≤ day → day ≤ last → ∃ declaration ∈ declarations, declaration.InForce day
  agree : ∀ a ∈ declarations, ∀ b ∈ declarations, a.InMonth first last → b.InMonth first last →
    a.terms = b.terms
  included : ∀ a ∈ declarations, a.InMonth first last → a.included = true

/-- The declarations are decided day by day, and a refusal is a `ValueError`. -/
def DecidesMonth (member : RegistryMember) (first last : Int) : Prop :=
  ((∃ declaration, monthDeclaration member first last = .ok declaration) ↔
    ExactMonth member.declarations first last) ∧
  ∀ error, monthDeclaration member first last = .error error → ∃ code, error = .value code

/-! ## Dated declarations -/

/-- A dated declaration covers a day. -/
def DatedDeclaration.Covers (dated : DatedDeclaration) (day : Int) : Prop :=
  dated.start ≤ day ∧ ∀ finish ∈ dated.finish, day < finish

/-- The texts of the declaration are read as these days. -/
def Reads (declaration : RegistryDeclaration) (dated : DatedDeclaration) : Prop :=
  declaration.dated = .ok dated

variable {declaration : RegistryDeclaration} {error : DateError} {previous : Option (Option Int)}
  {dated : List DatedDeclaration}
  {d : DatedDeclaration} {declarations : List RegistryDeclaration} {first last : Int}

theorem reads_cases {dated : DatedDeclaration} (h : Reads declaration dated) :
    IsoDate.fromisoformat declaration.effectiveFrom = some dated.start ∧
      dated.declaration = declaration ∧
      match declaration.effectiveTo with
      | none => dated.finish = none
      | some text => ∃ finish, IsoDate.fromisoformat text = some finish ∧ dated.finish = some finish := by
  unfold Reads RegistryDeclaration.dated at h
  cases hstart : readDate declaration.effectiveFrom with
  | error error =>
    rw [hstart] at h
    cases h
  | ok start =>
    rw [hstart] at h
    cases hto : declaration.effectiveTo with
    | none =>
      simp only [hto] at h
      cases h
      exact ⟨readDate_eq_ok_iff.mp hstart, rfl, rfl⟩
    | some text =>
      simp only [hto] at h
      cases hfinish : readDate text with
      | error error =>
        rw [hfinish] at h
        cases h
      | ok finish =>
        rw [hfinish] at h
        cases h
        exact ⟨readDate_eq_ok_iff.mp hstart, rfl, finish, readDate_eq_ok_iff.mp hfinish, rfl⟩

theorem inForce_iff_covers {dated : DatedDeclaration} (h : Reads declaration dated) (day : Int) :
    declaration.InForce day ↔ dated.Covers day := by
  obtain ⟨hstart, _, hfinish⟩ := reads_cases h
  unfold RegistryDeclaration.InForce DatedDeclaration.Covers
  rw [hstart]
  cases hto : declaration.effectiveTo with
  | none =>
    rw [hto] at hfinish
    rw [hfinish]
    simp
  | some text =>
    rw [hto] at hfinish
    obtain ⟨finish, htext, hsome⟩ := hfinish
    rw [hsome]
    simp [htext]

theorem dated_error_value (h : declaration.dated = .error error) : ∃ code, error = .value code := by
  have hread : ∀ {text : String} {e : DateError}, readDate text = .error e → ∃ code, e = .value code := by
    intro text e he
    unfold readDate at he
    split at he
    · cases he
    · cases he
      exact ⟨_, rfl⟩
  unfold RegistryDeclaration.dated at h
  cases hstart : readDate declaration.effectiveFrom with
  | error e =>
    rw [hstart] at h
    cases h
    exact hread hstart
  | ok start =>
    rw [hstart] at h
    cases hto : declaration.effectiveTo with
    | none =>
      simp only [hto] at h
      cases h
    | some text =>
      simp only [hto] at h
      cases hfinish : readDate text with
      | error e =>
        rw [hfinish] at h
        cases h
        exact hread hfinish
      | ok finish =>
        rw [hfinish] at h
        cases h

theorem reads_of_inForce {day : Int} (h : declaration.InForce day) :
    ∃ dated, Reads declaration dated := by
  obtain ⟨start, hstart, _, hto⟩ := h
  unfold Reads RegistryDeclaration.dated
  rw [readDate_eq_ok_iff.mpr hstart]
  cases heq : declaration.effectiveTo with
  | none => exact ⟨⟨start, none, declaration⟩, rfl⟩
  | some text =>
    obtain ⟨finish, hfinish, _⟩ := hto text heq
    refine ⟨⟨start, some finish, declaration⟩, ?_⟩
    show (do
      let finish ← some <$> readDate text
      Except.ok (⟨start, finish, declaration⟩ : DatedDeclaration)) = _
    rw [readDate_eq_ok_iff.mpr hfinish]
    rfl

/-! ## Declarations in order -/

/-- The dates are those of the declaration. -/
def DatedDeclaration.Dated (dated : DatedDeclaration) : Prop := Reads dated.declaration dated

/-- The generator yields the dated declarations. -/
def OrderedFrom : Option (Option Int) → List DatedDeclaration → Prop
  | _, [] => True
  | previous, dated :: rest =>
    intervalInvalid previous dated = false ∧ OrderedFrom (some dated.finish) rest

/-- Each declaration is non-empty, and ends before the next begins. -/
structure InOrder (dated : List DatedDeclaration) : Prop where
  nonempty : ∀ d ∈ dated, ∀ finish ∈ d.finish, d.start < finish
  apart : dated.Pairwise (fun a b => ∃ finish, a.finish = some finish ∧ finish ≤ b.start)

theorem intervalInvalid_eq_false_iff {dated : DatedDeclaration} :
    intervalInvalid previous dated = false ↔
      (∀ finish ∈ dated.finish, dated.start < finish) ∧
      ∀ ends ∈ previous, ∃ finish, ends = some finish ∧ finish ≤ dated.start := by
  unfold intervalInvalid
  rw [Bool.or_eq_false_iff]
  refine and_congr ?_ ?_
  · cases dated.finish with
    | none | some => simp
  · cases previous with
    | none => simp
    | some ends =>
      cases ends with
      | none => simp
      | some finish => simp

theorem orderedFrom_iff :
    OrderedFrom previous dated ↔ InOrder dated ∧ ∀ ends ∈ previous, ∀ d ∈ dated,
      ∃ finish, ends = some finish ∧ finish ≤ d.start := by
  induction dated generalizing previous with
  | nil => exact ⟨fun _ => ⟨⟨by simp, List.Pairwise.nil⟩, by simp⟩, fun _ => trivial⟩
  | cons d rest ih =>
    rw [OrderedFrom, intervalInvalid_eq_false_iff, ih]
    constructor
    · rintro ⟨⟨hnonempty, hprevious⟩, horder, hafter⟩
      have hends := hafter d.finish rfl
      refine ⟨⟨?_, List.pairwise_cons.mpr ⟨hends, horder.apart⟩⟩, ?_⟩
      · intro e he
        rcases List.mem_cons.mp he with rfl | he
        · exact hnonempty
        · exact horder.nonempty e he
      · intro ends hmem e he
        obtain ⟨finish, hfinish, hle⟩ := hprevious ends hmem
        refine ⟨finish, hfinish, ?_⟩
        rcases List.mem_cons.mp he with rfl | he
        · exact hle
        · obtain ⟨ends', hends', hle'⟩ := hends e he
          have hlt := hnonempty ends' hends'
          omega
    · rintro ⟨horder, hafter⟩
      obtain ⟨hends, hapart⟩ := List.pairwise_cons.mp horder.apart
      refine ⟨⟨horder.nonempty d List.mem_cons_self, fun ends hmem => ?_⟩, ⟨?_, hapart⟩, ?_⟩
      · exact hafter ends hmem d List.mem_cons_self
      · exact fun e he => horder.nonempty e (List.mem_cons_of_mem d he)
      · intro ends hmem
        cases hmem
        exact hends

theorem orderedDeclarations_cases (previous : Option (Option Int))
    (declarations : List RegistryDeclaration) :
    ∃ dated rest, declarations = dated.map DatedDeclaration.declaration ++ rest ∧
      (∀ d ∈ dated, d.Dated) ∧ OrderedFrom previous dated ∧
      ((rest = [] ∧ orderedDeclarations previous declarations = dated.map Except.ok) ∨
        ∃ code, orderedDeclarations previous declarations =
          dated.map Except.ok ++ [.error (.value code)]) := by
  induction declarations generalizing previous with
  | nil => exact ⟨[], [], rfl, by simp, trivial, Or.inl ⟨rfl, rfl⟩⟩
  | cons declaration others ih =>
    rw [orderedDeclarations]
    cases hdated : declaration.dated with
    | error error =>
      obtain ⟨code, rfl⟩ := dated_error_value hdated
      exact ⟨[], _, rfl, by simp, trivial, Or.inr ⟨code, rfl⟩⟩
    | ok d =>
      dsimp only
      by_cases hinvalid : intervalInvalid previous d = true
      · rw [if_pos hinvalid]
        exact ⟨[], _, rfl, by simp, trivial, Or.inr ⟨_, rfl⟩⟩
      · rw [if_neg hinvalid]
        have hvalid : intervalInvalid previous d = false := by simpa using hinvalid
        have hsame : d.declaration = declaration := (reads_cases hdated).2.1
        obtain ⟨dated, rest, heq, hall, hordered, hyields⟩ := ih (some d.finish)
        refine ⟨d :: dated, rest, ?_, ?_, ⟨hvalid, hordered⟩, ?_⟩
        · rw [List.map_cons, List.cons_append, hsame, ← heq]
        · intro e he
          rcases List.mem_cons.mp he with rfl | he
          · unfold DatedDeclaration.Dated
            rw [hsame]
            exact hdated
          · exact hall e he
        · rcases hyields with ⟨hrest, hyields⟩ | ⟨code, hyields⟩
          · exact Or.inl ⟨hrest, by rw [hyields, List.map_cons]⟩
          · exact Or.inr ⟨code, by rw [hyields, List.map_cons, List.cons_append]⟩

theorem orderedDeclarations_append (hall : ∀ d ∈ dated, d.Dated)
    (h : OrderedFrom previous dated) (after : List RegistryDeclaration) :
    ∃ ends, orderedDeclarations previous (dated.map DatedDeclaration.declaration ++ after) =
      dated.map Except.ok ++ orderedDeclarations ends after := by
  induction dated generalizing previous with
  | nil => exact ⟨previous, rfl⟩
  | cons d rest ih =>
    have hdated : d.declaration.dated = .ok d := hall d List.mem_cons_self
    obtain ⟨ends, hrest⟩ := ih (fun e he => hall e (List.mem_cons_of_mem d he)) h.2
    refine ⟨ends, ?_⟩
    rw [List.map_cons, List.cons_append, orderedDeclarations, hdated]
    dsimp only
    rw [if_neg (by rw [h.1]; decide), hrest, List.map_cons, List.cons_append]

theorem covers_start (h : ∀ finish ∈ d.finish, d.start < finish) :
    d.Covers d.start := ⟨le_refl _, h⟩

theorem daysInOrder_map (hall : ∀ d ∈ dated, d.Dated)
    (h : InOrder dated) : DaysInOrder (dated.map DatedDeclaration.declaration) := by
  refine ⟨?_, ?_⟩
  · intro declaration hmem
    obtain ⟨d, hd, rfl⟩ := List.mem_map.mp hmem
    exact ⟨d.start, (inForce_iff_covers (hall d hd) _).mpr (covers_start (h.nonempty d hd))⟩
  · rw [List.pairwise_map]
    refine h.apart.imp_of_mem ?_
    rintro a b ha hb ⟨finish, hfinish, hle⟩ day day' hday hday'
    rw [inForce_iff_covers (hall a ha)] at hday
    rw [inForce_iff_covers (hall b hb)] at hday'
    have hlt := hday.2 finish hfinish
    have hge := hday'.1
    omega

theorem exists_dated (h : DaysInOrder declarations) :
    ∃ dated, declarations = dated.map DatedDeclaration.declaration ∧ (∀ d ∈ dated, d.Dated) ∧
      InOrder dated := by
  have hread : ∃ dated : List DatedDeclaration,
      declarations = dated.map DatedDeclaration.declaration ∧ ∀ d ∈ dated, d.Dated := by
    have hnonempty := h.nonempty
    clear h
    induction declarations with
    | nil => exact ⟨[], rfl, by simp⟩
    | cons declaration rest ih =>
      obtain ⟨dated, heq, hall⟩ := ih (fun d hd => hnonempty d (List.mem_cons_of_mem _ hd))
      obtain ⟨day, hday⟩ := hnonempty declaration List.mem_cons_self
      obtain ⟨d, hd⟩ := reads_of_inForce hday
      have hsame : d.declaration = declaration := (reads_cases hd).2.1
      refine ⟨d :: dated, by rw [List.map_cons, hsame, ← heq], ?_⟩
      intro e he
      rcases List.mem_cons.mp he with rfl | he
      · unfold DatedDeclaration.Dated
        rw [hsame]
        exact hd
      · exact hall e he
  obtain ⟨dated, rfl, hall⟩ := hread
  have hcovered : ∀ d ∈ dated, ∃ day, d.Covers day := by
    intro d hd
    obtain ⟨day, hday⟩ := h.nonempty d.declaration (List.mem_map_of_mem hd)
    exact ⟨day, (inForce_iff_covers (hall d hd) day).mp hday⟩
  have hnonempty : ∀ d ∈ dated, ∀ finish ∈ d.finish, d.start < finish := by
    intro d hd finish hfinish
    obtain ⟨day, hle, hlt⟩ := hcovered d hd
    exact lt_of_le_of_lt hle (hlt finish hfinish)
  refine ⟨dated, rfl, hall, hnonempty, ?_⟩
  have hordered := h.ordered
  rw [List.pairwise_map] at hordered
  refine hordered.imp_of_mem ?_
  intro a b ha hb hbefore
  have hafter : ∀ day, a.Covers day → day < b.start := by
    intro day hday
    exact hbefore day b.start ((inForce_iff_covers (hall a ha) day).mpr hday)
      ((inForce_iff_covers (hall b hb) _).mpr (covers_start (hnonempty b hb)))
  cases hfinish : a.finish with
  | none =>
    -- without an end the first one covers every later day
    have hcovers : a.Covers (max a.start b.start) := by
      refine ⟨le_max_left _ _, ?_⟩
      rw [hfinish]
      simp
    have hlt := hafter _ hcovers
    omega
  | some finish =>
    refine ⟨finish, rfl, ?_⟩
    have hlt := hnonempty a ha finish hfinish
    have hlast := hafter (finish - 1) ⟨by omega, fun other hother => by
      rw [hfinish] at hother
      cases hother
      omega⟩
    omega

/-! ## The pass over declarations in order -/

theorem outside_eq_true_iff :
    d.outside first last = true ↔ last < d.start ∨ ∃ finish ∈ d.finish, finish ≤ first := by
  unfold DatedDeclaration.outside
  rw [Bool.or_eq_true, decide_eq_true_eq, Option.any_eq_true_iff_get]
  cases d.finish with
  | none | some => simp

theorem outside_eq_false_iff (hle : first ≤ last)
    (hnonempty : ∀ finish ∈ d.finish, d.start < finish) :
    d.outside first last = false ↔ ∃ day, first ≤ day ∧ day ≤ last ∧ d.Covers day := by
  rw [← Bool.not_eq_true, outside_eq_true_iff]
  constructor
  · intro hinside
    refine ⟨max first d.start, le_max_left _ _, ?_, le_max_right _ _, ?_⟩
    · by_contra hlate
      exact hinside (Or.inl (by omega))
    · intro finish hfinish
      have hlt := hnonempty finish hfinish
      by_contra hover
      exact hinside (Or.inr ⟨finish, hfinish, by omega⟩)
  · rintro ⟨day, hfirst, hlast, hstart, hfinish⟩ (hlate | ⟨finish, hmem, hover⟩)
    · omega
    · have hlt := hfinish finish hmem
      omega

theorem monthStep_cases (first last cursor : Int) (selected : Option RegistryDeclaration)
    (d : DatedDeclaration) :
    (d.outside first last = true ∧
      monthStep first last (cursor, selected) d = .ok (cursor, selected)) ∨
    (d.outside first last = false ∧ cursor < d.start ∧ ∃ code,
      monthStep first last (cursor, selected) d = .error (.value code)) ∨
    (d.outside first last = false ∧ (∃ s ∈ selected, d.declaration.terms ≠ s.terms) ∧ ∃ code,
      monthStep first last (cursor, selected) d = .error (.value code)) ∨
    (d.outside first last = false ∧ d.start ≤ cursor ∧
      (∀ s ∈ selected, d.declaration.terms = s.terms) ∧
      monthStep first last (cursor, selected) d = (IsoDate.nextDay last).bind
        (fun next => .ok (min (d.finish.getD next) next, some d.declaration))) := by
  cases hout : d.outside first last with
  | true =>
    refine Or.inl ⟨rfl, ?_⟩
    rw [monthStep, if_pos hout]
    rfl
  | false =>
    refine Or.inr ?_
    have hstep : monthStep first last (cursor, selected) d =
        (demand (d.start ≤ cursor) "CORE_CUSTODY_REGISTRY_MONTH_GAP").bind (fun _ =>
          (requireUnchangedDeclaration selected d.declaration).bind (fun _ =>
            (IsoDate.nextDay last).bind
              (fun next => .ok (min (d.finish.getD next) next, some d.declaration)))) := by
      rw [monthStep, if_neg (by rw [hout]; decide)]
      rfl
    by_cases hgap : d.start ≤ cursor
    · by_cases hsame : ∀ s ∈ selected, d.declaration.terms = s.terms
      · refine Or.inr (Or.inr ⟨rfl, hgap, hsame, ?_⟩)
        have hunchanged : requireUnchangedDeclaration selected d.declaration = .ok () := by
          rw [requireUnchangedDeclaration, demand_eq_ok_iff]
          cases selected with
          | none => rfl
          | some s => simpa using hsame s rfl
        rw [hstep, (demand_eq_ok_iff _ _).mpr (decide_eq_true hgap), hunchanged]
        rfl
      · refine Or.inr (Or.inl ⟨rfl, ?_, "CORE_CUSTODY_REGISTRY_MONTH_CHANGE_UNSUPPORTED", ?_⟩)
        · simpa using hsame
        · rw [hstep, (demand_eq_ok_iff _ _).mpr (decide_eq_true hgap)]
          have hchanged : requireUnchangedDeclaration selected d.declaration =
              .error (.value "CORE_CUSTODY_REGISTRY_MONTH_CHANGE_UNSUPPORTED") := by
            cases selected with
            | none => exact absurd (by simp) hsame
            | some s =>
              have hne : ¬ d.declaration.terms = s.terms := by simpa using hsame
              simp [requireUnchangedDeclaration, demand, hne]
          rw [hchanged]
          rfl
    · refine Or.inl ⟨rfl, by omega, "CORE_CUSTODY_REGISTRY_MONTH_GAP", ?_⟩
      rw [hstep]
      simp [demand, hgap]
      rfl

theorem nextDay_of_lt (h : last < IsoDate.maxOrdinal) :
    IsoDate.nextDay last = .ok (last + 1) := if_pos h

/-- The pass over what is left of the declarations, from a cursor on. -/
def passFrom (first last : Int) (dated : List DatedDeclaration)
    (state : Int × Option RegistryDeclaration) : Except DateError RegistryDeclaration :=
  (dated.foldlM (monthStep first last) state).bind (selectedDeclaration last)

/-- The terms of the month fit what has been selected and what is left. -/
def TermsFit (first last : Int) (dated : List DatedDeclaration)
    (selected : Option RegistryDeclaration) : Prop :=
  ∃ terms : String × String × Bool × Option Bool, terms.2.2.1 = true ∧
    (∀ s ∈ selected, s.terms = terms) ∧
    ∀ d ∈ dated, d.outside first last = false → d.declaration.terms = terms

/-- The pass accepts when the days from the cursor on are covered and the terms fit. -/
theorem passFrom_ok_iff (hle : first ≤ last) (hlast : last < IsoDate.maxOrdinal)
    (horder : InOrder dated) {cursor : Int}
    {selected : Option RegistryDeclaration} (hcursor : first ≤ cursor)
    (hnone : selected = none → cursor = first)
    (hsome : ∀ s ∈ selected, ∀ d ∈ dated, cursor ≤ d.start) :
    (∃ declaration, passFrom first last dated (cursor, selected) = .ok declaration) ↔
      (∀ day, cursor ≤ day → day ≤ last → ∃ d ∈ dated, d.Covers day) ∧
        TermsFit first last dated selected := by
  induction dated generalizing cursor selected with
  | nil =>
    show (∃ declaration, selectedDeclaration last (cursor, selected) = .ok declaration) ↔ _
    unfold selectedDeclaration
    cases selected with
    | none =>
      have hstart := hnone rfl
      constructor
      · rintro ⟨declaration, h⟩
        cases h
      · rintro ⟨hcovered, _⟩
        obtain ⟨d, hd, _⟩ := hcovered cursor (le_refl _) (by omega)
        cases hd
    | some s =>
      dsimp only
      constructor
      · rintro ⟨declaration, h⟩
        split at h
        · cases h
        · split at h
          · rename_i hpast hincluded
            refine ⟨fun day hday hday' => absurd (le_trans hday hday') hpast, s.terms, hincluded, ?_, ?_⟩
            · rintro _ ⟨⟩
              rfl
            · simp
          · cases h
      · rintro ⟨hcovered, terms, hincluded, hterms, _⟩
        have hpast : ¬ cursor ≤ last := by
          intro hbefore
          obtain ⟨d, hd, _⟩ := hcovered cursor (le_refl _) hbefore
          cases hd
        have hs : s.included = true := by
          have heq := hterms s rfl
          rw [← heq] at hincluded
          exact hincluded
        exact ⟨s, by rw [if_neg hpast, if_pos hs]⟩
  | cons d rest ih =>
    obtain ⟨hends, hapart⟩ := List.pairwise_cons.mp horder.apart
    have hnonempty := horder.nonempty d List.mem_cons_self
    have hrest : InOrder rest :=
      ⟨fun e he => horder.nonempty e (List.mem_cons_of_mem d he), hapart⟩
    have hpass : passFrom first last (d :: rest) (cursor, selected) =
        (monthStep first last (cursor, selected) d).bind (passFrom first last rest) := by
      unfold passFrom
      rw [List.foldlM_cons]
      cases monthStep first last (cursor, selected) d with
      | error e => rfl
      | ok state => rfl
    rw [hpass]
    rcases monthStep_cases first last cursor selected d with
      ⟨hout, hstep⟩ | ⟨hin, hgap, code, hstep⟩ | ⟨hin, hchanged, code, hstep⟩ |
        ⟨hin, hstart, hsame, hstep⟩
    · -- a declaration outside the month covers none of its days
      rw [hstep]
      show (∃ declaration, passFrom first last rest (cursor, selected) = .ok declaration) ↔ _
      rw [ih hrest hcursor hnone (fun s hs e he => hsome s hs e (List.mem_cons_of_mem d he))]
      have hnever : ∀ day, cursor ≤ day → day ≤ last → ¬ d.Covers day := by
        intro day hday hday' hcovers
        have hin := (outside_eq_false_iff hle hnonempty).mpr ⟨day, by omega, hday', hcovers⟩
        rw [hout] at hin
        cases hin
      refine and_congr ?_ ?_
      · refine forall_congr' fun day => forall_congr' fun hday => forall_congr' fun hday' => ?_
        simp [hnever day hday hday']
      · unfold TermsFit
        simp [hout]
    · -- nothing that is left covers the day of the cursor
      rw [hstep]
      refine iff_of_false ?_ ?_
      · rintro ⟨declaration, h⟩
        cases h
      · rintro ⟨hcovered, _⟩
        have hlate : ¬ last < d.start := by
          intro hlate
          rw [outside_eq_true_iff.mpr (Or.inl hlate)] at hin
          cases hin
        obtain ⟨e, he, hcovers⟩ := hcovered cursor (le_refl _) (by omega)
        have hstart := hcovers.1
        rcases List.mem_cons.mp he with rfl | he
        · omega
        · obtain ⟨finish, hfinish, hbefore⟩ := hends e he
          have hlt := hnonempty finish hfinish
          omega
    · rw [hstep]
      refine iff_of_false ?_ ?_
      · rintro ⟨declaration, h⟩
        cases h
      · rintro ⟨_, terms, _, hterms, hall⟩
        obtain ⟨s, hs, hne⟩ := hchanged
        exact hne ((hall d List.mem_cons_self hin).trans (hterms s hs).symm)
    · rw [hstep, nextDay_of_lt hlast]
      have hinside : ¬ (last < d.start ∨ ∃ finish ∈ d.finish, finish ≤ first) := by
        rw [← outside_eq_true_iff, hin]
        decide
      rw [not_or] at hinside
      obtain ⟨hlate, hearly⟩ := hinside
      -- the day up to which the month is covered now
      obtain ⟨next, hnext⟩ : ∃ next, min (d.finish.getD (last + 1)) (last + 1) = next := ⟨_, rfl⟩
      have hbounds : first ≤ next ∧ cursor ≤ next ∧ next ≤ last + 1 ∧
          (∀ finish ∈ d.finish, next ≤ finish) ∧ (next ≤ last → d.finish = some next) := by
        have hcursor' : cursor ≤ d.start ∨ cursor = first := by
          cases hselected : selected with
          | none => exact Or.inr (hnone hselected)
          | some s => exact Or.inl (hsome s hselected d List.mem_cons_self)
        cases hfinish : d.finish with
        | none =>
          rw [hfinish, Option.getD_none, min_self] at hnext
          refine ⟨by omega, by omega, by omega, by simp, by omega⟩
        | some finish =>
          rw [hfinish, Option.getD_some] at hnext
          have hlt := hnonempty finish hfinish
          have hover : ¬ finish ≤ first := fun hover => hearly ⟨finish, hfinish, hover⟩
          refine ⟨by omega, by omega, by omega, ?_, ?_⟩
          · rintro _ ⟨⟩
            omega
          · intro hbefore
            rw [Option.some_inj]
            omega
      obtain ⟨hfirst, hforward, hpast, hfinish, hexact⟩ := hbounds
      show (∃ declaration, passFrom first last rest
        (min (d.finish.getD (last + 1)) (last + 1), some d.declaration) = .ok declaration) ↔ _
      rw [hnext, ih hrest hfirst (fun h => by cases h) ?_]
      · refine and_congr ⟨?_, ?_⟩ ⟨?_, ?_⟩
        · intro hcovered day hday hday'
          by_cases hcovers : day < next
          · refine ⟨d, List.mem_cons_self, by omega, fun finish hmem => ?_⟩
            have hle := hfinish finish hmem
            omega
          · obtain ⟨e, he, hcovers⟩ := hcovered day (by omega) hday'
            exact ⟨e, List.mem_cons_of_mem d he, hcovers⟩
        · intro hcovered day hday hday'
          obtain ⟨e, he, hcovers⟩ := hcovered day (by omega) hday'
          rcases List.mem_cons.mp he with rfl | he
          · have hlt := hcovers.2 next (hexact (by omega))
            omega
          · exact ⟨e, he, hcovers⟩
        · rintro ⟨terms, hincluded, hterms, hall⟩
          have hd := hterms d.declaration rfl
          refine ⟨terms, hincluded, fun s hs => (hsame s hs).symm.trans hd, ?_⟩
          intro e he hine
          rcases List.mem_cons.mp he with rfl | he
          · exact hd
          · exact hall e he hine
        · rintro ⟨terms, hincluded, hterms, hall⟩
          refine ⟨terms, hincluded, ?_, fun e he => hall e (List.mem_cons_of_mem d he)⟩
          rintro _ ⟨⟩
          exact hall d List.mem_cons_self hin
      · intro _ _ e he
        obtain ⟨finish, hmem, hbefore⟩ := hends e he
        have hle := hfinish finish hmem
        omega

theorem passFrom_error_value (hlast : last < IsoDate.maxOrdinal)
    (items : List (Except DateError DatedDeclaration))
    (hitems : ∀ error, Except.error error ∈ items → ∃ code, error = .value code)
    (state : Int × Option RegistryDeclaration) (error : DateError)
    (h : (items.foldlM (fun state item => do
      let dated ← item
      monthStep first last state dated) state).bind (selectedDeclaration last) = .error error) :
    ∃ code, error = .value code := by
  induction items generalizing state with
  | nil =>
    have h : selectedDeclaration last state = .error error := h
    unfold selectedDeclaration at h
    split at h
    · cases h
      exact ⟨_, rfl⟩
    · split at h
      · cases h
        exact ⟨_, rfl⟩
      · split at h
        · cases h
        · cases h
          exact ⟨_, rfl⟩
  | cons item rest ih =>
    rw [List.foldlM_cons] at h
    cases item with
    | error e =>
      cases h
      exact hitems _ List.mem_cons_self
    | ok d =>
      obtain ⟨cursor, selected⟩ := state
      have hrest := fun state => ih (fun e he => hitems e (List.mem_cons_of_mem _ he)) state
      rcases monthStep_cases first last cursor selected d with
        ⟨_, hstep⟩ | ⟨_, _, code, hstep⟩ | ⟨_, _, code, hstep⟩ | ⟨_, _, _, hstep⟩
      · simp only [bind, Except.bind, hstep] at h
        exact hrest _ h
      · simp only [bind, Except.bind, hstep] at h
        cases h
        exact ⟨code, rfl⟩
      · simp only [bind, Except.bind, hstep] at h
        cases h
        exact ⟨code, rfl⟩
      · rw [nextDay_of_lt hlast] at hstep
        simp only [bind, Except.bind, hstep] at h
        exact hrest _ h

/-! ## The whole pass -/

theorem monthDeclaration_eq (member : RegistryMember) (first last : Int) :
    monthDeclaration member first last =
      ((orderedDeclarations none member.declarations).foldlM (fun state item => do
        let dated ← item
        monthStep first last state dated) (first, none)).bind (selectedDeclaration last) := rfl

theorem foldlM_yields (first last : Int) (dated : List DatedDeclaration)
    (tail : List (Except DateError DatedDeclaration)) (state : Int × Option RegistryDeclaration) :
    (dated.map Except.ok ++ tail).foldlM (fun state item => do
      let dated ← item
      monthStep first last state dated) state =
      (dated.foldlM (monthStep first last) state).bind (fun state =>
        tail.foldlM (fun state item => do
          let dated ← item
          monthStep first last state dated) state) := by
  rw [List.foldlM_append, List.foldlM_map]
  rfl

theorem orderedDeclarations_error
    (h : Except.error error ∈ orderedDeclarations previous declarations) :
    ∃ code, error = .value code := by
  obtain ⟨dated, rest, _, _, _, ⟨_, hyields⟩ | ⟨code, hyields⟩⟩ :=
    orderedDeclarations_cases previous declarations
  · rw [hyields] at h
    obtain ⟨d, _, heq⟩ := List.mem_map.mp h
    cases heq
  · rw [hyields] at h
    rcases List.mem_append.mp h with h | h
    · obtain ⟨d, _, heq⟩ := List.mem_map.mp h
      cases heq
    · rw [List.mem_singleton] at h
      cases h
      exact ⟨code, rfl⟩

theorem mem_of_daysInOrder {after : List RegistryDeclaration} (h : DaysInOrder declarations)
    {tail : List DateError}
    (hyields : orderedDeclarations none (declarations ++ after) =
      dated.map Except.ok ++ tail.map Except.error) (hmem : declaration ∈ declarations) {day : Int}
    (hday : declaration.InForce day) : ∃ d ∈ dated, d.Covers day := by
  obtain ⟨others, rfl, hall, horder⟩ := exists_dated h
  obtain ⟨d, hd, rfl⟩ := List.mem_map.mp hmem
  have hfrom : OrderedFrom none others := orderedFrom_iff.mpr ⟨horder, by simp⟩
  obtain ⟨ends, heq⟩ := orderedDeclarations_append hall hfrom after
  have hin : Except.ok d ∈ dated.map Except.ok ++ tail.map (Except.error (α := DatedDeclaration)) := by
    rw [← hyields, heq]
    exact List.mem_append_left _ (List.mem_map_of_mem hd)
  refine ⟨d, ?_, (inForce_iff_covers (hall d hd) day).mp hday⟩
  rcases List.mem_append.mp hin with hin | hin
  · obtain ⟨d', hd', heq'⟩ := List.mem_map.mp hin
    cases heq'
    exact hd'
  · obtain ⟨error, _, heq'⟩ := List.mem_map.mp hin
    cases heq'

theorem exactMonth_map_iff (hle : first ≤ last)
    (hall : ∀ d ∈ dated, d.Dated) (horder : InOrder dated) :
    ExactMonth (dated.map DatedDeclaration.declaration) first last ↔
      (∀ day, first ≤ day → day ≤ last → ∃ d ∈ dated, d.Covers day) ∧
        TermsFit first last dated none := by
  have hinMonth : ∀ d ∈ dated, d.outside first last = false ↔ d.declaration.InMonth first last := by
    intro d hd
    rw [outside_eq_false_iff hle (horder.nonempty d hd)]
    unfold RegistryDeclaration.InMonth
    simp only [inForce_iff_covers (hall d hd)]
  have hcovered : (∀ day, first ≤ day → day ≤ last → ∃ declaration ∈
      dated.map DatedDeclaration.declaration, declaration.InForce day) ↔
      ∀ day, first ≤ day → day ≤ last → ∃ d ∈ dated, d.Covers day := by
    refine forall_congr' fun day => forall_congr' fun _ => forall_congr' fun _ => ?_
    constructor
    · rintro ⟨declaration, hmem, hday⟩
      obtain ⟨d, hd, rfl⟩ := List.mem_map.mp hmem
      exact ⟨d, hd, (inForce_iff_covers (hall d hd) day).mp hday⟩
    · rintro ⟨d, hd, hday⟩
      exact ⟨d.declaration, List.mem_map_of_mem hd, (inForce_iff_covers (hall d hd) day).mpr hday⟩
  constructor
  · intro h
    have hdays := hcovered.mp h.covered
    refine ⟨hdays, ?_⟩
    -- the declaration of the first day gives the terms
    obtain ⟨d, hd, hday⟩ := hdays first (le_refl _) hle
    have hd' : d.declaration.InMonth first last :=
      ⟨first, le_refl _, hle, (inForce_iff_covers (hall d hd) first).mpr hday⟩
    refine ⟨d.declaration.terms, h.included _ (List.mem_map_of_mem hd) hd', by simp, ?_⟩
    intro e he hin
    exact h.agree _ (List.mem_map_of_mem he) _ (List.mem_map_of_mem hd) ((hinMonth e he).mp hin) hd'
  · rintro ⟨hdays, terms, hincluded, _, hterms⟩
    have hfit : ∀ a ∈ dated.map DatedDeclaration.declaration, a.InMonth first last →
        a.terms = terms := by
      intro a ha hin
      obtain ⟨d, hd, rfl⟩ := List.mem_map.mp ha
      exact hterms d hd ((hinMonth d hd).mpr hin)
    refine ⟨daysInOrder_map hall horder, hcovered.mpr hdays, ?_, ?_⟩
    · intro a ha b hb hain hbin
      rw [hfit a ha hain, hfit b hb hbin]
    · intro a ha hain
      have heq := hfit a ha hain
      rw [← heq] at hincluded
      exact hincluded

theorem decidesMonth_of_lt (hle : first ≤ last) (hlast : last < IsoDate.maxOrdinal)
    (member : RegistryMember) : DecidesMonth member first last := by
  refine ⟨?_, ?_⟩
  · rw [monthDeclaration_eq]
    obtain ⟨dated, rest, heq, hall, hfrom, hyields⟩ :=
      orderedDeclarations_cases none member.declarations
    have horder := (orderedFrom_iff.mp hfrom).1
    rcases hyields with ⟨rfl, hyields⟩ | ⟨code, hyields⟩
    · have hpass : ((orderedDeclarations none member.declarations).foldlM (fun state item => do
          let dated ← item
          monthStep first last state dated) (first, none)).bind (selectedDeclaration last) =
          passFrom first last dated (first, none) := by
        rw [hyields, ← List.append_nil (dated.map Except.ok), foldlM_yields]
        unfold passFrom
        cases dated.foldlM (monthStep first last) (first, none) with
        | error | ok => rfl
      rw [hpass, passFrom_ok_iff hle hlast horder (le_refl _) (fun _ => rfl) (by simp), heq,
        List.append_nil, exactMonth_map_iff hle hall horder]
    · refine iff_of_false ?_ ?_
      · rintro ⟨declaration, h⟩
        rw [hyields, foldlM_yields] at h
        cases hfold : dated.foldlM (monthStep first last) (first, none) with
        | error | ok =>
          rw [hfold] at h
          cases h
      · intro hexact
        obtain ⟨others, hsame, hall', horder'⟩ := exists_dated hexact.toDaysInOrder
        obtain ⟨ends, hothers⟩ := orderedDeclarations_append hall'
          (orderedFrom_iff.mpr ⟨horder', by simp⟩ : OrderedFrom none others) []
        rw [List.append_nil, ← hsame, hyields] at hothers
        have hmem : Except.error (DateError.value code) ∈ others.map Except.ok ++
            orderedDeclarations ends [] := by
          rw [← hothers]
          exact List.mem_append_right _ List.mem_cons_self
        simp [orderedDeclarations] at hmem
  · intro error h
    rw [monthDeclaration_eq] at h
    exact passFrom_error_value hlast _ (fun _ => orderedDeclarations_error) _ _ h

/-! ## The last month of the calendar -/

/-- The pass comes to a declaration that is in force on the first day of the month: it and those before
it are in order. -/
def ReachesMonth (declarations : List RegistryDeclaration) (first : Int) : Prop :=
  ∃ before declaration after, declarations = before ++ declaration :: after ∧
    DaysInOrder (before ++ [declaration]) ∧ declaration.InForce first

theorem nextDay_maxOrdinal : IsoDate.nextDay IsoDate.maxOrdinal = .error .overflow := rfl

theorem lastPass_cases (hle : first ≤ IsoDate.maxOrdinal)
    (horder : InOrder dated) :
    ((∃ d ∈ dated, d.Covers first) ∧
      dated.foldlM (monthStep first IsoDate.maxOrdinal) (first, none) = .error .overflow) ∨
    ((∀ d ∈ dated, ¬ d.Covers first) ∧
      (dated.foldlM (monthStep first IsoDate.maxOrdinal) (first, none) = .ok (first, none) ∨
        ∃ code, dated.foldlM (monthStep first IsoDate.maxOrdinal) (first, none) =
          .error (.value code))) := by
  induction dated with
  | nil => exact Or.inr ⟨by simp, Or.inl rfl⟩
  | cons d rest ih =>
    obtain ⟨hends, hapart⟩ := List.pairwise_cons.mp horder.apart
    have hnonempty := horder.nonempty d List.mem_cons_self
    have hrest : InOrder rest :=
      ⟨fun e he => horder.nonempty e (List.mem_cons_of_mem d he), hapart⟩
    rw [List.foldlM_cons]
    rcases monthStep_cases first IsoDate.maxOrdinal first none d with
      ⟨hout, hstep⟩ | ⟨hin, hgap, code, hstep⟩ | ⟨_, ⟨s, hs, _⟩, _⟩ | ⟨hin, hstart, _, hstep⟩
    · rw [hstep]
      have hnot : ¬ d.Covers first := by
        intro hcovers
        have hin := (outside_eq_false_iff hle hnonempty).mpr ⟨first, le_refl _, hle, hcovers⟩
        rw [hout] at hin
        cases hin
      rcases ih hrest with ⟨⟨e, he, hcovers⟩, hfold⟩ | ⟨hnone, hfold⟩
      · exact Or.inl ⟨⟨e, List.mem_cons_of_mem d he, hcovers⟩, hfold⟩
      · refine Or.inr ⟨?_, hfold⟩
        intro e he
        rcases List.mem_cons.mp he with rfl | he
        · exact hnot
        · exact hnone e he
    · rw [hstep]
      refine Or.inr ⟨?_, Or.inr ⟨code, rfl⟩⟩
      intro e he hcovers
      have hbegun := hcovers.1
      rcases List.mem_cons.mp he with rfl | he
      · omega
      · obtain ⟨finish, hfinish, hbefore⟩ := hends e he
        have hlt := hnonempty finish hfinish
        omega
    · cases hs
    · rw [hstep, nextDay_maxOrdinal]
      refine Or.inl ⟨⟨d, List.mem_cons_self, hstart, ?_⟩, rfl⟩
      intro finish hfinish
      by_contra hover
      rw [outside_eq_true_iff.mpr (Or.inr ⟨finish, hfinish, by omega⟩)] at hin
      cases hin

theorem exists_yields (declarations : List RegistryDeclaration) :
    ∃ (dated : List DatedDeclaration) (rest : List RegistryDeclaration) (tail : List DateError),
      declarations = dated.map DatedDeclaration.declaration ++ rest ∧
      (∀ d ∈ dated, d.Dated) ∧ InOrder dated ∧
      (∀ error ∈ tail, ∃ code, error = DateError.value code) ∧
      orderedDeclarations none declarations = dated.map Except.ok ++ tail.map Except.error := by
  obtain ⟨dated, rest, heq, hall, hfrom, hyields⟩ := orderedDeclarations_cases none declarations
  have horder := (orderedFrom_iff.mp hfrom).1
  rcases hyields with ⟨_, hyields⟩ | ⟨code, hyields⟩
  · exact ⟨dated, rest, [], heq, hall, horder, by simp, by rw [hyields]; simp⟩
  · exact ⟨dated, rest, [.value code], heq, hall, horder, by simp, by rw [hyields]; simp⟩

theorem decidesMonth_max_iff (hle : first ≤ IsoDate.maxOrdinal) (member : RegistryMember) :
    DecidesMonth member first IsoDate.maxOrdinal ↔ ¬ ReachesMonth member.declarations first := by
  obtain ⟨dated, rest, tail, heq, hall, horder, htail, hyields⟩ := exists_yields member.declarations
  have hresult : monthDeclaration member first IsoDate.maxOrdinal =
      ((dated.foldlM (monthStep first IsoDate.maxOrdinal) (first, none)).bind (fun state =>
        (tail.map Except.error).foldlM (fun state item => do
          let dated ← item
          monthStep first IsoDate.maxOrdinal state dated) state)).bind
        (selectedDeclaration IsoDate.maxOrdinal) := by
    rw [monthDeclaration_eq, hyields, foldlM_yields]
  rcases lastPass_cases hle horder with ⟨⟨d, hd, hcovers⟩, hfold⟩ | ⟨hnone, hfold⟩
  · rw [hfold] at hresult
    refine iff_of_false ?_ (not_not_intro ?_)
    · rintro ⟨_, hvalue⟩
      obtain ⟨code, hcode⟩ := hvalue .overflow hresult
      cases hcode
    · obtain ⟨before, after, rfl⟩ := List.append_of_mem hd
      refine ⟨before.map DatedDeclaration.declaration, d.declaration,
        after.map DatedDeclaration.declaration ++ rest, ?_, ?_,
        (inForce_iff_covers (hall d hd) first).mpr hcovers⟩
      · rw [heq, List.map_append, List.map_cons, List.append_assoc, List.cons_append]
      · have hfront : (before ++ [d]).Sublist (before ++ d :: after) :=
          List.Sublist.append_left (List.Sublist.cons_cons d (List.nil_sublist after)) before
        have hmap := @daysInOrder_map (before ++ [d])
          (fun e he => hall e (hfront.subset he))
          ⟨fun e he => horder.nonempty e (hfront.subset he), horder.apart.sublist hfront⟩
        rw [List.map_append] at hmap
        exact hmap
  · -- no declaration of the first day is among the dates
    have hnever : ∀ declarations after, member.declarations = declarations ++ after →
        DaysInOrder declarations → ∀ declaration ∈ declarations, ¬ declaration.InForce first := by
      intro declarations after hsplit hdays declaration hmem hday
      rw [hsplit] at hyields
      obtain ⟨d, hd, hcovers⟩ := mem_of_daysInOrder hdays hyields hmem hday
      exact hnone d hd hcovers
    have herror : ∃ code, monthDeclaration member first IsoDate.maxOrdinal =
        .error (.value code) := by
      rcases hfold with hfold | ⟨code, hfold⟩
      · rw [hresult, hfold]
        cases tail with
        | nil => exact ⟨_, rfl⟩
        | cons error tail =>
          obtain ⟨code, rfl⟩ := htail error List.mem_cons_self
          exact ⟨code, rfl⟩
      · rw [hresult, hfold]
        exact ⟨code, rfl⟩
    obtain ⟨code, herror⟩ := herror
    refine iff_of_true ⟨iff_of_false ?_ ?_, ?_⟩ ?_
    · rintro ⟨declaration, h⟩
      rw [herror] at h
      cases h
    · intro hexact
      obtain ⟨declaration, hmem, hday⟩ := hexact.covered first (le_refl _) hle
      exact hnever member.declarations [] (List.append_nil _).symm hexact.toDaysInOrder declaration
        hmem hday
    · intro error h
      rw [herror] at h
      cases h
      exact ⟨code, rfl⟩
    · rintro ⟨before, declaration, after, hsplit, hdays, hday⟩
      refine hnever (before ++ [declaration]) after ?_ hdays declaration
        (List.mem_append_right _ List.mem_cons_self) hday
      rw [hsplit, List.append_assoc, List.singleton_append]

theorem monthWindow_bounds {month : Month} (h : month.Valid) :
    (monthWindow month).1.ordinal ≤ (monthWindow month).2.ordinal ∧
      (monthWindow month).2.ordinal ≤ IsoDate.maxOrdinal := by
  obtain ⟨hyear, hyear', hmonth, hmonth'⟩ := h
  have hdays : 1 ≤ daysInMonth month.year month.month := by
    unfold daysInMonth
    split
    · split <;> decide
    · split <;> decide
  have hlast : IsoDate.ymdOrdinal month.year month.month (daysInMonth month.year month.month) =
      some (monthWindow month).2.ordinal := by
    unfold IsoDate.ymdOrdinal
    rw [if_pos ⟨hyear, hyear', hmonth, hmonth', hdays, Nat.le_refl _⟩]
    rfl
  refine ⟨?_, (IsoDate.ymdOrdinal_bounds hlast).2⟩
  show ((_ + _ : Nat) : Int) + 1 ≤ ((_ + _ : Nat) : Int) + _
  omega

/-- The declarations of a month are decided day by day, and refused with a `ValueError`, unless the
month ends with the calendar and the pass reaches it. -/
theorem month_declaration_exact_iff (member : RegistryMember) (month : Month) (h : month.Valid) :
    DecidesMonth member (monthWindow month).1.ordinal (monthWindow month).2.ordinal ↔
      ((monthWindow month).2.ordinal = IsoDate.maxOrdinal →
        ¬ ReachesMonth member.declarations (monthWindow month).1.ordinal) := by
  obtain ⟨hle, hmax⟩ := monthWindow_bounds h
  by_cases hlast : (monthWindow month).2.ordinal = IsoDate.maxOrdinal
  · rw [hlast] at hle ⊢
    rw [decidesMonth_max_iff hle]
    exact ⟨fun hnot _ => hnot, fun hnot => hnot rfl⟩
  · exact iff_of_true (decidesMonth_of_lt hle (by omega) member) (fun heq => absurd heq hlast)

/-! ## A member of the last month -/

def openMember : RegistryMember where
  providerNamespace := "core"
  sourceMemberId := "m-1"
  portfolioId := some "p-1"
  declarations := [⟨"2024-01-01", none, "v1", "SGD", true, some true⟩]

theorem month_declaration_exact_january :
    DecidesMonth openMember (monthWindow ⟨2026, 1⟩).1.ordinal (monthWindow ⟨2026, 1⟩).2.ordinal :=
  (month_declaration_exact_iff openMember ⟨2026, 1⟩ (by decide)).mpr
    fun hlast => absurd hlast (by decide +kernel)

/-- December 9999 is covered, and the day after it is asked for. -/
theorem december_9999_overflows :
    ¬ ∀ (member : RegistryMember) (month : Month), month.Valid →
      DecidesMonth member (monthWindow month).1.ordinal (monthWindow month).2.ordinal := by
  intro hclaim
  have hresult : monthDeclaration openMember (monthWindow ⟨9999, 12⟩).1.ordinal
      (monthWindow ⟨9999, 12⟩).2.ordinal = .error .overflow := by decide +kernel
  obtain ⟨code, hcode⟩ := (hclaim openMember ⟨9999, 12⟩ (by decide)).2 _ hresult
  cases hcode

end LotusManage.Composites
