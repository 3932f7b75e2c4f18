import LotusManage.Lib.Checks
import LotusManage.Lib.Datetime
import LotusManage.Lib.Dict
import LotusManage.Lib.Loops
import Mathlib.Data.Finset.Lattice.Lemmas
import Mathlib.Data.Prod.Lex
import Mathlib.Data.String.Basic

/-!
# The closure of flow reversals

`require_flow_closure` of `core_source_products.py` over the cuts and facts of
`core_source_custody.py`.  A cut pins its events and the facts that they depend on, a fact that reverses
another one pins it, and the check follows these pins from every event.

`factRoot` is the hash of a fact, which is refused for an amount that is no canonical decimal, and
`readFact` reads a fact from a value of the payload.  A digest is its hexadecimal text and a day its ISO
text, both compared as texts.

* `chainPass_more_iff`: one step along a chain.
* `flowDependencyChain_terminates`: the loop ends on every graph of pins.
* `flowDependencyChain_ok_iff`: it accepts what `ReversalChain` describes, and gives the dependencies on
  the way.
* `flow_closure_exact`: the whole check.
-/

namespace LotusManage.Composites

open Checks Loops

/-! ## Facts and cuts -/

/-- `coverage` -/
inductive FlowCoverage where
  | complete
  | partial_
  | missing
  deriving DecidableEq

/-- `classification` -/
inductive FlowFactClass where
  | externalCash
  | internalTransfer
  | reversal
  | inKind
  deriving DecidableEq

/-- `posting_state` -/
inductive PostingState where
  | posted
  | cancelled
  | unknown
  deriving DecidableEq

/-- `reversal_state` -/
inductive ReversalState where
  | none
  | reverses
  | unknown
  deriving DecidableEq

/-- `FlowPin` -/
structure FlowPin where
  sourceRecordId : String
  observationId : String
  contentHash : String
  flowSourceRecordRevision : Nat
  revision_pos : 1 ≤ flowSourceRecordRevision := by decide
  identical_pins : observationId = contentHash := by decide
  deriving DecidableEq

/-- `ObservationEnvelope` -/
structure ObservationEnvelope where
  tenantId : String
  portfolioId : String
  producerId : String
  sourceRecordId : String
  sourceRevision : Nat
  sourceCutId : String
  definitionVersion : String
  effectiveFrom : String
  effectiveTo : Option String := none
  observedAt : Datetime
  generatedAt : Datetime
  coverage : FlowCoverage := .complete
  coverageScope : String
  predecessorId : Option String := none
  expectedHeadHash : Option String := none
  revision_pos : 1 ≤ sourceRevision := by decide
  interval : ∀ stop ∈ effectiveTo, effectiveFrom < stop := by decide
  chronology : observedAt.instant ≤ generatedAt.instant := by decide
  correction : (predecessorId = none ↔ expectedHeadHash = none) ∧
    (sourceRevision = 1 ↔ predecessorId = none) := by decide
  deriving DecidableEq

/-- `FlowFact` -/
structure FlowFact where
  envelope : ObservationEnvelope
  businessDate : String
  currency : String
  amount : String
  classification : FlowFactClass
  postingState : PostingState := .posted
  reversalState : ReversalState := .none
  reversesSourceRecordId : Option String := none
  reversalTarget : Option FlowPin := none
  economicEventId : Option String := none
  transactionId : Option String := none
  effective : envelope.effectiveFrom ≤ businessDate ∧
    ∀ stop ∈ envelope.effectiveTo, businessDate < stop := by decide
  reversal : (reversalState = .reverses ↔ reversesSourceRecordId ≠ none) ∧
    (reversalState = .reverses ↔ reversalTarget ≠ none) ∧
    (reversalState = .reverses ↔ classification = .reversal) ∧
    reversesSourceRecordId ≠ some envelope.sourceRecordId := by decide
  target : ∀ pin ∈ reversalTarget, reversesSourceRecordId = some pin.sourceRecordId := by decide
  deriving DecidableEq

/-- The source record that a fact is a revision of. -/
def FlowFact.record (fact : FlowFact) : String := fact.envelope.sourceRecordId

/-- The key that dependency pins are sorted by. -/
def FlowPin.sortKey (pin : FlowPin) : String ×ₗ Nat ×ₗ String :=
  toLex (pin.sourceRecordId, toLex (pin.flowSourceRecordRevision, pin.observationId))

/-- `FlowCut` -/
structure FlowCut where
  tenantId : String
  portfolioId : String
  sourceSystem : String
  sourceCutId : String
  cutRevision : Nat
  definitionVersion : String
  currency : String
  coverageFrom : String
  coverageTo : String
  coverage : FlowCoverage
  eventPins : List FlowPin
  dependencyPins : List FlowPin
  predecessorCutHash : Option String := none
  expectedHeadHash : Option String := none
  events_sorted : (eventPins.map FlowPin.sourceRecordId).Pairwise (· < ·) := by decide +kernel
  dependencies_sorted : (dependencyPins.map FlowPin.sortKey).Pairwise (· < ·) := by decide +kernel
  pins_le : (eventPins ++ dependencyPins).length ≤ 1000 := by decide
  observations_nodup : ((eventPins ++ dependencyPins).map FlowPin.observationId).Nodup := by decide
  revisions_nodup : ((eventPins ++ dependencyPins).map fun pin =>
    (pin.sourceRecordId, pin.flowSourceRecordRevision)).Nodup := by decide
  window : coverageFrom ≤ coverageTo := by decide
  revision : 1 ≤ cutRevision ∧
    (cutRevision = 1 → predecessorCutHash = none ∧ expectedHeadHash = none) ∧
    (1 < cutRevision → predecessorCutHash ≠ none ∧ predecessorCutHash = expectedHeadHash) := by
      decide
  deriving DecidableEq

/-- What the check reads of a payload; a value that is no list is `none`. -/
structure FlowPayload (α : Type) where
  events : Option (List α)
  dependencies : Option (List α)

/-! ## The check -/

section Check

variable {α : Type} (factRoot : FlowFact → Except String String)
  (readFact : α → Except String FlowFact) (cut : FlowCut)

/-- What a fact shares with the cut. -/
def FlowFact.InScope (fact : FlowFact) (cut : FlowCut) : Prop :=
  fact.envelope.tenantId = cut.tenantId ∧ fact.envelope.portfolioId = cut.portfolioId ∧
    fact.envelope.producerId = cut.sourceSystem ∧
    fact.envelope.definitionVersion = cut.definitionVersion ∧ fact.currency = cut.currency

instance (fact : FlowFact) (cut : FlowCut) : Decidable (fact.InScope cut) :=
  inferInstanceAs (Decidable (_ ∧ _ ∧ _ ∧ _ ∧ _))

/-- What a fact with this hash shares with its pin. -/
def FlowPin.Matches (pin : FlowPin) (fact : FlowFact) (root : String) : Prop :=
  fact.record = pin.sourceRecordId ∧
    fact.envelope.sourceRevision = pin.flowSourceRecordRevision ∧ root = pin.contentHash

instance (pin : FlowPin) (fact : FlowFact) (root : String) : Decidable (pin.Matches fact root) :=
  inferInstanceAs (Decidable (_ ∧ _ ∧ _))

/-- `_pinned_flow` -/
def pinnedFlow (fact : FlowFact) (pin : FlowPin) (window : Bool) : Except String Unit := do
  let root ← factRoot fact
  if ¬ (fact.InScope cut ∧ pin.Matches fact root) then .error "CORE_READER_FLOW_PIN_SCOPE"
  else if window = true ∧
      ¬ (cut.coverageFrom ≤ fact.businessDate ∧ fact.businessDate ≤ cut.coverageTo) then
    .error "CORE_READER_FLOW_WINDOW"
  else if fact.envelope.coverage ≠ .complete ∨ fact.postingState = .unknown ∨
      fact.reversalState = .unknown then
    .error "CORE_READER_FLOW_UNAVAILABLE"
  else .ok ()

/-- A list of the payload against its pins. -/
def pinnedFacts (window : Bool) (pins : List FlowPin) (values : Option (List α)) :
    Except String (List (FlowPin × FlowFact)) :=
  match values with
  | none => .error "CORE_READER_FLOW_MEMBERSHIP"
  | some values =>
    if values.length ≠ pins.length then .error "CORE_READER_FLOW_MEMBERSHIP"
    else (pins.zip values).mapM fun (pin, value) => do
      let fact ← readFact value
      pinnedFlow factRoot cut fact pin window
      return (pin, fact)

/-- `_flow_membership` -/
def flowMembership (payload : FlowPayload α) :
    Except String (List FlowFact × Dict String FlowFact) := do
  let events ← pinnedFacts factRoot readFact cut true cut.eventPins payload.events
  let dependencies ← pinnedFacts factRoot readFact cut false cut.dependencyPins payload.dependencies
  return (events.map Prod.snd,
    Dict.ofEntries ((events ++ dependencies).map fun (pin, fact) => (pin.observationId, fact)))

/-- The variables of the loop of `_flow_dependency_chain`. -/
structure ChainState where
  current : FlowFact
  seen : List String
  needed : Finset String

variable (allFacts : Dict String FlowFact) (dependencyIds : Finset String)

/-- A pass of the loop of `_flow_dependency_chain`. -/
def chainPass (s : ChainState) : Except String (Pass ChainState (Finset String)) :=
  match s.current.reversalTarget with
  | none => .ok (.done s.needed)
  | some pin =>
    match allFacts.get? pin.observationId with
    | none => .error "CORE_READER_FLOW_CLOSURE"
    | some target =>
      if target.record ∈ s.seen then .error "CORE_READER_FLOW_CLOSURE"
      else do
        pinnedFlow factRoot cut target pin false
        if s.current.businessDate < target.businessDate then
          .error "CORE_READER_FLOW_TARGET_CHRONOLOGY"
        else
          .ok (.more
            { current := target
              seen := target.record :: s.seen
              needed := if pin.observationId ∈ dependencyIds then insert pin.observationId s.needed
                else s.needed })

/-- `_flow_dependency_chain` -/
def flowDependencyChain (event : FlowFact) : Option (Except String (Finset String)) :=
  iterate (chainPass factRoot cut allFacts dependencyIds) (allFacts.values.length + 1)
    ⟨event, [event.record], ∅⟩

/-- The loop of `require_flow_closure`. -/
def neededDependencies : List FlowFact → Finset String → Option (Except String (Finset String))
  | [], needed => some (.ok needed)
  | event :: events, needed =>
    match flowDependencyChain factRoot cut allFacts dependencyIds event with
    | none => none
    | some (.error e) => some (.error e)
    | some (.ok ids) => neededDependencies events (needed ∪ ids)

/-- `require_flow_closure` -/
def requireFlowClosure (payload : FlowPayload α) : Option (Except String Unit) :=
  match flowMembership factRoot readFact cut payload with
  | .error e => some (.error e)
  | .ok (events, allFacts) =>
    if cut.coverage ≠ .complete then some (.error "CORE_READER_FLOW_UNAVAILABLE")
    else
      let dependencyIds := (cut.dependencyPins.map FlowPin.observationId).toFinset
      match neededDependencies factRoot cut allFacts dependencyIds events ∅ with
      | none => none
      | some (.error e) => some (.error e)
      | some (.ok needed) =>
        if needed ≠ dependencyIds then some (.error "CORE_READER_FLOW_UNREFERENCED_DEPENDENCY")
        else some (.ok ())

end Check

/-! ## Reversal chains -/

/-- Following the reversal targets of a fact to one that reverses nothing, over targets that `target`
admits for their pins. -/
inductive ReversalChain (target : FlowPin → FlowFact → Prop) :
    FlowFact → List (FlowPin × FlowFact) → Prop where
  | unreversed {fact : FlowFact} : fact.reversalTarget = none → ReversalChain target fact []
  | reverses {fact next : FlowFact} {pin : FlowPin} {rest : List (FlowPin × FlowFact)} :
      fact.reversalTarget = some pin → target pin next → ReversalChain target next rest →
      ReversalChain target fact ((pin, next) :: rest)

variable {target : FlowPin → FlowFact → Prop} {chain : List (FlowPin × FlowFact)}

theorem ReversalChain.mono {target' : FlowPin → FlowFact → Prop} {fact : FlowFact}
    (h : ReversalChain target fact chain) (himp : ∀ pin next, target pin next → target' pin next) :
    ReversalChain target' fact chain := by
  induction h with
  | unreversed hnone => exact .unreversed hnone
  | reverses hpin htarget _ ih => exact .reverses hpin (himp _ _ htarget) ih

/-- The source records of the targets. -/
def chainRecords (chain : List (FlowPin × FlowFact)) : List String :=
  chain.map fun link => link.2.record

/-- No source record twice, and no day after the one before it. -/
def Orderly (event : FlowFact) (chain : List (FlowPin × FlowFact)) : Prop :=
  (event.record :: chainRecords chain).Nodup ∧
    (event :: chain.map Prod.snd).IsChain fun a b => b.businessDate ≤ a.businessDate

/-- The dependencies among the targets. -/
def chainDependencies (dependencyIds : Finset String) (chain : List (FlowPin × FlowFact)) :
    Finset String :=
  ((chain.map fun link => link.1.observationId).filter (· ∈ dependencyIds)).toFinset

/-- A fact that is known in full. -/
def FlowFact.Available (fact : FlowFact) : Prop :=
  fact.envelope.coverage = .complete ∧ fact.postingState ≠ .unknown ∧ fact.reversalState ≠ .unknown

section Walks

variable {factRoot : FlowFact → Except String String} {cut : FlowCut}
  {allFacts : Dict String FlowFact} {dependencyIds : Finset String}

variable {s : ChainState} {needed : Finset String}

theorem pinnedFlow_eq_ok_iff {fact : FlowFact} {pin : FlowPin} {window : Bool} :
    pinnedFlow factRoot cut fact pin window = .ok () ↔
      (∃ root, factRoot fact = .ok root ∧ pin.Matches fact root) ∧ fact.InScope cut ∧
        (window = true → cut.coverageFrom ≤ fact.businessDate ∧ fact.businessDate ≤ cut.coverageTo) ∧
        fact.Available := by
  unfold pinnedFlow FlowFact.Available
  cases hroot : factRoot fact with
  | error e =>
    refine iff_of_false nofun ?_
    rintro ⟨⟨root, h, _⟩, _⟩
    cases h
  | ok root =>
    show (if _ then _ else _) = _ ↔ _
    simp only [Except.ok.injEq, exists_eq_left']
    by_cases hscope : fact.InScope cut ∧ pin.Matches fact root
    · rw [if_neg (not_not_intro hscope)]
      by_cases hwindow : window = true ∧
          ¬ (cut.coverageFrom ≤ fact.businessDate ∧ fact.businessDate ≤ cut.coverageTo)
      · rw [if_pos hwindow]
        exact iff_of_false nofun fun h => hwindow.2 (h.2.2.1 hwindow.1)
      · rw [if_neg hwindow]
        rw [not_and, not_not] at hwindow
        by_cases havailable : fact.envelope.coverage ≠ .complete ∨ fact.postingState = .unknown ∨
            fact.reversalState = .unknown
        · rw [if_pos havailable]
          refine iff_of_false nofun fun h => ?_
          rcases havailable with hcoverage | hposting | hreversal
          · exact hcoverage h.2.2.2.1
          · exact h.2.2.2.2.1 hposting
          · exact h.2.2.2.2.2 hreversal
        · rw [if_neg havailable]
          rw [not_or, not_or, ne_eq, not_not] at havailable
          exact iff_of_true rfl ⟨hscope.2, hscope.1, hwindow, havailable⟩
    · rw [if_pos hscope]
      exact iff_of_false nofun fun h => hscope ⟨h.2.1, h.1⟩

/-- The target that the loop takes for a pin. -/
def Reaches (factRoot : FlowFact → Except String String) (cut : FlowCut)
    (allFacts : Dict String FlowFact) (pin : FlowPin) (next : FlowFact) : Prop :=
  allFacts.get? pin.observationId = some next ∧ pinnedFlow factRoot cut next pin false = .ok ()

theorem chainPass_more_iff {t : ChainState} :
    chainPass factRoot cut allFacts dependencyIds s = .ok (.more t) ↔
      ∃ pin next, s.current.reversalTarget = some pin ∧ Reaches factRoot cut allFacts pin next ∧
        next.record ∉ s.seen ∧ next.businessDate ≤ s.current.businessDate ∧
        t = ⟨next, next.record :: s.seen, if pin.observationId ∈ dependencyIds then
          insert pin.observationId s.needed else s.needed⟩ := by
  unfold chainPass Reaches
  cases htarget : s.current.reversalTarget with
  | none =>
    refine iff_of_false (by rintro ⟨⟩) ?_
    rintro ⟨pin, next, h, _⟩
    cases h
  | some pin =>
    cases hget : allFacts.get? pin.observationId with
    | none =>
      simp only [hget]
      refine iff_of_false (fun h => by cases h) ?_
      rintro ⟨pin', next, h, ⟨hget', _⟩, _⟩
      cases h
      rw [hget] at hget'
      cases hget'
    | some next =>
      have hsame : ∀ {pin' : FlowPin} {next' : FlowFact}, some pin = some pin' →
          allFacts.get? pin'.observationId = some next' → pin' = pin ∧ next' = next := by
        intro pin' next' hpin hget'
        cases hpin
        rw [hget] at hget'
        exact ⟨rfl, (Option.some.inj hget').symm⟩
      simp only [hget]
      by_cases hseen : next.record ∈ s.seen
      · rw [if_pos hseen]
        refine iff_of_false (fun h => by cases h) ?_
        rintro ⟨pin', next', hpin, ⟨hget', _⟩, hnot, _⟩
        obtain ⟨_, rfl⟩ := hsame hpin hget'
        exact hnot hseen
      · rw [if_neg hseen]
        cases hpinned : pinnedFlow factRoot cut next pin false with
        | error e =>
          refine iff_of_false (fun h => by cases h) ?_
          rintro ⟨pin', next', hpin, ⟨hget', hpinned'⟩, _⟩
          obtain ⟨rfl, rfl⟩ := hsame hpin hget'
          rw [hpinned] at hpinned'
          cases hpinned'
        | ok _ =>
          show (if _ then _ else _) = _ ↔ _
          by_cases hdate : s.current.businessDate < next.businessDate
          · rw [if_pos hdate]
            refine iff_of_false (fun h => by cases h) ?_
            rintro ⟨pin', next', hpin, ⟨hget', _⟩, _, hle, _⟩
            obtain ⟨_, rfl⟩ := hsame hpin hget'
            exact absurd hdate (not_lt.mpr hle)
          · rw [if_neg hdate]
            constructor
            · intro h
              cases h
              exact ⟨pin, next, rfl, ⟨hget, hpinned⟩, hseen, not_lt.mp hdate, rfl⟩
            · rintro ⟨pin', next', hpin, ⟨hget', _⟩, _, _, rfl⟩
              obtain ⟨rfl, rfl⟩ := hsame hpin hget'
              rfl

theorem chainPass_done_iff :
    chainPass factRoot cut allFacts dependencyIds s = .ok (.done needed) ↔
      s.current.reversalTarget = none ∧ needed = s.needed := by
  unfold chainPass
  cases htarget : s.current.reversalTarget with
  | none =>
    constructor
    · intro h
      cases h
      exact ⟨rfl, rfl⟩
    · rintro ⟨_, rfl⟩
      rfl
  | some pin =>
    refine iff_of_false ?_ (fun h => Option.some_ne_none pin h.1)
    cases hget : allFacts.get? pin.observationId with
    | none =>
      simp only [hget]
      exact fun h => by cases h
    | some next =>
      simp only [hget]
      by_cases hseen : next.record ∈ s.seen
      · rw [if_pos hseen]
        exact fun h => by cases h
      · rw [if_neg hseen]
        cases pinnedFlow factRoot cut next pin false with
        | error e => exact fun h => by cases h
        | ok _ =>
          show ¬ (if _ then _ else _) = _
          by_cases hdate : s.current.businessDate < next.businessDate
          · rw [if_pos hdate]
            exact fun h => by cases h
          · rw [if_neg hdate]
            exact fun h => by cases h

theorem flowDependencyChain_terminates (event : FlowFact) :
    ∃ r, flowDependencyChain factRoot cut allFacts dependencyIds event = some r := by
  refine iterate_terminates (fun _ => True)
    (fun s => (allFacts.values.filter fun fact => fact.record ∉ s.seen).length) ?_ trivial
    (Nat.lt_succ_of_le (List.length_filter_le _ _))
  intro s t _ hmore
  obtain ⟨pin, next, _, ⟨hget, _⟩, hseen, _, rfl⟩ := chainPass_more_iff.mp hmore
  refine ⟨trivial, ?_⟩
  have hfilter : allFacts.values.filter (fun fact => fact.record ∉ next.record :: s.seen) =
      (allFacts.values.filter fun fact => fact.record ∉ s.seen).filter
        (fun fact => fact.record ≠ next.record) := by
    rw [List.filter_filter]
    refine List.filter_congr fun fact _ => ?_
    simp only [List.mem_cons, not_or, Bool.decide_and, ne_eq]
  rw [hfilter, List.length_filter_lt_length_iff_exists]
  refine ⟨next, List.mem_filter.mpr ⟨?_, decide_eq_true hseen⟩, ?_⟩
  · exact (Dict.mem_values_iff _ _).mpr ⟨_, hget⟩
  · simp only [ne_eq, not_true_eq_false, decide_false, Bool.false_eq_true, not_false_eq_true]

theorem chainDependencies_cons (pin : FlowPin) (next : FlowFact)
    (rest : List (FlowPin × FlowFact)) (needed : Finset String) :
    needed ∪ chainDependencies dependencyIds ((pin, next) :: rest) =
      (if pin.observationId ∈ dependencyIds then insert pin.observationId needed else needed) ∪
        chainDependencies dependencyIds rest := by
  unfold chainDependencies
  rw [List.map_cons, List.filter_cons]
  by_cases hmem : pin.observationId ∈ dependencyIds
  · rw [if_pos (decide_eq_true hmem), if_pos hmem, List.toFinset_cons, Finset.union_insert,
      Finset.insert_union]
  · rw [if_neg (by rw [decide_eq_false hmem]; exact Bool.false_ne_true), if_neg hmem]

theorem exists_chain_of_iterate {passes : Nat}
    (h : iterate (chainPass factRoot cut allFacts dependencyIds) passes s = some (.ok needed)) :
    ∃ chain, ReversalChain (Reaches factRoot cut allFacts) s.current chain ∧
      (chainRecords chain).Nodup ∧ (∀ r ∈ chainRecords chain, r ∉ s.seen) ∧
      ((s.current :: chain.map Prod.snd).IsChain fun a b => b.businessDate ≤ a.businessDate) ∧
      needed = s.needed ∪ chainDependencies dependencyIds chain := by
  induction passes generalizing s with
  | zero => cases h
  | succ passes ih =>
    cases hpass : chainPass factRoot cut allFacts dependencyIds s with
    | error e =>
      rw [iterate_succ_error hpass] at h
      cases h
    | ok pass =>
      cases pass with
      | done result =>
        rw [iterate_succ_done hpass] at h
        cases h
        obtain ⟨hnone, rfl⟩ := chainPass_done_iff.mp hpass
        exact ⟨[], .unreversed hnone, List.nodup_nil, nofun, .singleton _,
          (Finset.union_empty _).symm⟩
      | more t =>
        rw [iterate_succ_more hpass] at h
        obtain ⟨pin, next, hpin, hreaches, hseen, hdate, rfl⟩ := chainPass_more_iff.mp hpass
        obtain ⟨chain, hchain, hnodup, hfresh, hdates, rfl⟩ := ih h
        refine ⟨(pin, next) :: chain, .reverses hpin hreaches hchain, ?_, ?_, ?_, ?_⟩
        · refine List.nodup_cons.mpr ⟨fun hmem => ?_, hnodup⟩
          exact hfresh _ hmem List.mem_cons_self
        · intro r hr
          rcases List.mem_cons.mp hr with rfl | hr
          · exact hseen
          · exact fun hmem => hfresh r hr (List.mem_cons_of_mem _ hmem)
        · exact List.isChain_cons_cons.mpr ⟨hdate, hdates⟩
        · exact (chainDependencies_cons pin next chain s.needed).symm

theorem iterate_of_chain {chain : List (FlowPin × FlowFact)} {fact : FlowFact}
    (hchain : ReversalChain (Reaches factRoot cut allFacts) fact chain) {seen : List String}
    {needed : Finset String} (hnodup : (chainRecords chain).Nodup)
    (hfresh : ∀ r ∈ chainRecords chain, r ∉ seen)
    (hdates : (fact :: chain.map Prod.snd).IsChain fun a b => b.businessDate ≤ a.businessDate) :
    ∃ passes, iterate (chainPass factRoot cut allFacts dependencyIds) passes ⟨fact, seen, needed⟩ =
      some (.ok (needed ∪ chainDependencies dependencyIds chain)) := by
  induction hchain generalizing seen needed with
  | unreversed hnone =>
    refine ⟨1, iterate_succ_done (chainPass_done_iff.mpr ⟨hnone, ?_⟩)⟩
    exact Finset.union_empty _
  | @reverses fact next pin rest hpin hreaches _ ih =>
    have hparts := List.nodup_cons.mp hnodup
    have hsteps := List.isChain_cons_cons.mp hdates
    have hmore : chainPass factRoot cut allFacts dependencyIds ⟨fact, seen, needed⟩ = .ok (.more
        ⟨next, next.record :: seen, if pin.observationId ∈ dependencyIds then
          insert pin.observationId needed else needed⟩) :=
      chainPass_more_iff.mpr
        ⟨pin, next, hpin, hreaches, hfresh _ List.mem_cons_self, hsteps.1, rfl⟩
    have hfresh' : ∀ r ∈ chainRecords rest, r ∉ next.record :: seen := by
      intro r hr hmem
      rcases List.mem_cons.mp hmem with rfl | hmem
      · exact hparts.1 hr
      · exact hfresh r (List.mem_cons_of_mem _ hr) hmem
    obtain ⟨passes, hpasses⟩ := ih hparts.2 hfresh' hsteps.2
    refine ⟨passes + 1, ?_⟩
    rw [iterate_succ_more hmore, hpasses, chainDependencies_cons]

theorem flowDependencyChain_ok_iff {event : FlowFact} :
    flowDependencyChain factRoot cut allFacts dependencyIds event = some (.ok needed) ↔
      ∃ chain, ReversalChain (Reaches factRoot cut allFacts) event chain ∧ Orderly event chain ∧
        needed = chainDependencies dependencyIds chain := by
  unfold Orderly
  constructor
  · intro h
    obtain ⟨chain, hchain, hnodup, hfresh, hdates, rfl⟩ := exists_chain_of_iterate h
    refine ⟨chain, hchain, ⟨List.nodup_cons.mpr ⟨fun hmem => ?_, hnodup⟩, hdates⟩,
      Finset.empty_union _⟩
    exact hfresh _ hmem (List.mem_singleton_self _)
  · rintro ⟨chain, hchain, ⟨hnodup, hdates⟩, rfl⟩
    obtain ⟨hevent, hnodup⟩ := List.nodup_cons.mp hnodup
    have hfresh : ∀ r ∈ chainRecords chain, r ∉ [event.record] := by
      intro r hr hmem
      rw [List.mem_singleton.mp hmem] at hr
      exact hevent hr
    obtain ⟨passes, hpasses⟩ :=
      @iterate_of_chain factRoot cut allFacts dependencyIds chain event hchain [event.record] ∅
        hnodup hfresh hdates
    obtain ⟨r, hr⟩ := @flowDependencyChain_terminates factRoot cut allFacts dependencyIds event
    have hlong := iterate_mono (Nat.le_add_right passes (allFacts.values.length + 1)) hpasses
    have hlong' := iterate_mono (Nat.le_add_left (allFacts.values.length + 1) passes) hr
    rw [hr, ← hlong', hlong, Finset.empty_union]

end Walks

/-! ## The facts of a payload -/

section Membership

variable {α : Type} (factRoot : FlowFact → Except String String)
  (readFact : α → Except String FlowFact) (cut : FlowCut) (payload : FlowPayload α)

/-- The payload has this fact in the place of this pin. -/
def HasAt (pins : List FlowPin) (values : Option (List α)) (pin : FlowPin) (fact : FlowFact) : Prop :=
  ∃ vs value, values = some vs ∧ (pin, value) ∈ pins.zip vs ∧ readFact value = .ok fact

/-- An event of the cut. -/
def IsEvent (pin : FlowPin) (fact : FlowFact) : Prop :=
  HasAt readFact cut.eventPins payload.events pin fact

/-- An event or a dependency of the cut. -/
def IsMember (pin : FlowPin) (fact : FlowFact) : Prop :=
  IsEvent readFact cut payload pin fact ∨
    HasAt readFact cut.dependencyPins payload.dependencies pin fact

/-- The fact that a pin means: a member of the cut with the pin's observation, and one that matches
the pin. -/
def IsTarget (pin : FlowPin) (fact : FlowFact) : Prop :=
  (∃ own, IsMember readFact cut payload own fact ∧ own.observationId = pin.observationId) ∧
    ∃ root, factRoot fact = .ok root ∧ pin.Matches fact root

/-- What the check is for. -/
structure FlowsClosed : Prop where
  complete : cut.coverage = .complete
  chains : ∀ pin event, IsEvent readFact cut payload pin event →
    ∃ chain, ReversalChain (IsTarget factRoot readFact cut payload) event chain ∧
      Orderly event chain
  dependencies : ∀ own ∈ cut.dependencyPins, ∃ pin event chain,
    IsEvent readFact cut payload pin event ∧
      ReversalChain (IsTarget factRoot readFact cut payload) event chain ∧
      own.observationId ∈ chain.map fun link => link.1.observationId

variable {factRoot readFact cut payload}

variable {facts : List (FlowPin × FlowFact)} {events : List FlowFact}
  {allFacts : Dict String FlowFact}

theorem parts_of_forall₂ {P : FlowPin → FlowFact → Prop} {places : List (FlowPin × α)}
    (h : List.Forall₂ (fun place pinned => pinned.1 = place.1 ∧ readFact place.2 = .ok pinned.2 ∧
      P pinned.1 pinned.2) places facts) :
    facts.map Prod.fst = places.map Prod.fst ∧
      (∀ pin fact, (pin, fact) ∈ facts ↔
        ∃ value, (pin, value) ∈ places ∧ readFact value = .ok fact) ∧
      ∀ pin fact, (pin, fact) ∈ facts → P pin fact := by
  induction h with
  | nil =>
    refine ⟨rfl, fun pin fact => ?_, fun pin fact hfact => absurd hfact List.not_mem_nil⟩
    refine iff_of_false List.not_mem_nil ?_
    rintro ⟨value, hmem, _⟩
    exact absurd hmem List.not_mem_nil
  | @cons place pinned places facts hone _ ih =>
    obtain ⟨own, value⟩ := place
    obtain ⟨own', fact⟩ := pinned
    obtain ⟨hmap, hmem, hflow⟩ := ih
    obtain ⟨hpin, hread, hpinned⟩ := hone
    have hpin' : own' = own := hpin
    subst hpin'
    refine ⟨congrArg (List.cons own') hmap, fun pin fact' => ?_, fun pin fact' hfact => ?_⟩
    · rw [List.mem_cons, hmem, Prod.mk.injEq]
      constructor
      · rintro (⟨rfl, rfl⟩ | ⟨value', hvalue, hread'⟩)
        · exact ⟨value, List.mem_cons_self, hread⟩
        · exact ⟨value', List.mem_cons_of_mem _ hvalue, hread'⟩
      · rintro ⟨value', hvalue, hread'⟩
        rcases List.mem_cons.mp hvalue with heq | hvalue
        · rw [Prod.mk.injEq] at heq
          obtain ⟨rfl, rfl⟩ := heq
          exact .inl ⟨rfl, Except.ok.inj (hread'.symm.trans hread)⟩
        · exact .inr ⟨value', hvalue, hread'⟩
    · rcases List.mem_cons.mp hfact with heq | hfact
      · rw [Prod.mk.injEq] at heq
        obtain ⟨rfl, rfl⟩ := heq
        exact hpinned
      · exact hflow pin fact' hfact

theorem pinnedFacts_ok {window : Bool} {pins : List FlowPin} {values : Option (List α)}
    (h : pinnedFacts factRoot readFact cut window pins values = .ok facts) :
    facts.map Prod.fst = pins ∧
      (∀ pin fact, (pin, fact) ∈ facts ↔ HasAt readFact pins values pin fact) ∧
      ∀ pin fact, (pin, fact) ∈ facts → pinnedFlow factRoot cut fact pin window = .ok () := by
  unfold pinnedFacts at h
  cases values with
  | none => cases h
  | some vs =>
    simp only [] at h
    by_cases hlength : vs.length = pins.length
    · rw [if_neg (not_not_intro hlength)] at h
      have hall : List.Forall₂ (fun (place : FlowPin × α) (pinned : FlowPin × FlowFact) =>
          pinned.1 = place.1 ∧ readFact place.2 = .ok pinned.2 ∧
            pinnedFlow factRoot cut pinned.2 pinned.1 window = .ok ()) (pins.zip vs) facts := by
        refine (forall₂_of_mapM h).imp fun place pinned hpinned => ?_
        obtain ⟨fact, hfact, hpinned⟩ := bind_eq_ok hpinned
        obtain ⟨_, hflow, hpinned⟩ := bind_eq_ok hpinned
        cases hpinned
        exact ⟨rfl, hfact, hflow⟩
      obtain ⟨hmap, hmem, hflow⟩ :=
        parts_of_forall₂ (P := fun pin fact => pinnedFlow factRoot cut fact pin window = .ok ()) hall
      refine ⟨hmap.trans (List.map_fst_zip (Nat.le_of_eq hlength.symm)), fun pin fact => ?_, hflow⟩
      rw [hmem]
      constructor
      · rintro ⟨value, hvalue, hread⟩
        exact ⟨vs, value, rfl, hvalue, hread⟩
      · rintro ⟨vs', value, hvs, hvalue, hread⟩
        cases hvs
        exact ⟨value, hvalue, hread⟩
    · rw [if_pos hlength] at h
      cases h

/-- What `_flow_membership` has established: the events, the facts by their observation, and that
every fact is that of its pin. -/
theorem flowMembership_ok
    (h : flowMembership factRoot readFact cut payload = .ok (events, allFacts)) :
    (∀ fact, fact ∈ events ↔ ∃ pin, IsEvent readFact cut payload pin fact) ∧
      (∀ id fact, allFacts.get? id = some fact ↔
        ∃ pin, IsMember readFact cut payload pin fact ∧ pin.observationId = id) ∧
      ∀ pin fact, IsMember readFact cut payload pin fact →
        pinnedFlow factRoot cut fact pin false = .ok () := by
  unfold flowMembership at h
  obtain ⟨eventFacts, hevents, h⟩ := bind_eq_ok h
  obtain ⟨dependencyFacts, hdependencies, h⟩ := bind_eq_ok h
  cases h
  obtain ⟨hepins, hemem, heflow⟩ := pinnedFacts_ok hevents
  obtain ⟨hdpins, hdmem, hdflow⟩ := pinnedFacts_ok hdependencies
  have hmember : ∀ pin fact, (pin, fact) ∈ eventFacts ++ dependencyFacts ↔
      IsMember readFact cut payload pin fact := by
    intro pin fact
    rw [List.mem_append, hemem, hdmem]
    rfl
  refine ⟨fun fact => ?_, fun id fact => ?_, fun pin fact hfact => ?_⟩
  · rw [List.mem_map]
    constructor
    · rintro ⟨⟨pin, _⟩, hmem, rfl⟩
      exact ⟨pin, (hemem pin _).mp hmem⟩
    · rintro ⟨pin, hevent⟩
      exact ⟨(pin, fact), (hemem pin fact).mpr hevent, rfl⟩
  · -- the observations of the pins are distinct, so none hides another one
    have hnodup : ((eventFacts ++ dependencyFacts).map fun e => e.1.observationId).Nodup := by
      have hpins := cut.observations_nodup
      rw [← hepins, ← hdpins, ← List.map_append, List.map_map] at hpins
      exact hpins
    constructor
    · intro hget
      obtain ⟨⟨pin, _⟩, hmem, heq⟩ := List.mem_map.mp (Dict.mem_of_get?_ofEntries hget)
      cases heq
      exact ⟨pin, (hmember pin _).mp hmem, rfl⟩
    · rintro ⟨pin, hpin, rfl⟩
      have hmem := (hmember pin fact).mpr hpin
      refine Dict.get?_ofEntries_of_forall ?_ ?_
      · rw [List.map_map]
        exact List.mem_map.mpr ⟨(pin, fact), hmem, rfl⟩
      · intro e he hid
        obtain ⟨⟨pin', fact'⟩, hmem', rfl⟩ := List.mem_map.mp he
        have hsame := List.inj_on_of_nodup_map hnodup hmem' hmem hid
        cases hsame
        rfl
  · rcases (List.mem_append.mp ((hmember pin fact).mpr hfact)) with hmem | hmem
    · have hflow := pinnedFlow_eq_ok_iff.mp (heflow pin fact hmem)
      exact pinnedFlow_eq_ok_iff.mpr ⟨hflow.1, hflow.2.1, nofun, hflow.2.2.2⟩
    · exact hdflow pin fact hmem

theorem reaches_iff (h : flowMembership factRoot readFact cut payload = .ok (events, allFacts))
    (pin : FlowPin) (next : FlowFact) :
    Reaches factRoot cut allFacts pin next ↔ IsTarget factRoot readFact cut payload pin next := by
  obtain ⟨_, hget, hflow⟩ := flowMembership_ok h
  unfold Reaches IsTarget
  rw [hget]
  constructor
  · rintro ⟨hown, hpinned⟩
    exact ⟨hown, (pinnedFlow_eq_ok_iff.mp hpinned).1⟩
  · rintro ⟨⟨own, hmember, hid⟩, hmatches⟩
    have hown := pinnedFlow_eq_ok_iff.mp (hflow own next hmember)
    exact ⟨⟨own, hmember, hid⟩, pinnedFlow_eq_ok_iff.mpr
      ⟨hmatches, hown.2.1, fun h => absurd h Bool.false_ne_true, hown.2.2.2⟩⟩

end Membership

theorem ReversalChain.unique (hone : ∀ pin a b, target pin a → target pin b → a = b)
    {fact : FlowFact} {chain' : List (FlowPin × FlowFact)} (h : ReversalChain target fact chain)
    (h' : ReversalChain target fact chain') : chain = chain' := by
  induction h generalizing chain' with
  | unreversed hnone =>
    cases h' with
    | unreversed _ => rfl
    | reverses hpin' _ _ =>
      rw [hnone] at hpin'
      cases hpin'
  | reverses hpin htarget _ ih =>
    cases h' with
    | unreversed hnone =>
      rw [hnone] at hpin
      cases hpin
    | reverses hpin' htarget' hrest' =>
      rw [hpin] at hpin'
      cases hpin'
      have hnext := hone _ _ _ htarget htarget'
      subst hnext
      rw [ih hrest']

/-! ## All events -/

section Events

variable {factRoot : FlowFact → Except String String} {cut : FlowCut}
  {allFacts : Dict String FlowFact} {dependencyIds : Finset String}

/-- The events are all accepted, and what is needed is what their chains need; or one of them is
not. -/
theorem neededDependencies_cases (events : List FlowFact) (needed : Finset String) :
    (∃ result, neededDependencies factRoot cut allFacts dependencyIds events needed =
        some (.ok result) ∧
      (∀ event ∈ events, ∃ ids,
        flowDependencyChain factRoot cut allFacts dependencyIds event = some (.ok ids)) ∧
      ∀ id, id ∈ result ↔ id ∈ needed ∨ ∃ event ∈ events, ∃ ids,
        flowDependencyChain factRoot cut allFacts dependencyIds event = some (.ok ids) ∧ id ∈ ids) ∨
    ∃ e, neededDependencies factRoot cut allFacts dependencyIds events needed = some (.error e) ∧
      ∃ event ∈ events, ∀ ids,
        flowDependencyChain factRoot cut allFacts dependencyIds event ≠ some (.ok ids) := by
  induction events generalizing needed with
  | nil =>
    refine .inl ⟨needed, rfl, fun event h => absurd h List.not_mem_nil, fun id => ?_⟩
    refine ⟨Or.inl, ?_⟩
    rintro (h | ⟨event, h, _⟩)
    · exact h
    · exact absurd h List.not_mem_nil
  | cons event events ih =>
    obtain ⟨r, hr⟩ := @flowDependencyChain_terminates factRoot cut allFacts dependencyIds event
    rw [neededDependencies, hr]
    cases r with
    | error e =>
      refine .inr ⟨e, rfl, event, List.mem_cons_self, fun ids h => ?_⟩
      rw [hr] at h
      cases h
    | ok ids =>
      rcases ih (needed ∪ ids) with ⟨result, hresult, hall, hmem⟩ | ⟨e, he, bad, hbad, hnot⟩
      · refine .inl ⟨result, hresult, ?_, fun id => ?_⟩
        · rw [List.forall_mem_cons]
          exact ⟨⟨ids, hr⟩, hall⟩
        · rw [hmem, Finset.mem_union, or_assoc]
          refine or_congr Iff.rfl ?_
          constructor
          · rintro (h | ⟨event', hevent', ids', hids', h⟩)
            · exact ⟨event, List.mem_cons_self, ids, hr, h⟩
            · exact ⟨event', List.mem_cons_of_mem _ hevent', ids', hids', h⟩
          · rintro ⟨event', hevent', ids', hids', h⟩
            rcases List.mem_cons.mp hevent' with rfl | hevent'
            · rw [hr] at hids'
              cases hids'
              exact .inl h
            · exact .inr ⟨event', hevent', ids', hids', h⟩
      · exact .inr ⟨e, he, bad, List.mem_cons_of_mem _ hbad, hnot⟩

theorem mem_chainDependencies {chain : List (FlowPin × FlowFact)} {id : String} :
    id ∈ chainDependencies dependencyIds chain ↔
      id ∈ (chain.map fun link => link.1.observationId) ∧ id ∈ dependencyIds := by
  unfold chainDependencies
  rw [List.mem_toFinset, List.mem_filter, decide_eq_true_eq]

end Events

/-- For every cut and payload that pass `_flow_membership`, the check ends, and it accepts exactly the
closed flows. -/
theorem flow_closure_exact {α : Type} (factRoot : FlowFact → Except String String)
    (readFact : α → Except String FlowFact) (cut : FlowCut) (payload : FlowPayload α)
    (h : ∃ members, flowMembership factRoot readFact cut payload = .ok members) :
    ∃ result, requireFlowClosure factRoot readFact cut payload = some result ∧
      (result = .ok () ↔ FlowsClosed factRoot readFact cut payload) := by
  obtain ⟨⟨events, allFacts⟩, h⟩ := h
  obtain ⟨hevents, _, _⟩ := flowMembership_ok h
  have hchain : ∀ {event chain}, ReversalChain (Reaches factRoot cut allFacts) event chain ↔
      ReversalChain (IsTarget factRoot readFact cut payload) event chain := fun {_ _} =>
    ⟨fun hc => hc.mono fun pin next => (reaches_iff h pin next).mp,
      fun hc => hc.mono fun pin next => (reaches_iff h pin next).mpr⟩
  have hone : ∀ pin a b, Reaches factRoot cut allFacts pin a → Reaches factRoot cut allFacts pin b →
      a = b := by
    rintro pin a b ⟨ha, _⟩ ⟨hb, _⟩
    exact Option.some.inj (ha.symm.trans hb)
  unfold requireFlowClosure
  rw [h]
  simp only []
  by_cases hcoverage : cut.coverage = .complete
  · rw [if_neg (not_not_intro hcoverage)]
    rcases @neededDependencies_cases factRoot cut allFacts
        (cut.dependencyPins.map FlowPin.observationId).toFinset events ∅ with
      ⟨result, hresult, hall, hmem⟩ | ⟨e, he, bad, hbad, hnot⟩
    · simp only [hresult]
      have hclosed : result = (cut.dependencyPins.map FlowPin.observationId).toFinset ↔
          FlowsClosed factRoot readFact cut payload := by
        constructor
        · rintro rfl
          refine ⟨hcoverage, fun pin event hevent => ?_, fun own hown => ?_⟩
          · obtain ⟨ids, hids⟩ := hall event ((hevents event).mpr ⟨pin, hevent⟩)
            obtain ⟨chain, hc, horderly, _⟩ := flowDependencyChain_ok_iff.mp hids
            exact ⟨chain, hchain.mp hc, horderly⟩
          · have hid := List.mem_toFinset.mpr (List.mem_map_of_mem (f := FlowPin.observationId) hown)
            rcases (hmem _).mp hid with hempty | ⟨event, hevent, ids, hids, hneeded⟩
            · exact absurd hempty (Finset.notMem_empty _)
            · obtain ⟨chain, hc, _, rfl⟩ := flowDependencyChain_ok_iff.mp hids
              obtain ⟨pin, hpin⟩ := (hevents event).mp hevent
              exact ⟨pin, event, chain, hpin, hchain.mp hc, (mem_chainDependencies.mp hneeded).1⟩
        · intro hclosed
          refine Finset.ext fun id => ⟨fun hid => ?_, fun hid => ?_⟩
          · rcases (hmem id).mp hid with hempty | ⟨event, _, ids, hids, hneeded⟩
            · exact absurd hempty (Finset.notMem_empty _)
            · obtain ⟨chain, _, _, rfl⟩ := flowDependencyChain_ok_iff.mp hids
              exact (mem_chainDependencies.mp hneeded).2
          · obtain ⟨own, hown, rfl⟩ := List.mem_map.mp (List.mem_toFinset.mp hid)
            obtain ⟨pin, event, chain, hevent, hc, hreached⟩ := hclosed.dependencies own hown
            have hmember := (hevents event).mpr ⟨pin, hevent⟩
            obtain ⟨ids, hids⟩ := hall event hmember
            obtain ⟨chain', hc', _, rfl⟩ := flowDependencyChain_ok_iff.mp hids
            have hsame : chain = chain' := (hchain.mpr hc).unique hone hc'
            subst hsame
            exact (hmem _).mpr
              (.inr ⟨event, hmember, _, hids, mem_chainDependencies.mpr ⟨hreached, hid⟩⟩)
      by_cases hsame : result = (cut.dependencyPins.map FlowPin.observationId).toFinset
      · rw [if_neg (not_not_intro hsame)]
        exact ⟨_, rfl, iff_of_true rfl (hclosed.mp hsame)⟩
      · rw [if_pos hsame]
        exact ⟨_, rfl, iff_of_false nofun fun hc => hsame (hclosed.mpr hc)⟩
    · simp only [he]
      refine ⟨_, rfl, iff_of_false nofun fun hclosed => ?_⟩
      obtain ⟨pin, hevent⟩ := (hevents bad).mp hbad
      obtain ⟨chain, hc, horderly⟩ := hclosed.chains pin bad hevent
      exact hnot _ (flowDependencyChain_ok_iff.mpr ⟨chain, hchain.mpr hc, horderly, rfl⟩)
  · rw [if_pos hcoverage]
    exact ⟨_, rfl, iff_of_false nofun fun hclosed => hcoverage hclosed.complete⟩

/-! ### An event that takes back an earlier one -/

/-- A payment of the month before. -/
def paymentFact : FlowFact where
  envelope :=
    { tenantId := "T", portfolioId := "P", producerId := "core", sourceRecordId := "r1"
      sourceRevision := 1, sourceCutId := "c1", definitionVersion := "v1"
      effectiveFrom := "2026-04-20", observedAt := { year := 2026, month := 4, day := 20 }
      generatedAt := { year := 2026, month := 4, day := 21 }, coverageScope := "flows" }
  businessDate := "2026-04-20"
  currency := "USD"
  amount := "100.00"
  classification := .externalCash
  effective := by decide +kernel

/-- What takes it back. -/
def reversalFact : FlowFact where
  envelope :=
    { tenantId := "T", portfolioId := "P", producerId := "core", sourceRecordId := "r2"
      sourceRevision := 1, sourceCutId := "c2", definitionVersion := "v1"
      effectiveFrom := "2026-05-03", observedAt := { year := 2026, month := 5, day := 3 }
      generatedAt := { year := 2026, month := 5, day := 4 }, coverageScope := "flows" }
  businessDate := "2026-05-03"
  currency := "USD"
  amount := "-100.00"
  classification := .reversal
  reversalState := .reverses
  reversesSourceRecordId := some "r1"
  reversalTarget := some
    { sourceRecordId := "r1", observationId := "h:r1", contentHash := "h:r1"
      flowSourceRecordRevision := 1 }
  effective := by decide +kernel

/-- A cut of May with the reversal as its event. -/
def reversalCut : FlowCut where
  tenantId := "T"
  portfolioId := "P"
  sourceSystem := "core"
  sourceCutId := "c2"
  cutRevision := 1
  definitionVersion := "v1"
  currency := "USD"
  coverageFrom := "2026-05-01"
  coverageTo := "2026-05-31"
  coverage := .complete
  eventPins := [{ sourceRecordId := "r2", observationId := "h:r2", contentHash := "h:r2"
                  flowSourceRecordRevision := 1 }]
  dependencyPins := [{ sourceRecordId := "r1", observationId := "h:r1", contentHash := "h:r1"
                       flowSourceRecordRevision := 1 }]
  window := by decide +kernel

theorem flow_closure_exact_reversal :
    ∃ result, requireFlowClosure (fun fact => .ok ("h:" ++ fact.record)) .ok reversalCut
        ⟨some [reversalFact], some [paymentFact]⟩ = some result ∧
      (result = .ok () ↔ FlowsClosed (fun fact => .ok ("h:" ++ fact.record)) .ok reversalCut
        ⟨some [reversalFact], some [paymentFact]⟩) :=
  flow_closure_exact _ _ _ _ ⟨([reversalFact],
    Dict.ofEntries [("h:r2", reversalFact), ("h:r1", paymentFact)]), by decide +kernel⟩

example : requireFlowClosure (fun fact => .ok ("h:" ++ fact.record)) .ok reversalCut
    ⟨some [reversalFact], some [paymentFact]⟩ = some (.ok ()) := by decide +kernel

end LotusManage.Composites
