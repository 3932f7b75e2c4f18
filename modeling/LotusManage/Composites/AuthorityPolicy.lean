import LotusManage.Composites.MonthlyPublication
import LotusManage.Lib.Coverage
import LotusManage.Lib.IsoDates
import LotusManage.Lib.Tables

/-!
# Economic authority

`require_authority_coverage` admits the economic authority of a composite: selections that each name a
fact, some members and a window of days.  The windows are grouped by member and fact, and each group is
gone through once in the order of its days.  A group passes exactly when its windows are a partition of
the payload's days (`requireContinuousWindow_iff`), so on every day each member has one selection for
each fact that is required (`authority_coverage`).
-/

namespace LotusManage.Composites

open IsoDate (DateError)

/-! ## Payloads -/

inductive SourceKind where
  | lotusCore
  | lotusPerformance
  | externalProvider
  deriving DecidableEq

/-- `ProviderRegistrationBinding` -/
structure ProviderRegistration where
  providerId : String
  sourceKind : SourceKind

inductive MemberKind where
  | corePortfolio
  | externalMember
  deriving DecidableEq

/-- `CompositeMemberIdentity` -/
structure MemberIdentity where
  memberId : String
  identityKind : MemberKind
  providerId : String

inductive EconomicFact where
  | beginningAssets
  | endingAssets
  | memberReturn
  | benchmarkReturn
  deriving DecidableEq

/-- `CompositeFactSelection`, which names at least one member. -/
structure FactSelection where
  selectionId : String
  fact : EconomicFact
  memberIds : List String
  effectiveFrom : String
  effectiveTo : String
  providerId : String
  economicAuthority : String
  methodProfileBinding : Option EvidenceBinding := none
  memberIds_ne_nil : memberIds ≠ [] := by decide

inductive AuthorityMode where
  | internal
  | external
  | hybrid
  deriving DecidableEq

/-- `CompositeEconomicAuthorityPayloadContent` -/
structure AuthorityPayload where
  effectiveFrom : String
  effectiveTo : String
  mode : AuthorityMode
  memberIdentities : List MemberIdentity
  providers : List ProviderRegistration
  selections : List FactSelection
  returnMethodBinding : EvidenceBinding

/-! ## Checks -/

/-- `if not condition: raise ValueError(code)` -/
def demand (condition : Bool) (code : String) : Except DateError Unit :=
  if condition then .ok () else .error (.value code)

variable {finish : Int} {windows : List (Int × Int)} {selection : FactSelection}
  {payload : AuthorityPayload} {selections : List FactSelection}

theorem demand_eq_ok_iff (condition : Bool) (code : String) :
    demand condition code = .ok () ↔ condition = true := by
  unfold demand
  by_cases h : condition = true
  · simp [h]
  · simp [h]

/-- `date.fromisoformat(text)` -/
def readDate (text : String) : Except DateError Int :=
  match IsoDate.fromisoformat text with
  | some day => .ok day
  | none => .error (.value "Invalid isoformat string")

theorem readDate_eq_ok_iff {text : String} {day : Int} :
    readDate text = .ok day ↔ IsoDate.fromisoformat text = some day := by
  unfold readDate
  cases IsoDate.fromisoformat text with
  | none | some => simp

/-- `_canonical_ids` -/
def canonicalIds (values : List String) (code : String) : Except DateError Unit :=
  demand (values = sortedTexts values) code

/-- `_require_internal_owners`, of one provider. -/
def requireInternalOwner (provider : ProviderRegistration) : Except DateError Unit :=
  let owner := match provider.sourceKind with
    | .lotusCore => some "lotus-core"
    | .lotusPerformance => some "lotus-performance"
    | .externalProvider => none
  demand (owner.all (· = provider.providerId)) "COMPOSITE_AUTHORITY_INTERNAL_OWNER_MISMATCH"

/-- The dictionary of the providers by their ids. -/
def AuthorityPayload.providersById (payload : AuthorityPayload) :
    Dict String ProviderRegistration :=
  Dict.ofEntries (payload.providers.map fun provider => (provider.providerId, provider))

/-- `_require_identity_registry` -/
def requireIdentityRegistry (payload : AuthorityPayload) : Except DateError Unit := do
  canonicalIds (payload.memberIdentities.map MemberIdentity.memberId)
    "COMPOSITE_AUTHORITY_MEMBERS_NONCANONICAL"
  canonicalIds (payload.providers.map ProviderRegistration.providerId)
    "COMPOSITE_AUTHORITY_PROVIDERS_NONCANONICAL"
  canonicalIds (payload.selections.map FactSelection.selectionId)
    "COMPOSITE_AUTHORITY_SELECTIONS_NONCANONICAL"
  payload.providersById.values.forM requireInternalOwner
  demand (payload.memberIdentities.all fun member =>
      payload.providersById.contains member.providerId)
    "COMPOSITE_AUTHORITY_MEMBER_PROVIDER_UNKNOWN"
  payload.memberIdentities.forM fun member =>
    demand ((payload.providersById.get? member.providerId).all fun provider =>
        decide (provider.sourceKind = .externalProvider) ==
          decide (member.identityKind = .externalMember))
      "COMPOSITE_AUTHORITY_MEMBER_KIND_MISMATCH"

/-- `_require_fact_source` -/
def requireFactSource (payload : AuthorityPayload) (selection : FactSelection)
    (provider : ProviderRegistration) : Except DateError Unit := do
  if selection.fact = .memberReturn then
    demand (selection.methodProfileBinding = some payload.returnMethodBinding)
      "COMPOSITE_AUTHORITY_METHOD_BINDING_MISMATCH"
  else
    demand selection.methodProfileBinding.isNone "COMPOSITE_AUTHORITY_METHOD_BINDING_UNEXPECTED"
  let internalKind : SourceKind :=
    if selection.fact = .memberReturn then .lotusPerformance else .lotusCore
  demand (provider.sourceKind = .externalProvider || provider.sourceKind = internalKind)
    "COMPOSITE_AUTHORITY_FACT_KIND_MISMATCH"

/-- `_require_selected_members` -/
def requireSelectedMembers (selection : FactSelection) (members : List String) :
    Except DateError Unit := do
  canonicalIds selection.memberIds "COMPOSITE_AUTHORITY_SELECTION_MEMBERS_NONCANONICAL"
  demand (selection.memberIds.all (· ∈ members)) "COMPOSITE_AUTHORITY_MEMBER_UNKNOWN"

/-! ## Windows -/

/-- The windows of each member and fact. -/
abbrev FactWindows := Dict (String × EconomicFact) (List (Int × Int))

/-- `windows.get(key, [])` -/
def FactWindows.of (windows : FactWindows) (memberId : String) (fact : EconomicFact) :
    List (Int × Int) :=
  (windows.get? (memberId, fact)).getD []

/-- `windows.setdefault(key, []).append(window)` -/
def FactWindows.append (windows : FactWindows) (fact : EconomicFact) (window : Int × Int)
    (memberId : String) : FactWindows :=
  windows.set (memberId, fact) (windows.of memberId fact ++ [window])

/-- One turn of `_selected_fact_windows`, with the kinds of source so far. -/
def selectFactWindow (payload : AuthorityPayload) (start finish : Int)
    (state : FactWindows × List Bool) (selection : FactSelection) :
    Except DateError (FactWindows × List Bool) := do
  match payload.providersById.get? selection.providerId with
  | none => throw (.value "COMPOSITE_AUTHORITY_PROVIDER_MISMATCH")
  | some provider =>
    demand (selection.economicAuthority = selection.providerId)
      "COMPOSITE_AUTHORITY_PROVIDER_MISMATCH"
    requireFactSource payload selection provider
    requireSelectedMembers selection (payload.memberIdentities.map MemberIdentity.memberId)
    let external := if selection.fact = .benchmarkReturn then state.2
      else state.2 ++ [decide (provider.sourceKind = .externalProvider)]
    let left ← readDate selection.effectiveFrom
    let right ← readDate selection.effectiveTo
    demand (decide (start ≤ left) && decide (left ≤ right) && decide (right ≤ finish))
      "COMPOSITE_AUTHORITY_SELECTION_WINDOW_INVALID"
    return (selection.memberIds.foldl (FactWindows.append · selection.fact (left, right)) state.1,
      external)

/-- The mode that the kinds of source stand for. -/
def expectedMode (external : List Bool) : Option AuthorityMode :=
  match external.contains false, external.contains true with
  | true, false => some .internal
  | false, true => some .external
  | true, true => some .hybrid
  | false, false => none

/-- `_selected_fact_windows` -/
def selectedFactWindows (payload : AuthorityPayload) (start finish : Int) :
    Except DateError FactWindows := do
  let (windows, external) ←
    payload.selections.foldlM (selectFactWindow payload start finish) (Dict.empty, [])
  demand (some payload.mode = expectedMode external) "COMPOSITE_AUTHORITY_MODE_MISMATCH"
  return windows

/-- The loop of `_require_continuous_window`; `coveredTo` is `None` before the first window. -/
def continuousFrom (start finish : Int) : Option Int → List (Int × Int) → Except DateError Unit
  | coveredTo, [] => demand (coveredTo = some finish) "COMPOSITE_ECONOMIC_AUTHORITY_GAP"
  | none, (left, right) :: windows => do
    demand (left = start) "COMPOSITE_ECONOMIC_AUTHORITY_GAP"
    continuousFrom start finish (some right) windows
  | some covered, (left, right) :: windows => do
    demand (covered < left) "COMPOSITE_ECONOMIC_AUTHORITY_OVERLAP"
    let next ← IsoDate.nextDay covered
    demand (left = next) "COMPOSITE_ECONOMIC_AUTHORITY_GAP"
    continuousFrom start finish (some right) windows

/-- `_require_continuous_window` -/
def requireContinuousWindow (windows : List (Int × Int)) (start finish : Int) :
    Except DateError Unit :=
  continuousFrom start finish none (windows.insertionSort (fun a b => toLex a ≤ toLex b))

/-- The facts of `require_authority_coverage`: those that are always required, and the optional ones
that have a window. -/
def requiredFacts (windows : FactWindows) : List EconomicFact :=
  [.beginningAssets, .memberReturn] ++
    [EconomicFact.endingAssets, .benchmarkReturn].filter fun fact =>
      windows.keys.any (·.2 = fact)

/-- `require_authority_coverage` -/
def requireAuthorityCoverage (payload : AuthorityPayload) : Except DateError Unit := do
  let start ← readDate payload.effectiveFrom
  let finish ← readDate payload.effectiveTo
  demand (start ≤ finish) "COMPOSITE_AUTHORITY_WINDOW_INVALID"
  requireIdentityRegistry payload
  let windows ← selectedFactWindows payload start finish
  payload.memberIdentities.forM fun member =>
    (requiredFacts windows).forM fun fact =>
      requireContinuousWindow (windows.of member.memberId fact) start finish

/-! ## One list of windows -/

/-- Windows of days that are not empty and are in the calendar. -/
def CalendarWindows (windows : List (Int × Int)) : Prop :=
  ∀ window ∈ windows, window.1 ≤ window.2 ∧ window.2 ≤ dateMaxOrdinal

variable {state state' : FactWindows × List Bool}

theorem continuousFrom_some_eq_ok_iff {start : Int} (hwindows : CalendarWindows windows)
    {covered : Int} :
    continuousFrom start finish (some covered) windows = .ok () ↔
      Coverage.tileEnd covered windows = some finish := by
  induction windows generalizing covered with
  | nil =>
    rw [continuousFrom, demand_eq_ok_iff, decide_eq_true_iff]
    rfl
  | cons window windows ih =>
    obtain ⟨left, right⟩ := window
    obtain ⟨hwindow, hrest⟩ := List.forall_mem_cons.mp hwindows
    dsimp only at hwindow
    rw [continuousFrom, Coverage.tileEnd]
    by_cases hbefore : covered < left
    · have hnext : IsoDate.nextDay covered = .ok (covered + 1) := by
        apply if_pos
        exact lt_of_lt_of_le hbefore (le_trans hwindow.1 hwindow.2)
      rw [(demand_eq_ok_iff _ _).mpr (decide_eq_true hbefore), hnext]
      show demand (left = covered + 1) _ >>= _ = _ ↔ _
      by_cases hleft : left = covered + 1
      · rw [(demand_eq_ok_iff _ _).mpr (decide_eq_true hleft), if_pos hleft, ← ih hrest]
        rfl
      · rw [if_neg hleft, demand, if_neg (by simpa using hleft)]
        exact iff_of_false (fun h => by cases h) (fun h => by cases h)
    · rw [if_neg (by omega), demand, if_neg (by simpa using hbefore)]
      exact iff_of_false (fun h => by cases h) (fun h => by cases h)

theorem continuousFrom_none_eq_ok_iff {start : Int} (hle : start ≤ finish)
    (hwindows : CalendarWindows windows) :
    continuousFrom start finish none windows = .ok () ↔
      Coverage.tileEnd (start - 1) windows = some finish := by
  cases windows with
  | nil =>
    rw [continuousFrom, demand_eq_ok_iff, decide_eq_true_iff, Coverage.tileEnd, Option.some.injEq]
    exact iff_of_false (fun h => by cases h) (by omega)
  | cons window windows =>
    obtain ⟨left, right⟩ := window
    obtain ⟨_, hrest⟩ := List.forall_mem_cons.mp hwindows
    rw [continuousFrom, Coverage.tileEnd, sub_add_cancel]
    by_cases hleft : left = start
    · rw [(demand_eq_ok_iff _ _).mpr (decide_eq_true hleft), if_pos hleft,
        ← continuousFrom_some_eq_ok_iff hrest]
      rfl
    · rw [if_neg hleft, demand, if_neg (by simpa using hleft)]
      exact iff_of_false (fun h => by cases h) (fun h => by cases h)

theorem continuousFrom_raises {start : Int} (hwindows : CalendarWindows windows)
    (coveredTo : Option Int) :
    Checks.Raises (· ≠ DateError.overflow) (continuousFrom start finish coveredTo windows) := by
  have hdemand : ∀ condition code,
      Checks.Raises (· ≠ DateError.overflow) (demand condition code) := by
    intro condition code
    unfold demand
    split
    · exact .ok _
    · exact .error (by simp)
  induction windows generalizing coveredTo with
  | nil =>
    cases coveredTo <;> exact hdemand _ _
  | cons window windows ih =>
    obtain ⟨left, right⟩ := window
    obtain ⟨hwindow, hrest⟩ := List.forall_mem_cons.mp hwindows
    cases coveredTo with
    | none => exact (hdemand _ _).bind fun _ _ => ih hrest _
    | some covered =>
      refine (hdemand _ _).bind fun _ hbefore => ?_
      -- the window begins later than the covered day, which is therefore not the last one
      have hbefore := of_decide_eq_true ((demand_eq_ok_iff _ _).mp hbefore)
      have hnext : IsoDate.nextDay covered = .ok (covered + 1) := by
        apply if_pos
        exact lt_of_lt_of_le hbefore (le_trans hwindow.1 hwindow.2)
      rw [hnext]
      exact (Checks.Raises.ok _).bind fun _ _ => (hdemand _ _).bind fun _ _ => ih hrest _

theorem calendarWindows_sort (h : CalendarWindows windows) :
    CalendarWindows (windows.insertionSort (fun a b => toLex a ≤ toLex b)) :=
  fun window hmem => h window ((List.mem_insertionSort _).mp hmem)

theorem requireContinuousWindow_iff {start : Int} (hwindows : CalendarWindows windows)
    (hle : start ≤ finish) :
    requireContinuousWindow windows start finish = .ok () ↔
      ∀ day, Coverage.cover windows day = if start ≤ day ∧ day ≤ finish then 1 else 0 := by
  have hsorted := pairwise_insertionSort_rank (fun window : Int × Int => toLex window) windows
  have hcover : ∀ day, Coverage.cover (windows.insertionSort (fun a b => toLex a ≤ toLex b)) day =
      Coverage.cover windows day := by
    intro day
    exact (List.perm_insertionSort _ windows).countP_eq _
  rw [requireContinuousWindow, continuousFrom_none_eq_ok_iff hle (calendarWindows_sort hwindows),
    Coverage.tileEnd_eq_some_iff _ _ (by omega)]
  · simp only [hcover, Int.sub_one_lt_iff]
  · exact fun window hmem => (calendarWindows_sort hwindows window hmem).1
  · refine hsorted.imp ?_
    intro a b hab
    rw [Prod.Lex.toLex_le_toLex] at hab
    omega

/-! ## The windows of a selection -/

/-- The days of the selection. -/
def FactSelection.window? (selection : FactSelection) : Option (Int × Int) := do
  let left ← IsoDate.fromisoformat selection.effectiveFrom
  let right ← IsoDate.fromisoformat selection.effectiveTo
  return (left, right)

/-- The selection is for the member and the fact. -/
def FactSelection.Names (selection : FactSelection) (memberId : String) (fact : EconomicFact) :
    Prop := selection.fact = fact ∧ memberId ∈ selection.memberIds

instance (selection : FactSelection) (memberId : String) (fact : EconomicFact) :
    Decidable (selection.Names memberId fact) := inferInstanceAs (Decidable (_ ∧ _))

/-- The windows of the selections for the member and the fact. -/
def namedWindows (selections : List FactSelection) (memberId : String) (fact : EconomicFact) :
    List (Int × Int) :=
  selections.filterMap fun selection =>
    if selection.Names memberId fact then selection.window? else none

theorem namedWindows_singleton {window : Int × Int} (hwindow : selection.window? = some window)
    (memberId : String) (fact : EconomicFact) :
    namedWindows [selection] memberId fact =
      if selection.fact = fact ∧ memberId ∈ selection.memberIds then [window] else [] := by
  unfold namedWindows
  by_cases hnames : selection.fact = fact ∧ memberId ∈ selection.memberIds
  · rw [if_pos hnames]
    simp [FactSelection.Names, hnames, hwindow]
  · rw [if_neg hnames]
    simp [FactSelection.Names, hnames]

theorem FactWindows.of_append (windows : FactWindows) (fact fact' : EconomicFact)
    (window : Int × Int) (memberId memberId' : String) :
    (windows.append fact window memberId).of memberId' fact' =
      windows.of memberId' fact' ++
        if memberId' = memberId ∧ fact' = fact then [window] else [] := by
  unfold FactWindows.append FactWindows.of
  rw [Dict.get?_set]
  by_cases h : memberId' = memberId ∧ fact' = fact
  · obtain ⟨rfl, rfl⟩ := h
    simp
  · rw [if_neg (by simpa using h), if_neg h, List.append_nil]

theorem FactWindows.of_foldl_append (fact fact' : EconomicFact) (window : Int × Int)
    (memberId : String) {memberIds : List String} (hnodup : memberIds.Nodup)
    (windows : FactWindows) :
    FactWindows.of (memberIds.foldl (FactWindows.append · fact window) windows) memberId fact' =
      windows.of memberId fact' ++
        if fact = fact' ∧ memberId ∈ memberIds then [window] else [] := by
  induction memberIds generalizing windows with
  | nil => simp
  | cons id rest ih =>
    obtain ⟨hid, hrest⟩ := List.nodup_cons.mp hnodup
    rw [List.foldl_cons, ih hrest, FactWindows.of_append, List.append_assoc]
    congr 1
    by_cases hfact : fact = fact'
    · subst hfact
      by_cases hmember : memberId = id
      · subst hmember
        simp [hid]
      · simp [hmember]
    · simp [hfact, Ne.symm hfact]

theorem mem_keys_foldl_append (fact : EconomicFact) (window : Int × Int)
    (key : String × EconomicFact) (memberIds : List String) (windows : FactWindows) :
    key ∈ (memberIds.foldl (FactWindows.append · fact window) windows).keys ↔
      key ∈ windows.keys ∨ (key.2 = fact ∧ key.1 ∈ memberIds) := by
  induction memberIds generalizing windows with
  | nil => simp
  | cons id rest ih =>
    rw [List.foldl_cons, ih, FactWindows.append, Dict.mem_keys_set, List.mem_cons, Prod.ext_iff]
    dsimp only
    tauto

theorem selectFactWindow_ok {start : Int}
    (h : selectFactWindow payload start finish state selection = .ok state') :
    ∃ window, selection.window? = some window ∧
      (start ≤ window.1 ∧ window.1 ≤ window.2 ∧ window.2 ≤ finish) ∧ selection.memberIds.Nodup ∧
      state'.1 = selection.memberIds.foldl (FactWindows.append · selection.fact window) state.1 := by
  unfold selectFactWindow at h
  cases hprovider : payload.providersById.get? selection.providerId with
  | none =>
    rw [hprovider] at h
    cases h
  | some provider =>
    rw [hprovider] at h
    obtain ⟨_, _, h⟩ := Checks.bind_eq_ok h
    obtain ⟨_, _, h⟩ := Checks.bind_eq_ok h
    obtain ⟨_, hmembers, h⟩ := Checks.bind_eq_ok h
    obtain ⟨left, hleft, h⟩ := Checks.bind_eq_ok h
    obtain ⟨right, hright, h⟩ := Checks.bind_eq_ok h
    obtain ⟨_, hwindow, h⟩ := Checks.bind_eq_ok h
    cases h
    refine ⟨(left, right), ?_, ?_, ?_, rfl⟩
    · rw [FactSelection.window?, readDate_eq_ok_iff.mp hleft, readDate_eq_ok_iff.mp hright]
      rfl
    · have hwindow := (demand_eq_ok_iff _ _).mp hwindow
      simp only [Bool.and_eq_true, decide_eq_true_eq] at hwindow
      exact ⟨hwindow.1.1, hwindow.1.2, hwindow.2⟩
    · unfold requireSelectedMembers at hmembers
      obtain ⟨_, hcanonical, _⟩ := Checks.bind_eq_ok hmembers
      have hsorted := of_decide_eq_true ((demand_eq_ok_iff _ _).mp hcanonical)
      rw [hsorted]
      exact (List.perm_insertionSort _ _).nodup_iff.mpr (List.nodup_dedup _)

/-- What the loop over the selections has collected. -/
structure Collected (start finish : Int) (selections : List FactSelection)
    (windows : FactWindows) : Prop where
  of : ∀ memberId fact, windows.of memberId fact = namedWindows selections memberId fact
  keys : ∀ key, key ∈ windows.keys ↔
    ∃ selection ∈ selections, selection.fact = key.2 ∧ key.1 ∈ selection.memberIds
  bounds : ∀ selection ∈ selections, ∃ window, selection.window? = some window ∧
    start ≤ window.1 ∧ window.1 ≤ window.2 ∧ window.2 ≤ finish

theorem Collected.start (start finish : Int) : Collected start finish [] Dict.empty where
  of := fun _ _ => rfl
  keys := by
    intro key
    refine iff_of_false List.not_mem_nil ?_
    intro h
    obtain ⟨_, hmem, _⟩ := h
    cases hmem
  bounds := fun _ h => absurd h List.not_mem_nil

theorem Collected.step {start : Int} (hcollected : Collected start finish selections state.1)
    (h : selectFactWindow payload start finish state selection = .ok state') :
    Collected start finish (selections ++ [selection]) state'.1 := by
  obtain ⟨window, hwindow, hbounds, hnodup, hstate⟩ := selectFactWindow_ok h
  constructor
  · intro memberId fact
    rw [hstate, FactWindows.of_foldl_append _ _ _ _ hnodup, hcollected.of, namedWindows,
      namedWindows, List.filterMap_append]
    congr 1
    exact (namedWindows_singleton hwindow memberId fact).symm
  · intro key
    rw [hstate, mem_keys_foldl_append, hcollected.keys]
    simp only [List.mem_append, List.mem_singleton, or_and_right, exists_or, exists_eq_left]
    rw [eq_comm (a := key.2)]
  · intro other hmem
    cases List.mem_append.mp hmem with
    | inl hbefore => exact hcollected.bounds other hbefore
    | inr hlast =>
      rw [List.mem_singleton.mp hlast]
      exact ⟨window, hwindow, hbounds⟩

theorem Collected.run {start : Int} {more : List FactSelection}
    (hcollected : Collected start finish selections state.1)
    (h : more.foldlM (selectFactWindow payload start finish) state = .ok state') :
    Collected start finish (selections ++ more) state'.1 := by
  induction more generalizing selections state with
  | nil =>
    cases h
    rw [List.append_nil]
    exact hcollected
  | cons selection more ih =>
    rw [List.foldlM_cons] at h
    obtain ⟨next, hnext, hrest⟩ := Checks.bind_eq_ok h
    rw [List.append_cons]
    exact ih (hcollected.step hnext) hrest

theorem selectedFactWindows_collected {start : Int} {windows : FactWindows}
    (h : selectedFactWindows payload start finish = .ok windows) :
    Collected start finish payload.selections windows := by
  unfold selectedFactWindows at h
  obtain ⟨⟨collected, external⟩, hloop, h⟩ := Checks.bind_eq_ok h
  obtain ⟨_, _, h⟩ := Checks.bind_eq_ok h
  cases h
  exact (Collected.start start finish).run hloop

/-! ## One authority for each day -/

/-- The day lies in the window of the selection. -/
def FactSelection.Covers (selection : FactSelection) (day : Int) : Prop :=
  ∃ window ∈ selection.window?, window.1 ≤ day ∧ day ≤ window.2

instance (selection : FactSelection) (day : Int) : Decidable (selection.Covers day) :=
  inferInstanceAs (Decidable (∃ window ∈ selection.window?, window.1 ≤ day ∧ day ≤ window.2))

/-- The number of selections for a member and a fact with the day in their windows. -/
def authorities (payload : AuthorityPayload) (memberId : String) (fact : EconomicFact)
    (day : Int) : Nat :=
  payload.selections.countP fun selection => selection.Names memberId fact ∧ selection.Covers day

/-- The fact is required of every member: an asset value and a return always, and what some selection
is for. -/
def RequiredFact (payload : AuthorityPayload) (fact : EconomicFact) : Prop :=
  fact = .beginningAssets ∨ fact = .memberReturn ∨
    ∃ selection ∈ payload.selections, selection.fact = fact

theorem cover_namedWindows (payload : AuthorityPayload) (memberId : String) (fact : EconomicFact)
    (day : Int) : Coverage.cover (namedWindows payload.selections memberId fact) day =
      authorities payload memberId fact day := by
  unfold Coverage.cover namedWindows authorities
  rw [List.countP_filterMap]
  refine List.countP_congr ?_
  intro selection _
  rw [decide_eq_true_iff]
  by_cases hnames : selection.Names memberId fact
  · rw [if_pos hnames]
    cases hwindow : selection.window? with
    | none => simp [FactSelection.Covers, hwindow]
    | some window =>
      have hcovers : selection.Covers day ↔ Coverage.Contains window day := by
        simp [FactSelection.Covers, hwindow, Coverage.Contains]
      rw [hcovers, and_iff_right hnames]
      exact decide_eq_true_iff
  · simp [hnames]

theorem Collected.calendarWindows {start : Int} {windows : FactWindows}
    (h : Collected start finish selections windows) (hfinish : finish ≤ dateMaxOrdinal)
    (memberId : String) (fact : EconomicFact) : CalendarWindows (windows.of memberId fact) := by
  rw [h.of]
  intro window hmem
  obtain ⟨selection, hselection, hwindow⟩ := List.mem_filterMap.mp hmem
  obtain ⟨window', hwindow', hbounds⟩ := h.bounds selection hselection
  rw [Option.ite_none_right_eq_some, hwindow', Option.some.injEq] at hwindow
  rw [← hwindow.2]
  exact ⟨hbounds.2.1, le_trans hbounds.2.2 hfinish⟩

theorem Collected.mem_requiredFacts {start : Int} {windows : FactWindows}
    (h : Collected start finish payload.selections windows) {fact : EconomicFact}
    (hfact : RequiredFact payload fact) : fact ∈ requiredFacts windows := by
  unfold requiredFacts
  cases hfact with
  | inl hbeginning => simp [hbeginning]
  | inr hfact =>
    cases hfact with
    | inl hreturn => simp [hreturn]
    | inr hselected =>
      obtain ⟨selection, hmem, rfl⟩ := hselected
      obtain ⟨memberId, hmember⟩ := List.exists_mem_of_ne_nil _ selection.memberIds_ne_nil
      have hkey : (memberId, selection.fact) ∈ windows.keys :=
        (h.keys _).mpr ⟨selection, hmem, rfl, hmember⟩
      have hany : windows.keys.any (·.2 = selection.fact) = true :=
        List.any_eq_true.mpr ⟨_, hkey, decide_eq_true rfl⟩
      cases hfact : selection.fact <;> simp_all

theorem one_authority_of_coverage (h : requireAuthorityCoverage payload = .ok ()) :
    ∃ start finish, IsoDate.fromisoformat payload.effectiveFrom = some start ∧
      IsoDate.fromisoformat payload.effectiveTo = some finish ∧
      ∀ member ∈ payload.memberIdentities, ∀ fact, RequiredFact payload fact →
        ∀ day, start ≤ day → day ≤ finish → authorities payload member.memberId fact day = 1 := by
  unfold requireAuthorityCoverage at h
  obtain ⟨start, hstart, h⟩ := Checks.bind_eq_ok h
  obtain ⟨finish, hfinish, h⟩ := Checks.bind_eq_ok h
  obtain ⟨_, hle, h⟩ := Checks.bind_eq_ok h
  obtain ⟨_, _, h⟩ := Checks.bind_eq_ok h
  obtain ⟨windows, hwindows, h⟩ := Checks.bind_eq_ok h
  have hle := of_decide_eq_true ((demand_eq_ok_iff _ _).mp hle)
  have hcollected := selectedFactWindows_collected hwindows
  rw [readDate_eq_ok_iff] at hstart hfinish
  refine ⟨start, finish, hstart, hfinish, ?_⟩
  intro member hmember fact hfact day hfirst hlast
  obtain ⟨_, hfacts⟩ := Checks.forM_eq_ok h member hmember
  obtain ⟨_, hcontinuous⟩ :=
    Checks.forM_eq_ok hfacts fact (hcollected.mem_requiredFacts hfact)
  have hcalendar := hcollected.calendarWindows (IsoDate.fromisoformat_bounds hfinish).2
    member.memberId fact
  have hpartition := (requireContinuousWindow_iff hcalendar hle).mp hcontinuous day
  rw [hcollected.of, cover_namedWindows, if_pos ⟨hfirst, hlast⟩] at hpartition
  exact hpartition

/-- **One economic authority.**  An accepted payload has exactly one selection for each member, each
required fact and each of its days; and a list of windows passes the check of one member and fact exactly
when it is a partition of the interval, without a day off the calendar being computed. -/
theorem authority_coverage :
    (∀ payload : AuthorityPayload, requireAuthorityCoverage payload = .ok () →
      ∃ start finish, IsoDate.fromisoformat payload.effectiveFrom = some start ∧
        IsoDate.fromisoformat payload.effectiveTo = some finish ∧
        ∀ member ∈ payload.memberIdentities, ∀ fact, RequiredFact payload fact →
          ∀ day, start ≤ day → day ≤ finish →
            authorities payload member.memberId fact day = 1) ∧
    ∀ (windows : List (Int × Int)) (start finish : Int), CalendarWindows windows → start ≤ finish →
      (requireContinuousWindow windows start finish = .ok () ↔
        ∀ day, Coverage.cover windows day = if start ≤ day ∧ day ≤ finish then 1 else 0) ∧
      requireContinuousWindow windows start finish ≠ .error .overflow := by
  constructor
  · intro payload h
    exact one_authority_of_coverage h
  · intro windows start finish hwindows hle
    refine ⟨requireContinuousWindow_iff hwindows hle, ?_⟩
    intro h
    exact continuousFrom_raises (calendarWindows_sort hwindows) none _ h rfl

/-- Two members of one provider; the returns of the second month come from another selection. -/
def samplePayload : AuthorityPayload where
  effectiveFrom := "2024-01-01"
  effectiveTo := "2024-02-29"
  mode := .external
  memberIdentities := [⟨"M1", .externalMember, "P1"⟩, ⟨"M2", .externalMember, "P1"⟩]
  providers := [⟨"P1", .externalProvider⟩]
  selections :=
    [{ selectionId := "S1"
       fact := .beginningAssets
       memberIds := ["M1", "M2"]
       effectiveFrom := "2024-01-01"
       effectiveTo := "2024-02-29"
       providerId := "P1"
       economicAuthority := "P1" },
      { selectionId := "S2"
        fact := .memberReturn
        memberIds := ["M1", "M2"]
        effectiveFrom := "2024-02-01"
        effectiveTo := "2024-02-29"
        providerId := "P1"
        economicAuthority := "P1"
        methodProfileBinding := some ⟨"method", "1", "sha256:1"⟩ },
      { selectionId := "S3"
        fact := .memberReturn
        memberIds := ["M1", "M2"]
        effectiveFrom := "2024-01-01"
        effectiveTo := "2024-01-31"
        providerId := "P1"
        economicAuthority := "P1"
        methodProfileBinding := some ⟨"method", "1", "sha256:1"⟩ }]
  returnMethodBinding := ⟨"method", "1", "sha256:1"⟩

theorem authority_coverage_sample :
    (∃ start finish, IsoDate.fromisoformat samplePayload.effectiveFrom = some start ∧
      IsoDate.fromisoformat samplePayload.effectiveTo = some finish ∧
      ∀ member ∈ samplePayload.memberIdentities, ∀ fact, RequiredFact samplePayload fact →
        ∀ day, start ≤ day → day ≤ finish →
          authorities samplePayload member.memberId fact day = 1) ∧
    (requireContinuousWindow [(3652059, 3652059)] 3652059 3652059 = .ok () ↔
        ∀ day, Coverage.cover [(3652059, 3652059)] day =
          if 3652059 ≤ day ∧ day ≤ 3652059 then 1 else 0) ∧
      requireContinuousWindow [(3652059, 3652059)] 3652059 3652059 ≠ .error .overflow :=
  ⟨authority_coverage.1 samplePayload (by decide +kernel),
    authority_coverage.2 [(3652059, 3652059)] 3652059 3652059
      (List.forall_mem_singleton.mpr ⟨le_refl _, le_refl _⟩) (le_refl _)⟩

end LotusManage.Composites
