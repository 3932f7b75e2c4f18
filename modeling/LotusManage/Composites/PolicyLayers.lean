import LotusManage.Composites.EligibilityRecords
import LotusManage.Lib.DecimalTexts

/-!
# Policy layers

`resolve_monthly_policy` goes through the layers of a monthly policy from the platform down: a layer may
state a threshold, and it permits overrides of thresholds to the layers below it.  What is permitted is
the intersection of what the layers above permit, taken after a layer has been applied, so that no layer
grants itself an override and none gives back what one above it has locked (`locked_thresholds`).
-/

namespace LotusManage.Composites

/-! ## Layers -/

inductive PolicyLevel where
  | platform
  | tenant
  | strategy
  | composite
  | run
  deriving DecidableEq

/-- `LEVELS.index` -/
def PolicyLevel.index : PolicyLevel → Nat
  | platform => 0
  | tenant => 1
  | strategy => 2
  | composite => 3
  | run => 4

inductive ThresholdField where
  | cash
  | flow
  deriving DecidableEq

/-- `^(?:0(?:\.\d{1,12})?|1(?:\.0{1,12})?)$` -/
def ratioPattern (text : String) : Bool :=
  let p := DecimalText.parts text
  let places := p.fraction.all (fun fraction => 1 ≤ fraction.length && fraction.length ≤ 12)
  !p.negative && places &&
    (p.whole == ['0'] && p.fraction.all (·.all DecimalText.isDigit) ||
      p.whole == ['1'] && p.fraction.all (·.all (· == '0')))

/-- `DecimalRatio` -/
structure DecimalRatio where
  text : String
  valid : ratioPattern text = true := by decide +kernel
  deriving DecidableEq

/-- `Decimal(value)` -/
def DecimalRatio.decimal (ratio : DecimalRatio) : DecimalFloat := DecimalText.decimal ratio.text

/-- `MonthlyPolicyScope`, with its run. -/
structure MonthlyPolicyScope extends PolicyScope where
  runId : Option String := none
  deriving DecidableEq

/-- `MonthlyPolicyLayer` -/
structure MonthlyPolicyLayer where
  level : PolicyLevel
  policyId : String
  revision : String
  tenantId : Option String := none
  strategyCode : Option String := none
  compositeId : Option String := none
  runId : Option String := none
  effectiveFrom : BusinessDate
  effectiveTo : BusinessDate
  flowThreshold : Option DecimalRatio
  cashThreshold : Option DecimalRatio
  permittedOverrides : List ThresholdField
  deriving DecidableEq

/-- The threshold that the layer states. -/
def MonthlyPolicyLayer.threshold (layer : MonthlyPolicyLayer) :
    ThresholdField → Option DecimalRatio
  | .flow => layer.flowThreshold
  | .cash => layer.cashThreshold

/-- The validators of `MonthlyPolicyLayer`. -/
def MonthlyPolicyLayer.validate (layer : MonthlyPolicyLayer) : Except CompositeError Unit := do
  ensure ([layer.flowThreshold, layer.cashThreshold].all fun value =>
      value.all fun ratio => DecimalFloat.zero.lt ratio.decimal)
    (.value "COMPOSITE_ELIGIBILITY_THRESHOLD_NONPOSITIVE")
  ensure (layer.effectiveFrom.ordinal ≤ layer.effectiveTo.ordinal)
    (.value "COMPOSITE_ELIGIBILITY_POLICY_WINDOW_INVALID")
  ensure (layer.permittedOverrides =
      [ThresholdField.cash, .flow].filter (· ∈ layer.permittedOverrides))
    (.value "COMPOSITE_ELIGIBILITY_PERMISSIONS_NONCANONICAL")

/-- `month_window` returns for the month. -/
def Month.Valid (month : Month) : Prop :=
  1 ≤ month.year ∧ month.year ≤ 9999 ∧ 1 ≤ month.month ∧ month.month ≤ 12

instance (month : Month) : Decidable month.Valid := inferInstanceAs (Decidable (_ ∧ _ ∧ _ ∧ _))

/-- `_require_layer_scope` -/
def requireLayerScope (layer : MonthlyPolicyLayer) (scope : MonthlyPolicyScope) :
    Except CompositeError Unit :=
  let expected := match layer.level with
    | .platform => (none, none, none, none)
    | .tenant => (some scope.tenantId, none, none, none)
    | .strategy => (some scope.tenantId, some scope.strategyCode, none, none)
    | .composite => (some scope.tenantId, none, some scope.compositeId, none)
    | .run => (some scope.tenantId, none, some scope.compositeId, scope.runId)
  ensure ((layer.tenantId, layer.strategyCode, layer.compositeId, layer.runId) = expected &&
      !(layer.level = .run && scope.runId.isNone))
    (.value "COMPOSITE_ELIGIBILITY_LAYER_SCOPE_MISMATCH")

/-- `_require_layer_windows` -/
def requireLayerWindows (layers : List MonthlyPolicyLayer) (start finish : BusinessDate) :
    Except CompositeError Unit := do
  let order := layers.map (·.level.index)
  ensure (order.head? = some 0 && order = order.dedup.insertionSort (· ≤ ·))
    (.value "COMPOSITE_ELIGIBILITY_INHERITANCE_ORDER_INVALID")
  layers.forM fun layer =>
    ensure (decide (layer.effectiveFrom.text ≤ start.text) && decide (start.text ≤ finish.text) &&
        decide (finish.text ≤ layer.effectiveTo.text))
      (.value "COMPOSITE_ELIGIBILITY_POLICY_NOT_EFFECTIVE")

/-! ## Resolution -/

/-- The thresholds so far, and the overrides that all layers so far permit. -/
structure PolicyResolution where
  values : ThresholdField → Option DecimalRatio
  permitted : List ThresholdField

/-- One turn of `_apply_layer_thresholds`. -/
def applyThreshold (permitted : List ThresholdField) (layer : MonthlyPolicyLayer)
    (overrides : Bool) (values : ThresholdField → Option DecimalRatio) (name : ThresholdField) :
    Except CompositeError (ThresholdField → Option DecimalRatio) :=
  match layer.threshold name with
  | none => .ok values
  | some value =>
    let economicChange := (values name).all fun prior => !prior.decimal.same value.decimal
    if overrides && economicChange && !permitted.contains name then
      .error (.value "COMPOSITE_ELIGIBILITY_OVERRIDE_FORBIDDEN")
    else .ok (Function.update values name (some value))

/-- `_apply_layer_thresholds` -/
def applyLayerThresholds (state : PolicyResolution) (layer : MonthlyPolicyLayer)
    (overrides : Bool) : Except CompositeError (ThresholdField → Option DecimalRatio) :=
  [ThresholdField.flow, .cash].foldlM (applyThreshold state.permitted layer overrides) state.values

/-- The loop of `_resolved_thresholds`; only the first layer overrides nothing. -/
def resolveLayers (scope : MonthlyPolicyScope) :
    Bool → PolicyResolution → List MonthlyPolicyLayer →
      Except CompositeError (ThresholdField → Option DecimalRatio)
  | _, state, [] => .ok state.values
  | overrides, state, layer :: layers => do
    requireLayerScope layer scope
    let values ← applyLayerThresholds state layer overrides
    resolveLayers scope true
      ⟨values, state.permitted.filter (· ∈ layer.permittedOverrides)⟩ layers

/-- `_resolved_thresholds` -/
def resolvedThresholds (layers : List MonthlyPolicyLayer) (month : Month)
    (scope : MonthlyPolicyScope) : Except CompositeError (DecimalRatio × DecimalRatio) := do
  ensure month.Valid (.value "COMPOSITE_ELIGIBILITY_MONTH_INVALID")
  layers.forM MonthlyPolicyLayer.validate
  requireLayerWindows layers (monthWindow month).1 (monthWindow month).2
  let permitted := (layers.head?.map MonthlyPolicyLayer.permittedOverrides).getD []
  let values ← resolveLayers scope false ⟨fun _ => none, permitted⟩ layers
  match values .flow, values .cash with
  | some flow, some cash => return (flow, cash)
  | _, _ => throw (.value "COMPOSITE_ELIGIBILITY_THRESHOLD_REQUIRED")

/-- `ResolvedMonthlyPolicy`; its other fields are constants. -/
structure ResolvedMonthlyPolicy where
  month : Month
  scope : MonthlyPolicyScope
  layers : List MonthlyPolicyLayer
  flowThreshold : DecimalRatio
  cashThreshold : DecimalRatio
  contentHash : String := ""
  deriving DecidableEq

def ResolvedMonthlyPolicy.threshold (policy : ResolvedMonthlyPolicy) :
    ThresholdField → DecimalRatio
  | .flow => policy.flowThreshold
  | .cash => policy.cashThreshold

/-- `require_resolved_material`; `hash` is of the policy without its content hash. -/
def ResolvedMonthlyPolicy.admit (hash : ResolvedMonthlyPolicy → String)
    (policy : ResolvedMonthlyPolicy) : Except CompositeError ResolvedMonthlyPolicy := do
  let expected ← resolvedThresholds policy.layers policy.month policy.scope
  ensure ((policy.flowThreshold, policy.cashThreshold) = expected)
    (.value "COMPOSITE_ELIGIBILITY_RESOLUTION_MISMATCH")
  let expectedHash := hash { policy with contentHash := "" }
  ensure (policy.contentHash = "" || policy.contentHash = expectedHash)
    (.value "COMPOSITE_ELIGIBILITY_POLICY_DIGEST_MISMATCH")
  return { policy with contentHash := expectedHash }

/-- `resolve_monthly_policy` -/
def resolveMonthlyPolicy (hash : ResolvedMonthlyPolicy → String) (layers : List MonthlyPolicyLayer)
    (month : Month) (scope : MonthlyPolicyScope) : Except CompositeError ResolvedMonthlyPolicy := do
  ensure (1 ≤ layers.length && layers.length ≤ 5)
    (.value "COMPOSITE_ELIGIBILITY_LAYER_BOUND_EXCEEDED")
  let (flow, cash) ← resolvedThresholds layers month scope
  ResolvedMonthlyPolicy.admit hash
    { month, scope, layers, flowThreshold := flow, cashThreshold := cash }

/-! ## What the loop keeps -/

/-- The value of the last of the layers that states the threshold. -/
def lastStated (layers : List MonthlyPolicyLayer) (name : ThresholdField) : Option DecimalRatio :=
  (layers.filterMap (·.threshold name)).getLast?

/-- The value is another number than the inherited one, or there is none to inherit. -/
def Changes (before : List MonthlyPolicyLayer) (name : ThresholdField) (value : DecimalRatio) :
    Prop :=
  ∀ inherited ∈ lastStated before name, inherited.decimal.value ≠ value.decimal.value

variable {layer : MonthlyPolicyLayer} {overrides : Bool}
  {values : ThresholdField → Option DecimalRatio} {state : PolicyResolution}
  {before layers : List MonthlyPolicyLayer} {scope : MonthlyPolicyScope} {month : Month}
  {hash : ResolvedMonthlyPolicy → String} {policy : ResolvedMonthlyPolicy}

theorem lastStated_concat (before : List MonthlyPolicyLayer) (layer : MonthlyPolicyLayer)
    (name : ThresholdField) :
    lastStated (before ++ [layer]) name = (layer.threshold name).or (lastStated before name) := by
  unfold lastStated
  rw [List.filterMap_append]
  cases hvalue : layer.threshold name with
  | none | some => simp [hvalue]

theorem applyThreshold_ok {permitted : List ThresholdField}
    {values' : ThresholdField → Option DecimalRatio} {name : ThresholdField}
    (h : applyThreshold permitted layer overrides values name = .ok values') :
    values' = Function.update values name ((layer.threshold name).or (values name)) ∧
    ∀ value, layer.threshold name = some value → overrides = true →
      (∀ prior ∈ values name, prior.decimal.value ≠ value.decimal.value) → name ∈ permitted := by
  unfold applyThreshold at h
  cases hvalue : layer.threshold name with
  | none =>
    rw [hvalue] at h
    cases h
    refine ⟨?_, fun value hsome => by cases hsome⟩
    rw [Option.none_or, Function.update_eq_self]
  | some value =>
    rw [hvalue] at h
    dsimp only at h
    split at h
    · cases h
    · rename_i hpermitted
      cases h
      refine ⟨rfl, ?_⟩
      intro value' hsome hoverrides hchanges
      cases hsome
      have hchange : ((values name).all fun prior => !prior.decimal.same value.decimal) = true := by
        rw [Option.all_eq_true]
        intro prior hprior
        rw [Bool.not_eq_true', ← Bool.not_eq_true, DecimalFloat.same_iff]
        exact hchanges prior hprior
      rw [hoverrides, hchange] at hpermitted
      simpa using hpermitted

theorem applyLayerThresholds_ok (h : applyLayerThresholds state layer overrides = .ok values)
    (name : ThresholdField) :
    values name = (layer.threshold name).or (state.values name) ∧
    ∀ value, layer.threshold name = some value → overrides = true →
      (∀ prior ∈ state.values name, prior.decimal.value ≠ value.decimal.value) →
        name ∈ state.permitted := by
  unfold applyLayerThresholds at h
  rw [List.foldlM_cons] at h
  obtain ⟨flowValues, hflow, h⟩ := Checks.bind_eq_ok h
  rw [List.foldlM_cons] at h
  obtain ⟨cashValues, hcash, h⟩ := Checks.bind_eq_ok h
  cases h
  obtain ⟨hflowValues, hflowPermitted⟩ := applyThreshold_ok hflow
  obtain ⟨hcashValues, hcashPermitted⟩ := applyThreshold_ok hcash
  cases name with
  | flow =>
    refine ⟨?_, hflowPermitted⟩
    rw [hcashValues, Function.update_of_ne (by decide), hflowValues, Function.update_self]
  | cash =>
    have hbefore : flowValues .cash = state.values .cash := by
      rw [hflowValues, Function.update_of_ne (by decide)]
    rw [hbefore] at hcashValues hcashPermitted
    refine ⟨?_, hcashPermitted⟩
    rw [hcashValues, Function.update_self]

/-- What the loop knows after the layers so far. -/
structure Inherited (before : List MonthlyPolicyLayer) (state : PolicyResolution) : Prop where
  values : ∀ name, state.values name = lastStated before name
  permitted : ∀ name ∈ state.permitted, ∀ earlier ∈ before, name ∈ earlier.permittedOverrides

theorem Inherited.step (h : Inherited before state)
    (happly : applyLayerThresholds state layer overrides = .ok values) :
    Inherited (before ++ [layer])
      ⟨values, state.permitted.filter (· ∈ layer.permittedOverrides)⟩ where
  values := by
    intro name
    rw [lastStated_concat, ← h.values name]
    exact (applyLayerThresholds_ok happly name).1
  permitted := by
    intro name hname earlier hearlier
    obtain ⟨hpermitted, hlayer⟩ := List.mem_filter.mp hname
    cases List.mem_append.mp hearlier with
    | inl hbefore => exact h.permitted name hpermitted earlier hbefore
    | inr hlast =>
      rw [List.mem_singleton.mp hlast]
      exact of_decide_eq_true hlayer

/-- In every run of the loop, a layer that comes after another one changes only what all layers before it
permit. -/
theorem resolveLayers_ok (hinherited : Inherited before state)
    (hoverrides : before ≠ [] → overrides = true)
    (h : resolveLayers scope overrides state layers = .ok values) :
    (∀ name, values name = lastStated (before ++ layers) name) ∧
    ∀ middle layer after name value, layers = middle ++ layer :: after →
      layer.threshold name = some value → Changes (before ++ middle) name value →
        ∀ earlier ∈ before ++ middle, name ∈ earlier.permittedOverrides := by
  induction layers generalizing overrides before state with
  | nil =>
    cases h
    refine ⟨?_, ?_⟩
    · intro name
      rw [List.append_nil]
      exact hinherited.values name
    · intro middle layer after name value hsplit
      simp at hsplit
  | cons first layers ih =>
    rw [resolveLayers] at h
    obtain ⟨_, _, h⟩ := Checks.bind_eq_ok h
    obtain ⟨next, hnext, h⟩ := Checks.bind_eq_ok h
    obtain ⟨hvalues, hchanges⟩ := ih (hinherited.step hnext) (fun _ => rfl) h
    rw [← List.append_cons] at hvalues
    refine ⟨hvalues, ?_⟩
    intro middle layer after name value hsplit hvalue hchange
    cases middle with
    | nil =>
      -- the layer is the one that is applied now
      rw [List.append_nil] at hchange ⊢
      obtain ⟨rfl, rfl⟩ := List.cons.inj hsplit
      intro earlier hearlier
      have hoverrides := hoverrides (List.ne_nil_of_mem hearlier)
      have hpermitted := (applyLayerThresholds_ok hnext name).2 value hvalue hoverrides
      rw [hinherited.values name] at hpermitted
      exact hinherited.permitted name (hpermitted hchange) earlier hearlier
    | cons second middle =>
      obtain ⟨rfl, hrest⟩ := List.cons.inj hsplit
      rw [List.append_cons] at hchange ⊢
      exact hchanges middle layer after name value hrest hvalue hchange

theorem resolvedThresholds_ok {flow cash : DecimalRatio}
    (h : resolvedThresholds layers month scope = .ok (flow, cash)) :
    ∃ permitted values,
      resolveLayers scope false ⟨fun _ => none, permitted⟩ layers = .ok values ∧
        values .flow = some flow ∧ values .cash = some cash := by
  unfold resolvedThresholds at h
  iterate 3 obtain ⟨_, _, h⟩ := Checks.bind_eq_ok h
  obtain ⟨values, hvalues, h⟩ := Checks.bind_eq_ok h
  refine ⟨_, values, hvalues, ?_⟩
  cases hflow : values .flow with
  | none =>
    rw [hflow] at h
    cases h
  | some flow' =>
    cases hcash : values .cash with
    | none =>
      rw [hflow, hcash] at h
      cases h
    | some cash' =>
      rw [hflow, hcash] at h
      cases h
      exact ⟨rfl, rfl⟩

theorem resolveMonthlyPolicy_ok (h : resolveMonthlyPolicy hash layers month scope = .ok policy) :
    resolvedThresholds layers month scope = .ok (policy.flowThreshold, policy.cashThreshold) := by
  unfold resolveMonthlyPolicy at h
  obtain ⟨_, _, h⟩ := Checks.bind_eq_ok h
  obtain ⟨⟨flow, cash⟩, hthresholds, h⟩ := Checks.bind_eq_ok h
  unfold ResolvedMonthlyPolicy.admit at h
  iterate 3 obtain ⟨_, _, h⟩ := Checks.bind_eq_ok h
  cases h
  exact hthresholds

theorem locked_of_resolved (h : resolveMonthlyPolicy hash layers month scope = .ok policy) :
    (∀ name, lastStated layers name = some (policy.threshold name)) ∧
    ∀ before layer after name value, layers = before ++ layer :: after →
      layer.threshold name = some value → Changes before name value →
        ∀ earlier ∈ before, name ∈ earlier.permittedOverrides := by
  obtain ⟨permitted, values, hloop, hflow, hcash⟩ :=
    resolvedThresholds_ok (resolveMonthlyPolicy_ok h)
  have hstart : Inherited [] ⟨fun _ => none, permitted⟩ :=
    ⟨fun _ => rfl, fun _ _ _ hearlier => absurd hearlier List.not_mem_nil⟩
  obtain ⟨hvalues, hchanges⟩ := resolveLayers_ok hstart (fun hne => absurd rfl hne) hloop
  refine ⟨?_, hchanges⟩
  intro name
  rw [← List.nil_append layers, ← hvalues name]
  cases name with
  | flow => exact hflow
  | cash => exact hcash

/-- **Locked thresholds stay locked.**  In a policy that is resolved each threshold is the value of the
last layer that states it, and a layer that changes the inherited number, or states one where there is
none, is permitted to by every layer above it; layers of which one makes a change that some layer above
it does not permit are refused. -/
theorem locked_thresholds (hash : ResolvedMonthlyPolicy → String)
    (layers : List MonthlyPolicyLayer) (month : Month) (scope : MonthlyPolicyScope) :
    (∀ policy, resolveMonthlyPolicy hash layers month scope = .ok policy →
      (∀ name, lastStated layers name = some (policy.threshold name)) ∧
      ∀ before layer after name value, layers = before ++ layer :: after →
        layer.threshold name = some value → Changes before name value →
          ∀ earlier ∈ before, name ∈ earlier.permittedOverrides) ∧
    ∀ before layer after name value, layers = before ++ layer :: after →
      layer.threshold name = some value → Changes before name value →
        (∃ earlier ∈ before, name ∉ earlier.permittedOverrides) →
          ∃ error, resolveMonthlyPolicy hash layers month scope = .error error := by
  refine ⟨fun policy h => locked_of_resolved h, ?_⟩
  intro before layer after name value hsplit hvalue hchange hlocked
  obtain ⟨earlier, hearlier, hforbidden⟩ := hlocked
  cases hresult : resolveMonthlyPolicy hash layers month scope with
  | error error => exact ⟨error, rfl⟩
  | ok policy =>
    have hpermitted := (locked_of_resolved hresult).2 before layer after name value hsplit hvalue
      hchange earlier hearlier
    exact absurd hpermitted hforbidden

def januaryScope : MonthlyPolicyScope where
  tenantId := "t1"
  compositeId := "c1"
  definitionVersion := "d1"
  strategyCode := "s1"

/-- The platform of 2026, which permits its tenants another flow threshold. -/
def platformLayer : MonthlyPolicyLayer where
  level := .platform
  policyId := "platform"
  revision := "r1"
  effectiveFrom := ⟨"2026-01-01", 739617⟩
  effectiveTo := ⟨"2026-12-31", 739981⟩
  flowThreshold := some { text := "0.10" }
  cashThreshold := some { text := "0.05" }
  permittedOverrides := [.flow]

/-- A tenant that sets another flow threshold and states the cash threshold in another spelling. -/
def tenantLayer : MonthlyPolicyLayer :=
  { platformLayer with
    level := .tenant
    policyId := "tenant"
    tenantId := some "t1"
    flowThreshold := some { text := "0.2" }
    cashThreshold := some { text := "0.050" }
    permittedOverrides := [] }

/-- A tenant that changes the cash threshold. -/
def overreachingLayer : MonthlyPolicyLayer :=
  { tenantLayer with cashThreshold := some { text := "0.06" } }

def januaryPolicy : ResolvedMonthlyPolicy where
  month := ⟨2026, 1⟩
  scope := januaryScope
  layers := [platformLayer, tenantLayer]
  flowThreshold := { text := "0.2" }
  cashThreshold := { text := "0.050" }
  contentHash := "sha256:1"

theorem locked_thresholds_january :
    lastStated [platformLayer, tenantLayer] .flow = some (januaryPolicy.threshold .flow) ∧
    ∃ error, resolveMonthlyPolicy (fun _ => "sha256:1") [platformLayer, overreachingLayer] ⟨2026, 1⟩
      januaryScope = .error error :=
  ⟨((locked_thresholds (fun _ => "sha256:1") [platformLayer, tenantLayer] ⟨2026, 1⟩
      januaryScope).1 januaryPolicy (by decide +kernel)).1 .flow,
    (locked_thresholds (fun _ => "sha256:1") [platformLayer, overreachingLayer] ⟨2026, 1⟩
      januaryScope).2 [platformLayer] overreachingLayer [] .cash { text := "0.06" } rfl rfl
      (by
        intro inherited hinherited
        have hlast : inherited = { text := "0.05" } := Option.some.inj (hinherited.symm.trans rfl)
        rw [hlast, Ne, ← DecimalFloat.same_iff]
        decide +kernel)
      ⟨platformLayer, List.mem_singleton_self _, by decide⟩⟩

end LotusManage.Composites
