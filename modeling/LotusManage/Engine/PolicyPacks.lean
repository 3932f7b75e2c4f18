import LotusManage.Engine.Solver
import LotusManage.Lib.Text

/-!
# Policy packs

`src/core/rebalance/policy_packs.py`.  A policy pack overrides engine options before a run.  Its
sections are validated by models of their own, and `apply_policy_pack_to_engine_options` puts their
values into the options with `model_copy`, which validates nothing.

* `applyPolicyPackToEngineOptions_eq`: the options of the result, one by one.
* `applied_valid_iff`: when the result passes the validation of `EngineOptions`.  Two sections of a
  pack are validated less strictly than the options they override: the turnover cap has no bounds,
  and the keys of the group constraints have no form.
-/

namespace LotusManage.Engine

open LotusManage.Text (strip)

/-! ## The validation of engine options -/

/-- A number from zero to one. -/
def IsRatio (value : Decimal) : Prop := 0 ≤ value ∧ value ≤ 1

instance (value : Decimal) : Decidable (IsRatio value) :=
  inferInstanceAs (Decidable (0 ≤ value ∧ value ≤ 1))

/-- The test of `_validate_group_constraint_keys` on one key. -/
def groupConstraintKeyFormed (key : String) : Bool :=
  match key.toList.count ':', splitConstraintKey key with
  | 1, some (attributeKey, attributeValue) => attributeKey != "" && attributeValue != ""
  | _, _ => false

/-- `_validate_group_constraint_keys` -/
def validateGroupConstraintKeys (groupConstraints : Dict String GroupConstraint) :
    Except String (Dict String GroupConstraint) :=
  if groupConstraints.keys.all groupConstraintKeyFormed then .ok groupConstraints
  else .error "group_constraints keys must use format '<attribute_key>:<attribute_value>'"

/-- `_validate_optional_ratio_between_zero_and_one` -/
def validateOptionalRatioBetweenZeroAndOne (value : Option Decimal) (fieldName : String) :
    Except String (Option Decimal) :=
  match value with
  | none => .ok none
  | some ratio =>
    if ratio < 0 ∨ ratio > 1 then .error (fieldName ++ " must be between 0 and 1 inclusive")
    else .ok (some ratio)

/-- The loop of `_validate_non_negative_amounts_by_currency`. -/
def validateNonNegativeAmounts (fieldName : String) : List (String × Decimal) → Except String Unit
  | [] => .ok ()
  | (currency, amount) :: amounts =>
    if currency = "" then .error (fieldName ++ " keys must be non-empty currency codes")
    else if amount < 0 then .error (fieldName ++ " values must be non-negative")
    else validateNonNegativeAmounts fieldName amounts

/-- The options that `EngineOptions` accepts: the bounds of its fields, and its three
validators. -/
structure EngineOptions.Valid (options : EngineOptions) : Prop where
  minCashBufferPct : IsRatio options.minCashBufferPct
  cashReserveTargetWeight : ∀ weight ∈ options.cashReserveTargetWeight, IsRatio weight
  cashReserveTargetTolerance : IsRatio options.cashReserveTargetTolerance
  maxRealizedCapitalGains : ∀ gains ∈ options.maxRealizedCapitalGains, 0 ≤ gains
  settlementHorizonDays : options.settlementHorizonDays ≤ 10
  fxSettlementDays : options.fxSettlementDays ≤ 10
  groupConstraints :
    validateGroupConstraintKeys options.groupConstraints = .ok options.groupConstraints
  maxTurnoverPct :
    validateOptionalRatioBetweenZeroAndOne options.maxTurnoverPct "max_turnover_pct" =
      .ok options.maxTurnoverPct
  maxOverdraftByCcy :
    validateNonNegativeAmounts "max_overdraft_by_ccy" options.maxOverdraftByCcy.items = .ok ()

variable {options : EngineOptions}

theorem validateGroupConstraintKeys_eq_ok_iff {groupConstraints : Dict String GroupConstraint} :
    validateGroupConstraintKeys groupConstraints = .ok groupConstraints ↔
      ∀ key ∈ groupConstraints.keys, groupConstraintKeyFormed key = true := by
  unfold validateGroupConstraintKeys
  rw [← List.all_eq_true]
  split <;> simp [*]

theorem validateOptionalRatio_eq_ok_iff {value : Option Decimal} {fieldName : String} :
    validateOptionalRatioBetweenZeroAndOne value fieldName = .ok value ↔
      ∀ ratio ∈ value, IsRatio ratio := by
  cases value with
  | none => simp [validateOptionalRatioBetweenZeroAndOne]
  | some ratio =>
    unfold validateOptionalRatioBetweenZeroAndOne IsRatio
    by_cases h : ratio < 0 ∨ ratio > 1
    · have hout : ¬ (0 ≤ ratio ∧ ratio ≤ 1) := by
        intro hin
        cases h with
        | inl hneg => exact absurd hin.1 (not_le.mpr hneg)
        | inr hbig => exact absurd hin.2 (not_le.mpr hbig)
      simp [h, hout]
    · have hin : 0 ≤ ratio ∧ ratio ≤ 1 :=
        ⟨not_lt.mp fun hneg => h (Or.inl hneg), not_lt.mp fun hbig => h (Or.inr hbig)⟩
      simp [h, hin]

/-! ## Packs

The bounds that the section models state are fields, so that a pack that `DpmPolicyPackDefinition`
refuses cannot be built. -/

structure TurnoverPolicy where
  maxTurnoverPct : Option Decimal := none
  deriving DecidableEq

structure TaxPolicy where
  enableTaxAwareness : Option Bool := none
  maxRealizedCapitalGains : Option Decimal := none
  gainsNonneg : ∀ gains ∈ maxRealizedCapitalGains, 0 ≤ gains := by decide +kernel
  deriving DecidableEq

structure SettlementPolicy where
  enableSettlementAwareness : Option Bool := none
  settlementHorizonDays : Option Nat := none
  horizonLeTen : ∀ days ∈ settlementHorizonDays, days ≤ 10 := by decide +kernel
  deriving DecidableEq

structure ConstraintPolicy where
  singlePositionMaxWeight : Option Decimal := none
  groupConstraints : Dict String GroupConstraint := Dict.empty
  singlePositionRatio : ∀ weight ∈ singlePositionMaxWeight, IsRatio weight := by decide +kernel
  deriving DecidableEq

structure WorkflowPolicy where
  enableWorkflowGates : Option Bool := none
  workflowRequiresMandateApproval : Option Bool := none
  mandateApprovalAlreadyObtained : Option Bool := none
  deriving DecidableEq

structure IdempotencyPolicy where
  replayEnabled : Option Bool := none
  deriving DecidableEq

/-- `DpmPolicyPackDefinition` -/
structure PolicyPackDefinition where
  policyPackId : String
  version : String
  turnoverPolicy : TurnoverPolicy := {}
  taxPolicy : TaxPolicy := {}
  settlementPolicy : SettlementPolicy := {}
  constraintPolicy : ConstraintPolicy := {}
  workflowPolicy : WorkflowPolicy := {}
  idempotencyPolicy : IdempotencyPolicy := {}
  deriving DecidableEq

/-! ## The catalog -/

/-- A definition of the catalog text with its members read at their types.  A section that is
missing or false is an empty one, and a missing version is `"1"`. -/
structure PolicyPackPayload where
  version : String := "1"
  maxTurnoverPct : Option Decimal := none
  enableTaxAwareness : Option Bool := none
  maxRealizedCapitalGains : Option Decimal := none
  enableSettlementAwareness : Option Bool := none
  settlementHorizonDays : Option Int := none
  singlePositionMaxWeight : Option Decimal := none
  groupConstraints : List (String × Decimal) := []
  workflowPolicy : WorkflowPolicy := {}
  idempotencyPolicy : IdempotencyPolicy := {}

/-- `GroupConstraint.model_validate` -/
def validateGroupConstraint (maxWeight : Decimal) : Option GroupConstraint :=
  if h : 0 ≤ maxWeight ∧ maxWeight ≤ 1 then some ⟨maxWeight, h.1, h.2⟩ else none

/-- The group constraints of a payload, each one validated. -/
def validateGroupConstraints (groupConstraints : List (String × Decimal)) :
    Option (Dict String GroupConstraint) :=
  (groupConstraints.mapM fun e => (validateGroupConstraint e.2).map fun c => (e.1, c)).map
    Dict.ofEntries

/-- `DpmPolicyPackDefinition.model_validate`; a validation error is `none`. -/
def modelValidate (policyPackId : String) (payload : PolicyPackPayload) :
    Option PolicyPackDefinition :=
  if hgains : ∀ gains ∈ payload.maxRealizedCapitalGains, 0 ≤ gains then
    if hdays : ∀ days ∈ payload.settlementHorizonDays, 0 ≤ days ∧ days ≤ 10 then
      if hweight : ∀ weight ∈ payload.singlePositionMaxWeight, IsRatio weight then
        (validateGroupConstraints payload.groupConstraints).map fun groupConstraints =>
          { policyPackId := policyPackId
            version := payload.version
            turnoverPolicy := ⟨payload.maxTurnoverPct⟩
            taxPolicy := ⟨payload.enableTaxAwareness, payload.maxRealizedCapitalGains, hgains⟩
            settlementPolicy :=
              ⟨payload.enableSettlementAwareness, payload.settlementHorizonDays.map Int.toNat, by
                intro days hmem
                obtain ⟨read, hread, rfl⟩ := Option.map_eq_some_iff.mp hmem
                have := hdays read hread
                omega⟩
            constraintPolicy := ⟨payload.singlePositionMaxWeight, groupConstraints, hweight⟩
            workflowPolicy := payload.workflowPolicy
            idempotencyPolicy := payload.idempotencyPolicy }
      else none
    else none
  else none

/-! ## Applying a pack -/

/-- An entry of the `update` dictionary of `model_copy`. -/
inductive EngineOptionUpdate where
  | maxTurnoverPct (value : Decimal)
  | enableTaxAwareness (value : Bool)
  | maxRealizedCapitalGains (value : Decimal)
  | enableSettlementAwareness (value : Bool)
  | settlementHorizonDays (value : Nat)
  | singlePositionMaxWeight (value : Decimal)
  | groupConstraints (value : Dict String GroupConstraint)
  | enableWorkflowGates (value : Bool)
  | workflowRequiresMandateApproval (value : Bool)
  | mandateApprovalAlreadyObtained (value : Bool)

def EngineOptions.put (options : EngineOptions) : EngineOptionUpdate → EngineOptions
  | .maxTurnoverPct value => { options with maxTurnoverPct := some value }
  | .enableTaxAwareness value => { options with enableTaxAwareness := value }
  | .maxRealizedCapitalGains value => { options with maxRealizedCapitalGains := some value }
  | .enableSettlementAwareness value => { options with enableSettlementAwareness := value }
  | .settlementHorizonDays value => { options with settlementHorizonDays := value }
  | .singlePositionMaxWeight value => { options with singlePositionMaxWeight := some value }
  | .groupConstraints value => { options with groupConstraints := value }
  | .enableWorkflowGates value => { options with enableWorkflowGates := value }
  | .workflowRequiresMandateApproval value =>
    { options with workflowRequiresMandateApproval := value }
  | .mandateApprovalAlreadyObtained value =>
    { options with mandateApprovalAlreadyObtained := value }

/-- `model_copy(update=...)`, which validates nothing. -/
def EngineOptions.modelCopy (options : EngineOptions) (updates : List EngineOptionUpdate) :
    EngineOptions :=
  updates.foldl EngineOptions.put options

/-- `_turnover_engine_option_updates` -/
def turnoverEngineOptionUpdates (policy : TurnoverPolicy) : List EngineOptionUpdate :=
  (policy.maxTurnoverPct.map .maxTurnoverPct).toList

/-- `_tax_engine_option_updates` -/
def taxEngineOptionUpdates (policy : TaxPolicy) : List EngineOptionUpdate :=
  (policy.enableTaxAwareness.map .enableTaxAwareness).toList ++
    (policy.maxRealizedCapitalGains.map .maxRealizedCapitalGains).toList

/-- `_settlement_engine_option_updates` -/
def settlementEngineOptionUpdates (policy : SettlementPolicy) : List EngineOptionUpdate :=
  (policy.enableSettlementAwareness.map .enableSettlementAwareness).toList ++
    (policy.settlementHorizonDays.map .settlementHorizonDays).toList

/-- `_constraint_engine_option_updates`: an empty dictionary of constraints is no update. -/
def constraintEngineOptionUpdates (policy : ConstraintPolicy) : List EngineOptionUpdate :=
  (policy.singlePositionMaxWeight.map .singlePositionMaxWeight).toList ++
    if policy.groupConstraints.nonempty then [.groupConstraints policy.groupConstraints] else []

/-- `_workflow_engine_option_updates` -/
def workflowEngineOptionUpdates (policy : WorkflowPolicy) : List EngineOptionUpdate :=
  (policy.enableWorkflowGates.map .enableWorkflowGates).toList ++
    (policy.workflowRequiresMandateApproval.map .workflowRequiresMandateApproval).toList ++
    (policy.mandateApprovalAlreadyObtained.map .mandateApprovalAlreadyObtained).toList

/-- `policy_pack_engine_option_updates` -/
def policyPackEngineOptionUpdates (pack : PolicyPackDefinition) : List EngineOptionUpdate :=
  turnoverEngineOptionUpdates pack.turnoverPolicy ++ taxEngineOptionUpdates pack.taxPolicy ++
    settlementEngineOptionUpdates pack.settlementPolicy ++
    constraintEngineOptionUpdates pack.constraintPolicy ++
    workflowEngineOptionUpdates pack.workflowPolicy

/-- `apply_policy_pack_to_engine_options` -/
def applyPolicyPackToEngineOptions (options : EngineOptions)
    (policyPack : Option PolicyPackDefinition) : EngineOptions :=
  match policyPack with
  | none => options
  | some pack =>
    match policyPackEngineOptionUpdates pack with
    | [] => options
    | update :: updates => options.modelCopy (update :: updates)

/-! ## What the result is -/

variable {pack : PolicyPackDefinition}

theorem modelCopy_append (options : EngineOptions) (first second : List EngineOptionUpdate) :
    options.modelCopy (first ++ second) = (options.modelCopy first).modelCopy second :=
  List.foldl_append

theorem modelCopy_turnover (options : EngineOptions) (policy : TurnoverPolicy) :
    options.modelCopy (turnoverEngineOptionUpdates policy) =
      { options with maxTurnoverPct := policy.maxTurnoverPct.or options.maxTurnoverPct } := by
  unfold turnoverEngineOptionUpdates
  cases policy.maxTurnoverPct <;> rfl

theorem modelCopy_tax (options : EngineOptions) (policy : TaxPolicy) :
    options.modelCopy (taxEngineOptionUpdates policy) =
      { options with
        enableTaxAwareness := policy.enableTaxAwareness.getD options.enableTaxAwareness
        maxRealizedCapitalGains :=
          policy.maxRealizedCapitalGains.or options.maxRealizedCapitalGains } := by
  unfold taxEngineOptionUpdates
  cases policy.enableTaxAwareness <;> cases policy.maxRealizedCapitalGains <;> rfl

theorem modelCopy_settlement (options : EngineOptions) (policy : SettlementPolicy) :
    options.modelCopy (settlementEngineOptionUpdates policy) =
      { options with
        enableSettlementAwareness :=
          policy.enableSettlementAwareness.getD options.enableSettlementAwareness
        settlementHorizonDays :=
          policy.settlementHorizonDays.getD options.settlementHorizonDays } := by
  unfold settlementEngineOptionUpdates
  cases policy.enableSettlementAwareness <;> cases policy.settlementHorizonDays <;> rfl

theorem modelCopy_constraint (options : EngineOptions) (policy : ConstraintPolicy) :
    options.modelCopy (constraintEngineOptionUpdates policy) =
      { options with
        singlePositionMaxWeight :=
          policy.singlePositionMaxWeight.or options.singlePositionMaxWeight
        groupConstraints :=
          if policy.groupConstraints.nonempty then policy.groupConstraints
          else options.groupConstraints } := by
  unfold constraintEngineOptionUpdates
  cases policy.singlePositionMaxWeight <;> split <;> rfl

theorem modelCopy_workflow (options : EngineOptions) (policy : WorkflowPolicy) :
    options.modelCopy (workflowEngineOptionUpdates policy) =
      { options with
        enableWorkflowGates := policy.enableWorkflowGates.getD options.enableWorkflowGates
        workflowRequiresMandateApproval :=
          policy.workflowRequiresMandateApproval.getD options.workflowRequiresMandateApproval
        mandateApprovalAlreadyObtained :=
          policy.mandateApprovalAlreadyObtained.getD options.mandateApprovalAlreadyObtained } := by
  unfold workflowEngineOptionUpdates
  cases policy.enableWorkflowGates <;> cases policy.workflowRequiresMandateApproval <;>
    cases policy.mandateApprovalAlreadyObtained <;> rfl

theorem applyPolicyPackToEngineOptions_eq (options : EngineOptions)
    (pack : PolicyPackDefinition) :
    applyPolicyPackToEngineOptions options (some pack) =
      { options with
        maxTurnoverPct := pack.turnoverPolicy.maxTurnoverPct.or options.maxTurnoverPct
        enableTaxAwareness := pack.taxPolicy.enableTaxAwareness.getD options.enableTaxAwareness
        maxRealizedCapitalGains :=
          pack.taxPolicy.maxRealizedCapitalGains.or options.maxRealizedCapitalGains
        enableSettlementAwareness :=
          pack.settlementPolicy.enableSettlementAwareness.getD options.enableSettlementAwareness
        settlementHorizonDays :=
          pack.settlementPolicy.settlementHorizonDays.getD options.settlementHorizonDays
        singlePositionMaxWeight :=
          pack.constraintPolicy.singlePositionMaxWeight.or options.singlePositionMaxWeight
        groupConstraints :=
          if pack.constraintPolicy.groupConstraints.nonempty then
            pack.constraintPolicy.groupConstraints
          else options.groupConstraints
        enableWorkflowGates :=
          pack.workflowPolicy.enableWorkflowGates.getD options.enableWorkflowGates
        workflowRequiresMandateApproval :=
          pack.workflowPolicy.workflowRequiresMandateApproval.getD
            options.workflowRequiresMandateApproval
        mandateApprovalAlreadyObtained :=
          pack.workflowPolicy.mandateApprovalAlreadyObtained.getD
            options.mandateApprovalAlreadyObtained } := by
  have hcopy : applyPolicyPackToEngineOptions options (some pack) =
      options.modelCopy (policyPackEngineOptionUpdates pack) := by
    unfold applyPolicyPackToEngineOptions
    cases hupdates : policyPackEngineOptionUpdates pack with
    | nil => simp only [hupdates]; rfl
    | cons update updates => simp only [hupdates]
  rw [hcopy, policyPackEngineOptionUpdates, modelCopy_append, modelCopy_append, modelCopy_append,
    modelCopy_append, modelCopy_turnover, modelCopy_tax, modelCopy_settlement,
    modelCopy_constraint, modelCopy_workflow]

/-- The options that a pack does not set are the ones it was applied to. -/
structure KeepsUnset (pack : PolicyPackDefinition) (options applied : EngineOptions) : Prop where
  maxTurnoverPct : pack.turnoverPolicy.maxTurnoverPct = none →
    applied.maxTurnoverPct = options.maxTurnoverPct
  enableTaxAwareness : pack.taxPolicy.enableTaxAwareness = none →
    applied.enableTaxAwareness = options.enableTaxAwareness
  maxRealizedCapitalGains : pack.taxPolicy.maxRealizedCapitalGains = none →
    applied.maxRealizedCapitalGains = options.maxRealizedCapitalGains
  enableSettlementAwareness : pack.settlementPolicy.enableSettlementAwareness = none →
    applied.enableSettlementAwareness = options.enableSettlementAwareness
  settlementHorizonDays : pack.settlementPolicy.settlementHorizonDays = none →
    applied.settlementHorizonDays = options.settlementHorizonDays
  singlePositionMaxWeight : pack.constraintPolicy.singlePositionMaxWeight = none →
    applied.singlePositionMaxWeight = options.singlePositionMaxWeight
  groupConstraints : pack.constraintPolicy.groupConstraints.nonempty = false →
    applied.groupConstraints = options.groupConstraints
  enableWorkflowGates : pack.workflowPolicy.enableWorkflowGates = none →
    applied.enableWorkflowGates = options.enableWorkflowGates
  workflowRequiresMandateApproval :
    pack.workflowPolicy.workflowRequiresMandateApproval = none →
      applied.workflowRequiresMandateApproval = options.workflowRequiresMandateApproval
  mandateApprovalAlreadyObtained : pack.workflowPolicy.mandateApprovalAlreadyObtained = none →
    applied.mandateApprovalAlreadyObtained = options.mandateApprovalAlreadyObtained
  others : { options with
      maxTurnoverPct := applied.maxTurnoverPct
      enableTaxAwareness := applied.enableTaxAwareness
      maxRealizedCapitalGains := applied.maxRealizedCapitalGains
      enableSettlementAwareness := applied.enableSettlementAwareness
      settlementHorizonDays := applied.settlementHorizonDays
      singlePositionMaxWeight := applied.singlePositionMaxWeight
      groupConstraints := applied.groupConstraints
      enableWorkflowGates := applied.enableWorkflowGates
      workflowRequiresMandateApproval := applied.workflowRequiresMandateApproval
      mandateApprovalAlreadyObtained := applied.mandateApprovalAlreadyObtained } = applied

theorem keepsUnset_applied (options : EngineOptions) (pack : PolicyPackDefinition) :
    KeepsUnset pack options (applyPolicyPackToEngineOptions options (some pack)) := by
  rw [applyPolicyPackToEngineOptions_eq]
  constructor <;> intros <;> simp [*]

/-! ## When the result is valid -/

/-- The sections of a pack that its own models do not bound keep to what `EngineOptions` asks:
the turnover cap is a ratio, and every key of a group constraint is an attribute and a value. -/
structure PolicyPackDefinition.WithinEngineOptions (pack : PolicyPackDefinition) : Prop where
  turnover : ∀ ratio ∈ pack.turnoverPolicy.maxTurnoverPct, IsRatio ratio
  groups : ∀ key ∈ pack.constraintPolicy.groupConstraints.keys,
    groupConstraintKeyFormed key = true

theorem keys_eq_nil_of_not_nonempty {constraints : Dict String GroupConstraint}
    (h : constraints.nonempty = false) : constraints.keys = [] := by
  cases hitems : constraints.items with
  | nil => simp [Dict.keys, hitems]
  | cons e es => simp [Dict.nonempty, hitems] at h

theorem forall_mem_or {α : Type} {p : α → Prop} {override value : Option α}
    (hoverride : ∀ x ∈ override, p x) (hvalue : ∀ x ∈ value, p x) :
    ∀ x ∈ override.or value, p x := by
  cases override with
  | none => exact hvalue
  | some x => exact hoverride

theorem valid_applied (hvalid : options.Valid) (hwithin : pack.WithinEngineOptions) :
    (applyPolicyPackToEngineOptions options (some pack)).Valid := by
  rw [applyPolicyPackToEngineOptions_eq]
  constructor
  · exact hvalid.minCashBufferPct
  · exact hvalid.cashReserveTargetWeight
  · exact hvalid.cashReserveTargetTolerance
  · exact forall_mem_or pack.taxPolicy.gainsNonneg hvalid.maxRealizedCapitalGains
  · show pack.settlementPolicy.settlementHorizonDays.getD options.settlementHorizonDays ≤ 10
    cases hdays : pack.settlementPolicy.settlementHorizonDays with
    | none => exact hvalid.settlementHorizonDays
    | some days => exact pack.settlementPolicy.horizonLeTen days hdays
  · exact hvalid.fxSettlementDays
  · apply validateGroupConstraintKeys_eq_ok_iff.mpr
    dsimp only
    split
    · exact hwithin.groups
    · exact validateGroupConstraintKeys_eq_ok_iff.mp hvalid.groupConstraints
  · apply validateOptionalRatio_eq_ok_iff.mpr
    exact forall_mem_or hwithin.turnover (validateOptionalRatio_eq_ok_iff.mp hvalid.maxTurnoverPct)
  · exact hvalid.maxOverdraftByCcy

theorem withinEngineOptions_of_valid
    (h : (applyPolicyPackToEngineOptions options (some pack)).Valid) :
    pack.WithinEngineOptions := by
  rw [applyPolicyPackToEngineOptions_eq] at h
  constructor
  · intro ratio hmem
    apply validateOptionalRatio_eq_ok_iff.mp h.maxTurnoverPct
    rw [Option.mem_def.mp hmem]
    rfl
  · have hkeys := validateGroupConstraintKeys_eq_ok_iff.mp h.groupConstraints
    cases hnonempty : pack.constraintPolicy.groupConstraints.nonempty with
    | true => simpa only [hnonempty, if_true] using hkeys
    | false =>
      intro key hmem
      rw [keys_eq_nil_of_not_nonempty hnonempty] at hmem
      exact absurd hmem List.not_mem_nil

/-- A pack of any origin leaves valid options valid, and the options it does not set alone, exactly
if its turnover cap is a ratio and its group constraints have keys of the engine's form. -/
theorem applied_valid_iff (options : EngineOptions) (hvalid : options.Valid)
    (pack : PolicyPackDefinition) :
    (applyPolicyPackToEngineOptions options (some pack)).Valid ∧
        KeepsUnset pack options (applyPolicyPackToEngineOptions options (some pack)) ↔
      pack.WithinEngineOptions :=
  ⟨fun h => withinEngineOptions_of_valid h.1,
    fun h => ⟨valid_applied hvalid h, keepsUnset_applied options pack⟩⟩

theorem valid_default : ({} : EngineOptions).Valid where
  minCashBufferPct := by decide +kernel
  cashReserveTargetWeight := by decide
  cashReserveTargetTolerance := by decide +kernel
  maxRealizedCapitalGains := by decide
  settlementHorizonDays := by decide
  fxSettlementDays := by decide
  groupConstraints := by decide
  maxTurnoverPct := rfl
  maxOverdraftByCcy := rfl

/-- A pack that overrides an option of each section. -/
def standardPack : PolicyPackDefinition where
  policyPackId := "dpm_standard_v1"
  version := "1"
  turnoverPolicy := ⟨some (1 / 10)⟩
  taxPolicy := { enableTaxAwareness := some true }
  settlementPolicy := { settlementHorizonDays := some 3 }
  constraintPolicy := { groupConstraints := Dict.ofEntries [("sector:TECH", { maxWeight := 1 / 5 })] }
  workflowPolicy := { enableWorkflowGates := some true }

theorem standardPack_applied :
    (applyPolicyPackToEngineOptions {} (some standardPack)).Valid ∧
      KeepsUnset standardPack {} (applyPolicyPackToEngineOptions {} (some standardPack)) :=
  (applied_valid_iff {} valid_default standardPack).mpr
    { turnover := fun _ hmem => by
        cases Option.mem_def.mp hmem
        decide +kernel
      groups := by decide +kernel }

/-- A pack with a turnover cap above one. -/
def overTurnedPack : PolicyPackDefinition where
  policyPackId := "dpm_standard_v1"
  version := "1"
  turnoverPolicy := ⟨some (3 / 2)⟩

/-- A pack with a group constraint whose key names no value. -/
def unformedPack : PolicyPackDefinition where
  policyPackId := "dpm_sector_v1"
  version := "1"
  constraintPolicy := { groupConstraints := Dict.ofEntries [("sector", { maxWeight := 1 / 5 })] }

/-- Both packs pass the validation of packs, and neither leaves the default options valid. -/
theorem accepted_packs_break_options :
    modelValidate "dpm_standard_v1" { maxTurnoverPct := some (3 / 2) } = some overTurnedPack ∧
      modelValidate "dpm_sector_v1" { groupConstraints := [("sector", 1 / 5)] } =
        some unformedPack ∧
      ({} : EngineOptions).Valid ∧
      ¬ (applyPolicyPackToEngineOptions {} (some overTurnedPack)).Valid ∧
      ¬ (applyPolicyPackToEngineOptions {} (some unformedPack)).Valid := by
  refine ⟨by decide +kernel, by decide +kernel, valid_default, ?_, ?_⟩
  · intro h
    have hturnover := (withinEngineOptions_of_valid h).turnover (3 / 2) rfl
    exact absurd hturnover (by decide +kernel)
  · intro h
    have hkey := (withinEngineOptions_of_valid h).groups "sector" (by decide +kernel)
    exact absurd hkey (by decide +kernel)

end LotusManage.Engine
