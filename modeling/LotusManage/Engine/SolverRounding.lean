import LotusManage.Engine.SolverHints

/-!
# Solver targets after rounding

`_apply_solver_values` rounds every solved weight on its own.  A weight moves by at most a half of the
last place, and a sum by at most that much for each weight in it.

* `abs_quantizeWeight_sub_le`: how far a weight moves.
* `applySolverValues_eq`: the targets that are left, instrument by instrument.
* `rounded_targets_feasible`: how well the rounded targets keep the constraints of the problem.
-/

namespace LotusManage.Engine

/-! ## Rounding -/

theorem quantizeWeight_cases (weight : Decimal) :
    (quantizeWeight weight = ((weight * 10000).floor : Decimal) / 10000 ∧
      weight * 10000 - (weight * 10000).floor ≤ 1 / 2) ∨
    (quantizeWeight weight = (((weight * 10000).floor + 1 : Int) : Decimal) / 10000 ∧
      1 / 2 ≤ weight * 10000 - (weight * 10000).floor) := by
  unfold quantizeWeight
  dsimp only
  split
  · rename_i hless
    exact Or.inl ⟨rfl, hless.le⟩
  · rename_i hless
    split
    · rename_i hmore
      exact Or.inr ⟨rfl, hmore.le⟩
    · rename_i hmore
      split
      · exact Or.inl ⟨rfl, not_lt.mp hmore⟩
      · exact Or.inr ⟨rfl, not_lt.mp hless⟩

theorem abs_quantizeWeight_sub_le (weight : Decimal) :
    |quantizeWeight weight - weight| ≤ 1 / 20000 := by
  have hlow := Rat.floor_le (weight * 10000)
  have hhigh := Rat.lt_floor_add_one (weight * 10000)
  rw [Int.cast_add, Int.cast_one] at hhigh
  rw [abs_le]
  rcases quantizeWeight_cases weight with ⟨heq, hrest⟩ | ⟨heq, hrest⟩
  · rw [heq]
    constructor
    · linarith
    · linarith
  · rw [heq, Int.cast_add, Int.cast_one]
    constructor
    · linarith
    · linarith

theorem quantizeWeight_nonneg {weight : Decimal} (h : 0 ≤ weight) : 0 ≤ quantizeWeight weight := by
  have hfloor : 0 ≤ (weight * 10000).floor := by
    rw [Rat.le_floor_iff, Int.cast_zero]
    linarith
  have hcast : (0 : Decimal) ≤ ((weight * 10000).floor : Decimal) := by exact_mod_cast hfloor
  rcases quantizeWeight_cases weight with ⟨heq, _⟩ | ⟨heq, _⟩
  · rw [heq]
    linarith
  · rw [heq, Int.cast_add, Int.cast_one]
    linarith

theorem abs_sum_quantizeWeight_sub_le (weights : List Decimal) :
    |(weights.map quantizeWeight).sum - weights.sum| ≤ weights.length / 20000 := by
  induction weights with
  | nil => simp
  | cons weight weights ih =>
    have hhead := abs_le.mp (abs_quantizeWeight_sub_le weight)
    have htail := abs_le.mp ih
    rw [List.map_cons, List.sum_cons, List.sum_cons, List.length_cons, Nat.cast_succ, abs_le]
    constructor
    · linarith [hhead.1, htail.1]
    · linarith [hhead.2, htail.2]

/-! ## The targets that are left -/

theorem setItems_eq_map {id : String} {weight : Decimal} :
    ∀ {items : List (String × Decimal)}, (items.map Prod.fst).Nodup → id ∈ items.map Prod.fst →
      Dict.setItems id weight items = items.map (fun e => (e.1, if e.1 = id then weight else e.2))
  | [], _, hmem => by cases hmem
  | e :: items, hnodup, hmem => by
    obtain ⟨hhead, htail⟩ := List.nodup_cons.mp hnodup
    rw [Dict.setItems, List.map_cons]
    by_cases heq : e.1 = id
    · rw [if_pos heq, if_pos heq, heq]
      refine congrArg ((id, weight) :: ·) ?_
      refine (List.map_id items).symm.trans (List.map_congr_left fun other hother => ?_)
      have hne : other.1 ≠ id := by
        rintro rfl
        exact hhead (by rw [heq]; exact List.mem_map_of_mem hother)
      rw [if_neg hne]
      rfl
    · rw [if_neg heq, if_neg heq, setItems_eq_map htail]
      rcases List.mem_cons.mp hmem with hid | hid
      · exact absurd hid.symm heq
      · exact hid

theorem set_eq_mapWithKey {targets : Dict String Decimal} {id : String} (weight : Decimal)
    (hmem : id ∈ targets.keys) :
    targets.set id weight = targets.mapWithKey (fun k w => if k = id then weight else w) :=
  Dict.ext (setItems_eq_map targets.nodup hmem)

theorem foldl_set_eq (f : Nat → Decimal) :
    ∀ {entries : List (String × Nat)} {targets : Dict String Decimal},
      (entries.map Prod.fst).Nodup → (∀ e ∈ entries, e.1 ∈ targets.keys) →
      entries.foldl (fun targets e => targets.set e.1 (f e.2)) targets =
        targets.mapWithKey (fun id weight => ((entries.lookup id).map f).getD weight)
  | [], targets, _, _ => by
    refine Dict.ext ?_
    exact (List.map_id targets.items).symm
  | e :: entries, targets, hnodup, hmem => by
    obtain ⟨hhead, htail⟩ := List.nodup_cons.mp hnodup
    have hset := set_eq_mapWithKey (f e.2) (hmem e List.mem_cons_self)
    rw [List.foldl_cons, hset, foldl_set_eq f htail]
    · refine Dict.ext ?_
      show (targets.items.map _).map _ = targets.items.map _
      rw [List.map_map]
      refine List.map_congr_left fun item _ => ?_
      refine congrArg (Prod.mk item.1) ?_
      show ((entries.lookup item.1).map f).getD (if item.1 = e.1 then f e.2 else item.2) =
        (((e :: entries).lookup item.1).map f).getD item.2
      rw [Dict.lookup_cons_eq_ite]
      by_cases heq : item.1 = e.1
      · have hnone : entries.lookup item.1 = none := by
          rw [List.lookup_eq_none_iff]
          intro other hother
          rw [heq, bne_iff_ne]
          rintro hsame
          exact hhead (by rw [hsame]; exact List.mem_map_of_mem hother)
        rw [if_pos heq, if_pos heq, hnone]
        rfl
      · rw [if_neg heq, if_neg heq]
    · intro other hother
      rw [Dict.keys_mapWithKey]
      exact hmem other (List.mem_cons_of_mem e hother)

theorem lookup_zipIdx {id : String} :
    ∀ {ids : List String} (start : Nat), id ∈ ids →
      (ids.zipIdx start).lookup id = some (start + ids.idxOf id)
  | [], _, hmem => by cases hmem
  | other :: ids, start, hmem => by
    rw [List.zipIdx_cons, Dict.lookup_cons_eq_ite, List.idxOf_cons]
    by_cases heq : id = other
    · subst heq
      simp
    · have hrest : id ∈ ids := by
        rcases List.mem_cons.mp hmem with hid | hid
        · exact absurd hid heq
        · exact hid
      have hne : (other == id) = false := beq_eq_false_iff_ne.mpr (Ne.symm heq)
      rw [if_neg heq, lookup_zipIdx (start + 1) hrest, hne, cond_false, Option.some_inj]
      omega

theorem applySolverValues_eq (w : Nat → Decimal) {tradeableIds : List String}
    {eligibleTargets : Dict String Decimal} (hnodup : tradeableIds.Nodup)
    (hmem : ∀ id ∈ tradeableIds, id ∈ eligibleTargets.keys) :
    applySolverValues w tradeableIds eligibleTargets = eligibleTargets.mapWithKey (fun id weight =>
      if id ∈ tradeableIds then quantizeWeight (max (w (tradeableIds.idxOf id)) 0) else weight) := by
  have hkeys : tradeableIds.zipIdx.map Prod.fst = tradeableIds := List.zipIdx_map_fst 0 tradeableIds
  unfold applySolverValues
  rw [foldl_set_eq (fun i => quantizeWeight (max (w i) 0))]
  · refine congrArg eligibleTargets.mapWithKey ?_
    funext id weight
    by_cases hid : id ∈ tradeableIds
    · rw [if_pos hid, lookup_zipIdx 0 hid, Nat.zero_add]
      rfl
    · have hnone : tradeableIds.zipIdx.lookup id = none := by
        rw [List.lookup_eq_none_iff]
        intro e he
        rw [bne_iff_ne]
        rintro rfl
        exact hid (by rw [← hkeys]; exact List.mem_map_of_mem he)
      rw [if_neg hid, hnone]
      rfl
  · rw [hkeys]
    exact hnodup
  · intro e he
    refine hmem e.1 ?_
    rw [← hkeys]
    exact List.mem_map_of_mem he

/-! ## Sums over the targets that are left -/

section Sums

variable {eligibleTargets : Dict String Decimal} {buyList : List String} (w : Nat → Decimal)

theorem nodup_solverTradeableIds : (solverTradeableIds eligibleTargets buyList).Nodup :=
  eligibleTargets.nodup.filter _

theorem mem_solverTradeableIds {id : String} :
    id ∈ solverTradeableIds eligibleTargets buyList ↔ id ∈ eligibleTargets.keys ∧ id ∈ buyList := by
  unfold solverTradeableIds
  rw [List.mem_filter, decide_eq_true_eq]

/-- The targets that `_apply_solver_values` leaves. -/
def roundedTargets (eligibleTargets : Dict String Decimal) (buyList : List String)
    (w : Nat → Decimal) : Dict String Decimal :=
  applySolverValues w (solverTradeableIds eligibleTargets buyList) eligibleTargets

theorem roundedTargets_eq : roundedTargets eligibleTargets buyList w =
    eligibleTargets.mapWithKey (fun id weight =>
      if id ∈ solverTradeableIds eligibleTargets buyList then
        quantizeWeight (max (w ((solverTradeableIds eligibleTargets buyList).idxOf id)) 0)
      else weight) :=
  applySolverValues_eq w nodup_solverTradeableIds (fun _ hid => (mem_solverTradeableIds.mp hid).1)

theorem sum_map_filter {α : Type} (q : α → Bool) (g : α → Decimal) (entries : List α) :
    ((entries.filter q).map g).sum = (entries.map (fun e => if q e then g e else 0)).sum := by
  induction entries with
  | nil => rfl
  | cons e entries ih =>
    rw [List.filter_cons, List.map_cons, List.sum_cons, ← ih]
    split
    · rw [List.map_cons, List.sum_cons]
    · rw [zero_add]

theorem filter_solverTradeableIds {attrKey attrVal : String}
    {shelfAttrs : Dict String (Dict String String)} :
    (solverTradeableIds eligibleTargets buyList).filter (isGroupMember shelfAttrs attrKey attrVal) =
      (solverGroupMembers attrKey attrVal eligibleTargets shelfAttrs
        (solverTradeableIds eligibleTargets buyList)).1 := by
  unfold solverGroupMembers
  dsimp only
  conv_lhs => unfold solverTradeableIds
  rw [List.filter_filter]
  refine List.filter_congr fun id hid => ?_
  rw [Bool.eq_iff_iff, Bool.and_eq_true, decide_eq_true_eq, decide_eq_true_eq,
    mem_solverTradeableIds]
  exact and_congr_right fun _ => (and_iff_right hid).symm

theorem weightOf_roundedTargets (p : String → Bool) :
    weightOf (roundedTargets eligibleTargets buyList w) p =
      (((solverTradeableIds eligibleTargets buyList).filter p).map (fun id => quantizeWeight
        (max (w ((solverTradeableIds eligibleTargets buyList).idxOf id)) 0))).sum +
      weightOf eligibleTargets
        (fun id => p id ∧ id ∉ solverTradeableIds eligibleTargets buyList) := by
  have hselected : ((solverTradeableIds eligibleTargets buyList).filter p).map (fun id =>
      quantizeWeight (max (w ((solverTradeableIds eligibleTargets buyList).idxOf id)) 0)) =
      ((eligibleTargets.items.filter (fun e => p e.1 && decide (e.1 ∈ buyList))).map
        (fun e => quantizeWeight
          (max (w ((solverTradeableIds eligibleTargets buyList).idxOf e.1)) 0))) := by
    have hfilter : (solverTradeableIds eligibleTargets buyList).filter p =
        (eligibleTargets.items.filter (fun e => p e.1 && decide (e.1 ∈ buyList))).map Prod.fst := by
      show ((eligibleTargets.items.map Prod.fst).filter _).filter p = _
      rw [List.filter_filter, List.filter_map]
      rfl
    rw [hfilter, List.map_map]
    rfl
  rw [roundedTargets_eq, weightOf_mapWithKey, hselected, sum_map_filter, weightOf_eq_sum,
    ← List.sum_map_add]
  refine congrArg List.sum (List.map_congr_left fun e he => ?_)
  have htradeable : e.1 ∈ solverTradeableIds eligibleTargets buyList ↔ e.1 ∈ buyList := by
    rw [mem_solverTradeableIds]
    exact and_iff_right (List.mem_map_of_mem he)
  cases hp : p e.1 with
  | false => simp
  | true =>
    by_cases hbuy : e.1 ∈ buyList
    · simp [htradeable, hbuy]
    · simp [htradeable, hbuy]

theorem map_idxOf {ids : List String} (h : ids.Nodup) :
    ids.map (fun id => w (ids.idxOf id)) = (List.range ids.length).map w := by
  refine List.ext_getElem (by simp) ?_
  intro i hi hi'
  rw [List.getElem_map, List.getElem_map, List.getElem_range]
  rw [List.length_map] at hi
  rw [h.idxOf_getElem i hi]

theorem abs_sum_rounded_sub_le {ids : List String}
    (hnonneg : ∀ id ∈ ids, 0 ≤ w ((solverTradeableIds eligibleTargets buyList).idxOf id)) :
    |(ids.map (fun id => quantizeWeight
        (max (w ((solverTradeableIds eligibleTargets buyList).idxOf id)) 0))).sum -
      (ids.map (fun id => w ((solverTradeableIds eligibleTargets buyList).idxOf id))).sum| ≤
      ids.length / 20000 := by
  have hmap : ids.map (fun id => quantizeWeight
      (max (w ((solverTradeableIds eligibleTargets buyList).idxOf id)) 0)) =
      (ids.map (fun id => w ((solverTradeableIds eligibleTargets buyList).idxOf id))).map
        quantizeWeight := by
    rw [List.map_map]
    refine List.map_congr_left fun id hid => ?_
    rw [max_eq_left (hnonneg id hid)]
    rfl
  rw [hmap]
  refine (abs_sum_quantizeWeight_sub_le _).trans ?_
  rw [List.length_map]

end Sums

/-! ## The constraints after rounding -/

/-- The rounded targets keep the locked weights, are not negative, and are off the constraints of the
options by at most half of the last place for every tradeable instrument that a constraint adds up. -/
structure NearlyFeasible (eligibleTargets : Dict String Decimal) (buyList : List String)
    (shelf : List ShelfEntry) (options : EngineOptions) (rounded : Dict String Decimal) : Prop where
  locked : ∀ id ∉ solverTradeableIds eligibleTargets buyList,
    rounded.get? id = eligibleTargets.get? id
  nonneg : ∀ id ∈ solverTradeableIds eligibleTargets buyList, 0 ≤ rounded.getD id 0
  minimum : 1 - options.cashBandMaxWeight -
    (solverTradeableIds eligibleTargets buyList).length / 20000 ≤ rounded.values.sum
  maximum : rounded.values.sum ≤
    1 - max options.cashBandMinWeight (effectiveCashReserveFloor options) +
      (solverTradeableIds eligibleTargets buyList).length / 20000
  cap : ∀ cap, options.singlePositionMaxWeight = some cap →
    ∀ id ∈ solverTradeableIds eligibleTargets buyList, rounded.getD id 0 ≤ cap + 1 / 20000
  groups : ∀ constraintKey attrKey attrVal constraint,
    splitConstraintKey constraintKey = some (attrKey, attrVal) →
    options.groupConstraints.get? constraintKey = some constraint →
    weightOf rounded (isGroupMember (shelfAttrsById shelf) attrKey attrVal) ≤ constraint.maxWeight +
      (solverGroupMembers attrKey attrVal eligibleTargets (shelfAttrsById shelf)
        (solverTradeableIds eligibleTargets buyList)).1.length / 20000

theorem values_sum_eq_weightOf (targets : Dict String Decimal) :
    targets.values.sum = weightOf targets (fun _ => true) := by
  rw [weightOf_eq_sum]
  rfl

/-- Weights that satisfy the problem leave, after rounding, targets that nearly satisfy it. -/
theorem rounded_targets_feasible (model : ModelPortfolio) (eligibleTargets : Dict String Decimal)
    (buyList : List String) (shelf : List ShelfEntry) (options : EngineOptions)
    (diagnostics diagnostics' : DiagnosticsData) (problem : SolverProblem)
    (h : buildSolverProblem model (solverTradeableIds eligibleTargets buyList)
      (solverLockedWeight eligibleTargets buyList) eligibleTargets shelf options diagnostics =
        .ok (problem, diagnostics')) (w : Nat → Decimal) (hfeasible : problem.Feasible w) :
    NearlyFeasible eligibleTargets buyList shelf options
      (applySolverValues w (solverTradeableIds eligibleTargets buyList) eligibleTargets) := by
  obtain ⟨hlength, hminimum, hmaximum, hcap, hgroups⟩ := buildSolverProblem_ok h
  show NearlyFeasible _ _ _ _ (roundedTargets eligibleTargets buyList w)
  have hindex : ∀ id ∈ solverTradeableIds eligibleTargets buyList,
      (solverTradeableIds eligibleTargets buyList).idxOf id < problem.modelWeights.length := by
    intro id hid
    rw [hlength]
    exact List.idxOf_lt_length_iff.mpr hid
  have hnonneg : ∀ id ∈ solverTradeableIds eligibleTargets buyList,
      0 ≤ w ((solverTradeableIds eligibleTargets buyList).idxOf id) :=
    fun id hid => hfeasible.nonneg _ (hindex id hid)
  have hget : ∀ id ∈ solverTradeableIds eligibleTargets buyList,
      (roundedTargets eligibleTargets buyList w).getD id 0 =
        quantizeWeight (w ((solverTradeableIds eligibleTargets buyList).idxOf id)) := by
    intro id hid
    obtain ⟨weight, hweight⟩ := (Dict.mem_keys_iff _ _).mp (mem_solverTradeableIds.mp hid).1
    rw [roundedTargets_eq, Dict.getD, Dict.get?_mapWithKey, hweight, Option.map_some,
      Option.getD_some, if_pos hid, max_eq_left (hnonneg id hid)]
  have htotal : (roundedTargets eligibleTargets buyList w).values.sum =
      ((solverTradeableIds eligibleTargets buyList).map (fun id => quantizeWeight
        (max (w ((solverTradeableIds eligibleTargets buyList).idxOf id)) 0))).sum +
      solverLockedWeight eligibleTargets buyList := by
    rw [values_sum_eq_weightOf, weightOf_roundedTargets, List.filter_true]
    refine congrArg (_ + ·) ?_
    unfold solverLockedWeight
    rw [weightOf_eq_sum, weightOf_eq_sum]
    refine congrArg List.sum (List.map_congr_left fun e he => ?_)
    have hkey : e.1 ∈ eligibleTargets.keys := List.mem_map_of_mem he
    simp [mem_solverTradeableIds, hkey]
  have hinvested : problem.invested w = ((solverTradeableIds eligibleTargets buyList).map
      (fun id => w ((solverTradeableIds eligibleTargets buyList).idxOf id))).sum := by
    rw [map_idxOf w nodup_solverTradeableIds, SolverProblem.invested, hlength]
  have herror := abs_le.mp (abs_sum_rounded_sub_le w hnonneg)
  refine ⟨?_, ?_, ?_, ?_, ?_, ?_⟩
  · intro id hid
    rw [roundedTargets_eq, Dict.get?_mapWithKey]
    cases eligibleTargets.get? id with
    | none => rfl
    | some weight => rw [Option.map_some, if_neg hid]
  · intro id hid
    rw [hget id hid]
    exact quantizeWeight_nonneg (hnonneg id hid)
  · have hlow := hfeasible.minimum
    rw [hminimum, hinvested] at hlow
    rw [htotal]
    linarith [herror.1]
  · have hhigh := hfeasible.maximum
    rw [hmaximum, hinvested] at hhigh
    rw [htotal]
    linarith [herror.2]
  · intro cap hsingle id hid
    have hle := hfeasible.cap cap (hcap.trans hsingle) _ (hindex id hid)
    have hmoved := (abs_le.mp (abs_quantizeWeight_sub_le
      (w ((solverTradeableIds eligibleTargets buyList).idxOf id)))).2
    rw [hget id hid]
    linarith
  · intro constraintKey attrKey attrVal constraint hsplit hconstraint
    obtain ⟨members, locked, hmembers, hlocked⟩ : ∃ members locked,
        (solverGroupMembers attrKey attrVal eligibleTargets (shelfAttrsById shelf)
          (solverTradeableIds eligibleTargets buyList)).1 = members ∧
        (solverGroupMembers attrKey attrVal eligibleTargets (shelfAttrsById shelf)
          (solverTradeableIds eligibleTargets buyList)).2 = locked := ⟨_, _, rfl, rfl⟩
    have hfilter : (solverTradeableIds eligibleTargets buyList).filter
        (isGroupMember (shelfAttrsById shelf) attrKey attrVal) = members := by
      rw [← hmembers]
      exact filter_solverTradeableIds
    have hmember : ∀ id ∈ members, id ∈ solverTradeableIds eligibleTargets buyList := by
      intro id hid
      rw [← hfilter] at hid
      exact (List.mem_filter.mp hid).1
    have herror := abs_le.mp (abs_sum_rounded_sub_le w (fun id hid => hnonneg id (hmember id hid)))
    have hother : weightOf eligibleTargets (fun id =>
        isGroupMember (shelfAttrsById shelf) attrKey attrVal id ∧
          id ∉ solverTradeableIds eligibleTargets buyList) = locked := hlocked
    rw [weightOf_roundedTargets, hfilter, hother, hmembers]
    have hbound : (members.map (fun id =>
        w ((solverTradeableIds eligibleTargets buyList).idxOf id))).sum + locked ≤
          constraint.maxWeight := by
      rcases solverGroupBound_cases hsplit hconstraint with hbuilt | hempty
      · have hmem : (⟨members.map (fun id =>
            (solverTradeableIds eligibleTargets buyList).idxOf id), locked,
            constraint.maxWeight⟩ : SolverGroupBound) ∈ problem.groupBounds := by
          rw [hgroups, ← hmembers, ← hlocked]
          exact List.mem_filterMap.mpr ⟨constraintKey, mem_sortedTexts.mpr
            ((Dict.mem_keys_iff _ _).mpr ⟨constraint, hconstraint⟩), hbuilt⟩
        have hle := hfeasible.groups _ hmem
        rw [List.map_map] at hle
        exact hle
      · rw [hempty] at hmembers hlocked
        rw [← hmembers, ← hlocked, List.map_nil, List.sum_nil, add_zero]
        exact constraint.maxWeightNonneg
    linarith [herror.2]

/-! ## Ten small roundings -/

def roundingIds : List String :=
  ["EQ_0", "EQ_1", "EQ_2", "EQ_3", "EQ_4", "EQ_5", "EQ_6", "EQ_7", "EQ_8", "EQ_9"]

def roundingTargets : Dict String Decimal := Dict.ofEntries (roundingIds.map (fun id => (id, 1 / 10)))

def roundingModel : ModelPortfolio := ⟨roundingIds.map (fun id => ⟨id, 1 / 10⟩)⟩

/-- At least 0.04 per cent of cash. -/
def roundingOptions : EngineOptions := { cashBandMinWeight := 4 / 10000 }

def roundingProblem : SolverProblem where
  modelWeights := (solverTradeableIds roundingTargets roundingIds).map (fun id =>
    (Dict.ofEntries (roundingModel.targets.map (fun t => (t.instrumentId, t.weight)))).getD id 0)
  minimum := 1 - roundingOptions.cashBandMaxWeight - solverLockedWeight roundingTargets roundingIds
  maximum := 1 - max roundingOptions.cashBandMinWeight (effectiveCashReserveFloor roundingOptions) -
    solverLockedWeight roundingTargets roundingIds
  singlePositionMaxWeight := none
  groupBounds := []

def roundingValues : Nat → Decimal := fun _ => 9996 / 100000

theorem roundingValues_feasible : roundingProblem.Feasible roundingValues := by
  refine ⟨?_, by decide +kernel, by decide +kernel, ?_, ?_⟩
  · intro i _
    show (0 : ℚ) ≤ 9996 / 100000
    norm_num
  · rintro cap ⟨⟩
  · intro bound hbound
    cases hbound

theorem rounded_targets_feasible_ten :
    NearlyFeasible roundingTargets roundingIds [] roundingOptions
      (applySolverValues roundingValues (solverTradeableIds roundingTargets roundingIds)
        roundingTargets) :=
  rounded_targets_feasible roundingModel roundingTargets roundingIds [] roundingOptions {} {}
    roundingProblem rfl roundingValues roundingValues_feasible

/-- Ten weights of 0.09996 leave the least cash; rounded, they leave none. -/
theorem rounded_total_exceeds :
    ¬ ∀ (model : ModelPortfolio) (eligibleTargets : Dict String Decimal) (buyList : List String)
      (shelf : List ShelfEntry) (options : EngineOptions)
      (diagnostics diagnostics' : DiagnosticsData) (problem : SolverProblem),
      buildSolverProblem model (solverTradeableIds eligibleTargets buyList)
        (solverLockedWeight eligibleTargets buyList) eligibleTargets shelf options diagnostics =
          .ok (problem, diagnostics') →
      ∀ w, problem.Feasible w →
        (applySolverValues w (solverTradeableIds eligibleTargets buyList)
          eligibleTargets).values.sum ≤
          1 - max options.cashBandMinWeight (effectiveCashReserveFloor options) + 1 / 10000 := by
  intro hclaim
  have hle := hclaim roundingModel roundingTargets roundingIds [] roundingOptions {} {}
    roundingProblem rfl roundingValues roundingValues_feasible
  revert hle
  decide +kernel

end LotusManage.Engine
