import LotusManage.Engine.DecimalArithmetic
import LotusManage.Engine.SinglePosition
import Mathlib.Algebra.BigOperators.Ring.List

/-!
# The bounds of heuristic targets

Each control of the heuristic method keeps what the earlier ones established.
No weight becomes negative, unless the single-position cap is.  After the second
scaling the whole weight fits into what the locked weights and the reserve floor
leave.

A weight is locked when its instrument may not be bought.  The bound of the whole
weight is carried through the position cap as `WithinOne`: the whole is at most
the tolerance of the first scaling, or nothing but the locked weight is left.
-/

namespace LotusManage.Engine

/-! ## The two weights of a map -/

/-- The weight of the instruments that may be bought. -/
def buyableWeight (targets : Dict String Decimal) (buyList : List String) : Decimal :=
  weightOf targets fun id => id ∈ buyList

/-- The weight of the instruments that may not be bought. -/
def lockedWeight (targets : Dict String Decimal) (buyList : List String) : Decimal :=
  weightOf targets fun id => id ∉ buyList

section Weights

variable (targets : Dict String Decimal) (buyList : List String)

theorem sum_eq_buyable_add_locked :
    targets.values.sum = buyableWeight targets buyList + lockedWeight targets buyList := by
  rw [← weightOf_add_weightOf_not targets fun id => id ∈ buyList]
  simp [buyableWeight, lockedWeight]

theorem tradeableWeight_eq :
    (targetWeightPosture targets buyList).tradeableWeight = buyableWeight targets buyList := by
  change targets.values.sum - lockedWeight targets buyList = _
  rw [sum_eq_buyable_add_locked targets buyList, add_sub_cancel_right]

theorem availableTradeableWeight_eq :
    (targetWeightPosture targets buyList).availableTradeableWeight =
      max 0 (1 - lockedWeight targets buyList) := rfl

variable {targets buyList}

theorem buyableWeight_eq_zero (h : ∀ entry ∈ targets.items, entry.1 ∈ buyList → entry.2 = 0) :
    buyableWeight targets buyList = 0 := by
  refine List.sum_eq_zero fun weight hmem => ?_
  obtain ⟨entry, hentry, rfl⟩ := List.mem_map.mp hmem
  obtain ⟨hitem, hbuy⟩ := List.mem_filter.mp hentry
  exact h entry hitem (of_decide_eq_true hbuy)

theorem zero_of_buyableWeight_nonpos (hnonneg : NonnegWeights targets)
    (h : buyableWeight targets buyList ≤ 0) :
    ∀ entry ∈ targets.items, entry.1 ∈ buyList → entry.2 = 0 := by
  intro entry hentry hbuy
  refine le_antisymm (le_trans ?_ h) (hnonneg entry hentry)
  refine List.single_le_sum ?_ _ (List.mem_map_of_mem (List.mem_filter.mpr ⟨hentry, by simpa⟩))
  intro weight hweight
  obtain ⟨other, hother, rfl⟩ := List.mem_map.mp hweight
  exact hnonneg other (List.mem_filter.mp hother).1

end Weights

/-! ## Raising and scaling what may be bought -/

variable {targets : Dict String Decimal}

theorem nonneg_redistributeSellOnlyExcess (h : NonnegWeights targets) (buyList : List String)
    (sellOnlyExcess : Decimal) :
    NonnegWeights (redistributeSellOnlyExcess targets buyList sellOnlyExcess).1 := by
  unfold redistributeSellOnlyExcess
  split
  · exact h
  · rename_i hexcess
    dsimp only
    split
    · exact h
    · rename_i htotal
      refine NonnegWeights.mapWithKey fun entry hentry => ?_
      have hweight := h entry hentry
      split
      · exact add_nonneg hweight (mul_nonneg (not_le.mp hexcess).le
          (div_nonneg hweight (not_le.mp htotal).le))
      · exact hweight

theorem scaleTradeableTargets_cases (targets : Dict String Decimal) (buyList : List String)
    (tradeable : Decimal) {allowed : Decimal} (hallowed : 0 ≤ allowed) :
    ((tradeable ≤ allowed ∨ tradeable ≤ 0) ∧
      (scaleTradeableTargets targets buyList tradeable allowed).1 = targets) ∨
    ∃ scale, 0 ≤ scale ∧ scale ≤ 1 ∧ scale * tradeable = allowed ∧ allowed < tradeable ∧
      (scaleTradeableTargets targets buyList tradeable allowed).1 =
        targets.mapWithKey fun id weight => if id ∈ buyList then weight * scale else weight := by
  unfold scaleTradeableTargets
  by_cases hskip : tradeable ≤ allowed ∨ tradeable ≤ 0
  · exact Or.inl ⟨hskip, by rw [if_pos hskip]⟩
  · rw [not_or, not_le, not_le] at hskip
    refine Or.inr ⟨allowed / tradeable, div_nonneg hallowed hskip.2.le,
      div_le_one_of_le₀ hskip.1.le hskip.2.le, div_mul_cancel₀ _ hskip.2.ne', hskip.1, ?_⟩
    rw [if_neg (not_or.mpr ⟨not_le.mpr hskip.1, not_le.mpr hskip.2⟩)]

section Scaling

variable {targets : Dict String Decimal} {buyList : List String} {scale : Decimal}

theorem buyableWeight_scaled (targets : Dict String Decimal) (buyList : List String)
    (scale : Decimal) :
    buyableWeight (targets.mapWithKey fun id weight =>
      if id ∈ buyList then weight * scale else weight) buyList =
        scale * buyableWeight targets buyList := by
  rw [buyableWeight, buyableWeight, weightOf_mapWithKey, weightOf_eq_sum, ← List.sum_map_mul_left]
  refine congrArg List.sum (List.map_congr_left fun entry _ => ?_)
  by_cases hbuy : entry.1 ∈ buyList
  · simp only [hbuy, decide_true, if_true]
    exact mul_comm _ _
  · simp [hbuy]

theorem lockedWeight_scaled (targets : Dict String Decimal) (buyList : List String)
    (scale : Decimal) :
    lockedWeight (targets.mapWithKey fun id weight =>
      if id ∈ buyList then weight * scale else weight) buyList = lockedWeight targets buyList := by
  refine weightOf_mapWithKey_congr fun entry _ hlocked => ?_
  exact if_neg (of_decide_eq_true hlocked)

theorem nonneg_scaled (h : NonnegWeights targets) (hscale : 0 ≤ scale) :
    NonnegWeights (targets.mapWithKey fun id weight =>
      if id ∈ buyList then weight * scale else weight) := by
  refine NonnegWeights.mapWithKey fun entry hentry => ?_
  split
  · exact mul_nonneg (h entry hentry) hscale
  · exact h entry hentry

theorem weightOf_scaled_le (h : NonnegWeights targets) (hscale : scale ≤ 1) (p : String → Bool) :
    weightOf (targets.mapWithKey fun id weight =>
      if id ∈ buyList then weight * scale else weight) p ≤ weightOf targets p := by
  refine weightOf_mapWithKey_le fun entry hentry _ => ?_
  split
  · exact mul_le_of_le_one_right (h entry hentry) hscale
  · exact le_refl _

end Scaling

/-! ## Group constraints -/

theorem nonneg_capGroupConstraintMembers (h : NonnegWeights targets) (isMember : String → Bool)
    {maxWeight : Decimal} (hmax : 0 ≤ maxWeight) :
    NonnegWeights (capGroupConstraintMembers targets isMember (weightOf targets isMember)
      maxWeight) := by
  refine NonnegWeights.mapWithKey fun entry hentry => ?_
  split
  · exact mul_nonneg (h entry hentry) (div_nonneg hmax (weightOf_nonneg h _))
  · exact h entry hentry

theorem nonneg_applyGroupConstraint (buyList : List String)
    (shelfAttrs : Dict String (Dict String String)) (constraintKey : String) {maxWeight : Decimal}
    (hmax : 0 ≤ maxWeight) (h : NonnegWeights targets) (diagnostics : DiagnosticsData) :
    NonnegWeights (applyGroupConstraint buyList shelfAttrs constraintKey maxWeight targets
      diagnostics).eligibleTargets := by
  unfold applyGroupConstraint
  split
  · exact h
  · rename_i attrKey attrVal _
    dsimp only
    split
    · exact h
    · split
      · exact h
      · rename_i hover
        have hexcess : 0 ≤ weightOf targets (isGroupMember shelfAttrs attrKey attrVal) -
            maxWeight := by linarith [not_le.mp hover]
        have hcapped :=
          nonneg_capGroupConstraintMembers h (isGroupMember shelfAttrs attrKey attrVal) hmax
        unfold redistributeGroupConstraintExcess
        dsimp only
        split
        · exact hcapped
        · rename_i htotal
          refine NonnegWeights.mapWithKey fun entry hentry => ?_
          have hweight := hcapped entry hentry
          split
          · exact add_nonneg hweight (mul_nonneg hexcess
              (div_nonneg hweight (not_le.mp htotal).le))
          · exact hweight

theorem nonneg_applyGroupConstraintsLoop (buyList : List String)
    (shelfAttrs : Dict String (Dict String String))
    (groupConstraints : Dict String GroupConstraint) :
    ∀ (constraintKeys : List String) {targets : Dict String Decimal}
      (diagnostics : DiagnosticsData), NonnegWeights targets →
      NonnegWeights (applyGroupConstraintsLoop buyList shelfAttrs groupConstraints constraintKeys
        targets diagnostics).eligibleTargets
  | [], targets, diagnostics, h => h
  | constraintKey :: constraintKeys, targets, diagnostics, h => by
    rw [applyGroupConstraintsLoop]
    split
    · exact nonneg_applyGroupConstraintsLoop buyList shelfAttrs groupConstraints constraintKeys _ h
    · rename_i constraint _
      have hstep := nonneg_applyGroupConstraint buyList shelfAttrs constraintKey
        constraint.maxWeightNonneg h diagnostics
      dsimp only
      split
      · exact hstep
      · exact nonneg_applyGroupConstraintsLoop buyList shelfAttrs groupConstraints constraintKeys _
          hstep

/-! ## The whole weight -/

/-- The whole weight is within the tolerance of the first scaling, or no buyable weight
is left. -/
def WithinOne (targets : Dict String Decimal) (buyList : List String) : Prop :=
  targets.values.sum ≤ 10001 / 10000 ∨ buyableWeight targets buyList = 0

theorem capTradeableTargets_spec (h : NonnegWeights targets) (buyList : List String) :
    NonnegWeights (capTradeableTargetsToAvailableWeight targets buyList).1 ∧
      WithinOne (capTradeableTargetsToAvailableWeight targets buyList).1 buyList ∧
      ∀ p, weightOf (capTradeableTargetsToAvailableWeight targets buyList).1 p ≤
        weightOf targets p := by
  have hsum := sum_eq_buyable_add_locked targets buyList
  unfold capTradeableTargetsToAvailableWeight
  dsimp only
  split
  · rename_i hwithin
    exact ⟨h, Or.inl hwithin, fun p => le_refl _⟩
  · rename_i hover
    have hmore : (1 : Decimal) < targets.values.sum :=
      lt_trans (by norm_num) (not_le.mp hover)
    rw [tradeableWeight_eq, availableTradeableWeight_eq]
    dsimp only
    rcases scaleTradeableTargets_cases targets buyList (buyableWeight targets buyList)
      (le_max_left 0 (1 - lockedWeight targets buyList)) with ⟨hskip, hsame⟩ | ⟨scale, h0, h1,
        hallowed, _, hscaled⟩
    · -- the buyable weights are not scaled although the whole is too large: there are none
      rw [hsame]
      refine ⟨h, Or.inr (le_antisymm ?_ (weightOf_nonneg h _)), fun p => le_refl _⟩
      rcases hskip with hfits | hnone
      · rcases le_total (1 - lockedWeight targets buyList) 0 with hfull | hfree
        · rwa [max_eq_left hfull] at hfits
        · rw [max_eq_right hfree] at hfits
          linarith
      · exact hnone
    · rw [hscaled]
      refine ⟨nonneg_scaled h h0, ?_, fun p => weightOf_scaled_le h h1 p⟩
      have hafter := sum_eq_buyable_add_locked (targets.mapWithKey fun id weight =>
        if id ∈ buyList then weight * scale else weight) buyList
      rw [buyableWeight_scaled, lockedWeight_scaled, hallowed] at hafter
      rcases le_total (1 - lockedWeight targets buyList) 0 with hfull | hfree
      · right
        rw [buyableWeight_scaled, hallowed, max_eq_left hfull]
      · left
        rw [max_eq_right hfree] at hafter
        rw [hafter]
        norm_num

/-! ## The single-position cap -/

theorem values_sum_mapWithKey (targets : Dict String Decimal) (f : String → Decimal → Decimal) :
    (targets.mapWithKey f).values.sum = (targets.items.map fun e => f e.1 e.2).sum := by
  change ((targets.items.map fun e => (e.1, f e.1 e.2)).map Prod.snd).sum = _
  rw [List.map_map]
  rfl

theorem sum_capSinglePositionTargets (targets : Dict String Decimal) (maxWeight : Decimal) :
    (capSinglePositionTargets targets maxWeight).1.values.sum +
      singlePositionExcess targets maxWeight = targets.values.sum := by
  rw [singlePositionExcess, capSinglePositionTargets, values_sum_mapWithKey, Dict.values,
    List.map_map, ← List.sum_map_add]
  refine congrArg List.sum (List.map_congr_left fun entry _ => ?_)
  change min entry.2 maxWeight + max 0 (entry.2 - maxWeight) = entry.2
  rcases le_total entry.2 maxWeight with h | h
  · rw [min_eq_left h, max_eq_left (sub_nonpos.mpr h), add_zero]
  · rw [min_eq_right h, max_eq_right (sub_nonneg.mpr h), add_sub_cancel]

theorem sum_shareOf (targets : Dict String Decimal) :
    ∀ {shares : List (String × Decimal)}, (shares.map Prod.fst).Nodup →
      (∀ id ∈ shares.map Prod.fst, id ∈ targets.keys) →
      (targets.items.map fun e => shareOf shares e.1).sum = (shares.map Prod.snd).sum
  | [], _, _ => List.sum_eq_zero fun term hterm => by
    obtain ⟨entry, _, rfl⟩ := List.mem_map.mp hterm
    rfl
  | (id, share) :: shares, hnodup, hkeys => by
    rw [List.map_cons, List.nodup_cons] at hnodup
    have ih := sum_shareOf targets hnodup.2 fun other hother =>
      hkeys other (List.mem_cons_of_mem _ hother)
    obtain ⟨entry, hentry, hid⟩ := List.mem_map.mp (hkeys id List.mem_cons_self)
    rw [List.map_cons, List.sum_cons, ← ih]
    have hone : (targets.items.map fun e => if e.1 = id then share else 0).sum = share := by
      rw [sum_map_of_only (targets.nodup.of_map Prod.fst) hentry, if_pos hid]
      intro other hother hne
      refine if_neg fun heq => hne ?_
      exact List.inj_on_of_nodup_map targets.nodup hother hentry (heq.trans hid.symm)
    conv_rhs => rw [← hone]
    rw [← List.sum_map_add]
    refine congrArg List.sum (List.map_congr_left fun other _ => ?_)
    rw [shareOf_cons]
    split
    · rename_i heq
      rw [heq, shareOf_of_not_mem hnodup.1, add_zero]
    · rw [zero_add]

theorem sum_addShares {shares : List (String × Decimal)} (hnodup : (shares.map Prod.fst).Nodup)
    (hkeys : ∀ id ∈ shares.map Prod.fst, id ∈ targets.keys) :
    (addShares targets shares).values.sum = targets.values.sum + (shares.map Prod.snd).sum := by
  rw [addShares, values_sum_mapWithKey, List.sum_map_add, sum_shareOf targets hnodup hkeys]
  rfl

section Single

variable {targets : Dict String Decimal} {buyList : List String} {maxWeight : Decimal}

theorem placedShares_keys (id : String)
    (h : id ∈ (placedShares targets buyList maxWeight).map Prod.fst) :
    ∃ c ∈ singlePositionCandidates targets buyList maxWeight, c.1 = id := by
  unfold placedShares at h
  split at h
  · exact absurd h List.not_mem_nil
  · rw [keys_singlePositionShares] at h
    exact List.mem_map.mp h

theorem nodup_placedShares : ((placedShares targets buyList maxWeight).map Prod.fst).Nodup := by
  unfold placedShares
  split
  · exact List.nodup_nil
  · rw [keys_singlePositionShares]
    exact nodup_singlePositionCandidates targets buyList maxWeight

/-- What the stage hands to an instrument: nothing unless it is a candidate with a weight,
and never more than its room. -/
theorem placedShare_bounds (h : NonnegWeights targets) {entry : String × Decimal}
    (hentry : entry ∈ targets.items) :
    0 ≤ shareOf (placedShares targets buyList maxWeight) entry.1 ∧
      shareOf (placedShares targets buyList maxWeight) entry.1 ≤ maxWeight - min entry.2 maxWeight ∧
      (shareOf (placedShares targets buyList maxWeight) entry.1 ≠ 0 →
        entry ∈ weighted (singlePositionCandidates targets buyList maxWeight)) := by
  have hroom : 0 ≤ maxWeight - min entry.2 maxWeight := sub_nonneg.mpr (min_le_right _ _)
  by_cases hid : entry.1 ∈ (placedShares targets buyList maxWeight).map Prod.fst
  · obtain ⟨c, hc, hsame⟩ := placedShares_keys _ hid
    have hcandidate : c = entry :=
      List.inj_on_of_nodup_map targets.nodup (List.mem_filter.mp hc).1 hentry hsame
    subst hcandidate
    have hweights : CandidateWeights maxWeight (candidateTotal targets buyList maxWeight)
        (singlePositionCandidates targets buyList maxWeight) := candidateWeights h
    unfold placedShares at hid ⊢
    split at hid
    · exact absurd hid List.not_mem_nil
    · rename_i hplaced
      rw [if_neg hplaced]
      obtain ⟨h0, hle, hzero⟩ := shareOf_singlePositionShares maxWeight _ hweights
        (nodup_singlePositionCandidates targets buyList maxWeight)
        (singlePositionExcess_nonneg targets maxWeight) c hc
      refine ⟨h0, ?_, fun hne => mem_weighted.mpr ⟨hc, ?_⟩⟩
      · rw [min_eq_left (hweights c hc).2.1.le]
        exact hle
      · exact lt_of_le_of_ne (hweights c hc).1 fun heq => hne (hzero heq.symm)
  · rw [shareOf_of_not_mem hid]
    exact ⟨le_refl _, hroom, fun hne => absurd rfl hne⟩

theorem sum_placedShares_le (h : NonnegWeights targets) :
    ((placedShares targets buyList maxWeight).map Prod.snd).sum ≤
      singlePositionExcess targets maxWeight := by
  unfold placedShares
  split
  · exact singlePositionExcess_nonneg targets maxWeight
  · exact sum_singlePositionShares_le maxWeight _ (candidateWeights h)
      (singlePositionExcess_nonneg targets maxWeight)

variable (buyList maxWeight) in
/-- The position cap does not raise the total weight. -/
theorem sum_applySinglePositionMaxWeight_le (h : NonnegWeights targets) :
    (applySinglePositionMaxWeight targets buyList maxWeight).1.values.sum ≤ targets.values.sum := by
  have hsum : ((placedShares targets buyList maxWeight).map Prod.snd).sum ≤
    singlePositionExcess targets maxWeight := sum_placedShares_le h
  have hparts := sum_capSinglePositionTargets targets maxWeight
  rw [applySinglePositionMaxWeight_eq, sum_addShares nodup_placedShares]
  · linarith
  · intro id hid
    obtain ⟨c, hc, rfl⟩ := placedShares_keys id hid
    rw [capSinglePositionTargets, Dict.keys_mapWithKey]
    exact List.mem_map_of_mem (List.mem_filter.mp hc).1

variable (maxWeight) in
/-- The position cap: the whole does not grow, no weight passes the cap, and for a cap that
is not negative no weight becomes negative. -/
theorem applySinglePositionMaxWeight_spec (h : NonnegWeights targets)
    (hwithin : WithinOne targets buyList) :
    let capped := (applySinglePositionMaxWeight targets buyList maxWeight).1
    (∀ entry ∈ capped.items, entry.2 ≤ maxWeight) ∧
      (0 ≤ maxWeight → NonnegWeights capped) ∧ WithinOne capped buyList := by
  dsimp only
  rw [applySinglePositionMaxWeight_eq]
  have hitems : (addShares (capSinglePositionTargets targets maxWeight).1
      (placedShares targets buyList maxWeight)).items = targets.items.map fun e =>
        (e.1, min e.2 maxWeight + shareOf (placedShares targets buyList maxWeight) e.1) := by
    change ((targets.items.map fun e => (e.1, min e.2 maxWeight)).map _) = _
    rw [List.map_map]
    rfl
  refine ⟨?_, ?_, ?_⟩
  · intro entry hmem
    rw [hitems] at hmem
    obtain ⟨before, hbefore, rfl⟩ := List.mem_map.mp hmem
    have hroom : shareOf (placedShares targets buyList maxWeight) before.1 ≤
        maxWeight - min before.2 maxWeight := (placedShare_bounds h hbefore).2.1
    exact le_sub_iff_add_le'.mp hroom
  · intro hmax entry hmem
    rw [hitems] at hmem
    obtain ⟨before, hbefore, rfl⟩ := List.mem_map.mp hmem
    exact add_nonneg (le_min (h before hbefore) hmax) (placedShare_bounds h hbefore).1
  · rcases lt_or_ge maxWeight 0 with hneg | hmax
    · -- a negative cap takes every weight down to itself
      left
      have hnonpos : (addShares (capSinglePositionTargets targets maxWeight).1
          (placedShares targets buyList maxWeight)).values.sum ≤
          (targets.items.map fun _ => (0 : Decimal)).sum := by
        rw [Dict.values, hitems, List.map_map]
        refine List.sum_le_sum fun before hbefore => ?_
        have hroom : shareOf (placedShares targets buyList maxWeight) before.1 ≤
          maxWeight - min before.2 maxWeight := (placedShare_bounds h hbefore).2.1
        exact (le_sub_iff_add_le'.mp hroom).trans hneg.le
      rw [List.sum_map_zero] at hnonpos
      exact hnonpos.trans (by norm_num)
    · rcases hwithin with hwhole | hnone
      · left
        have htotal := sum_applySinglePositionMaxWeight_le buyList maxWeight h
        rw [applySinglePositionMaxWeight_eq] at htotal
        exact htotal.trans hwhole
      · -- no buyable weight is left, so there is nobody to receive the excess
        right
        have hzero := zero_of_buyableWeight_nonpos h hnone.le
        refine buyableWeight_eq_zero fun entry hmem hbuy => ?_
        rw [hitems] at hmem
        obtain ⟨before, hbefore, rfl⟩ := List.mem_map.mp hmem
        have hweight := hzero before hbefore hbuy
        have hshare : shareOf (placedShares targets buyList maxWeight) before.1 = 0 := by
          by_contra hne
          have hpos := (mem_weighted.mp ((placedShare_bounds h hbefore).2.2 hne)).2
          exact absurd hweight hpos.ne'
        dsimp only
        rw [hweight, hshare, min_eq_left hmax, add_zero]

end Single

/-! ## The reserve floor -/

/-- The second scaling: the whole weight fits into what the locked weight and the floor
leave. -/
theorem applyMinCashBuffer_sum {buyList : List String} {floor : Decimal} (hfloor : 0 < floor)
    (statusWhenScaled : RunStatus) :
    let buffered := (applyMinCashBuffer targets buyList floor statusWhenScaled).1
    buffered.values.sum ≤ max (lockedWeight buffered buyList) (1 - floor) := by
  have hsum := sum_eq_buyable_add_locked targets buyList
  -- what the scaling allows, beside the locked weight, is within the bound
  have hallowed : max 0 (max 0 (1 - lockedWeight targets buyList) - floor) +
      lockedWeight targets buyList ≤ max (lockedWeight targets buyList) (1 - floor) := by
    rcases le_total 0 (max 0 (1 - lockedWeight targets buyList) - floor) with hrest | hnone
    · rw [max_eq_right hrest]
      refine le_max_of_le_right ?_
      rcases le_total 0 (1 - lockedWeight targets buyList) with hfree | hfull
      · rw [max_eq_right hfree]
        linarith
      · rw [max_eq_left hfull] at hrest
        linarith
    · rw [max_eq_left hnone, zero_add]
      exact le_max_left _ _
  unfold applyMinCashBuffer
  rw [if_neg (not_le.mpr hfloor)]
  dsimp only
  rw [tradeableWeight_eq, availableTradeableWeight_eq]
  rcases scaleTradeableTargets_cases targets buyList (buyableWeight targets buyList)
    (le_max_left 0 (max 0 (1 - lockedWeight targets buyList) - floor)) with
      ⟨hskip, hsame⟩ | ⟨scale, _, _, hscale, _, hscaled⟩
  · rw [hsame, hsum]
    rcases hskip with hfits | hnone
    · exact le_trans (add_le_add_left hfits _) hallowed
    · exact le_max_of_le_left (by linarith)
  · rw [hscaled, sum_eq_buyable_add_locked _ buyList, buyableWeight_scaled, lockedWeight_scaled,
      hscale]
    exact hallowed

theorem applyMinCashBuffer_weights (h : NonnegWeights targets) (buyList : List String)
    (floor : Decimal) (statusWhenScaled : RunStatus) :
    let buffered := (applyMinCashBuffer targets buyList floor statusWhenScaled).1
    NonnegWeights buffered ∧
      (∀ bound, (∀ entry ∈ targets.items, entry.2 ≤ bound) →
        ∀ entry ∈ buffered.items, entry.2 ≤ bound) ∧
      ∀ p, weightOf buffered p ≤ weightOf targets p := by
  unfold applyMinCashBuffer
  split
  · exact ⟨h, fun bound hbound => hbound, fun p => le_refl _⟩
  · dsimp only
    rcases scaleTradeableTargets_cases targets buyList
      (targetWeightPosture targets buyList).tradeableWeight
      (le_max_left 0 ((targetWeightPosture targets buyList).availableTradeableWeight - floor)) with
        ⟨_, hsame⟩ | ⟨scale, h0, h1, _, _, hscaled⟩
    · rw [hsame]
      exact ⟨h, fun bound hbound => hbound, fun p => le_refl _⟩
    · rw [hscaled]
      refine ⟨nonneg_scaled h h0, ?_, fun p => weightOf_scaled_le h h1 p⟩
      intro bound hbound entry hmem
      obtain ⟨before, hbefore, rfl⟩ := List.mem_map.mp hmem
      dsimp only
      split
      · exact (mul_le_of_le_one_right (h before hbefore) h1).trans (hbound before hbefore)
      · exact hbound before hbefore

/-! ## The method -/

theorem heuristicTargetControlStatus_bounds (h : NonnegWeights targets) (buyList : List String)
    (options : EngineOptions) :
    let final := (heuristicTargetControlStatus targets buyList options).1
    ((∀ cap, options.singlePositionMaxWeight = some cap → 0 ≤ cap) → NonnegWeights final ∧
      ∀ cap, options.singlePositionMaxWeight = some cap → ∀ entry ∈ final.items, entry.2 ≤ cap) ∧
    (0 < effectiveCashReserveFloor options → final.values.sum ≤
      max (lockedWeight final buyList) (1 - effectiveCashReserveFloor options)) ∧
    (effectiveCashReserveFloor options ≤ 0 →
      final.values.sum ≤ max (lockedWeight final buyList) (10001 / 10000)) := by
  obtain ⟨havailable, hwithin, _⟩ := capTradeableTargets_spec h buyList
  unfold heuristicTargetControlStatus
  dsimp only
  -- the position cap is applied or there is none
  have hsingle : ((∀ cap, options.singlePositionMaxWeight = some cap → 0 ≤ cap) →
      NonnegWeights (applySinglePositionOption
        (capTradeableTargetsToAvailableWeight targets buyList).1 buyList options).1) ∧
      (∀ cap, options.singlePositionMaxWeight = some cap →
        ∀ entry ∈ (applySinglePositionOption
          (capTradeableTargetsToAvailableWeight targets buyList).1 buyList options).1.items,
          entry.2 ≤ cap) ∧
      WithinOne (applySinglePositionOption
        (capTradeableTargetsToAvailableWeight targets buyList).1 buyList options).1 buyList := by
    unfold applySinglePositionOption
    cases options.singlePositionMaxWeight with
    | none => exact ⟨fun _ => havailable, fun cap hcap => (by cases hcap), hwithin⟩
    | some maxWeight =>
      obtain ⟨hcap, hnonneg, hone⟩ := applySinglePositionMaxWeight_spec maxWeight havailable
        hwithin
      refine ⟨fun hmax => hnonneg (hmax maxWeight rfl), ?_, hone⟩
      intro cap hsome
      cases hsome
      exact hcap
  obtain ⟨hnonneg, hcap, hone⟩ := hsingle
  refine ⟨?_, ?_, ?_⟩
  · intro hcaps
    obtain ⟨hfinal, hbounds, _⟩ := applyMinCashBuffer_weights (hnonneg hcaps) buyList
      (effectiveCashReserveFloor options) (cashBufferStatusWhenScaled options)
    exact ⟨hfinal, fun cap hsome => hbounds cap (hcap cap hsome)⟩
  · intro hfloor
    exact applyMinCashBuffer_sum hfloor _
  · intro hnone
    unfold applyMinCashBuffer
    rw [if_pos hnone]
    rcases hone with hwhole | hbuyable
    · exact le_max_of_le_right hwhole
    · rw [sum_eq_buyable_add_locked _ buyList, hbuyable, zero_add]
      exact le_max_left _ _

theorem weightOf_singleton (targets : Dict String Decimal) (id : String) :
    (targets.items.map fun e => if e.1 = id then e.2 else 0).sum = targets.getD id 0 := by
  cases hget : targets.get? id with
  | none =>
    rw [Dict.getD, hget, Option.getD_none]
    refine List.sum_eq_zero fun term hterm => ?_
    obtain ⟨entry, hentry, rfl⟩ := List.mem_map.mp hterm
    refine if_neg fun heq => ?_
    exact (Dict.get?_eq_none_iff targets id).mp hget (heq ▸ List.mem_map_of_mem hentry)
  | some weight =>
    rw [Dict.getD, hget, Option.getD_some]
    have hmem := (Dict.get?_eq_some_iff targets id weight).mp hget
    rw [sum_map_of_only (targets.nodup.of_map Prod.fst) hmem, if_pos rfl]
    intro other hother hne
    refine if_neg fun heq => hne ?_
    exact List.inj_on_of_nodup_map targets.nodup hother hmem heq

theorem sum_getD_of_nodup (targets : Dict String Decimal) :
    ∀ {ids : List String}, ids.Nodup →
      (ids.map fun id => targets.getD id 0).sum = weightOf targets fun id => id ∈ ids
  | [], _ => by simp [weightOf]
  | id :: ids, h => by
    rw [List.nodup_cons] at h
    rw [List.map_cons, List.sum_cons, sum_getD_of_nodup targets h.2, ← weightOf_singleton,
      weightOf_eq_sum, weightOf_eq_sum, ← List.sum_map_add]
    refine congrArg List.sum (List.map_congr_left fun entry _ => ?_)
    by_cases hid : entry.1 = id
    · simp [hid, h.1]
    · simp [hid]

theorem sum_buildTargetTrace {model : ModelPortfolio}
    (hmodel : (model.targets.map (·.instrumentId)).Nodup) (targets : Dict String Decimal)
    (buyList : List String) (totalVal : Decimal) (baseCcy : String) :
    ((buildTargetTrace model targets buyList totalVal baseCcy).map (·.finalWeight)).sum =
      targets.values.sum := by
  unfold buildTargetTrace
  rw [List.map_append, List.sum_append, List.map_map, List.map_map,
    ← weightOf_add_weightOf_not targets fun id => id ∈ model.targets.map (·.instrumentId),
    ← sum_getD_of_nodup targets hmodel, List.map_map]
  refine congrArg₂ (· + ·) rfl (congrArg List.sum ?_)
  simp only [decide_not]
  rfl

/-- The bounds of the heuristic targets, in exact arithmetic.  Every final weight is not negative and
at most the single-position cap, when that is not negative itself; and the final weights,
one for each instrument, sum up to no more than the locked weight or what the
reserve floor leaves of one, whichever is larger. -/
theorem heuristic_target_bounds (model : ModelPortfolio) (eligibleTargets : Dict String Decimal)
    (buyList : List String) (sellOnlyExcess : Decimal) (shelf : List ShelfEntry)
    (options : EngineOptions) (totalVal : Decimal) (baseCcy : String)
    (diagnostics : DiagnosticsData) (hnonneg : NonnegWeights eligibleTargets)
    (hstatus : (generateTargetsHeuristic model eligibleTargets buyList sellOnlyExcess shelf options
      totalVal baseCcy diagnostics).status ≠ .blocked) :
    let stage := generateTargetsHeuristic model eligibleTargets buyList sellOnlyExcess shelf options
      totalVal baseCcy diagnostics
    let final := stage.eligibleTargets
    (∀ row ∈ stage.trace, row.finalWeight = final.getD row.instrumentId 0) ∧
    ((model.targets.map (·.instrumentId)).Nodup →
      (stage.trace.map (·.finalWeight)).sum = final.values.sum) ∧
    ((∀ cap, options.singlePositionMaxWeight = some cap → 0 ≤ cap) →
      ∀ row ∈ stage.trace, 0 ≤ row.finalWeight ∧
        ∀ cap, options.singlePositionMaxWeight = some cap → row.finalWeight ≤ cap) ∧
    (0 < effectiveCashReserveFloor options → final.values.sum ≤
      max (lockedWeight final buyList) (1 - effectiveCashReserveFloor options)) ∧
    (effectiveCashReserveFloor options ≤ 0 →
      final.values.sum ≤ max (lockedWeight final buyList) (10001 / 10000)) := by
  dsimp only
  obtain ⟨htrace, _⟩ := trace_generateTargetsHeuristic model eligibleTargets buyList sellOnlyExcess
    shelf options totalVal baseCcy diagnostics hstatus
  rw [htrace]
  have hrows : ∀ row ∈ buildTargetTrace model (generateTargetsHeuristic model eligibleTargets
      buyList sellOnlyExcess shelf options totalVal baseCcy diagnostics).eligibleTargets buyList
      totalVal baseCcy, row.finalWeight = (generateTargetsHeuristic model eligibleTargets buyList
        sellOnlyExcess shelf options totalVal baseCcy diagnostics).eligibleTargets.getD
          row.instrumentId 0 := fun row hrow => finalWeight_buildTargetTrace hrow
  refine ⟨hrows, fun hmodel => sum_buildTargetTrace hmodel _ _ _ _, ?_⟩
  -- without a blocked group, the final weights are those of the controls
  have hfinal : (generateTargetsHeuristic model eligibleTargets buyList sellOnlyExcess shelf options
      totalVal baseCcy diagnostics).eligibleTargets =
      (heuristicTargetControlStatus (applyGroupConstraints
        (redistributeSellOnlyExcess eligibleTargets buyList sellOnlyExcess).1 buyList shelf options
        diagnostics).eligibleTargets buyList options).1 := by
    unfold generateTargetsHeuristic at hstatus ⊢
    dsimp only at hstatus ⊢
    split
    · rename_i hblocked
      rw [if_pos hblocked] at hstatus
      exact absurd rfl hstatus
    · rfl
  have hgroup : NonnegWeights (applyGroupConstraints
      (redistributeSellOnlyExcess eligibleTargets buyList sellOnlyExcess).1 buyList shelf options
      diagnostics).eligibleTargets :=
    nonneg_applyGroupConstraintsLoop buyList (shelfAttrsById shelf) options.groupConstraints _ _
      (nonneg_redistributeSellOnlyExcess hnonneg buyList sellOnlyExcess)
  obtain ⟨hweights, hfloor, hnone⟩ := heuristicTargetControlStatus_bounds hgroup buyList options
  rw [← hfinal] at hweights hfloor hnone
  refine ⟨fun hcaps row hrow => ?_, hfloor, hnone⟩
  obtain ⟨hpositive, hbelow⟩ := hweights hcaps
  rw [hrows row hrow, Dict.getD]
  cases hget : (generateTargetsHeuristic model eligibleTargets buyList sellOnlyExcess shelf options
      totalVal baseCcy diagnostics).eligibleTargets.get? row.instrumentId with
  | none => exact ⟨le_refl _, fun cap hcap => hcaps cap hcap⟩
  | some weight =>
    have hmem := (Dict.get?_eq_some_iff _ _ _).mp hget
    exact ⟨hpositive _ hmem, fun cap hcap => hbelow cap hcap _ hmem⟩

/-- Two buyable instruments, for which a reserve of one half is kept. -/
def halfReserveTargets : Dict String Decimal :=
  ⟨[("A", 3 / 10), ("B", 6 / 10)], by decide⟩

/-- With the 28 digits of the decimal context the bound is missed in the last digit. -/
theorem heuristic_target_bounds_rounded :
    let options : EngineOptions := { minCashBufferPct := 1 / 2 }
    let before := applyGroupConstraints
      (redistributeSellOnlyExcess halfReserveTargets ["A", "B"] 0).1 ["A", "B"] [] options
      makeDiagnosticsData
    let final := (applyMinCashBufferWith fit28
      (capTradeableTargetsToAvailableWeightWith fit28 before.eligibleTargets ["A", "B"]).1
      ["A", "B"] (effectiveCashReserveFloor options) (cashBufferStatusWhenScaled options)).1
    before.eligibleTargets = halfReserveTargets ∧ before.status = .ready ∧
      final.values = [1666666666666666666666666667 / 10 ^ 28,
        3333333333333333333333333334 / 10 ^ 28] ∧
      ¬ final.values.sum ≤
        max (lockedWeight final ["A", "B"]) (1 - effectiveCashReserveFloor options) := by
  decide +kernel

/-- A universe of one locked and two buyable instruments, with a cap and a floor. -/
theorem heuristic_target_bounds_of_three :
    let stage := generateTargetsHeuristic ⟨[⟨"A", 7 / 10⟩, ⟨"B", 1 / 10⟩]⟩
      (Dict.ofEntries [("A", 7 / 10), ("B", 1 / 10), ("L", 3 / 10)]) ["A", "B"] 0 []
      { singlePositionMaxWeight := some (1 / 2), minCashBufferPct := 1 / 10 } 1000 "USD"
      makeDiagnosticsData
    stage.trace.map (·.finalWeight) = [3 / 7, 6 / 35, 3 / 10] ∧
      stage.eligibleTargets.values.sum ≤
        max (lockedWeight stage.eligibleTargets ["A", "B"]) (9 / 10) := by
  refine ⟨by decide +kernel, ?_⟩
  have hbounds := (heuristic_target_bounds ⟨[⟨"A", 7 / 10⟩, ⟨"B", 1 / 10⟩]⟩
    (Dict.ofEntries [("A", 7 / 10), ("B", 1 / 10), ("L", 3 / 10)]) ["A", "B"] 0 []
    { singlePositionMaxWeight := some (1 / 2), minCashBufferPct := 1 / 10 } 1000 "USD"
    makeDiagnosticsData (by decide +kernel) (by decide +kernel)).2.2.2.1 (by decide +kernel)
  exact hbounds.trans (le_of_eq (by decide +kernel))

end LotusManage.Engine
