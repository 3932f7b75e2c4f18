import LotusManage.Engine.TargetFacts
import Mathlib.Algebra.Order.BigOperators.Group.List
import Mathlib.Tactic.Ring

/-!
# The single-position cap

`_apply_single_position_max_weight` caps every weight and hands the excess to the
buyable instruments below the cap.  `singlePositionShares` lists what each of them
receives: a share of what is left at its turn, in proportion to its weight among
all candidates, and never more than its room below the cap.

What is left shrinks from turn to turn while the total that the weights are
divided by does not.  So the second candidate receives less than its proportion,
the order of the instruments decides who that is, and a rest is never placed.
`excessPlaced_iff` says exactly when none of this can be seen.
-/

namespace LotusManage.Engine

/-! ## Sums of weights -/

/-- No weight of a map is negative. -/
def NonnegWeights (targets : Dict String Decimal) : Prop :=
  ∀ entry ∈ targets.items, 0 ≤ entry.2

instance (targets : Dict String Decimal) : Decidable (NonnegWeights targets) :=
  inferInstanceAs (Decidable (∀ entry ∈ targets.items, 0 ≤ entry.2))

variable {targets : Dict String Decimal} {f : String → Decimal → Decimal} {p : String → Bool}

theorem sum_filter_snd (p : String → Bool) (items : List (String × Decimal)) :
    ((items.filter fun e => p e.1).map Prod.snd).sum =
      (items.map fun e => if p e.1 then e.2 else 0).sum := by
  induction items with
  | nil => rfl
  | cons entry items ih =>
    rw [List.map_cons, List.sum_cons, ← ih, List.filter_cons]
    split
    · rw [List.map_cons, List.sum_cons]
    · rw [zero_add]

theorem weightOf_eq_sum (targets : Dict String Decimal) (p : String → Bool) :
    weightOf targets p = (targets.items.map fun e => if p e.1 then e.2 else 0).sum :=
  sum_filter_snd p targets.items

theorem weightOf_mapWithKey (targets : Dict String Decimal) (f : String → Decimal → Decimal)
    (p : String → Bool) :
    weightOf (targets.mapWithKey f) p =
      (targets.items.map fun e => if p e.1 then f e.1 e.2 else 0).sum := by
  rw [weightOf_eq_sum]
  change ((targets.items.map fun e => (e.1, f e.1 e.2)).map _).sum = _
  rw [List.map_map]
  rfl

theorem weightOf_mapWithKey_le
    (h : ∀ entry ∈ targets.items, p entry.1 = true → f entry.1 entry.2 ≤ entry.2) :
    weightOf (targets.mapWithKey f) p ≤ weightOf targets p := by
  rw [weightOf_mapWithKey, weightOf_eq_sum]
  refine List.sum_le_sum fun entry hmem => ?_
  cases hp : p entry.1 with
  | true => exact h entry hmem hp
  | false => exact le_refl _

theorem weightOf_mapWithKey_congr
    (h : ∀ entry ∈ targets.items, p entry.1 = true → f entry.1 entry.2 = entry.2) :
    weightOf (targets.mapWithKey f) p = weightOf targets p := by
  rw [weightOf_mapWithKey, weightOf_eq_sum]
  refine congrArg List.sum (List.map_congr_left fun entry hmem => ?_)
  cases hp : p entry.1 with
  | true => exact h entry hmem hp
  | false => rfl

theorem weightOf_nonneg (h : NonnegWeights targets) (p : String → Bool) :
    0 ≤ weightOf targets p := by
  rw [weightOf_eq_sum]
  refine List.sum_nonneg fun weight hmem => ?_
  obtain ⟨entry, hentry, rfl⟩ := List.mem_map.mp hmem
  split
  · exact h entry hentry
  · exact le_refl _

theorem weightOf_add_weightOf_not (targets : Dict String Decimal) (p : String → Bool) :
    weightOf targets p + weightOf targets (fun id => !p id) = targets.values.sum := by
  rw [weightOf_eq_sum, weightOf_eq_sum, Dict.values, ← List.sum_map_add]
  refine congrArg List.sum (List.map_congr_left fun entry _ => ?_)
  cases p entry.1 <;> simp

theorem NonnegWeights.mapWithKey (h : ∀ entry ∈ targets.items, 0 ≤ f entry.1 entry.2) :
    NonnegWeights (targets.mapWithKey f) := by
  intro entry hmem
  obtain ⟨before, hbefore, rfl⟩ := List.mem_map.mp hmem
  exact h before hbefore

/-! ## The shares of the excess -/

/-- What the candidates receive, each at its turn. -/
def singlePositionShares (maxWeight totalCandidateWeight : Decimal) :
    List (String × Decimal) → Decimal → List (String × Decimal)
  | [], _ => []
  | (id, weight) :: candidates, remainder =>
    let share := min (remainder * (weight / totalCandidateWeight)) (maxWeight - weight)
    (id, share) :: singlePositionShares maxWeight totalCandidateWeight candidates
      (remainder - share)

/-- What an instrument receives among some shares. -/
def shareOf (shares : List (String × Decimal)) (id : String) : Decimal :=
  (shares.lookup id).getD 0

/-- The weights with the shares added. -/
def addShares (targets : Dict String Decimal) (shares : List (String × Decimal)) :
    Dict String Decimal :=
  targets.mapWithKey fun id weight => weight + shareOf shares id

theorem keys_singlePositionShares (maxWeight total : Decimal) :
    ∀ (candidates : List (String × Decimal)) (remainder : Decimal),
      (singlePositionShares maxWeight total candidates remainder).map Prod.fst =
        candidates.map Prod.fst
  | [], _ => rfl
  | (id, weight) :: candidates, remainder => by
    rw [singlePositionShares, List.map_cons, List.map_cons,
      keys_singlePositionShares maxWeight total candidates]

@[simp] theorem shareOf_nil (id : String) : shareOf [] id = 0 := rfl

theorem shareOf_cons (id other : String) (share : Decimal) (shares : List (String × Decimal)) :
    shareOf ((id, share) :: shares) other = if other = id then share else shareOf shares other := by
  unfold shareOf
  rw [Dict.lookup_cons_eq_ite]
  split <;> rfl

theorem shareOf_of_not_mem {shares : List (String × Decimal)} {id : String}
    (h : id ∉ shares.map Prod.fst) : shareOf shares id = 0 := by
  induction shares with
  | nil => rfl
  | cons entry shares ih =>
    rw [List.map_cons, List.mem_cons, not_or] at h
    rw [shareOf_cons, if_neg h.1, ih h.2]

theorem addShares_nil (targets : Dict String Decimal) : addShares targets [] = targets := by
  cases targets with
  | mk items nodup => simp [addShares, Dict.mapWithKey, Dict.mapWithKeyTo]

theorem redistributeSinglePositionLoop_eq (maxWeight total : Decimal) :
    ∀ (candidates : List (String × Decimal)) (eligibleTargets : Dict String Decimal)
      (remainder : Decimal), (candidates.map Prod.fst).Nodup →
      redistributeSinglePositionLoop maxWeight total candidates eligibleTargets remainder =
        (addShares eligibleTargets (singlePositionShares maxWeight total candidates remainder),
          remainder -
            ((singlePositionShares maxWeight total candidates remainder).map Prod.snd).sum)
  | [], eligibleTargets, remainder, _ => by
    rw [redistributeSinglePositionLoop, singlePositionShares, addShares_nil, List.map_nil,
      List.sum_nil, sub_zero]
  | (id, weight) :: candidates, eligibleTargets, remainder, h => by
    rw [List.map_cons, List.nodup_cons] at h
    rw [redistributeSinglePositionLoop, singlePositionShares]
    rw [redistributeSinglePositionLoop_eq maxWeight total candidates _ _ h.2]
    refine Prod.ext ?_ ?_
    · -- the update of the head and the shares of the others touch different instruments
      have hhead : shareOf (singlePositionShares maxWeight total candidates
          (remainder - min (remainder * (weight / total)) (maxWeight - weight))) id = 0 := by
        refine shareOf_of_not_mem ?_
        rw [keys_singlePositionShares]
        exact h.1
      unfold addShares Dict.update Dict.mapWithKey Dict.mapWithKeyTo
      simp only [Dict.mk.injEq, List.map_map]
      refine List.map_congr_left fun entry _ => ?_
      simp only [Function.comp_apply, shareOf_cons, Prod.mk.injEq, true_and]
      by_cases hid : entry.1 = id
      · rw [if_pos hid, if_pos hid, hid, hhead, add_zero]
      · rw [if_neg hid, if_neg hid]
    · rw [List.map_cons, List.sum_cons]
      ring

/-- The weights of candidates: below the cap, and part of their total. -/
def CandidateWeights (maxWeight total : Decimal) (candidates : List (String × Decimal)) : Prop :=
  ∀ candidate ∈ candidates, 0 ≤ candidate.2 ∧ candidate.2 < maxWeight ∧ candidate.2 ≤ total

theorem share_bounds {maxWeight total weight remainder : Decimal} (hremainder : 0 ≤ remainder)
    (h0 : 0 ≤ weight) (hmax : weight < maxWeight) (htotal : weight ≤ total) :
    0 ≤ min (remainder * (weight / total)) (maxWeight - weight) ∧
      min (remainder * (weight / total)) (maxWeight - weight) ≤ remainder := by
  have hpart : weight / total ≤ 1 := div_le_one_of_le₀ htotal (h0.trans htotal)
  constructor
  · exact le_min (mul_nonneg hremainder (div_nonneg h0 (h0.trans htotal))) (sub_pos.mpr hmax).le
  · calc min (remainder * (weight / total)) (maxWeight - weight)
        ≤ remainder * (weight / total) := min_le_left _ _
      _ ≤ remainder * 1 := mul_le_mul_of_nonneg_left hpart hremainder
      _ = remainder := mul_one _

theorem sum_singlePositionShares_le (maxWeight total : Decimal) :
    ∀ {candidates : List (String × Decimal)} {remainder : Decimal},
      CandidateWeights maxWeight total candidates → 0 ≤ remainder →
      ((singlePositionShares maxWeight total candidates remainder).map Prod.snd).sum ≤ remainder
  | [], remainder, _, hremainder => hremainder
  | (id, weight) :: candidates, remainder, h, hremainder => by
    obtain ⟨hhead, htail⟩ := List.forall_mem_cons.mp h
    have hbounds := share_bounds hremainder hhead.1 hhead.2.1 hhead.2.2
    have ih := sum_singlePositionShares_le maxWeight total htail (sub_nonneg.mpr hbounds.2)
    rw [singlePositionShares, List.map_cons, List.sum_cons]
    linarith

/-- What a candidate receives: a share that it has room for, and nothing when its weight
is zero. -/
theorem shareOf_singlePositionShares (maxWeight total : Decimal) :
    ∀ {candidates : List (String × Decimal)} {remainder : Decimal},
      CandidateWeights maxWeight total candidates → (candidates.map Prod.fst).Nodup →
      0 ≤ remainder → ∀ candidate ∈ candidates,
        let share := shareOf (singlePositionShares maxWeight total candidates remainder) candidate.1
        0 ≤ share ∧ share ≤ maxWeight - candidate.2 ∧ (candidate.2 = 0 → share = 0)
  | [], _, _, _, _, candidate, hmem => absurd hmem List.not_mem_nil
  | (id, weight) :: candidates, remainder, h, hnodup, hremainder, candidate, hmem => by
    obtain ⟨hhead, htail⟩ := List.forall_mem_cons.mp h
    rw [List.map_cons, List.nodup_cons] at hnodup
    have hbounds := share_bounds hremainder hhead.1 hhead.2.1 hhead.2.2
    rw [singlePositionShares]
    dsimp only
    rw [shareOf_cons]
    rcases List.mem_cons.mp hmem with rfl | hlater
    · rw [if_pos rfl]
      refine ⟨hbounds.1, min_le_right _ _, fun hzero => ?_⟩
      dsimp only at hzero
      rw [hzero, zero_div, mul_zero, sub_zero]
      exact min_eq_left (hhead.1.trans hhead.2.1.le)
    · have hne : candidate.1 ≠ id := by
        rintro rfl
        exact hnodup.1 (List.mem_map.mpr ⟨candidate, hlater, rfl⟩)
      rw [if_neg hne]
      exact shareOf_singlePositionShares maxWeight total htail hnodup.2
        (sub_nonneg.mpr hbounds.2) candidate hlater

/-! ## The stage in terms of its shares -/

/-- The buyable instruments below the cap. -/
def singlePositionCandidates (eligibleTargets : Dict String Decimal) (buyList : List String)
    (maxWeight : Decimal) : List (String × Decimal) :=
  eligibleTargets.items.filter fun e => e.1 ∈ buyList ∧ e.2 < maxWeight

/-- The weight above the cap. -/
def singlePositionExcess (eligibleTargets : Dict String Decimal) (maxWeight : Decimal) : Decimal :=
  (capSinglePositionTargets eligibleTargets maxWeight).2

/-- The total weight of the candidates. -/
def candidateTotal (eligibleTargets : Dict String Decimal) (buyList : List String)
    (maxWeight : Decimal) : Decimal :=
  ((singlePositionCandidates eligibleTargets buyList maxWeight).map Prod.snd).sum

/-- The part of the excess that the stage leaves unplaced. -/
def unplacedRemainder (eligibleTargets : Dict String Decimal) (buyList : List String)
    (maxWeight : Decimal) : Decimal :=
  (redistributeSinglePositionExcess (capSinglePositionTargets eligibleTargets maxWeight).1 buyList
    maxWeight (singlePositionExcess eligibleTargets maxWeight)).2

/-- What the stage hands to the candidates. -/
def placedShares (eligibleTargets : Dict String Decimal) (buyList : List String)
    (maxWeight : Decimal) : List (String × Decimal) :=
  if singlePositionExcess eligibleTargets maxWeight ≤ 0 ∨
      candidateTotal eligibleTargets buyList maxWeight ≤ 0 then []
  else singlePositionShares maxWeight (candidateTotal eligibleTargets buyList maxWeight)
    (singlePositionCandidates eligibleTargets buyList maxWeight)
    (singlePositionExcess eligibleTargets maxWeight)

section Stage

variable (eligibleTargets : Dict String Decimal) (buyList : List String) (maxWeight : Decimal)

theorem singlePositionExcess_nonneg : 0 ≤ singlePositionExcess eligibleTargets maxWeight := by
  refine List.sum_nonneg fun excess hmem => ?_
  obtain ⟨weight, _, rfl⟩ := List.mem_map.mp hmem
  exact le_max_left _ _

theorem nodup_singlePositionCandidates :
    ((singlePositionCandidates eligibleTargets buyList maxWeight).map Prod.fst).Nodup :=
  eligibleTargets.nodup.sublist (List.filter_sublist.map Prod.fst)

theorem filter_capSinglePositionTargets :
    ((capSinglePositionTargets eligibleTargets maxWeight).1.items.filter fun e =>
        e.1 ∈ buyList ∧ e.2 < maxWeight) =
      singlePositionCandidates eligibleTargets buyList maxWeight := by
  unfold singlePositionCandidates
  change ((eligibleTargets.items.map fun e => (e.1, min e.2 maxWeight)).filter _) = _
  induction eligibleTargets.items with
  | nil => rfl
  | cons entry items ih =>
    rw [List.map_cons, List.filter_cons, List.filter_cons, ih]
    rcases lt_or_ge entry.2 maxWeight with hbelow | habove
    · rw [min_eq_left hbelow.le]
    · simp [min_eq_right habove, not_lt.mpr habove]

theorem redistributeSinglePositionExcess_eq :
    redistributeSinglePositionExcess (capSinglePositionTargets eligibleTargets maxWeight).1 buyList
        maxWeight (singlePositionExcess eligibleTargets maxWeight) =
      if candidateTotal eligibleTargets buyList maxWeight ≤ 0 then
        ((capSinglePositionTargets eligibleTargets maxWeight).1,
          singlePositionExcess eligibleTargets maxWeight)
      else
        let shares := singlePositionShares maxWeight
          (candidateTotal eligibleTargets buyList maxWeight)
          (singlePositionCandidates eligibleTargets buyList maxWeight)
          (singlePositionExcess eligibleTargets maxWeight)
        (addShares (capSinglePositionTargets eligibleTargets maxWeight).1 shares,
          singlePositionExcess eligibleTargets maxWeight - (shares.map Prod.snd).sum) := by
  unfold redistributeSinglePositionExcess
  dsimp only
  rw [filter_capSinglePositionTargets]
  change (if candidateTotal eligibleTargets buyList maxWeight ≤ 0 then _ else _) = _
  split
  · rfl
  · exact redistributeSinglePositionLoop_eq _ _ _ _ _
      (nodup_singlePositionCandidates eligibleTargets buyList maxWeight)

theorem applySinglePositionMaxWeight_eq :
    (applySinglePositionMaxWeight eligibleTargets buyList maxWeight).1 =
      addShares (capSinglePositionTargets eligibleTargets maxWeight).1
        (placedShares eligibleTargets buyList maxWeight) := by
  unfold applySinglePositionMaxWeight placedShares
  dsimp only
  change (if singlePositionExcess eligibleTargets maxWeight ≤ 0 then _ else _ : _ × RunStatus).1 = _
  by_cases hexcess : singlePositionExcess eligibleTargets maxWeight ≤ 0
  · rw [if_pos hexcess, if_pos (Or.inl hexcess), addShares_nil]
  · rw [if_neg hexcess]
    change (redistributeSinglePositionExcess _ buyList maxWeight
      (singlePositionExcess eligibleTargets maxWeight)).1 = _
    rw [redistributeSinglePositionExcess_eq]
    by_cases htotal : candidateTotal eligibleTargets buyList maxWeight ≤ 0
    · rw [if_pos htotal, if_pos (Or.inr htotal), addShares_nil]
    · rw [if_neg htotal, if_neg (not_or.mpr ⟨hexcess, htotal⟩)]

variable {eligibleTargets buyList maxWeight}

theorem candidateWeights (h : NonnegWeights eligibleTargets) :
    CandidateWeights maxWeight (candidateTotal eligibleTargets buyList maxWeight)
      (singlePositionCandidates eligibleTargets buyList maxWeight) := by
  intro candidate hmem
  obtain ⟨hitem, hcandidate⟩ := List.mem_filter.mp hmem
  refine ⟨h candidate hitem, (of_decide_eq_true hcandidate).2, ?_⟩
  refine List.single_le_sum ?_ _ (List.mem_map_of_mem hmem)
  intro weight hweight
  obtain ⟨other, hother, rfl⟩ := List.mem_map.mp hweight
  exact h other (List.mem_filter.mp hother).1

theorem get?_applySinglePositionMaxWeight (id : String) :
    (applySinglePositionMaxWeight eligibleTargets buyList maxWeight).1.get? id =
      (eligibleTargets.get? id).map fun weight =>
        min weight maxWeight + shareOf (placedShares eligibleTargets buyList maxWeight) id := by
  rw [applySinglePositionMaxWeight_eq, addShares, capSinglePositionTargets, Dict.get?_mapWithKey,
    Dict.get?_mapWithKey, Option.map_map]
  rfl

end Stage

/-! ## The order of the candidates -/

section Order

variable {maxWeight total : Decimal}

/-- The room below the cap of the candidates that have a weight. -/
def roomOf (maxWeight : Decimal) (candidates : List (String × Decimal)) : Decimal :=
  (candidates.map fun c => if 0 < c.2 then maxWeight - c.2 else 0).sum

/-- The candidates that have a weight; the others receive nothing at any turn. -/
def weighted (candidates : List (String × Decimal)) : List (String × Decimal) :=
  candidates.filter fun c => 0 < c.2

/-- The excess fills a candidate to the cap even when all others are filled before it. -/
def FillsLast (maxWeight total excess : Decimal) (candidates : List (String × Decimal)) : Prop :=
  ∀ c ∈ weighted candidates, maxWeight - c.2 ≤
    (excess - (roomOf maxWeight candidates - (maxWeight - c.2))) * (c.2 / total)

theorem singlePositionShares_append (front : List (String × Decimal)) (id : String)
    (weight remainder : Decimal) :
    singlePositionShares maxWeight total (front ++ [(id, weight)]) remainder =
      singlePositionShares maxWeight total front remainder ++
        [(id, min ((remainder -
            ((singlePositionShares maxWeight total front remainder).map Prod.snd).sum) *
              (weight / total)) (maxWeight - weight))] := by
  induction front generalizing remainder with
  | nil => simp [singlePositionShares]
  | cons entry front ih =>
    obtain ⟨other, otherWeight⟩ := entry
    rw [List.cons_append, singlePositionShares, singlePositionShares, ih, List.cons_append,
      List.map_cons, List.sum_cons, sub_sub]

theorem shareOf_append_self {shares : List (String × Decimal)} {id : String}
    (h : id ∉ shares.map Prod.fst) (share : Decimal) :
    shareOf (shares ++ [(id, share)]) id = share := by
  induction shares with
  | nil => simp [shareOf_cons]
  | cons entry shares ih =>
    rw [List.map_cons, List.mem_cons, not_or] at h
    rw [List.cons_append, shareOf_cons, if_neg h.1, ih h.2]

theorem shareOf_append_of_ne {id other : String} (h : other ≠ id) (share : Decimal)
    (shares : List (String × Decimal)) :
    shareOf (shares ++ [(id, share)]) other = shareOf shares other := by
  induction shares with
  | nil => simp [shareOf_cons, h]
  | cons entry shares ih => rw [List.cons_append, shareOf_cons, shareOf_cons, ih]

theorem sum_shares_eq {candidates : List (String × Decimal)} :
    ∀ {remainder : Decimal}, (candidates.map Prod.fst).Nodup →
      ((singlePositionShares maxWeight total candidates remainder).map Prod.snd).sum =
        (candidates.map fun c =>
          shareOf (singlePositionShares maxWeight total candidates remainder) c.1).sum := by
  induction candidates with
  | nil => intro remainder _; rfl
  | cons entry candidates ih =>
    intro remainder h
    obtain ⟨id, weight⟩ := entry
    rw [List.map_cons, List.nodup_cons] at h
    rw [singlePositionShares]
    rw [List.map_cons, List.map_cons, List.sum_cons, List.sum_cons, shareOf_cons, if_pos rfl,
      ih h.2]
    refine congrArg (_ + ·) (congrArg List.sum (List.map_congr_left fun other hother => ?_))
    have hne : other.1 ≠ id := by
      rintro rfl
      exact h.1 (List.mem_map.mpr ⟨other, hother, rfl⟩)
    rw [shareOf_cons, if_neg hne]

/-- When the excess fills everyone even last, everyone with a weight is filled, in
whatever order they stand. -/
theorem shareOf_of_fillsLast :
    ∀ {candidates : List (String × Decimal)} {remainder : Decimal},
      CandidateWeights maxWeight total candidates → (candidates.map Prod.fst).Nodup →
      0 ≤ remainder → FillsLast maxWeight total remainder candidates →
      ∀ c ∈ weighted candidates,
        shareOf (singlePositionShares maxWeight total candidates remainder) c.1 = maxWeight - c.2
  | [], _, _, _, _, _, c, hmem => absurd hmem List.not_mem_nil
  | (id, weight) :: candidates, remainder, h, hnodup, hremainder, hfills, c, hmem => by
    obtain ⟨hhead, htail⟩ := List.forall_mem_cons.mp h
    rw [List.map_cons, List.nodup_cons] at hnodup
    dsimp only at hhead
    have hbounds := share_bounds hremainder hhead.1 hhead.2.1 hhead.2.2
    have hroomTail : 0 ≤ roomOf maxWeight candidates := by
      refine List.sum_nonneg fun room hroom => ?_
      obtain ⟨other, hother, rfl⟩ := List.mem_map.mp hroom
      split
      · exact (sub_pos.mpr (htail other hother).2.1).le
      · exact le_refl _
    -- the head takes the whole of its room when it has a weight, and nothing when it has none
    have hshare : min (remainder * (weight / total)) (maxWeight - weight) =
        if 0 < weight then maxWeight - weight else 0 := by
      split
      · rename_i hpos
        refine min_eq_right ?_
        have hfill := hfills (id, weight) (List.mem_filter.mpr ⟨List.mem_cons_self, by simpa⟩)
        rw [roomOf, List.map_cons, List.sum_cons] at hfill
        dsimp only at hfill
        rw [if_pos hpos, add_sub_cancel_left] at hfill
        refine hfill.trans (mul_le_mul_of_nonneg_right ?_ ?_)
        · exact sub_le_self _ hroomTail
        · exact div_nonneg hhead.1 (hhead.1.trans hhead.2.2)
      · rename_i hnone
        have hzero : weight = 0 := le_antisymm (not_lt.mp hnone) hhead.1
        rw [hzero, zero_div, mul_zero, sub_zero]
        exact min_eq_left (hhead.1.trans hhead.2.1.le)
    have htailFills : FillsLast maxWeight total
        (remainder - min (remainder * (weight / total)) (maxWeight - weight)) candidates := by
      intro other hother
      obtain ⟨hin, hpos⟩ := List.mem_filter.mp hother
      have hfill := hfills other (List.mem_filter.mpr ⟨List.mem_cons_of_mem _ hin, hpos⟩)
      rw [roomOf, List.map_cons, List.sum_cons] at hfill
      dsimp only at hfill
      rw [hshare]
      refine hfill.trans (le_of_eq (congrArg (· * _) ?_))
      rw [roomOf]
      ring
    rw [singlePositionShares]
    rw [shareOf_cons]
    obtain ⟨hin, hpos⟩ := List.mem_filter.mp hmem
    rcases List.mem_cons.mp hin with rfl | hlater
    · rw [if_pos rfl, hshare, if_pos (of_decide_eq_true hpos)]
    · have hne : c.1 ≠ id := by
        rintro rfl
        exact hnodup.1 (List.mem_map.mpr ⟨c, hlater, rfl⟩)
      rw [if_neg hne]
      exact shareOf_of_fillsLast htail hnodup.2 (sub_nonneg.mpr hbounds.2) htailFills c
        (List.mem_filter.mpr ⟨hlater, hpos⟩)

theorem shareOf_of_only :
    ∀ {candidates : List (String × Decimal)} {remainder : Decimal},
      CandidateWeights maxWeight total candidates → (candidates.map Prod.fst).Nodup →
      ∀ c ∈ candidates, (∀ other ∈ candidates, other ≠ c → other.2 = 0) →
        shareOf (singlePositionShares maxWeight total candidates remainder) c.1 =
          min (remainder * (c.2 / total)) (maxWeight - c.2)
  | [], _, _, _, c, hmem, _ => absurd hmem List.not_mem_nil
  | (id, weight) :: candidates, remainder, h, hnodup, c, hmem, honly => by
    obtain ⟨hhead, htail⟩ := List.forall_mem_cons.mp h
    rw [List.map_cons, List.nodup_cons] at hnodup
    rw [singlePositionShares]
    rw [shareOf_cons]
    rcases List.mem_cons.mp hmem with rfl | hlater
    · rw [if_pos rfl]
    · have hne : c.1 ≠ id := by
        rintro rfl
        exact hnodup.1 (List.mem_map.mpr ⟨c, hlater, rfl⟩)
      have hzero : weight = 0 := by
        refine honly (id, weight) List.mem_cons_self ?_
        rintro rfl
        exact hne rfl
      subst hzero
      have hnothing : min (remainder * ((0 : Decimal) / total)) (maxWeight - 0) = 0 := by
        rw [zero_div, mul_zero, sub_zero]
        exact min_eq_left (hhead.1.trans hhead.2.1.le)
      rw [if_neg hne, hnothing, sub_zero]
      exact shareOf_of_only htail hnodup.2 c hlater
        fun other hother => honly other (List.mem_cons_of_mem _ hother)

end Order

/-! ## When the excess is placed fairly -/

/-- The buyable instruments with a weight below the cap take the excess in proportion to
their weights, and none of them reaches the cap. -/
def CanAbsorb (eligibleTargets : Dict String Decimal) (buyList : List String)
    (maxWeight : Decimal) : Prop :=
  0 < candidateTotal eligibleTargets buyList maxWeight ∧
    ∀ c ∈ weighted (singlePositionCandidates eligibleTargets buyList maxWeight),
      c.2 + singlePositionExcess eligibleTargets maxWeight *
        (c.2 / candidateTotal eligibleTargets buyList maxWeight) < maxWeight

/-- The excess is fully and fairly placed: the final weights do not depend on the order of
the instruments, and nothing is left when the candidates can absorb it. -/
structure ExcessPlaced (eligibleTargets : Dict String Decimal) (buyList : List String)
    (maxWeight : Decimal) : Prop where
  anyOrder : ∀ other : Dict String Decimal, other.items.Perm eligibleTargets.items → ∀ id,
    (applySinglePositionMaxWeight other buyList maxWeight).1.get? id =
      (applySinglePositionMaxWeight eligibleTargets buyList maxWeight).1.get? id
  absorbed : CanAbsorb eligibleTargets buyList maxWeight →
    unplacedRemainder eligibleTargets buyList maxWeight = 0

/-- There is no excess, or one candidate at most has a weight, or the excess fills every
candidate whoever comes last. -/
def OrderDecidesNothing (eligibleTargets : Dict String Decimal) (buyList : List String)
    (maxWeight : Decimal) : Prop :=
  singlePositionExcess eligibleTargets maxWeight ≤ 0 ∨
    (weighted (singlePositionCandidates eligibleTargets buyList maxWeight)).length ≤ 1 ∨
    FillsLast maxWeight (candidateTotal eligibleTargets buyList maxWeight)
      (singlePositionExcess eligibleTargets maxWeight)
      (singlePositionCandidates eligibleTargets buyList maxWeight)

section Placement

variable {eligibleTargets other : Dict String Decimal} {buyList : List String}
  {maxWeight : Decimal}

variable {candidates : List (String × Decimal)} {c : String × Decimal}

theorem get?_perm (h : other.items.Perm eligibleTargets.items) (id : String) :
    other.get? id = eligibleTargets.get? id := by
  refine Option.ext fun weight => ?_
  rw [Dict.get?_eq_some_iff, Dict.get?_eq_some_iff, h.mem_iff]

theorem singlePositionExcess_perm (h : other.items.Perm eligibleTargets.items)
    (maxWeight : Decimal) :
    singlePositionExcess other maxWeight = singlePositionExcess eligibleTargets maxWeight :=
  ((h.map Prod.snd).map _).sum_eq

theorem singlePositionCandidates_perm (h : other.items.Perm eligibleTargets.items)
    (buyList : List String) (maxWeight : Decimal) :
    (singlePositionCandidates other buyList maxWeight).Perm
      (singlePositionCandidates eligibleTargets buyList maxWeight) :=
  h.filter _

theorem candidateTotal_perm (h : other.items.Perm eligibleTargets.items) (buyList : List String)
    (maxWeight : Decimal) :
    candidateTotal other buyList maxWeight = candidateTotal eligibleTargets buyList maxWeight :=
  ((singlePositionCandidates_perm h buyList maxWeight).map Prod.snd).sum_eq

theorem sum_map_of_only {f : String × Decimal → Decimal} (hnodup : candidates.Nodup)
    (hc : c ∈ candidates) (honly : ∀ d ∈ candidates, d ≠ c → f d = 0) :
    (candidates.map f).sum = f c := by
  have hrest : ((candidates.erase c).map f).sum = 0 := by
    refine List.sum_eq_zero fun term hterm => ?_
    obtain ⟨d, hd, rfl⟩ := List.mem_map.mp hterm
    obtain ⟨hne, hmem⟩ := hnodup.mem_erase_iff.mp hd
    exact honly d hmem hne
  rw [((List.perm_cons_erase hc).map f).sum_eq, List.map_cons, List.sum_cons, hrest, add_zero]

theorem mem_weighted : c ∈ weighted candidates ↔ c ∈ candidates ∧ 0 < c.2 := by
  simp [weighted]

theorem weight_zero_of_length (hnonneg : ∀ c ∈ candidates, 0 ≤ c.2)
    (h : (weighted candidates).length ≤ 1) (hc : c ∈ weighted candidates) :
    ∀ d ∈ candidates, d ≠ c → d.2 = 0 := by
  intro d hd hne
  by_contra hzero
  have hd' : d ∈ weighted candidates :=
    mem_weighted.mpr ⟨hd, lt_of_le_of_ne (hnonneg d hd) (Ne.symm hzero)⟩
  match hw : weighted candidates, h with
  | [], _ =>
    rw [hw] at hc
    exact absurd hc List.not_mem_nil
  | [x], _ =>
    rw [hw, List.mem_singleton] at hc hd'
    exact hne (hd'.trans hc.symm)

theorem shareOf_perm {total excess : Decimal} {candidates' : List (String × Decimal)}
    (hperm : candidates'.Perm candidates) (hweights : CandidateWeights maxWeight total candidates)
    (hnodup : (candidates.map Prod.fst).Nodup) (hexcess : 0 ≤ excess)
    (h : (weighted candidates).length ≤ 1 ∨ FillsLast maxWeight total excess candidates)
    (id : String) :
    shareOf (singlePositionShares maxWeight total candidates' excess) id =
      shareOf (singlePositionShares maxWeight total candidates excess) id := by
  have hweights' : CandidateWeights maxWeight total candidates' :=
    fun c hc => hweights c (hperm.mem_iff.mp hc)
  have hnodup' : (candidates'.map Prod.fst).Nodup := (hperm.map Prod.fst).nodup_iff.mpr hnodup
  by_cases hid : id ∈ candidates.map Prod.fst
  · obtain ⟨c, hc, rfl⟩ := List.mem_map.mp hid
    have hc' := hperm.mem_iff.mpr hc
    rcases eq_or_lt_of_le (hweights c hc).1 with hzero | hpos
    · rw [(shareOf_singlePositionShares maxWeight total hweights hnodup hexcess c hc).2.2
          hzero.symm,
        (shareOf_singlePositionShares maxWeight total hweights' hnodup' hexcess c hc').2.2
          hzero.symm]
    · have hw : c ∈ weighted candidates := mem_weighted.mpr ⟨hc, hpos⟩
      rcases h with hone | hfills
      · have honly := weight_zero_of_length (fun c hc => (hweights c hc).1) hone hw
        rw [shareOf_of_only hweights hnodup c hc honly,
          shareOf_of_only hweights' hnodup' c hc' fun d hd => honly d (hperm.mem_iff.mp hd)]
      · have hfills' : FillsLast maxWeight total excess candidates' := by
          intro d hd
          obtain ⟨hin, hdpos⟩ := mem_weighted.mp hd
          have hroom : roomOf maxWeight candidates' = roomOf maxWeight candidates :=
            (hperm.map _).sum_eq
          rw [hroom]
          exact hfills d (mem_weighted.mpr ⟨hperm.mem_iff.mp hin, hdpos⟩)
        rw [shareOf_of_fillsLast hweights hnodup hexcess hfills c hw,
          shareOf_of_fillsLast hweights' hnodup' hexcess hfills' c (mem_weighted.mpr ⟨hc', hpos⟩)]
  · have hid' : id ∉ candidates'.map Prod.fst := fun hmem =>
      hid ((hperm.map Prod.fst).mem_iff.mp hmem)
    rw [shareOf_of_not_mem (by rwa [keys_singlePositionShares]),
      shareOf_of_not_mem (by rwa [keys_singlePositionShares])]

theorem anyOrder_of_decided (hnonneg : NonnegWeights eligibleTargets)
    (h : OrderDecidesNothing eligibleTargets buyList maxWeight)
    (hperm : other.items.Perm eligibleTargets.items) (id : String) :
    (applySinglePositionMaxWeight other buyList maxWeight).1.get? id =
      (applySinglePositionMaxWeight eligibleTargets buyList maxWeight).1.get? id := by
  have hshare : shareOf (placedShares other buyList maxWeight) id =
      shareOf (placedShares eligibleTargets buyList maxWeight) id := by
    unfold placedShares
    rw [singlePositionExcess_perm hperm, candidateTotal_perm hperm]
    split
    · rfl
    · rename_i hplaced
      rw [not_or] at hplaced
      exact shareOf_perm (singlePositionCandidates_perm hperm buyList maxWeight)
        (candidateWeights hnonneg) (nodup_singlePositionCandidates _ _ _)
        (singlePositionExcess_nonneg _ _) (h.resolve_left hplaced.1) id
  rw [get?_applySinglePositionMaxWeight, get?_applySinglePositionMaxWeight, get?_perm hperm, hshare]

theorem unplacedRemainder_of_decided (hnonneg : NonnegWeights eligibleTargets)
    (h : OrderDecidesNothing eligibleTargets buyList maxWeight)
    (habsorb : CanAbsorb eligibleTargets buyList maxWeight) :
    unplacedRemainder eligibleTargets buyList maxWeight = 0 := by
  obtain ⟨htotal, hroom⟩ := habsorb
  have hexcess := singlePositionExcess_nonneg eligibleTargets maxWeight
  have hweights : CandidateWeights maxWeight (candidateTotal eligibleTargets buyList maxWeight)
      (singlePositionCandidates eligibleTargets buyList maxWeight) := candidateWeights hnonneg
  have hnodup := nodup_singlePositionCandidates eligibleTargets buyList maxWeight
  rw [unplacedRemainder, redistributeSinglePositionExcess_eq, if_neg (not_le.mpr htotal)]
  dsimp only
  have hle := sum_singlePositionShares_le maxWeight
    (candidateTotal eligibleTargets buyList maxWeight) hweights hexcess
  -- a candidate with a weight exists, since the total is positive
  have hsome : ∃ c, c ∈ weighted (singlePositionCandidates eligibleTargets buyList maxWeight) := by
    by_contra hnone
    refine absurd htotal (not_lt.mpr (List.sum_eq_zero fun weight hmem => ?_).le)
    obtain ⟨c, hc, rfl⟩ := List.mem_map.mp hmem
    by_contra hzero
    exact hnone ⟨c, mem_weighted.mpr ⟨hc, lt_of_le_of_ne (hweights c hc).1 (Ne.symm hzero)⟩⟩
  obtain ⟨c, hc⟩ := hsome
  obtain ⟨hmem, hpos⟩ := mem_weighted.mp hc
  rcases h with hnoExcess | hone | hfills
  · have hzero := le_antisymm hnoExcess hexcess
    have hshares : 0 ≤ ((singlePositionShares maxWeight
        (candidateTotal eligibleTargets buyList maxWeight)
        (singlePositionCandidates eligibleTargets buyList maxWeight)
        (singlePositionExcess eligibleTargets maxWeight)).map Prod.snd).sum := by
      rw [sum_shares_eq hnodup]
      refine List.sum_nonneg fun share hshare => ?_
      obtain ⟨d, hd, rfl⟩ := List.mem_map.mp hshare
      exact (shareOf_singlePositionShares maxWeight _ hweights hnodup hexcess d hd).1
    linarith
  · -- the only candidate with a weight is the whole total, so it takes all of the excess
    have honly := weight_zero_of_length (fun c hc => (hweights c hc).1) hone hc
    have hdistinct := hnodup.of_map Prod.fst
    have hwhole : candidateTotal eligibleTargets buyList maxWeight = c.2 :=
      sum_map_of_only hdistinct hmem honly
    have hshares := sum_map_of_only (f := fun d => shareOf (singlePositionShares maxWeight
      (candidateTotal eligibleTargets buyList maxWeight)
      (singlePositionCandidates eligibleTargets buyList maxWeight)
      (singlePositionExcess eligibleTargets maxWeight)) d.1) hdistinct hmem ?_
    · have hfree := hroom c hc
      rw [sum_shares_eq hnodup, hshares, shareOf_of_only hweights hnodup c hmem honly]
      rw [hwhole, div_self hpos.ne', mul_one] at hfree ⊢
      rw [min_eq_left (by linarith), sub_self]
    · intro d hd hne
      exact (shareOf_singlePositionShares maxWeight _ hweights hnodup hexcess d hd).2.2
        (honly d hd hne)
  · -- who has room left over is not filled, so this case cannot arise
    have hfill := hfills c hc
    have hfree := hroom c hc
    have hpart : 0 ≤ c.2 / candidateTotal eligibleTargets buyList maxWeight :=
      div_nonneg hpos.le htotal.le
    have hroomLe : maxWeight - c.2 ≤
        roomOf maxWeight (singlePositionCandidates eligibleTargets buyList maxWeight) := by
      refine List.single_le_sum ?_ _ (List.mem_map.mpr ⟨c, hmem, if_pos hpos⟩)
      intro room hroom
      obtain ⟨d, hd, rfl⟩ := List.mem_map.mp hroom
      split
      · exact (sub_pos.mpr (hweights d hd).2.1).le
      · exact le_refl _
    have hmore := mul_le_mul_of_nonneg_right (sub_le_self
      (singlePositionExcess eligibleTargets maxWeight) (sub_nonneg.mpr hroomLe)) hpart
    linarith

/-! ## Only then -/

/-- The map with its instruments in another order. -/
def reorder (targets : Dict String Decimal) (items : List (String × Decimal))
    (h : items.Perm targets.items) : Dict String Decimal :=
  ⟨items, (h.map Prod.fst).nodup_iff.mpr targets.nodup⟩

variable (hplaced : 0 < singlePositionExcess eligibleTargets maxWeight)
  (hany : ∀ other : Dict String Decimal, other.items.Perm eligibleTargets.items → ∀ id,
    (applySinglePositionMaxWeight other buyList maxWeight).1.get? id =
      (applySinglePositionMaxWeight eligibleTargets buyList maxWeight).1.get? id)

include hplaced hany in
/-- When no order matters, a candidate receives in every order what it receives in the
given one. -/
theorem share_in_order (htotal : 0 < candidateTotal eligibleTargets buyList maxWeight)
    {items : List (String × Decimal)} (h : items.Perm eligibleTargets.items)
    (hc : c ∈ singlePositionCandidates eligibleTargets buyList maxWeight) :
    shareOf (singlePositionShares maxWeight (candidateTotal eligibleTargets buyList maxWeight)
        (items.filter fun e => e.1 ∈ buyList ∧ e.2 < maxWeight)
        (singlePositionExcess eligibleTargets maxWeight)) c.1 =
      shareOf (placedShares eligibleTargets buyList maxWeight) c.1 := by
  have hsame := hany (reorder eligibleTargets items h) h c.1
  have hplacedHere : placedShares (reorder eligibleTargets items h) buyList maxWeight =
      singlePositionShares maxWeight (candidateTotal eligibleTargets buyList maxWeight)
        (items.filter fun e => e.1 ∈ buyList ∧ e.2 < maxWeight)
        (singlePositionExcess eligibleTargets maxWeight) := by
    have hperm : (reorder eligibleTargets items h).items.Perm eligibleTargets.items := h
    rw [placedShares, singlePositionExcess_perm hperm, candidateTotal_perm hperm,
      if_neg (not_or.mpr ⟨not_le.mpr hplaced, not_le.mpr htotal⟩)]
    rfl
  have hget : eligibleTargets.get? c.1 = some c.2 :=
    (Dict.get?_eq_some_iff _ _ _).mpr (List.mem_filter.mp hc).1
  have hperm : (reorder eligibleTargets items h).items.Perm eligibleTargets.items := h
  rw [get?_applySinglePositionMaxWeight, get?_applySinglePositionMaxWeight, get?_perm hperm,
    hget, Option.map_some, Option.map_some, Option.some.injEq, hplacedHere] at hsame
  exact add_left_cancel hsame

include hplaced hany in
/-- When no order matters and two candidates have a weight, every candidate with a weight
is filled: coming second costs it nothing. -/
theorem share_filled (hnonneg : NonnegWeights eligibleTargets) {d : String × Decimal}
    (hc : c ∈ weighted (singlePositionCandidates eligibleTargets buyList maxWeight))
    (hd : d ∈ weighted (singlePositionCandidates eligibleTargets buyList maxWeight)) (hne : d ≠ c) :
    shareOf (placedShares eligibleTargets buyList maxWeight) c.1 = maxWeight - c.2 := by
  obtain ⟨hcmem, hcpos⟩ := mem_weighted.mp hc
  obtain ⟨hdmem, hdpos⟩ := mem_weighted.mp hd
  have hweights : CandidateWeights maxWeight (candidateTotal eligibleTargets buyList maxWeight)
      (singlePositionCandidates eligibleTargets buyList maxWeight) := candidateWeights hnonneg
  have htotal : 0 < candidateTotal eligibleTargets buyList maxWeight :=
    lt_of_lt_of_le hcpos (hweights c hcmem).2.2
  obtain ⟨hcitem, hctest⟩ := List.mem_filter.mp hcmem
  obtain ⟨hditem, hdtest⟩ := List.mem_filter.mp hdmem
  have hkeys : c.1 ≠ d.1 := by
    intro heq
    exact hne (List.inj_on_of_nodup_map eligibleTargets.nodup hditem hcitem heq.symm)
  -- once `c` is the first instrument, and once it is the second one, after `d`
  have hfirst : (c :: eligibleTargets.items.erase c).Perm eligibleTargets.items :=
    (List.perm_cons_erase hcitem).symm
  have hsecond : (d :: c :: (eligibleTargets.items.erase d).erase c).Perm eligibleTargets.items :=
    ((List.perm_cons_erase ((List.mem_erase_of_ne (Ne.symm hne)).mpr hcitem)).symm.cons d).trans
      (List.perm_cons_erase hditem).symm
  have hone := share_in_order hplaced hany htotal hfirst hcmem
  have htwo := share_in_order hplaced hany htotal hsecond hcmem
  rw [List.filter_cons, if_pos hctest] at hone
  rw [List.filter_cons, if_pos hdtest, List.filter_cons, if_pos hctest] at htwo
  obtain ⟨cid, cweight⟩ := c
  obtain ⟨did, dweight⟩ := d
  rw [singlePositionShares] at hone
  rw [singlePositionShares, singlePositionShares] at htwo
  dsimp only at hone htwo hcpos hdpos hkeys ⊢
  rw [shareOf_cons, if_pos rfl] at hone
  rw [shareOf_cons, if_neg hkeys, shareOf_cons, if_pos rfl] at htwo
  have hpart : 0 < cweight / candidateTotal eligibleTargets buyList maxWeight :=
    div_pos hcpos htotal
  have hless : (singlePositionExcess eligibleTargets maxWeight -
      min (singlePositionExcess eligibleTargets maxWeight *
        (dweight / candidateTotal eligibleTargets buyList maxWeight)) (maxWeight - dweight)) *
        (cweight / candidateTotal eligibleTargets buyList maxWeight) <
      singlePositionExcess eligibleTargets maxWeight *
        (cweight / candidateTotal eligibleTargets buyList maxWeight) := by
    refine mul_lt_mul_of_pos_right (sub_lt_self _ (lt_min ?_ ?_)) hpart
    · exact mul_pos hplaced (div_pos hdpos htotal)
    · exact sub_pos.mpr (of_decide_eq_true hdtest).2
  rw [← hone]
  refine min_eq_right ?_
  by_contra hshort
  rw [not_le] at hshort
  rw [min_eq_left hshort.le] at hone
  rw [min_eq_left (hless.trans hshort).le, ← hone] at htwo
  exact absurd htwo hless.ne

include hplaced hany in
theorem fillsLast_of_anyOrder (hnonneg : NonnegWeights eligibleTargets)
    (htwo : ¬ (weighted (singlePositionCandidates eligibleTargets buyList maxWeight)).length ≤ 1) :
    FillsLast maxWeight (candidateTotal eligibleTargets buyList maxWeight)
      (singlePositionExcess eligibleTargets maxWeight)
      (singlePositionCandidates eligibleTargets buyList maxWeight) := by
  have hweights : CandidateWeights maxWeight (candidateTotal eligibleTargets buyList maxWeight)
      (singlePositionCandidates eligibleTargets buyList maxWeight) := candidateWeights hnonneg
  have hnodup := nodup_singlePositionCandidates eligibleTargets buyList maxWeight
  have hexcess := singlePositionExcess_nonneg eligibleTargets maxWeight
  -- everyone with a weight is filled, since somebody else has one too
  have hfilled : ∀ c ∈ weighted (singlePositionCandidates eligibleTargets buyList maxWeight),
      shareOf (placedShares eligibleTargets buyList maxWeight) c.1 = maxWeight - c.2 := by
    intro c hc
    by_contra hshort
    refine htwo ?_
    have hall : ∀ d ∈ weighted (singlePositionCandidates eligibleTargets buyList maxWeight),
        d = c := by
      intro d hd
      by_contra hne
      exact hshort (share_filled hplaced hany hnonneg hc hd hne)
    rw [List.eq_replicate_of_mem hall]
    have hdistinct := (hnodup.of_map Prod.fst).filter fun c => decide (0 < c.2)
    change (weighted _).Nodup at hdistinct
    rw [List.eq_replicate_of_mem hall] at hdistinct
    rw [List.length_replicate]
    exact List.nodup_replicate.mp hdistinct
  intro c hc
  obtain ⟨hcmem, hcpos⟩ := mem_weighted.mp hc
  have htotal : 0 < candidateTotal eligibleTargets buyList maxWeight :=
    lt_of_lt_of_le hcpos (hweights c hcmem).2.2
  obtain ⟨hcitem, hctest⟩ := List.mem_filter.mp hcmem
  -- the order in which `c` comes last, behind all other candidates
  have horder : (eligibleTargets.items.erase c ++ [c]).Perm eligibleTargets.items :=
    (List.perm_append_singleton c _).trans (List.perm_cons_erase hcitem).symm
  have hfilter : (eligibleTargets.items.erase c ++ [c]).filter
        (fun e => e.1 ∈ buyList ∧ e.2 < maxWeight) =
      (eligibleTargets.items.erase c).filter (fun e => e.1 ∈ buyList ∧ e.2 < maxWeight) ++ [c] := by
    rw [List.filter_append, List.filter_cons, if_pos hctest, List.filter_nil]
  have hperm := horder.filter fun e => decide (e.1 ∈ buyList ∧ e.2 < maxWeight)
  rw [hfilter] at hperm
  change (_ ++ [c]).Perm (singlePositionCandidates eligibleTargets buyList maxWeight) at hperm
  have hshares : ∀ d ∈ singlePositionCandidates eligibleTargets buyList maxWeight, _ :=
    fun d hd => share_in_order hplaced hany htotal horder hd
  rw [hfilter] at hshares
  generalize (eligibleTargets.items.erase c).filter
    (fun e => decide (e.1 ∈ buyList ∧ e.2 < maxWeight)) = front at hperm hshares
  obtain ⟨cid, cweight⟩ := c
  have hkeys : ((front ++ [(cid, cweight)]).map Prod.fst).Nodup :=
    (hperm.map Prod.fst).nodup_iff.mpr hnodup
  rw [List.map_append, List.nodup_append] at hkeys
  have hnotFront : cid ∉ front.map Prod.fst :=
    fun hmem => hkeys.2.2 cid hmem cid List.mem_cons_self rfl
  have hfront : ∀ d ∈ front, d ∈ singlePositionCandidates eligibleTargets buyList maxWeight :=
    fun d hd => hperm.mem_iff.mp (List.mem_append_left _ hd)
  have hfrontWeights : CandidateWeights maxWeight
      (candidateTotal eligibleTargets buyList maxWeight) front :=
    fun d hd => hweights d (hfront d hd)
  -- those before `c` have taken the whole of their room
  have hsum : ((singlePositionShares maxWeight (candidateTotal eligibleTargets buyList maxWeight)
      front (singlePositionExcess eligibleTargets maxWeight)).map Prod.snd).sum =
      roomOf maxWeight front := by
    rw [sum_shares_eq hkeys.1]
    refine congrArg List.sum (List.map_congr_left fun d hd => ?_)
    split
    · rename_i hdpos
      have hdne : d.1 ≠ cid := fun heq => hnotFront (heq ▸ List.mem_map_of_mem hd)
      have hshare := hshares d (hfront d hd)
      rw [singlePositionShares_append, shareOf_append_of_ne hdne] at hshare
      rw [hshare, hfilled d (mem_weighted.mpr ⟨hfront d hd, hdpos⟩)]
    · rename_i hdzero
      exact (shareOf_singlePositionShares maxWeight _ hfrontWeights hkeys.1 hexcess d hd).2.2
        (le_antisymm (not_lt.mp hdzero) (hfrontWeights d hd).1)
  have hroom : roomOf maxWeight (singlePositionCandidates eligibleTargets buyList maxWeight) =
      roomOf maxWeight front + (maxWeight - cweight) := by
    have hsame := (hperm.map fun d => if 0 < d.2 then maxWeight - d.2 else 0).sum_eq
    rw [List.map_append, List.sum_append, List.map_cons, List.map_nil, List.sum_singleton,
      if_pos hcpos] at hsame
    exact hsame.symm
  have hlast := hshares (cid, cweight) hcmem
  rw [singlePositionShares_append, shareOf_append_self (by rwa [keys_singlePositionShares]), hsum,
    hfilled (cid, cweight) hc] at hlast
  rw [hroom, add_sub_cancel_right]
  exact min_eq_right_iff.mp hlast

end Placement

/-- The excess above the single-position cap is fully and fairly placed exactly when the
order of the candidates decides nothing. -/
theorem excessPlaced_iff (eligibleTargets : Dict String Decimal) (buyList : List String)
    (maxWeight : Decimal) (hnonneg : NonnegWeights eligibleTargets) :
    ExcessPlaced eligibleTargets buyList maxWeight ↔
      OrderDecidesNothing eligibleTargets buyList maxWeight := by
  constructor
  · intro h
    by_cases hexcess : singlePositionExcess eligibleTargets maxWeight ≤ 0
    · exact Or.inl hexcess
    · by_cases hone : (weighted
          (singlePositionCandidates eligibleTargets buyList maxWeight)).length ≤ 1
      · exact Or.inr (Or.inl hone)
      · exact Or.inr (Or.inr
          (fillsLast_of_anyOrder (not_le.mp hexcess) h.anyOrder hnonneg hone))
  · intro h
    exact ⟨fun other hperm id => anyOrder_of_decided hnonneg h hperm id,
      unplacedRemainder_of_decided hnonneg h⟩

instance (eligibleTargets : Dict String Decimal) (buyList : List String) (maxWeight : Decimal) :
    Decidable (CanAbsorb eligibleTargets buyList maxWeight) :=
  inferInstanceAs (Decidable (_ ∧ ∀ c ∈ _, _))

instance (maxWeight total excess : Decimal) (candidates : List (String × Decimal)) :
    Decidable (FillsLast maxWeight total excess candidates) :=
  inferInstanceAs (Decidable (∀ c ∈ _, _))

instance (eligibleTargets : Dict String Decimal) (buyList : List String) (maxWeight : Decimal) :
    Decidable (OrderDecidesNothing eligibleTargets buyList maxWeight) :=
  inferInstanceAs (Decidable (_ ∨ _ ∨ _))

/-- One instrument above a cap of one half, and two below it. -/
def cappedWeights : Dict String Decimal :=
  ⟨[("A", 7 / 10), ("B", 1 / 10), ("C", 1 / 10)], by decide⟩

/-- The two instruments below the cap in the other order. -/
def cappedWeightsSwapped : Dict String Decimal :=
  ⟨[("A", 7 / 10), ("C", 1 / 10), ("B", 1 / 10)], by decide⟩

/-- The two candidates have the same weight and enough room.  The first one receives one
half of the excess, the second one half of what is left, and a quarter is never placed;
with the candidates in the other order the other one receives more. -/
theorem excess_not_placed :
    ¬ ExcessPlaced cappedWeights ["A", "B", "C"] (1 / 2) ∧
      CanAbsorb cappedWeights ["A", "B", "C"] (1 / 2) ∧
      unplacedRemainder cappedWeights ["A", "B", "C"] (1 / 2) = 1 / 20 ∧
      (applySinglePositionMaxWeight cappedWeights ["A", "B", "C"] (1 / 2)).1.get? "B" =
        some (1 / 5) ∧
      (applySinglePositionMaxWeight cappedWeightsSwapped ["A", "B", "C"] (1 / 2)).1.get? "B" =
        some (3 / 20) := by
  refine ⟨?_, by decide +kernel, by decide +kernel, by decide +kernel, by decide +kernel⟩
  intro h
  have hsame := h.anyOrder cappedWeightsSwapped ((List.Perm.swap _ _ _).cons _) "B"
  exact absurd hsame (by decide +kernel)

/-- With a single candidate the excess is placed. -/
theorem excess_placed_single :
    ExcessPlaced cappedWeights ["A", "B"] (1 / 2) :=
  (excessPlaced_iff cappedWeights ["A", "B"] (1 / 2) (by decide +kernel)).mpr (by decide +kernel)

end LotusManage.Engine
