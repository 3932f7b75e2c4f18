import LotusManage.Engine.Valuation

/-!
# The trading universe

`src/core/rebalance/universe.py`.  The model targets are filtered by their shelf
status, then every held instrument that is not a target yet joins the universe:
an instrument that the shelf does not allow to trade is locked at its current
weight, any other one gets a target of zero.
-/

namespace LotusManage.Engine

/-- The accumulators of `build_universe`. -/
structure Universe where
  eligibleTargets : Dict String Decimal := Dict.empty
  excluded : List ExcludedInstrument := []
  buyList : List String := []
  sellList : List String := []
  sellOnlyExcess : Decimal := 0
  shelfMissing : List String := []

/-- `_model_target_exclusion_reason` -/
def modelTargetExclusionReason (shelfEntry : ShelfEntry) (options : EngineOptions) :
    Option String :=
  match shelfEntry.status with
  | .banned => some "SHELF_STATUS_BANNED"
  | .suspended => some "SHELF_STATUS_SUSPENDED"
  | .restricted => if options.allowRestricted then none else some "SHELF_STATUS_RESTRICTED"
  | .approved => none
  | .sellOnly => none

/-- `_add_model_target_to_universe` -/
def addModelTargetToUniverse (shelfById : Dict String ShelfEntry) (options : EngineOptions)
    (acc : Universe) (target : ModelTarget) : Universe :=
  match shelfById.get? target.instrumentId with
  | none => { acc with shelfMissing := acc.shelfMissing ++ [target.instrumentId] }
  | some shelfEntry =>
    match modelTargetExclusionReason shelfEntry options with
    | some reason =>
      { acc with excluded := acc.excluded ++ [⟨target.instrumentId, reason⟩] }
    | none =>
      if shelfEntry.status = .sellOnly then
        { acc with
          eligibleTargets := acc.eligibleTargets.set target.instrumentId 0
          sellList := acc.sellList ++ [target.instrumentId]
          excluded := acc.excluded ++ [⟨target.instrumentId, "SHELF_STATUS_SELL_ONLY"⟩]
          sellOnlyExcess := acc.sellOnlyExcess + target.weight }
      else
        { acc with
          eligibleTargets := acc.eligibleTargets.set target.instrumentId target.weight
          buyList := acc.buyList ++ [target.instrumentId]
          sellList := acc.sellList ++ [target.instrumentId] }

/-- `_current_position_weight` -/
def currentPositionWeight (currentVal : SimulatedState) (instrumentId : String) :
    Option Decimal :=
  (currentVal.positions.find? (fun position => position.instrumentId = instrumentId)).map
    (·.weight)

/-- `_locked_position_reason` -/
def lockedPositionReason (shelfEntry : Option ShelfEntry) : Option String :=
  match shelfEntry with
  | none => some "LOCKED_DUE_TO_MISSING_SHELF"
  | some entry =>
    match entry.status with
    | .suspended | .banned | .restricted => some ("LOCKED_DUE_TO_" ++ entry.status.text)
    | .approved | .sellOnly => none

/-- `_add_portfolio_position_to_universe` -/
def addPortfolioPositionToUniverse (shelfById : Dict String ShelfEntry)
    (currentVal : SimulatedState) (acc : Universe) (position : Position) : Universe :=
  if position.quantity = 0 ∨ acc.eligibleTargets.contains position.instrumentId then acc
  else
    match lockedPositionReason (shelfById.get? position.instrumentId) with
    | some reason =>
      match currentPositionWeight currentVal position.instrumentId with
      | some weight =>
        { acc with
          eligibleTargets := acc.eligibleTargets.set position.instrumentId weight
          excluded := acc.excluded ++ [⟨position.instrumentId, reason⟩] }
      | none => acc
    | none =>
      { acc with
        eligibleTargets := acc.eligibleTargets.set position.instrumentId 0
        sellList := acc.sellList ++ [position.instrumentId] }

/-- `build_universe`.  The instruments that the shelf lacks are returned with the
universe; the caller appends them to the data-quality log. -/
def buildUniverse (model : ModelPortfolio) (portfolio : PortfolioSnapshot)
    (shelf : List ShelfEntry) (options : EngineOptions) (currentVal : SimulatedState) : Universe :=
  let shelfById := shelfByInstrument shelf
  let acc := model.targets.foldl (addModelTargetToUniverse shelfById options) {}
  portfolio.positions.foldl (addPortfolioPositionToUniverse shelfById currentVal) acc

end LotusManage.Engine
