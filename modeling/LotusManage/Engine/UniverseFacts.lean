import LotusManage.Engine.Universe

/-!
# What the universe contains

Every held instrument is in the universe.  An instrument that may not be bought
is there for one of two reasons: it is to be sold, with a weight of zero, or it is
locked, with the weight of its first row.
-/

namespace LotusManage.Engine

/-- The universe locked the instrument: it is excluded with the lock reason of its
shelf entry. -/
def Locked (shelf : List ShelfEntry) (excluded : List ExcludedInstrument) (id : String) : Prop :=
  ∃ reason, lockedPositionReason ((shelfByInstrument shelf).get? id) = some reason ∧
    ⟨id, reason⟩ ∈ excluded

/-- The state of the universe while it is built: which instruments its lists name,
and where the weights of the instruments that may not be bought come from. -/
structure UniverseSound (shelf : List ShelfEntry) (currentVal : SimulatedState) (acc : Universe) :
    Prop where
  buySell : ∀ id ∈ acc.buyList, id ∈ acc.sellList
  listed : ∀ id ∈ acc.sellList, id ∈ acc.eligibleTargets.keys
  lockedUnlisted : ∀ id, Locked shelf acc.excluded id →
    id ∈ acc.eligibleTargets.keys ∧ id ∉ acc.sellList
  outside : ∀ id weight, id ∉ acc.buyList → acc.eligibleTargets.get? id = some weight →
    (weight = 0 ∧ id ∈ acc.sellList) ∨
      (Locked shelf acc.excluded id ∧ currentPositionWeight currentVal id = some weight)

variable {shelf : List ShelfEntry} {options : EngineOptions} {currentVal : SimulatedState}

variable {excluded : List ExcludedInstrument} {id : String} {acc : Universe}
  {shelfById : Dict String ShelfEntry} {position : Position}

theorem UniverseSound.empty : UniverseSound shelf currentVal {} where
  buySell := fun _ h => absurd h List.not_mem_nil
  listed := fun _ h => absurd h List.not_mem_nil
  lockedUnlisted := fun _ ⟨_, _, h⟩ => absurd h List.not_mem_nil
  outside := fun id weight _ h => by
    change (Dict.empty : Dict String Decimal).get? id = some weight at h
    rw [Dict.get?_empty] at h
    cases h

theorem Locked.mono {excluded' : List ExcludedInstrument} (hsub : excluded ⊆ excluded')
    (h : Locked shelf excluded id) : Locked shelf excluded' id := by
  obtain ⟨reason, hreason, hmem⟩ := h
  exact ⟨reason, hreason, hsub hmem⟩

theorem Locked.of_append {other reason : String}
    (h : Locked shelf (excluded ++ [⟨other, reason⟩]) id)
    (hreason : lockedPositionReason ((shelfByInstrument shelf).get? other) ≠ some reason) :
    Locked shelf excluded id := by
  obtain ⟨reason', hlock, hmem⟩ := h
  rcases List.mem_append.mp hmem with hold | hnew
  · exact ⟨reason', hlock, hold⟩
  · cases List.mem_singleton.mp hnew
    exact absurd hlock hreason

theorem lockedPositionReason_ne_of_exclusion {entry : ShelfEntry} {reason : String}
    (h : modelTargetExclusionReason entry options = some reason) :
    lockedPositionReason (some entry) ≠ some reason := by
  unfold modelTargetExclusionReason at h
  unfold lockedPositionReason
  dsimp only
  cases hstatus : entry.status with
  | approved | sellOnly => simp
  | banned | suspended =>
    rw [hstatus] at h
    cases h
    decide
  | restricted =>
    rw [hstatus] at h
    dsimp only at h
    split at h
    · cases h
    · cases h
      decide

/-- While the model targets are added the universe is sound and locks nothing. -/
structure ModelUniverse (shelf : List ShelfEntry) (currentVal : SimulatedState) (acc : Universe) :
    Prop where
  sound : UniverseSound shelf currentVal acc
  unlocked : ∀ id, ¬ Locked shelf acc.excluded id

theorem ModelUniverse.addModelTarget (h : ModelUniverse shelf currentVal acc) (target : ModelTarget) :
    ModelUniverse shelf currentVal
      (addModelTargetToUniverse (shelfByInstrument shelf) options acc target) := by
  obtain ⟨hsound, hunlocked⟩ := h
  have houtside : ∀ id weight, id ∉ acc.buyList →
      acc.eligibleTargets.get? id = some weight → weight = 0 ∧ id ∈ acc.sellList := by
    intro id weight hbuy hget
    rcases hsound.outside id weight hbuy hget with hzero | ⟨hlocked, _⟩
    · exact hzero
    · exact absurd hlocked (hunlocked id)
  have hlisted : ∀ weight, ∀ id ∈ acc.sellList ++ [target.instrumentId],
      id ∈ (acc.eligibleTargets.set target.instrumentId weight).keys := by
    intro weight id hid
    rw [Dict.mem_keys_set]
    rcases List.mem_append.mp hid with hid | hid
    · exact Or.inr (hsound.listed id hid)
    · exact Or.inl (List.mem_singleton.mp hid)
  unfold addModelTargetToUniverse
  split
  · exact ⟨⟨hsound.buySell, hsound.listed, hsound.lockedUnlisted, hsound.outside⟩, hunlocked⟩
  · rename_i entry hentry
    split
    · rename_i reason hreason
      have hstill : ∀ id, ¬ Locked shelf (acc.excluded ++ [⟨target.instrumentId, reason⟩]) id := by
        intro id hlocked
        refine hunlocked id (hlocked.of_append ?_)
        rw [hentry]
        exact lockedPositionReason_ne_of_exclusion hreason
      refine ⟨⟨hsound.buySell, hsound.listed, fun id h => absurd h (hstill id), ?_⟩, hstill⟩
      intro id weight hbuy hget
      rcases hsound.outside id weight hbuy hget with hzero | ⟨hlocked, _⟩
      · exact Or.inl hzero
      · exact absurd hlocked (hunlocked id)
    · split
      · rename_i hsellOnly
        have hstill : ∀ id, ¬ Locked shelf
            (acc.excluded ++ [⟨target.instrumentId, "SHELF_STATUS_SELL_ONLY"⟩]) id := by
          intro id hlocked
          refine hunlocked id (hlocked.of_append ?_)
          rw [hentry, lockedPositionReason, hsellOnly]
          exact nofun
        refine ⟨⟨?_, hlisted 0, fun id h => absurd h (hstill id), ?_⟩, hstill⟩
        · exact fun id hid => List.mem_append_left _ (hsound.buySell id hid)
        · intro id weight hbuy hget
          dsimp only at hbuy hget ⊢
          rw [Dict.get?_set] at hget
          split at hget
          · rename_i hid
            cases hget
            exact Or.inl ⟨rfl, List.mem_append_right _ (List.mem_singleton.mpr hid)⟩
          · obtain ⟨hzero, hsell⟩ := houtside id weight hbuy hget
            exact Or.inl ⟨hzero, List.mem_append_left _ hsell⟩
      · refine ⟨⟨?_, hlisted target.weight, fun id h => absurd h (hunlocked id), ?_⟩, hunlocked⟩
        · intro id hid
          rcases List.mem_append.mp hid with hid | hid
          · exact List.mem_append_left _ (hsound.buySell id hid)
          · exact List.mem_append_right _ hid
        · intro id weight hbuy hget
          dsimp only at hbuy hget ⊢
          rw [List.mem_append, not_or] at hbuy
          have hid : id ≠ target.instrumentId := fun hid => hbuy.2 (List.mem_singleton.mpr hid)
          rw [Dict.get?_set, if_neg hid] at hget
          obtain ⟨hzero, hsell⟩ := houtside id weight hbuy.1 hget
          exact Or.inl ⟨hzero, List.mem_append_left _ hsell⟩

theorem UniverseSound.addPosition (h : UniverseSound shelf currentVal acc) (position : Position) :
    UniverseSound shelf currentVal
      (addPortfolioPositionToUniverse (shelfByInstrument shelf) currentVal acc position) := by
  unfold addPortfolioPositionToUniverse
  split
  · exact h
  · rename_i hskip
    rw [not_or] at hskip
    have hnew : position.instrumentId ∉ acc.eligibleTargets.keys := fun hkey =>
      hskip.2 ((Dict.contains_eq_true_iff _ _).mpr hkey)
    split
    · rename_i reason hreason
      split
      · rename_i weight hweight
        have hlock : Locked shelf (acc.excluded ++ [⟨position.instrumentId, reason⟩])
            position.instrumentId :=
          ⟨reason, hreason, List.mem_append_right _ (List.mem_singleton.mpr rfl)⟩
        refine ⟨h.buySell, ?_, ?_, ?_⟩
        · exact fun id hid => (Dict.mem_keys_set _ _ _ _).mpr (Or.inr (h.listed id hid))
        · rintro id ⟨reason', hlocked, hmem⟩
          rcases List.mem_append.mp hmem with hold | hself
          · obtain ⟨hkey, hsell⟩ := h.lockedUnlisted id ⟨reason', hlocked, hold⟩
            exact ⟨(Dict.mem_keys_set _ _ _ _).mpr (Or.inr hkey), hsell⟩
          · cases List.mem_singleton.mp hself
            exact ⟨(Dict.mem_keys_set _ _ _ _).mpr (Or.inl rfl),
              fun hsell => hnew (h.listed _ hsell)⟩
        · intro id weight' hbuy hget
          dsimp only at hbuy hget ⊢
          rw [Dict.get?_set] at hget
          split at hget
          · rename_i hid
            cases hget
            rw [hid]
            exact Or.inr ⟨hlock, hweight⟩
          · rcases h.outside id weight' hbuy hget with hzero | ⟨hlocked, hcurrent⟩
            · exact Or.inl hzero
            · exact Or.inr ⟨hlocked.mono (List.subset_append_left _ _), hcurrent⟩
      · exact h
    · refine ⟨fun id hid => List.mem_append_left _ (h.buySell id hid), ?_, ?_, ?_⟩
      · intro id hid
        refine (Dict.mem_keys_set _ _ _ _).mpr ?_
        rcases List.mem_append.mp hid with hid | hid
        · exact Or.inr (h.listed id hid)
        · exact Or.inl (List.mem_singleton.mp hid)
      · intro id hlocked
        obtain ⟨hkey, hsell⟩ := h.lockedUnlisted id hlocked
        refine ⟨(Dict.mem_keys_set _ _ _ _).mpr (Or.inr hkey), fun hmem => ?_⟩
        rcases List.mem_append.mp hmem with hmem | hmem
        · exact hsell hmem
        · exact hnew (List.mem_singleton.mp hmem ▸ hkey)
      · intro id weight hbuy hget
        dsimp only at hbuy hget ⊢
        rw [Dict.get?_set] at hget
        split at hget
        · rename_i hid
          cases hget
          exact Or.inl ⟨rfl, List.mem_append_right _ (List.mem_singleton.mpr hid)⟩
        · rcases h.outside id weight hbuy hget with ⟨hzero, hsell⟩ | hlocked
          · exact Or.inl ⟨hzero, List.mem_append_left _ hsell⟩
          · exact Or.inr hlocked

theorem buildUniverse_sound (model : ModelPortfolio) (portfolio : PortfolioSnapshot)
    (shelf : List ShelfEntry) (options : EngineOptions) (currentVal : SimulatedState) :
    UniverseSound shelf currentVal (buildUniverse model portfolio shelf options currentVal) := by
  unfold buildUniverse
  have hmodel : ∀ (targets : List ModelTarget) (acc : Universe),
      ModelUniverse shelf currentVal acc →
      ModelUniverse shelf currentVal
        (targets.foldl (addModelTargetToUniverse (shelfByInstrument shelf) options) acc) := by
    intro targets
    induction targets with
    | nil => exact fun acc h => h
    | cons target targets ih => exact fun acc h => ih _ (h.addModelTarget target)
  have hpositions : ∀ (positions : List Position) (acc : Universe),
      UniverseSound shelf currentVal acc →
      UniverseSound shelf currentVal
        (positions.foldl (addPortfolioPositionToUniverse (shelfByInstrument shelf) currentVal)
          acc) := by
    intro positions
    induction positions with
    | nil => exact fun acc h => h
    | cons position positions ih => exact fun acc h => ih _ (h.addPosition position)
  refine hpositions _ _ (hmodel _ _ ⟨UniverseSound.empty, ?_⟩).sound
  exact fun id ⟨_, _, hmem⟩ => absurd hmem List.not_mem_nil

/-! ## Held instruments -/

theorem mem_keys_addPosition (h : id ∈ acc.eligibleTargets.keys) :
    id ∈ (addPortfolioPositionToUniverse shelfById currentVal acc
      position).eligibleTargets.keys := by
  unfold addPortfolioPositionToUniverse
  split
  · exact h
  · split
    · split
      · exact (Dict.mem_keys_set _ _ _ _).mpr (Or.inr h)
      · exact h
    · exact (Dict.mem_keys_set _ _ _ _).mpr (Or.inr h)

theorem mem_keys_addPosition_self (acc : Universe) (hquantity : position.quantity ≠ 0)
    (hweight : (currentPositionWeight currentVal position.instrumentId).isSome = true) :
    position.instrumentId ∈
      (addPortfolioPositionToUniverse shelfById currentVal acc position).eligibleTargets.keys := by
  unfold addPortfolioPositionToUniverse
  split
  · rename_i hskip
    rcases hskip with hzero | hcontains
    · exact absurd hzero hquantity
    · exact (Dict.contains_eq_true_iff _ _).mp hcontains
  · split
    · split
      · exact (Dict.mem_keys_set _ _ _ _).mpr (Or.inl rfl)
      · rename_i hnone
        rw [hnone] at hweight
        cases hweight
    · exact (Dict.mem_keys_set _ _ _ _).mpr (Or.inl rfl)

theorem mem_keys_addPositions {shelfById : Dict String ShelfEntry} {id : String} :
    ∀ (positions : List Position) (acc : Universe), id ∈ acc.eligibleTargets.keys →
      id ∈ (positions.foldl (addPortfolioPositionToUniverse shelfById currentVal)
        acc).eligibleTargets.keys
  | [], _, h => h
  | _ :: positions, _, h => mem_keys_addPositions positions _ (mem_keys_addPosition h)

theorem mem_keys_addPositions_self {shelfById : Dict String ShelfEntry} {position : Position}
    (hquantity : position.quantity ≠ 0)
    (hweight : (currentPositionWeight currentVal position.instrumentId).isSome = true) :
    ∀ (positions : List Position) (acc : Universe), position ∈ positions →
      position.instrumentId ∈ (positions.foldl
        (addPortfolioPositionToUniverse shelfById currentVal) acc).eligibleTargets.keys
  | [], _, hmem => absurd hmem List.not_mem_nil
  | head :: positions, acc, hmem => by
    rw [List.foldl_cons]
    rcases List.mem_cons.mp hmem with rfl | hmem
    · exact mem_keys_addPositions positions _ (mem_keys_addPosition_self acc hquantity hweight)
    · exact mem_keys_addPositions_self hquantity hweight positions _ hmem

theorem mem_keys_buildUniverse (model : ModelPortfolio) {portfolio : PortfolioSnapshot}
    (shelf : List ShelfEntry) (options : EngineOptions) (hmem : position ∈ portfolio.positions)
    (hquantity : position.quantity ≠ 0)
    (hweight : (currentPositionWeight currentVal position.instrumentId).isSome = true) :
    position.instrumentId ∈
      (buildUniverse model portfolio shelf options currentVal).eligibleTargets.keys :=
  mem_keys_addPositions_self hquantity hweight portfolio.positions _ hmem

theorem currentPositionWeight_buildSimulatedState (portfolio : PortfolioSnapshot)
    (marketData : MarketDataSnapshot) (shelf : List ShelfEntry) (options : EngineOptions)
    (id : String) :
    currentPositionWeight (buildSimulatedState portfolio marketData shelf options) id =
      (portfolio.positions.find? (fun position => position.instrumentId = id)).map
        (fun position => positionValue marketData portfolio.baseCurrency options position /
          safeTotalValue (totalPortfolioValue portfolio marketData options)) := by
  unfold currentPositionWeight buildSimulatedState
  dsimp only
  rw [List.find?_map, Option.map_map]
  have hid : ∀ position : Position, ((fun summary : PositionSummary =>
      decide (summary.instrumentId = id)) ∘ fun position =>
        withAssetClass (shelfByInstrument shelf)
          { valuePosition position marketData portfolio.baseCurrency options with
            weight := (valuePosition position marketData portfolio.baseCurrency
              options).valueInBaseCcy.amount /
                safeTotalValue (totalPortfolioValue portfolio marketData options) }) position =
      decide (position.instrumentId = id) := by
    intro position
    dsimp only [Function.comp_def]
    unfold withAssetClass
    split <;> rfl
  rw [funext hid]
  refine congrArg (fun f => Option.map f _) (funext fun position => ?_)
  dsimp only [Function.comp_def]
  unfold withAssetClass
  split <;> rfl

end LotusManage.Engine
