import LotusManage.Waves.Reconciliation

/-!
# Paging through the records of an operation

The loop of `_all_simulation_items`, for pages of any size: it asks for the page at its offset until
a page names no next one.

* `readSimulationItems_eq`: from an offset on, enough pages give the records behind it.
* `simulation_items_read_once`: the loop ends with every record of the operation once, in the order of
  the ordinals.
* `readSimulationItems_allSimulationItems`: with the page size of the service, the loop is
  `allSimulationItems`.
-/

namespace LotusManage.Waves

/-- The loop over pages of at most `limit` records, for at most so many pages. -/
def readSimulationItems (repo : WaveRepository) (tenantId operationId : String) (limit : Nat) :
    Nat → List WaveSimulationItemRecord → Nat → Option (List WaveSimulationItemRecord)
  | 0, _, _ => none
  | pages + 1, records, offset =>
    let page := listSimulationItems repo tenantId operationId limit offset
    match page.nextOffset with
    | none => some (records ++ page.items)
    | some next =>
      readSimulationItems repo tenantId operationId limit pages (records ++ page.items) next

/-- The loop ends, with every record of the operation once and in the order of the ordinals. -/
def ReadsEveryItem (repo : WaveRepository) (tenantId operationId : String) (limit : Nat) : Prop :=
  ∃ records,
    (∃ enough, ∀ pages, enough ≤ pages →
      readSimulationItems repo tenantId operationId limit pages [] 0 = some records) ∧
    records.Perm (simulationItemsForOperation repo.simulationItems operationId tenantId) ∧
    records.Pairwise (fun a b => a.ordinal ≤ b.ordinal)

section Loop

variable {repo : WaveRepository} {tenantId operationId : String}
  {operation : WaveSimulationOperation}

theorem readSimulationItems_eq
    (h : getSimulationOperation repo tenantId operationId = some operation) {limit : Nat}
    (hlimit : 0 < limit) {pages offset : Nat}
    (henough : (sortedSimulationItems repo tenantId operationId).length - offset < pages)
    (records : List WaveSimulationItemRecord) :
    readSimulationItems repo tenantId operationId limit pages records offset =
      some (records ++ (sortedSimulationItems repo tenantId operationId).drop offset) := by
  induction pages generalizing offset records with
  | zero => omega
  | succ pages ih =>
    obtain ⟨hitems, hoffset⟩ := listSimulationItems_of_found h limit offset
    rw [readSimulationItems, hoffset, hitems]
    by_cases hlt : offset + limit < (sortedSimulationItems repo tenantId operationId).length
    · rw [if_pos hlt]
      show readSimulationItems repo tenantId operationId limit pages _ (offset + limit) = _
      rw [ih (by omega), List.append_assoc, ← List.drop_drop, List.take_append_drop]
    · rw [if_neg hlt]
      show some _ = some _
      rw [List.take_of_length_le]
      rw [List.length_drop]
      omega

theorem readSimulationItems_allSimulationItems
    (h : getSimulationOperation repo tenantId operationId = some operation) {pages : Nat}
    (henough : (sortedSimulationItems repo tenantId operationId).length < pages) :
    readSimulationItems repo tenantId operationId simulationItemPageLimit pages [] 0 =
      some (allSimulationItems repo tenantId operationId) := by
  rw [readSimulationItems_eq h (by decide) (by omega), allSimulationItems_eq h, List.drop_zero,
    List.nil_append]

end Loop

theorem simulationItemLe_ordinal {a b : WaveSimulationItemRecord}
    (h : simulationItemLe a b = true) : a.ordinal ≤ b.ordinal := by
  simp only [simulationItemLe, Bool.or_eq_true, Bool.and_eq_true, decide_eq_true_eq] at h
  omega

theorem sortedSimulationItems_ordinals (repo : WaveRepository) (tenantId operationId : String) :
    (sortedSimulationItems repo tenantId operationId).Pairwise
      (fun a b => a.ordinal ≤ b.ordinal) := by
  refine (List.pairwise_insertionSort (fun a b => simulationItemLe a b = true) _).imp ?_
  intro a b hle
  exact simulationItemLe_ordinal hle

/-- For every stored operation and every page size, paging ends with every record once, in the order
of the ordinals. -/
theorem simulation_items_read_once (repo : WaveRepository) (tenantId operationId : String)
    (operation : WaveSimulationOperation)
    (h : getSimulationOperation repo tenantId operationId = some operation) (limit : Nat)
    (hlimit : 0 < limit) : ReadsEveryItem repo tenantId operationId limit := by
  refine ⟨sortedSimulationItems repo tenantId operationId,
    ⟨(sortedSimulationItems repo tenantId operationId).length + 1, ?_⟩, ?_,
    sortedSimulationItems_ordinals repo tenantId operationId⟩
  · intro pages henough
    rw [readSimulationItems_eq h hlimit (by omega), List.drop_zero, List.nil_append]
  · exact List.perm_insertionSort _ _

theorem simulation_items_read_once_sample :
    ReadsEveryItem (repositoryAfter sampleSha256Hex sampleAdmissionCalls) "tenant-sg"
      (sampleAdmission.operation sampleSha256Hex).operationId 1 :=
  simulation_items_read_once _ _ _ (sampleAdmission.operation sampleSha256Hex) (by decide +kernel) 1
    (by decide)

end LotusManage.Waves
