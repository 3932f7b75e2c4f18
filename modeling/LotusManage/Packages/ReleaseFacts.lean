import Mathlib.Data.List.Perm.Lattice
import LotusManage.Lib.Checks
import LotusManage.Packages.ServiceRuns

/-!
# What a built package says about its command

`BuiltFrom` is all that the proofs use of `_build_package`: the scope and the governance fields
of the package are those of the command, its instructions carry the mappings of the command in
some order, and its source revisions are those of the command with three derived ones.
`builtFrom_of_buildPackage` proves it, check by check.
-/

namespace LotusManage.Packages

open LotusManage.Checks (bind_eq_ok forall₂_of_mapM)
open LotusManage.Engine (SecurityTradeIntent)

/-! ## Mappings -/

variable {hashing : PackageHashing} {command : ReleaseCommand} {intents : List SecurityTradeIntent}
  {instructions : List ApprovedInstruction} {run : RunRecord} {sources : ReleaseSources}
  {package : InstructionPackage}

theorem mapping_of_buildInstruction {intent : SecurityTradeIntent}
    {instruction : ApprovedInstruction}
    (h : buildInstruction hashing command intent = .ok instruction)
    (haccount : ∀ mapping ∈ command.mappings, mapping.accountKey = command.accountKey) :
    instruction.mapping ∈ command.mappings ∧
      instruction.mapping.originalIntentId = intent.intentId ∧
      instruction.instructionId = instructionId hashing command intent.intentId := by
  unfold buildInstruction at h
  split at h
  · rename_i quantity notional mapping _ _ hmapping
    split at h
    · cases h
    · cases h
      have hmem := List.mem_of_find?_eq_some hmapping
      have hid : mapping.originalIntentId = intent.intentId := by
        simpa using List.find?_some hmapping
      refine ⟨?_, rfl, rfl⟩
      have heq : mapping =
          { mapping with
            originalIntentId := intent.intentId
            accountKey := command.accountKey } := by
        rw [← hid, ← haccount mapping hmem]
      rw [heq] at hmem
      exact hmem
  · cases h

theorem ids_of_forall₂
    (haccount : ∀ mapping ∈ command.mappings, mapping.accountKey = command.accountKey)
    (h : List.Forall₂ (fun intent instruction =>
      buildInstruction hashing command intent = .ok instruction) intents instructions) :
    (∀ instruction ∈ instructions, instruction.mapping ∈ command.mappings) ∧
      instructions.map (fun instruction => instruction.mapping.originalIntentId) =
        intents.map SecurityTradeIntent.intentId ∧
      instructions.map ApprovedInstruction.instructionId =
        (intents.map SecurityTradeIntent.intentId).map (instructionId hashing command) := by
  induction h with
  | nil => exact ⟨nofun, rfl, rfl⟩
  | cons hbuilt _ ih =>
    obtain ⟨hmem, hid, hinstruction⟩ := mapping_of_buildInstruction hbuilt haccount
    obtain ⟨hmems, hids, hinstructions⟩ := ih
    refine ⟨?_, ?_, ?_⟩
    · intro instruction hinst
      obtain rfl | hinst := List.mem_cons.mp hinst
      · exact hmem
      · exact hmems instruction hinst
    · rw [List.map_cons, List.map_cons, hid, hids]
    · rw [List.map_cons, List.map_cons, List.map_cons, hinstruction, hinstructions]

theorem perm_of_subset_of_keys {α β : Type} {key : α → β} {xs ys : List α}
    (hxs : (xs.map key).Nodup) (hys : (ys.map key).Nodup) (hsub : xs ⊆ ys)
    (hkeys : ys.map key ⊆ xs.map key) : xs.Perm ys := by
  refine (List.perm_ext_iff_of_nodup hxs.of_map hys.of_map).mpr ?_
  intro a
  refine ⟨fun ha => hsub ha, ?_⟩
  intro ha
  obtain ⟨b, hb, hkey⟩ := List.mem_map.mp (hkeys (List.mem_map_of_mem ha))
  have hsame : b = a := List.inj_on_of_nodup_map hys (hsub hb) ha hkey
  exact hsame ▸ hb

theorem checkMappings_eq_ok {mappings : List MappingEvidence} {accountKey : String} {value : Unit}
    (h : checkMappings mappings intents accountKey = .ok value) :
    (mappings.map MappingEvidence.originalIntentId).Nodup ∧
      mappings.map MappingEvidence.originalIntentId ⊆
        intents.map SecurityTradeIntent.intentId ∧
      ∀ mapping ∈ mappings, mapping.accountKey = accountKey := by
  unfold checkMappings at h
  dsimp only at h
  split at h
  · cases h
  · rename_i hcovered
    obtain ⟨hnodup, hsame⟩ := not_or.mp hcovered
    split at h
    · cases h
    · rename_i haccount
      refine ⟨not_not.mp hnodup, (not_not.mp hsame).1, ?_⟩
      intro mapping hmem
      by_contra hne
      exact haccount (List.any_eq_true.mpr ⟨mapping, hmem, by simpa using hne⟩)

theorem mappings_of_instructionsFromResult {intentHash : String}
    (h : instructionsFromResult hashing command run = .ok (instructions, intentHash))
    (hids : (instructions.map ApprovedInstruction.instructionId).Nodup) :
    (instructions.map ApprovedInstruction.mapping).Perm command.mappings ∧
      (command.mappings.map MappingEvidence.originalIntentId).Nodup := by
  unfold instructionsFromResult at h
  obtain ⟨intents, _, h⟩ := bind_eq_ok h
  obtain ⟨_, hmappings, h⟩ := bind_eq_ok h
  obtain ⟨_, _, h⟩ := bind_eq_ok h
  obtain ⟨built, hbuilt, h⟩ := bind_eq_ok h
  cases h
  obtain ⟨hnodup, hcovered, haccount⟩ := checkMappings_eq_ok hmappings
  obtain ⟨hmems, horiginal, hinstructions⟩ := ids_of_forall₂ haccount (forall₂_of_mapM hbuilt)
  refine ⟨?_, hnodup⟩
  have hmap : (instructions.map ApprovedInstruction.mapping).map
      MappingEvidence.originalIntentId = intents.map SecurityTradeIntent.intentId := by
    rw [List.map_map]
    exact horiginal
  -- equal instruction ids come from equal intents
  have hintents : (intents.map SecurityTradeIntent.intentId).Nodup := by
    rw [hinstructions] at hids
    exact hids.of_map
  refine perm_of_subset_of_keys (hmap ▸ hintents) hnodup ?_ (hmap ▸ hcovered)
  intro mapping hmem
  obtain ⟨instruction, hinst, rfl⟩ := List.mem_map.mp hmem
  exact hmems instruction hinst

/-! ## The package of a command -/

/-- The identity of a revision. -/
def SourceRevision.identity (revision : SourceRevision) : String × String :=
  (revision.sourceType, revision.sourceId)

/-- What the proofs use of a package that was built from a command. -/
structure BuiltFrom (command : ReleaseCommand) (package : InstructionPackage) : Prop where
  key : package.key = command.key
  scope : samePackageScope package command
  governance : samePackageGovernance package command
  complete : package.supersedesPackageId.isNone = package.supersedesPackageVersion.isNone
  mappings : (package.instructions.map ApprovedInstruction.mapping).Perm command.mappings
  mappingIds : (command.mappings.map MappingEvidence.originalIntentId).Nodup
  revisions : ∃ derived : List SourceRevision,
    (∀ revision ∈ derived, revision.sourceType ∈ derivedSourceTypes) ∧
    ((derived ++ command.sourceRevisions).map SourceRevision.identity).Nodup ∧
    package.sourceRevisions =
      (derived ++ command.sourceRevisions).insertionSort SourceRevision.le

/-- The material of a package: what its approval binds. -/
def InstructionPackage.material (package : InstructionPackage) : ApprovedMaterial :=
  { tenantId := package.tenantId
    portfolioAccountScope := package.accountKey
    waveId := package.waveId
    waveItemId := package.waveItemId
    rebalanceRunId := package.rebalanceRunId
    mandateId := package.mandateId
    mandateVersion := package.mandateVersion
    modelPortfolioId := package.modelPortfolioId
    modelPortfolioVersion := package.modelPortfolioVersion
    policyRevision := package.policyRevision
    approvedIntentHash := package.approvedIntentHash
    instructions := package.instructions
    sourceRevisions := package.sourceRevisions
    fundingEvidence := package.fundingEvidence }

theorem loadCurrentMandate_eq_ok {portfolioId : String} {mandate : Mandate}
    (h : loadCurrentMandate sources command portfolioId = .ok mandate) :
    mandate.mandateId = command.mandateId ∧ mandate.mandateVersion = command.mandateVersion ∧
      mandate.modelPortfolioId = command.modelPortfolioId ∧
      mandate.modelPortfolioVersion = command.modelPortfolioVersion := by
  unfold loadCurrentMandate at h
  split at h
  · cases h
  · split at h
    · cases h
    · rename_i hcurrent
      cases h
      simp only [not_or, not_not] at hcurrent
      exact hcurrent

theorem sourceRevisions_eq_ok {proofPack : ProofPack} {mandate : Mandate}
    {revisions : List SourceRevision}
    (h : sourceRevisions command proofPack mandate run = .ok revisions) :
    ∃ derived : List SourceRevision,
      (∀ revision ∈ derived, revision.sourceType ∈ derivedSourceTypes) ∧
      ((derived ++ command.sourceRevisions).map SourceRevision.identity).Nodup ∧
      revisions = (derived ++ command.sourceRevisions).insertionSort SourceRevision.le := by
  unfold sourceRevisions at h
  dsimp only at h
  split at h
  · rename_i hnodup
    cases h
    refine ⟨derivedRevisions command proofPack mandate run, ?_, hnodup, rfl⟩
    intro revision hmem
    simp only [derivedRevisions, List.mem_cons, List.not_mem_nil, or_false] at hmem
    obtain rfl | rfl | rfl := hmem
    · exact List.mem_cons_self
    · exact List.mem_cons_of_mem _ List.mem_cons_self
    · exact List.mem_cons_of_mem _ (List.mem_cons_of_mem _ List.mem_cons_self)
  · cases h

theorem fromMaterial_eq_ok {material : InstructionPackage}
    (h : fromMaterial hashing material = .ok package) :
    material.supersedesPackageId.isNone = material.supersedesPackageVersion.isNone ∧
      (material.instructions.map ApprovedInstruction.instructionId).Nodup ∧
      package = { material with contentHash := hashing.package material.hashPayload } := by
  unfold fromMaterial at h
  split at h
  · cases h
  · rename_i hcomplete
    split at h
    · cases h
    · rename_i hids
      split at h
      · cases h
      · cases h
        exact ⟨not_not.mp hcomplete, not_not.mp hids, rfl⟩

theorem builtFrom_of_buildPackage {store : PackageStore} {createdAt : Int} {materialHash : String}
    (h : buildPackage hashing store sources createdAt command = .ok (package, materialHash)) :
    BuiltFrom command package ∧ validateSupersession store command = .ok () ∧
      package.contentHash = hashing.package package.hashPayload ∧
      materialHash = hashing.material package.material := by
  unfold buildPackage at h
  obtain ⟨waveItem, _, h⟩ := bind_eq_ok h
  obtain ⟨proofPack, _, h⟩ := bind_eq_ok h
  obtain ⟨mandate, hmandate, h⟩ := bind_eq_ok h
  obtain ⟨run, _, h⟩ := bind_eq_ok h
  obtain ⟨_, _, h⟩ := bind_eq_ok h
  obtain ⟨⟨instructions, intentHash⟩, hinstructions, h⟩ := bind_eq_ok h
  obtain ⟨revisions, hrevisions, h⟩ := bind_eq_ok h
  obtain ⟨_, hsupersession, h⟩ := bind_eq_ok h
  obtain ⟨built, hbuilt, h⟩ := bind_eq_ok h
  cases h
  obtain ⟨hcomplete, hids, rfl⟩ := fromMaterial_eq_ok hbuilt
  obtain ⟨hmandateId, hmandateVersion, hmodelId, hmodelVersion⟩ :=
    loadCurrentMandate_eq_ok hmandate
  obtain ⟨hmappings, hmappingIds⟩ := mappings_of_instructionsFromResult hinstructions hids
  refine ⟨⟨rfl, ?_, ⟨rfl, rfl, rfl, rfl, rfl, rfl⟩, hcomplete, hmappings, hmappingIds,
    sourceRevisions_eq_ok hrevisions⟩, hsupersession, rfl, ?_⟩
  · exact ⟨rfl, rfl, rfl, rfl, hmandateId, hmandateVersion, hmodelId, hmodelVersion, rfl⟩
  · unfold approvedMaterialHash InstructionPackage.material packageOf
    dsimp only
    rw [hmandateId, hmandateVersion, hmodelId, hmodelVersion]

end LotusManage.Packages
