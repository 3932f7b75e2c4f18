import LotusManage.Lib.JsonTrees
import LotusManage.Packages.Models

/-!
# What a content hash binds

`DpmApprovedInstructionPackage.from_material` and `finalize_proof_pack_content_hash`: the payload is
stripped of every `content_hash`, at every depth, the rest is hashed, and the hash is written into
the payload.

A package is the payload that its model dumps, with each decimal and each time as its text.  A proof
pack is any payload, since its facts and metrics hold arbitrary JSON.

* `binds_iff`: the hash of two sealed payloads binds everything else exactly when they agree in
  every nested content hash or differ outside of them.
* `nestedHashes_iff`: for packages the nested content hashes are those of the source revisions.
-/

namespace LotusManage.Packages

open LotusManage.Engine (Side)
open JsonTree (Same Shape Step HiddenPath Plain strip)

/-! ## Payloads -/

/-- A scalar of a JSON payload; a number that is not an integer is its text. -/
inductive JsonScalar where
  | null
  | bool (value : Bool)
  | int (value : Int)
  | number (text : String)
  | text (value : String)
  deriving DecidableEq

abbrev Json := JsonTree String JsonScalar

def Json.text (value : String) : Json := .scalar (.text value)

def Json.flag (value : Bool) : Json := .scalar (.bool value)

def Json.optional : Option String → Json
  | none => .scalar .null
  | some value => Json.text value

/-- The payload that a content hash is taken of. -/
def hashedPayload (members : List (String × Json)) : Json :=
  strip ["content_hash"] (.dict members)

/-- `payload["content_hash"] = hash_canonical_payload(strip_keys(payload, ...))` -/
def withContentHash (hashCanonicalPayload : Json → String) (members : List (String × Json)) :
    Json :=
  JsonTree.setMember members "content_hash"
    (Json.text (hashCanonicalPayload (hashedPayload members)))

/-! ## Packages -/

/-- `InstructionOrderType` in JSON. -/
def InstructionOrderType.value : InstructionOrderType → String
  | market => "MARKET"
  | limit => "LIMIT"

/-- `InstructionTimeInForce` in JSON. -/
def InstructionTimeInForce.value : InstructionTimeInForce → String
  | day => "DAY"
  | gtc => "GTC"

/-- `FundingDisposition` in JSON. -/
def FundingDisposition.value : FundingDisposition → String
  | certified => "CERTIFIED"
  | delegatedToExecutionOwner => "DELEGATED_TO_EXECUTION_OWNER"

/-- The side of an instruction in JSON. -/
def sideValue : Side → String
  | .buy => "BUY"
  | .sell => "SELL"

/-- `DpmInstructionApprovalEvidence` in JSON. -/
structure DumpedApproval where
  approvalId : String
  approvedBy : String
  approvedAt : String
  approvedMaterialHash : String
  approvalPolicyVersion : String

/-- `DpmInstructionFundingEvidence` in JSON. -/
structure DumpedFunding where
  disposition : FundingDisposition
  policyId : String
  policyVersion : String
  evidenceHash : String
  settlementAwarenessEnabled : Bool
  feeReserveCurrency : Option String := none
  feeReserveAmount : Option String := none
  delegatedSourceProduct : Option String := none
  reserve_complete : feeReserveCurrency.isSome = feeReserveAmount.isSome := by decide
  reserve_currency : feeReserveCurrency ≠ some "" := by decide
  delegation_evidence : disposition = .delegatedToExecutionOwner →
    delegatedSourceProduct ≠ none ∧ delegatedSourceProduct ≠ some "" := by decide
  certified_alone : disposition = .certified → delegatedSourceProduct = none := by decide

/-- `DpmApprovedInstruction` in JSON. -/
structure DumpedInstruction where
  instructionId : String
  originalIntentId : String
  canonicalInstrumentKey : String
  accountKey : String
  side : Side
  quantity : String
  currency : String
  orderType : InstructionOrderType
  timeInForce : InstructionTimeInForce
  settlementDate : String
  limitPrice : Option String := none
  dependencies : List String := []
  mappingRevision : String
  mappingContentHash : String

/-- `DpmApprovedInstructionPackage` in JSON, before it is hashed. -/
structure DumpedPackage where
  packageId : String
  packageVersion : String
  tenantId : String
  portfolioId : String
  accountKey : String
  waveId : String
  waveItemId : String
  rebalanceRunId : String
  proofPackId : String
  mandateId : String
  mandateVersion : String
  modelPortfolioId : String
  modelPortfolioVersion : Option String
  policyRevision : String
  sourceRevisions : List SourceRevision
  approvedIntentHash : String
  approvalEvidence : DumpedApproval
  fundingEvidence : DumpedFunding
  instructions : List DumpedInstruction
  supersedesPackageId : Option String := none
  supersedesPackageVersion : Option String := none
  createdAt : String
  releasedBy : String
  correlationId : String
  instructed : instructions ≠ [] := by decide
  supersession_complete : supersedesPackageId.isSome = supersedesPackageVersion.isSome := by decide
  instructions_distinct : (instructions.map (·.instructionId)).Nodup := by decide

def revisionPayload (revision : SourceRevision) : Json :=
  .dict
    [("source_type", Json.text revision.sourceType),
      ("source_id", Json.text revision.sourceId),
      ("source_version", Json.text revision.sourceVersion),
      ("content_hash", Json.text revision.contentHash),
      ("material", Json.flag revision.material)]

def approvalPayload (approval : DumpedApproval) : Json :=
  .dict
    [("approval_id", Json.text approval.approvalId),
      ("approved_by", Json.text approval.approvedBy),
      ("approved_at", Json.text approval.approvedAt),
      ("approved_material_hash", Json.text approval.approvedMaterialHash),
      ("approval_policy_version", Json.text approval.approvalPolicyVersion)]

def fundingPayload (funding : DumpedFunding) : Json :=
  .dict
    [("disposition", Json.text funding.disposition.value),
      ("policy_id", Json.text funding.policyId),
      ("policy_version", Json.text funding.policyVersion),
      ("evidence_hash", Json.text funding.evidenceHash),
      ("settlement_awareness_enabled", Json.flag funding.settlementAwarenessEnabled),
      ("fee_reserve_currency", Json.optional funding.feeReserveCurrency),
      ("fee_reserve_amount", Json.optional funding.feeReserveAmount),
      ("delegated_source_product", Json.optional funding.delegatedSourceProduct)]

def instructionPayload (instruction : DumpedInstruction) : Json :=
  .dict
    [("instruction_id", Json.text instruction.instructionId),
      ("original_intent_id", Json.text instruction.originalIntentId),
      ("canonical_instrument_key", Json.text instruction.canonicalInstrumentKey),
      ("account_key", Json.text instruction.accountKey),
      ("side", Json.text (sideValue instruction.side)),
      ("quantity", Json.text instruction.quantity),
      ("unit", Json.text "UNITS"),
      ("currency", Json.text instruction.currency),
      ("order_type", Json.text instruction.orderType.value),
      ("time_in_force", Json.text instruction.timeInForce.value),
      ("settlement_date", Json.text instruction.settlementDate),
      ("limit_price", Json.optional instruction.limitPrice),
      ("dependencies", .list (instruction.dependencies.map Json.text)),
      ("mapping_revision", Json.text instruction.mappingRevision),
      ("mapping_content_hash", Json.text instruction.mappingContentHash)]

/-- `cls(**values).model_dump(mode="json")` -/
def DumpedPackage.members (package : DumpedPackage) : List (String × Json) :=
  [("package_id", Json.text package.packageId),
    ("package_version", Json.text package.packageVersion),
    ("tenant_id", Json.text package.tenantId),
    ("portfolio_id", Json.text package.portfolioId),
    ("account_key", Json.text package.accountKey),
    ("wave_id", Json.text package.waveId),
    ("wave_item_id", Json.text package.waveItemId),
    ("rebalance_run_id", Json.text package.rebalanceRunId),
    ("proof_pack_id", Json.text package.proofPackId),
    ("mandate_id", Json.text package.mandateId),
    ("mandate_version", Json.text package.mandateVersion),
    ("model_portfolio_id", Json.text package.modelPortfolioId),
    ("model_portfolio_version", Json.optional package.modelPortfolioVersion),
    ("policy_revision", Json.text package.policyRevision),
    ("source_revisions", .list (package.sourceRevisions.map revisionPayload)),
    ("approved_intent_hash", Json.text package.approvedIntentHash),
    ("approval_evidence", approvalPayload package.approvalEvidence),
    ("funding_evidence", fundingPayload package.fundingEvidence),
    ("instructions", .list (package.instructions.map instructionPayload)),
    ("supersedes_package_id", Json.optional package.supersedesPackageId),
    ("supersedes_package_version", Json.optional package.supersedesPackageVersion),
    ("release_eligibility", Json.text "ELIGIBLE"),
    ("external_execution_claimed", Json.flag false),
    ("external_execution_boundary", Json.text "MANAGE_PACKAGE_IS_NOT_ORDER_OR_BOOKING"),
    ("created_at", Json.text package.createdAt),
    ("released_by", Json.text package.releasedBy),
    ("correlation_id", Json.text package.correlationId),
    ("content_hash", Json.text "")]

/-- `DpmApprovedInstructionPackage.from_material` -/
def DumpedPackage.fromMaterial (package : DumpedPackage) (hashCanonicalPayload : Json → String) :
    Json :=
  withContentHash hashCanonicalPayload package.members

/-- `finalize_proof_pack_content_hash` -/
def finalizeProofPackContentHash (hashCanonicalPayload : Json → String)
    (pack : List (String × Json)) : Json :=
  withContentHash hashCanonicalPayload pack

/-! ## What the hash binds -/

/-- The content hash of a payload. -/
def contentHashOf (payload : Json) : Option (Shape JsonScalar) :=
  payload.observe [.key "content_hash"]

/-- The payloads agree everywhere but in their own content hash. -/
def EqualOtherwise (payload payload' : Json) : Prop :=
  ∀ path, path.head? ≠ some (.key "content_hash") → payload.observe path = payload'.observe path

/-- Equal content hashes mean equal payloads. -/
def Binds (payload payload' : Json) : Prop :=
  contentHashOf payload = contentHashOf payload' → EqualOtherwise payload payload'

/-- The payloads agree in every content hash that lies below their own. -/
def SameNestedHashes (payload payload' : Json) : Prop :=
  ∀ path, HiddenPath ["content_hash"] path → path.head? ≠ some (.key "content_hash") →
    payload.observe path = payload'.observe path

/-- The payloads agree outside of all content hashes. -/
def SameOutsideHashes (payload payload' : Json) : Prop :=
  ∀ path, ¬ HiddenPath ["content_hash"] path → payload.observe path = payload'.observe path

/-- The canonical text of JSON and SHA-256 tell the two hashed payloads apart, and nothing else. -/
def TellsApart (hashCanonicalPayload : Json → String) (members members' : List (String × Json)) :
    Prop :=
  hashCanonicalPayload (hashedPayload members) = hashCanonicalPayload (hashedPayload members') ↔
    Same (hashedPayload members) (hashedPayload members')

variable {hash : Json → String} {members members' : List (String × Json)}

variable {path : List (Step String)}

variable (package : DumpedPackage)

theorem contentHashOf_withContentHash (hash : Json → String) (members : List (String × Json)) :
    contentHashOf (withContentHash hash members) =
      some (.scalar (.text (hash (hashedPayload members)))) := by
  unfold contentHashOf withContentHash
  rw [JsonTree.observe_setMember_self]
  rfl

theorem observe_withContentHash (hash : Json → String) (members : List (String × Json))
    (h : path.head? ≠ some (.key "content_hash")) :
    (withContentHash hash members).observe path = (JsonTree.dict members : Json).observe path := by
  match path, h with
  | [], _ => rfl
  | .index _ :: _, _ => rfl
  | .key k :: path, h =>
    have hne : k ≠ "content_hash" := fun heq => h (by rw [heq]; rfl)
    exact JsonTree.observe_setMember_of_ne members _ path hne

theorem contentHash_eq_iff (h : TellsApart hash members members') :
    contentHashOf (withContentHash hash members) = contentHashOf (withContentHash hash members') ↔
      SameOutsideHashes (.dict members) (.dict members') := by
  rw [contentHashOf_withContentHash, contentHashOf_withContentHash]
  simp only [Option.some.injEq, Shape.scalar.injEq, JsonScalar.text.injEq]
  exact h.trans JsonTree.same_strip_iff

theorem binds_iff (h : TellsApart hash members members') :
    Binds (withContentHash hash members) (withContentHash hash members') ↔
      SameNestedHashes (.dict members) (.dict members') ∨
        ¬ SameOutsideHashes (.dict members) (.dict members') := by
  unfold Binds
  rw [contentHash_eq_iff h]
  constructor
  · intro hbinds
    by_cases hsame : SameOutsideHashes (.dict members) (.dict members')
    · refine Or.inl (fun path _ hhead => ?_)
      have hequal := hbinds hsame path hhead
      rwa [observe_withContentHash hash members hhead,
        observe_withContentHash hash members' hhead] at hequal
    · exact Or.inr hsame
  · rintro (hnested | hdiffer) hsame
    · intro path hhead
      rw [observe_withContentHash hash members hhead, observe_withContentHash hash members' hhead]
      by_cases hhidden : HiddenPath ["content_hash"] path
      · exact hnested path hhidden hhead
      · exact hsame path hhidden
    · exact absurd hsame hdiffer

/-! ## The nested hashes of a package -/

theorem plain_text (value : String) : Plain ["content_hash"] (Json.text value) :=
  JsonTree.plain_scalar _

theorem plain_flag (value : Bool) : Plain ["content_hash"] (Json.flag value) :=
  JsonTree.plain_scalar _

theorem plain_optional (value : Option String) : Plain ["content_hash"] (Json.optional value) := by
  cases value with
  | none => exact JsonTree.plain_scalar _
  | some value => exact plain_text value

theorem plain_texts (values : List String) :
    Plain ["content_hash"] (.list (values.map Json.text) : Json) := by
  apply JsonTree.plain_list
  intro item hitem
  obtain ⟨value, _, rfl⟩ := List.mem_map.mp hitem
  exact plain_text value

theorem plain_approval (approval : DumpedApproval) :
    Plain ["content_hash"] (approvalPayload approval) := by
  apply JsonTree.plain_dict
  simp [plain_text]

theorem plain_funding (funding : DumpedFunding) :
    Plain ["content_hash"] (fundingPayload funding) := by
  apply JsonTree.plain_dict
  simp [plain_text, plain_flag, plain_optional]

theorem plain_instruction (instruction : DumpedInstruction) :
    Plain ["content_hash"] (instructionPayload instruction) := by
  apply JsonTree.plain_dict
  simp [plain_text, plain_optional, plain_texts]

theorem plain_instructions (instructions : List DumpedInstruction) :
    Plain ["content_hash"] (.list (instructions.map instructionPayload) : Json) := by
  apply JsonTree.plain_list
  intro item hitem
  obtain ⟨instruction, _, rfl⟩ := List.mem_map.mp hitem
  exact plain_instruction instruction

theorem DumpedPackage.plain_of_mem :
    ∀ member ∈ package.members, member.1 = "source_revisions" ∨ member.1 = "content_hash" ∨
      Plain ["content_hash"] member.2 := by
  simp [DumpedPackage.members, plain_text, plain_flag, plain_optional, plain_approval,
    plain_funding, plain_instructions]

theorem observe_revision (revision : SourceRevision) (h : HiddenPath ["content_hash"] path) :
    (revisionPayload revision).observe path =
      if path = [.key "content_hash"] then some (.scalar (.text revision.contentHash))
      else none := by
  match path, h with
  | [], h => exact absurd h JsonTree.not_hidden_nil
  | .index i :: path, _ => rfl
  | .key k :: path, h =>
    by_cases hk : k = "content_hash"
    · subst hk
      cases path with
      | nil => rfl
      | cons step path => cases step <;> rfl
    · have hrest : HiddenPath ["content_hash"] path := by
        apply (JsonTree.hidden_cons_iff.mp h).resolve_left
        intro hstep
        exact hk (List.mem_singleton.mp hstep)
      rw [if_neg (fun heq => hk (by injection heq with hstep _; injection hstep))]
      cases hchild : (revisionPayload revision).child (.key k) with
      | none => exact JsonTree.observe_cons_of_none hchild path
      | some inner =>
        rw [JsonTree.observe_cons_of_child hchild]
        have hmem := JsonTree.mem_of_lookup hchild
        simp only [List.mem_cons, Prod.mk.injEq, List.not_mem_nil, or_false] at hmem
        obtain ⟨_, rfl⟩ | ⟨_, rfl⟩ | ⟨_, rfl⟩ | ⟨heq, _⟩ | ⟨_, rfl⟩ := hmem
        · exact plain_text _ path hrest
        · exact plain_text _ path hrest
        · exact plain_text _ path hrest
        · exact absurd heq hk
        · exact plain_flag _ path hrest

theorem observe_revisions {revisions revisions' : List SourceRevision}
    (h : revisions.map (·.contentHash) = revisions'.map (·.contentHash))
    (hhidden : HiddenPath ["content_hash"] path) :
    (JsonTree.list (revisions.map revisionPayload) : Json).observe path =
      (JsonTree.list (revisions'.map revisionPayload) : Json).observe path := by
  match path, hhidden with
  | [], hhidden => exact absurd hhidden JsonTree.not_hidden_nil
  | .key k :: path, _ => rfl
  | .index i :: path, hhidden =>
    have hrest : HiddenPath ["content_hash"] path :=
      (JsonTree.hidden_cons_iff.mp hhidden).resolve_left (fun hstep => hstep)
    have hat : revisions[i]?.map (·.contentHash) = revisions'[i]?.map (·.contentHash) := by
      rw [← List.getElem?_map, ← List.getElem?_map, h]
    rw [JsonTree.observe, JsonTree.observe, JsonTree.child, JsonTree.child, List.getElem?_map,
      List.getElem?_map]
    cases hi : revisions[i]? with
    | none =>
      rw [hi] at hat
      rw [Option.map_eq_none_iff.mp hat.symm]
    | some revision =>
      rw [hi] at hat
      obtain ⟨revision', hi', hhash⟩ := Option.map_eq_some_iff.mp hat.symm
      rw [hi']
      show (revisionPayload revision).observe path = (revisionPayload revision').observe path
      rw [observe_revision revision hrest, observe_revision revision' hrest, hhash]

theorem DumpedPackage.observe_plain {k : String} (hk : k ≠ "content_hash")
    (hrevisions : k ≠ "source_revisions") (h : HiddenPath ["content_hash"] path) :
    (JsonTree.dict package.members : Json).observe (.key k :: path) = none := by
  cases hchild : (JsonTree.dict package.members : Json).child (.key k) with
  | none => exact JsonTree.observe_cons_of_none hchild path
  | some inner =>
    rw [JsonTree.observe_cons_of_child hchild]
    have hplain := package.plain_of_mem _ (JsonTree.mem_of_lookup hchild)
    exact ((hplain.resolve_left hrevisions).resolve_left hk) path h

theorem DumpedPackage.child_sourceRevisions :
    (JsonTree.dict package.members : Json).child (.key "source_revisions") =
      some (.list (package.sourceRevisions.map revisionPayload)) := rfl

theorem DumpedPackage.observe_revisionHash (i : Nat) :
    (JsonTree.dict package.members : Json).observe
        [.key "source_revisions", .index i, .key "content_hash"] =
      (package.sourceRevisions.map (·.contentHash))[i]?.map (fun hash => .scalar (.text hash)) := by
  rw [JsonTree.observe_cons_of_child package.child_sourceRevisions, JsonTree.observe,
    JsonTree.child, List.getElem?_map, List.getElem?_map]
  cases package.sourceRevisions[i]? <;> rfl

/-- Two packages agree in every nested content hash exactly when their source revisions have the
same content hashes. -/
theorem nestedHashes_iff (package' : DumpedPackage) :
    SameNestedHashes (.dict package.members) (.dict package'.members) ↔
      package.sourceRevisions.map (·.contentHash) =
        package'.sourceRevisions.map (·.contentHash) := by
  constructor
  · intro h
    apply List.ext_getElem?
    intro i
    have hhidden : HiddenPath ["content_hash"]
        [.key "source_revisions", .index i, .key "content_hash"] :=
      ⟨.key "content_hash", by simp, List.mem_cons_self⟩
    have hpath := h _ hhidden (by simp)
    rw [package.observe_revisionHash, package'.observe_revisionHash] at hpath
    apply Option.map_injective _ hpath
    intro hash hash' hshape
    injection hshape with hscalar
    injection hscalar
  · intro h path hhidden hhead
    match path, hhidden, hhead with
    | [], hhidden, _ => exact absurd hhidden JsonTree.not_hidden_nil
    | .index i :: path, _, _ => rfl
    | .key k :: path, hhidden, hhead =>
      have hk : k ≠ "content_hash" := fun heq => hhead (by rw [heq]; rfl)
      have hrest : HiddenPath ["content_hash"] path := by
        apply (JsonTree.hidden_cons_iff.mp hhidden).resolve_left
        intro hstep
        exact hk (List.mem_singleton.mp hstep)
      by_cases hrevisions : k = "source_revisions"
      · subst hrevisions
        rw [JsonTree.observe_cons_of_child package.child_sourceRevisions,
          JsonTree.observe_cons_of_child package'.child_sourceRevisions]
        exact observe_revisions h hrest
      · rw [package.observe_plain hk hrevisions hrest, package'.observe_plain hk hrevisions hrest]

/-! ## Which packages and packs a content hash binds -/

/-- Two packages are bound by their content hashes exactly when their source revisions have the same
content hashes or something else differs; two proof packs exactly when all their nested content
hashes are the same or something else differs. -/
theorem content_hash_binds_iff (hash : Json → String) (package package' : DumpedPackage)
    (pack pack' : List (String × Json))
    (hpackages : TellsApart hash package.members package'.members)
    (hpacks : TellsApart hash pack pack') :
    (Binds (package.fromMaterial hash) (package'.fromMaterial hash) ↔
        package.sourceRevisions.map (·.contentHash) =
            package'.sourceRevisions.map (·.contentHash) ∨
          ¬ SameOutsideHashes (.dict package.members) (.dict package'.members)) ∧
      (Binds (finalizeProofPackContentHash hash pack) (finalizeProofPackContentHash hash pack') ↔
        SameNestedHashes (.dict pack) (.dict pack') ∨
          ¬ SameOutsideHashes (.dict pack) (.dict pack')) := by
  constructor
  · rw [← nestedHashes_iff]
    exact binds_iff hpackages
  · exact binds_iff hpacks

/-- A package with one pinned source revision. -/
def pinnedPackage (correlationId revisionHash : String) : DumpedPackage where
  packageId := "pkg-1"
  packageVersion := "1"
  tenantId := "t-1"
  portfolioId := "pf-1"
  accountKey := "acc-1"
  waveId := "w-1"
  waveItemId := "wi-1"
  rebalanceRunId := "rr-1"
  proofPackId := "pp-1"
  mandateId := "m-1"
  mandateVersion := "1"
  modelPortfolioId := "mp-1"
  modelPortfolioVersion := none
  policyRevision := "p-1"
  sourceRevisions :=
    [{ sourceType := "HOLDINGS", sourceId := "h-1", sourceVersion := "1",
       contentHash := revisionHash }]
  approvedIntentHash := "sha256:aa"
  approvalEvidence :=
    { approvalId := "a-1", approvedBy := "u-1", approvedAt := "2026-01-05T09:00:00Z",
      approvedMaterialHash := "sha256:bb", approvalPolicyVersion := "1" }
  fundingEvidence :=
    { disposition := .certified, policyId := "f-1", policyVersion := "1",
      evidenceHash := "sha256:cc", settlementAwarenessEnabled := true }
  instructions :=
    [{ instructionId := "i-1", originalIntentId := "oi-1", canonicalInstrumentKey := "EQ-1",
       accountKey := "acc-1", side := .buy, quantity := "10", currency := "SGD",
       orderType := .market, timeInForce := .day, settlementDate := "2026-01-07",
       mappingRevision := "1", mappingContentHash := "sha256:dd" }]
  createdAt := "2026-01-05T09:30:00Z"
  releasedBy := "u-2"
  correlationId := correlationId

/-- The digests of the two packages of correlations `c-1` and `c-2`, and of the pack below. -/
def sampleDigest (payload : Json) : String :=
  if payload.observe [.key "correlation_id"] = some (.scalar (.text "c-1")) then
    "sha256:61eb44420071ad21442c709dc8f639a7b313c798b3f976ee45856680541ed777"
  else if payload.observe [.key "correlation_id"] = some (.scalar (.text "c-2")) then
    "sha256:2ec733b2f2ea173b5c07172ebe73e34a15a309fdc88c33b1673cd65d31c3cf1b"
  else "sha256:5efe3c25f123c19cd0608cfc133e4bc9963c26088948e9e939b9a4720141225c"

/-- A pack whose one section pins a content hash. -/
def sectionedPack (sectionHash : String) : List (String × Json) :=
  [("proof_pack_id", Json.text "pp-1"),
    ("sections", .list
      [.dict [("section_type", Json.text "lineage"), ("content_hash", Json.text sectionHash)]]),
    ("content_hash", Json.text "")]

theorem hashedPayload_pinnedPackage (correlationId revisionHash revisionHash' : String) :
    hashedPayload (pinnedPackage correlationId revisionHash).members =
      hashedPayload (pinnedPackage correlationId revisionHash').members := rfl

theorem hashedPayload_sectionedPack (sectionHash sectionHash' : String) :
    hashedPayload (sectionedPack sectionHash) = hashedPayload (sectionedPack sectionHash') := rfl

theorem tellsApart_of_eq {hash : Json → String} {members members' : List (String × Json)}
    (h : hashedPayload members = hashedPayload members') : TellsApart hash members members' := by
  unfold TellsApart
  rw [h]
  exact iff_of_true rfl (JsonTree.Same.refl _)

theorem content_hash_binds_sample :
    (Binds ((pinnedPackage "c-1" "sha256:ee").fromMaterial sampleDigest)
        ((pinnedPackage "c-2" "sha256:ff").fromMaterial sampleDigest) ↔
        ["sha256:ee"] = ["sha256:ff"] ∨
          ¬ SameOutsideHashes (.dict (pinnedPackage "c-1" "sha256:ee").members)
            (.dict (pinnedPackage "c-2" "sha256:ff").members)) ∧
      (Binds (finalizeProofPackContentHash sampleDigest (sectionedPack "sha256:11"))
        (finalizeProofPackContentHash sampleDigest (sectionedPack "sha256:22")) ↔
        SameNestedHashes (.dict (sectionedPack "sha256:11")) (.dict (sectionedPack "sha256:22")) ∨
          ¬ SameOutsideHashes (.dict (sectionedPack "sha256:11"))
            (.dict (sectionedPack "sha256:22"))) := by
  refine content_hash_binds_iff sampleDigest (pinnedPackage "c-1" "sha256:ee")
    (pinnedPackage "c-2" "sha256:ff") _ _ ?_ (tellsApart_of_eq (hashedPayload_sectionedPack _ _))
  apply iff_of_false
  · decide
  · intro hsame
    exact absurd (hsame [.key "correlation_id"]) (by decide)

/-- Two packages that pin different contents of one source revision have one content hash. -/
theorem repinned_revision_unseen :
    TellsApart sampleDigest (pinnedPackage "c-1" "sha256:ee").members
        (pinnedPackage "c-1" "sha256:ff").members ∧
      contentHashOf ((pinnedPackage "c-1" "sha256:ee").fromMaterial sampleDigest) =
        contentHashOf ((pinnedPackage "c-1" "sha256:ff").fromMaterial sampleDigest) ∧
      ¬ EqualOtherwise ((pinnedPackage "c-1" "sha256:ee").fromMaterial sampleDigest)
        ((pinnedPackage "c-1" "sha256:ff").fromMaterial sampleDigest) := by
  refine ⟨tellsApart_of_eq (hashedPayload_pinnedPackage _ _ _), by decide, ?_⟩
  intro hequal
  have hrevision := hequal [.key "source_revisions", .index 0, .key "content_hash"] (by decide)
  exact absurd hrevision (by decide)

end LotusManage.Packages
