import Mathlib.Data.String.Basic
import LotusManage.Lib.Base64
import LotusManage.Lib.Checks
import LotusManage.Lib.Json

/-!
# The retained-read wire

The pages that a retained source server answers with, as
`src/infrastructure/composites/core_source_wire.py` validates them, and the commitments and ordered
roots of `src/core/composite_eligibility/native_source_custody.py`.

A digest is its 32 bytes, which the source writes as 64 hexadecimal digits.  `Sha256` is the hash
function, and nothing below depends on what it computes.  What one row says about itself alone (its
identifiers, dates and amounts, and that a member or an input has the hash it declares) is left out:
it leaves fewer pages.  A manifest and a member are kept as the canonical text that is hashed, with
the fields that are compared.
-/

namespace LotusManage.Composites

/-! ## Digests -/

/-- A SHA-256 digest. -/
abbrev Digest := Vector UInt8 32

/-- `hashlib.sha256(...).digest()` -/
abbrev Sha256 := List UInt8 → Digest

/-- `hexdigest` -/
def Digest.hex (digest : Digest) : List Char :=
  digest.toList.flatMap fun byte =>
    [Json.hexDigit (byte.toNat / 16), Json.hexDigit (byte.toNat % 16)]

/-- The bytes of an ASCII text. -/
def asciiBytes (text : List Char) : List UInt8 := text.map fun c => UInt8.ofNat c.toNat

/-- `native_ordered_root` -/
def nativeOrderedRoot (sha256 : Sha256) (contract : String) (hashes : List Digest) : Digest :=
  let state := hashes.foldl (fun state digest => sha256 (state.toList ++ digest.toList))
    (sha256 (asciiBytes contract.toList ++ [0]))
  sha256 (state.toList ++ [0] ++ asciiBytes (toString hashes.length).toList)

/-- `native_domain_hash`, of a model that is given as its canonical text with the domain tags. -/
def nativeDomainHash (sha256 : Sha256) (contract field : String) (tagged : String) : Digest :=
  sha256 (asciiBytes (Json.object [("contract", Json.quote contract), (field, tagged.toList)]))

/-! ## Captures -/

/-- `NativeRole` -/
inductive NativeRole where
  | priorAssets
  | monthEndAssets
  | cash
  | readiness
  | flows
  deriving DecidableEq

/-- The text of a role. -/
def NativeRole.code : NativeRole → String
  | priorAssets => "PRIOR_ASSETS"
  | monthEndAssets => "MONTH_END_ASSETS"
  | cash => "CASH"
  | readiness => "READINESS"
  | flows => "FLOWS"

/-- `NATIVE_ROLES.index(role)` -/
def NativeRole.index : NativeRole → Int
  | priorAssets => 0
  | monthEndAssets => 1
  | cash => 2
  | readiness => 3
  | flows => 4

/-- `NativeCaptureContext` -/
structure NativeCaptureContext where
  captureOrigin : String
  capturedAt : String
  snapshotEpoch : Option String
  requestScope : Option String
  receiptJobId : String
  sourceRevision : Option String
  selectorJson : Option String
  exportJobId : Option String
  refreshOfJobId : Option String
  returnedCount : Option Nat
  totalCount : Option Nat
  nextPageToken : Option String
  deriving DecidableEq

/-- `NativeCaptureCommitment` -/
structure NativeCaptureCommitment where
  captureId : Digest
  role : Option NativeRole
  sourcePageIndex : Nat
  sourceProduct : String
  productVersion : String
  selectorHash : Option Digest
  typedContentHash : Digest
  rawHash : Digest
  byteCount : Nat
  segmentCount : Nat
  serializerId : String
  schemaVersion : String
  mimeType : String
  sourceContext : NativeCaptureContext
  originalSupplierDigest : Option Digest
  originalSupplierReference : Option String
  deriving DecidableEq

/-- A number, or `null` -/
def numberOption : Option Nat → List Char
  | none => "null".toList
  | some n => (toString n).toList

/-- A digest, or `null` -/
def digestOption (digest : Option Digest) : List Char :=
  Json.quoteOption (digest.map fun d => String.ofList d.hex)

/-- A context, with its fields in the order of their names. -/
def NativeCaptureContext.canonical (context : NativeCaptureContext) : List Char :=
  Json.object [
    ("capture_origin", Json.quote context.captureOrigin),
    ("captured_at", Json.quote context.capturedAt),
    ("export_job_id", Json.quoteOption context.exportJobId),
    ("next_page_token", Json.quoteOption context.nextPageToken),
    ("receipt_job_id", Json.quote context.receiptJobId),
    ("refresh_of_job_id", Json.quoteOption context.refreshOfJobId),
    ("request_scope", Json.quoteOption context.requestScope),
    ("returned_count", numberOption context.returnedCount),
    ("selector_json", Json.quoteOption context.selectorJson),
    ("snapshot_epoch", Json.quoteOption context.snapshotEpoch),
    ("source_revision", Json.quoteOption context.sourceRevision),
    ("total_count", numberOption context.totalCount)]

/-- The material of the artifact hash: the commitment under its contract, with the fields in the
order of their names. -/
def NativeCaptureCommitment.canonical (commitment : NativeCaptureCommitment) : List Char :=
  Json.object [
    ("byte_count", (toString commitment.byteCount).toList),
    ("capture_id", Json.quote (String.ofList commitment.captureId.hex)),
    ("contract", Json.quote "PortfolioNeutralSourceCaptureArtifact:v1"),
    ("mime_type", Json.quote commitment.mimeType),
    ("original_supplier_digest", digestOption commitment.originalSupplierDigest),
    ("original_supplier_reference", Json.quoteOption commitment.originalSupplierReference),
    ("product_version", Json.quote commitment.productVersion),
    ("raw_hash", Json.quote (String.ofList commitment.rawHash.hex)),
    ("role", Json.quoteOption (commitment.role.map NativeRole.code)),
    ("schema_version", Json.quote commitment.schemaVersion),
    ("segment_count", (toString commitment.segmentCount).toList),
    ("selector_hash", digestOption commitment.selectorHash),
    ("serializer_id", Json.quote commitment.serializerId),
    ("source_context", commitment.sourceContext.canonical),
    ("source_page_index", (toString commitment.sourcePageIndex).toList),
    ("source_product", Json.quote commitment.sourceProduct),
    ("typed_content_hash", Json.quote (String.ofList commitment.typedContentHash.hex))]

/-! ## Rows -/

/-- `NativeSourceAddress` -/
structure NativeSourceAddress where
  sourceSystem : String
  registryScopeId : String
  sourceCutId : String
  revision : Nat
  deriving DecidableEq

/-- The fields of a `NativeSourceIdentity` that a page is compared with. -/
structure NativeSourceIdentity where
  tenantId : String
  sourceSystem : String
  scopeId : String
  sourceCutId : String
  revision : Nat
  deriving DecidableEq

/-- `RegistryHeader` and `FinancialHeader` -/
structure HeaderRow where
  identity : NativeSourceIdentity
  /-- the manifest as `native_domain_hash` writes it -/
  manifest : String
  receiptJobId : String
  receivedAt : String
  completedAt : String
  deriving DecidableEq

/-- `MemberRow` -/
structure MemberRow where
  providerNamespace : String
  sourceMemberId : String
  /-- the member as `member_hash` writes it -/
  member : String
  memberContentHash : Digest
  deriving DecidableEq

/-- `InputRow` -/
structure InputRow where
  identity : NativeSourceIdentity
  portfolioId : String
  /-- the declaration and the graph -/
  content : String
  inputContentHash : Digest
  deriving DecidableEq

/-- `SegmentRow`: a commitment, and one of the segments it is cut into. -/
structure SegmentRow where
  commitment : NativeCaptureCommitment
  segmentIndex : Nat
  segmentHash : Digest
  bytesBase64 : String
  deriving DecidableEq

/-- A row of a page. -/
inductive Row where
  | registryHeader (row : HeaderRow)
  | financialHeader (row : HeaderRow)
  | member (row : MemberRow)
  | input (row : InputRow)
  | segment (row : SegmentRow)
  deriving DecidableEq

/-- `row_kind` -/
inductive RowKind where
  | registryCut
  | financialCut
  | registryMember
  | financialInput
  | captureSegment
  deriving DecidableEq

def Row.kind : Row → RowKind
  | registryHeader _ => .registryCut
  | financialHeader _ => .financialCut
  | member _ => .registryMember
  | input _ => .financialInput
  | segment _ => .captureSegment

/-- What the reader raises: a `ValueError` with its text, or an error of another class. -/
inductive ReaderError where
  | value (code : String)
  | other

/-- A check that raises a `ValueError`. -/
def require (condition : Bool) (code : String) : Except ReaderError Unit :=
  if condition then .ok () else .error (.value code)

/-- The length of every segment but the last. -/
def segmentStride : Int := 524288

/-- `SegmentRow.raw` -/
def SegmentRow.raw (sha256 : Sha256) (row : SegmentRow) : Except ReaderError (List UInt8) :=
  match Base64.decode row.bytesBase64.toList with
  | none => .error (.value "bytes_base64")
  | some raw => do
    require (Base64.encode raw == row.bytesBase64.toList && sha256 raw == row.segmentHash)
      "CORE_READER_SEGMENT_HASH_OR_BASE64"
    require (row.segmentIndex < row.commitment.segmentCount &&
        (raw.length : Int) ==
          min segmentStride (row.commitment.byteCount - row.segmentIndex * segmentStride))
      "CORE_READER_SEGMENT_STRIDE"
    return raw

/-- The bytes that a segment holds. -/
def SegmentRow.content (row : SegmentRow) : List UInt8 :=
  (Base64.decode row.bytesBase64.toList).getD []

theorem require_eq_ok {condition : Bool} {code : String} {u : Unit}
    (h : require condition code = .ok u) : condition = true := by
  cases condition with
  | true => rfl
  | false => cases h

/-- The errors that are a `ValueError`. -/
def ReaderError.IsValue (e : ReaderError) : Prop := ∃ code, e = .value code

theorem require_raises (condition : Bool) (code : String) :
    Checks.Raises ReaderError.IsValue (require condition code) := by
  cases condition with
  | true => exact .ok ()
  | false => exact .error ⟨code, rfl⟩

theorem SegmentRow.raw_eq_ok {sha256 : Sha256} {row : SegmentRow} {raw : List UInt8}
    (h : row.raw sha256 = .ok raw) :
    raw = row.content ∧ Base64.encode raw = row.bytesBase64.toList ∧
      sha256 raw = row.segmentHash := by
  unfold SegmentRow.raw at h
  split at h
  · cases h
  · rename_i decoded hdecoded
    obtain ⟨_, hcheck, h⟩ := Checks.bind_eq_ok h
    obtain ⟨_, _, h⟩ := Checks.bind_eq_ok h
    cases h
    have hboth := require_eq_ok hcheck
    rw [Bool.and_eq_true, beq_iff_eq, beq_iff_eq] at hboth
    refine ⟨?_, hboth.1, hboth.2⟩
    rw [SegmentRow.content, hdecoded, Option.getD_some]

theorem SegmentRow.raw_raises (sha256 : Sha256) (row : SegmentRow) :
    Checks.Raises ReaderError.IsValue (row.raw sha256) := by
  unfold SegmentRow.raw
  split
  · exact .error ⟨_, rfl⟩
  · exact (require_raises _ _).bind fun _ _ => (require_raises _ _).bind fun _ _ => .ok _

/-! ## Pages -/

inductive ProductName where
  | portfolioHistoricalRegistry
  | portfolioFinancialSourceCut
  deriving DecidableEq

inductive View where
  | cut
  | members
  | inputs
  | captures
  deriving DecidableEq

/-- `Pagination` -/
structure Pagination where
  totalCount : Nat
  orderedSetHash : Digest
  rootItemCount : Nat
  rootKind : String
  ordering : String
  returnedCount : Nat
  nextPageToken : Option String
  deriving DecidableEq

/-- `ReadResponse`.  The constant fields are left out; the degradation and the lineage are kept as
their canonical texts. -/
structure ReadResponse where
  productName : ProductName
  tenantId : String
  generatedAt : String
  asOfDate : String
  restatementVersion : String
  reconciliationStatus : String
  dataQualityStatus : String
  latestEvidenceTimestamp : Option String
  sourceCutId : Option String
  sourceBatchFingerprint : Option String
  snapshotId : Option String
  contentHash : String
  sourceDigest : String
  sourceRefs : List String
  sourceLineage : String
  degradation : String
  sourceEvidenceCurrent : Bool
  freshnessStatus : String
  policyVersion : Option String
  correlationId : Option String
  sourceAddress : NativeSourceAddress
  batchManifestHash : Digest
  portfolioId : Option String
  view : View
  receiptJobId : String
  receivedAt : String
  completedAt : String
  /-- `completed_at` is not before `received_at`, both read as instants -/
  receiptInOrder : Bool
  compatibilityPosture : String
  pagination : Pagination
  rows : List Row
  deriving DecidableEq

namespace ReadResponse

/-- The kind of row that a product shows in a view; none when it has no such view. -/
def expectedKind : ProductName → View → Option RowKind
  | .portfolioHistoricalRegistry, .cut => some .registryCut
  | .portfolioFinancialSourceCut, .cut => some .financialCut
  | .portfolioHistoricalRegistry, .members => some .registryMember
  | .portfolioFinancialSourceCut, .inputs => some .financialInput
  | _, .captures => some .captureSegment
  | _, _ => none

/-- `_require_product_view` -/
def requireProductView (page : ReadResponse) : Except ReaderError Unit :=
  match expectedKind page.productName page.view with
  | none => .error (.value "CORE_READER_PRODUCT_VIEW")
  | some kind =>
    require (page.rows.all (fun row => row.kind = kind) &&
      (decide (page.productName = .portfolioHistoricalRegistry) == page.portfolioId.isNone))
      "CORE_READER_PRODUCT_VIEW"

/-- `_require_page_binding` -/
def requirePageBinding (page : ReadResponse) : Except ReaderError Unit := do
  require (page.contentHash = "sha256:" ++ String.ofList page.batchManifestHash.hex &&
      page.sourceDigest = page.contentHash &&
      page.pagination.returnedCount = page.rows.length &&
      page.pagination.returnedCount ≤ page.pagination.totalCount)
    "CORE_READER_ENVELOPE_BINDING"
  require (page.view ≠ .cut || (page.rows.length = 1 && page.pagination.totalCount = 1 &&
      page.pagination.nextPageToken = none)) "CORE_READER_HEADER_REQUIRED"
  require page.receiptInOrder "CORE_READER_RECEIPT_CHRONOLOGY"

/-- The digest of a header's manifest. -/
def headerHash (sha256 : Sha256) (registry : Bool) (row : HeaderRow) : Digest :=
  if registry then nativeDomainHash sha256 "PortfolioHistoricalRegistry:v1" "cut" row.manifest
  else nativeDomainHash sha256 "PortfolioFinancialSourceCutManifest:v1" "manifest" row.manifest

/-- `_require_header_binding` -/
def requireHeaderBinding (sha256 : Sha256) (page : ReadResponse) (registry : Bool)
    (row : HeaderRow) : Except ReaderError Unit :=
  require (headerHash sha256 registry row = page.batchManifestHash &&
    row.receiptJobId = page.receiptJobId && row.receivedAt = page.receivedAt &&
    row.completedAt = page.completedAt) "CORE_READER_HEADER_BINDING"

/-- The end of `_require_row_binding`: the row is one of the cut that the page is from. -/
def requireIdentity (page : ReadResponse) (identity : NativeSourceIdentity) :
    Except ReaderError Unit :=
  require (identity = {
    tenantId := page.tenantId
    sourceSystem := page.sourceAddress.sourceSystem
    scopeId := page.sourceAddress.registryScopeId
    sourceCutId := page.sourceAddress.sourceCutId
    revision := page.sourceAddress.revision }) "CORE_READER_ROW_ADDRESS"

/-- `_require_row_binding` -/
def requireRowBinding (sha256 : Sha256) (page : ReadResponse) : Row → Except ReaderError Unit
  | .registryHeader row => do
    requireHeaderBinding sha256 page true row
    requireIdentity page row.identity
  | .financialHeader row => do
    requireHeaderBinding sha256 page false row
    requireIdentity page row.identity
  | .input row => do
    require (some row.portfolioId = page.portfolioId) "CORE_READER_GRAPH_PORTFOLIO"
    requireIdentity page row.identity
  | .member _ => .ok ()
  | .segment _ => .ok ()

/-- `SegmentRow.segment_bytes` of the rows of a page -/
def requireSegments (sha256 : Sha256) (rows : List Row) : Except ReaderError Unit :=
  forM rows fun
    | .segment row => (row.raw sha256).map fun _ => ()
    | _ => .ok ()

/-- `ReadResponse.model_validate_json` -/
def validate (sha256 : Sha256) (page : ReadResponse) : Except ReaderError Unit := do
  require (page.rows.length ≤ 500) "rows"
  requireSegments sha256 page.rows
  requireProductView page
  requirePageBinding page
  forM page.rows (requireRowBinding sha256 page)

end ReadResponse

end LotusManage.Composites
