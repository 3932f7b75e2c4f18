import LotusManage.Composites.SourceWire
import LotusManage.Lib.Loops

/-!
# The retained reader

`CoreHttpRetainedReader._read` and `_captures` of
`src/infrastructure/composites/core_source_reader.py`: a view of a retained source cut is read page
by page and the rows are handed to a consumer; the capture consumer puts the segments of an artifact
together and passes each artifact to `verify` when the next one starts.

A server answers the `n`-th request of a traversal for the token it is asked for.  An answer is also
what keeps the reader from asking: without a configuration or a credential there is none, and a
tenant that is not the configured one is refused.  The temporary file of an artifact is its bytes.
-/

namespace LotusManage.Composites

open Loops

/-! ## Rows -/

/-- An entry of a key. -/
inductive KeyPart where
  | number (n : Int)
  | text (s : String)
  deriving DecidableEq

/-- `_key` -/
abbrev RowKey := List KeyPart

/-- `<=` of two entries; of a number and a text it is a `TypeError`. -/
def KeyPart.le? : KeyPart → KeyPart → Option Bool
  | number m, number n => some (decide (m ≤ n))
  | text s, text t => some (decide (s ≤ t))
  | _, _ => none

/-- `<=` of two tuples: of the first entries that differ, or of the lengths. -/
def keyLe? : RowKey → RowKey → Option Bool
  | [], _ => some true
  | _ :: _, [] => some false
  | a :: as, b :: bs => if a = b then keyLe? as bs else a.le? b

/-- `NATIVE_ROLES.index(row.role) if row.role is not None else -1` -/
def roleIndex : Option NativeRole → Int
  | none => -1
  | some role => role.index

/-- The part of a segment's key that is its artifact's. -/
def NativeCaptureCommitment.key (commitment : NativeCaptureCommitment) : RowKey :=
  [.number (roleIndex commitment.role), .number commitment.sourcePageIndex,
    .text (String.ofList commitment.captureId.hex)]

/-- `_key` -/
def Row.key : Row → RowKey
  | member row => [.text row.providerNamespace, .text row.sourceMemberId]
  | segment row => row.commitment.key ++ [.number row.segmentIndex]
  | input row => [.text row.portfolioId]
  | registryHeader _ => [.number 0]
  | financialHeader _ => [.number 0]

/-- `_row_hash` -/
def Row.hash (sha256 : Sha256) : Row → Option Digest
  | member row => some row.memberContentHash
  | input row => some row.inputContentHash
  | registryHeader row => some (ReadResponse.headerHash sha256 true row)
  | financialHeader row => some (ReadResponse.headerHash sha256 false row)
  | segment row =>
    if row.segmentIndex = 0 then some (sha256 (asciiBytes row.commitment.canonical)) else none

/-! ## Pages -/

/-- `CoreCutAddress` -/
structure CoreCutAddress where
  source : NativeSourceAddress
  contentHash : Digest

/-- What a traversal asks for: the arguments of `_read` but the consumer. -/
structure ReadScope where
  tenantId : String
  address : CoreCutAddress
  portfolioId : Option String
  view : View

/-- What the reader has after it asked for a page. -/
inductive Answer where
  /-- nothing is configured, or the server is `CORE_READER_UNAVAILABLE` -/
  | unavailable
  /-- any other failure before there is a response -/
  | refused (code : String)
  /-- a response, not yet validated -/
  | body (page : ReadResponse)

/-- A server: its answer to the `n`-th request of a traversal, which is for the page of a token. -/
abbrev Server := Nat → Option String → Answer

/-- The product that is asked for. -/
def ReadScope.productName (scope : ReadScope) : ProductName :=
  if scope.portfolioId.isNone then .portfolioHistoricalRegistry else .portfolioFinancialSourceCut

/-- `_page` -/
def readPage (sha256 : Sha256) (scope : ReadScope) :
    Answer → Except ReaderError (Option ReadResponse)
  | .unavailable => .ok none
  | .refused code => .error (.value code)
  | .body page => do
    page.validate sha256
    require (page.productName = scope.productName && page.tenantId = scope.tenantId &&
        page.sourceAddress = scope.address.source &&
        page.batchManifestHash = scope.address.contentHash &&
        page.portfolioId = scope.portfolioId && page.view = scope.view) "CORE_READER_PAGE_ADDRESS"
    return some page

/-- `_stable_page`: a page without what may differ from page to page. -/
def stablePage (page : ReadResponse) : ReadResponse :=
  { page with
    rows := []
    correlationId := none
    pagination := { page.pagination with returnedCount := 0, nextPageToken := none } }

/-! ## Consuming -/

/-- What the loop over the rows of a page hands on; `sink` is the consumer's. -/
structure RowState (σ : Type) where
  previous : Option RowKey
  hashes : List Digest
  sink : σ

/-- The check on the key of a row. -/
def requireAfter : Option RowKey → RowKey → Except ReaderError Unit
  | none, _ => .ok ()
  | some previous, key =>
    match keyLe? key previous with
    | none => .error .other
    | some behind => require (!behind) "CORE_READER_ROW_ORDER"

/-- One row of `_consume_page_rows`. -/
def consumeRow {σ : Type} (sha256 : Sha256) (consume : σ → Row → Except ReaderError σ)
    (state : RowState σ) (row : Row) : Except ReaderError (RowState σ) := do
  requireAfter state.previous row.key
  let sink ← consume state.sink row
  return { previous := some row.key, hashes := state.hashes ++ (row.hash sha256).toList, sink }

/-- `_consume_page_rows` -/
def consumePageRows {σ : Type} (sha256 : Sha256) (consume : σ → Row → Except ReaderError σ)
    (page : ReadResponse) (state : RowState σ) : Except ReaderError (RowState σ) :=
  page.rows.foldlM (consumeRow sha256 consume) state

/-- `_continuation_token`; the caller adds the token to the ones that were seen. -/
def continuationToken (page : ReadResponse) (tokens : List String) :
    Except ReaderError (Option String) :=
  match page.pagination.nextPageToken with
  | none => .ok none
  | some token => do
    require (token ∉ tokens && page.rows ≠ []) "CORE_READER_TOKEN_PROGRESS"
    return some token

/-! ## The view -/

/-- `NativeViewRoot` -/
structure NativeViewRoot where
  view : View
  totalCount : Nat
  orderedSetHash : Digest
  rootItemCount : Nat
  rootKind : String
  ordering : String

/-- An entry of `ROOT_RECIPES`. -/
structure RootRecipe where
  kind : String
  ordering : String
  domain : String

/-- `ROOT_RECIPES` -/
def rootRecipe : View → RootRecipe
  | .cut => ⟨"CUT_HEADERS", "single_cut", "NeutralSourceCutHeaders:v1"⟩
  | .members =>
    ⟨"REGISTRY_MEMBERS", "provider_namespace,source_member_id",
      "PortfolioHistoricalRegistryMembers:v1"⟩
  | .inputs =>
    ⟨"SELECTED_FINANCIAL_INPUTS", "selected_portfolio", "PortfolioFinancialSourceCutInputs:v1"⟩
  | .captures =>
    ⟨"CAPTURE_ARTIFACTS", "role,source_page_index,capture_id,segment_index",
      "PortfolioNeutralSourceCaptureArtifacts:v1"⟩

/-- `_complete_view_root` -/
def completeViewRoot (sha256 : Sha256) (page : ReadResponse) (view : View) (count : Nat)
    (hashes : List Digest) : Except ReaderError NativeViewRoot := do
  let recipe := rootRecipe view
  require (count = page.pagination.totalCount && page.pagination.rootItemCount = hashes.length &&
      page.pagination.rootKind = recipe.kind && page.pagination.ordering = recipe.ordering &&
      page.pagination.orderedSetHash = nativeOrderedRoot sha256 recipe.domain hashes)
    "CORE_READER_VIEW_ROOT"
  return {
    view
    totalCount := count
    orderedSetHash := page.pagination.orderedSetHash
    rootItemCount := hashes.length
    rootKind := recipe.kind
    ordering := recipe.ordering }

/-- What the loop over the pages hands on. -/
structure Retrieval (σ : Type) where
  /-- how many pages were asked for -/
  requests : Nat
  first : Option ReadResponse
  token : Option String
  tokens : List String
  count : Nat
  rows : RowState σ

/-- The state before the first request. -/
def Retrieval.start {σ : Type} (sink : σ) : Retrieval σ where
  requests := 0
  first := none
  token := none
  tokens := []
  count := 0
  rows := { previous := none, hashes := [], sink }

/-- The page that all pages are compared with, after the comparison. -/
def requireStable (first : Option ReadResponse) (page : ReadResponse) :
    Except ReaderError ReadResponse :=
  match first with
  | none => .ok page
  | some first => do
    require (stablePage page = stablePage first) "CORE_READER_PAGE_DRIFT"
    return first

/-- The body of `while True` in `_read`, once there is a page. -/
def Retrieval.pass {σ : Type} (sha256 : Sha256) (consume : σ → Row → Except ReaderError σ)
    (state : Retrieval σ) (page : ReadResponse) :
    Except ReaderError (Pass (Retrieval σ) (Option (ReadResponse × Retrieval σ))) := do
  let first ← requireStable state.first page
  let rows ← consumePageRows sha256 consume page state.rows
  let count := state.count + page.rows.length
  require (count ≤ first.pagination.totalCount) "CORE_READER_ROW_COUNT"
  let token ← continuationToken page state.tokens
  let next : Retrieval σ :=
    { requests := state.requests + 1, first := some first, token,
      tokens := token.toList ++ state.tokens, count, rows }
  return if token.isNone then .done (some (first, next)) else .more next

/-- The body of `while True` in `_read`. -/
def Retrieval.body {σ : Type} (sha256 : Sha256) (scope : ReadScope) (server : Server)
    (consume : σ → Row → Except ReaderError σ) (state : Retrieval σ) :
    Except ReaderError (Pass (Retrieval σ) (Option (ReadResponse × Retrieval σ))) := do
  match ← readPage sha256 scope (server state.requests state.token) with
  | none => return .done none
  | some page => state.pass sha256 consume page

/-- `_read` after its loop -/
def finishRead {σ : Type} (sha256 : Sha256) (scope : ReadScope) :
    Option (ReadResponse × Retrieval σ) →
      Except ReaderError (Option (ReadResponse × NativeViewRoot × σ))
  | none => .ok none
  | some (first, state) => do
    let root ← completeViewRoot sha256 first scope.view state.count state.rows.hashes
    return some (first, root, state.rows.sink)

/-- `_read`, with at most `fuel` pages; what was consumed is the last component. -/
def read {σ : Type} (sha256 : Sha256) (scope : ReadScope) (server : Server)
    (consume : σ → Row → Except ReaderError σ) (sink : σ) (fuel : Nat) :
    Option (Except ReaderError (Option (ReadResponse × NativeViewRoot × σ))) :=
  (iterate (Retrieval.body sha256 scope server consume) fuel (.start sink)).map
    (· >>= finishRead sha256 scope)

/-! ## Captures -/

/-- `Artifact` -/
structure Artifact where
  commitment : NativeCaptureCommitment
  spool : List UInt8
  segments : Nat

/-- An artifact without segments. -/
def Artifact.empty (commitment : NativeCaptureCommitment) : Artifact :=
  { commitment, spool := [], segments := 0 }

/-- `Artifact.append` -/
def Artifact.append (sha256 : Sha256) (artifact : Artifact) (row : SegmentRow) :
    Except ReaderError Artifact := do
  require (row.commitment = artifact.commitment && row.segmentIndex = artifact.segments)
    "CORE_READER_ARTIFACT_SEQUENCE"
  let raw ← row.raw sha256
  return { artifact with spool := artifact.spool ++ raw, segments := artifact.segments + 1 }

/-- `Artifact.raw` -/
def Artifact.raw (sha256 : Sha256) (artifact : Artifact) : Except ReaderError (List UInt8) := do
  require (artifact.segments = artifact.commitment.segmentCount) "CORE_READER_ARTIFACT_INCOMPLETE"
  require (artifact.spool.length = artifact.commitment.byteCount &&
    sha256 artifact.spool = artifact.commitment.rawHash) "CORE_READER_ARTIFACT_RAW"
  return artifact.spool

/-- What the capture consumer keeps: the list `artifacts`, of which the last is apart, and what
`verify` keeps. -/
structure CaptureState (τ : Type) where
  closed : List Artifact
  current : Option Artifact
  custody : τ

/-- `verify(artifacts[-1].commitment, artifacts[-1].raw())`, where there is an artifact. -/
def CaptureState.verifyCurrent {τ : Type} (sha256 : Sha256)
    (verify : τ → NativeCaptureCommitment → List UInt8 → Except ReaderError τ)
    (state : CaptureState τ) : Except ReaderError τ :=
  match state.current with
  | none => .ok state.custody
  | some artifact => do
    let raw ← artifact.raw sha256
    verify state.custody artifact.commitment raw

/-- The first half of `consume` in `_captures`: a row of another artifact closes the current one. -/
def CaptureState.select {τ : Type} (sha256 : Sha256)
    (verify : τ → NativeCaptureCommitment → List UInt8 → Except ReaderError τ)
    (state : CaptureState τ) (row : SegmentRow) :
    Except ReaderError (List Artifact × Artifact × τ) :=
  match state.current with
  | some artifact =>
    if artifact.commitment = row.commitment then .ok (state.closed, artifact, state.custody)
    else do
      let custody ← state.verifyCurrent sha256 verify
      return (state.closed ++ [artifact], Artifact.empty row.commitment, custody)
  | none => .ok (state.closed, Artifact.empty row.commitment, state.custody)

/-- `consume` in `_captures`.  Only segments have a commitment. -/
def consumeSegment {τ : Type} (sha256 : Sha256)
    (verify : τ → NativeCaptureCommitment → List UInt8 → Except ReaderError τ)
    (state : CaptureState τ) : Row → Except ReaderError (CaptureState τ)
  | .segment row => do
    let (closed, artifact, custody) ← state.select sha256 verify row
    let artifact ← artifact.append sha256 row
    return { closed, current := some artifact, custody }
  | _ => .error .other

/-- What `_captures` returns: the view and the commitments of the artifacts; and what `verify`
keeps. -/
structure Captured (τ : Type) where
  first : ReadResponse
  root : NativeViewRoot
  commitments : List NativeCaptureCommitment
  custody : τ

/-- `_captures` after `_read`: the last artifact is verified. -/
def finishCaptures {τ : Type} (sha256 : Sha256)
    (verify : τ → NativeCaptureCommitment → List UInt8 → Except ReaderError τ) :
    Option (ReadResponse × NativeViewRoot × CaptureState τ) →
      Except ReaderError (Option (Captured τ))
  | none => .ok none
  | some (first, root, state) => do
    let custody ← state.verifyCurrent sha256 verify
    return some {
      first, root, custody
      commitments := (state.closed ++ state.current.toList).map (·.commitment) }

/-- `_captures`, with at most `fuel` pages -/
def captures {τ : Type} (sha256 : Sha256) (scope : ReadScope) (server : Server)
    (verify : τ → NativeCaptureCommitment → List UInt8 → Except ReaderError τ) (custody : τ)
    (fuel : Nat) : Option (Except ReaderError (Option (Captured τ))) :=
  (read sha256 { scope with view := .captures } server (consumeSegment sha256 verify)
    { closed := [], current := none, custody } fuel).map (· >>= finishCaptures sha256 verify)

end LotusManage.Composites
