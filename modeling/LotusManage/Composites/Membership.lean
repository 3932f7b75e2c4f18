import LotusManage.Lib.Checks
import LotusManage.Lib.Datetime
import LotusManage.Lib.Text
import Mathlib.Data.List.Sort
import Mathlib.Data.Prod.Lex

/-!
# Composite membership

The membership revisions of a composite, the correction window that a revision declares, the
publication that announces it, and the universe attestation that is pinned to it.

A business date is a text that `date.fromisoformat` reads, with the ordinal of its day.  A timestamp is
a `datetime`: its wall clock, and its offset from UTC unless it has none.  A content hash is a function
of the record that it is the hash of; `Hashing` has SHA-256 and the canonical texts.
-/

namespace LotusManage.Composites

/-! ## Days and instants -/

structure BusinessDate where
  text : String
  ordinal : Int
  deriving DecidableEq

/-- `date.max.toordinal()` -/
def dateMaxOrdinal : Int := 3652059

/-- The month in a text of the form `YYYY-MM`, which sorts as the text does. -/
structure Month where
  year : Nat
  month : Nat
  deriving DecidableEq

def Month.before (m n : Month) : Bool :=
  decide (m.year < n.year) || (decide (m.year = n.year) && decide (m.month < n.month))

/-- `date.isoformat` of a day given by its year, month and day. -/
def isoDate (year month day : Nat) : String :=
  String.ofList (Datetime.digits 4 year ++ '-' :: (Datetime.digits 2 month ++
    '-' :: Datetime.digits 2 day))

/-- `month_window` -/
def monthWindow (month : Month) : BusinessDate × BusinessDate :=
  let before := daysBeforeYear month.year + daysBeforeMonth month.year month.month
  let days := daysInMonth month.year month.month
  (⟨isoDate month.year month.month 1, before + 1⟩,
    ⟨isoDate month.year month.month days, before + days⟩)

/-- `_ord2ymd`; the month is the number of months that begin by then. -/
def ord2ymd (ordinal : Nat) : Nat × Nat × Nat :=
  let n := ordinal - 1
  let n400 := n / 146097
  let n100 := n % 146097 / 36524
  let n4 := n % 146097 % 36524 / 1461
  let n1 := n % 146097 % 36524 % 1461 / 365
  let rest := n % 146097 % 36524 % 1461 % 365
  let year := n400 * 400 + 1 + n100 * 100 + n4 * 4 + n1
  if n1 = 4 ∨ n100 = 4 then (year - 1, 12, 31)
  else
    let month := ((List.range' 1 12).filter (fun m => daysBeforeMonth year m ≤ rest)).length
    (year, month, rest - daysBeforeMonth year month + 1)

/-- `date.fromordinal(ordinal).isoformat()` -/
def dayOfOrdinal (ordinal : Int) : BusinessDate :=
  let (year, month, day) := ord2ymd ordinal.toNat
  ⟨isoDate year month day, ordinal⟩

structure Timestamp where
  localTime : Int
  utcOffset : Option Int
  deriving DecidableEq

/-- A time in UTC. -/
def Timestamp.utc (instant : Int) : Timestamp := ⟨instant, some 0⟩

/-- Whether `tzinfo` is set. -/
def Timestamp.aware (t : Timestamp) : Bool := t.utcOffset.isSome

def Timestamp.instant? (t : Timestamp) : Option Int := t.utcOffset.map (t.localTime - ·)

/-- The equality of two `datetime`s: a naive one is no aware one. -/
def Timestamp.same (t u : Timestamp) : Bool :=
  match t.instant?, u.instant? with
  | some i, some j => i = j
  | none, none => t.localTime = u.localTime
  | _, _ => false

/-! ## Errors -/

/-- `DpmCompositeConflictError`, a `ValueError` (the validation errors of the models are such), and
what a list or a comparison of times raises. -/
inductive CompositeError where
  | conflict (code : String)
  | value (code : String)
  | index
  | type
  deriving DecidableEq

/-- `try ... except ValueError as exc: raise DpmCompositeConflictError(...)`, with the code of the
error unless another is given. -/
def valueAsConflict {α : Type} (code? : Option String) :
    Except CompositeError α → Except CompositeError α
  | .error (.value code) => .error (.conflict (code?.getD code))
  | result => result

/-- `if not value.strip(): raise ValueError(code)` for each of the texts. -/
def requireTexts (code : String) (texts : List String) : Except CompositeError Unit :=
  if texts.all (fun text => Text.strip text ≠ "") then .ok () else .error (.value code)

def ensure (condition : Bool) (error : CompositeError) : Except CompositeError Unit :=
  if condition then .ok () else .error error

variable {publishedAt : Timestamp}

@[simp] theorem ensure_eq_ok_iff (condition : Bool) (error : CompositeError) :
    ensure condition error = .ok () ↔ condition = true := by
  unfold ensure
  by_cases h : condition = true
  · simp [h]
  · simp [h]

theorem requireTexts_eq_ok_iff (code : String) (texts : List String) :
    requireTexts code texts = .ok () ↔ ∀ text ∈ texts, Text.strip text ≠ "" := by
  unfold requireTexts
  split
  · rename_i hall
    simpa using hall
  · rename_i hall
    simpa using hall

/-! ## Membership revisions -/

inductive MembershipStatus where
  | included
  | excluded
  | pendingReview
  deriving DecidableEq

/-- `DpmCompositeMembershipDecision` -/
structure MembershipDecision where
  portfolioId : String
  effectiveFrom : BusinessDate
  effectiveTo : Option BusinessDate := none
  status : MembershipStatus := .included
  reasonCode : Option String := none
  discretionary : Bool := true
  approvalRef : Option String := none
  sourceSnapshotId : String
  deriving DecidableEq

/-- The ordinal of the last day of a decision. -/
def MembershipDecision.lastOrdinal (decision : MembershipDecision) : Int :=
  (decision.effectiveTo.map BusinessDate.ordinal).getD dateMaxOrdinal

/-- The validators of `DpmCompositeMembershipDecision`. -/
def MembershipDecision.validate (decision : MembershipDecision) : Except CompositeError Unit := do
  requireTexts "COMPOSITE_MEMBERSHIP_REQUIRED_TEXT" [decision.portfolioId, decision.sourceSnapshotId]
  ensure (decision.effectiveTo.all (fun last => decision.effectiveFrom.ordinal ≤ last.ordinal))
    (.value "COMPOSITE_MEMBERSHIP_EFFECTIVE_WINDOW_INVALID")
  match decision.status with
  | .included =>
    ensure decision.reasonCode.isNone (.value "COMPOSITE_MEMBERSHIP_INCLUDED_REASON_FORBIDDEN")
  | _ =>
    ensure (decision.reasonCode.any (fun reason => Text.strip reason ≠ ""))
      (.value "COMPOSITE_MEMBERSHIP_REASON_REQUIRED")

/-- `DpmCompositeMembershipRevision` -/
structure MembershipRevision where
  tenantId : String
  compositeId : String
  definitionVersion : String
  membershipRevision : String
  policyVersion : String
  sourceCutId : String
  decisions : List MembershipDecision
  decidedAt : Timestamp
  decidedBy : String
  correlationId : String
  supersedesMembershipRevision : Option String := none
  affectedFrom : Option BusinessDate := none
  affectedTo : Option BusinessDate := none
  deriving DecidableEq

/-- The keys of `_definitions` and of `_membership_revisions`. -/
abbrev DefinitionKey := String × String × String
abbrev RevisionKey := String × String × String × String

def MembershipRevision.definitionKey (revision : MembershipRevision) : DefinitionKey :=
  (revision.tenantId, revision.compositeId, revision.definitionVersion)

def MembershipRevision.key (revision : MembershipRevision) : RevisionKey :=
  (revision.tenantId, revision.compositeId, revision.definitionVersion, revision.membershipRevision)

/-- `_validate_decision_windows`, of the decisions on one portfolio in the order of their starts. -/
def windowsApart : List MembershipDecision → Bool
  | previous :: current :: rest =>
    previous.effectiveTo.any (fun last => last.ordinal < current.effectiveFrom.ordinal) &&
      windowsApart (current :: rest)
  | _ => true

def validateDecisionWindows (decisions : List MembershipDecision) : Except CompositeError Unit :=
  ensure ((decisions.map MembershipDecision.portfolioId).dedup.all fun portfolioId =>
      windowsApart ((decisions.filter (·.portfolioId = portfolioId)).insertionSort
        (fun a b => a.effectiveFrom.text ≤ b.effectiveFrom.text)))
    (.value "COMPOSITE_MEMBERSHIP_DECISION_WINDOW_OVERLAP")

/-- The validators of `DpmCompositeMembershipRevision`: none of them looks at the zone of
`decided_at`. -/
def MembershipRevision.validate (revision : MembershipRevision) : Except CompositeError Unit := do
  requireTexts "COMPOSITE_MEMBERSHIP_REVISION_REQUIRED_TEXT"
    [revision.tenantId, revision.compositeId, revision.definitionVersion,
      revision.membershipRevision, revision.policyVersion, revision.sourceCutId,
      revision.decidedBy, revision.correlationId]
  ensure (!revision.decisions.isEmpty) (.value "too_short")
  revision.decisions.forM MembershipDecision.validate
  validateDecisionWindows revision.decisions
  ensure (revision.affectedFrom.isNone == revision.affectedTo.isNone)
    (.value "COMPOSITE_MEMBERSHIP_CORRECTION_WINDOW_INCOMPLETE")
  match revision.affectedFrom, revision.affectedTo with
  | some first, some last =>
    ensure (first.ordinal ≤ last.ordinal) (.value "COMPOSITE_MEMBERSHIP_CORRECTION_WINDOW_INVALID")
  | _, _ => pure ()
  ensure (revision.supersedesMembershipRevision.isSome || revision.affectedFrom.isNone)
    (.value "COMPOSITE_MEMBERSHIP_CORRECTION_SUPERSEDES_REQUIRED")
  ensure (revision.supersedesMembershipRevision.isNone || revision.affectedFrom.isSome)
    (.value "COMPOSITE_MEMBERSHIP_CORRECTION_WINDOW_REQUIRED")

/-- The model accepts the revision. -/
def MembershipRevision.Accepted (revision : MembershipRevision) : Prop :=
  revision.validate = .ok ()

instance (revision : MembershipRevision) : Decidable revision.Accepted :=
  inferInstanceAs (Decidable (revision.validate = .ok ()))

variable {revision : MembershipRevision}

theorem MembershipRevision.Accepted.parts (h : revision.Accepted) :
    (∀ text ∈ [revision.tenantId, revision.compositeId, revision.definitionVersion,
        revision.membershipRevision, revision.policyVersion, revision.sourceCutId,
        revision.decidedBy, revision.correlationId], Text.strip text ≠ "") ∧
      revision.decisions ≠ [] := by
  unfold MembershipRevision.Accepted MembershipRevision.validate at h
  obtain ⟨_, htexts, h⟩ := Checks.bind_eq_ok h
  obtain ⟨_, hdecisions, _⟩ := Checks.bind_eq_ok h
  refine ⟨(requireTexts_eq_ok_iff _ _).mp htexts, ?_⟩
  have hnonempty := (ensure_eq_ok_iff _ _).mp hdecisions
  simpa using hnonempty

/-! ## Correction windows -/

/-- A part of a decision outside the window, with the evidence of the decision. -/
structure DecisionInterval where
  portfolioId : String
  first : Int
  last : Int
  evidence : MembershipStatus × Option String × Bool × Option String × String
  deriving DecidableEq

/-- The fragments of `_unaffected_intervals`. -/
def unaffectedFragments (decisions : List MembershipDecision) (start finish : Int) :
    List DecisionInterval :=
  decisions.flatMap fun decision =>
    let evidence := (decision.status, decision.reasonCode, decision.discretionary,
      decision.approvalRef, decision.sourceSnapshotId)
    [(decision.effectiveFrom.ordinal, min decision.lastOrdinal (start - 1)),
      (max decision.effectiveFrom.ordinal (finish + 1), decision.lastOrdinal)].filterMap
        fun (lower, upper) =>
          if lower ≤ upper then some ⟨decision.portfolioId, lower, upper, evidence⟩ else none

/-- Adjacent intervals of one portfolio with the same evidence become one. -/
def mergeIntervals : List DecisionInterval → List DecisionInterval
  | [] => []
  | interval :: rest =>
    match mergeIntervals rest with
    | [] => [interval]
    | next :: merged =>
      if interval.portfolioId = next.portfolioId ∧ interval.last + 1 = next.first ∧
          interval.evidence = next.evidence then
        { interval with last := next.last } :: merged
      else
        interval :: next :: merged

/-- `_unaffected_intervals` -/
def unaffectedIntervals (revision : MembershipRevision) (start finish : Int) :
    List DecisionInterval :=
  mergeIntervals ((unaffectedFragments revision.decisions start finish).insertionSort
    (fun a b => toLex (a.portfolioId, toLex (a.first, a.last)) ≤
      toLex (b.portfolioId, toLex (b.first, b.last))))

/-- `require_correction_window` -/
def requireCorrectionWindow (parent revision : MembershipRevision) : Except CompositeError Unit :=
  match revision.affectedFrom, revision.affectedTo with
  | some first, some last =>
    ensure (unaffectedIntervals parent first.ordinal last.ordinal =
        unaffectedIntervals revision first.ordinal last.ordinal)
      (.value "COMPOSITE_MEMBERSHIP_CORRECTION_OUTSIDE_WINDOW")
  | _, _ => .error (.value "COMPOSITE_MEMBERSHIP_CORRECTION_WINDOW_REQUIRED")

/-! ## Universe attestations -/

inductive AuthorityScope where
  | authoritativeUniverse
  | policyInput
  | referenceInput
  deriving DecidableEq

/-- `DpmCompositeUniverseSourceProduct` -/
structure UniverseSourceProduct where
  ownerService : String
  productName : String
  contractVersion : String
  authorityScope : AuthorityScope
  sourceCutId : String
  sourceWatermark : String
  contentHash : String
  deriving DecidableEq

inductive UniversePosture where
  | complete
  | incomplete
  | unavailable
  deriving DecidableEq

/-- `DpmCompositeUniverseAttestation` -/
structure UniverseAttestation where
  tenantId : String
  compositeId : String
  definitionVersion : String
  membershipRevision : String
  membershipContentHash : String
  attestationVersion : String
  coverageFrom : BusinessDate
  coverageTo : BusinessDate
  policyVersion : String
  sourceCutId : String
  sourceProducts : List UniverseSourceProduct
  posture : UniversePosture
  expectedPortfolioIds : List String
  expectedPortfolioCount : Nat
  observedPortfolioCount : Nat
  missingPortfolioIds : List String := []
  unexpectedPortfolioIds : List String := []
  coverageGapPortfolioIds : List String := []
  reasonCode : Option String := none
  attestedAt : Timestamp
  attestedBy : String
  correlationId : String
  deriving DecidableEq

abbrev UniverseKey := String × String × String × String × String

def UniverseAttestation.revisionKey (attestation : UniverseAttestation) : RevisionKey :=
  (attestation.tenantId, attestation.compositeId, attestation.definitionVersion,
    attestation.membershipRevision)

def UniverseAttestation.key (attestation : UniverseAttestation) : UniverseKey :=
  (attestation.tenantId, attestation.compositeId, attestation.definitionVersion,
    attestation.membershipRevision, attestation.attestationVersion)

/-! ## Hashes -/

/-- SHA-256, and the canonical JSON texts of the records.  The text of a universe leaves out the hashes
of its source products. -/
structure MembershipHashing where
  sha256Hex : String → String
  revisionText : MembershipRevision → String
  universeText : UniverseAttestation → String

/-- `hash_canonical_payload` of a payload in its canonical text. -/
def contentHash (sha256Hex : String → String) (text : String) : String := "sha256:" ++ sha256Hex text

theorem strip_contentHash_ne (sha256Hex : String → String) (text : String) :
    Text.strip (contentHash sha256Hex text) ≠ "" := by
  apply Text.strip_ne_empty (c := 's')
  · rw [contentHash, String.toList_append]
    exact List.mem_append_left _ (by decide)
  · decide

/-! ## Publications -/

/-- `DpmCompositeMembershipPublication` -/
structure MembershipPublication where
  sequence : Nat
  tenantId : String
  compositeId : String
  definitionVersion : String
  membershipRevision : String
  membershipContentHash : String
  policyVersion : String
  sourceCutId : String
  decisionCount : Nat
  supersedesMembershipRevision : Option String
  affectedFrom : Option BusinessDate
  affectedTo : Option BusinessDate
  decidedAt : Timestamp
  publishedAt : Timestamp

def MembershipPublication.definitionKey (publication : MembershipPublication) : DefinitionKey :=
  (publication.tenantId, publication.compositeId, publication.definitionVersion)

def MembershipPublication.revisionKey (publication : MembershipPublication) : RevisionKey :=
  (publication.tenantId, publication.compositeId, publication.definitionVersion,
    publication.membershipRevision)

/-- The validators of `DpmCompositeMembershipPublication`; `chronological_publication` is the last. -/
def MembershipPublication.validate (publication : MembershipPublication) :
    Except CompositeError Unit := do
  ensure (0 < publication.sequence) (.value "greater_than")
  requireTexts "COMPOSITE_PUBLICATION_REQUIRED_TEXT"
    [publication.tenantId, publication.compositeId, publication.definitionVersion,
      publication.membershipRevision, publication.membershipContentHash, publication.policyVersion,
      publication.sourceCutId]
  ensure (1 ≤ publication.decisionCount) (.value "greater_than_equal")
  ensure (publication.decidedAt.aware && publication.publishedAt.aware)
    (.value "COMPOSITE_PUBLICATION_TIMEZONE_REQUIRED")

/-- `publication_from_revision` -/
def publicationFromRevision (hash : String) (revision : MembershipRevision) (sequence : Nat)
    (publishedAt : Timestamp) : Except CompositeError MembershipPublication := do
  let publication : MembershipPublication :=
    { sequence := sequence
      tenantId := revision.tenantId
      compositeId := revision.compositeId
      definitionVersion := revision.definitionVersion
      membershipRevision := revision.membershipRevision
      membershipContentHash := hash
      policyVersion := revision.policyVersion
      sourceCutId := revision.sourceCutId
      decisionCount := revision.decisions.length
      supersedesMembershipRevision := revision.supersedesMembershipRevision
      affectedFrom := revision.affectedFrom
      affectedTo := revision.affectedTo
      decidedAt := revision.decidedAt
      publishedAt := publishedAt }
  publication.validate
  return publication

theorem publicationFromRevision_ok {hash : String} {sequence : Nat}
    {publication : MembershipPublication}
    (h : publicationFromRevision hash revision sequence publishedAt = .ok publication) :
    publication.revisionKey = revision.key ∧ publication.membershipContentHash = hash ∧
      publication.sequence = sequence := by
  unfold publicationFromRevision at h
  obtain ⟨_, _, h⟩ := Checks.bind_eq_ok h
  cases h
  exact ⟨rfl, rfl, rfl⟩

theorem publicationFromRevision_eq_ok_iff {hash : String} {sequence : Nat}
    (haccepted : revision.Accepted) (hhash : Text.strip hash ≠ "") (hsequence : 0 < sequence)
    (hpublished : publishedAt.aware = true) :
    (∃ publication, publicationFromRevision hash revision sequence publishedAt = .ok publication) ↔
      revision.decidedAt.aware = true := by
  obtain ⟨htexts, hdecisions⟩ := haccepted.parts
  have hcount : 1 ≤ revision.decisions.length := List.length_pos_iff.mpr hdecisions
  unfold publicationFromRevision MembershipPublication.validate
  dsimp only
  rw [(ensure_eq_ok_iff _ _).mpr (decide_eq_true hsequence),
    (requireTexts_eq_ok_iff _ _).mpr ?_, (ensure_eq_ok_iff _ _).mpr (decide_eq_true hcount),
    hpublished, Bool.and_true]
  · constructor
    · intro ⟨_, h⟩
      obtain ⟨_, haware, _⟩ := Checks.bind_eq_ok h
      exact (ensure_eq_ok_iff _ _).mp haware
    · intro haware
      rw [(ensure_eq_ok_iff _ _).mpr haware]
      exact ⟨_, rfl⟩
  · intro text hmem
    simp only [List.mem_cons, List.not_mem_nil, or_false] at hmem htexts
    rcases hmem with rfl | rfl | rfl | rfl | rfl | rfl | rfl
    · exact htexts _ (by simp)
    · exact htexts _ (by simp)
    · exact htexts _ (by simp)
    · exact htexts _ (by simp)
    · exact hhash
    · exact htexts _ (by simp)
    · exact htexts _ (by simp)

end LotusManage.Composites
