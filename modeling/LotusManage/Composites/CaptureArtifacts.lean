import Mathlib.Data.List.Nodup
import Mathlib.Data.Set.List
import LotusManage.Composites.RetainedTraversal

/-!
# Capture artifacts

`_captures`: the segments of an artifact stand together, in order and from the first to the last,
wherever the pages are cut.  `Assembled` is the invariant of the capture consumer: the rows so far
fall into one part for each artifact, and the parts but the last are whole and were verified.

A part starts with the segment of index 0, so two parts of one artifact key would hold two rows of
one key, which the order of the rows forbids.
-/

namespace LotusManage.Composites

open Loops

/-! ## The parts of a list of segments -/

/-- The segments of an artifact among the rows. -/
def segmentsOf (rows : List SegmentRow) (commitment : NativeCaptureCommitment) : List SegmentRow :=
  rows.filter (·.commitment = commitment)

/-- The bytes of an artifact: those of its segments, one after the other. -/
def artifactBytes (rows : List SegmentRow) (commitment : NativeCaptureCommitment) : List UInt8 :=
  (segmentsOf rows commitment).flatMap SegmentRow.content

/-- A commitment and the segments that stand together under it. -/
abbrev Part := NativeCaptureCommitment × List SegmentRow

/-- The bytes of a part. -/
def Part.bytes (part : Part) : List UInt8 := part.2.flatMap SegmentRow.content

/-- The artifact after the segments of a part. -/
def Part.artifact (part : Part) : Artifact where
  commitment := part.1
  spool := part.bytes
  segments := part.2.length

/-- The segments of a part are its commitment's, from the one of index 0 on. -/
structure Part.Sequential (part : Part) : Prop where
  tagged : ∀ row ∈ part.2, row.commitment = part.1
  indexes : part.2.map SegmentRow.segmentIndex = List.range part.2.length

theorem Part.Sequential.nil (commitment : NativeCaptureCommitment) :
    Part.Sequential (commitment, []) :=
  ⟨fun _ h => absurd h List.not_mem_nil, rfl⟩

theorem Artifact.append_part {sha256 : Sha256} {part : Part} {row : SegmentRow}
    {artifact : Artifact} (hpart : part.Sequential)
    (h : part.artifact.append sha256 row = .ok artifact) :
    artifact = Part.artifact (part.1, part.2 ++ [row]) ∧
      Part.Sequential (part.1, part.2 ++ [row]) := by
  obtain ⟨_, hcheck, h⟩ := Checks.bind_eq_ok h
  obtain ⟨raw, hraw, h⟩ := Checks.bind_eq_ok h
  cases h
  have hboth := require_eq_ok hcheck
  simp only [Bool.and_eq_true, decide_eq_true_eq] at hboth
  obtain ⟨htag, hindex⟩ := hboth
  have hindex : row.segmentIndex = part.2.length := hindex
  refine ⟨?_, ?_, ?_⟩
  · rw [(SegmentRow.raw_eq_ok hraw).1]
    simp [Part.artifact, Part.bytes]
  · intro r hr
    rw [List.mem_append, List.mem_singleton] at hr
    rcases hr with hr | rfl
    · exact hpart.tagged r hr
    · exact htag
  · rw [List.map_append, hpart.indexes, List.map_singleton, hindex, List.length_append,
      List.length_singleton, List.range_succ]

theorem Artifact.raw_eq_ok {sha256 : Sha256} {artifact : Artifact} {raw : List UInt8}
    (h : artifact.raw sha256 = .ok raw) :
    raw = artifact.spool ∧ artifact.segments = artifact.commitment.segmentCount ∧
      artifact.spool.length = artifact.commitment.byteCount := by
  obtain ⟨_, hcount, h⟩ := Checks.bind_eq_ok h
  obtain ⟨_, hbytes, h⟩ := Checks.bind_eq_ok h
  cases h
  have hbytes := require_eq_ok hbytes
  simp only [Bool.and_eq_true, decide_eq_true_eq] at hbytes
  exact ⟨rfl, of_decide_eq_true (require_eq_ok hcount), hbytes.1⟩

theorem Artifact.raw_raises (sha256 : Sha256) (artifact : Artifact) :
    Checks.Raises ReaderError.IsValue (artifact.raw sha256) :=
  (require_raises _ _).bind fun _ _ => (require_raises _ _).bind fun _ _ => .ok _

/-! ## The consumer -/

section Assembling

variable {τ : Type} {sha256 : Sha256} {custody : τ}
  {verify : τ → NativeCaptureCommitment → List UInt8 → Except ReaderError τ}

/-- The calls of `verify` for parts, first to last. -/
def verifyParts (verify : τ → NativeCaptureCommitment → List UInt8 → Except ReaderError τ)
    (custody : τ) (parts : List Part) : Except ReaderError τ :=
  parts.foldlM (fun kept part => verify kept part.1 part.bytes) custody

variable {parts : List Part} {part : Part} {kept : τ} {rows : List SegmentRow}
  {state : CaptureState τ} {last : Option Part}

theorem verifyParts_concat {kept' : τ} (h : verifyParts verify custody parts = .ok kept)
    (hpart : verify kept part.1 part.bytes = .ok kept') :
    verifyParts verify custody (parts ++ [part]) = .ok kept' := by
  rw [verifyParts] at h ⊢
  rw [List.foldlM_append, h]
  exact (bind_pure (verify kept part.1 part.bytes)).trans hpart

/-- The consumer's state after rows that fall into the parts `parts` and then, when there was a row,
the part that is still open. -/
structure Assembled (sha256 : Sha256)
    (verify : τ → NativeCaptureCommitment → List UInt8 → Except ReaderError τ) (custody : τ)
    (rows : List SegmentRow) (state : CaptureState τ) (parts : List Part) (last : Option Part) :
    Prop where
  closed : state.closed = parts.map Part.artifact
  current : state.current = last.map Part.artifact
  rows : rows = (parts ++ last.toList).flatMap Prod.snd
  sequential : ∀ part ∈ parts ++ last.toList, part.Sequential ∧ part.2 ≠ []
  whole : ∀ part ∈ parts, part.artifact.raw sha256 = .ok part.bytes
  verified : verifyParts verify custody parts = .ok state.custody

theorem Assembled.start :
    Assembled sha256 verify custody [] { closed := [], current := none, custody } [] none where
  closed := rfl
  current := rfl
  rows := rfl
  sequential := fun _ h => absurd h List.not_mem_nil
  whole := fun _ h => absurd h List.not_mem_nil
  verified := rfl

/-- The open part is verified: it is whole, and the call of `verify` is the next one. -/
theorem Assembled.verifyCurrent (h : Assembled sha256 verify custody rows state parts last)
    (hverify : state.verifyCurrent sha256 verify = .ok kept) :
    (∀ part ∈ parts ++ last.toList, part.artifact.raw sha256 = .ok part.bytes) ∧
      verifyParts verify custody (parts ++ last.toList) = .ok kept := by
  unfold CaptureState.verifyCurrent at hverify
  rw [h.current] at hverify
  cases last with
  | none =>
    cases hverify
    rw [Option.toList_none, List.append_nil]
    exact ⟨h.whole, h.verified⟩
  | some part =>
    obtain ⟨raw, hraw, hverify⟩ := Checks.bind_eq_ok hverify
    have hbytes : raw = part.bytes := (Artifact.raw_eq_ok hraw).1
    subst raw
    refine ⟨?_, verifyParts_concat h.verified hverify⟩
    intro p hp
    rw [Option.toList_some, List.mem_append, List.mem_singleton] at hp
    rcases hp with hp | rfl
    · exact h.whole p hp
    · exact hraw

theorem Assembled.opened {row : SegmentRow} {artifact : Artifact}
    (hrows : rows = parts.flatMap Prod.snd) (hparts : ∀ part ∈ parts, part.Sequential ∧ part.2 ≠ [])
    (hwhole : ∀ part ∈ parts, part.artifact.raw sha256 = .ok part.bytes)
    (hverified : verifyParts verify custody parts = .ok kept)
    (happend : (Artifact.empty row.commitment).append sha256 row = .ok artifact) :
    Assembled sha256 verify custody (rows ++ [row])
      { closed := parts.map Part.artifact, current := some artifact, custody := kept } parts
      (some (row.commitment, [row])) := by
  obtain ⟨rfl, hsequential⟩ := Artifact.append_part (Part.Sequential.nil row.commitment) happend
  refine ⟨rfl, rfl, ?_, ?_, hwhole, hverified⟩
  · rw [Option.toList_some, List.flatMap_append, List.flatMap_singleton, ← hrows]
  · intro part hpart
    rw [Option.toList_some, List.mem_append, List.mem_singleton] at hpart
    rcases hpart with hpart | rfl
    · exact hparts part hpart
    · exact ⟨hsequential, List.cons_ne_nil _ _⟩

theorem Assembled.row {rows : List SegmentRow} {state state' : CaptureState τ} {row : SegmentRow}
    {parts : List Part} {last : Option Part}
    (h : Assembled sha256 verify custody rows state parts last)
    (hrow : consumeSegment sha256 verify state (.segment row) = .ok state') :
    ∃ parts' last', Assembled sha256 verify custody (rows ++ [row]) state' parts' last' := by
  obtain ⟨⟨closed, artifact, kept⟩, hselect, hrow⟩ := Checks.bind_eq_ok hrow
  obtain ⟨artifact', happend, hrow⟩ := Checks.bind_eq_ok hrow
  cases hrow
  unfold CaptureState.select at hselect
  rw [h.current] at hselect
  cases last with
  | none =>
    cases hselect
    have hrows := h.rows
    have hparts := h.sequential
    rw [Option.toList_none, List.append_nil] at hrows hparts
    rw [h.closed]
    exact ⟨_, _, Assembled.opened hrows hparts h.whole h.verified happend⟩
  | some part =>
    simp only [Option.map_some] at hselect
    by_cases hsame : part.artifact.commitment = row.commitment
    · rw [if_pos hsame] at hselect
      cases hselect
      have hpart : part.Sequential := (h.sequential part (by simp)).1
      obtain ⟨rfl, hsequential⟩ := Artifact.append_part hpart happend
      refine ⟨parts, some (part.1, part.2 ++ [row]), h.closed, rfl, ?_, ?_, h.whole, h.verified⟩
      · rw [h.rows]
        simp
      · intro p hp
        rw [Option.toList_some, List.mem_append, List.mem_singleton] at hp
        rcases hp with hp | rfl
        · exact h.sequential p (List.mem_append_left _ hp)
        · exact ⟨hsequential, by simp⟩
    · rw [if_neg hsame] at hselect
      obtain ⟨kept', hverify, hselect⟩ := Checks.bind_eq_ok hselect
      cases hselect
      obtain ⟨hwhole, hverified⟩ := h.verifyCurrent hverify
      have hopened := Assembled.opened h.rows h.sequential hwhole hverified happend
      rw [Option.toList_some, List.map_append, List.map_singleton, ← h.closed] at hopened
      exact ⟨_, _, hopened⟩

theorem Assembled.run {more : List SegmentRow} {state' : CaptureState τ}
    (h : Assembled sha256 verify custody rows state parts last)
    (hrun : (more.map Row.segment).foldlM (consumeSegment sha256 verify) state = .ok state') :
    ∃ parts' last', Assembled sha256 verify custody (rows ++ more) state' parts' last' := by
  induction more generalizing rows state parts last with
  | nil =>
    cases hrun
    rw [List.append_nil]
    exact ⟨parts, last, h⟩
  | cons row more ih =>
    rw [List.map_cons, List.foldlM_cons] at hrun
    obtain ⟨next, hrow, hrun⟩ := Checks.bind_eq_ok hrun
    obtain ⟨parts', last', hnext⟩ := h.row hrow
    obtain ⟨parts'', last'', hend⟩ := ih hnext hrun
    rw [List.append_assoc, List.singleton_append] at hend
    exact ⟨parts'', last'', hend⟩

/-! ## Distinct artifacts -/

/-- What tells the artifacts of a view apart. -/
def NativeCaptureCommitment.identity (commitment : NativeCaptureCommitment) :
    Option NativeRole × Nat × Digest :=
  (commitment.role, commitment.sourcePageIndex, commitment.captureId)

theorem key_of_identity {commitment commitment' : NativeCaptureCommitment}
    (h : commitment.identity = commitment'.identity) : commitment.key = commitment'.key := by
  simp only [NativeCaptureCommitment.identity, Prod.mk.injEq] at h
  rw [NativeCaptureCommitment.key, NativeCaptureCommitment.key, h.1, h.2.1, h.2.2]

theorem Part.Sequential.first (h : part.Sequential) (hne : part.2 ≠ []) :
    ∃ row ∈ part.2, (Row.segment row).key = part.1.key ++ [.number 0] := by
  obtain ⟨row, rest, hrows⟩ := List.exists_cons_of_ne_nil hne
  have hindexes := h.indexes
  rw [hrows, List.length_cons, List.map_cons, List.range_succ_eq_map, List.cons.injEq] at hindexes
  have hmem : row ∈ part.2 := by simp [hrows]
  refine ⟨row, hmem, ?_⟩
  rw [Row.key, h.tagged row hmem, hindexes.1]
  rfl

theorem identities_nodup (hparts : ∀ part ∈ parts, part.Sequential ∧ part.2 ≠ [])
    (hordered : ((parts.flatMap Prod.snd).map fun row => (Row.segment row).key).Pairwise KeyLt) :
    (parts.map fun part => part.1.identity).Nodup := by
  rw [List.pairwise_map, List.pairwise_flatMap] at hordered
  rw [List.Nodup, List.pairwise_map]
  apply List.Pairwise.imp_of_mem _ hordered.2
  intro part part' hpart hpart' hbetween heq
  obtain ⟨row, hrow, hkey⟩ := (hparts part hpart).1.first (hparts part hpart).2
  obtain ⟨row', hrow', hkey'⟩ := (hparts part' hpart').1.first (hparts part' hpart').2
  have hlt := hbetween row hrow row' hrow'
  rw [hkey, hkey', key_of_identity heq] at hlt
  exact KeyLt.irrefl _ hlt

theorem segmentsOf_part (hparts : ∀ part ∈ parts, part.Sequential)
    (hnodup : (parts.map Prod.fst).Nodup) (hpart : part ∈ parts) :
    segmentsOf (parts.flatMap Prod.snd) part.1 = part.2 := by
  induction parts with
  | nil => exact absurd hpart List.not_mem_nil
  | cons head parts ih =>
    rw [List.forall_mem_cons] at hparts
    rw [List.map_cons, List.nodup_cons] at hnodup
    have hother : ∀ p ∈ parts, ∀ q : Part, q.1 ≠ p.1 → q.Sequential →
        segmentsOf q.2 p.1 = [] := by
      intro p _ q hne hq
      rw [segmentsOf, List.filter_eq_nil_iff]
      intro row hrow
      rw [decide_eq_true_eq, hq.tagged row hrow]
      exact hne
    have hown : ∀ q : Part, q.Sequential → segmentsOf q.2 q.1 = q.2 := by
      intro q hq
      rw [segmentsOf, List.filter_eq_self]
      exact fun row hrow => decide_eq_true (hq.tagged row hrow)
    rw [List.flatMap_cons, segmentsOf, List.filter_append]
    show segmentsOf head.2 part.1 ++ segmentsOf (parts.flatMap Prod.snd) part.1 = part.2
    rcases List.mem_cons.mp hpart with rfl | htail
    · rw [hown part hparts.1, List.append_right_eq_self, segmentsOf, List.filter_eq_nil_iff]
      intro row hrow
      obtain ⟨q, hq, hrow⟩ := List.mem_flatMap.mp hrow
      rw [decide_eq_true_eq, (hparts.2 q hq).tagged row hrow]
      intro heq
      exact hnodup.1 (List.mem_map.mpr ⟨q, hq, heq⟩)
    · have hne : head.1 ≠ part.1 := by
        intro heq
        exact hnodup.1 (List.mem_map.mpr ⟨part, htail, heq.symm⟩)
      rw [hother part htail head hne hparts.1, List.nil_append]
      exact ih hparts.2 hnodup.2 htail

/-! ## The captures of a view -/

/-- What `_captures` returns, against the rows that were read: one artifact for each commitment
among the rows, no two of one identity; each is whole; and `verify` was called once for each, in
order, with its bytes. -/
structure CapturesExact
    (verify : τ → NativeCaptureCommitment → List UInt8 → Except ReaderError τ) (custody : τ)
    (rows : List SegmentRow) (captured : Captured τ) : Prop where
  distinct : (captured.commitments.map NativeCaptureCommitment.identity).Nodup
  complete : ∀ commitment, commitment ∈ captured.commitments ↔
    ∃ row ∈ rows, row.commitment = commitment
  segments : ∀ commitment ∈ captured.commitments,
    (segmentsOf rows commitment).map SegmentRow.segmentIndex = List.range commitment.segmentCount
  sized : ∀ commitment ∈ captured.commitments,
    (artifactBytes rows commitment).length = commitment.byteCount
  verified : captured.commitments.foldlM
    (fun kept commitment => verify kept commitment (artifactBytes rows commitment)) custody =
      .ok captured.custody

/-- The errors of a traversal of the captures. -/
def CaptureError (verify : τ → NativeCaptureCommitment → List UInt8 → Except ReaderError τ)
    (e : ReaderError) : Prop :=
  e.IsValue ∨ ∃ kept commitment raw, verify kept commitment raw = .error e

/-- What a traversal of the captures may come to. -/
inductive CaptureOutcome (sha256 : Sha256) (scope : ReadScope) (server : Server)
    (verify : τ → NativeCaptureCommitment → List UInt8 → Except ReaderError τ) (custody : τ) :
    Except ReaderError (Option (Captured τ)) → Prop
  | raised {e : ReaderError} (h : CaptureError verify e) :
      CaptureOutcome sha256 scope server verify custody (.error e)
  | unavailable : CaptureOutcome sha256 scope server verify custody (.ok none)
  | captured {pages : List ReadResponse} {rows : List SegmentRow} {state : CaptureState τ}
      {captured : Captured τ}
      (hread : Retrieved sha256 { scope with view := .captures } server
        (consumeSegment sha256 verify) { closed := [], current := none, custody } pages
        captured.first captured.root state)
      (hrows : rowsOf pages = rows.map Row.segment)
      (hraw : ∀ row ∈ rows, row.raw sha256 = .ok row.content)
      (h : CapturesExact verify custody rows captured) :
      CaptureOutcome sha256 scope server verify custody (.ok (some captured))

theorem Assembled.exact {captured : Captured τ}
    (h : Assembled sha256 verify custody rows state parts last)
    (hordered : (rows.map fun row => (Row.segment row).key).Pairwise KeyLt)
    (hverify : state.verifyCurrent sha256 verify = .ok kept) (hcommitments : captured.commitments =
      (state.closed ++ state.current.toList).map (·.commitment)) (hkept : captured.custody = kept) :
    CapturesExact verify custody rows captured := by
  obtain ⟨hwhole, hverified⟩ := h.verifyCurrent hverify
  have hsequential := h.sequential
  have hrows := h.rows
  have hall : captured.commitments = (parts ++ last.toList).map Prod.fst := by
    rw [hcommitments, h.closed, h.current]
    cases last <;> simp [Part.artifact]
  generalize parts ++ last.toList = parts at *
  subst hrows
  have hidentities := identities_nodup hsequential hordered
  have hnodup : (parts.map Prod.fst).Nodup := by
    apply List.Nodup.of_map NativeCaptureCommitment.identity
    rw [List.map_map]
    exact hidentities
  have hsegments : ∀ part ∈ parts, segmentsOf (parts.flatMap Prod.snd) part.1 = part.2 :=
    fun part hpart => segmentsOf_part (fun p hp => (hsequential p hp).1) hnodup hpart
  have hraw : ∀ part ∈ parts, part.2.length = part.1.segmentCount ∧
      part.bytes.length = part.1.byteCount :=
    fun part hpart => (Artifact.raw_eq_ok (hwhole part hpart)).2
  constructor
  case distinct =>
    rw [hall, List.map_map]
    exact hidentities
  case complete =>
    intro commitment
    rw [hall, List.mem_map]
    constructor
    · rintro ⟨part, hpart, rfl⟩
      obtain ⟨row, hrow⟩ := List.exists_mem_of_ne_nil _ (hsequential part hpart).2
      refine ⟨row, List.mem_flatMap.mpr ⟨part, hpart, hrow⟩, ?_⟩
      exact (hsequential part hpart).1.tagged row hrow
    · rintro ⟨row, hrow, rfl⟩
      obtain ⟨part, hpart, hrow⟩ := List.mem_flatMap.mp hrow
      exact ⟨part, hpart, ((hsequential part hpart).1.tagged row hrow).symm⟩
  case segments =>
    rw [hall, List.forall_mem_map]
    intro part hpart
    rw [hsegments part hpart, (hsequential part hpart).1.indexes, (hraw part hpart).1]
  case sized =>
    rw [hall, List.forall_mem_map]
    intro part hpart
    rw [artifactBytes, hsegments part hpart]
    exact (hraw part hpart).2
  case verified =>
    rw [hall, List.foldlM_map, hkept, ← hverified, verifyParts]
    apply Checks.foldlM_congr
    intro kept part hpart
    rw [artifactBytes, hsegments part hpart]
    rfl

theorem verifyCurrent_raises (state : CaptureState τ) :
    Checks.Raises (CaptureError verify) (state.verifyCurrent sha256 verify) := by
  unfold CaptureState.verifyCurrent
  cases state.current with
  | none => exact .ok _
  | some artifact =>
    refine Checks.Raises.bind ?_ fun raw _ => ?_
    · exact (artifact.raw_raises sha256).mono fun e he => .inl he
    · exact fun e he => .inr ⟨_, _, _, he⟩

theorem consumeSegment_raises (state : CaptureState τ) (row : SegmentRow) :
    Checks.Raises (CaptureError verify) (consumeSegment sha256 verify state (.segment row)) := by
  refine Checks.Raises.bind ?select fun _ _ => Checks.Raises.bind ?append fun _ _ => .ok _
  case select =>
    unfold CaptureState.select
    cases state.current with
    | none => exact .ok _
    | some artifact =>
      dsimp only
      split
      · exact .ok _
      · exact (verifyCurrent_raises state).bind fun _ _ => .ok _
  case append =>
    apply Checks.Raises.mono _ fun e he => Or.inl he
    exact (require_raises _ _).bind fun _ _ => (row.raw_raises sha256).bind fun _ _ => .ok _

theorem captureRow {scope : ReadScope} {row : Row}
    (h : ReadScope.rowKind { scope with view := .captures } = some row.kind) :
    ∃ segment, Row.segment segment = row := by
  have hkind : ∀ product, ReadResponse.expectedKind product .captures = some .captureSegment := by
    intro product
    cases product <;> rfl
  rw [ReadScope.rowKind, hkind] at h
  cases row with
  | segment row => exact ⟨row, rfl⟩
  | _ => cases h

/-- The retained traversal of the captures: within `total_count + 1` pages it is over, and then it
has raised, or found no server, or put every artifact of the view together and verified it. -/
theorem captures_outcome (sha256 : Sha256) (scope : ReadScope) (server : Server)
    (verify : τ → NativeCaptureCommitment → List UInt8 → Except ReaderError τ) (custody : τ) :
    ∃ outcome, (∀ fuel, declaredTotal server + 1 ≤ fuel →
        captures sha256 scope server verify custody fuel = some outcome) ∧
      CaptureOutcome sha256 scope server verify custody outcome := by
  obtain ⟨outcome, hfuel, houtcome⟩ := read_outcome sha256 { scope with view := .captures } server
    (consumeSegment sha256 verify) { closed := [], current := none, custody }
  refine ⟨outcome >>= finishCaptures sha256 verify, ?_, ?_⟩
  · intro fuel hle
    rw [captures, hfuel fuel hle]
    rfl
  cases houtcome with
  | raised h =>
    rename_i e
    apply CaptureOutcome.raised
    rcases h with h | ⟨state, row, hkind, h⟩
    · exact .inl h
    · obtain ⟨segment, rfl⟩ := captureRow hkind
      exact consumeSegment_raises state segment e h
  | unavailable => exact .unavailable
  | @view pages first root state hread =>
    cases hverify : state.verifyCurrent sha256 verify with
    | error e =>
      show CaptureOutcome sha256 scope server verify custody
        (finishCaptures sha256 verify (some (first, root, state)))
      simp only [finishCaptures, hverify]
      exact .raised (verifyCurrent_raises state e hverify)
    | ok kept =>
      show CaptureOutcome sha256 scope server verify custody
        (finishCaptures sha256 verify (some (first, root, state)))
      simp only [finishCaptures, hverify]
      have hsegments : rowsOf pages ∈ Set.range (List.map Row.segment) := by
        rw [Set.range_list_map]
        exact fun row hrow => captureRow (hread.answered.rows.1 row hrow)
      obtain ⟨rows, hrows⟩ := hsegments
      have hraw : ∀ row ∈ rows, row.raw sha256 = .ok row.content := by
        intro row hrow
        apply hread.answered.rows.2
        rw [← hrows]
        exact List.mem_map_of_mem hrow
      have hordered := hread.ordered
      have hconsumed := hread.consumed
      rw [← hrows] at hconsumed
      rw [← hrows, List.map_map] at hordered
      obtain ⟨parts, last, hassembled⟩ := Assembled.start.run hconsumed
      exact .captured hread hrows.symm hraw (hassembled.exact hordered hverify rfl rfl)

end Assembling

/-- The retained-source traversal is exact against any server. -/
theorem retained_traversal_exact (sha256 : Sha256) (scope : ReadScope) (server : Server) :
    (∀ (σ : Type) (consume : σ → Row → Except ReaderError σ) (sink : σ),
      ∃ outcome, (∀ fuel, declaredTotal server + 1 ≤ fuel →
          read sha256 scope server consume sink fuel = some outcome) ∧
        ReadOutcome sha256 scope server consume sink outcome) ∧
    ∀ (τ : Type) (verify : τ → NativeCaptureCommitment → List UInt8 → Except ReaderError τ)
      (custody : τ),
      ∃ outcome, (∀ fuel, declaredTotal server + 1 ≤ fuel →
          captures sha256 scope server verify custody fuel = some outcome) ∧
        CaptureOutcome sha256 scope server verify custody outcome := by
  constructor
  · intro σ consume sink
    exact read_outcome sha256 scope server consume sink
  · intro τ verify custody
    exact captures_outcome sha256 scope server verify custody

end LotusManage.Composites
