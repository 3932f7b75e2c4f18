import Mathlib.Data.List.Infix
import LotusManage.Campaigns.StoreCases

/-!
# Acknowledged evidence stays

Every command on a campaign definition replaces the stored definition by one that it has built
from an earlier read.  The commands that append evidence are fenced: the content hash of what
they have read must still be the stored one, and the launches, which the hash leaves out, are
compared by themselves.  So what they write extends what they replace
(`extends_of_fence`).

A retirement and a supersession check only that the stored definition is active.  They keep the
evidence exactly when what they have read still carries the stored evidence, which is
`ClosesCurrent`; under it every step extends what is stored (`extends_step`), and so does every
run.
-/

namespace LotusManage.Campaigns

open LotusManage.Text (strip)
open LotusManage.Runs (Along)

/-! ## What is stored and what was read -/

/-- A definition was stored at some time of the run. -/
def StoredIn (hashing : Hashing) (calls : List CampaignCall) (definition : CampaignDefinition) :
    Prop :=
  ∃ past key, past <+: calls ∧
    (CampaignService.after hashing past).store.get? key = some definition

variable {hashing : Hashing} {calls past : List CampaignCall}
  {definition d d' stored updated base : CampaignDefinition} {s : CampaignService} {readIndex : Nat}
  {call : CampaignCall} {operation : WorkflowOperation} {key : String × String × String}

theorem StoredIn.mono {calls' : List CampaignCall} (h : StoredIn hashing calls definition)
    (hcalls : calls <+: calls') : StoredIn hashing calls' definition := by
  obtain ⟨past, key, hpast, hstored⟩ := h
  exact ⟨past, key, hpast.trans hcalls, hstored⟩

/-- The stored definitions stand under their own keys with their own hashes, and what was read
was stored once. -/
structure Sound (hashing : Hashing) (past : List CampaignCall) (s : CampaignService) : Prop where
  stored : ∀ (key : String × String × String) (definition : CampaignDefinition),
    s.store.get? key = some definition → definition.key = key ∧ Hashed hashing definition
  reads : ∀ read ∈ s.reads, ∀ definition, read.definition = some definition →
    definition.key = read.key ∧ Hashed hashing definition ∧ StoredIn hashing past definition

theorem CampaignService.exists_read_of_readDefinition
    (h : s.readDefinition readIndex = some definition) :
    ∃ read ∈ s.reads, read.definition = some definition := by
  obtain ⟨read, hread, hdefinition⟩ := Option.bind_eq_some_iff.mp h
  exact ⟨read, List.mem_of_getElem? hread, hdefinition⟩

theorem Sound.readsHashed (h : Sound hashing past s) : s.ReadsHashed hashing := by
  intro readIndex definition hread
  obtain ⟨read, hmem, hdefinition⟩ := CampaignService.exists_read_of_readDefinition hread
  exact (h.reads read hmem definition hdefinition).2.1

theorem Sound.storedIn (h : Sound hashing past s)
    (hread : s.readDefinition readIndex = some definition) : StoredIn hashing past definition := by
  obtain ⟨read, hmem, hdefinition⟩ := CampaignService.exists_read_of_readDefinition hread
  exact (h.reads read hmem definition hdefinition).2.2

theorem StoreMove.eq_or_set {store' : DefinitionStore} (h : StoreMove hashing s call store') :
    store' = s.store ∨ ∃ definition, Hashed hashing definition ∧
      store' = s.store.set definition.key definition := by
  cases h with
  | kept => exact .inl rfl
  | created command hhashed => exact .inr ⟨_, hhashed, rfl⟩
  | appended command readIndex _ hbuilt => exact .inr ⟨_, hbuilt.hashed, rfl⟩
  | retired request readIndex _ _ hclosed => exact .inr ⟨_, hclosed.hashed, rfl⟩
  | superseded request readIndex replacementIndex _ _ hclosed =>
    exact .inr ⟨_, hclosed.hashed, rfl⟩

theorem after_concat (hashing : Hashing) (past : List CampaignCall) (call : CampaignCall) :
    CampaignService.after hashing (past ++ [call]) =
      (CampaignService.after hashing past).step hashing call :=
  Runs.run_append _ _ _ _

theorem sound_step (call : CampaignCall)
    (h : Sound hashing past (CampaignService.after hashing past)) :
    Sound hashing (past ++ [call])
      ((CampaignService.after hashing past).step hashing call) := by
  constructor
  · intro key definition hstored
    obtain hkept | ⟨written, hhashed, hset⟩ :=
      (CampaignService.storeAfter_cases h.readsHashed call).eq_or_set
    · refine h.stored key definition ?_
      rw [← hkept]
      exact hstored
    · change (CampaignService.storeAfter _ _ _).get? key = _ at hstored
      rw [hset, Dict.get?_set] at hstored
      split at hstored
      · rename_i hkey
        cases hstored
        exact ⟨hkey.symm, hhashed⟩
      · exact h.stored key definition hstored
  · intro read hmem definition hdefinition
    have hold : ∀ read ∈ (CampaignService.after hashing past).reads,
        read.definition = some definition → definition.key = read.key ∧
          Hashed hashing definition ∧ StoredIn hashing (past ++ [call]) definition := by
      intro read hmem hdefinition
      obtain ⟨hkey, hhashed, hstored⟩ := h.reads read hmem definition hdefinition
      exact ⟨hkey, hhashed, hstored.mono (List.prefix_append _ _)⟩
    cases call with
    | read tenantId campaignId campaignVersion =>
      obtain hmem | hmem := List.mem_append.mp hmem
      · exact hold read hmem hdefinition
      · rw [List.mem_singleton] at hmem
        subst hmem
        obtain ⟨hkey, hhashed⟩ := h.stored _ definition hdefinition
        exact ⟨hkey, hhashed, past, _, List.prefix_append _ _, hdefinition⟩
    | create | record | retire | supersede => exact hold read hmem hdefinition

theorem sound_after (hashing : Hashing) (calls : List CampaignCall) :
    Sound hashing calls (CampaignService.after hashing calls) := by
  induction calls using List.reverseRecOn with
  | nil =>
    constructor
    · intro key definition hstored
      cases hstored
    · intro read hmem
      cases hmem
  | append_singleton past call ih =>
    rw [after_concat]
    exact sound_step call ih

/-! ## The fence -/

/-- Within the run, a content hash belongs to one payload. -/
def HashesFaithful (hashing : Hashing) (calls : List CampaignCall) : Prop :=
  ∀ past ∈ calls.inits, ∀ d ∈ (CampaignService.after hashing past).store.values,
    ∀ past' ∈ calls.inits, ∀ d' ∈ (CampaignService.after hashing past').store.values,
      d.contentHash = d'.contentHash → d.hashPayload = d'.hashPayload

instance (hashing : Hashing) (calls : List CampaignCall) :
    Decidable (HashesFaithful hashing calls) := by
  unfold HashesFaithful
  infer_instance

theorem HashesFaithful.hashPayload_eq (h : HashesFaithful hashing calls)
    (hd : StoredIn hashing calls d) (hd' : StoredIn hashing calls d')
    (hhash : d.contentHash = d'.contentHash) : d.hashPayload = d'.hashPayload := by
  obtain ⟨past, key, hpast, hstored⟩ := hd
  obtain ⟨past', key', hpast', hstored'⟩ := hd'
  exact h past ((List.mem_inits _ _).mpr hpast) d ((Dict.mem_values_iff _ _).mpr ⟨key, hstored⟩)
    past' ((List.mem_inits _ _).mpr hpast') d' ((Dict.mem_values_iff _ _).mpr ⟨key', hstored'⟩)
    hhash

theorem evidence_of_hashPayload_eq (h : d.hashPayload = d'.hashPayload) :
    d.approvalDecisions = d'.approvalDecisions ∧ d.assignmentActions = d'.assignmentActions ∧
      d.assignmentTasks = d'.assignmentTasks ∧
      d.makerCheckerControls = d'.makerCheckerControls := by
  unfold CampaignDefinition.hashPayload at h
  injection h
  refine ⟨?_, ?_, ?_, ?_⟩ <;> assumption

theorem launches_of_fence (h : validateWorkflowAppendFence stored updated operation = .ok ()) :
    stored.launchHistory <+: updated.launchHistory := by
  unfold validateWorkflowAppendFence at h
  split at h
  · split at h
    · cases h
    · rename_i hkept
      have htake := not_not.mp (not_or.mp hkept).2
      rw [← htake]
      exact List.take_prefix _ _
  · split at h
    · cases h
    · rename_i hsame
      exact not_not.mp hsame ▸ List.prefix_refl _

theorem extends_of_fence (hbuilt : Appended hashing operation base updated)
    (hpayload : stored.hashPayload = base.hashPayload)
    (hfence : validateWorkflowAppendFence stored updated operation = .ok ()) :
    Extends stored updated := by
  have hlaunches := launches_of_fence hfence
  -- all but the launches comes through the definition that was read
  have hevidence := hbuilt.evidence
  obtain ⟨hdecisions, hactions, htasks, hcontrols⟩ := evidence_of_hashPayload_eq hpayload
  refine ⟨hlaunches, hdecisions ▸ hevidence.decisions, hactions ▸ hevidence.actions, ?_,
    hcontrols ▸ hevidence.controls⟩
  rw [htasks]
  exact hevidence.tasks

/-! ## Steps and runs -/

/-- The definition that was read carries the evidence of the stored one, if that is still
active. -/
def CampaignService.ReadCurrent (s : CampaignService) (readIndex : Nat) : Prop :=
  ∀ base ∈ s.readDefinition readIndex, ∀ stored ∈ s.store.get? base.key,
    stored.status = .active → SameEvidence base stored

instance (d d' : CampaignDefinition) : Decidable (SameEvidence d d') :=
  decidable_of_iff
    (d.launchHistory = d'.launchHistory ∧ d.approvalDecisions = d'.approvalDecisions ∧
      d.assignmentActions = d'.assignmentActions ∧ d.assignmentTasks = d'.assignmentTasks ∧
      d.makerCheckerControls = d'.makerCheckerControls)
    ⟨fun ⟨hlaunches, hdecisions, hactions, htasks, hcontrols⟩ =>
        ⟨hlaunches, hdecisions, hactions, htasks, hcontrols⟩,
      fun h => ⟨h.launches, h.decisions, h.actions, h.tasks, h.controls⟩⟩

instance (s : CampaignService) (readIndex : Nat) : Decidable (s.ReadCurrent readIndex) := by
  unfold CampaignService.ReadCurrent
  infer_instance

/-- A retirement or a supersession that gets as far as its write has read the evidence that is
stored. -/
def ClosesCurrent (hashing : Hashing) (s : CampaignService) : CampaignCall → Prop
  | .retire request readIndex =>
    (s.retirement hashing request readIndex).isSome → s.ReadCurrent readIndex
  | .supersede request readIndex replacementIndex =>
    (s.supersession hashing request readIndex replacementIndex).isSome → s.ReadCurrent readIndex
  | _ => True

instance (hashing : Hashing) (s : CampaignService) (call : CampaignCall) :
    Decidable (ClosesCurrent hashing s call) := by
  unfold ClosesCurrent
  split <;> infer_instance

theorem extends_of_closed (hread : s.readDefinition readIndex = some base)
    (hclosed : Closed hashing base updated) (hstored : s.store.get? updated.key = some stored)
    (hactive : stored.status = .active) (hcurrent : s.ReadCurrent readIndex) :
    Extends stored updated := by
  rw [hclosed.key] at hstored
  have hsame := hcurrent base hread stored hstored hactive
  exact hsame.symm.extends.trans hclosed.evidence.extends

theorem extends_step (hcalls : past ++ [call] <+: calls) (hfaithful : HashesFaithful hashing calls)
    (hcurrent : ClosesCurrent hashing (CampaignService.after hashing past) call)
    (hdefinition : (CampaignService.after hashing past).store.get? key = some definition) :
    ∃ stored, (CampaignService.after hashing (past ++ [call])).store.get? key = some stored ∧
      Extends definition stored := by
  have hsound := sound_after hashing past
  have hmove := CampaignService.storeAfter_cases hsound.readsHashed call
  have hpast : past <+: calls := (List.prefix_append _ _).trans hcalls
  rw [after_concat]
  show ∃ stored, ((CampaignService.after hashing past).storeAfter hashing call).get? key =
    some stored ∧ Extends definition stored
  -- a write elsewhere changes nothing here; a write under this key replaces `definition`
  have hset : ∀ written : CampaignDefinition, (∀ found,
      (CampaignService.after hashing past).store.get? written.key = some found →
        Extends found written) →
      ∃ stored, ((CampaignService.after hashing past).store.set written.key written).get? key =
        some stored ∧ Extends definition stored := by
    intro written hextends
    rw [Dict.get?_set]
    split
    · rename_i hkey
      subst hkey
      exact ⟨written, rfl, hextends definition hdefinition⟩
    · exact ⟨definition, hdefinition, .refl definition⟩
  generalize (CampaignService.after hashing past).storeAfter hashing call = store' at hmove
  cases hmove with
  | kept => exact ⟨definition, hdefinition, .refl definition⟩
  | created command _ _ habsent =>
    refine hset _ ?_
    intro found hfound
    rw [habsent] at hfound
    cases hfound
  | @appended command readIndex base updated stored hread hbuilt _ hstored _ hhash hfence =>
    refine hset updated ?_
    intro found hfound
    rw [hstored] at hfound
    cases hfound
    have hstoredIn : StoredIn hashing calls stored := ⟨past, updated.key, hpast, hstored⟩
    have hbaseIn : StoredIn hashing calls base := (hsound.storedIn hread).mono hpast
    exact extends_of_fence hbuilt (hfaithful.hashPayload_eq hstoredIn hbaseIn hhash) hfence
  | @retired request readIndex base updated stored hread hbuilt hclosed _ hstored hactive =>
    refine hset updated ?_
    intro found hfound
    rw [hstored] at hfound
    cases hfound
    refine extends_of_closed hread hclosed hstored hactive (hcurrent ?_)
    rw [hbuilt]
    rfl
  | @superseded request readIndex replacementIndex base updated stored _ hread hbuilt hclosed _ _ _
      hstored hactive =>
    refine hset updated ?_
    intro found hfound
    rw [hstored] at hfound
    cases hfound
    refine extends_of_closed hread hclosed hstored hactive (hcurrent ?_)
    rw [hbuilt]
    rfl

theorem extends_run (hfaithful : HashesFaithful hashing calls)
    (hcurrent : Along (CampaignService.step hashing) (ClosesCurrent hashing) .new calls)
    (hdefinition : (CampaignService.after hashing past).store.get? key = some definition)
    (between : List CampaignCall) (hcalls : past ++ between <+: calls) :
    ∃ stored, (CampaignService.after hashing (past ++ between)).store.get? key = some stored ∧
      Extends definition stored := by
  induction between using List.reverseRecOn with
  | nil =>
    rw [List.append_nil]
    exact ⟨definition, hdefinition, .refl definition⟩
  | append_singleton between call ih =>
    rw [← List.append_assoc] at hcalls ⊢
    obtain ⟨middle, hmiddle, hextends⟩ := ih ((List.prefix_append _ _).trans hcalls)
    obtain ⟨rest, hrest⟩ := hcalls
    have hsplit : calls = (past ++ between) ++ call :: rest := by
      rw [← hrest, List.append_assoc (past ++ between)]
      rfl
    rw [hsplit] at hcurrent
    obtain ⟨stored, hstored, hextends'⟩ :=
      extends_step ⟨rest, hrest⟩ hfaithful hcurrent.at_call hmiddle
    exact ⟨stored, hstored, hextends.trans hextends'⟩

theorem stored_of_acknowledged {acked : CampaignDefinition}
    (h : (CampaignService.after hashing past).acknowledged hashing call = some acked) :
    (CampaignService.after hashing (past ++ [call])).store.get? acked.key = some acked := by
  rw [after_concat]
  cases call with
  | record command readIndex =>
    exact (CampaignService.recordCall_cases (sound_after hashing past).readsHashed rfl).2 acked h
  | create | read | retire | supersede => cases h

/-- The evidence of every acknowledged definition stays, in the order of the acknowledgements,
when every retirement and every supersession that writes has read the stored evidence. -/
theorem campaign_evidence_kept (hashing : Hashing) (calls : List CampaignCall)
    (hfaithful : HashesFaithful hashing calls)
    (hcurrent : Along (CampaignService.step hashing) (ClosesCurrent hashing) .new calls) :
    ∀ past call between rest, calls = past ++ call :: between ++ rest →
      ∀ acked, (CampaignService.after hashing past).acknowledged hashing call = some acked →
        (∃ stored,
          (CampaignService.after hashing (past ++ call :: between)).store.get? acked.key =
            some stored ∧ Extends acked stored) ∧
        ∀ call' rest', rest = call' :: rest' → ∀ acked',
          (CampaignService.after hashing (past ++ call :: between)).acknowledged hashing call' =
            some acked' → acked'.key = acked.key → Extends acked acked' := by
  intro past call between rest hcalls acked hacked
  have hsplit : past ++ call :: between = (past ++ [call]) ++ between := by
    rw [List.append_assoc]
    rfl
  have hkept := extends_run hfaithful hcurrent (stored_of_acknowledged hacked)
  refine ⟨?_, ?_⟩
  · rw [hsplit]
    refine hkept between ⟨rest, ?_⟩
    rw [hcalls, hsplit]
  · rintro call' rest' rfl acked' hacked' hkey
    have hnow := stored_of_acknowledged hacked'
    rw [hsplit, List.append_assoc] at hnow
    have hprefix : past ++ [call] ++ (between ++ [call']) <+: calls := by
      refine ⟨rest', ?_⟩
      rw [hcalls]
      simp only [List.append_assoc, List.cons_append, List.nil_append]
    obtain ⟨stored, hstored, hextends⟩ := hkept (between ++ [call']) hprefix
    rw [hkey, hstored] at hnow
    cases hnow
    exact hextends

/-! ### A decision and a retirement -/

def sampleCreation (campaignVersion : String) : CampaignCall :=
  .create
    { tenantId := (sampleDefinition campaignVersion).tenantId
      campaignId := (sampleDefinition campaignVersion).campaignId
      campaignVersion := campaignVersion
      eligiblePortfolioTypes := (sampleDefinition campaignVersion).eligiblePortfolioTypes
      candidates := (sampleDefinition campaignVersion).candidates }

def sampleRead (campaignVersion : String) : CampaignCall :=
  .read (sampleDefinition campaignVersion).tenantId (sampleDefinition campaignVersion).campaignId
    campaignVersion

def sampleDecision : EvidenceCommand :=
  .decision
    { decisionType := .approved
      decisionRef := "BRC-DEC-1"
      decidedBy := "cio_ops_committee"
      decisionReason := "Affected manifest reviewed."
      correlationId := "corr-campaign-decision-001"
      decidedAt := 2 }

def sampleRetirement : RetireRequest :=
  { retiredBy := "ops"
    retirementReason := "Replaced by the June campaign."
    correlationId := "corr-campaign-retire-001"
    retiredAt := 3 }

/-- The decision is recorded before the retirement reads the definition. -/
def decidedThenRetired : List CampaignCall :=
  [sampleCreation "2026.05", sampleRead "2026.05", .record sampleDecision 0, sampleRead "2026.05",
   .retire sampleRetirement 1]

/-- The retired definition has the decision. -/
theorem campaign_evidence_kept_retired :
    let acked := ((CampaignService.after sampleHashing (decidedThenRetired.take 2)).acknowledged
      sampleHashing (.record sampleDecision 0)).get (by decide +kernel)
    ∃ stored, (CampaignService.after sampleHashing decidedThenRetired).store.get? acked.key =
      some stored ∧ Extends acked stored := by
  intro acked
  have hkept := campaign_evidence_kept sampleHashing decidedThenRetired (by decide +kernel)
    (by decide +kernel)
  have hacked : (CampaignService.after sampleHashing (decidedThenRetired.take 2)).acknowledged
      sampleHashing (.record sampleDecision 0) = some acked := (Option.some_get _).symm
  exact (hkept _ _ (decidedThenRetired.drop 3) [] rfl acked hacked).1

/-- The retirement reads the definition before the decision is recorded and writes after it. -/
def decidedWhileRetiring : List CampaignCall :=
  [sampleCreation "2026.05", sampleRead "2026.05", .record sampleDecision 0,
   .retire sampleRetirement 0]

/-- The acknowledged decision is gone. -/
theorem stale_retirement_drops_decision :
    HashesFaithful sampleHashing decidedWhileRetiring ∧
      ∃ acked stored,
        (CampaignService.after sampleHashing (decidedWhileRetiring.take 2)).acknowledged
          sampleHashing (.record sampleDecision 0) = some acked ∧
        (CampaignService.after sampleHashing decidedWhileRetiring).store.get? acked.key =
          some stored ∧
        acked.approvalDecisions.length = 1 ∧ ¬ Extends acked stored := by
  refine ⟨by decide +kernel, ?_⟩
  let acked := ((CampaignService.after sampleHashing (decidedWhileRetiring.take 2)).acknowledged
    sampleHashing (.record sampleDecision 0)).get (by decide +kernel)
  let stored := ((CampaignService.after sampleHashing decidedWhileRetiring).store.get?
    acked.key).get (by decide +kernel)
  refine ⟨acked, stored, (Option.some_get _).symm, (Option.some_get _).symm, by decide +kernel, ?_⟩
  intro hextends
  have hlength := hextends.decisions.length_le
  revert hlength
  decide +kernel

end LotusManage.Campaigns
