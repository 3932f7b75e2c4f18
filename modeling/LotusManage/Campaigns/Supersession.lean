import LotusManage.Campaigns.EvidenceKept
import LotusManage.Lib.Chains

/-!
# Supersession leads to a live version

A superseded definition names the version that replaces it.  The command checks that the
replacement is active when it reads it, and writes later: by then the replacement may have been
superseded in its turn, and by the very version that is now written.  Two supersessions that
cross leave a cycle (`crossing_supersessions_cycle`).

`SupersedesForward` excludes that and nothing else: at the time of the write, the chain of the
replacement does not lead back to the version that is superseded.  Under it every stored version
leads to a live one in every reachable state.
-/

namespace LotusManage.Campaigns

open LotusManage.Text (strip)
open LotusManage.Runs (Along)
open LotusManage.Chains (Leads Reaches)

/-- The version that a stored, superseded version names. -/
def successor (store : DefinitionStore) (key : String × String × String) :
    Option (String × String × String) :=
  (store.get? key).bind (fun definition =>
    if definition.status = .superseded then
      (definition.supersession.supersededByCampaignId).bind (fun campaignId =>
        definition.supersession.supersededByCampaignVersion.map (fun campaignVersion =>
          (definition.tenantId, campaignId, campaignVersion)))
    else none)

/-- A stored version that is not superseded. -/
def Live (store : DefinitionStore) (key : String × String × String) : Prop :=
  ∃ definition, store.get? key = some definition ∧ definition.status ≠ .superseded

/-- When a supersession is stored, its replacement does not lead to the version that it
supersedes. -/
def SupersedesForward (hashing : Hashing) (s : CampaignService) : CampaignCall → Prop
  | .supersede request readIndex replacementIndex =>
    (s.supersession hashing request readIndex replacementIndex).isSome →
      ∀ base ∈ s.readDefinition readIndex, ∀ stored ∈ s.store.get? base.key,
        stored.status = .active →
          ¬ Reaches (successor s.store)
            (base.tenantId, base.campaignId, strip request.replacementVersion) base.key
  | _ => True

/-! ## Writes -/

section Writes

variable {store : DefinitionStore} {written : CampaignDefinition}
  {key : String × String × String}

theorem successor_eq_none_of_live (h : Live store key) : successor store key = none := by
  obtain ⟨definition, hstored, hstatus⟩ := h
  unfold successor
  rw [hstored]
  exact if_neg hstatus

theorem successor_set_of_ne (h : key ≠ written.key) :
    successor (store.set written.key written) key = successor store key := by
  unfold successor
  rw [Dict.get?_set_of_ne _ _ h]

theorem live_set_of_ne (h : key ≠ written.key) :
    Live (store.set written.key written) key ↔ Live store key := by
  unfold Live
  rw [Dict.get?_set_of_ne _ _ h]

theorem live_set_self (h : written.status ≠ .superseded) :
    Live (store.set written.key written) written.key :=
  ⟨written, Dict.get?_set_self _ _ _, h⟩

theorem leads_set_live (hwritten : written.status ≠ .superseded)
    (hbefore : successor store written.key = none) {path : List (String × String × String)}
    (h : Leads (successor store) (Live store) key path) :
    Leads (successor (store.set written.key written)) (Live (store.set written.key written))
      key path := by
  refine h.mono ?_ ?_
  · intro x _ y hnext
    have hne : x ≠ written.key := by
      rintro rfl
      rw [hbefore] at hnext
      cases hnext
    rw [successor_set_of_ne hne]
    exact hnext
  · intro x _ hlive
    by_cases hx : x = written.key
    · subst hx
      exact live_set_self hwritten
    · exact (live_set_of_ne hx).mpr hlive

end Writes

/-! ## Steps and runs -/

/-- Every stored version leads to a live one, and what was read as there is there. -/
structure LeadsLive (s : CampaignService) : Prop where
  reads : ∀ read ∈ s.reads, ∀ definition, read.definition = some definition →
    ∃ stored, s.store.get? read.key = some stored
  stored : ∀ (key : String × String × String) (definition : CampaignDefinition),
    s.store.get? key = some definition →
      ∃ path, Leads (successor s.store) (Live s.store) key path

variable {hashing : Hashing} {s : CampaignService} {call : CampaignCall} {store' : DefinitionStore}
  {key : String × String × String} {definition written : CampaignDefinition}

theorem stored_of_move (h : StoreMove hashing s call store')
    (hstored : s.store.get? key = some definition) :
    ∃ definition', store'.get? key = some definition' := by
  obtain rfl | ⟨written, _, rfl⟩ := h.eq_or_set
  · exact ⟨definition, hstored⟩
  · rw [Dict.get?_set]
    split
    · exact ⟨written, rfl⟩
    · exact ⟨definition, hstored⟩

theorem LeadsLive.reads_step (h : LeadsLive s) (hmove : StoreMove hashing s call store') :
    ∀ read ∈ s.readsAfter call, ∀ definition, read.definition = some definition →
      ∃ stored, store'.get? read.key = some stored := by
  intro read hmem definition hdefinition
  have hbefore : ∃ stored, s.store.get? read.key = some stored := by
    cases call with
    | read tenantId campaignId campaignVersion =>
      obtain hmem | hmem := List.mem_append.mp hmem
      · exact h.reads read hmem definition hdefinition
      · rw [List.mem_singleton] at hmem
        subst hmem
        exact ⟨definition, hdefinition⟩
    | create | record | retire => exact h.reads read hmem definition hdefinition
    | supersede request readIndex replacementIndex =>
      exact h.reads read hmem definition hdefinition
  obtain ⟨stored, hstored⟩ := hbefore
  exact stored_of_move hmove hstored

theorem LeadsLive.set_live (h : LeadsLive s) (hwritten : written.status ≠ .superseded)
    (hbefore : successor s.store written.key = none) :
    ∀ (key : String × String × String) (definition : CampaignDefinition),
      (s.store.set written.key written).get? key = some definition →
        ∃ path, Leads (successor (s.store.set written.key written))
          (Live (s.store.set written.key written)) key path := by
  intro key definition hstored
  rw [Dict.get?_set] at hstored
  split at hstored
  · rename_i hkey
    subst hkey
    exact ⟨_, .here (live_set_self hwritten)⟩
  · obtain ⟨path, hpath⟩ := h.stored key definition hstored
    exact ⟨path, leads_set_live hwritten hbefore hpath⟩

theorem successor_eq_none_of_active {store : DefinitionStore}
    (hstored : store.get? key = some definition) (hactive : definition.status = .active) :
    successor store key = none := by
  refine successor_eq_none_of_live ⟨definition, hstored, ?_⟩
  rw [hactive]
  exact nofun

theorem LeadsLive.set_superseded (h : LeadsLive s) {stored : CampaignDefinition}
    {replacementKey : String × String × String} (hstored : s.store.get? written.key = some stored)
    (hactive : stored.status = .active)
    (hnext : ∀ store : DefinitionStore, store.get? written.key = some written →
      successor store written.key = some replacementKey)
    (hreplacement : ∃ found, s.store.get? replacementKey = some found)
    (hforward : ¬ Reaches (successor s.store) replacementKey written.key) :
    ∀ (key : String × String × String) (definition : CampaignDefinition),
      (s.store.set written.key written).get? key = some definition →
        ∃ path, Leads (successor (s.store.set written.key written))
          (Live (s.store.set written.key written)) key path := by
  intro key definition hkey
  obtain ⟨found, hfound⟩ := hreplacement
  obtain ⟨rpath, hrpath⟩ := h.stored replacementKey found hfound
  have hbefore : ∃ earlier, s.store.get? key = some earlier := by
    rw [Dict.get?_set] at hkey
    split at hkey
    · rename_i hsame
      subst hsame
      exact ⟨stored, hstored⟩
    · exact ⟨definition, hkey⟩
  obtain ⟨earlier, hearlier⟩ := hbefore
  obtain ⟨path, hpath⟩ := h.stored key earlier hearlier
  refine Leads.redirect (successor_eq_none_of_active hstored hactive)
    (hnext _ (Dict.get?_set_self _ _ _)) ?_ ?_ hforward hrpath hpath
  · exact fun x hx => successor_set_of_ne hx
  · exact fun x hx => (live_set_of_ne hx).mpr

theorem leadsLive_step {past : List CampaignCall}
    (h : LeadsLive (CampaignService.after hashing past))
    (hforward : SupersedesForward hashing (CampaignService.after hashing past) call) :
    LeadsLive (CampaignService.after hashing (past ++ [call])) := by
  have hsound := sound_after hashing past
  have hmove := CampaignService.storeAfter_cases hsound.readsHashed call
  rw [after_concat]
  refine ⟨h.reads_step hmove, ?_⟩
  show ∀ (key : String × String × String) (definition : CampaignDefinition),
    ((CampaignService.after hashing past).storeAfter hashing call).get? key = some definition →
      ∃ path, Leads (successor ((CampaignService.after hashing past).storeAfter hashing call))
        (Live ((CampaignService.after hashing past).storeAfter hashing call)) key path
  generalize (CampaignService.after hashing past).storeAfter hashing call = store' at hmove
  cases hmove with
  | kept => exact h.stored
  | created command _ hactive habsent =>
    refine h.set_live (by rw [hactive]; exact nofun) ?_
    unfold successor
    rw [habsent]
    rfl
  | appended command readIndex _ hbuilt hbase hstored hactive _ _ =>
    refine h.set_live ?_ (successor_eq_none_of_active hstored hactive)
    rw [hbuilt.status, hbase]
    exact nofun
  | retired request readIndex _ _ _ hstatus hstored hactive =>
    refine h.set_live ?_ (successor_eq_none_of_active hstored hactive)
    rw [hstatus]
    exact nofun
  | @superseded request readIndex replacementIndex base updated stored replacement hread hbuilt
      hclosed hreplacement _ hlink hstored hactive =>
    have hmem := List.mem_of_getElem? hreplacement
    have hkey := (hsound.reads _ hmem replacement rfl).1
    refine h.set_superseded hstored hactive ?_ (h.reads _ hmem replacement rfl) ?_
    · intro store hget
      have htenant : updated.tenantId = base.tenantId := congrArg Prod.fst hclosed.key
      have hid : replacement.campaignId = base.campaignId :=
        congrArg (fun key => key.2.1) hkey
      have hversion : replacement.campaignVersion = strip request.replacementVersion :=
        congrArg (fun key => key.2.2) hkey
      unfold successor
      rw [hget, Option.bind_some, if_pos hlink.status, hlink.campaignId, hlink.campaignVersion,
        htenant, hid, hversion]
      rfl
    · rw [hclosed.key] at hstored ⊢
      refine hforward ?_ base hread stored hstored hactive
      rw [hbuilt]
      rfl

/-- From every superseded version the chain of replacements ends, without a version twice, in a
stored version that is not superseded, when no supersession is stored whose replacement leads
back to it. -/
theorem supersession_leads_live (hashing : Hashing) (calls : List CampaignCall)
    (hforward : Along (CampaignService.step hashing) (SupersedesForward hashing) .new calls) :
    ∀ past rest, calls = past ++ rest → ∀ key definition,
      (CampaignService.after hashing past).store.get? key = some definition →
        definition.status = .superseded →
          ∃ path, path.Nodup ∧
            Leads (successor (CampaignService.after hashing past).store)
              (Live (CampaignService.after hashing past).store) key path := by
  have hall : ∀ past rest, calls = past ++ rest →
      LeadsLive (CampaignService.after hashing past) := by
    intro past
    induction past using List.reverseRecOn with
    | nil =>
      intro rest _
      constructor
      · intro read hmem
        cases hmem
      · intro key definition hstored
        cases hstored
    | append_singleton past call ih =>
      intro rest hsplit
      rw [List.append_assoc, List.singleton_append] at hsplit
      refine leadsLive_step (ih _ hsplit) ?_
      rw [hsplit] at hforward
      exact hforward.at_call
  intro past rest hsplit key definition hstored _
  obtain ⟨path, hpath⟩ := (hall past rest hsplit).stored key definition hstored
  exact ⟨path, hpath.nodup, hpath⟩

/-! ### Two versions -/

def sampleSupersession (replacementVersion : String) : SupersedeRequest :=
  { replacementVersion := replacementVersion
    supersededBy := "ops"
    supersessionReason := "Universe was refreshed."
    correlationId := "corr-campaign-supersede-001"
    supersededAt := 4 }

def sampleKey (campaignVersion : String) : String × String × String :=
  (sampleDefinition campaignVersion).key

/-- Both versions are read before anything is superseded. -/
def twoVersionsRead : List CampaignCall :=
  [sampleCreation "2026.05", sampleCreation "2026.06", sampleRead "2026.05",
   sampleRead "2026.06"]

/-- The May version is superseded by the June version. -/
def supersededOnce : List CampaignCall :=
  twoVersionsRead ++ [.supersede (sampleSupersession "2026.06") 0 1]

theorem supersession_leads_live_once :
    let store := (CampaignService.after sampleHashing supersededOnce).store
    (∃ definition, store.get? (sampleKey "2026.05") = some definition ∧
      definition.status = .superseded) ∧
    ∃ path, path.Nodup ∧ Leads (successor store) (Live store) (sampleKey "2026.05") path := by
  intro store
  let definition := (store.get? (sampleKey "2026.05")).get (by decide +kernel)
  have hstored : store.get? (sampleKey "2026.05") = some definition := (Option.some_get _).symm
  have hstatus : definition.status = .superseded := by decide +kernel
  refine ⟨⟨definition, hstored, hstatus⟩, ?_⟩
  refine supersession_leads_live sampleHashing supersededOnce ?_ supersededOnce []
    (List.append_nil _).symm (sampleKey "2026.05") definition hstored hstatus
  refine ⟨trivial, trivial, trivial, trivial, ?_, trivial⟩
  intro _ base hbase _ _ _ hreaches
  have hkey : base.key = sampleKey "2026.05" ∧ base.tenantId = (sampleKey "2026.06").1 ∧
      base.campaignId = (sampleKey "2026.06").2.1 := by
    have hread : (CampaignService.after sampleHashing twoVersionsRead).readDefinition 0 =
      some base := hbase
    have hall : ∀ read ∈ (CampaignService.after sampleHashing twoVersionsRead).readDefinition 0,
        read.key = sampleKey "2026.05" ∧ read.tenantId = (sampleKey "2026.06").1 ∧
          read.campaignId = (sampleKey "2026.06").2.1 := by
      decide +kernel
    exact hall base hread
  -- no version has a successor before the first supersession
  have hnone : successor (CampaignService.after sampleHashing twoVersionsRead).store
      ((sampleKey "2026.06").1, (sampleKey "2026.06").2.1, strip "2026.06") = none := by
    decide +kernel
  rw [hkey.1, hkey.2.1, hkey.2.2] at hreaches
  obtain hsame | ⟨key, hnext, _⟩ := Relation.ReflTransGen.cases_head hreaches
  · revert hsame
    decide +kernel
  · have habsurd : none = some key := hnone.symm.trans hnext
    cases habsurd

/-- Both supersessions go on from the reads before the first of them. -/
def supersededCrosswise : List CampaignCall :=
  twoVersionsRead ++
    [.supersede (sampleSupersession "2026.06") 0 1, .supersede (sampleSupersession "2026.05") 1 0]

/-- Each version is superseded by the other, and none of them leads to a live version. -/
theorem crossing_supersessions_cycle :
    let store := (CampaignService.after sampleHashing supersededCrosswise).store
    (∃ definition, store.get? (sampleKey "2026.05") = some definition ∧
      definition.status = .superseded) ∧
    ¬ ∃ path, Leads (successor store) (Live store) (sampleKey "2026.05") path := by
  intro store
  let definition := (store.get? (sampleKey "2026.05")).get (by decide +kernel)
  refine ⟨⟨definition, (Option.some_get _).symm, by decide +kernel⟩, ?_⟩
  rintro ⟨path, hpath⟩
  have hmay : successor store (sampleKey "2026.05") = some (sampleKey "2026.06") := by
    decide +kernel
  have hjune : successor store (sampleKey "2026.06") = some (sampleKey "2026.05") := by
    decide +kernel
  refine Chains.not_leads_of_closed
    (fun key => key = sampleKey "2026.05" ∨ key = sampleKey "2026.06") ?_ ?_ (.inl rfl) hpath
  · rintro x y (rfl | rfl) hnext
    · rw [hmay] at hnext
      cases hnext
      exact .inr rfl
    · rw [hjune] at hnext
      cases hnext
      exact .inl rfl
  · rintro x (rfl | rfl) hlive
    · rw [successor_eq_none_of_live hlive] at hmay
      cases hmay
    · rw [successor_eq_none_of_live hlive] at hjune
      cases hjune

end LotusManage.Campaigns
