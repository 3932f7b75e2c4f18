import Mathlib.Algebra.Group.Nat.Defs
import Mathlib.Data.List.Pairwise
import LotusManage.RebalanceRuns.IdeaActionRuns
import LotusManage.RebalanceRuns.IdeaIntake

/-!
# Isolation of idea actions

The ids of the action and of the intake and the idempotency scope are hashes of joined texts.  With
a hash whose prefixes do not collide, two of them are equal when the joined texts are, and
`Unambiguous` says of two intakes that their joined texts determine what was joined.  It holds when
no tenant, legal entity or portfolio contains the separator (`Unambiguous.of_separatorFree`).

The idempotency scope is that of the caller and the key: it does not name the conversion intent, so
that a key that is used again for another intent is a conflict.

`StoreFiled` is the invariant of the store over every run of the service: each index leads to an
action that is stored, and each stored action is the one of an intake of the run.
-/

namespace LotusManage.RebalanceRuns

open LotusManage.Text (strip isSpace)

/-! ## Hashes -/

/-- What `hexdigest` returns. -/
def IsHexDigest (text : String) : Prop :=
  text.toList.length = 64 ∧
    ∀ c ∈ text.toList, ('0' ≤ c ∧ c ≤ '9') ∨ ('a' ≤ c ∧ c ≤ 'f')

instance (text : String) : Decidable (IsHexDigest text) :=
  inferInstanceAs (Decidable (_ ∧ _))

/-- The hash function on the texts of a list: no two of them agree in the first twelve digits, which
is the shortest prefix that the source keeps. -/
structure HashesApart (sha256Hex : Sha256Hex) (texts : List String) : Prop where
  digest : ∀ text, IsHexDigest (sha256Hex text)
  apart : ∀ text ∈ texts, ∀ text' ∈ texts,
    Text.take 12 (sha256Hex text) = Text.take 12 (sha256Hex text') → text = text'

variable {sha256Hex : Sha256Hex}

variable {texts : List String} {n : Nat} {intake : PreparedIntake}
  {action decided proposed existing : IdeaAction} {request : ReviewRequest}
  {actions : Dict String IdeaAction}

theorem HashesApart.of_take (h : HashesApart sha256Hex texts) (hn : 12 ≤ n) {text text' : String}
    (htext : text ∈ texts) (htext' : text' ∈ texts)
    (heq : Text.take n (sha256Hex text) = Text.take n (sha256Hex text')) : text = text' := by
  apply h.apart text htext text' htext'
  have hlist := String.ofList_inj.mp heq
  have htake : ∀ cs : List Char, cs.take 12 = (cs.take n).take 12 := by
    intro cs
    rw [List.take_take, Nat.min_eq_left hn]
  unfold Text.take
  rw [htake, htake (sha256Hex text').toList, hlist]

theorem length_take (h : HashesApart sha256Hex texts) (hn : n ≤ 64) (text : String) :
    (Text.take n (sha256Hex text)).toList.length = n := by
  unfold Text.take
  rw [String.toList_ofList, List.length_take, (h.digest text).1, Nat.min_eq_left hn]

theorem isSpace_hexDigit {c : Char} (h : ('0' ≤ c ∧ c ≤ '9') ∨ ('a' ≤ c ∧ c ≤ 'f')) :
    isSpace c = false := by
  have hbounds : (48 ≤ c.toNat ∧ c.toNat ≤ 57) ∨ (97 ≤ c.toNat ∧ c.toNat ≤ 102) := h
  have hall : ∀ n : Fin 128, (48 ≤ n.val ∧ n.val ≤ 57) ∨ (97 ≤ n.val ∧ n.val ≤ 102) →
      isSpace (Char.ofNat n.val) = false := by
    decide
  have hlt : c.toNat < 128 := by omega
  have hc := hall ⟨c.toNat, hlt⟩ hbounds
  rw [Char.ofNat_toNat] at hc
  exact hc

theorem strip_digest (h : HashesApart sha256Hex texts) (n : Nat) (text : String) {start : String}
    (hstart : ∀ c ∈ start.toList, isSpace c = false) :
    strip (start ++ Text.take n (sha256Hex text)) = start ++ Text.take n (sha256Hex text) := by
  apply Text.strip_eq_self_of_no_space
  intro c hc
  rw [String.toList_append, List.mem_append] at hc
  rcases hc with hc | hc
  · exact hstart c hc
  · rw [Text.take, String.toList_ofList] at hc
    exact isSpace_hexDigit ((h.digest text).2 c (List.mem_of_mem_take hc))

/-! ## Joined texts -/

namespace PreparedIntake

/-- The text that the action id is a hash of. -/
def scopeText (intake : PreparedIntake) : String :=
  Text.join "|" [intake.principal.tenantId, intake.principal.legalEntityCode,
    intake.request.portfolioId, intake.request.conversionIntentId]

/-- The part of the idempotency scope that names the caller. -/
def callerText (intake : PreparedIntake) : String :=
  Text.join "|" [intake.principal.tenantId, intake.principal.legalEntityCode,
    intake.request.portfolioId]

/-- The texts that are hashed for an intake. -/
def hashed (sha256Hex : Sha256Hex) (intake : PreparedIntake) : List String :=
  [intake.scopeText, canonicalPayload intake.request,
    intakeIdentity sha256Hex intake.request intake.principal, strip intake.idempotencyKey,
    idempotencyScope sha256Hex intake.idempotencyKey intake.principal intake.request.portfolioId]

/-- No name of the caller contains the separator. -/
def SeparatorFree (intake : PreparedIntake) : Prop :=
  '|' ∉ intake.principal.tenantId.toList ∧ '|' ∉ intake.principal.legalEntityCode.toList ∧
    '|' ∉ intake.request.portfolioId.toList

instance (intake : PreparedIntake) : Decidable intake.SeparatorFree :=
  inferInstanceAs (Decidable (_ ∧ _))

/-- The joined texts of two intakes determine what was joined. -/
structure Unambiguous (a b : PreparedIntake) : Prop where
  scope : a.scopeText = b.scopeText → a.scope = b.scope
  caller : a.callerText = b.callerText → a.caller = b.caller

theorem Unambiguous.of_separatorFree {a b : PreparedIntake} (ha : a.SeparatorFree)
    (hb : b.SeparatorFree) : Unambiguous a b := by
  obtain ⟨hatenant, halegal, haportfolio⟩ := ha
  obtain ⟨hbtenant, hblegal, hbportfolio⟩ := hb
  have hbar : "|" = String.singleton '|' := by decide
  constructor
  · intro h
    simp only [scopeText, Text.join, hbar] at h
    obtain ⟨htenant, h⟩ := Text.append_inj_of_notMem h hatenant hbtenant
    obtain ⟨hlegal, h⟩ := Text.append_inj_of_notMem h halegal hblegal
    obtain ⟨hportfolio, hintent⟩ := Text.append_inj_of_notMem h haportfolio hbportfolio
    unfold PreparedIntake.scope
    rw [htenant, hlegal, hportfolio, hintent]
  · intro h
    simp only [callerText, Text.join, hbar] at h
    obtain ⟨htenant, h⟩ := Text.append_inj_of_notMem h hatenant hbtenant
    obtain ⟨hlegal, hportfolio⟩ := Text.append_inj_of_notMem h halegal hblegal
    unfold PreparedIntake.caller
    rw [htenant, hlegal, hportfolio]

end PreparedIntake

theorem canonicalPayload_inj {a b : IdeaActionIntakeRequest}
    (h : canonicalPayload a = canonicalPayload b) :
    a.conversionIntentId = b.conversionIntentId ∧ a.ideaCandidateId = b.ideaCandidateId ∧
      a.intentType.code = b.intentType.code ∧ a.portfolioId = b.portfolioId := by
  unfold canonicalPayload Json.object at h
  simp only [List.map_cons, List.map_nil] at h
  have htexts := String.ofList_inj.mp h
  rw [List.cons.injEq] at htexts
  have hlist := htexts.2
  obtain ⟨hintent, hlist⟩ := Json.elements_member_inj hlist
  obtain ⟨hcandidate, hlist⟩ := Json.elements_member_inj hlist
  obtain ⟨htype, hlist⟩ := Json.elements_member_inj hlist
  obtain ⟨hportfolio, _⟩ := Json.elements_member_inj hlist
  exact ⟨hintent, hcandidate, htype, hportfolio⟩

/-! ## Identities of two intakes -/

section Pairs

variable {texts : List String} {a b : PreparedIntake}

open PreparedIntake

theorem scopeText_of_actionId (h : HashesApart sha256Hex texts)
    (ha : ∀ text ∈ a.hashed sha256Hex, text ∈ texts)
    (hb : ∀ text ∈ b.hashed sha256Hex, text ∈ texts)
    (heq : a.actionId sha256Hex = b.actionId sha256Hex) : a.scopeText = b.scopeText := by
  obtain ⟨_, hdigits⟩ := Text.append_inj heq rfl
  exact h.of_take (by omega) (ha _ (by simp [hashed])) (hb _ (by simp [hashed])) hdigits

theorem payload_of_fingerprint (h : HashesApart sha256Hex texts)
    (ha : ∀ text ∈ a.hashed sha256Hex, text ∈ texts)
    (hb : ∀ text ∈ b.hashed sha256Hex, text ∈ texts)
    (heq : ideaActionRequestFingerprint sha256Hex a.request =
      ideaActionRequestFingerprint sha256Hex b.request) :
    canonicalPayload a.request = canonicalPayload b.request := by
  obtain ⟨_, hdigits⟩ := Text.append_inj heq rfl
  exact h.of_take (by omega) (ha _ (by simp [hashed])) (hb _ (by simp [hashed])) hdigits

/-- Equal intake ids are ids of one joined text of the scope too: the fingerprint at the end
determines the request, and what stands before the request is the tenant and the legal entity. -/
theorem scopeText_of_intakeId (h : HashesApart sha256Hex texts)
    (ha : ∀ text ∈ a.hashed sha256Hex, text ∈ texts)
    (hb : ∀ text ∈ b.hashed sha256Hex, text ∈ texts)
    (heq : a.intakeId sha256Hex = b.intakeId sha256Hex) : a.scopeText = b.scopeText := by
  obtain ⟨_, hdigits⟩ := Text.append_inj heq rfl
  have hidentity := h.of_take (by omega) (ha _ (by simp [hashed])) (hb _ (by simp [hashed])) hdigits
  have hsplit : ∀ i : PreparedIntake, intakeIdentity sha256Hex i.request i.principal =
      (i.principal.tenantId ++ "|" ++ i.principal.legalEntityCode) ++
        ("|" ++ i.request.portfolioId ++ "|" ++ i.request.ideaCandidateId ++ "|" ++
          i.request.conversionIntentId ++ "|" ++ i.request.intentType.code ++ "|") ++
        ideaActionRequestFingerprint sha256Hex i.request := by
    intro i
    simp only [intakeIdentity, Text.join, String.append_assoc]
  rw [hsplit, hsplit] at hidentity
  have hlength : ∀ i : PreparedIntake,
      (ideaActionRequestFingerprint sha256Hex i.request).toList.length = 19 := by
    intro i
    rw [ideaActionRequestFingerprint, String.toList_append, List.length_append,
      length_take h (by omega)]
    rfl
  obtain ⟨hfront, hfingerprint⟩ :=
    Text.append_inj_right hidentity ((hlength a).trans (hlength b).symm)
  obtain ⟨hintent, hcandidate, htype, hportfolio⟩ :=
    canonicalPayload_inj (payload_of_fingerprint h ha hb hfingerprint)
  rw [hintent, hcandidate, htype, hportfolio] at hfront
  obtain ⟨hnames, _⟩ := Text.append_inj_right hfront rfl
  have hscope : ∀ i : PreparedIntake, i.scopeText =
      (i.principal.tenantId ++ "|" ++ i.principal.legalEntityCode) ++
        ("|" ++ i.request.portfolioId ++ "|" ++ i.request.conversionIntentId) := by
    intro i
    simp only [scopeText, Text.join, String.append_assoc]
  rw [hscope, hscope, hnames, hportfolio, hintent]

/-- The idempotency scopes of two intakes are equal when the keys are, and the joined texts of the
callers. -/
theorem scopeHash_eq_iff (h : HashesApart sha256Hex texts)
    (ha : ∀ text ∈ a.hashed sha256Hex, text ∈ texts)
    (hb : ∀ text ∈ b.hashed sha256Hex, text ∈ texts)
    (hservice : a.principal.serviceIdentity = b.principal.serviceIdentity) :
    a.scopeHash sha256Hex = b.scopeHash sha256Hex ↔
      strip a.idempotencyKey = strip b.idempotencyKey ∧ a.callerText = b.callerText := by
  have hscope : ∀ i : PreparedIntake,
      idempotencyScope sha256Hex i.idempotencyKey i.principal i.request.portfolioId =
        idempotencyKeyHash sha256Hex i.idempotencyKey ++
          ("|" ++ (i.callerText ++ ("|" ++ i.principal.serviceIdentity))) := by
    intro i
    simp only [idempotencyScope, callerText, Text.join, String.append_assoc]
  constructor
  · intro heq
    obtain ⟨_, hdigits⟩ := Text.append_inj heq rfl
    have htext := h.of_take (by omega) (ha _ (by simp [hashed])) (hb _ (by simp [hashed])) hdigits
    rw [hscope, hscope, hservice] at htext
    have hlength : ∀ i : PreparedIntake,
        (idempotencyKeyHash sha256Hex i.idempotencyKey).toList.length = 19 := by
      intro i
      rw [idempotencyKeyHash, String.toList_append, List.length_append, length_take h (by omega)]
      rfl
    obtain ⟨hkeys, hrest⟩ := Text.append_inj htext ((hlength a).trans (hlength b).symm)
    obtain ⟨_, hkeyDigits⟩ := Text.append_inj hkeys rfl
    obtain ⟨_, hcallers⟩ := Text.append_inj hrest rfl
    refine ⟨?_, (Text.append_inj_right hcallers rfl).1⟩
    exact h.of_take (by omega) (ha _ (by simp [hashed])) (hb _ (by simp [hashed])) hkeyDigits
  · rintro ⟨hkeys, hcallers⟩
    unfold scopeHash ideaActionIdempotencyScopeHash
    rw [hscope, hscope, hservice, hcallers, idempotencyKeyHash, idempotencyKeyHash, hkeys]

end Pairs

/-! ## What an intake is accepted with -/

theorem requireIntake_ok {condition : Bool} {error : IdeaIntakeError}
    (h : requireIntake condition error = .ok ()) : condition = true := by
  unfold requireIntake at h
  split at h
  · assumption
  · cases h

theorem requiredHeader_ok {value text : String} (h : requiredHeader value = .ok text) :
    text = strip value := by
  unfold requiredHeader optionalHeader at h
  split at h
  · cases h
  · rename_i found hfound
    cases h
    rw [Option.filter_eq_some_iff, Option.map_some, Option.some.injEq] at hfound
    exact hfound.1.symm

/-- The names in an intake have no spaces at their ends, and the service is the one that may send
intakes. -/
structure PreparedSound (intake : PreparedIntake) : Prop where
  tenant : strip intake.principal.tenantId = intake.principal.tenantId
  legalEntity : strip intake.principal.legalEntityCode = intake.principal.legalEntityCode
  portfolio : strip intake.request.portfolioId = intake.request.portfolioId
  intent : strip intake.request.conversionIntentId = intake.request.conversionIntentId
  service : intake.principal.serviceIdentity = "lotus-idea"

theorem requireIdeaActionIntakePrincipal_ok {headers : PrincipalHeaders}
    {principal : IdeaActionIntakePrincipal}
    (h : requireIdeaActionIntakePrincipal headers = .ok principal) :
    strip principal.tenantId = principal.tenantId ∧
      strip principal.legalEntityCode = principal.legalEntityCode ∧
      principal.serviceIdentity = "lotus-idea" := by
  unfold requireIdeaActionIntakePrincipal at h
  obtain ⟨resolved, hresolve, h⟩ := Checks.bind_eq_ok h
  obtain ⟨_, _, h⟩ := Checks.bind_eq_ok h
  obtain ⟨_, hservice, h⟩ := Checks.bind_eq_ok h
  cases h
  refine ⟨?_, ?_, of_decide_eq_true (requireIntake_ok hservice)⟩
  all_goals
    unfold resolveIdeaActionPrincipal at hresolve
    iterate 3 obtain ⟨_, _, hresolve⟩ := Checks.bind_eq_ok hresolve
    obtain ⟨_, _, hresolve⟩ := Checks.bind_eq_ok hresolve
    obtain ⟨_, _, hresolve⟩ := Checks.bind_eq_ok hresolve
    obtain ⟨tenantId, htenant, hresolve⟩ := Checks.bind_eq_ok hresolve
    obtain ⟨legalEntityCode, hlegal, hresolve⟩ := Checks.bind_eq_ok hresolve
    obtain ⟨_, _, hresolve⟩ := Checks.bind_eq_ok hresolve
    cases hresolve
  · rw [requiredHeader_ok htenant, Text.strip_strip]
  · rw [requiredHeader_ok hlegal, Text.strip_upper_strip]

theorem validateIntakeRequest_ok {body request : IdeaActionIntakeRequest}
    (h : validateIntakeRequest body = .ok request) :
    strip request.portfolioId = request.portfolioId ∧
      strip request.conversionIntentId = request.conversionIntentId := by
  unfold validateIntakeRequest at h
  obtain ⟨portfolioId, hportfolio, h⟩ := Checks.bind_eq_ok h
  obtain ⟨_, _, h⟩ := Checks.bind_eq_ok h
  obtain ⟨conversionIntentId, hintent, h⟩ := Checks.bind_eq_ok h
  obtain ⟨_, _, h⟩ := Checks.bind_eq_ok h
  obtain ⟨_, _, h⟩ := Checks.bind_eq_ok h
  cases h
  rw [requiredIdeaText_ok hportfolio, requiredIdeaText_ok hintent]
  exact ⟨Text.strip_strip _, Text.strip_strip _⟩

theorem prepareIntake_sound {input : IntakeInput} (h : prepareIntake input = .ok intake) :
    PreparedSound intake := by
  unfold prepareIntake at h
  obtain ⟨principal, hprincipal, h⟩ := Checks.bind_eq_ok h
  obtain ⟨request, hrequest, h⟩ := Checks.bind_eq_ok h
  iterate 4 obtain ⟨_, _, h⟩ := Checks.bind_eq_ok h
  cases h
  obtain ⟨htenant, hlegal, hservice⟩ := requireIdeaActionIntakePrincipal_ok hprincipal
  cases hvalid : validateIntakeRequest input.body with
  | error e =>
    rw [hvalid] at hrequest
    cases hrequest
  | ok valid =>
    rw [hvalid] at hrequest
    cases hrequest
    obtain ⟨hportfolio, hintent⟩ := validateIntakeRequest_ok hvalid
    exact ⟨htenant, hlegal, hportfolio, hintent, hservice⟩

/-! ## Actions of an intake -/

/-- The action has the identities of the intake. -/
structure FiledFor (sha256Hex : Sha256Hex) (intake : PreparedIntake) (action : IdeaAction) :
    Prop where
  actionId : action.actionId = intake.actionId sha256Hex
  intakeId : action.intakeId = intake.intakeId sha256Hex
  scope : action.conversionScope = intake.scope
  hash : action.idempotencyScopeHash = intake.scopeHash sha256Hex

theorem validateIdeaAction_identity {validated : IdeaAction}
    (h : validateIdeaAction action = .ok validated) :
    validated.actionId = strip action.actionId ∧ validated.intakeId = strip action.intakeId ∧
      validated.conversionScope = (strip action.tenantId, strip action.legalEntityCode,
        strip action.portfolioId, strip action.conversionIntentId) ∧
      validated.idempotencyScopeHash = action.idempotencyScopeHash := by
  unfold validateIdeaAction at h
  obtain ⟨_, hid, h⟩ := Checks.bind_eq_ok h
  obtain ⟨_, hintake, h⟩ := Checks.bind_eq_ok h
  obtain ⟨_, htenant, h⟩ := Checks.bind_eq_ok h
  obtain ⟨_, hlegal, h⟩ := Checks.bind_eq_ok h
  obtain ⟨_, hportfolio, h⟩ := Checks.bind_eq_ok h
  obtain ⟨_, _, h⟩ := Checks.bind_eq_ok h
  obtain ⟨_, hintent, h⟩ := Checks.bind_eq_ok h
  iterate 7 obtain ⟨_, _, h⟩ := Checks.bind_eq_ok h
  cases h
  unfold IdeaAction.conversionScope
  rw [requiredIdeaText_ok htenant, requiredIdeaText_ok hlegal, requiredIdeaText_ok hportfolio,
    requiredIdeaText_ok hintent]
  exact ⟨requiredIdeaText_ok hid, requiredIdeaText_ok hintake, rfl, rfl⟩

theorem createIdeaManagementAction_filed (hhash : HashesApart sha256Hex texts)
    (hsound : PreparedSound intake) {request : IntakeRequest}
    (harguments : intake.createArguments sha256Hex = some request)
    (h : createIdeaManagementAction sha256Hex request = .ok action) :
    FiledFor sha256Hex intake action := by
  unfold PreparedIntake.createArguments at harguments
  split at harguments
  · cases harguments
  · cases harguments
    unfold createIdeaManagementAction at h
    obtain ⟨event, _, h⟩ := Checks.bind_eq_ok h
    obtain ⟨hid, hintake, hscope, hscopeHash⟩ := validateIdeaAction_identity h
    refine ⟨hid.trans ?_, hintake.trans ?_, hscope.trans ?_, hscopeHash⟩
    · exact strip_digest hhash 20 _ (Text.no_space_of_all (by decide +kernel))
    · exact strip_digest hhash 20 _ (Text.no_space_of_all (by decide +kernel))
    · dsimp only
      rw [hsound.tenant, hsound.legalEntity, hsound.portfolio, hsound.intent]
      rfl

theorem FiledFor.decide (hfiled : FiledFor sha256Hex intake action)
    (h : recordIdeaManagementReviewDecision sha256Hex action request = .ok decided) :
    FiledFor sha256Hex intake decided := by
  unfold recordIdeaManagementReviewDecision at h
  iterate 3 obtain ⟨_, _, h⟩ := Checks.bind_eq_ok h
  cases h
  exact ⟨hfiled.actionId, hfiled.intakeId, hfiled.scope, hfiled.hash⟩

/-! ## The store over a run -/

/-- The invariant of the store: an action is stored under its id and has the identities of an intake
of the run, and each index leads to a stored action with the key of the entry. -/
structure StoreFiled (sha256Hex : Sha256Hex) (intakes : List PreparedIntake)
    (store : IdeaActionStore) : Prop where
  actions : ∀ id action, store.actions.get? id = some action →
    action.actionId = id ∧ ∃ intake ∈ intakes, FiledFor sha256Hex intake action
  byIntake : ∀ key id, store.byIntakeScope.get? key = some id →
    ∃ action, store.actions.get? id = some action ∧ action.intakeScope = key
  byConversion : ∀ key id, store.byConversionScope.get? key = some id →
    ∃ action, store.actions.get? id = some action ∧ action.conversionScope = key
  byIdempotency : ∀ key id, store.byIdempotencyScope.get? key = some id →
    ∃ action, store.actions.get? id = some action ∧ action.idempotencyScopeHash = key

variable {intakes : List PreparedIntake} {store : IdeaActionStore}

theorem storeFiled_new : StoreFiled sha256Hex intakes .new := by
  constructor
  · intro _ _ h
    cases h
  · intro _ _ h
    cases h
  · intro _ _ h
    cases h
  · intro _ _ h
    cases h

theorem indexed_insert {K : Type} [DecidableEq K] {index : Dict K String} {key : IdeaAction → K}
    (h : ∀ k id, index.get? k = some id → ∃ action, actions.get? id = some action ∧ key action = k)
    (habsent : actions.get? proposed.actionId = none) (k : K) (id : String)
    (hget : (index.set (key proposed) proposed.actionId).get? k = some id) :
    ∃ action, (actions.set proposed.actionId proposed).get? id = some action ∧ key action = k := by
  rw [Dict.get?_set] at hget
  split at hget
  · rename_i heq
    cases hget
    exact ⟨proposed, Dict.get?_set_self _ _ _, heq.symm⟩
  · obtain ⟨action, haction, hkey⟩ := h k id hget
    refine ⟨action, ?_, hkey⟩
    rw [Dict.get?_set_of_ne]
    · exact haction
    · intro heq
      rw [heq, habsent] at haction
      cases haction

theorem StoreFiled.insert (h : StoreFiled sha256Hex intakes store)
    (habsent : store.actions.get? proposed.actionId = none) (hintake : intake ∈ intakes)
    (hfiled : FiledFor sha256Hex intake proposed) :
    StoreFiled sha256Hex intakes (store.insert proposed) := by
  refine ⟨?_, indexed_insert h.byIntake habsent, indexed_insert h.byConversion habsent,
    indexed_insert h.byIdempotency habsent⟩
  intro id action hget
  rw [IdeaActionStore.insert, Dict.get?_set] at hget
  split at hget
  · rename_i heq
    cases hget
    exact ⟨heq.symm, intake, hintake, hfiled⟩
  · exact h.actions id action hget

theorem indexed_replace {K : Type} [DecidableEq K] {index : Dict K String} {key : IdeaAction → K}
    (h : ∀ k id, index.get? k = some id → ∃ action, actions.get? id = some action ∧ key action = k)
    (hexisting : actions.get? decided.actionId = some existing) (hkey : key decided = key existing)
    (k : K) (id : String) (hget : index.get? k = some id) :
    ∃ action, (actions.set decided.actionId decided).get? id = some action ∧ key action = k := by
  obtain ⟨action, haction, hk⟩ := h k id hget
  by_cases heq : id = decided.actionId
  · rw [heq, hexisting] at haction
    cases haction
    refine ⟨decided, ?_, hkey.trans hk⟩
    rw [heq]
    exact Dict.get?_set_self _ _ _
  · refine ⟨action, ?_, hk⟩
    rw [Dict.get?_set_of_ne _ _ heq]
    exact haction

theorem StoreFiled.replace (h : StoreFiled sha256Hex intakes store)
    (hexisting : store.actions.get? decided.actionId = some existing)
    (hrecord : recordIdeaManagementReviewDecision sha256Hex existing request = .ok decided) :
    StoreFiled sha256Hex intakes
      { store with actions := store.actions.set decided.actionId decided } := by
  obtain ⟨_, intake, hintake, hfiled⟩ := h.actions _ _ hexisting
  have hdecided := hfiled.decide hrecord
  have hscope := hdecided.scope.trans hfiled.scope.symm
  have hintakeScope : decided.intakeScope = existing.intakeScope := by
    have hparts := Prod.mk.inj hscope
    unfold IdeaAction.intakeScope
    rw [hparts.1, (Prod.mk.inj hparts.2).1, hdecided.intakeId, hfiled.intakeId]
  refine ⟨?_, indexed_replace h.byIntake hexisting hintakeScope,
    indexed_replace h.byConversion hexisting hscope,
    indexed_replace h.byIdempotency hexisting (hdecided.hash.trans hfiled.hash.symm)⟩
  intro id action hget
  rw [Dict.get?_set] at hget
  split at hget
  · rename_i heq
    cases hget
    exact ⟨heq.symm, intake, hintake, hdecided⟩
  · exact h.actions id action hget

/-- One call of the service.  A review is three steps, as it is for the repository. -/
inductive IdeaServiceCall where
  | acceptIntake (input : IntakeInput)
  | getByIntakeId (tenantId legalEntityCode intakeId : String)
  | getByConversionIntent (tenantId legalEntityCode portfolioId conversionIntentId : String)
  | record (read : Nat) (request : ReviewRequest)
  | update (draft : Nat)

/-- The intake that a call prepares. -/
def IdeaServiceCall.prepared? : IdeaServiceCall → Option PreparedIntake
  | .acceptIntake input => (prepareIntake input).toOption
  | _ => none

/-- The steps that a call takes at the repository. -/
def IdeaServiceCall.deskCalls (sha256Hex : Sha256Hex) : IdeaServiceCall → List IdeaCall
  | .acceptIntake input =>
    match prepareIntake input with
    | .error _ => []
    | .ok intake => (intake.createArguments sha256Hex).toList.map .createOrReplay
  | .getByIntakeId tenantId legalEntityCode intakeId =>
    [.getByIntakeId tenantId legalEntityCode intakeId]
  | .getByConversionIntent tenantId legalEntityCode portfolioId conversionIntentId =>
    [.getByConversionIntent tenantId legalEntityCode portfolioId conversionIntentId]
  | .record read request => [.record read request]
  | .update draft => [.update draft]

/-- The intakes of a run that passed the checks. -/
def preparedIntakes (calls : List IdeaServiceCall) : List PreparedIntake :=
  calls.filterMap IdeaServiceCall.prepared?

/-- The repository after an interleaving of service calls. -/
def serviceDesk (sha256Hex : Sha256Hex) (calls : List IdeaServiceCall) : IdeaDesk :=
  IdeaDesk.after sha256Hex (calls.flatMap (IdeaServiceCall.deskCalls sha256Hex))

/-- A creation that the service asks for is the one of a prepared intake. -/
def AsksFor (sha256Hex : Sha256Hex) (intakes : List PreparedIntake) : IdeaCall → Prop
  | .createOrReplay request =>
    ∃ intake ∈ intakes, intake.createArguments sha256Hex = some request
  | _ => True

theorem asksFor_deskCalls (calls : List IdeaServiceCall) :
    ∀ call ∈ calls.flatMap (IdeaServiceCall.deskCalls sha256Hex),
      AsksFor sha256Hex (preparedIntakes calls) call := by
  intro call hcall
  obtain ⟨service, hservice, hcall⟩ := List.mem_flatMap.mp hcall
  cases service with
  | acceptIntake input =>
    unfold IdeaServiceCall.deskCalls at hcall
    dsimp only at hcall
    cases hprepare : prepareIntake input with
    | error e =>
      rw [hprepare] at hcall
      cases hcall
    | ok intake =>
      rw [hprepare] at hcall
      obtain ⟨request, hrequest, rfl⟩ := List.mem_map.mp hcall
      refine ⟨intake, List.mem_filterMap.mpr ⟨_, hservice, ?_⟩, Option.mem_toList.mp hrequest⟩
      show (prepareIntake input).toOption = some intake
      rw [hprepare]
      rfl
  | getByIntakeId | getByConversionIntent | record | update =>
    rw [List.mem_singleton.mp hcall]
    trivial

theorem prepared_sound {calls : List IdeaServiceCall} :
    ∀ intake ∈ preparedIntakes calls, PreparedSound intake := by
  intro intake hintake
  obtain ⟨service, _, hprepared⟩ := List.mem_filterMap.mp hintake
  cases service with
  | acceptIntake input =>
    unfold IdeaServiceCall.prepared? at hprepared
    dsimp only at hprepared
    cases hprepare : prepareIntake input with
    | error e =>
      rw [hprepare] at hprepared
      cases hprepared
    | ok found =>
      rw [hprepare] at hprepared
      cases hprepared
      exact prepareIntake_sound hprepare
  | getByIntakeId tenantId legalEntityCode intakeId => cases hprepared
  | getByConversionIntent tenantId legalEntityCode portfolioId conversionIntentId =>
    cases hprepared
  | record | update => cases hprepared

theorem StoreFiled.step (hhash : HashesApart sha256Hex texts)
    (hsound : ∀ intake ∈ intakes, PreparedSound intake) {desk : IdeaDesk}
    (hdesk : DeskSound sha256Hex desk) (hfiled : StoreFiled sha256Hex intakes desk.store)
    {call : IdeaCall} (hasks : AsksFor sha256Hex intakes call) :
    StoreFiled sha256Hex intakes (desk.next sha256Hex call).store := by
  cases call with
  | createOrReplay request =>
    obtain ⟨intake, hintake, harguments⟩ := hasks
    unfold IdeaDesk.next IdeaDesk.step
    dsimp only
    split
    · exact hfiled
    · rename_i proposed hcreate
      have hproposed :=
        createIdeaManagementAction_filed hhash (hsound intake hintake) harguments hcreate
      split
      · exact hfiled
      · rename_i hstore
        rcases createOrReplay_ok hstore with ⟨hfalse, _⟩ | ⟨_, _, rfl, habsent⟩
        · cases hfalse
        · exact hfiled.insert habsent hintake hproposed
      · rename_i hstore
        rcases createOrReplay_ok hstore with ⟨_, rfl⟩ | ⟨htrue, _⟩
        · exact hfiled
        · cases htrue
  | getByIntakeId | getByConversionIntent => exact hfiled
  | record read request =>
    unfold IdeaDesk.next IdeaDesk.step
    dsimp only
    split
    · exact hfiled
    · split
      · exact hfiled
      · exact hfiled
  | update draft =>
    unfold IdeaDesk.next IdeaDesk.step
    dsimp only
    split
    · exact hfiled
    · rename_i base request decided hdraft
      split
      · exact hfiled
      · rename_i hupdate
        obtain ⟨_, rfl, existing, hexisting, hversion⟩ := update_ok hupdate
        have hmem := List.mem_of_getElem? hdraft
        -- what is replaced is the action that the decision was made on
        have hbase := hdesk.base_eq hmem hexisting hversion
        obtain ⟨_, hrecord⟩ := hdesk.drafts _ hmem
        rw [hbase] at hrecord
        exact hfiled.replace hexisting hrecord

theorem storeFiled_after (hhash : HashesApart sha256Hex texts)
    (hsound : ∀ intake ∈ intakes, PreparedSound intake) {calls : List IdeaCall}
    (hcalls : ∀ call ∈ calls, AsksFor sha256Hex intakes call) :
    StoreFiled sha256Hex intakes (IdeaDesk.after sha256Hex calls).store := by
  have hboth := Runs.run_invariant
    (fun desk => DeskSound sha256Hex desk ∧ StoreFiled sha256Hex intakes desk.store)
    (fun desk call hdesk hasks =>
      ⟨hdesk.1.move (step_move sha256Hex desk call), hdesk.2.step hhash hsound hdesk.1 hasks⟩)
    (Runs.Along.of_forall IdeaDesk.new hcalls)
    ⟨deskSound_after sha256Hex [], storeFiled_new⟩
  exact hboth.2

/-! ## Isolation -/

/-- The tenant, the legal entity and the portfolio of an action. -/
def IdeaAction.caller (action : IdeaAction) : String × String × String :=
  (action.tenantId, action.legalEntityCode, action.portfolioId)

theorem FiledFor.caller (h : FiledFor sha256Hex intake action) : action.caller = intake.caller := by
  have hparts := Prod.mk.inj h.scope
  have hrest := Prod.mk.inj hparts.2
  unfold IdeaAction.caller PreparedIntake.caller
  rw [hparts.1, hrest.1, (Prod.mk.inj hrest.2).1]

theorem caller_of_scope {a b : PreparedIntake} (h : a.scope = b.scope) : a.caller = b.caller := by
  have hparts := Prod.mk.inj h
  have hrest := Prod.mk.inj hparts.2
  unfold PreparedIntake.caller
  rw [hparts.1, hrest.1, (Prod.mk.inj hrest.2).1]

/-- What the repository does with the action of an intake: whatever action it finds is one of the
same tenant, legal entity and portfolio, and the action it answers with is one of the same
conversion scope. -/
structure AnsweredInScope (store : IdeaActionStore) (intake : PreparedIntake)
    (proposed : IdeaAction) : Prop where
  found : ∀ id, store.existingId proposed = some id →
    ∃ existing, store.actions.get? id = some existing ∧ existing.caller = intake.caller
  answered : ∀ store' action created,
    store.createOrReplay proposed = .ok (store', action, created) →
      action.conversionScope = intake.scope

section Isolation

variable {texts : List String}

variable {intake : PreparedIntake} {proposed : IdeaAction}

theorem StoreFiled.found (hhash : HashesApart sha256Hex texts)
    (htexts : ∀ intake ∈ intakes, ∀ text ∈ intake.hashed sha256Hex, text ∈ texts)
    (hsound : ∀ intake ∈ intakes, PreparedSound intake)
    (hclear : ∀ a ∈ intakes, ∀ b ∈ intakes, PreparedIntake.Unambiguous a b)
    (h : StoreFiled sha256Hex intakes store) (hintake : intake ∈ intakes)
    (hproposed : FiledFor sha256Hex intake proposed) {id : String}
    (hid : store.existingId proposed = some id) :
    ∃ existing, store.actions.get? id = some existing ∧ existing.caller = intake.caller := by
  unfold IdeaActionStore.existingId at hid
  rcases Option.or_eq_some_iff.mp hid with hhit | ⟨_, hid⟩
  · -- the idempotency scope names the caller
    obtain ⟨existing, hexisting, hkey⟩ := h.byIdempotency _ _ hhit
    obtain ⟨_, other, hother, hfiled⟩ := h.actions _ _ hexisting
    refine ⟨existing, hexisting, hfiled.caller.trans ?_⟩
    have hservice := (hsound other hother).service.trans (hsound intake hintake).service.symm
    have hscopes := hfiled.hash.symm.trans (hkey.trans hproposed.hash)
    have htext := (scopeHash_eq_iff hhash (htexts other hother) (htexts intake hintake)
      hservice).mp hscopes
    exact (hclear other hother intake hintake).caller htext.2
  · rcases Option.or_eq_some_iff.mp hid with hhit | ⟨_, hid⟩
    · -- the intake id names the scope
      obtain ⟨existing, hexisting, hkey⟩ := h.byIntake _ _ hhit
      obtain ⟨_, other, hother, hfiled⟩ := h.actions _ _ hexisting
      refine ⟨existing, hexisting, hfiled.caller.trans ?_⟩
      have hids := (Prod.mk.inj (Prod.mk.inj hkey).2).2
      have hintakeIds := hfiled.intakeId.symm.trans (hids.trans hproposed.intakeId)
      have htext := scopeText_of_intakeId hhash (htexts other hother) (htexts intake hintake)
        hintakeIds
      exact caller_of_scope ((hclear other hother intake hintake).scope htext)
    · rcases Option.or_eq_some_iff.mp hid with hhit | ⟨_, hid⟩
      · obtain ⟨existing, hexisting, hkey⟩ := h.byConversion _ _ hhit
        obtain ⟨_, other, hother, hfiled⟩ := h.actions _ _ hexisting
        refine ⟨existing, hexisting, hfiled.caller.trans ?_⟩
        exact caller_of_scope (hfiled.scope.symm.trans (hkey.trans hproposed.scope))
      · -- the action id names the scope
        split at hid
        · rename_i hcontains
          cases hid
          obtain ⟨existing, hexisting⟩ :=
            (Dict.mem_keys_iff _ _).mp ((Dict.contains_eq_true_iff _ _).mp hcontains)
          obtain ⟨hkey, other, hother, hfiled⟩ := h.actions _ _ hexisting
          refine ⟨existing, hexisting, hfiled.caller.trans ?_⟩
          have hids := hfiled.actionId.symm.trans (hkey.trans hproposed.actionId)
          have htext := scopeText_of_actionId hhash (htexts other hother) (htexts intake hintake)
            hids
          exact caller_of_scope ((hclear other hother intake hintake).scope htext)
        · cases hid

theorem StoreFiled.answered (hhash : HashesApart sha256Hex texts)
    (htexts : ∀ intake ∈ intakes, ∀ text ∈ intake.hashed sha256Hex, text ∈ texts)
    (hclear : ∀ a ∈ intakes, ∀ b ∈ intakes, PreparedIntake.Unambiguous a b)
    (h : StoreFiled sha256Hex intakes store) (hintake : intake ∈ intakes)
    (hproposed : FiledFor sha256Hex intake proposed) {store' : IdeaActionStore}
    {action : IdeaAction} {created : Bool}
    (hanswer : store.createOrReplay proposed = .ok (store', action, created)) :
    action.conversionScope = intake.scope := by
  unfold IdeaActionStore.createOrReplay at hanswer
  split at hanswer
  · cases hanswer
  · rename_i existing hexisting
    cases hanswer
    unfold IdeaActionStore.existingForCreate at hexisting
    split at hexisting
    · cases hexisting
    · split at hexisting
      · cases hexisting
      · rename_i id _ stored hstored
        split at hexisting
        · cases hexisting
        · rename_i hsame
          cases hexisting
          -- a replay has the action id that the intake asks for
          obtain ⟨_, other, hother, hfiled⟩ := h.actions _ _ hstored
          have hids : action.actionId = proposed.actionId :=
            not_not.mp fun hne => hsame (.inr hne)
          have htext := scopeText_of_actionId hhash (htexts other hother) (htexts intake hintake)
            (hfiled.actionId.symm.trans (hids.trans hproposed.actionId))
          exact hfiled.scope.trans ((hclear other hother intake hintake).scope htext)
  · cases hanswer
    exact hproposed.scope

end Isolation

/-- What isolates the scopes of the intakes of a run: two scopes have two action ids and two intake
ids, an idempotency scope is that of one caller and one key, and the repository answers and refuses
an intake only because of an action of the same tenant, legal entity and portfolio. -/
structure TenantsIsolated (sha256Hex : Sha256Hex) (calls : List IdeaServiceCall) : Prop where
  ids : ∀ a ∈ preparedIntakes calls, ∀ b ∈ preparedIntakes calls, a.scope ≠ b.scope →
    a.actionId sha256Hex ≠ b.actionId sha256Hex ∧ a.intakeId sha256Hex ≠ b.intakeId sha256Hex
  scopeHashes : ∀ a ∈ preparedIntakes calls, ∀ b ∈ preparedIntakes calls,
    a.scopeHash sha256Hex = b.scopeHash sha256Hex ↔
      a.caller = b.caller ∧ strip a.idempotencyKey = strip b.idempotencyKey
  answers : ∀ earlier input later, calls = earlier ++ .acceptIntake input :: later →
    ∀ intake request proposed, prepareIntake input = .ok intake →
      intake.createArguments sha256Hex = some request →
      createIdeaManagementAction sha256Hex request = .ok proposed →
      AnsweredInScope (serviceDesk sha256Hex earlier).store intake proposed

/-- Every run of the service on the in-memory repository isolates its scopes when its hashes do not
collide and its joined texts determine what was joined. -/
theorem idea_tenants_isolated (sha256Hex : Sha256Hex) (calls : List IdeaServiceCall)
    (hhash : HashesApart sha256Hex
      ((preparedIntakes calls).flatMap (PreparedIntake.hashed sha256Hex)))
    (hclear : ∀ a ∈ preparedIntakes calls, ∀ b ∈ preparedIntakes calls,
      PreparedIntake.Unambiguous a b) :
    TenantsIsolated sha256Hex calls := by
  have htexts : ∀ intake ∈ preparedIntakes calls, ∀ text ∈ intake.hashed sha256Hex,
      text ∈ (preparedIntakes calls).flatMap (PreparedIntake.hashed sha256Hex) :=
    fun intake hintake text htext => List.mem_flatMap.mpr ⟨intake, hintake, htext⟩
  have hsound : ∀ intake ∈ preparedIntakes calls, PreparedSound intake := prepared_sound
  refine ⟨?_, ?_, ?_⟩
  · intro a ha b hb hscopes
    constructor
    · intro heq
      exact hscopes ((hclear a ha b hb).scope
        (scopeText_of_actionId hhash (htexts a ha) (htexts b hb) heq))
    · intro heq
      exact hscopes ((hclear a ha b hb).scope
        (scopeText_of_intakeId hhash (htexts a ha) (htexts b hb) heq))
  · intro a ha b hb
    rw [scopeHash_eq_iff hhash (htexts a ha) (htexts b hb)
      ((hsound a ha).service.trans (hsound b hb).service.symm)]
    constructor
    · rintro ⟨hkeys, hcallers⟩
      exact ⟨(hclear a ha b hb).caller hcallers, hkeys⟩
    · rintro ⟨hcallers, hkeys⟩
      refine ⟨hkeys, ?_⟩
      obtain ⟨htenant, hrest⟩ := Prod.mk.inj hcallers
      obtain ⟨hlegal, hportfolio⟩ := Prod.mk.inj hrest
      unfold PreparedIntake.callerText
      rw [htenant, hlegal, hportfolio]
  · intro earlier input later hsplit intake request proposed hprepare harguments hcreate
    have hintake : intake ∈ preparedIntakes calls := by
      refine List.mem_filterMap.mpr ⟨.acceptIntake input, ?_, ?_⟩
      · rw [hsplit]
        exact List.mem_append_right _ List.mem_cons_self
      · show (prepareIntake input).toOption = some intake
        rw [hprepare]
        rfl
    have hproposed :=
      createIdeaManagementAction_filed hhash (hsound intake hintake) harguments hcreate
    have hasks : ∀ call ∈ earlier.flatMap (IdeaServiceCall.deskCalls sha256Hex),
        AsksFor sha256Hex (preparedIntakes calls) call := by
      intro call hcall
      apply asksFor_deskCalls calls
      rw [hsplit, List.flatMap_append]
      exact List.mem_append_left _ hcall
    have hfiled := storeFiled_after hhash hsound hasks
    exact ⟨fun id hid => hfiled.found hhash htexts hsound hclear hintake hproposed hid,
      fun store' action created hanswer =>
        hfiled.answered hhash htexts hclear hintake hproposed hanswer⟩

/-! ## Intakes of two tenants -/

/-- The digest with this value. -/
def hexDigest (n : Nat) : String :=
  String.ofList ((List.range 64).map fun i => Json.hexDigit (n / 16 ^ (63 - i) % 16))

theorem isHexDigest_hexDigest (n : Nat) : IsHexDigest (hexDigest n) := by
  have hdigit : ∀ m : Fin 16, ('0' ≤ Json.hexDigit m ∧ Json.hexDigit m ≤ '9') ∨
      ('a' ≤ Json.hexDigit m ∧ Json.hexDigit m ≤ 'f') := by
    decide
  unfold IsHexDigest hexDigest
  rw [String.toList_ofList]
  constructor
  · rw [List.length_map, List.length_range]
  · intro c hc
    obtain ⟨i, _, rfl⟩ := List.mem_map.mp hc
    exact hdigit ⟨n / 16 ^ (63 - i) % 16, Nat.mod_lt _ (by omega)⟩

/-- The SHA-256 digests of the texts that the intakes below hash, each under three of its bytes,
which tell these texts apart. -/
def sampleDigests : List (List Nat × Nat) :=
  [([116, 49, 0],
      0x5c1ab66c35e95d548e18f8c693c517377f81290d594a0dfeb72d646b2bb75e7e),
    ([118, 110, 49],
      0xc3b06ab6c95a42849b182be37b577a75f3140a6f29580f4876e851cb2329281b),
    ([116, 105, 116],
      0x78398665b45091fecef11bbfd5086a8f3127be2680b40a8e873750945a57a7aa),
    ([0, 0, 0],
      0xbe2974546978e3739e6d6da85c4be9f334ce32df2b9fd4b6ff1b55c0d57e9d44),
    ([54, 124, 102],
      0x6215944a2c13a2ec28ec6c16cb44d394c9ec5c04242df23aedd3d9f8b8c352ab),
    ([99, 84, 65],
      0x0abb6fac196b4f714e1b4c43a116a4b2757104a6db33b181a1449b0c77ccb78f),
    ([116, 116, 48],
      0x275758dd261d9db67cc59fdd7c6f636c580ed4e5d7f1efab5175cdcec1d94606),
    ([118, 110, 48],
      0x3e323d696259e36c8785766340be56d205faa6496017792a9b4fa0aa796ff40b),
    ([116, 48, 105],
      0xe3e7a931022949bba34c0049c0a801967f4b5596f388a72134dac3421e8518e6),
    ([54, 114, 67],
      0x1d25c7366a605cd631f3e3109a25ee984c849ecffeea98431b2fa58caad9b462),
    ([55, 84, 65],
      0x0fb27349a518b686eb11203d603adfb33950644d8e0c117fb0bba53910f85e41),
    ([116, 48, 0],
      0x014de7c2a56ff0233c79536a89e599b4d819e28e5536774d6d2413ccb9c999fe),
    ([116, 124, 110],
      0xcd6e27e1753bcf24edc353d2b3a19fe5e9073c4fe48b079b17693405f48cd5d9),
    ([49, 84, 65],
      0x767e6f68d01d2d32cf1b6e2544f9a335fa66f698f2700b4d3279815c589142c5),
    ([124, 0, 0],
      0x5828b6d6bb51322573852fe4a59818c2b29264d5004243d3e31ec729199d788b),
    ([124, 48, 69],
      0x637ba8b1332e68b685254e64af6702ed19f77bccbd99bd8f7f6b086f09e44988),
    ([54, 48, 111],
      0xf4573f31653af71419deb8d5d752b748b8098d55a45fc3e5113fa61351a8b8e0),
    ([56, 84, 65],
      0x13248ac6e520abbd7f4a05818a96933507ea152b890750f22061ee31bac3e90d)]

/-- The value of the digest of a text. -/
def sampleDigest (text : String) : Nat :=
  let bytes := text.toByteArray.data.toList
  (sampleDigests.lookup ([5, 29, 34].map fun i => (bytes.getD i 0).toNat)).getD 0

/-- A hash function with these digests. -/
def sampleSha256Hex (text : String) : String := hexDigest (sampleDigest text)

/-- A request for one portfolio. -/
def sampleRequest (ideaCandidateId conversionIntentId : String) : IdeaActionIntakeRequest where
  portfolioId := "pf_001"
  ideaCandidateId := ideaCandidateId
  conversionIntentId := conversionIntentId
  intentType := .reviewForRebalance
  sourceRefs := [⟨"IdeaCandidate", "idea_001", none⟩]

/-- A request under one key. -/
def intakeOf (tenantId legalEntityCode ideaCandidateId conversionIntentId : String) :
    IntakeInput where
  headers := {
    xActorId := "svc-lotus-idea"
    xRole := "service"
    xTenantId := tenantId
    xLegalEntityCode := legalEntityCode
    xServiceIdentity := "lotus-idea"
    xCapabilities := "manage.idea_action_intake.accept"
    xPortfolioIds := "pf_001, pf_002"
    xCorrelationId := none
    xPrincipalStatus := none }
  body := sampleRequest ideaCandidateId conversionIntentId
  idempotencyKey := "key-1"
  xCorrelationId := none
  receivedAt := 0

/-- The same after the checks. -/
def preparedOf (tenantId legalEntityCode ideaCandidateId conversionIntentId : String) :
    PreparedIntake where
  principal := {
    actorId := "svc-lotus-idea"
    role := "SERVICE"
    tenantId := tenantId
    legalEntityCode := legalEntityCode
    correlationId := "route-correlation-pending"
    serviceIdentity := "lotus-idea"
    capabilities := ["manage.idea_action_intake.accept"]
    portfolioIds := ["pf_001", "pf_002"] }
  request := sampleRequest ideaCandidateId conversionIntentId
  idempotencyKey := "key-1"
  correlationId := "corr-idea-action-intake"
  receivedAt := 0

/-- The first twelve digits. -/
def firstDigits (n : Nat) : List Nat := (List.range 12).map fun i => n / 16 ^ (63 - i) % 16

theorem firstDigits_of_take {m : Nat} (h : Text.take 12 (hexDigest n) = Text.take 12 (hexDigest m)) :
    firstDigits n = firstDigits m := by
  have hvalues : ∀ k, ((Text.take 12 (hexDigest k)).toList).map Json.hexValue = firstDigits k := by
    intro k
    unfold Text.take hexDigest firstDigits
    rw [String.toList_ofList, String.toList_ofList, ← List.map_take, List.take_range, List.map_map]
    apply List.map_congr_left
    intro i _
    exact Json.hexValue_hexDigit (Nat.mod_lt _ (by omega))
  rw [← hvalues, ← hvalues, h]

theorem hashesApart_sample (digests : List Nat) (hdigests : texts.map sampleDigest = digests)
    (h : (texts.zip digests).Pairwise fun e e' => firstDigits e.2 ≠ firstDigits e'.2 ∨ e.1 = e'.1) :
    HashesApart sampleSha256Hex texts := by
  refine ⟨fun text => isHexDigest_hexDigest _, ?_⟩
  intro text htext text' htext' heq
  have hsymm : Std.Symm fun e e' : String × Nat =>
      firstDigits e.2 ≠ firstDigits e'.2 ∨ e.1 = e'.1 :=
    ⟨fun _ _ hor => hor.imp Ne.symm Eq.symm⟩
  have hzip : texts.zip digests = texts.map fun text => (text, sampleDigest text) := by
    rw [← hdigests, List.zip_eq_zipWith, List.zipWith_map_right, List.zipWith_self]
  rw [hzip] at h
  have hall := List.Pairwise.forall_of_forall (fun _ _ => .inr rfl) h
    (List.mem_map_of_mem htext) (List.mem_map_of_mem htext')
  exact hall.resolve_left (not_not.mpr (firstDigits_of_take heq))

/-- Two tenants use one key. -/
def twoTenants : List IdeaServiceCall :=
  [.acceptIntake (intakeOf "tenant-sg" "SG" "idea_001" "intent_001"),
    .acceptIntake (intakeOf "tenant-zurich" "CH" "idea_0002" "intent_00002")]

theorem prepared_twoTenants : preparedIntakes twoTenants =
    [preparedOf "tenant-sg" "SG" "idea_001" "intent_001",
      preparedOf "tenant-zurich" "CH" "idea_0002" "intent_00002"] := by
  decide +kernel

/-- The digests of the texts of the two intakes. -/
def twoTenantsDigests : List Nat :=
  [0x5c1ab66c35e95d548e18f8c693c517377f81290d594a0dfeb72d646b2bb75e7e,
    0xc3b06ab6c95a42849b182be37b577a75f3140a6f29580f4876e851cb2329281b,
    0x78398665b45091fecef11bbfd5086a8f3127be2680b40a8e873750945a57a7aa,
    0xbe2974546978e3739e6d6da85c4be9f334ce32df2b9fd4b6ff1b55c0d57e9d44,
    0x6215944a2c13a2ec28ec6c16cb44d394c9ec5c04242df23aedd3d9f8b8c352ab,
    0x275758dd261d9db67cc59fdd7c6f636c580ed4e5d7f1efab5175cdcec1d94606,
    0x3e323d696259e36c8785766340be56d205faa6496017792a9b4fa0aa796ff40b,
    0xe3e7a931022949bba34c0049c0a801967f4b5596f388a72134dac3421e8518e6,
    0xbe2974546978e3739e6d6da85c4be9f334ce32df2b9fd4b6ff1b55c0d57e9d44,
    0x1d25c7366a605cd631f3e3109a25ee984c849ecffeea98431b2fa58caad9b462]

theorem idea_tenants_isolated_two_tenants :
    (preparedIntakes twoTenants).map PreparedIntake.caller =
        [("tenant-sg", "SG", "pf_001"), ("tenant-zurich", "CH", "pf_001")] ∧
      TenantsIsolated sampleSha256Hex twoTenants := by
  refine ⟨by rw [prepared_twoTenants]; rfl,
    idea_tenants_isolated _ _ (hashesApart_sample twoTenantsDigests ?_ ?_) ?_⟩
  · rw [prepared_twoTenants]
    decide +kernel
  · rw [prepared_twoTenants]
    decide +kernel
  · rw [prepared_twoTenants]
    have hfree : ∀ intake ∈ [preparedOf "tenant-sg" "SG" "idea_001" "intent_001",
        preparedOf "tenant-zurich" "CH" "idea_0002" "intent_00002"], intake.SeparatorFree := by
      decide +kernel
    intro a ha b hb
    exact PreparedIntake.Unambiguous.of_separatorFree (hfree a ha) (hfree b hb)

/-- One tenant uses one key for two intents. -/
def twoIntents : List IdeaServiceCall :=
  [.acceptIntake (intakeOf "tenant-sg" "SG" "idea_001" "intent_001"),
    .acceptIntake (intakeOf "tenant-sg" "SG" "idea_0002" "intent_00002")]

theorem prepared_twoIntents : preparedIntakes twoIntents =
    [preparedOf "tenant-sg" "SG" "idea_001" "intent_001",
      preparedOf "tenant-sg" "SG" "idea_0002" "intent_00002"] := by
  decide +kernel

/-- The digests of the texts of the two intakes. -/
def twoIntentsDigests : List Nat :=
  [0x5c1ab66c35e95d548e18f8c693c517377f81290d594a0dfeb72d646b2bb75e7e,
    0xc3b06ab6c95a42849b182be37b577a75f3140a6f29580f4876e851cb2329281b,
    0x78398665b45091fecef11bbfd5086a8f3127be2680b40a8e873750945a57a7aa,
    0xbe2974546978e3739e6d6da85c4be9f334ce32df2b9fd4b6ff1b55c0d57e9d44,
    0x6215944a2c13a2ec28ec6c16cb44d394c9ec5c04242df23aedd3d9f8b8c352ab,
    0x014de7c2a56ff0233c79536a89e599b4d819e28e5536774d6d2413ccb9c999fe,
    0x3e323d696259e36c8785766340be56d205faa6496017792a9b4fa0aa796ff40b,
    0xcd6e27e1753bcf24edc353d2b3a19fe5e9073c4fe48b079b17693405f48cd5d9,
    0xbe2974546978e3739e6d6da85c4be9f334ce32df2b9fd4b6ff1b55c0d57e9d44,
    0x6215944a2c13a2ec28ec6c16cb44d394c9ec5c04242df23aedd3d9f8b8c352ab]

/-- The names of two tenants are joined to one text. -/
def twoNames : List IdeaServiceCall :=
  [.acceptIntake (intakeOf "a|B" "C" "idea_001" "intent_001"),
    .acceptIntake (intakeOf "a" "B|C" "idea_001" "intent_001")]

theorem prepared_twoNames : preparedIntakes twoNames =
    [preparedOf "a|B" "C" "idea_001" "intent_001",
      preparedOf "a" "B|C" "idea_001" "intent_001"] := by
  decide +kernel

/-- What the repository answers to the intakes of a run, one after the other: the tenant, the legal
entity and the intent of the action, and whether it was created. -/
def storeAnswers (sha256Hex : Sha256Hex) (store : IdeaActionStore) :
    List PreparedIntake → List (Except IdeaActionError (String × String × String × Bool))
  | [] => []
  | intake :: intakes =>
    match intake.createArguments sha256Hex with
    | none => storeAnswers sha256Hex store intakes
    | some request =>
      match createIdeaManagementAction sha256Hex request >>= store.createOrReplay with
      | .error e => .error e :: storeAnswers sha256Hex store intakes
      | .ok (store', action, created) =>
        .ok (action.tenantId, action.legalEntityCode, action.conversionIntentId, created) ::
          storeAnswers sha256Hex store' intakes

/-- Two scopes can share an idempotency scope: one tenant may use one key for two intents.  Two
tenants whose names are joined to one text share every identity, and the second of them is answered
with the action of the first. -/
theorem idea_scopes_share_hashes :
    HashesApart sampleSha256Hex
      ((preparedIntakes twoIntents).flatMap (PreparedIntake.hashed sampleSha256Hex)) ∧
    (preparedIntakes twoIntents).map
      (fun intake => (intake.scope, intake.scopeHash sampleSha256Hex)) =
        [(("tenant-sg", "SG", "pf_001", "intent_001"), "sha256:6215944a2c13a2ec28ec6c16"),
          (("tenant-sg", "SG", "pf_001", "intent_00002"), "sha256:6215944a2c13a2ec28ec6c16")] ∧
    (preparedIntakes twoNames).map (fun intake => (intake.scope, intake.scopeText)) =
        [(("a|B", "C", "pf_001", "intent_001"), "a|B|C|pf_001|intent_001"),
          (("a", "B|C", "pf_001", "intent_001"), "a|B|C|pf_001|intent_001")] ∧
    storeAnswers sampleSha256Hex .new (preparedIntakes twoNames) =
      [.ok ("a|B", "C", "intent_001", true), .ok ("a|B", "C", "intent_001", false)] := by
  rw [prepared_twoIntents, prepared_twoNames]
  refine ⟨hashesApart_sample twoIntentsDigests ?_ ?_, ?_, ?_, ?_⟩
  · decide +kernel
  · decide +kernel
  · decide +kernel
  · decide +kernel
  · decide +kernel

end LotusManage.RebalanceRuns
