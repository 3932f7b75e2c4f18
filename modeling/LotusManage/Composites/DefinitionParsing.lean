import LotusManage.Lib.JsonDecoder

/-!
# Parsing composite definitions

`parse_composite_definition_json` reads a payload with a hook on every object, which notes repeated
keys and a `product_version` of `v2` or `v3`, and then a second time with a hook that refuses the
constants that are not JSON.

* `anyVersion_eq`: the hook fails on an object exactly when a list or a dict is its
  `product_version`, before one that is `v2` or `v3`.
* `inspect_ok`, `inspect_error`: what the hooks of the first reading leave.
* `refuse_eq`: the second reading goes through or stops at the first constant.
* `parsing_declared_iff`: when nothing but a `ValueError` is raised, and what is returned is checked.
-/

namespace LotusManage.Composites

open JsonDecoder (CodePoints codePoints Value Atom Met DecodeError meets scan loads loadsWith)

/-- How deep the interpreter goes: the containers of a text, and the containers inside of which the
hook on the objects and the hook on the constants can still be called. -/
structure RecursionRoom where
  containers : Nat
  objectHook : Nat
  constantHook : Nat

inductive ParseError where
  | valueError (message : String)
  | typeError
  | recursionError
  deriving DecidableEq

/-- The exceptions of `json.loads`; the function gives a `JSONDecodeError` its own text. -/
def ParseError.ofDecode : DecodeError → ParseError
  | .malformed => .valueError "COMPOSITE_DEFINITION_RAW_JSON_INVALID"
  | .digits => .valueError "Exceeds the limit (4300 digits) for integer string conversion"
  | .recursion => .recursionError

/-- What the hook on the objects has noted. -/
structure Inspection where
  duplicateKeys : Bool
  containsV2 : Bool

def productVersionKey : CodePoints := codePoints "product_version"

/-- `value in {"v2", "v3"}`: a list and a dict have no hash. -/
def inVersions : Value → Except ParseError Bool
  | .scalar (.text codes) => .ok (codes == codePoints "v2" || codes == codePoints "v3")
  | .scalar _ => .ok false
  | _ => .error .typeError

/-- `any(key == "product_version" and value in {"v2", "v3"} for key, value in pairs)` -/
def anyVersion : List (CodePoints × Value) → Except ParseError Bool
  | [] => .ok false
  | (key, value) :: pairs =>
    if key = productVersionKey then
      match inVersions value with
      | .error error => .error error
      | .ok true => .ok true
      | .ok false => anyVersion pairs
    else anyVersion pairs

/-- `inspect_pairs` -/
def inspectPairs (noted : Inspection) (pairs : List (CodePoints × Value)) :
    Except ParseError Inspection :=
  match anyVersion pairs with
  | .error error => .error error
  | .ok found =>
    .ok ⟨noted.duplicateKeys || !decide (pairs.map Prod.fst).Nodup, noted.containsV2 || found⟩

/-- A hook that is called inside of `depth` containers and has room inside of `limit`. -/
def callHook {α : Type} (limit depth : Nat) (result : Except ParseError α) :
    Except ParseError α :=
  if limit < depth then .error .recursionError else result

/-- `object_pairs_hook=inspect_pairs` -/
def inspectHook (room : RecursionRoom) (noted : Inspection) : Met → Except ParseError Inspection
  | .object depth pairs => callHook room.objectHook depth (inspectPairs noted pairs)
  | .scalar _ _ => .ok noted

/-- `parse_constant=refuse_nonfinite` -/
def refuseHook (room : RecursionRoom) (_ : Unit) : Met → Except ParseError Unit
  | .scalar depth (.constant _) =>
    callHook room.constantHook depth
      (.error (.valueError "COMPOSITE_DEFINITION_NONFINITE_JSON_FORBIDDEN"))
  | _ => .ok ()

/-- `if not isinstance(raw, dict): raise` -/
def objectRequired : Value → Except ParseError Value
  | .dict pairs => .ok (JsonDecoder.toDict (.dict pairs))
  | _ => .error (.valueError "COMPOSITE_DEFINITION_JSON_OBJECT_REQUIRED")

/-- `parse_composite_definition_json` -/
def parseCompositeDefinitionJson (room : RecursionRoom) (payload : List Char) :
    Except ParseError Value := do
  let (raw, noted) ← loadsWith room.containers (inspectHook room) .ofDecode ⟨false, false⟩ payload
  let result ← objectRequired raw
  if noted.containsV2 then
    if noted.duplicateKeys then
      throw (.valueError "COMPOSITE_DEFINITION_DUPLICATE_JSON_KEY")
    let (raw, _) ← loadsWith room.containers (refuseHook room) .ofDecode () payload
    objectRequired raw
  else return result

/-! ## The hook on the objects -/

def isVersion : Value → Bool
  | .scalar (.text codes) => codes == codePoints "v2" || codes == codePoints "v3"
  | _ => false

def isContainer : Value → Bool
  | .scalar _ => false
  | _ => true

/-- A member is a `product_version` of `v2` or `v3`. -/
def versioned (pairs : List (CodePoints × Value)) : Bool :=
  pairs.any fun pair => pair.1 == productVersionKey && isVersion pair.2

/-- A list or a dict is the `product_version`, before one that is `v2` or `v3`. -/
def UnhashableVersion (pairs : List (CodePoints × Value)) : Prop :=
  ∃ before value after, pairs = before ++ (productVersionKey, value) :: after ∧
    isContainer value = true ∧ versioned before = false

variable {room : RecursionRoom}

theorem inVersions_cases (value : Value) :
    (isContainer value = true ∧ isVersion value = false ∧ inVersions value = .error .typeError) ∨
      (isContainer value = false ∧ inVersions value = .ok (isVersion value)) := by
  match value with
  | .scalar (.text codes) => exact Or.inr ⟨rfl, rfl⟩
  | .scalar .null => exact Or.inr ⟨rfl, rfl⟩
  | .scalar (.bool _) => exact Or.inr ⟨rfl, rfl⟩
  | .scalar (.int _) => exact Or.inr ⟨rfl, rfl⟩
  | .scalar (.float _) => exact Or.inr ⟨rfl, rfl⟩
  | .scalar (.overflow _) => exact Or.inr ⟨rfl, rfl⟩
  | .scalar (.constant _) => exact Or.inr ⟨rfl, rfl⟩
  | .list _ => exact Or.inl ⟨rfl, rfl, rfl⟩
  | .dict _ => exact Or.inl ⟨rfl, rfl, rfl⟩

theorem not_unhashableVersion_nil : ¬ UnhashableVersion [] := by
  rintro ⟨before, value, after, hsplit, _⟩
  cases before <;> cases hsplit

theorem unhashableVersion_cons_iff {key : CodePoints} {value : Value}
    {pairs : List (CodePoints × Value)} :
    UnhashableVersion ((key, value) :: pairs) ↔
      (key = productVersionKey ∧ isContainer value = true) ∨
        (¬ (key = productVersionKey ∧ isVersion value = true) ∧ UnhashableVersion pairs) := by
  constructor
  · rintro ⟨before, inner, after, hsplit, hcontainer, hbefore⟩
    cases before with
    | nil =>
      cases hsplit
      exact Or.inl ⟨rfl, hcontainer⟩
    | cons pair before =>
      cases hsplit
      rw [versioned, List.any_cons, Bool.or_eq_false_iff] at hbefore
      refine Or.inr ⟨?_, before, inner, after, rfl, hcontainer, hbefore.2⟩
      rintro ⟨rfl, hversion⟩
      have hfirst := hbefore.1
      rw [hversion] at hfirst
      simp at hfirst
  · rintro (⟨rfl, hcontainer⟩ | ⟨hother, before, inner, after, rfl, hcontainer, hbefore⟩)
    · exact ⟨[], value, pairs, rfl, hcontainer, rfl⟩
    · refine ⟨(key, value) :: before, inner, after, rfl, hcontainer, ?_⟩
      rw [versioned, List.any_cons, Bool.or_eq_false_iff]
      refine ⟨?_, hbefore⟩
      simpa using hother

theorem anyVersion_eq (pairs : List (CodePoints × Value)) :
    (UnhashableVersion pairs ∧ anyVersion pairs = .error .typeError) ∨
      (¬ UnhashableVersion pairs ∧ anyVersion pairs = .ok (versioned pairs)) := by
  induction pairs with
  | nil => exact Or.inr ⟨not_unhashableVersion_nil, rfl⟩
  | cons pair pairs ih =>
    obtain ⟨key, value⟩ := pair
    rw [unhashableVersion_cons_iff, anyVersion, versioned, List.any_cons]
    by_cases hkey : key = productVersionKey
    · rw [if_pos hkey]
      rcases inVersions_cases value with ⟨hcontainer, _, hvalue⟩ | ⟨hscalar, hvalue⟩
      · rw [hvalue]
        exact Or.inl ⟨Or.inl ⟨hkey, hcontainer⟩, rfl⟩
      · rw [hvalue]
        cases hversion : isVersion value with
        | true =>
          refine Or.inr ⟨?_, by simp [hkey]⟩
          rintro (⟨_, hcontainer⟩ | ⟨hother, _⟩)
          · rw [hscalar] at hcontainer
            cases hcontainer
          · exact hother ⟨hkey, rfl⟩
        | false =>
          rw [Bool.and_false, Bool.false_or]
          rcases ih with ⟨hunhashable, hany⟩ | ⟨hhashable, hany⟩
          · exact Or.inl ⟨Or.inr ⟨fun h => Bool.false_ne_true h.2, hunhashable⟩, hany⟩
          · refine Or.inr ⟨?_, hany⟩
            rintro (⟨_, hcontainer⟩ | ⟨_, hunhashable⟩)
            · rw [hscalar] at hcontainer
              cases hcontainer
            · exact hhashable hunhashable
    · rw [if_neg hkey, beq_false_of_ne hkey, Bool.false_and, Bool.false_or]
      rcases ih with ⟨hunhashable, hany⟩ | ⟨hhashable, hany⟩
      · exact Or.inl ⟨Or.inr ⟨fun h => hkey h.1, hunhashable⟩, hany⟩
      · refine Or.inr ⟨?_, hany⟩
        rintro (⟨heq, _⟩ | ⟨_, hunhashable⟩)
        · exact hkey heq
        · exact hhashable hunhashable

/-! ## The first reading -/

/-- The hook cannot be called on the object, or fails on it. -/
def Faulty (room : RecursionRoom) : Met → Prop
  | .object depth pairs => room.objectHook < depth ∨ UnhashableVersion pairs
  | .scalar _ _ => False

def Met.repeatsKey : Met → Bool
  | .object _ pairs => !decide (pairs.map Prod.fst).Nodup
  | .scalar _ _ => false

def Met.isVersioned : Met → Bool
  | .object _ pairs => versioned pairs
  | .scalar _ _ => false

theorem inspectHook_cases (room : RecursionRoom) (noted : Inspection) (met : Met) :
    (Faulty room met ∧ (inspectHook room noted met = .error .typeError ∨
        inspectHook room noted met = .error .recursionError)) ∨
      (¬ Faulty room met ∧ inspectHook room noted met =
        .ok ⟨noted.duplicateKeys || Met.repeatsKey met, noted.containsV2 || Met.isVersioned met⟩) := by
  cases met with
  | scalar depth atom =>
    refine Or.inr ⟨fun h => h, ?_⟩
    simp [inspectHook, Met.repeatsKey, Met.isVersioned]
  | object depth pairs =>
    show (_ ∧ (callHook room.objectHook depth (inspectPairs noted pairs) = _ ∨ _)) ∨
      (_ ∧ callHook room.objectHook depth (inspectPairs noted pairs) = _)
    unfold callHook inspectPairs
    by_cases hdepth : room.objectHook < depth
    · rw [if_pos hdepth]
      exact Or.inl ⟨Or.inl hdepth, Or.inr (if_pos hdepth)⟩
    · rw [if_neg hdepth]
      rcases anyVersion_eq pairs with ⟨hunhashable, hany⟩ | ⟨hhashable, hany⟩
      · refine Or.inl ⟨Or.inr hunhashable, Or.inl ?_⟩
        rw [hany]
      · refine Or.inr ⟨fun h => h.elim hdepth hhashable, ?_⟩
        rw [hany]
        rfl

theorem inspect_ok {met : List Met} (h : ∀ m ∈ met, ¬ Faulty room m) (noted : Inspection) :
    met.foldlM (inspectHook room) noted =
      .ok ⟨noted.duplicateKeys || met.any Met.repeatsKey,
        noted.containsV2 || met.any Met.isVersioned⟩ := by
  induction met generalizing noted with
  | nil =>
    simp
    rfl
  | cons m met ih =>
    rcases inspectHook_cases room noted m with ⟨hfault, _⟩ | ⟨_, hhook⟩
    · exact absurd hfault (h m List.mem_cons_self)
    · rw [List.foldlM_cons, hhook]
      show met.foldlM (inspectHook room) _ = _
      rw [ih fun m hmem => h m (List.mem_cons_of_mem _ hmem)]
      simp [Bool.or_assoc]

theorem inspect_error {met : List Met} (h : ∃ m ∈ met, Faulty room m) (noted : Inspection) :
    met.foldlM (inspectHook room) noted = .error .typeError ∨
      met.foldlM (inspectHook room) noted = .error .recursionError := by
  induction met generalizing noted with
  | nil =>
    obtain ⟨_, hmem, _⟩ := h
    cases hmem
  | cons m met ih =>
    rw [List.foldlM_cons]
    rcases inspectHook_cases room noted m with ⟨_, hhook | hhook⟩ | ⟨hfine, hhook⟩
    · rw [hhook]
      exact Or.inl rfl
    · rw [hhook]
      exact Or.inr rfl
    · rw [hhook]
      apply ih
      obtain ⟨fault, hmem, hfault⟩ := h
      rcases List.mem_cons.mp hmem with rfl | hmem
      · exact absurd hfault hfine
      · exact ⟨fault, hmem, hfault⟩

/-! ## The second reading -/

def Met.isConstant : Met → Bool
  | .scalar _ (.constant _) => true
  | _ => false

def Met.depth : Met → Nat
  | .scalar depth _ => depth
  | .object depth _ => depth

theorem refuseHook_eq (room : RecursionRoom) (met : Met) :
    refuseHook room () met =
      if Met.isConstant met then
        callHook room.constantHook (Met.depth met)
          (.error (.valueError "COMPOSITE_DEFINITION_NONFINITE_JSON_FORBIDDEN"))
      else .ok () := by
  match met with
  | .object _ _ => rfl
  | .scalar _ .null => rfl
  | .scalar _ (.bool _) => rfl
  | .scalar _ (.int _) => rfl
  | .scalar _ (.float _) => rfl
  | .scalar _ (.overflow _) => rfl
  | .scalar _ (.text _) => rfl
  | .scalar _ (.constant _) => rfl

theorem refuse_eq (room : RecursionRoom) (met : List Met) :
    met.foldlM (refuseHook room) () =
      match met.find? Met.isConstant with
      | some m =>
        callHook room.constantHook (Met.depth m)
          (.error (.valueError "COMPOSITE_DEFINITION_NONFINITE_JSON_FORBIDDEN"))
      | none => .ok () := by
  induction met with
  | nil => rfl
  | cons m met ih =>
    rw [List.foldlM_cons, refuseHook_eq, List.find?_cons]
    cases Met.isConstant m with
    | true =>
      show (callHook room.constantHook (Met.depth m) _ >>= _) =
        callHook room.constantHook (Met.depth m) _
      unfold callHook
      split <;> rfl
    | false => exact ih

/-! ## What a payload holds -/

/-- An object at any depth. -/
def ObjectIn (value : Value) (pairs : List (CodePoints × Value)) : Prop :=
  ∃ depth, Met.object depth pairs ∈ meets 0 value

/-- A scalar at any depth. -/
def ScalarIn (value : Value) (atom : Atom) : Prop :=
  ∃ depth, Met.scalar depth atom ∈ meets 0 value

/-- Some object has the `product_version` `v2` or `v3`. -/
def HasVersion (value : Value) : Prop :=
  ∃ pairs, ObjectIn value pairs ∧
    ∃ pair ∈ pairs, pair.1 = productVersionKey ∧ isVersion pair.2 = true

/-- Some object repeats a key. -/
def RepeatsKey (value : Value) : Prop :=
  ∃ pairs, ObjectIn value pairs ∧ ¬ (pairs.map Prod.fst).Nodup

/-- A number is not finite: a constant, or a literal beyond the doubles. -/
def HoldsNonfinite (value : Value) : Prop :=
  (∃ name, ScalarIn value (.constant name)) ∨ ∃ negative, ScalarIn value (.overflow negative)

theorem any_repeatsKey_iff (value : Value) :
    (meets 0 value).any Met.repeatsKey = true ↔ RepeatsKey value := by
  rw [List.any_eq_true]
  constructor
  · rintro ⟨met, hmem, hrepeats⟩
    cases met with
    | scalar depth atom => cases hrepeats
    | object depth pairs => exact ⟨pairs, ⟨depth, hmem⟩, by simpa [Met.repeatsKey] using hrepeats⟩
  · rintro ⟨pairs, ⟨depth, hmem⟩, hrepeats⟩
    exact ⟨_, hmem, by simpa [Met.repeatsKey] using hrepeats⟩

theorem any_isVersioned_iff (value : Value) :
    (meets 0 value).any Met.isVersioned = true ↔ HasVersion value := by
  rw [List.any_eq_true]
  constructor
  · rintro ⟨met, hmem, hversioned⟩
    cases met with
    | scalar depth atom => cases hversioned
    | object depth pairs =>
      exact ⟨pairs, ⟨depth, hmem⟩, by simpa [Met.isVersioned, versioned] using hversioned⟩
  · rintro ⟨pairs, ⟨depth, hmem⟩, hversioned⟩
    exact ⟨_, hmem, by simpa [Met.isVersioned, versioned] using hversioned⟩

theorem no_constant_of_find {value : Value}
    (h : (meets 0 value).find? Met.isConstant = none) (name : JsonDecoder.Constant) :
    ¬ ScalarIn value (.constant name) := by
  rintro ⟨depth, hmem⟩
  exact List.find?_eq_none.mp h _ hmem rfl

/-! ## What is raised and returned -/

section Parsing

variable {room : RecursionRoom} {payload : List Char}

/-- Only a `ValueError` is raised. -/
def FailsAsDeclared (room : RecursionRoom) (payload : List Char) : Prop :=
  ∀ error, parseCompositeDefinitionJson room payload = .error error →
    ∃ message, error = .valueError message

/-- What is returned is an object, and a versioned payload has been checked. -/
def ReturnsChecked (room : RecursionRoom) (payload : List Char) : Prop :=
  ∀ result, parseCompositeDefinitionJson room payload = .ok result →
    (∃ members, result = .dict members) ∧
      ∃ raw, loads room.containers payload = .ok raw ∧
        (HasVersion raw → ¬ RepeatsKey raw ∧ ¬ HoldsNonfinite raw)

/-- No hook is stopped on a complete object, the text is not nested too deeply, and a payload that
comes to the second reading has no literal beyond the doubles, or a constant that can be refused. -/
def ParsesWithinBounds (room : RecursionRoom) (payload : List Char) : Prop :=
  (∀ met ∈ (scan room.containers payload).1, ¬ Faulty room met) ∧
    loads room.containers payload ≠ .error .recursion ∧
    ∀ pairs, loads room.containers payload = .ok (.dict pairs) → HasVersion (.dict pairs) →
      ¬ RepeatsKey (.dict pairs) →
        match (meets 0 (.dict pairs)).find? Met.isConstant with
        | some met => Met.depth met ≤ room.constantHook
        | none => ∀ negative, ¬ ScalarIn (.dict pairs) (.overflow negative)

variable {pairs : List (CodePoints × Value)}

theorem parse_of_fault (h : ∃ met ∈ (scan room.containers payload).1, Faulty room met) :
    parseCompositeDefinitionJson room payload = .error .typeError ∨
      parseCompositeDefinitionJson room payload = .error .recursionError := by
  unfold parseCompositeDefinitionJson loadsWith
  rcases inspect_error h ⟨false, false⟩ with herror | herror
  · rw [herror]
    exact Or.inl rfl
  · rw [herror]
    exact Or.inr rfl

theorem parse_of_error (h : ∀ met ∈ (scan room.containers payload).1, ¬ Faulty room met)
    {error : DecodeError} (hloads : loads room.containers payload = .error error) :
    parseCompositeDefinitionJson room payload = .error (.ofDecode error) := by
  unfold parseCompositeDefinitionJson loadsWith
  unfold loads at hloads
  rw [inspect_ok h, hloads]
  rfl

theorem parse_of_value (h : ∀ met ∈ (scan room.containers payload).1, ¬ Faulty room met)
    {raw : Value} (hloads : loads room.containers payload = .ok raw) :
    parseCompositeDefinitionJson room payload =
      (do
        let result ← objectRequired raw
        if (meets 0 raw).any Met.isVersioned then
          if (meets 0 raw).any Met.repeatsKey then
            throw (.valueError "COMPOSITE_DEFINITION_DUPLICATE_JSON_KEY")
          match (meets 0 raw).find? Met.isConstant with
          | some met =>
            callHook room.constantHook (Met.depth met)
              (.error (.valueError "COMPOSITE_DEFINITION_NONFINITE_JSON_FORBIDDEN"))
          | none => objectRequired raw
        else return result) := by
  have hmeets := JsonDecoder.scan_meets hloads
  unfold parseCompositeDefinitionJson loadsWith
  unfold loads at hloads
  rw [inspect_ok h, refuse_eq, hloads, hmeets]
  show (objectRequired raw >>= _) = (objectRequired raw >>= _)
  cases hresult : objectRequired raw with
  | error error => rfl
  | ok result =>
    show ite _ _ _ = ite _ _ _
    rw [Bool.false_or, Bool.false_or]
    congr 1
    show ite _ _ _ = ite _ _ _
    congr 1
    cases hfind : (meets 0 raw).find? Met.isConstant with
    | none => exact hresult
    | some met =>
      unfold callHook
      by_cases hdepth : room.constantHook < Met.depth met
      · simp only [if_pos hdepth]
        rfl
      · simp only [if_neg hdepth]
        rfl

theorem parse_of_versioned (h : ∀ met ∈ (scan room.containers payload).1, ¬ Faulty room met)
    (hloads : loads room.containers payload = .ok (.dict pairs))
    (hversion : HasVersion (.dict pairs)) (hunique : ¬ RepeatsKey (.dict pairs)) :
    parseCompositeDefinitionJson room payload =
      match (meets 0 (.dict pairs)).find? Met.isConstant with
      | some met =>
        callHook room.constantHook (Met.depth met)
          (.error (.valueError "COMPOSITE_DEFINITION_NONFINITE_JSON_FORBIDDEN"))
      | none => .ok (JsonDecoder.toDict (.dict pairs)) := by
  rw [parse_of_value h hloads, (any_isVersioned_iff _).mpr hversion,
    Bool.eq_false_iff.mpr (mt (any_repeatsKey_iff _).mp hunique)]
  rfl

theorem parse_unversioned (h : ∀ met ∈ (scan room.containers payload).1, ¬ Faulty room met)
    {raw : Value} (hloads : loads room.containers payload = .ok raw)
    (hother : ∀ pairs, raw = .dict pairs → HasVersion raw → RepeatsKey raw) :
    (∃ message, parseCompositeDefinitionJson room payload = .error (.valueError message)) ∨
      ((∃ members, parseCompositeDefinitionJson room payload = .ok (.dict members)) ∧
        ¬ HasVersion raw) := by
  rw [parse_of_value h hloads]
  match raw, hother with
  | .scalar atom, _ => exact Or.inl ⟨_, rfl⟩
  | .list items, _ => exact Or.inl ⟨_, rfl⟩
  | .dict pairs, hother =>
    by_cases hversion : HasVersion (.dict pairs)
    · rw [(any_isVersioned_iff _).mpr hversion,
        (any_repeatsKey_iff _).mpr (hother pairs rfl hversion)]
      exact Or.inl ⟨_, rfl⟩
    · rw [Bool.eq_false_iff.mpr (mt (any_isVersioned_iff _).mp hversion)]
      exact Or.inr ⟨⟨_, rfl⟩, hversion⟩

/-- A versioned object without a repeated key is parsed as declared when its first constant can be
refused or, without a constant, it has no literal beyond the doubles. -/
theorem versioned_declared_iff (h : ∀ met ∈ (scan room.containers payload).1, ¬ Faulty room met)
    (hloads : loads room.containers payload = .ok (.dict pairs))
    (hversion : HasVersion (.dict pairs)) (hunique : ¬ RepeatsKey (.dict pairs)) :
    (FailsAsDeclared room payload ∧ ReturnsChecked room payload) ↔
      ParsesWithinBounds room payload := by
  have hparse := parse_of_versioned h hloads hversion hunique
  have hbounds : ParsesWithinBounds room payload ↔
      match (meets 0 (.dict pairs)).find? Met.isConstant with
      | some met => Met.depth met ≤ room.constantHook
      | none => ∀ negative, ¬ ScalarIn (.dict pairs) (.overflow negative) := by
    unfold ParsesWithinBounds
    rw [hloads]
    constructor
    · rintro ⟨_, _, hpayload⟩
      exact hpayload pairs rfl hversion hunique
    · intro hpayload
      refine ⟨h, (fun heq => by cases heq), ?_⟩
      intro pairs' heq _ _
      cases heq
      exact hpayload
  rw [hbounds]
  unfold FailsAsDeclared ReturnsChecked
  rw [hparse, hloads]
  cases hfind : (meets 0 (.dict pairs)).find? Met.isConstant with
  | some met =>
    show ((∀ error, callHook room.constantHook (Met.depth met) _ = _ → _) ∧
      ∀ result, callHook room.constantHook (Met.depth met) _ = _ → _) ↔ _
    unfold callHook
    by_cases hdepth : room.constantHook < Met.depth met
    · rw [if_pos hdepth]
      apply iff_of_false
      · rintro ⟨hfails, _⟩
        obtain ⟨_, hmessage⟩ := hfails _ rfl
        cases hmessage
      · show ¬ Met.depth met ≤ room.constantHook
        omega
    · rw [if_neg hdepth]
      apply iff_of_true
      · refine ⟨?_, fun result heq => by cases heq⟩
        intro error heq
        cases heq
        exact ⟨_, rfl⟩
      · show Met.depth met ≤ room.constantHook
        omega
  | none =>
    show ((∀ error, Except.ok _ = _ → _) ∧ ∀ result, Except.ok _ = _ → _) ↔ ∀ negative, ¬ _
    constructor
    · rintro ⟨_, hreturns⟩ negative hoverflow
      obtain ⟨_, raw, hraw, hchecked⟩ := hreturns _ rfl
      cases hraw
      exact (hchecked hversion).2 (Or.inr ⟨negative, hoverflow⟩)
    · intro hfinite
      refine ⟨(fun error heq => by cases heq), ?_⟩
      intro result heq
      cases heq
      refine ⟨⟨_, rfl⟩, _, rfl, fun _ => ⟨hunique, ?_⟩⟩
      rintro (⟨name, hconstant⟩ | ⟨negative, hoverflow⟩)
      · exact no_constant_of_find hfind name hconstant
      · exact hfinite negative hoverflow

end Parsing

/-- For every payload: only a `ValueError` is raised and a versioned result has been checked, exactly
when no hook is stopped, the text is not nested too deeply, and no literal of a versioned payload
that is returned lies beyond the doubles. -/
theorem parsing_declared_iff (room : RecursionRoom) (payload : List Char) :
    (FailsAsDeclared room payload ∧ ReturnsChecked room payload) ↔
      ParsesWithinBounds room payload := by
  by_cases hfault : ∃ met ∈ (scan room.containers payload).1, Faulty room met
  · apply iff_of_false
    · rintro ⟨hfails, _⟩
      rcases parse_of_fault hfault with herror | herror
      · obtain ⟨_, hmessage⟩ := hfails _ herror
        cases hmessage
      · obtain ⟨_, hmessage⟩ := hfails _ herror
        cases hmessage
    · rintro ⟨hfine, _⟩
      obtain ⟨met, hmem, hmet⟩ := hfault
      exact hfine met hmem hmet
  have hfine : ∀ met ∈ (scan room.containers payload).1, ¬ Faulty room met :=
    fun met hmem hmet => hfault ⟨met, hmem, hmet⟩
  cases hloads : loads room.containers payload with
  | error error =>
    have hparse := parse_of_error hfine hloads
    unfold FailsAsDeclared ReturnsChecked ParsesWithinBounds
    rw [hparse, hloads]
    constructor
    · rintro ⟨hfails, _⟩
      refine ⟨hfine, ?_, fun pairs h => by cases h⟩
      intro heq
      cases heq
      obtain ⟨_, hmessage⟩ := hfails _ rfl
      cases hmessage
    · rintro ⟨_, hdepth, _⟩
      refine ⟨?_, fun result h => by cases h⟩
      intro raised heq
      cases heq
      cases error with
      | malformed => exact ⟨_, rfl⟩
      | digits => exact ⟨_, rfl⟩
      | recursion => exact absurd rfl hdepth
  | ok raw =>
    by_cases hother : ∀ pairs, raw = .dict pairs → HasVersion raw → RepeatsKey raw
    · apply iff_of_true
      · rcases parse_unversioned hfine hloads hother with
          ⟨message, hparse⟩ | ⟨⟨members, hparse⟩, hversion⟩
        · refine ⟨fun raised heq => ?_, fun result heq => ?_⟩
          · rw [hparse] at heq
            cases heq
            exact ⟨message, rfl⟩
          · rw [hparse] at heq
            cases heq
        · refine ⟨fun raised heq => ?_, fun result heq => ?_⟩
          · rw [hparse] at heq
            cases heq
          · rw [hparse] at heq
            cases heq
            exact ⟨⟨members, rfl⟩, raw, hloads, fun h => absurd h hversion⟩
      · have hread : loads room.containers payload ≠ .error .recursion := by
          rw [hloads]
          intro heq
          cases heq
        refine ⟨hfine, hread, ?_⟩
        intro pairs heq hversion hunique
        rw [hloads] at heq
        cases heq
        exact absurd (hother pairs rfl hversion) hunique
    · obtain ⟨pairs, rfl, hversion, hunique⟩ : ∃ pairs, raw = .dict pairs ∧ HasVersion raw ∧
          ¬ RepeatsKey raw := by
        push Not at hother
        exact hother
      exact versioned_declared_iff hfine hloads hversion hunique

/-- The exception of a result. -/
def raised : Except ParseError Value → Option ParseError
  | .error error => some error
  | .ok _ => none

theorem eq_error_of_raised {result : Except ParseError Value} {error : ParseError}
    (h : raised result = some error) : result = .error error := by
  cases result with
  | error raised => exact congrArg _ (Option.some.inj h)
  | ok value => cases h

/-- A list as the `product_version`. -/
def listedVersion : List Char := "\x7b\"product_version\":[]\x7d".toList

theorem listed_version_raises_typeError :
    raised (parseCompositeDefinitionJson ⟨1000, 990, 990⟩ listedVersion) = some .typeError ∧
      ¬ FailsAsDeclared ⟨1000, 990, 990⟩ listedVersion := by
  have hraised : raised (parseCompositeDefinitionJson ⟨1000, 990, 990⟩ listedVersion) =
      some .typeError := by decide +kernel
  refine ⟨hraised, ?_⟩
  intro hfails
  obtain ⟨_, hmessage⟩ := hfails _ (eq_error_of_raised hraised)
  cases hmessage

end LotusManage.Composites
