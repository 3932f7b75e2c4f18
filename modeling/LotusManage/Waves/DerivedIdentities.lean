import LotusManage.Lib.LengthPrefix
import LotusManage.Lib.Numerals
import LotusManage.Waves.Models

/-!
# What a derived identity determines

`derived_identity` of `src/core/common/derived_identity.py` hashes its components as a
length-prefixed sequence of bytes and puts the namespace in front of the digest.

* `hashedBytes` is the loop of the code; `hashedBytes_eq_encode` makes it an instance of the
  length-prefixed encodings, so the bytes determine the components, whatever these hold.
* The namespace is no part of what is hashed.  It stands in the identity itself, in front of an
  underscore and a digest of fixed length, and can be read back from there.

A component is a text that UTF-8 can encode; for any other `encode` raises and nothing is hashed.
-/

namespace LotusManage.Waves

/-! ## The hashed bytes -/

/-- `text.encode("utf-8")`; for an ASCII text also `text.encode("ascii")`. -/
def utf8 (text : String) : List UInt8 := text.toByteArray.data.toList

/-- The bytes that `derived_identity(prefix, *components)` hashes, update after update. -/
def hashedBytes (_identityPrefix : String) (components : List String) : List UInt8 :=
  components.foldl (fun digest component =>
    let encoded := utf8 component
    digest ++ utf8 (toString encoded.length) ++ utf8 ":" ++ encoded) []

theorem utf8_injective : Function.Injective utf8 := by
  intro text other h
  exact String.toByteArray_inj.mp (ByteArray.ext (Array.toList_inj.mp h))

theorem colon_notMem_header (n : Nat) : (58 : UInt8) ∉ utf8 (toString n) := by
  rw [Nat.toString_eq_ofList_toDigits, utf8, String.toByteArray_ofList, List.utf8Encode,
    List.toList_data_toByteArray, List.mem_flatMap]
  rintro ⟨c, hmem, hbyte⟩
  have hdigit := Nat.isDigit_of_mem_toDigits (by decide) (by decide) hmem
  simp only [Char.isDigit, Bool.and_eq_true, decide_eq_true_eq] at hdigit
  have hsmall : c.utf8Size = 1 := if_pos (UInt32.le_trans hdigit.2 (by decide))
  rw [String.utf8EncodeChar_eq_singleton hsmall, List.mem_singleton] at hbyte
  have hcode : c.val.toNat % 256 = 58 := (congrArg UInt8.toNat hbyte).symm
  have hlow : 48 ≤ c.val.toNat := UInt32.le_iff_toNat_le.mp hdigit.1
  have hhigh : c.val.toNat ≤ 57 := UInt32.le_iff_toNat_le.mp hdigit.2
  omega

theorem hashedBytes_eq_encode (identityPrefix : String) (components : List String) :
    hashedBytes identityPrefix components =
      LengthPrefix.encode (fun n => utf8 (toString n)) 58 (components.map utf8) := by
  have hloop : ∀ digest : List UInt8, components.foldl (fun digest component =>
      let encoded := utf8 component
      digest ++ utf8 (toString encoded.length) ++ utf8 ":" ++ encoded) digest =
      digest ++ LengthPrefix.encode (fun n => utf8 (toString n)) 58 (components.map utf8) := by
    induction components with
    | nil => intro digest; exact (List.append_nil digest).symm
    | cons component components ih =>
      intro digest
      rw [List.foldl_cons, ih, List.map_cons, LengthPrefix.encode_cons, LengthPrefix.frame]
      simp only [List.append_assoc, List.cons_append]
      rfl
  exact hloop []

/-! ## The identities -/

theorem hashedBytes_eq_iff (p q : String) (components others : List String) :
    hashedBytes p components = hashedBytes q others ↔ components = others := by
  rw [hashedBytes_eq_encode, hashedBytes_eq_encode]
  refine ⟨fun h => ?_, fun h => by rw [h]⟩
  have hheader : Function.Injective fun n : Nat => utf8 (toString n) :=
    fun m n hmn => Numerals.toString_injective (utf8_injective hmn)
  exact utf8_injective.list_map (LengthPrefix.encode_injective hheader colon_notMem_header h)

/-- The digest in an identity, `digest.hexdigest()[:32]`. -/
def identityDigest (sha256Hex : String → String) (components : List String) : List Char :=
  (sha256Hex (String.join (components.map identityComponent))).toList.take 32

/-- SHA-256 on the bytes of two lists: the digests are long enough to be cut to 32 digits, and the
cut digests do not collide. -/
structure DigestsApart (sha256Hex : String → String) (components others : List String) : Prop where
  left : (identityDigest sha256Hex components).length = 32
  right : (identityDigest sha256Hex others).length = 32
  apart : ∀ p q, identityDigest sha256Hex components = identityDigest sha256Hex others →
    hashedBytes p components = hashedBytes q others

theorem derivedIdentity_inj {sha256Hex : String → String} {p q : String}
    {components others : List String} (hleft : (identityDigest sha256Hex components).length = 32)
    (hright : (identityDigest sha256Hex others).length = 32)
    (h : derivedIdentity sha256Hex p components = derivedIdentity sha256Hex q others) :
    p = q ∧ identityDigest sha256Hex components = identityDigest sha256Hex others := by
  have hdigests : (String.ofList (identityDigest sha256Hex components)).toList.length =
      (String.ofList (identityDigest sha256Hex others)).toList.length := by
    rw [String.toList_ofList, String.toList_ofList, hleft, hright]
  obtain ⟨hnamespace, hdigest⟩ := Text.append_inj_right h hdigests
  exact ⟨(Text.append_inj_right hnamespace rfl).1, String.ofList_injective hdigest⟩

/-- Derived identities separate their components: whatever the namespaces, the bytes that are
hashed are the same exactly when the lists are the same, component by component; and as far as
SHA-256 does not collide in its first 32 digits, the identities are the same exactly when the
namespaces and the lists are. -/
theorem derived_identity_separates (sha256Hex : String → String) (p q : String)
    (components others : List String) :
    (hashedBytes p components = hashedBytes q others ↔ components = others) ∧
      (DigestsApart sha256Hex components others →
        (derivedIdentity sha256Hex p components = derivedIdentity sha256Hex q others ↔
          p = q ∧ components = others)) := by
  refine ⟨hashedBytes_eq_iff p q components others, fun hsha => ⟨fun h => ?_, ?_⟩⟩
  · obtain ⟨hnamespace, hdigest⟩ := derivedIdentity_inj hsha.left hsha.right h
    exact ⟨hnamespace, (hashedBytes_eq_iff p q components others).mp (hsha.apart p q hdigest)⟩
  · rintro ⟨rfl, rfl⟩
    rfl

/-- SHA-256 on the bytes of `("a", "b_c")` and of `("a_b", "c")`. -/
def underscoreSha256Hex (text : String) : String :=
  if text = "1:a3:b_c" then "53bf52824739882a331594f917531d97265d9b49ba6ed1752ad9f6f3f3acad18"
  else "aa8fa53e994f0dd4eb3b3fbad2c2776dec4cf0c88ce80d02857b90f4361df57d"

/-- Components that give one text when an underscore joins them have two identities. -/
theorem derived_identity_separates_underscores :
    hashedBytes "ms" ["a", "b_c"] ≠ hashedBytes "ms" ["a_b", "c"] ∧
      derivedIdentity underscoreSha256Hex "ms" ["a", "b_c"] ≠
        derivedIdentity underscoreSha256Hex "ms" ["a_b", "c"] := by
  obtain ⟨hbytes, hidentity⟩ :=
    derived_identity_separates underscoreSha256Hex "ms" "ms" ["a", "b_c"] ["a_b", "c"]
  have hsha : DigestsApart underscoreSha256Hex ["a", "b_c"] ["a_b", "c"] :=
    ⟨by decide +kernel, by decide +kernel, fun _ _ h => absurd h (by decide +kernel)⟩
  exact ⟨fun h => absurd (hbytes.mp h) (by decide),
    fun h => absurd ((hidentity hsha).mp h).2 (by decide)⟩

/-- The correlation of a wave creation and that of its simulation hash the same bytes under two
namespaces. -/
theorem namespaces_not_hashed :
    ¬ ∀ (p q : String) (components others : List String),
      hashedBytes p components = hashedBytes q others → p = q ∧ components = others := by
  intro h
  exact absurd (h "corr_wave_create" "corr_wave_async" ["tenant-sg", "key-1"]
    ["tenant-sg", "key-1"] rfl).1 (by decide)

end LotusManage.Waves
