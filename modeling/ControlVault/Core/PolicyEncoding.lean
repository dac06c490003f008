import ControlVault.Core.Policy
import ControlVault.Foundation.SelfDelimiting

namespace ControlVault.Core

open Foundation List

/-!
# What a policy digest covers

The digest of a policy is the hash of its encoding, so what the encoding leaves
out is not covered by any approval that quotes the digest.  Every part of the
encoding delimits its value: heads, because the low five bits of the first byte
say how many bytes of length follow; texts and arrays, because their heads say
how long they are; maps, because their keys are fixed and so is the order they
are sorted into.

What is left out are the rules' ways to select a credential and the spelling of
their relying parties, up to trimming and letter case.
-/

namespace Cbor

/-! ## Heads -/

/-- The low five bits of a head. -/
def lengthTag (length : Nat) : Nat :=
  if length <= 23 then length
  else if length <= 0xff then 24
  else if length <= 0xffff then 25
  else if length <= 0xffffffff then 26
  else 27

/-- How many bytes follow a head with these low bits. -/
def tagWidth (tag : Nat) : Nat :=
  if tag <= 23 then 0
  else if tag = 24 then 1
  else if tag = 25 then 2
  else if tag = 26 then 4
  else 8

theorem lengthTag_lt (length : Nat) : lengthTag length < 32 := by
  unfold lengthTag
  split_ifs <;> omega

variable (majorType : UInt8)

theorem encodeTypeAndLength_eq (length : Nat) :
    encodeTypeAndLength majorType length = (majorType <<< 5 ||| UInt8.ofNat (lengthTag length)) ::
        (littleEndian (tagWidth (lengthTag length)) length).reverse := by
  unfold encodeTypeAndLength lengthTag
  split_ifs with small byte short word
  · rw [tagWidth, if_pos small]
    rfl
  all_goals simp [tagWidth, littleEndian, Nat.div_div_eq_div_mul]

/-- The number that follows a head is small enough for its width. -/
theorem length_lt_width {length : Nat} (bounded : length < 2 ^ 64) (long : 23 < lengthTag length) :
    length < 256 ^ tagWidth (lengthTag length) := by
  unfold lengthTag at long ⊢
  split_ifs at long ⊢ with small byte short word
  · omega
  · exact Nat.lt_succ_of_le byte
  · exact Nat.lt_succ_of_le short
  · exact Nat.lt_succ_of_le word
  · exact bounded

/-- The major type does not reach into the low five bits. -/
theorem tag_of_head {tag : Nat} (small : tag < 32) :
    (majorType <<< 5 ||| UInt8.ofNat tag).toNat % 2 ^ 5 = tag := by
  rw [UInt8.toNat_or, Nat.or_mod_two_pow, UInt8.toNat_shiftLeft, UInt8.toNat_ofNat',
    Nat.shiftLeft_eq]
  have upper : majorType.toNat * 2 ^ (UInt8.toNat 5 % 8) % 2 ^ 8 % 2 ^ 5 = 0 := by
    have five : UInt8.toNat 5 % 8 = 5 := rfl
    rw [five]
    omega
  have lower : tag % 2 ^ 8 % 2 ^ 5 = tag := by omega
  rw [upper, lower, Nat.zero_or]

theorem delimits_encodeTypeAndLength :
    Delimits (fun length => length < 2 ^ 64) (encodeTypeAndLength majorType) Eq := by
  intro first second firstBounded secondBounded rest otherRest equal
  rw [encodeTypeAndLength_eq, encodeTypeAndLength_eq, cons_append, cons_append, cons.injEq] at equal
  rcases equal with ⟨heads, bodies⟩
  have tags : lengthTag first = lengthTag second := by
    rw [<- tag_of_head majorType (lengthTag_lt first), heads,
      tag_of_head majorType (lengthTag_lt second)]
  have widths : (littleEndian (tagWidth (lengthTag first)) first).reverse.length =
      (littleEndian (tagWidth (lengthTag second)) second).reverse.length := by
    rw [length_reverse, length_reverse, length_littleEndian, length_littleEndian, tags]
  rcases append_inj bodies widths with ⟨numbers, tails⟩
  refine ⟨?_, tails⟩
  by_cases long : 23 < lengthTag first
  · -- the number is what the bytes after the head say
    have firstRead := ofLittleEndian_littleEndian (length_lt_width firstBounded long)
    have secondRead := ofLittleEndian_littleEndian (length_lt_width secondBounded (tags ▸ long))
    rw [<- firstRead, <- secondRead, reverse_injective numbers]
  · -- the number is the tag itself
    unfold lengthTag at tags long
    split_ifs at tags long <;> omega

/-! ## Items -/

theorem delimits_encodeUint : Delimits (fun value => value < 2 ^ 64) encodeUint Eq :=
  delimits_encodeTypeAndLength 0

theorem delimits_encodeBool : Delimits (fun _ => True) encodeBool Eq := by
  intro first second _ _ rest otherRest equal
  cases first <;> cases second <;> simp_all [encodeBool]

theorem delimits_counted :
    Delimits (fun data : Bytes => data.length < 2 ^ 64)
      (fun data => encodeTypeAndLength majorType data.length ++ data) Eq := by
  have heads : Delimits (fun data : Bytes => data.length < 2 ^ 64)
      (fun data => encodeTypeAndLength majorType data.length)
      (fun first second => first.length = second.length) :=
    (delimits_encodeTypeAndLength majorType).comap length (fun _ bounded => bounded)
  apply heads.andThen
  intro first second _ _ lengths rest otherRest equal
  exact append_inj equal lengths

/-- The bytes of a text can be counted in 64 bits. -/
def SizedText (text : Text) : Prop := text.utf8.length < 2 ^ 64

theorem delimits_encodeText : Delimits SizedText encodeText Eq :=
  ((delimits_counted 3).comap Text.utf8 (fun _ sized => sized)).imp
    (fun _ _ equal => Text.utf8_injective equal)

theorem delimits_encodeByteString :
    Delimits (fun data : Bytes => data.length < 2 ^ 64) encodeByteString Eq :=
  delimits_counted 2

section Items

variable {α : Type} {valid : α -> Prop} {encode : α -> Bytes} {same : α -> α -> Prop}

/-- The items can be counted in 64 bits, and each of them is valid. -/
def SizedList (valid : α -> Prop) (items : List α) : Prop :=
  items.length < 2 ^ 64 /\ ∀ item ∈ items, valid item

theorem encodeArray_map (items : List α) :
    encodeArray (items.map encode) =
      encodeTypeAndLength 4 items.length ++ items.flatMap encode := by
  rw [encodeArray, length_map, flatMap_def]

theorem delimits_encodeArray (delimits : Delimits valid encode same) :
    Delimits (SizedList valid) (fun items => encodeArray (items.map encode))
      (List.Forall₂ same) := by
  have heads : Delimits (SizedList valid) (fun items => encodeTypeAndLength 4 items.length)
      (fun first second => first.length = second.length) :=
    (delimits_encodeTypeAndLength 4).comap length (fun _ sized => sized.1)
  simp only [encodeArray_map]
  apply heads.andThen
  intro first second firstSized secondSized lengths rest otherRest equal
  exact delimits.flatMap firstSized.2 secondSized.2 lengths equal

/-! ## Maps -/

/-- One key of a map: how its value is written, and what that tells about the whole. -/
structure MapField (α : Type) where
  key : Text
  encode : α -> Bytes
  same : α -> α -> Prop

def MapField.entry (value : α) (field : MapField α) : Text × Bytes :=
  (field.key, field.encode value)

/-- The order of a map's entries depends on its keys alone. -/
theorem insertionSort_entries (fields : List (MapField α)) (value : α) :
    (fields.map (MapField.entry value)).insertionSort keyLe =
      (fields.insertionSort (fun first second => keyLe (first.key, []) (second.key, []))).map
        (MapField.entry value) := by
  symm
  apply map_insertionSort
  intro first _ second _
  rfl

theorem encodeMapSorted_entries (fields : List (MapField α)) (value : α) :
    encodeMapSorted (fields.map (MapField.entry value)) = encodeTypeAndLength 5 fields.length ++
        (fields.insertionSort (fun first second => keyLe (first.key, []) (second.key, []))).flatMap
          (fun field => encodeText field.key ++ field.encode value) := by
  rw [encodeMapSorted, insertionSort_entries, length_map, flatMap_map]
  rfl

theorem delimits_encodeMapSorted (fields : List (MapField α))
    (delimit : ∀ field ∈ fields, Delimits valid field.encode field.same) :
    Delimits valid (fun value => encodeMapSorted (fields.map (MapField.entry value)))
      (fun first second => ∀ field ∈ fields, field.same first second) := by
  simp only [encodeMapSorted_entries]
  intro first second firstValid secondValid rest otherRest equal
  rw [append_assoc, append_assoc, append_cancel_left_eq] at equal
  have entry (field : MapField α) (mem : field ∈
        fields.insertionSort (fun first second => keyLe (first.key, []) (second.key, []))) :
      Delimits valid (fun value => encodeText field.key ++ field.encode value) field.same := by
    intro left right leftValid rightValid leftRest rightRest same
    rw [append_assoc, append_assoc, append_cancel_left_eq] at same
    exact delimit field ((mem_insertionSort _).mp mem) left right leftValid rightValid
      leftRest rightRest same
  rcases delimits_parts _ _ _ entry first second firstValid secondValid rest otherRest equal with
    ⟨all, tails⟩
  exact ⟨fun field mem => all field ((mem_insertionSort _).mpr mem), tails⟩

end Items

/-! ## Rules -/

theorem label_injective : Function.Injective AgentAuthorization.label := by
  intro first second
  cases first <;> cases second <;> decide

theorem evidenceLabel_injective : Function.Injective EvidenceSource.label := by
  intro first second
  cases first <;> cases second <;> decide

/-- An enumeration that is written as the text of its label. -/
theorem delimits_label {α : Type} {label : α -> Text} (injective : Function.Injective label)
    (sized : ∀ value, SizedText (label value)) :
    Delimits (fun _ => True) (fun value => encodeText (label value)) Eq :=
  (delimits_encodeText.comap label (fun value _ => sized value)).imp
    (fun _ _ equal => injective equal)

theorem delimits_authorization :
    Delimits (fun _ => True) (fun value : AgentAuthorization => encodeText value.label) Eq := by
  apply delimits_label label_injective
  intro value
  cases value <;> (unfold SizedText; decide)

theorem delimits_evidence :
    Delimits (fun _ => True) (fun value : EvidenceSource => encodeText value.label) Eq := by
  apply delimits_label evidenceLabel_injective
  intro value
  cases value <;> (unfold SizedText; decide)

def ceremonyPolicyFields : List (MapField AgentCeremonyPolicy) :=
  [⟨"authorization", fun policy => encodeText policy.authorization.label,
      fun first second => first.authorization = second.authorization⟩,
    ⟨"user_presence", fun policy => encodeText policy.userPresence.label,
      fun first second => first.userPresence = second.userPresence⟩,
    ⟨"user_verification", fun policy => encodeText policy.userVerification.label,
      fun first second => first.userVerification = second.userVerification⟩]

theorem delimits_encodeCeremonyPolicy : Delimits (fun _ => True) encodeCeremonyPolicy Eq := by
  have fields : ∀ field ∈ ceremonyPolicyFields,
      Delimits (fun _ => True) field.encode field.same := by
    simp only [ceremonyPolicyFields, forall_mem_cons]
    exact ⟨delimits_authorization.comap _ (fun _ _ => trivial),
      delimits_evidence.comap _ (fun _ _ => trivial),
      delimits_evidence.comap _ (fun _ _ => trivial), fun _ mem => nomatch mem⟩
  apply (delimits_encodeMapSorted ceremonyPolicyFields fields).imp
  intro first second same
  simp only [ceremonyPolicyFields, forall_mem_cons] at same
  cases first
  simp_all

end Cbor

/-- Rules that say the same: what selects a credential may differ. -/
def AgentRpRule.Agree (first second : AgentRpRule) : Prop :=
  first.rpId.canonical = second.rpId.canonical /\ first.register = second.register /\
    first.authenticate = second.authenticate

/-- Policies with the same data, up to what their rules do not say. -/
def Policy.Agree (first second : Policy) : Prop :=
  { first with rules := [] } = { second with rules := [] } /\
    List.Forall₂ AgentRpRule.Agree first.rules second.rules

namespace Cbor

def ruleFields : List (MapField AgentRpRule) :=
  [⟨"rp_id", fun rule => encodeText rule.rpId.canonical,
      fun first second => first.rpId.canonical = second.rpId.canonical⟩,
    ⟨"register", fun rule => encodeCeremonyPolicy rule.register,
      fun first second => first.register = second.register⟩,
    ⟨"authenticate", fun rule => encodeCeremonyPolicy rule.authenticate,
      fun first second => first.authenticate = second.authenticate⟩]

theorem delimits_encodeRule :
    Delimits (fun rule => SizedText rule.rpId.canonical) encodeRule AgentRpRule.Agree := by
  have fields : ∀ field ∈ ruleFields,
      Delimits (fun rule => SizedText rule.rpId.canonical) field.encode field.same := by
    simp only [ruleFields, forall_mem_cons]
    exact ⟨delimits_encodeText.comap _ (fun _ sized => sized),
      delimits_encodeCeremonyPolicy.comap _ (fun _ _ => trivial),
      delimits_encodeCeremonyPolicy.comap _ (fun _ _ => trivial), fun _ mem => nomatch mem⟩
  apply (delimits_encodeMapSorted ruleFields fields).imp
  intro first second same
  simp only [ruleFields, forall_mem_cons] at same
  exact ⟨same.1, same.2.1, same.2.2.1⟩

theorem delimits_encodeRules :
    Delimits (SizedList (fun rule : AgentRpRule => SizedText rule.rpId.canonical)) encodeRules
      (List.Forall₂ AgentRpRule.Agree) :=
  delimits_encodeArray delimits_encodeRule

theorem delimits_encodeTextArray : Delimits (SizedList SizedText) encodeTextArray Eq :=
  (delimits_encodeArray delimits_encodeText).imp (fun _ _ same => forall₂_eq_eq_eq ▸ same)

end Cbor

/-! ## Policies -/

namespace Policy

open Cbor

/-- The ranges of the source's number types, and lengths of 64 bits. -/
structure Sized (policy : Policy) : Prop where
  numbers : policy.version < 2 ^ 64 /\ policy.maxConcurrentGrants < 2 ^ 64 /\
    policy.maxGrantTtl < 2 ^ 64 /\ policy.maxSessionTtl < 2 ^ 64
  texts : ∀ text ∈ [policy.profileId, policy.mode, policy.principalUser, policy.device.name,
    policy.device.phys, policy.device.uniq, policy.startUrl, policy.storageBackend,
    policy.storagePath, policy.browserUser, policy.browserRuntimeRoot], SizedText text
  lists : ∀ texts ∈ [policy.normalizedRpIds, policy.credentialRefs, policy.allowedActions,
    policy.browserArgv], SizedList SizedText texts
  rules : SizedList (fun rule : AgentRpRule => SizedText rule.rpId.canonical) policy.rules

section Fields

/-- A field that is written with an encoding of its own type. -/
def field {α : Type} (key : Text) (encode : α -> Bytes) (part : Policy -> α)
    (same : α -> α -> Prop) : MapField Policy where
  key
  encode := fun policy => encode (part policy)
  same := fun first second => same (part first) (part second)

def numberField (key : Text) (part : Policy -> Nat) : MapField Policy :=
  field key encodeUint part Eq

def textField (key : Text) (part : Policy -> Text) : MapField Policy :=
  field key encodeText part Eq

def textsField (key : Text) (part : Policy -> List Text) : MapField Policy :=
  field key encodeTextArray part Eq

def flagField (key : Text) (part : Policy -> Bool) : MapField Policy :=
  field key encodeBool part Eq

theorem delimits_numberField (sized : ∀ policy : Policy, policy.Sized -> part policy < 2 ^ 64) :
    Delimits Sized (numberField key part).encode (numberField key part).same :=
  delimits_encodeUint.comap part sized

theorem delimits_textField (sized : ∀ policy : Policy, policy.Sized -> SizedText (part policy)) :
    Delimits Sized (textField key part).encode (textField key part).same :=
  delimits_encodeText.comap part sized

theorem delimits_textsField
    (sized : ∀ policy : Policy, policy.Sized -> SizedList SizedText (part policy)) :
    Delimits Sized (textsField key part).encode (textsField key part).same :=
  delimits_encodeTextArray.comap part sized

theorem delimits_flagField :
    Delimits Sized (flagField key part).encode (flagField key part).same :=
  delimits_encodeBool.comap part (fun _ _ => trivial)

end Fields

def fields : List (MapField Policy) :=
  [numberField "version" version, textField "profile_id" profileId, textField "mode" mode,
    textsField "normalized_rp_ids" normalizedRpIds,
    textsField "credential_refs" credentialRefs,
    textsField "allowed_actions" allowedActions,
    flagField "registration_allowed" registrationAllowed,
    flagField "require_uv" requireUv,
    numberField "max_concurrent_grants" maxConcurrentGrants,
    numberField "max_grant_ttl" maxGrantTtl,
    numberField "max_session_ttl" maxSessionTtl,
    textField "principal_user" principalUser,
    textField "device_name" (fun policy => policy.device.name),
    textField "device_phys" (fun policy => policy.device.phys),
    textField "device_uniq" (fun policy => policy.device.uniq),
    numberField "device_vendor_id" (fun policy => policy.device.vendorId.toNat),
    numberField "device_product_id" (fun policy => policy.device.productId.toNat),
    textField "start_url" startUrl,
    textsField "browser_argv" browserArgv,
    textField "storage_backend" storageBackend,
    textField "storage_path" storagePath,
    textField "browser_user" browserUser,
    textField "browser_runtime_root" browserRuntimeRoot,
    field "rules" encodeRules rules (List.Forall₂ AgentRpRule.Agree)]

theorem delimits_fields : ∀ field ∈ fields, Delimits Sized field.encode field.same := by
  have sixteen (number : BitVec 16) : number.toNat < 2 ^ 64 :=
    number.isLt.trans (by decide)
  have text {part : Policy -> Text}
      (listed : ∀ policy : Policy, part policy ∈ [policy.profileId, policy.mode,
        policy.principalUser, policy.device.name, policy.device.phys, policy.device.uniq,
        policy.startUrl, policy.storageBackend, policy.storagePath, policy.browserUser,
        policy.browserRuntimeRoot]) (policy : Policy) (sized : policy.Sized) :
      SizedText (part policy) :=
    sized.texts _ (listed policy)
  have texts {part : Policy -> List Text}
      (listed : ∀ policy : Policy, part policy ∈ [policy.normalizedRpIds, policy.credentialRefs,
        policy.allowedActions, policy.browserArgv]) (policy : Policy) (sized : policy.Sized) :
      SizedList SizedText (part policy) :=
    sized.lists _ (listed policy)
  simp only [fields, forall_mem_cons]
  refine ⟨delimits_numberField (fun _ sized => sized.numbers.1),
    delimits_textField (text (fun _ => by simp)),
    delimits_textField (text (fun _ => by simp)),
    delimits_textsField (texts (fun _ => by simp)),
    delimits_textsField (texts (fun _ => by simp)),
    delimits_textsField (texts (fun _ => by simp)),
    delimits_flagField, delimits_flagField,
    delimits_numberField (fun _ sized => sized.numbers.2.1),
    delimits_numberField (fun _ sized => sized.numbers.2.2.1),
    delimits_numberField (fun _ sized => sized.numbers.2.2.2),
    delimits_textField (text (fun _ => by simp)),
    delimits_textField (text (fun _ => by simp)),
    delimits_textField (text (fun _ => by simp)),
    delimits_textField (text (fun _ => by simp)),
    delimits_numberField (fun _ _ => sixteen _),
    delimits_numberField (fun _ _ => sixteen _),
    delimits_textField (text (fun _ => by simp)),
    delimits_textsField (texts (fun _ => by simp)),
    delimits_textField (text (fun _ => by simp)),
    delimits_textField (text (fun _ => by simp)),
    delimits_textField (text (fun _ => by simp)),
    delimits_textField (text (fun _ => by simp)),
    delimits_encodeRules.comap rules (fun _ sized => sized.rules),
    fun _ mem => nomatch mem⟩

/-- Fields that are all the same are the fields of policies that agree. -/
theorem agree_of_fields
    (same : ∀ field ∈ fields, field.same first second) : first.Agree second := by
  simp only [fields, forall_mem_cons, numberField, field, BitVec.toNat_inj] at same
  rcases first with ⟨_, _, _, _, _, _, _, _, _, _, _, _, ⟨_, _, _, _, _⟩, _, _, _, _, _, _, _⟩
  rcases second with ⟨_, _, _, _, _, _, _, _, _, _, _, _, ⟨_, _, _, _, _⟩, _, _, _, _, _, _, _⟩
  simp only [Policy.Agree, Policy.mk.injEq, DeviceIdentity.mk.injEq]
  tauto

theorem agree_of_encoding {first second : Policy} (firstSized : first.Sized)
    (secondSized : second.Sized)
    (equal : first.toDeterministicCbor = second.toDeterministicCbor) : first.Agree second := by
  exact agree_of_fields
    ((delimits_encodeMapSorted fields delimits_fields).same_of_eq firstSized secondSized equal)

end Policy

/-! ## Generations -/

namespace Cbor

/-- The entry of one profile. -/
def SizedEntry (entry : Text × Bytes) : Prop :=
  SizedText entry.1 /\ entry.2.length < 2 ^ 64

def encodeEntry (entry : Text × Bytes) : Bytes :=
  encodeArray [encodeText entry.1, encodeByteString entry.2]

theorem delimits_encodeEntry : Delimits SizedEntry encodeEntry Eq := by
  intro first second firstSized secondSized rest otherRest equal
  simp only [encodeEntry, encodeArray, length_cons, flatten_cons, append_assoc,
    append_cancel_left_eq] at equal
  rcases delimits_encodeText _ _ firstSized.1 secondSized.1 _ _ equal with ⟨names, tails⟩
  rcases delimits_encodeByteString _ _ firstSized.2 secondSized.2 _ _ tails with ⟨digests, ends⟩
  exact ⟨Prod.ext names digests, ends⟩

variable (entries : List (Text × Bytes))

def sortByName : List (Text × Bytes) :=
  entries.insertionSort (fun first second => first.1 <= second.1)

theorem sortByName_perm : (sortByName entries).Perm entries :=
  perm_insertionSort _ _

theorem sortByName_pairwise :
    (sortByName entries).Pairwise (fun first second => first.1 <= second.1) := by
  exact pairwise_insertionSort _ entries

/-- With distinct names there is only one order. -/
theorem sortByName_eq_of_perm {first : List (Text × Bytes)}
    (distinct : (first.map Prod.fst).Nodup) (perm : first.Perm second) :
    sortByName first = sortByName second := by
  have sorted : (sortByName first).Perm (sortByName second) :=
    calc sortByName first
      _ ~ first := sortByName_perm first
      _ ~ second := perm
      _ ~ sortByName second := (sortByName_perm second).symm
  apply List.Perm.eq_of_pairwise _ (sortByName_pairwise first) (sortByName_pairwise second) sorted
  intro left right leftMember rightMember le ge
  have leftIn := (sortByName_perm first).subset leftMember
  have rightIn := perm.symm.subset ((sortByName_perm second).subset rightMember)
  exact inj_on_of_nodup_map distinct leftIn rightIn (le_antisymm le ge)

theorem encodeGenerationDigest_eq :
    encodeGenerationDigest entries = encodeArray ((sortByName entries).map encodeEntry) :=
  rfl

theorem sized_sortByName {entries : List (Text × Bytes)} (sized : SizedList SizedEntry entries) :
    SizedList SizedEntry (sortByName entries) := by
  constructor
  · rw [(sortByName_perm entries).length_eq]
    exact sized.1
  · intro entry mem
    exact sized.2 entry ((sortByName_perm entries).subset mem)

theorem perm_of_encodeGenerationDigest {first second : List (Text × Bytes)}
    (firstSized : SizedList SizedEntry first) (secondSized : SizedList SizedEntry second)
    (equal : encodeGenerationDigest first = encodeGenerationDigest second) :
    first.Perm second := by
  have same := (delimits_encodeArray delimits_encodeEntry).same_of_eq
    (sized_sortByName firstSized) (sized_sortByName secondSized) equal
  rw [forall₂_eq_eq_eq] at same
  exact (sortByName_perm first).symm.trans (same ▸ sortByName_perm second)

end Cbor

/-- Equal encodings come from policies that agree, and for distinct names, from generations
that are the same up to order. -/
theorem policyEncodings_injective :
    (∀ first second : Policy, first.Sized -> second.Sized ->
      first.toDeterministicCbor = second.toDeterministicCbor -> first.Agree second) /\
      ∀ first second : List (Text × Bytes),
        Cbor.SizedList Cbor.SizedEntry first -> Cbor.SizedList Cbor.SizedEntry second ->
        (first.map Prod.fst).Nodup -> (second.map Prod.fst).Nodup ->
        (Cbor.encodeGenerationDigest first = Cbor.encodeGenerationDigest second <->
          first.Perm second) := by
  constructor
  · intro first second firstSized secondSized equal
    exact Policy.agree_of_encoding firstSized secondSized equal
  · intro first second firstSized secondSized firstDistinct _
    constructor
    · intro equal
      exact Cbor.perm_of_encodeGenerationDigest firstSized secondSized equal
    · intro perm
      rw [Cbor.encodeGenerationDigest_eq, Cbor.encodeGenerationDigest_eq,
        Cbor.sortByName_eq_of_perm firstDistinct perm]

/-- A policy with one rule, under a given spelling of its relying party. -/
def spelledPolicy (rpId : Text) (selection : Option CredentialSelection) : Policy where
  version := currentPolicyVersion
  profileId := "agent"
  mode := AgentMode.isolated.label
  normalizedRpIds := ["example.com"]
  credentialRefs := []
  allowedActions := ["authenticate"]
  registrationAllowed := false
  requireUv := true
  maxConcurrentGrants := 5
  maxGrantTtl := 300
  maxSessionTtl := 3600
  principalUser := "agent"
  device := ⟨"device", [], [], 1, 2⟩
  startUrl := []
  browserArgv := []
  storageBackend := "local"
  storagePath := "/tmp"
  browserUser := []
  browserRuntimeRoot := []
  rules := [⟨rpId, .supervised, .autonomous, selection⟩]

theorem spelledPolicy_sized {rpId : Text} (selection : Option CredentialSelection)
    (sized : Cbor.SizedText rpId.canonical) : (spelledPolicy rpId selection).Sized where
  numbers := by
    dsimp only [spelledPolicy]
    decide
  texts := by
    dsimp only [spelledPolicy, Cbor.SizedText]
    decide
  lists := by
    dsimp only [spelledPolicy, Cbor.SizedList, Cbor.SizedText]
    decide
  rules := ⟨Nat.one_lt_two_pow (by decide), fun _ mem => mem_singleton.mp mem ▸ sized⟩

/-- Two spellings of one policy, and two orders of one generation. -/
theorem spellings_agree :
    (spelledPolicy " Example.com" none).toDeterministicCbor =
        (spelledPolicy "example.com" (some .newest)).toDeterministicCbor /\
      (spelledPolicy " Example.com" none).Agree (spelledPolicy "example.com" (some .newest)) /\
      Cbor.encodeGenerationDigest [("b", [1]), ("a", [2])] =
        Cbor.encodeGenerationDigest [("a", [2]), ("b", [1])] := by
  have equal : (spelledPolicy " Example.com" none).toDeterministicCbor =
      (spelledPolicy "example.com" (some .newest)).toDeterministicCbor := by
    decide +kernel
  refine ⟨equal, ?_, ?_⟩
  · apply policyEncodings_injective.1 _ _ _ _ equal
    · apply spelledPolicy_sized
      unfold Cbor.SizedText
      decide
    · apply spelledPolicy_sized
      unfold Cbor.SizedText
      decide
  · apply (policyEncodings_injective.2 _ _ _ _ (by decide) (by decide)).mpr
    · exact List.Perm.swap _ _ _
    · unfold Cbor.SizedList Cbor.SizedEntry Cbor.SizedText
      decide
    · unfold Cbor.SizedList Cbor.SizedEntry Cbor.SizedText
      decide

end ControlVault.Core
