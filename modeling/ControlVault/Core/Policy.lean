import ControlVault.Core.Config
import ControlVault.Foundation.SortedSet

namespace ControlVault.Core

open Foundation

/-!
# Compiled policies and their digests

A profile is compiled to a `Policy`: the same data with sorted, deduplicated
lists.  Its digest is the hash of a deterministic CBOR encoding, a map whose
keys are sorted by length and then by bytes.  Requests and approvals carry the
digest of the whole generation, so a changed configuration makes them stale.
-/

namespace Cbor

/-- The head of a data item: three bits of major type, then the shortest length. -/
def encodeTypeAndLength (majorType : UInt8) (length : Nat) : Bytes :=
  let mt := majorType <<< 5
  if length <= 23 then [mt ||| UInt8.ofNat length]
  else if length <= 0xff then [mt ||| 24, UInt8.ofNat length]
  else if length <= 0xffff then [mt ||| 25, UInt8.ofNat (length / 2 ^ 8), UInt8.ofNat length]
  else if length <= 0xffffffff then
    [mt ||| 26, UInt8.ofNat (length / 2 ^ 24), UInt8.ofNat (length / 2 ^ 16),
      UInt8.ofNat (length / 2 ^ 8), UInt8.ofNat length]
  else
    [mt ||| 27, UInt8.ofNat (length / 2 ^ 56), UInt8.ofNat (length / 2 ^ 48),
      UInt8.ofNat (length / 2 ^ 40), UInt8.ofNat (length / 2 ^ 32), UInt8.ofNat (length / 2 ^ 24),
      UInt8.ofNat (length / 2 ^ 16), UInt8.ofNat (length / 2 ^ 8), UInt8.ofNat length]

def encodeUint (value : Nat) : Bytes :=
  encodeTypeAndLength 0 value

def encodeBool (value : Bool) : Bytes :=
  if value then [0xf5] else [0xf4]

def encodeText (text : Text) : Bytes :=
  encodeTypeAndLength 3 text.utf8.length ++ text.utf8

def encodeByteString (data : Bytes) : Bytes :=
  encodeTypeAndLength 2 data.length ++ data

def encodeArray (items : List Bytes) : Bytes :=
  encodeTypeAndLength 4 items.length ++ items.flatten

def encodeTextArray (items : List Text) : Bytes :=
  encodeArray (items.map encodeText)

/-- Shorter keys first, keys of one length in byte order (which is character order). -/
def keyLe (first second : Text × Bytes) : Prop :=
  first.1.utf8Length < second.1.utf8Length ∨
    first.1.utf8Length = second.1.utf8Length /\ first.1 <= second.1

instance : DecidableRel keyLe := fun first second =>
  inferInstanceAs (Decidable (first.1.utf8Length < second.1.utf8Length ∨
    first.1.utf8Length = second.1.utf8Length /\ first.1 <= second.1))

def encodeMapSorted (entries : List (Text × Bytes)) : Bytes :=
  encodeTypeAndLength 5 entries.length ++
    (entries.insertionSort keyLe).flatMap (fun entry => encodeText entry.1 ++ entry.2)

def encodeCeremonyPolicy (policy : AgentCeremonyPolicy) : Bytes :=
  encodeMapSorted [("authorization", encodeText policy.authorization.label),
      ("user_presence", encodeText policy.userPresence.label),
      ("user_verification", encodeText policy.userVerification.label)]

def encodeRule (rule : AgentRpRule) : Bytes :=
  encodeMapSorted [("rp_id", encodeText rule.rpId.canonical),
      ("register", encodeCeremonyPolicy rule.register),
      ("authenticate", encodeCeremonyPolicy rule.authenticate)]

def encodeRules (rules : List AgentRpRule) : Bytes :=
  encodeArray (rules.map encodeRule)

/-- Pairs of profile name and digest, sorted by name. -/
def encodeGenerationDigest (entries : List (Text × Bytes)) : Bytes :=
  encodeArray ((entries.insertionSort (fun first second => first.1 <= second.1)).map
    (fun entry => encodeArray [encodeText entry.1, encodeByteString entry.2]))

end Cbor

/-- Rules in the order of their canonical names; equal names keep their order. -/
def sortRules (rules : List AgentRpRule) : List AgentRpRule :=
  rules.insertionSort (fun first second => first.rpId.canonical <= second.rpId.canonical)

inductive PolicyError
  | invalidVersion (version : Nat)
  | emptyActions
  | invalidTtl (ttl : Nat)
  | invalidMaxConcurrent (limit : Nat)

def PolicyError.message : PolicyError -> Text
  | invalidVersion version => "unsupported policy version: " ++ (toString version).toList
  | emptyActions => "allowed_actions must not be empty"
  | invalidTtl ttl => "invalid TTL: " ++ (toString ttl).toList
  | invalidMaxConcurrent limit =>
    "max_concurrent_grants must be >= 1, got " ++ (toString limit).toList

def currentPolicyVersion : Nat := 3
def maxTtl : Nat := 86400 * 365
def maxConcurrentGrantsLimit : Nat := 1000

structure PolicyParams where
  profileId : ProfileId
  mode : Text
  normalizedRpIds : List Text
  credentialRefs : List CredentialRef
  allowedActions : List Text
  (registrationAllowed requireUv : Bool)
  (maxConcurrentGrants maxGrantTtl maxSessionTtl : Nat)
  principalUser : Text
  device : DeviceIdentity
  startUrl : Option Text
  browserArgv : List Text
  (storageBackend storagePath browserUser browserRuntimeRoot : Text)
  rules : List AgentRpRule

structure Policy where
  version : Nat
  (profileId mode : Text)
  (normalizedRpIds credentialRefs allowedActions : List Text)
  (registrationAllowed requireUv : Bool)
  (maxConcurrentGrants maxGrantTtl maxSessionTtl : Nat)
  principalUser : Text
  device : DeviceIdentity
  startUrl : Text
  browserArgv : List Text
  (storageBackend storagePath browserUser browserRuntimeRoot : Text)
  rules : List AgentRpRule
  deriving DecidableEq

namespace Policy

def validate (policy : Policy) : Except PolicyError Unit :=
  if policy.version ≠ currentPolicyVersion then .error (.invalidVersion policy.version)
  else if policy.allowedActions.isEmpty then .error .emptyActions
  else if policy.maxGrantTtl = 0 || maxTtl < policy.maxGrantTtl then
    .error (.invalidTtl policy.maxGrantTtl)
  else if maxTtl < policy.maxSessionTtl then .error (.invalidTtl policy.maxSessionTtl)
  else if policy.maxConcurrentGrants = 0 || maxConcurrentGrantsLimit < policy.maxConcurrentGrants then
    .error (.invalidMaxConcurrent policy.maxConcurrentGrants)
  else .ok ()

def fromParams (params : PolicyParams) : Except PolicyError Policy :=
  let policy : Policy :=
    { version := currentPolicyVersion
      profileId := params.profileId.value
      mode := params.mode
      normalizedRpIds := (SortedSet.ofList params.normalizedRpIds).elements
      credentialRefs :=
        (SortedSet.ofList (params.credentialRefs.map (fun ref => hexOf ref.bytes))).elements
      allowedActions := (SortedSet.ofList params.allowedActions).elements
      registrationAllowed := params.registrationAllowed
      requireUv := params.requireUv
      maxConcurrentGrants := params.maxConcurrentGrants
      maxGrantTtl := params.maxGrantTtl
      maxSessionTtl := params.maxSessionTtl
      principalUser := params.principalUser
      device := params.device
      startUrl := params.startUrl.getD []
      browserArgv := params.browserArgv
      storageBackend := params.storageBackend
      storagePath := params.storagePath
      browserUser := params.browserUser
      browserRuntimeRoot := params.browserRuntimeRoot
      rules := sortRules params.rules }
  match policy.validate with
  | .error error => .error error
  | .ok () => .ok policy

/-- The map that is hashed: every field of the policy under its name. -/
def toDeterministicCbor (policy : Policy) : Bytes :=
  Cbor.encodeMapSorted [("version", Cbor.encodeUint policy.version),
      ("profile_id", Cbor.encodeText policy.profileId),
      ("mode", Cbor.encodeText policy.mode),
      ("normalized_rp_ids", Cbor.encodeTextArray policy.normalizedRpIds),
      ("credential_refs", Cbor.encodeTextArray policy.credentialRefs),
      ("allowed_actions", Cbor.encodeTextArray policy.allowedActions),
      ("registration_allowed", Cbor.encodeBool policy.registrationAllowed),
      ("require_uv", Cbor.encodeBool policy.requireUv),
      ("max_concurrent_grants", Cbor.encodeUint policy.maxConcurrentGrants),
      ("max_grant_ttl", Cbor.encodeUint policy.maxGrantTtl),
      ("max_session_ttl", Cbor.encodeUint policy.maxSessionTtl),
      ("principal_user", Cbor.encodeText policy.principalUser),
      ("device_name", Cbor.encodeText policy.device.name),
      ("device_phys", Cbor.encodeText policy.device.phys),
      ("device_uniq", Cbor.encodeText policy.device.uniq),
      ("device_vendor_id", Cbor.encodeUint policy.device.vendorId.toNat),
      ("device_product_id", Cbor.encodeUint policy.device.productId.toNat),
      ("start_url", Cbor.encodeText policy.startUrl),
      ("browser_argv", Cbor.encodeTextArray policy.browserArgv),
      ("storage_backend", Cbor.encodeText policy.storageBackend),
      ("storage_path", Cbor.encodeText policy.storagePath),
      ("browser_user", Cbor.encodeText policy.browserUser),
      ("browser_runtime_root", Cbor.encodeText policy.browserRuntimeRoot),
      ("rules", Cbor.encodeRules policy.rules)]

def digest (env : Env) (policy : Policy) : PolicyDigest :=
  ⟨env.sha256 policy.toDeterministicCbor⟩

end Policy

end ControlVault.Core
