import ControlVault.Foundation.CborValue
import ControlVault.Foundation.Sha256
import Mathlib.Data.Char
import Mathlib.Data.List.Lex

namespace ControlVault.Core

open Foundation

/-!
# Identifiers and the outside world

The daemon names everything it stores by opaque identifiers: the hexadecimal
form of 32 random bytes.  All of them come from one declaration in the source,
so they are one family here, indexed by what they name.  The model keeps the 32
bytes and not their spelling; a text that is not such a spelling names nothing.

Functions that belong to other programs are collected in `Env`: the hash
function, the public suffix list, the address parser of the standard library,
the file system and the CBOR libraries.  Nothing is assumed about them here.
-/

/-- Functions the daemon calls but does not implement. -/
structure Env where
  /-- SHA-256, as a 32 byte value. -/
  sha256 : Bytes -> BitVec 256
  /-- Whether the public suffix list finds no registrable domain. -/
  isPublicSuffix : Text -> Bool
  /-- Whether the standard library parses a text as an IPv6 address. -/
  isIpv6Address : Text -> Bool
  /-- The canonical spelling of a path in the current file system. -/
  canonicalizePath : Text -> Text
  /-- The first CBOR item of a byte string and the bytes behind it. -/
  readCbor : Bytes -> Option (CborValue × Bytes)
  writeCbor : CborValue -> Bytes

/-- An environment for concrete runs, with the real hash function and two public suffixes.  Names
with a colon are addresses, and nothing is read or written as CBOR. -/
def sampleEnv : Env where
  sha256 := sha256
  isPublicSuffix := fun domain => domain = "com" ∨ domain = "org"
  isIpv6Address := fun text => text.elem ':'
  canonicalizePath := id
  readCbor := fun _ => none
  writeCbor := fun _ => []

inductive IdKind
  | principalSession
  | endpoint
  | policyGeneration
  | intent
  | grant
  | browserLease
  | pendingRequest
  | registrationGrant
  | grantRequest
  | ceremony
  deriving DecidableEq

/-- An opaque identifier for one kind of object. -/
structure OpaqueId (kind : IdKind) where
  bits : BitVec 256
  deriving DecidableEq

abbrev PrincipalSessionId := OpaqueId .principalSession
abbrev EndpointId := OpaqueId .endpoint
abbrev PolicyGenerationId := OpaqueId .policyGeneration
abbrev IntentId := OpaqueId .intent
abbrev GrantId := OpaqueId .grant
abbrev BrowserLeaseId := OpaqueId .browserLease
abbrev PendingRequestId := OpaqueId .pendingRequest
abbrev RegistrationGrantId := OpaqueId .registrationGrant
abbrev GrantRequestId := OpaqueId .grantRequest
abbrev CeremonyId := OpaqueId .ceremony

/-- A freshly generated identifier of any kind. -/
abbrev FreshId := Sigma OpaqueId

def OpaqueId.fresh {kind : IdKind} (id : OpaqueId kind) : FreshId :=
  ⟨kind, id⟩

structure ProcessIdentityDigest where
  bytes : BitVec 256
  deriving DecidableEq

structure PolicyDigest where
  bytes : BitVec 256
  deriving DecidableEq

variable (digest : BitVec 256)

/-- The 32 bytes of a digest, first byte first. -/
def bytesOf : Bytes :=
  (List.range 32).map (fun index => UInt8.ofNat (digest.toNat / 256 ^ (31 - index)))

@[simp] theorem length_bytesOf : (bytesOf digest).length = 32 := by
  rw [bytesOf, List.length_map, List.length_range]

/-- The lower-case hexadecimal spelling of 32 bytes. -/
def hexOf : Text :=
  (List.range 64).map (fun index => Nat.digitChar (digest.toNat / 16 ^ (63 - index) % 16))

/-! ## Credential references -/

structure CredentialRef where
  bytes : BitVec 256
  deriving DecidableEq

namespace CredentialRef

instance : LinearOrder CredentialRef :=
  LinearOrder.lift' (fun ref => ref.bytes.toNat) (fun first second same => by
      cases first
      cases second
      exact congrArg CredentialRef.mk (BitVec.eq_of_toNat_eq same))

def credentialRefDomainSeparator : Text := "passless/credential-ref/v1"

def new (env : Env) (domainSeparator : Text) (credentialId : Bytes) :
    CredentialRef :=
  ⟨env.sha256 (domainSeparator.utf8 ++ credentialId)⟩

def withDefaultDomain (env : Env) (credentialId : Bytes) : CredentialRef :=
  new env credentialRefDomainSeparator credentialId

end CredentialRef

/-! ## Profile names -/

structure ProfileId where
  value : Text
  deriving DecidableEq

inductive IdError
  | empty (kind : Text)
  | pathTraversal (value : Text)
  | pathSeparator (value : Text)
  | nullByte (value : Text)
  | controlCharacter (value : Text)
  | tooLong (kind : Text) (limit : Nat)
  | whitespace (value : Text)

def IdError.message : IdError -> Text
  | empty kind => kind ++ " cannot be empty"
  | pathTraversal value => "path traversal not allowed: " ++ value
  | pathSeparator value => "path separators not allowed: " ++ value
  | nullByte value => "null bytes not allowed: " ++ value
  | controlCharacter value => "control characters not allowed: " ++ value
  | tooLong kind limit => kind ++ " exceeds maximum length of " ++ (toString limit).toList
  | whitespace value => "leading/trailing whitespace not allowed: " ++ value

namespace ProfileId

def maxProfileIdLen : Nat := 128

def validate (value : Text) : Except IdError Unit :=
  if value.isEmpty then .error (.empty "ProfileId")
  else if maxProfileIdLen < value.utf8Length then .error (.tooLong "ProfileId" maxProfileIdLen)
  else if value ≠ value.trim then .error (.whitespace value)
  else if value.elem (Char.ofNat 0) then .error (.nullByte value)
  else if value.contains ".." then .error (.pathTraversal value)
  else if value.elem '/' || value.elem '\\' then .error (.pathSeparator value)
  else if value.utf8.any (fun byte => byte < 0x20 || byte == 0x7f) then
    .error (.controlCharacter value)
  else if value = "." then .error (.pathTraversal value)
  else .ok ()

def new (value : Text) : Except IdError ProfileId :=
  match validate value with
  | .error error => .error error
  | .ok () => .ok ⟨value⟩

end ProfileId

/-- The two ceremonies a principal may ask for. -/
inductive IntentAction
  | register
  | authenticate
  deriving DecidableEq

/-- The spelling under which policies list an action. -/
def IntentAction.label : IntentAction -> Text
  | register => "register"
  | authenticate => "authenticate"

end ControlVault.Core
