import ControlVault.Broker.Base64Url
import ControlVault.Core.Policy
import ControlVault.Storage.Local

namespace ControlVault.Broker

open Foundation Core Storage

/-!
# What is signed

A signature covers the authenticator data and the hash of the client data.  The
authenticator data names the relying party by its hash, says in one byte of
flags who vouched for presence and verification, and carries the counter; for a
new credential it also carries the public key.  The client data is a JSON text
that the broker assembles itself.

The key provider of the backend is the part of the authenticator library that
the broker calls.
-/

structure GeneratedKey where
  key : CredentialKey
  cosePublicKey : Bytes

/-- The calls of the authenticator library.  A signature may be randomised, so these are
the answers of one occasion. -/
structure KeyBackend where
  supportsAlgorithm : Int -> Bool
  generate : Int -> Option GeneratedKey
  sign : CredentialKey -> Int -> Bytes -> Option Bytes
  backupFlags : CredentialBackupState -> UInt8

/-- The bytes of a number, most significant byte first. -/
def toBeBytes (width number : Nat) : Bytes :=
  (List.range width).map (fun index => UInt8.ofNat (number / 256 ^ (width - 1 - index)))

theorem toBeBytes_eq (width number : Nat) :
    toBeBytes width number = (littleEndian width number).reverse :=
  (reverse_littleEndian width number).symm

theorem length_toBeBytes (width number : Nat) : (toBeBytes width number).length = width := by
  rw [toBeBytes, List.length_map, List.length_range]

theorem toBeBytes_injective (firstFits : first < 256 ^ width)
    (secondFits : second < 256 ^ width) (same : toBeBytes width first = toBeBytes width second) :
    first = second := by
  rw [toBeBytes_eq, toBeBytes_eq, List.reverse_inj] at same
  rw [<- ofLittleEndian_littleEndian firstFits, same, ofLittleEndian_littleEndian secondFits]

theorem bytesOf_injective (same : bytesOf first = bytesOf second) :
    first = second := by
  have firstFits : first.toNat < 256 ^ 32 := first.isLt
  have secondFits : second.toNat < 256 ^ 32 := second.isLt
  exact BitVec.eq_of_toNat_eq (toBeBytes_injective firstFits secondFits same)

/-! ## Client data -/

def jsonEscapeChar (char : Char) : Text :=
  if char = '"' then "\\\""
  else if char = '\\' then "\\\\"
  else if char = '\n' then "\\n"
  else if char = '\r' then "\\r"
  else if char = '\t' then "\\t"
  else if char.toNat < 0x20 then
    "\\u00" ++ [Nat.digitChar (char.toNat / 16), Nat.digitChar (char.toNat % 16)]
  else [char]

def jsonEscapeString (text : Text) : Text :=
  text.flatMap jsonEscapeChar

/-- The client data of either ceremony; only the type differs. -/
def clientDataJson (ceremony : Text) (origin challengeB64u : Text) (crossOrigin : Bool)
    (topOrigin : Option Text) : Bytes :=
  let cross :=
    if crossOrigin then
      ",\"crossOrigin\":true".toList ++
        match topOrigin with
        | none => []
        | some top => ",\"topOrigin\":\"".toList ++ jsonEscapeString top ++ "\"".toList
    else []
  Text.utf8
    ("\x7b\"type\":\"".toList ++ ceremony ++ "\",\"challenge\":\"".toList ++ challengeB64u ++
      "\",\"origin\":\"".toList ++ jsonEscapeString origin ++ "\"".toList ++ cross ++
      "\x7d".toList)

def buildClientDataJson : Text -> Text -> Bool -> Option Text -> Bytes :=
  clientDataJson "webauthn.get"

def buildClientDataJsonForRegistration : Text -> Text -> Bool -> Option Text -> Bytes :=
  clientDataJson "webauthn.create"

/-! ## Authenticator data -/

/-- The bits for presence and verification. -/
def evidenceFlags (up uv : Bool) : UInt8 :=
  (if up then 0x01 else 0) ||| (if uv then 0x04 else 0)

def buildAuthenticatorData (env : Env) (rpId : Text) (up uv : Bool)
    (backupFlags : UInt8) (signCount : Nat) : Bytes :=
  bytesOf (env.sha256 rpId.utf8) ++ [evidenceFlags up uv ||| backupFlags] ++ toBeBytes 4 signCount

def passlessAaguid : Bytes :=
  [0x66, 0x69, 0x64, 0x6F, 0x2E, 0x70, 0x61, 0x73, 0x73, 0x6C, 0x65, 0x73, 0x73, 0x2E, 0x72, 0x73]

def buildAuthenticatorDataForRegistration (env : Env) (rpId : Text)
    (credentialId cosePublicKey : Bytes) (up uv : Bool) : Bytes :=
  bytesOf (env.sha256 rpId.utf8) ++ [0x40 ||| evidenceFlags up uv] ++ toBeBytes 4 0 ++
    passlessAaguid ++ toBeBytes 2 credentialId.length ++ credentialId ++ cosePublicKey

def buildAttestationObject (env : Env) (authData : Bytes) : Bytes :=
  env.writeCbor (.map [(.text "fmt", .text "none"), (.text "attStmt", .map []),
    (.text "authData", .byteString authData)])

end ControlVault.Broker
