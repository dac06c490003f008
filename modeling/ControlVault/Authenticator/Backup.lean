import ControlVault.Core.Ids
import ControlVault.Storage.Local

namespace ControlVault.Authenticator

open Foundation Core Storage

/-!
# Encrypted bundles

A credential leaves the authenticator as a bundle.  Its fields are copied into a
format of the daemon's own, wrapped in an envelope, encrypted under a key that
the recipient's name selects, and wrapped once more with the name in the clear.
Reading a bundle goes the same way back and checks every layer.

Export and import check different things: export looks at the key, import at the
lengths of the fields as well.

Encryption and the serialisation of the layers are libraries; they and the keys
in the configuration directory are an argument.
-/

inductive BackupError
  | invalidInput
  | invalidBundle
  | unsupportedCredential
  | cryptoUnavailable
  | cryptoFailed
  | tooLarge

def maxBackupBundleSize : Nat := 64 * 1024

def maxBackupRecipientLength : Nat := 128

def backupMagic : Text := "passless-credential-backup"

def backupFormatVersion : Nat := 2

def portableCredentialVersion : Nat := 1

def cipherSuite : Text := "AES-256-GCM"

def nonceSize : Nat := 12

def firmwareVersion : Text := "0.19.2"

def backupAaguid : Bytes :=
  [0x66, 0x69, 0x64, 0x6f, 0x2e, 0x70, 0x61, 0x73, 0x73, 0x6c, 0x65, 0x73, 0x73, 0x2e, 0x72, 0x73]

/-- What stands around the ciphertext. -/
structure CredentialBackupBundle where
  magic : Text
  version : Nat
  (cipher recipient : Text)
  (nonce ciphertext : Bytes)
  deriving DecidableEq

/-- What the encryption authenticates besides the plaintext. -/
structure AuthenticatedBundleMetadata where
  magic : Text
  version : Nat
  (cipher recipient : Text)

structure SourceAuthenticatorMetadata where
  aaguid : Bytes
  firmwareVersion : Text
  deriving DecidableEq

structure PortableCredential where
  version : Nat
  id : CredentialId
  rpId : Text
  rpName : Option Text
  userId : Bytes
  (userName userDisplayName : Option Text)
  signCount : Nat
  algorithm : Int
  softwareKeyFormatVersion : Nat
  privateKey : Bytes
  created : Int
  discoverable : Bool
  credProtect : Option Nat
  hmacSecret : Option Bool
  credRandom : Option Bytes
  (backupEligible backedUp : Bool)
  deriving DecidableEq

structure CredentialBackupEnvelope where
  magic : Text
  version : Nat
  source : SourceAuthenticatorMetadata
  credential : PortableCredential
  deriving DecidableEq

/-- The libraries, the wrapping keys, and the nonce that the next encryption draws. -/
structure BackupLibrary where
  encodeBundle : CredentialBackupBundle -> Option Bytes
  decodeBundle : Bytes -> Option CredentialBackupBundle
  encodeEnvelope : CredentialBackupEnvelope -> Option Bytes
  decodeEnvelope : Bytes -> Option CredentialBackupEnvelope
  encodeMetadata : AuthenticatedBundleMetadata -> Option Bytes
  (encrypt decrypt : Bytes -> Bytes -> Bytes -> Bytes -> Option Bytes)
  wrappingKey : Text -> Except BackupError Bytes
  softwareProvider : Bytes

def isEligible (state : CredentialBackupState) : Bool :=
  state ≠ .notEligible

def isBackedUp (state : CredentialBackupState) : Bool :=
  state = .backedUp

def backupStateForExport (source : CredentialBackupState) :
    Except BackupError CredentialBackupState :=
  if isEligible source then .ok .backedUp else .error .unsupportedCredential

/-- Whether a text has another one inside. -/
def occursIn (part : Text) : Text -> Bool
  | [] => part.isEmpty
  | first :: rest => part.isPrefixOf (first :: rest) || occursIn part rest

def validateRecipient (recipient : Text) : Except BackupError Unit :=
  if recipient.isEmpty || maxBackupRecipientLength < recipient.utf8.length ||
      recipient = "." || recipient = ".." || occursIn ".." recipient ||
      !recipient.all (fun char =>
        char.isAlphanum || "@._-+".toList.elem char) then
    .error .invalidInput
  else .ok ()

/-! ## Export -/

section Library

variable (lib : BackupLibrary) (cred : Credential)

def ensureExportableCredential : Except BackupError Unit :=
  if cred.key.provider ≠ lib.softwareProvider ∨ cred.key.formatVersion ≠ 1 ∨
      cred.key.material.length ≠ 32 ∨ isEligible cred.backupState = false then
    .error .unsupportedCredential
  else .ok ()

def PortableCredential.fromCredential :
    Except BackupError PortableCredential :=
  match ensureExportableCredential lib cred with
  | .error error => .error error
  | .ok () =>
    .ok
      { version := portableCredentialVersion
        id := cred.id
        rpId := cred.rpId
        rpName := cred.rpName
        userId := cred.userId
        userName := cred.userName
        userDisplayName := cred.userDisplayName
        signCount := cred.signCount
        algorithm := cred.alg
        softwareKeyFormatVersion := cred.key.formatVersion
        privateKey := cred.key.material
        created := cred.created
        discoverable := cred.discoverable
        credProtect := cred.extensions.credProtect
        hmacSecret := cred.extensions.hmacSecret
        credRandom := cred.extensions.credRandom
        backupEligible := isEligible cred.backupState
        backedUp := isBackedUp cred.backupState }

section

variable (recipient : Text)

def authenticatedMetadata : Except BackupError Bytes :=
  match lib.encodeMetadata ⟨backupMagic, backupFormatVersion, cipherSuite, recipient⟩ with
  | none => .error .invalidBundle
  | some bytes => .ok bytes

/-- Encrypt an encoded envelope and wrap it. -/
def wrapPlaintext (wrappingKey nonce plaintext : Bytes) :
    Except BackupError Bytes :=
  match authenticatedMetadata lib recipient with
  | .error error => .error error
  | .ok aad =>
    match lib.encrypt wrappingKey nonce aad plaintext with
    | none => .error .cryptoFailed
    | some ciphertext =>
      match lib.encodeBundle
          ⟨backupMagic, backupFormatVersion, cipherSuite, recipient, nonce, ciphertext⟩ with
      | none => .error .invalidBundle
      | some bundle =>
        if bundle.isEmpty || maxBackupBundleSize < bundle.length then .error .tooLarge
        else .ok bundle

def encryptCredentialWithKey (wrappingKey nonce : Bytes) : Except BackupError Bytes :=
  match validateRecipient recipient with
  | .error error => .error error
  | .ok () =>
    match PortableCredential.fromCredential lib cred with
    | .error error => .error error
    | .ok portable =>
      match lib.encodeEnvelope
          ⟨backupMagic, backupFormatVersion, ⟨backupAaguid, firmwareVersion⟩, portable⟩ with
      | none => .error .invalidBundle
      | some plaintext =>
        if maxBackupBundleSize < plaintext.length then .error .tooLarge
        else wrapPlaintext lib recipient wrappingKey nonce plaintext

def loadWrappingKey : Except BackupError Bytes :=
  match validateRecipient recipient with
  | .error error => .error error
  | .ok () => lib.wrappingKey recipient

def encryptCredential (nonce : Bytes) :
    Except BackupError Bytes :=
  match validateRecipient recipient with
  | .error error => .error error
  | .ok () =>
    match loadWrappingKey lib recipient with
    | .error error => .error error
    | .ok wrappingKey =>
      encryptCredentialWithKey lib cred recipient wrappingKey nonce

end

end Library

/-! ## Import -/

namespace PortableCredential

variable (portable : PortableCredential)

def validate : Except BackupError Unit :=
  if portable.version ≠ portableCredentialVersion ∨ portable.id = [] ∨ 64 < portable.id.length ∨
      portable.rpId = [] ∨ 253 < portable.rpId.utf8.length ∨ portable.userId = [] ∨
      64 < portable.userId.length ∨ portable.softwareKeyFormatVersion ≠ 1 ∨
      portable.privateKey.length ≠ 32 ∨ portable.backupEligible = false then
    .error .invalidBundle
  else if ∃ level ∈ portable.credProtect, ¬(1 <= level /\ level <= 3) then .error .invalidBundle
  else if ∃ random ∈ portable.credRandom, random.length ≠ 32 then .error .invalidBundle
  else .ok ()

def intoCredential (lib : BackupLibrary) : Except BackupError Credential :=
  match portable.validate with
  | .error error => .error error
  | .ok () =>
    .ok
      { id := portable.id
        rpId := portable.rpId
        rpName := portable.rpName
        userId := portable.userId
        userName := portable.userName
        userDisplayName := portable.userDisplayName
        signCount := portable.signCount
        alg := portable.algorithm
        key := ⟨lib.softwareProvider, portable.softwareKeyFormatVersion, portable.privateKey⟩
        created := portable.created
        discoverable := portable.discoverable
        backupState := if portable.backedUp then .backedUp else .eligible
        extensions := ⟨portable.credProtect, portable.hmacSecret, portable.credRandom⟩ }

end PortableCredential

def validateEnvelope (envelope : CredentialBackupEnvelope) : Except BackupError Unit :=
  if envelope.magic ≠ backupMagic ∨ envelope.version ≠ backupFormatVersion ∨
      envelope.source.aaguid.length ≠ backupAaguid.length ∨
      envelope.source.firmwareVersion = [] then
    .error .invalidBundle
  else envelope.credential.validate

section Library

variable (lib : BackupLibrary)

def decodeBundle (bundle : Bytes) : Except BackupError CredentialBackupBundle :=
  if bundle.isEmpty || maxBackupBundleSize < bundle.length then .error .tooLarge
  else
    match lib.decodeBundle bundle with
    | none => .error .invalidBundle
    | some outer =>
      if outer.magic ≠ backupMagic ∨ outer.version ≠ backupFormatVersion ∨
          outer.cipher ≠ cipherSuite ∨ outer.nonce.length ≠ nonceSize ∨
          outer.ciphertext = [] then
        .error .invalidBundle
      else
        match validateRecipient outer.recipient with
        | .error _ => .error .invalidBundle
        | .ok () => .ok outer

def decryptBundleWithKey (outer : CredentialBackupBundle) (wrappingKey : Bytes) :
    Except BackupError Credential :=
  if outer.nonce.length ≠ nonceSize then .error .invalidBundle
  else
    match authenticatedMetadata lib outer.recipient with
    | .error error => .error error
    | .ok aad =>
      match lib.decrypt wrappingKey outer.nonce aad outer.ciphertext with
      | none => .error .cryptoFailed
      | some plaintext =>
        match lib.decodeEnvelope plaintext with
        | none => .error .invalidBundle
        | some envelope =>
          match validateEnvelope envelope with
          | .error error => .error error
          | .ok () => envelope.credential.intoCredential lib

def decryptCredential (bundle : Bytes) : Except BackupError Credential :=
  match decodeBundle lib bundle with
  | .error error => .error error
  | .ok outer =>
    match loadWrappingKey lib outer.recipient with
    | .error error => .error error
    | .ok wrappingKey => decryptBundleWithKey lib outer wrappingKey

end Library

end ControlVault.Authenticator
