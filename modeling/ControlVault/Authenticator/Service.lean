import ControlVault.Authenticator.Backup
import ControlVault.Broker.WebAuthn

namespace ControlVault.Authenticator

open Foundation Core Storage

/-!
# The vendor commands of the authenticator service

Besides what the authenticator library understands, the service answers three
commands of its own: it exports a credential and later marks it as backed up, it
restores a bundle, and it resets the retry counter of the built-in user
verification.  A command is a byte followed by a CBOR map.

The library's part is an argument: reading and building maps, its own state with
the retry counters, and the check of an authorisation parameter.  So are the calls
of the storage, which may fail; the compensating write of a failed restore is kept
apart from the other writes.
-/

def cmdPasslessResetUvRetries : UInt8 := 0x42

def cmdPasslessBackup : UInt8 := 0x43

def cmdPasslessRestore : UInt8 := 0x44

def resetUvRetriesSubcommand : UInt8 := 0x01

def backupPrepareSubcommand : UInt8 := 0x01

def backupCommitSubcommand : UInt8 := 0x02

inductive StatusCode
  | success
  | invalidParameter
  | invalidCredential
  | invalidSubcommand
  | unsupportedOption
  | integrityFailure
  | requestTooLarge
  | noCredentials
  | credentialExcluded
  | other
  /-- A status that the library chose. -/
  | raised (code : UInt8)
  deriving DecidableEq

/-- A map that was parsed, as `MapParser` shows it. -/
structure ParsedMap where
  byte : Nat -> Except StatusCode UInt8
  bytes : Nat -> Except StatusCode Bytes
  text : Nat -> Except StatusCode Text
  flag : Nat -> Except StatusCode Bool

inductive MapValue
  | bytes (data : Bytes)
  | number (value : Nat)

inductive BuiltInUvState
  | supportedNotConfigured
  | configured
  deriving DecidableEq

/-- The authenticator library, with its state and the retry counters in it.  Checking a parameter
and announcing the state of user verification leave the counters alone. -/
structure AuthenticatorLibrary (Core Store Retries : Type) where
  parseMap : Bytes -> Except StatusCode ParsedMap
  buildMap : List (Nat × MapValue) -> Option Bytes
  statusByte : StatusCode -> UInt8
  setBuiltInUvState : Core -> BuiltInUvState -> Option Core
  verify : Core -> UInt8 -> Bytes -> Bytes -> Except StatusCode Unit × Core
  resetUvRetries : Core -> Option Core
  process : Core -> Store -> Bytes -> Option Bytes × Core × Store
  retries : Core -> Retries
  retries_setBuiltInUvState : ∀ core state next, setBuiltInUvState core state = some next ->
    retries next = retries core
  retries_verify : ∀ core protocol param data,
    retries (verify core protocol param data).2 = retries core

/-- The calls that one command makes to the storage. -/
structure StorageCalls (Store : Type) where
  read : Store -> CredentialId -> Except StorageError Credential
  delete : Store -> CredentialId -> Except StorageError Unit × Store
  (write rewrite : Store -> Credential -> Except StorageError Unit × Store)

structure AuthenticatorService (Core Store : Type) where
  authenticator : Core
  storage : Store
  builtInUvPolicy : Bool
  maxUvRetries : Nat
  (credentialBackupEnabled credentialBackupSupported : Bool)
  pendingBackups : Table CredentialId Bytes
  pinConfigured : Bool

/-- What the outside world contributes to one command. -/
structure CommandOccasion (Store : Type) where
  calls : StorageCalls Store
  library : BackupLibrary
  nonce : Bytes
  drawn : nonce.length = nonceSize

/-- What the operating system lets the calls of one command do. -/
structure StorageOutcome where
  (opens loads removes persists repersists : Bool)

/-- The calls on a local store.  A file that does not open is reported as missing. -/
def localCalls (outcome : StorageOutcome) : StorageCalls LocalStorageAdapter where
  read store id :=
    match store.indexes.id.get id with
    | none => .error .doesNotExist
    | some path =>
      if !outcome.opens then .error .doesNotExist
      else if !outcome.loads then .error .other
      else store.loadCredentialFromPath path
  delete store id := store.delete id outcome.removes
  write store cred := store.write cred outcome.persists
  rewrite store cred := store.write cred outcome.repersists

/-! ## Operations and what authorises them -/

/-- What a vendor command asks for. -/
inductive VendorOperation
  | prepare (id : CredentialId) (recipient : Text)
  | commit (id : CredentialId) (token : Bytes)
  | restore (bundle : Bytes) (replace : Bool)
  | resetUvRetries
  deriving DecidableEq

def authDomain : Bytes :=
  Text.utf8 "passless-credential-backup-auth-v1"

/-- What is hashed to authorise a command. -/
def authFields (command subcommand : UInt8) (fields : List Bytes) : Bytes :=
  authDomain ++ [command, subcommand] ++
    fields.flatMap (fun field => Broker.toBeBytes 8 field.length ++ field)

def hashAuthData (env : Env) (command subcommand : UInt8) (fields : List Bytes) : Bytes :=
  bytesOf (env.sha256 (authFields command subcommand fields))

def backupPrepareAuthData (env : Env) (id : CredentialId) (recipient : Text) :
    Bytes :=
  hashAuthData env cmdPasslessBackup backupPrepareSubcommand [id, recipient.utf8]

def backupCommitAuthData (env : Env) (id : CredentialId) (token : Bytes) :
    Bytes :=
  hashAuthData env cmdPasslessBackup backupCommitSubcommand [id, token]

def restoreAuthData (env : Env) (bundle : Bytes) (replace : Bool) : Bytes :=
  hashAuthData env cmdPasslessRestore 0 [bundle, [if replace then 1 else 0]]

/-- The data over which a parameter authorises an operation. -/
def VendorOperation.authData (env : Env) : VendorOperation -> Bytes
  | .prepare id recipient => backupPrepareAuthData env id recipient
  | .commit id token => backupCommitAuthData env id token
  | .restore bundle replace => restoreAuthData env bundle replace
  | .resetUvRetries => [cmdPasslessResetUvRetries, resetUvRetriesSubcommand]

/-- An operation, and the parameter that came with it. -/
structure AuthorizedRequest where
  operation : VendorOperation
  protocol : UInt8
  param : Bytes
  deriving DecidableEq

namespace ParsedMap

variable (map : ParsedMap)

def backupRequest : Except StatusCode AuthorizedRequest := do
  let subcommand <- map.byte 1
  if subcommand = backupPrepareSubcommand then
    let id <- map.bytes 2
    let recipient <- map.text 3
    let protocol <- map.byte 4
    let param <- map.bytes 5
    return ⟨.prepare id recipient, protocol, param⟩
  else if subcommand = backupCommitSubcommand then
    let id <- map.bytes 2
    let token <- map.bytes 3
    let protocol <- map.byte 4
    let param <- map.bytes 5
    return ⟨.commit id token, protocol, param⟩
  else .error .invalidSubcommand

def restoreRequest : Except StatusCode AuthorizedRequest := do
  let bundle <- map.bytes 1
  let replace := (map.flag 2).toOption.getD false
  let protocol <- map.byte 3
  let param <- map.bytes 4
  return ⟨.restore bundle replace, protocol, param⟩

def resetRequest : Except StatusCode Unit := do
  let subcommand <- map.byte 1
  if subcommand ≠ resetUvRetriesSubcommand then .error .invalidParameter
  else return ()

/-- The parameter of a reset, if both of its fields are there. -/
def resetParameter : Option (UInt8 × Bytes) :=
  match map.byte 3, map.bytes 4 with
  | .ok protocol, .ok param => some (protocol, param)
  | _, _ => none

end ParsedMap

/-! ## Carrying them out -/

inductive VendorBody
  | bundle (bundle token : Bytes)
  | committed
  | restored (id : CredentialId)
  | retries (maxUvRetries : Nat)
  deriving DecidableEq

def backupErrorStatus : BackupError -> StatusCode
  | .invalidInput => .invalidParameter
  | .invalidBundle => .invalidCredential
  | .unsupportedCredential => .unsupportedOption
  | .cryptoUnavailable => .integrityFailure
  | .cryptoFailed => .integrityFailure
  | .tooLarge => .requestTooLarge

def storageErrorStatus : StorageError -> StatusCode
  | .doesNotExist => .noCredentials
  | .other => .other

def bundleToken (env : Env) (bundle : Bytes) : Bytes :=
  bytesOf (env.sha256 bundle)

/-- Restore a credential that was decrypted. -/
def restoreCredential {Store : Type} (calls : StorageCalls Store) (store : Store)
    (cred : Credential) (replace : Bool) : Except StatusCode Unit × Store :=
  match calls.read store cred.id with
  | .error .other => (.error .other, store)
  | .error .doesNotExist =>
    match calls.write store cred with
    | (.error _, after) => (.error .other, after)
    | (.ok (), after) => (.ok (), after)
  | .ok prev =>
    if !replace then (.error .credentialExcluded, store)
    else
      match calls.delete store cred.id with
      | (.error _, after) => (.error .other, after)
      | (.ok (), removed) =>
        match calls.write removed cred with
        | (.error _, after) => (.error .other, (calls.rewrite after prev).2)
        | (.ok (), after) => (.ok (), after)

/-- The answer to a vendor command and the service after it. -/
abbrev VendorResult (Core Store : Type) : Type :=
  Except StatusCode VendorBody × AuthenticatorService Core Store

namespace AuthenticatorService

variable {Core Store Retries : Type} (env : Env)
  (lib : AuthenticatorLibrary Core Store Retries) (occasion : CommandOccasion Store)
  (service : AuthenticatorService Core Store)

def refreshBuiltInUvState : Option (AuthenticatorService Core Store) :=
  if service.builtInUvPolicy then
    (lib.setBuiltInUvState service.authenticator
      (if service.pinConfigured then .supportedNotConfigured else .configured)).map
        (fun authenticator => { service with authenticator })
  else some service

def prepareBackup (id : CredentialId) (recipient : Text) : VendorResult Core Store :=
  match occasion.calls.read service.storage id with
  | .error error => (.error (storageErrorStatus error), service)
  | .ok cred =>
    match backupStateForExport cred.backupState with
    | .error error => (.error (backupErrorStatus error), service)
    | .ok exportState =>
      match encryptCredential occasion.library { cred with backupState := exportState }
          recipient occasion.nonce with
      | .error error => (.error (backupErrorStatus error), service)
      | .ok bundle =>
        let token := bundleToken env bundle
        (.ok (.bundle bundle token),
          { service with pendingBackups := service.pendingBackups.insert id token })

def commitBackup (id : CredentialId) (token : Bytes) : VendorResult Core Store :=
  if token.length ≠ 32 ∨ service.pendingBackups.get id ≠ some token then
    (.error .integrityFailure, service)
  else
    match occasion.calls.read service.storage id with
    | .error error => (.error (storageErrorStatus error), service)
    | .ok cred =>
      match occasion.calls.write service.storage { cred with backupState := .backedUp } with
      | (.error error, after) =>
        (.error (storageErrorStatus error), { service with storage := after })
      | (.ok (), after) =>
        (.ok .committed,
          { service with
            storage := after
            pendingBackups := service.pendingBackups.remove id })

def restoreBundle (bundle : Bytes) (replace : Bool) : VendorResult Core Store :=
  match decryptCredential occasion.library bundle with
  | .error error => (.error (backupErrorStatus error), service)
  | .ok cred =>
    match restoreCredential occasion.calls service.storage
        { cred with backupState := .backedUp } replace with
    | (.error status, after) => (.error status, { service with storage := after })
    | (.ok (), after) => (.ok (.restored cred.id), { service with storage := after })

def resetUvRetries : VendorResult Core Store :=
  match lib.resetUvRetries service.authenticator with
  | none => (.error .other, service)
  | some authenticator =>
    (.ok (.retries service.maxUvRetries), { service with authenticator })

def perform : VendorOperation -> VendorResult Core Store
  | .prepare id recipient => service.prepareBackup env occasion id recipient
  | .commit id token => service.commitBackup occasion id token
  | .restore bundle replace => service.restoreBundle occasion bundle replace
  | .resetUvRetries => service.resetUvRetries lib

/-- Carry out a request whose parameter verifies. -/
def authorize (req : AuthorizedRequest) : VendorResult Core Store :=
  match lib.verify service.authenticator req.protocol req.param (req.operation.authData env) with
  | (.error status, authenticator) =>
    (.error status, { service with authenticator })
  | (.ok (), authenticator) =>
    { service with authenticator }.perform env lib occasion req.operation

/-- A command of the backup feature: the feature must be on, and every field readable. -/
def handleFeatureCommand (parse : ParsedMap -> Except StatusCode AuthorizedRequest)
    (payload : Bytes) : VendorResult Core Store :=
  if !service.credentialBackupEnabled || !service.credentialBackupSupported then
    (.error .unsupportedOption, service)
  else
    match lib.parseMap payload with
    | .error status => (.error status, service)
    | .ok map =>
      match parse map with
      | .error status => (.error status, service)
      | .ok req => service.authorize env lib occasion req

variable (payload : Bytes)

def handleBackupCommand : VendorResult Core Store :=
  service.handleFeatureCommand env lib occasion ParsedMap.backupRequest payload

def handleRestoreCommand : VendorResult Core Store :=
  service.handleFeatureCommand env lib occasion ParsedMap.restoreRequest payload

/-- The reset verifies a parameter only if one can be read. -/
def handleResetCommand : VendorResult Core Store :=
  match lib.parseMap payload with
  | .error status => (.error status, service)
  | .ok map =>
    match map.resetRequest with
    | .error status => (.error status, service)
    | .ok () =>
      match map.resetParameter with
      | some (protocol, param) =>
        service.authorize env lib occasion ⟨.resetUvRetries, protocol, param⟩
      | none => service.resetUvRetries lib

/-- The bytes of an answer. -/
def respond : Except StatusCode VendorBody -> Bytes
  | .error status => [lib.statusByte status]
  | .ok (.bundle bundle token) =>
    match lib.buildMap [(1, .bytes bundle), (2, .bytes token)] with
    | none => [lib.statusByte .other]
    | some body => lib.statusByte .success :: body
  | .ok .committed => [lib.statusByte .success, 0xa0]
  | .ok (.restored id) =>
    match lib.buildMap [(1, .bytes id)] with
    | none => [lib.statusByte .other]
    | some body => lib.statusByte .success :: body
  | .ok (.retries maxUvRetries) =>
    lib.statusByte .success :: (lib.buildMap [(1, .number maxUvRetries)]).getD [0xa0]

/-- The handler of a vendor command, by the first byte of a request. -/
def vendorCommand (command : UInt8) :
    Option (Bytes -> VendorResult Core Store) :=
  if command = cmdPasslessBackup then some (service.handleBackupCommand env lib occasion)
  else if command = cmdPasslessRestore then
    some (service.handleRestoreCommand env lib occasion)
  else if command = cmdPasslessResetUvRetries then
    some (service.handleResetCommand env lib occasion)
  else none

/-- Everything else is the library's. -/
def forward (req : Bytes) : Option Bytes × AuthenticatorService Core Store :=
  let processed := lib.process service.authenticator service.storage req
  (processed.1, { service with authenticator := processed.2.1, storage := processed.2.2 })

/-- A request to the authenticator; without an answer if the library reports an error. -/
def handle (req : Bytes) : Option Bytes × AuthenticatorService Core Store :=
  match service.refreshBuiltInUvState lib with
  | none => (none, service)
  | some refreshed =>
    match req with
    | command :: payload =>
      match refreshed.vendorCommand env lib occasion command with
      | some handler =>
        (some (respond lib (handler payload).1), (handler payload).2)
      | none => refreshed.forward lib req
    | [] => refreshed.forward lib req

end AuthenticatorService

end ControlVault.Authenticator
