import ControlVault.Authenticator.FailedRestore

namespace ControlVault.Authenticator

open Foundation Core Storage LocalStorageAdapter PortableCredential AuthenticatorService

/-!
# Backups that come back

A credential is exported into a bundle on one authenticator and restored from it
on another.  If encryption and encoding can be undone, everything that happens in
between is undone too, up to two points.

The import checks the lengths of fields that the export does not look at, so some
bundles are never accepted.  And the restored credential is written through a
reference, which loses the HMAC flag.
-/

/-- Encryption and encoding can be undone, and no ciphertext is empty. -/
structure BackupLibrary.Ideal (lib : BackupLibrary) : Prop where
  bundles : ∀ {bundle bytes}, lib.encodeBundle bundle = some bytes ->
    lib.decodeBundle bytes = some bundle
  envelopes : ∀ {envelope bytes}, lib.encodeEnvelope envelope = some bytes ->
    lib.decodeEnvelope bytes = some envelope
  decrypts : ∀ {key nonce aad message ciphertext},
    lib.encrypt key nonce aad message = some ciphertext ->
      lib.decrypt key nonce aad ciphertext = some message
  sealed : ∀ {key nonce aad message ciphertext},
    lib.encrypt key nonce aad message = some ciphertext -> ciphertext ≠ []

/-- The other side runs the same code and finds the same key for the recipient. -/
structure BackupLibrary.Shares (lib other : BackupLibrary) (recipient : Text) : Prop where
  code : other = { lib with wrappingKey := other.wrappingKey }
  key : other.wrappingKey recipient = lib.wrappingKey recipient

/-- The lengths that the import asks for. -/
structure Importable (cred : Credential) : Prop where
  id : cred.id ≠ [] /\ cred.id.length <= 64
  rpId : cred.rpId ≠ [] /\ cred.rpId.utf8.length <= 253
  userId : cred.userId ≠ [] /\ cred.userId.length <= 64
  credProtect : ∀ level ∈ cred.extensions.credProtect, 1 <= level /\ level <= 3
  credRandom : ∀ random ∈ cred.extensions.credRandom, random.length = 32

/-! ## Bundles -/

section Bundle

variable {lib : BackupLibrary} {exported : Credential} {recipient : Text} {nonce bundle : Bytes}

/-- The stages of an export that succeeded. -/
structure Sealed (lib : BackupLibrary) (exported : Credential) (recipient : Text)
    (nonce bundle key aad plaintext ciphertext : Bytes) (portable : PortableCredential) :
    Prop where
  valid : validateRecipient recipient = .ok ()
  loaded : loadWrappingKey lib recipient = .ok key
  taken : fromCredential lib exported = .ok portable
  encoded : lib.encodeEnvelope
    ⟨backupMagic, backupFormatVersion, ⟨backupAaguid, firmwareVersion⟩, portable⟩ = some plaintext
  described : authenticatedMetadata lib recipient = .ok aad
  encrypted : lib.encrypt key nonce aad plaintext = some ciphertext
  wrapped : lib.encodeBundle
    ⟨backupMagic, backupFormatVersion, cipherSuite, recipient, nonce, ciphertext⟩ = some bundle
  size : ¬(bundle.isEmpty || decide (maxBackupBundleSize < bundle.length)) = true

variable {portable : PortableCredential}

theorem wrapPlaintext_ok (wrapped : wrapPlaintext lib recipient key nonce plaintext = .ok bundle) :
    ∃ aad ciphertext, authenticatedMetadata lib recipient = .ok aad /\
      lib.encrypt key nonce aad plaintext = some ciphertext /\
      lib.encodeBundle
        ⟨backupMagic, backupFormatVersion, cipherSuite, recipient, nonce, ciphertext⟩ =
          some bundle /\
      ¬(bundle.isEmpty || decide (maxBackupBundleSize < bundle.length)) = true := by
  unfold wrapPlaintext at wrapped
  cases described : authenticatedMetadata lib recipient with
  | error =>
    rw [described] at wrapped
    cases wrapped
  | ok aad =>
    rw [described] at wrapped
    dsimp only at wrapped
    cases encrypted : lib.encrypt key nonce aad plaintext with
    | none =>
      rw [encrypted] at wrapped
      cases wrapped
    | some ciphertext =>
      rw [encrypted] at wrapped
      dsimp only at wrapped
      cases encoded : lib.encodeBundle
          ⟨backupMagic, backupFormatVersion, cipherSuite, recipient, nonce, ciphertext⟩ with
      | none =>
        rw [encoded] at wrapped
        cases wrapped
      | some =>
        rw [encoded] at wrapped
        dsimp only at wrapped
        split_ifs at wrapped with size
        cases wrapped
        exact ⟨aad, ciphertext, rfl, encrypted, encoded, size⟩

theorem encryptCredential_ok
    (encrypted : encryptCredential lib exported recipient nonce = .ok bundle) :
    ∃ key aad plaintext ciphertext portable,
      Sealed lib exported recipient nonce bundle key aad plaintext ciphertext portable := by
  unfold encryptCredential at encrypted
  cases valid : validateRecipient recipient with
  | error =>
    rw [valid] at encrypted
    cases encrypted
  | ok _ =>
    rw [valid] at encrypted
    cases loaded : loadWrappingKey lib recipient with
    | error =>
      rw [loaded] at encrypted
      cases encrypted
    | ok key =>
      rw [loaded] at encrypted
      unfold encryptCredentialWithKey at encrypted
      rw [valid] at encrypted
      cases taken : fromCredential lib exported with
      | error =>
        rw [taken] at encrypted
        cases encrypted
      | ok portable =>
        rw [taken] at encrypted
        dsimp only at encrypted
        cases encoded : lib.encodeEnvelope
            ⟨backupMagic, backupFormatVersion, ⟨backupAaguid, firmwareVersion⟩,
              portable⟩ with
        | none =>
          rw [encoded] at encrypted
          cases encrypted
        | some plaintext =>
          rw [encoded] at encrypted
          dsimp only at encrypted
          split_ifs at encrypted
          rcases wrapPlaintext_ok encrypted with
            ⟨aad, ciphertext, described, ciphered, bundled, size⟩
          exact ⟨key, aad, plaintext, ciphertext, portable, valid, loaded, taken, encoded,
            described, ciphered, bundled, size⟩

/-- What was sealed is opened again, as far as the portable form is accepted. -/
theorem Sealed.opened
    (sealed : Sealed lib exported recipient nonce bundle key aad plaintext ciphertext portable)
    (ideal : lib.Ideal) (shares : lib.Shares other recipient)
    (drawn : nonce.length = nonceSize) :
    decryptCredential other bundle =
      match portable.validate with
      | .error error => .error error
      | .ok () => portable.intoCredential lib := by
  have sameKey : loadWrappingKey other recipient = .ok key := by
    rw [<- sealed.loaded]
    unfold loadWrappingKey
    rw [shares.key]
  have code := shares.code
  generalize other.wrappingKey = keys at code
  subst code
  have opened : decodeBundle { lib with wrappingKey := keys } bundle =
      .ok ⟨backupMagic, backupFormatVersion, cipherSuite, recipient, nonce, ciphertext⟩ := by
    unfold decodeBundle
    rw [if_neg sealed.size]
    rw [ideal.bundles sealed.wrapped]
    dsimp only
    rw [if_neg, sealed.valid]
    rintro (wrong | wrong | wrong | wrong | wrong)
    · exact wrong rfl
    · exact wrong rfl
    · exact wrong rfl
    · exact wrong drawn
    · exact ideal.sealed sealed.encrypted wrong
  have described : authenticatedMetadata { lib with wrappingKey := keys } recipient =
      .ok aad := sealed.described
  unfold decryptCredential
  rw [opened]
  dsimp only
  rw [sameKey]
  unfold decryptBundleWithKey
  dsimp only
  rw [if_neg (not_not.mpr drawn), described]
  dsimp only
  rw [ideal.decrypts sealed.encrypted]
  dsimp only
  rw [ideal.envelopes sealed.encoded]
  dsimp only
  unfold validateEnvelope
  rw [if_neg]
  · rfl
  · rintro (wrong | wrong | wrong | wrong)
    · exact wrong rfl
    · exact wrong rfl
    · exact wrong rfl
    · cases wrong

section

variable (taken : fromCredential lib exported = .ok portable)

include taken

theorem fromCredential_ok :
    exported.key = ⟨lib.softwareProvider, 1, exported.key.material⟩ /\
      exported.key.material.length = 32 /\ isEligible exported.backupState = true /\
      portable =
        { version := portableCredentialVersion
          id := exported.id
          rpId := exported.rpId
          rpName := exported.rpName
          userId := exported.userId
          userName := exported.userName
          userDisplayName := exported.userDisplayName
          signCount := exported.signCount
          algorithm := exported.alg
          softwareKeyFormatVersion := exported.key.formatVersion
          privateKey := exported.key.material
          created := exported.created
          discoverable := exported.discoverable
          credProtect := exported.extensions.credProtect
          hmacSecret := exported.extensions.hmacSecret
          credRandom := exported.extensions.credRandom
          backupEligible := isEligible exported.backupState
          backedUp := isBackedUp exported.backupState } := by
  unfold fromCredential ensureExportableCredential at taken
  split_ifs at taken with refused
  cases taken
  rw [not_or, not_or, not_or, not_not, not_not, not_not, Bool.not_eq_false] at refused
  rcases refused with ⟨provider, version, length, eligible⟩
  refine ⟨?_, length, eligible, rfl⟩
  rw [<- provider, <- version]

/-- The import accepts what was exported exactly if the lengths are right. -/
theorem validate_iff : portable.validate = .ok () <-> Importable exported := by
  rcases fromCredential_ok taken with ⟨key, length, eligible, rfl⟩
  have version : exported.key.formatVersion = 1 := by rw [key]
  unfold validate
  constructor
  · intro accepted
    split_ifs at accepted with fields levels randoms
    simp only [not_or, not_lt] at fields
    rcases fields with ⟨_, id, idLength, rpId, rpIdLength, userId, userIdLength, _⟩
    refine ⟨⟨id, idLength⟩, ⟨rpId, rpIdLength⟩, ⟨userId, userIdLength⟩, ?_, ?_⟩
    · intro level mem
      by_contra outside
      exact levels ⟨level, mem, outside⟩
    · intro random mem
      by_contra different
      exact randoms ⟨random, mem, different⟩
  · intro importable
    rw [if_neg, if_neg, if_neg]
    · rintro ⟨random, mem, different⟩
      exact different (importable.credRandom random mem)
    · rintro ⟨level, mem, outside⟩
      exact outside (importable.credProtect level mem)
    · have idLength := importable.id.2
      have rpIdLength := importable.rpId.2
      have userIdLength := importable.userId.2
      simp only [not_or, not_not, not_lt]
      exact ⟨trivial, importable.id.1, idLength, importable.rpId.1, rpIdLength, importable.userId.1,
        userIdLength, version, length, by rw [eligible]; decide⟩

theorem intoCredential_eq
    (backedUp : exported.backupState = .backedUp) (accepted : portable.validate = .ok ()) :
    portable.intoCredential lib = .ok exported := by
  unfold intoCredential
  rw [accepted]
  rcases fromCredential_ok taken with ⟨key, _, _, rfl⟩
  have version : exported.key.formatVersion = 1 := by rw [key]
  have marked : isBackedUp exported.backupState = true := by
    rw [backedUp]
    rfl
  rw [marked, version, <- key, if_pos rfl, <- backedUp]

end

/-- A bundle gives back the credential exactly if it is importable. -/
theorem decrypt_encryptCredential (ideal : lib.Ideal) (shares : lib.Shares other recipient)
    (drawn : nonce.length = nonceSize) (backedUp : exported.backupState = .backedUp)
    (encrypted : encryptCredential lib exported recipient nonce = .ok bundle) :
    (Importable exported -> decryptCredential other bundle = .ok exported) /\
      (¬Importable exported -> ∃ error, decryptCredential other bundle = .error error) := by
  rcases encryptCredential_ok encrypted with ⟨_, _, _, _, portable, sealed⟩
  rw [sealed.opened ideal shares drawn, <- validate_iff sealed.taken]
  constructor
  · intro accepted
    rw [accepted]
    exact intoCredential_eq sealed.taken backedUp accepted
  · intro refused
    cases checked : portable.validate with
    | error error => exact ⟨error, rfl⟩
    | ok _ => exact absurd checked refused

end Bundle

/-! ## Commands -/

section Command

variable {Core Retries : Type} {env : Env}
  {lib : AuthenticatorLibrary Core LocalStorageAdapter Retries}

/-- Nothing fails. -/
def StorageOutcome.success : StorageOutcome :=
  ⟨true, true, true, true, true⟩

section

variable (env : Env) (lib : AuthenticatorLibrary Core LocalStorageAdapter Retries)

/-- The service answers an authorised request for a backup of the credential with the bundle. -/
def Prepares (occasion : CommandOccasion LocalStorageAdapter)
    (service : AuthenticatorService Core LocalStorageAdapter) (id : CredentialId)
    (recipient : Text) (bundle : Bytes) : Prop :=
  ∃ payload map asked authenticator token,
    Admitted env lib service ParsedMap.backupRequest payload map asked authenticator /\
      asked.operation = .prepare id recipient /\
      (service.handleBackupCommand env lib occasion payload).1 = .ok (.bundle bundle token)

/-- The payload is an authorised request to restore the bundle. -/
def AsksRestore (service : AuthenticatorService Core LocalStorageAdapter) (payload bundle : Bytes) :
    Prop :=
  ∃ map asked authenticator replace,
    Admitted env lib service ParsedMap.restoreRequest payload map asked authenticator /\
      asked.operation = .restore bundle replace

end

theorem localRead_success (store : LocalStorageAdapter) (id : CredentialId) :
    (localCalls .success).read store id = store.read id := by
  unfold localCalls LocalStorageAdapter.read
  dsimp only
  cases store.indexes.id.get id with
  | none | some => rfl

theorem Prepares.encrypted {occasion : CommandOccasion LocalStorageAdapter}
    {service : AuthenticatorService Core LocalStorageAdapter} {cred : Credential}
    (calls : occasion.calls = localCalls .success)
    (stored : service.storage.read cred.id = .ok cred)
    (prepares : Prepares env lib occasion service cred.id recipient bundle) :
    encryptCredential occasion.library { cred with backupState := .backedUp } recipient
      occasion.nonce = .ok bundle := by
  rcases prepares with ⟨_, _, _, _, _, admitted, prepare, returned⟩
  rw [handleBackupCommand, admitted.handled, prepare, perform, prepareBackup, calls] at returned
  rw [localRead_success, stored] at returned
  dsimp only [backupStateForExport] at returned
  by_cases eligible : isEligible cred.backupState = true
  · rw [if_pos eligible] at returned
    dsimp only at returned
    cases encrypted : encryptCredential occasion.library
        { cred with backupState := .backedUp } recipient occasion.nonce with
    | error error =>
      rw [encrypted] at returned
      cases returned
    | ok bytes =>
      rw [encrypted] at returned
      cases returned
      rfl
  · rw [if_neg eligible] at returned
    cases returned

theorem restoreCredential_absent {store : LocalStorageAdapter} {cred : Credential}
    {rpId : ValidatedRpId} (absent : store.indexes.id.get cred.id = none)
    (accepted : ValidatedRpId.tryFrom cred.rpId = .ok rpId) (replace : Bool) :
    restoreCredential (localCalls .success) store cred replace =
      (.ok (), store.stored rpId cred) := by
  have missing : (localCalls .success).read store cred.id = .error .doesNotExist := by
    dsimp only [localCalls]
    rw [absent]
  unfold restoreCredential
  rw [missing]
  dsimp only [localCalls]
  rw [LocalStorageAdapter.write, accepted]
  rfl

/-- A bundle that was returned for a stored credential restores it, on an authenticator that has
the key and not the credential, exactly if the credential is importable and has no HMAC flag. -/
theorem backup_restores_iff (env : Env)
    (lib : AuthenticatorLibrary Core LocalStorageAdapter Retries)
    (exporting importing : CommandOccasion LocalStorageAdapter)
    (source target : AuthenticatorService Core LocalStorageAdapter) (cred : Credential)
    (recipient : Text) (bundle payload : Bytes) (ideal : exporting.library.Ideal)
    (shares : exporting.library.Shares importing.library recipient)
    (reads : exporting.calls = localCalls .success)
    (writes : importing.calls = localCalls .success) (truthful : source.storage.Truthful)
    (stored : source.storage.read cred.id = .ok cred)
    (prepares : Prepares env lib exporting source cred.id recipient bundle)
    (absent : target.storage.indexes.id.get cred.id = none)
    (asks : AsksRestore env lib target payload bundle) :
    ((target.handleRestoreCommand env lib importing payload).1 = .ok (.restored cred.id) /\
        (target.handleRestoreCommand env lib importing payload).2.storage.read
          cred.id = .ok { cred with backupState := .backedUp }) <->
      Importable cred /\ cred.extensions.hmacSecret = none := by
  rcases asks with ⟨_, _, _, replace, admitted, restore⟩
  rcases decrypt_encryptCredential ideal shares exporting.drawn rfl (prepares.encrypted reads stored)
    with ⟨opens, fails⟩
  have same : Importable { cred with backupState := .backedUp } <-> Importable cred :=
    ⟨fun importable => ⟨importable.1, importable.2, importable.3, importable.4, importable.5⟩,
      fun importable => ⟨importable.1, importable.2, importable.3, importable.4, importable.5⟩⟩
  rw [same] at opens fails
  rw [handleRestoreCommand, admitted.handled, restore, perform, restoreBundle]
  by_cases importable : Importable cred
  · rcases read_eq_ok_iff.mp stored with ⟨path, located, content⟩
    have accepted : ValidatedRpId.tryFrom cred.rpId = .ok path.rpId :=
      ValidatedRpId.tryFrom_value (truthful.named located content).2
    have written := @restoreCredential_absent target.storage
      { cred with backupState := .backedUp } path.rpId absent accepted replace
    rw [opens importable, writes]
    dsimp only
    rw [written]
    have back := read_stored_self target.storage path.rpId
      { cred with backupState := .backedUp }
    rw [back]
    constructor
    · rintro ⟨_, equal⟩
      have flag := congrArg (fun value => value.extensions.hmacSecret) (Except.ok.inj equal)
      exact ⟨importable, flag.symm⟩
    · rintro ⟨_, bare⟩
      refine ⟨rfl, ?_⟩
      unfold Credential.asWritten
      rw [<- bare]
  · rcases fails importable with ⟨_, failed⟩
    rw [failed]
    exact iff_of_false (fun restored => by cases restored.1) (fun both => importable both.1)

end Command

namespace Sample

theorem backupLibrary_ideal : backupLibrary.Ideal where
  bundles := checked_some
  envelopes := checked_some
  decrypts := by
    intro key nonce aad message ciphertext encrypted
    cases encrypted
    have shorter : (message ++ tag key nonce aad message).length - 32 = message.length := by
      rw [List.length_append, tag, Broker.length_toBeBytes, Nat.add_sub_cancel]
    dsimp only [backupLibrary, sealing]
    rw [shorter, List.take_left, if_pos rfl]
  sealed := by
    intro key nonce aad message ciphertext encrypted empty
    cases encrypted
    have long := congrArg List.length empty
    rw [List.length_append] at long
    cases long

theorem admitted_of_ok {service : AuthenticatorService Sample.Core LocalStorageAdapter}
    {occasion : CommandOccasion LocalStorageAdapter}
    {parse : ParsedMap -> Except StatusCode AuthorizedRequest} {payload : Bytes}
    {wanted : AuthorizedRequest} {body : VendorBody}
    (req : ((lib LocalStorageAdapter).parseMap payload).toOption.bind
      (fun map => (parse map).toOption) = some wanted)
    (answered : (service.handleFeatureCommand sampleEnv (lib LocalStorageAdapter) occasion parse
      payload).1 = .ok body) :
    ∃ map authenticator, Admitted sampleEnv (lib LocalStorageAdapter) service parse payload map
      wanted authenticator := by
  rcases @handleFeatureCommand_cases _ _ _ sampleEnv (lib LocalStorageAdapter) occasion service
    parse payload with refused | ⟨map, _, authenticator, admitted⟩
  · rcases refused.1 with ⟨_, failed⟩
    rw [answered] at failed
    cases failed
  · rw [admitted.parsed] at req
    change (parse map).toOption = some wanted at req
    rw [admitted.read] at req
    cases req
    exact ⟨map, authenticator, admitted⟩

/-- The payload of an authorised request for a backup. -/
def preparePayload : Bytes :=
  [0xa5, 0x01, 0x01, 0x02, 0x41, 0x01, 0x03, 0x65] ++ Text.utf8 "phone" ++
    [0x04, 0x02, 0x05, 0x58, 0x20] ++
    parameter [1, 2, 3] (backupPrepareAuthData sampleEnv [1] "phone")

variable (hmacSecret : Option Bool)

def prepared : VendorResult Core LocalStorageAdapter :=
  (service (store hmacSecret)).handleBackupCommand sampleEnv (lib LocalStorageAdapter)
    (occasion .success) preparePayload

def backup : Bytes :=
  match (prepared hmacSecret).1 with
  | .ok (.bundle bundle _) => bundle
  | _ => []

def restored : VendorResult Core LocalStorageAdapter :=
  (service (.new .empty)).handleRestoreCommand sampleEnv (lib LocalStorageAdapter)
    (occasion .success) (restorePayload (backup hmacSecret) false)

/-- The HMAC flag of a credential does not come back. -/
theorem backup_loses_flag :
    (store (some true)).read [1] = .ok (cred (some true)) /\ (prepared (some true)).1 =
        .ok (.bundle (backup (some true)) (bundleToken sampleEnv (backup (some true)))) /\
      (restored (some true)).1 = .ok (.restored [1]) /\
      (restored (some true)).2.storage.read [1] ≠
        .ok { cred (some true) with backupState := .backedUp } := by
  decide +kernel

/-- A credential without the flag comes back as it was, marked as backed up. -/
theorem backup_restores_credential :
    (restored none).1 = .ok (.restored [1]) /\ (restored none).2.storage.read [1] =
        .ok { cred none with backupState := .backedUp } := by
  rcases (by decide +kernel : (prepared none).1 =
        .ok (.bundle (backup none) (bundleToken sampleEnv (backup none))) /\
      ((lib LocalStorageAdapter).parseMap preparePayload).toOption.bind
        (fun map => map.backupRequest.toOption) = some ⟨.prepare [1] "phone", 2,
          parameter [1, 2, 3] (backupPrepareAuthData sampleEnv [1] "phone")⟩ /\
      (restored none).1 = .ok (.restored [1]) /\
      ((lib LocalStorageAdapter).parseMap (restorePayload (backup none) false)).toOption.bind
        (fun map => map.restoreRequest.toOption) = some ⟨.restore (backup none) false, 2,
          parameter [1, 2, 3] (restoreAuthData sampleEnv (backup none) false)⟩) with
    ⟨returned, prepareRequest, answered, restoreRequest⟩
  unfold restored at answered ⊢
  unfold prepared at returned
  rcases admitted_of_ok prepareRequest returned with ⟨map, authenticator, admitted⟩
  rcases admitted_of_ok restoreRequest answered with ⟨otherMap, otherCore, otherAdmitted⟩
  refine (backup_restores_iff sampleEnv (lib LocalStorageAdapter) (occasion .success)
    (occasion .success) (service (store none)) (service (.new .empty)) (cred none)
    "phone" (backup none) (restorePayload (backup none) false) backupLibrary_ideal ⟨rfl, rfl⟩
    rfl rfl (store_truthful none) ?_
    ⟨preparePayload, map, _, authenticator, _, admitted, rfl, returned⟩ rfl
    ⟨otherMap, _, otherCore, false, otherAdmitted, rfl⟩).mpr ?_
  · decide +kernel
  · exact ⟨⟨by decide, by decide, by decide, nofun, nofun⟩, rfl⟩

end Sample

end ControlVault.Authenticator
