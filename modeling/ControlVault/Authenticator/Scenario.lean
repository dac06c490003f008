import ControlVault.Authenticator.Service

namespace ControlVault.Authenticator

open Foundation Core Storage

/-!
# An authenticator to evaluate

A small authenticator library: requests are flat maps, parameters are keyed
hashes over a token, and ciphertexts are plaintexts with a checksum behind them.
A bundle is a list of fields with their lengths in front; an envelope is known by
its place among those of one credential.  Texts are read as ASCII.
-/

namespace Sample

/-! ## Commands -/

/-- The state of an authenticator: the current token and the retries that are left. -/
structure Core where
  token : Bytes
  uvRetries : Nat

def missingParameter : StatusCode := .raised 0x14

def unexpectedType : StatusCode := .raised 0x11

def unpackText (field : Bytes) : Text :=
  field.map (fun byte => Char.ofNat byte.toNat)

/-- A number, a string or a truth value. -/
def readItem (bytes : Bytes) : Option (CborValue × Bytes) :=
  match CborValue.readHead bytes with
  | some (⟨0, _, number⟩, rest) => some (.integer number, rest)
  | some (⟨2, _, size⟩, rest) => some (.byteString (rest.take size), rest.drop size)
  | some (⟨3, _, size⟩, rest) => some (.text (unpackText (rest.take size)), rest.drop size)
  | some (⟨7, _, code⟩, rest) => some (.bool (code = 21), rest)
  | _ => none

def readPair (bytes : Bytes) : Option ((CborValue × CborValue) × Bytes) :=
  (readItem bytes).bind (fun key =>
    (readItem key.2).map (fun value => ((key.1, value.1), value.2)))

/-- The value of a key in a decoded map. -/
def lookup (entries : List (CborValue × CborValue)) (key : Nat) : Except StatusCode CborValue :=
  match entries.find? (fun entry =>
      match entry.1 with
      | .integer value => value = key
      | _ => false) with
  | none => .error missingParameter
  | some entry => .ok entry.2

def parsedMap (entries : List (CborValue × CborValue)) : ParsedMap where
  byte key :=
    match lookup entries key with
    | .error status => .error status
    | .ok (.integer value) =>
      if 0 <= value /\ value < 256 then .ok (UInt8.ofNat value.toNat) else .error unexpectedType
    | .ok _ => .error unexpectedType
  bytes key :=
    match lookup entries key with
    | .error status => .error status
    | .ok (.byteString data) => .ok data
    | .ok _ => .error unexpectedType
  text key :=
    match lookup entries key with
    | .error status => .error status
    | .ok (.text value) => .ok value
    | .ok _ => .error unexpectedType
  flag key :=
    match lookup entries key with
    | .error status => .error status
    | .ok (.bool value) => .ok value
    | .ok _ => .error unexpectedType

/-- The parameter that a token makes over some data. -/
def parameter (token data : Bytes) : Bytes :=
  bytesOf (sha256 (token ++ data))

def lib (Store : Type) : AuthenticatorLibrary Core Store Nat where
  parseMap payload :=
    match CborValue.readHead payload with
    | some (⟨5, _, count⟩, rest) =>
      match CborValue.repeatItems readPair count rest with
      | some (entries, []) => .ok (parsedMap entries)
      | _ => .error unexpectedType
    | _ => .error unexpectedType
  buildMap entries := some (entries.flatMap (fun entry =>
    match entry.2 with
    | .bytes data => UInt8.ofNat entry.1 :: data
    | .number value => [UInt8.ofNat entry.1, UInt8.ofNat value]))
  statusByte
    | .success => 0x00
    | .raised code => code
    | _ => 0x7f
  setBuiltInUvState core _ := some core
  verify core _ param data :=
    (if param = parameter core.token data then .ok () else .error (.raised 0x33), core)
  resetUvRetries core := some { core with uvRetries := 3 }
  process core store _ := (some [], core, store)
  retries := Core.uvRetries
  retries_setBuiltInUvState := by
    intro core state next announced
    cases announced
    rfl
  retries_verify := fun _ _ _ _ => rfl

/-- Whether a parameter was made with the current token. -/
def madeWithToken (core : Core) (_protocol : UInt8) (param data : Bytes) : Prop :=
  param = parameter core.token data

theorem library_sound (Store : Type) (core : Core) (protocol : UInt8) (param data : Bytes)
    (verified : ((lib Store).verify core protocol param data).1 = .ok ()) :
    madeWithToken core protocol param data := by
  unfold lib at verified
  dsimp only at verified
  split_ifs at verified with same
  exact same

/-! ## Bundles -/

/-- Fields with their lengths in front. -/
def pack (fields : List Bytes) : Bytes :=
  fields.flatMap (fun field => littleEndian 3 field.length ++ field)

def unpack : Nat -> Bytes -> List Bytes
  | 0, _ => []
  | _, [] => []
  | fuel + 1, bytes =>
    let length := ofLittleEndian (bytes.take 3)
    (bytes.drop 3).take length :: unpack fuel (bytes.drop (3 + length))

def packNat (number : Nat) : Bytes :=
  littleEndian 8 number

def bundleFields (bundle : CredentialBackupBundle) : List Bytes :=
  [bundle.magic.utf8, packNat bundle.version, bundle.cipher.utf8, bundle.recipient.utf8,
    bundle.nonce, bundle.ciphertext]

def unpackBundle (bytes : Bytes) : Option CredentialBackupBundle :=
  match unpack 6 bytes with
  | [magic, version, cipher, recipient, nonce, ciphertext] =>
    some ⟨unpackText magic, ofLittleEndian version, unpackText cipher, unpackText recipient,
      nonce, ciphertext⟩
  | _ => none

/-- A checksum under a key. -/
def tag (key nonce aad message : Bytes) : Bytes :=
  Broker.toBeBytes 32 ((key ++ nonce ++ aad ++ message).foldl
    (fun sum byte => sum * 257 + byte.toNat) 1)

/-- A serialiser refuses what it cannot read back. -/
def checked {Value : Type} [DecidableEq Value] (decode : Bytes -> Option Value)
    (value : Value) (bytes : Bytes) : Option Bytes :=
  if decode bytes = some value then some bytes else none

theorem checked_some {Value : Type} [DecidableEq Value] {decode : Bytes -> Option Value}
    {value : Value} {bytes encoded : Bytes} (written : checked decode value bytes = some encoded) :
    decode encoded = some value := by
  unfold checked at written
  split_ifs at written with same
  cases written
  exact same

def sealing : BackupLibrary where
  encodeBundle bundle := checked unpackBundle bundle (pack (bundleFields bundle))
  decodeBundle := unpackBundle
  encodeEnvelope := fun _ => none
  decodeEnvelope := fun _ => none
  encodeMetadata metadata :=
    some (pack [metadata.magic.utf8, packNat metadata.version, metadata.cipher.utf8,
      metadata.recipient.utf8])
  encrypt key nonce aad message := some (message ++ tag key nonce aad message)
  decrypt key nonce aad ciphertext :=
    let message := ciphertext.take (ciphertext.length - 32)
    if ciphertext = message ++ tag key nonce aad message then some message else none
  wrappingKey _ := .ok (List.replicate 32 7)
  softwareProvider := []

def cred (hmacSecret : Option Bool) : Credential where
  id := [1]
  rpId := "example.com"
  rpName := none
  userId := [7]
  userName := none
  userDisplayName := none
  signCount := 4
  alg := -7
  key := ⟨[], 1, List.replicate 32 9⟩
  created := 0
  discoverable := true
  backupState := .eligible
  extensions := ⟨none, hmacSecret, none⟩

/-- The envelopes of the credential. -/
def envelopes : List CredentialBackupEnvelope :=
  [none, some true].flatMap (fun hmacSecret =>
    [.eligible, .backedUp].filterMap (fun state =>
      (PortableCredential.fromCredential sealing
        { cred hmacSecret with backupState := state }).toOption.map
          (⟨backupMagic, backupFormatVersion, ⟨backupAaguid, firmwareVersion⟩, ·⟩)))

def unpackEnvelope (bytes : Bytes) : Option CredentialBackupEnvelope :=
  bytes.head?.bind (fun index => envelopes[index.toNat]?)

def backupLibrary : BackupLibrary :=
  { sealing with
    encodeEnvelope := fun envelope =>
      checked unpackEnvelope envelope [UInt8.ofNat (envelopes.idxOf envelope)]
    decodeEnvelope := unpackEnvelope }

theorem nonce_drawn : (List.replicate 12 (0 : UInt8)).length = nonceSize :=
  rfl

/-! ## A store with one credential -/

variable (hmacSecret : Option Bool)

theorem directory_accepted :
    Text.trim "example.com" = "example.com" /\ rpIdObjection "example.com" = none := by
  decide

def directory : ValidatedRpId :=
  ⟨"example.com", directory_accepted.1, directory_accepted.2⟩

def store : LocalStorageAdapter :=
  .new (Table.empty.insert ⟨directory, [1]⟩ (some (cred hmacSecret)))

theorem store_truthful : (store hmacSecret).Truthful := by
  refine (LocalStorageAdapter.new_consistent ?_ ?_).truthful
  · exact List.nodup_singleton _
  intro path file found
  rw [Table.get_insert] at found
  split_ifs at found with same
  · subst same
    cases found
    exact ⟨_, rfl, rfl, directory.trimmed⟩
  · cases found

/-- A service that offers backups. -/
def service (store : LocalStorageAdapter) : AuthenticatorService Core LocalStorageAdapter where
  authenticator := ⟨[1, 2, 3], 3⟩
  storage := store
  builtInUvPolicy := true
  maxUvRetries := 3
  credentialBackupEnabled := true
  credentialBackupSupported := true
  pendingBackups := .empty
  pinConfigured := true

def occasion (outcome : StorageOutcome) : CommandOccasion LocalStorageAdapter where
  calls := localCalls outcome
  library := backupLibrary
  nonce := List.replicate 12 0
  drawn := nonce_drawn

/-- The bundle of the credential. -/
def bundle : Bytes :=
  (encryptCredential backupLibrary (cred hmacSecret) "phone"
    (List.replicate 12 0)).toOption.getD []

/-- The payload of an authorised restore. -/
def restorePayload (bundle : Bytes) (replace : Bool) : Bytes :=
  [0xa4, 0x01, 0x59] ++ Broker.toBeBytes 2 bundle.length ++ bundle ++
    [0x02, if replace then 0xf5 else 0xf4, 0x03, 0x02, 0x04, 0x58, 0x20] ++
    parameter [1, 2, 3] (restoreAuthData sampleEnv bundle replace)

end Sample

end ControlVault.Authenticator
