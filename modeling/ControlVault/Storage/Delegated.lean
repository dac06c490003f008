import ControlVault.Foundation.Fallible
import ControlVault.Foundation.SortedSet
import ControlVault.Storage.Interface
import ControlVault.Storage.Scope

namespace ControlVault.Storage

open Foundation Core CredentialRef CredentialStorage

/-!
# The delegated view of a human's store

An endpoint that acts for a human sees the human's store through a view: only
during a ceremony, only for allowed relying parties, and while authenticating only
the credential of the ceremony.  References are turned into identifiers through an
index that is built once from the store.

A registration may write any credential of its relying party.  While authenticating
a credential may be written back; its fields are compared with the stored ones and
its counter has to grow (or to stay, in the mode for constant counters).
-/

inductive DelegatedError
  | rpIdNotAllowed (rpId : Text)
  | credentialNotAllowed (ref : CredentialRef)
  | writeDenied
  | deleteDenied
  | registrationDenied
  | immutableFieldViolation (field : Text)
  | counterNotMonotonic
  | internal (error : StorageError)
  deriving DecidableEq

/-- Every refusal looks alike from outside. -/
def DelegatedError.toStorageError : DelegatedError -> StorageError :=
  fun _ => .other

/-! ## What may change in a credential that is written back -/

def requireSame (same : Bool) (field : String) : Except DelegatedError Unit :=
  if same then .ok () else .error (.immutableFieldViolation field.toList)

def verifyImmutableFields (old new : Credential) : Except DelegatedError Unit := do
  requireSame (old.id = new.id) "credential_id"
  requireSame (old.rpId.canonical = new.rpId.canonical) "rp_id"
  requireSame (old.userId = new.userId) "user_id"
  requireSame (old.userName = new.userName) "user_name"
  requireSame (old.userDisplayName = new.userDisplayName) "user_display_name"
  requireSame (old.alg = new.alg) "alg"
  requireSame (old.created = new.created) "created"
  requireSame (old.discoverable = new.discoverable) "discoverable"
  requireSame (old.key.material = new.key.material) "private_key"
  requireSame (old.extensions.credProtect = new.extensions.credProtect) "extensions.cred_protect"
  requireSame (old.extensions.hmacSecret = new.extensions.hmacSecret) "extensions.hmac_secret"
  requireSame (old.extensions.credRandom = new.extensions.credRandom) "extensions.cred_random"

/-- The written credential with the HMAC flag of the stored one, as the checks see it. -/
def Credential.withFlagOf (cred latest : Credential) : Credential :=
  { cred.asWritten with
    extensions :=
      { cred.asWritten.extensions with hmacSecret := latest.extensions.hmacSecret } }

/-- The fields the checks compare. -/
structure SameImmutable (old new : Credential) : Prop where
  id : old.id = new.id
  rpId : old.rpId.canonical = new.rpId.canonical
  userId : old.userId = new.userId
  userName : old.userName = new.userName
  userDisplayName : old.userDisplayName = new.userDisplayName
  alg : old.alg = new.alg
  created : old.created = new.created
  discoverable : old.discoverable = new.discoverable
  material : old.key.material = new.key.material
  credProtect : old.extensions.credProtect = new.extensions.credProtect
  hmacSecret : old.extensions.hmacSecret = new.extensions.hmacSecret
  credRandom : old.extensions.credRandom = new.extensions.credRandom

theorem requireSame_eq_ok :
    requireSame same field = .ok () <-> same = true := by
  unfold requireSame
  split_ifs with holds
  · exact iff_of_true rfl holds
  · exact iff_of_false nofun holds

theorem verifyImmutableFields_eq_ok {old new : Credential} :
    verifyImmutableFields old new = .ok () <-> SameImmutable old new := by
  unfold verifyImmutableFields
  simp only [check_eq_ok, requireSame_eq_ok, decide_eq_true_eq]
  constructor
  · rintro ⟨id, rpId, userId, userName, userDisplayName, alg, created, discoverable, material,
      credProtect, hmacSecret, credRandom⟩
    exact ⟨id, rpId, userId, userName, userDisplayName, alg, created, discoverable, material,
      credProtect, hmacSecret, credRandom⟩
  · intro same
    exact ⟨same.id, same.rpId, same.userId, same.userName, same.userDisplayName, same.alg,
      same.created, same.discoverable, same.material, same.credProtect, same.hmacSecret,
      same.credRandom⟩

/-! ## The view -/

structure SharedDelegatedStorage (σ : Type) where
  human : σ
  allowedRpIds : SortedSet Text
  allowedCredRefs : SortedSet CredentialRef
  credRefToRawId : Table CredentialRef CredentialId
  scope : CeremonyScope
  (constantCounterMode registrationAllowed : Bool)

/-- The calls of the storage interface.  Whether the operating system carries out a write is
part of the call. -/
inductive StorageCall
  | readFirst (filter : ReadFilter)
  | readNext
  | read (id : CredentialId)
  | write (cred : Credential) (saved : Bool)
  | delete (id : CredentialId)
  | listRelyingParties
  | countCredentials
  | cleanupExpiredCache

structure RelyingPartyMetadata where
  id : Text
  name : Option Text
  credentialCount : Nat

inductive StorageAnswer
  | credential (result : Except StorageError Credential)
  | done (result : Except StorageError Unit)
  | relyingParties (list : List RelyingPartyMetadata)
  | count (number : Nat)
  | none

section Index

variable (env : Env) (wanted : CredentialRef -> Bool)

/-- Enter the credentials of a loop whose references are wanted. -/
def indexCredentials (credentials : List Credential) :
    Table CredentialRef CredentialId :=
  credentials.foldl
    (fun index cred =>
      let ref := withDefaultDomain env cred.id
      if wanted ref then index.insert ref cred.id else index)
    .empty

/-- An index leads from wanted references to identifiers with these references. -/
def IndexOf (index : Table CredentialRef CredentialId) : Prop :=
  ∀ ref rawId, index.get ref = some rawId ->
    wanted ref = true /\ withDefaultDomain env rawId = ref

theorem indexOf_empty : IndexOf env wanted .empty := by
  intro ref rawId found
  cases found

theorem indexCredentials_indexOf (credentials : List Credential) :
    IndexOf env wanted (indexCredentials env wanted credentials) := by
  have extended : ∀ (rest : List Credential) (index : Table CredentialRef CredentialId),
      IndexOf env wanted index -> IndexOf env wanted (rest.foldl
        (fun index cred =>
          let ref := withDefaultDomain env cred.id
          if wanted ref then index.insert ref cred.id else index) index) := by
    intro rest
    induction rest with
    | nil => exact fun _ indexed => indexed
    | cons head tail ih =>
      intro index indexed
      apply ih
      dsimp only
      split_ifs with chosen
      · intro ref rawId found
        rw [Table.get_insert] at found
        split_ifs at found with same
        · cases found
          exact ⟨same ▸ chosen, same.symm⟩
        · exact indexed ref rawId found
      · exact indexed
  exact extended credentials .empty (indexOf_empty env wanted)

end Index

namespace SharedDelegatedStorage

variable {σ : Type} [CredentialStorage σ] (env : Env)

def new (human : σ) (rpIds : List Text) (credRefs : List CredentialRef)
    (constantCounterMode registrationAllowed : Bool) : SharedDelegatedStorage σ where
  human
  allowedRpIds := .ofList (rpIds.map Text.canonical)
  allowedCredRefs := .ofList credRefs
  credRefToRawId := .empty
  scope := .new
  constantCounterMode
  registrationAllowed

def buildIndex (storage : SharedDelegatedStorage σ) :
    Except DelegatedError Unit × SharedDelegatedStorage σ :=
  match visit storage.human with
  | .error error => (.error (.internal error), storage)
  | .ok credentials =>
    (.ok (),
      { storage with
        credRefToRawId :=
          indexCredentials env storage.allowedCredRefs.contains credentials })

section Checks

variable (storage : SharedDelegatedStorage σ)

def isRpAllowed (rpId : Text) : Bool :=
  storage.allowedRpIds.contains rpId.canonical

/-- The relying party is the one of the ceremony. -/
def isCeremonyRp (rpId : Text) : Bool :=
  storage.scope.activeRpId = some rpId.canonical

def resolveRawId (ref : CredentialRef) : Except DelegatedError CredentialId :=
  match storage.credRefToRawId.get ref with
  | some rawId => .ok rawId
  | none => .error (.credentialNotAllowed ref)

def requireActiveCeremony : Except StorageError Unit :=
  match storage.scope.activeAction with
  | some (.authenticate _) => .ok ()
  | some .register => if storage.registrationAllowed then .ok () else .error .doesNotExist
  | none => .error .doesNotExist

def requireCeremonyCred (ref : CredentialRef) : Except StorageError Unit :=
  if storage.scope.activeCredRef = some ref then .ok () else .error .doesNotExist

def verifyCounter (old new : Credential) : Except DelegatedError Unit :=
  if storage.constantCounterMode then
    if new.signCount ≠ old.signCount then .error .counterNotMonotonic else .ok ()
  else if new.signCount <= old.signCount then .error .counterNotMonotonic
  else .ok ()

/-- Read the credential of a reference, if it belongs to the ceremony's relying party. -/
def readReference (ref : CredentialRef) : Except StorageError Credential := do
  let rawId <- (storage.resolveRawId ref).mapError (fun _ => StorageError.doesNotExist)
  let cred <- CredentialStorage.read storage.human rawId
  if !storage.isRpAllowed cred.rpId || !storage.isCeremonyRp cred.rpId then
    throw .doesNotExist
  return cred

/-- The credential of the ceremony. -/
def activeReference : Except StorageError CredentialRef :=
  match storage.scope.activeCredRef with
  | some ref => .ok ref
  | none => .error .doesNotExist

def readFirst (filter : ReadFilter) : Except StorageError Credential := do
  storage.requireActiveCeremony
  let active <- storage.activeReference
  match filter with
  | .byRp rpId =>
    if !storage.isRpAllowed rpId || !storage.isCeremonyRp rpId then .error .doesNotExist
    else storage.readReference active
  | .byId id =>
    let ref := withDefaultDomain env id
    if !storage.allowedCredRefs.contains ref then .error .doesNotExist
    else do
      storage.requireCeremonyCred ref
      storage.readReference ref
  | .none => storage.readReference active
  | .byHash _ => .error .doesNotExist

def readNext : Except StorageError Credential := do
  storage.requireActiveCeremony
  .error .doesNotExist

def read (id : CredentialId) : Except StorageError Credential := do
  storage.requireActiveCeremony
  let ref := withDefaultDomain env id
  storage.requireCeremonyCred ref
  if !storage.allowedCredRefs.contains ref then .error .doesNotExist
  else storage.readReference ref

/-- The checks on a credential that a registration writes. -/
def checkRegistered (activeRpId : Text) (cred : Credential) : Except StorageError Unit :=
  if !storage.registrationAllowed || !storage.isRpAllowed cred.rpId.canonical ||
      decide (cred.rpId.canonical ≠ activeRpId) then
    .error DelegatedError.writeDenied.toStorageError
  else .ok ()

/-- The checks on a credential that is written back. -/
def checkWriteBack (activeRpId : Text) (cred : Credential) : Except StorageError Unit := do
  let ref := withDefaultDomain env cred.id
  storage.requireCeremonyCred ref
  if !storage.allowedCredRefs.contains ref then
    throw DelegatedError.writeDenied.toStorageError
  let rawId <- (storage.resolveRawId ref).mapError
    (fun _ => DelegatedError.writeDenied.toStorageError)
  let latest <- CredentialStorage.read storage.human rawId
  if !storage.isRpAllowed latest.rpId || decide (latest.rpId.canonical ≠ activeRpId) then
    throw (DelegatedError.rpIdNotAllowed latest.rpId.canonical).toStorageError
  (verifyImmutableFields latest (cred.withFlagOf latest)).mapError
    DelegatedError.toStorageError
  (storage.verifyCounter latest (cred.withFlagOf latest)).mapError
    DelegatedError.toStorageError

/-- Everything that is checked before the store is written. -/
def checkWrite (cred : Credential) : Except StorageError Unit := do
  storage.requireActiveCeremony
  match storage.scope.active with
  | none => .error DelegatedError.writeDenied.toStorageError
  | some ceremony =>
    match ceremony.action with
    | .register => storage.checkRegistered ceremony.rpId cred
    | .authenticate _ => storage.checkWriteBack env ceremony.rpId cred

def write (cred : Credential) (saved : Bool) :
    Except StorageError Unit × SharedDelegatedStorage σ :=
  match storage.checkWrite env cred with
  | .error error => (.error error, storage)
  | .ok () =>
    match CredentialStorage.write storage.human cred saved with
    | (result, human) => (result, { storage with human })

def delete (_storage : SharedDelegatedStorage σ) (_id : CredentialId) : Except StorageError Unit :=
  .error DelegatedError.deleteDenied.toStorageError

/-- The interface's own loop: it counts what `read_first` finds, since `read_next` finds
nothing. -/
def listRelyingParties : List RelyingPartyMetadata :=
  match storage.readFirst env .none with
  | .ok cred => [⟨cred.rpId, cred.rpName, 1⟩]
  | .error _ => []

def countCredentials : Nat :=
  match storage.scope.activeCredRef with
  | some ref => if (storage.credRefToRawId.get ref).isSome then 1 else 0
  | none => 0

def cleanupExpiredCache : SharedDelegatedStorage σ :=
  { storage with human := CredentialStorage.cleanupExpiredCache storage.human }

def call : StorageCall -> StorageAnswer × SharedDelegatedStorage σ
  | .readFirst filter => (.credential (storage.readFirst env filter), storage)
  | .readNext => (.credential storage.readNext, storage)
  | .read id => (.credential (storage.read env id), storage)
  | .write cred saved =>
    let (result, after) := storage.write env cred saved
    (.done result, after)
  | .delete id => (.done (storage.delete id), storage)
  | .listRelyingParties => (.relyingParties (storage.listRelyingParties env), storage)
  | .countCredentials => (.count storage.countCredentials, storage)
  | .cleanupExpiredCache => (.none, storage.cleanupExpiredCache)

end Checks

/-! ## What is read -/

section Reads

variable {env} {storage : SharedDelegatedStorage σ}

/-- A credential that the ceremony may see: it is the ceremony's credential, found through the
index, and belongs to the ceremony's relying party. -/
structure Served (storage : SharedDelegatedStorage σ) (ceremony : ActiveCeremony)
    (ref : CredentialRef) (cred : Credential) : Prop where
  active : storage.scope.active = some ceremony
  action : ceremony.action = .authenticate ref
  indexed : storage.credRefToRawId.get ref = some cred.id
  stored : CredentialStorage.read storage.human cred.id = .ok cred
  rpId : cred.rpId.canonical = ceremony.rpId
  allowed : storage.isRpAllowed cred.rpId = true

theorem readReference_ok (active : storage.scope.activeCredRef = some ref)
    (found : storage.readReference ref = .ok cred) :
    ∃ ceremony, storage.Served ceremony ref cred := by
  rcases CeremonyScope.activeCredRef_eq_some.mp active with ⟨ceremony, current, action⟩
  unfold readReference resolveRawId at found
  simp only [bind_eq_ok, guard_eq_ok, pure_eq_ok] at found
  rcases found with ⟨_, resolved, _, inStore, permitted, rfl⟩
  cases located : storage.credRefToRawId.get ref with
  | none =>
    rw [located] at resolved
    cases resolved
  | some known =>
    rw [located] at resolved
    cases resolved
    have named := read_id inStore
    simp only [Bool.or_eq_true, Bool.not_eq_true', not_or, Bool.not_eq_false] at permitted
    refine ⟨ceremony, current, action, named ▸ located, named ▸ inStore, ?_, permitted.1⟩
    have same := of_decide_eq_true permitted.2
    rw [CeremonyScope.activeRpId, current, Option.map_some, Option.some.injEq] at same
    exact same.symm

omit [CredentialStorage σ] in
theorem activeReference_eq_ok :
    storage.activeReference = .ok ref <-> storage.scope.activeCredRef = some ref := by
  unfold activeReference
  cases storage.scope.activeCredRef with
  | none | some => simp

omit [CredentialStorage σ] in
theorem requireCeremonyCred_eq_ok :
    storage.requireCeremonyCred ref = .ok () <->
      storage.scope.activeCredRef = some ref := by
  unfold requireCeremonyCred
  split_ifs with same
  · exact iff_of_true rfl same
  · exact iff_of_false nofun same

theorem readFirst_ok (found : storage.readFirst env filter = .ok cred) :
    ∃ ceremony ref, storage.Served ceremony ref cred := by
  unfold readFirst at found
  rw [check_eq_ok, bind_eq_ok] at found
  rcases found with ⟨_, active, current, result⟩
  rw [activeReference_eq_ok] at current
  cases filter with
  | none =>
    rcases readReference_ok current result with ⟨ceremony, served⟩
    exact ⟨ceremony, active, served⟩
  | byHash => cases result
  | byRp =>
    rcases readReference_ok current (error_ite_eq_ok.mp result).2 with ⟨ceremony, served⟩
    exact ⟨ceremony, active, served⟩
  | byId =>
    have checked := (error_ite_eq_ok.mp result).2
    rw [check_eq_ok] at checked
    rcases checked with ⟨matching, result⟩
    rcases readReference_ok (requireCeremonyCred_eq_ok.mp matching) result with
      ⟨ceremony, served⟩
    exact ⟨ceremony, _, served⟩

theorem read_ok {id : CredentialId} (found : storage.read env id = .ok cred) :
    ∃ ceremony ref, storage.Served ceremony ref cred := by
  unfold read at found
  simp only [check_eq_ok, error_ite_eq_ok] at found
  rcases found with ⟨_, matching, _, result⟩
  rcases readReference_ok (requireCeremonyCred_eq_ok.mp matching) result with ⟨ceremony, served⟩
  exact ⟨ceremony, _, served⟩

omit [CredentialStorage σ] in
theorem readNext_ne_ok (cred : Credential) : storage.readNext ≠ .ok cred := by
  intro found
  unfold readNext at found
  rw [check_eq_ok] at found
  rcases found with ⟨_, never⟩
  cases never

end Reads

/-! ## What is written -/

section Writes

variable {env} {storage : SharedDelegatedStorage σ}

/-- The counter of a written credential is one that the storage accepts. -/
def CounterAllowed (storage : SharedDelegatedStorage σ) (old new : Nat) : Prop :=
  if storage.constantCounterMode then new = old else old < new

omit [CredentialStorage σ] in
theorem verifyCounter_eq_ok {old new : Credential} :
    storage.verifyCounter old new = .ok () <->
      storage.CounterAllowed old.signCount new.signCount := by
  unfold verifyCounter CounterAllowed
  split_ifs <;> simp_all

/-- A registration that passed its checks. -/
structure Registers (storage : SharedDelegatedStorage σ) (ceremony : ActiveCeremony)
    (cred : Credential) : Prop where
  active : storage.scope.active = some ceremony
  action : ceremony.action = .register
  rpId : cred.rpId.canonical = ceremony.rpId

/-- A credential that is written back and passed its checks. -/
structure WritesBack (storage : SharedDelegatedStorage σ) (ceremony : ActiveCeremony)
    (ref : CredentialRef) (latest cred : Credential) : Prop where
  served : storage.Served ceremony ref latest
  allowed : storage.allowedCredRefs.contains ref = true
  immutable : SameImmutable latest (cred.withFlagOf latest)
  counter : storage.CounterAllowed latest.signCount cred.signCount

omit [CredentialStorage σ] in
theorem resolveRawId_eq_ok :
    storage.resolveRawId ref = .ok rawId <->
      storage.credRefToRawId.get ref = some rawId := by
  unfold resolveRawId
  cases storage.credRefToRawId.get ref <;> simp

theorem checkWriteBack_ok {ceremony : ActiveCeremony} {cred : Credential}
    (active : storage.scope.active = some ceremony)
    (checked : storage.checkWriteBack env ceremony.rpId cred = .ok ()) :
    ∃ latest, storage.WritesBack ceremony
      (withDefaultDomain env cred.id) latest cred := by
  unfold checkWriteBack at checked
  rw [check_eq_ok, requireCeremonyCred_eq_ok] at checked
  simp only [bind_eq_ok, guard_eq_ok, mapError_eq_ok, resolveRawId_eq_ok, Unique.exists_iff,
    PUnit.default_eq_unit, verifyImmutableFields_eq_ok, verifyCounter_eq_ok] at checked
  rcases checked with
    ⟨matching, listed, _, indexed, latest, stored, permitted, immutable, counter⟩
  rcases CeremonyScope.activeCredRef_eq_some.mp matching with ⟨_, current, action⟩
  rw [active] at current
  cases current
  have named := read_id stored
  simp only [Bool.or_eq_true, Bool.not_eq_true', not_or, Bool.not_eq_false, decide_eq_true_eq,
    not_not] at permitted listed
  exact ⟨latest, ⟨active, action, named ▸ indexed, named ▸ stored, permitted.2, permitted.1⟩,
    listed, immutable, counter⟩

theorem checkWrite_ok (checked : storage.checkWrite env cred = .ok ()) :
    (∃ ceremony, storage.Registers ceremony cred) ∨
      ∃ ceremony latest, storage.WritesBack ceremony
        (withDefaultDomain env cred.id) latest cred := by
  unfold checkWrite at checked
  rw [check_eq_ok] at checked
  rcases checked with ⟨_, checked⟩
  split at checked
  · cases checked
  next ceremony active =>
    split at checked
    next action =>
      have permitted := (error_ite_eq_ok.mp checked).1
      simp only [Bool.or_eq_true, not_or, decide_eq_true_eq, not_not] at permitted
      exact .inl ⟨ceremony, active, action, permitted.2⟩
    next ref action =>
      rcases checkWriteBack_ok active checked with ⟨latest, writesBack⟩
      exact .inr ⟨ceremony, latest, writesBack⟩

/-- A write that is refused or fails leaves what the store reads. -/
theorem write_cases (storage : SharedDelegatedStorage σ) (cred : Credential) (saved : Bool) :
    (¬(storage.checkWrite env cred = .ok () /\
          (CredentialStorage.write storage.human cred saved).1 = .ok ()) /\
        ∀ id, CredentialStorage.read (storage.write env cred saved).2.human id =
          CredentialStorage.read storage.human id) ∨
      storage.checkWrite env cred = .ok () /\
        (CredentialStorage.write storage.human cred saved).1 = .ok () /\
        ∀ id, CredentialStorage.read (storage.write env cred saved).2.human id =
          if id = cred.id then .ok cred.asWritten
          else CredentialStorage.read storage.human id := by
  unfold write
  cases checked : storage.checkWrite env cred with
  | error error => exact .inl ⟨nofun, fun _ => rfl⟩
  | ok _ =>
    cases result : (CredentialStorage.write storage.human cred saved).1 with
    | error error => exact .inl ⟨nofun, read_unwritten result⟩
    | ok _ => exact .inr ⟨rfl, rfl, read_written result⟩

end Writes

end SharedDelegatedStorage

end ControlVault.Storage
