import ControlVault.Storage.Confinement
import Mathlib.Data.Set.Card

namespace ControlVault.Storage

open Foundation Core DelegatedError CredentialRef CredentialStorage

/-!
# The storage of an isolated endpoint

An isolated profile has a store of its own, wrapped by the same kind of view that
delegation uses, but with every credential of the store in its index.

The index is built once.  A registration writes to the store and leaves the index as
it is, so the new credential cannot be used before the index is built again.
-/

structure IsolatedScopedStorage (σ : Type) where
  backend : σ
  scope : CeremonyScope
  allowedRpIds : SortedSet Text
  registrationAllowed : Bool
  credRefToRawId : Table CredentialRef CredentialId

namespace IsolatedScopedStorage

variable {σ : Type} [CredentialStorage σ] (env : Env)

def new (backend : σ) (scope : CeremonyScope) (rpIds : List Text) (registrationAllowed : Bool) :
    IsolatedScopedStorage σ where
  backend
  scope
  allowedRpIds := .ofList (rpIds.map Text.canonical)
  registrationAllowed
  credRefToRawId := .empty

def buildIndex (storage : IsolatedScopedStorage σ) :
    Except DelegatedError Unit × IsolatedScopedStorage σ :=
  match visit storage.backend with
  | .error error => (.error (.internal error), storage)
  | .ok credentials =>
    (.ok (), { storage with credRefToRawId := indexCredentials env (fun _ => true) credentials })

section Calls

variable (storage : IsolatedScopedStorage σ)

def isRpAllowed (rpId : Text) : Bool :=
  storage.allowedRpIds.contains rpId.canonical

def isCeremonyRp (rpId : Text) : Bool :=
  storage.scope.activeRpId = some rpId.canonical

def resolveRawId (ref : CredentialRef) : Except DelegatedError CredentialId :=
  match storage.credRefToRawId.get ref with
  | some rawId => .ok rawId
  | none => .error (.credentialNotAllowed ref)

def requireAuthScope : Except StorageError CredentialRef :=
  match storage.scope.activeAction with
  | some (.authenticate ref) => .ok ref
  | _ => .error .doesNotExist

/-- Read the credential of a reference, if it belongs to the ceremony's relying party. -/
def readReference (ref : CredentialRef) : Except StorageError Credential := do
  let rawId <- (storage.resolveRawId ref).mapError (fun _ => StorageError.doesNotExist)
  let cred <- CredentialStorage.read storage.backend rawId
  if !storage.isRpAllowed cred.rpId || !storage.isCeremonyRp cred.rpId then
    throw .doesNotExist
  return cred

/-- The filter does not exclude the credential of the ceremony. -/
def passes (ref : CredentialRef) : ReadFilter -> Bool
  | .byRp rpId => storage.isRpAllowed rpId && storage.isCeremonyRp rpId
  | .byId id => decide (withDefaultDomain env id = ref)
  | .none => true
  | .byHash _ => false

def readFirst (filter : ReadFilter) : Except StorageError Credential := do
  let ref <- storage.requireAuthScope
  if !storage.passes env ref filter then throw .doesNotExist
  storage.readReference ref

def readNext : Except StorageError Credential := do
  let _ <- storage.requireAuthScope
  .error .doesNotExist

def read (id : CredentialId) : Except StorageError Credential := do
  let ref <- storage.requireAuthScope
  if withDefaultDomain env id ≠ ref then throw .doesNotExist
  storage.readReference ref

/-- The checks on a credential that a registration writes. -/
def checkRegistered (activeRpId : Text) (cred : Credential) : Except StorageError Unit :=
  if !storage.registrationAllowed then .error registrationDenied.toStorageError
  else if !storage.isRpAllowed cred.rpId || decide (cred.rpId.canonical ≠ activeRpId) then
    .error (rpIdNotAllowed cred.rpId.canonical).toStorageError
  else .ok ()

/-- The checks on a credential that is written back. -/
def checkWriteBack (active : CredentialRef) (activeRpId : Text) (cred : Credential) :
    Except StorageError Unit := do
  if withDefaultDomain env cred.id ≠ active then
    throw writeDenied.toStorageError
  let rawId <- (storage.resolveRawId active).mapError (fun _ => writeDenied.toStorageError)
  let latest <- CredentialStorage.read storage.backend rawId
  if !storage.isRpAllowed latest.rpId || decide (latest.rpId.canonical ≠ activeRpId) then
    throw (rpIdNotAllowed latest.rpId.canonical).toStorageError
  (verifyImmutableFields latest (cred.withFlagOf latest)).mapError toStorageError
  if (cred.withFlagOf latest).signCount <= latest.signCount then
    throw counterNotMonotonic.toStorageError

def checkWrite (cred : Credential) : Except StorageError Unit :=
  match storage.scope.active with
  | none => .error writeDenied.toStorageError
  | some ceremony =>
    match ceremony.action with
    | .register => storage.checkRegistered ceremony.rpId cred
    | .authenticate ref => storage.checkWriteBack env ref ceremony.rpId cred

def write (cred : Credential) (saved : Bool) :
    Except StorageError Unit × IsolatedScopedStorage σ :=
  match storage.checkWrite env cred with
  | .error error => (.error error, storage)
  | .ok () =>
    match CredentialStorage.write storage.backend cred saved with
    | (result, backend) => (result, { storage with backend })

def delete (_storage : IsolatedScopedStorage σ) (_id : CredentialId) : Except StorageError Unit :=
  .error deleteDenied.toStorageError

def countCredentials : Nat :=
  match storage.scope.activeAction with
  | some (.authenticate _) => 1
  | _ => 0

/-- The interface's own loop: it counts what `read_first` finds, since `read_next` finds
nothing. -/
def listRelyingParties : List RelyingPartyMetadata :=
  match storage.readFirst env .none with
  | .ok cred => [⟨cred.rpId, cred.rpName, 1⟩]
  | .error _ => []

def call : StorageCall -> StorageAnswer × IsolatedScopedStorage σ
  | .readFirst filter => (.credential (storage.readFirst env filter), storage)
  | .readNext => (.credential storage.readNext, storage)
  | .read id => (.credential (storage.read env id), storage)
  | .write cred saved =>
    let (result, after) := storage.write env cred saved
    (.done result, after)
  | .delete id => (.done (storage.delete id), storage)
  | .listRelyingParties => (.relyingParties (storage.listRelyingParties env), storage)
  | .countCredentials => (.count storage.countCredentials, storage)
  | .cleanupExpiredCache =>
    (.none, { storage with backend := cleanupExpiredCache storage.backend })

end Calls

/-! ## Runs without rebuilding the index -/

inductive Operation
  | activate (action : CeremonyAction) (rpId : Text)
  | dropGuard (gen : Nat)
  | call (call : StorageCall)

def perform (storage : IsolatedScopedStorage σ) : Operation -> IsolatedScopedStorage σ
  | .activate action rpId => { storage with scope := (storage.scope.activate action rpId).2 }
  | .dropGuard gen => { storage with scope := storage.scope.drop gen }
  | .call call => (storage.call env call).2

def Steps (before : IsolatedScopedStorage σ) (op : Operation)
    (after : IsolatedScopedStorage σ) : Prop :=
  before.perform env op = after

/-- What operations leave alone: everything but the store and the scope. -/
structure SameSettings (first second : IsolatedScopedStorage σ) : Prop where
  allowedRpIds : second.allowedRpIds = first.allowedRpIds
  index : second.credRefToRawId = first.credRefToRawId

theorem perform_sameSettings (storage : IsolatedScopedStorage σ) (op : Operation) :
    storage.SameSettings (storage.perform env op) := by
  cases op with
  | activate | dropGuard => exact ⟨rfl, rfl⟩
  | call call =>
    cases call with
    | write cred saved =>
      change storage.SameSettings (storage.write env cred saved).2
      unfold write
      split
      · exact ⟨rfl, rfl⟩
      · exact ⟨rfl, rfl⟩
    | _ => exact ⟨rfl, rfl⟩

theorem sameSettings_of_run {storage later : IsolatedScopedStorage σ} {ops : List Operation}
    (run : Run (Steps env) storage ops later) : storage.SameSettings later := by
  apply run.invariant
  · intro before op after same taken
    cases taken
    have next := perform_sameSettings env before op
    exact ⟨next.allowedRpIds.trans same.allowedRpIds, next.index.trans same.index⟩
  · exact ⟨rfl, rfl⟩

/-! ## Using a credential -/

section Reads

variable {env} {storage : IsolatedScopedStorage σ} {ceremony : ActiveCeremony}

omit [CredentialStorage σ] in
theorem requireAuthScope_eq_ok :
    storage.requireAuthScope = .ok ref <->
      ∃ ceremony, storage.scope.active = some ceremony /\
        ceremony.action = .authenticate ref := by
  unfold requireAuthScope CeremonyScope.activeAction
  cases storage.scope.active with
  | none => simp
  | some ceremony => cases action : ceremony.action <;> simp [action]

section

variable (active : storage.scope.active = some ceremony)

include active

variable {cred : Credential}

theorem readReference_eq_ok :
    storage.readReference ref = .ok cred <->
      storage.credRefToRawId.get ref = some cred.id /\
        CredentialStorage.read storage.backend cred.id = .ok cred /\
        storage.isRpAllowed cred.rpId = true /\
        cred.rpId.canonical = ceremony.rpId := by
  have resolve_eq_ok {rawId : CredentialId} : storage.resolveRawId ref = .ok rawId <->
      storage.credRefToRawId.get ref = some rawId := by
    unfold resolveRawId
    cases storage.credRefToRawId.get ref <;> simp
  have here (rpId : Text) : storage.isCeremonyRp rpId = true <-> rpId.canonical = ceremony.rpId := by
    unfold isCeremonyRp CeremonyScope.activeRpId
    rw [active, Option.map_some, decide_eq_true_eq, Option.some.injEq]
    exact eq_comm
  unfold readReference
  simp only [bind_eq_ok, guard_eq_ok, pure_eq_ok, mapError_eq_ok, resolve_eq_ok, Bool.or_eq_true,
    Bool.not_eq_true', not_or, Bool.not_eq_false, here]
  constructor
  · rintro ⟨rawId, located, found, stored, permitted, rfl⟩
    have named := read_id stored
    exact ⟨named ▸ located, named ▸ stored, permitted⟩
  · rintro ⟨located, stored, permitted⟩
    exact ⟨cred.id, located, cred, stored, permitted, rfl⟩

theorem read_of_scope {id : CredentialId} (action : ceremony.action = .authenticate ref)
    (named : withDefaultDomain env id = ref) :
    storage.read env id = storage.readReference ref := by
  rw [read, requireAuthScope_eq_ok.mpr ⟨ceremony, active, action⟩]
  exact if_neg (not_not.mpr named)

theorem readFirst_of_scope (action : ceremony.action = .authenticate ref) :
    storage.readFirst env .none = storage.readReference ref := by
  rw [readFirst, requireAuthScope_eq_ok.mpr ⟨ceremony, active, action⟩]
  rfl

theorem write_larger (action : ceremony.action = .authenticate (withDefaultDomain env cred.id))
    (indexed : storage.credRefToRawId.get
      (withDefaultDomain env cred.id) = some cred.id)
    (stored : CredentialStorage.read storage.backend cred.id = .ok cred.asWritten)
    (allowed : storage.isRpAllowed cred.rpId = true)
    (rpId : cred.rpId.canonical = ceremony.rpId) (larger : cred.signCount < count)
    (saved : Bool) :
    (storage.write env { cred with signCount := count } saved).1 =
      (CredentialStorage.write storage.backend { cred with signCount := count }
        saved).1 := by
  have checked : storage.checkWrite env { cred with signCount := count } = .ok () := by
    have immutable : verifyImmutableFields cred.asWritten
        (Credential.withFlagOf { cred with signCount := count } cred.asWritten) =
        .ok () :=
      verifyImmutableFields_eq_ok.mpr ⟨rfl, rfl, rfl, rfl, rfl, rfl, rfl, rfl, rfl, rfl, rfl, rfl⟩
    have permitted : ¬ (!storage.isRpAllowed cred.asWritten.rpId ||
        decide (cred.asWritten.rpId.canonical ≠ ceremony.rpId)) = true := by
      simp only [Bool.or_eq_true, Bool.not_eq_true', decide_eq_true_eq, not_or, Bool.not_eq_false,
        not_not]
      exact ⟨allowed, rpId⟩
    unfold checkWrite
    rw [active]
    dsimp only
    rw [action]
    unfold checkWriteBack resolveRawId
    dsimp only
    rw [indexed, if_neg (not_not.mpr rfl)]
    change (CredentialStorage.read storage.backend cred.id >>= _) = _
    rw [stored]
    change (if _ then _ else _) = _
    rw [if_neg permitted, immutable]
    exact if_neg (Nat.not_le.mpr larger)
  unfold write
  rw [checked]

theorem checkWrite_register (action : ceremony.action = .register)
    (checked : storage.checkWrite env cred = .ok ()) :
    storage.isRpAllowed cred.rpId = true /\ cred.rpId.canonical = ceremony.rpId := by
  unfold checkWrite at checked
  rw [active] at checked
  dsimp only at checked
  rw [action] at checked
  unfold checkRegistered at checked
  rw [error_ite_eq_ok, error_ite_eq_ok] at checked
  have permitted := checked.2.1
  simp only [Bool.or_eq_true, Bool.not_eq_true', decide_eq_true_eq, not_or, Bool.not_eq_false,
    not_not] at permitted
  exact permitted

end

theorem checkWrite_of_written (written : (storage.write env cred saved).1 = .ok ()) :
    storage.checkWrite env cred = .ok () := by
  unfold write at written
  split at written
  · cases written
  · assumption

end Reads

/-! ## What belongs to a scope -/

/-- A credential of the store that the active scope is about. -/
def Belongs (storage : IsolatedScopedStorage σ) (cred : Credential) : Prop :=
  ∃ ceremony, storage.scope.active = some ceremony /\
    ceremony.action = .authenticate (withDefaultDomain env cred.id) /\
    CredentialStorage.read storage.backend cred.id = .ok cred /\
    storage.isRpAllowed cred.rpId = true /\ cred.rpId.canonical = ceremony.rpId

/-- The count is the number of credentials that belong to the scope, and the first one that is
read is one of them, if there is any. -/
structure AgreesWithStore (storage : IsolatedScopedStorage σ) : Prop where
  count : Set.encard { cred | storage.Belongs env cred } = storage.countCredentials
  first : ∀ cred, storage.readFirst env .none = .ok cred ->
    storage.Belongs env cred
  found : (∃ cred, storage.Belongs env cred) ->
    ∃ cred, storage.readFirst env .none = .ok cred

/-- The credential of an authentication is in the store, in the index, and the only one with
its reference. -/
def Settled (storage : IsolatedScopedStorage σ) : Prop :=
  ∀ ceremony ref, storage.scope.active = some ceremony ->
    ceremony.action = .authenticate ref ->
      ∃ cred, storage.credRefToRawId.get ref = some cred.id /\
        ∀ other, storage.Belongs env other <-> other = cred

section Agreement

variable {env} {storage : IsolatedScopedStorage σ}

theorem not_belongs_of_register (register : ∀ ceremony ref, storage.scope.active = some ceremony ->
      ceremony.action ≠ .authenticate ref) :
    { cred | storage.Belongs env cred } = ∅ /\ storage.countCredentials = 0 /\
      ∀ cred, storage.readFirst env .none ≠ .ok cred := by
  refine ⟨?_, ?_, ?_⟩
  · apply Set.eq_empty_of_forall_notMem
    rintro cred ⟨ceremony, active, action, _⟩
    exact register ceremony _ active action
  · unfold countCredentials CeremonyScope.activeAction
    cases active : storage.scope.active with
    | none => rfl
    | some ceremony =>
      cases action : ceremony.action with
      | register => simp [action]
      | authenticate ref => exact absurd action (register ceremony ref active)
  · intro cred found
    unfold readFirst at found
    rw [bind_eq_ok] at found
    rcases found with ⟨ref, scope, _⟩
    rcases requireAuthScope_eq_ok.mp scope with ⟨ceremony, active, action⟩
    exact register ceremony ref active action

/-- What the index finds belongs to the scope. -/
theorem belongs_of_readFirst (indexed : IndexOf env (fun _ => true) storage.credRefToRawId)
    (active : storage.scope.active = some ceremony)
    (action : ceremony.action = .authenticate ref)
    (found : storage.readFirst env .none = .ok cred) :
    storage.credRefToRawId.get ref = some cred.id /\
      storage.Belongs env cred := by
  rw [readFirst_of_scope active action] at found
  rcases (readReference_eq_ok active).mp found with ⟨located, stored, allowed, rpId⟩
  have named := (indexed ref cred.id located).2
  exact ⟨located, ceremony, active, named ▸ action, stored, allowed, rpId⟩

theorem agreesWithStore_iff_settled (indexed : IndexOf env (fun _ => true) storage.credRefToRawId) :
    storage.AgreesWithStore env <-> storage.Settled env := by
  by_cases authenticates : ∃ ceremony ref, storage.scope.active = some ceremony /\
      ceremony.action = .authenticate ref
  · rcases authenticates with ⟨ceremony, ref, active, action⟩
    have one : storage.countCredentials = 1 := by
      unfold countCredentials CeremonyScope.activeAction
      rw [active, Option.map_some, action]
    constructor
    · intro agrees other otherReference otherActive otherAction
      rw [active] at otherActive
      cases otherActive
      rw [action] at otherAction
      cases otherAction
      have single := agrees.count
      rw [one, Nat.cast_one, Set.encard_eq_one] at single
      rcases single with ⟨cred, set_eq⟩
      have only : ∀ other, storage.Belongs env other <-> other = cred := by
        intro other
        exact Set.ext_iff.mp set_eq other
      rcases agrees.found ⟨cred, (only cred).mpr rfl⟩ with ⟨first, found⟩
      rcases belongs_of_readFirst indexed active action found with ⟨located, belongs⟩
      rw [(only first).mp belongs] at located
      exact ⟨cred, located, only⟩
    · intro settled
      rcases settled ceremony ref active action with ⟨cred, located, only⟩
      have belongs := (only cred).mpr rfl
      have found : storage.readFirst env .none = .ok cred := by
        rcases belongs with ⟨other, otherActive, _, stored, allowed, rpId⟩
        rw [active] at otherActive
        cases otherActive
        rw [readFirst_of_scope active action]
        exact (readReference_eq_ok active).mpr ⟨located, stored, allowed, rpId⟩
      refine ⟨?_, ?_, fun _ => ⟨cred, found⟩⟩
      · have set_eq : { other | storage.Belongs env other } = {cred} :=
          Set.ext only
        rw [set_eq, Set.encard_singleton, one]
        rfl
      · intro first same
        exact (belongs_of_readFirst indexed active action same).2
  · have register : ∀ ceremony ref, storage.scope.active = some ceremony ->
        ceremony.action ≠ .authenticate ref := by
      intro ceremony ref active action
      exact authenticates ⟨ceremony, ref, active, action⟩
    rcases not_belongs_of_register register with ⟨set_eq, none, nothing⟩
    constructor
    · intro _ ceremony ref active action
      exact absurd action (register ceremony ref active)
    · intro _
      refine ⟨?_, fun cred found => absurd found (nothing cred), ?_⟩
      · rw [set_eq, none, Set.encard_empty]
        rfl
      · rintro ⟨cred, belongs⟩
        exact absurd belongs (Set.eq_empty_iff_forall_notMem.mp set_eq cred)

theorem indexOf_of_buildIndex (success : storage.buildIndex env = (.ok (), built)) :
    IndexOf env (fun _ => true) built.credRefToRawId := by
  unfold buildIndex at success
  split at success
  · cases success
  · cases success
    exact indexCredentials_indexOf env _ _

end Agreement

/-- A registered credential can be read and written back exactly if it was in the index
before; and the count and the first credential tell what belongs to the scope exactly if the
ceremony's credential is stored, indexed and alone. -/
theorem registered_usable_iff_indexed (backend : σ) (scope : CeremonyScope) (rpIds : List Text)
    (registrationAllowed : Bool) (built storage : IsolatedScopedStorage σ)
    (success : (new backend scope rpIds registrationAllowed).buildIndex env = (.ok (), built))
    (ops : List Operation) (run : Run (Steps env) built ops storage) :
    (∀ cred saved ceremony, storage.scope.active = some ceremony ->
      ceremony.action = .register ->
      (storage.write env cred saved).1 = .ok () ->
      ∀ afterwards later gen,
        Run (Steps env) (storage.write env cred saved).2 afterwards later ->
        CredentialStorage.read later.backend cred.id = .ok cred.asWritten ->
        later.scope.active = some ⟨.authenticate (withDefaultDomain env cred.id),
            ceremony.rpId, gen⟩ ->
        (later.read env cred.id = .ok cred.asWritten /\
            (∀ count persistedAgain, cred.signCount < count ->
              (later.write env { cred with signCount := count } persistedAgain).1 =
                (CredentialStorage.write later.backend { cred with signCount := count }
                  persistedAgain).1) <->
          storage.credRefToRawId.get (withDefaultDomain env cred.id) = some cred.id)) /\
      (storage.AgreesWithStore env <-> storage.Settled env) := by
  have settings := sameSettings_of_run env run
  constructor
  · intro cred saved ceremony active action written afterwards later gen
      continues stored inScope
    rcases checkWrite_register active action (checkWrite_of_written written) with ⟨allowed, rpId⟩
    have first : storage.SameSettings (storage.write env cred saved).2 :=
      perform_sameSettings env storage (.call (.write cred saved))
    have second := sameSettings_of_run env continues
    have index : later.credRefToRawId = storage.credRefToRawId := second.index.trans first.index
    have laterAllowed : later.isRpAllowed cred.asWritten.rpId = true := by
      unfold isRpAllowed
      rw [second.allowedRpIds, first.allowedRpIds]
      exact allowed
    rw [read_of_scope inScope rfl rfl, readReference_eq_ok inScope, index]
    constructor
    · exact fun usable => usable.1.1
    · intro located
      refine ⟨⟨located, stored, laterAllowed, rpId⟩, ?_⟩
      intro count persistedAgain larger
      exact write_larger inScope rfl (index ▸ located) stored laterAllowed rpId larger persistedAgain
  · apply agreesWithStore_iff_settled
    rw [settings.index]
    exact indexOf_of_buildIndex success

end IsolatedScopedStorage

namespace Sample

variable (backend : NamedStorage)

/-- An isolated view of a store, with its index. -/
def isolated : IsolatedScopedStorage NamedStorage :=
  ((IsolatedScopedStorage.new backend .new ["example.com"] true).buildIndex sampleEnv).2

/-- The view after a registration of the one credential. -/
def registering : IsolatedScopedStorage NamedStorage :=
  (isolated backend).perform sampleEnv (.activate .register "example.com")

def registered : IsolatedScopedStorage NamedStorage :=
  ((registering backend).write sampleEnv (cred "example.com" none 0) true).2

/-- The view in a later authentication with that credential. -/
def authenticating : IsolatedScopedStorage NamedStorage :=
  (registered backend).perform sampleEnv (.activate (.authenticate ref) "example.com")

/-- A credential that a registration overwrote can be used. -/
theorem rewritten_credential_usable :
    (authenticating (human "example.com")).read sampleEnv [1] =
      .ok (cred "example.com" none 0).asWritten := by
  have built : (IsolatedScopedStorage.new (human "example.com") .new ["example.com"]
      true).buildIndex sampleEnv = (.ok (), isolated (human "example.com")) := by
    apply Prod.ext
    · decide +kernel
    · rfl
  have usable := (IsolatedScopedStorage.registered_usable_iff_indexed sampleEnv
    (human "example.com") .new ["example.com"] true (isolated (human "example.com"))
    (registering (human "example.com")) built _ (Run.single rfl)).1
    (cred "example.com" none 0) true ⟨.register, "example.com", 1⟩
    (by decide +kernel) rfl (by decide +kernel) _ (authenticating (human "example.com")) 2
    (Run.single rfl) (by decide +kernel) (by decide +kernel)
  exact (usable.mpr (by decide +kernel)).1

/-- A new credential is stored, but the authentication after it does not find it, and counts
it all the same. -/
theorem registered_credential_not_found :
    ((registering .empty).write sampleEnv (cred "example.com" none 0) true).1 = .ok () /\
      (authenticating .empty).backend.store.read [1] =
        .ok (cred "example.com" none 0).asWritten /\
      (authenticating .empty).scope.active = some ⟨.authenticate ref, "example.com", 2⟩ /\
      (authenticating .empty).read sampleEnv [1] = .error .doesNotExist /\
      ((authenticating .empty).write sampleEnv (cred "example.com" none 1) true).1 =
        .error .other /\
      (authenticating .empty).readFirst sampleEnv .none = .error .doesNotExist /\
      (authenticating .empty).countCredentials = 1 := by
  decide +kernel

end Sample

end ControlVault.Storage
