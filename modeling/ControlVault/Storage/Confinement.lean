import ControlVault.Foundation.Run
import ControlVault.Storage.Delegated

namespace ControlVault.Storage

open Foundation Core CeremonyScope CredentialStorage

/-!
# What a delegated endpoint can see and change

Reading is confined: whatever a call returns is the credential of the ceremony, and
the answers of a whole ceremony depend on nothing else in the human's store.

Writing is confined only as far as the checks go.  A registration does not look
whether its identifier is taken, so it can replace any credential of the store.  A
credential that is written back is compared field by field, but not in the spelling
of its relying party, that party's name, the kind of its key and its backup state;
and since a reference has no HMAC flag, the flag is lost.
-/

namespace SharedDelegatedStorage

variable {σ : Type} [CredentialStorage σ] (env : Env)

/-! ## Runs -/

inductive Operation
  | buildIndex
  | activate (action : CeremonyAction) (rpId : Text)
  | dropGuard (gen : Nat)
  | call (call : StorageCall)

def perform (storage : SharedDelegatedStorage σ) : Operation -> SharedDelegatedStorage σ
  | .buildIndex => (storage.buildIndex env).2
  | .activate action rpId => { storage with scope := (storage.scope.activate action rpId).2 }
  | .dropGuard gen => { storage with scope := storage.scope.drop gen }
  | .call call => (storage.call env call).2

/-- One operation after the other. -/
def Steps (before : SharedDelegatedStorage σ) (op : Operation)
    (after : SharedDelegatedStorage σ) : Prop :=
  before.perform env op = after

section

variable (storage : SharedDelegatedStorage σ)

/-- The index leads from allowed references to identifiers with these references. -/
def Indexed : Prop :=
  IndexOf env storage.allowedCredRefs.contains storage.credRefToRawId

theorem write_frame (cred : Credential) (saved : Bool) :
    ∃ human, (storage.write env cred saved).2 = { storage with human } := by
  unfold write
  split
  · exact ⟨storage.human, rfl⟩
  · exact ⟨_, rfl⟩

/-- A call changes nothing but the store behind the view. -/
theorem call_frame (call : StorageCall) :
    ∃ human, (storage.call env call).2 = { storage with human } := by
  cases call with
  | write cred saved => exact write_frame env storage cred saved
  | cleanupExpiredCache => exact ⟨_, rfl⟩
  | _ => exact ⟨storage.human, rfl⟩

end

theorem Indexed.perform {storage : SharedDelegatedStorage σ} (indexed : storage.Indexed env)
    (op : Operation) : (storage.perform env op).Indexed env := by
  cases op with
  | buildIndex =>
    change Indexed env (storage.buildIndex env).2
    unfold buildIndex
    split
    · exact indexed
    · exact indexCredentials_indexOf env _ _
  | activate | dropGuard => exact indexed
  | call call =>
    rcases call_frame env storage call with ⟨_, same⟩
    change Indexed env (storage.call env call).2
    rw [same]
    exact indexed

theorem indexed_of_run {human : σ} {rpIds : List Text} {credRefs : List CredentialRef}
    {constantCounterMode registrationAllowed : Bool} {ops : List Operation}
    {storage : SharedDelegatedStorage σ}
    (run : Run (Steps env)
      (new human rpIds credRefs constantCounterMode registrationAllowed) ops storage) :
    storage.Indexed env := by
  apply run.invariant
  · intro before op after indexed taken
    cases taken
    exact indexed.perform env op
  · exact indexOf_empty env _

/-! ## Confinement -/

/-- What may become of the human's store in one call. -/
inductive StoreChange (storage : SharedDelegatedStorage σ) (after : σ) : Prop
  | unchanged
      (same : ∀ id, CredentialStorage.read after id = CredentialStorage.read storage.human id)
  | registered (ceremony : ActiveCeremony) (cred : Credential)
      (active : storage.scope.active = some ceremony) (action : ceremony.action = .register)
      (absent : CredentialStorage.read storage.human cred.id = .error .doesNotExist)
      (rpId : cred.rpId.canonical = ceremony.rpId)
      (added : ∀ id, CredentialStorage.read after id =
        if id = cred.id then .ok cred else CredentialStorage.read storage.human id)
  | counted (ceremony : ActiveCeremony) (ref : CredentialRef) (latest : Credential)
      (count : Nat) (active : storage.scope.active = some ceremony)
      (action : ceremony.action = .authenticate ref)
      (named : CredentialRef.withDefaultDomain env latest.id = ref)
      (stored : CredentialStorage.read storage.human latest.id = .ok latest)
      (allowed : storage.CounterAllowed latest.signCount count)
      (updated : ∀ id, CredentialStorage.read after id =
        if id = latest.id then .ok { latest with signCount := count }
        else CredentialStorage.read storage.human id)

/-- A call keeps to the ceremony: in what it returns, in what it changes, and by doing nothing
at all while there is no ceremony. -/
structure Confined (storage : SharedDelegatedStorage σ) (req : StorageCall) : Prop where
  returned : ∀ cred, (storage.call env req).1 = .credential (.ok cred) ->
    ∃ ceremony ref, storage.scope.active = some ceremony /\
      ceremony.action = .authenticate ref /\
      CredentialRef.withDefaultDomain env cred.id = ref /\
      storage.allowedCredRefs.contains ref = true /\
      cred.rpId.canonical = ceremony.rpId
  listed : ∀ list, (storage.call env req).1 = .relyingParties list ->
    ∀ metadata ∈ list, storage.scope.activeRpId = some metadata.id.canonical
  changed : StoreChange env storage (storage.call env req).2.human
  idle : storage.scope.active = none ->
    (∀ id, CredentialStorage.read (storage.call env req).2.human id =
        CredentialStorage.read storage.human id) /\
      ∀ human : σ, (call env { storage with human } req).1 = (storage.call env req).1

/-- The fields of a stored credential that no check compares are those of the written one. -/
structure SameUnchecked (latest cred : Credential) : Prop where
  hmacSecret : latest.extensions.hmacSecret = none
  rpId : cred.rpId = latest.rpId
  rpName : cred.rpName = latest.rpName
  provider : cred.key.provider = latest.key.provider
  formatVersion : cred.key.formatVersion = latest.key.formatVersion
  backupState : cred.backupState = latest.backupState

/-- A write that passes the checks and succeeds in the store uses a new identifier when it
registers, or one that holds the same credential already; one that writes back also keeps
what is not checked. -/
def Harmless (storage : SharedDelegatedStorage σ) : StorageCall -> Prop
  | .write cred saved =>
    storage.checkWrite env cred = .ok () ->
      (CredentialStorage.write storage.human cred saved).1 = .ok () ->
      match storage.scope.activeAction with
      | some .register =>
        CredentialStorage.read storage.human cred.id = .error .doesNotExist ∨
          CredentialStorage.read storage.human cred.id = .ok cred.asWritten
      | some (.authenticate _) =>
        ∀ latest, CredentialStorage.read storage.human cred.id = .ok latest ->
          SameUnchecked latest cred
      | none => True
  | _ => True

section Proofs

variable {env} {storage : SharedDelegatedStorage σ}

variable {cred : Credential}

/-- What the checks leave open is exactly what a change of the counter must not touch. -/
theorem asWritten_eq_counted_iff (immutable : SameImmutable latest (cred.withFlagOf latest)) :
    cred.asWritten = { latest with signCount := cred.signCount } <->
      SameUnchecked latest cred := by
  rcases immutable with ⟨id, _, userId, userName, userDisplayName, alg, created, discoverable,
    material, credProtect, _, credRandom⟩
  rcases latest with ⟨_, _, _, _, _, _, _, _, ⟨_, _, _⟩, _, _, _, ⟨_, _, _⟩⟩
  dsimp only [Credential.withFlagOf, Credential.asWritten] at *
  subst id userId userName userDisplayName alg created discoverable material credProtect credRandom
  constructor
  · intro same
    simp only [Credential.mk.injEq, Extensions.mk.injEq] at same
    exact ⟨by tauto, by tauto, by tauto, by tauto, by tauto, by tauto⟩
  · rintro ⟨hmacSecret, rpId, rpName, provider, formatVersion, backupState⟩
    subst hmacSecret rpId rpName provider formatVersion backupState
    rfl

theorem Served.returned (indexed : storage.Indexed env)
    (served : storage.Served ceremony ref cred) :
    ∃ ceremony ref, storage.scope.active = some ceremony /\
      ceremony.action = .authenticate ref /\
      CredentialRef.withDefaultDomain env cred.id = ref /\
      storage.allowedCredRefs.contains ref = true /\
      cred.rpId.canonical = ceremony.rpId := by
  rcases indexed ref cred.id served.indexed with ⟨allowed, named⟩
  exact ⟨ceremony, ref, served.active, served.action, named, allowed, served.rpId⟩

theorem returned_of_call (indexed : storage.Indexed env) {call : StorageCall}
    (answered : (storage.call env call).1 = .credential (.ok cred)) :
    ∃ ceremony ref, storage.scope.active = some ceremony /\
      ceremony.action = .authenticate ref /\
      CredentialRef.withDefaultDomain env cred.id = ref /\
      storage.allowedCredRefs.contains ref = true /\
      cred.rpId.canonical = ceremony.rpId := by
  cases call with
  | readFirst =>
    rcases readFirst_ok (StorageAnswer.credential.inj answered) with ⟨_, _, served⟩
    exact served.returned indexed
  | read =>
    rcases read_ok (StorageAnswer.credential.inj answered) with ⟨_, _, served⟩
    exact served.returned indexed
  | readNext => exact absurd (StorageAnswer.credential.inj answered) (readNext_ne_ok cred)
  | _ => cases answered

theorem listed_of_call {call : StorageCall} {list : List RelyingPartyMetadata}
    (answered : (storage.call env call).1 = .relyingParties list)
    {metadata : RelyingPartyMetadata} (mem : metadata ∈ list) :
    storage.scope.activeRpId = some metadata.id.canonical := by
  cases call with
  | listRelyingParties =>
    have listed : storage.listRelyingParties env = list :=
      StorageAnswer.relyingParties.inj answered
    unfold listRelyingParties at listed
    split at listed
    next cred found =>
      rcases readFirst_ok found with ⟨_, _, served⟩
      subst listed
      rw [List.mem_singleton.mp mem, activeRpId, served.active, Option.map_some, served.rpId]
    · subst listed
      cases mem
  | _ => cases answered

/-! ### No ceremony -/

omit [CredentialStorage σ] in
theorem requireActiveCeremony_idle (idle : storage.scope.active = none) :
    storage.requireActiveCeremony = .error .doesNotExist := by
  rw [requireActiveCeremony, activeAction, idle]
  rfl

/-- Without a ceremony every answer is fixed. -/
def idleAnswer : StorageCall -> StorageAnswer
  | .readFirst _ | .readNext | .read _ => .credential (.error .doesNotExist)
  | .write _ _ => .done (.error .doesNotExist)
  | .delete _ => .done (.error .other)
  | .listRelyingParties => .relyingParties []
  | .countCredentials => .count 0
  | .cleanupExpiredCache => .none

section

variable (idle : storage.scope.active = none)

include idle

theorem readFirst_idle (filter : ReadFilter) :
    storage.readFirst env filter = .error .doesNotExist := by
  rw [readFirst, requireActiveCeremony_idle idle]
  rfl

theorem write_idle (cred : Credential) (saved : Bool) :
    storage.write env cred saved = (.error .doesNotExist, storage) := by
  have refused : storage.checkWrite env cred = .error .doesNotExist := by
    rw [checkWrite, requireActiveCeremony_idle idle]
    rfl
  rw [write, refused]

theorem call_idle (call : StorageCall) : (storage.call env call).1 = idleAnswer call := by
  cases call with
  | readFirst filter => exact congrArg StorageAnswer.credential (readFirst_idle idle filter)
  | readNext =>
    change StorageAnswer.credential storage.readNext = _
    rw [readNext, requireActiveCeremony_idle idle]
    rfl
  | read id =>
    change StorageAnswer.credential (storage.read env id) = _
    rw [read, requireActiveCeremony_idle idle]
    rfl
  | write cred saved =>
    change StorageAnswer.done (storage.write env cred saved).1 = _
    rw [write_idle idle]
    rfl
  | delete | cleanupExpiredCache => rfl
  | listRelyingParties =>
    change StorageAnswer.relyingParties (storage.listRelyingParties env) = _
    rw [listRelyingParties, readFirst_idle idle]
    rfl
  | countCredentials =>
    change StorageAnswer.count storage.countCredentials = _
    rw [countCredentials, activeCredRef, idle]
    rfl

theorem read_call_idle (call : StorageCall) (id : CredentialId) :
    CredentialStorage.read (storage.call env call).2.human id =
      CredentialStorage.read storage.human id := by
  cases call with
  | write cred saved =>
    change CredentialStorage.read (storage.write env cred saved).2.human id = _
    rw [write_idle idle]
  | cleanupExpiredCache => exact read_cleanup storage.human id
  | _ => rfl

end

/-! ### Writes -/

theorem storeChange_of_harmless (harmless : storage.Harmless env (.write cred saved)) :
    StoreChange env storage (storage.write env cred saved).2.human := by
  rcases @write_cases σ _ env storage cred saved with
    ⟨_, same⟩ | ⟨checked, succeeded, updated⟩
  · exact .unchanged same
  · have condition := harmless checked succeeded
    rcases checkWrite_ok checked with ⟨ceremony, registers⟩ | ⟨ceremony, latest, writesBack⟩
    · rw [activeAction, registers.active, Option.map_some, registers.action] at condition
      rcases condition with absent | same
      · exact .registered ceremony cred.asWritten registers.active registers.action absent
          registers.rpId updated
      · apply StoreChange.unchanged
        intro id
        rw [updated]
        split_ifs with here
        · rw [here, same]
        · rfl
    · have served := writesBack.served
      have named : latest.id = cred.id := writesBack.immutable.id
      rw [activeAction, served.active, Option.map_some, served.action] at condition
      have same := (asWritten_eq_counted_iff writesBack.immutable).mpr
        (condition latest (named ▸ served.stored))
      apply StoreChange.counted ceremony _ latest cred.signCount served.active served.action
        (congrArg _ named) served.stored writesBack.counter
      intro id
      rw [updated, <- named, same]

theorem harmless_of_storeChange (change : StoreChange env storage
      (storage.write env cred saved).2.human) :
    storage.Harmless env (.write cred saved) := by
  intro checked succeeded
  rcases @write_cases σ _ env storage cred saved with ⟨failed, _⟩ | ⟨_, _, updated⟩
  · exact absurd ⟨checked, succeeded⟩ failed
  -- the identifier of the write now reads as what was written
  have written := updated cred.id
  rw [if_pos rfl] at written
  rcases checkWrite_ok checked with ⟨_, registers⟩ | ⟨_, latest, writesBack⟩
  · rw [activeAction, registers.active, Option.map_some, registers.action]
    cases change with
    | unchanged same => exact .inr ((same cred.id).symm.trans written)
    | registered other added active action absent rpId addition =>
      by_cases same : cred.id = added.id
      · exact .inl (same ▸ absent)
      · have kept := addition cred.id
        rw [if_neg same] at kept
        exact .inr (kept.symm.trans written)
    | counted other ref latest count active action =>
      rw [registers.active] at active
      cases active
      rw [registers.action] at action
      cases action
  · have served := writesBack.served
    have named : latest.id = cred.id := writesBack.immutable.id
    have stored : CredentialStorage.read storage.human cred.id = .ok latest :=
      named ▸ served.stored
    rw [activeAction, served.active, Option.map_some, served.action]
    intro found readable
    rw [stored] at readable
    cases readable
    apply (asWritten_eq_counted_iff writesBack.immutable).mp
    -- what was written differs from what was stored in its counter at most
    have onlyCount : ∀ count, Except.ok cred.asWritten =
        (Except.ok { latest with signCount := count } : Except StorageError Credential) ->
        cred.asWritten = { latest with signCount := cred.signCount } := by
      intro count same
      have equal := Except.ok.inj same
      have counts : cred.signCount = count := congrArg Credential.signCount equal
      rw [equal, counts]
    cases change with
    | unchanged same =>
      exact onlyCount latest.signCount (written.symm.trans ((same cred.id).trans stored))
    | registered other added active action =>
      rw [served.active] at active
      cases active
      rw [served.action] at action
      cases action
    | counted other ref known count active action named' stored' allowed update =>
      have now := update cred.id
      split_ifs at now with same
      · rw [<- same, stored] at stored'
        cases stored'
        exact onlyCount count (written.symm.trans now)
      · exact onlyCount latest.signCount (written.symm.trans (now.trans stored))

end Proofs

/-- In every run, a call is confined exactly if it is not a harmful write. -/
theorem confined_iff_harmless (human : σ) (rpIds : List Text) (credRefs : List CredentialRef)
    (constantCounterMode registrationAllowed : Bool) (ops : List Operation)
    (storage : SharedDelegatedStorage σ)
    (run : Run (Steps env)
      (new human rpIds credRefs constantCounterMode registrationAllowed) ops storage)
    (call : StorageCall) :
    storage.Confined env call <-> storage.Harmless env call := by
  have indexed := indexed_of_run env run
  constructor
  · intro confined
    cases call with
    | write => exact harmless_of_storeChange confined.changed
    | _ => trivial
  · intro harmless
    refine ⟨fun _ => returned_of_call indexed, fun _ answered _ => listed_of_call answered, ?_, ?_⟩
    · cases call with
      | write => exact storeChange_of_harmless harmless
      | cleanupExpiredCache => exact .unchanged (read_cleanup storage.human)
      | _ => exact .unchanged (fun _ => rfl)
    · intro idle
      refine ⟨read_call_idle idle call, ?_⟩
      intro other
      rw [call_idle idle call]
      exact @call_idle σ _ env { storage with human := other } idle call

end SharedDelegatedStorage

namespace Sample

variable (rpId : String)

/-- A credential with a given counter and name of its relying party. -/
def cred (rpName : Option Text) (signCount : Nat) : Credential where
  id := [1]
  rpId := rpId.toList
  rpName
  userId := [2]
  userName := none
  userDisplayName := none
  signCount
  alg := -7
  key := ⟨[], 0, [3]⟩
  created := 0
  discoverable := true
  backupState := .notEligible
  extensions := ⟨none, none, none⟩

/-- A human's store with one credential. -/
def human : NamedStorage :=
  (NamedStorage.empty.write (cred rpId none 0) true).2

def ref : CredentialRef :=
  .withDefaultDomain sampleEnv [1]

/-- A view for `example.com` that may register there and use the one credential. -/
def delegated : SharedDelegatedStorage NamedStorage :=
  .new (human rpId) ["example.com"] [ref] false true

/-- The view in a ceremony. -/
def during (action : CeremonyAction) : SharedDelegatedStorage NamedStorage :=
  ((delegated rpId).perform sampleEnv .buildIndex).perform sampleEnv
    (.activate action "example.com")

theorem during_run (action : CeremonyAction) :
    Run (SharedDelegatedStorage.Steps sampleEnv) (delegated rpId)
      [.buildIndex, .activate action "example.com"] (during rpId action) :=
  .snoc (.snoc .nil rfl) rfl

def writeBack (rpName : Option Text) (action : CeremonyAction) : StorageCall :=
  match action with
  | .authenticate _ => .write (cred "example.com" rpName 1) true
  | .register => .write (cred "example.com" rpName 0) true

/-- What the store of a view reads for the one identifier. -/
def storedCredential (storage : SharedDelegatedStorage NamedStorage) : Option Credential :=
  (storage.human.store.read [1]).toOption

def isDone : StorageAnswer -> Bool
  | .done (.ok ()) => true
  | _ => false

/-- Writing back a larger counter is confined. -/
theorem writeBack_confined :
    isDone ((during "example.com" (.authenticate ref)).call sampleEnv
        (writeBack none (.authenticate ref))).1 = true /\
      (during "example.com" (.authenticate ref)).Confined sampleEnv
        (writeBack none (.authenticate ref)) := by
  refine ⟨by decide +kernel, ?_⟩
  apply (SharedDelegatedStorage.confined_iff_harmless sampleEnv _ _ _ _ _ _ _
    (during_run "example.com" (.authenticate ref)) _).mpr
  intro _ _
  have stored : read (during "example.com" (.authenticate ref)).human [1] =
      .ok (cred "example.com" none 0) := by
    decide +kernel
  have action : (during "example.com" (.authenticate ref)).scope.activeAction =
      some (.authenticate ref) := by
    decide +kernel
  rw [action]
  intro latest found
  cases stored.symm.trans found
  exact ⟨rfl, rfl, rfl, rfl, rfl, rfl⟩

/-- A registration replaces a credential of another relying party, and a credential that is
written back gets another name for its relying party. -/
theorem writes_not_confined :
    isDone ((during "other.org" .register).call sampleEnv (writeBack none .register)).1 = true /\
      storedCredential (during "other.org" .register) = some (cred "other.org" none 0) /\
      storedCredential ((during "other.org" .register).call sampleEnv
        (writeBack none .register)).2 = some (cred "example.com" none 0) /\
      isDone ((during "example.com" (.authenticate ref)).call sampleEnv
        (writeBack (some "bank") (.authenticate ref))).1 = true /\
      storedCredential (during "example.com" (.authenticate ref)) =
        some (cred "example.com" none 0) /\
      storedCredential ((during "example.com" (.authenticate ref)).call sampleEnv
        (writeBack (some "bank") (.authenticate ref))).2 =
          some (cred "example.com" (some "bank") 1) := by
  decide +kernel

end Sample

end ControlVault.Storage
