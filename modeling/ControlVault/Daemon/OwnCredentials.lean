import ControlVault.Daemon.Intents
import ControlVault.Daemon.Scenario

namespace ControlVault.Daemon

open Foundation Core Storage Broker

/-!
# The credentials of an isolated principal

A principal names its credential by reference when it asks for an assertion, and
learns its references from the list.  `UsesOwn` states that this works for every
credential that the profile may authenticate with; `Keyed` is the condition on
the store and the configuration under which it does.

The request looks the 32 bytes of the reference up as an identifier, so a
credential can be used only if another file happens to have its reference as a
name; and the list shows every configured reference under the first relying
party of the profile.
-/

namespace AgentRuntime

section Use

variable (env : Env) (runtime : AgentRuntime) (profileId : ProfileId)
  (profile : ProfileRuntime)

/-- The rule of a relying party does not deny assertions. -/
def Authenticates (rpId : Text) : Prop :=
  ∃ rule, profile.profileConfig.ruleForRp env rpId.canonical = some rule /\
    rule.permits .authenticate = true

/-- No session is told that the credential was not found. -/
def Usable (rpId : Text) (ref : CredentialRef) : Prop :=
  ∀ session endpointId occasion error after,
    runtime.handleCreateIntent env profileId profile session endpointId
      ⟨.authenticate, rpId, some ref⟩ occasion = (.error error, after) ->
        error.code ≠ .notFound

/-- A credential of the profile's store. -/
def Owns (cred : Credential) : Prop :=
  (runtime.storageOf profileId profile).read cred.id = .ok cred

structure UsesOwn : Prop where
  usable : ∀ cred rpId, runtime.Owns profileId profile cred ->
    cred.rpId.canonical = rpId.canonical -> Authenticates env profile rpId ->
      runtime.Usable env profileId profile rpId (.withDefaultDomain env cred.id)
  listed : ∀ entry ∈ handleListCredentials profile, ∃ cred,
    runtime.Owns profileId profile cred /\
      CredentialRef.withDefaultDomain env cred.id = entry.credentialRef /\
      cred.rpId.canonical = entry.rpId.canonical /\
      Authenticates env profile entry.rpId /\
      runtime.Usable env profileId profile entry.rpId entry.credentialRef

/-- Every credential that may authenticate has a file named by its reference next to it, and
every configured reference belongs to a credential of the first relying party. -/
structure Keyed : Prop where
  aliased : ∀ cred, runtime.Owns profileId profile cred ->
    Authenticates env profile cred.rpId ->
      ((runtime.storageOf profileId profile).read
        (bytesOf (CredentialRef.withDefaultDomain env cred.id).bytes)).isOk = true
  configured : ∀ ref ∈ profile.profileConfig.credentialRefs.getD [], ∃ cred,
    runtime.Owns profileId profile cred /\
      CredentialRef.withDefaultDomain env cred.id = ref /\
      cred.rpId.canonical = (profile.profileConfig.allowedRpIds.headD []).canonical /\
      Authenticates env profile (profile.profileConfig.allowedRpIds.headD [])

end Use

variable {env : Env} {runtime : AgentRuntime} {profileId : ProfileId}
  {profile : ProfileRuntime}

section

variable (isolated : profile.mode = .isolated) {rpId : Text}
  (authenticates : Authenticates env profile rpId)

include isolated authenticates

/-- An assertion that the rule permits is checked against the store, and nothing else. -/
theorem checkIntent_authenticate (store : LocalStorageAdapter) (ref : CredentialRef) :
    (∃ policy, checkIntent env profile store ⟨.authenticate, rpId, some ref⟩ =
        .ok policy /\ (store.read (bytesOf ref.bytes)).isOk = true) ∨
      checkIntent env profile store ⟨.authenticate, rpId, some ref⟩ =
          .error (.notFound "credential ref not found in storage") /\
        (store.read (bytesOf ref.bytes)).isOk = false := by
  rcases authenticates with ⟨rule, found, permitted⟩
  have permittedPolicy : (rule.policyFor .authenticate).authorization ≠ .deny := by
    simpa [AgentRpRule.permits] using permitted
  unfold checkIntent
  rw [if_neg (not_not.mpr isolated)]
  simp only [found, Option.map_some]
  rw [if_neg permittedPolicy]
  cases readable : (store.read (bytesOf ref.bytes)).isOk with
  | true => exact .inl ⟨_, rfl, rfl⟩
  | false => exact .inr ⟨rfl, rfl⟩

theorem usable_iff (ref : CredentialRef) :
    runtime.Usable env profileId profile rpId ref <->
      ((runtime.storageOf profileId profile).read (bytesOf ref.bytes)).isOk = true := by
  rcases checkIntent_authenticate isolated authenticates (runtime.storageOf profileId profile)
      ref with ⟨_, checked, readable⟩ | ⟨checked, unreadable⟩
  · refine iff_of_true ?_ readable
    intro session endpointId occasion error after failed
    rw [handleCreateIntent, checked] at failed
    exact openIntent_error_code failed
  · rw [unreadable]
    refine iff_of_false ?_ Bool.false_ne_true
    intro usable
    refine usable ⟨⟨0⟩, ⟨0⟩, ⟨0⟩, 0⟩ ⟨0⟩ ⟨.ok (), ⟨0⟩, ⟨0⟩⟩
      (.notFound "credential ref not found in storage") runtime ?_ rfl
    rw [handleCreateIntent, checked]

end

/-- Relying parties are compared in canonical form. -/
theorem Authenticates.congr {first second : Text} (same : first.canonical = second.canonical)
    (authenticates : Authenticates env profile first) :
    Authenticates env profile second := by
  unfold Authenticates at authenticates ⊢
  rwa [<- same]

theorem mem_handleListCredentials (entry : PrincipalCredentialSummary) :
    entry ∈ handleListCredentials profile <->
      entry.credentialRef ∈ profile.profileConfig.credentialRefs.getD [] /\
        entry.rpId = profile.profileConfig.allowedRpIds.headD [] := by
  constructor
  · intro mem
    rcases List.mem_map.mp mem with ⟨_, inside, rfl⟩
    exact ⟨inside, rfl⟩
  · rintro ⟨inside, same⟩
    cases entry
    cases same
    exact List.mem_map.mpr ⟨_, inside, rfl⟩

/-- A principal can use its credentials, and is shown only such ones, exactly if they are keyed. -/
theorem usesOwn_iff (env : Env) (runtime : AgentRuntime) (profileId : ProfileId)
    (profile : ProfileRuntime) (isolated : profile.mode = .isolated)
    (_idle : profile.currentPending = none) :
    runtime.UsesOwn env profileId profile <-> runtime.Keyed env profileId profile := by
  constructor
  · intro uses
    constructor
    · intro cred owned authenticates
      exact (usable_iff isolated authenticates _).mp
        (uses.usable cred cred.rpId owned rfl authenticates)
    · intro ref configured
      have shown : ⟨ref, profile.profileConfig.allowedRpIds.headD []⟩ ∈
          handleListCredentials profile :=
        (mem_handleListCredentials _).mpr ⟨configured, rfl⟩
      rcases uses.listed _ shown with ⟨cred, owned, named, place, authenticates, _⟩
      exact ⟨cred, owned, named, place, authenticates⟩
  · intro keyed
    constructor
    · intro cred rpId owned place authenticates
      exact (usable_iff isolated authenticates _).mpr
        (keyed.aliased cred owned (authenticates.congr place.symm))
    · intro entry mem
      rcases (mem_handleListCredentials entry).mp mem with ⟨configured, first⟩
      rcases keyed.configured _ configured with ⟨cred, owned, named, place, authenticates⟩
      rw [<- first] at place authenticates
      refine ⟨cred, owned, named, place, authenticates, ?_⟩
      rw [usable_iff isolated authenticates, <- named]
      exact keyed.aliased cred owned (authenticates.congr place.symm)

end AgentRuntime

/-! ## A profile with one credential -/

namespace Sample

open Broker.Sample (ownStore trusted)

/-- The profile lists its only credential. -/
def owner : ProfileRuntime :=
  profileFor (config (some [referenceOf [1]]))

def single : AgentRuntime :=
  runtimeFor (.insert .empty Broker.Sample.agent owner) (fun _ => ownStore)

/-- A session of the profile. -/
def session : ManagedPrincipalSession :=
  ⟨⟨2⟩, ⟨4⟩, ⟨9⟩, 3600000⟩

/-- A principal asks for an assertion with the credential it was shown, and is told that there
is none. -/
theorem own_credential_not_found :
    single.Owns Broker.Sample.agent owner (Broker.Sample.cred [1] "example.com") /\
      AgentRuntime.Authenticates sampleEnv owner "example.com" /\
      owner.currentPending = none /\
      AgentRuntime.handleListCredentials owner = [⟨referenceOf [1], "example.com"⟩] /\
      (single.handleCreateIntent sampleEnv Broker.Sample.agent owner session ⟨3⟩
        ⟨.authenticate, "example.com", some (referenceOf [1])⟩ ⟨.ok (), ⟨10⟩, ⟨11⟩⟩).1 =
          .error (.notFound "credential ref not found in storage") := by
  refine ⟨?_, ⟨trusted, ?_, rfl⟩, rfl, ?_, ?_⟩
  · unfold AgentRuntime.Owns
    decide +kernel
  · decide +kernel
  · decide +kernel
  · decide +kernel

/-- The store of `single` with a file named by the reference of its credential, kept for a
relying party that the profile has no rule for. -/
def doubled : AgentRuntime :=
  runtimeFor (.insert .empty Broker.Sample.agent owner) (fun _ => (ownStore.write
      (Broker.Sample.cred (bytesOf (referenceOf [1]).bytes) "example.org") true).2)

theorem doubled_owns (owned : doubled.Owns Broker.Sample.agent owner cred) :
    cred.id = [1] ∨ cred.rpId = "example.org" := by
  rcases LocalStorageAdapter.read_eq_ok_iff.mp owned with ⟨_, indexed, _⟩
  have listed : cred.id ∈
      (doubled.storageOf Broker.Sample.agent owner).indexes.id.toList.map Prod.fst :=
    List.mem_map.mpr ⟨_, (Table.mem_toList _ _ _).mpr indexed, rfl⟩
  have ids : (doubled.storageOf Broker.Sample.agent owner).indexes.id.toList.map Prod.fst =
      [bytesOf (referenceOf [1]).bytes, [1]] := by
    decide +kernel
  rw [ids, List.mem_cons, List.mem_singleton] at listed
  rcases listed with foreign | own
  · right
    have stored : (doubled.storageOf Broker.Sample.agent owner).read
        (bytesOf (referenceOf [1]).bytes) = .ok (Broker.Sample.cred
          (bytesOf (referenceOf [1]).bytes) "example.org") := by
      decide +kernel
    unfold AgentRuntime.Owns at owned
    rw [foreign, stored] at owned
    cases owned
    rfl
  · exact .inl own

theorem doubled_keyed : doubled.Keyed sampleEnv Broker.Sample.agent owner := by
  constructor
  · intro cred owned authenticates
    rcases doubled_owns owned with own | foreign
    · rw [own]
      decide +kernel
    · rcases authenticates with ⟨_, found, _⟩
      rw [foreign] at found
      cases found
  · intro ref configured
    rcases List.mem_singleton.mp configured with rfl
    refine ⟨Broker.Sample.cred [1] "example.com", ?_, rfl, ?_, trusted, ?_, rfl⟩
    · unfold AgentRuntime.Owns
      decide +kernel
    · decide +kernel
    · decide +kernel

/-- With the extra file, the principal can use what it is shown. -/
theorem doubled_usesOwn :
    owner.mode = .isolated /\ owner.currentPending = none /\
      doubled.UsesOwn sampleEnv Broker.Sample.agent owner :=
  ⟨rfl, rfl, (AgentRuntime.usesOwn_iff sampleEnv doubled _ owner rfl rfl).mpr doubled_keyed⟩

end Sample

end ControlVault.Daemon
