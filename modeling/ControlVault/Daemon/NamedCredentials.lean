import ControlVault.Daemon.Credentials
import ControlVault.Daemon.Scenario

namespace ControlVault.Daemon

open Foundation Core Storage Broker CredentialRef LocalStorageAdapter

/-!
# Commands on named credentials

What an administrator may expect of the three commands: a list that leaves
nothing out, a removal of the credential that was named, and a search that finds
what is stored.  `ActsOnNamed` states the expectation and `Orderly` says, in
terms of the profiles and of the files in their stores, exactly when it is met.

It is not always met.  The list ends at the first profile whose store is empty,
and the removal asks the store for the identifier that is spelled like the
reference, although the reference is the hash of the identifier.
-/

/-- Some ceremony at the relying party is not denied, by its own rule or by the one for every
relying party. -/
def ProfileRuntime.Allows (profile : ProfileRuntime) (rpId : Text) : Prop :=
  ∃ allowed ∈ profile.profileConfig.allowedRpIds,
    allowed.canonical = rpId.canonical ∨ allowed.canonical = anyRpId

namespace AgentRuntime

/-- A credential that can be read from the store of a profile. -/
def Holds (runtime : AgentRuntime) (entry : Entry) (cred : Credential) :
    Prop :=
  ∃ id, (runtime.storeOf entry).read id = .ok cred

/-- A credential that a list for the given relying party, or for all of them, should have. -/
structure Wanted (runtime : AgentRuntime) (rpId : Option Text) (entry : Entry)
    (cred : Credential) : Prop where
  present : entry ∈ runtime.profiles.toList
  held : runtime.Holds entry cred
  allowed : entry.2.Allows cred.rpId
  asked : ∀ wanted, rpId = some wanted -> cred.rpId.canonical = wanted.canonical

/-- An isolated profile that lists a reference and stores its credential. -/
structure Keeps (env : Env) (runtime : AgentRuntime) (ref : CredentialRef)
    (entry : Entry) : Prop where
  isolated : entry ∈ runtime.isolatedProfiles
  lists : entry.2.lists ref = true
  stores : ∃ cred, runtime.Holds entry cred /\
    withDefaultDomain env cred.id = ref

/-- The state after the removal of what a reference names from the store of a profile that keeps
it, and of nothing else. -/
def Removes (env : Env) (runtime : AgentRuntime) (ref : CredentialRef)
    (after : AgentRuntime) : Prop :=
  ∃ entry store, runtime.Keeps env ref entry /\
    after = runtime.withStore entry store /\
    ∀ id, store.read id = if withDefaultDomain env id = ref then .error .doesNotExist
      else (runtime.storeOf entry).read id

structure ActsOnNamed (env : Env) (describe : StorageError -> Text)
    (runtime : AgentRuntime) : Prop where
  complete : ∀ rpId entry cred, runtime.Wanted rpId entry cred ->
    .of env cred ∈ runtime.handleAdminListCredentials env rpId
  truthful : ∀ rpId, ∀ summary ∈ runtime.handleAdminListCredentials env rpId,
    ∃ entry ∈ runtime.profiles.toList, ∃ cred, runtime.Holds entry cred /\
      summary = .of env cred
  exact : ∀ ref unlinked after,
    runtime.handleAdminDeleteCredential env describe ref unlinked = (.ok (), after) ->
      runtime.Removes env ref after
  found : ∀ ref entry, runtime.Keeps env ref entry ->
    (∀ error, runtime.handleAdminShowCredential env describe ref = .error error ->
      error.code ≠ .notFound) /\
    ∀ unlinked error after, runtime.handleAdminDeleteCredential env describe ref unlinked =
        (.error error, after) -> error.code ≠ .notFound

/-- When the commands act on what they name.

Every wanted credential has a file with its identifier, in its own profile or in another one,
such that no profile up to there has an empty store or a damaged first file, no file before it is
damaged, and the profile spells out the relying party.  In the first profile that lists a
reference and does not have to be passed over, a file spelled like the reference is its own hash.
A reference is not stored only behind damaged files, unless a search fails. -/
structure Orderly (env : Env) (runtime : AgentRuntime) : Prop where
  covered : ∀ rpId entry cred, runtime.Wanted rpId entry cred ->
    ∃ before other after, runtime.profiles.toList = before ++ other :: after /\
      (∀ earlier ∈ before, runtime.goesOn rpId earlier = true) /\
      ∃ shown, runtime.Shows rpId other shown /\ shown.id = cred.id /\
        shown.rpId = cred.rpId /\ shown.userName.getD [] = cred.userName.getD [] /\
        shown.userDisplayName.getD [] = cred.userDisplayName.getD []
  selfNamed : ∀ ref before entry after,
    runtime.isolatedProfiles = before ++ entry :: after ->
      (∀ earlier ∈ before, runtime.PassesOver env ref earlier) ->
        runtime.Finds env ref entry ->
          ∀ path, (runtime.storeOf entry).indexes.id.get (bytesOf ref.bytes) = some path ->
            ((runtime.storeOf entry).files.get path).isSome = true ->
              withDefaultDomain env (bytesOf ref.bytes) = ref
  reachable : ∀ ref entry, runtime.Keeps env ref entry ->
    ∃ other ∈ runtime.isolatedProfiles, other.2.lists ref = true /\
      ((runtime.storeOf other).opens .none = false ∨
        runtime.Finds env ref other)

/-- No two identifiers in the stores have the same reference. -/
def CollisionFree (env : Env) (runtime : AgentRuntime) : Prop :=
  ∀ owner other first second,
    ((runtime.credentialStorage owner).indexes.id.get first).isSome = true ->
      ((runtime.credentialStorage other).indexes.id.get second).isSome = true ->
        withDefaultDomain env first = .withDefaultDomain env second -> first = second

variable {env : Env} {describe : StorageError -> Text} {runtime : AgentRuntime}

section Truthful

variable (truthful : ∀ owner, (runtime.credentialStorage owner).Truthful)

include truthful

/-- A credential that is held is indexed under its own identifier. -/
theorem Holds.indexed {entry : Entry} {cred : Credential} (held : runtime.Holds entry cred) :
    ((runtime.storeOf entry).indexes.id.get cred.id).isSome = true := by
  rcases held with ⟨id, found⟩
  rcases read_eq_ok_iff.mp found with ⟨path, located, content⟩
  rw [((truthful _).named located content).1]
  exact Option.isSome_of_mem located

/-- Summaries tell credentials apart by their identifiers. -/
theorem summary_eq_iff (collisionFree : runtime.CollisionFree env)
    {entry other : Entry} {cred shown : Credential}
    (held : runtime.Holds entry cred) (holds : runtime.Holds other shown) :
    CredentialSummary.of env cred = .of env shown <->
      shown.id = cred.id /\ shown.rpId = cred.rpId /\
        shown.userName.getD [] = cred.userName.getD [] /\
        shown.userDisplayName.getD [] = cred.userDisplayName.getD [] := by
  simp only [CredentialSummary.of, CredentialSummary.mk.injEq]
  constructor
  · rintro ⟨ref, rpId, userName, displayName⟩
    refine ⟨?_, rpId.symm, userName.symm, displayName.symm⟩
    exact collisionFree _ _ _ _ (holds.indexed truthful) (held.indexed truthful) ref.symm
  · rintro ⟨id, rpId, userName, displayName⟩
    exact ⟨by rw [id], rpId.symm, userName.symm, displayName.symm⟩

end Truthful

/-! ## The list -/

theorem Shows.holds {rpId : Option Text} {entry : Entry}
    {cred : Credential} (shows_ : runtime.Shows rpId entry cred) :
    runtime.Holds entry cred := by
  rcases shows_ with ⟨filter, -, reached, -⟩
  exact read_of_mem_enumerate (mem_enumerate_iff.mpr reached)

theorem list_truthful (rpId : Option Text) (summary : CredentialSummary)
    (listed : summary ∈ runtime.handleAdminListCredentials env rpId) :
    ∃ entry ∈ runtime.profiles.toList, ∃ cred, runtime.Holds entry cred /\
      summary = .of env cred := by
  rcases (mem_listProfiles rpId _ summary).mp listed with
    ⟨before, entry, after, split, -, cred, shown, same⟩
  exact ⟨entry, by simp [split], cred, shown.holds, same⟩

/-! ## The removal -/

variable {ref : CredentialRef}

/-- A removal succeeds where the reference was located and the store has a file of its spelling. -/
theorem delete_eq_ok (deleted : runtime.handleAdminDeleteCredential env describe ref unlinked =
      (.ok (), after)) :
    ∃ entry cred path,
      runtime.locate env ref runtime.isolatedProfiles = .ok (some (entry, cred)) /\
      (runtime.storeOf entry).indexes.id.get (bytesOf ref.bytes) = some path /\
      ((runtime.storeOf entry).files.get path).isSome = true /\
      after = runtime.withStore entry
        ((runtime.storeOf entry).removed path (bytesOf ref.bytes)) := by
  unfold handleAdminDeleteCredential at deleted
  cases search : runtime.locate env ref runtime.isolatedProfiles with
  | error =>
    rw [search] at deleted
    cases deleted
  | ok located =>
    rw [search] at deleted
    rcases located with _ | ⟨entry, cred⟩
    · split_ifs at deleted <;> cases deleted
    · dsimp only [deleteLocated] at deleted
      unfold delete at deleted
      cases indexed : (runtime.storeOf entry).indexes.id.get (bytesOf ref.bytes) with
      | none =>
        rw [indexed] at deleted
        cases deleted
      | some path =>
        rw [indexed] at deleted
        dsimp only at deleted
        split_ifs at deleted with present
        · cases deleted
          rw [Bool.and_eq_true] at present
          exact ⟨_, cred, path, rfl, indexed, present.1, rfl⟩
        · cases deleted

/-- Where the file is there, the removal succeeds when the operating system carries it out. -/
theorem delete_succeeds (describe : StorageError -> Text)
    (located : runtime.locate env ref runtime.isolatedProfiles =
      .ok (some (entry, cred)))
    (indexed : (runtime.storeOf entry).indexes.id.get (bytesOf ref.bytes) = some path)
    (present : ((runtime.storeOf entry).files.get path).isSome = true) :
    ∃ after, runtime.handleAdminDeleteCredential env describe ref true = (.ok (), after) := by
  unfold handleAdminDeleteCredential
  rw [located]
  dsimp only [deleteLocated]
  unfold delete
  rw [indexed]
  dsimp only
  rw [present]
  exact ⟨_, rfl⟩

theorem removes_iff (truthful : ∀ owner, (runtime.credentialStorage owner).Truthful)
    (collisionFree : runtime.CollisionFree env) (keeps : runtime.Keeps env ref entry)
    (indexed : (runtime.storeOf entry).indexes.id.get (bytesOf ref.bytes) =
      some path)
    (present : ((runtime.storeOf entry).files.get path).isSome = true) :
    runtime.Removes env ref
        (runtime.withStore entry ((runtime.storeOf entry).removed path (bytesOf ref.bytes))) <->
      withDefaultDomain env (bytesOf ref.bytes) = ref := by
  have coherent : (runtime.storeOf entry).indexes.Coherent := (truthful _).coherent
  have readAfter := read_removed coherent indexed
  constructor
  · rintro ⟨changed, store, -, same, reads⟩
    by_contra foreign
    have stores := congrArg
      (fun after : AgentRuntime => after.credentialStorage (.of entry.1 entry.2.mode)) same
    dsimp only [withStore, BrokerState.withStorage] at stores
    rw [if_pos rfl] at stores
    by_cases here : CredentialNamespace.of entry.1 entry.2.mode = .of changed.1 changed.2.mode
    · rw [if_pos here] at stores
      have sameStore : runtime.storeOf changed = runtime.storeOf entry :=
        congrArg runtime.credentialStorage here.symm
      have gone := readAfter (bytesOf ref.bytes)
      rw [stores, reads, if_neg foreign, sameStore, if_pos rfl, LocalStorageAdapter.read,
        indexed] at gone
      dsimp only [loadCredentialFromPath] at gone
      rcases Option.isSome_iff_exists.mp present with ⟨file, content⟩
      rw [content] at gone
      cases file <;> cases gone
    · rw [if_neg here] at stores
      have kept := congrArg (fun store => store.indexes.id.get (bytesOf ref.bytes)) stores
      rw [removed, CredentialIndexes.get_updateOnDelete, if_pos rfl] at kept
      cases kept.trans indexed
  · intro selfNamed
    refine ⟨entry, _, keeps, rfl, ?_⟩
    intro id
    rw [readAfter]
    by_cases same : id = bytesOf ref.bytes
    · rw [if_pos same, same, if_pos selfNamed]
    · split_ifs with named
      · cases elsewhere : (runtime.storeOf entry).indexes.id.get id with
        | none => rw [LocalStorageAdapter.read, elsewhere]
        | some place =>
          have twin := collisionFree _ _ id (bytesOf ref.bytes)
            (Option.isSome_of_mem elsewhere) (Option.isSome_of_mem indexed)
            (named.trans selfNamed.symm)
          exact absurd twin same
      · rfl

/-! ## The search -/

theorem show_ne_notFound (present : entry ∈ runtime.profiles.toList)
    (stops : ¬runtime.PassesOver env ref entry)
    (failed : runtime.handleAdminShowCredential env describe ref = .error error) :
    error.code ≠ .notFound := by
  unfold handleAdminShowCredential at failed
  cases search : runtime.locate env ref runtime.profiles.toList with
  | error =>
    rw [search] at failed
    cases failed
    simp [enumerationFailed, ProtocolError.internal]
  | ok located =>
    cases located with
    | none => exact absurd ((locate_eq_none_iff ref _).mp search entry present) stops
    | some =>
      rw [search] at failed
      cases failed

theorem delete_notFound_iff (describe : StorageError -> Text) (ref : CredentialRef) (unlinked : Bool) :
    (∃ error after, runtime.handleAdminDeleteCredential env describe ref unlinked =
        (.error error, after) /\ error.code = .notFound) <->
      ∀ entry ∈ runtime.isolatedProfiles, runtime.PassesOver env ref entry := by
  rw [<- locate_eq_none_iff]
  unfold handleAdminDeleteCredential
  cases search : runtime.locate env ref runtime.isolatedProfiles with
  | error => simp [enumerationFailed, ProtocolError.internal]
  | ok located =>
    rcases located with _ | ⟨entry, _⟩
    · split_ifs <;> simp [ProtocolError.notFound]
    · dsimp only [deleteLocated]
      rcases (runtime.storeOf entry).delete (bytesOf ref.bytes) unlinked with
        ⟨_ | _, _⟩ <;> simp [ProtocolError.internal]

/-! ## All three -/

/-- The commands act on the credentials that they name exactly if the stores are orderly. -/
theorem actsOnNamed_iff (env : Env) (describe : StorageError -> Text) (runtime : AgentRuntime)
    (truthful : ∀ owner, (runtime.credentialStorage owner).Truthful)
    (collisionFree : runtime.CollisionFree env) :
    runtime.ActsOnNamed env describe <-> runtime.Orderly env := by
  have owner {ref : CredentialRef} {entry : Entry}
      (isolated : entry ∈ runtime.isolatedProfiles) (finds : runtime.Finds env ref entry) :
      runtime.Keeps env ref entry := by
    rcases finds with ⟨lists, cred, reached, named⟩
    exact ⟨isolated, lists, cred, read_of_mem_enumerate (mem_enumerate_iff.mpr reached), named⟩
  constructor
  · intro acts
    constructor
    · intro rpId entry cred wanted
      rcases (mem_listProfiles rpId _ _).mp (acts.complete rpId entry cred wanted) with
        ⟨before, other, after, split, passed, shown, visible, same⟩
      exact ⟨before, other, after, split, passed, shown, visible,
        (summary_eq_iff truthful collisionFree wanted.held visible.holds).mp same⟩
    · intro ref before entry after split passed finds path indexed present
      rcases (locate_eq_some_iff ref entry runtime.isolatedProfiles).mpr
        ⟨before, entry, after, split, passed, rfl, finds⟩ with ⟨cred, located⟩
      rcases delete_succeeds describe located indexed present with ⟨_, deleted⟩
      have removes := acts.exact ref true _ deleted
      rcases delete_eq_ok deleted with ⟨_, _, _, again, indexedAgain, _, rfl⟩
      rw [located] at again
      cases again
      rw [indexed] at indexedAgain
      cases indexedAgain
      have isolated : entry ∈ runtime.isolatedProfiles := by simp [split]
      exact (removes_iff truthful collisionFree (owner isolated finds) indexed present).mp removes
    · intro ref entry keeps
      by_contra nowhere
      have passed : ∀ other ∈ runtime.isolatedProfiles, runtime.PassesOver env ref other := by
        intro other isolated lists
        exact ⟨Bool.eq_true_of_not_eq_false fun closed =>
            nowhere ⟨other, isolated, lists, .inl closed⟩,
          fun finds => nowhere ⟨other, isolated, lists, .inr finds⟩⟩
      rcases (delete_notFound_iff describe ref true).mpr passed with
        ⟨error, after, failed, code⟩
      exact (acts.found ref entry keeps).2 true error after failed code
  · intro orderly
    constructor
    · intro rpId entry cred wanted
      rcases orderly.covered rpId entry cred wanted with
        ⟨before, other, after, split, passed, shown, visible, same⟩
      exact (mem_listProfiles rpId _ _).mpr ⟨before, other, after, split, passed, shown, visible,
        (summary_eq_iff truthful collisionFree wanted.held visible.holds).mpr same⟩
    · exact list_truthful
    · intro ref unlinked after deleted
      rcases delete_eq_ok deleted with ⟨entry, cred, path, located, indexed, present, rfl⟩
      rcases (locate_eq_some_iff ref entry runtime.isolatedProfiles).mp ⟨cred, located⟩
        with ⟨before, place, later, split, passed, rfl, finds⟩
      have isolated : place ∈ runtime.isolatedProfiles := by simp [split]
      exact (removes_iff truthful collisionFree (owner isolated finds) indexed present).mpr
        (orderly.selfNamed ref before _ later split passed finds path indexed present)
    · intro ref entry keeps
      rcases orderly.reachable ref entry keeps with ⟨other, isolated, lists, stops⟩
      have stopped : ¬runtime.PassesOver env ref other := by
        intro passes
        rcases stops with closed | finds
        · rw [(passes lists).1] at closed
          cases closed
        · exact (passes lists).2 finds
      constructor
      · intro error failed
        exact show_ne_notFound (List.mem_filter.mp isolated).1 stopped failed
      · intro unlinked error after failed code
        exact stopped ((delete_notFound_iff describe ref unlinked).mp
          ⟨error, after, failed, code⟩ other isolated)

end AgentRuntime

/-! ## Small stores -/

namespace Sample

open Broker.Sample (ownStore ownStore_indexed ownStore_consistent)

def agent : ProfileId :=
  Broker.Sample.agent

/-- One profile, which lists the credential it stores. -/
def tidy : AgentRuntime :=
  runtimeFor (.insert .empty agent (profileFor (config (some [referenceOf [1]]))))
    (fun _ => ownStore)

theorem tidy_holds
    (held : tidy.Holds entry cred) : cred = Broker.Sample.cred [1] "example.com" := by
  rcases held with ⟨id, found⟩
  have readable : ownStore.read id = .ok cred := found
  rcases read_eq_ok_iff.mp readable with ⟨_, indexed, _⟩
  rw [ownStore_indexed indexed] at readable
  have stored : ownStore.read [1] = .ok (Broker.Sample.cred [1] "example.com") := by
    decide +kernel
  rw [stored] at readable
  cases readable
  rfl

theorem tidy_reaches (filter : CredentialFilter)
    (visited : Broker.Sample.cred [1] "example.com" ∈ ownStore.enumerate filter) :
    (tidy.storeOf entry).Reaches filter
      (Broker.Sample.cred [1] "example.com") :=
  mem_enumerate_iff.mp visited

theorem tidy_orderly : tidy.Orderly sampleEnv := by
  constructor
  · intro rpId entry cred wanted
    have asked := wanted.asked
    rw [tidy_holds wanted.held] at asked ⊢
    refine ⟨[], (agent, profileFor (config (some [referenceOf [1]]))), [], rfl,
      List.forall_mem_nil _, Broker.Sample.cred [1] "example.com", ?_, rfl, rfl, rfl, rfl⟩
    cases rpId with
    | none => exact ⟨.none, rfl, tidy_reaches _ (by decide +kernel), by decide +kernel⟩
    | some name =>
      have same : name.canonical = "example.com" := (asked name rfl).symm
      unfold AgentRuntime.Shows ProfileRuntime.listFilter ProfileRuntime.listMatch
      simp only [same]
      exact ⟨.byRp "example.com", by decide +kernel, tidy_reaches _ (by decide +kernel),
        by decide +kernel⟩
  · intro ref _ entry _ _ _ _ path indexed _
    have short : bytesOf ref.bytes = [1] := ownStore_indexed indexed
    have long : (bytesOf ref.bytes).length = 32 := by simp [bytesOf]
    rw [short] at long
    cases long
  · rintro ref entry ⟨isolated, lists, cred, held, named⟩
    rw [tidy_holds held] at named
    exact ⟨entry, isolated, lists, .inr ⟨lists, _, tidy_reaches _ (by decide +kernel), named⟩⟩

def describe : StorageError -> Text :=
  fun _ => "storage error"

/-- With one profile and one readable credential, every command does what it says. -/
theorem tidy_actsOnNamed :
    (∀ owner, (tidy.credentialStorage owner).Truthful) /\ tidy.CollisionFree sampleEnv /\
      tidy.ActsOnNamed sampleEnv describe := by
  have truthful : ∀ owner, (tidy.credentialStorage owner).Truthful :=
    fun _ => ownStore_consistent.truthful
  have collisionFree : tidy.CollisionFree sampleEnv := by
    intro owner other first second firstIndexed secondIndexed _
    rcases Option.isSome_iff_exists.mp firstIndexed with ⟨_, located⟩
    rcases Option.isSome_iff_exists.mp secondIndexed with ⟨_, locatedToo⟩
    rw [ownStore_indexed located, ownStore_indexed locatedToo]
  exact ⟨truthful, collisionFree,
    (AgentRuntime.actsOnNamed_iff sampleEnv describe tidy truthful collisionFree).mpr tidy_orderly⟩

/-- A profile without credentials before the profile of `tidy`. -/
def gap : AgentRuntime :=
  runtimeFor (.insert (.insert .empty agent (profileFor (config (some [referenceOf [1]]))))
      ⟨"acme"⟩ (profileFor (config none)))
    (fun owner => if owner = .isolated agent then ownStore else .new .empty)

/-- The profile of `tidy` with a second credential, whose identifier is spelled like the
reference of the first. -/
def aliased : AgentRuntime :=
  runtimeFor (.insert .empty agent (profileFor (config (some [referenceOf [1]]))))
    (fun _ => (ownStore.write
      (Broker.Sample.cred (bytesOf (referenceOf [1]).bytes) "example.com") true).2)

/-- An empty store hides the credentials of every later profile from the list, and a removal
that succeeds may have removed another credential than the one that was named. -/
theorem commands_miss_named_credential :
    gap.Wanted none (agent, profileFor (config (some [referenceOf [1]])))
        (Broker.Sample.cred [1] "example.com") /\
      gap.handleAdminListCredentials sampleEnv none = [] /\
      (aliased.handleAdminDeleteCredential sampleEnv describe (referenceOf [1]) true).1 = .ok () /\
      ((aliased.handleAdminDeleteCredential sampleEnv describe (referenceOf [1])
        true).2.credentialStorage (.isolated agent)).read [1] =
          .ok (Broker.Sample.cred [1] "example.com") := by
  refine ⟨⟨?_, ⟨[1], ?_⟩, ⟨"example.com", ?_, .inl rfl⟩, ?_⟩, ?_, ?_, ?_⟩
  · exact List.mem_cons_of_mem _ List.mem_cons_self
  · decide +kernel
  · decide +kernel
  · intro wanted never
    cases never
  · decide +kernel
  · decide +kernel
  · decide +kernel

end Sample

end ControlVault.Daemon
