import ControlVault.Broker.Scenario

namespace ControlVault
namespace Storage

open Foundation Table List

/-!
# Listings of a damaged store

A loop of `read_first` and `read_next` takes any failure for the end of the
store.  A file that cannot be read therefore hides the files behind it, and the
order of the files, which no one controls, decides which these are.

A loop also sees only what the index knows.  An identifier that has files in two
directories leads to one of them only, and a name that has to be trimmed is the
name of no directory.
-/

/-- Identifiers lead to files of their names, and directories have trimmed names.  A file may still
be damaged, and an identifier may still be listed in a directory that it does not lead to. -/
structure CredentialIndexes.Named (indexes : CredentialIndexes) : Prop where
  path : ∀ {id path}, indexes.id.get id = some path -> path.credId = id
  dir : ∀ {dir id}, id ∈ indexes.idsIn dir -> dir.trim = dir

namespace CredentialIndexes.Named

variable {indexes : CredentialIndexes} (named : indexes.Named)

include named

theorem insert (path : CredentialPathInfo) :
    Named { indexes with id := indexes.id.insert path.credId path } := by
  refine ⟨fun {id other} found => ?_, named.dir⟩
  rw [get_insert] at found
  split_ifs at found with same
  · cases found
    exact same.symm
  · exact named.path found

theorem push (path : CredentialPathInfo) : (indexes.push path).Named := by
  refine ⟨named.path, fun {dir id} mem => ?_⟩
  rw [idsIn_push] at mem
  split_ifs at mem with here
  · rw [here]
    exact path.rpId.trimmed
  · exact named.dir mem

theorem updateOnWrite (path : CredentialPathInfo) : (indexes.updateOnWrite path).Named := by
  unfold CredentialIndexes.updateOnWrite
  dsimp only
  split_ifs
  · exact (named.insert path).push path
  · exact named.insert path

theorem updateOnDelete (id : CredentialId) : (indexes.updateOnDelete id).Named := by
  constructor
  · intro other path found
    rw [get_updateOnDelete] at found
    split_ifs at found
    exact named.path found
  · intro dir other mem
    cases known : indexes.id.get id with
    | none =>
      rw [CredentialIndexes.updateOnDelete, known] at mem
      exact named.dir mem
    | some path =>
      rw [idsIn_updateOnDelete known] at mem
      split_ifs at mem
      · exact named.dir (mem_filter.mp mem).1
      · exact named.dir mem

omit named in
theorem load (listed : List CredentialPathInfo) : (load listed).Named := by
  have start : empty.Named := ⟨nofun, nofun⟩
  exact foldlRecOn listed _ start (fun _ named path _ => (named.insert path).push path)

end CredentialIndexes.Named

namespace LocalStorageAdapter

variable (store : LocalStorageAdapter)

def listCredentials (rpId : Text) : Except StorageError (List Credential) :=
  match ValidatedRpId.tryFrom rpId with
  | .error _ => .error .other
  | .ok _ => .ok (store.enumerate (.byRp rpId))

def countCredentials : Nat :=
  store.indexes.id.values.length

/-- The files of a directory that can be read. -/
def readableIn (directory : ValidatedRpId) : List CredentialPathInfo :=
  (store.files.toList.filter fun file => file.1.rpId = directory && file.2.isSome).map Prod.fst

/-- What the store takes care of by itself: its index is well named, and a file that can be read
holds the credential it is named after. -/
structure Filed : Prop where
  index : store.indexes.Named
  content : ∀ {path cred}, store.files.get path = some (some cred) ->
    cred.id = path.credId /\ cred.rpId.trim = path.rpId.value

variable {store} (filed : store.Filed)

include filed

theorem Filed.write (cred : Credential) (saved : Bool) :
    (store.write cred saved).2.Filed := by
  unfold LocalStorageAdapter.write
  split
  · exact filed
  next rpId accepted =>
    split_ifs
    · refine ⟨filed.index.updateOnWrite _, fun {path other} found => ?_⟩
      rw [stored, get_insert] at found
      split_ifs at found with same
      · cases found
        rw [same]
        exact ⟨rfl, (ValidatedRpId.tryFrom_ok accepted).symm⟩
      · exact filed.content found
    · exact filed

theorem Filed.delete (id : CredentialId) (unlinked : Bool) :
    (store.delete id unlinked).2.Filed := by
  unfold LocalStorageAdapter.delete
  split
  · exact filed
  · split_ifs
    · refine ⟨filed.index.updateOnDelete id, fun {path other} found => ?_⟩
      rw [removed, get_remove] at found
      split_ifs at found
      exact filed.content found
    · exact filed

/-- A loop visits a credential exactly if it comes to its file: no other file holds it. -/
theorem Filed.mem_enumerate {path : CredentialPathInfo} {cred : Credential}
    (content : store.files.get path = some (some cred)) (filter : CredentialFilter) :
    cred ∈ store.enumerate filter <->
      path ∈ store.indexes.resolveFilter filter /\ store.Unblocked filter path := by
  rw [mem_enumerate_iff]
  constructor
  · rintro ⟨⟨rpId, credId⟩, mem, found, unblocked⟩
    rcases path with ⟨directory, id⟩
    have there := filed.content found
    have here := filed.content content
    cases there.1.symm.trans here.1
    cases ValidatedRpId.ext_value (there.2.symm.trans here.2)
    exact ⟨mem, unblocked⟩
  · rintro ⟨mem, unblocked⟩
    exact ⟨path, mem, content, unblocked⟩

end LocalStorageAdapter

end Storage

namespace Broker

open Foundation Core Storage LocalStorageAdapter CredentialRef

/-- Whatever cannot be read, the credentials that can be read in the directory of a relying party
are listed, counted and found by the search for candidates. -/
structure Complete (env : Env) (store : LocalStorageAdapter) (rpId : Text)
    (directory : ValidatedRpId) : Prop where
  listed : ∀ credentials, store.listCredentials rpId = .ok credentials ->
    ∀ id cred, store.files.get ⟨directory, id⟩ = some (some cred) ->
      cred ∈ credentials
  counted : (store.readableIn directory).length <= store.countCredentials
  resolved : ∀ id cred, store.files.get ⟨directory, id⟩ = some (some cred) ->
    ∃ found, resolveCredentialId env store (withDefaultDomain env cred.id) rpId = .ok found
  discovered : ∀ id cred, store.files.get ⟨directory, id⟩ = some (some cred) ->
    withDefaultDomain env cred.id ∈ credentialScope env store [] rpId

/-- Nothing hides a file: the name is that of its directory, the index leads to it and lists it
there, its credential spells the relying party alike, and no damaged file is visited before it,
neither in its directory nor in the loop over the whole store. -/
structure Unhidden (store : LocalStorageAdapter) (rpId : Text) (path : CredentialPathInfo)
    (cred : Credential) : Prop where
  trimmed : rpId = path.rpId.value
  indexed : store.indexes.id.get path.credId = some path
  listed : path.credId ∈ store.indexes.idsIn path.rpId.value
  spelled : cred.rpId.asciiLower = rpId.asciiLower
  inDirectory : store.Unblocked (.byRp rpId) path
  inStore : store.Unblocked .none path

/-- No two identifiers of the index have the same reference. -/
def DistinctReferences (env : Env) (store : LocalStorageAdapter) : Prop :=
  ∀ first second, (store.indexes.id.get first).isSome = true ->
    (store.indexes.id.get second).isSome = true ->
      withDefaultDomain env first = .withDefaultDomain env second -> first = second

/-- A reference resolves if the loop over the directory visits its credential. -/
theorem resolveCredentialId_of_visited (env : Env) {store : LocalStorageAdapter}
    {cred : Credential} {rpId : Text} (visited : cred ∈ store.enumerate (.byRp rpId)) :
    ∃ id, resolveCredentialId env store (.withDefaultDomain env cred.id) rpId = .ok id := by
  rcases List.exists_cons_of_ne_nil (List.ne_nil_of_mem visited) with ⟨first, rest, split⟩
  have opened := (store.readFirst_eq_ok_iff (.byRp rpId) first).mpr ⟨rest, split⟩
  unfold resolveCredentialId
  rw [opened]
  dsimp only
  split
  · exact ⟨_, rfl⟩
  · next missing =>
    exact absurd rfl (of_decide_eq_false (Bool.eq_false_of_not_eq_true
      (List.find?_eq_none.mp missing cred visited)))

section Completeness

variable {env : Env} {store : LocalStorageAdapter} {rpId : Text} {directory : ValidatedRpId}

theorem mem_credentialScope {ref : CredentialRef} :
    ref ∈ credentialScope env store [] rpId <-> ∃ cred ∈ store.enumerate .none,
      cred.rpId.asciiLower = rpId.asciiLower /\
        withDefaultDomain env cred.id = ref := by
  simp [credentialScope, and_assoc]

theorem Complete.unhidden (filed : store.Filed) (distinct : DistinctReferences env store)
    (accepted : ValidatedRpId.tryFrom rpId = .ok directory)
    (complete : Complete env store rpId directory) {id : CredentialId} {cred : Credential}
    (content : store.files.get ⟨directory, id⟩ = some (some cred)) :
    Unhidden store rpId ⟨directory, id⟩ cred := by
  have listing : store.listCredentials rpId = .ok (store.enumerate (.byRp rpId)) := by
    rw [listCredentials, accepted]
  rcases (filed.mem_enumerate content _).mp (complete.listed _ listing id cred content) with
    ⟨visited, inDirectory⟩
  rcases List.mem_filterMap.mp visited with ⟨known, mem, indexed⟩
  cases filed.index.path indexed
  have trimmed : rpId = directory.value :=
    (filed.index.dir mem).symm.trans (ValidatedRpId.tryFrom_ok accepted).symm
  rcases mem_credentialScope.mp (complete.discovered id cred content) with
    ⟨other, found, spelled, ref⟩
  -- the credential with the reference is the one of the file, since the index leads to it
  have same : other = cred := by
    rcases mem_enumerate_iff.mp found with ⟨path, located, loaded, -⟩
    rcases (Table.mem_values _ path).mp located with ⟨key, leads⟩
    have named := filed.content loaded
    have wanted := filed.content content
    rw [named.1, filed.index.path leads, wanted.1] at ref
    cases distinct key id (by rw [leads]; rfl) (by rw [indexed]; rfl) ref
    rw [indexed] at leads
    cases leads
    rw [content] at loaded
    cases loaded
    rfl
  subst same
  exact ⟨trimmed, indexed, trimmed ▸ mem, spelled, inDirectory,
    ((filed.mem_enumerate content _).mp found).2⟩

theorem Complete.of_unhidden (filed : store.Filed)
    (unhidden : ∀ id cred, store.files.get ⟨directory, id⟩ = some (some cred) ->
      Unhidden store rpId ⟨directory, id⟩ cred) :
    Complete env store rpId directory := by
  have visited : ∀ id cred, store.files.get ⟨directory, id⟩ = some (some cred) ->
      cred ∈ store.enumerate (.byRp rpId) := by
    intro id cred content
    have shown := unhidden id cred content
    refine (filed.mem_enumerate content _).mpr ⟨?_, shown.inDirectory⟩
    exact List.mem_filterMap.mpr ⟨id, shown.trimmed ▸ shown.listed, shown.indexed⟩
  constructor
  · intro credentials listed
    unfold listCredentials at listed
    split at listed
    · cases listed
    · cases listed
      exact visited
  · refine (List.subperm_of_subset (.sublist ?_ (Table.nodup_keys store.files)) ?_).length_le
    · exact List.filter_sublist.map _
    · intro path mem
      rcases List.mem_map.mp mem with ⟨⟨⟨dir, id⟩, file⟩, inside, rfl⟩
      rw [List.mem_filter, Table.mem_toList, Bool.and_eq_true, decide_eq_true_eq] at inside
      rcases inside with ⟨found, rfl, readable⟩
      rcases Option.isSome_iff_exists.mp readable with ⟨cred, rfl⟩
      exact (Table.mem_values _ _).mpr ⟨id, (unhidden id cred found).indexed⟩
  · intro id cred content
    exact resolveCredentialId_of_visited env (visited id cred content)
  · intro id cred content
    have shown := unhidden id cred content
    refine mem_credentialScope.mpr ⟨cred, ?_, shown.spelled, rfl⟩
    refine (filed.mem_enumerate content _).mpr ⟨?_, shown.inStore⟩
    exact (Table.mem_values _ _).mpr ⟨id, shown.indexed⟩

end Completeness

/-- A listing is complete exactly if nothing hides a readable file of the directory. -/
theorem listing_complete_iff (env : Env) (store : LocalStorageAdapter) (filed : store.Filed)
    (distinct : DistinctReferences env store) (rpId : Text) (directory : ValidatedRpId)
    (accepted : ValidatedRpId.tryFrom rpId = .ok directory) :
    Complete env store rpId directory <->
      ∀ id cred, store.files.get ⟨directory, id⟩ = some (some cred) ->
        Unhidden store rpId ⟨directory, id⟩ cred := by
  constructor
  · intro complete id cred content
    exact complete.unhidden filed distinct accepted content
  · intro unhidden
    exact .of_unhidden filed unhidden

namespace Sample

/-- Two credentials for `example.com`. -/
def fullStore : LocalStorageAdapter :=
  (ownStore.write (cred [2] "example.com") true).2

/-- The file of the first one is damaged. -/
def damagedStore : LocalStorageAdapter :=
  { fullStore with
    files := (fullStore.indexes.id.get [1]).elim fullStore.files
      (fun path => fullStore.files.insert path none) }

/-- Files with the same identifier in two directories. -/
def twinStore : LocalStorageAdapter :=
  .new (ownStore.files.toList.foldl (fun files file => files.insert file.1 file.2)
    ((new .empty).write (cred [1] "example.org") true).2.files)

/-- The second credential can be read, and is not listed.  Neither is a credential whose
identifier leads to another directory, or any for a name that is not trimmed. -/
theorem damaged_file_hides_credential :
    damagedStore.read [2] = .ok (cred [2] "example.com") /\
      damagedStore.listCredentials "example.com" = .ok [] /\
      twinStore.listCredentials "example.com" = .ok [cred [1] "example.org"] /\
      fullStore.listCredentials " example.com" = .ok [] := by
  decide +kernel

/-- Both credentials of the undamaged store are listed. -/
theorem intact_listing_complete :
    ∃ directory, ValidatedRpId.tryFrom "example.com" = .ok directory /\
      Complete sampleEnv fullStore "example.com" directory := by
  have start : (new .empty).Filed := ⟨.load _, nofun⟩
  have filed : fullStore.Filed := (start.write _ true).write _ true
  have keys : fullStore.indexes.id.toList.map Prod.fst = [[2], [1]] := by decide +kernel
  have distinct : DistinctReferences sampleEnv fullStore := by
    have known {id : CredentialId} (found : (fullStore.indexes.id.get id).isSome = true) :
        id ∈ [[2], [1]] := by
      rcases Option.isSome_iff_exists.mp found with ⟨path, located⟩
      rw [<- keys]
      exact List.mem_map.mpr ⟨_, (Table.mem_toList _ _ _).mpr located, rfl⟩
    have apart : ∀ first ∈ [[2], [1]], ∀ second ∈ [[2], [1]],
        withDefaultDomain sampleEnv first = .withDefaultDomain sampleEnv second ->
          first = second := by
      decide +kernel
    exact fun first second left right => apart first (known left) second (known right)
  have shown : ∀ file ∈ fullStore.files.toList, "example.com" = file.1.rpId.value /\
      fullStore.indexes.id.get file.1.credId = some file.1 /\
      file.1.credId ∈ fullStore.indexes.idsIn file.1.rpId.value /\
      (∀ cred ∈ file.2, cred.rpId.asciiLower = Text.asciiLower "example.com") /\
      fullStore.Unblocked (.byRp "example.com") file.1 /\ fullStore.Unblocked .none file.1 := by
    unfold Unblocked
    decide +kernel
  have valid : (ValidatedRpId.tryFrom "example.com").isOk = true := by decide +kernel
  cases accepted : ValidatedRpId.tryFrom "example.com" with
  | error error =>
    rw [accepted] at valid
    cases valid
  | ok directory =>
    refine ⟨directory, rfl, (listing_complete_iff sampleEnv fullStore filed distinct _ directory
      accepted).mpr fun id cred content => ?_⟩
    rcases shown _ ((Table.mem_toList _ _ _).mpr content) with
      ⟨trimmed, indexed, listed, spelled, inDirectory, inStore⟩
    exact ⟨trimmed, indexed, listed, spelled cred rfl, inDirectory, inStore⟩

end Sample

end Broker
end ControlVault
