import ControlVault.Storage.Index

namespace ControlVault.Storage

open Foundation CredentialIndexes Table List

/-!
# The local credential store

Credentials are read and written through files; the index only says which.  A
file is what its bytes decode to, or `none` if they cannot be read or decoded.
Whether the operating system carries out a write or a removal is an argument.

Loops over the store ask for a first credential and then for the next one until
a call fails, so a file that cannot be read ends the loop.  `enumerate` is what
such a loop sees.

`Consistent` says that the index describes the files: every indexed file is
readable, holds the credential it is named after and lies in the directory of
that credential's relying party.  Writing keeps it as long as identifiers are
not reused for another relying party, which random identifiers are not.
`Truthful` asks this only of the files that can be read.
-/

inductive CredentialBackupState
  | notEligible
  | eligible
  | backedUp
  deriving DecidableEq

structure CredentialKey where
  provider : List UInt8
  formatVersion : Nat
  material : List UInt8
  deriving DecidableEq

structure Extensions where
  credProtect : Option Nat
  hmacSecret : Option Bool
  credRandom : Option (List UInt8)
  deriving DecidableEq

structure Credential where
  id : CredentialId
  rpId : Text
  rpName : Option Text
  userId : List UInt8
  (userName userDisplayName : Option Text)
  signCount : Nat
  alg : Int
  key : CredentialKey
  created : Int
  discoverable : Bool
  backupState : CredentialBackupState
  extensions : Extensions
  deriving DecidableEq

/-- The reference through which a credential is written has no field for the HMAC flag. -/
def Credential.asWritten (cred : Credential) : Credential :=
  { cred with extensions := { cred.extensions with hmacSecret := none } }

inductive StorageError
  | doesNotExist
  | other
  deriving DecidableEq

structure LocalStorageAdapter where
  files : Table CredentialPathInfo (Option Credential)
  indexes : CredentialIndexes

namespace LocalStorageAdapter

def loadCredentialFromPath (store : LocalStorageAdapter) (path : CredentialPathInfo) :
    Except StorageError Credential :=
  match store.files.get path with
  | none => .error .doesNotExist
  | some none => .error .other
  | some (some cred) => .ok cred

def read (store : LocalStorageAdapter) (id : CredentialId) : Except StorageError Credential :=
  match store.indexes.id.get id with
  | none => .error .doesNotExist
  | some path => store.loadCredentialFromPath path

def readFirst (store : LocalStorageAdapter) (filter : CredentialFilter) :
    Except StorageError Credential :=
  match store.indexes.resolveFilter filter with
  | [] => .error .doesNotExist
  | path :: _ => store.loadCredentialFromPath path

/-- The files of a list up to the first one that does not load. -/
def loadWhile (store : LocalStorageAdapter) : List CredentialPathInfo -> List Credential
  | [] => []
  | path :: rest =>
    match store.loadCredentialFromPath path with
    | .error _ => []
    | .ok cred => cred :: store.loadWhile rest

/-- What a loop of `read_first` and `read_next` visits. -/
def enumerate (store : LocalStorageAdapter) (filter : CredentialFilter) : List Credential :=
  store.loadWhile (store.indexes.resolveFilter filter)

/-- The store behind a successful write. -/
def stored (store : LocalStorageAdapter) (rpId : ValidatedRpId) (cred : Credential) :
    LocalStorageAdapter where
  files := store.files.insert ⟨rpId, cred.id⟩ (some cred.asWritten)
  indexes := store.indexes.updateOnWrite ⟨rpId, cred.id⟩

/-- The store behind a successful removal. -/
def removed (store : LocalStorageAdapter) (path : CredentialPathInfo) (id : CredentialId) :
    LocalStorageAdapter where
  files := store.files.remove path
  indexes := store.indexes.updateOnDelete id

def write (store : LocalStorageAdapter) (cred : Credential) (saved : Bool) :
    Except StorageError Unit × LocalStorageAdapter :=
  match ValidatedRpId.tryFrom cred.rpId with
  | .error _ => (.error .other, store)
  | .ok rpId =>
    if saved then (.ok (), store.stored rpId cred)
    else (.error .other, store)

def delete (store : LocalStorageAdapter) (id : CredentialId) (unlinked : Bool) :
    Except StorageError Unit × LocalStorageAdapter :=
  match store.indexes.id.get id with
  | none => (.error .doesNotExist, store)
  | some path =>
    if (store.files.get path).isSome && unlinked then (.ok (), store.removed path id)
    else (.error .other, store)

/-- Open the store on a tree of files. -/
def new (files : Table CredentialPathInfo (Option Credential)) : LocalStorageAdapter where
  files
  indexes := .load (files.toList.map Prod.fst)

/-! ## What a loop visits -/

def isReadable (store : LocalStorageAdapter) (path : CredentialPathInfo) : Bool :=
  (store.files.get path).join.isSome

/-- The files that a loop visits before the given one can all be read. -/
def Unblocked (store : LocalStorageAdapter) (filter : CredentialFilter)
    (path : CredentialPathInfo) : Prop :=
  ∀ earlier ∈ (store.indexes.resolveFilter filter).takeWhile (fun other => other ≠ path),
    store.isReadable earlier = true

/-- A loop comes to a file with the credential. -/
def Reaches (store : LocalStorageAdapter) (filter : CredentialFilter) (cred : Credential) :
    Prop :=
  ∃ path ∈ store.indexes.resolveFilter filter,
    store.files.get path = some (some cred) /\ store.Unblocked filter path

/-- There is a first file, and it can be read. -/
def opens (store : LocalStorageAdapter) (filter : CredentialFilter) : Bool :=
  (store.indexes.resolveFilter filter).head?.any store.isReadable

theorem isReadable_eq (store : LocalStorageAdapter) (path : CredentialPathInfo) :
    store.isReadable path = (store.loadCredentialFromPath path).isOk := by
  unfold isReadable loadCredentialFromPath
  rcases store.files.get path with _ | _ | _ <;> rfl

theorem readFirst_isOk (store : LocalStorageAdapter) (filter : CredentialFilter) :
    (store.readFirst filter).isOk = store.opens filter := by
  unfold readFirst opens
  cases store.indexes.resolveFilter filter with
  | nil => rfl
  | cons path => exact (store.isReadable_eq path).symm

theorem readFirst_eq_ok_iff (store : LocalStorageAdapter) (filter : CredentialFilter)
    (cred : Credential) :
    store.readFirst filter = .ok cred <->
      ∃ rest, store.enumerate filter = cred :: rest := by
  unfold readFirst enumerate
  cases store.indexes.resolveFilter filter with
  | nil => simp [loadWhile]
  | cons path =>
    dsimp only
    rw [loadWhile]
    cases store.loadCredentialFromPath path with
    | error | ok => simp

variable {cred : Credential} {store : LocalStorageAdapter} {id : CredentialId}

theorem load_eq_ok_iff :
    store.loadCredentialFromPath path = .ok cred <->
      store.files.get path = some (some cred) := by
  unfold loadCredentialFromPath
  cases store.files.get path with
  | none => simp
  | some file => cases file <;> simp

theorem read_eq_ok_iff :
    store.read id = .ok cred <->
      ∃ path, store.indexes.id.get id = some path /\
        store.files.get path = some (some cred) := by
  unfold read
  cases store.indexes.id.get id with
  | none => simp
  | some => simp [load_eq_ok_iff]

/-- A loop visits a credential if it comes to a file of it, past files that can be read. -/
theorem mem_loadWhile_iff {paths : List CredentialPathInfo} :
    cred ∈ store.loadWhile paths <->
      ∃ path ∈ paths, store.files.get path = some (some cred) /\
        ∀ earlier ∈ paths.takeWhile (fun other => other ≠ path),
          store.isReadable earlier = true := by
  induction paths with
  | nil => simp [loadWhile]
  | cons first rest ih =>
    have readable := store.isReadable_eq first
    rw [loadWhile]
    cases loaded : store.loadCredentialFromPath first with
    | error =>
      rw [loaded] at readable
      refine iff_of_false not_mem_nil ?_
      rintro ⟨path, _, content, earlier⟩
      by_cases here : first = path
      · rw [here, load_eq_ok_iff.mpr content] at loaded
        cases loaded
      · rw [earlier first (by simp [here])] at readable
        cases readable
    | ok other =>
      rw [loaded] at readable
      rw [mem_cons, ih]
      constructor
      · rintro (rfl | ⟨path, mem, content, earlier⟩)
        · exact ⟨first, mem_cons_self, load_eq_ok_iff.mp loaded, by simp⟩
        · refine ⟨path, mem_cons_of_mem _ mem, content, ?_⟩
          rw [takeWhile_cons]
          split_ifs
          · exact forall_mem_cons.mpr ⟨readable, earlier⟩
          · exact forall_mem_nil _
      · rintro ⟨path, mem, content, earlier⟩
        by_cases here : first = path
        · rw [here, load_eq_ok_iff.mpr content] at loaded
          cases loaded
          exact .inl rfl
        · rw [takeWhile_cons_of_pos (by simpa using here), forall_mem_cons] at earlier
          exact .inr ⟨path, mem_of_ne_of_mem (Ne.symm here) mem, content, earlier.2⟩

theorem Reaches.opens {filter : CredentialFilter} (reached : store.Reaches filter cred) :
    store.opens filter = true := by
  rcases reached with ⟨path, mem, content, unblocked⟩
  unfold Unblocked at unblocked
  unfold LocalStorageAdapter.opens
  cases split : store.indexes.resolveFilter filter with
  | nil => simp [split] at mem
  | cons first rest =>
    by_cases here : first = path
    · simp [here, isReadable, content]
    · exact unblocked first (by simp [split, here])

theorem mem_enumerate_iff {filter : CredentialFilter} :
    cred ∈ store.enumerate filter <-> store.Reaches filter cred :=
  mem_loadWhile_iff

theorem located_of_listed {filter : CredentialFilter}
    (listed : path ∈ store.indexes.resolveFilter filter) :
    ∃ id, store.indexes.id.get id = some path := by
  cases filter with
  | none =>
    rcases mem_map.mp listed with ⟨⟨id, _⟩, mem, rfl⟩
    exact ⟨id, (mem_toList _ _ _).mp mem⟩
  | byRp =>
    rcases mem_filterMap.mp listed with ⟨id, _, located⟩
    exact ⟨id, located⟩

/-- A loop visits only credentials that can be read, whatever its filter. -/
theorem read_of_mem_enumerate {filter : CredentialFilter}
    (visited : cred ∈ store.enumerate filter) :
    ∃ id, store.read id = .ok cred := by
  rcases mem_loadWhile_iff.mp visited with ⟨path, listed, content, -⟩
  rcases located_of_listed listed with ⟨id, located⟩
  exact ⟨id, read_eq_ok_iff.mpr ⟨path, located, content⟩⟩

/-- If no two files hold the same credential, a loop visits each once. -/
theorem nodup_loadWhile {paths : List CredentialPathInfo} (once : paths.Nodup)
    (apart : ∀ cred, ∀ first ∈ paths, ∀ second ∈ paths, store.files.get first = some (some cred) ->
      store.files.get second = some (some cred) -> first = second) :
    (store.loadWhile paths).Nodup := by
  induction paths with
  | nil => exact nodup_nil
  | cons path rest ih =>
    rw [nodup_cons] at once
    rw [loadWhile]
    split
    · exact nodup_nil
    next cred loaded =>
      refine nodup_cons.mpr ⟨?_, ih once.2 ?_⟩
      · intro visited
        rcases mem_loadWhile_iff.mp visited with ⟨other, mem, content, -⟩
        have same := apart cred path mem_cons_self other (mem_cons_of_mem _ mem)
          (load_eq_ok_iff.mp loaded) content
        exact once.1 (same ▸ mem)
      · intro cred first firstMember second secondMember
        exact apart cred first (mem_cons_of_mem _ firstMember) second
          (mem_cons_of_mem _ secondMember)

/-! ## Consistent stores -/

structure Consistent (store : LocalStorageAdapter) : Prop where
  coherent : store.indexes.Coherent
  filed : ∀ {id path}, store.indexes.id.get id = some path ->
    ∃ cred, store.files.get path = some (some cred) /\ cred.id = id /\
      cred.rpId.trim = path.rpId.value

/-- A file that the index knows and that can be read is the credential it is named after. -/
structure Truthful (store : LocalStorageAdapter) : Prop where
  coherent : store.indexes.Coherent
  named : ∀ {id path cred}, store.indexes.id.get id = some path ->
    store.files.get path = some (some cred) ->
      cred.id = id /\ cred.rpId.trim = path.rpId.value

theorem Consistent.truthful (consistent : store.Consistent) : store.Truthful := by
  refine ⟨consistent.coherent, ?_⟩
  intro id path cred located content
  rcases consistent.filed located with ⟨_, found, named, place⟩
  rw [content] at found
  cases found
  exact ⟨named, place⟩

theorem Truthful.read_id (truthful : store.Truthful) (found : store.read id = .ok cred) :
    cred.id = id := by
  rcases read_eq_ok_iff.mp found with ⟨_, located, content⟩
  exact (truthful.named located content).1

/-- A loop over a directory visits only credentials of that relying party. -/
theorem Truthful.read_of_mem_byRp (truthful : store.Truthful) {rpId : Text}
    (visited : cred ∈ store.enumerate (.byRp rpId)) :
    store.read cred.id = .ok cred /\ cred.rpId.trim = rpId := by
  rcases mem_loadWhile_iff.mp visited with ⟨path, listed, content, -⟩
  rcases mem_filterMap.mp listed with ⟨id, mem, located⟩
  rcases (truthful.coherent.listed rpId id).mp mem with ⟨_, indexed, dir⟩
  rw [located] at indexed
  cases indexed
  rcases truthful.named located content with ⟨rfl, filed⟩
  exact ⟨read_eq_ok_iff.mpr ⟨path, located, content⟩, filed.trans dir⟩

namespace Consistent

variable (consistent : store.Consistent)

include consistent

/-- No loop over a consistent store is cut short. -/
theorem unblocked (filter : CredentialFilter) (path : CredentialPathInfo) :
    store.Unblocked filter path := by
  intro earlier before
  rcases located_of_listed ((takeWhile_sublist _).subset before) with ⟨id, located⟩
  rcases consistent.filed located with ⟨_, content, _, _⟩
  simp [isReadable, content]

/-- A loop without a filter visits every credential of the store. -/
theorem mem_enumerate_none (cred : Credential) :
    cred ∈ store.enumerate .none <-> store.read cred.id = .ok cred := by
  constructor
  · intro visited
    rcases read_of_mem_enumerate visited with ⟨id, found⟩
    rwa [consistent.truthful.read_id found]
  · intro found
    rcases read_eq_ok_iff.mp found with ⟨path, located, content⟩
    exact mem_enumerate_iff.mpr ⟨path, mem_map.mpr ⟨_, (mem_toList _ _ _).mpr located, rfl⟩,
      content, consistent.unblocked _ _⟩

/-- A loop over a directory visits exactly the credentials of that relying party. -/
theorem mem_enumerate_byRp (rpId : Text) (cred : Credential) :
    cred ∈ store.enumerate (.byRp rpId) <->
      store.read cred.id = .ok cred /\ cred.rpId.trim = rpId := by
  refine ⟨consistent.truthful.read_of_mem_byRp, ?_⟩
  rintro ⟨found, place⟩
  rcases read_eq_ok_iff.mp found with ⟨path, located, content⟩
  have dir := (consistent.truthful.named located content).2
  have listed := (consistent.coherent.listed rpId cred.id).mpr
    ⟨path, located, dir.symm.trans place⟩
  exact mem_enumerate_iff.mpr ⟨path, mem_filterMap.mpr ⟨_, listed, located⟩, content,
    consistent.unblocked _ _⟩

theorem nodup_enumerate_none : (store.enumerate .none).Nodup := by
  have alone {id : CredentialId} {path : CredentialPathInfo} {cred : Credential}
      (located : store.indexes.id.get id = some path)
      (content : store.files.get path = some (some cred)) : cred.id = id :=
    (consistent.truthful.named located content).1
  refine nodup_loadWhile ?_ ?_
  · have names : (store.indexes.resolveFilter .none).map CredentialPathInfo.credId =
        store.indexes.id.toList.map Prod.fst := by
      rw [resolveFilter, values, map_map]
      exact map_congr_left fun _ mem => consistent.coherent.named ((mem_toList _ _ _).mp mem)
    exact .of_map CredentialPathInfo.credId (names ▸ nodup_keys _)
  · intro cred first firstListed second secondListed firstContent secondContent
    rcases located_of_listed firstListed with ⟨_, firstLocated⟩
    rcases located_of_listed secondListed with ⟨_, secondLocated⟩
    cases alone firstLocated firstContent
    cases alone secondLocated secondContent
    exact Option.some_inj.mp (firstLocated.symm.trans secondLocated)

end Consistent

/-! ## Operations -/

variable {rpId : ValidatedRpId} {path : CredentialPathInfo}

/-- The two ways a write can end. -/
inductive Written (store : LocalStorageAdapter) (cred : Credential) :
    Except StorageError Unit × LocalStorageAdapter -> Prop
  | refused : Written store cred (.error .other, store)
  | stored (rpId : ValidatedRpId) (place : rpId.value = cred.rpId.trim) :
      Written store cred (.ok (), store.stored rpId cred)

theorem write_written (store : LocalStorageAdapter) (cred : Credential) (saved : Bool) :
    Written store cred (store.write cred saved) := by
  unfold write
  cases accepted : ValidatedRpId.tryFrom cred.rpId with
  | error => exact .refused
  | ok rpId =>
    split_ifs
    · exact .stored rpId (ValidatedRpId.tryFrom_ok accepted)
    · exact .refused

theorem get_updateOnWrite (indexes : CredentialIndexes) (path : CredentialPathInfo)
    (id : CredentialId) :
    (indexes.updateOnWrite path).id.get id =
      if id = path.credId then some path else indexes.id.get id := by
  unfold updateOnWrite
  dsimp only
  split_ifs <;> simp_all [push, get_insert]

theorem read_stored_self (store : LocalStorageAdapter) (rpId : ValidatedRpId) (cred : Credential) :
    (store.stored rpId cred).read cred.id = .ok cred.asWritten := by
  unfold read
  rw [stored, get_updateOnWrite]
  simp [loadCredentialFromPath]

/-- A successful write changes what its own identifier reads, and nothing else. -/
theorem read_stored (named : ∀ {id path}, store.indexes.id.get id = some path -> path.credId = id)
    (rpId : ValidatedRpId) (id : CredentialId) :
    (store.stored rpId cred).read id =
      if id = cred.id then .ok cred.asWritten else store.read id := by
  split_ifs with same
  · rw [same]
    exact read_stored_self store rpId cred
  · unfold read
    rw [stored, get_updateOnWrite, if_neg same]
    cases located : store.indexes.id.get id with
    | none => rfl
    | some path =>
      have elsewhere : path ≠ ⟨rpId, cred.id⟩ := by
        rintro rfl
        exact same (named located).symm
      simp only [loadCredentialFromPath, get_insert_of_ne _ _ elsewhere]

/-- A write that does not move an identifier to another directory keeps the index coherent. -/
theorem coherent_stored (coherent : store.indexes.Coherent)
    (stays : ∀ path, store.indexes.id.get cred.id = some path -> path.rpId = rpId) :
    (store.stored rpId cred).indexes.Coherent := by
  refine coherent.updateOnWrite ?_
  intro known located
  have sameDirectory := stays known located
  have sameName : known.credId = cred.id := coherent.named located
  cases known
  cases sameDirectory
  cases sameName
  rfl

/-- The files that the index knows after a write are the written one and those it knew. -/
theorem located_stored (coherent : store.indexes.Coherent)
    (located : (store.stored rpId cred).indexes.id.get id = some path) :
    (id = cred.id /\ path = ⟨rpId, cred.id⟩ /\
        (store.stored rpId cred).files.get path = some (some cred.asWritten)) ∨
      store.indexes.id.get id = some path /\
        (store.stored rpId cred).files.get path = store.files.get path := by
  rw [stored, get_updateOnWrite] at located
  split_ifs at located with same
  · cases located
    exact .inl ⟨same, rfl, get_insert_self _ _ _⟩
  · have elsewhere : path ≠ ⟨rpId, cred.id⟩ := by
      rintro rfl
      exact same (coherent.named located).symm
    exact .inr ⟨located, get_insert_of_ne _ _ elsewhere⟩

theorem Truthful.stored (truthful : store.Truthful) (place : rpId.value = cred.rpId.trim)
    (stays : ∀ path, store.indexes.id.get cred.id = some path -> path.rpId = rpId) :
    (store.stored rpId cred).Truthful := by
  refine ⟨coherent_stored truthful.coherent stays, ?_⟩
  intro id path known located content
  rcases located_stored truthful.coherent located with ⟨rfl, rfl, written⟩ | ⟨indexed, unchanged⟩
  · rw [content] at written
    cases written
    exact ⟨rfl, place.symm⟩
  · exact truthful.named indexed (unchanged ▸ content)

/-- A write that does not move an identifier to another directory keeps the store consistent. -/
theorem Consistent.write (consistent : store.Consistent)
    (stays : ∀ known, store.read cred.id = .ok known ->
      known.rpId.trim = cred.rpId.trim)
    (saved : Bool) : (store.write cred saved).2.Consistent := by
  have written := store.write_written cred saved
  generalize store.write cred saved = outcome at written
  cases written with
  | refused => exact consistent
  | stored rpId place =>
    have sameDirectory : ∀ path, store.indexes.id.get cred.id = some path -> path.rpId = rpId := by
      intro known located
      rcases consistent.filed located with ⟨stored, content, _, dir⟩
      have found := read_eq_ok_iff.mpr ⟨known, located, content⟩
      apply ValidatedRpId.ext_value
      calc known.rpId.value
        _ = stored.rpId.trim := dir.symm
        _ = cred.rpId.trim := stays stored found
        _ = rpId.value := place.symm
    refine ⟨coherent_stored consistent.coherent sameDirectory, ?_⟩
    intro id path located
    rcases located_stored consistent.coherent located with ⟨rfl, rfl, content⟩ | ⟨indexed, same⟩
    · exact ⟨cred.asWritten, content, rfl, place.symm⟩
    · rcases consistent.filed indexed with ⟨stored, content, named, dir⟩
      exact ⟨stored, same.trans content, named, dir⟩

/-- A successful removal changes what its own identifier reads, and nothing else. -/
theorem read_removed (coherent : store.indexes.Coherent)
    (located : store.indexes.id.get id = some path) (other : CredentialId) :
    (store.removed path id).read other =
      if other = id then .error .doesNotExist else store.read other := by
  unfold read
  rw [removed, get_updateOnDelete]
  split_ifs with same
  · rfl
  · cases found : store.indexes.id.get other with
    | none => rfl
    | some place =>
      have elsewhere : place ≠ path := by
        rintro rfl
        exact same ((coherent.named found).symm.trans (coherent.named located))
      simp only [loadCredentialFromPath, get_remove, if_neg elsewhere]

/-- A store opened on readable files, each in its place and no identifier twice, is consistent. -/
theorem new_consistent {files : Table CredentialPathInfo (Option Credential)}
    (distinct : (files.toList.map (fun file => file.1.credId)).Nodup)
    (placed : ∀ path file, files.get path = some file -> ∃ stored, file = some stored /\
      stored.id = path.credId /\ stored.rpId.trim = path.rpId.value) :
    (LocalStorageAdapter.new files).Consistent := by
  have coherent : (load (files.toList.map Prod.fst)).Coherent :=
    load_coherent (by rw [map_map]; exact distinct)
  refine ⟨coherent, ?_⟩
  intro id path located
  have indexed : path ∈ files.toList.map Prod.fst := mem_of_get_load located
  rcases mem_map.mp indexed with ⟨⟨_, file⟩, mem, rfl⟩
  rcases placed _ file ((mem_toList _ _ _).mp mem) with ⟨stored, rfl, named, dir⟩
  exact ⟨stored, (mem_toList _ _ _).mp mem, named.trans (coherent.named located), dir⟩

end LocalStorageAdapter

end ControlVault.Storage
