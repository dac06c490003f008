import ControlVault.Storage.Local

namespace ControlVault.Storage

open Foundation LocalStorageAdapter

/-!
# What a wrapped store promises

The storages of agent endpoints wrap another store and decide what of it may be
seen and changed.  They rely on the store to be a map: an identifier reads as the
credential of that identifier, a write replaces what its own identifier reads and
nothing else, and whether a write succeeds depends on the credential and the
operating system only.

What is written is a reference to a credential.  It has every field of the
credential except the HMAC flag, so that is what the store keeps.
-/

/-- The filters of a loop over a storage. -/
inductive ReadFilter
  | none
  | byId (id : CredentialId)
  | byRp (rpId : Text)
  | byHash (hash : BitVec 256)

/-- A store that can be wrapped.  `visit` is a whole loop of `read_first` and `read_next`
without a filter, and fails if the loop ends in an error other than a missing credential. -/
class CredentialStorage (σ : Type) where
  read : σ -> CredentialId -> Except StorageError Credential
  write : σ -> Credential -> Bool -> Except StorageError Unit × σ
  visit : σ -> Except StorageError (List Credential)
  cleanupExpiredCache : σ -> σ
  read_id : ∀ {store id cred}, read store id = .ok cred -> cred.id = id
  read_written : ∀ {store cred saved},
    (write store cred saved).1 = .ok () -> ∀ id,
      read (write store cred saved).2 id =
        if id = cred.id then .ok cred.asWritten else read store id
  read_unwritten : ∀ {store cred saved error},
    (write store cred saved).1 = .error error -> ∀ id,
      read (write store cred saved).2 id = read store id
  write_result : ∀ store other cred saved,
    (write store cred saved).1 = (write other cred saved).1
  read_visited : ∀ {store credentials cred}, visit store = .ok credentials ->
    cred ∈ credentials -> read store cred.id = .ok cred
  read_cleanup : ∀ store id, read (cleanupExpiredCache store) id = read store id

/-! ## The local store keeps the promise -/

/-- The store's loop over a list of files.  A file that is gone ends it quietly. -/
def LocalStorageAdapter.visitFiles (store : LocalStorageAdapter) :
    List CredentialPathInfo -> Except StorageError (List Credential)
  | [] => .ok []
  | path :: rest =>
    match store.loadCredentialFromPath path with
    | .error .doesNotExist => .ok []
    | .error .other => .error .other
    | .ok cred => (store.visitFiles rest).map (cred :: ·)

theorem LocalStorageAdapter.mem_visitFiles {store : LocalStorageAdapter}
    (visited : store.visitFiles paths = .ok credentials) (mem : cred ∈ credentials) :
    ∃ path ∈ paths, store.loadCredentialFromPath path = .ok cred := by
  induction paths generalizing credentials with
  | nil =>
    cases visited
    cases mem
  | cons path rest ih =>
    rw [visitFiles] at visited
    split at visited
    · cases visited
      cases mem
    · cases visited
    · next first loaded =>
        cases later : store.visitFiles rest with
        | error =>
          rw [later] at visited
          cases visited
        | ok =>
          rw [later] at visited
          cases visited
          rcases List.mem_cons.mp mem with rfl | inside
          · exact ⟨path, List.mem_cons_self, loaded⟩
          · rcases ih later inside with ⟨place, listed, found⟩
            exact ⟨place, List.mem_cons_of_mem _ listed, found⟩

/-- A local store in which files and index entries carry the identifiers they belong to. -/
structure NamedStorage where
  store : LocalStorageAdapter
  named : ∀ {id path}, store.indexes.id.get id = some path -> path.credId = id
  filed : ∀ {path cred}, store.files.get path = some (some cred) ->
    cred.id = path.credId

namespace NamedStorage

def empty : NamedStorage where
  store := .new .empty
  named := by
    intro id path found
    exact absurd (CredentialIndexes.mem_of_get_load found) List.not_mem_nil
  filed := by
    intro path cred found
    change (Table.empty : Table CredentialPathInfo (Option Credential)).get path = _ at found
    rw [Table.get_empty] at found
    cases found

def write (wrapped : NamedStorage) (cred : Credential) (saved : Bool) :
    Except StorageError Unit × NamedStorage :=
  ((wrapped.store.write cred saved).1,
    { store := (wrapped.store.write cred saved).2
      named := by
        intro id path located
        have written := wrapped.store.write_written cred saved
        generalize wrapped.store.write cred saved = outcome at written located
        cases written with
        | refused => exact wrapped.named located
        | stored rpId place =>
          rw [LocalStorageAdapter.stored, get_updateOnWrite] at located
          split_ifs at located with same
          · cases located
            exact same.symm
          · exact wrapped.named located
      filed := by
        intro path stored content
        have written := wrapped.store.write_written cred saved
        generalize wrapped.store.write cred saved = outcome at written content
        cases written with
        | refused => exact wrapped.filed content
        | stored rpId place =>
          rw [LocalStorageAdapter.stored, Table.get_insert] at content
          split_ifs at content with same
          · cases content
            rw [same]
            rfl
          · exact wrapped.filed content })

variable {wrapped : NamedStorage} {cred : Credential}

theorem read_written (succeeded : (wrapped.write cred saved).1 = .ok ()) (id : CredentialId) :
    (wrapped.write cred saved).2.store.read id =
      if id = cred.id then .ok cred.asWritten else wrapped.store.read id := by
  have written := wrapped.store.write_written cred saved
  unfold write at succeeded ⊢
  dsimp only at succeeded ⊢
  generalize wrapped.store.write cred saved = outcome at written succeeded
  cases written with
  | refused => cases succeeded
  | stored rpId => exact read_stored wrapped.named rpId id

theorem write_error (failed : (wrapped.write cred saved).1 = .error error) :
    (wrapped.write cred saved).2.store = wrapped.store := by
  have written := wrapped.store.write_written cred saved
  unfold write at failed ⊢
  dsimp only at failed ⊢
  generalize wrapped.store.write cred saved = outcome at written failed
  cases written with
  | refused => rfl
  | stored => cases failed

theorem write_result (wrapped other : NamedStorage) (cred : Credential) (saved : Bool) :
    (wrapped.write cred saved).1 = (other.write cred saved).1 := by
  unfold write LocalStorageAdapter.write
  dsimp only
  split
  · rfl
  · split_ifs <;> rfl

instance : CredentialStorage NamedStorage where
  read := fun wrapped => wrapped.store.read
  write := write
  visit := fun wrapped => wrapped.store.visitFiles (wrapped.store.indexes.resolveFilter .none)
  cleanupExpiredCache := id
  read_id := by
    intro wrapped id cred found
    rcases read_eq_ok_iff.mp found with ⟨path, located, content⟩
    rw [wrapped.filed content, wrapped.named located]
  read_written := read_written
  read_unwritten := fun failed id => by rw [write_error failed]
  write_result := write_result
  read_visited := by
    intro wrapped credentials cred visited mem
    rcases mem_visitFiles visited mem with ⟨path, listed, loaded⟩
    rcases List.mem_map.mp listed with ⟨⟨id, _⟩, entry, rfl⟩
    have located := (Table.mem_toList _ _ _).mp entry
    have found : wrapped.store.read id = .ok cred := by
      rw [LocalStorageAdapter.read, located]
      exact loaded
    rcases read_eq_ok_iff.mp found with ⟨path, place, content⟩
    have named : cred.id = id := by
      rw [wrapped.filed content, wrapped.named place]
    rw [named]
    exact found
  read_cleanup := fun _ _ => rfl

end NamedStorage

end ControlVault.Storage
