import ControlVault.Core.Ids
import ControlVault.Storage.Index

namespace ControlVault.Storage.PathIndex

open Foundation Core List Table

/-!
# The whole index of a credential store

`Index` models the two maps that the loops of the daemon use.  The source keeps
a third one, from hashes of relying parties to identifiers, and answers every
filter with the paths of files; here is the index with all of it.

An index is right after a sequence of writes and deletions if it finds every
credential at the place of its last write, by identifier, by relying party and by
hash.  That is so as long as an identifier that is written again stays with its
relying party.
-/

structure CredentialPathInfo where
  rpId : ValidatedRpId
  credId : CredentialId
  extension : Text
  deriving DecidableEq

/-- The lower-case hexadecimal spelling of bytes. -/
def bytesToHex (bytes : List UInt8) : Text :=
  bytes.flatMap (fun byte => [Nat.digitChar (byte.toNat / 16), Nat.digitChar (byte.toNat % 16)])

def getFilename (credId : CredentialId) (extension : Text) : Text :=
  bytesToHex credId ++ '.' :: extension

namespace CredentialPathInfo

/-- A path is the list of its components. -/
def toPath (path : CredentialPathInfo) (baseDir : List Text) : List Text :=
  baseDir ++ [path.rpId.value, getFilename path.credId path.extension]

def rpIdHash (env : Env) (path : CredentialPathInfo) : BitVec 256 :=
  env.sha256 path.rpId.value.utf8

end CredentialPathInfo

inductive CredentialFilter
  | none
  | byId (id : CredentialId)
  | byRp (rpId : Text)
  | byHash (hash : BitVec 256)

structure CredentialIndexes where
  id : Table CredentialId CredentialPathInfo
  rp : Groups Text CredentialId
  rpHash : Groups (BitVec 256) CredentialId

namespace CredentialIndexes

def empty : CredentialIndexes where
  id := .empty
  rp := .empty
  rpHash := .empty

/-- The files to visit. -/
def resolve (indexes : CredentialIndexes) : CredentialFilter -> List CredentialPathInfo
  | .none => indexes.id.values
  | .byId id => (indexes.id.get id).toList
  | .byRp rpId => (indexes.rp.members rpId).filterMap indexes.id.get
  | .byHash hash => (indexes.rpHash.members hash).filterMap indexes.id.get

def resolveFilter (indexes : CredentialIndexes) (filter : CredentialFilter) (baseDir : List Text) :
    List (List Text) :=
  (indexes.resolve filter).map (fun path => path.toPath baseDir)

variable (env : Env)

def updateIndexesOnWrite (indexes : CredentialIndexes) (path : CredentialPathInfo) :
    CredentialIndexes :=
  let inserted := { indexes with id := indexes.id.insert path.credId path }
  if (indexes.id.get path.credId).isNone then
    { inserted with
      rp := indexes.rp.push path.rpId.value path.credId
      rpHash := indexes.rpHash.push (path.rpIdHash env) path.credId }
  else inserted

def updateIndexesOnDelete (indexes : CredentialIndexes) (credId : CredentialId) :
    CredentialIndexes :=
  match indexes.id.get credId with
  | none => indexes
  | some path =>
    { id := indexes.id.remove credId
      rp := indexes.rp.drop path.rpId.value credId
      rpHash := indexes.rpHash.drop (path.rpIdHash env) credId }

end CredentialIndexes

/-! ## Paths of different credentials differ -/

theorem digitChar_injective : ∀ first < 16, ∀ second < 16,
    Nat.digitChar first = Nat.digitChar second -> first = second := by
  decide

theorem digitChar_ne_dot : ∀ digit < 16, Nat.digitChar digit ≠ '.' := by
  decide

theorem bytesToHex_injective (same : bytesToHex first = bytesToHex second) : first = second := by
  induction first generalizing second with
  | nil =>
    cases second with
    | nil => rfl
    | cons => simp [bytesToHex] at same
  | cons byte rest ih =>
    cases second with
    | nil => simp [bytesToHex] at same
    | cons other =>
      simp only [bytesToHex, flatMap_cons, cons_append, cons.injEq] at same
      rcases same with ⟨high, low, later⟩
      have below := byte.toNat_lt
      have otherBelow := other.toNat_lt
      have highs := digitChar_injective _ (by omega) _ (by omega) high
      have lows := digitChar_injective _ (by omega) _ (by omega) low
      have bytes : byte = other := UInt8.toNat_inj.mp (by omega)
      rw [bytes, ih later]

theorem dot_not_mem_bytesToHex (bytes : List UInt8) : '.' ∉ bytesToHex bytes := by
  intro mem
  rcases mem_flatMap.mp mem with ⟨byte, _, digit⟩
  have below := byte.toNat_lt
  rcases mem_cons.mp digit with high | low
  · exact digitChar_ne_dot _ (by omega) high.symm
  · exact digitChar_ne_dot _ (by omega) (mem_singleton.mp low).symm

theorem getFilename_credId
    (same : getFilename first extension = getFilename second other) : first = second := by
  have stem : ∀ (credId : CredentialId) (rest : Text),
      (getFilename credId rest).takeWhile (fun char => char ≠ '.') = bytesToHex credId := by
    intro credId rest
    unfold getFilename
    rw [takeWhile_append_of_pos, takeWhile_cons_of_neg (by simp), append_nil]
    intro char mem
    simp only [decide_eq_true_eq]
    rintro rfl
    exact dot_not_mem_bytesToHex credId mem
  apply bytesToHex_injective
  rw [<- stem first extension, <- stem second other, same]

theorem CredentialPathInfo.toPath_credId {first second : CredentialPathInfo}
    (same : first.toPath baseDir = second.toPath baseDir) : first.credId = second.credId := by
  have parts := append_cancel_left same
  simp only [cons.injEq, and_true] at parts
  exact getFilename_credId parts.2

/-! ## Sequences of updates -/

inductive Update
  | write (path : CredentialPathInfo)
  | delete (credId : CredentialId)

def CredentialIndexes.apply (env : Env) (indexes : CredentialIndexes) :
    Update -> CredentialIndexes
  | .write path => indexes.updateIndexesOnWrite env path
  | .delete credId => indexes.updateIndexesOnDelete env credId

/-- The index after a sequence of updates. -/
def indexAfter (env : Env) (updates : List Update) : CredentialIndexes :=
  updates.foldl (CredentialIndexes.apply env) .empty

/-- Where the credentials are that were written and not deleted since. -/
def lastWrite : List Update -> CredentialId -> Option CredentialPathInfo :=
  foldl
    (fun placed update =>
      match update with
      | .write path => Function.update placed path.credId (some path)
      | .delete credId => Function.update placed credId none)
    (fun _ => none)

theorem indexAfter_snoc (env : Env) (updates : List Update) (update : Update) :
    indexAfter env (updates ++ [update]) = (indexAfter env updates).apply env update :=
  foldl_concat ..

theorem lastWrite_write (updates : List Update) (path : CredentialPathInfo) :
    lastWrite (updates ++ [.write path]) =
      Function.update (lastWrite updates) path.credId (some path) :=
  foldl_concat ..

theorem lastWrite_delete (updates : List Update) (credId : CredentialId) :
    lastWrite (updates ++ [.delete credId]) = Function.update (lastWrite updates) credId none :=
  foldl_concat ..

theorem credId_of_lastWrite (placed : lastWrite updates credId = some path) :
    path.credId = credId := by
  induction updates using reverseRecOn with
  | nil => cases placed
  | append_singleton earlier update ih =>
    cases update with
    | write written =>
      rw [lastWrite_write] at placed
      by_cases same : credId = written.credId
      · rw [same, Function.update_self] at placed
        cases placed
        exact same.symm
      · rw [Function.update_of_ne same] at placed
        exact ih placed
    | delete deleted =>
      rw [lastWrite_delete] at placed
      by_cases same : credId = deleted
      · rw [same, Function.update_self] at placed
        cases placed
      · rw [Function.update_of_ne same] at placed
        exact ih placed

/-- Whatever is written, an identifier leads to its last place. -/
theorem get_indexAfter (env : Env) (updates : List Update) (credId : CredentialId) :
    (indexAfter env updates).id.get credId = lastWrite updates credId := by
  induction updates using reverseRecOn generalizing credId with
  | nil => rfl
  | append_singleton earlier update ih =>
    rw [indexAfter_snoc]
    cases update with
    | write =>
      rw [lastWrite_write, Function.update_apply, <- ih]
      dsimp only [CredentialIndexes.apply, CredentialIndexes.updateIndexesOnWrite]
      split_ifs with new same same
      · rw [same]
        exact get_insert_self _ _ _
      · exact get_insert_of_ne _ _ same
      · rw [same]
        exact get_insert_self _ _ _
      · exact get_insert_of_ne _ _ same
    | delete =>
      rw [lastWrite_delete, Function.update_apply, <- ih]
      dsimp only [CredentialIndexes.apply, CredentialIndexes.updateIndexesOnDelete]
      split
      next missing =>
        split_ifs with same
        · rw [same, missing]
        · rfl
      · exact get_remove _ _ _

/-! ## What a lookup should find -/

/-- A filter that is answered by a list of identifiers finds the live credentials with a
property, each once. -/
structure Finds (found : List (List Text)) (baseDir : List Text)
    (placed : CredentialId -> Option CredentialPathInfo) (wanted : CredentialPathInfo -> Prop) :
    Prop where
  exact : ∀ path, path ∈ found <->
    ∃ credId info, placed credId = some info /\ wanted info /\ info.toPath baseDir = path
  once : found.Nodup

/-- No key of a map leads to an empty list or to an identifier that is not stored. -/
def Tidy {K : Type} [DecidableEq K] (groups : Groups K CredentialId)
    (placed : CredentialId -> Option CredentialPathInfo) : Prop :=
  ∀ key ids, groups.get key = some ids -> ids ≠ [] /\ ∀ id ∈ ids, (placed id).isSome

/-- The index tells where the last writes went. -/
structure Right (env : Env) (updates : List Update) : Prop where
  byId : ∀ credId baseDir, (indexAfter env updates).resolveFilter (.byId credId) baseDir =
    ((lastWrite updates credId).map (fun path => path.toPath baseDir)).toList
  byRp : ∀ rpId baseDir, Finds ((indexAfter env updates).resolveFilter (.byRp rpId) baseDir)
    baseDir (lastWrite updates) (fun path => path.rpId.value = rpId)
  byHash : ∀ hash baseDir, Finds ((indexAfter env updates).resolveFilter (.byHash hash) baseDir)
      baseDir (lastWrite updates) (fun path => path.rpIdHash env = hash)
  rpTidy : Tidy (indexAfter env updates).rp (lastWrite updates)
  hashTidy : Tidy (indexAfter env updates).rpHash (lastWrite updates)

/-- An identifier that is written while it is stored stays with its relying party. -/
def KeepsRelyingParty (updates : List Update) : Prop :=
  ∀ earlier path later, updates = earlier ++ .write path :: later ->
    ∀ known, lastWrite earlier path.credId = some known -> known.rpId = path.rpId

theorem KeepsRelyingParty.shortened
    (keeps : KeepsRelyingParty (updates ++ [update])) : KeepsRelyingParty updates := by
  rintro earlier path later rfl
  exact keeps earlier path (later ++ [update]) (by simp)

section Maps

variable {K : Type} [DecidableEq K] {groups : Groups K CredentialId}
  {placed : CredentialId -> Option CredentialPathInfo} {keyOf : CredentialPathInfo -> K}

/-- A map that files the stored credentials by a key answers the filter on that key. -/
theorem finds_of_sorts (sorts : groups.Sorts (fun credId => (placed credId).map keyOf))
    (named : ∀ {credId info}, placed credId = some info -> info.credId = credId) (key : K)
    (baseDir : List Text) :
    Finds (((groups.members key).filterMap placed).map (fun path => path.toPath baseDir)) baseDir
      placed (fun path => keyOf path = key) := by
  constructor
  · intro path
    simp only [mem_map, mem_filterMap, sorts.listed, Option.map_eq_some_iff]
    constructor
    · rintro ⟨info, ⟨credId, ⟨other, located, filed⟩, found⟩, same⟩
      rw [located] at found
      cases found
      exact ⟨credId, info, located, filed, same⟩
    · rintro ⟨credId, info, located, filed, same⟩
      exact ⟨info, ⟨credId, ⟨info, located, filed⟩, located⟩, same⟩
  · refine List.Nodup.map_on ?_ ((sorts.once key).filterMap ?_)
    · intro first firstListed second secondListed same
      rcases mem_filterMap.mp firstListed with ⟨firstId, _, firstPlaced⟩
      rcases mem_filterMap.mp secondListed with ⟨secondId, _, secondPlaced⟩
      have ids : firstId = secondId :=
        calc firstId
          _ = first.credId := (named firstPlaced).symm
          _ = second.credId := CredentialPathInfo.toPath_credId same
          _ = secondId := named secondPlaced
      rw [ids, secondPlaced] at firstPlaced
      cases firstPlaced
      rfl
    · intro first second info firstPlaced secondPlaced
      exact (named firstPlaced).symm.trans (named secondPlaced)

theorem tidy_of_sorts (sorts : groups.Sorts (fun credId => (placed credId).map keyOf)) :
    Tidy groups placed := by
  intro key ids found
  refine ⟨sorts.inhabited key ids found, ?_⟩
  intro id mem
  have listed : id ∈ groups.members key := by
    rw [Groups.members, found]
    exact mem
  rw [sorts.listed] at listed
  rcases Option.map_eq_some_iff.mp listed with ⟨_, located, _⟩
  rw [located]
  rfl

omit [DecidableEq K] in
/-- Moving one credential changes its key only. -/
theorem map_update (placed : CredentialId -> Option CredentialPathInfo)
    (keyOf : CredentialPathInfo -> K) (credId : CredentialId) (place : Option CredentialPathInfo) :
    (fun other => (Function.update placed credId place other).map keyOf) =
      Function.update (fun other => (placed other).map keyOf) credId (place.map keyOf) := by
  funext other
  rw [Function.update_apply, Function.update_apply]
  split_ifs <;> rfl

/-- A write keeps the order of a map unless it changes the key of a stored credential. -/
theorem sorts_write (sorts : groups.Sorts (fun credId => (placed credId).map keyOf))
    (path : CredentialPathInfo)
    (stays : ∀ known, placed path.credId = some known -> keyOf known = keyOf path) :
    (if (placed path.credId).isNone then groups.push (keyOf path) path.credId else groups).Sorts
      (fun credId => (Function.update placed path.credId (some path) credId).map keyOf) := by
  rw [map_update, Option.map_some]
  cases located : placed path.credId with
  | none => exact sorts.push (by rw [located]; rfl) (keyOf path)
  | some known =>
    have same : Function.update (fun credId => (placed credId).map keyOf) path.credId
        (some (keyOf path)) = fun credId => (placed credId).map keyOf := by
      apply Function.update_eq_self_iff.mpr
      rw [located, Option.map_some, stays known located]
    rw [same]
    exact sorts

theorem sorts_delete (sorts : groups.Sorts (fun credId => (placed credId).map keyOf))
    (located : placed credId = some path) :
    (groups.drop (keyOf path) credId).Sorts
      (fun other => (Function.update placed credId none other).map keyOf) := by
  rw [map_update]
  exact sorts.drop (by rw [located]; rfl)

end Maps

/-- The two maps from keys to identifiers are in order. -/
structure Sorted (env : Env) (updates : List Update) : Prop where
  rp : (indexAfter env updates).rp.Sorts
    (fun credId => (lastWrite updates credId).map (fun path => path.rpId.value))
  rpHash : (indexAfter env updates).rpHash.Sorts
    (fun credId => (lastWrite updates credId).map (fun path => path.rpIdHash env))

namespace Sorted

variable {env : Env} {updates : List Update}

theorem write (sorted : Sorted env updates)
    (stays : ∀ known, lastWrite updates path.credId = some known -> known.rpId = path.rpId) :
    Sorted env (updates ++ [.write path]) := by
  have rp := sorts_write sorted.rp path (fun known located => by rw [stays known located])
  have rpHash := sorts_write sorted.rpHash path (fun known located => by
    rw [CredentialPathInfo.rpIdHash, CredentialPathInfo.rpIdHash, stays known located])
  rw [<- lastWrite_write, <- get_indexAfter env] at rp rpHash
  constructor
  · rw [indexAfter_snoc]
    dsimp only [CredentialIndexes.apply, CredentialIndexes.updateIndexesOnWrite]
    split_ifs at rp ⊢ <;> exact rp
  · rw [indexAfter_snoc]
    dsimp only [CredentialIndexes.apply, CredentialIndexes.updateIndexesOnWrite]
    split_ifs at rpHash ⊢ <;> exact rpHash

theorem delete (sorted : Sorted env updates) (credId : CredentialId) :
    Sorted env (updates ++ [.delete credId]) := by
  cases located : lastWrite updates credId with
  | none =>
    have same : lastWrite (updates ++ [.delete credId]) = lastWrite updates := by
      rw [lastWrite_delete]
      exact Function.update_eq_self_iff.mpr located.symm
    have unchanged : indexAfter env (updates ++ [.delete credId]) = indexAfter env updates := by
      rw [<- get_indexAfter env] at located
      rw [indexAfter_snoc, CredentialIndexes.apply, CredentialIndexes.updateIndexesOnDelete, located]
    constructor <;> rw [unchanged, same]
    · exact sorted.rp
    · exact sorted.rpHash
  | some path =>
    have rp := sorts_delete sorted.rp located
    have rpHash := sorts_delete sorted.rpHash located
    rw [<- lastWrite_delete] at rp rpHash
    rw [<- get_indexAfter env] at located
    constructor <;>
      rw [indexAfter_snoc, CredentialIndexes.apply, CredentialIndexes.updateIndexesOnDelete, located]
    · exact rp
    · exact rpHash

theorem of_keeps (keeps : KeepsRelyingParty updates) : Sorted env updates := by
  induction updates using reverseRecOn with
  | nil => exact ⟨.empty, .empty⟩
  | append_singleton earlier update ih =>
    have sorted := ih keeps.shortened
    cases update with
    | write path => exact sorted.write (keeps earlier path [] rfl)
    | delete credId => exact sorted.delete credId

theorem right (sorted : Sorted env updates) : Right env updates where
  byId credId baseDir := by
    rw [CredentialIndexes.resolveFilter, CredentialIndexes.resolve, get_indexAfter]
    cases lastWrite updates credId <;> rfl
  byRp rpId baseDir := by
    rw [CredentialIndexes.resolveFilter, CredentialIndexes.resolve,
      funext (get_indexAfter env updates)]
    exact finds_of_sorts sorted.rp credId_of_lastWrite rpId baseDir
  byHash hash baseDir := by
    rw [CredentialIndexes.resolveFilter, CredentialIndexes.resolve,
      funext (get_indexAfter env updates)]
    exact finds_of_sorts sorted.rpHash credId_of_lastWrite hash baseDir
  rpTidy := tidy_of_sorts sorted.rp
  hashTidy := tidy_of_sorts sorted.rpHash

end Sorted

/-- In an index that is right, a relying party's list holds the identifiers stored under it. -/
theorem Right.mem_members_iff
    (right : Right env updates) (located : lastWrite updates credId = some path)
    (rpId : Text) :
    credId ∈ (indexAfter env updates).rp.members rpId <-> path.rpId.value = rpId := by
  have finds := (right.byRp rpId []).exact (path.toPath [])
  rw [CredentialIndexes.resolveFilter, CredentialIndexes.resolve,
    funext (get_indexAfter env updates)] at finds
  constructor
  · intro mem
    rcases finds.mp (mem_map_of_mem (mem_filterMap.mpr ⟨credId, mem, located⟩)) with
      ⟨other, info, placed, wanted, same⟩
    have ids := CredentialPathInfo.toPath_credId same
    rw [credId_of_lastWrite placed, credId_of_lastWrite located] at ids
    rw [ids, located] at placed
    cases placed
    exact wanted
  · intro wanted
    rcases mem_map.mp (finds.mpr ⟨credId, path, located, wanted, rfl⟩) with
      ⟨_, listed, same⟩
    rcases mem_filterMap.mp listed with ⟨_, mem, placed⟩
    have ids := CredentialPathInfo.toPath_credId same
    rw [credId_of_lastWrite placed, credId_of_lastWrite located] at ids
    rwa [ids] at mem

/-- The index is right at every moment of a sequence of updates if and only if no update moves
a stored identifier to another relying party. -/
theorem right_throughout_iff (env : Env) (updates : List Update) :
    (∀ earlier later, updates = earlier ++ later -> Right env earlier) <->
      KeepsRelyingParty updates := by
  constructor
  · rintro right earlier path later rfl known located
    have before := right earlier (.write path :: later) rfl
    have after := right (earlier ++ [.write path]) later (by simp)
    have moved : lastWrite (earlier ++ [.write path]) path.credId = some path := by
      rw [lastWrite_write, Function.update_self]
    have mem := (after.mem_members_iff moved path.rpId.value).mpr rfl
    -- The identifier was stored already, so the write did not touch the lists.
    have unchanged : (indexAfter env (earlier ++ [.write path])).rp =
        (indexAfter env earlier).rp := by
      have stored := located
      rw [<- get_indexAfter env] at stored
      rw [indexAfter_snoc, CredentialIndexes.apply, CredentialIndexes.updateIndexesOnWrite, stored]
      rfl
    rw [unchanged] at mem
    exact ValidatedRpId.ext_value ((before.mem_members_iff located path.rpId.value).mp mem)
  · rintro keeps earlier later rfl
    apply Sorted.right
    apply Sorted.of_keeps
    intro first path rest same
    exact keeps first path (rest ++ later) (by rw [same]; simp)

/-! ## The index that the stores use -/

def CredentialPathInfo.place (path : CredentialPathInfo) : Storage.CredentialPathInfo :=
  ⟨path.rpId, path.credId⟩

/-- The two maps of the model of the stores are the first two maps here. -/
structure CredentialIndexes.Describes (indexes : CredentialIndexes)
    (used : Storage.CredentialIndexes) : Prop where
  places : ∀ credId, used.id.get credId = (indexes.id.get credId).map CredentialPathInfo.place
  lists : ∀ rpId, used.idsIn rpId = indexes.rp.members rpId

namespace CredentialIndexes.Describes

variable {indexes : CredentialIndexes} {used : Storage.CredentialIndexes}

theorem empty : Describes .empty .empty :=
  ⟨fun _ => rfl, fun _ => rfl⟩

section

variable (describes : indexes.Describes used)

include describes

theorem write (path : CredentialPathInfo) :
    (indexes.updateIndexesOnWrite env path).Describes (used.updateOnWrite path.place) := by
  have inserted : ∀ credId, (used.id.insert path.credId path.place).get credId =
      ((indexes.id.insert path.credId path).get credId).map CredentialPathInfo.place := by
    intro credId
    rw [get_insert, get_insert, describes.places]
    split_ifs <;> rfl
  have known := describes.places path.credId
  unfold updateIndexesOnWrite Storage.CredentialIndexes.updateOnWrite
  cases located : indexes.id.get path.credId with
  | none =>
    rw [located] at known
    dsimp only [CredentialPathInfo.place] at known ⊢
    rw [known]
    refine ⟨inserted, fun rpId => ?_⟩
    dsimp only [Option.map_none, Option.isNone_none]
    rw [if_pos rfl, if_pos rfl, Storage.CredentialIndexes.idsIn_push, Groups.members_push]
    exact if_congr Iff.rfl (congrArg (· ++ [path.credId]) (describes.lists rpId))
      (describes.lists rpId)
  | some stored =>
    rw [located] at known
    dsimp only [CredentialPathInfo.place] at known ⊢
    rw [known]
    exact ⟨inserted, describes.lists⟩

theorem delete (credId : CredentialId) :
    (indexes.updateIndexesOnDelete env credId).Describes (used.updateOnDelete credId) := by
  have known := describes.places credId
  cases located : indexes.id.get credId with
  | none =>
    rw [located] at known
    unfold updateIndexesOnDelete Storage.CredentialIndexes.updateOnDelete
    rw [located, known]
    exact describes
  | some path =>
    rw [located] at known
    unfold updateIndexesOnDelete
    rw [located]
    constructor
    · intro other
      rw [Storage.CredentialIndexes.get_updateOnDelete, describes.places]
      rw [get_remove]
      split_ifs <;> rfl
    · intro rpId
      rw [Storage.CredentialIndexes.idsIn_updateOnDelete known, describes.lists]
      exact (Groups.members_drop _ _ _ _).symm

end

end CredentialIndexes.Describes

/-- The stores of the daemon use the index that a sequence of updates leaves. -/
theorem indexAfter_describes (env : Env) (updates : List Update) :
    (indexAfter env updates).Describes (updates.foldl
      (fun used update =>
        match update with
        | .write path => used.updateOnWrite path.place
        | .delete credId => used.updateOnDelete credId)
      .empty) := by
  induction updates using reverseRecOn with
  | nil => exact .empty
  | append_singleton earlier update ih =>
    rw [indexAfter_snoc, foldl_concat]
    cases update with
    | write path => exact ih.write path
    | delete credId => exact ih.delete credId

/-! ## An identifier that moves -/

namespace Sample

def filedUnder (rpId : ValidatedRpId) : CredentialPathInfo where
  rpId
  credId := [1]
  extension := "bin"

theorem parties_accepted :
    ∀ party ∈ ["example.com", "example.org"],
      Text.trim party = party /\ rpIdObjection party = none := by
  decide

def party (value : Text) (accepted : value.trim = value /\ rpIdObjection value = none) :
    ValidatedRpId :=
  ⟨value, accepted.1, accepted.2⟩

def firstParty : ValidatedRpId :=
  party "example.com" (parties_accepted _ (.head _))

def secondParty : ValidatedRpId :=
  party "example.org" (parties_accepted _ (.tail _ (.head _)))

/-- Credential `01` is written for one relying party and then for another. -/
def moving : List Update :=
  [.write (filedUnder firstParty), .write (filedUnder secondParty)]

/-- The second relying party finds nothing, the first one the other's file, and deleting the
credential leaves its identifier in a list. -/
theorem moved_identifier_misfiled :
    lastWrite moving [1] = some (filedUnder secondParty) /\
      (indexAfter sampleEnv moving).resolve (.byRp secondParty.value) = [] /\
      (indexAfter sampleEnv moving).resolve (.byRp firstParty.value) = [filedUnder secondParty] /\
      (indexAfter sampleEnv (moving ++ [.delete [1]])).rp.get firstParty.value = some [[1]] /\
      lastWrite (moving ++ [.delete [1]]) [1] = none /\
      ¬Right sampleEnv moving := by
  have nothing : (indexAfter sampleEnv moving).resolve (.byRp secondParty.value) = [] := by
    decide +kernel
  have placed : lastWrite moving [1] = some (filedUnder secondParty) := by decide +kernel
  refine ⟨placed, nothing, by decide +kernel, by decide +kernel, by decide +kernel, ?_⟩
  intro right
  have found := ((right.byRp secondParty.value []).exact _).mpr
    ⟨[1], filedUnder secondParty, placed, rfl, rfl⟩
  cases found

end Sample

end ControlVault.Storage.PathIndex
