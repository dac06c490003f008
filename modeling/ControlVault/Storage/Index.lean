import ControlVault.Foundation.Groups
import ControlVault.Foundation.Text

namespace ControlVault.Storage

open Foundation Table List

/-!
# The index of a credential store

A store keeps one file for each credential, named by the credential's raw
identifier, in a directory named by its relying party.  An index in memory maps
identifiers to files and directories to the identifiers in them.

The index trusts identifiers to be unique.  An identifier that is written again
under another relying party moves in the first map only.
-/

abbrev CredentialId := List UInt8

/-! ## Directory names -/

inductive RpIdValidationError
  | empty
  | tooLong (length : Nat)
  | containsNull
  | containsForwardSlash
  | containsBackslash
  | parentDirectoryComponent
  | currentDirectoryComponent
  | multiplePathComponents
  | absolutePath
  | hiddenFile

/-- The components the standard library finds in a path. -/
inductive Component
  | rootDir
  | curDir
  | parentDir
  | normal (name : Text)
  deriving DecidableEq

def components (path : Text) : List Component :=
  let parts := path.split '/'
  (if path.head? = some '/' then [.rootDir]
    else if parts.head? = some ".".toList then [.curDir] else []) ++
    parts.filterMap (fun part =>
      if part = [] ∨ part = "." then none
      else if part = ".." then some .parentDir
      else some (.normal part))

def maxRpIdLength : Nat := 255

/-- The first objection to a trimmed name, if there is one. -/
def rpIdObjection (trimmed : Text) : Option RpIdValidationError :=
  if trimmed.isEmpty then some .empty
  else if maxRpIdLength < trimmed.utf8Length then some (.tooLong trimmed.utf8Length)
  else if trimmed.elem (Char.ofNat 0) then some .containsNull
  else
    match components trimmed with
    | [.normal _] =>
      if trimmed.elem '/' then some .containsForwardSlash
      else if trimmed.elem '\\' then some .containsBackslash
      else if trimmed.head? = some '.' then some .hiddenFile
      else none
    | [.curDir] => some .currentDirectoryComponent
    | [.parentDir] => some .parentDirectoryComponent
    | several =>
      if .rootDir ∈ several then some .absolutePath
      else if several.head? = some .parentDir then some .parentDirectoryComponent
      else some .multiplePathComponents

/-- A name that may stand for a directory of the store. -/
structure ValidatedRpId where
  value : Text
  trimmed : value.trim = value
  accepted : rpIdObjection value = none
  deriving DecidableEq

theorem ValidatedRpId.ext_value {first second : ValidatedRpId} (same : first.value = second.value) :
    first = second := by
  cases first
  cases same
  rfl

def ValidatedRpId.tryFrom (value : Text) : Except RpIdValidationError ValidatedRpId :=
  match objection : rpIdObjection value.trim with
  | some error => .error error
  | none => .ok ⟨value.trim, Text.trim_trim value, objection⟩

variable {rpId : ValidatedRpId} {value : Text}

/-- A name is accepted exactly in its trimmed form. -/
theorem ValidatedRpId.tryFrom_ok (accepted : tryFrom value = .ok rpId) :
    rpId.value = value.trim := by
  unfold tryFrom at accepted
  split at accepted
  · cases accepted
  · cases accepted
    rfl

theorem ValidatedRpId.tryFrom_value (same : value.trim = rpId.value) :
    tryFrom value = .ok rpId := by
  unfold tryFrom
  split
  next error objection =>
    rw [same, rpId.accepted] at objection
    cases objection
  · exact congrArg Except.ok (ext_value same)

/-! ## The maps -/

/-- Where a credential is filed. -/
structure CredentialPathInfo where
  rpId : ValidatedRpId
  credId : CredentialId
  deriving DecidableEq

inductive CredentialFilter
  | none
  | byRp (rpId : Text)
  deriving DecidableEq

structure CredentialIndexes where
  id : Table CredentialId CredentialPathInfo
  rp : Groups Text CredentialId

namespace CredentialIndexes

def empty : CredentialIndexes where
  id := .empty
  rp := .empty

section

variable (indexes : CredentialIndexes)

/-- The identifiers listed for a directory. -/
def idsIn (dir : Text) : List CredentialId :=
  indexes.rp.members dir

/-- The files to visit, in the order of a loop over the store. -/
def resolveFilter : CredentialFilter -> List CredentialPathInfo
  | .none => indexes.id.values
  | .byRp rpId => (indexes.idsIn rpId).filterMap indexes.id.get

def push (path : CredentialPathInfo) : CredentialIndexes :=
  { indexes with rp := indexes.rp.push path.rpId.value path.credId }

def updateOnWrite (path : CredentialPathInfo) : CredentialIndexes :=
  let isNew := (indexes.id.get path.credId).isNone
  let inserted := { indexes with id := indexes.id.insert path.credId path }
  if isNew then inserted.push path else inserted

def updateOnDelete (credId : CredentialId) : CredentialIndexes :=
  match indexes.id.get credId with
  | none => indexes
  | some path =>
    { id := indexes.id.remove credId
      rp := indexes.rp.drop path.rpId.value credId }

end

/-- Index the files of a directory tree, in the order in which they are listed. -/
def load (listed : List CredentialPathInfo) : CredentialIndexes :=
  listed.foldl
    (fun indexes path =>
      { indexes with id := indexes.id.insert path.credId path }.push path)
    empty

/-! ## When the two maps tell the same story -/

/-- Every identifier leads to a file of its name, and a directory lists exactly the
identifiers that lead into it. -/
structure Coherent (indexes : CredentialIndexes) : Prop where
  named : ∀ {credId path}, indexes.id.get credId = some path -> path.credId = credId
  listed : ∀ dir credId, credId ∈ indexes.idsIn dir <->
    ∃ path, indexes.id.get credId = some path /\ path.rpId.value = dir
  once : ∀ dir, (indexes.idsIn dir).Nodup

theorem empty_coherent : Coherent empty where
  named found := by
    cases found
  listed dir credId := by simp [empty, idsIn, Groups.members]
  once dir := by simp [empty, idsIn, Groups.members]

theorem idsIn_push (indexes : CredentialIndexes) (path : CredentialPathInfo) (dir : Text) :
    (indexes.push path).idsIn dir = if dir = path.rpId.value then indexes.idsIn dir ++ [path.credId]
      else indexes.idsIn dir :=
  Groups.members_push _ _ _ _

variable {path : CredentialPathInfo} {indexes : CredentialIndexes}
  {listed : List CredentialPathInfo}

theorem Coherent.push_new (coherent : indexes.Coherent) (new : indexes.id.get path.credId = none) :
    ({ indexes with id := indexes.id.insert path.credId path }.push path).Coherent := by
  have unlisted : ∀ dir, path.credId ∉ indexes.idsIn dir := by
    intro dir mem
    rcases (coherent.listed dir path.credId).mp mem with ⟨other, found, _⟩
    rw [new] at found
    cases found
  have idsIn_eq : ∀ dir,
      ({ indexes with id := indexes.id.insert path.credId path }.push path).idsIn dir =
        if dir = path.rpId.value then indexes.idsIn dir ++ [path.credId]
        else indexes.idsIn dir :=
    idsIn_push { indexes with id := indexes.id.insert path.credId path } path
  have get_eq : ∀ credId,
      ({ indexes with id := indexes.id.insert path.credId path }.push path).id.get credId =
        if credId = path.credId then some path else indexes.id.get credId :=
    fun credId => get_insert _ _ _ _
  constructor
  · intro credId other found
    rw [get_eq] at found
    split_ifs at found with same
    · cases found
      exact same.symm
    · exact coherent.named found
  · intro dir credId
    rw [idsIn_eq, get_eq]
    by_cases same : credId = path.credId
    · subst same
      rw [if_pos rfl]
      by_cases here : dir = path.rpId.value
      · simp [here]
      · rw [if_neg here]
        constructor
        · intro mem
          exact absurd mem (unlisted dir)
        · rintro ⟨other, found, place⟩
          cases found
          exact absurd place.symm here
    · rw [if_neg same, <- coherent.listed dir credId]
      split_ifs
      · simp [same]
      · exact Iff.rfl
  · intro dir
    rw [idsIn_eq]
    split_ifs
    · refine nodup_append.mpr ⟨coherent.once dir, nodup_singleton _, ?_⟩
      intro first mem second single same
      rw [mem_singleton] at single
      exact unlisted dir (single ▸ same ▸ mem)
    · exact coherent.once dir

/-- A write keeps the index coherent unless it moves an identifier to another directory. -/
theorem Coherent.updateOnWrite (coherent : indexes.Coherent)
    (stays : ∀ known, indexes.id.get path.credId = some known -> known = path) :
    (indexes.updateOnWrite path).Coherent := by
  unfold CredentialIndexes.updateOnWrite
  cases found : indexes.id.get path.credId with
  | none => exact coherent.push_new found
  | some known =>
    have get_eq : ∀ credId, (indexes.id.insert path.credId path).get credId =
        indexes.id.get credId := by
      intro credId
      rw [get_insert]
      split_ifs with same
      · rw [same, found, stays known found]
      · rfl
    constructor
    · intro credId other located
      exact coherent.named ((get_eq credId).symm.trans located)
    · intro dir credId
      exact (coherent.listed dir credId).trans
        (exists_congr (fun other => by rw [<- get_eq credId]; rfl))
    · exact coherent.once

theorem get_updateOnDelete (indexes : CredentialIndexes) (credId other : CredentialId) :
    (indexes.updateOnDelete credId).id.get other =
      if other = credId then none else indexes.id.get other := by
  unfold updateOnDelete
  split
  next missing =>
    split_ifs with same
    · rw [same, missing]
    · rfl
  · exact get_remove _ _ _

theorem idsIn_updateOnDelete (found : indexes.id.get credId = some path) (dir : Text) :
    (indexes.updateOnDelete credId).idsIn dir = if dir = path.rpId.value then
        (indexes.idsIn dir).filter (fun other => other ≠ credId)
      else indexes.idsIn dir := by
  unfold updateOnDelete
  rw [found]
  exact Groups.members_drop _ _ _ _

theorem Coherent.updateOnDelete (coherent : indexes.Coherent) (credId : CredentialId) :
    (indexes.updateOnDelete credId).Coherent := by
  cases found : indexes.id.get credId with
  | none =>
    have unchanged : indexes.updateOnDelete credId = indexes := by
      unfold CredentialIndexes.updateOnDelete
      rw [found]
    rw [unchanged]
    exact coherent
  | some path =>
    constructor
    · intro other located place
      rw [get_updateOnDelete] at place
      split_ifs at place
      exact coherent.named place
    · intro dir other
      rw [idsIn_updateOnDelete found, get_updateOnDelete]
      by_cases same : other = credId
      · subst same
        rw [if_pos rfl]
        constructor
        · intro mem
          split_ifs at mem with here
          · exact absurd rfl (of_decide_eq_true (mem_filter.mp mem).2)
          · rcases (coherent.listed dir other).mp mem with ⟨_, located, place⟩
            rw [found] at located
            cases located
            exact absurd place.symm here
        · rintro ⟨located, never, _⟩
          cases never
      · rw [if_neg same, <- coherent.listed dir other]
        split_ifs
        · simp [same]
        · exact Iff.rfl
    · intro dir
      rw [idsIn_updateOnDelete found]
      split_ifs
      · exact (coherent.once dir).filter _
      · exact coherent.once dir

/-- The index of a tree leads only to files of the tree. -/
theorem mem_of_get_load (found : (load listed).id.get credId = some path) : path ∈ listed := by
  have extended : ∀ (rest : List CredentialPathInfo) (indexes : CredentialIndexes),
      (rest.foldl (fun indexes path =>
        { indexes with id := indexes.id.insert path.credId path }.push path) indexes).id.get credId =
          some path -> indexes.id.get credId = some path ∨ path ∈ rest := by
    intro rest
    induction rest with
    | nil => exact fun _ located => .inl located
    | cons head tail ih =>
      intro indexes located
      rcases ih _ located with earlier | later
      · change (indexes.id.insert head.credId head).get credId = some path at earlier
        rw [get_insert] at earlier
        split_ifs at earlier
        · cases earlier
          exact .inr mem_cons_self
        · exact .inl earlier
      · exact .inr (mem_cons_of_mem _ later)
  rcases extended listed empty found with never | mem
  · cases never
  · exact mem

/-- Files with distinct identifiers are indexed coherently. -/
theorem load_coherent (distinct : (listed.map CredentialPathInfo.credId).Nodup) :
    (load listed).Coherent := by
  have extended : ∀ (rest : List CredentialPathInfo) (indexes : CredentialIndexes),
      indexes.Coherent -> (∀ path ∈ rest, indexes.id.get path.credId = none) ->
      (rest.map CredentialPathInfo.credId).Nodup ->
        (rest.foldl (fun indexes path =>
          { indexes with id := indexes.id.insert path.credId path }.push path) indexes).Coherent := by
    intro rest
    induction rest with
    | nil => exact fun _ coherent _ _ => coherent
    | cons head tail ih =>
      intro indexes coherent new different
      rw [map_cons, nodup_cons] at different
      refine ih _ (coherent.push_new (new head mem_cons_self)) ?_ different.2
      intro path mem
      have other : path.credId ≠ head.credId := by
        intro same
        exact different.1 (same ▸ mem_map_of_mem mem)
      change (indexes.id.insert head.credId head).get path.credId = none
      rw [get_insert_of_ne _ _ other]
      exact new path (mem_cons_of_mem _ mem)
  exact extended listed empty empty_coherent (fun _ _ => get_empty _) distinct

end CredentialIndexes

end ControlVault.Storage
