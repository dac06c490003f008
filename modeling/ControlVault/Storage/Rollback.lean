import ControlVault.Storage.Local

namespace ControlVault.Storage

open Foundation List

/-!
# Putting a credential back

A credential that is deleted and then written again is not quite where it was: it
comes back without the flag that references cannot carry, and it stands at the end
of the list of its directory.

A loop over a directory ends at the first file that it cannot read, so the place
in the list matters as soon as some file is unreadable.  Otherwise only the order
of the results changes.
-/

/-- What a loop over a list of identifiers sees. -/
def visible (read : CredentialId -> Option Credential) : List CredentialId -> List Credential
  | [] => []
  | id :: rest =>
    match read id with
    | none => []
    | some cred => cred :: visible read rest

variable {front : List CredentialId} {cred : Credential}

section Visible

variable {read : CredentialId -> Option Credential}

theorem visible_append_of_readable (readable : ∀ id ∈ front, (read id).isSome)
    (rest : List CredentialId) :
    visible read (front ++ rest) = visible read front ++ visible read rest := by
  induction front with
  | nil => rfl
  | cons head tail ih =>
    rw [forall_mem_cons] at readable
    rcases Option.isSome_iff_exists.mp readable.1 with ⟨cred, found⟩
    rw [cons_append, visible, visible, found]
    exact congrArg (cred :: ·) (ih readable.2)

/-- The loop does not get past a file that it cannot read. -/
theorem visible_append_of_unreadable (unreadable : ¬∀ id ∈ front, (read id).isSome)
    (rest : List CredentialId) :
    visible read (front ++ rest) = visible read front := by
  induction front with
  | nil => exact absurd (fun id never => absurd never not_mem_nil) unreadable
  | cons head tail ih =>
    rw [cons_append, visible, visible]
    cases found : read head with
    | none => rfl
    | some cred =>
      refine congrArg (cred :: ·) (ih ?_)
      intro readable
      refine unreadable (forall_mem_cons.mpr ⟨?_, readable⟩)
      rw [found]
      rfl

/-- Moving an identifier to the end does not change what is seen, unless it moves behind the first
unreadable file. -/
theorem visible_moved_perm_iff {id : CredentialId} (found : read id = some cred)
    (front back : List CredentialId) :
    (visible read (front ++ (back ++ [id]))).Perm (visible read (front ++ id :: back)) <->
      ((∀ other ∈ front, (read other).isSome) -> ∀ other ∈ back, (read other).isSome) := by
  by_cases frontReadable : ∀ other ∈ front, (read other).isSome
  · have single : visible read [id] = [cred] := by
      rw [visible, found, visible]
    have first : visible read (id :: back) = cred :: visible read back := by
      rw [visible, found]
    rw [visible_append_of_readable frontReadable, visible_append_of_readable frontReadable,
      perm_append_left_iff, first]
    by_cases backReadable : ∀ other ∈ back, (read other).isSome
    · rw [visible_append_of_readable backReadable, single]
      exact iff_of_true (perm_append_singleton _ _) (fun _ => backReadable)
    · rw [visible_append_of_unreadable backReadable]
      refine iff_of_false ?_ (fun implies => backReadable (implies frontReadable))
      intro permuted
      have lengths := permuted.length_eq
      rw [length_cons] at lengths
      omega
  · rw [visible_append_of_unreadable frontReadable, visible_append_of_unreadable frontReadable]
    exact iff_of_true (List.Perm.refl _) (fun readable => absurd readable frontReadable)

end Visible

namespace LocalStorageAdapter

variable {store : LocalStorageAdapter}

/-- The credential of an identifier, if it can be read. -/
def shown (store : LocalStorageAdapter) (id : CredentialId) : Option Credential :=
  (store.read id).toOption

theorem shown_eq_some_iff {id : CredentialId} :
    store.shown id = some cred <-> store.read id = .ok cred := by
  unfold shown
  cases store.read id <;> simp [Except.toOption]

theorem enumerate_byRp_eq (coherent : store.indexes.Coherent) (rpId : Text) :
    store.enumerate (.byRp rpId) = visible store.shown (store.indexes.idsIn rpId) := by
  have indexed : ∀ id ∈ store.indexes.idsIn rpId, ∃ path, store.indexes.id.get id = some path := by
    intro id mem
    rcases (coherent.listed rpId id).mp mem with ⟨path, located, _⟩
    exact ⟨path, located⟩
  change store.loadWhile ((store.indexes.idsIn rpId).filterMap store.indexes.id.get) = _
  generalize store.indexes.idsIn rpId = ids at indexed
  induction ids with
  | nil => rfl
  | cons head tail ih =>
    rw [forall_mem_cons] at indexed
    rcases indexed with ⟨⟨path, located⟩, rest⟩
    have same : store.read head = store.loadCredentialFromPath path := by
      rw [read, located]
    rw [filterMap_cons_some located, loadWhile, visible, shown, same]
    cases store.loadCredentialFromPath path with
    | error => rfl
    | ok cred => exact congrArg (cred :: ·) (ih rest)

/-- The stores hold the same credentials and find the same ones for every relying party. -/
structure SameContent (before after : LocalStorageAdapter) : Prop where
  read : ∀ id, after.read id = before.read id
  lookup : ∀ rpId, (after.enumerate (.byRp rpId)).Perm (before.enumerate (.byRp rpId))

theorem SameContent.refl (store : LocalStorageAdapter) : SameContent store store :=
  ⟨fun _ => rfl, fun _ => List.Perm.refl _⟩

/-- Nothing unreadable stands behind the identifier in the list of its directory, or something does
before it. -/
def StaysVisible (store : LocalStorageAdapter) (dir : Text) (id : CredentialId) : Prop :=
  ∀ front back, store.indexes.idsIn dir = front ++ id :: back ->
    (∀ other ∈ front, (store.shown other).isSome) -> ∀ other ∈ back, (store.shown other).isSome

section PutBack

variable {id : CredentialId} {path : CredentialPathInfo} {prev : Credential}
  (truthful : store.Truthful) (located : store.indexes.id.get id = some path)
  (content : store.files.get path = some (some prev))

include truthful located content

theorem read_putBack (other : CredentialId) :
    ((store.removed path id).stored path.rpId prev).read other =
      if other = id then .ok prev.asWritten else store.read other := by
  have named := (truthful.named located content).1
  have coherent : (store.removed path id).indexes.Coherent := truthful.coherent.updateOnDelete id
  rw [read_stored coherent.named, named]
  split_ifs with same
  · rfl
  · exact (read_removed truthful.coherent located other).trans (if_neg same)

theorem idsIn_putBack (dir : Text) :
    ((store.removed path id).stored path.rpId prev).indexes.idsIn dir =
      if dir = path.rpId.value then
        (store.indexes.idsIn dir).filter (fun other => other ≠ id) ++ [id]
      else store.indexes.idsIn dir := by
  have named := (truthful.named located content).1
  have gone : (store.indexes.updateOnDelete id).id.get prev.id = none := by
    rw [CredentialIndexes.get_updateOnDelete, named, if_pos rfl]
  have pushed : ((store.removed path id).stored path.rpId prev).indexes.idsIn dir =
      if dir = path.rpId.value then
        (store.indexes.updateOnDelete id).idsIn dir ++ [prev.id]
      else (store.indexes.updateOnDelete id).idsIn dir := by
    rw [stored, removed, CredentialIndexes.updateOnWrite]
    rw [gone]
    exact CredentialIndexes.idsIn_push _ _ _
  rw [pushed, CredentialIndexes.idsIn_updateOnDelete located, named]
  split_ifs <;> rfl

/-- The list of the directory with the identifier moved to its end. -/
theorem idsIn_putBack_split (split : store.indexes.idsIn path.rpId.value = front ++ id :: back) :
    ((store.removed path id).stored path.rpId prev).indexes.idsIn path.rpId.value =
      front ++ (back ++ [id]) := by
  have once := truthful.coherent.once path.rpId.value
  rw [split, nodup_middle, nodup_cons, mem_append, not_or] at once
  have others : ∀ {part : List CredentialId}, id ∉ part ->
      part.filter (fun other => decide (other ≠ id)) = part := by
    intro part absent
    refine filter_eq_self.mpr ?_
    intro other mem
    refine decide_eq_true ?_
    rintro rfl
    exact absent mem
  rw [idsIn_putBack truthful located content, if_pos rfl, split, filter_append,
    filter_cons_of_neg (by simp), others once.1.1, others once.1.2, append_assoc]

/-- A credential that is put back is as it was exactly if it had no flag that references cannot
carry and stays visible at the end of its list. -/
theorem putBack_sameContent_iff :
    SameContent store ((store.removed path id).stored path.rpId prev) <->
      prev.extensions.hmacSecret = none /\ store.StaysVisible path.rpId.value id := by
  have found : store.read id = .ok prev := read_eq_ok_iff.mpr ⟨path, located, content⟩
  have kept : ((store.removed path id).stored path.rpId prev).indexes.Coherent := by
    refine coherent_stored (truthful.coherent.updateOnDelete id) ?_
    intro known never
    change (store.indexes.updateOnDelete id).id.get prev.id = some known at never
    rw [CredentialIndexes.get_updateOnDelete, (truthful.named located content).1,
      if_pos rfl] at never
    cases never
  have sameShown : (∀ other, ((store.removed path id).stored path.rpId prev).read other =
      store.read other) ->
        ((store.removed path id).stored path.rpId prev).shown = store.shown :=
    fun same => funext (fun other => congrArg Except.toOption (same other))
  constructor
  · intro same
    constructor
    · have back := same.read id
      rw [read_putBack truthful located content, if_pos rfl, found, Except.ok.injEq] at back
      exact (congrArg (fun cred => cred.extensions.hmacSecret) back).symm
    · intro front back split
      have permuted := same.lookup path.rpId.value
      rw [enumerate_byRp_eq kept, enumerate_byRp_eq truthful.coherent, sameShown same.read,
        idsIn_putBack_split truthful located content split, split] at permuted
      exact (visible_moved_perm_iff (shown_eq_some_iff.mpr found) front back).mp permuted
  · rintro ⟨bare, stays⟩
    have unchanged : prev.asWritten = prev := by
      unfold Credential.asWritten
      rw [<- bare]
    have reads : ∀ other, ((store.removed path id).stored path.rpId prev).read other =
        store.read other := by
      intro other
      rw [read_putBack truthful located content, unchanged]
      split_ifs with same
      · rw [same, found]
      · rfl
    refine ⟨reads, ?_⟩
    intro rpId
    rw [enumerate_byRp_eq kept, enumerate_byRp_eq truthful.coherent, sameShown reads]
    by_cases here : rpId = path.rpId.value
    · subst here
      have listed : id ∈ store.indexes.idsIn path.rpId.value :=
        (truthful.coherent.listed _ id).mpr ⟨path, located, rfl⟩
      rcases append_of_mem listed with ⟨front, back, split⟩
      rw [idsIn_putBack_split truthful located content split, split]
      exact (visible_moved_perm_iff (shown_eq_some_iff.mpr found) front back).mpr
        (stays front back split)
    · rw [idsIn_putBack truthful located content, if_neg here]

end PutBack

end LocalStorageAdapter

end ControlVault.Storage
