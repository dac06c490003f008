import ControlVault.Foundation.Table
import Mathlib.Logic.Function.Basic

namespace ControlVault.Foundation

/-!
# Groups

A table of lists files members under keys.  A member is pushed to the list of a
key and dropped from it again; a list that becomes empty loses its key.

`Sorts` says that the table files the members by a partial function: a member
stands, once, in the list of the key that the function gives it and in no other.
Both operations follow an update of the function at one member.
-/

universe u v

abbrev Groups (K : Type u) (A : Type v) := Table K (List A)

namespace Groups

variable {K : Type u} {A : Type v} [DecidableEq K] [DecidableEq A]

def members (groups : Groups K A) (key : K) : List A :=
  (groups.get key).getD []

/-- `entry(..).or_default().push(..)`. -/
def push (groups : Groups K A) (key : K) (mem : A) : Groups K A :=
  groups.insert key (groups.members key ++ [mem])

/-- Take a member out of one list, and the key away with the last member. -/
def drop (groups : Groups K A) (key : K) (mem : A) : Groups K A :=
  match groups.get key with
  | none => groups
  | some listed =>
    let left := listed.filter (fun other => other ≠ mem)
    if left.isEmpty then groups.remove key else groups.insert key left

omit [DecidableEq A] in
theorem members_push (groups : Groups K A) (key other : K) (mem : A) :
    (groups.push key mem).members other =
      if other = key then groups.members other ++ [mem] else groups.members other := by
  rw [members, push, Table.get_insert]
  split_ifs with same
  · rw [same]
    rfl
  · rfl

theorem members_drop (groups : Groups K A) (key other : K) (mem : A) :
    (groups.drop key mem).members other =
      if other = key then (groups.members other).filter (fun listed => listed ≠ mem)
      else groups.members other := by
  unfold drop members
  split
  next missing =>
    split_ifs with same
    · rw [same, missing]
      rfl
    · rfl
  next listed found =>
    dsimp only
    split_ifs with empty same same
    · rw [same, Table.get_remove, if_pos rfl, found]
      exact (List.isEmpty_iff.mp empty).symm
    · rw [Table.get_remove, if_neg same]
    · rw [same, Table.get_insert_self, found]
      rfl
    · rw [Table.get_insert_of_ne _ _ same]

/-- The members are filed by a partial function, each once, and no list is empty. -/
structure Sorts (groups : Groups K A) (keyOf : A -> Option K) : Prop where
  listed : ∀ key mem, mem ∈ groups.members key <-> keyOf mem = some key
  once : ∀ key, (groups.members key).Nodup
  inhabited : ∀ key list, groups.get key = some list -> list ≠ []

namespace Sorts

omit [DecidableEq A] in
theorem empty : Sorts (Table.empty : Groups K A) (fun _ => none) where
  listed key mem := by simp [members]
  once key := by simp [members]
  inhabited key list found := by simp at found

variable {groups : Groups K A}

/-- A member without a key is filed under its first one. -/
theorem push (sorts : groups.Sorts keyOf) (unfiled : keyOf mem = none) (key : K) :
    (groups.push key mem).Sorts (Function.update keyOf mem (some key)) := by
  have absent : ∀ other, mem ∉ groups.members other := by
    intro other present
    rw [sorts.listed, unfiled] at present
    cases present
  constructor
  · intro other someone
    rw [members_push]
    by_cases same : someone = mem
    · subst same
      split_ifs with here
      · simp [here]
      · simp [absent, Ne.symm here]
    · rw [Function.update_of_ne same, <- sorts.listed]
      split_ifs
      · simp [same]
      · exact Iff.rfl
  · intro other
    rw [members_push]
    split_ifs
    · exact List.nodup_append.mpr ⟨sorts.once other, List.nodup_singleton _, by
        intro first present second single same
        rw [List.mem_singleton] at single
        exact absent other (single ▸ same ▸ present)⟩
    · exact sorts.once other
  · intro other list found
    rw [Groups.push, Table.get_insert] at found
    split_ifs at found
    · cases found
      simp
    · exact sorts.inhabited other list found

/-- A member that is dropped from the list of its key has no key left. -/
theorem drop (sorts : groups.Sorts keyOf) (filed : keyOf mem = some key) :
    (groups.drop key mem).Sorts (Function.update keyOf mem none) := by
  constructor
  · intro other someone
    rw [members_drop]
    by_cases same : someone = mem
    · subst same
      split_ifs with here
      · simp
      · simp [sorts.listed, filed, Ne.symm here]
    · rw [Function.update_of_ne same, <- sorts.listed]
      split_ifs
      · simp [same]
      · exact Iff.rfl
  · intro other
    rw [members_drop]
    split_ifs
    · exact (sorts.once other).filter _
    · exact sorts.once other
  · intro other list found
    unfold Groups.drop at found
    split at found
    · exact sorts.inhabited other list found
    · dsimp only at found
      split_ifs at found with empty
      · rw [Table.get_remove] at found
        split_ifs at found
        exact sorts.inhabited other list found
      · rw [Table.get_insert] at found
        split_ifs at found
        · cases found
          intro never
          exact empty (List.isEmpty_iff.mpr never)
        · exact sorts.inhabited other list found

end Sorts

end Groups

end ControlVault.Foundation
