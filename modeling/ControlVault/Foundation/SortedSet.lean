import Mathlib.Data.List.Sort

namespace ControlVault.Foundation

open List

/-!
# Ordered sets as strictly increasing lists

Ordered sets and vectors that were sorted and deduplicated hold the same data:
a strictly increasing list.  The order is part of the value because digests and
listings traverse it, and a binary search is correct exactly because of it, so
the structure carries it as a field.
-/

universe u v

variable {α : Type u} [LinearOrder α]

/-- Insert an element at its place, leaving the list alone if it is present. -/
def insertIncreasing (element : α) : List α -> List α
  | [] => [element]
  | head :: tail =>
    if element < head then element :: head :: tail
    else if element = head then head :: tail
    else head :: insertIncreasing element tail

theorem mem_insertIncreasing (element other : α) (list : List α) :
    other ∈ insertIncreasing element list <-> other = element ∨ other ∈ list := by
  induction list with
  | nil => simp [insertIncreasing]
  | cons head tail ih =>
    rw [insertIncreasing]
    split_ifs with smaller same
    · exact mem_cons
    · rw [same, mem_cons]
      exact ⟨.inr, fun mem => mem.elim .inl id⟩
    · rw [mem_cons, ih, mem_cons]
      exact or_left_comm

theorem insertIncreasing_pairwise (element : α) (list : List α)
    (increasing : list.Pairwise (· < ·)) : (insertIncreasing element list).Pairwise (· < ·) := by
  induction list with
  | nil => exact pairwise_singleton _ _
  | cons head tail ih =>
    rcases pairwise_cons.mp increasing with ⟨first, rest⟩
    rw [insertIncreasing]
    split_ifs with smaller same
    · refine pairwise_cons.mpr ⟨?_, increasing⟩
      intro other mem
      rcases mem_cons.mp mem with rfl | later
      · exact smaller
      · exact smaller.trans (first other later)
    · exact increasing
    · refine pairwise_cons.mpr ⟨?_, ih rest⟩
      intro other mem
      rcases (mem_insertIncreasing element other tail).mp mem with rfl | later
      · exact lt_of_le_of_ne (not_lt.mp smaller) (Ne.symm same)
      · exact first other later

/-- A finite set listed in increasing order. -/
structure SortedSet (α : Type u) [LinearOrder α] where
  elements : List α
  increasing : elements.Pairwise (· < ·)
  deriving DecidableEq

namespace SortedSet

def empty : SortedSet α := ⟨[], List.Pairwise.nil⟩

def insert (set : SortedSet α) (element : α) : SortedSet α :=
  ⟨insertIncreasing element set.elements, insertIncreasing_pairwise _ _ set.increasing⟩

/-- Sort a list and drop repeated elements. -/
def ofList (list : List α) : SortedSet α :=
  list.foldr (fun element set => set.insert element) empty

def contains (set : SortedSet α) (element : α) : Bool :=
  decide (element ∈ set.elements)

@[simp] theorem mem_ofList (list : List α) (element : α) :
    element ∈ (ofList list).elements <-> element ∈ list := by
  induction list with
  | nil => exact Iff.rfl
  | cons head tail ih =>
    rw [mem_cons, <- ih]
    exact mem_insertIncreasing head element _

theorem length_insertIncreasing_le (element : α) (list : List α) :
    (insertIncreasing element list).length <= list.length + 1 := by
  induction list with
  | nil => exact le_refl _
  | cons head tail ih =>
    rw [insertIncreasing]
    split_ifs
    · exact le_refl _
    · exact Nat.le_succ _
    · exact Nat.succ_le_succ ih

theorem length_ofList_le (list : List α) : (ofList list).elements.length <= list.length := by
  induction list with
  | nil => exact le_refl _
  | cons head tail ih =>
    calc (ofList (head :: tail)).elements.length
        <= (ofList tail).elements.length + 1 := length_insertIncreasing_le head _
      _ <= tail.length + 1 := Nat.succ_le_succ ih

end SortedSet

/-- Two searches for the same thing find elements with the same key. -/
theorem find?_map_of_perm {α : Type u} {β : Type v} {first second : List α}
    (permuted : first.Perm second) (key : α -> β) (test : α -> Bool)
    (determined : ∀ element ∈ first, ∀ other ∈ first, test element = true ->
      test other = true -> key element = key other) :
    (first.find? test).map key = (second.find? test).map key := by
  cases found : first.find? test with
  | none =>
    have missing : second.find? test = none := by
      rw [find?_eq_none] at found ⊢
      exact fun element mem => found element (permuted.mem_iff.mpr mem)
    rw [missing]
  | some element =>
    have mem := mem_of_find?_eq_some found
    have passes := find?_some found
    cases other : second.find? test with
    | none =>
      exact absurd passes (find?_eq_none.mp other element (permuted.mem_iff.mp mem))
    | some rival =>
      have rivalMember := permuted.mem_iff.mpr (mem_of_find?_eq_some other)
      exact congrArg some (determined element mem rival rivalMember passes (find?_some other))

end ControlVault.Foundation
