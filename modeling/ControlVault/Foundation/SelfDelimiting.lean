import Mathlib.Data.List.Forall2

namespace ControlVault.Foundation

open List

/-!
# Self-delimiting encodings

An encoding delimits its values if, wherever two encodings begin the same list,
the values are the same and the lists go on in the same way.  What counts as the
same is a relation, since an encoding may leave something out.  Concatenations of
delimiting encodings delimit, so an encoding that is put together from parts is
injective as soon as its parts delimit.
-/

variable {α β γ ι : Type*}

def Delimits (valid : α -> Prop) (encode : α -> List β) (same : α -> α -> Prop) : Prop :=
  ∀ first second, valid first -> valid second -> ∀ rest otherRest,
    encode first ++ rest = encode second ++ otherRest -> same first second /\ rest = otherRest

namespace Delimits

variable {valid : α -> Prop} {encode : α -> List β} {same : α -> α -> Prop}

section

variable (delimits : Delimits valid encode same)

include delimits

theorem same_of_eq (firstValid : valid first) (secondValid : valid second)
    (equal : encode first = encode second) : same first second :=
  (delimits first second firstValid secondValid [] [] (by rw [equal])).1

/-- A part of a larger value. -/
theorem comap {whole : γ -> Prop} (part : γ -> α)
    (partValid : ∀ value, whole value -> valid (part value)) :
    Delimits whole (fun value => encode (part value))
      (fun first second => same (part first) (part second)) :=
  fun first second firstValid secondValid =>
    delimits (part first) (part second) (partValid first firstValid) (partValid second secondValid)

theorem imp (implies : ∀ first second, same first second -> weaker first second) :
    Delimits valid encode weaker := by
  intro first second firstValid secondValid rest otherRest equal
  rcases delimits first second firstValid secondValid rest otherRest equal with ⟨related, tails⟩
  exact ⟨implies first second related, tails⟩

/-- A second part that can be told from its rest once the first part is known. -/
theorem andThen {next : α -> List β} {both : α -> α -> Prop}
    (continues : ∀ first second, valid first -> valid second -> same first second ->
      ∀ rest otherRest, next first ++ rest = next second ++ otherRest ->
        both first second /\ rest = otherRest) :
    Delimits valid (fun value => encode value ++ next value) both := by
  intro first second firstValid secondValid rest otherRest equal
  rw [append_assoc, append_assoc] at equal
  rcases delimits first second firstValid secondValid _ _ equal with ⟨related, tails⟩
  exact continues first second firstValid secondValid related rest otherRest tails

/-- One after the other, for lists whose lengths are known to be equal. -/
theorem flatMap
    (firstValid : ∀ value ∈ first, valid value) (secondValid : ∀ value ∈ second, valid value)
    (lengths : first.length = second.length)
    (equal : first.flatMap encode ++ rest = second.flatMap encode ++ otherRest) :
    List.Forall₂ same first second /\ rest = otherRest := by
  induction first generalizing second with
  | nil =>
    rw [length_nil, eq_comm, length_eq_zero_iff] at lengths
    subst lengths
    exact ⟨.nil, equal⟩
  | cons head tail ih =>
    cases second with
    | nil => cases lengths
    | cons other =>
      rw [flatMap_cons, flatMap_cons, append_assoc, append_assoc] at equal
      rcases delimits head other (firstValid head mem_cons_self)
        (secondValid other mem_cons_self) _ _ equal with ⟨heads, tails⟩
      rcases ih (fun value mem => firstValid value (mem_cons_of_mem _ mem))
        (fun value mem => secondValid value (mem_cons_of_mem _ mem))
        (Nat.succ.inj lengths) tails with ⟨related, ends⟩
      exact ⟨.cons heads related, ends⟩

end

end Delimits

/-- The parts of one value, in a fixed order. -/
theorem delimits_parts {valid : α -> Prop} (parts : List ι) (encode : ι -> α -> List β)
    (same : ι -> α -> α -> Prop)
    (delimit : ∀ part ∈ parts, Delimits valid (encode part) (same part)) :
    Delimits valid (fun value => parts.flatMap (fun part => encode part value))
      (fun first second => ∀ part ∈ parts, same part first second) := by
  induction parts with
  | nil =>
    intro first second _ _ rest otherRest equal
    exact ⟨fun _ mem => absurd mem not_mem_nil, equal⟩
  | cons part parts ih =>
    have remaining := ih (fun other mem => delimit other (mem_cons_of_mem _ mem))
    apply (delimit part mem_cons_self).andThen
    intro first second firstValid secondValid related rest otherRest equal
    rcases remaining first second firstValid secondValid rest otherRest equal with ⟨all, tails⟩
    exact ⟨forall_mem_cons.mpr ⟨related, all⟩, tails⟩

end ControlVault.Foundation
