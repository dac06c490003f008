import Mathlib.Logic.Basic

namespace ControlVault.Foundation

/-!
# Successful runs of fallible code

A chain of fallible steps succeeds exactly when every step does.  With these
rules the success of a `do` block is read as a list of facts, without opening
the steps.
-/

universe u

variable {ε α β : Type u}

theorem bind_eq_ok {first : Except ε α} {next : α -> Except ε β} {result : β} :
    (first >>= next) = .ok result <-> ∃ value, first = .ok value /\ next value = .ok result := by
  cases first with
  | error =>
    constructor
    · intro never
      cases never
    · rintro ⟨_, never, _⟩
      cases never
  | ok value =>
    constructor
    · intro success
      exact ⟨value, rfl, success⟩
    · rintro ⟨_, same, success⟩
      cases same
      exact success

theorem check_eq_ok {first : Except ε PUnit} {next : PUnit -> Except ε β} {result : β} :
    (first >>= next) = .ok result <-> first = .ok ⟨⟩ /\ next ⟨⟩ = .ok result := by
  rw [bind_eq_ok]
  constructor
  · rintro ⟨⟨⟩, succeeded, success⟩
    exact ⟨succeeded, success⟩
  · rintro ⟨succeeded, success⟩
    exact ⟨⟨⟩, succeeded, success⟩

variable {value result : α} {condition : Prop} {error : ε} {next : Except ε α}

theorem mapError_eq_ok {ε' : Type u} {outcome : Except ε α} {translate : ε -> ε'} :
    outcome.mapError translate = .ok value <-> outcome = .ok value := by
  cases outcome with
  | error => exact ⟨nofun, nofun⟩
  | ok => exact ⟨fun same => by cases same; rfl, fun same => by cases same; rfl⟩

theorem pure_eq_ok : (pure value : Except ε α) = .ok result <-> value = result := by
  constructor
  · intro same
    cases same
    rfl
  · intro same
    rw [same]
    rfl

/-- A branch that fails cannot be the one taken. -/
theorem error_ite_eq_ok [Decidable condition] :
    (if condition then .error error else next) = .ok result <->
      ¬ condition /\ next = .ok result := by
  by_cases holds : condition
  · rw [if_pos holds]
    constructor
    · intro never
      cases never
    · intro both
      exact absurd holds both.1
  · rw [if_neg holds]
    exact ⟨fun success => ⟨holds, success⟩, And.right⟩

/-- A check in a `do` block that throws when it fails. -/
theorem guard_eq_ok [Decidable condition] {unreached : PUnit -> Except ε α} :
    (if condition then throw error >>= unreached else next) = .ok result <->
      ¬ condition /\ next = .ok result :=
  error_ite_eq_ok

end ControlVault.Foundation
