import ControlVault.Core.Ids

namespace ControlVault.Storage

open Foundation Core

/-!
# Ceremony scopes

While a ceremony runs, the scope of its endpoint says what the storage may be used
for: registering at a relying party, or authenticating with one credential there.
Whoever activates a scope gets a guard, the number of the activation, and dropping
the guard ends the scope unless a later activation has replaced it.
-/

inductive CeremonyAction
  | register
  | authenticate (ref : CredentialRef)
  deriving DecidableEq

structure ActiveCeremony where
  action : CeremonyAction
  rpId : Text
  generation : Nat
  deriving DecidableEq

structure CeremonyScope where
  generation : Nat
  active : Option ActiveCeremony

inductive ScopeActivationError
  | emptyCredentialRef
  | emptyRpId

namespace CeremonyScope

def new : CeremonyScope where
  generation := 0
  active := none

variable (scope : CeremonyScope)

/-- Replace whatever was active; the number of the guard is the new generation. -/
def start (action : CeremonyAction) (rpId : Text) : CeremonyScope where
  generation := scope.generation + 1
  active := some ⟨action, rpId, scope.generation + 1⟩

def activate (action : CeremonyAction) (rpId : Text) :
    Except ScopeActivationError Nat × CeremonyScope :=
  let rpId := rpId.canonical
  if rpId.isEmpty then (.error .emptyRpId, scope)
  else
    match action with
    | .authenticate ref =>
      if ref.bytes = 0 then (.error .emptyCredentialRef, scope)
      else (.ok (scope.generation + 1), scope.start action rpId)
    | .register => (.ok (scope.generation + 1), scope.start action rpId)

/-- Dropping a guard. -/
def drop (gen : Nat) : CeremonyScope :=
  { scope with active := scope.active.filter (fun ceremony => ceremony.generation ≠ gen) }

def activeAction : Option CeremonyAction :=
  scope.active.map ActiveCeremony.action

def activeCredRef : Option CredentialRef :=
  scope.active.bind (fun ceremony =>
    match ceremony.action with
    | .authenticate ref => some ref
    | .register => none)

def activeRpId : Option Text :=
  scope.active.map ActiveCeremony.rpId

theorem activate_cases (action : CeremonyAction) (rpId : Text) :
    (∃ error, scope.activate action rpId = (.error error, scope)) ∨
      scope.activate action rpId =
        (.ok (scope.generation + 1), scope.start action rpId.canonical) := by
  unfold activate
  dsimp only
  split_ifs
  · exact .inl ⟨_, rfl⟩
  · cases action with
    | register => exact .inr rfl
    | authenticate =>
      dsimp only
      split_ifs
      · exact .inl ⟨_, rfl⟩
      · exact .inr rfl

theorem activeCredRef_eq_some {scope : CeremonyScope} :
    scope.activeCredRef = some ref <->
      ∃ ceremony, scope.active = some ceremony /\ ceremony.action = .authenticate ref := by
  unfold activeCredRef
  constructor
  · intro found
    rcases Option.bind_eq_some_iff.mp found with ⟨ceremony, active, named⟩
    refine ⟨ceremony, active, ?_⟩
    split at named
    next other action =>
      cases named
      exact action
    · cases named
  · rintro ⟨ceremony, active, action⟩
    rw [active, Option.bind_some, action]

end CeremonyScope

end ControlVault.Storage
