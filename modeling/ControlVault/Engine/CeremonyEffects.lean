import ControlVault.Engine.Frame
import ControlVault.Engine.IntentEffects

namespace ControlVault.Engine

open Foundation Core PolicyRuntime

/-!
# What a step does to one ceremony

A pending authorization is stored when a ceremony is authorized, and from then
on can only be invalidated.  It is never removed and never made valid again, so
a ceremony identifier that is drawn once is good for at most one consumption.
-/

inductive CeremonyEffect (event : Event) (id : CeremonyId) :
    Option PendingAuthorization -> Option PendingAuthorization -> Prop
  | absent : CeremonyEffect event id none none
  | kept :
      CeremonyEffect event id (some auth) (some auth)
  | invalidated :
      CeremonyEffect event id (some auth) (some { auth with invalidated := true })
  | opened {before : Option PendingAuthorization} {handle : AuthorizationHandle}
      (authorizes : event.Authorizes handle) (named : handle.ceremonyId = id)
      (drawn : id.fresh ∈ event.operation.drawn) :
      CeremonyEffect event id before (some ⟨handle.toAuthorization, false⟩)

namespace CeremonyEffect

variable {event : Event} {id : CeremonyId}

theorem refl (entry : Option PendingAuthorization) : CeremonyEffect event id entry entry := by
  cases entry with
  | none => exact .absent
  | some => exact .kept

theorem of_mapped (test : PendingAuthorization -> Prop) [DecidablePred test]
    (entry : Option PendingAuthorization) :
    CeremonyEffect event id entry (entry.map (fun auth =>
      if test auth then { auth with invalidated := true } else auth)) := by
  cases entry with
  | none => exact .absent
  | some =>
    rw [Option.map_some]
    split_ifs
    · exact .invalidated
    · exact .kept

/-- The move of a ceremony from the start of the event to a later runtime. -/
def Moves (event : Event) (id : CeremonyId) (after : PolicyRuntime) : Prop :=
  CeremonyEffect event id (event.before.pending.get id) (after.pending.get id)

theorem of_withCeremony {runtime : PolicyRuntime} (pending : runtime.pending = event.before.pending)
    (authorizes : event.Authorizes (handleFor auth ceremonyId))
    (drawn : ceremonyId.fresh ∈ event.operation.drawn) :
    Moves event id (runtime.withCeremony auth ceremonyId) := by
  rw [Moves, withCeremony, Table.get_insert, pending]
  split_ifs
  · subst id
    exact .opened authorizes rfl drawn
  · exact refl _

variable {after : PolicyRuntime}

theorem of_authorized
    (authorized : PolicyRuntime.Authorized env event.before req fresh result after)
    (op : event.operation = .authorize req fresh)
    (answer : event.answer = .authorized result.1 result.2) :
    Moves event id after := by
  cases authorized with
  | refused | unclaimed => exact refl _
  | opened =>
    exact of_withCeremony rfl answer (by rw [op]; exact List.mem_cons_self)

theorem of_boundAuthorized
    (authorized : PolicyRuntime.BoundAuthorized env event.before bound req fresh result
      after) (op : event.operation = .authorizeBound bound req fresh)
    (answer : event.answer = .authorized result.1 result.2) :
    Moves event id after := by
  have drawn : fresh.fresh ∈ event.operation.drawn := by
    rw [op]
    exact List.mem_cons_self
  cases authorized with
  | refused | unclaimed | grantRefused => exact refl _
  | opened => exact of_withCeremony rfl answer drawn
  | openedWithGrant checks claimable named registered claim =>
    rw [GrantRegistry.claimForAuthorize_ceremony claim] at answer ⊢
    exact of_withCeremony rfl answer drawn

theorem of_invalidateCeremony {middle : PolicyRuntime} (isOpen : event.before.IsOpen handle)
    (pending : middle.pending = event.before.pending) :
    Moves event id (middle.invalidateCeremony handle.ceremonyId) := by
  have stillOpen : middle.IsOpen handle := by
    rw [PolicyRuntime.IsOpen, pending]
    exact isOpen
  rw [Moves, invalidateCeremony_eq stillOpen, Table.get_insert, pending]
  split_ifs
  · subst id
    rw [isOpen]
    exact .invalidated
  · exact refl _

theorem of_consumeOutcome (outcome : event.before.ConsumeOutcome handle result after) :
    Moves event id after := by
  cases outcome with
  | closed | unchanged => exact refl _
  | invalidated isOpen => exact of_invalidateCeremony isOpen rfl
  | partialClaim consumable =>
    exact of_invalidateCeremony consumable.isOpen rfl
  | taken consumable named found claimed claim =>
    cases claim with
    | unneeded | taken => exact of_invalidateCeremony consumable.isOpen rfl

theorem of_same (same : after.pending = event.before.pending) :
    Moves event id after := by
  rw [Moves, same]
  exact refl _

end CeremonyEffect

/-- Every operation is one move of every ceremony. -/
theorem exec_ceremonyEffect {event : Event}
    (executed : event.before.exec env event.operation = (event.answer, event.after))
    (id : CeremonyId) :
    CeremonyEffect event id (event.before.pending.get id) (event.after.pending.get id) := by
  cases exec_reach executed with
  | quiet frame => exact .of_same frame.pending
  | advance same result => exact .of_same (by rw [result])
  | regress same result => exact .of_same (by rw [result])
  | generation same compiled result =>
    rw [result, reloaded, Table.get_mapValues]
    cases event.before.pending.get id with
    | none => exact .absent
    | some => exact .invalidated
  | ceremonies touches =>
    rcases event with ⟨before, op, _, _⟩
    simp only [] at executed touches
    cases op with
    | authorize =>
      cases executed
      exact .of_authorized (authorize_spec _ _ _ _) rfl rfl
    | authorizeBound =>
      cases executed
      exact .of_boundAuthorized (authorizeBound_spec _ _ _ _ _) rfl rfl
    | consumeAuthorization =>
      cases executed
      exact .of_consumeOutcome (consumeAuthorization_spec _ _)
    | principalExit =>
      cases executed
      rw [principalExit, Table.get_mapValues]
      exact .of_mapped _ _
    | adminRevokeGrant grantId =>
      cases executed
      change CeremonyEffect _ id _ ((before.adminRevokeGrant grantId).2.pending.get id)
      rcases before.adminRevokeGrant_frame grantId with ⟨_, _, same, rfl | rfl⟩
      · rw [same]
        exact .refl _
      · rw [same, Table.get_mapValues]
        exact .of_mapped _ _
    | _ => cases touches

end ControlVault.Engine
