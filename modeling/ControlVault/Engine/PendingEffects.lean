import ControlVault.Engine.Execution
import ControlVault.Engine.RegistrySpec
import ControlVault.Engine.RuntimeSpec

namespace ControlVault.Engine

open Foundation Core PolicyRuntime Table

/-!
# What a step does to one pending request

A pending request is stored once and afterwards only changes its state.  A
delegated request names a grant request that was drawn together with it and
stored in the registry of the request's profile.
-/

/-- What a stored request says about the event that stored it. -/
structure Event.StoresPending (event : Event) (id : PendingRequestId)
    (req : PendingPrincipalRequest) : Prop where
  drawn : id.fresh ∈ event.operation.drawn
  intent : req.intentId.fresh ∈ event.operation.drawn
  grantRequest : ∀ requestId, req.grantRequestId = some requestId ->
    requestId.fresh ∈ event.operation.drawn
  otherRegistries : ∀ profileId, profileId ≠ req.profileId ->
    event.after.grants.get profileId = event.before.grants.get profileId

inductive PendingEffect (event : Event) (id : PendingRequestId) :
    Option PendingPrincipalRequest -> Option PendingPrincipalRequest -> Prop
  | absent : PendingEffect event id none none
  | moved :
      PendingEffect event id (some req) (some { req with state })
  | stored {before : Option PendingPrincipalRequest} {req : PendingPrincipalRequest}
      (stores : event.StoresPending id req) : PendingEffect event id before (some req)

namespace PendingEffect

variable {event : Event} {id : PendingRequestId}

theorem refl (entry : Option PendingPrincipalRequest) : PendingEffect event id entry entry := by
  cases entry with
  | none => exact .absent
  | some => exact .moved

variable {after middle : PolicyRuntime}

/-- The move of a request from the start of the event to a later runtime. -/
def Moves (event : Event) (id : PendingRequestId) (after : PolicyRuntime) : Prop :=
  PendingEffect event id (event.before.pendingRequests.get id) (after.pendingRequests.get id)

theorem of_grants (frame : ∃ grants, after = { event.before with grants }) :
    Moves event id after := by
  rcases frame with ⟨_, rfl⟩
  exact refl _

theorem of_mapped (change : PendingPrincipalRequest -> PendingPrincipalRequest)
    (stateOnly : ∀ req, ∃ state, change req = { req with state })
    (entry : Option PendingPrincipalRequest) : PendingEffect event id entry (entry.map change) := by
  cases entry with
  | none => exact .absent
  | some req =>
    rcases stateOnly req with ⟨_, same⟩
    rw [Option.map_some, same]
    exact .moved

theorem of_setPendingState (same : middle.pendingRequests = event.before.pendingRequests) :
    Moves event id (middle.setPendingState named state) := by
  rw [Moves, setPendingState, get_modify, same]
  split_ifs
  · exact of_mapped _ (fun req => ⟨state, rfl⟩) _
  · exact refl _

theorem of_close (state : PendingState) (req : PendingPrincipalRequest) :
    ∃ next, req.close state = { req with state := next } := by
  rw [PendingPrincipalRequest.close]
  split_ifs
  · exact ⟨state, rfl⟩
  · exact ⟨req.state, rfl⟩

theorem of_insert (stores : event.StoresPending named req)
    (same : after.pendingRequests = event.before.pendingRequests.insert named req) :
    Moves event id after := by
  rw [Moves, same, get_insert]
  split_ifs with this
  · subst this
    exact .stored stores
  · exact refl _

theorem of_pendingCreated
    (created : event.before.PendingCreated params freshIntent freshPending result after)
    (drawnIntent : freshIntent.fresh ∈ event.operation.drawn)
    (drawn : freshPending.fresh ∈ event.operation.drawn) (finished : event.after = after) :
    Moves event id after := by
  cases created with
  | failed => exact refl _
  | created =>
    refine of_insert ⟨drawn, drawnIntent, ?_, ?_⟩ rfl
    · intro requestId named
      cases named
    · intro profileId _
      rw [finished]

theorem of_delegatedCreated
    (created : event.before.DelegatedCreated intentParams grantParams freshIntent freshGrantRequest
      freshPending result after) (drawnIntent : freshIntent.fresh ∈ event.operation.drawn)
    (drawnRequest : freshGrantRequest.fresh ∈ event.operation.drawn)
    (drawn : freshPending.fresh ∈ event.operation.drawn) (finished : event.after = after) :
    Moves event id after := by
  cases created with
  | intentFailed | unregistered | grantRefused => exact refl _
  | created created registered attempt =>
    refine of_insert ⟨drawn, drawnIntent, ?_, ?_⟩ rfl
    · intro requestId named
      cases named
      rw [GrantRegistry.requestGrant_ok attempt]
      exact drawnRequest
    · intro profileId different
      rw [finished]
      exact get_insert_of_ne _ _ different

theorem of_pendingEnded (ended : event.before.PendingEnded state after) :
    Moves event id after := by
  cases ended with
  | unchanged => exact refl _
  | ended => exact of_setPendingState rfl

theorem of_resolved (resolved : PolicyRuntime.Resolved env event.before tuple fresh result after) :
    Moves event id after := by
  cases resolved with
  | unmatched | refused | intentRefused => exact refl _
  | closed => exact of_setPendingState rfl
  | grantFailed selected checks approval grant =>
    rcases grant.frame with ⟨grants, rfl⟩
    exact refl _
  | resolved selected checks approval grant =>
    rcases grant.frame with ⟨_, rfl⟩
    exact of_setPendingState rfl

theorem of_leaves (leaves : event.before.LeavesRequests after) :
    Moves event id after := by
  rcases leaves with ⟨_, _, _, rfl⟩
  exact refl _

theorem of_reloaded (reloaded : PolicyRuntime.Reloaded env event.before config fresh result after) :
    Moves event id after := by
  cases reloaded with
  | failed => exact refl _
  | compiled =>
    rw [Moves, reloaded, get_mapValues]
    exact of_mapped _ (of_close .cancelled) _

theorem of_terminateWhere (test : PendingPrincipalRequest -> Bool) (state : PendingState) :
    Moves event id (event.before.terminateWhere test state) := by
  rw [Moves, terminateWhere, get_mapValues]
  apply of_mapped
  intro req
  split_ifs
  · exact ⟨state, rfl⟩
  · exact ⟨req.state, rfl⟩

end PendingEffect

/-- Every operation is one move of every pending request. -/
theorem exec_pendingEffect {event : Event}
    (executed : event.before.exec env event.operation = (event.answer, event.after))
    (id : PendingRequestId) :
    PendingEffect event id (event.before.pendingRequests.get id)
      (event.after.pendingRequests.get id) := by
  rcases event with ⟨before, op, _, _⟩
  simp only [] at executed
  rcases Prod.ext_iff.mp executed with ⟨rfl, rfl⟩
  cases op with
  | adminRequestGrant params fresh =>
    exact .of_grants (before.adminRequestGrantInner_frame params false fresh)
  | adminRequestDynamicGrant params fresh =>
    exact .of_grants (before.adminRequestGrantInner_frame params true fresh)
  | adminRevokeGrant grantId =>
    rcases before.adminRevokeGrant_frame grantId with ⟨_, _, same, -⟩
    change PendingEffect _ id _ ((before.adminRevokeGrant grantId).2.pendingRequests.get id)
    rw [same]
    exact .refl _
  | revokeGrantById grantId => exact .of_grants (before.revokeGrantById_frame grantId)
  | resolveGrantForSign profileId grantId =>
    exact .of_grants (before.resolveGrantForSign_frame profileId grantId)
  | consumeRegistrationGrant profileId grantId =>
    rcases before.consumeRegistrationGrant_frame profileId grantId with ⟨_, same⟩
    change PendingEffect _ id _
      ((before.consumeRegistrationGrant profileId grantId).2.pendingRequests.get id)
    rw [same]
    exact .refl _
  | principalCreatePendingIntent =>
    exact .of_pendingCreated (principalCreatePendingIntent_spec _ _ _ _)
      List.mem_cons_self (List.mem_cons_of_mem _ List.mem_cons_self) rfl
  | principalCreatePendingDelegated =>
    exact .of_delegatedCreated (principalCreatePendingDelegated_spec _ _ _ _ _ _)
      List.mem_cons_self (List.mem_cons_of_mem _ List.mem_cons_self)
      (List.mem_cons_of_mem _ (List.mem_cons_of_mem _ List.mem_cons_self)) rfl
  | principalCancelPending =>
    exact .of_pendingEnded (principalCancelPending_spec _ _ _)
  | ceremonyResolvePending => exact .of_resolved (ceremonyResolvePending_spec _ _ _ _)
  | ceremonyDenyPending => exact .of_pendingEnded (ceremonyDenyPending_spec _ _)
  | cleanupExpiredPending | cancelPendingForSession => exact .of_terminateWhere _ _
  | authorize => exact .of_leaves (authorize_spec _ _ _ _).leaves
  | authorizeBound => exact .of_leaves (authorizeBound_spec _ _ _ _ _).leaves
  | consumeAuthorization => exact .of_leaves (consumeAuthorization_spec _ _).leaves
  | principalExit sessionId =>
    change PendingEffect _ id _ ((before.principalExit sessionId).pendingRequests.get id)
    rw [principalExit, get_mapValues]
    apply PendingEffect.of_mapped
    intro req
    split_ifs
    · exact PendingEffect.of_close _ req
    · exact ⟨req.state, rfl⟩
  | reload => exact .of_reloaded (reload_spec _ _ _ _)
  | _ => exact .refl _

end ControlVault.Engine
