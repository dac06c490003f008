import ControlVault.Engine.Execution
import ControlVault.Engine.RuntimeSpec

namespace ControlVault.Engine

open Foundation Core PolicyRuntime IntentStore

/-!
# What a step does to one intent

The life of a single intent, seen through any operation of the runtime.  The
relation below is the abstract model of an intent: it says which moves exist and
who causes them, and forgets how the stores are organised.  Every step of the
runtime is one such move for every identifier, so an invariant about intents
needs one case for each move and none for the operations.
-/

/-- The event approved this intent: an administrator did, or the resolution of
the pending request that names it. -/
inductive Event.ApprovesIntent (event : Event) (id : IntentId) : Prop
  | byAdministrator (op : event.operation = .adminApproveIntent id)
      (answer : event.answer = .intentSettled (.ok ()))
  | byResolution (op : event.operation = .ceremonyResolvePending tuple fresh)
      (selected : event.before.uniqueWaiting tuple = .ok (pendingId, req))
      (named : req.intentId = id)
      (answer : (event.before.intents.approve event.before.clockMillis id).1 = .ok ())

/-- The event authorized a ceremony and answered with this handle. -/
def Event.Authorizes (event : Event) (handle : AuthorizationHandle) : Prop :=
  event.answer = .authorized (.allow .allowed) (some handle)

instance (event : Event) (handle : AuthorizationHandle) : Decidable (event.Authorizes handle) :=
  inferInstanceAs (Decidable (_ = _))

/-- The event tried to consume this handle and found its ceremony open. -/
structure Event.ConsumesOpen (event : Event) (handle : AuthorizationHandle) : Prop where
  operation : event.operation = .consumeAuthorization handle
  isOpen : event.before.IsOpen handle

/-- The operation creates an intent with this identifier and these parameters. -/
inductive Operation.CreatesIntent (id : IntentId) (params : CreateIntentParams) : Operation -> Prop
  | admin : CreatesIntent id params (.adminCreateIntent params id)
  | pending (pendingId : PendingRequestId) :
      CreatesIntent id params (.principalCreatePendingIntent params id pendingId)
  | delegated (grantParams : GrantRequestParams) (grantRequestId : GrantRequestId)
      (pendingId : PendingRequestId) :
      CreatesIntent id params
        (.principalCreatePendingDelegated params grantParams id grantRequestId pendingId)

theorem Operation.CreatesIntent.drawn {id : IntentId}
    {op : Operation} (creates : op.CreatesIntent id params) :
    id.fresh ∈ op.drawn := by
  cases creates <;> exact List.mem_cons_self

section

variable (event : Event) (id : IntentId)

/-- The moves of one intent. -/
inductive IntentEffect : Option Intent -> Option Intent -> Prop
  | absent : IntentEffect none none
  | kept : IntentEffect (some intent) (some intent)
  | expired (late : intent.isOverdue event.before.clockMillis = true) :
      IntentEffect (some intent) (some { intent with state := .expired })
  | approved (pending : intent.state = .pending)
      (inTime : intent.isOverdue event.before.clockMillis = false)
      (approves : event.ApprovesIntent id) :
      IntentEffect (some intent) (some { intent with state := .approved })
  | closed (pending : intent.state = .pending) (ending : target = .denied ∨ target = .cancelled) :
      IntentEffect (some intent) (some { intent with state := target })
  | claimed (approved : intent.state = .approved)
      (inTime : intent.isOverdue event.before.clockMillis = false)
      (authorizes : event.Authorizes handle) (named : handle.intentId = some id)
      (tuple : intent.toCeremonyTuple = handle.toCeremonyTuple.normalized) :
      IntentEffect (some intent) (some { intent with state := .claimed })
  | rolledBack (claimed : intent.state = .claimed)
      (consumes : event.ConsumesOpen handle) (named : handle.intentId = some id) :
      IntentEffect (some intent) (some { intent with state := .approved })
  | consumed (claimed : intent.state = .claimed)
      (consumes : event.ConsumesOpen handle) (named : handle.intentId = some id) :
      IntentEffect (some intent) (some { intent with state := .consumed })
  | created (creates : event.operation.CreatesIntent id params)
      (tuple : intent.toCeremonyTuple = params.toCeremonyTuple)
      (pending : intent.state = .pending) (inTime : event.before.clockMillis <= intent.deadline) :
      IntentEffect before (some intent)
  | cleared (op : event.operation = .reload config fresh) : IntentEffect before none

end

namespace IntentEffect

variable {event : Event} {id : IntentId}

/-- The move of an intent from the start of the event to a later runtime. -/
def Moves (event : Event) (id : IntentId) (after : PolicyRuntime) : Prop :=
  IntentEffect event id (event.before.intents.get id) (after.intents.get id)

theorem refl (entry : Option Intent) : IntentEffect event id entry entry := by
  cases entry with
  | none => exact .absent
  | some => exact .kept

theorem of_swept (entry : Option Intent) :
    IntentEffect event id entry
      (entry.map (fun intent => intent.swept event.before.clockMillis)) := by
  cases entry with
  | none => exact .absent
  | some intent =>
    cases overdue : intent.isOverdue event.before.clockMillis with
    | true =>
      rw [Option.map_some, Intent.swept_of_overdue overdue]
      exact .expired overdue
    | false =>
      rw [Option.map_some, Intent.swept_of_not_overdue overdue]
      exact .kept

theorem of_settled
    (settled : event.before.intents.Settled event.before.clockMillis named target result store)
    (moved : ∀ intent : Intent, intent.state = .pending ->
      intent.isOverdue event.before.clockMillis = false -> result = .ok () ->
        IntentEffect event named (some intent) (some { intent with state := target })) :
    IntentEffect event id (event.before.intents.get id) (store.get id) := by
  cases settled with
  | missing | refused => exact refl _
  | overdue found late =>
    rw [get_put]
    split_ifs with same
    · rw [same, found]
      exact .expired late
    · exact refl _
  | moved found inTime pending =>
    rw [get_put]
    split_ifs with same
    · rw [same, found]
      exact moved _ pending inTime rfl
    · exact refl _

theorem of_closed (ending : target = .denied ∨ target = .cancelled)
    (settled : event.before.intents.Settled event.before.clockMillis named target result store) :
    IntentEffect event id (event.before.intents.get id) (store.get id) :=
  of_settled settled (fun _ pending _ _ => .closed pending ending)

/-- Approving one intent, when the approval counts as one for the event. -/
theorem of_approved
    (settled : event.before.intents.Settled event.before.clockMillis named .approved result store)
    (approves : result = .ok () -> event.ApprovesIntent named) :
    IntentEffect event id (event.before.intents.get id) (store.get id) :=
  of_settled settled (fun _ pending inTime success => .approved pending inTime (approves success))

theorem of_created
    (created : event.before.intents.Created event.before.clockMillis params fresh result store)
    (creates : event.operation.CreatesIntent fresh params) :
    IntentEffect event id (event.before.intents.get id) (store.get id) := by
  cases created with
  | full =>
    rw [get_cleanupExpired]
    exact of_swept _
  | added inTime =>
    rw [get_put, get_cleanupExpired]
    split_ifs with same
    · rw [same]
      exact .created creates rfl rfl inTime
    · exact of_swept _

theorem of_sweptIntents {intents : IntentStore} (swept : event.before.SweptIntents intents) :
    IntentEffect event id (event.before.intents.get id) (intents.get id) := by
  rw [swept id, get_cleanupExpired]
  exact of_swept _

theorem of_claimed (claimable : event.before.Claimable query named intent)
    (authorizes : event.Authorizes handle) (names : handle.intentId = some named)
    (tuple : handle.toCeremonyTuple = query) :
    IntentEffect event id (event.before.intents.get id)
      ((event.before.claimedIntents named intent).get id) := by
  rw [claimedIntents, get_put, get_cleanupExpired]
  split_ifs
  · subst id
    rw [claimable.found]
    exact .claimed claimable.approved claimable.inTime authorizes names (tuple ▸ claimable.tuple)
  · exact of_swept _

theorem of_authorized
    (authorized : PolicyRuntime.Authorized env event.before req fresh result after)
    (answer : event.answer = .authorized result.1 result.2) :
    Moves event id after := by
  cases authorized with
  | refused => exact refl _
  | unclaimed swept => exact of_sweptIntents swept
  | opened checks claimable => exact of_claimed claimable answer rfl rfl

theorem of_boundAuthorized
    (authorized : PolicyRuntime.BoundAuthorized env event.before bound req fresh result
      after) (answer : event.answer = .authorized result.1 result.2) :
    Moves event id after := by
  cases authorized with
  | refused => exact refl _
  | unclaimed swept => exact of_sweptIntents swept
  | grantRefused swept => exact of_sweptIntents swept
  | opened checks claimable => exact of_claimed claimable answer rfl rfl
  | openedWithGrant checks claimable =>
    exact of_claimed claimable answer rfl rfl

/-- Closing an open ceremony gives a claimed intent back and leaves others alone. -/
theorem of_invalidated (consumes : event.ConsumesOpen handle) :
    Moves event id (event.before.invalidateCeremony handle.ceremonyId) := by
  rw [invalidateCeremony_eq consumes.isOpen]
  cases named : handle.intentId with
  | none => exact refl _
  | some =>
    rw [Moves, get_rollbackClaim]
    cases found : event.before.intents.get id with
    | none => exact .absent
    | some =>
      rw [Option.map_some]
      split_ifs with claimed
      · exact .rolledBack claimed.2 consumes (claimed.1 ▸ named)
      · exact .kept

theorem of_consumed {middle : PolicyRuntime} (consumes : event.ConsumesOpen handle)
    (names : handle.intentId = some named) (found : event.before.intents.get named = some intent)
    (claimed : intent.state = .claimed) (pending : middle.pending = event.before.pending)
    (intents : middle.intents = event.before.consumedIntents named intent) :
    Moves event id (middle.invalidateCeremony handle.ceremonyId) := by
  rw [Moves, invalidateCeremony_consumed consumes.isOpen names pending intents, consumedIntents,
    get_put]
  split_ifs
  · subst id
    rw [found]
    exact .consumed claimed consumes names
  · exact refl _

theorem of_consumeOutcome (outcome : event.before.ConsumeOutcome handle result after)
    (op : event.operation = .consumeAuthorization handle) :
    Moves event id after := by
  cases outcome with
  | closed | unchanged => exact refl _
  | invalidated isOpen => exact of_invalidated ⟨op, isOpen⟩
  | partialClaim consumable named found claimed =>
    exact of_consumed ⟨op, consumable.isOpen⟩ named found claimed rfl rfl
  | taken consumable named found claimed claim =>
    cases claim with
    | unneeded | taken =>
      exact of_consumed ⟨op, consumable.isOpen⟩ named found claimed rfl rfl

theorem of_resolved (resolved : PolicyRuntime.Resolved env event.before tuple fresh result after)
    (op : event.operation = .ceremonyResolvePending tuple fresh) :
    Moves event id after := by
  have approval : ∀ {pendingId req}, event.before.uniqueWaiting tuple = .ok (pendingId, req) ->
      IntentEffect event id (event.before.intents.get id)
        ((event.before.intents.approve event.before.clockMillis req.intentId).2.get id) := by
    intro pendingId req selected
    have settled := event.before.intents.approve_spec event.before.clockMillis req.intentId
    exact of_approved settled (fun success => .byResolution op selected rfl success)
  cases resolved with
  | unmatched | refused | closed => exact refl _
  | intentRefused selected checks approved =>
    have effect := approval selected
    rw [approved] at effect
    exact effect
  | grantFailed selected checks approved grant =>
    have effect := approval selected
    rcases grant.frame with ⟨grants, rfl⟩
    rw [approved] at effect
    exact effect
  | resolved selected checks approved grant =>
    have effect := approval selected
    rcases grant.frame with ⟨_, rfl⟩
    rw [approved] at effect
    exact effect

theorem of_ended (ended : PolicyRuntime.Ended event.before.clockMillis before after) :
    IntentEffect event id before after := by
  cases ended with
  | kept entry => exact refl _
  | expired late => exact .expired late
  | denied inTime pending => exact .closed pending (.inl rfl)

theorem of_terminated (req : PendingPrincipalRequest) :
    Moves event id (event.before.terminateRequest req) :=
  of_ended (.of_settled (deny_spec _ _ _) id)

theorem of_terminatedWhere (test : PendingPrincipalRequest -> Bool) (state : PendingState) :
    Moves event id (event.before.terminateWhere test state) := by
  rcases terminateAll_frame (event.before.pendingRequests.values.filter
    (fun req => decide (req.state = .waiting) && test req)) event.before with
    ⟨_, _, same, ended⟩
  rw [terminateWhere]
  simp only [same]
  exact of_ended (ended id)

theorem of_frame (frame : ∃ grants, after = { event.before with grants }) :
    Moves event id after := by
  rcases frame with ⟨_, rfl⟩
  exact refl _

theorem of_pendingCreated
    (created : event.before.PendingCreated params freshIntent freshPending result after)
    (op : event.operation = .principalCreatePendingIntent params freshIntent freshPending) :
    Moves event id after := by
  have creates : event.operation.CreatesIntent freshIntent params := by
    rw [op]
    exact .pending freshPending
  cases created with
  | failed created => exact of_created created creates
  | created created => exact of_created created creates

theorem of_delegatedCreated
    (created : event.before.DelegatedCreated intentParams grantParams freshIntent freshGrantRequest
      freshPending result after)
    (op : event.operation = .principalCreatePendingDelegated intentParams grantParams
      freshIntent freshGrantRequest freshPending) :
    Moves event id after := by
  have creates : event.operation.CreatesIntent freshIntent intentParams := by
    rw [op]
    exact .delegated grantParams freshGrantRequest freshPending
  cases created with
  | intentFailed created => exact of_created created creates
  | unregistered created missing => exact of_created created creates
  | grantRefused created registered attempt => exact of_created created creates
  | created created registered attempt => exact of_created created creates

theorem of_pendingEnded (ended : event.before.PendingEnded state after) :
    Moves event id after := by
  cases ended with
  | unchanged => exact refl _
  | ended => exact of_terminated _

theorem of_reloaded (reloaded : PolicyRuntime.Reloaded env event.before config fresh result after)
    (op : event.operation = .reload config fresh) :
    Moves event id after := by
  cases reloaded with
  | failed => exact refl _
  | compiled =>
    exact .cleared op

theorem of_sessionExit (sessionId : PrincipalSessionId) :
    IntentEffect event id (event.before.intents.get id)
      ((event.before.intents.cancelBySession sessionId).get id) := by
  rw [get_cancelBySession]
  cases event.before.intents.get id with
  | none => exact .absent
  | some intent =>
    rw [Option.map_some]
    split_ifs with cancelled
    · exact .closed cancelled.2 (.inr rfl)
    · exact .kept

end IntentEffect

/-- Every operation is one move of every intent. -/
theorem exec_intentEffect {event : Event}
    (executed : event.before.exec env event.operation = (event.answer, event.after))
    (id : IntentId) :
    IntentEffect event id (event.before.intents.get id) (event.after.intents.get id) := by
  rcases event with ⟨before, op, _, _⟩
  simp only [] at executed
  rcases Prod.ext_iff.mp executed with ⟨rfl, rfl⟩
  cases op with
  | adminCreateIntent => exact .of_created (create_spec _ _ _ _) .admin
  | adminApproveIntent =>
    exact .of_approved (approve_spec _ _ _)
      (fun success => .byAdministrator rfl (congrArg Answer.intentSettled success))
  | adminDenyIntent => exact .of_closed (.inl rfl) (deny_spec _ _ _)
  | principalCancelIntent intentId profileId sessionId =>
    rcases before.intents.cancelByPrincipal_spec before.clockMillis intentId profileId sessionId
      with settled | same
    · exact .of_closed (.inr rfl) settled
    · change IntentEffect _ id _ ((before.intents.cancelByPrincipal _ _ _ _).2.get id)
      rw [same]
      exact .refl _
  | adminRequestGrant params fresh =>
    exact .of_frame (before.adminRequestGrantInner_frame params false fresh)
  | adminRequestDynamicGrant params fresh =>
    exact .of_frame (before.adminRequestGrantInner_frame params true fresh)
  | adminRevokeGrant grantId =>
    rcases before.adminRevokeGrant_frame grantId with ⟨_, _, same, -⟩
    change IntentEffect _ id _ ((before.adminRevokeGrant grantId).2.intents.get id)
    rw [same]
    exact .refl _
  | revokeGrantById grantId => exact .of_frame (before.revokeGrantById_frame grantId)
  | resolveGrantForSign profileId grantId =>
    exact .of_frame (before.resolveGrantForSign_frame profileId grantId)
  | consumeRegistrationGrant profileId grantId =>
    rcases before.consumeRegistrationGrant_frame profileId grantId with ⟨_, same⟩
    change IntentEffect _ id _ ((before.consumeRegistrationGrant profileId grantId).2.intents.get id)
    rw [same]
    exact .refl _
  | principalCreatePendingIntent =>
    exact .of_pendingCreated (principalCreatePendingIntent_spec _ _ _ _) rfl
  | principalCreatePendingDelegated =>
    exact .of_delegatedCreated (principalCreatePendingDelegated_spec _ _ _ _ _ _) rfl
  | principalCancelPending =>
    exact .of_pendingEnded (principalCancelPending_spec _ _ _)
  | ceremonyResolvePending =>
    exact .of_resolved (ceremonyResolvePending_spec _ _ _ _) rfl
  | ceremonyDenyPending => exact .of_pendingEnded (ceremonyDenyPending_spec _ _)
  | cleanupExpiredPending | cancelPendingForSession => exact .of_terminatedWhere _ _
  | authorize => exact .of_authorized (authorize_spec _ _ _ _) rfl
  | authorizeBound => exact .of_boundAuthorized (authorizeBound_spec _ _ _ _ _) rfl
  | consumeAuthorization =>
    exact .of_consumeOutcome (consumeAuthorization_spec _ _) rfl
  | principalExit sessionId => exact .of_sessionExit sessionId
  | reload => exact .of_reloaded (reload_spec _ _ _ _) rfl
  | _ => exact .refl _

end ControlVault.Engine
