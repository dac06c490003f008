import ControlVault.Engine.Execution
import ControlVault.Engine.RegistrySpec
import ControlVault.Engine.RuntimeSpec

namespace ControlVault.Engine

open Foundation Core PolicyRuntime Table

/-!
# What a step does to the grant registry of one profile

As for intents and ceremonies, every operation is one move of every registry: it
shrinks, it takes up a request, it issues a grant for a request, or a reload puts
an empty registry in its place.
-/

variable {after : PolicyRuntime}

inductive RegistryShrinks : Option GrantRegistry -> Option GrantRegistry -> Prop
  | absent : RegistryShrinks none none
  | shrunk {after : GrantRegistry} (shrinks : before.Shrinks after) :
      RegistryShrinks (some before) (some after)

variable {grants : Table ProfileId GrantRegistry} {req : AuthorizationRequest}
  {result : Decision × Option AuthorizationHandle} {params : GrantRequestParams}

namespace RegistryShrinks

theorem refl (entry : Option GrantRegistry) : RegistryShrinks entry entry := by
  cases entry with
  | none => exact .absent
  | some reg => exact .shrunk (.refl reg)

theorem trans (before : RegistryShrinks first second)
    (after : RegistryShrinks second third) : RegistryShrinks first third := by
  cases before with
  | absent => exact after
  | shrunk shrinks =>
    cases after with
    | shrunk again => exact .shrunk (shrinks.trans again)

variable {profileId : ProfileId} {change : GrantRegistry -> GrantRegistry} {runtime : PolicyRuntime}

theorem of_insert {reg after : GrantRegistry}
    (registered : grants.get profileId = some reg) (shrinks : reg.Shrinks after)
    (other : ProfileId) :
    RegistryShrinks (grants.get other) ((grants.insert profileId after).get other) := by
  rw [get_insert]
  split_ifs with same
  · rw [same, registered]
    exact .shrunk shrinks
  · exact refl _

section

variable (shrinks : ∀ reg : GrantRegistry, reg.Shrinks (change reg))

include shrinks

theorem of_map (entry : Option GrantRegistry) : RegistryShrinks entry (entry.map change) := by
  cases entry with
  | none => exact .absent
  | some reg => exact .shrunk (shrinks reg)

theorem of_modify (grants : Table ProfileId GrantRegistry) (profileId other : ProfileId) :
    RegistryShrinks (grants.get other) ((grants.modify profileId change).get other) := by
  rw [get_modify]
  split_ifs
  · exact of_map shrinks _
  · exact refl _

end

theorem of_terminateRequest (runtime : PolicyRuntime) (req : PendingPrincipalRequest)
    (profileId : ProfileId) :
    RegistryShrinks (runtime.grants.get profileId)
      ((runtime.terminateRequest req).grants.get profileId) := by
  rw [terminateRequest]
  cases req.grantRequestId with
  | none => exact refl _
  | some requestId => exact of_modify (fun reg => .of_terminateRequest reg requestId) _ _ _

theorem of_terminateAll (requests : List PendingPrincipalRequest) (profileId : ProfileId) :
    ∀ runtime : PolicyRuntime, RegistryShrinks (runtime.grants.get profileId)
      ((requests.foldl terminateRequest runtime).grants.get profileId) := by
  induction requests with
  | nil =>
    intro runtime
    exact refl _
  | cons req rest ih =>
    intro runtime
    exact (of_terminateRequest runtime req profileId).trans (ih _)

theorem of_pendingEnded (ended : runtime.PendingEnded state after) (profileId : ProfileId) :
    RegistryShrinks (runtime.grants.get profileId) (after.grants.get profileId) := by
  cases ended with
  | unchanged => exact refl _
  | ended => exact of_terminateRequest _ _ _

theorem of_invalidateCeremony
    (shrinks : RegistryShrinks entry (runtime.grants.get profileId)) (ceremonyId : CeremonyId) :
    RegistryShrinks entry ((runtime.invalidateCeremony ceremonyId).grants.get profileId) := by
  apply shrinks.trans
  rw [invalidateCeremony]
  cases runtime.pending.get ceremonyId with
  | none => exact refl _
  | some auth =>
    simp only []
    cases auth.grantId with
    | none => exact refl _
    | some =>
      exact of_modify (fun reg => .of_claims reg _ reg.lastSeenMono) _ _ _

theorem of_consumeOutcome {handle : AuthorizationHandle}
    {result : Except ReasonCode IntentConsumeInfo}
    (outcome : runtime.ConsumeOutcome handle result after) (profileId : ProfileId) :
    RegistryShrinks (runtime.grants.get profileId) (after.grants.get profileId) := by
  cases outcome with
  | closed | unchanged => exact refl _
  | invalidated | partialClaim =>
    apply of_invalidateCeremony
    exact refl _
  | taken consumable named found claimed claim =>
    apply of_invalidateCeremony
    cases claim with
    | unneeded => exact refl _
    | @taken grantId reg claim grant registered =>
      exact of_insert registered (.of_claims reg _ reg.lastSeenMono) _

theorem of_boundAuthorized
    (authorized : PolicyRuntime.BoundAuthorized env runtime bound req fresh result after)
    (profileId : ProfileId) :
    RegistryShrinks (runtime.grants.get profileId) (after.grants.get profileId) := by
  have shrinks : ∀ {reg claimed : GrantRegistry} {grantId : GrantId} {answer},
      reg.claimForAuthorize runtime.clockSecs grantId bound.sessionId
        (claimIntentOf env bound) fresh = (answer, claimed) ->
        reg.Shrinks claimed := by
    intro reg claimed grantId answer claim
    have spec := reg.claimForAuthorize_spec runtime.clockSecs grantId bound.sessionId
      (claimIntentOf env bound) fresh
    rw [claim] at spec
    cases spec with
    | refused shrinks => exact shrinks
    | made shrinks => exact shrinks
  cases authorized with
  | refused | unclaimed | opened => exact refl _
  | grantRefused swept named registered claim => exact of_insert registered (shrinks claim) _
  | openedWithGrant checks claimable named registered claim =>
    exact of_insert registered (shrinks claim) _

end RegistryShrinks

inductive RegistryEffect (event : Event) : GrantRegistry -> GrantRegistry -> Prop
  | shrinks {after : GrantRegistry} (shrinks : before.Shrinks after) :
      RegistryEffect event before after
  | requested {id : GrantRequestId} {req : GrantRequest}
      (drawn : id.fresh ∈ event.operation.drawn) (isOpen : GrantRegistry.IsOpenRequest req) :
      RegistryEffect event before { before with
        lastSeenMono := now
        pendingRequests := before.pendingRequests.insert id req }
  | approved {id : GrantRequestId} {req : GrantRequest}
      (drawn : grantId.fresh ∈ event.operation.drawn)
      (checks : before.approvable id = .ok (req, rpIds, credentials)) :
      RegistryEffect event before
        (before.afterApproval event.before.clockSecs id grantId req rpIds credentials)

namespace RegistryEffect

variable {event : Event} {reg after : GrantRegistry}

theorem of_requested {now : Nat} {fresh : GrantRequestId}
    {result : Except GrantError GrantRequestId}
    (requested : reg.Requested now params fresh result after)
    (drawn : fresh.fresh ∈ event.operation.drawn) : RegistryEffect event reg after := by
  cases requested with
  | refused shrinks => exact .shrinks shrinks
  | stored isOpen => exact .requested drawn isOpen

theorem of_approved {id : GrantRequestId} {fresh : GrantId} {result : Except GrantError GrantId}
    (approved : reg.Approved event.before.clockSecs id fresh result after)
    (drawn : fresh.fresh ∈ event.operation.drawn) : RegistryEffect event reg after := by
  cases approved with
  | late late shrinks => exact .shrinks shrinks
  | refused order checks shrinks => exact .shrinks shrinks
  | issued order checks => exact .approved drawn checks

end RegistryEffect

/-- The moves of the registry of one profile. -/
inductive GrantsEffect (event : Event) (profileId : ProfileId) :
    Option GrantRegistry -> Option GrantRegistry -> Prop
  | absent : GrantsEffect event profileId none none
  | changed {after : GrantRegistry} (effect : RegistryEffect event before after) :
      GrantsEffect event profileId (some before) (some after)
  | renewed {after : Option GrantRegistry}
      (registries : after = (registriesFor event.after.current).get profileId)
      (invalidates : ∀ id auth, event.after.pending.get id = some auth ->
        auth.invalidated = true) :
      GrantsEffect event profileId before after

namespace GrantsEffect

variable {event : Event} {profileId : ProfileId}

theorem of_shrinks {before after : Option GrantRegistry} (shrinks : RegistryShrinks before after) :
    GrantsEffect event profileId before after := by
  cases shrinks with
  | absent => exact .absent
  | shrunk shrinks => exact .changed (.shrinks shrinks)

theorem refl (entry : Option GrantRegistry) : GrantsEffect event profileId entry entry :=
  .of_shrinks (.refl entry)

variable {named : ProfileId} {fresh : GrantId} {freshPending : PendingRequestId}
  {freshIntent : IntentId} {env : Env}

theorem of_insert {reg after : GrantRegistry} (registered : grants.get named = some reg)
    (effect : RegistryEffect event reg after) :
    GrantsEffect event profileId (grants.get profileId) ((grants.insert named after).get profileId) := by
  rw [get_insert]
  split_ifs with same
  · rw [same, registered]
    exact .changed effect
  · exact refl _

/-- The move of a registry from the start of the event to a later runtime. -/
def Moves (event : Event) (profileId : ProfileId) (after : PolicyRuntime) : Prop :=
  GrantsEffect event profileId (event.before.grants.get profileId) (after.grants.get profileId)

theorem of_requestGrant {fresh : GrantRequestId} (drawn : fresh.fresh ∈ event.operation.drawn) :
    Moves event profileId (event.before.adminRequestGrantInner params allowEmptyCredentials fresh).2 := by
  rw [adminRequestGrantInner]
  cases registered : event.before.grants.get params.profileId with
  | none => exact refl _
  | some reg =>
    exact of_insert registered (.of_requested (reg.requestGrantInner_spec _ _ _ _) drawn)

/-- Registries that refuse the request shrink, and at most one issues a grant. -/
theorem of_approveGrant (drawn : fresh.fresh ∈ event.operation.drawn) :
    Moves event profileId (event.before.adminApproveGrant requestId fresh).2 := by
  have effect : ∀ reg : GrantRegistry, RegistryEffect event reg
      (reg.approveGrant event.before.clockSecs requestId fresh).2 := fun reg =>
    .of_approved (reg.approveGrant_spec _ _ _) drawn
  have tried := tryEach_spec (fun reg : GrantRegistry =>
    ((reg.approveGrant event.before.clockSecs requestId fresh).1.toOption,
      (reg.approveGrant event.before.clockSecs requestId fresh).2)) event.before.grants
  rw [Moves, adminApproveGrant]
  generalize (tryEach _ event.before.grants).1 = result at tried
  cases tried with
  | failed all changed =>
    rw [changed profileId]
    cases event.before.grants.get profileId with
    | none => exact .absent
    | some reg => exact .changed (effect reg)
  | @succeeded _ _ key reg found success changed others =>
    by_cases same : profileId = key
    · rw [same, found, changed]
      exact .changed (effect reg)
    · rcases others profileId same with unchanged | ⟨other, otherFound, -, otherChanged⟩
      · rw [unchanged]
        exact refl _
      · rw [otherFound, otherChanged]
        exact .changed (effect other)

theorem of_revokeGrant :
    Moves event profileId (event.before.adminRevokeGrant grantId).2 := by
  rw [adminRevokeGrant]
  cases search : event.before.grants.find (fun reg => reg.isGrantActive grantId) with
  | none => exact refl _
  | some entry =>
    rcases entry with ⟨_, reg⟩
    have registered := (find_some search).1
    have shrinks := GrantRegistry.Shrinks.of_revokeGrant reg grantId
    simp only []
    generalize reg.revokeGrant grantId = outcome at shrinks ⊢
    rcases outcome with ⟨result, revoked⟩
    cases result with
    | error error => exact .of_shrinks (.of_insert registered shrinks _)
    | ok state =>
      exact .of_shrinks (.of_insert registered
        (shrinks.trans (.of_claims revoked _ revoked.lastSeenMono)) _)

theorem of_revokeGrantById :
    Moves event profileId (event.before.revokeGrantById grantId).2 := by
  rw [revokeGrantById]
  cases search : event.before.grants.find (fun reg => (reg.grants.get grantId).isSome) with
  | none => exact refl _
  | some entry =>
    rcases entry with ⟨_, reg⟩
    exact .of_shrinks (.of_insert (find_some search).1 (.of_revokeGrant reg grantId) _)

theorem of_resolveGrantForSign :
    Moves event profileId (event.before.resolveGrantForSign named grantId).2 := by
  rw [resolveGrantForSign]
  cases registered : event.before.grants.get named with
  | none => exact refl _
  | some reg =>
    exact .of_shrinks (.of_insert registered (.of_checkExpired reg _) _)

theorem of_delegatedCreated {intentParams : CreateIntentParams} {grantParams : GrantRequestParams}
    {freshGrantRequest : GrantRequestId}
    {result : Except PendingCreateError (PendingRequestId × GrantRequestId)}
    (created : event.before.DelegatedCreated intentParams grantParams freshIntent freshGrantRequest
      freshPending result after) (drawn : freshGrantRequest.fresh ∈ event.operation.drawn) :
    Moves event profileId after := by
  have requested : ∀ {reg after : GrantRegistry} {answer},
      reg.requestGrant event.before.clockSecs grantParams freshGrantRequest = (answer, after) ->
        RegistryEffect event reg after := by
    intro reg after answer attempt
    have spec := reg.requestGrantInner_spec event.before.clockSecs grantParams false
      freshGrantRequest
    rw [GrantRegistry.requestGrant] at attempt
    rw [attempt] at spec
    exact .of_requested spec drawn
  cases created with
  | intentFailed | unregistered => exact refl _
  | grantRefused created registered attempt => exact of_insert registered (requested attempt)
  | created created registered attempt => exact of_insert registered (requested attempt)

theorem of_resolved {tuple : CeremonyTuple}
    {result : Except CeremonyResolveError BoundApprovalResult}
    (resolved : PolicyRuntime.Resolved env event.before tuple fresh result after)
    (drawn : fresh.fresh ∈ event.operation.drawn) :
    Moves event profileId after := by
  have granted : ∀ {middle after : PolicyRuntime} {req answer},
      middle.GrantResolved req fresh answer after ->
      middle.grants = event.before.grants -> middle.clockSecs = event.before.clockSecs ->
        Moves event profileId after := by
    intro middle after req answer grant sameGrants sameClock
    have effect : ∀ {reg changed : GrantRegistry} {requestId answer},
        reg.approveGrant middle.clockSecs requestId fresh = (answer, changed) ->
          RegistryEffect event reg changed := by
      intro reg changed requestId answer attempt
      have spec := reg.approveGrant_spec middle.clockSecs requestId fresh
      rw [attempt, sameClock] at spec
      exact .of_approved spec drawn
    rw [Moves, <- sameGrants]
    cases grant with
    | refused kind named registered unresolved attempt => exact of_insert registered (effect attempt)
    | approved kind named registered unresolved attempt =>
      exact of_insert registered (effect attempt)
    | _ => exact refl _
  cases resolved with
  | unmatched | refused | closed | intentRefused => exact refl _
  | grantFailed selected checks approval grant => exact granted grant rfl rfl
  | resolved selected checks approval grant =>
    have effect := granted grant rfl rfl
    exact effect

theorem of_pendingCreated {params : CreateIntentParams}
    {result : Except PendingCreateError PendingRequestId}
    (created : event.before.PendingCreated params freshIntent freshPending result after) :
    Moves event profileId after := by
  cases created <;> exact refl _

theorem of_authorized {fresh : CeremonyId}
    (authorized : PolicyRuntime.Authorized env event.before req fresh result after) :
    Moves event profileId after := by
  cases authorized <;> exact refl _

theorem of_principalExit (sessionId : PrincipalSessionId) :
    Moves event profileId (event.before.principalExit sessionId) := by
  rw [Moves, principalExit, get_mapValues]
  apply of_shrinks
  apply RegistryShrinks.of_map
  intro reg
  exact (GrantRegistry.Shrinks.of_onPrincipalExit reg sessionId).trans (.of_claims _ _ _)

theorem of_reloaded {config : AgentConfig} {fresh : PolicyGenerationId}
    {result : Except PolicyRuntimeError PolicyDigest}
    (reloaded : PolicyRuntime.Reloaded env event.before config fresh result after)
    (finished : event.after = after) :
    Moves event profileId after := by
  cases reloaded with
  | failed => exact refl _
  | compiled compiled =>
    refine .renewed ?_ ?_
    · rw [finished]
      rfl
    · intro id auth found
      rw [finished, reloaded, get_mapValues] at found
      rcases Option.map_eq_some_iff.mp found with ⟨_, -, rfl⟩
      rfl

end GrantsEffect

/-- Every operation is one move of every registry. -/
theorem exec_grantsEffect {event : Event}
    (executed : event.before.exec env event.operation = (event.answer, event.after))
    (profileId : ProfileId) :
    GrantsEffect event profileId (event.before.grants.get profileId)
      (event.after.grants.get profileId) := by
  rcases event with ⟨before, op, _, _⟩
  simp only [] at executed
  rcases Prod.ext_iff.mp executed with ⟨rfl, rfl⟩
  cases op with
  | adminRequestGrant | adminRequestDynamicGrant => exact .of_requestGrant List.mem_cons_self
  | adminApproveGrant => exact .of_approveGrant List.mem_cons_self
  | adminRevokeGrant => exact .of_revokeGrant
  | revokeGrantById => exact .of_revokeGrantById
  | resolveGrantForSign => exact .of_resolveGrantForSign
  | consumeRegistrationGrant named grantId =>
    rcases before.consumeRegistrationGrant_frame named grantId with ⟨_, same⟩
    change GrantsEffect _ _ _ ((before.consumeRegistrationGrant named grantId).2.grants.get _)
    rw [same]
    exact .refl _
  | principalCreatePendingIntent =>
    exact .of_pendingCreated (principalCreatePendingIntent_spec _ _ _ _)
  | principalCreatePendingDelegated =>
    exact .of_delegatedCreated (principalCreatePendingDelegated_spec _ _ _ _ _ _)
      (List.mem_cons_of_mem _ List.mem_cons_self)
  | principalCancelPending =>
    exact .of_shrinks (.of_pendingEnded (principalCancelPending_spec _ _ _) _)
  | ceremonyResolvePending =>
    exact .of_resolved (ceremonyResolvePending_spec _ _ _ _) List.mem_cons_self
  | ceremonyDenyPending =>
    exact .of_shrinks (.of_pendingEnded (ceremonyDenyPending_spec _ _) _)
  | cleanupExpiredPending | cancelPendingForSession =>
    exact .of_shrinks (.of_terminateAll _ _ _)
  | authorize => exact .of_authorized (authorize_spec _ _ _ _)
  | authorizeBound =>
    exact .of_shrinks (.of_boundAuthorized (authorizeBound_spec _ _ _ _ _) _)
  | consumeAuthorization =>
    exact .of_shrinks (.of_consumeOutcome (consumeAuthorization_spec _ _) _)
  | principalExit sessionId => exact .of_principalExit sessionId
  | reload => exact .of_reloaded (reload_spec _ _ _ _) rfl
  | _ => exact .refl _

end ControlVault.Engine
