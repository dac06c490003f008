import ControlVault.Engine.Runtime
import ControlVault.Foundation.Run

namespace ControlVault.Engine

open Foundation Core

/-!
# Runs of the policy runtime

An operation is one call of the public interface or one movement of a clock.
Before a call the hash maps may be traversed in another order, so a step first
reorders the tables of the state and then executes the operation.  A run is any
sequence of steps; nothing restricts which operations follow each other, and
callers may pass any handle and any approval result, also invented ones.

The identifiers that a call would draw are part of the operation.  That random
identifiers do not repeat is the assumption `Fresh` about a run.
-/

inductive Operation
  | adminCreateIntent (params : CreateIntentParams) (fresh : IntentId)
  | adminApproveIntent (intentId : IntentId)
  | adminDenyIntent (intentId : IntentId)
  | principalCancelIntent (intentId : IntentId) (profileId : ProfileId)
      (sessionId : PrincipalSessionId)
  | adminRequestGrant (params : GrantRequestParams) (fresh : GrantRequestId)
  | adminRequestDynamicGrant (params : GrantRequestParams) (fresh : GrantRequestId)
  | adminApproveGrant (requestId : GrantRequestId) (fresh : GrantId)
  | adminRevokeGrant (grantId : GrantId)
  | revokeGrantById (grantId : GrantId)
  | resolveGrantForSign (profileId : ProfileId) (grantId : GrantId)
  | requestRegistrationGrant (profileId : ProfileId) (rpId : Text) (ttlSecs : Nat)
      (sessionId : PrincipalSessionId) (endpointId : EndpointId) (fresh : RegistrationGrantId)
  | consumeRegistrationGrant (profileId : ProfileId) (grantId : RegistrationGrantId)
  | principalCreatePendingIntent (params : CreateIntentParams) (freshIntent : IntentId)
      (freshPending : PendingRequestId)
  | principalCreatePendingDelegated (intentParams : CreateIntentParams)
      (grantParams : GrantRequestParams) (freshIntent : IntentId)
      (freshGrantRequest : GrantRequestId) (freshPending : PendingRequestId)
  | principalCancelPending (id : PendingRequestId) (sessionId : PrincipalSessionId)
  | ceremonyResolvePending (tuple : CeremonyTuple) (fresh : GrantId)
  | ceremonyDenyPending (tuple : CeremonyTuple)
  | cleanupExpiredPending
  | cancelPendingForSession (sessionId : PrincipalSessionId)
  | authorize (req : AuthorizationRequest) (fresh : CeremonyId)
  | authorizeBound (bound : BoundApprovalResult) (req : AuthorizationRequest) (fresh : CeremonyId)
  | consumeAuthorization (handle : AuthorizationHandle)
  | principalExit (sessionId : PrincipalSessionId)
  | reload (config : AgentConfig) (fresh : PolicyGenerationId)
  /-- Both clocks move forward, each by its own amount. -/
  | tick (millis secs : Nat)
  /-- The clock of the grant registries jumps back. -/
  | clockRegression (secs : Nat)

inductive Answer
  | intentCreated (result : Except IntentError IntentId)
  | intentSettled (result : Except IntentError Unit)
  | grantRequested (result : Except GrantError GrantRequestId)
  | grantApproved (result : Except GrantError GrantId)
  | grantRevoked (result : Except GrantError GrantState)
  | grantShown (grant : Option Grant)
  | registrationGranted (result : Except GrantError RegistrationGrantId)
  | registrationConsumed (result : Except GrantError Unit)
  | pendingCreated (result : Except PendingCreateError PendingRequestId)
  | delegatedCreated (result : Except PendingCreateError (PendingRequestId × GrantRequestId))
  | pendingCancelled (result : Except PendingCancelError Unit)
  | pendingResolved (result : Except CeremonyResolveError BoundApprovalResult)
  | pendingDenied (result : Except CeremonyResolveError Unit)
  | pendingCleaned (expired : List PendingRequestId)
  | authorized (decision : Decision) (handle : Option AuthorizationHandle)
  | consumed (result : Except ReasonCode IntentConsumeInfo)
  | reloaded (result : Except PolicyRuntimeError PolicyDigest)
  | done
  deriving DecidableEq

namespace PolicyRuntime

/-- Execute one operation. -/
def exec (env : Env) (runtime : PolicyRuntime) : Operation -> Answer × PolicyRuntime
  | .adminCreateIntent params fresh =>
    (runtime.adminCreateIntent params fresh).map .intentCreated id
  | .adminApproveIntent intentId => (runtime.adminApproveIntent intentId).map .intentSettled id
  | .adminDenyIntent intentId => (runtime.adminDenyIntent intentId).map .intentSettled id
  | .principalCancelIntent intentId profileId sessionId =>
    (runtime.principalCancelIntent intentId profileId sessionId).map .intentSettled id
  | .adminRequestGrant params fresh =>
    (runtime.adminRequestGrant params fresh).map .grantRequested id
  | .adminRequestDynamicGrant params fresh =>
    (runtime.adminRequestDynamicGrant params fresh).map .grantRequested id
  | .adminApproveGrant requestId fresh =>
    (runtime.adminApproveGrant requestId fresh).map .grantApproved id
  | .adminRevokeGrant grantId => (runtime.adminRevokeGrant grantId).map .grantRevoked id
  | .revokeGrantById grantId => (runtime.revokeGrantById grantId).map .grantRevoked id
  | .resolveGrantForSign profileId grantId =>
    (runtime.resolveGrantForSign profileId grantId).map .grantShown id
  | .requestRegistrationGrant profileId rpId ttlSecs sessionId endpointId fresh =>
    (runtime.requestRegistrationGrant profileId rpId ttlSecs sessionId endpointId fresh).map
      .registrationGranted id
  | .consumeRegistrationGrant profileId grantId =>
    (runtime.consumeRegistrationGrant profileId grantId).map .registrationConsumed id
  | .principalCreatePendingIntent params freshIntent freshPending =>
    (runtime.principalCreatePendingIntent params freshIntent freshPending).map .pendingCreated id
  | .principalCreatePendingDelegated intentParams grantParams freshIntent freshGrantRequest
      freshPending =>
      (runtime.principalCreatePendingDelegated intentParams grantParams freshIntent
        freshGrantRequest freshPending).map .delegatedCreated id
  | .principalCancelPending pendingId sessionId =>
    (runtime.principalCancelPending pendingId sessionId).map .pendingCancelled id
  | .ceremonyResolvePending tuple fresh =>
    (runtime.ceremonyResolvePending env tuple fresh).map .pendingResolved id
  | .ceremonyDenyPending tuple => (runtime.ceremonyDenyPending tuple).map .pendingDenied id
  | .cleanupExpiredPending => runtime.cleanupExpiredPending.map .pendingCleaned id
  | .cancelPendingForSession sessionId => (.done, runtime.cancelPendingForSession sessionId)
  | .authorize req fresh =>
    (runtime.authorize env req fresh).map (fun result => .authorized result.1 result.2) id
  | .authorizeBound bound req fresh =>
    (runtime.authorizeBound env bound req fresh).map
      (fun result => .authorized result.1 result.2) id
  | .consumeAuthorization handle => (runtime.consumeAuthorization handle).map .consumed id
  | .principalExit sessionId => (.done, runtime.principalExit sessionId)
  | .reload config fresh => (runtime.reload env config fresh).map .reloaded id
  | .tick millis secs =>
    (.done, { runtime with
      clockMillis := runtime.clockMillis + millis
      clockSecs := runtime.clockSecs + secs })
  | .clockRegression secs => (.done, { runtime with clockSecs := runtime.clockSecs - secs })

/-- The same state with its hash maps traversed in another order. -/
structure Reordered (first second : PolicyRuntime) : Prop where
  current : first.current = second.current
  maxIntents : first.intents.maxIntents = second.intents.maxIntents
  intents : Table.Reordered first.intents.intents second.intents.intents
  grants : Table.Reordered first.grants second.grants
  registrationGrants : Table.Reordered first.registrationGrants second.registrationGrants
  pending : Table.Reordered first.pending second.pending
  pendingRequests : Table.Reordered first.pendingRequests second.pendingRequests
  clockSecs : first.clockSecs = second.clockSecs
  clockMillis : first.clockMillis = second.clockMillis

theorem Reordered.refl (runtime : PolicyRuntime) : Reordered runtime runtime :=
  ⟨rfl, rfl, .refl _, .refl _, .refl _, .refl _, .refl _, rfl, rfl⟩

namespace Reordered

variable {first second : PolicyRuntime} (reordered : Reordered first second)

include reordered

theorem get_intents : first.intents.get = second.intents.get :=
  funext reordered.intents.get_eq

theorem get_grants : first.grants.get = second.grants.get :=
  funext reordered.grants.get_eq

theorem get_pending : first.pending.get = second.pending.get :=
  funext reordered.pending.get_eq

theorem get_pendingRequests : first.pendingRequests.get = second.pendingRequests.get :=
  funext reordered.pendingRequests.get_eq

end Reordered

end PolicyRuntime

/-- The identifiers that a call of the operation may draw. -/
def Operation.drawn : Operation -> List FreshId
  | adminCreateIntent _ fresh => [fresh.fresh]
  | adminRequestGrant _ fresh => [fresh.fresh]
  | adminRequestDynamicGrant _ fresh => [fresh.fresh]
  | adminApproveGrant _ fresh => [fresh.fresh]
  | requestRegistrationGrant _ _ _ sessionId endpointId fresh =>
    [sessionId.fresh, endpointId.fresh, fresh.fresh]
  | principalCreatePendingIntent _ freshIntent freshPending => [freshIntent.fresh, freshPending.fresh]
  | principalCreatePendingDelegated _ _ freshIntent freshGrantRequest freshPending =>
    [freshIntent.fresh, freshGrantRequest.fresh, freshPending.fresh]
  | ceremonyResolvePending _ fresh => [fresh.fresh]
  | authorize _ fresh => [fresh.fresh]
  | authorizeBound _ _ fresh => [fresh.fresh]
  | reload _ fresh => [fresh.fresh]
  | _ => []

/-- One call in a run: the state it found, what was asked, the answer and the state it left. -/
structure Event where
  before : PolicyRuntime
  operation : Operation
  answer : Answer
  after : PolicyRuntime

structure Step (env : Env) (start : PolicyRuntime) (event : Event)
    (finish : PolicyRuntime) : Prop where
  reordered : start.Reordered event.before
  executed : event.before.exec env event.operation = (event.answer, event.after)
  finished : event.after = finish

/-- Runs of the runtime, with their events oldest first. -/
abbrev Executes (env : Env) :=
  Run (Step env)

/-- No identifier is drawn twice, the one of the first generation included. -/
def Fresh (start : PolicyRuntime) (events : List Event) : Prop :=
  (start.current.generationId.fresh :: events.flatMap (fun event => event.operation.drawn)).Nodup

/-- A run from the start of the daemon with some configuration. -/
structure Started (env : Env) (start : PolicyRuntime) (events : List Event)
    (finish : PolicyRuntime) : Prop where
  initial : ∃ config clockSecs clockMillis fresh,
    PolicyRuntime.new env config clockSecs clockMillis fresh = .ok start
  run : Executes env start events finish
  fresh : Fresh start events

end ControlVault.Engine
