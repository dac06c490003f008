import ControlVault.Engine.Grant
import ControlVault.Engine.Snapshot

namespace ControlVault.Engine

open Foundation Core

/-!
# The policy runtime

The runtime joins the current policy generation, the intent store, one grant
registry for each profile, the pending authorizations that wait for their
ceremony to finish and the pending requests that wait for the user.  Each
public operation is one function below; it takes the identifiers that the call
would draw from the random generator, and returns its result together with the
state it leaves, also when it fails.

Two clocks are read: the intent store counts milliseconds, everything else
seconds.
-/

/-! ## Decisions -/

inductive Outcome
  | allow
  | deny
  deriving DecidableEq

inductive ReasonCode
  | profileNotFound
  | actionNotAllowed
  | rpIdNotExactMatch
  | credentialNotExactMatch
  | intentConsumed
  | intentNotFound
  | uvRequired
  | allowed
  | emptyRpList
  | suffixNotExact
  | intentNotApproved
  | sessionMismatch
  | generationStale
  | grantRevoked
  | ceremonyInvalidated
  | partialClaimFailed
  | delegatedRegistrationDenied
  deriving DecidableEq

inductive OperatorAction
  | none
  | retry
  | contactAdmin
  | reloadPolicy
  | verifyUser
  deriving DecidableEq

structure Decision where
  outcome : Outcome
  reason : ReasonCode
  operatorAction : OperatorAction
  deriving DecidableEq

def Decision.allow (reason : ReasonCode) : Decision := ⟨.allow, reason, .none⟩

def Decision.deny (reason : ReasonCode) (action : OperatorAction) : Decision :=
  ⟨.deny, reason, action⟩

/-! ## Stored records -/

/-- What a ceremony was authorized for, and by which intent and grant. -/
structure Authorization extends CeremonyTuple where
  grantId : Option GrantId
  intentId : Option IntentId
  deriving DecidableEq

structure AuthorizationHandle extends Authorization where
  ceremonyId : CeremonyId
  deriving DecidableEq

/-- The runtime's own copy of a handle.  Its ceremony is its key. -/
structure PendingAuthorization extends Authorization where
  invalidated : Bool

structure AuthorizationRequest extends CeremonyTuple where
  uvEnforced : Bool

inductive PendingRequestKind
  | isolatedIntent
  | delegatedAuth
  deriving DecidableEq

inductive PendingState
  | waiting
  | approved
  | denied
  | timedOut
  | cancelled
  deriving DecidableEq

/-- A principal's request that waits for the user.  Its identifier is its key. -/
structure PendingPrincipalRequest extends CeremonyTuple where
  kind : PendingRequestKind
  intentId : IntentId
  grantRequestId : Option GrantRequestId
  state : PendingState
  (createdAtMono deadlineMono : Nat)

def PendingPrincipalRequest.matchesTuple (req : PendingPrincipalRequest) (tuple : CeremonyTuple) :
    Bool :=
  req.toCeremonyTuple = tuple.normalized

/-- Close a request that still waits, with the given state. -/
def PendingPrincipalRequest.close (req : PendingPrincipalRequest) (target : PendingState) :
    PendingPrincipalRequest :=
  if req.state = .waiting then { req with state := target } else req

/-- The result of a user's approval, the only way to `authorizeBound`. -/
structure BoundApprovalResult extends CeremonyTuple where
  intentId : IntentId
  grantId : Option GrantId
  deriving DecidableEq

inductive PendingCreateError
  | intentCreationFailed (error : IntentError)
  | grantRequestFailed (error : GrantError)
  deriving DecidableEq

inductive CeremonyResolveError
  | pendingNotFound
  | ambiguousPending (count : Nat)
  | timedOut
  | policyDenied (reason : ReasonCode)
  | intentApprovalFailed (message : Text)
  | grantFailed (message : Text)
  deriving DecidableEq

inductive PendingCancelError
  | notFound
  | alreadyResolved
  | sessionMismatch
  deriving DecidableEq

structure PolicyRuntime where
  current : PolicyGenerationSnapshot
  intents : IntentStore
  grants : Table ProfileId GrantRegistry
  registrationGrants : Table ProfileId RegistrationGrantRegistry
  pending : Table CeremonyId PendingAuthorization
  pendingRequests : Table PendingRequestId PendingPrincipalRequest
  (clockSecs clockMillis : Nat)

namespace PolicyRuntime

/-! ## Start and reload -/

/-- One empty registry for each profile of a generation. -/
def registriesFor (gen : PolicyGenerationSnapshot) : Table ProfileId GrantRegistry :=
  gen.snapshots.foldl
    (fun registries snap =>
      registries.insert snap.profileId
        (.new gen.generationId snap.digest snap.maxGrantTtlSecs
          snap.allowedActions snap.maxConcurrentGrants))
    .empty

variable (env : Env)

def new (config : AgentConfig) (clockSecs clockMillis : Nat) (fresh : PolicyGenerationId) :
    Except PolicyRuntimeError PolicyRuntime :=
  match compileGeneration env config clockSecs fresh with
  | .error error => .error error
  | .ok gen =>
    .ok
      { current := gen
        intents := .withDefaults
        grants := registriesFor gen
        registrationGrants := .empty
        pending := .empty
        pendingRequests := .empty
        clockSecs
        clockMillis }

/-- Go over to a compiled generation; what was authorized under the old one is void. -/
def reloaded (runtime : PolicyRuntime) (gen : PolicyGenerationSnapshot) : PolicyRuntime :=
  { runtime with
    current := gen
    intents := runtime.intents.invalidateAll
    grants := registriesFor gen
    pending := runtime.pending.mapValues (fun _ auth => { auth with invalidated := true })
    pendingRequests := runtime.pendingRequests.mapValues (fun _ req => req.close .cancelled) }

def reload (runtime : PolicyRuntime) (config : AgentConfig) (fresh : PolicyGenerationId) :
    Except PolicyRuntimeError PolicyDigest × PolicyRuntime :=
  match compileGeneration env config runtime.clockSecs fresh with
  | .error error => (.error error, runtime)
  | .ok gen => (.ok gen.digest, runtime.reloaded gen)

/-! ## Authorization on the strength of an approved intent -/

/-- The policy part of `authorize`: a snapshot, or the decision to deny. -/
def authorizeChecks (runtime : PolicyRuntime) (req : AuthorizationRequest) :
    Except Decision PolicySnapshot :=
  if req.policyGeneration ≠ runtime.current.generationId ∨
      req.policyDigest ≠ runtime.current.digest then
    .error (.deny .generationStale .reloadPolicy)
  else
    match runtime.current.findSnapshot req.profileId with
    | none => .error (.deny .profileNotFound .contactAdmin)
    | some snap =>
      if snap.normalizedRpIds.isEmpty then .error (.deny .emptyRpList .contactAdmin)
      else if !snap.isRpExactMatch env req.rpId then
        if snap.isSuffixOnly env req.rpId then .error (.deny .suffixNotExact .retry)
        else .error (.deny .rpIdNotExactMatch .retry)
      else
        match snap.ceremonyPolicy env req.rpId req.action with
        | none => .error (.deny .actionNotAllowed .none)
        | some policy =>
          if policy.authorization = .deny then .error (.deny .actionNotAllowed .none)
          else if !snap.credentialListed req.credentialRef then
            .error (.deny .credentialNotExactMatch .retry)
          else if !snap.actionAllowed req.action then
            .error (.deny .actionNotAllowed .none)
          else .ok snap

variable (runtime : PolicyRuntime)

/-- Store a pending authorization and hand out its handle. -/
def openCeremony (auth : Authorization) (ceremonyId : CeremonyId) :
    (Decision × Option AuthorizationHandle) × PolicyRuntime :=
  ((.allow .allowed, some ⟨auth, ceremonyId⟩),
    { runtime with
      pending := runtime.pending.insert ceremonyId ⟨auth, false⟩ })

/-- The request's tuple under the profile name of the snapshot that was found. -/
def authorizedTuple (snap : PolicySnapshot) (req : AuthorizationRequest) : CeremonyTuple :=
  { req.toCeremonyTuple with profileId := snap.profileId }

def authorizeIsolated (snap : PolicySnapshot) (req : AuthorizationRequest)
    (fresh : CeremonyId) :
    (Decision × Option AuthorizationHandle) × PolicyRuntime :=
  match runtime.intents.claimApproved runtime.clockMillis (authorizedTuple snap req) with
  | (.error .notFound, intents) =>
    ((.deny .intentNotFound .retry, none), { runtime with intents })
  | (.error _, intents) =>
    ((.deny .intentNotApproved .retry, none), { runtime with intents })
  | (.ok intentId, intents) =>
    if snap.requireUv && !req.uvEnforced then
      ((.deny .uvRequired .verifyUser, none),
        { runtime with intents := (intents.rollbackClaim intentId).2 })
    else
      openCeremony { runtime with intents }
        { toCeremonyTuple := authorizedTuple snap req
          grantId := none
          intentId := some intentId } fresh

/-- `authorize`, with the ceremony that a successful call generates. -/
def authorize (runtime : PolicyRuntime) (req : AuthorizationRequest) (fresh : CeremonyId) :
    (Decision × Option AuthorizationHandle) × PolicyRuntime :=
  match runtime.authorizeChecks env req with
  | .error decision => ((decision, none), runtime)
  | .ok snap => runtime.authorizeIsolated snap req fresh

/-! ## Consuming an authorization -/

/-- Mark a ceremony as used up, give its claimed intent back and drop its grant claim. -/
def invalidateCeremony (ceremonyId : CeremonyId) : PolicyRuntime :=
  match runtime.pending.get ceremonyId with
  | none => runtime
  | some auth =>
    { runtime with
      pending := runtime.pending.insert ceremonyId { auth with invalidated := true }
      intents :=
        match auth.intentId with
        | none => runtime.intents
        | some intentId => (runtime.intents.rollbackClaim intentId).2
      grants :=
        match auth.grantId with
        | none => runtime.grants
        | some _ =>
          runtime.grants.modify auth.profileId (fun reg =>
            reg.cancelClaim ceremonyId) }

section

variable (handle : AuthorizationHandle)

/-- The state byte and the generation of the handle's grant. -/
def consumeGrantChecks :
    Except ReasonCode Unit :=
  match handle.grantId with
  | none => .ok ()
  | some grantId =>
    match runtime.grants.get handle.profileId with
    | none => .error .profileNotFound
    | some reg =>
      if !reg.isGrantActive grantId then .error .grantRevoked
      else if reg.policyGeneration ≠ handle.policyGeneration then .error .generationStale
      else .ok ()

/-- Consume the handle's claim on its grant, if it has one. -/
def consumeGrantClaim :
    Option PolicyRuntime :=
  match handle.grantId with
  | none => some runtime
  | some _ =>
    match runtime.grants.get handle.profileId with
    | none => none
    | some reg =>
      match reg.consumeClaimByCeremony handle.ceremonyId with
      | (.error _, _) => none
      | (.ok _, consumed) =>
        some { runtime with grants := runtime.grants.insert handle.profileId consumed }

/-- The end of a consumption, once the intent is consumed. -/
def finishConsume (intentId : IntentId) (info : IntentConsumeInfo) :
    Except ReasonCode IntentConsumeInfo × PolicyRuntime :=
  match runtime.consumeGrantClaim handle with
  | none =>
    (.error .partialClaimFailed,
      invalidateCeremony { runtime with intents := (runtime.intents.rollbackClaim intentId).2 }
        handle.ceremonyId)
  | some consumed => (.ok info, consumed.invalidateCeremony handle.ceremonyId)

def consumeAuthorization :
    Except ReasonCode IntentConsumeInfo × PolicyRuntime :=
  match runtime.pending.get handle.ceremonyId with
  | none => (.error .ceremonyInvalidated, runtime)
  | some auth =>
    if auth.invalidated ∨ auth.toAuthorization ≠ handle.toAuthorization then
      (.error .ceremonyInvalidated, runtime)
    else if handle.policyGeneration ≠ runtime.current.generationId ∨
        handle.policyDigest ≠ runtime.current.digest then
      (.error .generationStale, runtime.invalidateCeremony handle.ceremonyId)
    else
      match runtime.consumeGrantChecks handle with
      | .error reason => (.error reason, runtime.invalidateCeremony handle.ceremonyId)
      | .ok () =>
        match handle.intentId with
        | none => (.error .intentNotFound, runtime)
        | some intentId =>
          match runtime.intents.consumeClaimed intentId with
          | (.error .notFound, intents) =>
            (.error .intentNotFound, { runtime with intents })
          | (.error _, intents) =>
            (.error .intentConsumed, { runtime with intents })
          | (.ok info, intents) =>
            finishConsume { runtime with intents } handle intentId info

end

/-! ## Administration -/

def adminApproveIntent (intentId : IntentId) :
    Except IntentError Unit × PolicyRuntime :=
  let result := runtime.intents.approve runtime.clockMillis intentId
  (result.1, { runtime with intents := result.2 })

def adminDenyIntent (intentId : IntentId) :
    Except IntentError Unit × PolicyRuntime :=
  let result := runtime.intents.deny runtime.clockMillis intentId
  (result.1, { runtime with intents := result.2 })

def adminCreateIntent (params : CreateIntentParams) (fresh : IntentId) :
    Except IntentError IntentId × PolicyRuntime :=
  let result := runtime.intents.create runtime.clockMillis params fresh
  (result.1, { runtime with intents := result.2 })

/-- Ask the registry of the profile named in the parameters for a grant. -/
def adminRequestGrantInner (params : GrantRequestParams) (allowEmptyCredentials : Bool)
    (fresh : GrantRequestId) :
    Except GrantError GrantRequestId × PolicyRuntime :=
  match runtime.grants.get params.profileId with
  | none => (.error .profileMismatch, runtime)
  | some reg =>
    let result := reg.requestGrantInner runtime.clockSecs params allowEmptyCredentials fresh
    (result.1, { runtime with grants := runtime.grants.insert params.profileId result.2 })

def adminRequestGrant (params : GrantRequestParams) (fresh : GrantRequestId) :
    Except GrantError GrantRequestId × PolicyRuntime :=
  runtime.adminRequestGrantInner params false fresh

def adminRequestDynamicGrant (params : GrantRequestParams) (fresh : GrantRequestId) :
    Except GrantError GrantRequestId × PolicyRuntime :=
  runtime.adminRequestGrantInner params true fresh

/-- Offer the request to each registry in turn; a registry that refuses has still
checked its clock. -/
def adminApproveGrant (requestId : GrantRequestId) (fresh : GrantId) :
    Except GrantError GrantId × PolicyRuntime :=
  let result := runtime.grants.tryEach (fun reg =>
    let attempt := reg.approveGrant runtime.clockSecs requestId fresh
    (attempt.1.toOption, attempt.2))
  (match result.1 with
    | none => .error (.pendingRequestNotFound requestId)
    | some grantId => .ok grantId,
    { runtime with grants := result.2 })

/-- Revoke an active grant, drop its claims and invalidate its ceremonies. -/
def adminRevokeGrant (grantId : GrantId) :
    Except GrantError GrantState × PolicyRuntime :=
  match runtime.grants.find (fun reg => reg.isGrantActive grantId) with
  | none => (.error (.grantNotFound grantId), runtime)
  | some (profileId, reg) =>
    match reg.revokeGrant grantId with
    | (.error error, revoked) =>
      (.error error, { runtime with grants := runtime.grants.insert profileId revoked })
    | (.ok state, revoked) =>
      (.ok state, { runtime with
        grants := runtime.grants.insert profileId (revoked.cancelClaimsForGrant grantId)
        pending := runtime.pending.mapValues (fun _ auth =>
          if auth.grantId = some grantId then
            { auth with invalidated := true }
          else auth) })

/-- Revoke a grant in the first registry that has it; ceremonies are left alone. -/
def revokeGrantById (grantId : GrantId) :
    Except GrantError GrantState × PolicyRuntime :=
  match runtime.grants.find (fun reg => (reg.grants.get grantId).isSome) with
  | none => (.error (.grantNotFound grantId), runtime)
  | some (profileId, reg) =>
    let result := reg.revokeGrant grantId
    (result.1, { runtime with grants := runtime.grants.insert profileId result.2 })

/-- The grant as the signer sees it, after a sweep of its registry. -/
def resolveGrantForSign (profileId : ProfileId) (grantId : GrantId) :
    Option Grant × PolicyRuntime :=
  match runtime.grants.get profileId with
  | none => (none, runtime)
  | some reg =>
    let swept := reg.checkExpired runtime.clockSecs
    (swept.grants.get grantId, { runtime with grants := runtime.grants.insert profileId swept })

def requestRegistrationGrant (profileId : ProfileId) (rpId : Text) (ttlSecs : Nat)
    (sessionId : PrincipalSessionId) (endpointId : EndpointId) (fresh : RegistrationGrantId) :
    Except GrantError RegistrationGrantId × PolicyRuntime :=
  let reg := (runtime.registrationGrants.get profileId).getD (.new 300)
  let result := reg.requestRegistration runtime.clockSecs profileId sessionId endpointId 0 rpId
    ttlSecs fresh
  (result.1,
    { runtime with registrationGrants := runtime.registrationGrants.insert profileId result.2 })

def consumeRegistrationGrant (profileId : ProfileId) (grantId : RegistrationGrantId) :
    Except GrantError Unit × PolicyRuntime :=
  match runtime.registrationGrants.get profileId with
  | none => (.error (.registrationGrantNotFound grantId), runtime)
  | some reg =>
    let result := reg.revokeRegistration grantId
    (result.1,
      { runtime with registrationGrants := runtime.registrationGrants.insert profileId result.2 })

def principalCancelIntent (intentId : IntentId) (profileId : ProfileId)
    (sessionId : PrincipalSessionId) : Except IntentError Unit × PolicyRuntime :=
  let result := runtime.intents.cancelByPrincipal runtime.clockMillis intentId profileId sessionId
  (result.1, { runtime with intents := result.2 })

def principalExit (sessionId : PrincipalSessionId) : PolicyRuntime :=
  { runtime with
    intents := runtime.intents.cancelBySession sessionId
    grants := runtime.grants.mapValues (fun _ reg =>
      (reg.onPrincipalExit sessionId).cancelClaimsForSession sessionId)
    pending := runtime.pending.mapValues (fun _ auth =>
      if auth.sessionId = sessionId then { auth with invalidated := true }
      else auth)
    pendingRequests := runtime.pendingRequests.mapValues (fun _ req =>
      if req.sessionId = sessionId then req.close .cancelled else req) }

/-! ## Requests that wait for the user -/

/-- The record that waits for the user: its relying party is normalised. -/
def waitingRequest (params : CreateIntentParams) (intentId : IntentId) (kind : PendingRequestKind)
    (grantRequestId : Option GrantRequestId) :
    PendingPrincipalRequest where
  toCeremonyTuple := params.toCeremonyTuple.normalized
  kind
  intentId
  grantRequestId
  state := .waiting
  createdAtMono := runtime.clockSecs
  deadlineMono := saturatingAdd runtime.clockSecs ((params.ttlMs.getD 300000 + 999) / 1000)

def principalCreatePendingIntent (params : CreateIntentParams) (freshIntent : IntentId)
    (freshPending : PendingRequestId) :
    Except PendingCreateError PendingRequestId × PolicyRuntime :=
  match runtime.intents.create runtime.clockMillis params freshIntent with
  | (.error error, intents) =>
    (.error (.intentCreationFailed error), { runtime with intents })
  | (.ok intentId, intents) =>
    (.ok freshPending, { runtime with
      intents
      pendingRequests := runtime.pendingRequests.insert freshPending
        (runtime.waitingRequest params intentId .isolatedIntent none) })

/-- The intent is created first and stays when the grant request fails. -/
def principalCreatePendingDelegated (intentParams : CreateIntentParams)
    (grantParams : GrantRequestParams) (freshIntent : IntentId) (freshGrantRequest : GrantRequestId)
    (freshPending : PendingRequestId) :
    Except PendingCreateError (PendingRequestId × GrantRequestId) × PolicyRuntime :=
  match runtime.intents.create runtime.clockMillis intentParams freshIntent with
  | (.error error, intents) =>
    (.error (.intentCreationFailed error), { runtime with intents })
  | (.ok intentId, intents) =>
    match runtime.grants.get intentParams.profileId with
    | none => (.error (.grantRequestFailed .profileMismatch), { runtime with intents })
    | some reg =>
      match reg.requestGrant runtime.clockSecs grantParams freshGrantRequest with
      | (.error error, requested) =>
        (.error (.grantRequestFailed error), { runtime with
          intents
          grants := runtime.grants.insert intentParams.profileId requested })
      | (.ok grantRequestId, requested) =>
        (.ok (freshPending, grantRequestId), { runtime with
          intents
          grants := runtime.grants.insert intentParams.profileId requested
          pendingRequests := runtime.pendingRequests.insert freshPending
            (runtime.waitingRequest intentParams intentId .delegatedAuth (some grantRequestId)) })

/-- What every way of ending a pending request does to the other stores. -/
def terminateRequest (runtime : PolicyRuntime) (req : PendingPrincipalRequest) : PolicyRuntime :=
  { runtime with
    intents := (runtime.intents.deny runtime.clockMillis req.intentId).2
    grants :=
      match req.grantRequestId with
      | none => runtime.grants
      | some grantRequestId =>
        runtime.grants.modify req.profileId (fun reg =>
          reg.terminateRequest grantRequestId) }

def setPendingState (id : PendingRequestId) (state : PendingState) :
    PolicyRuntime :=
  { runtime with
    pendingRequests := runtime.pendingRequests.modify id (fun req =>
      { req with state }) }

def principalCancelPending (id : PendingRequestId) (sessionId : PrincipalSessionId) :
    Except PendingCancelError Unit × PolicyRuntime :=
  match runtime.pendingRequests.get id with
  | none => (.error .notFound, runtime)
  | some req =>
    if req.state ≠ .waiting then (.error .alreadyResolved, runtime)
    else if req.sessionId ≠ sessionId then (.error .sessionMismatch, runtime)
    else (.ok (), (runtime.terminateRequest req).setPendingState id .cancelled)

/-- The one waiting request for a tuple. -/
def uniqueWaiting (tuple : CeremonyTuple) :
    Except CeremonyResolveError (PendingRequestId × PendingPrincipalRequest) :=
  match runtime.pendingRequests.toList.filter (fun entry =>
      entry.2.state = .waiting && entry.2.matchesTuple tuple) with
  | [] => .error .pendingNotFound
  | [entry] => .ok entry
  | entries => .error (.ambiguousPending entries.length)

/-- The policy part of a resolution.  A failure may also close the request. -/
def resolveChecks (runtime : PolicyRuntime) (tuple : CeremonyTuple)
    (req : PendingPrincipalRequest) :
    Except (CeremonyResolveError × Option PendingState) PolicySnapshot :=
  if req.deadlineMono <= runtime.clockSecs then .error (.timedOut, some .timedOut)
  else if tuple.policyGeneration ≠ runtime.current.generationId ∨
      tuple.policyDigest ≠ runtime.current.digest then
    .error (.policyDenied .generationStale, some .cancelled)
  else
    match runtime.current.findSnapshot tuple.profileId with
    | none => .error (.policyDenied .profileNotFound, some .cancelled)
    | some snap =>
      if !snap.isRpExactMatch env tuple.rpId then
        .error (.policyDenied .rpIdNotExactMatch, none)
      else if !snap.credentialListed tuple.credentialRef then
        .error (.policyDenied .credentialNotExactMatch, none)
      else if !snap.actionAllowed tuple.action then
        .error (.policyDenied .actionNotAllowed, none)
      else .ok snap

/-- The grant of a delegated request: the one it already led to, or a new one. -/
def resolveGrant (req : PendingPrincipalRequest) (fresh : GrantId) :
    Except CeremonyResolveError (Option GrantId) × PolicyRuntime :=
  match req.kind with
  | .isolatedIntent => (.ok none, runtime)
  | .delegatedAuth =>
    match req.grantRequestId with
    | none => (.error (.grantFailed "missing grant request id"), runtime)
    | some grantRequestId =>
      match runtime.grants.get req.profileId with
      | none => (.error (.grantFailed "profile not found"), runtime)
      | some reg =>
        match reg.resolvedGrantId grantRequestId with
        | some grantId => (.ok (some grantId), runtime)
        | none =>
          let result := reg.approveGrant runtime.clockSecs grantRequestId fresh
          let updated :=
            { runtime with grants := runtime.grants.insert req.profileId result.2 }
          match result.1 with
          | .error error => (.error (.grantFailed error.message), updated)
          | .ok grantId => (.ok (some grantId), updated)

/-- `ceremony_resolve_pending`: approve the intent, then the grant, then the request. -/
def ceremonyResolvePending (runtime : PolicyRuntime) (tuple : CeremonyTuple) (fresh : GrantId) :
    Except CeremonyResolveError BoundApprovalResult × PolicyRuntime :=
  match runtime.uniqueWaiting tuple with
  | .error error => (.error error, runtime)
  | .ok (id, req) =>
    match runtime.resolveChecks env tuple req with
    | .error (error, none) => (.error error, runtime)
    | .error (error, some state) => (.error error, runtime.setPendingState id state)
    | .ok _ =>
      match runtime.intents.approve runtime.clockMillis req.intentId with
      | (.error error, intents) =>
        (.error (.intentApprovalFailed error.message), { runtime with intents })
      | (.ok (), intents) =>
        match resolveGrant { runtime with intents } req fresh with
        | (.error error, failed) => (.error error, failed)
        | (.ok grantId, resolved) =>
          (.ok
            { toCeremonyTuple := req.toCeremonyTuple
              intentId := req.intentId
              grantId },
            resolved.setPendingState id .approved)

def ceremonyDenyPending (tuple : CeremonyTuple) :
    Except CeremonyResolveError Unit × PolicyRuntime :=
  match runtime.uniqueWaiting tuple with
  | .error error => (.error error, runtime)
  | .ok (id, req) => (.ok (), (runtime.terminateRequest req).setPendingState id .denied)

/-- End every waiting request that passes a test, in the order of the hash map. -/
def terminateWhere (test : PendingPrincipalRequest -> Bool) (state : PendingState) : PolicyRuntime :=
  let selected := fun req : PendingPrincipalRequest =>
    decide (req.state = .waiting) && test req
  let ended := (runtime.pendingRequests.values.filter selected).foldl terminateRequest runtime
  { ended with
    pendingRequests := runtime.pendingRequests.mapValues (fun _ req =>
      if selected req then { req with state } else req) }

def cleanupExpiredPending : List PendingRequestId × PolicyRuntime :=
  let overdue := fun req : PendingPrincipalRequest =>
    decide (req.deadlineMono <= runtime.clockSecs)
  ((runtime.pendingRequests.toList.filter (fun entry =>
      entry.2.state = .waiting && overdue entry.2)).map Prod.fst,
    runtime.terminateWhere overdue .timedOut)

def cancelPendingForSession (sessionId : PrincipalSessionId) :
    PolicyRuntime :=
  runtime.terminateWhere (fun req => req.sessionId = sessionId) .cancelled

/-! ## Authorization on the strength of a user's approval -/

/-- The checks of `authorize_bound` that need no claim. -/
def boundChecks (bound : BoundApprovalResult) (req : AuthorizationRequest) :
    Except Decision PolicySnapshot :=
  if bound.profileId ≠ req.profileId ∨ bound.sessionId ≠ req.sessionId ∨
      bound.endpointId ≠ req.endpointId ∨ bound.processDigest ≠ req.processDigest ∨
      bound.policyGeneration ≠ req.policyGeneration ∨
      bound.policyDigest ≠ req.policyDigest ∨ bound.action ≠ req.action then
    .error (.deny .sessionMismatch .retry)
  else if bound.rpId.canonical ≠ req.rpId.canonical then
    .error (.deny .rpIdNotExactMatch .retry)
  else if bound.credentialRef ≠ req.credentialRef then
    .error (.deny .credentialNotExactMatch .retry)
  else if bound.policyGeneration ≠ runtime.current.generationId ∨
      bound.policyDigest ≠ runtime.current.digest then
    .error (.deny .generationStale .reloadPolicy)
  else
    match runtime.current.findSnapshot bound.profileId with
    | none => .error (.deny .profileNotFound .contactAdmin)
    | some snap =>
      if snap.requireUv && !req.uvEnforced then .error (.deny .uvRequired .verifyUser)
      else .ok snap

/-- What an authorization asks of its grant.  Without a credential, the
reference of the empty credential identifier stands in. -/
def claimIntentOf (bound : BoundApprovalResult) : ClaimIntent where
  action := bound.action.label
  rpId := bound.rpId.canonical
  credentialRef := bound.credentialRef.getD (.withDefaultDomain env [])

/-- `authorize_bound`, with the ceremony that a successful call generates. -/
def authorizeBound (runtime : PolicyRuntime) (bound : BoundApprovalResult)
    (req : AuthorizationRequest) (fresh : CeremonyId) :
    (Decision × Option AuthorizationHandle) × PolicyRuntime :=
  match runtime.boundChecks bound req with
  | .error decision => ((decision, none), runtime)
  | .ok _ =>
    match runtime.intents.claimApproved runtime.clockMillis bound.toCeremonyTuple with
    | (.error .notFound, intents) =>
      ((.deny .intentNotFound .retry, none), { runtime with intents })
    | (.error _, intents) =>
      ((.deny .intentNotApproved .retry, none), { runtime with intents })
    | (.ok intentId, intents) =>
      let auth : Authorization :=
        { toCeremonyTuple := bound.toCeremonyTuple
          grantId := bound.grantId
          intentId := some intentId }
      match bound.grantId with
      | none => openCeremony { runtime with intents } auth fresh
      | some grantId =>
        match runtime.grants.get bound.profileId with
        | none =>
          ((.deny .profileNotFound .contactAdmin, none),
            { runtime with intents := (intents.rollbackClaim intentId).2 })
        | some reg =>
          match reg.claimForAuthorize runtime.clockSecs grantId bound.sessionId
              (claimIntentOf env bound) fresh with
          | (.error _, refused) =>
            ((.deny .partialClaimFailed .retry, none), { runtime with
              intents := (intents.rollbackClaim intentId).2
              grants := runtime.grants.insert bound.profileId refused })
          | (.ok ceremonyId, claimed) =>
            openCeremony { runtime with
              intents
              grants := runtime.grants.insert bound.profileId claimed }
              auth ceremonyId

end PolicyRuntime

end ControlVault.Engine
