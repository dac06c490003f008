import ControlVault.Core.RpId
import ControlVault.Engine.Intent
import ControlVault.Foundation.Decimal
import ControlVault.Foundation.SortedSet

namespace ControlVault.Engine

open Foundation Core

/-!
# Delegated grants

A grant lets one session use listed credentials at listed relying parties for a
limited time.  Each profile has its own registry, created for one policy
generation.  A request is resolved once, by approval or by cancellation, and an
authorization takes a claim on a grant that can be consumed once.

A clock that runs backwards revokes every active grant of the registry at the
next call that looks at it.
-/

inductive GrantState
  | active
  | revoked
  | expired
  deriving DecidableEq

inductive GrantError
  | emptyCredentialSet
  | emptyRpIdSet
  | wildcardRpId (rpId : Text)
  | rpIdTooLong (rpId : Text)
  | tooManyRpIds (count : Nat)
  | tooManyCredentials (count : Nat)
  | ttlExceedsProfileMax (requested limit : Nat)
  | ttlZero
  | grantNotActive (id : GrantId)
  | grantNotFound (id : GrantId)
  | claimAlreadyConsumed (id : CeremonyId)
  | claimNotFound
  | rpIdNotInGrant (rpId : Text)
  | credentialNotInGrant (cred : Text)
  | actionNotInGrant (action : Text)
  | policyMismatch
  | sessionMismatch
  | profileMismatch
  | clockAmbiguity
  | pendingRequestNotFound (id : GrantRequestId)
  | requestAlreadyResolved (id : GrantRequestId)
  | maxConcurrentGrantsExceeded (limit : Nat)
  | registrationGrantNotFound (id : RegistrationGrantId)
  | registrationGrantNotActive (id : RegistrationGrantId)
  deriving DecidableEq

/-! ## Scopes -/

def maxRpIdLen : Nat := 253
def maxCredentialsPerGrant : Nat := 64
def maxRpIdsPerGrant : Nat := 32
def minTtlSecs : Nat := 1

def GrantError.message : GrantError -> Text
  | emptyCredentialSet => "credential set must not be empty"
  | emptyRpIdSet => "RP ID set must not be empty"
  | wildcardRpId rpId => "wildcard RP ID not allowed: " ++ rpId
  | rpIdTooLong rpId => "RP ID too long: " ++ rpId
  | tooManyRpIds count =>
    "too many RP IDs: " ++ decimal count ++ " (max " ++ decimal maxRpIdsPerGrant ++ ")"
  | tooManyCredentials count =>
    "too many credentials: " ++ decimal count ++ " (max " ++ decimal maxCredentialsPerGrant ++ ")"
  | ttlExceedsProfileMax requested limit =>
    "TTL " ++ decimal requested ++ "s exceeds profile max " ++ decimal limit ++ "s"
  | ttlZero => "TTL must be at least 1 second"
  | grantNotActive id => "grant " ++ hexOf id.bits ++ " is not active"
  | grantNotFound id => "grant " ++ hexOf id.bits ++ " not found"
  | claimAlreadyConsumed id => "claim " ++ hexOf id.bits ++ " already consumed"
  | claimNotFound => "claim not found"
  | rpIdNotInGrant rpId => "RP ID " ++ rpId ++ " not in grant scope"
  | credentialNotInGrant cred =>
    "credential " ++ cred ++ " not in grant scope"
  | actionNotInGrant action => "action " ++ action ++ " not in grant scope"
  | policyMismatch => "policy generation or digest mismatch"
  | sessionMismatch => "principal session mismatch"
  | profileMismatch => "profile mismatch"
  | clockAmbiguity => "monotonic clock ambiguity detected"
  | pendingRequestNotFound id => "pending request " ++ hexOf id.bits ++ " not found"
  | requestAlreadyResolved id => "request " ++ hexOf id.bits ++ " already resolved"
  | maxConcurrentGrantsExceeded limit =>
    "max concurrent grants exceeded (limit: " ++ decimal limit ++ ")"
  | registrationGrantNotFound id =>
    "registration grant " ++ hexOf id.bits ++ " not found"
  | registrationGrantNotActive id =>
    "registration grant " ++ hexOf id.bits ++ " is not active"

/-- The grant module's own normalisation, weaker than the policy's check. -/
def normalizeGrantRpId (raw : Text) : Except GrantError Text :=
  let trimmed := raw.canonical
  if trimmed.isEmpty then .error .emptyRpIdSet
  else if maxRpIdLen < trimmed.utf8Length then .error (.rpIdTooLong trimmed)
  else if trimmed.elem '*' || trimmed.head? == some '.' then .error (.wildcardRpId trimmed)
  else .ok trimmed

def normalizeScopeRpId (raw : Text) : Except GrantError Text :=
  let trimmed := raw.canonical
  if trimmed = anyRpId then .ok trimmed else normalizeGrantRpId trimmed

def rpScopeContains (scope : SortedSet Text) (rpId : Text) : Bool :=
  scope.contains rpId || scope.contains anyRpId

def validateRpIds (rpIds : List Text) : Except GrantError (SortedSet Text) :=
  if rpIds.isEmpty then .error .emptyRpIdSet
  else if maxRpIdsPerGrant < rpIds.length then .error (.tooManyRpIds rpIds.length)
  else
    match rpIds.mapM normalizeScopeRpId with
    | .error error => .error error
    | .ok normalized => .ok (.ofList normalized)

/-- A non-empty set of at most 64 credentials. -/
def credentialSet (credentials : List CredentialRef) : Except GrantError (SortedSet CredentialRef) :=
  if credentials.isEmpty then .error .emptyCredentialSet
  else if maxCredentialsPerGrant < credentials.length then
    .error (.tooManyCredentials credentials.length)
  else .ok (.ofList credentials)

/-- Dynamic grants may leave the set empty. -/
def credentialScope (allowEmptyCredentials : Bool) (credentials : List CredentialRef) :
    Except GrantError (SortedSet CredentialRef) :=
  if allowEmptyCredentials && credentials.isEmpty then .ok .empty else credentialSet credentials

def clampTtl (requested limit : Nat) : Nat :=
  if requested < minTtlSecs then minTtlSecs else if limit < requested then limit else requested

/-! ## The registry of one profile -/

structure GrantRequestParams where
  profileId : ProfileId
  sessionId : PrincipalSessionId
  endpointId : EndpointId
  principalDigest : BitVec 256
  rpIds : List Text
  credentials : List CredentialRef
  requestedTtlSecs : Nat

structure GrantRequest where
  profileId : ProfileId
  sessionId : PrincipalSessionId
  endpointId : EndpointId
  principalDigest : BitVec 256
  rpIds : List Text
  credentials : List CredentialRef
  requestedTtlSecs : Nat
  (allowEmptyCredentials resolved : Bool)
  resolvedGrantId : Option GrantId

/-- A stored grant.  Its identifier is its key in the registry. -/
structure Grant where
  profileId : ProfileId
  sessionId : PrincipalSessionId
  endpointId : EndpointId
  principalDigest : BitVec 256
  policyGeneration : PolicyGenerationId
  policyDigest : PolicyDigest
  rpIds : SortedSet Text
  credentials : SortedSet CredentialRef
  (issuedAtMono expiryMono : Nat)
  state : GrantState
  deriving DecidableEq

def Grant.isActive (grant : Grant) : Bool :=
  grant.state = .active

/-- Compare and exchange of the state byte, for the transitions out of `active`. -/
def Grant.leave (grant : Grant) (target : GrantState) : Grant :=
  if grant.state = .active then { grant with state := target } else grant

structure ClaimIntent where
  (action rpId : Text)
  credentialRef : CredentialRef

/-- A claim on a grant.  Its ceremony is its key in the registry. -/
structure AuthorizationClaim where
  grantId : GrantId
  intent : ClaimIntent
  consumed : Bool

structure GrantRegistry where
  grants : Table GrantId Grant
  pendingRequests : Table GrantRequestId GrantRequest
  claims : Table CeremonyId AuthorizationClaim
  policyGeneration : PolicyGenerationId
  policyDigest : PolicyDigest
  maxTtlSecs : Nat
  allowedActions : SortedSet Text
  (maxConcurrentGrants lastSeenMono : Nat)

namespace GrantRegistry

def new (policyGeneration : PolicyGenerationId) (policyDigest : PolicyDigest) (maxTtlSecs : Nat)
    (allowedActions : SortedSet Text) (maxConcurrentGrants : Nat) : GrantRegistry where
  grants := .empty
  pendingRequests := .empty
  claims := .empty
  policyGeneration
  policyDigest
  maxTtlSecs
  allowedActions
  maxConcurrentGrants
  lastSeenMono := 0

variable (reg : GrantRegistry)

def failClosedAll : GrantRegistry :=
  { reg with grants := reg.grants.mapValues (fun _ grant => grant.leave .revoked) }

def checkClock (now : Nat) : Except GrantError Unit × GrantRegistry :=
  if now < reg.lastSeenMono then (.error .clockAmbiguity, reg.failClosedAll)
  else (.ok (), { reg with lastSeenMono := now })

def activeCount : Nat :=
  reg.grants.count Grant.isActive

section

variable (now : Nat) (params : GrantRequestParams)

def requestGrantInner (allowEmptyCredentials : Bool) (fresh : GrantRequestId) :
    Except GrantError GrantRequestId × GrantRegistry :=
  match reg.checkClock now with
  | (.error error, closed) => (.error error, closed)
  | (.ok (), checked) =>
    match validateRpIds params.rpIds with
    | .error error => (.error error, checked)
    | .ok _ =>
      match credentialScope allowEmptyCredentials params.credentials with
      | .error error => (.error error, checked)
      | .ok credentials =>
        if params.requestedTtlSecs = 0 then (.error .ttlZero, checked)
        else if checked.maxTtlSecs < params.requestedTtlSecs then
          (.error (.ttlExceedsProfileMax params.requestedTtlSecs checked.maxTtlSecs), checked)
        else
          (.ok fresh, { checked with
            pendingRequests := checked.pendingRequests.insert fresh
              { profileId := params.profileId
                sessionId := params.sessionId
                endpointId := params.endpointId
                principalDigest := params.principalDigest
                rpIds := params.rpIds
                credentials := credentials.elements
                requestedTtlSecs := params.requestedTtlSecs
                allowEmptyCredentials
                resolved := false
                resolvedGrantId := none } })

def requestGrant (fresh : GrantRequestId) : Except GrantError GrantRequestId × GrantRegistry :=
  reg.requestGrantInner now params false fresh

end

/-- Everything `approve_grant` checks after the clock. -/
def approvable (id : GrantRequestId) :
    Except GrantError (GrantRequest × SortedSet Text × SortedSet CredentialRef) :=
  match reg.pendingRequests.get id with
  | none => .error (.pendingRequestNotFound id)
  | some req =>
    if req.resolved then .error (.requestAlreadyResolved id)
    else if reg.maxConcurrentGrants <= reg.activeCount then
      .error (.maxConcurrentGrantsExceeded reg.maxConcurrentGrants)
    else
      match validateRpIds req.rpIds with
      | .error error => .error error
      | .ok rpIds =>
        match credentialScope req.allowEmptyCredentials req.credentials with
        | .error error => .error error
        | .ok credentials => .ok (req, rpIds, credentials)

/-- The grant that an approval issues. -/
def issuedGrant (now : Nat) (req : GrantRequest)
    (rpIds : SortedSet Text) (credentials : SortedSet CredentialRef) : Grant where
  profileId := req.profileId
  sessionId := req.sessionId
  endpointId := req.endpointId
  principalDigest := req.principalDigest
  policyGeneration := reg.policyGeneration
  policyDigest := reg.policyDigest
  rpIds
  credentials
  issuedAtMono := now
  expiryMono := saturatingAdd now (clampTtl req.requestedTtlSecs reg.maxTtlSecs)
  state := .active

/-- `approve_grant`, with the identifier that the call generates. -/
def approveGrant (now : Nat) (id : GrantRequestId) (fresh : GrantId) :
    Except GrantError GrantId × GrantRegistry :=
  match reg.checkClock now with
  | (.error error, closed) => (.error error, closed)
  | (.ok (), checked) =>
    match checked.approvable id with
    | .error error => (.error error, checked)
    | .ok (req, rpIds, credentials) =>
      (.ok fresh, { checked with
        grants := checked.grants.insert fresh
          (checked.issuedGrant now req rpIds credentials)
        pendingRequests := checked.pendingRequests.insert id
          { req with resolved := true, resolvedGrantId := some fresh } })

def resolvedGrantId (reg : GrantRegistry) (id : GrantRequestId) : Option GrantId :=
  (reg.pendingRequests.get id).bind GrantRequest.resolvedGrantId

def isGrantActive (id : GrantId) : Bool :=
  (reg.grants.get id).any Grant.isActive

def revokeGrant (id : GrantId) :
    Except GrantError GrantState × GrantRegistry :=
  match reg.grants.get id with
  | none => (.error (.grantNotFound id), reg)
  | some grant =>
    if grant.state ≠ .active then (.error (.grantNotActive id), reg)
    else
      (.ok .revoked, { reg with grants := reg.grants.insert id (grant.leave .revoked) })

def cancelRequest (id : GrantRequestId) :
    Except GrantError Unit × GrantRegistry :=
  match reg.pendingRequests.get id with
  | none => (.error (.pendingRequestNotFound id), reg)
  | some req =>
    if req.resolved then (.error (.requestAlreadyResolved id), reg)
    else
      (.ok (), { reg with
        pendingRequests := reg.pendingRequests.insert id { req with resolved := true } })

/-- Revoke the grant a request led to, or keep it from leading to one. -/
def terminateRequest (id : GrantRequestId) : GrantRegistry :=
  let revoked :=
    match reg.resolvedGrantId id with
    | none => reg
    | some grantId => (reg.revokeGrant grantId).2
  (revoked.cancelRequest id).2

/-- Revoke the session's grants and forget its requests; its claims stay until
`cancelClaimsForSession`, because the test looks at the revoked state. -/
def onPrincipalExit (sessionId : PrincipalSessionId) : GrantRegistry :=
  let grants := reg.grants.mapValues (fun _ grant =>
    if grant.sessionId = sessionId then grant.leave .revoked else grant)
  { reg with
    grants
    pendingRequests := reg.pendingRequests.retain (fun _ req =>
      req.sessionId ≠ sessionId)
    claims := reg.claims.retain (fun _ claim =>
      (grants.get claim.grantId).any (fun grant =>
        grant.sessionId ≠ sessionId || grant.state ≠ .active)) }

def checkExpired (now : Nat) : GrantRegistry :=
  { reg with
    grants := reg.grants.mapValues (fun _ grant =>
      if grant.expiryMono <= now then grant.leave .expired else grant) }

/-- Everything `claim_for_authorize` checks after the clock and the expiry sweep. -/
def claimable (id : GrantId) (sessionId : PrincipalSessionId) (intent : ClaimIntent) :
    Except GrantError Text :=
  match normalizeGrantRpId intent.rpId with
  | .error error => .error error
  | .ok normalizedRp =>
    match reg.grants.get id with
    | none => .error (.grantNotFound id)
    | some grant =>
      if grant.state ≠ .active then .error (.grantNotActive id)
      else if grant.sessionId ≠ sessionId then .error .sessionMismatch
      else if grant.policyGeneration ≠ reg.policyGeneration ∨
          grant.policyDigest ≠ reg.policyDigest then .error .policyMismatch
      else if !rpScopeContains grant.rpIds normalizedRp then
        .error (.rpIdNotInGrant normalizedRp)
      else if !grant.credentials.contains intent.credentialRef then
        .error (.credentialNotInGrant (hexOf intent.credentialRef.bytes))
      else if !reg.allowedActions.contains intent.action then
        .error (.actionNotInGrant intent.action)
      else .ok normalizedRp

/-- `claim_for_authorize`, with the ceremony that the call generates. -/
def claimForAuthorize (now : Nat) (id : GrantId) (sessionId : PrincipalSessionId)
    (intent : ClaimIntent) (fresh : CeremonyId) :
    Except GrantError CeremonyId × GrantRegistry :=
  match reg.checkClock now with
  | (.error error, closed) => (.error error, closed)
  | (.ok (), checked) =>
    let current := checked.checkExpired now
    match current.claimable id sessionId intent with
    | .error error => (.error error, current)
    | .ok normalizedRp =>
      (.ok fresh, { current with
        claims := current.claims.insert fresh
          { grantId := id
            intent := { intent with rpId := normalizedRp }
            consumed := false } })

/-- A successful claim is stored under the ceremony that the call generated. -/
theorem claimForAuthorize_ceremony {reg : GrantRegistry} {id : GrantId}
    (success : reg.claimForAuthorize now id sessionId intent fresh = (.ok ceremonyId, claimed)) :
    ceremonyId = fresh := by
  rw [claimForAuthorize] at success
  split at success
  · cases success
  · simp only [] at success
    split at success
    · cases success
    · cases success
      rfl

def cancelClaim (id : CeremonyId) : GrantRegistry :=
  { reg with claims := reg.claims.remove id }

def consumeClaimByCeremony (id : CeremonyId) :
    Except GrantError ClaimIntent × GrantRegistry :=
  match reg.claims.get id with
  | none => (.error .claimNotFound, reg)
  | some claim =>
    if claim.consumed then (.error (.claimAlreadyConsumed id), reg)
    else
      (.ok claim.intent, { reg with
        claims := reg.claims.insert id { claim with consumed := true } })

def cancelClaimsForSession (sessionId : PrincipalSessionId) :
    GrantRegistry :=
  { reg with
    claims := reg.claims.retain (fun _ claim =>
      (reg.grants.get claim.grantId).any (fun grant => grant.sessionId ≠ sessionId)) }

def cancelClaimsForGrant (id : GrantId) : GrantRegistry :=
  { reg with claims := reg.claims.retain (fun _ claim => claim.grantId ≠ id) }

end GrantRegistry

/-! ## Registration grants -/

/-- Permission to register one credential.  Its identifier is its key. -/
structure RegistrationGrant where
  profileId : ProfileId
  sessionId : PrincipalSessionId
  endpointId : EndpointId
  principalDigest : BitVec 256
  rpId : Text
  (issuedAtMono expiryMono : Nat)
  state : GrantState

def RegistrationGrant.leave (grant : RegistrationGrant) (target : GrantState) : RegistrationGrant :=
  if grant.state = .active then { grant with state := target } else grant

structure RegistrationGrantRegistry where
  grants : Table RegistrationGrantId RegistrationGrant
  (maxTtlSecs lastSeenMono : Nat)

namespace RegistrationGrantRegistry

def new (maxTtlSecs : Nat) : RegistrationGrantRegistry where
  grants := .empty
  maxTtlSecs
  lastSeenMono := 0

variable (reg : RegistrationGrantRegistry)

def checkClock (now : Nat) :
    Except GrantError Unit × RegistrationGrantRegistry :=
  if now < reg.lastSeenMono then
    (.error .clockAmbiguity, { reg with
      grants := reg.grants.mapValues (fun _ grant => grant.leave .revoked) })
  else (.ok (), { reg with lastSeenMono := now })

/-- `request_registration`, with the identifier that the call generates. -/
def requestRegistration (now : Nat) (profileId : ProfileId) (sessionId : PrincipalSessionId)
    (endpointId : EndpointId) (principalDigest : BitVec 256) (rpId : Text) (ttlSecs : Nat)
    (fresh : RegistrationGrantId) :
    Except GrantError RegistrationGrantId × RegistrationGrantRegistry :=
  match reg.checkClock now with
  | (.error error, closed) => (.error error, closed)
  | (.ok (), checked) =>
    match normalizeGrantRpId rpId with
    | .error error => (.error error, checked)
    | .ok normalizedRp =>
      if ttlSecs = 0 then (.error .ttlZero, checked)
      else if checked.maxTtlSecs < ttlSecs then
        (.error (.ttlExceedsProfileMax ttlSecs checked.maxTtlSecs), checked)
      else
        (.ok fresh, { checked with
          grants := checked.grants.insert fresh
            { profileId
              sessionId
              endpointId
              principalDigest
              rpId := normalizedRp
              issuedAtMono := now
              expiryMono := saturatingAdd now (clampTtl ttlSecs checked.maxTtlSecs)
              state := .active } })

def revokeRegistration (id : RegistrationGrantId) :
    Except GrantError Unit × RegistrationGrantRegistry :=
  match reg.grants.get id with
  | none => (.error (.registrationGrantNotFound id), reg)
  | some grant =>
    if grant.state ≠ .active then (.error (.registrationGrantNotActive id), reg)
    else (.ok (), { reg with grants := reg.grants.insert id (grant.leave .revoked) })

end RegistrationGrantRegistry

end ControlVault.Engine
