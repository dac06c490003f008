import ControlVault.Broker.Origin
import ControlVault.Broker.Registry
import ControlVault.Broker.Selection
import ControlVault.Browser.Leases
import ControlVault.Engine.Queries

namespace ControlVault.Broker

open Foundation Core Engine Browser Storage

/-!
# Signing and registering through a token

A browser posts a request with its token.  The broker looks the token up, charges
its budget and calls the handler of the entry; the handler checks the origin, the
grant and the rule of the relying party before it turns to the credentials.

What the outside world answers during one request is an argument: whether the
audit record and the credential file are written, the answers of the key
provider, the random identifier and the time of a new credential.
-/

structure SecurityConfig where
  (alwaysUv constantSignatureCounter enableCredentialBackup : Bool)

/-- Same-user profiles share the store of their human; an isolated profile has its own. -/
inductive CredentialNamespace
  | human
  | isolated (profileId : ProfileId)
  deriving DecidableEq

def CredentialNamespace.of (profileId : ProfileId) : AgentMode -> CredentialNamespace
  | .sameUser => .human
  | .isolated => .isolated profileId

/-- What a request works on. -/
structure BrokerState where
  registry : SignContextRegistry
  policyRuntime : PolicyRuntime
  browserManager : BrowserProcessManager
  credentialStorage : CredentialNamespace -> LocalStorageAdapter

section

variable (state : BrokerState) (owner : CredentialNamespace) (store : LocalStorageAdapter)

def BrokerState.withStorage : BrokerState :=
  { state with
    credentialStorage := fun other =>
      if other = owner then store else state.credentialStorage other }

@[simp] theorem BrokerState.withStorage_credentialStorage :
    (state.withStorage owner store).credentialStorage owner = store :=
  if_pos rfl

end

/-- The answers of the outside world during one request. -/
structure Occasion where
  (audited persisted : Bool)
  keys : KeyBackend
  credentialId : CredentialId
  nowMs : Int

/-! ## Checks -/

/-- The rule must allow the ceremony without a human.  Signing and registering differ
in two texts. -/
def checkEvidence (policy : Option AgentCeremonyPolicy) (prompt : HumanVerificationPrompt)
    (security : SecurityConfig) (userVerification : Bool) (noRule denied : Text) :
    Except ProtocolError AgentCeremonyPolicy :=
  match policy with
  | none => .error (.forbidden noRule)
  | some policy =>
    match policy.authorization with
    | .deny => .error (.forbidden denied)
    | .confirm =>
      .error ⟨.interactionRequired, "human confirmation is required by policy", .retry⟩
    | .allow =>
      if policy.userPresence = .human ∨ (policy.userVerification = .human /\
          (userVerification ∨ security.alwaysUv ∨ prompt = .always)) then
        .error ⟨.interactionRequired, "human WebAuthn verification is required by policy", .retry⟩
      else if (userVerification ∨ security.alwaysUv) /\ policy.userVerification ≠ .agent then
        .error (.forbidden
          "user verification is required but the configured evidence source is none")
      else .ok policy

/-- The grant of a sign context, as `sign` checks it. -/
def checkGrant (grant : Option Grant) (normalizedRp : Text) : Except ProtocolError Grant :=
  match grant with
  | none => .error (.forbidden "active grant not valid")
  | some grant =>
    if grant.state = .revoked then .error (.forbidden "grant revoked")
    else if grant.state ≠ .active then .error (.forbidden "grant expired")
    else if !grant.rpIds.elements.any (fun id =>
        id.canonical = normalizedRp || id.canonical = anyRpId) then
      .error (.forbidden "RP ID not in active grant")
    else .ok grant

/-! ## Signing -/

/-- A signature of an activating key provider is released only with its lease active. -/
def activate (mgr : BrowserProcessManager) (now : Nat) :
    KeyProvider -> Except ProtocolError Unit × BrowserProcessManager
  | .backend => (.ok (), mgr)
  | .activating leaseId activeTtlSecs =>
    let failure := ProtocolError.internal "signing failed" .retry
    match mgr.get leaseId with
    | none => (.error failure, mgr)
    | some lease =>
      match lease.state with
      | .active => (.ok (), mgr)
      | .authenticationPending =>
        match mgr.activateAfterAssertion now leaseId activeTtlSecs with
        | (.ok _, activated) => (.ok (), activated)
        | (.error _, same) => (.error failure, same)
      | _ => (.error failure, mgr)

def vouches (source : EvidenceSource) : Bool :=
  source = .agent

def maxSignCount : Nat := 2 ^ 32 - 1

/-- Count a use of the credential in its file, unless it does not count. -/
def countUse (security : SecurityConfig) (store : LocalStorageAdapter) (cred : Credential)
    (saved : Bool) : Except StorageError Nat × LocalStorageAdapter :=
  if security.constantSignatureCounter || !cred.discoverable then (.ok 0, store)
  else
    let signCount := min (cred.signCount + 1) maxSignCount
    match store.write { cred with signCount } saved with
    | (.ok (), after) => (.ok signCount, after)
    | (.error error, after) => (.error error, after)

variable (env : Env)

/-- The assertion itself, if the backend signs it. -/
def assertWith (keys : KeyBackend) (policy : AgentCeremonyPolicy) (req : SignAssertionRequest)
    (cred : Credential) (signCount : Nat) :
    Option SignAssertionResponse :=
  let authenticatorData := buildAuthenticatorData env req.rpId.canonical
    (vouches policy.userPresence) (vouches policy.userVerification)
    (keys.backupFlags cred.backupState) signCount
  let clientData := buildClientDataJson req.origin req.challengeB64u req.crossOrigin
    req.topOrigin
  (keys.sign cred.key cred.alg
    (authenticatorData ++ bytesOf (env.sha256 clientData))).map (fun signature =>
      { credentialIdB64u := b64uEncode cred.id
        authenticatorDataB64u := b64uEncode authenticatorData
        signatureB64u := b64uEncode signature
        userHandleB64u := b64uEncode cred.userId
        clientDataJsonB64u := b64uEncode clientData })

/-- The credential a permitted request is answered with. -/
def chooseCredential (config : AgentProfileConfig) (store : LocalStorageAdapter) (grant : Grant)
    (policy : AgentCeremonyPolicy) (req : SignAssertionRequest) : Except ProtocolError CredentialId :=
  let normalizedRp := req.rpId.canonical
  let candidates := candidatesFor env store grant.credentials.elements
    req.allowCredentials (vouches policy.userVerification) normalizedRp
  if candidates.isEmpty && !req.allowCredentials.isEmpty then
    .error (.forbidden "allowCredentials does not contain a permitted credential")
  else
    selectCredential candidates req.allowCredentials
      (config.credentialSelectionForRp env normalizedRp)

section

variable (security : SecurityConfig)

/-- Sign with a stored credential that was chosen. -/
def signWith (occasion : Occasion) (policy : AgentCeremonyPolicy)
    (req : SignAssertionRequest) (store : LocalStorageAdapter) (id : CredentialId) :
    Except ProtocolError SignAssertionResponse × LocalStorageAdapter :=
  match store.read id with
  | .error _ => (.error (.notFound "credential not found in storage"), store)
  | .ok cred =>
    if cred.extensions.credProtect = some 3 && !vouches policy.userVerification then
      (.error (.forbidden "credential protection policy requires user verification"), store)
    else
      match countUse security store cred occasion.persisted with
      | (.error _, after) =>
        (.error (.internal "failed to write updated credential" .retry), after)
      | (.ok signCount, after) =>
        match assertWith env occasion.keys policy req cred signCount with
        | none => (.error (.internal "signing failed" .retry), after)
        | some response => (.ok response, after)

/-- The part of `sign` after its checks: choose, record, count and sign. -/
def assertFrom (occasion : Occasion) (config : AgentProfileConfig)
    (grant : Grant) (policy : AgentCeremonyPolicy) (req : SignAssertionRequest)
    (store : LocalStorageAdapter) :
    Except ProtocolError SignAssertionResponse × LocalStorageAdapter :=
  match chooseCredential env config store grant policy req with
  | .error error => (.error error, store)
  | .ok id =>
    if !occasion.audited then
      (.error (.internal "audit record failed" .retry), store)
    else signWith env security occasion policy req store id

/-- The checks of `sign` on the grant and the rule. -/
def checkSign (config : AgentProfileConfig) (grant : Option Grant) (req : SignAssertionRequest) :
    Except ProtocolError (Grant × AgentCeremonyPolicy) := do
  let normalizedRp := req.rpId.canonical
  let grant <- checkGrant grant normalizedRp
  let policy <- checkEvidence ((config.ruleForRp env normalizedRp).map AgentRpRule.authenticate)
    config.humanVerificationPrompt security req.userVerification
    "RP policy does not allow signing" "RP policy denies signing"
  return (grant, policy)

def sign (occasion : Occasion) (now : Nat) (entry : LeaseEntry)
    (req : SignAssertionRequest) (state : BrokerState) :
    Except ProtocolError SignAssertionResponse × BrokerState :=
  let config := entry.context.profileConfig
  if !verifyOriginContext req.origin req.topOrigin req.crossOrigin req.rpId.canonical then
    (.error (.forbidden "origin not valid for RP"), state)
  else
    let shown := state.policyRuntime.resolveGrantForSign entry.context.profileId
      entry.context.activeGrantId
    let swept := { state with policyRuntime := shown.2 }
    match checkSign env security config shown.1 req with
    | .error error => (.error error, swept)
    | .ok (grant, policy) =>
      let owner := CredentialNamespace.of entry.context.profileId config.mode
      let asserted := assertFrom env security occasion config grant policy req
        (swept.credentialStorage owner)
      let stored := swept.withStorage owner asserted.2
      match asserted.1 with
      | .error error => (.error error, stored)
      | .ok response =>
        match activate stored.browserManager now entry.keyProvider with
        | (.error error, mgr) => (.error error, { stored with browserManager := mgr })
        | (.ok (), mgr) => (.ok response, { stored with browserManager := mgr })

end

/-! ## Registering -/

/-- Whether the page excludes a credential that the store has. -/
def isExcluded (store : LocalStorageAdapter) (excludeCredentials : List Text) : Bool :=
  excludeCredentials.any (fun excluded =>
    match b64uDecode excluded with
    | .error _ => false
    | .ok id => (store.read id).isOk)

/-- The checks of `register` before it looks at the store: the rule and the user handle. -/
def checkRegister (security : SecurityConfig) (config : AgentProfileConfig)
    (req : RegisterCredentialRequest) :
    Except ProtocolError (AgentCeremonyPolicy × Bytes) :=
  let normalizedRp := req.rpId.canonical
  match checkEvidence ((config.ruleForRp env normalizedRp).map AgentRpRule.register)
      config.humanVerificationPrompt security req.userVerification
      "RP policy does not allow registration"
      "RP policy denies registration" with
  | .error error => .error error
  | .ok policy =>
    match b64uDecode req.userIdB64u with
    | .error _ => .error (.badRequest "invalid user_id_b64u encoding")
    | .ok userId => .ok (policy, userId)

/-- The credential of a successful registration. -/
def enrolledCredential (security : SecurityConfig) (occasion : Occasion)
    (req : RegisterCredentialRequest) (userId : Bytes) (algorithm : Int)
    (key : CredentialKey) : Credential where
  id := occasion.credentialId
  rpId := req.rpId.canonical
  rpName := req.rpName
  userId
  userName := some req.userName
  userDisplayName := req.userDisplayName
  signCount := 0
  alg := algorithm
  key
  created := occasion.nowMs
  discoverable := true
  backupState := if security.enableCredentialBackup then .eligible else .notEligible
  extensions := ⟨none, none, none⟩

/-- The answer to a successful registration. -/
def registrationResponse (occasion : Occasion)
    (policy : AgentCeremonyPolicy) (req : RegisterCredentialRequest) (algorithm : Int)
    (generated : GeneratedKey) : RegisterCredentialResponse :=
  let authenticatorData := buildAuthenticatorDataForRegistration env
    req.rpId.canonical occasion.credentialId generated.cosePublicKey
    (vouches policy.userPresence) (vouches policy.userVerification)
  { credentialIdB64u := b64uEncode occasion.credentialId
    publicKeyAlgorithm := algorithm
    authenticatorDataB64u := b64uEncode authenticatorData
    attestationObjectB64u := b64uEncode (buildAttestationObject env authenticatorData)
    clientDataJsonB64u := b64uEncode (buildClientDataJsonForRegistration req.origin
      req.challengeB64u req.crossOrigin req.topOrigin) }

/-- Generate and store a credential. -/
def createCredential (security : SecurityConfig) (occasion : Occasion)
    (policy : AgentCeremonyPolicy) (userId : Bytes) (req : RegisterCredentialRequest)
    (store : LocalStorageAdapter) :
    Except ProtocolError RegisterCredentialResponse × LocalStorageAdapter :=
  match req.pubKeyCredParams.find? occasion.keys.supportsAlgorithm with
  | none =>
    (.error (.badRequest "no requested public-key algorithm is supported by this backend"), store)
  | some algorithm =>
    match occasion.keys.generate algorithm with
    | none => (.error (.internal "key generation failed" .retry), store)
    | some generated =>
      match store.write (enrolledCredential security occasion req userId algorithm
          generated.key) occasion.persisted with
      | (.error _, after) =>
        (.error (.internal "failed to write credential to storage" .retry), after)
      | (.ok (), after) =>
        (.ok (registrationResponse env occasion policy req algorithm generated), after)

def register (security : SecurityConfig) (occasion : Occasion) (ctx : RegisterContext)
    (req : RegisterCredentialRequest) (state : BrokerState) :
    Except ProtocolError RegisterCredentialResponse × BrokerState :=
  let config := ctx.profileConfig
  let owner := CredentialNamespace.of ctx.profileId config.mode
  if !verifyOriginContext req.origin req.topOrigin req.crossOrigin req.rpId.canonical then
    (.error (.forbidden "origin not valid for RP"), state)
  else
    match state.policyRuntime.activeRegistrationGrant ctx.profileId req.rpId.canonical with
    | none => (.error (.forbidden "registration grant not valid"), state)
    | some (grantId, _) =>
      match checkRegister env security config req with
      | .error error => (.error error, state)
      | .ok (policy, userId) =>
        if isExcluded (state.credentialStorage owner) req.excludeCredentials then
          (.error (.conflict "credential matches exclude list"), state)
        else if !occasion.audited then
          (.error (.internal "audit record failed" .retry), state)
        else
          let consumed := state.policyRuntime.consumeRegistrationGrant ctx.profileId grantId
          let after := { state with policyRuntime := consumed.2 }
          match consumed.1 with
          | .error _ =>
            (.error (.conflict "registration enrollment grant was already consumed"), after)
          | .ok () =>
            let created := createCredential env security occasion policy userId req
              (after.credentialStorage owner)
            (created.1, after.withStorage owner created.2)

/-! ## The broker -/

/-- A posted request, after its headers were read. -/
structure BrokerRequest (Body : Type) where
  token : BearerToken
  (jsonContent withinLimit : Bool)
  digest : BodyDigest
  body : Option Body

/-- Whether the request reached a handler, and what it was answered. -/
inductive BrokerAnswer (Response : Type)
  | unhandled (outcome : InFlightOutcome)
  | handled (result : Except ProtocolError Response)

def failure (status code : String) : InFlightOutcome :=
  ⟨status.toList, some code.toList⟩

def invalidBearer : InFlightOutcome :=
  failure "401 Unauthorized" "invalid_bearer"

def errorStatusCode : ErrorCode -> InFlightOutcome
  | .badRequest => failure "400 Bad Request" "bad_request"
  | .unauthorized => failure "401 Unauthorized" "unauthorized"
  | .forbidden => failure "403 Forbidden" "forbidden"
  | .notFound => failure "404 Not Found" "not_found"
  | .conflict => failure "409 Conflict" "conflict"
  | .interactionRequired => failure "409 Conflict" "human_interaction_required"
  | _ => failure "500 Internal Server Error" "internal_error"

def outcomeOf {Response : Type} : Except ProtocolError Response -> InFlightOutcome
  | .ok _ => ⟨"200 OK", none⟩
  | .error error => errorStatusCode error.code

namespace BrokerState

/-- Charge the budget of a token that was found, and call the handler with the body. -/
def serve {Body Response : Type} (state : BrokerState) (now : Nat) (req : BrokerRequest Body)
    (handler : Body -> BrokerState -> Except ProtocolError Response × BrokerState) :
    BrokerAnswer Response × BrokerState :=
  if !req.jsonContent then
    (.unhandled (failure "415 Unsupported Media Type" "unsupported_content_type"), state)
  else if !req.withinLimit then
    (.unhandled (failure "413 Payload Too Large" "body_too_large"), state)
  else
    let claimed := state.registry.claimRequest now req.token req.digest
    let charged := { state with registry := claimed.2 }
    let resolved := fun (outcome : InFlightOutcome) (after : BrokerState) =>
      { after with registry := after.registry.resolveRequest now req.token req.digest outcome }
    match claimed.1 with
    | some (.claimed _) =>
      match req.body with
      | none =>
        let outcome := failure "400 Bad Request" "invalid_json"
        (.unhandled outcome, resolved outcome charged)
      | some body =>
        let answer := handler body charged
        (.handled answer.1, resolved (outcomeOf answer.1) answer.2)
    | some .replayed => (.unhandled (failure "409 Conflict" "replayed_operation"), charged)
    | some .exhausted =>
      (.unhandled (failure "429 Too Many Requests" "operation_budget_exhausted"), charged)
    | some (.waitFor _) =>
      (.unhandled (failure "500 Internal Server Error" "operation_timeout"), charged)
    | some (.cached outcome) => (.unhandled outcome, charged)
    | none =>
      (.unhandled (failure "500 Internal Server Error" "operation_registry_unavailable"), charged)

section

variable (env : Env) (security : SecurityConfig) (state : BrokerState) (now : Nat)
  (occasion : Occasion)

/-- `POST /sign`. -/
def handleSign (req : BrokerRequest SignAssertionRequest) :
    BrokerAnswer SignAssertionResponse × BrokerState :=
  match state.registry.lookupBound req.token with
  | none => (.unhandled invalidBearer, state)
  | some entry => state.serve now req (sign env security occasion now entry)

/-- `POST /register`. -/
def handleRegister (req : BrokerRequest RegisterCredentialRequest) :
    BrokerAnswer RegisterCredentialResponse × BrokerState :=
  match state.registry.lookupRegistration req.token with
  | none => (.unhandled invalidBearer, state)
  | some ctx => state.serve now req (register env security occasion ctx)

end

end BrokerState

end ControlVault.Broker
