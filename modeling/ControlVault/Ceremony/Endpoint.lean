import ControlVault.Ceremony.Request
import ControlVault.Storage.Scope

namespace ControlVault.Ceremony

open Foundation Core Engine Storage

/-!
# An endpoint at work

The handler of an endpoint runs from the bytes of a command, with the storage scope it activates
and with a record of the moments at which it acts on the outside: the log entries it writes, the
prompt, the consumed authorization and the calls of the authenticator.  Every moment is recorded
with the ceremony that was active in the storage scope.
-/

/-- The kind of a message at the transport; only CBOR messages are handled. -/
inductive Cmd
  | cbor
  | other (code : UInt8)

inductive Moment
  | audited (point : AuditPoint)
  | prompted (decision : PromptDecision)
  | consumed (handle : AuthorizationHandle)
  | inner (payload : Bytes)
  deriving DecidableEq

/-- What a command was answered with. -/
inductive CommandReply
  | invalidCommand
  | operationDenied
  | passedOn (response : InnerResponse)
  | ceremony (answer : CeremonyAnswer)

/-- The record is that of the latest command. -/
structure Endpoint extends CeremonyState where
  scope : CeremonyScope
  record : List (Moment × Option ActiveCeremony)

/-- What the storage may be used for during the ceremony of a tuple. -/
def scopeAction (tuple : CeremonyTuple) : Option CeremonyAction :=
  match tuple.action, tuple.credentialRef with
  | .register, _ => some .register
  | .authenticate, none => none
  | .authenticate, some ref => some (.authenticate ref)

namespace Endpoint

variable (env : Env) (endpoint : Endpoint)

def observe (moment : Moment) : Endpoint :=
  { endpoint with record := endpoint.record ++ [(moment, endpoint.scope.active)] }

@[simp]
theorem observe_state (moment : Moment) :
    (endpoint.observe moment).toCeremonyState = endpoint.toCeremonyState :=
  rfl

/-- Write an entry of the log; none when the log refuses it. -/
def audit (world : Environment) (point : AuditPoint) : Option Endpoint :=
  if world.auditAccepts point then some (endpoint.observe (.audited point)) else none

def withPolicy (policyRuntime : PolicyRuntime) : Endpoint :=
  { endpoint with policyRuntime }

def clearPreparation (endpoint : Endpoint) (gen : Nat) : Endpoint :=
  { endpoint with toCeremonyState := endpoint.toCeremonyState.clearPreparation gen }

def clearAll (endpoint : Endpoint) : Endpoint :=
  { endpoint with toCeremonyState := endpoint.toCeremonyState.clearAll }

def denyPending (endpoint : Endpoint) (tuple : CeremonyTuple) : Endpoint :=
  { endpoint with toCeremonyState := endpoint.toCeremonyState.denyPending tuple }

def refuse (gen : Nat) (error : AgentCeremonyError) :
    CeremonyAnswer × Endpoint :=
  (.refused error, endpoint.clearPreparation gen)

def dropGuard (guardGeneration : Nat) : Endpoint :=
  { endpoint with scope := endpoint.scope.drop guardGeneration }

section

variable (world : Environment) (payload : Bytes)

/-- The authenticator has the command.  If it fails, the preparation is cleared while the guard is
still held; otherwise the guard is dropped before the answer is looked at. -/
def forward (gen guardGeneration : Nat) : CeremonyAnswer × Endpoint :=
  let called := endpoint.observe (.inner payload)
  match world.inner with
  | .failed =>
    (.forwarded (.error .innerHandlerFailed),
      (called.clearPreparation gen).dropGuard guardGeneration)
  | .empty | .refused =>
    (.forwarded (.error .innerHandlerFailed),
      (called.dropGuard guardGeneration).clearPreparation gen)
  | .answered (.error error) =>
    (.forwarded (.error (.responseParseFailed error)),
      (called.dropGuard guardGeneration).clearPreparation gen)
  | .answered (.ok ()) =>
    match (called.dropGuard guardGeneration).audit world .ceremonySuccess with
    | none => (.forwarded (.error .auditFailed), called.dropGuard guardGeneration)
    | some audited => (.forwarded (.ok ()), audited.clearPreparation gen)

section

variable (gen : Nat) (tuple : CeremonyTuple)

def activateScope : CeremonyAnswer × Endpoint :=
  match scopeAction tuple with
  | none => endpoint.refuse gen .credentialMismatch
  | some action =>
    match endpoint.scope.activate action tuple.rpId with
    | (.error _, _) => endpoint.refuse gen .scopeActivationFailed
    | (.ok guardGeneration, scope) =>
      forward { endpoint with scope } world payload gen guardGeneration

def consume (handle : AuthorizationHandle) : CeremonyAnswer × Endpoint :=
  match endpoint.audit world .policyAllow with
  | none => (.refused .auditFailed, endpoint)
  | some allowed =>
    if handle.intentId.isNone then allowed.refuse gen .auditFailed
    else
      match allowed.audit world .ceremonyStart with
      | none => (.refused .auditFailed, allowed)
      | some started =>
        match started.policyRuntime.consumeAuthorization handle with
        | (.error reason, policyRuntime) =>
          (started.withPolicy policyRuntime).refuse gen (.consumeFailed reason)
        | (.ok _, policyRuntime) =>
          ((started.withPolicy policyRuntime).observe (.consumed handle)).activateScope
            world payload gen tuple

def authorize (uvEnforced : Bool) : CeremonyAnswer × Endpoint :=
  match endpoint.policyRuntime.ceremonyResolvePending env tuple world.freshGrant with
  | (.error _, policyRuntime) =>
    (endpoint.withPolicy policyRuntime).refuse gen .pendingResolveFailed
  | (.ok bound, resolved) =>
    match resolved.authorizeBound env bound ⟨tuple, uvEnforced⟩ world.freshCeremony with
    | ((⟨.allow, _, _⟩, some handle), policyRuntime) =>
      (endpoint.withPolicy policyRuntime).consume world payload gen tuple handle
    | (_, policyRuntime) =>
      (endpoint.withPolicy policyRuntime).refuse gen .boundAuthorizeFailed

/-- The user has decided; the decision is written down before it is followed. -/
def decided (uvEnforced : Bool) : CeremonyAnswer × Endpoint :=
  match endpoint.audit world .promptDecision with
  | none => (.refused .auditFailed, endpoint)
  | some noted =>
    if world.prompt = .approved then
      noted.authorize env world payload gen tuple uvEnforced
    else
      (noted.denyPending tuple).refuse gen (CeremonyState.promptFailure world.prompt)

end

end

def confirm (endpoint : Endpoint) (world : Environment) (payload : Bytes)
    (gen : Nat) (tuple : CeremonyTuple) (policy : AgentCeremonyPolicy) (uvEnforced : Bool) :
    CeremonyAnswer × Endpoint :=
  match policy.authorization with
  | .allow => endpoint.authorize env world payload gen tuple uvEnforced
  | .deny =>
    match endpoint.audit world .policyDeny with
    | none => (.refused .auditFailed, endpoint)
    | some noted => (noted.denyPending tuple).refuse gen (.policyDenied .actionNotAllowed)
  | .confirm =>
    if !world.promptBuilds then endpoint.refuse gen .promptBuildFailed
    else
      match endpoint.audit world .promptDisplay with
      | none => (.refused .auditFailed, endpoint)
      | some shown =>
        (shown.observe (.prompted world.prompt)).decided env world payload
          gen tuple uvEnforced

section

variable (ctx : StaticCeremonyContext) (world : Environment)

def compare (payload : Bytes)
    (preparation : CeremonyPreparation) (gen : Nat) (parsed : ParsedCeremonyRequest) :
    CeremonyAnswer × Endpoint :=
  if preparation.action ≠ parsed.action then (.refused .credentialMismatch, endpoint.clearAll)
  else if preparation.rpId.canonical ≠ parsed.rpId.canonical then
    (.refused .credentialMismatch, endpoint.clearAll)
  else
    match endpoint.policyRuntime.ceremonyPolicy env ctx.profileId
        preparation.policyGeneration preparation.policyDigest preparation.rpId
        preparation.action with
    | none => endpoint.refuse gen (.policyDenied .generationStale)
    | some policy =>
      if !parsed.allowsOnly preparation.credentialRef then
        (.refused .credentialMismatch, endpoint.clearAll)
      else
        endpoint.confirm env world payload gen
          (CeremonyState.ceremonyTuple ctx preparation
            (parsed.credentialRef.or preparation.credentialRef))
          policy
          (preparation.requireUv || policy.userVerification != .none || ctx.requireUv)

/-- The handler of a ceremony, from the bytes of the command. -/
def handleCeremonyCommand (payload : Bytes) : CeremonyAnswer × Endpoint :=
  match endpoint.preparationSlot.preparation with
  | none => (.refused .noPreparation, endpoint)
  | some (preparation, gen) =>
    match parseCeremonyRequest env payload with
    | .error error => endpoint.refuse gen (.responseParseFailed error)
    | .ok parsed =>
      endpoint.compare env ctx world payload preparation gen parsed

/-- A command is a ceremony, is harmless and goes to the authenticator, or is denied. -/
def handleCommand (cmd : Cmd) (payload : Bytes) : CommandReply × Endpoint :=
  let fresh := { endpoint with record := [] }
  match cmd, payload with
  | .other _, _ => (.invalidCommand, fresh)
  | .cbor, [] => (.operationDenied, fresh)
  | .cbor, byte :: data =>
    match classifyCommand byte with
    | .denied | .unknown => (.operationDenied, fresh)
    | .safeNonCeremony => (.passedOn world.inner, fresh.observe (.inner (byte :: data)))
    | .ceremony =>
      let result := fresh.handleCeremonyCommand env ctx world (byte :: data)
      (.ceremony result.1, result.2)

end

theorem audit_cases (world : Environment) (point : AuditPoint) :
    world.auditAccepts point = false /\ endpoint.audit world point = none ∨
      world.auditAccepts point = true /\
        endpoint.audit world point = some (endpoint.observe (.audited point)) := by
  unfold audit
  cases world.auditAccepts point with
  | false => exact .inl ⟨rfl, rfl⟩
  | true => exact .inr ⟨rfl, rfl⟩

end Endpoint

end ControlVault.Ceremony
