import ControlVault.Daemon.State

namespace ControlVault.Daemon

open Foundation Core Engine Storage Broker
open Ceremony

/-!
# Intents of principals

A principal of an isolated profile asks for one ceremony.  The request is stored
with the policy runtime, the preparation is put into the profile's slot, and the
profile remembers both until the ceremony, a cancellation or a cleanup ends
them.

The reason that a principal gives and the lifetimes it asks for reach only the
prompt and are left out.
-/

/-- What a principal asks for. -/
structure IntentRequest where
  action : IntentAction
  rpId : Text
  credentialRef : Option CredentialRef

/-- The answers of the outside world during one request. -/
structure IntentOccasion where
  audited : Except Text Unit
  freshIntent : IntentId
  freshPending : PendingRequestId

def pendingCreateMessage : PendingCreateError -> Text
  | .intentCreationFailed error => "intent creation failed: " ++ error.message
  | .grantRequestFailed error => "grant request failed: " ++ error.message

namespace AgentRuntime

variable (env : Env)

/-- The checks of `handle_create_intent` on the profile, the rule and the credential. -/
def checkIntent (profile : ProfileRuntime) (store : LocalStorageAdapter) (req : IntentRequest) :
    Except ProtocolError AgentCeremonyPolicy :=
  if profile.mode ≠ .isolated then
    .error (.forbidden "CreateIntent is allowed only for isolated profiles")
  else
    match (profile.profileConfig.ruleForRp env req.rpId.canonical).map (fun rule =>
        rule.policyFor req.action) with
    | none => .error (.forbidden "RP ID does not exactly match configured RP IDs")
    | some policy =>
      if policy.authorization = .deny then
        .error (.forbidden "RP ID does not exactly match configured RP IDs")
      else
        match req.action, req.credentialRef with
        | .register, some _ =>
          .error (.forbidden "registration must not include a credential ref")
        | .register, none => .ok policy
        | .authenticate, none =>
          .error (.badRequest "authentication requires a credential ref")
        | .authenticate, some ref =>
          -- The store is asked for the identifier that is spelled like the reference.
          if (store.read (bytesOf ref.bytes)).isOk then .ok policy
          else .error (.notFound "credential ref not found in storage")

/-- What the ceremony is authorized for later. -/
def intentParams (runtime : AgentRuntime) (profileId : ProfileId)
    (session : ManagedPrincipalSession) (endpointId : EndpointId) (req : IntentRequest)
    (policy : AgentCeremonyPolicy) : CreateIntentParams where
  profileId
  sessionId := session.sessionId
  endpointId
  processDigest := session.processDigest
  policyGeneration := runtime.policyRuntime.current.generationId
  policyDigest := runtime.policyRuntime.current.digest
  action := req.action
  rpId := req.rpId.canonical
  credentialRef := req.credentialRef
  requireUv := policy.userVerification != .none
  ttlMs := some 300000

def preparationOf (params : CreateIntentParams) : CeremonyPreparation where
  sessionId := params.sessionId
  processDigest := params.processDigest
  policyGeneration := params.policyGeneration
  policyDigest := params.policyDigest
  credentialRef := params.credentialRef
  rpId := params.rpId
  action := params.action
  requireUv := params.requireUv

section

variable (runtime : AgentRuntime) (profileId : ProfileId) (profile : ProfileRuntime)

/-- A stored request is put into the slot of its profile. -/
def prepare
    (params : CreateIntentParams) (occasion : IntentOccasion) (requestId : PendingRequestId) :
    Except ProtocolError PendingRequestId × AgentRuntime :=
  let cancelled :=
    runtime.withPolicy (runtime.policyRuntime.principalCancelPending requestId params.sessionId).2
  match profile.preparationSlot.install (preparationOf params) with
  | (none, _) =>
    (.error ⟨.conflict, "failed to install preparation: preparation already active", .retry⟩,
      cancelled)
  | (some gen, slot) =>
    match runtime.policyRuntime.principalPendingStatus requestId params.sessionId with
    | .error _ =>
      (.error (.internal "failed to read pending status" .abort),
        runtime.modifyProfile profileId (fun profile => { profile with preparationSlot := slot }))
    | .ok _ =>
      match occasion.audited with
      | .error message =>
        (.error (.internal ("audit record failed: " ++ message) .abort),
          cancelled.modifyProfile profileId (fun profile =>
            { profile with preparationSlot := slot.clearMatching gen }))
      | .ok () =>
        (.ok requestId,
          runtime.modifyProfile profileId (fun profile =>
            { profile with
              preparationSlot := slot
              currentPending := some ⟨requestId, gen, params.sessionId⟩ }))

/-- Store the request, unless another one stands in the slot. -/
def openIntent (params : CreateIntentParams) (occasion : IntentOccasion) :
    Except ProtocolError PendingRequestId × AgentRuntime :=
  if profile.currentPending.isSome then
    (.error ⟨.conflict, "another pending request is already active for this profile",
      .retryWithBackoff⟩, runtime)
  else if (runtime.policyRuntime.current.findSnapshot profileId).isNone then
    (.error (.internal "profile snapshot not found in current generation" .abort), runtime)
  else
    match runtime.policyRuntime.principalCreatePendingIntent params occasion.freshIntent
        occasion.freshPending with
    | (.error error, policyRuntime) =>
      (.error (.internal
        ("failed to create pending intent: " ++ pendingCreateMessage error) .retry),
        runtime.withPolicy policyRuntime)
    | (.ok requestId, policyRuntime) =>
      (runtime.withPolicy policyRuntime).prepare profileId profile params occasion requestId

def handleCreateIntent
    (session : ManagedPrincipalSession) (endpointId : EndpointId) (req : IntentRequest)
    (occasion : IntentOccasion) : Except ProtocolError PendingRequestId × AgentRuntime :=
  match checkIntent env profile (runtime.storageOf profileId profile) req with
  | .error error => (.error error, runtime)
  | .ok policy =>
    runtime.openIntent profileId profile
      (runtime.intentParams profileId session endpointId req policy) occasion

end

/-! ## The list of a principal's credentials -/

/-- A credential as its principal sees it; the names are never filled in. -/
structure PrincipalCredentialSummary where
  credentialRef : CredentialRef
  rpId : Text
  deriving DecidableEq

def handleListCredentials (profile : ProfileRuntime) : List PrincipalCredentialSummary :=
  (profile.profileConfig.credentialRefs.getD []).map (fun ref =>
    { credentialRef := ref
      rpId := profile.profileConfig.allowedRpIds.headD [] })

/-! ## Which requests are refused because nothing was found -/

variable {env} {runtime : AgentRuntime}

theorem prepare_error_code
    (failed : runtime.prepare profileId profile params occasion requestId = (.error error, after)) :
    error.code ≠ .notFound := by
  unfold prepare at failed
  split at failed
  · cases failed
    decide
  · split at failed
    · cases failed
      simp [ProtocolError.internal]
    · split at failed
      · cases failed
        simp [ProtocolError.internal]
      · cases failed

theorem openIntent_error_code
    (failed : runtime.openIntent profileId profile params occasion = (.error error, after)) :
    error.code ≠ .notFound := by
  unfold openIntent at failed
  split at failed
  · cases failed
    decide
  · split at failed
    · cases failed
      simp [ProtocolError.internal]
    · split at failed
      · cases failed
        simp [ProtocolError.internal]
      · exact prepare_error_code failed

end AgentRuntime

end ControlVault.Daemon
