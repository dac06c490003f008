import ControlVault.Engine.Runtime

namespace ControlVault.Engine

open Foundation Core

/-!
# Questions to the policy runtime

Calls of the runtime that only read its state.  The daemon asks them before it
acts; none of them can fail halfway, so each is a function of the state.
-/

inductive PendingStatusError
  | notFound
  | sessionMismatch

/-- A pending request as its principal sees it. -/
structure PendingStatusSnapshot where
  kind : PendingRequestKind
  state : PendingState
  profileId : ProfileId
  intentId : IntentId
  grantRequestId : Option GrantRequestId

namespace PolicyRuntime

/-- The policy of a ceremony, if it was prepared under the current generation. -/
def ceremonyPolicy (env : Env) (runtime : PolicyRuntime) (profileId : ProfileId)
    (generationId : PolicyGenerationId) (generationDigest : PolicyDigest) (rpId : Text)
    (action : IntentAction) : Option AgentCeremonyPolicy :=
  if runtime.current.generationId ≠ generationId ∨ runtime.current.digest ≠ generationDigest then none
  else
    (runtime.current.findSnapshot profileId).bind (fun snap =>
      snap.ceremonyPolicy env rpId action)

variable (runtime : PolicyRuntime)

/-- Whether a registration may be requested at all: the relying party needs a rule of its own. -/
def authorizeRegistration (profileId : ProfileId) (rpId : Text) : Outcome × ReasonCode :=
  match runtime.current.findSnapshot profileId with
  | none => (.deny, .profileNotFound)
  | some snap =>
    if !snap.registrationAllowed then (.deny, .delegatedRegistrationDenied)
    else
      match snap.rules.find? (fun rule => rule.rpId.canonical = rpId.canonical) with
      | none => (.deny, .rpIdNotExactMatch)
      | some rule =>
        if rule.permits .register then (.allow, .allowed) else (.deny, .actionNotAllowed)

/-- A request that waits past its deadline is shown as timed out. -/
def principalPendingStatus (id : PendingRequestId) (sessionId : PrincipalSessionId) :
    Except PendingStatusError PendingStatusSnapshot :=
  match runtime.pendingRequests.get id with
  | none => .error .notFound
  | some req =>
    if req.sessionId ≠ sessionId then .error .sessionMismatch
    else
      .ok
        { kind := req.kind
          state :=
            if req.state = .waiting /\ req.deadlineMono <= runtime.clockSecs then .timedOut
            else req.state
          profileId := req.profileId
          intentId := req.intentId
          grantRequestId := req.grantRequestId }

/-- The last of the youngest grants, as `max_by_key` chooses among equal keys. -/
def youngest (grants : List (RegistrationGrantId × RegistrationGrant)) :
    Option (RegistrationGrantId × RegistrationGrant) :=
  grants.foldl
    (fun best entry =>
      match best with
      | none => some entry
      | some chosen =>
        if chosen.2.issuedAtMono <= entry.2.issuedAtMono then some entry else some chosen)
    none

theorem youngest_mem {grants : List (RegistrationGrantId × RegistrationGrant)}
    {entry : RegistrationGrantId × RegistrationGrant}
    (found : youngest grants = some entry) : entry ∈ grants := by
  have carried : ∀ (rest : List (RegistrationGrantId × RegistrationGrant))
      (best : Option (RegistrationGrantId × RegistrationGrant)),
      rest.foldl (fun best entry =>
        match best with
        | none => some entry
        | some chosen =>
          if chosen.2.issuedAtMono <= entry.2.issuedAtMono then some entry else some chosen)
        best = some entry -> best = some entry ∨ entry ∈ rest := by
    intro rest
    induction rest with
    | nil => exact fun _ same => .inl same
    | cons head tail ih =>
      intro best same
      rcases ih _ same with earlier | later
      · dsimp only at earlier
        split at earlier
        · cases earlier
          exact .inr List.mem_cons_self
        · split_ifs at earlier
          · cases earlier
            exact .inr List.mem_cons_self
          · exact .inl earlier
      · exact .inr (List.mem_cons_of_mem _ later)
  exact (carried grants none found).resolve_left nofun

/-- The registration grant that a registration at a relying party would use. -/
def activeRegistrationGrant (profileId : ProfileId) (rpId : Text) :
    Option (RegistrationGrantId × RegistrationGrant) :=
  match normalizeGrantRpId rpId, runtime.registrationGrants.get profileId with
  | .ok normalized, some reg =>
    youngest (reg.grants.toList.filter (fun entry =>
      entry.2.state = .active && entry.2.rpId = normalized &&
        runtime.clockSecs < entry.2.expiryMono))
  | _, _ => none

end PolicyRuntime

end ControlVault.Engine
