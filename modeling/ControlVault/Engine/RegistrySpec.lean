import ControlVault.Engine.Grant

namespace ControlVault.Engine

open Foundation Core Table

/-!
# What an operation can do to a grant registry

Most operations only take authority away: an active grant becomes revoked or
expired, an open request is closed or forgotten.  Such operations shrink the
registry, and shrinking composes.  The two that do more are a new request and the
approval of a request, each of which adds one entry under a new identifier.
-/

variable {reg : GrantRegistry}

namespace GrantRegistry

inductive GrantShrinks : Option Grant -> Option Grant -> Prop
  | kept (entry : Option Grant) : GrantShrinks entry entry
  | left {grant : Grant} {target : GrantState} (active : grant.state = .active)
      (final : target ≠ .active) : GrantShrinks (some grant) (some { grant with state := target })

/-- A request is forgotten when the session it is for has ended. -/
inductive RequestShrinks (ended : PrincipalSessionId -> Prop) :
    Option GrantRequest -> Option GrantRequest -> Prop
  | kept (entry : Option GrantRequest) : RequestShrinks ended entry entry
  | cancelled {req : GrantRequest} (unresolved : req.resolved = false) :
      RequestShrinks ended (some req) (some { req with resolved := true })
  | removed {req : GrantRequest} (exit : ended req.sessionId) :
      RequestShrinks ended (some req) none

theorem GrantShrinks.trans (before : GrantShrinks first second)
    (after : GrantShrinks second third) : GrantShrinks first third := by
  cases before with
  | kept => exact after
  | left active final =>
    cases after with
    | kept => exact .left active final
    | left again _ => exact absurd again final

theorem RequestShrinks.trans (weaker : ∀ sessionId, earlier sessionId -> later sessionId)
    (before : RequestShrinks earlier first second) (after : RequestShrinks later second third) :
    RequestShrinks later first third := by
  cases before with
  | kept => exact after
  | cancelled unresolved =>
    cases after with
    | kept => exact .cancelled unresolved
    | cancelled again => cases again
    | removed exit => exact .removed exit
  | removed exit =>
    cases after with
    | kept => exact .removed (weaker _ exit)

theorem GrantShrinks.of_leave (grant : Grant) (final : target ≠ .active) :
    GrantShrinks (some grant) (some (grant.leave target)) := by
  rw [Grant.leave]
  split_ifs with active
  · exact .left active final
  · exact .kept _

theorem GrantShrinks.of_mapped (test : Grant -> Prop) [DecidablePred test]
    (final : target ≠ .active) (entry : Option Grant) :
    GrantShrinks entry (entry.map (fun grant => if test grant then grant.leave target else grant)) := by
  cases entry with
  | none => exact .kept _
  | some grant =>
    rw [Option.map_some]
    split_ifs
    · exact .of_leave grant final
    · exact .kept _

/-- No grant of the session is active. -/
def SessionEnded (reg : GrantRegistry) (sessionId : PrincipalSessionId) : Prop :=
  ∀ id grant, reg.grants.get id = some grant -> grant.sessionId = sessionId ->
    grant.state ≠ .active

/-- Authority was taken away at most. -/
structure Shrinks (before after : GrantRegistry) : Prop where
  policyGeneration : after.policyGeneration = before.policyGeneration
  policyDigest : after.policyDigest = before.policyDigest
  grants : ∀ id, GrantShrinks (before.grants.get id) (after.grants.get id)
  requests : ∀ id, RequestShrinks after.SessionEnded (before.pendingRequests.get id)
    (after.pendingRequests.get id)

namespace Shrinks

variable {after : GrantRegistry}

theorem refl (reg : GrantRegistry) : Shrinks reg reg :=
  ⟨rfl, rfl, fun _ => .kept _, fun _ => .kept _⟩

section

variable (shrinks : Shrinks reg after)

include shrinks

theorem grant_before {id : GrantId} (found : after.grants.get id = some grant) :
    ∃ earlier, reg.grants.get id = some earlier /\
      (grant = earlier ∨ earlier.state = .active /\ grant.state ≠ .active) := by
  have move := shrinks.grants id
  rw [found] at move
  generalize reg.grants.get id = entry at move
  cases move with
  | kept => exact ⟨grant, rfl, .inl rfl⟩
  | left active final => exact ⟨_, rfl, .inr ⟨active, final⟩⟩

theorem request_before {id : GrantRequestId} (found : after.pendingRequests.get id = some req) :
    ∃ earlier, reg.pendingRequests.get id = some earlier /\
      (req = earlier ∨ earlier.resolved = false /\ req = { earlier with resolved := true }) := by
  have move := shrinks.requests id
  rw [found] at move
  generalize reg.pendingRequests.get id = entry at move
  cases move with
  | kept => exact ⟨req, rfl, .inl rfl⟩
  | cancelled unresolved => exact ⟨_, rfl, .inr ⟨unresolved, rfl⟩⟩

theorem sessionEnded (sessionId : PrincipalSessionId) (ended : reg.SessionEnded sessionId) :
    after.SessionEnded sessionId := by
  intro id grant found session
  rcases shrinks.grant_before found with ⟨_, stored, rfl | ⟨_, final⟩⟩
  · exact ended id _ stored session
  · exact final

end

theorem trans (first : Shrinks reg middle) (second : Shrinks middle after) :
    Shrinks reg after where
  policyGeneration := second.policyGeneration.trans first.policyGeneration
  policyDigest := second.policyDigest.trans first.policyDigest
  grants := fun id => (first.grants id).trans (second.grants id)
  requests := fun id => (first.requests id).trans second.sessionEnded (second.requests id)

section

variable (reg : GrantRegistry)

/-- Claims and the last seen time are no authority of their own. -/
theorem of_claims (claims : Table CeremonyId AuthorizationClaim) (lastSeenMono : Nat) :
    Shrinks reg { reg with claims, lastSeenMono } :=
  ⟨rfl, rfl, fun _ => .kept _, fun _ => .kept _⟩

theorem of_failClosedAll : Shrinks reg reg.failClosedAll := by
  refine ⟨rfl, rfl, fun id => ?_, fun _ => .kept _⟩
  rw [failClosedAll, get_mapValues]
  cases reg.grants.get id with
  | none => exact .kept _
  | some grant => exact .of_leave grant GrantState.noConfusion

theorem of_checkExpired (now : Nat) : Shrinks reg (reg.checkExpired now) := by
  refine ⟨rfl, rfl, fun id => ?_, fun _ => .kept _⟩
  rw [checkExpired, get_mapValues]
  exact .of_mapped (fun grant => grant.expiryMono <= now) GrantState.noConfusion _

theorem of_revokeGrant (id : GrantId) : Shrinks reg (reg.revokeGrant id).2 := by
  rw [revokeGrant]
  cases found : reg.grants.get id with
  | none => exact refl reg
  | some grant =>
    simp only []
    split_ifs
    · exact refl reg
    · refine ⟨rfl, rfl, fun other => ?_, fun _ => .kept _⟩
      rw [get_insert]
      split_ifs with same
      · rw [same, found]
        exact .of_leave grant GrantState.noConfusion
      · exact .kept _

theorem of_cancelRequest (id : GrantRequestId) :
    Shrinks reg (reg.cancelRequest id).2 := by
  rw [cancelRequest]
  cases found : reg.pendingRequests.get id with
  | none => exact refl reg
  | some =>
    simp only []
    split_ifs with resolved
    · exact refl reg
    · refine ⟨rfl, rfl, fun _ => .kept _, fun other => ?_⟩
      rw [get_insert]
      split_ifs with same
      · rw [same, found]
        exact .cancelled (Bool.eq_false_of_not_eq_true resolved)
      · exact .kept _

theorem of_terminateRequest (id : GrantRequestId) :
    Shrinks reg (reg.terminateRequest id) := by
  rw [terminateRequest]
  cases reg.resolvedGrantId id with
  | none => exact of_cancelRequest reg id
  | some grantId => exact (of_revokeGrant reg grantId).trans (of_cancelRequest _ id)

theorem of_onPrincipalExit (sessionId : PrincipalSessionId) :
    Shrinks reg (reg.onPrincipalExit sessionId) := by
  have grants : ∀ id, (reg.onPrincipalExit sessionId).grants.get id =
      (reg.grants.get id).map (fun grant =>
        if grant.sessionId = sessionId then grant.leave .revoked else grant) :=
    fun id => get_mapValues _ _ _
  refine ⟨rfl, rfl, fun id => ?_, fun id => ?_⟩
  · rw [grants]
    exact .of_mapped (fun grant => grant.sessionId = sessionId) GrantState.noConfusion _
  · have ended : (reg.onPrincipalExit sessionId).SessionEnded sessionId := by
      intro id grant found session
      rw [grants] at found
      rcases Option.map_eq_some_iff.mp found with ⟨_, -, left⟩
      split_ifs at left with same
      · rw [<- left, Grant.leave]
        split_ifs with active
        · exact GrantState.noConfusion
        · exact active
      · rw [<- left] at session
        exact absurd session same
    rw [onPrincipalExit, get_retain]
    cases found : reg.pendingRequests.get id with
    | none => exact .kept _
    | some req =>
      rw [Option.filter_some]
      split_ifs with other
      · exact .kept _
      · have same : req.sessionId = sessionId := by simpa using other
        exact .removed (same ▸ ended)

end

end Shrinks

/-! ## Requests, approvals and claims -/

/-- A stored request that nobody has decided. -/
structure IsOpenRequest (req : GrantRequest) : Prop where
  unresolved : req.resolved = false
  noGrant : req.resolvedGrantId = none

inductive Requested (reg : GrantRegistry) (now : Nat) (params : GrantRequestParams)
    (fresh : GrantRequestId) : Except GrantError GrantRequestId -> GrantRegistry -> Prop
  | refused {error : GrantError} {after : GrantRegistry} (shrinks : reg.Shrinks after) :
      Requested reg now params fresh (.error error) after
  | stored (isOpen : IsOpenRequest req) :
      Requested reg now params fresh (.ok fresh) { reg with
        lastSeenMono := now
        pendingRequests := reg.pendingRequests.insert fresh req }

variable {now : Nat} {id : GrantRequestId}

theorem checkClock_of_le (order : reg.lastSeenMono <= now) :
    reg.checkClock now = (.ok (), { reg with lastSeenMono := now }) :=
  if_neg (not_lt.mpr order)

theorem checkClock_of_lt (late : now < reg.lastSeenMono) :
    reg.checkClock now = (.error .clockAmbiguity, reg.failClosedAll) :=
  if_pos late

theorem requestGrantInner_spec (reg : GrantRegistry) (now : Nat) (params : GrantRequestParams)
    (allowEmptyCredentials : Bool) (fresh : GrantRequestId) :
    Requested reg now params fresh
      (reg.requestGrantInner now params allowEmptyCredentials fresh).1
      (reg.requestGrantInner now params allowEmptyCredentials fresh).2 := by
  rw [requestGrantInner]
  rcases lt_or_ge now reg.lastSeenMono with late | order
  · rw [checkClock_of_lt late]
    exact .refused (.of_failClosedAll reg)
  · have clocked : reg.Shrinks { reg with lastSeenMono := now } :=
      .of_claims reg reg.claims now
    rw [checkClock_of_le order]
    cases validateRpIds params.rpIds with
    | error => exact .refused clocked
    | ok =>
      simp only []
      cases credentialScope allowEmptyCredentials params.credentials with
      | error => exact .refused clocked
      | ok =>
        split_ifs
        · exact .refused clocked
        · exact .refused clocked
        · exact .stored ⟨rfl, rfl⟩

theorem requestGrant_ok (attempt : reg.requestGrant now params fresh = (.ok id, after)) :
    id = fresh := by
  have requested := reg.requestGrantInner_spec now params false fresh
  rw [requestGrant] at attempt
  rw [attempt] at requested
  cases requested with
  | stored => rfl

/-- The registry after an approval. -/
def afterApproval (reg : GrantRegistry) (now : Nat) (id : GrantRequestId) (fresh : GrantId)
    (req : GrantRequest) (rpIds : SortedSet Text) (credentials : SortedSet CredentialRef) :
    GrantRegistry :=
  { reg with
    lastSeenMono := now
    grants := reg.grants.insert fresh (reg.issuedGrant now req rpIds credentials)
    pendingRequests := reg.pendingRequests.insert id
      { req with resolved := true, resolvedGrantId := some fresh } }

section

variable (reg : GrantRegistry) (now : Nat) (id : GrantRequestId) (fresh : GrantId)

inductive Approved : Except GrantError GrantId -> GrantRegistry -> Prop
  | late (late : now < reg.lastSeenMono) (shrinks : reg.Shrinks after) :
      Approved (.error .clockAmbiguity) after
  | refused (order : reg.lastSeenMono <= now)
      (checks : reg.approvable id = .error error) (shrinks : reg.Shrinks after) :
      Approved (.error error) after
  | issued (order : reg.lastSeenMono <= now)
      (checks : reg.approvable id = .ok (req, rpIds, credentials)) :
      Approved (.ok fresh) (reg.afterApproval now id fresh req rpIds credentials)

end

theorem approveGrant_spec (reg : GrantRegistry) (now : Nat) (id : GrantRequestId)
    (fresh : GrantId) :
    Approved reg now id fresh (reg.approveGrant now id fresh).1
      (reg.approveGrant now id fresh).2 := by
  rw [approveGrant]
  rcases lt_or_ge now reg.lastSeenMono with late | order
  · rw [checkClock_of_lt late]
    exact .late late (.of_failClosedAll reg)
  · rw [checkClock_of_le order]
    have same : approvable { reg with lastSeenMono := now } id = reg.approvable id := rfl
    simp only [same]
    cases checks : reg.approvable id with
    | error => exact .refused order checks (.of_claims reg reg.claims now)
    | ok result =>
      exact .issued order checks

/-- An approval that succeeds stores an active grant and notes it in the request. -/
theorem Approved.of_ok (approved : reg.Approved now id fresh (.ok grantId) after) :
    grantId = fresh /\ after.resolvedGrantId id = some fresh /\
      ∃ grant, after.grants.get fresh = some grant /\ grant.state = .active := by
  cases approved with
  | issued =>
    refine ⟨rfl, ?_, ?_⟩
    · rw [resolvedGrantId, afterApproval, get_insert_self]
      rfl
    · rw [afterApproval, get_insert_self]
      exact ⟨_, rfl, rfl⟩

theorem approvable_ok (checks : reg.approvable id = .ok (req, rpIds, credentials)) :
    reg.pendingRequests.get id = some req /\ req.resolved = false := by
  unfold approvable at checks
  cases found : reg.pendingRequests.get id with
  | none => simp [found] at checks
  | some stored =>
    simp only [found] at checks
    split_ifs at checks with resolved full
    cases scope : validateRpIds stored.rpIds with
    | error error => simp [scope] at checks
    | ok rps =>
      simp only [scope] at checks
      cases set : credentialScope stored.allowEmptyCredentials stored.credentials with
      | error error => simp [set] at checks
      | ok refs =>
        simp only [set] at checks
        rcases checks with ⟨rfl, -, -⟩
        exact ⟨rfl, Bool.eq_false_of_not_eq_true resolved⟩

/-- What a grant has to offer to a ceremony that claims it. -/
structure Covers (reg : GrantRegistry) (now : Nat) (grant : Grant)
    (sessionId : PrincipalSessionId) (intent : ClaimIntent) : Prop where
  active : grant.state = .active
  inTime : now < grant.expiryMono
  session : grant.sessionId = sessionId
  generation : grant.policyGeneration = reg.policyGeneration
  digest : grant.policyDigest = reg.policyDigest
  rpId : rpScopeContains grant.rpIds intent.rpId.canonical = true
  credential : grant.credentials.contains intent.credentialRef = true
  action : reg.allowedActions.contains intent.action = true

section

variable (reg : GrantRegistry) (now : Nat) (id : GrantId) (sessionId : PrincipalSessionId)
  (intent : ClaimIntent) (fresh : CeremonyId)

inductive ClaimMade : Except GrantError CeremonyId -> GrantRegistry -> Prop
  | refused {error : GrantError} {after : GrantRegistry} (shrinks : reg.Shrinks after) :
      ClaimMade (.error error) after
  | made (shrinks : reg.Shrinks after) (found : after.grants.get id = some grant)
      (covers : reg.Covers now grant sessionId intent) :
      ClaimMade (.ok fresh) after

end

theorem normalizeGrantRpId_ok
    (accepted : normalizeGrantRpId raw = .ok normalized) : normalized = raw.canonical := by
  unfold normalizeGrantRpId at accepted
  simp only [] at accepted
  split_ifs at accepted
  exact (Except.ok.inj accepted).symm

/-- A sweep leaves no active grant that is past its expiry. -/
theorem checkExpired_active {id : GrantId}
    (found : (reg.checkExpired now).grants.get id = some grant)
    (active : grant.state = .active) :
    now < grant.expiryMono := by
  rw [checkExpired, get_mapValues] at found
  rcases Option.map_eq_some_iff.mp found with ⟨_, -, swept⟩
  split_ifs at swept with late
  · rw [Grant.leave] at swept
    split_ifs at swept with wasActive
    · subst swept
      cases active
    · subst swept
      exact absurd active wasActive
  · subst swept
    exact not_le.mp late

theorem claimable_ok {id : GrantId}
    (checks : (reg.checkExpired now).claimable id sessionId intent = .ok normalizedRp) :
    ∃ grant, (reg.checkExpired now).grants.get id = some grant /\
      reg.Covers now grant sessionId intent := by
  unfold claimable at checks
  cases accepted : normalizeGrantRpId intent.rpId with
  | error error => simp [accepted] at checks
  | ok =>
    cases found : (reg.checkExpired now).grants.get id with
    | none => simp [accepted, found] at checks
    | some grant =>
      simp only [accepted, found] at checks
      split_ifs at checks with inactive session policy rpId cred action
      simp only [not_or, not_not] at inactive session policy
      simp only [Bool.not_eq_true', Bool.not_eq_false] at rpId cred action
      rw [normalizeGrantRpId_ok accepted] at rpId
      exact ⟨grant, rfl, inactive, checkExpired_active found inactive, session, policy.1,
        policy.2, rpId, cred, action⟩

theorem claimForAuthorize_spec (reg : GrantRegistry) (now : Nat) (id : GrantId)
    (sessionId : PrincipalSessionId) (intent : ClaimIntent) (fresh : CeremonyId) :
    ClaimMade reg now id sessionId intent fresh
      (reg.claimForAuthorize now id sessionId intent fresh).1
      (reg.claimForAuthorize now id sessionId intent fresh).2 := by
  rw [claimForAuthorize]
  rcases lt_or_ge now reg.lastSeenMono with late | order
  · rw [checkClock_of_lt late]
    exact .refused (.of_failClosedAll reg)
  · rw [checkClock_of_le order]
    have clocked : reg.Shrinks { reg with lastSeenMono := now } :=
      .of_claims reg reg.claims now
    have swept := clocked.trans (.of_checkExpired { reg with lastSeenMono := now } now)
    simp only []
    cases checks : (checkExpired { reg with lastSeenMono := now } now).claimable id sessionId
        intent with
    | error error => exact .refused swept
    | ok normalizedRp =>
      rcases claimable_ok checks with ⟨_, found, covers⟩
      exact .made (swept.trans (.of_claims _ _ _)) found
        ⟨covers.active, covers.inTime, covers.session, covers.generation, covers.digest,
          covers.rpId, covers.credential, covers.action⟩

end GrantRegistry

end ControlVault.Engine
