import ControlVault.Core.Validation
import ControlVault.Daemon.FailedLaunch

namespace ControlVault.Daemon

open Foundation Core Engine GrantRegistry Table AgentRuntime

/-!
# The lifetime of a browser's grant

A browser asks for a grant that lasts as long as a session of its profile may, or
five minutes where the profile does not say.  The registry refuses what exceeds the
profile's limit for grants, which is five minutes where the profile does not say.
No check of the configuration relates the two.
-/

section

variable (reg : GrantRegistry) (now : Nat) (params : GrantRequestParams) (dynamic : Bool)

/-- The registry has no reason but the lifetime to refuse a request. -/
def Admits : Prop :=
  reg.lastSeenMono <= now /\ (∃ rpIds, validateRpIds params.rpIds = .ok rpIds) /\
    ∃ credentials, credentialScope dynamic params.credentials = .ok credentials

/-- A request that would be accepted for some lifetime is accepted.  Once it is approved, the
grant lasts for the given time. -/
def GrantLasts (fresh : GrantRequestId) (grantId : GrantId) (lifetime : Nat) : Prop :=
  let req := fun params => reg.requestGrantInner now params dynamic fresh
  (∀ other, (req { params with requestedTtlSecs := other }).1 = .ok fresh ->
      (req params).1 = .ok fresh) /\
    ∀ requested, req params = (.ok fresh, requested) ->
      ∀ approved, requested.approveGrant now fresh grantId = (.ok grantId, approved) ->
      ∀ grant, approved.grants.get grantId = some grant -> now + lifetime <= grant.expiryMono

end

variable {reg : GrantRegistry} {params : GrantRequestParams}

theorem requestGrantInner_ok_iff (fresh : GrantRequestId) :
    (reg.requestGrantInner now params dynamic fresh).1 = .ok fresh ↔
      Admits reg now params dynamic /\ params.requestedTtlSecs ≠ 0 /\
        params.requestedTtlSecs <= reg.maxTtlSecs := by
  unfold requestGrantInner Admits
  rcases lt_or_ge now reg.lastSeenMono with late | order
  · simp [checkClock_of_lt late, late.not_ge]
  · rw [checkClock_of_le order]
    cases validated : validateRpIds params.rpIds with
    | error => simp
    | ok =>
      cases scope : credentialScope dynamic params.credentials with
      | error => simp
      | ok =>
        dsimp only
        split_ifs with zero exceeds
        · simp [zero]
        · simp [exceeds]
        · simpa [order, zero] using exceeds

/-- A registry with room issues the grant for the lifetime that was asked for. -/
theorem grantLasts_iff (positive : params.requestedTtlSecs ≠ 0) (some : reg.maxTtlSecs ≠ 0)
    (fresh : GrantRequestId) (grantId : GrantId) (lifetime : Nat) :
    GrantLasts reg now params dynamic fresh grantId lifetime ↔
      (Admits reg now params dynamic -> params.requestedTtlSecs <= reg.maxTtlSecs /\
        (¬reg.IsFull -> lifetime <= params.requestedTtlSecs /\ now + lifetime < 2 ^ 64)) := by
  unfold GrantLasts
  by_cases accepted : Admits reg now params dynamic /\ params.requestedTtlSecs ≠ 0 /\
    params.requestedTtlSecs <= reg.maxTtlSecs
  · have answer := (requestGrantInner_ok_iff fresh).mpr accepted
    rcases accepted with ⟨admits, -, fits⟩
    cases attempt : reg.requestGrantInner now params dynamic fresh with
    | mk _ requested =>
      rw [attempt] at answer
      cases answer
      rcases requestGrantInner_ok attempt with ⟨-, req, stored, asked⟩
      by_cases full : reg.IsFull
      · simp [attempt, stored.approve_of_full full, full, fits]
      · rcases stored.approve_of_not_full full grantId with ⟨rpIds, credentials, issued⟩
        have limit : requested.maxTtlSecs = reg.maxTtlSecs := by rw [stored.after_eq]
        have clamped : clampTtl params.requestedTtlSecs reg.maxTtlSecs =
            params.requestedTtlSecs := by
          rw [clampTtl, minTtlSecs, if_neg (by omega), if_neg fits.not_gt]
        simp [attempt, issued, afterApproval, issuedGrant, saturatingAdd, u64Max, asked, limit,
          full, admits]
        omega
  · have refused : (reg.requestGrantInner now params dynamic fresh).1 ≠ .ok fresh :=
      fun answer => accepted ((requestGrantInner_ok_iff fresh).mp answer)
    constructor
    · intro lasts admits
      exact absurd (lasts.1 reg.maxTtlSecs
        ((requestGrantInner_ok_iff fresh).mpr ⟨admits, some, le_rfl⟩)) refused
    · intro agrees
      have never : ¬Admits reg now params dynamic :=
        fun admits => accepted ⟨admits, positive, (agrees admits).1⟩
      refine ⟨fun other answer => ?_, fun requested attempt => ?_⟩
      · exact absurd ((requestGrantInner_ok_iff fresh).mp answer).1 never
      · exact absurd (congrArg Prod.fst attempt) refused

theorem compileSnapshot_limits (compiled : compileSnapshot env profileId config = .ok snap) :
    snap.maxGrantTtlSecs = (config.maxGrantTtl.map BoundedDuration.secs).getD 300 /\
      snap.maxSessionTtlSecs = (config.maxSessionTtl.map BoundedDuration.secs).getD 3600 := by
  unfold compileSnapshot at compiled
  dsimp only at compiled
  split at compiled
  · cases compiled
  · cases compiled
    exact ⟨rfl, rfl⟩

/-- The browser of a principal or of the administrator gets a grant for the shorter of both
limits exactly if a session is no longer than a grant may be, a longer grant is not left without
a limit for sessions, and the clock does not end before the grant does. -/
theorem browser_grant_lasts_iff (env : Env) (runtime : AgentRuntime) (profileId : ProfileId)
    (profile : ProfileRuntime) (sessionId : PrincipalSessionId) (digest : BitVec 256)
    (endpointId : EndpointId) (reg : GrantRegistry) (now : Nat) (fresh : GrantRequestId)
    (grantId : GrantId) {snap : PolicySnapshot}
    (compiled : compileSnapshot env profileId profile.profileConfig = .ok snap)
    (limit : reg.maxTtlSecs = snap.maxGrantTtlSecs) :
    let params := browserGrantParams env runtime profileId profile sessionId digest endpointId
    let config := profile.profileConfig
    let grantLimit := (config.maxGrantTtl.map BoundedDuration.secs).getD 300
    GrantLasts reg now params (isDynamic config) fresh grantId
        (min snap.maxSessionTtlSecs snap.maxGrantTtlSecs) ↔
      (Admits reg now params (isDynamic config) -> sessionTtlSecs config <= grantLimit /\
        (¬reg.IsFull -> (config.maxSessionTtl = none -> grantLimit <= 300) /\
          now + sessionTtlSecs config < 2 ^ 64)) := by
  intro params config grantLimit
  rcases compileSnapshot_limits compiled with ⟨grants, sessions⟩
  have some : grantLimit ≠ 0 := by
    dsimp only [grantLimit]
    cases config.maxGrantTtl with
    | none => decide
    | some grant => exact Nat.ne_of_gt grant.positive
  have lifetimes : params.requestedTtlSecs ≠ 0 /\ (params.requestedTtlSecs <= grantLimit ->
      (min snap.maxSessionTtlSecs grantLimit <= params.requestedTtlSecs /\
        now + min snap.maxSessionTtlSecs grantLimit < 2 ^ 64 ↔
        (config.maxSessionTtl = none -> grantLimit <= 300) /\
          now + sessionTtlSecs config < 2 ^ 64)) := by
    change sessionTtlSecs config ≠ 0 /\
      (sessionTtlSecs config <= _ -> (_ <= sessionTtlSecs config /\ _ ↔ _))
    rw [sessions, sessionTtlSecs]
    cases config.maxSessionTtl with
    | none =>
      simp
      omega
    | some session =>
      have := session.positive
      simp
      omega
  rw [grantLasts_iff lifetimes.1 (by rwa [limit, grants]), limit, grants]
  refine imp_congr_right fun _ => and_congr_right fun fits => imp_congr_right fun _ => ?_
  exact lifetimes.2 fits

namespace Sample

def lasting (session : Option BoundedDuration) : ProfileRuntime :=
  profileFor { browsing with mode := .sameUser, rpIds := [], maxSessionTtl := session }

def hour : BoundedDuration :=
  ⟨3600, by decide, by decide⟩

def vacant : GrantRegistry :=
  .new ⟨1⟩ ⟨0⟩ 300 .empty 5

def paramsFor (profile : ProfileRuntime) : GrantRequestParams :=
  browserGrantParams sampleEnv host Broker.Sample.agent profile ⟨1⟩ 0 ⟨3⟩

end Sample

open Sample Broker.Sample

/-- Without configured limits the grant lasts as long as the defaults allow. -/
theorem browser_grant_lasts_sample : ∃ snap,
    compileSnapshot sampleEnv agent (lasting none).profileConfig = .ok snap /\
      GrantLasts vacant 0 (paramsFor (lasting none)) true ⟨1⟩ ⟨1⟩
        (min snap.maxSessionTtlSecs snap.maxGrantTtlSecs) := by
  have succeeds :
      (compileSnapshot sampleEnv agent (lasting none).profileConfig).isOk = true := by
    decide +kernel
  cases compiled : compileSnapshot sampleEnv agent (lasting none).profileConfig with
  | error =>
    rw [compiled] at succeeds
    cases succeeds
  | ok snap =>
    refine ⟨snap, rfl,
      (browser_grant_lasts_iff _ host _ _ ⟨1⟩ 0 ⟨3⟩ _ _ _ _ compiled ?_).mpr ?_⟩
    · exact (compileSnapshot_limits compiled).1.symm
    · exact fun _ => ⟨by decide, fun _ => ⟨fun _ => by decide, by decide⟩⟩

/-- A session of an hour is valid, but its grant is refused for its lifetime. -/
theorem hour_refused :
    (lasting (some hour)).profileConfig.validate sampleEnv agent = .ok () /\
      ¬GrantLasts vacant 0 (paramsFor (lasting (some hour))) true ⟨1⟩ ⟨1⟩ 300 := by
  refine ⟨by decide +kernel, fun lasts => ?_⟩
  have accepted := lasts.1 300 (by decide +kernel)
  revert accepted
  decide +kernel

end ControlVault.Daemon
