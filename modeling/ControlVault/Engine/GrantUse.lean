import ControlVault.Engine.Exhaustion
import ControlVault.Engine.Registries
import ControlVault.Engine.Scenario

namespace ControlVault.Engine

open Foundation Core

/-!
# The grant behind a consumed authorization

A ceremony that uses a grant claims it when it is authorized, and everything about
the grant is checked then.  The consumption that follows later only looks at the
stored state of the grant and at its generation.  What does not change in between
needs no second check: the session, the scope and the generation of a grant are
fixed, and every revocation shows in the stored state.

The expiry is different.  It is written into the stored state by sweeps, and the
consumption makes none.
-/

variable {grant : Grant} {env : Env}

/-- The grant covers what was authorized. -/
structure Grant.Fits (env : Env) (grant : Grant) (auth : Authorization)
    (gen : PolicyGenerationId) : Prop where
  session : grant.sessionId = auth.sessionId
  generation : grant.policyGeneration = gen
  rpId : rpScopeContains grant.rpIds auth.rpId.canonical = true
  credential : grant.credentials.contains
    (auth.credentialRef.getD (.withDefaultDomain env [])) = true

/-- The grant that an authorization names, in the registry of its profile. -/
def PolicyRuntime.Holds (state : PolicyRuntime) (auth : Authorization) (grantId : GrantId)
    (grant : Grant) : Prop :=
  ∃ reg, state.grants.get auth.profileId = some reg /\
    reg.grants.get grantId = some grant

/-! ## When the ceremony is opened -/

variable {after : PolicyRuntime} {grantId : GrantId} {req : AuthorizationRequest}
  {handle : AuthorizationHandle} {events : List Event} {event : Event}

/-- The grant of a ceremony fits it and is in date when the ceremony is opened. -/
theorem PolicyRuntime.BoundAuthorized.holds
    (authorized : BoundAuthorized env runtime bound req fresh (decision, some handle)
      after) (registered : Registered events runtime) (named : handle.grantId = some grantId) :
    after.current = runtime.current /\ ∃ grant, after.Holds handle.toAuthorization grantId grant /\
      grant.Fits env handle.toAuthorization runtime.current.generationId /\
      after.clockSecs < grant.expiryMono := by
  cases authorized with
  | opened checks claimable noGrant => cases noGrant.symm.trans named
  | @openedWithGrant claimedId reg claimed ceremonyId snap id intent checks claimable
      boundNamed there claim =>
      cases boundNamed.symm.trans named
      have spec := reg.claimForAuthorize_spec runtime.clockSecs grantId bound.sessionId
        (claimIntentOf env bound) fresh
      rw [claim] at spec
      cases spec with
      | @made _ grant shrinks found covers =>
        have gen := (registered bound.profileId reg there).policyGeneration
        refine ⟨rfl, grant, ⟨claimed, Table.get_insert_self _ _ _, found⟩,
          ⟨covers.session, covers.generation.trans gen, ?_, covers.credential⟩,
          covers.inTime⟩
        have scope := covers.rpId
        rwa [claimIntentOf, Text.canonical_canonical] at scope

theorem PolicyRuntime.Authorized.noGrant
    (authorized : Authorized env runtime req fresh (decision, some handle) after) :
    handle.grantId = none := by
  cases authorized with
  | opened => rfl

theorem Event.Authorizes.holds (authorizes : event.Authorizes handle)
    (executed : event.before.exec env event.operation = (event.answer, event.after))
    (registered : Registered events event.before) (named : handle.grantId = some grantId) :
    event.after.current = event.before.current /\
    ∃ grant, event.after.Holds handle.toAuthorization grantId grant /\
      grant.Fits env handle.toAuthorization event.before.current.generationId /\
      event.after.clockSecs < grant.expiryMono := by
  cases op : event.operation with
  | authorize =>
    have noGrant := (authorizes.authorized executed op).noGrant
    cases noGrant.symm.trans named
  | authorizeBound =>
    exact (authorizes.boundAuthorized executed op).holds registered named
  | _ =>
    rw [op] at executed
    have answered := (congrArg Prod.fst executed).trans authorizes
    cases answered

/-! ## One step -/

/-- A grant that was not issued by this event keeps everything but its state. -/
theorem RegistryEffect.grantShrinks {reg after : GrantRegistry}
    (effect : RegistryEffect event reg after)
    (undrawn : grantId.fresh ∉ event.operation.drawn) :
    GrantRegistry.GrantShrinks (reg.grants.get grantId) (after.grants.get grantId) := by
  cases effect with
  | shrinks shrinks => exact shrinks.grants grantId
  | requested => exact .kept _
  | @approved issued rpIds credentials id req drawn checks =>
    have different : grantId ≠ issued := by
      rintro rfl
      exact undrawn drawn
    rw [GrantRegistry.afterApproval, Table.get_insert_of_ne _ _ different]
    exact .kept _

section OneStep

variable {before : PolicyRuntime} (step : Step env before event after)

include step

/-- Where a ceremony is still open, no reload took place. -/
theorem Step.current_of_open (isOpen : after.pending.get ceremony = some ⟨auth, false⟩) :
    after.current = before.current := by
  rcases step.current_or_reloaded with current | ⟨_, invalidated⟩
  · exact current
  · cases invalidated ceremony _ isOpen

theorem Step.holds_shrinks (isOpen : after.pending.get ceremony = some ⟨auth, false⟩)
    (registered : Registered events before) (fresh : Fresh start (events ++ [event]))
    (holds : before.Holds auth grantId grant) :
    ∃ reg, after.grants.get auth.profileId = some reg /\
      GrantRegistry.GrantShrinks (some grant) (reg.grants.get grantId) := by
  rcases holds with ⟨reg, there, found⟩
  have undrawn : grantId.fresh ∉ event.operation.drawn := fun now =>
    fresh.unused now ((registered _ reg there).grantsKnown grantId grant found)
  have effect := step.grantsEffect auth.profileId
  rw [there] at effect
  generalize left : after.grants.get auth.profileId = entry at effect
  cases effect with
  | @changed _ later change =>
    have move := change.grantShrinks undrawn
    rw [found] at move
    exact ⟨later, rfl, move⟩
  | renewed registries invalidates =>
    rw [step.finished] at invalidates
    cases invalidates ceremony _ isOpen

end OneStep

/-! ## Whole histories -/

/-- Every open ceremony with a grant has a grant that fits it. -/
def Backed (env : Env) (state : PolicyRuntime) : Prop :=
  ∀ ceremony auth grantId, state.pending.get ceremony = some ⟨auth, false⟩ ->
    auth.grantId = some grantId -> ∃ grant, state.Holds auth grantId grant /\
      grant.Fits env auth state.current.generationId

theorem GrantRegistry.GrantShrinks.fits
    (move : GrantShrinks (some grant) entry) (fits : grant.Fits env auth gen) :
    ∃ later, entry = some later /\ later.Fits env auth gen := by
  cases move with
  | kept => exact ⟨grant, rfl, fits⟩
  | left =>
    exact ⟨_, rfl, fits.session, fits.generation, fits.rpId, fits.credential⟩

section Histories

variable {start before finish : PolicyRuntime}

theorem Event.Authorizes.holds_after (authorizes : event.Authorizes handle)
    (step : Step env before event after) (registered : Registered events before)
    (named : handle.grantId = some grantId) :
    ∃ grant, after.Holds handle.toAuthorization grantId grant /\
      grant.Fits env handle.toAuthorization after.current.generationId /\
      after.clockSecs < grant.expiryMono := by
  have same : Registered events event.before := by
    intro profileId reg there
    rw [<- step.reordered.current]
    rw [<- step.reordered.get_grants] at there
    exact registered profileId reg there
  rcases authorizes.holds step.executed same named with ⟨current, grant, holds, fits, inTime⟩
  rw [step.finished] at current holds inTime
  rw [<- current] at fits
  exact ⟨grant, holds, fits, inTime⟩

theorem Backed.snoc (backed : Backed env before) (registered : Registered events before)
    (fresh : Fresh start (events ++ [event])) (step : Step env before event after) :
    Backed env after := by
  intro ceremony auth grantId isOpen named
  have move := step.ceremonyEffect ceremony
  rw [isOpen] at move
  generalize held : before.pending.get ceremony = entry at move
  cases move with
  | kept =>
    rcases backed ceremony auth grantId held named with ⟨grant, holds, fits⟩
    rcases step.holds_shrinks isOpen registered fresh holds with ⟨reg, there, shrinks⟩
    rw [<- step.current_of_open isOpen] at fits
    rcases shrinks.fits fits with ⟨later, found, fitsLater⟩
    exact ⟨later, ⟨reg, there, found⟩, fitsLater⟩
  | opened authorizes _ _ =>
    rcases authorizes.holds_after step registered named with ⟨grant, holds, fits, -⟩
    exact ⟨grant, holds, fits⟩

theorem Started.backed (started : Started env start events finish) : Backed env finish := by
  apply started.history
  · intro ceremony auth grantId isOpen
    rw [started.isInitial.pending] at isOpen
    cases isOpen
  · intro events event before after fresh prior backed step
    exact backed.snoc prior.registered fresh step

/-- If the clock advances while the ceremony is open, it stays short of the expiry of
the ceremony's grant. -/
def Event.LeavesTime (event : Event) (handle : AuthorizationHandle) : Prop :=
  ∀ millis secs grantId grant, event.operation = .tick millis secs ->
    event.before.IsOpen handle -> handle.grantId = some grantId ->
      event.before.Holds handle.toAuthorization grantId grant -> grant.state = .active ->
        event.before.clockSecs + secs < grant.expiryMono

/-- While the ceremony is open, its grant is out of service or in date. -/
def Timely (state : PolicyRuntime) (handle : AuthorizationHandle) : Prop :=
  ∀ grantId grant, state.IsOpen handle -> handle.grantId = some grantId ->
    state.Holds handle.toAuthorization grantId grant -> grant.state = .active ->
      state.clockSecs < grant.expiryMono

/-- The clock only moves with ticks, and a tick leaves time. -/
theorem Step.clock_before (step : Step env before event after)
    (leavesTime : event.LeavesTime handle) (isOpen : before.IsOpen handle)
    (stillOpen : after.IsOpen handle) (named : handle.grantId = some grantId)
    (holds : before.Holds handle.toAuthorization grantId grant) (active : grant.state = .active)
    (inTime : before.clockSecs < grant.expiryMono) : after.clockSecs < grant.expiryMono := by
  have clock := step.reordered.clockSecs
  cases step.reach with
  | quiet frame => rwa [frame.clockSecs, <- clock]
  | ceremonies touches frame => rwa [frame.clockSecs, <- clock]
  | generation same compiled result =>
    rw [PolicyRuntime.IsOpen, result, PolicyRuntime.reloaded, Table.get_mapValues] at stillOpen
    rcases Option.map_eq_some_iff.mp stillOpen with ⟨_, -, never⟩
    cases congrArg PendingAuthorization.invalidated never
  | @advance millis secs same result =>
    rw [PolicyRuntime.IsOpen, step.reordered.get_pending] at isOpen
    rw [PolicyRuntime.Holds, step.reordered.get_grants] at holds
    rw [result]
    exact leavesTime millis secs grantId grant same isOpen named holds active
  | regress same result =>
    rw [result, <- clock]
    exact lt_of_le_of_lt (Nat.sub_le _ _) inTime

theorem Timely.snoc (timely : Timely before handle) (backed : Backed env before)
    (registered : Registered events before) (fresh : Fresh start (events ++ [event]))
    (step : Step env before event after) (leavesTime : event.LeavesTime handle) :
    Timely after handle := by
  intro grantId grant isOpen named holds active
  rcases handle with ⟨auth, ceremony⟩
  have move := step.ceremonyEffect ceremony
  have stored : after.pending.get ceremony = some ⟨auth, false⟩ := isOpen
  rw [stored] at move
  generalize held : before.pending.get ceremony = entry at move
  rcases holds with ⟨_, there, found⟩
  cases move with
  | kept =>
    rcases backed _ _ grantId held named with ⟨_, holdsEarlier, -⟩
    rcases step.holds_shrinks stored registered fresh holdsEarlier with ⟨_, same, shrinks⟩
    rw [there] at same
    cases same
    rw [found] at shrinks
    cases shrinks with
    | kept =>
      exact step.clock_before leavesTime held isOpen named holdsEarlier active
        (timely grantId grant held named holdsEarlier active)
    | left wasActive final => exact absurd active final
  | opened authorizes _ _ =>
    rcases authorizes.holds_after step registered named with
      ⟨_, ⟨_, otherThere, otherFound⟩, -, inTime⟩
    rw [there] at otherThere
    cases otherThere
    rw [found] at otherFound
    cases otherFound
    exact inTime

theorem Started.timely (started : Started env start events finish)
    (leavesTime : ∀ event ∈ events, event.LeavesTime handle) : Timely finish handle := by
  revert leavesTime
  apply started.history
  · intro _ grantId grant isOpen
    rw [PolicyRuntime.IsOpen, started.isInitial.pending] at isOpen
    cases isOpen
  · intro events event before after fresh prior ih step leavesTime
    have earlier := ih (fun other mem => leavesTime other (List.mem_append_left _ mem))
    exact earlier.snoc prior.backed prior.registered fresh step
      (leavesTime event (List.mem_append_right _ List.mem_cons_self))

/-- Whenever an authorization with a grant is consumed, the grant is active, was issued for
the session under the current generation and covers what was authorized; and it is in
date if no advance of the clock reached its expiry while the ceremony was open. -/
theorem consumed_grant_valid (started : Started env start events finish)
    {earlier later : List Event} {handle : AuthorizationHandle} {grantId : GrantId}
    (same : events = earlier ++ event :: later) (consumes : event.Consumes handle)
    (named : handle.grantId = some grantId) :
    ∃ grant, event.before.Holds handle.toAuthorization grantId grant /\ grant.state = .active /\
      grant.Fits env handle.toAuthorization event.before.current.generationId /\
      ((∀ prior ∈ earlier, prior.LeavesTime handle) ->
        event.before.clockSecs < grant.expiryMono) := by
  rcases started.split_at same with ⟨_, _, prior, step, -⟩
  have consumable := (consumes.consumption step.executed).consumable
  have isOpen := consumable.isOpen
  rw [PolicyRuntime.IsOpen, <- step.reordered.get_pending] at isOpen
  rcases prior.backed _ _ grantId isOpen named with ⟨grant, holds, fits⟩
  have holdsBefore := holds
  rw [PolicyRuntime.Holds, step.reordered.get_grants] at holdsBefore
  rw [step.reordered.current] at fits
  have active : grant.state = .active := by
    rcases holdsBefore with ⟨_, there, found⟩
    have checks := consumable.grant
    rw [PolicyRuntime.consumeGrantChecks] at checks
    simp only [named, there] at checks
    split_ifs at checks with inactive stale
    rw [GrantRegistry.isGrantActive, found] at inactive
    simpa [Grant.isActive] using inactive
  refine ⟨grant, holdsBefore, active, fits, fun leavesTime => ?_⟩
  rw [<- step.reordered.clockSecs]
  exact prior.timely leavesTime grantId grant isOpen named holds active

end Histories

namespace Sample

def grantedApproval : BoundApprovalResult :=
  ⟨delegatedTuple, ⟨5⟩, some ⟨8⟩⟩

/-- A delegated request is approved for a minute and leads to a ceremony. -/
def delegatedCeremony : List Operation :=
  delegatedRequest ++ [.ceremonyResolvePending delegatedTuple ⟨8⟩,
    .authorizeBound grantedApproval ⟨delegatedTuple, true⟩ ⟨10⟩]

def grantedHandle : AuthorizationHandle :=
  ⟨⟨delegatedTuple, some ⟨8⟩, some ⟨5⟩⟩, ⟨10⟩⟩

def consumedInfo : IntentConsumeInfo :=
  ⟨⟨"agent"⟩, .authenticate, "example.com", some ⟨9⟩, false⟩

end Sample

section Samples

open Sample

/-- A ceremony that is consumed at once uses a grant in date. -/
theorem consumed_grant_valid_sample :
    ∃ grant, (reached sampleEnv start delegatedCeremony).Holds
        grantedHandle.toAuthorization ⟨8⟩ grant /\
      grant.state = .active /\
      grant.Fits sampleEnv grantedHandle.toAuthorization start.current.generationId /\
      (reached sampleEnv start delegatedCeremony).clockSecs <
        grant.expiryMono := by
  have started := started
    (delegatedCeremony ++ [.consumeAuthorization grantedHandle]) (by decide +kernel)
  have consumes : (performed sampleEnv (reached sampleEnv start delegatedCeremony)
      (.consumeAuthorization grantedHandle)).Consumes grantedHandle :=
    ⟨rfl, consumedInfo, by decide +kernel⟩
  have gen : (reached sampleEnv start
      delegatedCeremony).current.generationId = start.current.generationId := by
    decide +kernel
  rcases consumed_grant_valid started (perform_snoc _ _ _ _) consumes rfl with
    ⟨grant, holds, active, fits, inTime⟩
  refine ⟨grant, holds, active, gen ▸ fits, inTime ?_⟩
  intro prior mem millis secs grantId other isTick
  have named := perform_operation mem
  rw [isTick] at named
  simp [delegatedCeremony, delegatedRequest] at named

/-- The clock passes the expiry of the grant, and the ceremony is consumed all the same. -/
theorem expired_grant_consumed :
    Started sampleEnv start (perform sampleEnv start (delegatedCeremony ++
        [.tick 60000 60, .consumeAuthorization grantedHandle]))
      (reached sampleEnv start (delegatedCeremony ++
        [.tick 60000 60, .consumeAuthorization grantedHandle])) /\
    (performed sampleEnv (reached sampleEnv start (delegatedCeremony ++ [.tick 60000 60]))
      (.consumeAuthorization grantedHandle)).Consumes grantedHandle /\
    ∃ grant, (reached sampleEnv start (delegatedCeremony ++ [.tick 60000 60])).Holds
          grantedHandle.toAuthorization ⟨8⟩ grant /\
      grant.expiryMono <= (reached sampleEnv start
        (delegatedCeremony ++ [.tick 60000 60])).clockSecs := by
  let late := reached sampleEnv start (delegatedCeremony ++ [.tick 60000 60])
  have overdue : (late.grants.get ⟨"agent"⟩).any (fun reg =>
      (reg.grants.get ⟨8⟩).any (fun grant =>
        decide (grant.expiryMono <= late.clockSecs))) = true := by
    decide +kernel
  refine ⟨started _ (by decide +kernel), ⟨rfl, consumedInfo, by decide +kernel⟩, ?_⟩
  rcases (Option.any_eq_true _ _).mp overdue with ⟨reg, there, held⟩
  rcases (Option.any_eq_true _ _).mp held with ⟨grant, found, expired⟩
  exact ⟨grant, ⟨reg, there, found⟩, of_decide_eq_true expired⟩

end Samples

end ControlVault.Engine
