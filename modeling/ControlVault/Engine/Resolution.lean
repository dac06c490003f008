import ControlVault.Engine.Scenario

namespace ControlVault.Engine

open Foundation Core

/-!
# Is the resolution of a pending request atomic?

`ceremony_resolve_pending` approves the intent, then the grant, then the request,
and returns at the first failure.  A failure of the grant step comes after the
intent was approved and is not undone.  A grant that was issued before is taken
without a look at its state, so it may have been revoked or have expired.  A
resolution is therefore all or nothing exactly when the grant step, if it is
reached, finds an active grant or can issue one.
-/

variable {fresh : GrantId} {env : Env} {req : PendingPrincipalRequest}
  {runtime : PolicyRuntime} {grantId : Option GrantId} {error : CeremonyResolveError}

namespace PolicyRuntime

/-- Everything that a successful resolution promises.  The grant of a delegated request is the
one that its grant request led to, and it is in force. -/
structure Completed (before after : PolicyRuntime) (id : PendingRequestId)
    (req : PendingPrincipalRequest) (bound : BoundApprovalResult) : Prop where
  intent : ∃ intent, after.intents.get req.intentId = some intent /\ intent.state = .approved
  pending : after.pendingRequests.get id = some { req with state := .approved }
  grant : req.kind = .delegatedAuth ->
    ∃ requestId grantId reg grant, req.grantRequestId = some requestId /\
      bound.grantId = some grantId /\ after.grants.get req.profileId = some reg /\
      reg.resolvedGrantId requestId = some grantId /\
      reg.grants.get grantId = some grant /\ grant.state = .active

/-- What a failed resolution may leave behind. -/
structure LeftAlone (before : PolicyRuntime) (tuple : CeremonyTuple) (after : PolicyRuntime) :
    Prop where
  intents : ∀ id, after.intents.get id = before.intents.get id ∨
    ∃ intent, before.intents.get id = some intent /\ intent.isOverdue before.clockMillis = true /\
      after.intents.get id = some { intent with state := .expired }
  grants : ∀ profileId, (after.grants.get profileId).map (fun reg => reg.grants.get) =
    (before.grants.get profileId).map (fun reg => reg.grants.get)
  pendingRequests : ∀ id, after.pendingRequests.get id = before.pendingRequests.get id ∨
    ∃ req state, before.uniqueWaiting tuple = .ok (id, req) /\
      (state = .timedOut ∨ state = .cancelled) /\
      after.pendingRequests.get id = some { req with state }

/-- All or nothing. -/
inductive Atomic (before : PolicyRuntime) (tuple : CeremonyTuple) :
    Except CeremonyResolveError BoundApprovalResult × PolicyRuntime -> Prop
  | completed {id : PendingRequestId} {req : PendingPrincipalRequest}
      (selected : before.uniqueWaiting tuple = .ok (id, req))
      (completed : before.Completed after id req bound) :
      Atomic before tuple (.ok bound, after)
  | leftAlone {error : CeremonyResolveError}
      (leftAlone : before.LeftAlone tuple after) : Atomic before tuple (.error error, after)

/-- The grant step of a resolution leads to an active grant: nothing is to be granted, the grant
that was already issued is still active, or none was issued and the registry accepts the time
and the request. -/
def GrantReady (runtime : PolicyRuntime) (req : PendingPrincipalRequest) : Prop :=
  req.kind = .delegatedAuth ->
    ∃ requestId reg, req.grantRequestId = some requestId /\
      runtime.grants.get req.profileId = some reg /\
      ((∃ grantId grant, reg.resolvedGrantId requestId = some grantId /\
          reg.grants.get grantId = some grant /\ grant.state = .active) ∨
        reg.resolvedGrantId requestId = none /\ reg.lastSeenMono <= runtime.clockSecs /\
          ∃ approved, reg.approvable requestId = .ok approved)

/-- The grant step is going to succeed if the resolution reaches it. -/
def ResolutionReady (env : Env) (runtime : PolicyRuntime) (tuple : CeremonyTuple) : Prop :=
  ∀ id req snap intent, runtime.uniqueWaiting tuple = .ok (id, req) ->
    runtime.resolveChecks env tuple req = .ok snap ->
    runtime.intents.get req.intentId = some intent -> intent.state = .pending ->
    intent.isOverdue runtime.clockMillis = false -> runtime.GrantReady req

section GrantStep

theorem GrantResolved.not_ready (failed : runtime.GrantResolved req fresh (.error error) after) :
    ¬ runtime.GrantReady req := by
  intro ready
  cases failed with
  | unnamed kind missing =>
    rcases ready kind with ⟨requestId, reg, named, -⟩
    cases missing.symm.trans named
  | unregistered kind named missing =>
    rcases ready kind with ⟨requestId, reg, -, registered, -⟩
    cases missing.symm.trans registered
  | @refused requestId reg changed error kind named registered unresolved attempt =>
    rcases ready kind with ⟨_, _, readyNamed, readyRegistered, accepts⟩
    cases named.symm.trans readyNamed
    cases registered.symm.trans readyRegistered
    have spec := reg.approveGrant_spec runtime.clockSecs requestId fresh
    rw [attempt] at spec
    rcases accepts with ⟨_, _, resolved, -⟩ | ⟨-, order, _, checks⟩
    · cases unresolved.symm.trans resolved
    · cases spec with
      | late late => exact absurd order (not_le.mpr late)
      | refused _ failed => cases failed.symm.trans checks

end GrantStep

theorem LeftAlone.refl (runtime : PolicyRuntime) (tuple : CeremonyTuple) :
    runtime.LeftAlone tuple runtime :=
  ⟨fun _ => .inl rfl, fun _ => rfl, fun _ => .inl rfl⟩

variable {tuple : CeremonyTuple} {id : PendingRequestId} {intents : IntentStore}
  {result : Except CeremonyResolveError BoundApprovalResult}

/-- Checks that close the request time it out or cancel it. -/
theorem resolveChecks_state
    (checks : runtime.resolveChecks env tuple req = .error (error, some state)) :
    state = .timedOut ∨ state = .cancelled := by
  unfold resolveChecks at checks
  split_ifs at checks
  · cases checks
    exact .inl rfl
  · cases checks
    exact .inr rfl
  · cases profile : runtime.current.findSnapshot tuple.profileId with
    | none =>
      rw [profile] at checks
      cases checks
      exact .inr rfl
    | some =>
      simp only [profile] at checks
      split_ifs at checks <;> cases checks

theorem LeftAlone.of_setPendingState (selected : runtime.uniqueWaiting tuple = .ok (id, req))
    (closed : state = .timedOut ∨ state = .cancelled) :
    runtime.LeftAlone tuple (runtime.setPendingState id state) := by
  have found := (uniqueWaiting_ok selected).1
  refine ⟨fun _ => .inl rfl, fun _ => rfl, fun other => ?_⟩
  by_cases same : other = id
  · right
    subst same
    refine ⟨req, state, selected, closed, ?_⟩
    rw [setPendingState, Table.get_modify_self, found]
    rfl
  · left
    rw [setPendingState, Table.get_modify_of_ne _ _ same]

theorem LeftAlone.of_refusedIntent {id : IntentId} {error : IntentError}
    (settled : runtime.intents.Settled runtime.clockMillis id .approved (.error error) intents) :
    runtime.LeftAlone tuple { runtime with intents } := by
  refine ⟨fun other => ?_, fun _ => rfl, fun _ => .inl rfl⟩
  cases settled with
  | missing | refused => exact .inl rfl
  | overdue found late =>
    by_cases same : other = id
    · right
      subst same
      refine ⟨_, found, late, ?_⟩
      rw [IntentStore.get_put, if_pos rfl]
    · left
      rw [IntentStore.get_put, if_neg same]

/-- An approval that succeeds found the intent pending and in date. -/
theorem approve_ok {store : IntentStore} {now : Nat} {id : IntentId}
    (approval : store.approve now id = (.ok (), intents)) :
    ∃ intent, store.get id = some intent /\ intent.isOverdue now = false /\
      intent.state = .pending /\ intents.get id = some { intent with state := .approved } := by
  have settled := store.approve_spec now id
  rw [approval] at settled
  exact settled.of_ok

theorem Completed.of_resolved {granted : PolicyRuntime} (ready : runtime.GrantReady req)
    (selected : runtime.uniqueWaiting tuple = .ok (id, req))
    (approval : runtime.intents.approve runtime.clockMillis req.intentId = (.ok (), intents))
    (grant : GrantResolved { runtime with intents } req fresh (.ok grantId) granted) :
    runtime.Completed (granted.setPendingState id .approved) id req
      (boundResult req grantId) := by
  rcases approve_ok approval with ⟨_, -, -, -, approved⟩
  have frame := grant.frame
  refine ⟨?_, ?_, fun delegated => ?_⟩
  · rcases frame with ⟨grants, rfl⟩
    exact ⟨_, approved, rfl⟩
  · rcases frame with ⟨_, rfl⟩
    rw [setPendingState, Table.get_modify_self, (uniqueWaiting_ok selected).1]
    rfl
  · cases grant with
    | isolated kind => cases kind.symm.trans delegated
    | @existing requestId reg grantId kind named found resolved =>
      rcases ready delegated with ⟨_, _, readyNamed, readyFound, accepts⟩
      cases named.symm.trans readyNamed
      cases found.symm.trans readyFound
      rcases accepts with ⟨_, grant, readyResolved, there, active⟩ | ⟨unresolved, -⟩
      · cases resolved.symm.trans readyResolved
        exact ⟨requestId, grantId, reg, grant, named, rfl, found, resolved, there, active⟩
      · cases resolved.symm.trans unresolved
    | @approved requestId reg changed grantId kind named found unresolved attempt =>
      have spec := reg.approveGrant_spec runtime.clockSecs requestId fresh
      rw [attempt] at spec
      rcases spec.of_ok with ⟨rfl, resolved, grant, there, active⟩
      exact ⟨requestId, grantId, changed, grant, named, rfl, Table.get_insert_self _ _ _, resolved,
        there, active⟩

/-- A resolution that kept its promise had reached a grant step that was ready. -/
theorem Completed.ready {granted : PolicyRuntime} {bound : BoundApprovalResult}
    (completed : runtime.Completed (granted.setPendingState id .approved) id req bound)
    (resolved : GrantResolved { runtime with intents } req fresh (.ok grantId) granted) :
    runtime.GrantReady req := by
  intro delegated
  cases resolved with
  | isolated kind => cases kind.symm.trans delegated
  | @existing requestId reg grantId kind named registered resolved =>
    rcases completed.grant delegated with
      ⟨_, _, _, grant, otherNamed, -, otherFound, otherResolved, there, active⟩
    cases named.symm.trans otherNamed
    cases registered.symm.trans otherFound
    exact ⟨requestId, reg, named, registered, .inl ⟨_, grant, otherResolved, there, active⟩⟩
  | @approved requestId reg changed grantId kind named registered unresolved attempt =>
    have spec := reg.approveGrant_spec runtime.clockSecs requestId fresh
    rw [attempt] at spec
    cases spec with
    | issued order checks =>
      exact ⟨requestId, reg, named, registered, .inr ⟨unresolved, order, _, checks⟩⟩

theorem atomic_of_ready {after : PolicyRuntime} (ready : runtime.ResolutionReady env tuple)
    (resolved : Resolved env runtime tuple fresh result after) :
    runtime.Atomic tuple (result, after) := by
  cases resolved with
  | unmatched | refused => exact .leftAlone (.refl _ _)
  | closed selected checks =>
    exact .leftAlone (.of_setPendingState selected (resolveChecks_state checks))
  | @intentRefused _ id req _ _ selected checks approval =>
    have settled := runtime.intents.approve_spec runtime.clockMillis req.intentId
    rw [approval] at settled
    exact .leftAlone (.of_refusedIntent settled)
  | grantFailed selected checks approval grant =>
    rcases approve_ok approval with ⟨intent, found, inTime, pending, -⟩
    exact absurd (ready _ _ _ intent selected checks found pending inTime) grant.not_ready
  | resolved selected checks approval grant =>
    rcases approve_ok approval with ⟨intent, found, inTime, pending, -⟩
    have granted := ready _ _ _ intent selected checks found pending inTime
    exact .completed selected (.of_resolved granted selected approval grant)

theorem ready_of_atomic {after : PolicyRuntime}
    (resolved : Resolved env runtime tuple fresh result after)
    (atomic : runtime.Atomic tuple (result, after)) : runtime.ResolutionReady env tuple := by
  intro id req snap intent selected checks found pending inTime
  cases resolved with
  | unmatched unselected => cases unselected.symm.trans selected
  | refused otherSelected failed =>
    cases otherSelected.symm.trans selected
    cases failed.symm.trans checks
  | closed otherSelected failed =>
    cases otherSelected.symm.trans selected
    cases failed.symm.trans checks
  | @intentRefused _ _ _ error intents otherSelected _ approval =>
    cases otherSelected.symm.trans selected
    have settled := runtime.intents.approve_spec runtime.clockMillis req.intentId
    rw [approval] at settled
    cases settled with
    | missing absent => cases absent.symm.trans found
    | overdue otherFound late =>
      cases otherFound.symm.trans found
      rw [inTime] at late
      cases late
    | refused otherFound _ settled =>
      cases otherFound.symm.trans found
      exact absurd pending settled
  | grantFailed otherSelected _ approval grant =>
    cases otherSelected.symm.trans selected
    rcases approve_ok approval with ⟨_, otherFound, -, -, approved⟩
    rcases grant.frame with ⟨_, rfl⟩
    cases atomic with
    | leftAlone leftAlone =>
      rcases leftAlone.intents req.intentId with same | ⟨_, overdueFound, late, -⟩
      · have changed := Option.some.inj (approved.symm.trans (same.trans found))
        rw [<- changed] at pending
        cases pending
      · cases overdueFound.symm.trans found
        rw [inTime] at late
        cases late
  | resolved otherSelected _ approval grant =>
    cases otherSelected.symm.trans selected
    cases atomic with
    | completed completedSelected completed =>
      cases completedSelected.symm.trans selected
      exact completed.ready grant

end PolicyRuntime

/-- In every state, reachable or not, a resolution is all or nothing exactly when its grant step
is going to lead to an active grant if it is reached. -/
theorem resolve_atomic_iff (env : Env) (state : PolicyRuntime) (tuple : CeremonyTuple)
    (fresh : GrantId) :
    state.Atomic tuple (state.ceremonyResolvePending env tuple fresh) <->
      state.ResolutionReady env tuple := by
  have resolved := state.ceremonyResolvePending_spec env tuple fresh
  constructor
  · intro atomic
    exact PolicyRuntime.ready_of_atomic resolved atomic
  · intro ready
    exact PolicyRuntime.atomic_of_ready ready resolved

namespace Sample

/-- An administrator issues as many grants as the profile may have at a time. -/
def allGrants : List Operation :=
  [11, 12, 13, 14, 15].flatMap (fun number =>
    [.adminRequestGrant grantParams ⟨number⟩, .adminApproveGrant ⟨number⟩ ⟨number⟩])

/-- The grant of a waiting request is approved by an administrator, and revoked again. -/
def revokedRequest : List Operation :=
  delegatedRequest ++ [.adminApproveGrant ⟨6⟩ ⟨8⟩, .adminRevokeGrant ⟨8⟩]

end Sample

section Samples

open Sample

/-- The first delegated request of a session is resolved as a whole. -/
theorem resolve_atomic_sample :
    (reached sampleEnv start delegatedRequest).Atomic delegatedTuple ((reached sampleEnv start
        delegatedRequest).ceremonyResolvePending sampleEnv delegatedTuple ⟨8⟩) := by
  let state := reached sampleEnv start delegatedRequest
  have named : ((state.uniqueWaiting delegatedTuple).toOption.all (fun entry =>
      decide (entry.2.profileId = ⟨"agent"⟩ /\ entry.2.grantRequestId = some ⟨6⟩))) = true := by
    decide +kernel
  have accepts : (state.grants.get ⟨"agent"⟩).any (fun reg =>
      decide (reg.resolvedGrantId ⟨6⟩ = none /\ reg.lastSeenMono <= state.clockSecs) &&
        (reg.approvable ⟨6⟩).toOption.isSome) = true := by
    decide +kernel
  refine (resolve_atomic_iff sampleEnv state delegatedTuple ⟨8⟩).mpr ?_
  intro id req snap intent selected _ _ _ _ _
  rw [selected] at named
  rcases of_decide_eq_true named with ⟨profile, grantRequest⟩
  rcases (Option.any_eq_true _ _).mp accepts with ⟨reg, registered, accepted⟩
  rcases Bool.and_eq_true_iff.mp accepted with ⟨still, approvable⟩
  rcases of_decide_eq_true still with ⟨unresolved, order⟩
  refine ⟨⟨6⟩, reg, grantRequest, by rw [profile, registered], .inr
    ⟨unresolved, order, ?_⟩⟩
  cases approval : reg.approvable ⟨6⟩ with
  | error error =>
    rw [approval] at approvable
    cases approvable
  | ok approved => exact ⟨approved, rfl⟩

/-- With all grants issued, a delegated request is refused, but its intent stays approved and an
authorization takes it.  With its own grant revoked, the request is resolved all the same, and
again an authorization takes the intent. -/
theorem refused_resolution_leaves_approved_intent :
    (Started sampleEnv start (perform sampleEnv start (allGrants ++ delegatedRequest))
      (reached sampleEnv start (allGrants ++ delegatedRequest)) /\
    ¬ (reached sampleEnv start (allGrants ++ delegatedRequest)).Atomic delegatedTuple
      ((reached sampleEnv start (allGrants ++ delegatedRequest)).ceremonyResolvePending sampleEnv
          delegatedTuple ⟨9⟩) /\
    (performed sampleEnv (reached sampleEnv start (allGrants ++ delegatedRequest ++
          [.ceremonyResolvePending delegatedTuple ⟨9⟩]))
      (.authorize ⟨delegatedTuple, true⟩ ⟨10⟩)).Authorizes
        ⟨⟨delegatedTuple, none, some ⟨5⟩⟩, ⟨10⟩⟩) /\
    Started sampleEnv start (perform sampleEnv start revokedRequest)
      (reached sampleEnv start revokedRequest) /\
    ¬ (reached sampleEnv start revokedRequest).Atomic delegatedTuple
      ((reached sampleEnv start revokedRequest).ceremonyResolvePending sampleEnv
          delegatedTuple ⟨9⟩) /\
    (performed sampleEnv (reached sampleEnv start (revokedRequest ++
          [.ceremonyResolvePending delegatedTuple ⟨9⟩]))
      (.authorize ⟨delegatedTuple, true⟩ ⟨10⟩)).Authorizes
        ⟨⟨delegatedTuple, none, some ⟨5⟩⟩, ⟨10⟩⟩ := by
  refine ⟨⟨started _ (by decide +kernel), ?_, by decide +kernel⟩, started _ (by decide +kernel), ?_,
    by decide +kernel⟩
  · let state := reached sampleEnv start (allGrants ++ delegatedRequest)
    have refused : (state.ceremonyResolvePending sampleEnv delegatedTuple ⟨9⟩).1.toOption.isSome =
        false := by
      decide +kernel
    have approved : ((state.ceremonyResolvePending sampleEnv delegatedTuple ⟨9⟩).2.intents.get
        ⟨5⟩).map Intent.state = some .approved := by
      decide +kernel
    have pending : (state.intents.get ⟨5⟩).map Intent.state = some .pending := by
      decide +kernel
    intro atomic
    generalize PolicyRuntime.ceremonyResolvePending _ _ _ _ = outcome at atomic refused approved
    cases atomic with
    | completed => cases refused
    | leftAlone leftAlone =>
      rcases leftAlone.intents ⟨5⟩ with same | ⟨_, -, -, expired⟩
      · rw [same, pending] at approved
        cases approved
      · rw [expired] at approved
        cases approved
  · let state := reached sampleEnv start revokedRequest
    have delegated : ((state.uniqueWaiting delegatedTuple).toOption.map fun entry =>
        (entry.2.kind, entry.2.profileId, entry.2.grantRequestId)) =
          some (.delegatedAuth, ⟨"agent"⟩, some ⟨6⟩) := by
      decide +kernel
    have accepted : (state.ceremonyResolvePending sampleEnv delegatedTuple ⟨9⟩).1.toOption.isSome =
        true := by
      decide +kernel
    have revoked : ((state.ceremonyResolvePending sampleEnv delegatedTuple ⟨9⟩).2.grants.get
        ⟨"agent"⟩).all (fun reg => (reg.resolvedGrantId ⟨6⟩).all
          (fun grantId => !reg.isGrantActive grantId)) = true := by
      decide +kernel
    intro atomic
    generalize PolicyRuntime.ceremonyResolvePending _ _ _ _ = outcome at atomic accepted revoked
    cases atomic with
    | leftAlone => cases accepted
    | completed selected completed =>
      simp only [state, selected, Except.toOption, Option.map_some, Option.some.injEq,
        Prod.mk.injEq] at delegated
      rcases completed.grant delegated.1 with
        ⟨_, _, reg, grant, named, -, found, resolved, there, active⟩
      cases delegated.2.2.symm.trans named
      rw [delegated.2.1] at found
      rw [found, Option.all_some, resolved, Option.all_some, GrantRegistry.isGrantActive, there,
        Option.any_some, Grant.isActive, active] at revoked
      cases revoked

end Samples

end ControlVault.Engine
