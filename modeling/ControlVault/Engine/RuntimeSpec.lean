import ControlVault.Engine.Runtime

namespace ControlVault.Engine

open Foundation Core IntentStore

/-!
# The operations with several branches, result by result

`authorize`, `authorize_bound`, `consume_authorization` and
`ceremony_resolve_pending` change up to three stores and return early in
between.  For each of them one relation lists the possible answers together
with the state left behind and the conditions under which the code gets there.
Later proofs split on these relations and never unfold the operations.
-/

namespace PolicyRuntime

/-- The handle that a successful authorization hands out. -/
def handleFor (auth : Authorization) (ceremonyId : CeremonyId) : AuthorizationHandle :=
  ⟨auth, ceremonyId⟩

section

variable (runtime : PolicyRuntime)

/-- The runtime after a ceremony was opened. -/
def withCeremony (auth : Authorization) (ceremonyId : CeremonyId) :
    PolicyRuntime :=
  { runtime with
    pending := runtime.pending.insert ceremonyId ⟨auth, false⟩ }

/-- The store after a sweep, up to the order of its entries. -/
def SweptIntents (intents : IntentStore) : Prop :=
  ∀ id, intents.get id = (runtime.intents.cleanupExpired runtime.clockMillis).get id

theorem sweptIntents_cleanup :
    runtime.SweptIntents (runtime.intents.cleanupExpired runtime.clockMillis) :=
  fun _ => rfl

/-- The store after an intent was claimed for a ceremony. -/
def claimedIntents (id : IntentId) (intent : Intent) : IntentStore :=
  (runtime.intents.cleanupExpired runtime.clockMillis).put id { intent with state := .claimed }

end

variable {runtime after : PolicyRuntime} {id : IntentId} {intent : Intent}
  {snap : PolicySnapshot} {env : Env} {req : PendingPrincipalRequest}
  {tuple : CeremonyTuple} {handle : AuthorizationHandle} {now : Nat}

theorem sweptIntents_rollback (found : runtime.intents.get id = some intent)
    (inTime : intent.isOverdue runtime.clockMillis = false) (approved : intent.state = .approved) :
    runtime.SweptIntents ((runtime.claimedIntents id intent).rollbackClaim id).2 :=
  fun other => get_rollbackClaim_of_taken found inTime approved other

/-- An approved intent in date that a query selects. -/
structure Claimable (runtime : PolicyRuntime) (query : CeremonyTuple) (id : IntentId)
    (intent : Intent) : Prop where
  found : runtime.intents.get id = some intent
  inTime : intent.isOverdue runtime.clockMillis = false
  approved : intent.state = .approved
  tuple : intent.toCeremonyTuple = query.normalized

theorem Claimable.of_selected (found : runtime.intents.get id = some intent)
    (inTime : intent.isOverdue runtime.clockMillis = false)
    (selected : intent.matchesQuery query = true) : runtime.Claimable query id intent :=
  ⟨found, inTime, ((intent.matchesQuery_iff query).mp selected).1,
    ((intent.matchesQuery_iff query).mp selected).2⟩

/-! ## The policy checks -/

/-- What `authorize` has checked once it looks for an intent. -/
structure PolicyAllows (env : Env) (runtime : PolicyRuntime)
    (req : AuthorizationRequest) (snap : PolicySnapshot) : Prop where
  generation : req.policyGeneration = runtime.current.generationId
  digest : req.policyDigest = runtime.current.digest
  profile : runtime.current.findSnapshot req.profileId = some snap
  rpId : snap.isRpExactMatch env req.rpId = true
  rule : ∃ policy, snap.ceremonyPolicy env req.rpId req.action = some policy /\
    policy.authorization ≠ .deny
  credential : snap.credentialListed req.credentialRef = true
  action : snap.actionAllowed req.action = true

theorem authorizeChecks_ok {req : AuthorizationRequest}
    (checks : runtime.authorizeChecks env req = .ok snap) :
    PolicyAllows env runtime req snap := by
  unfold authorizeChecks at checks
  split_ifs at checks with stale
  rw [not_or, not_not, not_not] at stale
  cases profile : runtime.current.findSnapshot req.profileId with
  | none => simp [profile] at checks
  | some found =>
    cases rule : found.ceremonyPolicy env req.rpId req.action with
    | none =>
      simp only [profile, rule] at checks
      split_ifs at checks
    | some policy =>
      simp only [profile, rule] at checks
      split_ifs at checks with empty foreign suffix denied cred action
      cases checks
      simp only [Bool.not_eq_true', Bool.not_eq_false] at foreign cred action
      exact ⟨stale.1, stale.2, profile, foreign, ⟨policy, rule, denied⟩, cred, action⟩

section

variable (runtime : PolicyRuntime) (bound : BoundApprovalResult) (req : AuthorizationRequest)
  (snap : PolicySnapshot)

/-- What `authorize_bound` has checked once it looks for an intent. -/
structure BoundAllows : Prop where
  tuple : bound.toCeremonyTuple.normalized = req.toCeremonyTuple.normalized
  generation : bound.policyGeneration = runtime.current.generationId
  digest : bound.policyDigest = runtime.current.digest
  profile : runtime.current.findSnapshot bound.profileId = some snap
  verified : snap.requireUv = true -> req.uvEnforced = true

theorem boundChecks_ok_iff :
    runtime.boundChecks bound req = .ok snap <->
      BoundAllows runtime bound req snap := by
  constructor
  · intro checks
    unfold boundChecks at checks
    split_ifs at checks with foreign rpId cred stale
    simp only [not_or, not_not] at foreign rpId cred stale
    rcases foreign with ⟨profileId, sessionId, endpointId, process, gen, digest, action⟩
    cases profile : runtime.current.findSnapshot bound.profileId with
    | none => simp [profile] at checks
    | some =>
      simp only [profile] at checks
      split_ifs at checks with unverified
      cases checks
      refine ⟨?_, stale.1, stale.2, profile, fun required => ?_⟩
      · simp only [CeremonyTuple.normalized, profileId, sessionId, endpointId, process, gen,
          digest, action, rpId, cred]
      · simpa [required] using unverified
  · rintro ⟨tuple, gen, digest, profile, verified⟩
    simp only [CeremonyTuple.normalized, CeremonyTuple.mk.injEq] at tuple
    rcases tuple with ⟨profileId, sessionId, endpointId, process, sameGeneration, sameDigest, action,
      rpId, cred⟩
    unfold boundChecks
    rw [if_neg (by simp [profileId, sessionId, endpointId, process, sameGeneration, sameDigest,
      action]), if_neg (by simp [rpId]), if_neg (by simp [cred]),
      if_neg (by simp [gen, digest]), profile]
    simpa using verified

end

/-- What `ceremony_resolve_pending` has checked once it approves the intent. -/
structure ResolveAllows (env : Env) (runtime : PolicyRuntime) (tuple : CeremonyTuple)
    (req : PendingPrincipalRequest) (snap : PolicySnapshot) : Prop where
  inTime : runtime.clockSecs < req.deadlineMono
  generation : tuple.policyGeneration = runtime.current.generationId
  digest : tuple.policyDigest = runtime.current.digest
  profile : runtime.current.findSnapshot tuple.profileId = some snap
  rpId : snap.isRpExactMatch env tuple.rpId = true
  credential : snap.credentialListed tuple.credentialRef = true
  action : snap.actionAllowed tuple.action = true

theorem resolveChecks_ok (checks : runtime.resolveChecks env tuple req = .ok snap) :
    ResolveAllows env runtime tuple req snap := by
  unfold resolveChecks at checks
  split_ifs at checks with late stale
  rw [not_or, not_not, not_not] at stale
  cases profile : runtime.current.findSnapshot tuple.profileId with
  | none => simp [profile] at checks
  | some =>
    simp only [profile] at checks
    split_ifs at checks with foreign cred action
    cases checks
    simp only [Bool.not_eq_true', Bool.not_eq_false] at foreign cred action
    exact ⟨not_le.mp late, stale.1, stale.2, profile, foreign, cred, action⟩

/-! ## Authorization -/

section

variable (env : Env) (runtime : PolicyRuntime) (req : AuthorizationRequest)
  (fresh : CeremonyId)

inductive Authorized : Decision × Option AuthorizationHandle -> PolicyRuntime -> Prop
  | refused (checks : runtime.authorizeChecks env req = .error decision) :
      Authorized (decision, none) runtime
  | unclaimed {intents : IntentStore} (swept : runtime.SweptIntents intents) :
      Authorized (.deny reason action, none) { runtime with intents }
  | opened {snap : PolicySnapshot} {id : IntentId} {intent : Intent}
      (checks : runtime.authorizeChecks env req = .ok snap)
      (claimable : runtime.Claimable (authorizedTuple snap req) id intent)
      (verified : snap.requireUv = true -> req.uvEnforced = true) :
      Authorized (.allow .allowed, some (handleFor
          { toCeremonyTuple := authorizedTuple snap req
            grantId := none
            intentId := some id } fresh))
        (withCeremony { runtime with intents := runtime.claimedIntents id intent }
          { toCeremonyTuple := authorizedTuple snap req
            grantId := none
            intentId := some id } fresh)

end

theorem authorize_spec (env : Env) (runtime : PolicyRuntime)
    (req : AuthorizationRequest) (fresh : CeremonyId) :
    Authorized env runtime req fresh (runtime.authorize env req fresh).1
      (runtime.authorize env req fresh).2 := by
  rw [authorize]
  cases checks : runtime.authorizeChecks env req with
  | error => exact .refused checks
  | ok snap =>
    change Authorized env runtime req fresh (runtime.authorizeIsolated snap req fresh).1
      (runtime.authorizeIsolated snap req fresh).2
    have claim := claimApproved_spec runtime.intents runtime.clockMillis
      (authorizedTuple snap req)
    rw [authorizeIsolated]
    generalize runtime.intents.claimApproved runtime.clockMillis
      (authorizedTuple snap req) = claimed at claim ⊢
    rcases claimed with ⟨_, _⟩
    cases claim with
    | missing => exact .unclaimed runtime.sweptIntents_cleanup
    | @taken id intent found inTime selected =>
      have claimable := Claimable.of_selected found inTime selected
      by_cases unverified : (snap.requireUv && !req.uvEnforced) = true
      · simp only [if_pos unverified]
        exact .unclaimed (sweptIntents_rollback found inTime claimable.approved)
      · simp only [if_neg unverified]
        refine .opened checks claimable (fun required => ?_)
        rwa [required, Bool.true_and, Bool.not_eq_true', Bool.not_eq_false] at unverified

/-! ## Authorization with a user's approval -/

/-- The authorization that a bound approval leads to. -/
def boundAuthorization (bound : BoundApprovalResult) (id : IntentId) : Authorization :=
  { toCeremonyTuple := bound.toCeremonyTuple, grantId := bound.grantId, intentId := some id }

section

variable (env : Env) (runtime : PolicyRuntime) (bound : BoundApprovalResult)
  (req : AuthorizationRequest) (fresh : CeremonyId)

inductive BoundAuthorized : Decision × Option AuthorizationHandle -> PolicyRuntime -> Prop
  | refused (checks : runtime.boundChecks bound req = .error decision) :
      BoundAuthorized (decision, none) runtime
  | unclaimed {intents : IntentStore} (swept : runtime.SweptIntents intents) :
      BoundAuthorized (.deny reason action, none) { runtime with intents }
  | grantRefused {intents : IntentStore} (swept : runtime.SweptIntents intents)
      (named : bound.grantId = some grantId)
      (registered : runtime.grants.get bound.profileId = some reg)
      (claim : reg.claimForAuthorize runtime.clockSecs grantId bound.sessionId
        (claimIntentOf env bound) fresh = (.error error, refused)) :
      BoundAuthorized (.deny .partialClaimFailed .retry, none)
        { runtime with
          intents
          grants := runtime.grants.insert bound.profileId refused }
  | opened {snap : PolicySnapshot} {id : IntentId} {intent : Intent}
      (checks : runtime.boundChecks bound req = .ok snap)
      (claimable : runtime.Claimable bound.toCeremonyTuple id intent)
      (noGrant : bound.grantId = none) :
      BoundAuthorized (.allow .allowed, some (handleFor (boundAuthorization bound id) fresh))
        (withCeremony { runtime with intents := runtime.claimedIntents id intent }
          (boundAuthorization bound id) fresh)
  | openedWithGrant {snap : PolicySnapshot} {id : IntentId} {intent : Intent}
      (checks : runtime.boundChecks bound req = .ok snap)
      (claimable : runtime.Claimable bound.toCeremonyTuple id intent)
      (named : bound.grantId = some grantId)
      (registered : runtime.grants.get bound.profileId = some reg)
      (claim : reg.claimForAuthorize runtime.clockSecs grantId bound.sessionId
        (claimIntentOf env bound) fresh = (.ok ceremonyId, claimed)) :
      BoundAuthorized (.allow .allowed, some (handleFor (boundAuthorization bound id) ceremonyId))
        (withCeremony { runtime with
          intents := runtime.claimedIntents id intent
          grants := runtime.grants.insert bound.profileId claimed }
          (boundAuthorization bound id) ceremonyId)

end

theorem authorizeBound_spec (env : Env) (runtime : PolicyRuntime)
    (bound : BoundApprovalResult) (req : AuthorizationRequest) (fresh : CeremonyId) :
    BoundAuthorized env runtime bound req fresh
      (runtime.authorizeBound env bound req fresh).1
      (runtime.authorizeBound env bound req fresh).2 := by
  rw [authorizeBound]
  cases checks : runtime.boundChecks bound req with
  | error => exact .refused checks
  | ok =>
    have claim := claimApproved_spec runtime.intents runtime.clockMillis bound.toCeremonyTuple
    generalize runtime.intents.claimApproved runtime.clockMillis bound.toCeremonyTuple = claimed
      at claim ⊢
    rcases claimed with ⟨_, _⟩
    cases claim with
    | missing absent => exact .unclaimed runtime.sweptIntents_cleanup
    | @taken id intent found inTime selected =>
      have claimable := Claimable.of_selected found inTime selected
      have rollback := sweptIntents_rollback found inTime claimable.approved
      cases named : bound.grantId with
      | none =>
        have opened : BoundAuthorized env runtime bound req fresh _ _ :=
          .opened checks claimable named
        rwa [boundAuthorization, named] at opened
      | some grantId =>
        cases registered : runtime.grants.get bound.profileId with
        | none => exact .unclaimed rollback
        | some reg =>
          simp only []
          cases attempt : reg.claimForAuthorize runtime.clockSecs grantId bound.sessionId
              (claimIntentOf env bound) fresh with
          | mk outcome =>
            cases outcome with
            | error error => exact .grantRefused rollback named registered attempt
            | ok =>
              have opened : BoundAuthorized env runtime bound req fresh _ _ :=
                .openedWithGrant checks claimable named registered attempt
              rwa [boundAuthorization, named] at opened

/-- With a claimable intent and no grant, a bound approval is authorized. -/
theorem authorizeBound_of_claimable (env : Env) {bound : BoundApprovalResult}
    {req : AuthorizationRequest} (allows : BoundAllows runtime bound req snap)
    (noGrant : bound.grantId = none) (claimable : runtime.Claimable bound.toCeremonyTuple id intent)
    (fresh : CeremonyId) :
    ∃ other taken, runtime.Claimable bound.toCeremonyTuple other taken /\
      runtime.authorizeBound env bound req fresh =
        ((.allow .allowed, some (handleFor (boundAuthorization bound other) fresh)),
          withCeremony { runtime with intents := runtime.claimedIntents other taken }
            (boundAuthorization bound other) fresh) := by
  have claim := claimApproved_spec runtime.intents runtime.clockMillis bound.toCeremonyTuple
  rw [authorizeBound, (boundChecks_ok_iff _ _ _ _).mpr allows]
  generalize runtime.intents.claimApproved runtime.clockMillis bound.toCeremonyTuple = claimed
    at claim ⊢
  rcases claimed with ⟨_, _⟩
  cases claim with
  | missing absent =>
    have selected : intent.matchesQuery bound.toCeremonyTuple = true :=
      (intent.matchesQuery_iff _).mpr ⟨claimable.approved, claimable.tuple⟩
    rw [absent id intent claimable.found claimable.inTime] at selected
    cases selected
  | @taken other taken found inTime selected =>
    refine ⟨other, taken, .of_selected found inTime selected, ?_⟩
    simp only [noGrant, boundAuthorization]
    rfl

/-! ## Consumption -/

section

variable (runtime : PolicyRuntime) (handle : AuthorizationHandle)

/-- The runtime's record of this handle, still valid. -/
def IsOpen : Prop :=
  runtime.pending.get handle.ceremonyId = some ⟨handle.toAuthorization, false⟩

/-- The handle belongs to the current policy generation. -/
structure IsCurrent : Prop where
  generation : handle.policyGeneration = runtime.current.generationId
  digest : handle.policyDigest = runtime.current.digest

theorem isOpen_iff :
    runtime.IsOpen handle <->
      ∃ auth, runtime.pending.get handle.ceremonyId = some auth /\
        ¬ (auth.invalidated = true ∨
          auth.toAuthorization ≠ handle.toAuthorization) := by
  constructor
  · intro isOpen
    exact ⟨_, isOpen, by simp⟩
  · rintro ⟨auth, stored, valid⟩
    rcases auth with ⟨_, _⟩
    rw [not_or, Bool.not_eq_true, not_not] at valid
    rcases valid with ⟨rfl, rfl⟩
    exact stored

end

section

variable (isOpen : runtime.IsOpen handle)

include isOpen

/-- An open ceremony is closed, its intent given back and its grant claim dropped. -/
theorem invalidateCeremony_eq : runtime.invalidateCeremony handle.ceremonyId = { runtime with
        pending := runtime.pending.insert handle.ceremonyId ⟨handle.toAuthorization, true⟩
        intents :=
          match handle.intentId with
          | none => runtime.intents
          | some intentId => (runtime.intents.rollbackClaim intentId).2
        grants :=
          match handle.grantId with
          | none => runtime.grants
          | some _ =>
            runtime.grants.modify handle.profileId (fun reg =>
              reg.cancelClaim handle.ceremonyId) } := by
  unfold invalidateCeremony
  unfold IsOpen at isOpen
  generalize runtime.pending.get handle.ceremonyId = entry at isOpen ⊢
  subst isOpen
  rfl

/-- Closing a ceremony gives nothing back when its intent is not claimed. -/
theorem invalidateCeremony_intents
    (named : handle.intentId = some id) (found : runtime.intents.get id = some intent)
    (other : intent.state ≠ .claimed) :
    (runtime.invalidateCeremony handle.ceremonyId).intents = runtime.intents := by
  rw [invalidateCeremony_eq isOpen]
  simp only [named]
  exact rollbackClaim_of_not_claimed found other

theorem invalidateCeremony_pending :
    (runtime.invalidateCeremony handle.ceremonyId).pending.get handle.ceremonyId =
      some ⟨handle.toAuthorization, true⟩ := by
  rw [invalidateCeremony_eq isOpen]
  exact Table.get_insert_self _ _ _

end

/-- The claim of a handle on its grant was taken once. -/
inductive GrantClaimTaken (runtime : PolicyRuntime) (handle : AuthorizationHandle) :
    PolicyRuntime -> Prop
  | unneeded (noGrant : handle.grantId = none) : GrantClaimTaken runtime handle runtime
  | taken (named : handle.grantId = some grantId)
      (registered : runtime.grants.get handle.profileId = some reg)
      (found : reg.claims.get handle.ceremonyId = some claim) (unused : claim.consumed = false) :
      GrantClaimTaken runtime handle { runtime with
        grants := runtime.grants.insert handle.profileId { reg with
          claims := reg.claims.insert handle.ceremonyId { claim with consumed := true } } }

theorem consumeGrantClaim_spec (success : runtime.consumeGrantClaim handle = some consumed) :
    GrantClaimTaken runtime handle consumed := by
  rw [consumeGrantClaim] at success
  cases named : handle.grantId with
  | none =>
    rw [named] at success
    cases success
    exact .unneeded named
  | some grantId =>
    cases registered : runtime.grants.get handle.profileId with
    | none => simp [named, registered] at success
    | some reg =>
      cases found : reg.claims.get handle.ceremonyId with
      | none => simp [named, registered, GrantRegistry.consumeClaimByCeremony, found] at success
      | some claim =>
        cases unused : claim.consumed with
        | true =>
          simp [named, registered, GrantRegistry.consumeClaimByCeremony, found, unused] at success
        | false =>
          simp only [named, registered, GrantRegistry.consumeClaimByCeremony, found, unused,
            Bool.false_eq_true, if_false, Option.some.injEq] at success
          subst success
          exact .taken named registered found unused

/-- The store after a claimed intent was consumed. -/
def consumedIntents (runtime : PolicyRuntime) (id : IntentId) (intent : Intent) : IntentStore :=
  runtime.intents.put id { intent with state := .consumed }

/-- What an attempt to consume a handle finds before it touches the intent. -/
structure Consumable (runtime : PolicyRuntime) (handle : AuthorizationHandle) : Prop where
  isOpen : runtime.IsOpen handle
  current : runtime.IsCurrent handle
  grant : runtime.consumeGrantChecks handle = .ok ()

section

variable (runtime : PolicyRuntime) (handle : AuthorizationHandle)

inductive ConsumeOutcome : Except ReasonCode IntentConsumeInfo -> PolicyRuntime -> Prop
  | closed (notOpen : ¬ runtime.IsOpen handle) :
      ConsumeOutcome (.error .ceremonyInvalidated) runtime
  | invalidated (isOpen : runtime.IsOpen handle)
      (refused : ¬ runtime.IsCurrent handle ∨ runtime.consumeGrantChecks handle = .error reason) :
      ConsumeOutcome (.error reason) (runtime.invalidateCeremony handle.ceremonyId)
  | unchanged (consumable : runtime.Consumable handle)
      (unclaimed : ∀ id intent, handle.intentId = some id -> runtime.intents.get id = some intent ->
        intent.state ≠ .claimed) :
      ConsumeOutcome (.error reason) runtime
  | partialClaim {id : IntentId} {intent : Intent} (consumable : runtime.Consumable handle)
      (named : handle.intentId = some id) (found : runtime.intents.get id = some intent)
      (claimed : intent.state = .claimed)
      (noClaim : consumeGrantClaim { runtime with intents := runtime.consumedIntents id intent }
        handle = none) :
      ConsumeOutcome (.error .partialClaimFailed)
        (invalidateCeremony { runtime with intents := runtime.consumedIntents id intent }
          handle.ceremonyId)
  | taken {id : IntentId} {intent : Intent}
      (consumable : runtime.Consumable handle) (named : handle.intentId = some id)
      (found : runtime.intents.get id = some intent) (claimed : intent.state = .claimed)
      (claim : GrantClaimTaken { runtime with intents := runtime.consumedIntents id intent } handle
        consumed) :
      ConsumeOutcome (.ok intent.consumeInfo) (consumed.invalidateCeremony handle.ceremonyId)

end

/-- What a successful consumption found and what it left of the intent and the ceremony. -/
structure Consumption (runtime : PolicyRuntime) (handle : AuthorizationHandle)
    (after : PolicyRuntime) : Prop where
  consumable : runtime.Consumable handle
  intent : ∃ id intent, handle.intentId = some id /\ runtime.intents.get id = some intent /\
    intent.state = .claimed /\ after.intents.get id = some { intent with state := .consumed }
  closed : after.pending.get handle.ceremonyId = some ⟨handle.toAuthorization, true⟩

/-- A consumed intent stays consumed when its ceremony is closed. -/
theorem invalidateCeremony_consumed {middle : PolicyRuntime} (isOpen : runtime.IsOpen handle)
    (named : handle.intentId = some id) (pending : middle.pending = runtime.pending)
    (intents : middle.intents = runtime.consumedIntents id intent) :
    (middle.invalidateCeremony handle.ceremonyId).intents = runtime.consumedIntents id intent := by
  rw [IsOpen, <- pending] at isOpen
  have stored : middle.intents.get id = some { intent with state := .consumed } := by
    rw [intents, consumedIntents, get_put, if_pos rfl]
  rw [invalidateCeremony_intents isOpen named stored IntentState.noConfusion, intents]

theorem Consumption.of_taken {middle : PolicyRuntime} (consumable : runtime.Consumable handle)
    (named : handle.intentId = some id) (found : runtime.intents.get id = some intent)
    (claimed : intent.state = .claimed) (pending : middle.pending = runtime.pending)
    (intents : middle.intents = runtime.consumedIntents id intent) :
    Consumption runtime handle (middle.invalidateCeremony handle.ceremonyId) := by
  have isOpen := consumable.isOpen
  refine ⟨consumable, ⟨id, intent, named, found, claimed, ?_⟩, ?_⟩
  · rw [invalidateCeremony_consumed isOpen named pending intents, consumedIntents, get_put,
      if_pos rfl]
  · rw [IsOpen, <- pending] at isOpen
    exact invalidateCeremony_pending isOpen

theorem ConsumeOutcome.consumption (outcome : ConsumeOutcome runtime handle (.ok info) after) :
    Consumption runtime handle after := by
  cases outcome with
  | taken consumable named found claimed claim =>
    cases claim with
    | unneeded noGrant => exact .of_taken consumable named found claimed rfl rfl
    | taken =>
      exact .of_taken consumable named found claimed rfl rfl

theorem consumeAuthorization_spec (runtime : PolicyRuntime) (handle : AuthorizationHandle) :
    ConsumeOutcome runtime handle (runtime.consumeAuthorization handle).1
      (runtime.consumeAuthorization handle).2 := by
  rw [consumeAuthorization]
  cases stored : runtime.pending.get handle.ceremonyId with
  | none =>
    refine .closed (fun isOpen => ?_)
    rw [IsOpen, stored] at isOpen
    cases isOpen
  | some auth =>
    simp only []
    by_cases mismatch : auth.invalidated = true ∨ auth.toAuthorization ≠ handle.toAuthorization
    · rw [if_pos mismatch]
      refine .closed (fun isOpen => ?_)
      rw [IsOpen, stored] at isOpen
      cases isOpen
      simp at mismatch
    · have isOpen := (isOpen_iff runtime handle).mpr ⟨auth, stored, mismatch⟩
      rw [if_neg mismatch]
      by_cases stale : handle.policyGeneration ≠ runtime.current.generationId ∨
          handle.policyDigest ≠ runtime.current.digest
      · rw [if_pos stale]
        refine .invalidated isOpen (.inl (fun current => ?_))
        exact stale.elim (fun different => different current.generation)
          (fun different => different current.digest)
      · rw [not_or, not_not, not_not] at stale
        rw [if_neg (by simp [stale.1, stale.2])]
        have current : runtime.IsCurrent handle := ⟨stale.1, stale.2⟩
        cases grant : runtime.consumeGrantChecks handle with
        | error reason => exact .invalidated isOpen (.inr grant)
        | ok _ =>
          have consumable : runtime.Consumable handle := ⟨isOpen, current, grant⟩
          cases named : handle.intentId with
          | none =>
            refine .unchanged consumable (fun id intent other => ?_)
            rw [named] at other
            cases other
          | some id =>
            have consume := consumeClaimed_spec runtime.intents id
            simp only []
            generalize runtime.intents.consumeClaimed id = result at consume ⊢
            rcases result with ⟨_, intents⟩
            cases consume with
            | missing absent =>
              refine .unchanged consumable (fun other intent same found => ?_)
              rw [named] at same
              cases same
              rw [absent] at found
              cases found
            | refused found other =>
              refine .unchanged consumable (fun otherId intent same otherFound => ?_)
              rw [named] at same
              cases same
              rw [found] at otherFound
              cases otherFound
              exact other
            | @taken intent found claimed =>
              change ConsumeOutcome runtime handle
                (finishConsume { runtime with intents := runtime.consumedIntents id intent }
                  handle id intent.consumeInfo).1
                (finishConsume { runtime with intents := runtime.consumedIntents id intent }
                  handle id intent.consumeInfo).2
              rw [finishConsume]
              cases claim : consumeGrantClaim
                  { runtime with intents := runtime.consumedIntents id intent } handle with
              | none =>
                have stored : (runtime.consumedIntents id intent).get id =
                    some { intent with state := .consumed } := by
                  rw [consumedIntents, get_put, if_pos rfl]
                have final := rollbackClaim_of_not_claimed stored IntentState.noConfusion
                simp only [final]
                exact .partialClaim consumable named found claimed claim
              | some consumed =>
                exact .taken consumable named found claimed (consumeGrantClaim_spec claim)

/-! ## Resolution of a pending request -/

theorem uniqueWaiting_ok {id : PendingRequestId}
    (selected : runtime.uniqueWaiting tuple = .ok (id, req)) :
    runtime.pendingRequests.get id = some req /\ req.state = .waiting /\
      req.toCeremonyTuple = tuple.normalized /\
      ∀ otherId other, runtime.pendingRequests.get otherId = some other -> other.state = .waiting ->
        other.toCeremonyTuple = tuple.normalized -> otherId = id := by
  rw [uniqueWaiting] at selected
  generalize waiting : runtime.pendingRequests.toList.filter (fun entry =>
    entry.2.state = .waiting && entry.2.matchesTuple tuple) = entries at selected
  have mem : ∀ entry, entry ∈ entries <-> runtime.pendingRequests.get entry.1 = some entry.2 /\
      entry.2.state = .waiting /\ entry.2.toCeremonyTuple = tuple.normalized := by
    intro entry
    rw [<- waiting, <- Table.mem_toList]
    simp [PendingPrincipalRequest.matchesTuple]
  match entries, selected with
  | [entry], same =>
    cases same
    rcases (mem (id, req)).mp List.mem_cons_self with ⟨found, isWaiting, matching⟩
    refine ⟨found, isWaiting, matching, ?_⟩
    intro otherId other otherFound otherWaiting otherMatching
    have inside := (mem (otherId, other)).mpr ⟨otherFound, otherWaiting, otherMatching⟩
    exact congrArg Prod.fst (List.mem_singleton.mp inside)

section

variable (runtime : PolicyRuntime) (req : PendingPrincipalRequest) (fresh : GrantId)

inductive GrantResolved : Except CeremonyResolveError (Option GrantId) -> PolicyRuntime -> Prop
  | isolated (kind : req.kind = .isolatedIntent) :
      GrantResolved (.ok none) runtime
  | unnamed (kind : req.kind = .delegatedAuth) (missing : req.grantRequestId = none) :
      GrantResolved (.error (.grantFailed "missing grant request id")) runtime
  | unregistered (kind : req.kind = .delegatedAuth) (named : req.grantRequestId = some requestId)
      (missing : runtime.grants.get req.profileId = none) :
      GrantResolved (.error (.grantFailed "profile not found")) runtime
  | existing (kind : req.kind = .delegatedAuth) (named : req.grantRequestId = some requestId)
      (registered : runtime.grants.get req.profileId = some reg)
      (resolved : reg.resolvedGrantId requestId = some grantId) :
      GrantResolved (.ok (some grantId)) runtime
  | refused (kind : req.kind = .delegatedAuth) (named : req.grantRequestId = some requestId)
      (registered : runtime.grants.get req.profileId = some reg)
      (unresolved : reg.resolvedGrantId requestId = none)
      (attempt : reg.approveGrant runtime.clockSecs requestId fresh = (.error error, changed)) :
      GrantResolved (.error (.grantFailed error.message))
        { runtime with grants := runtime.grants.insert req.profileId changed }
  | approved (kind : req.kind = .delegatedAuth) (named : req.grantRequestId = some requestId)
      (registered : runtime.grants.get req.profileId = some reg)
      (unresolved : reg.resolvedGrantId requestId = none)
      (attempt : reg.approveGrant runtime.clockSecs requestId fresh = (.ok grantId, changed)) :
      GrantResolved (.ok (some grantId))
        { runtime with grants := runtime.grants.insert req.profileId changed }

end

theorem resolveGrant_spec (runtime : PolicyRuntime) (req : PendingPrincipalRequest)
    (fresh : GrantId) :
    GrantResolved runtime req fresh (runtime.resolveGrant req fresh).1
      (runtime.resolveGrant req fresh).2 := by
  rw [resolveGrant]
  cases kind : req.kind with
  | isolatedIntent => exact .isolated kind
  | delegatedAuth =>
    cases named : req.grantRequestId with
    | none => exact .unnamed kind named
    | some requestId =>
      cases registered : runtime.grants.get req.profileId with
      | none => exact .unregistered kind named registered
      | some reg =>
        simp only []
        cases resolved : reg.resolvedGrantId requestId with
        | some grantId => exact .existing kind named registered resolved
        | none =>
          cases attempt : reg.approveGrant runtime.clockSecs requestId fresh with
          | mk result changed =>
            cases result with
            | error error => exact .refused kind named registered resolved attempt
            | ok grantId => exact .approved kind named registered resolved attempt

theorem GrantResolved.frame (resolved : GrantResolved runtime req fresh result after) :
    ∃ grants, after = { runtime with grants } := by
  cases resolved <;> exact ⟨_, rfl⟩

/-- The approval result for a request. -/
def boundResult (req : PendingPrincipalRequest) (grantId : Option GrantId) :
    BoundApprovalResult :=
  { toCeremonyTuple := req.toCeremonyTuple, intentId := req.intentId, grantId }

section

variable (env : Env) (runtime : PolicyRuntime) (tuple : CeremonyTuple) (fresh : GrantId)

inductive Resolved : Except CeremonyResolveError BoundApprovalResult -> PolicyRuntime -> Prop
  | unmatched (selected : runtime.uniqueWaiting tuple = .error error) :
      Resolved (.error error) runtime
  | refused {id : PendingRequestId} {req : PendingPrincipalRequest}
      (selected : runtime.uniqueWaiting tuple = .ok (id, req))
      (checks : runtime.resolveChecks env tuple req = .error (error, none)) :
      Resolved (.error error) runtime
  | closed {id : PendingRequestId} {req : PendingPrincipalRequest}
      (selected : runtime.uniqueWaiting tuple = .ok (id, req))
      (checks : runtime.resolveChecks env tuple req = .error (error, some state)) :
      Resolved (.error error) (runtime.setPendingState id state)
  | intentRefused {id : PendingRequestId} {req : PendingPrincipalRequest}
      {snap : PolicySnapshot} {intents : IntentStore}
      (selected : runtime.uniqueWaiting tuple = .ok (id, req))
      (checks : runtime.resolveChecks env tuple req = .ok snap)
      (approval : runtime.intents.approve runtime.clockMillis req.intentId =
        (.error error, intents)) :
      Resolved (.error (.intentApprovalFailed error.message)) { runtime with intents }
  | grantFailed {id : PendingRequestId} {req : PendingPrincipalRequest}
      {snap : PolicySnapshot} {intents : IntentStore}
      (selected : runtime.uniqueWaiting tuple = .ok (id, req))
      (checks : runtime.resolveChecks env tuple req = .ok snap)
      (approval : runtime.intents.approve runtime.clockMillis req.intentId = (.ok (), intents))
      (grant : GrantResolved { runtime with intents } req fresh (.error error) failed) :
      Resolved (.error error) failed
  | resolved {id : PendingRequestId} {req : PendingPrincipalRequest}
      {snap : PolicySnapshot} {intents : IntentStore}
      (selected : runtime.uniqueWaiting tuple = .ok (id, req))
      (checks : runtime.resolveChecks env tuple req = .ok snap)
      (approval : runtime.intents.approve runtime.clockMillis req.intentId = (.ok (), intents))
      (grant : GrantResolved { runtime with intents } req fresh (.ok grantId) granted) :
      Resolved (.ok (boundResult req grantId)) (granted.setPendingState id .approved)

end

theorem ceremonyResolvePending_spec (env : Env) (runtime : PolicyRuntime)
    (tuple : CeremonyTuple) (fresh : GrantId) :
    Resolved env runtime tuple fresh (runtime.ceremonyResolvePending env tuple fresh).1
      (runtime.ceremonyResolvePending env tuple fresh).2 := by
  rw [ceremonyResolvePending]
  cases selected : runtime.uniqueWaiting tuple with
  | error error => exact .unmatched selected
  | ok entry =>
    rcases entry with ⟨_, req⟩
    cases checks : runtime.resolveChecks env tuple req with
    | error failure =>
      rcases failure with ⟨error, state⟩
      cases state with
      | none => simpa only [checks] using .refused selected checks
      | some state => simpa only [checks] using .closed selected checks
    | ok snap =>
      simp only [checks]
      cases approval : runtime.intents.approve runtime.clockMillis req.intentId with
      | mk result intents =>
        cases result with
        | error error => exact .intentRefused selected checks approval
        | ok _ =>
          have grant := resolveGrant_spec { runtime with intents } req fresh
          simp only []
          cases outcome : resolveGrant { runtime with intents } req fresh with
          | mk result granted =>
            rw [outcome] at grant
            cases result with
            | error error => exact .grantFailed selected checks approval grant
            | ok grantId => exact .resolved selected checks approval grant

/-! ## Creation of pending requests -/

section

variable (runtime : PolicyRuntime) (params : CreateIntentParams) (freshIntent : IntentId)
  (freshPending : PendingRequestId)

inductive PendingCreated : Except PendingCreateError PendingRequestId -> PolicyRuntime -> Prop
  | failed {intents : IntentStore}
      (created : runtime.intents.Created runtime.clockMillis params freshIntent (.error error)
        intents) :
      PendingCreated (.error (.intentCreationFailed error)) { runtime with intents }
  | created {intents : IntentStore}
      (created : runtime.intents.Created runtime.clockMillis params freshIntent (.ok freshIntent)
        intents) :
      PendingCreated (.ok freshPending) { runtime with
        intents
        pendingRequests := runtime.pendingRequests.insert freshPending
          (runtime.waitingRequest params freshIntent .isolatedIntent none) }

end

theorem principalCreatePendingIntent_spec (runtime : PolicyRuntime) (params : CreateIntentParams)
    (freshIntent : IntentId) (freshPending : PendingRequestId) :
    PendingCreated runtime params freshIntent freshPending
      (runtime.principalCreatePendingIntent params freshIntent freshPending).1
      (runtime.principalCreatePendingIntent params freshIntent freshPending).2 := by
  have created := runtime.intents.create_spec runtime.clockMillis params freshIntent
  rw [principalCreatePendingIntent]
  generalize runtime.intents.create runtime.clockMillis params freshIntent = outcome at created ⊢
  rcases outcome with ⟨result, _⟩
  cases result with
  | error error => exact .failed created
  | ok intentId =>
    have same : intentId = freshIntent := by
      cases created
      rfl
    subst same
    exact .created created

section

variable (runtime : PolicyRuntime) (intentParams : CreateIntentParams)
  (grantParams : GrantRequestParams) (freshIntent : IntentId) (freshGrantRequest : GrantRequestId)
  (freshPending : PendingRequestId)

inductive DelegatedCreated : Except PendingCreateError (PendingRequestId × GrantRequestId) -> PolicyRuntime -> Prop
  | intentFailed {intents : IntentStore}
      (created : runtime.intents.Created runtime.clockMillis intentParams freshIntent
        (.error error) intents) :
      DelegatedCreated (.error (.intentCreationFailed error)) { runtime with intents }
  | unregistered {intents : IntentStore}
      (created : runtime.intents.Created runtime.clockMillis intentParams freshIntent
        (.ok freshIntent) intents)
      (missing : runtime.grants.get intentParams.profileId = none) :
      DelegatedCreated (.error (.grantRequestFailed .profileMismatch)) { runtime with intents }
  | grantRefused {intents : IntentStore}
      (created : runtime.intents.Created runtime.clockMillis intentParams freshIntent
        (.ok freshIntent) intents)
      (registered : runtime.grants.get intentParams.profileId = some reg)
      (attempt : reg.requestGrant runtime.clockSecs grantParams freshGrantRequest =
        (.error error, requested)) :
      DelegatedCreated (.error (.grantRequestFailed error)) { runtime with
          intents
          grants := runtime.grants.insert intentParams.profileId requested }
  | created {intents : IntentStore}
      (created : runtime.intents.Created runtime.clockMillis intentParams freshIntent
        (.ok freshIntent) intents)
      (registered : runtime.grants.get intentParams.profileId = some reg)
      (attempt : reg.requestGrant runtime.clockSecs grantParams freshGrantRequest =
        (.ok grantRequestId, requested)) :
      DelegatedCreated (.ok (freshPending, grantRequestId)) { runtime with
          intents
          grants := runtime.grants.insert intentParams.profileId requested
          pendingRequests := runtime.pendingRequests.insert freshPending
            (runtime.waitingRequest intentParams freshIntent .delegatedAuth (some grantRequestId)) }

end

theorem principalCreatePendingDelegated_spec (runtime : PolicyRuntime)
    (intentParams : CreateIntentParams) (grantParams : GrantRequestParams) (freshIntent : IntentId)
    (freshGrantRequest : GrantRequestId) (freshPending : PendingRequestId) :
    DelegatedCreated runtime intentParams grantParams freshIntent freshGrantRequest freshPending
      (runtime.principalCreatePendingDelegated intentParams grantParams freshIntent
        freshGrantRequest freshPending).1
      (runtime.principalCreatePendingDelegated intentParams grantParams freshIntent
        freshGrantRequest freshPending).2 := by
  have created := runtime.intents.create_spec runtime.clockMillis intentParams freshIntent
  rw [principalCreatePendingDelegated]
  generalize runtime.intents.create runtime.clockMillis intentParams freshIntent = outcome
    at created ⊢
  rcases outcome with ⟨result, _⟩
  cases result with
  | error error => exact .intentFailed created
  | ok intentId =>
    have same : intentId = freshIntent := by
      cases created
      rfl
    subst same
    cases registered : runtime.grants.get intentParams.profileId with
    | none => exact .unregistered created registered
    | some reg =>
      simp only []
      cases attempt : reg.requestGrant runtime.clockSecs grantParams freshGrantRequest with
      | mk result requested =>
        cases result with
        | error error => exact .grantRefused created registered attempt
        | ok => exact .created created registered attempt

/-! ## Termination of pending requests -/

/-- What terminating requests does to one intent: it may expire or be denied. -/
inductive Ended (now : Nat) : Option Intent -> Option Intent -> Prop
  | kept (entry : Option Intent) : Ended now entry entry
  | expired {intent : Intent} (late : intent.isOverdue now = true) :
      Ended now (some intent) (some { intent with state := .expired })
  | denied {intent : Intent} (inTime : intent.isOverdue now = false)
      (pending : intent.state = .pending) :
      Ended now (some intent) (some { intent with state := .denied })

/-- Both endings are final. -/
theorem Ended.trans (before : Ended now first second)
    (after : Ended now second third) : Ended now first third := by
  cases before with
  | kept entry => exact after
  | expired late =>
    cases after with
    | kept entry => exact .expired late
    | expired again => exact absurd again (by simp [Intent.isOverdue])
    | denied inTime pending => cases pending
  | denied inTime pending =>
    cases after with
    | kept entry => exact .denied inTime pending
    | expired again => exact absurd again (by simp [Intent.isOverdue])
    | denied _ again => cases again

theorem Ended.of_settled {store after : IntentStore} {named : IntentId}
    {result : Except IntentError Unit} (settled : store.Settled now named .denied result after)
    (id : IntentId) : Ended now (store.get id) (after.get id) := by
  cases settled with
  | missing | refused => exact .kept _
  | overdue found late =>
    rw [get_put]
    split_ifs with same
    · rw [same, found]
      exact .expired late
    · exact .kept _
  | moved found inTime pending =>
    rw [get_put]
    split_ifs with same
    · rw [same, found]
      exact .denied inTime pending
    · exact .kept _

theorem terminateAll_frame (requests : List PendingPrincipalRequest) (runtime : PolicyRuntime) :
    ∃ intents grants, requests.foldl terminateRequest runtime = { runtime with intents, grants } /\
      ∀ id, Ended runtime.clockMillis (runtime.intents.get id) (intents.get id) := by
  induction requests generalizing runtime with
  | nil => exact ⟨runtime.intents, runtime.grants, rfl, fun id => .kept _⟩
  | cons req rest ih =>
    rcases ih (runtime.terminateRequest req) with
      ⟨intents, grants, same, ended⟩
    refine ⟨intents, grants, same, fun id => ?_⟩
    have first := deny_spec runtime.intents runtime.clockMillis req.intentId
    exact (Ended.of_settled first id).trans (ended id)

/-- A pending request was ended on demand, or the call changed nothing. -/
inductive PendingEnded (runtime : PolicyRuntime) (state : PendingState) : PolicyRuntime -> Prop
  | unchanged : PendingEnded runtime state runtime
  | ended {id : PendingRequestId} {req : PendingPrincipalRequest}
      (found : runtime.pendingRequests.get id = some req) (waiting : req.state = .waiting) :
      PendingEnded runtime state ((runtime.terminateRequest req).setPendingState id state)

theorem principalCancelPending_spec (runtime : PolicyRuntime) (id : PendingRequestId)
    (sessionId : PrincipalSessionId) :
    PendingEnded runtime .cancelled (runtime.principalCancelPending id sessionId).2 := by
  rw [principalCancelPending]
  cases found : runtime.pendingRequests.get id with
  | none => exact .unchanged
  | some req =>
    simp only []
    split_ifs with settled foreign
    · exact .unchanged
    · exact .unchanged
    · exact .ended found (not_not.mp settled)

theorem ceremonyDenyPending_spec (runtime : PolicyRuntime) (tuple : CeremonyTuple) :
    PendingEnded runtime .denied (runtime.ceremonyDenyPending tuple).2 := by
  rw [ceremonyDenyPending]
  cases selected : runtime.uniqueWaiting tuple with
  | error error => exact .unchanged
  | ok entry =>
    rcases uniqueWaiting_ok selected with ⟨found, waiting, -, -⟩
    exact .ended found waiting

/-! ## Operations that touch one store -/

section

variable (runtime : PolicyRuntime)

theorem adminRequestGrantInner_frame (params : GrantRequestParams)
    (allowEmptyCredentials : Bool) (fresh : GrantRequestId) :
    ∃ grants, (runtime.adminRequestGrantInner params allowEmptyCredentials fresh).2 =
      { runtime with grants } := by
  rw [adminRequestGrantInner]
  cases runtime.grants.get params.profileId <;> exact ⟨_, rfl⟩

theorem revokeGrantById_frame (grantId : GrantId) :
    ∃ grants, (runtime.revokeGrantById grantId).2 = { runtime with grants } := by
  rw [revokeGrantById]
  split <;> exact ⟨_, rfl⟩

theorem resolveGrantForSign_frame (profileId : ProfileId) (grantId : GrantId) :
    ∃ grants, (runtime.resolveGrantForSign profileId grantId).2 = { runtime with grants } := by
  rw [resolveGrantForSign]
  cases runtime.grants.get profileId <;> exact ⟨_, rfl⟩

theorem consumeRegistrationGrant_frame (profileId : ProfileId) (grantId : RegistrationGrantId) :
    ∃ registrations, (runtime.consumeRegistrationGrant profileId grantId).2 =
      { runtime with registrationGrants := registrations } := by
  rw [consumeRegistrationGrant]
  cases runtime.registrationGrants.get profileId <;> exact ⟨_, rfl⟩

/-- Revoking a grant invalidates ceremonies that use it. -/
theorem adminRevokeGrant_frame (grantId : GrantId) :
    ∃ grants pending, (runtime.adminRevokeGrant grantId).2 = { runtime with grants, pending } /\
      (pending = runtime.pending ∨ pending = runtime.pending.mapValues (fun _ auth =>
        if auth.grantId = some grantId then { auth with invalidated := true }
        else auth)) := by
  rw [adminRevokeGrant]
  cases runtime.grants.find (fun reg => reg.isGrantActive grantId) with
  | none => exact ⟨_, _, rfl, .inl rfl⟩
  | some entry =>
    rcases entry with ⟨_, reg⟩
    simp only []
    cases reg.revokeGrant grantId with
    | mk result revoked =>
      cases result with
      | error error => exact ⟨_, _, rfl, .inl rfl⟩
      | ok state => exact ⟨_, _, rfl, .inr rfl⟩

end

inductive Reloaded (env : Env) (runtime : PolicyRuntime) (config : AgentConfig)
    (fresh : PolicyGenerationId) : Except PolicyRuntimeError PolicyDigest -> PolicyRuntime -> Prop
  | failed : Reloaded env runtime config fresh (.error error) runtime
  | compiled (compiled : compileGeneration env config runtime.clockSecs fresh = .ok gen) :
      Reloaded env runtime config fresh (.ok gen.digest) (runtime.reloaded gen)

theorem reload_spec (env : Env) (runtime : PolicyRuntime) (config : AgentConfig)
    (fresh : PolicyGenerationId) :
    Reloaded env runtime config fresh (runtime.reload env config fresh).1
      (runtime.reload env config fresh).2 := by
  rw [reload]
  cases compiled : compileGeneration env config runtime.clockSecs fresh with
  | error error => exact .failed
  | ok => exact .compiled compiled

/-! ## What the outcomes leave alone -/

/-- Only intents, grants and pending requests may differ. -/
def LeavesCeremonies (runtime after : PolicyRuntime) : Prop :=
  ∃ intents grants requests, after = { runtime with intents, grants, pendingRequests := requests }

/-- Only intents, grants and ceremonies may differ. -/
def LeavesRequests (runtime after : PolicyRuntime) : Prop :=
  ∃ intents grants pending, after = { runtime with intents, grants, pending }

section Leaves

theorem PendingCreated.leaves
    (created : runtime.PendingCreated params freshIntent freshPending result after) :
    runtime.LeavesCeremonies after := by
  cases created <;> exact ⟨_, _, _, rfl⟩

theorem DelegatedCreated.leaves
    (created : runtime.DelegatedCreated params grantParams freshIntent freshRequest freshPending
      result after) : runtime.LeavesCeremonies after := by
  cases created <;> exact ⟨_, _, _, rfl⟩

theorem PendingEnded.leaves (ended : runtime.PendingEnded state after) :
    runtime.LeavesCeremonies after := by
  cases ended <;> exact ⟨_, _, _, rfl⟩

theorem terminateWhere_leaves (runtime : PolicyRuntime) (test : PendingPrincipalRequest -> Bool)
    (state : PendingState) : runtime.LeavesCeremonies (runtime.terminateWhere test state) := by
  rcases terminateAll_frame (runtime.pendingRequests.values.filter
    (fun req => decide (req.state = .waiting) && test req)) runtime with
    ⟨_, _, same, -⟩
  rw [terminateWhere]
  simp only [same]
  exact ⟨_, _, _, rfl⟩

theorem Resolved.leaves (resolved : Resolved env runtime tuple fresh result after) :
    runtime.LeavesCeremonies after := by
  cases resolved with
  | grantFailed selected checks approval grant =>
    rcases grant.frame with ⟨grants, rfl⟩
    exact ⟨_, _, _, rfl⟩
  | resolved selected checks approval grant =>
    rcases grant.frame with ⟨_, rfl⟩
    exact ⟨_, _, _, rfl⟩
  | _ => exact ⟨_, _, _, rfl⟩

theorem Authorized.leaves (authorized : Authorized env runtime auth fresh answer after) :
    runtime.LeavesRequests after := by
  cases authorized <;> exact ⟨_, _, _, rfl⟩

theorem BoundAuthorized.leaves
    (authorized : BoundAuthorized env runtime bound auth fresh answer after) :
    runtime.LeavesRequests after := by
  cases authorized <;> exact ⟨_, _, _, rfl⟩

theorem LeavesRequests.invalidateCeremony (leaves : runtime.LeavesRequests after)
    (ceremonyId : CeremonyId) : runtime.LeavesRequests (after.invalidateCeremony ceremonyId) := by
  rcases leaves with ⟨_, _, pending, rfl⟩
  rw [PolicyRuntime.invalidateCeremony]
  cases pending.get ceremonyId <;> exact ⟨_, _, _, rfl⟩

theorem ConsumeOutcome.leaves
    (outcome : runtime.ConsumeOutcome handle result after) : runtime.LeavesRequests after := by
  cases outcome with
  | closed | unchanged => exact ⟨_, _, _, rfl⟩
  | taken consumable named found claimed claim =>
    apply LeavesRequests.invalidateCeremony
    cases claim <;> exact ⟨_, _, _, rfl⟩
  | _ =>
    apply LeavesRequests.invalidateCeremony
    exact ⟨_, _, _, rfl⟩

end Leaves

end PolicyRuntime

end ControlVault.Engine
