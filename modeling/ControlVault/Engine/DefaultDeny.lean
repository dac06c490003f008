import ControlVault.Engine.Exhaustion
import ControlVault.Engine.Scenario

namespace ControlVault.Engine

open Foundation Core List

/-!
# What an allowed ceremony says about the policy

`authorize` asks for the rule of the relying party.  `authorize_bound` relies on
the checks that `ceremony_resolve_pending` made, and these ask only whether some
rule of the profile permits the action.  The two paths agree on profiles whose
rules agree with each other; a profile that permits an action at one relying
party and denies it at another is where they part.
-/

/-- The profile, the relying party, the rule, the credential and the user
verification of an authorization, as the current policy wants them. -/
structure PolicyRuntime.Complies (env : Env) (runtime : PolicyRuntime)
    (handle : AuthorizationHandle) (uvEnforced : Bool) : Prop where
  profile : ∃ snap, runtime.current.findSnapshot handle.profileId = some snap /\
    snap.isRpExactMatch env handle.rpId = true /\
    (∃ policy, snap.ceremonyPolicy env handle.rpId handle.action = some policy /\
      policy.authorization ≠ .deny) /\
    snap.credentialListed handle.credentialRef = true /\
    (snap.requireUv = true -> uvEnforced = true)

/-- Wherever the profile applies, it permits what it permits anywhere. -/
def PolicySnapshot.RulesAgree (env : Env) (snap : PolicySnapshot) : Prop :=
  ∀ rpId action, snap.isRpExactMatch env rpId = true ->
    snap.actionAllowed action = true ->
      ∃ policy, snap.ceremonyPolicy env rpId action = some policy /\
        policy.authorization ≠ .deny

variable {env : Env} {snap : PolicySnapshot}

theorem PolicySnapshot.isRpExactMatch_canonical
    (accepted : snap.isRpExactMatch env rpId = true) :
    snap.isRpExactMatch env rpId.canonical = true := by
  rw [isRpExactMatch] at accepted ⊢
  cases valid : validateRpId env rpId with
  | error => simp [valid] at accepted
  | ok =>
    have again := validateRpId_canonical valid
    rw [valid] at accepted
    rw [<- validateRpId_ok valid, again]
    exact accepted

/-- Every listed relying party permits what the profile permits, and all are listed. -/
def PolicySnapshot.listedRulesAgree (snap : PolicySnapshot) : Bool :=
  !snap.normalizedRpIds.elem anyRpId &&
    snap.normalizedRpIds.all (fun rpId =>
      [IntentAction.register, IntentAction.authenticate].all (fun action =>
        !snap.actionAllowed action ||
          (snap.ruleFor rpId).any (fun rule => rule.permits action)))

/-- Without a rule for every relying party, it is enough to look at the listed ones. -/
theorem PolicySnapshot.rulesAgree_of_listed (listed : snap.listedRulesAgree = true) :
    snap.RulesAgree env := by
  simp only [listedRulesAgree, Bool.and_eq_true, Bool.not_eq_true', all_eq_true,
    Bool.or_eq_true] at listed
  rcases listed with ⟨literal, agree⟩
  intro rpId action accepted permitted
  rw [isRpExactMatch] at accepted
  rw [ceremonyPolicy]
  cases valid : validateRpId env rpId with
  | error => simp [valid] at accepted
  | ok normalized =>
    simp only [valid, literal, Bool.or_false, elem_iff] at accepted
    have mem : action ∈ [IntentAction.register, IntentAction.authenticate] := by
      cases action <;> simp
    have permits := (agree normalized accepted action mem).resolve_left (by simp [permitted])
    cases rule : snap.ruleFor normalized with
    | none => simp [rule] at permits
    | some =>
      simp only [rule, Option.any_some, AgentRpRule.permits, bne_iff_ne] at permits
      simp only [rule]
      exact ⟨_, rfl, permits⟩

/-! ## Generations -/

section Generations

variable {before after : PolicyRuntime} {event : Event}

theorem compileGeneration_generationId
    (compiled : compileGeneration env config now fresh = .ok gen) :
    gen.generationId = fresh := by
  rw [compileGeneration] at compiled
  cases profiles : config.profiles.mapM (compileProfile env) with
  | error => simp [profiles] at compiled
  | ok =>
    rw [profiles] at compiled
    cases compiled
    rfl

/-- A step keeps the generation or draws the identifier of a new one. -/
theorem Step.generation (step : Step env before event after) :
    after.current = before.current ∨
      after.current.generationId.fresh ∈ event.operation.drawn := by
  have current := step.reordered.current
  cases step.reach with
  | quiet frame => exact .inl (frame.current.trans current.symm)
  | ceremonies touches frame => exact .inl (frame.current.trans current.symm)
  | @generation config fresh gen same compiled result =>
    have drawn : gen.generationId = fresh := compileGeneration_generationId compiled
    refine .inr ?_
    rw [result, same, <- drawn]
    exact mem_cons_self
  | advance same result => exact .inl (by rw [result]; exact current.symm)
  | regress same result => exact .inl (by rw [result]; exact current.symm)

theorem Started.generation_known (started : Started env start events finish) :
    finish.current.generationId.fresh ∈ start.current.generationId.fresh :: drawn events := by
  apply started.history
  · exact mem_cons_self
  · intro events event before after _ _ known step
    rw [drawn_snoc, <- cons_append]
    rcases step.generation with same | drawn
    · rw [same]
      exact mem_append_left _ known
    · exact mem_append_right _ drawn

end Generations

/-! ## Resolved requests -/

/-- The event resolved a pending request and answered with this approval. -/
def Event.Resolves (event : Event) (bound : BoundApprovalResult) : Prop :=
  event.answer = .pendingResolved (.ok bound)

instance (event : Event) (bound : BoundApprovalResult) : Decidable (event.Resolves bound) :=
  inferInstanceAs (Decidable (_ = _))

theorem Event.Resolves.resolved {event : Event} (resolves : event.Resolves bound)
    (executed : event.before.exec env event.operation = (event.answer, event.after)) :
    ∃ tuple fresh, event.operation = .ceremonyResolvePending tuple fresh /\
      PolicyRuntime.Resolved env event.before tuple fresh (.ok bound) event.after := by
  cases op : event.operation with
  | ceremonyResolvePending tuple fresh =>
    rw [op] at executed
    have resolved := PolicyRuntime.ceremonyResolvePending_spec env event.before tuple fresh
    have answered : Answer.pendingResolved
        (event.before.ceremonyResolvePending env tuple fresh).1 = _ :=
      (congrArg Prod.fst executed).trans resolves
    have finished : (event.before.ceremonyResolvePending env tuple fresh).2 = event.after :=
      congrArg Prod.snd executed
    injection answered with result
    rw [result, finished] at resolved
    exact ⟨tuple, fresh, rfl, resolved⟩
  | _ =>
    rw [op] at executed
    have answered := (congrArg Prod.fst executed).trans resolves
    cases answered

/-- What an approval says as long as its generation is the current one. -/
structure Vouched (env : Env) (start : PolicyRuntime) (events : List Event)
    (state : PolicyRuntime) (bound : BoundApprovalResult) : Prop where
  known : bound.policyGeneration.fresh ∈ start.current.generationId.fresh :: drawn events
  allowed : bound.policyGeneration = state.current.generationId ->
    ∃ snap, state.current.findSnapshot bound.profileId = some snap /\
      snap.isRpExactMatch env bound.rpId = true /\
      snap.credentialListed bound.credentialRef = true /\
      snap.actionAllowed bound.action = true

section Vouching

variable {start before after : PolicyRuntime} {events : List Event} {event : Event}
  {bound : BoundApprovalResult}

theorem Vouched.preserved (vouched : Vouched env start events before bound)
    (fresh : Fresh start (events ++ [event])) (step : Step env before event after) :
    Vouched env start (events ++ [event]) after bound := by
  constructor
  · rw [drawn_snoc]
    exact mem_append_left _ vouched.known
  · intro current
    rcases step.generation with same | drawn
    · rw [same] at current ⊢
      exact vouched.allowed current
    · rw [<- current] at drawn
      exact absurd vouched.known (fresh.unusedGeneration drawn)

/-- A resolution vouches for its result. -/
theorem Vouched.of_resolves (started : Started env start events before)
    (step : Step env before event after) (resolves : event.Resolves bound) :
    Vouched env start (events ++ [event]) after bound := by
  rcases resolves.resolved step.executed with ⟨tuple, fresh, _, resolved⟩
  have current : after.current = event.before.current := by
    rw [<- step.finished]
    exact (QuietFrame.of_leaves resolved.leaves).current
  generalize event.after = left at resolved
  cases resolved with
  | @resolved grantId granted id req snap intents selected checks approval grant =>
    have allows := PolicyRuntime.resolveChecks_ok checks
    have tuples : req.toCeremonyTuple = tuple.normalized :=
      (PolicyRuntime.uniqueWaiting_ok selected).2.2.1
    have gen : req.policyGeneration = event.before.current.generationId := by
      rw [tuples]
      exact allows.generation
    constructor
    · change req.policyGeneration.fresh ∈ _
      rw [gen, <- step.reordered.current, drawn_snoc]
      exact mem_append_left _ started.generation_known
    · intro _
      refine ⟨snap, ?_⟩
      change after.current.findSnapshot req.profileId = some snap /\
        snap.isRpExactMatch env req.rpId = true /\
        snap.credentialListed req.credentialRef = true /\
        snap.actionAllowed req.action = true
      rw [current, tuples]
      exact ⟨allows.profile, PolicySnapshot.isRpExactMatch_canonical allows.rpId,
        allows.credential, allows.action⟩

theorem Started.vouched (started : Started env start events finish) :
    ∀ event ∈ events, ∀ bound, event.Resolves bound ->
      Vouched env start events finish bound := by
  apply started.history
  · intro event mem
    cases mem
  · intro events event before after fresh prior vouched step earlier mem bound resolves
    rcases mem_append.mp mem with old | new
    · exact (vouched earlier old bound resolves).preserved fresh step
    · cases mem_singleton.mp new
      exact .of_resolves prior step resolves

end Vouching

/-! ## The two paths -/

section Paths

variable {runtime after : PolicyRuntime} {req : AuthorizationRequest} {fresh : CeremonyId}
  {handle : AuthorizationHandle}

theorem PolicyRuntime.Authorized.complies
    (authorized : Authorized env runtime req fresh (.allow .allowed, some handle) after) :
    runtime.Complies env handle req.uvEnforced := by
  cases authorized with
  | @opened snap id intent checks claimable verified =>
    have allows := authorizeChecks_ok checks
    refine ⟨snap, ?_, allows.rpId, allows.rule, allows.credential, verified⟩
    change runtime.current.findSnapshot snap.profileId = some snap
    rw [findSnapshot_profileId allows.profile]
    exact allows.profile

theorem PolicyRuntime.BoundAuthorized.complies {start : PolicyRuntime} {events : List Event}
    {bound : BoundApprovalResult} (vouched : Vouched env start events runtime bound)
    (agree : ∀ snap, runtime.current.findSnapshot bound.profileId = some snap ->
      snap.RulesAgree env)
    (authorized : BoundAuthorized env runtime bound req fresh
      (.allow .allowed, some handle) after) :
    runtime.Complies env handle req.uvEnforced := by
  have complies : ∀ {snap}, runtime.boundChecks bound req = .ok snap ->
      ∀ intentId ceremony, runtime.Complies env
        (handleFor (boundAuthorization bound intentId) ceremony) req.uvEnforced := by
    intro snap checks intentId ceremony
    have allows := (boundChecks_ok_iff _ _ _ _).mp checks
    rcases vouched.allowed allows.generation with ⟨_, profile, rpId, cred, action⟩
    cases profile.symm.trans allows.profile
    exact ⟨snap, profile, rpId, agree snap profile _ _ rpId action, cred,
      allows.verified⟩
  cases authorized with
  | opened checks claimable noGrant => exact complies checks _ _
  | openedWithGrant checks claimable named registered claim => exact complies checks _ _

end Paths

/-- Every allowed ceremony complies with the current policy: without condition on
the path of `authorize`, and on the path of `authorize_bound`, for an approval that
an earlier resolution returned, when the rules of the profile agree. -/
theorem allowed_complies {env : Env} {start finish : PolicyRuntime}
    {earlier later : List Event} {event : Event} {handle : AuthorizationHandle}
    (started : Started env start (earlier ++ event :: later) finish)
    (allowed : event.Authorizes handle) :
    (∀ req fresh, event.operation = .authorize req fresh ->
      event.before.Complies env handle req.uvEnforced) /\
    (∀ bound req fresh, event.operation = .authorizeBound bound req fresh ->
      (∃ resolution ∈ earlier, resolution.Resolves bound) ->
      (∀ snap, event.before.current.findSnapshot bound.profileId = some snap ->
        snap.RulesAgree env) ->
      event.before.Complies env handle req.uvEnforced) := by
  rcases started.split_at rfl with ⟨before, _, prior, step, -⟩
  constructor
  · intro req fresh op
    exact (allowed.authorized step.executed op).complies
  · rintro bound req fresh op ⟨resolution, mem, resolves⟩ agree
    have vouched := prior.vouched resolution mem bound resolves
    have here : Vouched env start earlier event.before bound := by
      refine ⟨vouched.known, ?_⟩
      rw [<- step.reordered.current]
      exact vouched.allowed
    exact (allowed.boundAuthorized step.executed op).complies here agree

variable (tuple : CeremonyTuple)

/-- A pending request is created and resolved by the user. -/
def Sample.resolvedRequest : List Operation :=
  [.principalCreatePendingIntent ⟨tuple, false, none⟩ ⟨5⟩ ⟨6⟩, .ceremonyResolvePending tuple ⟨7⟩]

/-- The approval that this resolution returns. -/
def Sample.boundApproval : BoundApprovalResult :=
  ⟨tuple, ⟨5⟩, none⟩

/-- The authorization with this approval. -/
def Sample.boundAuthorize : Operation :=
  .authorizeBound (boundApproval tuple) ⟨tuple, true⟩ ⟨8⟩

/-- The handle that this authorization returns. -/
def Sample.boundHandle : AuthorizationHandle :=
  ⟨⟨tuple, none, some ⟨5⟩⟩, ⟨8⟩⟩

section Samples

open Sample

/-- At a relying party that the profile denies, a resolved request is allowed. -/
theorem allowed_against_rule :
    Started sampleEnv start (perform sampleEnv start
        (resolvedRequest (Sample.tuple "example.org" none) ++
          [boundAuthorize (Sample.tuple "example.org" none)]))
      (reached sampleEnv start (resolvedRequest (Sample.tuple "example.org" none) ++
          [boundAuthorize (Sample.tuple "example.org" none)])) /\
    (∃ resolution ∈ perform sampleEnv start
        (resolvedRequest (Sample.tuple "example.org" none)),
      resolution.Resolves (boundApproval (Sample.tuple "example.org" none))) /\
    (performed sampleEnv (reached sampleEnv start
        (resolvedRequest (Sample.tuple "example.org" none)))
      (boundAuthorize (Sample.tuple "example.org" none))).Authorizes
        (boundHandle (Sample.tuple "example.org" none)) /\
    ¬ (reached sampleEnv start
        (resolvedRequest (Sample.tuple "example.org" none))).Complies sampleEnv
          (boundHandle (Sample.tuple "example.org" none)) true := by
  refine ⟨started _ (by decide +kernel), by decide +kernel, by decide +kernel, ?_⟩
  rintro ⟨snap, found, -, ⟨policy, rule, permitted⟩, -⟩
  let state := reached sampleEnv start (resolvedRequest (Sample.tuple "example.org" none))
  have profile : state.current.findSnapshot ⟨"agent"⟩ = some snap := found
  have selected : snap.ceremonyPolicy sampleEnv "example.org" .authenticate =
      some policy := rule
  have denied : (state.current.findSnapshot ⟨"agent"⟩).any (fun snap =>
      (snap.ceremonyPolicy sampleEnv "example.org" .authenticate).any
        (fun policy => decide (policy.authorization = .deny))) = true := by
    decide +kernel
  rw [profile, Option.any_some, selected] at denied
  exact permitted (of_decide_eq_true denied)

/-- With the one rule of the second configuration the same steps comply. -/
theorem allowed_complies_sample :
    (reached sampleEnv uniform
      (resolvedRequest (uniformTuple "example.com" none))).Complies sampleEnv
        (boundHandle (uniformTuple "example.com" none)) true := by
  let own := uniformTuple "example.com" none
  have started := uniformStarted (resolvedRequest own ++ [boundAuthorize own]) (by decide +kernel)
  have resolution : ∃ resolution ∈ perform sampleEnv uniform (resolvedRequest own),
      resolution.Resolves (boundApproval own) := by
    decide +kernel
  have allowed : (performed sampleEnv (reached sampleEnv uniform (resolvedRequest own))
      (boundAuthorize own)).Authorizes (boundHandle own) := by
    decide +kernel
  have listed : ((reached sampleEnv uniform (resolvedRequest own)).current.findSnapshot
      ⟨"agent"⟩).all PolicySnapshot.listedRulesAgree = true := by
    decide +kernel
  rw [perform_snoc] at started
  generalize reached sampleEnv uniform (resolvedRequest own) = state at started allowed listed ⊢
  refine (allowed_complies started allowed).2 _ _ _ rfl resolution ?_
  intro snap found
  have profile : state.current.findSnapshot ⟨"agent"⟩ = some snap := found
  rw [profile] at listed
  exact PolicySnapshot.rulesAgree_of_listed listed

end Samples

end ControlVault.Engine
