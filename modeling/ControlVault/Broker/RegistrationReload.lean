import ControlVault.Broker.Releases
import ControlVault.Broker.Scenario

namespace ControlVault.Broker

open Foundation Core Engine Storage PolicyRuntime

/-!
# Registration grants and policy reloads

A reload replaces the grants for signing, drops the intents and cancels what is
pending.  It does not touch registration grants, and the register handler checks
the configuration of its own context and not the new generation.  So a grant that
is active when the policy is reloaded can still be used, and one that is not stays
unusable for the rest of the run.
-/

/-- Nothing that was granted before lets a registration succeed. -/
structure RegistrationEnded (env : Env) (before later : PolicyRuntime) : Prop where
  offered : ∀ profileId rpId id grant,
    later.activeRegistrationGrant profileId rpId = some (id, grant) ->
      before.registrationGrant profileId id = none
  consumed : ∀ profileId id, (before.registrationGrant profileId id).isSome ->
    (later.consumeRegistrationGrant profileId id).1 ≠ .ok ()
  /-- A registration that succeeds uses a grant that was issued since. -/
  registered : ∀ security occasion ctx req (state : BrokerState) response,
    state.policyRuntime = later ->
    (register env security occasion ctx req state).1 = .ok response ->
      ∃ id grant, later.activeRegistrationGrant ctx.profileId req.rpId.canonical =
        some (id, grant) /\ before.registrationGrant ctx.profileId id = none

/-- A registration succeeds only through the grant that is offered for it. -/
theorem register_ok_offered
    (registered : (register env security occasion ctx req state).1 = .ok response) :
    ∃ id grant, state.policyRuntime.activeRegistrationGrant ctx.profileId
      req.rpId.canonical = some (id, grant) := by
  by_cases takes : TakesGrant env security occasion ctx req state
  · rcases register_of_takes takes with ⟨id, grant, _, _, offered, _⟩
    exact ⟨id, grant, offered⟩
  · rcases register_of_not_takes takes with ⟨error, result⟩
    rw [result] at registered
    cases registered

/-- No registration grant of an earlier state is active. -/
def Spent (before later : PolicyRuntime) : Prop :=
  ∀ profileId id grant, (before.registrationGrant profileId id).isSome ->
    later.registrationGrant profileId id = some grant -> grant.state ≠ .active

theorem Spent.ended (spent : Spent before later) : RegistrationEnded env before later := by
  have unusable : ∀ {profileId id grant}, later.registrationGrant profileId id = some grant ->
      grant.state = .active -> before.registrationGrant profileId id = none := by
    intro profileId id grant found active
    by_contra present
    exact spent profileId id grant (Option.isSome_iff_ne_none.mpr present) found active
  constructor
  · intro profileId rpId id grant offered
    rcases activeRegistrationGrant_some offered with ⟨found, active, _⟩
    exact unusable found active
  · intro profileId id present accepted
    rcases consumeRegistrationGrant_ok_iff.mp accepted with ⟨grant, found, active⟩
    exact spent profileId id grant present found active
  · rintro security occasion ctx req state response rfl registered
    rcases register_ok_offered registered with ⟨id, grant, offered⟩
    rcases activeRegistrationGrant_some offered with ⟨found, active, _⟩
    exact ⟨id, grant, offered, unusable found active⟩

section Reload

variable {env : Env} {start before after : PolicyRuntime} {earlier : List Event}
  {event : Event}

/-- One step makes no earlier grant active again, because its identifier is not drawn again. -/
theorem Spent.step (spent : Spent before later) (taken : Step env later other finish)
    (known : ∀ profileId id, (before.registrationGrant profileId id).isSome ->
      id.fresh ∉ other.operation.drawn) : Spent before finish := by
  intro profileId id grant present found
  have effect := taken.registrationEffect profileId id
  rw [found] at effect
  generalize was : later.registrationGrant profileId id = entry at effect
  cases effect with
  | kept => exact spent profileId id grant present was
  | left active => exact absurd active (spent profileId id _ present was)
  | issued drawn => exact absurd drawn (known profileId id present)

theorem Spent.run (started : Started env start earlier before)
    (spent : Spent before spentBy) (run : Executes env spentBy later finish)
    (fresh : Fresh start (earlier ++ event :: later)) : Spent before finish := by
  have known : ∀ other ∈ later, ∀ profileId id, (before.registrationGrant profileId id).isSome ->
      id.fresh ∉ other.operation.drawn := by
    intro other mem profileId id present now
    rcases Option.isSome_iff_exists.mp present with ⟨grant, found⟩
    have drawnBefore := started.registrationKnown profileId id grant found
    have distinct : (drawn earlier ++ drawn (event :: later)).Nodup := by
      rw [<- drawn_append]
      exact (List.nodup_cons.mp fresh).2
    have drawnLater : id.fresh ∈ drawn (event :: later) :=
      List.mem_flatMap.mpr ⟨other, List.mem_cons_of_mem _ mem, now⟩
    exact (List.nodup_append.mp distinct).2.2 _ drawnBefore _ drawnLater rfl
  clear fresh
  induction run with
  | nil => exact spent
  | @snoc middle finish events last _ taken ih =>
    refine (ih (fun other mem => known other ?_)).step taken (known last ?_)
    · exact List.mem_append_left _ mem
    · exact List.mem_append_right _ List.mem_cons_self

/-- Registration authority ends with a reload if and only if no registration grant is active
when the policy is reloaded. -/
theorem reload_ends_registration_iff (started : Started env start earlier before)
    (step : Step env before event after)
    {config : AgentConfig} {fresh : PolicyGenerationId}
    (reloads : event.operation = .reload config fresh)
    (distinct : Fresh start (earlier ++ [event])) :
    (∀ later finish, Executes env after later finish ->
        Fresh start (earlier ++ event :: later) -> RegistrationEnded env before finish) <->
      ∀ profileId id grant, before.registrationGrant profileId id = some grant ->
        grant.state ≠ .active := by
  have same : ∀ profileId id, after.registrationGrant profileId id =
      before.registrationGrant profileId id := by
    intro profileId id
    have kept : after.registrationGrants = event.before.registrationGrants := by
      rw [<- step.finished]
      exact exec_registrationGrants step.executed (by rw [reloads]; rfl)
    rw [registrationGrant, kept, <- step.reordered.registrationGrants.get_eq, registrationGrant]
  constructor
  · intro ended profileId id grant found active
    have now := ended [] after .nil distinct
    refine now.consumed profileId id (by rw [found]; rfl) ?_
    exact consumeRegistrationGrant_ok_iff.mpr ⟨grant, (same profileId id).trans found, active⟩
  · intro spent later finish run fresh
    have spentAfter : Spent before after := by
      intro profileId id grant _ found
      exact spent profileId id grant ((same profileId id).symm.trans found)
    exact (spentAfter.run started run fresh).ended

end Reload

/-! ## A rule that is taken back -/

namespace Sample

/-- Registration at `example.com` is allowed, and denied after the reload. -/
def openConfig : AgentConfig :=
  Engine.Sample.config [trusted]

def closedConfig : AgentConfig :=
  Engine.Sample.config [Engine.Sample.confirmed]

def opened : PolicyRuntime :=
  ((new sampleEnv openConfig 0 0 ⟨1⟩).toOption).getD Engine.Sample.start

theorem opened_new : new sampleEnv openConfig 0 0 ⟨1⟩ = .ok opened := by
  have compiles : (new sampleEnv openConfig 0 0 ⟨1⟩).isOk = true := by decide +kernel
  rw [opened]
  cases created : new sampleEnv openConfig 0 0 ⟨1⟩ with
  | error error =>
    rw [created] at compiles
    cases compiles
  | ok runtime => rfl

def enrollment : Operation :=
  .requestRegistrationGrant agent "example.com" 60 ⟨2⟩ ⟨3⟩ ⟨6⟩

def recompile : Operation :=
  .reload closedConfig ⟨4⟩

theorem opened_started (ops : List Operation)
    (distinct : (opened.current.generationId.fresh :: ops.flatMap Operation.drawn).Nodup) :
    Started sampleEnv opened (perform sampleEnv opened ops)
      (reached sampleEnv opened ops) :=
  .of_perform opened_new ops distinct

/-- The reload succeeds and denies registrations, and the grant from before is still used. -/
theorem reload_leaves_registration_grant :
    ∃ before, Started sampleEnv opened (perform sampleEnv opened [enrollment]) before /\
      (before.reload sampleEnv closedConfig ⟨4⟩).1.isOk = true /\
      ((before.reload sampleEnv closedConfig ⟨4⟩).2.current.findSnapshot agent).any (fun snap =>
        decide ((snap.ceremonyPolicy sampleEnv "example.com" .register).all
          (fun policy => policy.authorization = .deny))) = true /\
      (register sampleEnv security occasion ctx (registerRequest []) { state with
        policyRuntime := (before.reload sampleEnv closedConfig ⟨4⟩).2 }).1.isOk = true :=
  ⟨_, opened_started [enrollment] (by decide +kernel), by decide +kernel, by decide +kernel,
    by decide +kernel⟩

def usedEnrollment : List Operation :=
  [enrollment, .consumeRegistrationGrant agent ⟨6⟩]

/-- A grant that was used before the reload is of no use after it. -/
theorem used_grant_ends :
    RegistrationEnded sampleEnv (reached sampleEnv opened usedEnrollment)
      (performed sampleEnv (reached sampleEnv opened usedEnrollment) recompile).after := by
  have started := opened_started usedEnrollment (by decide +kernel)
  have longer := opened_started (usedEnrollment ++ [recompile]) (by decide +kernel)
  refine (reload_ends_registration_iff started (performed_step _ _ _) rfl longer.fresh).mpr ?_ []
    _ .nil longer.fresh
  intro profileId id grant found
  have only : (reached sampleEnv opened usedEnrollment).registrationGrants.values.all
        (fun reg => reg.grants.values.all (fun grant => grant.state ≠ .active)) =
          true := by
    decide +kernel
  rcases Option.bind_eq_some_iff.mp found with ⟨reg, located, stored⟩
  have spent := List.all_eq_true.mp only reg ((Table.mem_values _ _).mpr ⟨_, located⟩)
  have left := List.all_eq_true.mp spent grant ((Table.mem_values _ _).mpr ⟨_, stored⟩)
  exact of_decide_eq_true left

end Sample

end ControlVault.Broker
