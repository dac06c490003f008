import ControlVault.Engine.History

namespace ControlVault.Engine

open Foundation Core GrantRegistry Table

/-!
# The grant registries of a reachable state

Every registry belongs to the current generation, everything in it is stored under
an identifier that was drawn, and a request that led to a grant is resolved and its
grant is there.  Grants are never removed from a registry; only a reload replaces
the registry as a whole.
-/

/-- A registry right after it was made. -/
structure GrantRegistry.IsNew (reg : GrantRegistry) (gen : PolicyGenerationId) : Prop where
  policyGeneration : reg.policyGeneration = gen
  grants : ∀ id, reg.grants.get id = none
  requests : ∀ id, reg.pendingRequests.get id = none

theorem registriesFor_isNew
    (registered : (PolicyRuntime.registriesFor gen).get profileId = some reg) :
    reg.IsNew gen.generationId := by
  -- The fold over the snapshots only ever inserts new registries.
  have inserted : ∀ (snapshots : List PolicySnapshot) (table : Table ProfileId GrantRegistry),
      (∀ named stored, table.get named = some stored -> stored.IsNew gen.generationId) ->
      ∀ named stored, (snapshots.foldl (fun registries snap =>
        registries.insert snap.profileId (new gen.generationId
          snap.digest snap.maxGrantTtlSecs snap.allowedActions
          snap.maxConcurrentGrants)) table).get named = some stored ->
        stored.IsNew gen.generationId := by
    intro snapshots
    induction snapshots with
    | nil =>
      intro table every
      exact every
    | cons snap rest ih =>
      intro table every
      apply ih
      intro named stored found
      rw [get_insert] at found
      split_ifs at found
      · cases found
        exact ⟨rfl, fun _ => rfl, fun _ => rfl⟩
      · exact every named stored found
  refine inserted gen.snapshots .empty ?_ profileId reg registered
  intro named stored found
  cases found

theorem GrantRegistry.Shrinks.grant_present {reg : GrantRegistry}
    (shrinks : reg.Shrinks after) {id : GrantId}
    (found : reg.grants.get id = some grant) :
    ∃ later, after.grants.get id = some later /\ later.sessionId = grant.sessionId := by
  have move := shrinks.grants id
  rw [found] at move
  generalize after.grants.get id = entry at move
  cases move with
  | kept | left => exact ⟨_, rfl, rfl⟩

/-- What holds of one registry at any time. -/
structure GrantRegistry.WellFormed (events : List Event) (current : PolicyGenerationId)
    (reg : GrantRegistry) : Prop where
  policyGeneration : reg.policyGeneration = current
  grantsKnown : ∀ id grant, reg.grants.get id = some grant -> id.fresh ∈ drawn events
  requestsKnown : ∀ id req, reg.pendingRequests.get id = some req ->
    id.fresh ∈ drawn events
  issued : ∀ id req grantId, reg.pendingRequests.get id = some req ->
    req.resolvedGrantId = some grantId ->
      req.resolved = true /\ ∃ grant, reg.grants.get grantId = some grant /\
        grant.sessionId = req.sessionId

namespace GrantRegistry.WellFormed

variable {events : List Event} {current : PolicyGenerationId} {reg : GrantRegistry}

theorem of_isNew (isNew : reg.IsNew current) : reg.WellFormed events current where
  policyGeneration := isNew.policyGeneration
  grantsKnown := fun id grant found => by
    rw [isNew.grants] at found
    cases found
  requestsKnown := fun id req found => by
    rw [isNew.requests] at found
    cases found
  issued := fun id req grantId found => by
    rw [isNew.requests] at found
    cases found

section

variable (wellFormed : reg.WellFormed events current)

include wellFormed

theorem snoc : reg.WellFormed (events ++ [event]) current where
  policyGeneration := wellFormed.policyGeneration
  grantsKnown := fun id grant found => mem_drawn_snoc (wellFormed.grantsKnown id grant found)
  requestsKnown := fun id req found => mem_drawn_snoc (wellFormed.requestsKnown id req found)
  issued := wellFormed.issued

theorem shrunk (shrinks : reg.Shrinks after) : after.WellFormed events current where
  policyGeneration := shrinks.policyGeneration.trans wellFormed.policyGeneration
  grantsKnown := by
    intro id grant found
    rcases shrinks.grant_before found with ⟨earlier, stored, _⟩
    exact wellFormed.grantsKnown id earlier stored
  requestsKnown := by
    intro id req found
    rcases shrinks.request_before found with ⟨earlier, stored, _⟩
    exact wellFormed.requestsKnown id earlier stored
  issued := by
    intro id req grantId found issued
    rcases shrinks.request_before found with ⟨_, stored, rfl | ⟨unresolved, rfl⟩⟩
    · rcases wellFormed.issued id _ grantId stored issued with ⟨resolved, grant, present, session⟩
      rcases shrinks.grant_present present with ⟨later, there, same⟩
      exact ⟨resolved, later, there, same.trans session⟩
    · rw [(wellFormed.issued id _ grantId stored issued).1] at unresolved
      cases unresolved

theorem changed
    (fresh : Fresh start (events ++ [event])) (effect : RegistryEffect event reg after) :
    after.WellFormed (events ++ [event]) current := by
  have before : reg.WellFormed (events ++ [event]) current := wellFormed.snoc
  have new : ∀ {id : FreshId}, id ∈ event.operation.drawn -> id ∈ drawn (events ++ [event]) := by
    intro id now
    rw [drawn_snoc]
    exact List.mem_append_right _ now
  cases effect with
  | shrinks shrinks => exact before.shrunk shrinks
  | @requested now id req drawn isOpen =>
    refine ⟨before.policyGeneration, before.grantsKnown, ?_, ?_⟩
    · intro other stored found
      rw [get_insert] at found
      split_ifs at found with same
      · rw [same]
        exact new drawn
      · exact before.requestsKnown other stored found
    · intro other stored grantId found issued
      rw [get_insert] at found
      split_ifs at found
      · cases found
        rw [isOpen.noGrant] at issued
        cases issued
      · exact before.issued other stored grantId found issued
  | @approved grantId rpIds credentials id req drawn checks =>
    have stored := (approvable_ok checks).1
    refine ⟨before.policyGeneration, ?_, ?_, ?_⟩
    · intro other grant found
      rw [afterApproval, get_insert] at found
      split_ifs at found with same
      · rw [same]
        exact new drawn
      · exact before.grantsKnown other grant found
    · intro other changed found
      rw [afterApproval, get_insert] at found
      split_ifs at found with same
      · rw [same]
        exact before.requestsKnown id req stored
      · exact before.requestsKnown other changed found
    · intro other changed otherGrant found issued
      rw [afterApproval, get_insert] at found
      rw [afterApproval, get_insert]
      split_ifs at found
      · cases found
        cases issued
        rw [if_pos rfl]
        exact ⟨rfl, _, rfl, rfl⟩
      · rcases before.issued other changed otherGrant found issued with
          ⟨resolved, grant, there, session⟩
        have different : otherGrant ≠ grantId := by
          rintro rfl
          exact fresh.unused drawn (wellFormed.grantsKnown otherGrant grant there)
        rw [if_neg different]
        exact ⟨resolved, grant, there, session⟩

end

end GrantRegistry.WellFormed

/-- Every registry of the state is well formed. -/
def Registered (events : List Event) (state : PolicyRuntime) : Prop :=
  ∀ profileId reg, state.grants.get profileId = some reg ->
    reg.WellFormed events state.current.generationId

section OneStep

variable {env : Env} {event : Event} {before after : PolicyRuntime}
  (step : Step env before event after)

include step

/-- The generation stays, or a reload replaces the registries and invalidates the ceremonies. -/
theorem Step.current_or_reloaded :
    after.current = before.current ∨ after.grants = PolicyRuntime.registriesFor after.current /\
      ∀ id auth, after.pending.get id = some auth ->
        auth.invalidated = true := by
  have current := step.reordered.current
  cases step.reach with
  | quiet frame => exact .inl (frame.current.trans current.symm)
  | ceremonies touches frame => exact .inl (frame.current.trans current.symm)
  | generation same compiled result =>
    refine .inr ⟨by rw [result]; rfl, ?_⟩
    intro id auth found
    rw [result, PolicyRuntime.reloaded, get_mapValues] at found
    rcases Option.map_eq_some_iff.mp found with ⟨_, -, rfl⟩
    rfl
  | advance same result => exact .inl (by rw [result]; exact current.symm)
  | regress same result => exact .inl (by rw [result]; exact current.symm)

/-- A registry is new, or it was changed under the same generation. -/
theorem Step.registry_before (there : after.grants.get profileId = some reg) :
    reg.IsNew after.current.generationId ∨ after.current = before.current /\
      ∃ earlier, before.grants.get profileId = some earlier /\
        RegistryEffect event earlier reg := by
  rcases step.current_or_reloaded with current | ⟨renewed, -⟩
  · have effect := step.grantsEffect profileId
    rw [there] at effect
    generalize before.grants.get profileId = entry at effect
    cases effect with
    | changed change => exact .inr ⟨current, _, rfl, change⟩
    | renewed registries _ =>
      rw [step.finished] at registries
      exact .inl (registriesFor_isNew registries.symm)
  · rw [renewed] at there
    exact .inl (registriesFor_isNew there)

theorem Registered.snoc (registered : Registered events before)
    (fresh : Fresh start (events ++ [event])) : Registered (events ++ [event]) after := by
  intro profileId reg found
  rcases step.registry_before found with isNew | ⟨current, earlier, prev, change⟩
  · exact .of_isNew isNew
  · rw [current]
    exact (registered profileId earlier prev).changed fresh change

end OneStep

theorem Started.registered (started : Started env start events finish) :
    Registered events finish := by
  apply started.history
  · intro profileId reg found
    rw [started.isInitial.registries] at found
    exact .of_isNew (registriesFor_isNew found)
  · intro events event before after fresh _ registered step
    exact registered.snoc step fresh

end ControlVault.Engine
