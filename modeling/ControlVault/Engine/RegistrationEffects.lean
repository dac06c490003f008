import ControlVault.Engine.History
import ControlVault.Engine.Queries

namespace ControlVault.Engine

open Foundation Core PolicyRuntime

/-!
# What a step does to a registration grant

Registration grants are kept apart from the grants for signing.  Two operations
touch them: a request issues a grant under a fresh identifier, and a consumption
revokes one; a request that finds the clock set back revokes those of its
profile.  A reload is not among them.
-/

variable {env : Env}

namespace PolicyRuntime

def registrationGrant (runtime : PolicyRuntime) (profileId : ProfileId) (id : RegistrationGrantId) :
    Option RegistrationGrant :=
  (runtime.registrationGrants.get profileId).bind (fun reg => reg.grants.get id)

theorem registrationGrant_congr {first second : PolicyRuntime}
    (same : first.registrationGrants = second.registrationGrants) (profileId : ProfileId)
    (id : RegistrationGrantId) :
    first.registrationGrant profileId id = second.registrationGrant profileId id := by
  rw [registrationGrant, same, registrationGrant]

variable {runtime : PolicyRuntime} {id : RegistrationGrantId}

theorem activeRegistrationGrant_some
    (found : runtime.activeRegistrationGrant profileId rpId = some (id, grant)) :
    runtime.registrationGrant profileId id = some grant /\ grant.state = .active /\
      runtime.clockSecs < grant.expiryMono := by
  unfold activeRegistrationGrant at found
  split at found
  next normalized reg _ located =>
    rcases List.mem_filter.mp (youngest_mem found) with ⟨mem, usable⟩
    simp only [Bool.and_eq_true, decide_eq_true_eq] at usable
    refine ⟨?_, usable.1.1, usable.2⟩
    rw [registrationGrant, located]
    exact (Table.mem_toList _ _ _).mp mem
  · cases found

theorem consumeRegistrationGrant_ok_iff :
    (runtime.consumeRegistrationGrant profileId id).1 = .ok () <->
      ∃ grant, runtime.registrationGrant profileId id = some grant /\ grant.state = .active := by
  rw [registrationGrant]
  unfold consumeRegistrationGrant
  cases runtime.registrationGrants.get profileId with
  | none => simp
  | some reg =>
    dsimp only [Option.bind_some]
    unfold RegistrationGrantRegistry.revokeRegistration
    cases reg.grants.get id with
    | none => simp
    | some grant => by_cases active : grant.state = .active <;> simp [active]

end PolicyRuntime

/-- The moves of one registration grant. -/
inductive RegistrationEffect (event : Event) (id : RegistrationGrantId) :
    Option RegistrationGrant -> Option RegistrationGrant -> Prop
  | kept : RegistrationEffect event id entry entry
  | left {grant : RegistrationGrant} (active : grant.state = .active) :
      RegistrationEffect event id (some grant) (some { grant with state := .revoked })
  | issued (drawn : id.fresh ∈ event.operation.drawn) : RegistrationEffect event id before (some grant)

namespace RegistrationEffect

variable {event : Event} {id : RegistrationGrantId}

theorem of_leave (grant : RegistrationGrant) :
    RegistrationEffect event id (some grant) (some (grant.leave .revoked)) := by
  unfold RegistrationGrant.leave
  split_ifs with active
  · exact .left active
  · exact .kept

theorem of_same {after : PolicyRuntime}
    (same : after.registrationGrants = event.before.registrationGrants) :
    RegistrationEffect event id (event.before.registrationGrant profileId id)
      (after.registrationGrant profileId id) := by
  rw [registrationGrant_congr same]
  exact .kept

theorem of_insert {registrations : Table ProfileId RegistrationGrantRegistry}
    {after : RegistrationGrantRegistry}
    (effect : RegistrationEffect event id
      ((registrations.get named).bind (fun reg => reg.grants.get id))
      (after.grants.get id)) :
    RegistrationEffect event id
      ((registrations.get profileId).bind (fun reg => reg.grants.get id))
      (((registrations.insert named after).get profileId).bind
        (fun reg => reg.grants.get id)) := by
  rw [Table.get_insert]
  split_ifs with same
  · rw [same]
    exact effect
  · exact .kept

variable (reg : RegistrationGrantRegistry)

/-- The clock is checked first; a clock that was set back closes the registry. -/
theorem of_checkClock (now : Nat) :
    RegistrationEffect event id (reg.grants.get id)
      ((reg.checkClock now).2.grants.get id) := by
  unfold RegistrationGrantRegistry.checkClock
  split_ifs
  · rw [Table.get_mapValues]
    cases reg.grants.get id with
    | none => exact .kept
    | some grant => exact of_leave grant
  · exact .kept

theorem of_requestRegistration (now : Nat) (named : ProfileId) (sessionId : PrincipalSessionId)
    (endpointId : EndpointId) (principalDigest : BitVec 256) (rpId : Text) (ttlSecs : Nat)
    (fresh : RegistrationGrantId) (drawn : fresh.fresh ∈ event.operation.drawn) :
    RegistrationEffect event id (reg.grants.get id)
      ((reg.requestRegistration now named sessionId endpointId principalDigest rpId ttlSecs
        fresh).2.grants.get id) := by
  have checked : RegistrationEffect event id (reg.grants.get id)
      ((reg.checkClock now).2.grants.get id) :=
    of_checkClock reg now
  unfold RegistrationGrantRegistry.requestRegistration
  split
  next error closed late =>
    rwa [late] at checked
  next seen order =>
    have same : seen.grants = reg.grants := by
      unfold RegistrationGrantRegistry.checkClock at order
      split_ifs at order
      · cases (Prod.mk.inj order).1
      · rw [<- (Prod.mk.inj order).2]
    rw [order] at checked
    split
    · exact checked
    · split_ifs
      · exact checked
      · exact checked
      · rw [Table.get_insert]
        split_ifs with here
        · rw [here]
          exact .issued drawn
        · rw [same]
          exact .kept

theorem of_revokeRegistration (named : RegistrationGrantId) :
    RegistrationEffect event id (reg.grants.get id)
      ((reg.revokeRegistration named).2.grants.get id) := by
  unfold RegistrationGrantRegistry.revokeRegistration
  split
  · exact .kept
  next grant found =>
    split_ifs
    · exact .kept
    · rw [Table.get_insert]
      split_ifs with here
      · rw [here, found]
        exact of_leave grant
      · exact .kept

end RegistrationEffect

/-- The registration grants are as before. -/
def SameRegistrations (before after : PolicyRuntime) : Prop :=
  after.registrationGrants = before.registrationGrants

section

variable {event : Event}
  (executed : event.before.exec env event.operation = (event.answer, event.after))

include executed

/-- Every other operation leaves all registration grants as they are, a reload included. -/
theorem exec_registrationGrants (apart : event.operation.touchesRegistrations = false) :
    SameRegistrations event.before event.after := by
  unfold SameRegistrations
  cases exec_extent executed with
  | quiet leaves =>
    rcases leaves with ⟨_, _, _, same⟩
    rw [same]
  | ceremonies _ confined =>
    rcases confined with ⟨_, _, _, _, same⟩
    rw [same]
  | registrations touches _ => simp [touches] at apart
  | generation _ reloaded =>
    generalize event.after = after at reloaded ⊢
    cases reloaded <;> rfl
  | advance _ result | regress _ result => rw [result]

/-- Every operation is one move of every registration grant. -/
theorem exec_registrationEffect (profileId : ProfileId) (id : RegistrationGrantId) :
    RegistrationEffect event id (event.before.registrationGrant profileId id)
      (event.after.registrationGrant profileId id) := by
  rcases event with ⟨before, op, _, _⟩
  simp only [] at executed
  cases apart : op.touchesRegistrations with
  | false => exact .of_same (exec_registrationGrants executed apart)
  | true =>
    cases op with
    | requestRegistrationGrant named rpId ttlSecs sessionId endpointId fresh =>
      cases executed
      apply RegistrationEffect.of_insert
      have drawn : fresh.fresh ∈ [sessionId.fresh, endpointId.fresh, fresh.fresh] := by simp
      cases before.registrationGrants.get named with
      | none => exact .of_requestRegistration (.new 300) _ _ _ _ _ _ _ _ drawn
      | some reg => exact .of_requestRegistration reg _ _ _ _ _ _ _ _ drawn
    | consumeRegistrationGrant named grantId =>
      cases executed
      split
      · exact .kept
      next reg found =>
        apply RegistrationEffect.of_insert
        rw [found]
        exact .of_revokeRegistration reg grantId
    | _ => cases apart

end

namespace Step

variable {before after : PolicyRuntime} {event : Event} (step : Step env before event after)

include step

theorem registrationEffect (profileId : ProfileId) (id : RegistrationGrantId) :
    RegistrationEffect event id (before.registrationGrant profileId id)
      (after.registrationGrant profileId id) := by
  have same : before.registrationGrant profileId id = event.before.registrationGrant profileId id := by
    rw [registrationGrant, step.reordered.registrationGrants.get_eq, registrationGrant]
  rw [same, <- step.finished]
  exact exec_registrationEffect step.executed profileId id

end Step

/-- Registration grants are stored under identifiers that were drawn. -/
theorem Started.registrationKnown (started : Started env start events finish) :
    ∀ profileId id grant, finish.registrationGrant profileId id = some grant ->
      id.fresh ∈ drawn events := by
  apply started.history
  · intro profileId id grant found
    rcases started.initial with ⟨_, _, _, _, created⟩
    rw [new] at created
    split at created
    · cases created
    · cases created
      cases found
  · intro events event before after _ _ known step profileId id grant found
    have effect := step.registrationEffect profileId id
    rw [found] at effect
    generalize earlier : before.registrationGrant profileId id = entry at effect
    cases effect with
    | kept => exact mem_drawn_snoc (known profileId id grant earlier)
    | left active => exact mem_drawn_snoc (known profileId id _ earlier)
    | issued now =>
      rw [drawn_snoc]
      exact List.mem_append_right _ now

end ControlVault.Engine
