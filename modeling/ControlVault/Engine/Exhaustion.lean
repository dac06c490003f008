import ControlVault.Engine.History

namespace ControlVault.Engine

open Foundation Core PolicyRuntime

/-!
# Intents that can confer nothing any more

An authorization needs an approved intent that is in date, made for the current
generation and stored under the canonical name of its relying party.  An intent
that is neither open nor usable in this sense, and that no valid ceremony holds,
is exhausted.  An exhausted intent stays exhausted: no operation revives it, and
no operation succeeds on its account.

Both ways of ending authority early, the exit of a session and the end of a
pending request, are judged by whether they leave exhausted intents behind.
-/

variable {handle : AuthorizationHandle}

/-- An intent that an authorization can claim now. -/
structure PolicyRuntime.Usable (runtime : PolicyRuntime) (intent : Intent) : Prop where
  approved : intent.state = .approved
  inTime : intent.isOverdue runtime.clockMillis = false
  generation : intent.policyGeneration = runtime.current.generationId
  digest : intent.policyDigest = runtime.current.digest
  canonical : intent.rpId.IsCanonical
  profile : (runtime.current.findSnapshot intent.profileId).isSome = true

theorem PolicyRuntime.usable_iff (runtime : PolicyRuntime) (intent : Intent) :
    runtime.Usable intent <->
      intent.state = .approved /\ intent.isOverdue runtime.clockMillis = false /\
      intent.policyGeneration = runtime.current.generationId /\
      intent.policyDigest = runtime.current.digest /\ intent.rpId.IsCanonical /\
      (runtime.current.findSnapshot intent.profileId).isSome = true :=
  ⟨fun usable => ⟨usable.approved, usable.inTime, usable.generation, usable.digest, usable.canonical,
    usable.profile⟩, fun ⟨approved, inTime, gen, digest, canonical, profile⟩ =>
      ⟨approved, inTime, gen, digest, canonical, profile⟩⟩

instance (runtime : PolicyRuntime) (intent : Intent) : Decidable (runtime.Usable intent) :=
  decidable_of_iff' _ (runtime.usable_iff intent)

variable {intent : Intent}

namespace PolicyRuntime

variable {runtime : PolicyRuntime}

/-- A claim under the current generation takes a usable intent. -/
theorem Claimable.usable {id : IntentId} (claimable : runtime.Claimable query id intent)
    (gen : query.policyGeneration = runtime.current.generationId)
    (digest : query.policyDigest = runtime.current.digest)
    (profile : (runtime.current.findSnapshot query.profileId).isSome = true) :
    runtime.Usable intent := by
  have tuple := claimable.tuple
  refine ⟨claimable.approved, claimable.inTime, ?_, ?_, ?_, ?_⟩
  · rw [tuple]
    exact gen
  · rw [tuple]
    exact digest
  · rw [tuple]
    exact Text.isCanonical_canonical query.rpId
  · rw [tuple]
    exact profile

/-- The intent behind a handle at the moment the handle is issued. -/
structure Issues (runtime : PolicyRuntime) (handle : AuthorizationHandle) (id : IntentId)
    (intent : Intent) : Prop where
  named : handle.intentId = some id
  found : runtime.intents.get id = some intent
  usable : runtime.Usable intent
  tuple : intent.toCeremonyTuple = handle.toCeremonyTuple.normalized

theorem findSnapshot_profileId {gen : PolicyGenerationSnapshot}
    (found : gen.findSnapshot profileId = some snap) :
    snap.profileId = profileId := by
  simpa using List.find?_some found

theorem Authorized.issues
    (authorized : Authorized env runtime req fresh (decision, some handle) after) :
    handle.sessionId = req.sessionId /\ ∃ id intent, runtime.Issues handle id intent := by
  cases authorized with
  | @opened snap id intent checks claimable =>
    have allows := authorizeChecks_ok checks
    refine ⟨rfl, id, intent, rfl, claimable.found, ?_, claimable.tuple⟩
    apply claimable.usable allows.generation allows.digest
    change (runtime.current.findSnapshot snap.profileId).isSome = true
    rw [findSnapshot_profileId allows.profile, allows.profile]
    rfl

theorem BoundAuthorized.issues
    (authorized : BoundAuthorized env runtime bound req fresh (decision, some handle) after) :
    handle.sessionId = req.sessionId /\ ∃ id intent, runtime.Issues handle id intent := by
  have usable : ∀ {snap id intent}, runtime.boundChecks bound req = .ok snap ->
      runtime.Claimable bound.toCeremonyTuple id intent ->
        bound.sessionId = req.sessionId /\ runtime.Usable intent := by
    intro snap id intent checks claimable
    have allows := (boundChecks_ok_iff _ _ _ _).mp checks
    have session := congrArg CeremonyTuple.sessionId allows.tuple
    refine ⟨session, ?_⟩
    apply claimable.usable allows.generation allows.digest
    rw [allows.profile]
    rfl
  cases authorized with
  | @opened snap id intent checks claimable noGrant =>
    rcases usable checks claimable with ⟨session, isUsable⟩
    exact ⟨session, id, intent, rfl, claimable.found, isUsable, claimable.tuple⟩
  | @openedWithGrant _ _ _ _ snap id intent checks claimable =>
    rcases usable checks claimable with ⟨session, isUsable⟩
    exact ⟨session, id, intent, rfl, claimable.found, isUsable, claimable.tuple⟩

end PolicyRuntime

section Inversion

variable {env : Env} {event : Event}
  (executed : event.before.exec env event.operation = (event.answer, event.after))
  (authorizes : event.Authorizes handle)

include executed authorizes

theorem Event.Authorizes.authorized (op : event.operation = .authorize req fresh) :
    PolicyRuntime.Authorized env event.before req fresh (.allow .allowed, some handle)
      event.after := by
  rw [op] at executed
  have authorized := authorize_spec env event.before req fresh
  have answered : Answer.authorized (event.before.authorize env req fresh).1.1
      (event.before.authorize env req fresh).1.2 = _ :=
    (congrArg Prod.fst executed).trans authorizes
  have finished : (event.before.authorize env req fresh).2 = event.after :=
    congrArg Prod.snd executed
  injection answered with decided issued
  rw [<- decided, <- issued, <- finished]
  exact authorized

theorem Event.Authorizes.boundAuthorized (op : event.operation = .authorizeBound bound req fresh) :
    PolicyRuntime.BoundAuthorized env event.before bound req fresh
      (.allow .allowed, some handle) event.after := by
  rw [op] at executed
  have authorized := authorizeBound_spec env event.before bound req fresh
  have answered : Answer.authorized (event.before.authorizeBound env bound req fresh).1.1
      (event.before.authorizeBound env bound req fresh).1.2 = _ :=
    (congrArg Prod.fst executed).trans authorizes
  have finished : (event.before.authorizeBound env bound req fresh).2 = event.after :=
    congrArg Prod.snd executed
  injection answered with decided issued
  rw [<- decided, <- issued, <- finished]
  exact authorized

/-- Only the two authorization operations issue handles. -/
theorem Event.Authorizes.issues : ∃ id intent, event.before.Issues handle id intent := by
  cases op : event.operation with
  | authorize => exact (authorizes.authorized executed op).issues.2
  | authorizeBound =>
    exact (authorizes.boundAuthorized executed op).issues.2
  | _ =>
    rw [op] at executed
    have answered := (congrArg Prod.fst executed).trans authorizes
    cases answered

end Inversion

/-! ## One step -/

theorem Intent.isOverdue_mono (order : earlier <= later)
    (inTime : intent.isOverdue later = false) : intent.isOverdue earlier = false := by
  rw [<- Bool.not_eq_true] at inTime ⊢
  intro overdue
  rcases (intent.isOverdue_iff earlier).mp overdue with ⟨isOpen, late⟩
  exact inTime ((intent.isOverdue_iff later).mpr ⟨isOpen, le_trans late order⟩)

/-- The generation stays and time passes, or the store is emptied. -/
inductive Step.Passage (before after : PolicyRuntime) : Prop
  | same (current : after.current = before.current) (clock : before.clockMillis <= after.clockMillis)
  | cleared (intents : ∀ id, after.intents.get id = none)

section OneStep

variable {env : Env} {before after : PolicyRuntime} {event : Event}
  (step : Step env before event after)

include step

theorem Step.passage : Step.Passage before after := by
  have current := step.reordered.current
  have clock := step.reordered.clockMillis
  cases step.reach with
  | quiet frame =>
    exact .same (frame.current.trans current.symm) (clock.trans frame.clockMillis.symm).le
  | ceremonies touches frame =>
    exact .same (frame.current.trans current.symm) (clock.trans frame.clockMillis.symm).le
  | generation same compiled result =>
    refine .cleared (fun id => ?_)
    rw [result]
    exact IntentStore.get_invalidateAll _ _
  | advance same result =>
    rw [result]
    exact .same current.symm (clock.le.trans (Nat.le_add_right _ _))
  | regress same result =>
    rw [result]
    exact .same current.symm clock.le

/-- A stored intent that is usable afterwards was usable before if it did not change. -/
theorem Step.usable_before {id : IntentId} (found : after.intents.get id = some intent)
    (usable : after.Usable intent) :
    before.Usable intent := by
  cases step.passage with
  | same current clock =>
    rw [usable_iff, current] at usable
    rw [usable_iff]
    rcases usable with ⟨approved, inTime, rest⟩
    exact ⟨approved, Intent.isOverdue_mono clock inTime, rest⟩
  | cleared intents =>
    rw [intents] at found
    cases found

theorem Step.issues (authorizes : event.Authorizes handle) :
    ∃ id intent, before.Issues handle id intent := by
  rcases authorizes.issues step.executed with ⟨id, intent, named, found, usable, tuple⟩
  refine ⟨id, intent, named, ?_, ?_, tuple⟩
  · rw [step.reordered.get_intents]
    exact found
  · rw [usable_iff, step.reordered.current, step.reordered.clockMillis, <- usable_iff]
    exact usable

end OneStep

/-- The intent under this identifier cannot be claimed, and no valid ceremony holds it.  It
may still be waiting for a decision. -/
structure Dormant (state : PolicyRuntime) (id : IntentId) : Prop where
  unusable : ∀ intent, state.intents.get id = some intent -> ¬ state.Usable intent
  released : ∀ intent, state.intents.get id = some intent -> intent.state = .claimed ->
    ∀ ceremony auth, state.pending.get ceremony = some auth ->
      auth.intentId = some id -> auth.invalidated = true

/-- The intent under this identifier can confer nothing any more. -/
structure Exhausted (state : PolicyRuntime) (id : IntentId) : Prop extends Dormant state id where
  notOpen : ∀ intent, state.intents.get id = some intent -> intent.state ≠ .pending

namespace Exhausted

section OneStep

variable {env : Env} {before after : PolicyRuntime} {event : Event} {id : IntentId}
  (exhausted : Exhausted before id) (step : Step env before event after)

include exhausted step

theorem not_authorizes (authorizes : event.Authorizes handle) : handle.intentId ≠ some id := by
  intro named
  rcases step.issues authorizes with ⟨_, intent, issuedNamed, found, usable, -⟩
  rw [named] at issuedNamed
  cases issuedNamed
  exact exhausted.unusable intent found usable

theorem not_consumes (consumes : event.Consumes handle) : handle.intentId ≠ some id := by
  intro named
  rcases step.consumes consumes with ⟨isOpen, _, intent, consumedNamed, found, claimed⟩
  rw [named] at consumedNamed
  cases consumedNamed
  cases exhausted.released intent found claimed _ _ isOpen named

theorem preserved (undrawn : id.fresh ∉ event.operation.drawn) : Exhausted after id := by
  have effect := step.intentEffect id
  refine ⟨⟨?_, ?_⟩, ?_⟩
  · intro intent found usable
    have earlier := step.usable_before found usable
    have approved := usable.approved
    rw [found] at effect
    generalize prev : before.intents.get id = entry at effect
    cases effect with
    | kept => exact exhausted.unusable _ prev earlier
    | expired | claimed | consumed => cases approved
    | approved pending _ _ => exact exhausted.notOpen _ prev pending
    | closed _ ending => rcases ending with rfl | rfl <;> cases approved
    | rolledBack claimed consumes named =>
      have isOpen := consumes.isOpen
      rw [PolicyRuntime.IsOpen, <- step.reordered.get_pending] at isOpen
      cases exhausted.released _ prev claimed _ _ isOpen named
    | created creates _ _ _ => exact undrawn creates.drawn
  · intro intent found claimed ceremony auth stored named
    rw [found] at effect
    generalize prev : before.intents.get id = entry at effect
    have stillClaimed : ∃ earlier, before.intents.get id = some earlier /\
        earlier.state = .claimed := by
      cases effect with
      | kept => exact ⟨_, prev, claimed⟩
      | expired | approved | rolledBack | consumed => cases claimed
      | closed _ ending => rcases ending with rfl | rfl <;> cases claimed
      | claimed _ _ authorizes issued _ =>
        exact absurd issued (exhausted.not_authorizes step authorizes)
      | created creates _ _ _ => exact absurd creates.drawn undrawn
    rcases stillClaimed with ⟨earlier, earlierFound, earlierClaimed⟩
    have move := step.ceremonyEffect ceremony
    rw [stored] at move
    generalize held : before.pending.get ceremony = entry at move
    cases move with
    | kept =>
      exact exhausted.released earlier earlierFound earlierClaimed ceremony _ held named
    | invalidated => rfl
    | opened authorizes _ _ => exact absurd named (exhausted.not_authorizes step authorizes)
  · intro intent found pending
    rw [found] at effect
    generalize prev : before.intents.get id = entry at effect
    cases effect with
    | kept => exact exhausted.notOpen _ prev pending
    | closed _ ending => rcases ending with rfl | rfl <;> cases pending
    | created creates _ _ _ => exact undrawn creates.drawn
    | expired | approved | claimed | rolledBack | consumed => cases pending

end OneStep

/-! ## Whole continuations -/

section Continuation

variable {env : Env} {start state finish : PolicyRuntime} {events later : List Event}
  {id : IntentId} (exhausted : Exhausted state id) (known : id.fresh ∈ drawn events)

include exhausted known

section

variable (rest : Executes env state later finish) (fresh : Fresh start (events ++ later))

include rest fresh

theorem continued : Exhausted finish id := by
  induction rest with
  | nil => exact exhausted
  | @snoc before after middle event run step ih =>
    rw [<- List.append_assoc] at fresh
    apply (ih fresh.shortened).preserved step
    intro now
    apply fresh.unused now
    rw [drawn_append]
    exact List.mem_append_left _ known

/-- No continuation authorizes or consumes anything on account of an exhausted intent. -/
theorem confers_nothing (mem : event ∈ later)
    (success : event.Authorizes handle ∨ event.Consumes handle) :
    handle.intentId ≠ some id := by
  rcases rest.mem_split mem with ⟨_, _, _, _, rfl, initial, step, -⟩
  rw [<- List.append_assoc] at fresh
  have still := exhausted.continued known initial fresh.shortened
  rcases success with authorizes | consumes
  · exact still.not_authorizes step authorizes
  · exact still.not_consumes step consumes

end

end Continuation

end Exhausted

end ControlVault.Engine
