import ControlVault.Engine.Exhaustion
import ControlVault.Engine.Scenario

namespace ControlVault.Engine

open Foundation Core List

/-!
# The exit of a principal session

`principal_exit` cancels the pending intents of a session, revokes its grants and
invalidates its ceremonies.  It leaves approved intents as they are.  The exit
takes all authority from the session exactly when none of its approved intents is
usable at that moment; otherwise the next authorization for the session succeeds.
-/

/-- The event stored an intent of this session under a new identifier. -/
def Event.AddsIntent (event : Event) (sessionId : PrincipalSessionId) : Prop :=
  ∃ id intent, event.before.intents.get id = none /\ event.after.intents.get id = some intent /\
    intent.sessionId = sessionId

variable {env : Env} {event : Event} {sessionId : PrincipalSessionId}
  {after before start : PolicyRuntime} {events : List Event}

theorem Event.AddsIntent.creates (adds : event.AddsIntent sessionId)
    (executed : event.before.exec env event.operation = (event.answer, event.after)) :
    ∃ id params, event.operation.CreatesIntent id params := by
  rcases adds with ⟨id, _, absent, left, -⟩
  have effect := exec_intentEffect executed id
  rw [absent, left] at effect
  cases effect with
  | created creates _ _ _ => exact ⟨id, _, creates⟩

/-- The event exercised authority of this session. -/
inductive Event.Exercises (event : Event) (sessionId : PrincipalSessionId) : Prop
  | authorize (op : event.operation = .authorize req fresh)
      (session : req.sessionId = sessionId) (allowed : event.Authorizes handle)
  | authorizeBound (op : event.operation = .authorizeBound bound req fresh)
      (session : req.sessionId = sessionId) (allowed : event.Authorizes handle)
  | consume (consumes : event.Consumes handle) (session : handle.sessionId = sessionId)

/-- Exercised authority is authorized or consumed by a handle of the session. -/
theorem Event.Exercises.handle (exercises : event.Exercises sessionId)
    (executed : event.before.exec env event.operation = (event.answer, event.after)) :
    ∃ handle, handle.sessionId = sessionId /\ (event.Authorizes handle ∨ event.Consumes handle) := by
  cases exercises with
  | authorize op session allowed =>
    have same := (allowed.authorized executed op).issues.1
    exact ⟨_, same.trans session, .inl allowed⟩
  | authorizeBound op session allowed =>
    have same := (allowed.boundAuthorized executed op).issues.1
    exact ⟨_, same.trans session, .inl allowed⟩
  | consume consumes session => exact ⟨_, session, .inr consumes⟩

/-! ## Ceremonies and the intents they name -/

variable {id : IntentId} {finish : PolicyRuntime}

/-- An intent keeps its tuple as long as its identifier is not drawn again. -/
theorem Step.tuple_kept (step : Step env before event after)
    (undrawn : id.fresh ∉ event.operation.drawn) (found : before.intents.get id = some earlier)
    (left : after.intents.get id = some later) :
    later.toCeremonyTuple = earlier.toCeremonyTuple := by
  have effect := step.intentEffect id
  rw [found, left] at effect
  cases effect with
  | created creates _ _ _ => exact absurd creates.drawn undrawn
  | _ => rfl

/-- Every ceremony repeats the tuple of the intent that it names. -/
def Linked (events : List Event) (state : PolicyRuntime) : Prop :=
  ∀ ceremony auth id, state.pending.get ceremony = some auth ->
    auth.intentId = some id ->
      id.fresh ∈ drawn events /\ ∀ intent, state.intents.get id = some intent ->
        intent.toCeremonyTuple = auth.toCeremonyTuple.normalized

theorem Linked.snoc (linked : Linked events before) (accounted : Accounted events before)
    (fresh : Fresh start (events ++ [event])) (step : Step env before event after) :
    Linked (events ++ [event]) after := by
  -- The tuple of the stored intent carries over from the step before.
  have carried : ∀ {id tuple}, id.fresh ∈ drawn events ->
      (∀ intent, before.intents.get id = some intent -> intent.toCeremonyTuple = tuple) ->
        id.fresh ∈ drawn (events ++ [event]) /\ ∀ intent, after.intents.get id = some intent ->
          intent.toCeremonyTuple = tuple := by
    intro id tuple known same
    refine ⟨mem_drawn_snoc known, fun intent left => ?_⟩
    have undrawn : id.fresh ∉ event.operation.drawn := fun now => fresh.unused now known
    cases found : before.intents.get id with
    | some earlier => exact (step.tuple_kept undrawn found left).trans (same earlier found)
    | none =>
      have effect := step.intentEffect id
      rw [found, left] at effect
      cases effect with
      | created creates _ _ _ => exact absurd creates.drawn undrawn
  intro ceremony auth id stored named
  have effect := step.ceremonyEffect ceremony
  rw [stored] at effect
  generalize held : before.pending.get ceremony = entry at effect
  cases effect with
  | kept | invalidated =>
    rcases linked ceremony _ id held named with ⟨known, same⟩
    exact carried known same
  | opened authorizes _ _ =>
    rcases step.issues authorizes with ⟨_, intent, issued, found, -, tuple⟩
    cases named.symm.trans issued
    apply carried (accounted.intents id intent found)
    intro other otherFound
    cases found.symm.trans otherFound
    exact tuple

theorem Started.linked (started : Started env start events finish) : Linked events finish := by
  apply started.history
  · intro ceremony auth id stored
    rw [started.isInitial.pending] at stored
    cases stored
  · intro events event before after fresh prior linked step
    exact linked.snoc prior.accounted fresh step

/-! ## After the exit -/

/-- Every intent of the session is exhausted. -/
def Expelled (state : PolicyRuntime) (sessionId : PrincipalSessionId) : Prop :=
  ∀ id intent, state.intents.get id = some intent -> intent.sessionId = sessionId ->
    Exhausted state id

section Session

theorem Expelled.preserved (expelled : Expelled before sessionId)
    (accounted : Accounted events before) (fresh : Fresh start (events ++ [event]))
    (step : Step env before event after) (silent : ¬ event.AddsIntent sessionId) :
    Expelled after sessionId := by
  intro id intent left session
  cases found : before.intents.get id with
  | none =>
    refine absurd ⟨id, intent, ?_, ?_, session⟩ silent
    · rw [<- step.reordered.get_intents]
      exact found
    · rw [step.finished]
      exact left
  | some earlier =>
    have undrawn : id.fresh ∉ event.operation.drawn := fun now =>
      fresh.unused now (accounted.intents id earlier found)
    have same := congrArg CeremonyTuple.sessionId (step.tuple_kept undrawn found left)
    exact (expelled id earlier found (same.symm.trans session)).preserved step undrawn

/-- A session whose intents are exhausted exercises no authority. -/
theorem Expelled.not_exercises (expelled : Expelled before sessionId)
    (linked : Linked events before) (step : Step env before event after) :
    ¬ event.Exercises sessionId := by
  intro exercises
  rcases exercises.handle step.executed with ⟨_, session, authorizes | consumes⟩
  · rcases step.issues authorizes with ⟨id, intent, named, found, usable, tuple⟩
    have same := congrArg CeremonyTuple.sessionId tuple
    exact (expelled id intent found (same.trans session)).unusable intent found usable
  · rcases step.consumes consumes with ⟨isOpen, id, intent, named, found, -⟩
    have same := congrArg CeremonyTuple.sessionId ((linked _ _ id isOpen named).2 intent found)
    exact (expelled id intent found (same.trans session)).not_consumes step consumes named

section

variable (step : Step env before event after) (exit : event.operation = .principalExit sessionId)

include step exit

theorem Step.exit_state : after = event.before.principalExit sessionId := by
  have executed := step.executed
  rw [exit] at executed
  rw [<- step.finished]
  exact (congrArg Prod.snd executed).symm

theorem Step.exit_intents (id : IntentId) :
    after.intents.get id = (before.intents.get id).map (fun intent =>
      if intent.sessionId = sessionId /\ intent.state = .pending then
        { intent with state := .cancelled }
      else intent) := by
  rw [step.exit_state exit, step.reordered.get_intents]
  exact IntentStore.get_cancelBySession _ _ _

theorem Step.exit_pending (id : CeremonyId) :
    after.pending.get id = (before.pending.get id).map (fun auth =>
      if auth.sessionId = sessionId then { auth with invalidated := true }
      else auth) := by
  rw [step.exit_state exit, step.reordered.get_pending]
  exact Table.get_mapValues _ _ _

end

/-- The exit exhausts every intent of the session, when none of them is usable. -/
theorem Expelled.of_exit (linked : Linked events before) (step : Step env before event after)
    (exit : event.operation = .principalExit sessionId)
    (unusable : ∀ id intent, before.intents.get id = some intent -> intent.sessionId = sessionId ->
      ¬ before.Usable intent) : Expelled after sessionId := by
  intro id intent left session
  have intents := step.exit_intents exit id
  rw [left] at intents
  rcases Option.map_eq_some_iff.mp intents.symm with ⟨earlier, found, changed⟩
  -- A pending intent was cancelled, and any other one is as before.
  have outcome : intent.state = .cancelled ∨ intent = earlier /\ earlier.state ≠ .pending := by
    split_ifs at changed with isPending
    · subst changed
      exact .inl rfl
    · subst changed
      exact .inr ⟨rfl, fun pending => isPending ⟨session, pending⟩⟩
  have unique : ∀ other, after.intents.get id = some other -> other = intent := by
    intro other otherLeft
    exact (Option.some.inj (left.symm.trans otherLeft)).symm
  refine ⟨⟨?_, ?_⟩, ?_⟩
  · intro other otherLeft usable
    rw [unique other otherLeft] at usable
    rcases outcome with cancelled | ⟨rfl, -⟩
    · have approved := usable.approved
      rw [cancelled] at approved
      cases approved
    · exact unusable id intent found session (step.usable_before left usable)
  · intro other otherLeft claimed ceremony auth stored named
    rw [unique other otherLeft] at claimed
    rcases outcome with cancelled | ⟨rfl, -⟩
    · rw [cancelled] at claimed
      cases claimed
    · rw [step.exit_pending exit] at stored
      rcases Option.map_eq_some_iff.mp stored with ⟨held, heldStored, closed⟩
      split_ifs at closed with sameSession
      · subst closed
        rfl
      · subst closed
        have same := congrArg CeremonyTuple.sessionId
          ((linked ceremony held id heldStored named).2 intent found)
        exact absurd (same.symm.trans session) sameSession
  · intro other otherLeft pending
    rw [unique other otherLeft] at pending
    rcases outcome with cancelled | ⟨rfl, notPending⟩
    · rw [cancelled] at pending
      cases pending
    · exact notPending pending

theorem Expelled.continued (started : Started env start events before)
    (expelled : Expelled before sessionId) (rest : Executes env before later finish)
    (fresh : Fresh start (events ++ later))
    (silent : ∀ event ∈ later, ¬ event.AddsIntent sessionId) : Expelled finish sessionId := by
  induction rest with
  | nil => exact expelled
  | @snoc middle finish earlier last run step ih =>
    rw [<- append_assoc] at fresh
    have prior : Started env start (events ++ earlier) middle :=
      ⟨started.initial, started.run.append run, fresh.shortened⟩
    have still := ih fresh.shortened (fun event mem => silent event (mem_append_left _ mem))
    exact still.preserved prior.accounted fresh step
      (silent last (mem_append_right _ mem_cons_self))

/-- The exit of the session of an intent, and an authorization with the intent's own tuple and
an approval result that no resolution need have returned. -/
def exitThenAuthorize (intent : Intent) (id : IntentId) (ceremony : CeremonyId) : List Operation :=
  [.principalExit intent.sessionId,
    .authorizeBound ⟨intent.toCeremonyTuple, id, none⟩ ⟨intent.toCeremonyTuple, true⟩ ceremony]

/-- A usable intent survives the exit, and an authorization for the session succeeds. -/
theorem exercises_of_usable (env : Env) {state : PolicyRuntime}
    (found : state.intents.get id = some intent) (usable : state.Usable intent)
    (ceremony : CeremonyId) :
    (performed env (state.principalExit intent.sessionId)
      (.authorizeBound ⟨intent.toCeremonyTuple, id, none⟩ ⟨intent.toCeremonyTuple, true⟩
        ceremony)).Exercises intent.sessionId := by
  have survives : (state.principalExit intent.sessionId).intents.get id = some intent := by
    have cancelled : (state.principalExit intent.sessionId).intents.get id =
        (state.intents.get id).map _ := IntentStore.get_cancelBySession _ _ _
    rw [cancelled, found, Option.map_some, if_neg]
    rintro ⟨-, pending⟩
    rw [usable.approved] at pending
    cases pending
  rcases Option.isSome_iff_exists.mp usable.profile with ⟨snap, profile⟩
  have allows : (state.principalExit intent.sessionId).BoundAllows
      ⟨intent.toCeremonyTuple, id, none⟩ ⟨intent.toCeremonyTuple, true⟩ snap :=
    ⟨rfl, usable.generation, usable.digest, profile, fun _ => rfl⟩
  have claimable : (state.principalExit intent.sessionId).Claimable intent.toCeremonyTuple id
      intent :=
    ⟨survives, usable.inTime, usable.approved,
      (CeremonyTuple.normalized_of_canonical usable.canonical).symm⟩
  rcases PolicyRuntime.authorizeBound_of_claimable env allows rfl claimable ceremony with
    ⟨_, _, -, result⟩
  exact .authorizeBound rfl rfl (performed_authorizes result)

end Session

/-- The session's only intent waits for a decision. -/
def Sample.pendingIntent : List Operation :=
  [.adminCreateIntent ⟨tuple "example.com" none, false, none⟩ ⟨5⟩]

/-- The session exits after its intent was approved. -/
def Sample.exitedSession : List Operation :=
  pendingIntent ++ [.adminApproveIntent ⟨5⟩, .principalExit ⟨2⟩]

/-- After its exit a session has no authority left in any continuation that makes
no new intent for it, exactly when no intent of the session was usable at the exit.
The identifier `spare` says that the ceremony identifiers are not used up. -/
theorem exit_revokes_iff {env : Env} {start state : PolicyRuntime} {events : List Event}
    (started : Started env start events state) (sessionId : PrincipalSessionId)
    (spare : CeremonyId) (unused : spare.fresh ∉ drawn events) :
    (∀ exit later finish, exit.operation = .principalExit sessionId ->
      Executes env state (exit :: later) finish -> Fresh start (events ++ exit :: later) ->
      (∀ event ∈ later, ¬ event.AddsIntent sessionId) ->
        ∀ event ∈ later, ¬ event.Exercises sessionId) <->
    ∀ id intent, state.intents.get id = some intent -> intent.sessionId = sessionId ->
      ¬ state.Usable intent := by
  constructor
  · rintro revoked id intent found rfl usable
    have other : spare.fresh ≠ start.current.generationId.fresh :=
      fun same => by cases congrArg Sigma.fst same
    have run := perform_executes env (exitThenAuthorize intent id spare) state
    have extended : Fresh start (events ++ perform env state (exitThenAuthorize intent id spare)) :=
      started.fresh.perform env rfl unused other
    refine revoked _ _ _ rfl run extended ?_ _ mem_cons_self
      (exercises_of_usable env found usable spare)
    intro event mem adds
    cases mem_singleton.mp mem
    rcases adds.creates (performed_step env _ _).executed with ⟨_, _, creates⟩
    cases creates
  · intro unusable exit later finish isExit run fresh silent event mem
    rcases run.split [exit] later rfl with ⟨exited, first, rest⟩
    have step := first.of_single rfl
    rw [<- singleton_append, <- append_assoc] at fresh
    have expelled : Expelled exited sessionId := .of_exit started.linked step isExit unusable
    have prior : Started env start (events ++ [exit]) exited :=
      ⟨started.initial, .snoc started.run step, fresh.shortened⟩
    rcases rest.mem_split mem with ⟨front, _, before, _, rfl, initial, taken, -⟩
    rw [<- append_assoc] at fresh
    have here : Started env start (events ++ [exit] ++ front) before :=
      ⟨started.initial, prior.run.append initial, fresh.shortened⟩
    have still := expelled.continued prior initial fresh.shortened
      (fun other inside => silent other (mem_append_left _ inside))
    exact still.not_exercises here.linked taken

section Samples

open Sample

/-- A session with one pending intent has no authority after its exit. -/
theorem exit_revokes_sample :
    ¬(performed sampleEnv (performed sampleEnv (reached sampleEnv Sample.start
      pendingIntent) (.principalExit ⟨2⟩)).after
      (.authorize ⟨tuple "example.com" none, true⟩ ⟨6⟩)).Exercises ⟨2⟩ := by
  have started := started pendingIntent (by decide +kernel)
  let state := reached sampleEnv Sample.start pendingIntent
  have unusable : ∀ entry ∈ state.intents.intents.toList, ¬ state.Usable entry.2 := by
    decide +kernel
  have longer := Sample.started (pendingIntent ++ [.principalExit ⟨2⟩,
    .authorize ⟨tuple "example.com" none, true⟩ ⟨6⟩]) (by decide +kernel)
  have undrawn : (⟨7⟩ : CeremonyId).fresh ∉
      drawn (perform sampleEnv Sample.start pendingIntent) := by
    decide +kernel
  have run := perform_executes sampleEnv [.principalExit ⟨2⟩,
    .authorize ⟨tuple "example.com" none, true⟩ ⟨6⟩] state
  refine (exit_revokes_iff started ⟨2⟩ ⟨7⟩ undrawn).mpr ?_ _ _ _ rfl run longer.fresh ?_ _
    mem_cons_self
  · intro id intent found session
    exact unusable (id, intent) ((Table.mem_toList _ _ _).mpr found)
  · intro event mem adds
    cases mem_singleton.mp mem
    rcases adds.creates (performed_step sampleEnv _ _).executed with ⟨_, _, creates⟩
    cases creates

/-- The session exits while its intent is approved, and is authorized afterwards. -/
theorem exit_leaves_approved_intent :
    Started sampleEnv Sample.start (perform sampleEnv Sample.start
        (exitedSession ++ [.authorize ⟨tuple "example.com" none, true⟩ ⟨6⟩]))
      (reached sampleEnv Sample.start
        (exitedSession ++ [.authorize ⟨tuple "example.com" none, true⟩ ⟨6⟩])) /\
    (performed sampleEnv (reached sampleEnv Sample.start exitedSession)
      (.authorize ⟨tuple "example.com" none, true⟩ ⟨6⟩)).Exercises ⟨2⟩ := by
  have allowed : (performed sampleEnv (reached sampleEnv Sample.start exitedSession)
      (.authorize ⟨tuple "example.com" none, true⟩ ⟨6⟩)).Authorizes
        ⟨⟨tuple "example.com" none, none, some ⟨5⟩⟩, ⟨6⟩⟩ := by
    decide +kernel
  exact ⟨started _ (by decide +kernel), .authorize rfl rfl allowed⟩

end Samples

end ControlVault.Engine
