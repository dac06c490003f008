import ControlVault.Engine.CeremonyEffects
import ControlVault.Engine.GrantEffects
import ControlVault.Engine.PendingEffects

namespace ControlVault.Engine

open Foundation Core PolicyRuntime

/-!
# Histories of the policy runtime

The effect theorems speak about one executed operation.  Here they are
carried to steps of a run, where the tables may be reordered first, and to whole
histories, where identifiers that were drawn before cannot be drawn again.

Every identifier under which the runtime stores an intent or a ceremony was
drawn by an earlier event.  A drawn identifier therefore keeps its meaning for
the rest of the run.
-/

variable {id : FreshId} {env : Env} {event : Event}

/-- The identifiers drawn by a history. -/
def drawn (events : List Event) : List FreshId :=
  events.flatMap (fun event => event.operation.drawn)

theorem drawn_append (first second : List Event) :
    drawn (first ++ second) = drawn first ++ drawn second :=
  List.flatMap_append

theorem drawn_singleton (event : Event) : drawn [event] = event.operation.drawn :=
  List.flatMap_singleton _ event

theorem drawn_snoc (events : List Event) (event : Event) :
    drawn (events ++ [event]) = drawn events ++ event.operation.drawn := by
  rw [drawn_append, drawn_singleton]

theorem mem_drawn_snoc (mem : id ∈ drawn events) : id ∈ drawn (events ++ [event]) := by
  rw [drawn_snoc]
  exact List.mem_append_left _ mem

namespace Fresh

variable {start : PolicyRuntime} {events : List Event}

theorem shortened (fresh : Fresh start (events ++ later)) :
    Fresh start events := by
  change (_ :: drawn (events ++ later)).Nodup at fresh
  rw [drawn_append] at fresh
  exact (List.nodup_append.mp fresh).1

section

variable (fresh : Fresh start (events ++ [event])) (now : id ∈ event.operation.drawn)

include fresh now

theorem unusedGeneration : id ∉ start.current.generationId.fresh :: drawn events := by
  change (_ :: drawn (events ++ [event])).Nodup at fresh
  rw [drawn_snoc] at fresh
  intro before
  exact (List.nodup_append.mp fresh).2.2 id before id now rfl

theorem unused : id ∉ drawn events :=
  fun before => fresh.unusedGeneration now (List.mem_cons_of_mem _ before)

end

end Fresh

/-! ## Steps -/

namespace Step

variable {before after : PolicyRuntime} (step : Step env before event after)

include step

theorem intentEffect (id : IntentId) :
    IntentEffect event id (before.intents.get id) (after.intents.get id) := by
  rw [step.reordered.get_intents, <- step.finished]
  exact exec_intentEffect step.executed id

theorem ceremonyEffect (id : CeremonyId) :
    CeremonyEffect event id (before.pending.get id) (after.pending.get id) := by
  rw [step.reordered.get_pending, <- step.finished]
  exact exec_ceremonyEffect step.executed id

theorem grantsEffect (profileId : ProfileId) :
    GrantsEffect event profileId (before.grants.get profileId) (after.grants.get profileId) := by
  rw [step.reordered.get_grants, <- step.finished]
  exact exec_grantsEffect step.executed profileId

theorem pendingEffect (id : PendingRequestId) :
    PendingEffect event id (before.pendingRequests.get id) (after.pendingRequests.get id) := by
  rw [step.reordered.get_pendingRequests, <- step.finished]
  exact exec_pendingEffect step.executed id

theorem reach : Reach env event.before event.operation after := by
  rw [<- step.finished]
  exact exec_reach step.executed

end Step

/-- The event consumed this handle successfully. -/
structure Event.Consumes (event : Event) (handle : AuthorizationHandle) : Prop where
  operation : event.operation = .consumeAuthorization handle
  answer : ∃ info, event.answer = .consumed (.ok info)

theorem Event.Consumes.consumption (consumes : event.Consumes handle)
    (executed : event.before.exec env event.operation = (event.answer, event.after)) :
    event.before.Consumption handle event.after := by
  rcases event with ⟨before, _, _, _⟩
  rcases consumes with ⟨rfl, ⟨_, rfl⟩⟩
  have outcome := before.consumeAuthorization_spec handle
  simp only [exec, Prod.map, id, Prod.mk.injEq, Answer.consumed.injEq] at executed
  rw [executed.1, executed.2] at outcome
  exact outcome.consumption

theorem Step.consumes (step : Step env before event after) (consumes : event.Consumes handle) :
    before.IsOpen handle /\ ∃ id intent, handle.intentId = some id /\
      before.intents.get id = some intent /\ intent.state = .claimed := by
  rcases consumes.consumption step.executed with
    ⟨consumable, ⟨id, intent, named, found, claimed, -⟩, -⟩
  have isOpen := consumable.isOpen
  rw [<- step.reordered.get_intents] at found
  rw [PolicyRuntime.IsOpen, <- step.reordered.get_pending] at isOpen
  exact ⟨isOpen, id, intent, named, found, claimed⟩

/-! ## Stored identifiers were drawn -/

/-- Everything that is stored under an identifier was stored after it was drawn. -/
structure Accounted (events : List Event) (state : PolicyRuntime) : Prop where
  intents : ∀ id intent, state.intents.get id = some intent -> id.fresh ∈ drawn events
  ceremonies : ∀ id auth, state.pending.get id = some auth ->
    id.fresh ∈ drawn events

namespace Accounted

theorem snoc (accounted : Accounted events before)
    (step : Step env before event after) : Accounted (events ++ [event]) after := by
  constructor
  · intro id intent found
    have effect := step.intentEffect id
    cases earlier : before.intents.get id with
    | some prev => exact mem_drawn_snoc (accounted.intents id prev earlier)
    | none =>
      rw [earlier, found] at effect
      cases effect with
      | created creates _ _ _ =>
        rw [drawn_snoc]
        exact List.mem_append_right _ creates.drawn
  · intro id auth found
    have effect := step.ceremonyEffect id
    cases earlier : before.pending.get id with
    | some prev => exact mem_drawn_snoc (accounted.ceremonies id prev earlier)
    | none =>
      rw [earlier, found] at effect
      cases effect with
      | opened _ _ drawn =>
        rw [drawn_snoc]
        exact List.mem_append_right _ drawn

end Accounted

/-- The start of the daemon: a compiled policy and nothing else. -/
structure Initial (env : Env) (state : PolicyRuntime) : Prop where
  intents : ∀ id, state.intents.get id = none
  pending : ∀ id, state.pending.get id = none
  pendingRequests : ∀ id, state.pendingRequests.get id = none
  generation : ∃ config fresh,
    compileGeneration env config state.clockSecs fresh = .ok state.current
  registries : state.grants = registriesFor state.current

theorem Initial.of_new {config : AgentConfig} {clockSecs clockMillis : Nat}
    {fresh : PolicyGenerationId} {state : PolicyRuntime}
    (created : new env config clockSecs clockMillis fresh = .ok state) :
    Initial env state := by
  rw [new] at created
  cases compiled : compileGeneration env config clockSecs fresh with
  | error => simp [compiled] at created
  | ok =>
    rw [compiled] at created
    cases created
    exact ⟨fun _ => rfl, fun _ => rfl, fun _ => rfl, ⟨config, fresh, compiled⟩, rfl⟩

namespace Started

variable {start finish : PolicyRuntime} {events : List Event}
  (started : Started env start events finish)

include started

theorem isInitial : Initial env start := by
  rcases started.initial with ⟨_, _, _, _, created⟩
  exact .of_new created

/-- The history rule: each step continues a history. -/
theorem history {invariant : List Event -> PolicyRuntime -> Prop} (initially : invariant [] start)
    (preserved : ∀ events event before after, Fresh start (events ++ [event]) ->
      Started env start events before -> invariant events before ->
        Step env before event after -> invariant (events ++ [event]) after) :
    invariant events finish := by
  refine Run.history started.run (fun _ _ longer => longer.shortened) initially ?_ started.fresh
  intro events event before after fresh run holds step
  exact preserved events event before after fresh ⟨started.initial, run, fresh.shortened⟩ holds step

theorem accounted : Accounted events finish := by
  apply started.history
  · constructor
    · intro id intent found
      rw [started.isInitial.intents] at found
      cases found
    · intro id auth found
      rw [started.isInitial.pending] at found
      cases found
  · intro events event before after _ _ accounted step
    exact accounted.snoc step

/-- Every prefix of a history is a history. -/
theorem split_at (same : events = first ++ event :: second) :
    ∃ before after, Started env start first before /\ Step env before event after /\
      Executes env after second finish := by
  rcases (same ▸ started.run).split_at with ⟨before, after, initial, step, rest⟩
  exact ⟨before, after, ⟨started.initial, initial, (same ▸ started.fresh).shortened⟩, step, rest⟩

end Started

end ControlVault.Engine
