import ControlVault.Engine.Scenario

namespace ControlVault.Engine

open Foundation Core

/-!
# Authorizations are used once

An intent may go back from claimed to approved, and several ceremonies may name
the same intent.  What makes an authorization one-shot is that the consumed state
is final and that a closed ceremony stays closed, over every continuation of the
run in which identifiers do not repeat.
-/

/-- The states an intent reaches through an approval only. -/
def IntentState.IsApproved (state : IntentState) : Prop :=
  state = .approved ∨ state = .claimed ∨ state = .consumed

/-- Some event of the history approved this intent. -/
def WasApproved (events : List Event) (id : IntentId) : Prop :=
  ∃ event ∈ events, event.ApprovesIntent id

/-- The ceremony and the intent of a handle can never be used again. -/
structure Spent (events : List Event) (state : PolicyRuntime) (handle : AuthorizationHandle) :
    Prop where
  intent : ∃ id, handle.intentId = some id /\ id.fresh ∈ drawn events /\
    ∀ intent, state.intents.get id = some intent -> intent.state = .consumed
  ceremony : ∃ auth, handle.ceremonyId.fresh ∈ drawn events /\
    state.pending.get handle.ceremonyId = some auth /\ auth.invalidated = true

variable {id : IntentId} {handle : AuthorizationHandle}

section Steps

/-- The consumed state is final for an identifier that is not drawn again. -/
theorem consumed_step (step : Step env before event after)
    (undrawn : id.fresh ∉ event.operation.drawn)
    (consumed : ∀ intent, before.intents.get id = some intent -> intent.state = .consumed) :
    ∀ intent, after.intents.get id = some intent -> intent.state = .consumed := by
  intro intent found
  have effect := step.intentEffect id
  rw [found] at effect
  generalize before.intents.get id = prev at effect consumed
  cases effect with
  | kept => exact consumed _ rfl
  | expired late =>
    have final := consumed _ rfl
    simp [Intent.isOverdue, final] at late
  | approved pending _ _ => exact absurd (consumed _ rfl) (by simp [pending])
  | closed pending _ => exact absurd (consumed _ rfl) (by simp [pending])
  | claimed approved _ _ _ _ => exact absurd (consumed _ rfl) (by simp [approved])
  | rolledBack claimed _ _ => exact absurd (consumed _ rfl) (by simp [claimed])
  | consumed _ _ _ => rfl
  | created creates _ _ _ => exact absurd creates.drawn undrawn

theorem closed_step (step : Step env before event after) {id : CeremonyId}
    (undrawn : id.fresh ∉ event.operation.drawn)
    (stored : before.pending.get id = some auth) (closed : auth.invalidated = true) :
    ∃ later, after.pending.get id = some later /\ later.invalidated = true := by
  have effect := step.ceremonyEffect id
  rw [stored] at effect
  generalize after.pending.get id = next at effect
  cases effect with
  | kept => exact ⟨_, rfl, closed⟩
  | invalidated => exact ⟨_, rfl, rfl⟩
  | opened _ _ drawn => exact absurd drawn undrawn

theorem Spent.step (spent : Spent events before handle) (fresh : Fresh start (events ++ [event]))
    (step : Step env before event after) :
    Spent (events ++ [event]) after handle := by
  constructor
  · rcases spent.intent with ⟨id, named, known, consumed⟩
    have undrawn : id.fresh ∉ event.operation.drawn := fun now => fresh.unused now known
    exact ⟨id, named, mem_drawn_snoc known, consumed_step step undrawn consumed⟩
  · rcases spent.ceremony with ⟨_, known, stored, closed⟩
    have undrawn : handle.ceremonyId.fresh ∉ event.operation.drawn := fun now =>
      fresh.unused now known
    rcases closed_step step undrawn stored closed with ⟨later, stillStored, stillClosed⟩
    exact ⟨later, mem_drawn_snoc known, stillStored, stillClosed⟩

/-- A consumption spends its handle. -/
theorem Spent.of_consumes (accounted : Accounted events before)
    (step : Step env before event after) (consumes : event.Consumes handle) :
    Spent (events ++ [event]) after handle := by
  have consumption := consumes.consumption step.executed
  rw [step.finished] at consumption
  rcases consumption with ⟨consumable, ⟨id, intent, named, found, -, left⟩, closed⟩
  rw [<- step.reordered.get_intents] at found
  have isOpen := consumable.isOpen
  rw [PolicyRuntime.IsOpen, <- step.reordered.get_pending] at isOpen
  refine ⟨⟨id, named, mem_drawn_snoc (accounted.intents id intent found), ?_⟩,
    ⟨_, mem_drawn_snoc (accounted.ceremonies _ _ isOpen), closed, rfl⟩⟩
  intro later stored
  rw [left] at stored
  cases stored
  rfl

/-- A spent handle does not compete with one that is being consumed. -/
theorem Spent.distinct (spent : Spent events before spentHandle)
    (step : Step env before event after) (consumes : event.Consumes handle) :
    spentHandle.ceremonyId ≠ handle.ceremonyId /\ spentHandle.intentId ≠ handle.intentId := by
  rcases step.consumes consumes with ⟨isOpen, _, intent, named, found, claimed⟩
  constructor
  · intro same
    rcases spent.ceremony with ⟨_, -, stored, closed⟩
    rw [same, isOpen] at stored
    cases stored
    cases closed
  · intro same
    rcases spent.intent with ⟨_, spentNamed, -, consumed⟩
    rw [same, named] at spentNamed
    cases spentNamed
    rw [consumed intent found] at claimed
    cases claimed

/-- The history explains every approval that the store shows. -/
theorem approved_step (step : Step env before event after)
    (explained : ∀ id intent, before.intents.get id = some intent -> intent.state.IsApproved ->
      WasApproved events id) :
    ∀ id intent, after.intents.get id = some intent -> intent.state.IsApproved ->
      WasApproved (events ++ [event]) id := by
  intro id intent found isApproved
  have earlier : ∀ prev, before.intents.get id = some prev -> prev.state.IsApproved ->
      WasApproved (events ++ [event]) id := by
    intro prev stored approved
    rcases explained id prev stored approved with ⟨approval, mem, approves⟩
    exact ⟨approval, List.mem_append_left _ mem, approves⟩
  have effect := step.intentEffect id
  rw [found] at effect
  generalize before.intents.get id = prev at effect earlier
  cases effect with
  | kept => exact earlier _ rfl isApproved
  | expired _ => rcases isApproved with never | never | never <;> cases never
  | approved _ _ approves => exact ⟨event, List.mem_append_right _ List.mem_cons_self, approves⟩
  | closed _ ending =>
    rcases ending with rfl | rfl <;>
      rcases isApproved with never | never | never <;> cases never
  | claimed approved _ _ _ _ => exact earlier _ rfl (.inl approved)
  | rolledBack claimed _ _ => exact earlier _ rfl (.inr (.inl claimed))
  | consumed claimed _ _ => exact earlier _ rfl (.inr (.inl claimed))
  | created _ _ pending _ =>
    rw [pending] at isApproved
    rcases isApproved with never | never | never <;> cases never

end Steps

section Runs

variable {env : Env} {start finish : PolicyRuntime} {events : List Event}

section

variable (started : Started env start events finish)

include started

theorem Started.wasApproved :
    ∀ id intent, finish.intents.get id = some intent -> intent.state.IsApproved ->
      WasApproved events id := by
  apply started.history
  · intro id intent found
    rw [started.isInitial.intents] at found
    cases found
  · intro events event before after _ _ explained step
    exact approved_step step explained

theorem Started.spent :
    ∀ event ∈ events, ∀ handle, event.Consumes handle -> Spent events finish handle := by
  apply started.history
  · intro event mem
    cases mem
  · intro events event before after fresh prior spent step earlier mem handle consumes
    rcases List.mem_append.mp mem with old | new
    · exact (spent earlier old handle consumes).step fresh step
    · cases List.mem_singleton.mp new
      exact .of_consumes prior.accounted step consumes

/-- No two consumptions of a history share the ceremony or the intent. -/
theorem Started.consumptions_distinct :
    events.Pairwise (fun earlier later => ∀ first second, earlier.Consumes first ->
      later.Consumes second ->
        first.ceremonyId ≠ second.ceremonyId /\ first.intentId ≠ second.intentId) := by
  apply started.history
  · exact .nil
  · intro events event before after fresh prior distinct step
    rw [List.pairwise_append]
    refine ⟨distinct, List.pairwise_singleton _ _, ?_⟩
    intro earlier mem later last first second consumesFirst consumesSecond
    cases List.mem_singleton.mp last
    exact (prior.spent earlier mem first consumesFirst).distinct step consumesSecond

end

/-- From a state that shows an intent as consumed, no continuation shows it otherwise. -/
theorem Started.consumed_final (started : Started env start earlier middle)
    (rest : Executes env middle later finish) (fresh : Fresh start (earlier ++ later))
    (found : middle.intents.get id = some intent)
    (consumed : intent.state = .consumed) :
    ∀ other, finish.intents.get id = some other -> other.state = .consumed := by
  have known := started.accounted.intents id intent found
  induction rest with
  | nil =>
    intro other same
    rw [found] at same
    cases same
    exact consumed
  | @snoc before after events event run step ih =>
    rw [<- List.append_assoc] at fresh
    refine consumed_step step (fun now => fresh.unused now ?_) (ih fresh.shortened)
    rw [drawn_append]
    exact List.mem_append_left _ known

/-- Authorizations are one-shot.  In every run of the policy runtime whose
identifiers do not repeat, `consume_authorization` succeeds at most once for a
ceremony and at most once for an intent; each success comes after an approval of
its intent; and an intent that was consumed is never seen in another state,
whatever is rolled back later. -/
theorem consume_once (started : Started env start events finish) :
    events.Pairwise (fun earlier later => ∀ first second, earlier.Consumes first ->
      later.Consumes second ->
        first.ceremonyId ≠ second.ceremonyId /\ first.intentId ≠ second.intentId) /\
    (∀ earlier event later handle, events = earlier ++ event :: later -> event.Consumes handle ->
      ∃ id, handle.intentId = some id /\ WasApproved earlier id) /\
    (∀ earlier later middle id intent, events = earlier ++ later ->
      Executes env start earlier middle -> Executes env middle later finish ->
      middle.intents.get id = some intent -> intent.state = .consumed ->
        ∀ other, finish.intents.get id = some other -> other.state = .consumed) := by
  refine ⟨started.consumptions_distinct, ?_, ?_⟩
  · intro earlier event later handle same consumes
    rcases started.split_at same with ⟨_, _, prior, step, -⟩
    rcases consumes.consumption step.executed with ⟨-, ⟨id, intent, named, found, claimed, -⟩, -⟩
    rw [<- step.reordered.get_intents] at found
    exact ⟨id, named, prior.wasApproved id intent found (.inr (.inl claimed))⟩
  · rintro earlier later middle id intent rfl run rest found consumed
    have prior : Started env start earlier middle :=
      ⟨started.initial, run, started.fresh.shortened⟩
    exact prior.consumed_final rest started.fresh found consumed

end Runs

/-- An administrator creates and approves an intent, and an agent authorizes with it. -/
def Sample.approvedIntent : List Operation :=
  [.adminCreateIntent ⟨tuple "example.com" none, false, none⟩ ⟨5⟩, .adminApproveIntent ⟨5⟩,
    .authorize ⟨tuple "example.com" none, true⟩ ⟨6⟩]

/-- The handle that this authorization returns. -/
def Sample.approvedHandle : AuthorizationHandle :=
  ⟨⟨tuple "example.com" none, none, some ⟨5⟩⟩, ⟨6⟩⟩

section Samples

open Sample

set_option maxRecDepth 100000 in
/-- The approved intent of a run is consumed, after its approval. -/
theorem consume_once_sample :
    (performed sampleEnv (reached sampleEnv start approvedIntent)
      (.consumeAuthorization approvedHandle)).Consumes approvedHandle /\
    WasApproved (perform sampleEnv start approvedIntent) ⟨5⟩ := by
  have started := started
    (approvedIntent ++ [.consumeAuthorization approvedHandle]) (by decide +kernel)
  have consumes : (performed sampleEnv (reached sampleEnv start approvedIntent)
      (.consumeAuthorization approvedHandle)).Consumes approvedHandle :=
    ⟨rfl, ⟨⟨⟨"agent"⟩, .authenticate, "example.com", none, false⟩, by decide +kernel⟩⟩
  rcases (consume_once started).2.1 _ _ _ _ (perform_snoc _ _ _ _) consumes with
    ⟨_, named, approved⟩
  cases named
  exact ⟨consumes, approved⟩

end Samples

end ControlVault.Engine
