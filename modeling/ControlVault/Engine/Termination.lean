import ControlVault.Engine.Exhaustion
import ControlVault.Engine.Registries
import ControlVault.Engine.Scenario

namespace ControlVault.Engine

open Foundation Core GrantRegistry Table List Option PolicyRuntime

/-!
# What is left of a pending request that was ended

A pending request is ended by its principal, by a denial at the prompt, by its
deadline, or together with its session.  All four deny the intent and close the
grant request, and neither result is looked at.

The grant side is sound: a closed grant request leads to no grant, and a grant it
already led to is revoked.  The intent side is not.  A denial only moves a pending
intent, so an intent that the administrator approved in the meantime survives the
end of its request.
-/

variable {grant : Grant} {reg : GrantRegistry} {grantId : GrantId} {event : Event} {env : Env}
  {events : List Event} {requestId : GrantRequestId}

/-! ## The grant side -/

namespace GrantRegistry

variable {after : GrantRegistry}

/-- The request can lead to nothing, and what it led to is out of service. -/
def Closed (reg : GrantRegistry) (requestId : GrantRequestId) : Prop :=
  ∀ req, reg.pendingRequests.get requestId = some req ->
    req.resolved = true /\ ∀ grantId grant, req.resolvedGrantId = some grantId ->
      reg.grants.get grantId = some grant -> grant.state ≠ .active

theorem Shrinks.not_active (shrinks : reg.Shrinks after)
    (before : ∀ grant, reg.grants.get grantId = some grant -> grant.state ≠ .active)
    (found : after.grants.get grantId = some grant) : grant.state ≠ .active := by
  rcases shrinks.grant_before found with ⟨_, stored, rfl | ⟨_, final⟩⟩
  · exact before _ stored
  · exact final

theorem Closed.shrunk (closed : reg.Closed requestId) (shrinks : reg.Shrinks after) :
    after.Closed requestId := by
  intro req found
  rcases shrinks.request_before found with ⟨_, stored, rfl | ⟨unresolved, _⟩⟩
  · rcases closed _ stored with ⟨resolved, inactive⟩
    refine ⟨resolved, fun grantId grant named present => ?_⟩
    exact shrinks.not_active (fun earlier => inactive grantId earlier named) present
  · rw [(closed _ stored).1] at unresolved
    cases unresolved

/-- Only a new identifier could reopen a closed request. -/
theorem Closed.changed (closed : reg.Closed requestId)
    (undrawn : requestId.fresh ∉ event.operation.drawn)
    (effect : RegistryEffect event reg after)
    (known : ∀ grantId : GrantId, grantId.fresh ∈ event.operation.drawn ->
      ∀ req, reg.pendingRequests.get requestId = some req ->
        req.resolvedGrantId ≠ some grantId) : after.Closed requestId := by
  cases effect with
  | shrinks shrinks => exact closed.shrunk shrinks
  | @requested now id req drawn =>
    intro stored found
    have different : requestId ≠ id := by
      rintro rfl
      exact undrawn drawn
    rw [get_insert_of_ne _ _ different] at found
    exact closed stored found
  | @approved grantId rpIds credentials id req drawn checks =>
    have different : requestId ≠ id := by
      rintro rfl
      rcases approvable_ok checks with ⟨stored, unresolved⟩
      rw [(closed req stored).1] at unresolved
      cases unresolved
    intro stored found
    rw [afterApproval, get_insert_of_ne _ _ different] at found
    rcases closed stored found with ⟨resolved, inactive⟩
    refine ⟨resolved, fun other grant named present => ?_⟩
    have otherGrant : other ≠ grantId := by
      rintro rfl
      exact known other drawn stored found named
    rw [afterApproval, get_insert_of_ne _ _ otherGrant] at present
    exact inactive other grant named present

theorem revokeGrant_inactive (reg : GrantRegistry) (grantId : GrantId)
    (found : (reg.revokeGrant grantId).2.grants.get grantId = some grant) :
    grant.state ≠ .active := by
  rw [revokeGrant] at found
  cases stored : reg.grants.get grantId with
  | none =>
    simp only [stored] at found
    cases found
  | some =>
    simp only [stored] at found
    split_ifs at found with active
    · rw [stored] at found
      cases found
      exact active
    · rw [get_insert_self, some.injEq] at found
      rw [<- found, Grant.leave, if_pos (not_not.mp active)]
      exact GrantState.noConfusion

theorem revokeGrant_pendingRequests (reg : GrantRegistry) (grantId : GrantId) :
    (reg.revokeGrant grantId).2.pendingRequests = reg.pendingRequests := by
  rw [revokeGrant]
  cases reg.grants.get grantId with
  | none => rfl
  | some =>
    simp only []
    split_ifs <;> rfl

/-- Closing a request whose grant, if any, is out of service. -/
theorem cancelRequest_closed
    (inactive : ∀ grantId grant, reg.resolvedGrantId requestId = some grantId ->
      reg.grants.get grantId = some grant -> grant.state ≠ .active) :
    (reg.cancelRequest requestId).2.Closed requestId := by
  intro req found
  rw [cancelRequest] at found ⊢
  cases stored : reg.pendingRequests.get requestId with
  | none =>
    simp only [stored] at found
    cases found
  | some earlier =>
    have named : reg.resolvedGrantId requestId = earlier.resolvedGrantId := by
      rw [resolvedGrantId, stored]
      rfl
    rw [named] at inactive
    simp only [stored] at found ⊢
    split_ifs at found ⊢ with resolved
    · rw [stored] at found
      cases found
      exact ⟨resolved, inactive⟩
    · rw [get_insert_self, some.injEq] at found
      subst found
      exact ⟨rfl, inactive⟩

theorem terminateRequest_closed (reg : GrantRegistry) (requestId : GrantRequestId) :
    (reg.terminateRequest requestId).Closed requestId := by
  apply cancelRequest_closed
  intro grantId grant named found
  cases led : reg.resolvedGrantId requestId with
  | none =>
    simp only [led] at named
    cases named
  | some =>
    simp only [led] at named found
    rw [resolvedGrantId, revokeGrant_pendingRequests, <- resolvedGrantId, led] at named
    cases named
    exact reg.revokeGrant_inactive _ found

end GrantRegistry

section OneStep

variable {before after : PolicyRuntime} (step : Step env before event after)

include step

/-- A request that is stored after a step and was not drawn by it was stored before. -/
theorem Step.request_origin (undrawn : requestId.fresh ∉ event.operation.drawn)
    (registered : after.grants.get profileId = some reg)
    (present : (reg.pendingRequests.get requestId).isSome = true) :
    ∃ earlier, before.grants.get profileId = some earlier /\
      (earlier.pendingRequests.get requestId).isSome = true := by
  rcases step.registry_before registered with isNew | ⟨_, earlier, prev, change⟩
  · rw [isNew.requests] at present
    cases present
  · refine ⟨earlier, prev, ?_⟩
    cases change with
    | shrinks shrinks =>
      rcases isSome_iff_exists.mp present with ⟨_, found⟩
      rcases shrinks.request_before found with ⟨_, stored, _⟩
      rw [stored]
      rfl
    | @requested now id req drawn isOpen =>
      have different : requestId ≠ id := by
        rintro rfl
        exact undrawn drawn
      rw [get_insert_of_ne _ _ different] at present
      exact present
    | @approved grantId rpIds credentials id req drawn checks =>
      rw [afterApproval, get_insert] at present
      split_ifs at present with same
      · rw [same, (approvable_ok checks).1]
        rfl
      · exact present

/-- A pending request was there before in some state, or it is stored now. -/
theorem Step.pending_before {id : PendingRequestId}
    (found : after.pendingRequests.get id = some req) :
    (∃ earlier state, before.pendingRequests.get id = some earlier /\
      req = { earlier with state }) ∨ event.StoresPending id req := by
  have effect := step.pendingEffect id
  rw [found] at effect
  generalize before.pendingRequests.get id = entry at effect
  cases effect with
  | @moved earlier state => exact .inl ⟨earlier, state, rfl, rfl⟩
  | stored stores => exact .inr stores

end OneStep

/-- What a stored pending request names was drawn, and its grant request is in the registry
of its own profile or in none. -/
structure Placed (events : List Event) (state : PolicyRuntime) : Prop where
  intents : ∀ id req, state.pendingRequests.get id = some req ->
    req.intentId.fresh ∈ drawn events
  grantRequests : ∀ id req requestId, state.pendingRequests.get id = some req ->
    req.grantRequestId = some requestId -> requestId.fresh ∈ drawn events
  registries : ∀ id req requestId profileId reg,
    state.pendingRequests.get id = some req -> req.grantRequestId = some requestId ->
      state.grants.get profileId = some reg ->
        (reg.pendingRequests.get requestId).isSome = true -> profileId = req.profileId

theorem Placed.snoc {start before after : PolicyRuntime} (placed : Placed events before)
    (registered : Registered events before) (fresh : Fresh start (events ++ [event]))
    (step : Step env before event after) : Placed (events ++ [event]) after := by
  have new : ∀ {id : FreshId}, id ∈ event.operation.drawn -> id ∈ drawn (events ++ [event]) := by
    intro id now
    rw [drawn_snoc]
    exact mem_append_right _ now
  refine ⟨?_, ?_, ?_⟩
  · intro id req found
    rcases step.pending_before found with ⟨stored, _, prev, rfl⟩ | stores
    · exact mem_drawn_snoc (placed.intents id stored prev)
    · exact new stores.intent
  · intro id req requestId found named
    rcases step.pending_before found with ⟨stored, _, prev, rfl⟩ | stores
    · exact mem_drawn_snoc (placed.grantRequests id stored requestId prev named)
    · exact new (stores.grantRequest requestId named)
  · intro id req requestId profileId reg found named there present
    rcases step.pending_before found with ⟨stored, _, prev, rfl⟩ | stores
    · have known := placed.grantRequests id stored requestId prev named
      have undrawn : requestId.fresh ∉ event.operation.drawn :=
        fun now => fresh.unused now known
      rcases step.request_origin undrawn there present with ⟨earlier, was, held⟩
      exact placed.registries id stored requestId profileId earlier prev named was held
    · by_contra different
      have same := stores.otherRegistries profileId different
      rw [step.finished, <- step.reordered.get_grants, there] at same
      rcases isSome_iff_exists.mp present with ⟨entry, held⟩
      exact fresh.unused (stores.grantRequest requestId named)
        ((registered profileId reg same.symm).requestsKnown requestId entry held)

theorem Started.placed (started : Started env start events finish) :
    Placed events finish := by
  apply started.history
  · have nothing := started.isInitial.pendingRequests
    refine ⟨?_, ?_, ?_⟩ <;>
    · intro id req
      rw [nothing]
      intros
      contradiction
  · intro events event before after fresh earlier placed step
    exact placed.snoc earlier.registered fresh step

/-! ## Grants and the requests that led to them -/

/-- At some time the request had led to the grant. -/
def Produced (events : List Event) (profileId : ProfileId) (requestId : GrantRequestId)
    (grantId : GrantId) : Prop :=
  ∃ event ∈ events, ∃ reg, event.after.grants.get profileId = some reg /\
    reg.resolvedGrantId requestId = some grantId

/-- While the grant is active its request is still there and names it. -/
def Traced (state : PolicyRuntime) (profileId : ProfileId) (requestId : GrantRequestId)
    (grantId : GrantId) : Prop :=
  ∀ reg grant, state.grants.get profileId = some reg ->
    reg.grants.get grantId = some grant -> grant.state = .active ->
      reg.resolvedGrantId requestId = some grantId

theorem GrantRegistry.resolvedGrantId_some :
    reg.resolvedGrantId requestId = some grantId <->
      ∃ req, reg.pendingRequests.get requestId = some req /\
        req.resolvedGrantId = some grantId :=
  bind_eq_some_iff

/-- A request is forgotten only together with the session of its grant. -/
theorem GrantRegistry.Shrinks.still_traced {after : GrantRegistry} {current : PolicyGenerationId}
    (shrinks : reg.Shrinks after) (wellFormed : reg.WellFormed events current)
    (named : reg.resolvedGrantId requestId = some grantId)
    (found : after.grants.get grantId = some grant) (active : grant.state = .active) :
    after.resolvedGrantId requestId = some grantId := by
  rcases resolvedGrantId_some.mp named with ⟨req, stored, led⟩
  rw [resolvedGrantId_some]
  have move := shrinks.requests requestId
  rw [stored] at move
  generalize after.pendingRequests.get requestId = entry at move
  cases move with
  | kept => exact ⟨req, rfl, led⟩
  | cancelled => exact ⟨_, rfl, led⟩
  | removed exit =>
    rcases wellFormed.issued requestId req grantId stored led with ⟨-, _, present, session⟩
    rcases shrinks.grant_present present with ⟨_, there, same⟩
    rw [found] at there
    cases there
    exact absurd active (exit grantId grant found (same.trans session))

section OneStep

variable {start before after : PolicyRuntime} (registered : Registered events before)
  (fresh : Fresh start (events ++ [event])) (step : Step env before event after)

include registered fresh step

theorem Traced.preserved (traced : Traced before profileId requestId grantId)
    (knownRequest : requestId.fresh ∈ drawn events) (knownGrant : grantId.fresh ∈ drawn events) :
    Traced after profileId requestId grantId := by
  intro reg grant there found active
  rcases step.registry_before there with isNew | ⟨_, earlier, prev, change⟩
  · rw [isNew.grants] at found
    cases found
  · have wellFormed := registered profileId earlier prev
    cases change with
    | shrinks shrinks =>
      rcases shrinks.grant_before found with ⟨_, stored, rfl | ⟨_, final⟩⟩
      · have named := traced earlier grant prev stored active
        exact shrinks.still_traced wellFormed named found active
      · exact absurd active final
    | @requested now id req drawn isOpen =>
      have different : requestId ≠ id := by
        rintro rfl
        exact fresh.unused drawn knownRequest
      rw [resolvedGrantId, get_insert_of_ne _ _ different]
      exact traced earlier grant prev found active
    | @approved issued rpIds credentials id req drawn checks =>
      have otherGrant : grantId ≠ issued := by
        rintro rfl
        exact fresh.unused drawn knownGrant
      rw [afterApproval, get_insert_of_ne _ _ otherGrant] at found
      have named := traced earlier grant prev found active
      have different : requestId ≠ id := by
        rintro rfl
        rcases resolvedGrantId_some.mp named with ⟨_, held, led⟩
        rcases approvable_ok checks with ⟨there, unresolved⟩
        rw [held, some.injEq] at there
        subst there
        rw [(wellFormed.issued _ _ _ held led).1] at unresolved
        cases unresolved
      rw [resolvedGrantId, afterApproval, get_insert_of_ne _ _ different]
      exact named

/-- A closed request stays closed in every registry. -/
theorem closed_preserved (known : requestId.fresh ∈ drawn events)
    (closed : ∀ profileId reg, before.grants.get profileId = some reg ->
      reg.Closed requestId) :
    ∀ profileId reg, after.grants.get profileId = some reg ->
      reg.Closed requestId := by
  intro profileId reg there
  rcases step.registry_before there with isNew | ⟨_, earlier, prev, change⟩
  · intro req found
    rw [isNew.requests] at found
    cases found
  · have wellFormed := registered profileId earlier prev
    apply (closed profileId earlier prev).changed _ change
    · intro issued drawn req stored led
      rcases wellFormed.issued requestId req issued stored led with ⟨-, grant, present, -⟩
      exact fresh.unused drawn (wellFormed.grantsKnown issued grant present)
    · exact fun now => fresh.unused now known

end OneStep

theorem Started.traced (started : Started env start events finish)
    (produced : Produced events profileId requestId grantId) :
    Traced finish profileId requestId grantId := by
  have all : ∀ profileId requestId grantId, Produced events profileId requestId grantId ->
      requestId.fresh ∈ drawn events /\ grantId.fresh ∈ drawn events /\
        Traced finish profileId requestId grantId := by
    apply started.history
    · rintro profileId requestId grantId ⟨event, mem, -⟩
      cases mem
    · intro events event before after fresh earlier ih step profileId requestId grantId produced
      have registered := earlier.registered
      rcases produced with ⟨witness, mem, reg, there, named⟩
      rcases mem_append.mp mem with before | now
      · rcases ih profileId requestId grantId
          ⟨witness, before, reg, there, named⟩ with ⟨knownRequest, knownGrant, traced⟩
        exact ⟨mem_drawn_snoc knownRequest, mem_drawn_snoc knownGrant,
          traced.preserved registered fresh step knownRequest knownGrant⟩
      · cases mem_singleton.mp now
        rw [step.finished] at there
        have wellFormed := registered.snoc step fresh profileId reg there
        rcases resolvedGrantId_some.mp named with ⟨req, stored, led⟩
        rcases wellFormed.issued requestId req grantId stored led with ⟨-, grant, present, -⟩
        refine ⟨wellFormed.requestsKnown requestId req stored,
          wellFormed.grantsKnown grantId grant present, ?_⟩
        intro other _ otherThere _ _
        rw [there] at otherThere
        cases otherThere
        exact named
  exact (all profileId requestId grantId produced).2.2

/-! ## The end of a request -/

/-- The operations that end pending requests. -/
inductive Operation.EndsPending : Operation -> Prop
  | cancel (id : PendingRequestId) (sessionId : PrincipalSessionId) :
      EndsPending (.principalCancelPending id sessionId)
  | deny (tuple : CeremonyTuple) : EndsPending (.ceremonyDenyPending tuple)
  | cleanup : EndsPending .cleanupExpiredPending
  | session (sessionId : PrincipalSessionId) : EndsPending (.cancelPendingForSession sessionId)

/-- One of these operations moved this waiting request to a final state. -/
structure Event.Terminates (event : Event) (id : PendingRequestId)
    (req : PendingPrincipalRequest) : Prop where
  operation : event.operation.EndsPending
  found : event.before.pendingRequests.get id = some req
  waiting : req.state = .waiting
  final : ∃ closed, event.after.pendingRequests.get id = some closed /\
    (closed.state = .cancelled ∨ closed.state = .denied ∨ closed.state = .timedOut)

/-- The requests that an operation ended, this one among them. -/
structure Event.EndedAll (event : Event) (requests : List PendingPrincipalRequest)
    (req : PendingPrincipalRequest) : Prop where
  member : req ∈ requests
  intents : event.after.intents =
    (requests.foldl PolicyRuntime.terminateRequest event.before).intents
  grants : event.after.grants = (requests.foldl PolicyRuntime.terminateRequest event.before).grants
  pending : event.after.pending = event.before.pending

variable {req : PendingPrincipalRequest} {id : PendingRequestId}

theorem Event.EndedAll.of_pendingEnded
    {after : PolicyRuntime} (found : event.before.pendingRequests.get id = some req)
    (moved : after.pendingRequests.get id ≠ some req)
    (ended : event.before.PendingEnded state after) (finished : event.after = after) :
    event.EndedAll [req] req := by
  cases ended with
  | unchanged => exact absurd found moved
  | @ended other stored otherFound waiting =>
    by_cases same : id = other
    · subst same
      rw [found] at otherFound
      cases otherFound
      refine ⟨mem_singleton_self _, ?_, ?_, ?_⟩ <;>
      · rw [finished]
        rfl
    · rw [setPendingState, get_modify_of_ne _ _ same] at moved
      exact absurd found moved

theorem Event.EndedAll.of_terminateWhere (found : event.before.pendingRequests.get id = some req)
    (moved : event.after.pendingRequests.get id ≠ some req)
    (finished : event.after = event.before.terminateWhere test state) :
    event.EndedAll (event.before.pendingRequests.values.filter (fun req =>
      decide (req.state = .waiting) && test req)) req := by
  have selected : (decide (req.state = .waiting) && test req) = true := by
    by_contra other
    apply moved
    rw [finished, terminateWhere, get_mapValues, found, map_some, if_neg other]
  have mem : req ∈ event.before.pendingRequests.values.filter (fun req =>
      decide (req.state = .waiting) && test req) :=
    mem_filter.mpr ⟨(mem_values _ _).mpr ⟨id, found⟩, selected⟩
  rcases terminateAll_frame (event.before.pendingRequests.values.filter
    (fun req => decide (req.state = .waiting) && test req)) event.before with
    ⟨_, _, same, -⟩
  refine ⟨mem, ?_, ?_, ?_⟩
  · rw [finished]
    rfl
  · rw [finished]
    rfl
  · rw [finished, terminateWhere, same]

theorem Event.Terminates.endedAll (terminates : event.Terminates id req)
    (executed : event.before.exec env event.operation = (event.answer, event.after)) :
    ∃ requests, event.EndedAll requests req := by
  rcases terminates with ⟨op, found, waiting, _, left, final⟩
  have moved : event.after.pendingRequests.get id ≠ some req := by
    rw [left, Ne, some.injEq]
    rintro rfl
    rw [waiting] at final
    simp at final
  have finished := congrArg Prod.snd executed
  cases named : event.operation with
  | principalCancelPending other sessionId =>
    rw [named] at finished
    have spec := event.before.principalCancelPending_spec other sessionId
    exact ⟨_, .of_pendingEnded found (finished ▸ moved) spec finished.symm⟩
  | ceremonyDenyPending tuple =>
    rw [named] at finished
    have spec := event.before.ceremonyDenyPending_spec tuple
    exact ⟨_, .of_pendingEnded found (finished ▸ moved) spec finished.symm⟩
  | cleanupExpiredPending | cancelPendingForSession =>
    rw [named] at finished
    exact ⟨_, .of_terminateWhere found moved finished.symm⟩
  | _ =>
    rw [named] at op
    cases op

/-- A denial leaves the intent in some other state, or finds none. -/
theorem IntentStore.Settled.not_pending {store after : IntentStore} {now : Nat} {id : IntentId}
    {result : Except IntentError Unit} {intent : Intent}
    (settled : store.Settled now id .denied result after) (found : after.get id = some intent) :
    intent.state ≠ .pending := by
  cases settled with
  | missing absent =>
    rw [absent] at found
    cases found
  | overdue | moved =>
    rw [IntentStore.get_put, if_pos rfl] at found
    cases found
    exact IntentState.noConfusion
  | refused stored inTime settled =>
    rw [stored] at found
    cases found
    exact settled

namespace PolicyRuntime

variable {intent : Intent} {requests : List PendingPrincipalRequest}

theorem terminateRequest_not_pending (runtime : PolicyRuntime) (req : PendingPrincipalRequest)
    (found : (runtime.terminateRequest req).intents.get req.intentId = some intent) :
    intent.state ≠ .pending :=
  (runtime.intents.deny_spec runtime.clockMillis req.intentId).not_pending found

/-- Whatever is ended in the same sweep, the intent of an ended request is not open. -/
theorem terminateAll_not_pending (mem : req ∈ requests) (runtime : PolicyRuntime)
    (found : (requests.foldl terminateRequest runtime).intents.get req.intentId = some intent) :
    intent.state ≠ .pending := by
  induction requests generalizing runtime with
  | nil => cases mem
  | cons head rest ih =>
    rcases mem_cons.mp mem with rfl | later
    · rw [foldl_cons] at found
      rcases terminateAll_frame rest (runtime.terminateRequest req) with
        ⟨intents, _, same, ended⟩
      rw [same] at found
      have move := ended req.intentId
      rw [found] at move
      generalize stored : (runtime.terminateRequest req).intents.get req.intentId = entry
        at move
      cases move with
      | kept => exact terminateRequest_not_pending runtime req stored
      | expired | denied => exact IntentState.noConfusion
    · exact ih later _ found

theorem terminateAll_closed (mem : req ∈ requests)
    (named : req.grantRequestId = some requestId) (runtime : PolicyRuntime)
    (there : (requests.foldl terminateRequest runtime).grants.get req.profileId =
      some reg) : reg.Closed requestId := by
  induction requests generalizing runtime with
  | nil => cases mem
  | cons head rest ih =>
    rcases mem_cons.mp mem with rfl | later
    · rw [foldl_cons] at there
      have shrinks := RegistryShrinks.of_terminateAll rest req.profileId
        (runtime.terminateRequest req)
      rw [there] at shrinks
      generalize stored : (runtime.terminateRequest req).grants.get req.profileId = entry
        at shrinks
      cases shrinks with
      | @shrunk earlier _ shrinks =>
        apply GrantRegistry.Closed.shrunk _ shrinks
        rw [terminateRequest] at stored
        simp only [named] at stored
        rw [get_modify, if_pos rfl] at stored
        rcases map_eq_some_iff.mp stored with ⟨original, -, rfl⟩
        exact original.terminateRequest_closed requestId
    · exact ih later _ there

end PolicyRuntime

section Termination

variable {before after : PolicyRuntime} (step : Step env before event after)
  (terminates : event.Terminates id req)

include step terminates

/-- Ending the request of a dormant intent exhausts the intent. -/
theorem Event.Terminates.exhausts (dormant : Dormant before req.intentId) :
    Exhausted after req.intentId := by
  rcases terminates.endedAll step.executed with ⟨requests, mem, intents, grants, pending⟩
  rw [step.finished] at intents grants pending
  have notOpen : ∀ intent, after.intents.get req.intentId = some intent ->
      intent.state ≠ .pending := by
    intro intent found
    rw [intents] at found
    exact terminateAll_not_pending mem event.before found
  have unmoved : ∀ intent, after.intents.get req.intentId = some intent ->
      intent.state = .approved ∨ intent.state = .claimed ->
        before.intents.get req.intentId = some intent := by
    intro intent found state
    rcases terminateAll_frame requests event.before with
      ⟨_, _, same, ended⟩
    rw [intents, same] at found
    have move := ended req.intentId
    rw [found] at move
    rw [step.reordered.get_intents]
    generalize event.before.intents.get req.intentId = entry at move
    cases move with
    | kept => rfl
    | expired | denied => rcases state with state | state <;> cases state
  refine ⟨⟨?_, ?_⟩, notOpen⟩
  · intro intent found usable
    exact dormant.unusable intent (unmoved intent found (.inl usable.approved))
      (step.usable_before found usable)
  · intro intent found claimed ceremony auth stored named
    rw [pending, <- step.reordered.get_pending] at stored
    exact dormant.released intent (unmoved intent found (.inr claimed)) claimed ceremony
      auth stored named

theorem Event.Terminates.closes (placed : Placed events before)
    (named : req.grantRequestId = some requestId)
    (undrawn : requestId.fresh ∉ event.operation.drawn) :
    ∀ profileId reg, after.grants.get profileId = some reg ->
      reg.Closed requestId := by
  intro profileId reg there
  by_cases own : profileId = req.profileId
  · subst own
    rcases terminates.endedAll step.executed with ⟨_, mem, _, grants, _⟩
    rw [<- step.finished, grants] at there
    exact terminateAll_closed mem named event.before there
  · intro entry stored
    have present : (reg.pendingRequests.get requestId).isSome = true := by
      rw [stored]
      rfl
    rcases step.request_origin undrawn there present with ⟨earlier, was, held⟩
    have found := terminates.found
    rw [<- step.reordered.get_pendingRequests] at found
    exact absurd (placed.registries id req requestId profileId earlier found named was held) own

end Termination

/-- A closed request stays closed in every continuation. -/
theorem closed_continued
    (started : Started env start events state) (known : requestId.fresh ∈ drawn events)
    (closed : ∀ profileId reg, state.grants.get profileId = some reg ->
      reg.Closed requestId)
    (rest : Executes env state later finish) (fresh : Fresh start (events ++ later)) :
    ∀ profileId reg, finish.grants.get profileId = some reg ->
      reg.Closed requestId := by
  induction rest with
  | nil => exact closed
  | @snoc middle finish earlier last run step ih =>
    rw [<- append_assoc] at fresh
    have prior : Started env start (events ++ earlier) middle :=
      ⟨started.initial, started.run.append run, fresh.shortened⟩
    have still : requestId.fresh ∈ drawn (events ++ earlier) := by
      rw [drawn_append]
      exact mem_append_left _ known
    exact closed_preserved prior.registered fresh step still (ih fresh.shortened)

/-- After the end of a pending request no continuation consumes an authorization on
account of its intent, if the intent was dormant when the request ended; and no grant
that its grant request ever led to is active. -/
theorem ended_request_confers_nothing {env : Env}
    {start state after finish : PolicyRuntime} {events later : List Event} {event : Event}
    {id : PendingRequestId} {req : PendingPrincipalRequest}
    (started : Started env start events state) (step : Step env state event after)
    (terminates : event.Terminates id req) (rest : Executes env after later finish)
    (fresh : Fresh start (events ++ [event] ++ later)) :
    (Dormant state req.intentId -> ∀ other ∈ later, ∀ handle, other.Consumes handle ->
      handle.intentId ≠ some req.intentId) /\
    ∀ requestId profileId grantId, req.grantRequestId = some requestId ->
      Produced (events ++ [event] ++ later) profileId requestId grantId ->
        ∀ reg grant, finish.grants.get profileId = some reg ->
          reg.grants.get grantId = some grant -> grant.state ≠ .active := by
  have placed := started.placed
  have found := terminates.found
  rw [<- step.reordered.get_pendingRequests] at found
  have ended : Started env start (events ++ [event]) after :=
    ⟨started.initial, .snoc started.run step, fresh.shortened⟩
  constructor
  · intro dormant other mem handle consumes
    have known : req.intentId.fresh ∈ drawn (events ++ [event]) :=
      mem_drawn_snoc (placed.intents id req found)
    exact (terminates.exhausts step dormant).confers_nothing known rest fresh mem (.inr consumes)
  · intro requestId profileId grantId named produced reg grant there present active
    have known := placed.grantRequests id req requestId found named
    have undrawn : requestId.fresh ∉ event.operation.drawn :=
      fun now => fresh.shortened.unused now known
    have closed := closed_continued ended (mem_drawn_snoc known)
      (terminates.closes step placed named undrawn) rest fresh profileId reg there
    have finished : Started env start (events ++ [event] ++ later) finish :=
      ⟨started.initial, ended.run.append rest, fresh⟩
    have traced := finished.traced produced reg grant there present active
    rcases resolvedGrantId_some.mp traced with ⟨stored, held, led⟩
    exact (closed stored held).2 grantId grant led present active

namespace Sample

/-- A delegated request whose grant the administrator issued out of turn. -/
def grantedRequest : List Operation :=
  delegatedRequest ++ [.adminApproveGrant ⟨6⟩ ⟨8⟩]

def cancellation : Operation :=
  .principalCancelPending ⟨7⟩ ⟨2⟩

/-- An attempt to go on with a request that was cancelled. -/
def attempt : List Operation :=
  [.authorize ⟨delegatedTuple, true⟩ ⟨9⟩]

def cancelled : PolicyRuntime :=
  (performed sampleEnv (reached sampleEnv start grantedRequest) cancellation).after

/-- A pending request whose intent the administrator approved out of turn. -/
def approvedRequest : List Operation :=
  [.principalCreatePendingIntent ⟨tuple "example.com" none, false, none⟩ ⟨5⟩ ⟨7⟩,
    .adminApproveIntent ⟨5⟩]

def cancelledHandle : AuthorizationHandle :=
  ⟨⟨tuple "example.com" none, none, some ⟨5⟩⟩, ⟨6⟩⟩

end Sample

section Samples

open Sample

/-- The request was cancelled after its grant was issued, and nothing comes of it. -/
theorem ended_request_sample :
    (∀ other ∈ perform sampleEnv cancelled attempt, ∀ handle,
        other.Consumes handle -> handle.intentId ≠ some ⟨5⟩) /\
      ∀ reg grant, (reached sampleEnv cancelled attempt).grants.get ⟨"agent"⟩ = some reg ->
        reg.grants.get ⟨8⟩ = some grant -> grant.state ≠ .active := by
  have started := started grantedRequest (by decide +kernel)
  have longer := Sample.started (grantedRequest ++ [cancellation] ++ attempt) (by decide +kernel)
  have rest := perform_executes sampleEnv attempt cancelled
  let granted := reached sampleEnv start grantedRequest
  have fresh : Fresh start (perform sampleEnv start grantedRequest ++
      [performed sampleEnv granted cancellation] ++ perform sampleEnv cancelled attempt) :=
    longer.fresh
  have step := performed_step sampleEnv granted cancellation
  have waiting : (granted.pendingRequests.get ⟨7⟩).any (fun req =>
      decide (req.state = .waiting /\ req.intentId = ⟨5⟩ /\
        req.grantRequestId = some ⟨6⟩)) = true := by
    decide +kernel
  have closes : (cancelled.pendingRequests.get ⟨7⟩).map PendingPrincipalRequest.state =
      some .cancelled := by
    decide +kernel
  have pending : (granted.intents.get ⟨5⟩).map Intent.state = some .pending := by
    decide +kernel
  have issued : (cancelled.grants.get ⟨"agent"⟩).any
      (fun reg => decide (reg.resolvedGrantId ⟨6⟩ = some ⟨8⟩)) = true := by
    decide +kernel
  rcases (any_eq_true _ _).mp waiting with ⟨req, found, facts⟩
  rcases of_decide_eq_true facts with ⟨isWaiting, intentId, grantRequestId⟩
  rcases map_eq_some_iff.mp closes with ⟨closed, left, isCancelled⟩
  rcases (any_eq_true _ _).mp issued with ⟨reg, there, named⟩
  have terminates : (performed sampleEnv granted cancellation).Terminates ⟨7⟩ req :=
    ⟨.cancel _ _, found, isWaiting, closed, left, .inl isCancelled⟩
  have dormant : Dormant granted req.intentId := by
    rw [intentId]
    rcases map_eq_some_iff.mp pending with ⟨_, stored, isPending⟩
    constructor
    · intro other otherStored usable
      cases stored.symm.trans otherStored
      cases isPending.symm.trans usable.approved
    · intro other otherStored claimed
      cases stored.symm.trans otherStored
      cases isPending.symm.trans claimed
  rcases ended_request_confers_nothing started step terminates rest fresh with ⟨consumes, grants⟩
  rw [intentId] at consumes dormant
  refine ⟨consumes dormant, grants ⟨6⟩ _ ⟨8⟩ grantRequestId ?_⟩
  exact ⟨_, mem_append_left _ (mem_append_right _ mem_cons_self), reg, there,
    of_decide_eq_true named⟩

/-- The principal cancels the request of an approved intent, and an authorization with
the intent is consumed afterwards. -/
theorem cancelled_request_leaves_approved_intent :
    Started sampleEnv start (perform sampleEnv start (approvedRequest ++
        [cancellation, .authorize ⟨tuple "example.com" none, true⟩ ⟨6⟩,
          .consumeAuthorization cancelledHandle]))
      (reached sampleEnv start (approvedRequest ++
        [cancellation, .authorize ⟨tuple "example.com" none, true⟩ ⟨6⟩,
          .consumeAuthorization cancelledHandle])) /\
    (∃ req, (performed sampleEnv (reached sampleEnv start approvedRequest)
        cancellation).Terminates ⟨7⟩ req /\
      cancelledHandle.intentId = some req.intentId) /\
    (performed sampleEnv (reached sampleEnv start (approvedRequest ++
        [cancellation, .authorize ⟨tuple "example.com" none, true⟩ ⟨6⟩]))
      (.consumeAuthorization cancelledHandle)).Consumes cancelledHandle := by
  let approved := reached sampleEnv start approvedRequest
  have waiting : (approved.pendingRequests.get ⟨7⟩).any (fun req =>
      decide (req.state = .waiting /\ req.intentId = ⟨5⟩)) = true := by
    decide +kernel
  have cancelled : ((performed sampleEnv approved cancellation).after.pendingRequests.get ⟨7⟩).map
      PendingPrincipalRequest.state = some .cancelled := by
    decide +kernel
  rcases (any_eq_true _ _).mp waiting with ⟨req, found, facts⟩
  rcases of_decide_eq_true facts with ⟨isWaiting, intentId⟩
  rcases map_eq_some_iff.mp cancelled with ⟨closed, left, isCancelled⟩
  refine ⟨started _ (by decide +kernel), ⟨req, ?_, by rw [intentId]; rfl⟩, ?_⟩
  · exact ⟨.cancel _ _, found, isWaiting, closed, left, .inl isCancelled⟩
  · exact ⟨rfl, ⟨⟨⟨"agent"⟩, .authenticate, "example.com", none, false⟩, by decide +kernel⟩⟩

end Samples

end ControlVault.Engine
