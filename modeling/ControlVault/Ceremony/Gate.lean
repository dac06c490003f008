import ControlVault.Ceremony.Endpoint
import ControlVault.Engine.Scenario

namespace ControlVault.Ceremony

open Foundation Core Engine Storage ParsedCeremonyRequest Engine.Sample List Moment

/-!
# The gate before the authenticator

A ceremony reaches the authenticator only behind a preparation for the same action and relying
party, a rule that does not deny it, the user's approval where the rule asks for one, two entries
of the log and a consumed authorization.  The record of a command shows these in the order in which
they happen, and the storage scope is active at no other moment than the call itself.
-/

variable {payload : Bytes} {env : Env} {ctx : StaticCeremonyContext}

abbrev Record :=
  List (Moment × Option ActiveCeremony)

/-- Moments while no ceremony was active in the scope. -/
def asleep (moments : List Moment) : Record :=
  moments.map (fun moment => (moment, none))

def NoCall (moments : List Moment) : Prop :=
  ∀ payload, .inner payload ∉ moments

/-- Nothing was given to the authenticator, and the scope stayed idle. -/
structure Kept (record : Record) (after : Endpoint) : Prop where
  idle : after.scope.active = none
  shown : ∃ moments, NoCall moments /\ after.record = record ++ asleep moments

/-- One call of the authenticator, after the given moments and during the given ceremony. -/
structure Forwarded (record : Record) (moments : List Moment) (payload : Bytes)
    (ceremony : ActiveCeremony) (after : Endpoint) : Prop where
  idle : after.scope.active = none
  shown : ∃ ending, NoCall ending /\
    after.record = record ++ asleep moments ++ (.inner payload, some ceremony) :: asleep ending

theorem asleep_cons (moment : Moment) (moments : List Moment) :
    asleep (moment :: moments) = [(moment, none)] ++ asleep moments :=
  rfl

theorem noCall_nil : NoCall [] := by
  intro payload
  exact not_mem_nil

variable {moment : Moment} {moments : List Moment} {after endpoint : Endpoint}

theorem NoCall.cons (other : ∀ payload, moment ≠ .inner payload) (rest : NoCall moments) :
    NoCall (moment :: moments) := by
  intro payload mem
  rcases mem_cons.mp mem with same | later
  · exact other payload same.symm
  · exact rest payload later

theorem Kept.of_same {record : Record} (idle : after.scope.active = none)
    (same : after.record = record) : Kept record after :=
  ⟨idle, [], noCall_nil, by rw [same, asleep, map_nil, append_nil]⟩

theorem Kept.earlier (other : ∀ payload, moment ≠ .inner payload)
    (idle : endpoint.scope.active = none) (kept : Kept (endpoint.observe moment).record after) :
    Kept endpoint.record after := by
  rcases kept with ⟨still, moments, noCall, shown⟩
  refine ⟨still, moment :: moments, .cons other noCall, ?_⟩
  rw [shown, asleep_cons, Endpoint.observe, idle, append_assoc]

variable {ceremony : ActiveCeremony} {handle : AuthorizationHandle} {uvEnforced : Bool}

theorem Forwarded.earlier (idle : endpoint.scope.active = none)
    (forwarded : Forwarded (endpoint.observe moment).record moments payload ceremony after) :
    Forwarded endpoint.record (moment :: moments) payload ceremony after := by
  rcases forwarded with ⟨still, ending, noCall, shown⟩
  refine ⟨still, ending, noCall, ?_⟩
  rw [shown, asleep_cons, Endpoint.observe, idle, <- append_assoc]

/-! ## What the stages record -/

/-- The scope that a ceremony runs in. -/
structure ScopeFor (tuple : CeremonyTuple) (ceremony : ActiveCeremony) : Prop where
  action : scopeAction tuple = some ceremony.action
  rpId : ceremony.rpId = tuple.rpId.canonical

/-- The authorization that was made and consumed for a tuple. -/
def Consumed (env : Env) (runtime : PolicyRuntime) (tuple : CeremonyTuple)
    (handle : AuthorizationHandle) : Prop :=
  ∃ freshGrant bound resolved uvEnforced freshCeremony decision authorized info finished,
    runtime.ceremonyResolvePending env tuple freshGrant = (.ok bound, resolved) /\
      resolved.authorizeBound env bound ⟨tuple, uvEnforced⟩ freshCeremony =
        ((decision, some handle), authorized) /\
      authorized.consumeAuthorization handle = (.ok info, finished)

/-- The user's part in a ceremony, where the rule gives the user one. -/
def confirmation (policy : AgentCeremonyPolicy) : List Moment :=
  if policy.authorization = .confirm then
    [.audited .promptDisplay, .prompted .approved, .audited .promptDecision]
  else []

def authorized (handle : AuthorizationHandle) : List Moment :=
  [.audited .policyAllow, .audited .ceremonyStart, .consumed handle]

namespace Endpoint

variable {world : Environment} {gen : Nat} {tuple : CeremonyTuple}

theorem forward_record (active : endpoint.scope.active = some ceremony) :
    Forwarded endpoint.record [] payload ceremony
      (endpoint.forward world payload gen ceremony.generation).2 := by
  have dropped : (endpoint.scope.drop ceremony.generation).active = none := by
    rw [CeremonyScope.drop, active, Option.filter_some, if_neg (by simp)]
  have called : (endpoint.observe (.inner payload)).record =
      endpoint.record ++ asleep [] ++ (.inner payload, some ceremony) :: asleep [] := by
    rw [observe, active, asleep, map_nil, append_nil]
  have plain : ∀ after : Endpoint, after.scope = endpoint.scope.drop ceremony.generation ->
      after.record = (endpoint.observe (.inner payload)).record ->
      Forwarded endpoint.record [] payload ceremony after := by
    intro after scope record
    exact ⟨by rw [scope, dropped], [], noCall_nil, record.trans called⟩
  unfold forward
  cases world.inner with
  | failed | empty | refused => exact plain _ rfl rfl
  | answered parsed =>
    cases parsed with
    | error error => exact plain _ rfl rfl
    | ok _ =>
      rcases audit_cases ((endpoint.observe (.inner payload)).dropGuard ceremony.generation)
        world .ceremonySuccess with ⟨_, missing⟩ | ⟨_, written⟩
      · simp only [missing]
        exact plain _ rfl rfl
      · simp only [written]
        refine ⟨dropped, [.audited .ceremonySuccess],
          .cons (fun _ => Moment.noConfusion) noCall_nil, ?_⟩
        change (endpoint.observe (.inner payload)).record ++
          [(.audited .ceremonySuccess, (endpoint.scope.drop ceremony.generation).active)] = _
        rw [called, dropped, append_assoc]
        rfl

section

variable (idle : endpoint.scope.active = none)

include idle

theorem activateScope_record :
    Kept endpoint.record (endpoint.activateScope world payload gen tuple).2 ∨
      ∃ ceremony, ScopeFor tuple ceremony /\ Forwarded endpoint.record [] payload ceremony
          (endpoint.activateScope world payload gen tuple).2 := by
  unfold activateScope
  cases named : scopeAction tuple with
  | none => exact .inl (.of_same idle rfl)
  | some action =>
    rcases endpoint.scope.activate_cases action tuple.rpId with ⟨_, failed⟩ | succeeded
    · simp only [failed]
      exact .inl (.of_same idle rfl)
    · simp only [succeeded]
      let begun : Endpoint :=
        { endpoint with scope := endpoint.scope.start action tuple.rpId.canonical }
      have active : begun.scope.active =
          some ⟨action, tuple.rpId.canonical, endpoint.scope.generation + 1⟩ := rfl
      exact .inr ⟨_, ⟨named, rfl⟩, forward_record active⟩

theorem consume_record :
    Kept endpoint.record (endpoint.consume world payload gen tuple handle).2 ∨
      ∃ info finished ceremony,
        endpoint.policyRuntime.consumeAuthorization handle = (.ok info, finished) /\
          ScopeFor tuple ceremony /\
          Forwarded endpoint.record (authorized handle) payload ceremony
            (endpoint.consume world payload gen tuple handle).2 := by
  have allowed : ∀ payload, audited .policyAllow ≠ .inner payload :=
    fun _ => Moment.noConfusion
  have started : ∀ payload, audited .ceremonyStart ≠ .inner payload :=
    fun _ => Moment.noConfusion
  have taken : ∀ payload, consumed handle ≠ .inner payload :=
    fun _ => Moment.noConfusion
  unfold consume
  rcases audit_cases endpoint world .policyAllow with ⟨_, missing⟩ | ⟨_, written⟩
  · simp only [missing]
    exact .inl (.of_same idle rfl)
  · simp only [written]
    split
    · exact .inl (.earlier allowed idle (.of_same idle rfl))
    · rcases audit_cases (endpoint.observe (.audited .policyAllow)) world .ceremonyStart with
        ⟨_, missing⟩ | ⟨_, written⟩
      · simp only [missing]
        exact .inl (.earlier allowed idle (.of_same idle rfl))
      · simp only [written, observe_state]
        cases consumption : endpoint.policyRuntime.consumeAuthorization handle with
        | mk outcome finished =>
          cases outcome with
          | error reason =>
            exact .inl (.earlier allowed idle (.earlier started idle (.of_same idle rfl)))
          | ok info =>
            let ready := (((endpoint.observe (.audited .policyAllow)).observe
              (.audited .ceremonyStart)).withPolicy finished).observe (.consumed handle)
            have stage : ready.scope.active = none := idle
            rcases activateScope_record stage with kept | ⟨ceremony, scope, forwarded⟩
            · exact .inl (.earlier allowed idle (.earlier started idle (.earlier taken idle kept)))
            · exact .inr ⟨info, finished, ceremony, rfl, scope, .earlier idle (.earlier idle
                (.earlier idle forwarded))⟩

theorem authorize_record :
    Kept endpoint.record
        (endpoint.authorize env world payload gen tuple uvEnforced).2 ∨
      ∃ handle ceremony, Consumed env endpoint.policyRuntime tuple handle /\
        ScopeFor tuple ceremony /\
        Forwarded endpoint.record (authorized handle) payload ceremony
          (endpoint.authorize env world payload gen tuple uvEnforced).2 := by
  unfold authorize
  cases resolution : endpoint.policyRuntime.ceremonyResolvePending env tuple
      world.freshGrant with
  | mk outcome resolved =>
    cases outcome with
    | error error => exact .inl (.of_same idle rfl)
    | ok bound =>
      dsimp only
      cases auth : resolved.authorizeBound env bound ⟨tuple, uvEnforced⟩
          world.freshCeremony with
      | mk answer authorized =>
        rcases answer with ⟨⟨verdict, _, _⟩, handle⟩
        cases verdict with
        | deny => exact .inl (.of_same idle rfl)
        | allow =>
          cases handle with
          | none => exact .inl (.of_same idle rfl)
          | some handle =>
            have stage : (endpoint.withPolicy authorized).scope.active = none := idle
            rcases consume_record stage with
              kept | ⟨_, _, ceremony, consumption, scope, forwarded⟩
            · exact .inl kept
            · exact .inr ⟨handle, ceremony,
                ⟨_, _, _, _, _, _, _, _, _, resolution, auth, consumption⟩,
                scope, forwarded⟩

theorem decided_record :
    Kept endpoint.record (endpoint.decided env world payload gen tuple uvEnforced).2 ∨
      world.prompt = .approved /\
        ∃ handle ceremony, Consumed env endpoint.policyRuntime tuple handle /\
          ScopeFor tuple ceremony /\
          Forwarded endpoint.record (.audited .promptDecision :: authorized handle) payload ceremony
            (endpoint.decided env world payload gen tuple uvEnforced).2 := by
  have noted : ∀ payload, audited .promptDecision ≠ .inner payload :=
    fun _ => Moment.noConfusion
  unfold decided
  rcases audit_cases endpoint world .promptDecision with ⟨_, missing⟩ | ⟨_, written⟩
  · simp only [missing]
    exact .inl (.of_same idle rfl)
  · simp only [written]
    split
    next approved =>
      have stage : (endpoint.observe (.audited .promptDecision)).scope.active = none := idle
      rcases authorize_record stage with kept | ⟨handle, ceremony, consumed, scope, forwarded⟩
      · exact .inl (.earlier noted idle kept)
      · exact .inr ⟨approved, handle, ceremony, consumed, scope, .earlier idle forwarded⟩
    · exact .inl (.earlier noted idle (.of_same idle rfl))

theorem confirm_record {policy : AgentCeremonyPolicy} :
    Kept endpoint.record
        (endpoint.confirm env world payload gen tuple policy uvEnforced).2 ∨
      policy.authorization ≠ .deny /\
        ∃ handle ceremony, Consumed env endpoint.policyRuntime tuple handle /\
          ScopeFor tuple ceremony /\
          Forwarded endpoint.record (confirmation policy ++ authorized handle) payload ceremony
            (endpoint.confirm env world payload gen tuple policy uvEnforced).2 := by
  unfold confirm confirmation
  cases policy.authorization with
  | allow =>
    rcases authorize_record idle with kept | forwarded
    · exact .inl kept
    · exact .inr ⟨AgentAuthorization.noConfusion, forwarded⟩
  | deny =>
    rcases audit_cases endpoint world .policyDeny with ⟨_, missing⟩ | ⟨_, written⟩
    · simp only [missing]
      exact .inl (.of_same idle rfl)
    · simp only [written]
      exact .inl (.earlier (fun _ => Moment.noConfusion) idle (.of_same idle rfl))
  | confirm =>
    have shown : ∀ payload, audited .promptDisplay ≠ .inner payload :=
      fun _ => Moment.noConfusion
    have asked : ∀ payload, prompted world.prompt ≠ .inner payload :=
      fun _ => Moment.noConfusion
    dsimp only
    split
    · exact .inl (.of_same idle rfl)
    · rcases audit_cases endpoint world .promptDisplay with ⟨_, missing⟩ | ⟨_, written⟩
      · simp only [missing]
        exact .inl (.of_same idle rfl)
      · simp only [written]
        let prompted := (endpoint.observe (.audited .promptDisplay)).observe
          (.prompted world.prompt)
        have stage : prompted.scope.active = none := idle
        rcases decided_record stage with
          kept | ⟨approved, handle, ceremony, consumed, scope, forwarded⟩
        · exact .inl (.earlier shown idle (.earlier asked idle kept))
        · have order := Forwarded.earlier idle (Forwarded.earlier idle forwarded)
          rw [approved] at order
          exact .inr ⟨AgentAuthorization.noConfusion, handle, ceremony, consumed, scope, order⟩

end

end Endpoint

/-! ## The whole handler -/

/-- What stands behind a ceremony that reached the authenticator. -/
structure Gate (env : Env) (state : CeremonyState) (ctx : StaticCeremonyContext)
    (payload : Bytes) (preparation : CeremonyPreparation) (req : ParsedCeremonyRequest)
    (policy : AgentCeremonyPolicy) (handle : AuthorizationHandle) (ceremony : ActiveCeremony) :
    Prop where
  prepared : ∃ gen, state.preparationSlot.preparation = some (preparation, gen)
  parsed : parseCeremonyRequest env payload = .ok req
  action : preparation.action = req.action
  rpId : preparation.rpId.canonical = req.rpId.canonical
  rule : state.policyRuntime.ceremonyPolicy env ctx.profileId preparation.policyGeneration
    preparation.policyDigest preparation.rpId preparation.action = some policy
  permitted : policy.authorization ≠ .deny
  consumed : Consumed env state.policyRuntime (CeremonyState.ceremonyTuple ctx preparation
      (req.credentialRef.or preparation.credentialRef)) handle
  profile : handle.profileId = ctx.profileId
  authorizedAction : handle.action = req.action
  authorizedRpId : handle.rpId = req.rpId.canonical
  credential : ∀ rpId allowRefs, req = .getAssertion rpId allowRefs ->
    ∃ ref, allowRefs = [ref] /\ handle.credentialRef = some ref /\
      ceremony.action = .authenticate ref
  registration : ∀ rpId, req = .makeCredential rpId ->
    handle.credentialRef = preparation.credentialRef /\ ceremony.action = .register
  scopeRpId : ceremony.rpId = req.rpId.canonical

theorem Consumed.tuple {runtime : PolicyRuntime} {tuple : CeremonyTuple}
    (consumed : Consumed env runtime tuple handle) :
    handle.toCeremonyTuple = tuple.normalized := by
  rcases consumed with ⟨freshGrant, bound, resolved, uvEnforced, freshCeremony, _, _,
    _, _, resolution, auth, -⟩
  have bounded : bound.toCeremonyTuple = tuple.normalized := by
    have spec := runtime.ceremonyResolvePending_spec env tuple freshGrant
    rw [resolution] at spec
    cases spec with
    | resolved selected checks approval grant =>
      exact (PolicyRuntime.uniqueWaiting_ok selected).2.2.1
  have spec := resolved.authorizeBound_spec env bound ⟨tuple, uvEnforced⟩ freshCeremony
  rw [auth] at spec
  cases spec with
  | opened | openedWithGrant => exact bounded

/-- An assertion that passes the check and names a credential names exactly one. -/
theorem ParsedCeremonyRequest.single {rpId : Text} {allowRefs : List CredentialRef}
    {expected : Option CredentialRef} {ref : CredentialRef}
    (only : (getAssertion rpId allowRefs).allowsOnly expected = true)
    (named : (getAssertion rpId allowRefs).credentialRef.or expected =
      some ref) : allowRefs = [ref] := by
  cases expected with
  | some prepared =>
    have same : allowRefs = [prepared] := by simpa [allowsOnly] using only
    subst same
    cases named
    rfl
  | none =>
    unfold credentialRef at named
    split at named
    next first same =>
      cases same
      cases named
      rfl
    · cases named

namespace Endpoint

variable {world : Environment}

theorem compare_record {preparation : CeremonyPreparation} {gen : Nat}
    {req : ParsedCeremonyRequest} (idle : endpoint.scope.active = none)
    (prepared : endpoint.preparationSlot.preparation = some (preparation, gen))
    (parsed : parseCeremonyRequest env payload = .ok req) :
    Kept endpoint.record (endpoint.compare env ctx world payload preparation
        gen req).2 ∨
      ∃ policy handle ceremony,
        Gate env endpoint.toCeremonyState ctx payload preparation req policy handle ceremony /\
          Forwarded endpoint.record (confirmation policy ++ authorized handle) payload ceremony
            (endpoint.compare env ctx world payload preparation gen
              req).2 := by
  unfold compare
  split
  · exact .inl (.of_same idle rfl)
  next action =>
    split
    · exact .inl (.of_same idle rfl)
    next rpId =>
      cases rule : endpoint.policyRuntime.ceremonyPolicy env ctx.profileId
          preparation.policyGeneration preparation.policyDigest preparation.rpId
          preparation.action with
      | none => exact .inl (.of_same idle rfl)
      | some policy =>
        dsimp only
        split
        · exact .inl (.of_same idle rfl)
        next only =>
          rcases confirm_record idle with
            kept | ⟨permitted, handle, ceremony, consumed, scope, forwarded⟩
          · exact .inl kept
          · refine .inr ⟨policy, handle, ceremony, ?_, forwarded⟩
            rw [not_not] at action rpId
            rw [Bool.not_eq_true', Bool.not_eq_false] at only
            have carried := consumed.tuple
            have cred : handle.credentialRef = req.credentialRef.or preparation.credentialRef :=
              congrArg CeremonyTuple.credentialRef carried
            exact
              { prepared := ⟨gen, prepared⟩
                parsed
                action
                rpId
                rule
                permitted
                consumed
                profile := congrArg CeremonyTuple.profileId carried
                authorizedAction := (congrArg CeremonyTuple.action carried).trans action
                authorizedRpId := (congrArg CeremonyTuple.rpId carried).trans rpId
                credential := by
                  rintro name allowRefs rfl
                  have selected := scope.action
                  rw [scopeAction, CeremonyState.ceremonyTuple, action] at selected
                  split at selected
                  · contradiction
                  · cases selected
                  next ref _ named =>
                    exact ⟨ref, single only named,
                      cred.trans named, (Option.some.inj selected).symm⟩
                registration := by
                  rintro name rfl
                  have selected := scope.action
                  rw [CeremonyState.ceremonyTuple, action] at selected
                  exact ⟨cred, (Option.some.inj selected).symm⟩
                scopeRpId := scope.rpId.trans rpId }

theorem handleCeremonyCommand_record (idle : endpoint.scope.active = none) :
    Kept endpoint.record (endpoint.handleCeremonyCommand env ctx world payload).2 ∨
      ∃ preparation req policy handle ceremony,
        Gate env endpoint.toCeremonyState ctx payload preparation req policy handle ceremony /\
          Forwarded endpoint.record (confirmation policy ++ authorized handle) payload ceremony
            (endpoint.handleCeremonyCommand env ctx world payload).2 := by
  unfold handleCeremonyCommand
  rcases prepared : endpoint.preparationSlot.preparation with _ | ⟨preparation, _⟩
  · exact .inl (.of_same idle rfl)
  · cases parsed : parseCeremonyRequest env payload with
    | error error => exact .inl (.of_same idle rfl)
    | ok req =>
      rcases compare_record idle prepared parsed with kept | ⟨policy, handle, ceremony, found⟩
      · exact .inl kept
      · exact .inr ⟨preparation, req, policy, handle, ceremony, found⟩

end Endpoint

/-- A command that makes a credential or an assertion. -/
def IsCeremony (payload : Bytes) : Prop :=
  ∃ byte data, payload = byte :: data /\
    (decodeCommand byte = .makeCredential ∨ decodeCommand byte = .getAssertion)

theorem classifyCommand_ceremony :
    classifyCommand byte = .ceremony <->
      decodeCommand byte = .makeCredential ∨ decodeCommand byte = .getAssertion := by
  unfold classifyCommand
  cases decodeCommand byte with
  | makeCredential | getAssertion => simp
  | _ => simp

/-- An endpoint in a running daemon.  Between two commands the other parts of the daemon may do
anything to the policy runtime and the slot; the scope belongs to the endpoint. -/
inductive Reached (env : Env) (ctx : StaticCeremonyContext) : Endpoint -> Prop
  | fresh (state : CeremonyState) : Reached env ctx ⟨state, .new, []⟩
  | changed {endpoint : Endpoint} (state : CeremonyState) :
      Reached env ctx endpoint ->
        Reached env ctx { endpoint with toCeremonyState := state }
  | handled {endpoint : Endpoint} (world : Environment) (cmd : Cmd) (payload : Bytes) :
      Reached env ctx endpoint ->
        Reached env ctx (endpoint.handleCommand env ctx world cmd payload).2

/-- How a command can look from outside. -/
inductive CommandSeen (env : Env) (state : CeremonyState)
    (ctx : StaticCeremonyContext) (payload : Bytes) (after : Endpoint) : Prop
  | kept (kept : Kept [] after)
  | harmless (idle : after.scope.active = none) (other : ¬IsCeremony payload)
      (shown : after.record = asleep [.inner payload])
  | gated {handle : AuthorizationHandle} {ceremony : ActiveCeremony}
      (isCeremony : IsCeremony payload)
      (gate : Gate env state ctx payload preparation req policy handle ceremony)
      (forwarded : Forwarded [] (confirmation policy ++ authorized handle) payload ceremony after)

namespace Endpoint

theorem handleCommand_seen (idle : endpoint.scope.active = none) (world : Environment)
    (cmd : Cmd) (payload : Bytes) :
    CommandSeen env endpoint.toCeremonyState ctx payload
      (endpoint.handleCommand env ctx world cmd payload).2 := by
  unfold handleCommand
  dsimp only
  split
  · exact .kept (.of_same idle rfl)
  · exact .kept (.of_same idle rfl)
  next byte data =>
    split
    · exact .kept (.of_same idle rfl)
    · exact .kept (.of_same idle rfl)
    next harmless =>
      refine .harmless idle ?_ (by rw [observe, idle]; rfl)
      rintro ⟨first, rest, same, named⟩
      cases same
      rw [classifyCommand_ceremony.mpr named] at harmless
      cases harmless
    next ceremony =>
      let started : Endpoint := { endpoint with record := [] }
      have stage : started.scope.active = none := idle
      rcases handleCeremonyCommand_record stage with
        kept | ⟨_, _, _, _, _, gate, forwarded⟩
      · exact .kept kept
      · exact .gated ⟨byte, data, rfl, classifyCommand_ceremony.mp ceremony⟩ gate forwarded

end Endpoint

theorem CommandSeen.idle
    (seen : CommandSeen env state ctx payload after) : after.scope.active = none := by
  cases seen with
  | kept kept => exact kept.idle
  | harmless idle other shown => exact idle
  | gated isCeremony gate forwarded => exact forwarded.idle

theorem Reached.idle (reached : Reached env ctx endpoint) : endpoint.scope.active = none := by
  induction reached with
  | fresh state => rfl
  | changed state reached ih => exact ih
  | handled world cmd payload reached ih =>
    exact (Endpoint.handleCommand_seen ih world cmd payload).idle

theorem mem_asleep (mem : entry ∈ asleep moments) : entry.1 ∈ moments /\ entry.2 = none := by
  rcases mem_map.mp mem with ⟨_, found, rfl⟩
  exact ⟨found, rfl⟩

theorem noCall_steps (policy : AgentCeremonyPolicy) (handle : AuthorizationHandle) :
    NoCall (confirmation policy ++ authorized handle) := by
  intro payload mem
  unfold confirmation authorized at mem
  split at mem
  · simp at mem
  · simp at mem

/-- At every moment of a command the scope is idle and no ceremony is given away, or the command is
a ceremony that passed the gate and is given away. -/
theorem CommandSeen.entry {state : CeremonyState} {after : Endpoint}
    (seen : CommandSeen env state ctx payload after)
    {entry : Moment × Option ActiveCeremony} (mem : entry ∈ after.record) :
    (entry.2 = none /\ ∀ sent, entry.1 = .inner sent -> ¬IsCeremony sent) ∨
      IsCeremony payload /\ ∃ preparation req policy handle ceremony ending,
          entry = (.inner payload, some ceremony) /\
            Gate env state ctx payload preparation req policy handle ceremony /\
            after.record = asleep (confirmation policy ++ authorized handle) ++
              (.inner payload, some ceremony) :: asleep ending := by
  have quiet : ∀ moments, entry ∈ asleep moments -> NoCall moments ->
      entry.2 = none /\ ∀ sent, entry.1 = .inner sent -> ¬IsCeremony sent := by
    intro moments found noCall
    rcases mem_asleep found with ⟨moment, idle⟩
    refine ⟨idle, ?_⟩
    intro sent same
    exact absurd (same ▸ moment) (noCall sent)
  cases seen with
  | kept kept =>
    rcases kept.shown with ⟨moments, noCall, record⟩
    rw [record] at mem
    exact .inl (quiet moments mem noCall)
  | harmless idle other shown =>
    rw [shown] at mem
    rcases mem_asleep mem with ⟨moment, idle⟩
    refine .inl ⟨idle, ?_⟩
    intro sent same
    rw [mem_singleton.mp moment] at same
    cases same
    exact other
  | @gated preparation req policy handle ceremony isCeremony gate forwarded =>
    rcases forwarded.shown with ⟨ending, noCall, record⟩
    rw [record] at mem
    rcases mem_append.mp mem with before | later
    · exact .inl (quiet _ before (noCall_steps policy handle))
    · rcases mem_cons.mp later with call | final
      · exact .inr ⟨isCeremony, preparation, req, policy, handle, ceremony, ending, call, gate,
          record⟩
      · exact .inl (quiet ending final noCall)

/-- In a running daemon, an endpoint that gives a ceremony to the authenticator has passed the gate
in the same command, and the storage scope is active at that moment and at no other. -/
theorem ceremony_passes_gate {env : Env} {ctx : StaticCeremonyContext}
    {endpoint : Endpoint} (reached : Reached env ctx endpoint) (world : Environment)
    (cmd : Cmd) (payload : Bytes) :
    let after := (endpoint.handleCommand env ctx world cmd payload).2
    endpoint.scope.active = none /\ after.scope.active = none /\ ∀ entry ∈ after.record,
        (entry.2.isSome = true <-> ∃ sent, entry.1 = .inner sent /\ IsCeremony sent) /\
          ∀ sent, entry.1 = .inner sent -> IsCeremony sent ->
            sent = payload /\
              ∃ preparation req policy handle ceremony ending, entry.2 = some ceremony /\
                  Gate env endpoint.toCeremonyState ctx payload preparation req policy
                    handle ceremony /\
                  after.record = asleep (confirmation policy ++
                      [.audited .policyAllow, .audited .ceremonyStart, .consumed handle]) ++
                    (.inner payload, some ceremony) :: asleep ending := by
  intro after
  have seen : CommandSeen env endpoint.toCeremonyState ctx payload after :=
    Endpoint.handleCommand_seen reached.idle world cmd payload
  refine ⟨reached.idle, seen.idle, ?_⟩
  intro entry mem
  rcases seen.entry mem with ⟨idle, other⟩ |
    ⟨isCeremony, preparation, req, policy, handle, ceremony, ending, rfl, gate, record⟩
  · constructor
    · constructor
      · intro active
        rw [idle] at active
        cases active
      · rintro ⟨sent, same, isCeremony⟩
        exact absurd isCeremony (other sent same)
    · intro sent same isCeremony
      exact absurd isCeremony (other sent same)
  · constructor
    · exact ⟨fun _ => ⟨payload, rfl, isCeremony⟩, fun _ => rfl⟩
    · intro sent same _
      cases same
      exact ⟨rfl, preparation, req, policy, handle, ceremony, ending, rfl, gate, record⟩

namespace Sample

/-- An assertion at `example.com` that allows one credential. -/
def assertion : Bytes :=
  [0x02, 0xa3, 0x01, 0x6b] ++ Text.utf8 "example.com" ++
    [0x02, 0x41, 0x00, 0x03, 0x81, 0xa2, 0x62] ++ Text.utf8 "id" ++
    [0x41, 0x07, 0x64] ++ Text.utf8 "type" ++ [0x6a] ++ Text.utf8 "public-key"

/-- The decoder knows the assertion. -/
def decoding : Env :=
  { sampleEnv with
    readCbor := fun data =>
      if data = assertion.tail then
        some (.map [(.integer 1, .text "example.com"), (.integer 2, .byteString [0x00]),
          (.integer 3, .array [.map [(.text "id", .byteString [0x07]),
            (.text "type", .text "public-key")]])], [])
      else none }

def allowed : CredentialRef :=
  .withDefaultDomain decoding [0x07]

/-- What the principal asked for. -/
def asked : CreateIntentParams :=
  { uniformTuple "example.com" (some allowed) with
    requireUv := false
    ttlMs := none }

/-- The request waits with its preparation in the slot. -/
def prepared : CeremonyState where
  policyRuntime := (uniform.principalCreatePendingIntent asked ⟨10⟩ ⟨11⟩).2
  preparationSlot :=
    { preparation := some (
         { sessionId := asked.sessionId
           processDigest := asked.processDigest
           policyGeneration := asked.policyGeneration
           policyDigest := asked.policyDigest
           credentialRef := asked.credentialRef
           rpId := asked.rpId
           action := asked.action
           requireUv := false }, 1)
      generationCounter := 1 }

def endpointContext : StaticCeremonyContext where
  profileId := asked.profileId
  endpointId := asked.endpointId
  requireUv := false

def approving : Environment where
  promptBuilds := true
  prompt := .approved
  auditAccepts := fun _ => true
  inner := .answered (.ok ())
  freshGrant := ⟨12⟩
  freshCeremony := ⟨13⟩

def atWork : Endpoint :=
  ⟨prepared, .new, []⟩

/-- The endpoint after the assertion. -/
def asserted : Endpoint :=
  (atWork.handleCommand decoding endpointContext approving .cbor assertion).2

/-- An approved assertion reaches the authenticator. -/
theorem approved_assertion_gated :
    ∃ preparation req policy handle ceremony ending,
      ceremony = ⟨.authenticate allowed, "example.com", 1⟩ /\
        Gate decoding prepared endpointContext assertion preparation req policy
          handle ceremony /\
        asserted.record = asleep (confirmation policy ++
            [.audited .policyAllow, .audited .ceremonyStart, .consumed handle]) ++
          (.inner assertion, some ceremony) :: asleep ending := by
  unfold asserted
  have called : (inner assertion,
      some (⟨.authenticate allowed, "example.com", 1⟩ : ActiveCeremony)) ∈
        (atWork.handleCommand decoding endpointContext approving .cbor assertion).2.record := by
    decide +kernel
  have reached : Reached decoding endpointContext atWork := .fresh prepared
  have passed := ceremony_passes_gate reached approving .cbor assertion
  rcases (passed.2.2 _ called).2 assertion rfl ⟨0x02, _, rfl, .inr rfl⟩ with
    ⟨-, preparation, req, policy, handle, ceremony, ending, same, gate, record⟩
  exact ⟨preparation, req, policy, handle, ceremony, ending, (Option.some.inj same).symm, gate,
    record⟩

end Sample

end ControlVault.Ceremony
