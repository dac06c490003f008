import ControlVault.Broker.Releases
import ControlVault.Foundation.Workers

namespace ControlVault.Broker

open Foundation Core Engine Browser Storage BrokerState

/-!
# Calls of `sign` on several threads

The handlers of several profiles share a credential store and its mutex; each
handler has an operation mutex besides.  A call takes the operation mutex once
the origin is verified, takes the storage mutex once the grant and the rule allow
the request, and keeps both to its end.

A stage below is a piece of such a call.  The journal lists, in order, what the
calls did that stays or leaves the daemon: the audit records of permitted
requests, the credentials written, the signatures made and the assertions
released.  `conduct_sign` compares the stages of one thread with the sequential
`sign`, and `journal_of_releases` says what a released assertion leaves in the
journal.
-/

inductive SignLock
  | operation (handler : Nat)
  | storage
  deriving DecidableEq

/-- A call, and what the outside world answers during it. -/
structure SignCall where
  handler : Nat
  security : SecurityConfig
  occasion : Occasion
  now : Nat
  entry : LeaseEntry
  request : SignAssertionRequest

inductive SignAct
  | allowed (profileId : ProfileId) (rpId : Text) (policy : AgentCeremonyPolicy)
  | wrote (cred : Credential)
  | signed (cred : Credential) (input : Bytes)
  | released (id : CredentialId) (response : SignAssertionResponse)

/-- What the threads share. -/
structure SignShared where
  policyRuntime : PolicyRuntime
  browserManager : BrowserProcessManager
  store : LocalStorageAdapter
  journal : List SignAct

def SignShared.note (shared : SignShared) (acts : List SignAct) : SignShared :=
  { shared with journal := shared.journal ++ acts }

inductive SignStage
  | checking (call : SignCall)
  | resolving (call : SignCall)
  | choosing (call : SignCall) (grant : Grant) (policy : AgentCeremonyPolicy)
  | reading (call : SignCall) (policy : AgentCeremonyPolicy) (id : CredentialId)
  | counting (call : SignCall) (policy : AgentCeremonyPolicy) (cred : Credential)
  | signing (call : SignCall) (policy : AgentCeremonyPolicy) (cred : Credential) (signCount : Nat)
  | activating (call : SignCall) (cred : Credential) (response : SignAssertionResponse)
  | finished (result : Except ProtocolError SignAssertionResponse)
  /-- The rest of the daemon changes grants and browsers meanwhile. -/
  | tending (policyRuntime : PolicyRuntime) (browserManager : BrowserProcessManager)
  | tended

/-- What `sign` passes to the key provider. -/
def signatureInput (env : Env) (keys : KeyBackend) (policy : AgentCeremonyPolicy)
    (req : SignAssertionRequest) (cred : Credential) (signCount : Nat) : Bytes :=
  buildAuthenticatorData env req.rpId.canonical (vouches policy.userPresence)
      (vouches policy.userVerification) (keys.backupFlags cred.backupState) signCount ++
    bytesOf (env.sha256 (buildClientDataJson req.origin req.challengeB64u
      req.crossOrigin req.topOrigin))

/-- What the journal says about counting a use. -/
def countActs (security : SecurityConfig) (cred : Credential) (signCount : Nat) :
    List SignAct :=
  if security.constantSignatureCounter || !cred.discoverable then []
  else [.wrote { cred with signCount }]

namespace SignCall

/-- The guards are dropped at the end of the call, the last one first. -/
def dropBoth (call : SignCall) : List (LockAction SignLock) :=
  [.release .storage, .release (.operation call.handler)]

variable (env : Env) (call : SignCall) (shared : SignShared)

def check : StageOutcome SignShared SignLock SignStage :=
  if !verifyOriginContext call.request.origin call.request.topOrigin call.request.crossOrigin
      call.request.rpId.canonical then
    ⟨shared, [], .finished (.error (.forbidden "origin not valid for RP"))⟩
  else ⟨shared, [.acquire (.operation call.handler)], .resolving call⟩

def resolve : StageOutcome SignShared SignLock SignStage :=
  let shown := shared.policyRuntime.resolveGrantForSign call.entry.context.profileId
    call.entry.context.activeGrantId
  let swept := { shared with policyRuntime := shown.2 }
  match checkSign env call.security call.entry.context.profileConfig shown.1 call.request with
  | .error error => ⟨swept, [.release (.operation call.handler)], .finished (.error error)⟩
  | .ok (grant, policy) => ⟨swept, [.acquire .storage], .choosing call grant policy⟩

def choose (grant : Grant) (policy : AgentCeremonyPolicy) :
    StageOutcome SignShared SignLock SignStage :=
  match chooseCredential env call.entry.context.profileConfig shared.store grant policy
      call.request with
  | .error error => ⟨shared, call.dropBoth, .finished (.error error)⟩
  | .ok id =>
    if !call.occasion.audited then
      ⟨shared, call.dropBoth, .finished (.error (.internal "audit record failed" .retry))⟩
    else
      ⟨shared.note [.allowed call.entry.context.profileId call.request.rpId.canonical policy], [],
        .reading call policy id⟩

def read (policy : AgentCeremonyPolicy) (id : CredentialId) :
    StageOutcome SignShared SignLock SignStage :=
  match shared.store.read id with
  | .error _ =>
    ⟨shared, call.dropBoth, .finished (.error (.notFound "credential not found in storage"))⟩
  | .ok cred =>
    if cred.extensions.credProtect = some 3 && !vouches policy.userVerification then
      ⟨shared, call.dropBoth, .finished (.error (.forbidden
        "credential protection policy requires user verification"))⟩
    else ⟨shared, [], .counting call policy cred⟩

def count (policy : AgentCeremonyPolicy) (cred : Credential) :
    StageOutcome SignShared SignLock SignStage :=
  match countUse call.security shared.store cred call.occasion.persisted with
  | (.error _, after) =>
    ⟨{ shared with store := after }, call.dropBoth,
      .finished (.error (.internal "failed to write updated credential" .retry))⟩
  | (.ok signCount, after) =>
    ⟨SignShared.note { shared with store := after } (countActs call.security cred signCount),
      [], .signing call policy cred signCount⟩

def sign (policy : AgentCeremonyPolicy) (cred : Credential) (signCount : Nat) :
    StageOutcome SignShared SignLock SignStage :=
  match assertWith env call.occasion.keys policy call.request cred signCount with
  | none =>
    ⟨shared, call.dropBoth, .finished (.error (.internal "signing failed" .retry))⟩
  | some response =>
    ⟨shared.note [.signed cred (signatureInput env call.occasion.keys policy
        call.request cred signCount)], [], .activating call cred response⟩

/-- An activating key provider returns the signature only with its lease active. -/
def release (cred : Credential) (response : SignAssertionResponse) :
    StageOutcome SignShared SignLock SignStage :=
  match activate shared.browserManager call.now call.entry.keyProvider with
  | (.error error, mgr) =>
    ⟨{ shared with browserManager := mgr }, call.dropBoth, .finished (.error error)⟩
  | (.ok (), mgr) =>
    ⟨SignShared.note { shared with browserManager := mgr }
      [.released cred.id response], call.dropBoth, .finished (.ok response)⟩

end SignCall

def signProgram (env : Env) (shared : SignShared) :
    SignStage -> Option (StageOutcome SignShared SignLock SignStage)
  | .checking call => some (call.check shared)
  | .resolving call => some (call.resolve env shared)
  | .choosing call grant policy => some (call.choose env shared grant policy)
  | .reading call policy id => some (call.read shared policy id)
  | .counting call policy cred => some (call.count shared policy cred)
  | .signing call policy cred signCount =>
    some (call.sign env shared policy cred signCount)
  | .activating call cred response => some (call.release shared cred response)
  | .finished _ => none
  | .tending policyRuntime browserManager =>
    some ⟨{ shared with policyRuntime, browserManager }, [], .tended⟩
  | .tended => none

/-! ## One thread alone -/

variable {env : Env} {call : SignCall}

/-- What the threads see of the broker's state. -/
def BrokerState.sharedBy (state : BrokerState) (owner : CredentialNamespace)
    (journal : List SignAct) : SignShared :=
  ⟨state.policyRuntime, state.browserManager, state.credentialStorage owner, journal⟩

/-- A call that nobody disturbs, from its beginning to its end. -/
def SignCall.alone (env : Env) (call : SignCall) (state : BrokerState) :
    SignShared × SignStage :=
  conduct (signProgram env) 7 (state.sharedBy call.entry.context.owner []) (.checking call)

theorem conduct_over (count : Nat) (shared : SignShared)
    (result : Except ProtocolError SignAssertionResponse) :
    conduct (signProgram env) count shared (.finished result) = (shared, .finished result) :=
  conduct_done rfl count

/-- How a call ends once it has asserted. -/
def SignCall.settle (call : SignCall) (shared : SignShared) (acts : List SignAct)
    (asserted : Except ProtocolError SignAssertionResponse × LocalStorageAdapter) :
    SignShared × SignStage :=
  let stored := SignShared.note { shared with store := asserted.2 } acts
  match asserted.1 with
  | .error error => (stored, .finished (.error error))
  | .ok response =>
    match activate shared.browserManager call.now call.entry.keyProvider with
    | (.error error, mgr) =>
      ({ stored with browserManager := mgr }, .finished (.error error))
    | (.ok (), mgr) => ({ stored with browserManager := mgr }, .finished (.ok response))

theorem settle_error (shared : SignShared) (error : ProtocolError) :
    call.settle shared [] (.error error, shared.store) = (shared, .finished (.error error)) := by
  rw [SignCall.settle, SignShared.note, List.append_nil]

theorem conduct_reading (count : Nat) (shared : SignShared) (policy : AgentCeremonyPolicy)
    (id : CredentialId) :
    ∃ acts, conduct (signProgram env) (count + 4) shared (.reading call policy id) =
      call.settle shared acts
        (signWith env call.security call.occasion policy call.request shared.store id) := by
  rw [conduct_step rfl, SignCall.read, signWith]
  cases shared.store.read id with
  | error => exact ⟨[], (conduct_over ..).trans (settle_error ..).symm⟩
  | ok cred =>
    dsimp only
    split
    · exact ⟨[], (conduct_over ..).trans (settle_error ..).symm⟩
    · rw [conduct_step rfl, SignCall.count]
      rcases countUse call.security shared.store cred call.occasion.persisted with
        ⟨error | signCount, _⟩
      · refine ⟨[], (conduct_over ..).trans ?_⟩
        rw [SignCall.settle, SignShared.note, List.append_nil]
      · dsimp only
        rw [conduct_step rfl, SignCall.sign]
        cases assertWith env call.occasion.keys policy call.request cred signCount with
        | none => exact ⟨countActs call.security cred signCount, conduct_over ..⟩
        | some response =>
          rw [conduct_step rfl, SignCall.release]
          dsimp only [SignShared.note, SignCall.settle]
          rcases activate shared.browserManager call.now call.entry.keyProvider with
            ⟨_ | _, _⟩
          · refine ⟨countActs call.security cred signCount ++
              [.signed cred (signatureInput env call.occasion.keys policy
                call.request cred signCount)], (conduct_over ..).trans ?_⟩
            simp only [List.append_assoc]
          · refine ⟨countActs call.security cred signCount ++
              [.signed cred (signatureInput env call.occasion.keys policy
                call.request cred signCount), .released cred.id response],
              (conduct_over ..).trans ?_⟩
            simp only [List.append_assoc, List.cons_append, List.nil_append]

theorem conduct_choosing (count : Nat) (shared : SignShared) (grant : Grant)
    (policy : AgentCeremonyPolicy) :
    ∃ acts, conduct (signProgram env) (count + 5) shared (.choosing call grant policy) =
      call.settle shared acts (assertFrom env call.security call.occasion
        call.entry.context.profileConfig grant policy call.request shared.store) := by
  rw [conduct_step rfl, SignCall.choose, assertFrom]
  cases chooseCredential env call.entry.context.profileConfig shared.store grant policy
      call.request with
  | error => exact ⟨[], (conduct_over ..).trans (settle_error ..).symm⟩
  | ok id =>
    dsimp only
    split
    · exact ⟨[], (conduct_over ..).trans (settle_error ..).symm⟩
    · rcases @conduct_reading env call count (shared.note [.allowed
        call.entry.context.profileId call.request.rpId.canonical policy]) policy id with
        ⟨acts, same⟩
      refine ⟨.allowed call.entry.context.profileId call.request.rpId.canonical policy :: acts,
        same.trans ?_⟩
      unfold SignCall.settle
      simp only [SignShared.note, List.append_assoc, List.singleton_append]

/-- A call alone does what the sequential `sign` does. -/
theorem conduct_sign (env : Env) (call : SignCall) (state : BrokerState) :
    ∃ acts, call.alone env state =
      ((sign env call.security call.occasion call.now call.entry call.request
          state).2.sharedBy call.entry.context.owner acts,
        .finished (sign env call.security call.occasion call.now call.entry
          call.request state).1) := by
  rw [SignCall.alone, conduct_step rfl, SignCall.check, sign]
  split
  · exact ⟨[], conduct_over ..⟩
  · rw [conduct_step rfl, SignCall.resolve]
    dsimp only [sharedBy]
    cases checkSign env call.security call.entry.context.profileConfig
        (state.policyRuntime.resolveGrantForSign call.entry.context.profileId
          call.entry.context.activeGrantId).1 call.request with
    | error => exact ⟨[], conduct_over ..⟩
    | ok accepted =>
      rcases accepted with ⟨grant, policy⟩
      rcases @conduct_choosing env call 0 ⟨(state.policyRuntime.resolveGrantForSign
        call.entry.context.profileId call.entry.context.activeGrantId).2, state.browserManager,
        state.credentialStorage call.entry.context.owner, []⟩ grant policy with ⟨acts, same⟩
      refine ⟨acts, same.trans ?_⟩
      unfold SignCall.settle
      dsimp only [SignContext.owner]
      generalize assertFrom _ _ _ _ _ _ _ _ = asserted
      rcases asserted with ⟨error | _, _⟩
      · rw [withStorage_credentialStorage]
        rfl
      · dsimp only [withStorage]
        rcases activate state.browserManager call.now call.entry.keyProvider with
          ⟨_ | _, _⟩
        all_goals
          dsimp only
          rw [if_pos rfl]
          rfl

/-- A released assertion was recorded as permitted, then counted, then signed. -/
theorem journal_of_releases {id : CredentialId}
    (released : Releases env call.security call.occasion call.now call.entry call.request state
      after response grant policy id cred signCount) :
    (call.alone env state).1.journal =
      [.allowed call.entry.context.profileId call.request.rpId.canonical policy] ++
        countActs call.security cred signCount ++
        [.signed cred (signatureInput env call.occasion.keys policy call.request
          cred signCount), .released cred.id response] := by
  have resolved : checkSign env call.security call.entry.context.profileConfig (some grant)
      call.request = .ok (grant, policy) := by
    rw [checkSign, released.granted]
    rw [released.evidence]
    rfl
  have origin : (!verifyOriginContext call.request.origin call.request.topOrigin
      call.request.crossOrigin call.request.rpId.canonical) = false := by
    rw [released.origin]
    rfl
  have unprotected : (decide (cred.extensions.credProtect = some 3) &&
      !vouches policy.userVerification) = false := by
    by_cases level : cred.extensions.credProtect = some 3
    · rw [released.protects level, Bool.not_true, Bool.and_false]
    · rw [decide_eq_false level, Bool.false_and]
  rw [SignCall.alone, conduct_step rfl, SignCall.check, origin]
  dsimp only [sharedBy]
  rw [if_neg Bool.false_ne_true, conduct_step rfl, SignCall.resolve]
  rw [released.resolved]
  rw [resolved, conduct_step rfl, SignCall.choose, released.chosen]
  dsimp only
  rw [released.audited, if_neg (by decide), conduct_step rfl, SignCall.read]
  dsimp only [SignShared.note]
  rw [released.read]
  dsimp only
  rw [unprotected, if_neg Bool.false_ne_true, conduct_step rfl, SignCall.count]
  rw [released.counted]
  rw [conduct_step rfl, SignCall.sign, released.asserted]
  dsimp only [SignShared.note]
  rw [conduct_step rfl, SignCall.release]
  rw [released.activated]
  dsimp only [SignShared.note]
  rw [conduct_over]
  simp only [List.nil_append, List.append_assoc, List.cons_append]

end ControlVault.Broker
