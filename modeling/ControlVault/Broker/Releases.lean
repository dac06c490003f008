import ControlVault.Broker.Handlers
import ControlVault.Engine.RegistrationEffects

namespace ControlVault.Broker

open Foundation Core Engine Storage

/-!
# What a successful call has done

An assertion is released, and a credential is registered, at the end of a long
sequence of checks, each of which can end the call.  `Releases` and `Registers`
collect what the checks found, so that no later argument has to go through them
again.
-/

/-- The store that a context signs from. -/
def SignContext.owner (ctx : SignContext) : CredentialNamespace :=
  .of ctx.profileId ctx.profileConfig.mode

/-- The call answered with an assertion, from this grant, rule and credential. -/
structure Releases (env : Env) (security : SecurityConfig) (occasion : Occasion)
    (now : Nat) (entry : LeaseEntry) (req : SignAssertionRequest) (before after : BrokerState)
    (response : SignAssertionResponse) (grant : Grant) (policy : AgentCeremonyPolicy)
    (id : CredentialId) (cred : Credential) (signCount : Nat) : Prop where
  origin : verifyOriginContext req.origin req.topOrigin req.crossOrigin
    req.rpId.canonical = true
  resolved : before.policyRuntime.resolveGrantForSign entry.context.profileId
    entry.context.activeGrantId = (some grant, after.policyRuntime)
  granted : checkGrant (some grant) req.rpId.canonical = .ok grant
  evidence : checkEvidence ((entry.context.profileConfig.ruleForRp env req.rpId.canonical).map
      AgentRpRule.authenticate)
    entry.context.profileConfig.humanVerificationPrompt security req.userVerification
    "RP policy does not allow signing" "RP policy denies signing" = .ok policy
  chosen : chooseCredential env entry.context.profileConfig
    (before.credentialStorage entry.context.owner) grant policy req = .ok id
  audited : occasion.audited = true
  read : (before.credentialStorage entry.context.owner).read id = .ok cred
  protects : cred.extensions.credProtect = some 3 ->
    vouches policy.userVerification = true
  counted : countUse security (before.credentialStorage entry.context.owner) cred
    occasion.persisted = (.ok signCount, after.credentialStorage entry.context.owner)
  asserted : assertWith env occasion.keys policy req cred signCount = some response
  activated : activate before.browserManager now entry.keyProvider = (.ok (), after.browserManager)

/-- The store that a context registers in. -/
def RegisterContext.owner (ctx : RegisterContext) : CredentialNamespace :=
  .of ctx.profileId ctx.profileConfig.mode

section

variable (env : Env) (security : SecurityConfig) (occasion : Occasion) (ctx : RegisterContext)
  (req : RegisterCredentialRequest)

/-- The call stored a credential, by this rule and with this key. -/
structure Registers (before after : BrokerState)
    (response : RegisterCredentialResponse) (policy : AgentCeremonyPolicy) (userId : Bytes)
    (algorithm : Int) (generated : GeneratedKey) : Prop where
  checked : checkRegister env security ctx.profileConfig req = .ok (policy, userId)
  written : (before.credentialStorage ctx.owner).write
    (enrolledCredential security occasion req userId algorithm generated.key)
    occasion.persisted = (.ok (), after.credentialStorage ctx.owner)
  answered : response = registrationResponse env occasion policy req algorithm generated

/-- The call comes as far as taking a grant. -/
structure TakesGrant (state : BrokerState) :
    Prop where
  origin : verifyOriginContext req.origin req.topOrigin req.crossOrigin
    req.rpId.canonical = true
  offered : (state.policyRuntime.activeRegistrationGrant ctx.profileId
    req.rpId.canonical).isSome = true
  checked : (checkRegister env security ctx.profileConfig req).isOk = true
  included : isExcluded (state.credentialStorage ctx.owner) req.excludeCredentials = false
  audited : occasion.audited = true

end

/-- An algorithm is supported, the key is generated and the credential can be written. -/
def CanEnroll (occasion : Occasion) (req : RegisterCredentialRequest) : Prop :=
  (req.pubKeyCredParams.find? occasion.keys.supportsAlgorithm).any
      (fun algorithm => (occasion.keys.generate algorithm).isSome) = true /\
    (ValidatedRpId.tryFrom req.rpId.canonical).isOk = true /\ occasion.persisted = true

variable {grant : Grant} {after before : BrokerState}

theorem checkGrant_ok (accepted : checkGrant shown rpId = .ok grant) :
    shown = some grant := by
  unfold checkGrant at accepted
  split at accepted
  · cases accepted
  · split_ifs at accepted
    cases accepted
    rfl

section Inversion

variable {env : Env} {security : SecurityConfig} {occasion : Occasion}
  {policy : AgentCeremonyPolicy} {req : SignAssertionRequest} {response : SignAssertionResponse}
  {store : LocalStorageAdapter}

theorem checkSign_ok (accepted : checkSign env security config shown req = .ok (grant, policy)) :
    shown = some grant /\ checkGrant (some grant) req.rpId.canonical = .ok grant /\
      checkEvidence ((config.ruleForRp env req.rpId.canonical).map AgentRpRule.authenticate)
        config.humanVerificationPrompt security req.userVerification
        "RP policy does not allow signing" "RP policy denies signing" = .ok policy := by
  unfold checkSign at accepted
  dsimp only at accepted
  cases granted : checkGrant shown req.rpId.canonical with
  | error =>
    rw [granted] at accepted
    cases accepted
  | ok =>
    rw [granted] at accepted
    dsimp only [bind, Except.bind] at accepted
    split at accepted
    · cases accepted
    · rename_i evidence
      cases accepted
      have shown_eq := checkGrant_ok granted
      rw [shown_eq] at granted
      exact ⟨shown_eq, granted, evidence⟩

theorem signWith_ok {id : CredentialId}
    (signed : (signWith env security occasion policy req store id).1 = .ok response) :
    ∃ cred signCount, store.read id = .ok cred /\
      (cred.extensions.credProtect = some 3 -> vouches policy.userVerification = true) /\
      countUse security store cred occasion.persisted =
        (.ok signCount, (signWith env security occasion policy req store id).2) /\
      assertWith env occasion.keys policy req cred signCount = some response := by
  unfold signWith at signed ⊢
  cases found : store.read id with
  | error =>
    rw [found] at signed
    cases signed
  | ok cred =>
    rw [found] at signed
    dsimp only at signed ⊢
    split at signed
    · cases signed
    · rename_i unprotected
      rw [if_neg unprotected]
      cases counted : countUse security store cred occasion.persisted with
      | mk outcome =>
        rw [counted] at signed
        cases outcome with
        | error => cases signed
        | ok signCount =>
          dsimp only at signed ⊢
          cases made : assertWith env occasion.keys policy req cred signCount with
          | none =>
            rw [made] at signed
            cases signed
          | some =>
            rw [made] at signed
            cases signed
            refine ⟨cred, signCount, rfl, ?_, counted, made⟩
            intro level
            by_contra absent
            exact unprotected (by simp [level, absent])

theorem assertFrom_ok
    (asserted : (assertFrom env security occasion config grant policy req store).1 =
      .ok response) :
    ∃ id, chooseCredential env config store grant policy req = .ok id /\
      occasion.audited = true /\
      assertFrom env security occasion config grant policy req store =
        signWith env security occasion policy req store id := by
  unfold assertFrom at asserted ⊢
  cases chosen : chooseCredential env config store grant policy req with
  | error =>
    rw [chosen] at asserted
    cases asserted
  | ok id =>
    rw [chosen] at asserted
    cases audited : occasion.audited with
    | false =>
      rw [audited] at asserted
      cases asserted
    | true => exact ⟨id, rfl, rfl, rfl⟩

/-- Every released assertion has come through all the checks. -/
theorem sign_releases
    (signed : sign env security occasion now entry req before = (.ok response, after)) :
    ∃ grant policy id cred signCount, Releases env security occasion now entry req
      before after response grant policy id cred signCount := by
  unfold sign at signed
  dsimp only at signed
  split at signed
  · cases signed
  · rename_i origin
    split at signed
    · cases signed
    · rename_i grant policy accepted
      rcases checkSign_ok accepted with ⟨shown, granted, evidence⟩
      split at signed
      · cases signed
      · rename_i released asserted
        split at signed
        · cases signed
        · rename_i mgr activated
          cases signed
          rcases assertFrom_ok asserted with ⟨id, chosen, audited, same⟩
          rw [same] at asserted
          rcases signWith_ok asserted with ⟨cred, signCount, read, protects, counted, made⟩
          refine ⟨grant, policy, id, cred, signCount, ?_, Prod.ext shown rfl, granted, evidence,
            chosen, audited, read, protects, ?_, made, activated⟩
          · simpa using origin
          · refine counted.trans (Prod.ext rfl ?_)
            rw [<- same]
            exact (BrokerState.withStorage_credentialStorage _ _ _).symm

variable {userId : Bytes} {req : RegisterCredentialRequest}

theorem createCredential_cases :
    (CanEnroll occasion req /\ ∃ algorithm, ∃ generated : GeneratedKey,
      let written := store.write
        (enrolledCredential security occasion req userId algorithm generated.key)
        occasion.persisted
      written.1 = .ok () /\ createCredential env security occasion policy userId req store =
        (.ok (registrationResponse env occasion policy req algorithm generated), written.2)) ∨
    (¬CanEnroll occasion req /\ ∃ error,
      createCredential env security occasion policy userId req store = (.error error, store)) := by
  unfold CanEnroll createCredential LocalStorageAdapter.write enrolledCredential
  cases req.pubKeyCredParams.find? occasion.keys.supportsAlgorithm with
  | none => simp
  | some algorithm =>
    cases generated : occasion.keys.generate algorithm with
    | none => simp [generated]
    | some key =>
      cases valid : ValidatedRpId.tryFrom req.rpId.canonical with
      | error => simp [generated, valid, Except.toBool]
      | ok =>
        cases occasion.persisted with
        | false => simp [generated, valid]
        | true =>
          refine .inl ⟨by simp [generated, Except.toBool], algorithm, key, ?_⟩
          simp [generated, valid, registrationResponse]

variable {ctx : RegisterContext}

/-- A call that does not come to the grant fails and changes nothing. -/
theorem register_of_not_takes (short : ¬TakesGrant env security occasion ctx req before) :
    ∃ error, register env security occasion ctx req before = (.error error, before) := by
  unfold register
  dsimp only
  split
  · exact ⟨_, rfl⟩
  next origin =>
    split
    · exact ⟨_, rfl⟩
    next offered =>
      split
      · exact ⟨_, rfl⟩
      next checked =>
        split_ifs with excluded unaudited
        · exact ⟨_, rfl⟩
        · exact ⟨_, rfl⟩
        · exact absurd ⟨by simpa using origin, by simp [offered], by rw [checked]; rfl,
            by simpa [RegisterContext.owner] using excluded, by simpa using unaudited⟩ short

/-- A call that comes to the grant takes it and then makes the credential. -/
theorem register_of_takes (takes : TakesGrant env security occasion ctx req before) :
    ∃ id grant policy userId,
      before.policyRuntime.activeRegistrationGrant ctx.profileId req.rpId.canonical =
        some (id, grant) /\
      checkRegister env security ctx.profileConfig req = .ok (policy, userId) /\
      register env security occasion ctx req before =
        let created := createCredential env security occasion policy userId req
          (before.credentialStorage ctx.owner)
        (created.1, { before with
          policyRuntime := (before.policyRuntime.consumeRegistrationGrant ctx.profileId id).2
          }.withStorage ctx.owner created.2) := by
  rcases takes with ⟨origin, offered, checked, included, audited⟩
  rcases Option.isSome_iff_exists.mp offered with ⟨⟨id, grant⟩, offered⟩
  cases done : checkRegister env security ctx.profileConfig req with
  | error => simp [done, Except.toBool] at checked
  | ok result =>
    rcases PolicyRuntime.activeRegistrationGrant_some offered with ⟨found, active, _⟩
    have accepted := PolicyRuntime.consumeRegistrationGrant_ok_iff.mpr ⟨grant, found, active⟩
    refine ⟨id, grant, result.1, result.2, offered, rfl, ?_⟩
    unfold register
    rw [RegisterContext.owner] at included
    simp only [origin, offered, done, included, audited, accepted]
    rfl

theorem register_registers {response : RegisterCredentialResponse}
    (registered : register env security occasion ctx req before = (.ok response, after)) :
    ∃ policy userId algorithm generated, Registers env security occasion ctx req
      before after response policy userId algorithm generated := by
  by_cases takes : TakesGrant env security occasion ctx req before
  · rcases register_of_takes takes with ⟨id, grant, policy, userId, _, checked, result⟩
    rcases createCredential_cases with
      ⟨_, algorithm, generated, written, made⟩ | ⟨_, error, made⟩
    · rw [result, made] at registered
      cases registered
      refine ⟨policy, userId, algorithm, generated, checked, Prod.ext written ?_, rfl⟩
      exact (BrokerState.withStorage_credentialStorage _ _ _).symm
    · rw [result, made] at registered
      cases registered
  · rcases register_of_not_takes takes with ⟨error, result⟩
    rw [result] at registered
    cases registered

end Inversion

end ControlVault.Broker
