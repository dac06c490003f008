import ControlVault.Broker.Scenario
import ControlVault.Broker.SignStages

namespace ControlVault.Broker

open Foundation Core Engine Storage

/-!
# What stands behind an assertion

An assertion leaves the daemon only if a grant, a rule of the profile, the page
and the credential itself agree to it.  `Authorised` is the list of what they
agree to; the flags are read from the bytes that were signed, and the audit
record from the journal of the call.

The authenticator library marks the backup state in the same byte of flags.  It
must leave the bits of presence and verification alone.
-/

/-- Whether a bit is set in the byte of flags. -/
def hasFlag (authenticatorData : Bytes) (bit : UInt8) : Prop :=
  ∃ flags, authenticatorData[32]? = some flags /\ flags &&& bit ≠ 0

/-- The library marks the backup state in bits of its own. -/
def KeyBackend.MarksApart (keys : KeyBackend) : Prop :=
  ∀ state, keys.backupFlags state &&& 0x05 = 0

/-- The grant, the rule, the page and the credential agree to the assertion. -/
structure Authorised (env : Env) (call : SignCall) (before after : BrokerState)
    (response : SignAssertionResponse) (grant : Grant) (policy : AgentCeremonyPolicy)
    (id : CredentialId) (cred : Credential) (data : Bytes) : Prop where
  registered : (after.policyRuntime.grants.get call.entry.context.profileId).bind
    (fun reg => reg.grants.get call.entry.context.activeGrantId) = some grant
  active : grant.state = .active
  unexpired : before.policyRuntime.clockSecs < grant.expiryMono
  inScope : ∃ rpId ∈ grant.rpIds.elements,
    rpId.canonical = call.request.rpId.canonical ∨ rpId.canonical = anyRpId
  rule : ∃ rule, call.entry.context.profileConfig.ruleForRp env
    call.request.rpId.canonical = some rule /\ rule.authenticate = policy
  allows : policy.authorization = .allow
  presence : hasFlag data 0x01 <-> policy.userPresence = .agent
  verification : hasFlag data 0x04 <-> policy.userVerification = .agent
  demanded : call.request.userVerification = true ∨ call.security.alwaysUv = true ->
    hasFlag data 0x04
  listed : ∃ visited ∈ (before.credentialStorage call.entry.context.owner).enumerate
    (.byRp call.request.rpId.canonical), visited.id = id
  stored : (before.credentialStorage call.entry.context.owner).read id = .ok cred
  named : (before.credentialStorage call.entry.context.owner).Truthful ->
    cred.id = id /\ cred.rpId.trim = call.request.rpId.canonical
  granted : grant.credentials.elements ≠ [] ->
    CredentialRef.withDefaultDomain env id ∈ grant.credentials.elements
  permitted : call.request.allowCredentials ≠ [] -> b64uEncode id ∈ call.request.allowCredentials
  levelThree : cred.extensions.credProtect = some 3 -> hasFlag data 0x04
  levelTwo : cred.extensions.credProtect = some 2 -> call.request.allowCredentials = [] ->
    hasFlag data 0x04
  carried : response.authenticatorDataB64u = b64uEncode data /\
    response.credentialIdB64u = b64uEncode cred.id
  recorded : ∃ between clientDataHash, (call.alone env before).1.journal =
    .allowed call.entry.context.profileId call.request.rpId.canonical policy ::
      (between ++ [.signed cred (data ++ clientDataHash), .released cred.id response])

/-! ## The flags -/

theorem evidence_bits : ∀ (up uv : Bool) (backup : Fin 256), UInt8.ofFin backup &&& 0x05 = 0 ->
      ((evidenceFlags up uv ||| UInt8.ofFin backup) &&& 0x01 ≠ 0 <-> up = true) /\
        ((evidenceFlags up uv ||| UInt8.ofFin backup) &&& 0x04 ≠ 0 <-> uv = true) := by
  decide +kernel

/-- The byte of flags stands behind the hash of the relying party. -/
theorem hasFlag_buildAuthenticatorData (env : Env) (rpId : Text) (up uv : Bool)
    (backup bit : UInt8) (signCount : Nat) :
    hasFlag (buildAuthenticatorData env rpId up uv backup signCount) bit <->
      (evidenceFlags up uv ||| backup) &&& bit ≠ 0 := by
  have located : (buildAuthenticatorData env rpId up uv backup signCount)[32]? =
      some (evidenceFlags up uv ||| backup) := by
    rw [buildAuthenticatorData]
    simp
  simp [hasFlag, located]

theorem vouches_iff (source : EvidenceSource) : vouches source = true <-> source = .agent := by
  rw [vouches, decide_eq_true_iff]

/-! ## The checks -/

variable {policy : AgentCeremonyPolicy} {grant : Grant}

theorem checkEvidence_ok
    (accepted : checkEvidence rule prompt security userVerification noRule denied = .ok policy) :
    rule = some policy /\ policy.authorization = .allow /\
      (userVerification = true ∨ security.alwaysUv = true -> policy.userVerification = .agent) := by
  unfold checkEvidence at accepted
  split at accepted
  · cases accepted
  · split at accepted
    · cases accepted
    · cases accepted
    · rename_i allows
      split_ifs at accepted with _ unverified
      cases accepted
      refine ⟨rfl, allows, ?_⟩
      intro wanted
      by_contra other
      exact unverified ⟨wanted, other⟩

theorem checkGrant_permits (accepted : checkGrant (some grant) rpId = .ok grant) :
    grant.state = .active /\
      ∃ scope ∈ grant.rpIds.elements, scope.canonical = rpId ∨ scope.canonical = anyRpId := by
  unfold checkGrant at accepted
  dsimp only at accepted
  split_ifs at accepted with _ active outside
  refine ⟨not_not.mp active, ?_⟩
  rw [Bool.not_eq_true, Bool.not_eq_false', List.any_eq_true] at outside
  rcases outside with ⟨scope, mem, same⟩
  refine ⟨scope, mem, ?_⟩
  simpa using same

/-- A grant is looked up after the expired ones were swept. -/
theorem resolved_unexpired {runtime : PolicyRuntime}
    (resolved : runtime.resolveGrantForSign profileId grantId = (some grant, after))
    (active : grant.state = .active) :
    (after.grants.get profileId).bind (fun reg => reg.grants.get grantId) = some grant /\
      runtime.clockSecs < grant.expiryMono := by
  unfold PolicyRuntime.resolveGrantForSign at resolved
  split at resolved
  · cases resolved
  · rw [Prod.mk.injEq] at resolved
    rcases resolved with ⟨found, rfl⟩
    refine ⟨?_, GrantRegistry.checkExpired_active found active⟩
    rw [Table.get_insert_self]
    exact found

/-- The chosen credential is listed under the relying party, granted and allowed. -/
theorem chooseCredential_ok {id : CredentialId}
    (chosen : chooseCredential env config store grant policy req = .ok id) :
    (∃ visited ∈ store.enumerate (.byRp req.rpId.canonical), visited.id = id) /\
      (grant.credentials.elements ≠ [] ->
        CredentialRef.withDefaultDomain env id ∈ grant.credentials.elements) /\
      (req.allowCredentials ≠ [] -> b64uEncode id ∈ req.allowCredentials) /\
      ∀ cred, store.read id = .ok cred ->
        cred.extensions.credProtect = some 2 -> req.allowCredentials = [] ->
          vouches policy.userVerification = true := by
  unfold chooseCredential at chosen
  dsimp only at chosen
  split_ifs at chosen
  rcases selectCredential_mem chosen with ⟨_, mem, rfl⟩
  rcases List.mem_filterMap.mp mem with ⟨_, inScope, found⟩
  rcases candidateFor_some found with ⟨_, resolved, allowed, levelTwo⟩
  rcases resolveCredentialId_ok resolved with ⟨visited, place, named, referred⟩
  refine ⟨⟨visited, place, named⟩, ?_, allowed, levelTwo⟩
  intro naming
  rw [credentialScope, if_neg (by simpa using naming)] at inScope
  rw [<- named, referred]
  exact inScope

/-- Every assertion that `sign` returns is authorised. -/
theorem released_assertion_authorised (env : Env) (call : SignCall)
    (before after : BrokerState) (response : SignAssertionResponse)
    (apart : call.occasion.keys.MarksApart)
    (signed : sign env call.security call.occasion call.now call.entry call.request before =
      (.ok response, after)) :
    ∃ grant policy id cred data,
      Authorised env call before after response grant policy id cred data := by
  rcases sign_releases signed with ⟨grant, policy, id, cred, signCount, released⟩
  rcases checkGrant_permits released.granted with ⟨active, inScope⟩
  rcases checkEvidence_ok released.evidence with ⟨ruled, allows, demanded⟩
  rcases resolved_unexpired released.resolved active with ⟨registered, unexpired⟩
  rcases chooseCredential_ok released.chosen with ⟨listed, granted, permitted, levelTwo⟩
  rcases Option.map_eq_some_iff.mp ruled with ⟨rule, configured, same⟩
  have bits := evidence_bits (vouches policy.userPresence) (vouches policy.userVerification)
    (call.occasion.keys.backupFlags cred.backupState).toFin (apart _)
  have presence : hasFlag _ 0x01 <-> policy.userPresence = .agent :=
    (hasFlag_buildAuthenticatorData env call.request.rpId.canonical
      (vouches policy.userPresence) (vouches policy.userVerification)
      (call.occasion.keys.backupFlags cred.backupState) 0x01 signCount).trans
      (bits.1.trans (vouches_iff _))
  have verification : hasFlag _ 0x04 <-> policy.userVerification = .agent :=
    (hasFlag_buildAuthenticatorData env call.request.rpId.canonical
      (vouches policy.userPresence) (vouches policy.userVerification)
      (call.occasion.keys.backupFlags cred.backupState) 0x04 signCount).trans
      (bits.2.trans (vouches_iff _))
  have vouched : vouches policy.userVerification = true -> hasFlag _ 0x04 :=
    fun vouched => verification.mpr ((vouches_iff _).mp vouched)
  refine ⟨grant, policy, id, cred, _, registered, active, unexpired, inScope,
    ⟨rule, configured, same⟩, allows, presence, verification,
    fun wanted => verification.mpr (demanded wanted), listed, released.read, ?_, granted, permitted,
    fun level => vouched (released.protects level),
    fun level unlisted => vouched (levelTwo cred released.read level unlisted), ?_, ?_⟩
  · intro truthful
    rcases listed with ⟨_, place, rfl⟩
    rcases truthful.read_of_mem_byRp place with ⟨found, dir⟩
    rw [released.read] at found
    cases found
    exact ⟨rfl, dir⟩
  · have asserted := released.asserted
    rcases Option.map_eq_some_iff.mp asserted with ⟨_, _, rfl⟩
    exact ⟨rfl, rfl⟩
  · exact ⟨countActs call.security cred signCount, _, journal_of_releases released⟩

namespace Sample

theorem keys_markApart : keys.MarksApart := by
  intro state
  cases state <;> decide

/-- A request by the profile's browser. -/
def signCall : SignCall where
  handler := 0
  security
  occasion
  now := 10
  entry
  request := signRequest

def ownState : BrokerState :=
  { state with credentialStorage := fun _ => ownStore }

/-- The assertion for a credential of the store is released, and all of its conditions hold. -/
theorem own_assertion_authorised :
    ∃ response after grant policy id cred data,
      sign sampleEnv signCall.security signCall.occasion signCall.now signCall.entry
        signCall.request ownState = (.ok response, after) /\
      Authorised sampleEnv signCall ownState after response grant policy id cred data := by
  have released : (sign sampleEnv signCall.security signCall.occasion signCall.now signCall.entry
      signCall.request ownState).1.isOk = true := by
    decide +kernel
  rcases outcome : sign sampleEnv signCall.security signCall.occasion signCall.now signCall.entry
    signCall.request ownState with ⟨_ | response, after⟩
  · rw [outcome] at released
    cases released
  · rcases released_assertion_authorised sampleEnv signCall ownState after response keys_markApart
      outcome with ⟨grant, policy, id, cred, data, authorised⟩
    exact ⟨response, after, grant, policy, id, cred, data, rfl, authorised⟩

end Sample

end ControlVault.Broker
