import ControlVault.Core.Policy

namespace ControlVault.Engine

open Foundation Core

/-!
# Policy generations

Compiling a configuration gives one snapshot for each profile.  A snapshot
answers two different questions about an action: `actionAllowed` asks whether
some rule of the profile permits it, `ceremonyPolicy` selects the rule of one
relying party.  The two agree only when the rules of the profile do.
-/

structure PolicySnapshot where
  profileId : ProfileId
  policy : Policy
  digest : PolicyDigest
  mode : AgentMode
  normalizedRpIds : List Text
  credentialRefs : List CredentialRef
  (maxGrantTtlSecs maxSessionTtlSecs maxConcurrentGrants : Nat)
  (requireUv registrationAllowed : Bool)
  allowedActions : SortedSet Text
  rules : List AgentRpRule
  deriving DecidableEq

namespace PolicySnapshot

variable (env : Env) (snap : PolicySnapshot)

def isRpExactMatch (rpId : Text) : Bool :=
  match validateRpId env rpId with
  | .error _ => false
  | .ok normalized =>
    snap.normalizedRpIds.elem normalized || snap.normalizedRpIds.elem anyRpId

def isSuffixOnly (rpId : Text) : Bool :=
  match validateRpId env rpId with
  | .error _ => false
  | .ok normalized =>
    if snap.isRpExactMatch env normalized then false
    else
      (snap.normalizedRpIds.filter (fun id => id != anyRpId)).any (fun id =>
        ('.' :: id).isSuffixOf normalized)

def actionAllowed (action : IntentAction) : Bool :=
  snap.allowedActions.contains action.label

/-- The rule of a relying party: its own, or else the one for every relying party. -/
def ruleFor (normalized : Text) : Option AgentRpRule :=
  (snap.rules.find? (fun rule => rule.rpId.trim.asciiLower = normalized.asciiLower)).or
    (snap.rules.find? (fun rule => rule.rpId.trim = anyRpId))

def ceremonyPolicy (rpId : Text) (action : IntentAction) :
    Option AgentCeremonyPolicy :=
  match validateRpId env rpId with
  | .error _ => none
  | .ok normalized => (snap.ruleFor normalized).map (fun rule => rule.policyFor action)

/-- The credential, when one is named and the profile lists any, is in the list. -/
def credentialListed (cred : Option CredentialRef) : Bool :=
  match cred with
  | none => true
  | some ref => snap.credentialRefs.isEmpty || snap.credentialRefs.elem ref

end PolicySnapshot

structure PolicyGenerationSnapshot where
  generationId : PolicyGenerationId
  snapshots : List PolicySnapshot
  digest : PolicyDigest
  createdAtMono : Nat
  deriving DecidableEq

def PolicyGenerationSnapshot.findSnapshot (gen : PolicyGenerationSnapshot)
    (profileId : ProfileId) : Option PolicySnapshot :=
  gen.snapshots.find? (fun snap => snap.profileId = profileId)

/-! ## Compilation -/

inductive PolicyRuntimeError
  | compilation (message : Text)
  deriving DecidableEq

/-- The actions that at least one rule permits. -/
def allowedActionsOf (rules : List AgentRpRule) : SortedSet Text :=
  let authenticate : SortedSet Text :=
    if rules.any (fun rule => rule.permits .authenticate) then
      SortedSet.empty.insert IntentAction.authenticate.label
    else .empty
  if rules.any (fun rule => rule.permits .register) then
    authenticate.insert IntentAction.register.label
  else authenticate

def compileSnapshot (env : Env) (profileId : ProfileId) (config : AgentProfileConfig) :
    Except PolicyRuntimeError PolicySnapshot :=
  let rules := sortRules config.effectiveRules
  let normalizedRpIds := (SortedSet.ofList (rules.map (fun rule => rule.rpId.canonical))).elements
  let credentialRefs := config.credentialRefs.getD []
  let allowedActions := allowedActionsOf rules
  let maxGrantTtlSecs := (config.maxGrantTtl.map BoundedDuration.secs).getD 300
  let maxSessionTtlSecs := (config.maxSessionTtl.map BoundedDuration.secs).getD 3600
  let registrationAllowed := config.registrationAllowed || config.allowsRegistration
  let params : PolicyParams :=
    { profileId
      mode := config.mode.label
      normalizedRpIds
      credentialRefs
      allowedActions := allowedActions.elements
      registrationAllowed
      requireUv := config.requireUv
      maxConcurrentGrants := 5
      maxGrantTtl := maxGrantTtlSecs
      maxSessionTtl := maxSessionTtlSecs
      principalUser := config.principalUser
      device := config.device
      startUrl := config.startUrl
      browserArgv := config.browserCommand.getD []
      storageBackend := (config.storage.map AgentStorageConfig.label).getD []
      storagePath :=
        (config.storage.map (fun storage => storage.credentialStatePath env)).getD []
      browserUser := config.browserUser.getD []
      browserRuntimeRoot := config.browserRuntimeRoot.getD []
      rules }
  match Policy.fromParams params with
  | .error error => .error (.compilation ("invalid policy: " ++ error.message))
  | .ok policy =>
    .ok
      { profileId
        policy
        digest := policy.digest env
        mode := config.mode
        normalizedRpIds
        credentialRefs
        maxGrantTtlSecs
        maxSessionTtlSecs
        maxConcurrentGrants := 5
        requireUv := config.requireUv
        registrationAllowed
        allowedActions
        rules }

def compileProfile (env : Env) (entry : Text × AgentProfileConfig) :
    Except PolicyRuntimeError PolicySnapshot :=
  match ProfileId.new entry.1 with
  | .error error =>
    .error (.compilation ("invalid profile id '" ++ entry.1 ++ "': " ++ error.message))
  | .ok profileId => compileSnapshot env profileId entry.2

/-- `compile_generation`, with the generation identifier that the call draws. -/
def compileGeneration (env : Env) (config : AgentConfig) (nowMono : Nat)
    (fresh : PolicyGenerationId) : Except PolicyRuntimeError PolicyGenerationSnapshot :=
  match config.profiles.mapM (compileProfile env) with
  | .error error => .error error
  | .ok compiled =>
    let snapshots := compiled.insertionSort (fun first second =>
      first.profileId.value <= second.profileId.value)
    let entries := snapshots.map (fun snap =>
      (snap.profileId.value, bytesOf snap.digest.bytes))
    .ok
      { generationId := fresh
        snapshots
        digest := ⟨env.sha256 (Cbor.encodeGenerationDigest entries)⟩
        createdAtMono := nowMono }

end ControlVault.Engine
