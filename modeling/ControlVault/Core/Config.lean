import ControlVault.Core.RpId

namespace ControlVault.Core

open Foundation

/-!
# Agent configuration

The part of an agent profile that policy compilation and the runtime read.  A
profile lists rules, one for each relying party, and each rule says for the two
ceremonies whether they are denied, need a confirmation or are allowed.  Older
profiles list only relying parties; `effectiveRules` turns them into rules.
-/

inductive AgentMode
  | sameUser
  | isolated
  deriving DecidableEq

def AgentMode.label : AgentMode -> Text
  | sameUser => "same-user"
  | isolated => "isolated"

inductive BrowserScope
  | session
  | profile

/-- How a browser offers its control channel. -/
inductive CdpExposeMode
  | pipe
  | port
  deriving DecidableEq

/-- When a human who vouches for verification is asked. -/
inductive HumanVerificationPrompt
  | always
  | whenRequired
  deriving DecidableEq

inductive AgentAuthorization
  | deny
  | confirm
  | allow
  deriving DecidableEq

def AgentAuthorization.label : AgentAuthorization -> Text
  | deny => "deny"
  | confirm => "confirm"
  | allow => "allow"

/-- Who vouches for presence or verification; the source has one such type for each. -/
inductive EvidenceSource
  | human
  | agent
  | none
  deriving DecidableEq

abbrev UserPresenceSource := EvidenceSource
abbrev UserVerificationSource := EvidenceSource

def EvidenceSource.label : EvidenceSource -> Text
  | human => "human"
  | agent => "agent"
  | none => "none"

structure AgentCeremonyPolicy where
  authorization : AgentAuthorization
  userPresence : UserPresenceSource
  userVerification : UserVerificationSource
  deriving DecidableEq

namespace AgentCeremonyPolicy

def legacyConfirm (requireUv : Bool) : AgentCeremonyPolicy where
  authorization := .confirm
  userPresence := .human
  userVerification := if requireUv then .human else .none

def denied : AgentCeremonyPolicy where
  authorization := .deny
  userPresence := .none
  userVerification := .none

def autonomous : AgentCeremonyPolicy where
  authorization := .allow
  userPresence := .agent
  userVerification := .agent

def supervised : AgentCeremonyPolicy where
  authorization := .confirm
  userPresence := .human
  userVerification := .human

end AgentCeremonyPolicy

inductive CredentialSelection
  | single
  | firstMatching
  | newest
  | credential (ref : CredentialRef)
  deriving DecidableEq

structure AgentRpRule where
  rpId : Text
  (register authenticate : AgentCeremonyPolicy)
  credentialSelection : Option CredentialSelection
  deriving DecidableEq

namespace AgentRpRule

/-- The policy of a rule for one ceremony. -/
def policyFor (rule : AgentRpRule) : IntentAction -> AgentCeremonyPolicy
  | .register => rule.register
  | .authenticate => rule.authenticate

/-- The rule does not deny a ceremony. -/
def permits (rule : AgentRpRule) (action : IntentAction) : Bool :=
  (rule.policyFor action).authorization != .deny

end AgentRpRule

/-! ## Storage paths -/

inductive AgentStorageConfig
  | localStore (path pinPath : Text)
  | pass (storePath path gpgBackend pinPath : Text)
  | tpm (path tcti pinPath : Text) (portable : Bool)

/-- `Path::join`: an absolute second path replaces the first. -/
def joinPath (base path : Text) : Text :=
  if path.head? == some '/' then path
  else if base.isEmpty then path
  else if base.getLast? == some '/' then base ++ path
  else base ++ '/' :: path

namespace AgentStorageConfig

def label : AgentStorageConfig -> Text
  | localStore .. => "local"
  | pass .. => "pass"
  | tpm .. => "tpm"

def credentialStatePath (env : Env) : AgentStorageConfig -> Text
  | localStore path _ => env.canonicalizePath path
  | pass storePath path _ _ => env.canonicalizePath (joinPath storePath path)
  | tpm path _ _ _ => env.canonicalizePath path

end AgentStorageConfig

/-! ## Profiles -/

def maxDurationSecs : Nat := 86400 * 365

/-- A duration of at least one second and at most a year. -/
structure BoundedDuration where
  secs : Nat
  positive : 1 <= secs
  bounded : secs <= maxDurationSecs

structure DeviceIdentity where
  (name phys uniq : Text)
  (vendorId productId : BitVec 16)
  deriving DecidableEq

structure AgentProfileConfig where
  mode : AgentMode
  principalUser : Text
  rpIds : List Text
  requireUv : Bool
  credentialRefs : Option (List CredentialRef)
  (maxGrantTtl maxSessionTtl : Option BoundedDuration)
  (maxOperations maxConcurrentSessions : BitVec 16)
  browserScope : BrowserScope
  credentialSelection : CredentialSelection
  humanVerificationPrompt : HumanVerificationPrompt
  storage : Option AgentStorageConfig
  registrationAllowed : Bool
  rules : List AgentRpRule
  device : DeviceIdentity
  startUrl : Option Text
  browserCommand : Option (List Text)
  (browserUser browserRuntimeRoot : Option Text)
  browserCdpExpose : Option CdpExposeMode
  browserCdpPort : Option (BitVec 16)

namespace AgentProfileConfig

variable (config : AgentProfileConfig)

/-- Explicit rules, or one confirming rule for each listed relying party. -/
def effectiveRules : List AgentRpRule :=
  if !config.rules.isEmpty then config.rules
  else
    config.rpIds.map (fun rpId =>
      { rpId
        register :=
          if config.registrationAllowed then .legacyConfirm config.requireUv else .denied
        authenticate := .legacyConfirm config.requireUv
        credentialSelection := none })

def allowsRegistration : Bool :=
  config.effectiveRules.any (fun rule => rule.permits .register)

/-- The relying parties for which some ceremony is not denied. -/
def allowedRpIds : List Text :=
  (config.effectiveRules.filter (fun rule =>
    rule.permits .register || rule.permits .authenticate)).map AgentRpRule.rpId

/-- The rule of a relying party: its own, or else the one for every relying party. -/
def ruleForRp (env : Env) (config : AgentProfileConfig) (rpId : Text) :
    Option AgentRpRule :=
  match validateRpId env rpId with
  | .error _ => none
  | .ok normalized =>
    (config.effectiveRules.find? (fun rule => normalizeRpId rule.rpId = normalized)).or
      (config.effectiveRules.find? (fun rule => normalizeRpId rule.rpId = anyRpId))

def credentialSelectionForRp (env : Env) (config : AgentProfileConfig) (rpId : Text) :
    CredentialSelection :=
  ((config.ruleForRp env rpId).bind AgentRpRule.credentialSelection).getD config.credentialSelection

end AgentProfileConfig

/-- The configured profiles, in the order of the source's ordered map. -/
structure AgentConfig where
  enabled : Bool
  profiles : List (Text × AgentProfileConfig)
  increasing : (profiles.map Prod.fst).Pairwise (· < ·)

end ControlVault.Core
