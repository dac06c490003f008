import ControlVault.Core.Config
import ControlVault.Foundation.Decimal
import ControlVault.Foundation.Fallible

namespace ControlVault.Core

open Foundation

/-!
# Validation of a profile

The checks of `AgentProfileConfig::validate` in their order; the first that fails
gives the error.  What later lookups rely on is collected in `RulesValid`: every
rule names a relying party or stands for all of them, no two rules have one
canonical name, and a rule for all of them denies registration.
-/

variable (env : Env) (profileId : ProfileId)

def reject (message : String) (rest : Text := []) : ConfigError :=
  ⟨"agent profile '" ++ profileId.value ++ "': " ++ message.toList ++ rest⟩

def validateAgentRpRuleId (raw : Text) : Except ConfigError Text :=
  if raw.trim = anyRpId then .ok anyRpId else validateRpId env raw.trim

def AgentCeremonyPolicy.validate (policy : AgentCeremonyPolicy) (rpId : Text) (action : String) :
    Except ConfigError Unit := do
  if policy.authorization = .deny /\
      (policy.userPresence ≠ .none ∨ policy.userVerification ≠ .none) then
    throw (reject profileId action (" policy for '" ++ rpId ++
      "' must use no UP or UV evidence when authorization is deny"))
  if policy.authorization = .allow /\ policy.userPresence = .human then
    throw (reject profileId action (" policy for '" ++ rpId ++
      "' cannot require human UP when authorization is allow"))

/-- A selected credential that is not among the listed ones. -/
def CredentialSelection.isForeign (listed : Option (List CredentialRef)) :
    CredentialSelection -> Bool
  | .credential ref => listed.any (fun references => !references.elem ref)
  | _ => false

/-- The loop over the rules, with the canonical names it has seen. -/
def validateRules (listed : Option (List CredentialRef)) :
    List Text -> List AgentRpRule -> Except ConfigError Unit
  | _, [] => pure ()
  | normalizedRules, rule :: rest => do
    let _ <- validateAgentRpRuleId env rule.rpId
    if rule.rpId.canonical ∈ normalizedRules then
      throw (reject profileId "duplicate RP rule for '" (rule.rpId ++ "'"))
    rule.register.validate profileId rule.rpId "registration"
    rule.authenticate.validate profileId rule.rpId "authentication"
    if rule.credentialSelection.any (fun selection => selection.isForeign listed) then
      throw (reject profileId "credential_selection reference for RP '"
        (rule.rpId ++ "' must be included in credential_refs"))
    validateRules listed (rule.rpId.canonical :: normalizedRules) rest

def validateDeviceField (value : Text) (field : String) (max : Nat) : Except ConfigError Unit := do
  if '\x00' ∈ value then
    throw (reject profileId "device." (field.toList ++ " must not contain NUL bytes"))
  if max < value.utf8Length then
    throw (reject profileId "device." (field.toList ++ " exceeds maximum length of " ++
      decimal max ++ " bytes (got " ++ decimal value.utf8Length ++
      "); limit reserves 1 byte for NUL terminator"))

def DeviceIdentity.validate (device : DeviceIdentity) : Except ConfigError Unit := do
  validateDeviceField profileId device.name "name" 127
  validateDeviceField profileId device.phys "phys" 63
  validateDeviceField profileId device.uniq "uniq" 63
  if device.name = "virtual-fido" /\ device.phys = "virtual-fido-001" /\
      device.vendorId = 0x15d9 /\ device.productId = 0x0a37 then
    throw (reject profileId ("device identity collides with the human authenticator " ++
      "(virtual-fido / 0x15d9:0x0a37)"))

/-- `Path::components`: empty parts vanish, and so does `.` after the first part. -/
def components (path : Text) : List Text :=
  let parts := path.split '/'
  ((if path.head? = some '/' then ["/".toList] else parts.take 1) ++
    (parts.drop 1).filter (fun part => part ≠ ".".toList)).filter (fun part => part ≠ [])

/-- `AgentStorageConfig::validate`.  A path without a leading slash has no root among its
components, so that the error for one is never given. -/
def AgentStorageConfig.validate : AgentStorageConfig -> Except ConfigError Unit
  | .pass storePath path _ pinPath => do
    if pinPath.head? = some '/' then
      throw ⟨("pass pin_path must be a relative subpath within the password store, " ++
        "got absolute path: ").toList ++ pinPath⟩
    if "..".toList ∈ components pinPath then
      throw ⟨"pass pin_path must not contain path traversal ('..'): ".toList ++ pinPath⟩
    let cred := components (env.canonicalizePath (joinPath storePath path))
    let pin := components (env.canonicalizePath (joinPath storePath pinPath))
    if pin <+: cred ∨ cred <+: pin then
      throw ⟨"pass pin_path '" ++ pinPath ++ "' overlaps with credential path '" ++ path ++ "'"⟩
  | _ => pure ()

namespace AgentProfileConfig

variable (config : AgentProfileConfig)

def wildcardRule : Option AgentRpRule :=
  config.effectiveRules.find? (fun rule => normalizeRpId rule.rpId = anyRpId)

def validateLimits : Except ConfigError Unit := do
  if config.principalUser.isEmpty then
    throw (reject profileId "principal_user must not be empty")
  if config.maxOperations = 0 ∨ 4096 < config.maxOperations then
    throw (reject profileId "max_operations must be between 1 and 4096")
  match config.browserScope with
  | .session =>
    if config.maxConcurrentSessions = 0 ∨ 64 < config.maxConcurrentSessions then
      throw (reject profileId
        "max_concurrent_sessions must be between 1 and 64 for session browser scope")
    if 1 < config.maxConcurrentSessions /\ config.browserCdpExpose = some .port /\
        config.browserCdpPort.getD 0 ≠ 0 then
      throw (reject profileId ("browser_cdp_port must be 0 (or omitted) when " ++
        "max_concurrent_sessions > 1 in port mode with session browser scope"))
  | .profile =>
    if 64 < config.maxConcurrentSessions then
      throw (reject profileId ("max_concurrent_sessions must be 0 (unlimited) or between 1 and " ++
        "64 for profile browser scope"))

def validateWildcard : Except ConfigError Unit :=
  match config.wildcardRule with
  | none => pure ()
  | some rule => do
    if config.rules.isEmpty then
      throw (reject profileId "wildcard RP scope '*' requires explicit rules")
    if config.mode ≠ .sameUser then
      throw (reject profileId "wildcard RP scope '*' is only supported in same-user mode")
    if config.credentialRefs.isSome then
      throw (reject profileId ("wildcard RP scope '*' requires credential_refs to be omitted " ++
        "for dynamic credential discovery"))
    if rule.permits .register then
      throw (reject profileId "wildcard RP scope '*' must deny registration")
    if rule.credentialSelection matches some (.credential _) then
      throw (reject profileId
        "wildcard RP scope '*' cannot select one RP-specific credential reference")

def validateBrowserCommand : Except ConfigError Unit :=
  match config.browserCommand with
  | none => pure ()
  | some command => do
    if command.isEmpty then
      throw (reject profileId "browser_command must not be empty")
    match command.findIdx? (fun argument => argument.elem '\x00') with
    | none => pure ()
    | some index =>
      throw (reject profileId "browser_command[" (decimal index ++ "] must not contain NUL bytes"))

def validateMode : Except ConfigError Unit :=
  match config.mode with
  | .sameUser => do
    if config.storage.isSome then
      throw (reject profileId "same-user mode uses the human backend and must not specify storage")
  | .isolated => do
    let device := config.device
    if device.name.isEmpty ∨ device.phys.isEmpty ∨ device.uniq.isEmpty then
      throw (reject profileId "isolated mode requires a complete device identity")
    device.validate profileId
    match config.storage with
    | none => throw (reject profileId "isolated mode requires storage backend configuration")
    | some storage => storage.validate env
    if config.browserUser.isSome then
      throw (reject profileId "isolated mode must not specify browser_user")
    if config.browserRuntimeRoot.isSome then
      throw (reject profileId "isolated mode must not specify browser_runtime_root")

def validateStartUrl : Except ConfigError Unit :=
  match config.startUrl with
  | none => pure ()
  | some url => do
    if url.isEmpty then throw (reject profileId "start_url must not be empty")
    if ¬"https://" <+: url /\ ¬"http://" <+: url then
      throw (reject profileId "start_url must use http or https scheme, got '" (url ++ "'"))

def validate : Except ConfigError Unit := do
  config.validateLimits profileId
  if config.credentialSelection.isForeign config.credentialRefs then
    throw (reject profileId "credential_selection reference must be included in credential_refs")
  if config.rules ≠ [] /\ (config.rpIds ≠ [] ∨ config.registrationAllowed ∨ config.requireUv) then
    throw (reject profileId ("explicit rules cannot be combined with legacy rp_ids, " ++
      "registration_allowed, or require_uv"))
  validateRules env profileId config.credentialRefs [] config.effectiveRules
  config.validateWildcard profileId
  config.validateBrowserCommand profileId
  config.validateMode env profileId
  config.validateStartUrl profileId

/-- What the checks say about the rules of a profile. -/
structure RulesValid : Prop where
  named : ∀ rule ∈ config.effectiveRules, rule.rpId.canonical = anyRpId ∨
    ∃ normalized, validateRpId env rule.rpId = .ok normalized
  distinct : (config.effectiveRules.map (fun rule => rule.rpId.canonical)).Nodup
  wildcard : ∀ rule ∈ config.wildcardRule, rule.permits .register = false

end AgentProfileConfig

variable {env profileId}

theorem canonical_of_any {raw : Text} (any : raw.trim = anyRpId) : raw.canonical = anyRpId := by
  rw [Text.canonical, any]
  rfl

/-- A rule that passes the loop is well named, and its name is new. -/
theorem validateRules_ok :
    ∀ {seen : List Text}, validateRules env profileId listed seen rules = .ok () ->
      (∀ rule ∈ rules, (rule.rpId.canonical = anyRpId ∨
        ∃ normalized, validateRpId env rule.rpId = .ok normalized) /\
        rule.rpId.canonical ∉ seen) /\
      (rules.map (fun rule => rule.rpId.canonical)).Nodup := by
  induction rules with
  | nil => simp
  | cons rule rest ih =>
    intro seen valid
    simp only [validateRules, bind_eq_ok, guard_eq_ok] at valid
    rcases valid with ⟨_, named, fresh, _, -, _, -, -, later⟩
    rcases ih later with ⟨each, distinct⟩
    have wellNamed : rule.rpId.canonical = anyRpId ∨
        ∃ normalized, validateRpId env rule.rpId = .ok normalized := by
      rw [validateAgentRpRuleId] at named
      split_ifs at named with any
      · exact .inl (canonical_of_any any)
      · exact .inr ⟨_, validateRpId_congr (congrArg Text.asciiLower (Text.trim_trim _).symm) named⟩
    refine ⟨?_, List.nodup_cons.mpr ⟨?_, distinct⟩⟩
    · intro other mem
      rcases List.mem_cons.mp mem with rfl | inside
      · exact ⟨wellNamed, fresh⟩
      · exact ⟨(each other inside).1, fun known => (each other inside).2 (List.mem_cons_of_mem _ known)⟩
    · intro repeated
      rcases List.mem_map.mp repeated with ⟨other, inside, same⟩
      exact (each other inside).2 (List.mem_cons.mpr (.inl same))

theorem AgentProfileConfig.rulesValid {config : AgentProfileConfig}
    (valid : config.validate env profileId = .ok ()) : config.RulesValid env := by
  simp only [validate, check_eq_ok, guard_eq_ok] at valid
  rcases valid with ⟨-, -, -, rules, wildcard, -⟩
  rcases validateRules_ok rules with ⟨each, distinct⟩
  refine ⟨fun rule mem => (each rule mem).1, distinct, ?_⟩
  intro rule found
  rw [validateWildcard, Option.mem_def.mp found] at wildcard
  simp only [guard_eq_ok] at wildcard
  exact Bool.eq_false_iff.mpr wildcard.2.2.2.1

end ControlVault.Core
