import ControlVault.Authenticator.Scenario
import ControlVault.Foundation.SelfDelimiting

namespace ControlVault.Authenticator

open Foundation Core Storage AuthenticatorService List

/-!
# Which vendor commands have an effect

A client that knows the PIN obtains a token and makes a parameter with it over
the data of the one operation it wants.  A command should have no effect without
such a parameter.

Backup and restore read the parameter before anything else happens, and stop if
it is missing.  The reset of the retry counters verifies a parameter that it can
read, and goes on without one otherwise; it is the only way around the check.

The data of an operation is a hash of its fields with their lengths.  Two
operations have the same data only if they are the same or the hash collides on
the two of them.
-/

variable {Core Store Retries : Type}

/-! ## The data of an operation -/

namespace VendorOperation

/-- The bytes of the command and its operands, as they go into the data. -/
def parts : VendorOperation -> UInt8 × UInt8 × List Bytes
  | .prepare id recipient => (cmdPasslessBackup, backupPrepareSubcommand, [id, recipient.utf8])
  | .commit id token => (cmdPasslessBackup, backupCommitSubcommand, [id, token])
  | .restore bundle replace => (cmdPasslessRestore, 0, [bundle, [if replace then 1 else 0]])
  | .resetUvRetries => (cmdPasslessResetUvRetries, resetUvRetriesSubcommand, [])

def preimage (op : VendorOperation) : Bytes :=
  authFields op.parts.1 op.parts.2.1 op.parts.2.2

/-- No operand is longer than memory can hold. -/
def Fits (op : VendorOperation) : Prop :=
  ∀ field ∈ op.parts.2.2, field.length < 256 ^ 8

theorem parts_injective {first second : VendorOperation} (same : first.parts = second.parts) :
    first = second := by
  have flag_injective : ∀ replace other : Bool,
      (if replace then (1 : UInt8) else 0) = (if other then 1 else 0) -> replace = other := by
    decide
  -- the command byte, and the subcommand of a backup, tell the kinds apart
  cases first <;> cases second <;>
    simp only [parts, Prod.mk.injEq, cons.injEq, and_true, true_and] at same
  case prepare.prepare => rw [same.1, Text.utf8_injective same.2]
  case commit.commit => rw [same.1, same.2]
  case restore.restore => rw [same.1, flag_injective _ _ same.2]
  case resetUvRetries.resetUvRetries => rfl
  all_goals exact absurd same.1 (by decide)

end VendorOperation

theorem field_delimits :
    Delimits (fun field : Bytes => field.length < 256 ^ 8)
      (fun field => Broker.toBeBytes 8 field.length ++ field) Eq := by
  intro first second firstFits secondFits rest otherRest equal
  rw [append_assoc, append_assoc] at equal
  rcases append_inj equal
    ((Broker.length_toBeBytes 8 _).trans (Broker.length_toBeBytes 8 _).symm) with ⟨lengths, tails⟩
  exact append_inj tails (Broker.toBeBytes_injective firstFits secondFits lengths)

theorem authFields_injective (fits : ∀ field ∈ fields, field.length < 256 ^ 8)
    (othersFit : ∀ field ∈ others, field.length < 256 ^ 8) (lengths : fields.length = others.length)
    (same : authFields command subcommand fields = authFields otherCommand otherSubcommand others) :
    command = otherCommand /\ subcommand = otherSubcommand /\ fields = others := by
  unfold authFields at same
  rw [append_assoc, append_assoc, append_cancel_left_eq] at same
  simp only [cons_append, cons.injEq] at same
  rcases same with ⟨commands, subcommands, rest⟩
  have related := (field_delimits.flatMap fits othersFit lengths (congrArg (· ++ []) rest)).1
  exact ⟨commands, subcommands, forall₂_eq_eq_eq ▸ related⟩

theorem authData_cases (env : Env) (op : VendorOperation) :
    (op = .resetUvRetries /\ (op.authData env).length = 2) ∨
      op.authData env = bytesOf (env.sha256 op.preimage) /\
        op.parts.2.2.length = 2 := by
  cases op with
  | resetUvRetries => exact .inl ⟨rfl, rfl⟩
  | _ => exact .inr ⟨rfl, rfl⟩

/-- The data of two operations are the same only if the operations are, or the hash collides. -/
theorem authData_binds (env : Env) {op other : VendorOperation}
    (fits : op.Fits) (otherFits : other.Fits)
    (distinct : env.sha256 other.preimage = env.sha256 op.preimage ->
      other.preimage = op.preimage)
    (same : other.authData env = op.authData env) : other = op := by
  rcases authData_cases env op with ⟨rfl, short⟩ | ⟨hashed, fields⟩ <;>
    rcases authData_cases env other with ⟨rfl, otherShort⟩ | ⟨otherHashed, otherFields⟩
  · rfl
  · rw [same] at otherHashed
    have lengths := congrArg length otherHashed
    cases lengths
  · rw [<- same] at hashed
    have lengths := congrArg length hashed
    cases lengths
  · rw [hashed, otherHashed] at same
    rcases authFields_injective otherFits fits (otherFields.trans fields.symm)
      (distinct (Broker.bytesOf_injective same)) with ⟨command, subcommand, operands⟩
    exact VendorOperation.parts_injective (Prod.ext command (Prod.ext subcommand operands))

/-! ## Effects -/

section Effects

variable (env : Env) (lib : AuthenticatorLibrary Core Store Retries)
  (occasion : CommandOccasion Store)

/-- The request carries this parameter for this operation. -/
def Carries (req : Bytes) (asked : AuthorizedRequest) : Prop :=
  ∃ command payload map, req = command :: payload /\ lib.parseMap payload = .ok map /\
    ((command = cmdPasslessBackup /\ map.backupRequest = .ok asked) ∨
      (command = cmdPasslessRestore /\ map.restoreRequest = .ok asked) ∨
      (command = cmdPasslessResetUvRetries /\ map.resetRequest = .ok () /\
        map.resetParameter = some (asked.protocol, asked.param) /\
        asked.operation = .resetUvRetries))

/-- The answer behind the bytes of a vendor command. -/
def vendorAnswer (service : AuthenticatorService Core Store) (req : Bytes) :
    Option (Except StatusCode VendorBody) :=
  match service.refreshBuiltInUvState lib, req with
  | some refreshed, command :: payload =>
    (refreshed.vendorCommand env lib occasion command).map (fun handler => (handler payload).1)
  | _, _ => none

/-- The credentials, the retry counters and the prepared backups stayed as they were. -/
structure Untouched (before after : AuthenticatorService Core Store) : Prop where
  storage : after.storage = before.storage
  pendingBackups : after.pendingBackups = before.pendingBackups
  retries : lib.retries after.authenticator = lib.retries before.authenticator

/-- The request changed something or brought a bundle. -/
def HasEffect (service : AuthenticatorService Core Store) (req : Bytes) : Prop :=
  ¬Untouched lib service (service.handle env lib occasion req).2 ∨
    ∃ bundle token, vendorAnswer env lib occasion service req =
      some (.ok (.bundle bundle token))

/-- The request carries a parameter that verifies over data that binds the whole operation. -/
def IsAuthorized (made : Core -> UInt8 -> Bytes -> Bytes -> Prop)
    (service : AuthenticatorService Core Store) (req : Bytes) : Prop :=
  ∃ asked refreshed, Carries lib req asked /\
    service.refreshBuiltInUvState lib = some refreshed /\
    (lib.verify refreshed.authenticator asked.protocol asked.param
      (asked.operation.authData env)).1 = .ok () /\
    made refreshed.authenticator asked.protocol asked.param (asked.operation.authData env) /\
    ∀ other : VendorOperation, other.Fits -> asked.operation.Fits ->
      (env.sha256 other.preimage = env.sha256 asked.operation.preimage ->
        other.preimage = asked.operation.preimage) ->
      other.authData env = asked.operation.authData env -> other = asked.operation

/-- A reset that comes without a readable parameter and changes the retry counters. -/
def IsOpenReset (service : AuthenticatorService Core Store) (req : Bytes) : Prop :=
  ∃ payload map refreshed next, req = cmdPasslessResetUvRetries :: payload /\
    lib.parseMap payload = .ok map /\ map.resetRequest = .ok () /\ map.resetParameter = none /\
    service.refreshBuiltInUvState lib = some refreshed /\
    lib.resetUvRetries refreshed.authenticator = some next /\
    lib.retries next ≠ lib.retries service.authenticator

end Effects

variable {env : Env} {lib : AuthenticatorLibrary Core Store Retries}
  {occasion : CommandOccasion Store} {service : AuthenticatorService Core Store}
  {refreshed : AuthenticatorService Core Store} {asked : AuthorizedRequest} {authenticator : Core}
  {payload : Bytes}

theorem refreshed_untouched (refresh : service.refreshBuiltInUvState lib = some refreshed) :
    Untouched lib service refreshed := by
  unfold refreshBuiltInUvState at refresh
  split at refresh
  · rcases Option.map_eq_some_iff.mp refresh with ⟨_, announced, rfl⟩
    exact ⟨rfl, rfl, lib.retries_setBuiltInUvState _ _ _ announced⟩
  · cases refresh
    exact ⟨rfl, rfl, rfl⟩

/-- A command that did nothing but answer with an error. -/
def Refused (lib : AuthenticatorLibrary Core Store Retries)
    (service : AuthenticatorService Core Store)
    (outcome : VendorResult Core Store) : Prop :=
  (∃ status, outcome.1 = .error status) /\ Untouched lib service outcome.2

theorem refused_same (status : StatusCode) : Refused lib service (.error status, service) :=
  ⟨⟨status, rfl⟩, rfl, rfl, rfl⟩

/-- The parameter verifies, and the library moves on to this state. -/
def Verifies (env : Env) (lib : AuthenticatorLibrary Core Store Retries)
    (service : AuthenticatorService Core Store) (asked : AuthorizedRequest)
    (authenticator : Core) : Prop :=
  lib.verify service.authenticator asked.protocol asked.param
    (asked.operation.authData env) = (.ok (), authenticator)

theorem authorize_of_verifies (verified : Verifies env lib service asked authenticator) :
    service.authorize env lib occasion asked =
      { service with authenticator }.perform env lib occasion
        asked.operation := by
  unfold authorize
  rw [verified]

/-- A request is refused unless its parameter verifies. -/
theorem authorize_cases (asked : AuthorizedRequest) :
    Refused lib service (service.authorize env lib occasion asked) ∨
      ∃ authenticator, Verifies env lib service asked authenticator := by
  unfold authorize Verifies
  have kept := lib.retries_verify service.authenticator asked.protocol asked.param
    (asked.operation.authData env)
  generalize lib.verify service.authenticator asked.protocol asked.param
    (asked.operation.authData env) = verified at kept
  rcases verified with ⟨status | _, authenticator⟩
  · exact .inl ⟨⟨status, rfl⟩, rfl, rfl, kept⟩
  · exact .inr ⟨authenticator, rfl⟩

/-- Two operations are authorised over the same data exactly if they are the same, and a
parameter that verifies over the data of one of them admits no other. -/
theorem authData_unambiguous (op other : VendorOperation) (fits : op.Fits) (otherFits : other.Fits)
    (collisionFree : env.sha256 other.preimage = env.sha256 op.preimage ->
      other.preimage = op.preimage) :
    (other.authData env = op.authData env <-> other = op) /\
      ∀ (service : AuthenticatorService Core Store) (protocol : UInt8) (param : Bytes),
        (∀ data, (lib.verify service.authenticator protocol param data).1 = .ok () ->
          data = op.authData env) -> other ≠ op ->
        Refused lib service (service.authorize env lib occasion ⟨other, protocol, param⟩) := by
  have binds := authData_binds env fits otherFits collisionFree
  refine ⟨⟨binds, congrArg _⟩, ?_⟩
  intro service protocol param made different
  rcases @authorize_cases _ _ _ env lib occasion service ⟨other, protocol, param⟩ with
    refused | ⟨_, verified⟩
  · exact refused
  · exact absurd (binds (made _ (congrArg Prod.fst verified))) different

/-- The feature is on, and the payload asks for something with a parameter that verifies. -/
structure Admitted (env : Env) (lib : AuthenticatorLibrary Core Store Retries)
    (service : AuthenticatorService Core Store)
    (parse : ParsedMap -> Except StatusCode AuthorizedRequest) (payload : Bytes)
    (map : ParsedMap) (asked : AuthorizedRequest) (authenticator : Core) : Prop where
  enabled : service.credentialBackupEnabled = true
  supported : service.credentialBackupSupported = true
  parsed : lib.parseMap payload = .ok map
  read : parse map = .ok asked
  verified : Verifies env lib service asked authenticator

variable {parse : ParsedMap -> Except StatusCode AuthorizedRequest} {req : Bytes}

theorem Admitted.handled {map : ParsedMap}
    (admitted : Admitted env lib service parse payload map asked authenticator) :
    service.handleFeatureCommand env lib occasion parse payload =
      { service with authenticator }.perform env lib occasion
        asked.operation := by
  have off : ¬(!service.credentialBackupEnabled || !service.credentialBackupSupported) = true := by
    rw [admitted.enabled, admitted.supported]
    decide
  unfold handleFeatureCommand
  rw [if_neg off, admitted.parsed]
  dsimp only
  rw [admitted.read]
  exact authorize_of_verifies admitted.verified

theorem handleFeatureCommand_cases (parse : ParsedMap -> Except StatusCode AuthorizedRequest)
    (payload : Bytes) :
    Refused lib service (service.handleFeatureCommand env lib occasion parse payload) ∨
      ∃ map asked authenticator,
        Admitted env lib service parse payload map asked authenticator := by
  unfold handleFeatureCommand
  split
  · exact .inl (refused_same _)
  · rename_i off
    rw [Bool.or_eq_true, Bool.not_eq_true', Bool.not_eq_true', not_or, Bool.not_eq_false,
      Bool.not_eq_false] at off
    cases parsed : lib.parseMap payload with
    | error => exact .inl (refused_same _)
    | ok map =>
      dsimp only
      cases read : parse map with
      | error => exact .inl (refused_same _)
      | ok asked =>
        rcases @authorize_cases _ _ _ env lib occasion service asked with
          refused | ⟨authenticator, verified⟩
        · exact .inl refused
        · exact .inr ⟨map, asked, authenticator, off.1, off.2, parsed, read, verified⟩

/-- A reset without a readable parameter is carried out as it is. -/
theorem handleResetCommand_cases (payload : Bytes) :
    Refused lib service (service.handleResetCommand env lib occasion payload) ∨
      ∃ map, lib.parseMap payload = .ok map /\ map.resetRequest = .ok () /\
        ((∃ protocol param, map.resetParameter = some (protocol, param) /\
            (lib.verify service.authenticator protocol param
              (VendorOperation.resetUvRetries.authData env)).1 = .ok ()) ∨
          map.resetParameter = none /\ service.handleResetCommand env lib occasion payload =
              service.resetUvRetries lib) := by
  unfold handleResetCommand
  cases parsed : lib.parseMap payload with
  | error => exact .inl (refused_same _)
  | ok map =>
    dsimp only
    cases asked : map.resetRequest with
    | error => exact .inl (refused_same _)
    | ok _ =>
      cases given : map.resetParameter with
      | none => exact .inr ⟨map, rfl, asked, .inr ⟨given, rfl⟩⟩
      | some parameter =>
        rcases @authorize_cases _ _ _ env lib occasion service
          ⟨.resetUvRetries, parameter.1, parameter.2⟩ with refused | ⟨_, verified⟩
        · exact .inl refused
        · exact .inr ⟨map, rfl, asked, .inl ⟨_, _, given, congrArg Prod.fst verified⟩⟩

theorem Untouched.trans (before : Untouched lib first second) (after : Untouched lib second third) :
    Untouched lib first third :=
  ⟨after.storage.trans before.storage, after.pendingBackups.trans before.pendingBackups,
    after.retries.trans before.retries⟩

theorem resetUvRetries_untouched
    (same : ∀ next, lib.resetUvRetries service.authenticator = some next ->
      lib.retries next = lib.retries service.authenticator) :
    Untouched lib service (service.resetUvRetries lib).2 := by
  unfold resetUvRetries
  split
  · exact ⟨rfl, rfl, rfl⟩
  · rename_i next reset
    exact ⟨rfl, rfl, same next reset⟩

theorem resetUvRetries_ne_bundle (bundle token : Bytes) :
    (service.resetUvRetries lib).1 ≠ .ok (.bundle bundle token) := by
  unfold resetUvRetries
  split <;> simp

/-- What a vendor command does once the state of user verification is announced. -/
theorem handle_vendor (refresh : service.refreshBuiltInUvState lib = some refreshed)
    (named : refreshed.vendorCommand env lib occasion command = some handler) :
    service.handle env lib occasion (command :: payload) =
        (some (respond lib (handler payload).1), (handler payload).2) /\
      vendorAnswer env lib occasion service (command :: payload) =
        some (handler payload).1 := by
  unfold handle vendorAnswer
  rw [refresh]
  dsimp only
  rw [named]
  exact ⟨rfl, rfl⟩

/-- The three commands. -/
def IsVendorCommand (req : Bytes) : Prop :=
  req.head? = some cmdPasslessBackup ∨ req.head? = some cmdPasslessRestore ∨
    req.head? = some cmdPasslessResetUvRetries

theorem not_hasEffect_of_refused (refresh : service.refreshBuiltInUvState lib = some refreshed)
    (named : refreshed.vendorCommand env lib occasion command = some handler)
    (refused : Refused lib refreshed (handler payload)) :
    ¬HasEffect env lib occasion service (command :: payload) := by
  rcases handle_vendor refresh named with ⟨handled, answered⟩
  rcases refused with ⟨⟨_, failed⟩, same⟩
  rintro (touched | ⟨bundle, token, returned⟩)
  · apply touched
    rw [handled]
    exact (refreshed_untouched refresh).trans same
  · rw [answered, failed] at returned
    cases returned

section Vendor

variable (refresh : service.refreshBuiltInUvState lib = some refreshed)

include refresh

theorem feature_effect (named : refreshed.vendorCommand env lib occasion command =
      some (refreshed.handleFeatureCommand env lib occasion parse))
    (effect : HasEffect env lib occasion service (command :: payload)) :
    ∃ map asked, lib.parseMap payload = .ok map /\ parse map = .ok asked /\
      (lib.verify refreshed.authenticator asked.protocol asked.param
        (asked.operation.authData env)).1 = .ok () := by
  rcases @handleFeatureCommand_cases _ _ _ env lib occasion refreshed parse payload with
    refused | ⟨map, asked, _, admitted⟩
  · exact absurd effect (not_hasEffect_of_refused refresh named refused)
  · exact ⟨map, asked, admitted.parsed, admitted.read, congrArg Prod.fst admitted.verified⟩

theorem reset_effect (effect : HasEffect env lib occasion service
      (cmdPasslessResetUvRetries :: payload)) :
    (∃ map protocol param, lib.parseMap payload = .ok map /\ map.resetRequest = .ok () /\
        map.resetParameter = some (protocol, param) /\
        (lib.verify refreshed.authenticator protocol param
          (VendorOperation.resetUvRetries.authData env)).1 = .ok ()) ∨
      IsOpenReset lib service (cmdPasslessResetUvRetries :: payload) := by
  have named : refreshed.vendorCommand env lib occasion cmdPasslessResetUvRetries =
    some (refreshed.handleResetCommand env lib occasion) := rfl
  rcases @handleResetCommand_cases _ _ _ env lib occasion refreshed payload with
    refused | ⟨map, parsed, asked, ⟨protocol, param, given, verified⟩ | ⟨missing, carriedOut⟩⟩
  · exact absurd effect (not_hasEffect_of_refused refresh named refused)
  · exact .inl ⟨map, protocol, param, parsed, asked, given, verified⟩
  · by_contra neither
    rw [not_or] at neither
    have same : ∀ next, lib.resetUvRetries refreshed.authenticator = some next ->
        lib.retries next = lib.retries refreshed.authenticator := by
      intro next reset
      by_contra changed
      rw [(refreshed_untouched refresh).retries] at changed
      exact neither.2 ⟨payload, map, refreshed, next, rfl, parsed, asked, missing, refresh, reset,
        changed⟩
    rcases handle_vendor refresh named with ⟨handled, answered⟩
    rcases effect with touched | ⟨bundle, token, returned⟩
    · apply touched
      rw [handled, carriedOut]
      exact (refreshed_untouched refresh).trans (resetUvRetries_untouched same)
    · rw [answered, carriedOut, Option.some.injEq] at returned
      exact resetUvRetries_ne_bundle bundle token returned

end Vendor

/-- Every effect is authorised, or the request is an open reset. -/
theorem effect_cases (vendor : IsVendorCommand req)
    (effect : HasEffect env lib occasion service req) :
    (∃ asked refreshed, Carries lib req asked /\
        service.refreshBuiltInUvState lib = some refreshed /\
        (lib.verify refreshed.authenticator asked.protocol asked.param
          (asked.operation.authData env)).1 = .ok ()) ∨
      IsOpenReset lib service req := by
  cases refresh : service.refreshBuiltInUvState lib with
  | none =>
    exfalso
    rcases effect with touched | ⟨_, _, returned⟩
    · apply touched
      rw [handle, refresh]
      exact ⟨rfl, rfl, rfl⟩
    · unfold vendorAnswer at returned
      rw [refresh] at returned
      cases returned
  | some refreshed =>
    cases req with
    | nil => rcases vendor with never | never | never <;> cases never
    | cons command payload =>
      rcases vendor with same | same | same <;> cases same
      · rcases feature_effect refresh rfl effect with ⟨map, asked, parsed, read, verified⟩
        exact .inl ⟨asked, refreshed, ⟨_, payload, map, rfl, parsed, .inl ⟨rfl, read⟩⟩, rfl,
          verified⟩
      · rcases feature_effect refresh rfl effect with ⟨map, asked, parsed, read, verified⟩
        exact .inl ⟨asked, refreshed, ⟨_, payload, map, rfl, parsed, .inr (.inl ⟨rfl, read⟩)⟩,
          rfl, verified⟩
      · rcases reset_effect refresh effect with
          ⟨map, protocol, param, parsed, asked, given, verified⟩ | reset
        · exact .inl ⟨⟨.resetUvRetries, protocol, param⟩, refreshed,
            ⟨_, payload, map, rfl, parsed, .inr (.inr ⟨rfl, asked, given, rfl⟩)⟩, rfl, verified⟩
        · exact .inr reset

/-- An open reset has an effect and carries nothing. -/
theorem openReset_effect (reset : IsOpenReset lib service req) :
    HasEffect env lib occasion service req /\ ∀ asked, ¬Carries lib req asked := by
  rcases reset with
    ⟨_, _, refreshed, _, rfl, parsed, subcommand, missing, refresh, done, changed⟩
  constructor
  · have named : refreshed.vendorCommand env lib occasion cmdPasslessResetUvRetries =
      some (refreshed.handleResetCommand env lib occasion) := rfl
    refine .inl ?_
    intro untouched
    apply changed
    have kept := untouched.retries
    rw [(handle_vendor refresh named).1] at kept
    dsimp only [handleResetCommand] at kept
    rw [parsed] at kept
    dsimp only at kept
    rw [subcommand, missing] at kept
    dsimp only [resetUvRetries] at kept
    rw [done] at kept
    exact kept
  · rintro asked ⟨command, rest, other, same, read, ⟨backup, _⟩ | ⟨restore, _⟩ | ⟨_, _, given, _⟩⟩
    · cases same
      exact absurd backup (by decide)
    · cases same
      exact absurd restore (by decide)
    · cases same
      rw [parsed] at read
      cases read
      rw [missing] at given
      cases given

/-- Every effect of a vendor command is authorised, exactly if the command is not a reset that
comes without a readable parameter and changes the retry counters. -/
theorem vendor_effect_authorized_iff (env : Env)
    (lib : AuthenticatorLibrary Core Store Retries) (occasion : CommandOccasion Store)
    (service : AuthenticatorService Core Store) (req : Bytes)
    (made : Core -> UInt8 -> Bytes -> Bytes -> Prop)
    (sound : ∀ core protocol param data, (lib.verify core protocol param data).1 = .ok () ->
      made core protocol param data)
    (vendor : IsVendorCommand req) :
    (HasEffect env lib occasion service req -> IsAuthorized env lib made service req) <->
      ¬IsOpenReset lib service req := by
  constructor
  · intro authorized reset
    rcases openReset_effect reset with ⟨effect, bare⟩
    rcases authorized effect with ⟨asked, _, carried, _⟩
    exact bare asked carried
  · intro closed effect
    rcases (effect_cases vendor effect).resolve_right closed with
      ⟨asked, refreshed, carried, refresh, verified⟩
    exact ⟨asked, refreshed, carried, refresh, verified, sound _ _ _ _ verified,
      fun other otherFits fits distinct same => authData_binds env fits otherFits distinct same⟩

namespace Sample

/-- A storage that is empty and stays so. -/
def noStorage : StorageCalls Unit where
  read _ _ := .error .doesNotExist
  delete _ _ := (.error .doesNotExist, ())
  write _ _ := (.error .other, ())
  rewrite _ _ := (.error .other, ())

def quietOccasion : CommandOccasion Unit where
  calls := noStorage
  library := backupLibrary
  nonce := replicate 12 0
  drawn := nonce_drawn

/-- A service with a PIN whose user verification is blocked. -/
def blocked : AuthenticatorService Sample.Core Unit where
  authenticator := ⟨[1, 2, 3], 0⟩
  storage := ()
  builtInUvPolicy := true
  maxUvRetries := 3
  credentialBackupEnabled := false
  credentialBackupSupported := false
  pendingBackups := .empty
  pinConfigured := true

/-- A backup and a commit of the same bytes are authorised apart. -/
theorem prepare_commit_apart :
    (VendorOperation.commit [1] (Text.utf8 "phone")).authData sampleEnv ≠
      (VendorOperation.prepare [1] "phone").authData sampleEnv := by
  intro same
  have fits : (VendorOperation.prepare [1] "phone").Fits /\
      (VendorOperation.commit [1] (Text.utf8 "phone")).Fits := by
    unfold VendorOperation.Fits
    decide
  cases (@authData_unambiguous _ _ _ _ (Sample.lib Unit) quietOccasion _ _ fits.1 fits.2
    (fun collides => absurd collides (by decide +kernel))).1.mp same

/-- A reset with the subcommand alone. -/
def bareReset : Bytes :=
  [cmdPasslessResetUvRetries, 0xa1, 0x01, 0x01]

/-- A reset without a parameter is carried out although a PIN is set. -/
theorem bare_reset_unblocks :
    blocked.pinConfigured = true /\ IsVendorCommand bareReset /\
      HasEffect sampleEnv (Sample.lib Unit) quietOccasion blocked bareReset /\
      ¬IsAuthorized sampleEnv (Sample.lib Unit) madeWithToken blocked bareReset := by
  have reset : IsOpenReset (Sample.lib Unit) blocked bareReset :=
    ⟨[0xa1, 0x01, 0x01], parsedMap [(.integer 1, .integer 1)], blocked, _, rfl, rfl, rfl, rfl, rfl,
      rfl, by decide⟩
  rcases @openReset_effect _ _ _ sampleEnv (Sample.lib Unit) quietOccasion blocked _ reset with
    ⟨effect, bare⟩
  refine ⟨rfl, .inr (.inr rfl), effect, ?_⟩
  rintro ⟨asked, _, carried, _⟩
  exact bare asked carried

/-- A reset with the parameter of the current token. -/
def signedReset : Bytes :=
  [cmdPasslessResetUvRetries, 0xa3, 0x01, 0x01, 0x03, 0x02, 0x04, 0x58, 0x20] ++
    parameter [1, 2, 3] [cmdPasslessResetUvRetries, resetUvRetriesSubcommand]

/-- A reset with the parameter of the current token is carried out and is authorized. -/
theorem signed_reset_authorized :
    HasEffect sampleEnv (Sample.lib Unit) quietOccasion blocked signedReset /\
      IsAuthorized sampleEnv (Sample.lib Unit) madeWithToken blocked signedReset := by
  have effect :
      HasEffect sampleEnv (Sample.lib Unit) quietOccasion blocked signedReset := by
    refine .inl ?_
    intro untouched
    have kept := untouched.retries
    revert kept
    decide +kernel
  refine ⟨effect, (vendor_effect_authorized_iff sampleEnv (Sample.lib Unit) quietOccasion
    blocked signedReset madeWithToken (library_sound Unit) (.inr (.inr rfl))).mpr ?_ effect⟩
  rintro ⟨payload, map, refreshed, next, same, parsed, _, missing, _⟩
  have present : ((((Sample.lib Unit).parseMap signedReset.tail).toOption.bind
      ParsedMap.resetParameter).isSome) = true := by
    decide +kernel
  have tail : signedReset.tail = payload := congrArg tail same
  rw [tail, parsed] at present
  change (map.resetParameter).isSome = true at present
  rw [missing] at present
  cases present

end Sample

end ControlVault.Authenticator
