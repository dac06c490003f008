import ControlVault.Engine.Queries

namespace ControlVault.Ceremony

open Foundation Core Engine

/-!
# Ceremonies at an endpoint

The endpoint of an isolated profile accepts a ceremony only after a principal
prepared it.  The preparation stands in a slot of the profile; the handler
compares it with the command, asks the user where the policy says so, has the
policy runtime approve, authorize and consume the request, and only then
forwards the command to the authenticator.

The prompt, the audit log and the authenticator are outside; what they answer is
the `Environment` of a command.
-/

/-- What a principal prepared.  The texts that only the prompt shows are left out. -/
structure CeremonyPreparation where
  sessionId : PrincipalSessionId
  processDigest : ProcessIdentityDigest
  policyGeneration : PolicyGenerationId
  policyDigest : PolicyDigest
  credentialRef : Option CredentialRef
  rpId : Text
  action : IntentAction
  requireUv : Bool

/-- At most one preparation, with the number it was installed under. -/
structure CeremonyPreparationSlot where
  preparation : Option (CeremonyPreparation × Nat)
  generationCounter : Nat

namespace CeremonyPreparationSlot

def new : CeremonyPreparationSlot where
  preparation := none
  generationCounter := 0

variable (slot : CeremonyPreparationSlot)

/-- The number of the new preparation; none when the slot is taken. -/
def install (preparation : CeremonyPreparation) :
    Option Nat × CeremonyPreparationSlot :=
  match slot.preparation with
  | some _ => (none, slot)
  | none =>
    (some (slot.generationCounter + 1),
      { preparation := some (preparation, slot.generationCounter + 1)
        generationCounter := slot.generationCounter + 1 })

def clearMatching (gen : Nat) : CeremonyPreparationSlot :=
  { slot with preparation := slot.preparation.filter (fun entry => entry.2 ≠ gen) }

def clearAll : CeremonyPreparationSlot :=
  { slot with preparation := none }

end CeremonyPreparationSlot

/-! ## Commands and their environment -/

inductive CeremonyError
  | emptyInput
  | commandTooShort
  | invalidCbor
  | duplicateKey
  | notAMap
  | wrongCommand
  | missingField (field : Text)
  | invalidFieldType (field : Text)
  | rpIdEmpty
  | rpIdTooLong
  | rpIdInvalid
  | credentialIdTooLarge
  | tooManyDescriptors
  | authDataTooShort
  | upNotSet
  | uvNotSet
  | malformedResponse
  | nonZeroStatus
  deriving DecidableEq

/-- A parsed command with the credentials it allows. -/
inductive ParsedCeremonyRequest
  | makeCredential (rpId : Text)
  | getAssertion (rpId : Text) (allowRefs : List CredentialRef)

namespace ParsedCeremonyRequest

def action : ParsedCeremonyRequest -> IntentAction
  | makeCredential _ => .register
  | getAssertion _ _ => .authenticate

def rpId : ParsedCeremonyRequest -> Text
  | makeCredential rpId => rpId
  | getAssertion rpId _ => rpId

/-- The credential of an assertion that allows exactly one. -/
def credentialRef : ParsedCeremonyRequest -> Option CredentialRef
  | getAssertion _ [ref] => some ref
  | _ => none

/-- The prepared credential is the one the assertion allows. -/
def allowsOnly (expected : Option CredentialRef) : ParsedCeremonyRequest -> Bool
  | makeCredential _ => true
  | getAssertion _ allowRefs => expected.all (fun ref => allowRefs = [ref])

end ParsedCeremonyRequest

inductive PromptDecision
  | approved
  | denied
  | timeout
  | error
  deriving DecidableEq

/-- The records a ceremony writes and cannot do without. -/
inductive AuditPoint
  | policyDeny
  | promptDisplay
  | promptDecision
  | policyAllow
  | ceremonyStart
  | ceremonySuccess
  deriving DecidableEq

/-- How the authenticator answers a forwarded command. -/
inductive InnerResponse
  | failed
  | empty
  | refused
  | answered (parsed : Except CeremonyError Unit)

structure Environment where
  promptBuilds : Bool
  prompt : PromptDecision
  auditAccepts : AuditPoint -> Bool
  inner : InnerResponse
  freshGrant : GrantId
  freshCeremony : CeremonyId

inductive AgentCeremonyError
  | consumeFailed (reason : ReasonCode)
  | auditFailed
  | responseParseFailed (error : CeremonyError)
  | innerHandlerFailed
  | scopeActivationFailed
  | credentialMismatch
  | promptDenied
  | promptTimeout
  | promptError
  | pendingResolveFailed
  | promptBuildFailed
  | boundAuthorizeFailed
  | noPreparation
  | policyDenied (reason : ReasonCode)

/-- Whether the command reached the authenticator, and what came of it. -/
inductive CeremonyAnswer
  | refused (error : AgentCeremonyError)
  | forwarded (result : Except AgentCeremonyError Unit)

/-- What is fixed for an endpoint. -/
structure StaticCeremonyContext where
  profileId : ProfileId
  endpointId : EndpointId
  requireUv : Bool

/-! ## The handler -/

/-- What a command works on: the policy runtime and the slot of the profile. -/
structure CeremonyState where
  policyRuntime : PolicyRuntime
  preparationSlot : CeremonyPreparationSlot

namespace CeremonyState

def clearPreparation (state : CeremonyState) (gen : Nat) : CeremonyState :=
  { state with preparationSlot := state.preparationSlot.clearMatching gen }

def clearAll (state : CeremonyState) : CeremonyState :=
  { state with preparationSlot := state.preparationSlot.clearAll }

/-- End the request that waits for the tuple, whatever comes of it. -/
def denyPending (state : CeremonyState) (tuple : CeremonyTuple) : CeremonyState :=
  { state with policyRuntime := (state.policyRuntime.ceremonyDenyPending tuple).2 }

/-- What a ceremony asks the policy runtime for. -/
def ceremonyTuple (ctx : StaticCeremonyContext) (preparation : CeremonyPreparation)
    (credentialRef : Option CredentialRef) : CeremonyTuple where
  profileId := ctx.profileId
  sessionId := preparation.sessionId
  endpointId := ctx.endpointId
  processDigest := preparation.processDigest
  policyGeneration := preparation.policyGeneration
  policyDigest := preparation.policyDigest
  action := preparation.action
  rpId := preparation.rpId
  credentialRef

def promptFailure : PromptDecision -> AgentCeremonyError
  | .timeout => .promptTimeout
  | .error => .promptError
  | _ => .promptDenied

end CeremonyState

end ControlVault.Ceremony
