import ControlVault.Broker.Handlers
import ControlVault.Ceremony.Handler

namespace ControlVault.Daemon

open Foundation Core Engine Browser Storage
open Broker Ceremony

/-!
# The state of the agent runtime

The runtime joins what the other components keep: the token registry, the policy
runtime, the browser leases and the credential stores, together the state of the
broker, and one record for each profile.  A profile has its endpoint, its slot
for a prepared ceremony, the request that waits in it, its browsers and the
sessions of its principals.

The source keeps the sessions in a second map with the same profiles, created
together with the first; here they are a field of the profile.  A profile is
named by its key.
-/

/-- The request that stands in a profile's slot.  The lease it could name never is. -/
structure PendingRuntime where
  requestId : PendingRequestId
  prepGeneration : Nat
  sessionId : PrincipalSessionId

/-- A browser that several sessions of a profile use.  Its reference count is the number of
attached sessions. -/
structure SharedBrowserLease where
  leaseId : BrowserLeaseId
  attachedSessions : List PrincipalSessionId

/-- The secret a principal proves its session with. -/
structure Capability where
  bits : BitVec 256

structure ManagedPrincipalSession where
  sessionId : PrincipalSessionId
  processDigest : ProcessIdentityDigest
  capability : Capability
  deadline : Nat

structure ProfileRuntime where
  profileConfig : AgentProfileConfig
  endpointId : Option EndpointId
  preparationSlot : CeremonyPreparationSlot
  currentPending : Option PendingRuntime
  activeBrowser : Table PrincipalSessionId BrowserLeaseId
  sharedBrowser : Option SharedBrowserLease
  enabled : Bool
  managedSessions : List ManagedPrincipalSession

namespace ProfileRuntime

def mode (profile : ProfileRuntime) : AgentMode :=
  profile.profileConfig.mode

/-- The configuration names the reference. -/
def lists (profile : ProfileRuntime) (ref : CredentialRef) : Bool :=
  profile.profileConfig.credentialRefs.any (fun references => references.elem ref)

/-- The profile as it is when the daemon starts. -/
def start (profileConfig : AgentProfileConfig) (endpointId : Option EndpointId) : ProfileRuntime where
  profileConfig
  endpointId
  preparationSlot := .new
  currentPending := none
  activeBrowser := .empty
  sharedBrowser := none
  enabled := true
  managedSessions := []

end ProfileRuntime

structure AgentRuntime extends BrokerState where
  profiles : Table ProfileId ProfileRuntime
  agentConfig : AgentConfig
  security : SecurityConfig
  /-- The clock of sessions, leases and budgets, in milliseconds. -/
  instant : Nat

namespace AgentRuntime

variable (runtime : AgentRuntime)

/-- The store of a profile, without the scope of a ceremony. -/
def storageOf (profileId : ProfileId) (profile : ProfileRuntime) :
    LocalStorageAdapter :=
  runtime.credentialStorage (.of profileId profile.mode)

/-- Change one profile. -/
def modifyProfile (profileId : ProfileId) (update : ProfileRuntime -> ProfileRuntime) : AgentRuntime :=
  { runtime with profiles := runtime.profiles.modify profileId update }

def withPolicy (policyRuntime : PolicyRuntime) : AgentRuntime :=
  { runtime with policyRuntime }

def withRegistry (reg : SignContextRegistry) : AgentRuntime :=
  { runtime with registry := reg }

def withBrowsers (browserManager : BrowserProcessManager) : AgentRuntime :=
  { runtime with browserManager }

end AgentRuntime

end ControlVault.Daemon
