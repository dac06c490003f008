import ControlVault.Broker.Scenario
import ControlVault.Daemon.State

namespace ControlVault.Daemon

open Foundation Core Storage Broker

/-!
# A daemon with small profiles

Isolated profiles that may do everything at `example.com`, on top of the broker's
sample state.
-/

namespace Sample

/-- A profile for `example.com` that lists the given references. -/
def config (references : Option (List CredentialRef)) : AgentProfileConfig :=
  { Broker.Sample.profile with
    rpIds := ["example.com"]
    credentialRefs := references }

def referenceOf (id : CredentialId) : CredentialRef :=
  .withDefaultDomain sampleEnv id

/-- A running profile with an endpoint. -/
def profileFor (config : AgentProfileConfig) : ProfileRuntime :=
  .start config (some ⟨3⟩)

/-- A daemon with the given profiles and stores. -/
def runtimeFor (profiles : Table ProfileId ProfileRuntime)
    (stores : CredentialNamespace -> LocalStorageAdapter) : AgentRuntime where
  toBrokerState := { Broker.Sample.state with credentialStorage := stores }
  profiles
  agentConfig := Engine.Sample.config [Broker.Sample.trusted]
  security := Broker.Sample.security
  instant := 0

end Sample

end ControlVault.Daemon
