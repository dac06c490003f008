import ControlVault.Broker.RegistrationReload

namespace ControlVault.Broker

open Core Engine PolicyRuntime

/-!
# What a failed registration costs

The register handler takes the grant before it chooses an algorithm, generates
the key and writes the credential.  A call that fails earlier changes nothing; a
call that fails in one of the last three steps has used up its grant.
-/

section Failing

variable {env : Env} {security : SecurityConfig} {occasion : Occasion} {ctx : RegisterContext}
  {req : RegisterCredentialRequest} {before : BrokerState}

end Failing

namespace Sample

end Sample

end ControlVault.Broker
