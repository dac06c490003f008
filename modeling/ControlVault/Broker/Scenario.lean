import ControlVault.Broker.Handlers
import ControlVault.Engine.Scenario

namespace ControlVault.Broker

open Foundation Core Storage

/-!
# A profile that works without a human

One isolated profile that may register and authenticate at `example.com` on its
own.  The hash function is SHA-256, and the key provider signs with a keyed hash,
so requests can be evaluated to their last byte.
-/

namespace Sample

def trusted : AgentRpRule :=
  ⟨"example.com", .autonomous, .autonomous, none⟩

def profile : AgentProfileConfig :=
  Engine.Sample.profile [trusted]

def agent : ProfileId :=
  ⟨"agent"⟩

def keys : KeyBackend where
  supportsAlgorithm := fun algorithm => algorithm = -7
  generate := fun _ => some ⟨⟨[], 0, [0x2a]⟩, [0xa5]⟩
  sign := fun key _ message => some (bytesOf (sha256 (key.material ++ message)))
  backupFlags := fun
    | .notEligible => 0
    | .eligible => 0x08
    | .backedUp => 0x18

def security : SecurityConfig :=
  ⟨false, false, false⟩

def occasion : Occasion where
  audited := true
  persisted := true
  keys
  credentialId := [7, 7]
  nowMs := 1700000000000

/-- A credential with the given identifier at a relying party. -/
def cred (id : CredentialId) (rpId : String) : Credential where
  id
  rpId := rpId.toList
  rpName := none
  userId := [1]
  userName := none
  userDisplayName := none
  signCount := 0
  alg := -7
  key := ⟨[], 0, [0x2a]⟩
  created := 1600000000000
  discoverable := true
  backupState := .notEligible
  extensions := ⟨none, none, none⟩

/-- The profile's grant for `example.com`, naming no credential. -/
def grant : Engine.Grant where
  profileId := agent
  sessionId := ⟨2⟩
  endpointId := ⟨3⟩
  principalDigest := 4
  policyGeneration := ⟨1⟩
  policyDigest := ⟨5⟩
  rpIds := .ofList ["example.com"]
  credentials := .empty
  issuedAtMono := 0
  expiryMono := 60
  state := .active

/-- A policy runtime in which the profile holds that grant and a registration grant. -/
def runtime : Engine.PolicyRuntime :=
  let registered := (Engine.Sample.start.requestRegistrationGrant agent "example.com" 60 ⟨2⟩ ⟨3⟩
    ⟨6⟩).2
  { registered with
    grants := registered.grants.modify agent (fun reg =>
      { reg with grants := reg.grants.insert ⟨7⟩ grant }) }

def state : BrokerState where
  registry := .new
  policyRuntime := runtime
  browserManager := .empty
  credentialStorage := fun _ => .new .empty

def entry : LeaseEntry where
  context := ⟨agent, ⟨7⟩, profile⟩
  keyProvider := .backend
  leaseId := some ⟨8⟩

def ctx : RegisterContext :=
  ⟨agent, profile⟩

def signRequest : SignAssertionRequest where
  origin := "https://example.com"
  topOrigin := none
  rpId := "example.com"
  challengeB64u := "AAAA"
  allowCredentials := []
  userVerification := true
  crossOrigin := false

/-- A registration whose page excludes the given identifiers. -/
def registerRequest (excluded : List CredentialId) : RegisterCredentialRequest where
  origin := "https://example.com"
  topOrigin := none
  rpId := "example.com"
  challengeB64u := "AAAA"
  userIdB64u := "AQ"
  userName := "user"
  userDisplayName := none
  rpName := none
  excludeCredentials := excluded.map b64uEncode
  pubKeyCredParams := [-257, -7]
  userVerification := true
  crossOrigin := false

/-- A store with one credential for `example.com`. -/
def ownStore : LocalStorageAdapter :=
  ((LocalStorageAdapter.new .empty).write (cred [1] "example.com") true).2

theorem ownStore_consistent : ownStore.Consistent := by
  refine LocalStorageAdapter.Consistent.write ?_ ?_ true
  · refine LocalStorageAdapter.new_consistent List.nodup_nil ?_
    intro path file never
    cases never
  · intro known never
    cases never

theorem ownStore_indexed {id : CredentialId}
    (indexed : ownStore.indexes.id.get id = some path) : id = [1] := by
  have listed : id ∈ ownStore.indexes.id.toList.map Prod.fst :=
    List.mem_map.mpr ⟨_, (Table.mem_toList _ _ _).mpr indexed, rfl⟩
  have ids : ownStore.indexes.id.toList.map Prod.fst = [[1]] := by decide +kernel
  rw [ids] at listed
  exact List.mem_singleton.mp listed

/-- The same store with a credential for `example.org` next to it. -/
def sharedStore : LocalStorageAdapter :=
  (ownStore.write (cred [2] "example.org") true).2

end Sample

end ControlVault.Broker
