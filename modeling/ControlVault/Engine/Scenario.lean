import ControlVault.Engine.History

namespace ControlVault.Engine

open Foundation Core PolicyRuntime

/-!
# Executing a list of operations

The runtime is executable, so a list of operations determines a run: the one in
which no table is reordered.  Together with one small configuration this gives
concrete runs that can be evaluated.
-/

variable {env : Env}

/-- The event of one operation in a state. -/
def performed (env : Env) (state : PolicyRuntime) (op : Operation) : Event where
  before := state
  operation := op
  answer := (state.exec env op).1
  after := (state.exec env op).2

theorem performed_step (env : Env) (state : PolicyRuntime) (op : Operation) :
    Step env state (performed env state op) (state.exec env op).2 :=
  ⟨.refl _, rfl, rfl⟩

/-- The events of a list of operations. -/
def perform (env : Env) : PolicyRuntime -> List Operation -> List Event
  | _, [] => []
  | state, op :: rest =>
    performed env state op :: perform env (state.exec env op).2 rest

/-- The state that a list of operations leads to. -/
def reached (env : Env) (state : PolicyRuntime) (ops : List Operation) :
    PolicyRuntime :=
  ops.foldl (fun state op => (state.exec env op).2) state

theorem perform_executes (env : Env) (ops : List Operation) :
    ∀ state, Executes env state (perform env state ops) (reached env state ops) := by
  induction ops with
  | nil =>
    intro state
    exact .nil
  | cons op rest ih =>
    intro state
    exact Run.append (.single (performed_step _ _ _)) (ih _)

theorem perform_operation :
    ∀ {state : PolicyRuntime}, event ∈ perform env state ops ->
      event.operation ∈ ops := by
  induction ops with
  | nil =>
    intro state mem
    cases mem
  | cons op rest ih =>
    intro state mem
    rcases List.mem_cons.mp mem with rfl | later
    · exact List.mem_cons_self
    · exact List.mem_cons_of_mem _ (ih later)

theorem drawn_perform (env : Env) (ops : List Operation) :
    ∀ state, drawn (perform env state ops) = ops.flatMap Operation.drawn := by
  induction ops with
  | nil =>
    intro state
    rfl
  | cons op rest ih =>
    intro state
    change op.drawn ++ drawn (perform env _ rest) = _
    rw [ih, List.flatMap_cons]

theorem perform_append (env : Env) (first second : List Operation) :
    ∀ state, perform env state (first ++ second) = perform env state first ++
        perform env (reached env state first) second := by
  induction first with
  | nil =>
    intro state
    rfl
  | cons op rest ih =>
    intro state
    exact congrArg (List.cons _) (ih _)

theorem perform_snoc (env : Env) (state : PolicyRuntime) (ops : List Operation)
    (last : Operation) :
    perform env state (ops ++ [last]) = perform env state ops ++
        [performed env (reached env state ops) last] :=
  perform_append env ops [last] state

/-- Operations that draw one new identifier extend a history. -/
theorem Fresh.perform
    {ops : List Operation} {id : FreshId} (env : Env) (fresh : Fresh start events)
    (draws : ops.flatMap Operation.drawn = [id]) (unused : id ∉ drawn events)
    (other : id ≠ start.current.generationId.fresh) :
    Fresh start (events ++ perform env state ops) := by
  change (_ :: drawn (events ++ _)).Nodup
  rw [drawn_append, drawn_perform, draws, <- List.cons_append, List.nodup_append]
  refine ⟨fresh, List.nodup_singleton id, ?_⟩
  intro first mem second last
  rw [List.mem_singleton.mp last]
  rcases List.mem_cons.mp mem with rfl | before
  · exact other.symm
  · rintro rfl
    exact unused before

theorem performed_authorizes {state : PolicyRuntime}
    (result : state.authorizeBound env bound req ceremony =
      ((.allow .allowed, some handle), after)) :
    (performed env state (.authorizeBound bound req ceremony)).Authorizes handle := by
  change Answer.authorized (state.authorizeBound env bound req ceremony).1.1
    (state.authorizeBound env bound req ceremony).1.2 = _
  rw [result]

theorem Started.of_perform {config : AgentConfig}
    {clockSecs clockMillis : Nat} {fresh : PolicyGenerationId} {start : PolicyRuntime}
    (created : new env config clockSecs clockMillis fresh = .ok start)
    (ops : List Operation)
    (distinct : (start.current.generationId.fresh :: ops.flatMap Operation.drawn).Nodup) :
    Started env start (perform env start ops) (reached env start ops) := by
  refine ⟨⟨config, clockSecs, clockMillis, fresh, created⟩, perform_executes _ _ _, ?_⟩
  change (_ :: drawn _).Nodup
  rw [drawn_perform]
  exact distinct

/-! ## Two small configurations

One isolated profile.  Authentication at `example.com` needs a confirmation and
everything else is denied.  The first configuration also lists `example.org`, and
denies everything there. -/

namespace Sample

def confirmed : AgentRpRule :=
  ⟨"example.com", .denied, .supervised, none⟩

def closed : AgentRpRule :=
  ⟨"example.org", .denied, .denied, none⟩

variable (rules : List AgentRpRule)

def profile : AgentProfileConfig where
  mode := .isolated
  principalUser := "agent"
  rpIds := []
  requireUv := false
  credentialRefs := none
  maxGrantTtl := none
  maxSessionTtl := none
  maxOperations := 64
  maxConcurrentSessions := 64
  browserScope := .session
  credentialSelection := .single
  humanVerificationPrompt := .always
  storage := none
  registrationAllowed := false
  rules
  device := ⟨"agent", "agent/input0", "agent-0", 0x1209, 0x0001⟩
  startUrl := none
  browserCommand := none
  browserUser := none
  browserRuntimeRoot := none
  browserCdpExpose := none
  browserCdpPort := none

def config : AgentConfig where
  enabled := true
  profiles := [("agent", profile rules)]
  increasing := List.pairwise_singleton _ _

/-- The compiled generation, with its digests written out. -/
def gen (policyDigest generationDigest : PolicyDigest) :
    PolicyGenerationSnapshot where
  generationId := ⟨1⟩
  snapshots := (compileProfile sampleEnv ("agent", profile rules)).toOption.toList.map
    (fun snap => { snap with digest := policyDigest })
  digest := generationDigest
  createdAtMono := 0

def startWith (gen : PolicyGenerationSnapshot) : PolicyRuntime where
  current := gen
  intents := .withDefaults
  grants := registriesFor gen
  registrationGrants := .empty
  pending := .empty
  pendingRequests := .empty
  clockSecs := 0
  clockMillis := 0

theorem new_of_compiled {rules : List AgentRpRule} {gen : PolicyGenerationSnapshot}
    (compiled : compileGeneration sampleEnv (config rules) 0 ⟨1⟩ = .ok gen) :
    new sampleEnv (config rules) 0 0 ⟨1⟩ = .ok (startWith gen) := by
  rw [new, compiled]
  rfl

/-- The daemon started with the first configuration. -/
def start : PolicyRuntime :=
  startWith (gen [confirmed, closed]
    ⟨0x2c2bc420f0d5b99e1aeb526dd729ca5a8176a978103cab664463adda6c0bf261⟩
    ⟨0x2eaab448c8275334a896fe17aae4fee3055e2c4a2faf4d1ef6c09ccb5db4e38c⟩)

theorem start_compiled :
    compileGeneration sampleEnv (config [confirmed, closed]) 0 ⟨1⟩ = .ok start.current := by
  decide +kernel

/-- The daemon started with the second configuration. -/
def uniform : PolicyRuntime :=
  startWith (gen [confirmed]
    ⟨0xd889a66364db924297fa10d16b7589d60368db9fe81452078d057223a353bb99⟩
    ⟨0x9e5f6c6caf218f108094949295974057b3d7e65ac32e196dc18fdd47e595383d⟩)

theorem uniform_compiled :
    compileGeneration sampleEnv (config [confirmed]) 0 ⟨1⟩ = .ok uniform.current := by
  decide +kernel

/-- An authentication at a relying party, by the session 2 of the profile. -/
def tuple (rpId : String) (credentialRef : Option CredentialRef) : CeremonyTuple where
  profileId := ⟨"agent"⟩
  sessionId := ⟨2⟩
  endpointId := ⟨3⟩
  processDigest := ⟨4⟩
  policyGeneration := ⟨1⟩
  policyDigest := ⟨0x2eaab448c8275334a896fe17aae4fee3055e2c4a2faf4d1ef6c09ccb5db4e38c⟩
  action := .authenticate
  rpId := rpId.toList
  credentialRef

/-- The same tuple under the second configuration. -/
def uniformTuple (rpId : String) (credentialRef : Option CredentialRef) : CeremonyTuple :=
  { tuple rpId credentialRef with
    policyDigest := ⟨0x9e5f6c6caf218f108094949295974057b3d7e65ac32e196dc18fdd47e595383d⟩ }

/-- A tuple with a credential, as delegated requests have it. -/
def delegatedTuple : CeremonyTuple :=
  tuple "example.com" (some ⟨9⟩)

def grantParams : GrantRequestParams where
  profileId := ⟨"agent"⟩
  sessionId := ⟨2⟩
  endpointId := ⟨3⟩
  principalDigest := 4
  rpIds := ["example.com"]
  credentials := [⟨9⟩]
  requestedTtlSecs := 60

/-- A delegated request that waits for the user. -/
def delegatedRequest : List Operation :=
  [.principalCreatePendingDelegated ⟨delegatedTuple, false, none⟩ grantParams ⟨5⟩ ⟨6⟩ ⟨7⟩]

theorem started (ops : List Operation)
    (distinct : (start.current.generationId.fresh :: ops.flatMap Operation.drawn).Nodup) :
    Started sampleEnv start (perform sampleEnv start ops)
      (reached sampleEnv start ops) :=
  .of_perform (new_of_compiled start_compiled) ops distinct

theorem uniformStarted (ops : List Operation)
    (distinct : (uniform.current.generationId.fresh :: ops.flatMap Operation.drawn).Nodup) :
    Started sampleEnv uniform (perform sampleEnv uniform ops)
      (reached sampleEnv uniform ops) :=
  .of_perform (new_of_compiled uniform_compiled) ops distinct

end Sample

end ControlVault.Engine
