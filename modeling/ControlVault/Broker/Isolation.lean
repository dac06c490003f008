import ControlVault.Broker.Scenario

namespace ControlVault.Broker

open Foundation Core Storage CredentialRef ProtocolError Option LocalStorageAdapter

/-!
# Relying parties seen through the broker

Two stores that hold the same credentials for one relying party should be
indistinguishable to it.  Assertions have that property: every access to the
store is filtered by the relying party before it can influence the answer, and
the order in which the store is traversed does not matter.

Registrations have it up to the exclude list.  A page lists raw identifiers, and
the broker looks each of them up in the whole store, so a page learns whether an
identifier it knows belongs to any credential of the profile.

References are hashes.  Credentials of the relying party are assumed to have
different references; nothing is assumed about credentials of others.
-/

variable {rpId : Text}

/-- The credential of an identifier, if it belongs to a relying party. -/
def credentialOf (store : LocalStorageAdapter) (rpId : Text) (id : CredentialId) :
    Option Credential :=
  (store.read id).toOption.filter (fun cred => cred.rpId.canonical = rpId)

/-- The stores hold the same credentials for a relying party. -/
def SameFor (rpId : Text) (first second : LocalStorageAdapter) : Prop :=
  ∀ id, credentialOf first rpId id = credentialOf second rpId id

variable {id : CredentialId} {cred : Credential} {store first second : LocalStorageAdapter}

theorem credentialOf_eq_some_iff :
    credentialOf store rpId id = some cred <->
      store.read id = .ok cred /\ cred.rpId.canonical = rpId := by
  rw [credentialOf]
  cases store.read id <;> simp [Except.toOption]

theorem SameFor.symm (same : SameFor rpId first second) : SameFor rpId second first :=
  fun id => (same id).symm

theorem SameFor.read (same : SameFor rpId first second) (found : first.read id = .ok cred)
    (here : cred.rpId.canonical = rpId) :
    second.read id = .ok cred := by
  have located : credentialOf first rpId id = some cred :=
    credentialOf_eq_some_iff.mpr ⟨found, here⟩
  rw [same id] at located
  exact (credentialOf_eq_some_iff.mp located).1

/-- Two runs end with one result and leave the same credentials for a relying party. -/
def Alike {Result : Type} (rpId : Text) (left right : Result × LocalStorageAdapter) : Prop :=
  left.1 = right.1 /\ SameFor rpId left.2 right.2

theorem Alike.eq {Result : Type} {left right : Result × LocalStorageAdapter}
    (alike : Alike rpId left right) :
    ∃ result first second, left = (result, first) /\ right = (result, second) /\
      SameFor rpId first second :=
  ⟨left.1, left.2, right.2, rfl, Prod.ext alike.1.symm rfl, alike.2⟩

theorem SameFor.write (same : SameFor rpId first second) (firstConsistent : first.Consistent)
    (secondConsistent : second.Consistent) (cred : Credential) (saved : Bool) :
    Alike rpId (first.write cred saved) (second.write cred saved) := by
  unfold LocalStorageAdapter.write
  cases ValidatedRpId.tryFrom cred.rpId with
  | error => exact ⟨rfl, same⟩
  | ok dir =>
    split_ifs
    · refine ⟨rfl, ?_⟩
      intro id
      change ((first.stored dir cred).read id).toOption.filter _ =
        ((second.stored dir cred).read id).toOption.filter _
      rw [read_stored firstConsistent.coherent.named, read_stored secondConsistent.coherent.named]
      split_ifs
      · rfl
      · exact same id
    · exact ⟨rfl, same⟩

/-- A new credential of another relying party changes nothing for this one. -/
theorem sameFor_write (consistent : store.Consistent)
    (new : store.read cred.id = .error error) (foreign : cred.rpId.canonical ≠ rpId)
    (saved : Bool) :
    SameFor rpId store (store.write cred saved).2 := by
  have written := store.write_written cred saved
  generalize store.write cred saved = outcome at written
  cases written with
  | refused => exact fun _ => rfl
  | stored =>
    intro id
    unfold credentialOf
    rw [read_stored consistent.coherent.named]
    split_ifs with same
    · have elsewhere : decide (cred.asWritten.rpId.canonical = rpId) = false :=
        decide_eq_false foreign
      rw [same, new]
      simp only [Except.toOption, filter_some, elsewhere]
      rfl
    · rfl

/-- The directory of a relying party holds only its credentials. -/
theorem canonical_of_trim {text : Text} (canonical : rpId.IsCanonical) (place : text.trim = rpId) :
    text.canonical = rpId := by
  rw [Text.canonical, place]
  exact canonical.asciiLower_eq

/-- Two well-kept stores with the same credentials for a relying party, whose references differ. -/
structure Twins (env : Env) (rpId : Text) (first second : LocalStorageAdapter) :
    Prop where
  firstConsistent : first.Consistent
  secondConsistent : second.Consistent
  same : SameFor rpId first second
  distinct : ∀ {id other : CredentialId}, (credentialOf first rpId id).isSome ->
    (credentialOf first rpId other).isSome ->
    withDefaultDomain env id =
      withDefaultDomain env other -> id = other

namespace Twins

variable {env : Env}

section

variable (twins : Twins env rpId first second)

include twins

theorem symm : Twins env rpId second first where
  firstConsistent := twins.secondConsistent
  secondConsistent := twins.firstConsistent
  same := twins.same.symm
  distinct here there := by
    rw [<- twins.same] at here there
    exact twins.distinct here there

theorem countUse_alike (security : SecurityConfig) (cred : Credential) (saved : Bool) :
    Alike rpId (countUse security first cred saved)
      (countUse security second cred saved) := by
  unfold countUse
  split_ifs
  · exact ⟨rfl, twins.same⟩
  · rcases (twins.same.write twins.firstConsistent twins.secondConsistent
      { cred with signCount := min (cred.signCount + 1) maxSignCount } saved).eq with
      ⟨wrote, left, right, leftEnd, rightEnd, kept⟩
    dsimp only
    rw [leftEnd, rightEnd]
    cases wrote with
    | error | ok => exact ⟨rfl, kept⟩

theorem createCredential_alike
    (security : SecurityConfig) (occasion : Occasion) (policy : AgentCeremonyPolicy)
    (userId : Bytes) (req : RegisterCredentialRequest) :
    Alike rpId (createCredential env security occasion policy userId req first)
      (createCredential env security occasion policy userId req second) := by
  unfold createCredential
  cases req.pubKeyCredParams.find? occasion.keys.supportsAlgorithm with
  | none => exact ⟨rfl, twins.same⟩
  | some algorithm =>
    dsimp only
    cases occasion.keys.generate algorithm with
    | none => exact ⟨rfl, twins.same⟩
    | some =>
      dsimp only
      rcases (twins.same.write twins.firstConsistent twins.secondConsistent _
        occasion.persisted).eq with ⟨wrote, left, right, leftEnd, rightEnd, kept⟩
      rw [leftEnd, rightEnd]
      cases wrote with
      | error | ok => exact ⟨rfl, kept⟩

end

/-! ## Assertions -/

variable (twins : Twins env rpId first second) (canonical : rpId.IsCanonical)

include twins canonical

/-- A reference is resolved to a credential of the relying party or not at all. -/
theorem resolve_ok_iff (ref : CredentialRef) (id : CredentialId) :
    resolveCredentialId env first ref rpId = .ok id <->
      withDefaultDomain env id = ref /\
        ∃ cred, first.read id = .ok cred /\ cred.rpId.trim = rpId := by
  unfold resolveCredentialId
  constructor
  · intro resolved
    split at resolved
    · cases resolved
    · split at resolved
      next cred found =>
        cases resolved
        have matching : withDefaultDomain env cred.id = ref := by
          simpa using List.find?_some found
        exact ⟨matching, cred, (twins.firstConsistent.mem_enumerate_byRp rpId cred).mp
          (List.mem_of_find?_eq_some found)⟩
      · cases resolved
  · rintro ⟨rfl, cred, readable, place⟩
    have named : cred.id = id := twins.firstConsistent.truthful.read_id readable
    have mem : cred ∈ first.enumerate (.byRp rpId) :=
      (twins.firstConsistent.mem_enumerate_byRp rpId cred).mpr ⟨named.symm ▸ readable, place⟩
    split
    next error failed =>
      cases listed : first.enumerate (.byRp rpId) with
      | nil =>
        rw [listed] at mem
        cases mem
      | cons head tail =>
        rw [(first.readFirst_eq_ok_iff (.byRp rpId) head).mpr ⟨tail, listed⟩] at failed
        cases failed
    · split
      next other found =>
        have matching : withDefaultDomain env other.id = withDefaultDomain env id := by
          simpa using List.find?_some found
        have otherMember := (twins.firstConsistent.mem_enumerate_byRp rpId other).mp
          (List.mem_of_find?_eq_some found)
        have otherHere := credentialOf_eq_some_iff.mpr ⟨otherMember.1, canonical_of_trim canonical otherMember.2⟩
        have idHere := credentialOf_eq_some_iff.mpr ⟨readable, canonical_of_trim canonical place⟩
        exact congrArg Except.ok
          (twins.distinct (isSome_of_mem otherHere) (isSome_of_mem idHere) matching)
      next missing =>
        have absent := List.find?_eq_none.mp missing cred mem
        rw [named] at absent
        exact absurd (decide_eq_true rfl) absent

theorem candidateFor_eq (allowCredentials : List Text) (uv : Bool) (ref : CredentialRef) :
    candidateFor env first allowCredentials uv rpId ref =
      candidateFor env second allowCredentials uv rpId ref := by
  have agree : ∀ id, resolveCredentialId env first ref rpId = .ok id <->
      resolveCredentialId env second ref rpId = .ok id := by
    intro id
    rw [twins.resolve_ok_iff canonical, twins.symm.resolve_ok_iff canonical]
    refine and_congr_right (fun _ => exists_congr (fun cred => ?_))
    constructor
    · exact fun found => ⟨twins.same.read found.1 (canonical_of_trim canonical found.2), found.2⟩
    · exact fun found => ⟨twins.same.symm.read found.1 (canonical_of_trim canonical found.2), found.2⟩
  unfold candidateFor
  cases resolved : resolveCredentialId env first ref rpId with
  | ok id =>
    rw [(agree id).mp resolved]
    rcases (twins.resolve_ok_iff canonical ref id).mp resolved with
      ⟨_, cred, found, place⟩
    dsimp only
    rw [found, twins.same.read found (canonical_of_trim canonical place)]
  | error =>
    cases other : resolveCredentialId env second ref rpId with
    | ok id =>
      rw [(agree id).mpr other] at resolved
      cases resolved
    | error => rfl

/-- A grant without credentials stands for the same references, in some order. -/
theorem credentialScope_perm (granted : List CredentialRef) :
    (credentialScope env first granted rpId).Perm (credentialScope env second granted rpId) := by
  have visited : ∀ {store other : LocalStorageAdapter}, Twins env rpId store other ->
      ∀ cred, cred ∈ (store.enumerate .none).filter (fun cred =>
        cred.rpId.asciiLower = rpId.asciiLower) ->
      cred ∈ (other.enumerate .none).filter (fun cred =>
        cred.rpId.asciiLower = rpId.asciiLower) := by
    intro store other pair cred mem
    rcases List.mem_filter.mp mem with ⟨listed, matching⟩
    have lowered : cred.rpId.asciiLower = rpId := by
      rw [of_decide_eq_true matching]
      exact canonical.asciiLower_eq
    have here : cred.rpId.canonical = rpId := by
      rw [<- Text.trim_asciiLower, lowered]
      exact canonical.trim_eq
    have readable := (pair.firstConsistent.mem_enumerate_none cred).mp listed
    exact List.mem_filter.mpr ⟨(pair.secondConsistent.mem_enumerate_none cred).mpr
      (pair.same.read readable here), matching⟩
  unfold credentialScope
  split_ifs
  · refine List.Perm.map _ ((List.perm_ext_iff_of_nodup ?_ ?_).mpr ?_)
    · exact twins.firstConsistent.nodup_enumerate_none.filter _
    · exact twins.secondConsistent.nodup_enumerate_none.filter _
    · exact fun cred => ⟨visited twins cred, visited twins.symm cred⟩
  · exact List.Perm.refl _

theorem candidatesFor_perm (granted : List CredentialRef) (allowCredentials : List Text) (uv : Bool) :
    (candidatesFor env first granted allowCredentials uv rpId).Perm
      (candidatesFor env second granted allowCredentials uv rpId) := by
  unfold candidatesFor
  rw [funext (twins.candidateFor_eq canonical allowCredentials uv)]
  exact (twins.credentialScope_perm canonical granted).filterMap _

variable {req : SignAssertionRequest}

theorem chooseCredential_eq (config : AgentProfileConfig) (grant : Engine.Grant)
    (policy : AgentCeremonyPolicy) (at_ : req.rpId.canonical = rpId) :
    chooseCredential env config first grant policy req =
      chooseCredential env config second grant policy req := by
  have permuted := twins.candidatesFor_perm canonical grant.credentials.elements
    req.allowCredentials (vouches policy.userVerification)
  have determined : ∀ candidate ∈ candidatesFor env first grant.credentials.elements
      req.allowCredentials (vouches policy.userVerification) rpId,
      ∀ other ∈ candidatesFor env first grant.credentials.elements
        req.allowCredentials (vouches policy.userVerification) rpId,
      candidate.reference = other.reference -> candidate.id = other.id := by
    intro candidate mem other otherMember same
    rcases List.mem_filterMap.mp mem with ⟨ref, _, found⟩
    rcases List.mem_filterMap.mp otherMember with ⟨otherReference, _, otherFound⟩
    rcases candidateFor_some found with ⟨rfl, resolved, _⟩
    rcases candidateFor_some otherFound with ⟨rfl, otherResolved, _⟩
    rw [<- same, resolved] at otherResolved
    exact Except.ok.inj otherResolved
  unfold chooseCredential
  rw [at_]
  dsimp only
  rw [selectCredential_perm permuted determined, permuted.isEmpty_eq]

theorem chosen_read (at_ : req.rpId.canonical = rpId) {id : CredentialId}
    (chosen : chooseCredential env config first grant policy req = .ok id) :
    ∃ cred, first.read id = .ok cred /\ second.read id = .ok cred := by
  unfold chooseCredential at chosen
  dsimp only at chosen
  split_ifs at chosen
  rcases selectCredential_mem chosen with ⟨candidate, mem, rfl⟩
  rcases List.mem_filterMap.mp mem with ⟨ref, _, found⟩
  rw [at_] at found
  rcases (twins.resolve_ok_iff canonical ref candidate.id).mp (candidateFor_some found).2.1 with
    ⟨_, cred, readable, place⟩
  exact ⟨cred, readable, twins.same.read readable (canonical_of_trim canonical place)⟩

theorem assertFrom_alike (security : SecurityConfig) (occasion : Occasion)
    (config : AgentProfileConfig) (grant : Engine.Grant) (policy : AgentCeremonyPolicy)
    (at_ : req.rpId.canonical = rpId) :
    Alike rpId (assertFrom env security occasion config grant policy req first)
      (assertFrom env security occasion config grant policy req second) := by
  unfold assertFrom
  rw [<- twins.chooseCredential_eq canonical config grant policy at_]
  cases chosen : chooseCredential env config first grant policy req with
  | error error => exact ⟨rfl, twins.same⟩
  | ok id =>
    rcases twins.chosen_read canonical at_ chosen with ⟨cred, found, found'⟩
    dsimp only
    split_ifs
    · exact ⟨rfl, twins.same⟩
    · unfold signWith
      rw [found, found']
      dsimp only
      split_ifs
      · exact ⟨rfl, twins.same⟩
      · rcases (twins.countUse_alike security cred occasion.persisted).eq with
          ⟨counted, left, right, leftEnd, rightEnd, kept⟩
        rw [leftEnd, rightEnd]
        cases counted with
        | error error => exact ⟨rfl, kept⟩
        | ok signCount =>
          dsimp only
          cases assertWith env occasion.keys policy req cred signCount with
          | none | some => exact ⟨rfl, kept⟩

end Twins

/-! ## Requests over a store -/

section Runs

variable (env : Env) (security : SecurityConfig) (occasion : Occasion) (now : Nat)
  (state : BrokerState)

/-- A sign request over a given store of its profile: the answer and the store afterwards. -/
def signRun (entry : LeaseEntry) (req : SignAssertionRequest) (store : LocalStorageAdapter) :
    Except ProtocolError SignAssertionResponse × LocalStorageAdapter :=
  let owner := CredentialNamespace.of entry.context.profileId entry.context.profileConfig.mode
  let answer := sign env security occasion now entry req (state.withStorage owner store)
  (answer.1, answer.2.credentialStorage owner)

/-- A registration over a given store of its profile. -/
def registerRun (ctx : RegisterContext) (req : RegisterCredentialRequest)
    (store : LocalStorageAdapter) :
    Except ProtocolError RegisterCredentialResponse × LocalStorageAdapter :=
  let owner := CredentialNamespace.of ctx.profileId ctx.profileConfig.mode
  let answer := register env security occasion ctx req (state.withStorage owner store)
  (answer.1, answer.2.credentialStorage owner)

/-- The registration passes every check before the exclude list. -/
def ReachesExcludeList (ctx : RegisterContext) (req : RegisterCredentialRequest) : Prop :=
  verifyOriginContext req.origin req.topOrigin req.crossOrigin req.rpId.canonical = true /\
    (state.policyRuntime.activeRegistrationGrant ctx.profileId req.rpId.canonical).isSome /\
    (checkRegister env security ctx.profileConfig req).isOk

theorem signRun_alike (twins : Twins env rpId first second) (entry : LeaseEntry)
    {req : SignAssertionRequest} (at_ : req.rpId.canonical = rpId) :
    Alike rpId (signRun env security occasion now state entry req first)
      (signRun env security occasion now state entry req second) := by
  have canonical : rpId.IsCanonical := at_ ▸ Text.isCanonical_canonical req.rpId
  unfold signRun sign
  cases verifyOriginContext req.origin req.topOrigin req.crossOrigin req.rpId.canonical with
  | false => exact ⟨rfl, by simpa using twins.same⟩
  | true =>
    dsimp only [BrokerState.withStorage]
    simp only [↓reduceIte]
    cases checkSign env security entry.context.profileConfig
      (state.policyRuntime.resolveGrantForSign entry.context.profileId
        entry.context.activeGrantId).1 req with
    | error error => exact ⟨rfl, by simpa using twins.same⟩
    | ok permitted =>
      rcases permitted with ⟨grant, policy⟩
      dsimp only
      rcases (twins.assertFrom_alike canonical security occasion entry.context.profileConfig
        grant policy at_).eq with ⟨asserted, left, right, leftEnd, rightEnd, kept⟩
      rw [leftEnd, rightEnd]
      cases asserted with
      | error error => exact ⟨rfl, by simpa using kept⟩
      | ok response =>
        rcases activate state.browserManager now entry.keyProvider with ⟨released, mgr⟩
        cases released with
        | error | ok => exact ⟨rfl, by simpa using kept⟩

/-- What a registration does once its exclude list has let it through. -/
def enroll (ctx : RegisterContext) (req : RegisterCredentialRequest)
    (grantId : RegistrationGrantId) (policy : AgentCeremonyPolicy) (userId : Bytes)
    (store : LocalStorageAdapter) :
    Except ProtocolError RegisterCredentialResponse × LocalStorageAdapter :=
  if !occasion.audited then (.error (.internal "audit record failed" .retry), store)
  else
    match (state.policyRuntime.consumeRegistrationGrant ctx.profileId grantId).1 with
    | .error _ =>
      (.error (.conflict "registration enrollment grant was already consumed"), store)
    | .ok () => createCredential env security occasion policy userId req store

variable {ctx : RegisterContext}

theorem registerRun_reached (reaches : ReachesExcludeList env security state ctx req) :
    ∃ grantId policy userId, ∀ store : LocalStorageAdapter,
      registerRun env security occasion state ctx req store =
        if isExcluded store req.excludeCredentials then
          (.error (.conflict "credential matches exclude list"), store)
        else enroll env security occasion state ctx req grantId policy userId store := by
  rcases reaches with ⟨origin, granted, checked⟩
  rcases isSome_iff_exists.mp granted with ⟨⟨grantId, grant⟩, active⟩
  cases passed : checkRegister env security ctx.profileConfig req with
  | error error =>
    rw [passed] at checked
    cases checked
  | ok permitted =>
    rcases permitted with ⟨policy, userId⟩
    refine ⟨grantId, policy, userId, ?_⟩
    intro store
    unfold registerRun register enroll
    dsimp only [BrokerState.withStorage]
    rw [origin, active, passed]
    simp only [Bool.not_true, Bool.false_eq_true, ↓reduceIte]
    split_ifs with excluded unaudited
    · exact Prod.ext rfl (if_pos rfl)
    · exact Prod.ext rfl (if_pos rfl)
    · cases (state.policyRuntime.consumeRegistrationGrant ctx.profileId grantId).1 with
      | error | ok => exact Prod.ext rfl (if_pos rfl)

/-- Nothing after the exclude list is answered like a match of it. -/
theorem enroll_ne (ctx : RegisterContext) (req : RegisterCredentialRequest)
    (grantId : RegistrationGrantId) (policy : AgentCeremonyPolicy) (userId : Bytes)
    (store : LocalStorageAdapter) :
    (enroll env security occasion state ctx req grantId policy userId store).1 ≠
      .error (.conflict "credential matches exclude list") := by
  have created : (createCredential env security occasion policy userId req store).1 ≠
      .error (.conflict "credential matches exclude list") := by
    unfold createCredential
    split
    · exact fun same => absurd (congrArg code (Except.error.inj same)) (by decide)
    · split
      · exact fun same => absurd (congrArg code (Except.error.inj same)) (by decide)
      · split
        · exact fun same => absurd (congrArg code (Except.error.inj same)) (by decide)
        · exact nofun
  unfold enroll
  split_ifs
  · exact fun same => absurd (congrArg code (Except.error.inj same)) (by decide)
  · split
    · exact fun same => absurd (congrArg message (Except.error.inj same)) (by decide)
    · exact created

theorem enroll_alike (twins : Twins env rpId first second) (ctx : RegisterContext)
    (req : RegisterCredentialRequest) (grantId : RegistrationGrantId)
    (policy : AgentCeremonyPolicy) (userId : Bytes) :
    Alike rpId (enroll env security occasion state ctx req grantId policy userId first)
      (enroll env security occasion state ctx req grantId policy userId second) := by
  unfold enroll
  split_ifs
  · exact ⟨rfl, twins.same⟩
  · cases (state.policyRuntime.consumeRegistrationGrant ctx.profileId grantId).1 with
    | error error => exact ⟨rfl, twins.same⟩
    | ok done => exact twins.createCredential_alike security occasion policy userId req

/-- A registration refused before its exclude list is answered without the store. -/
theorem registerRun_refused (refused : ¬ ReachesExcludeList env security state ctx req) :
    ∃ error, ∀ store : LocalStorageAdapter,
      registerRun env security occasion state ctx req store = (.error error, store) := by
  unfold registerRun register
  dsimp only [BrokerState.withStorage]
  by_cases origin : verifyOriginContext req.origin req.topOrigin req.crossOrigin
      req.rpId.canonical = true
  · rw [origin]
    cases active : state.policyRuntime.activeRegistrationGrant ctx.profileId req.rpId.canonical with
    | none => exact ⟨_, fun store => Prod.ext rfl (if_pos rfl)⟩
    | some grant =>
      cases passed : checkRegister env security ctx.profileConfig req with
      | error error => exact ⟨_, fun store => Prod.ext rfl (if_pos rfl)⟩
      | ok =>
        refine absurd ⟨origin, ?_, ?_⟩ refused
        · rw [active]
          rfl
        · rw [passed]
          rfl
  · rw [Bool.eq_false_iff.mpr origin]
    exact ⟨_, fun store => Prod.ext rfl (if_pos rfl)⟩

/-- A registration tells the stores apart exactly by its exclude list. -/
theorem registerRun_alike_iff (twins : Twins env rpId first second) (ctx : RegisterContext)
    (req : RegisterCredentialRequest) :
    Alike rpId (registerRun env security occasion state ctx req first)
        (registerRun env security occasion state ctx req second) <->
      (ReachesExcludeList env security state ctx req ->
        isExcluded first req.excludeCredentials =
          isExcluded second req.excludeCredentials) := by
  by_cases reaches : ReachesExcludeList env security state ctx req
  · rcases registerRun_reached env security occasion state reaches with
      ⟨grantId, policy, userId, answer⟩
    have proceeds := enroll_ne env security occasion state ctx req grantId policy userId
    rw [answer first, answer second]
    cases isExcluded first req.excludeCredentials <;>
      cases isExcluded second req.excludeCredentials
    · exact iff_of_true (enroll_alike env security occasion state twins ctx req
        grantId policy userId) (fun _ => rfl)
    · exact iff_of_false (fun alike => proceeds first alike.1) (fun same => by cases same reaches)
    · exact iff_of_false (fun alike => proceeds second alike.1.symm) (fun same => by cases same reaches)
    · exact iff_of_true ⟨rfl, twins.same⟩ (fun _ => rfl)
  · rcases registerRun_refused env security occasion state reaches with ⟨error, answer⟩
    rw [answer first, answer second]
    exact ⟨fun _ never => absurd never reaches, fun _ => ⟨rfl, twins.same⟩⟩

/-- Neither an assertion nor a registration at a relying party tells two stores apart. -/
def Indistinguishable (rpId : Text) (first second : LocalStorageAdapter) (entry : LeaseEntry)
    (signRequest : SignAssertionRequest) (ctx : RegisterContext)
    (registerRequest : RegisterCredentialRequest) : Prop :=
  Alike rpId (signRun env security occasion now state entry signRequest first)
      (signRun env security occasion now state entry signRequest second) /\
    Alike rpId (registerRun env security occasion state ctx registerRequest first)
      (registerRun env security occasion state ctx registerRequest second)

/-- Requests at a relying party see nothing of other credentials, unless an exclude list that is
looked at names a credential of one store and none of the other. -/
theorem indistinguishable_iff {rpId : Text} {first second : LocalStorageAdapter}
    (twins : Twins env rpId first second) (entry : LeaseEntry)
    {signRequest : SignAssertionRequest} (signAt : signRequest.rpId.canonical = rpId)
    (ctx : RegisterContext) (registerRequest : RegisterCredentialRequest) :
    Indistinguishable env security occasion now state rpId first second entry signRequest
        ctx registerRequest <->
      (ReachesExcludeList env security state ctx registerRequest ->
        isExcluded first registerRequest.excludeCredentials =
          isExcluded second registerRequest.excludeCredentials) := by
  rw [<- registerRun_alike_iff env security occasion state twins ctx registerRequest]
  exact and_iff_right (signRun_alike env security occasion now state twins entry signAt)

end Runs

/-! ## A page that asks about another relying party -/

namespace Sample

theorem ownStore_ids {id : CredentialId} (here : (credentialOf ownStore "example.com" id).isSome) :
    id = [1] := by
  rcases isSome_iff_exists.mp here with ⟨found, located⟩
  rcases read_eq_ok_iff.mp (credentialOf_eq_some_iff.mp located).1 with
    ⟨path, indexed, _⟩
  exact ownStore_indexed indexed

theorem twins : Twins sampleEnv "example.com" ownStore sharedStore := by
  have new : ownStore.read (cred [2] "example.org").id = .error .doesNotExist := by
    decide +kernel
  constructor
  · exact ownStore_consistent
  · refine ownStore_consistent.write ?_ true
    intro known never
    cases never
  · exact sameFor_write ownStore_consistent new (by decide +kernel) true
  · intro id other here there _
    rw [ownStore_ids here, ownStore_ids there]

/-- A registration excludes the identifier of a credential of `example.org`, and the answer
says whether the profile has it. -/
theorem exclude_list_reveals_foreign_credential :
    Twins sampleEnv "example.com" ownStore sharedStore /\
      (registerRun sampleEnv security occasion state ctx (registerRequest [[2]]) sharedStore).1 =
        .error (.conflict "credential matches exclude list") /\
      (registerRun sampleEnv security occasion state ctx (registerRequest [[2]])
        ownStore).1.isOk = true := by
  refine ⟨twins, ?_⟩
  decide +kernel

/-- A page that excludes only its own credentials learns nothing. -/
theorem sample_indistinguishable :
    Indistinguishable sampleEnv security occasion 0 state "example.com" ownStore sharedStore
      entry signRequest ctx (registerRequest [[1]]) :=
  (indistinguishable_iff sampleEnv security occasion 0 state twins entry rfl ctx
    (registerRequest [[1]])).mpr (fun _ => by decide +kernel)

end Sample

end ControlVault.Broker
