import ControlVault.Engine.GrantEffects

namespace ControlVault.Engine

open Foundation Core Table GrantRegistry SortedSet

/-!
# Grants that are requested, approved and taken back

A browser launch requests a grant and approves it in the same breath, and revokes
it when a later part of the launch fails.  The approval of a request that was
just accepted can fail for one reason only: the registry has as many active
grants as it may have.  Then the request stays open.  Otherwise a revocation
leaves neither an active grant nor an open request behind that was not there
before.
-/

variable {rpIds : SortedSet Text} {credentials : SortedSet CredentialRef} {before : PolicyRuntime}

namespace GrantRegistry

def isRequestOpen (reg : GrantRegistry) (id : GrantRequestId) : Bool :=
  (reg.pendingRequests.get id).any (fun req => !req.resolved)

/-- Neither an active grant nor an open request was added. -/
structure NoMore (before after : GrantRegistry) : Prop where
  grants : ∀ id, after.isGrantActive id = true -> before.isGrantActive id = true
  requests : ∀ id, after.isRequestOpen id = true -> before.isRequestOpen id = true

theorem Shrinks.noMore {before : GrantRegistry} (shrinks : before.Shrinks after) :
    before.NoMore after := by
  constructor
  · intro id active
    have move := shrinks.grants id
    rw [isGrantActive] at active ⊢
    generalize before.grants.get id = first at move ⊢
    generalize after.grants.get id = second at move active
    cases move with
    | kept => exact active
    | left _ final => exact absurd active (by simpa [Grant.isActive] using final)
  · intro id isOpen
    have move := shrinks.requests id
    rw [isRequestOpen] at isOpen ⊢
    generalize before.pendingRequests.get id = first at move ⊢
    generalize after.pendingRequests.get id = second at move isOpen
    cases move with
    | kept => exact isOpen
    | cancelled | removed => cases isOpen

/-! ## The approval of an accepted request -/

/-- A credential set that was accepted is accepted again in its sorted form. -/
theorem credentialScope_again {allowEmptyCredentials : Bool} {credentials : List CredentialRef}
    {set : SortedSet CredentialRef}
    (accepted : credentialScope allowEmptyCredentials credentials = .ok set) :
    ∃ again, credentialScope allowEmptyCredentials set.elements = .ok again := by
  unfold credentialScope at accepted
  split_ifs at accepted with dynamic
  · cases accepted
    refine ⟨.empty, if_pos ?_⟩
    rw [Bool.and_eq_true] at dynamic
    rw [dynamic.1]
    rfl
  · unfold credentialSet at accepted
    split_ifs at accepted with none tooMany
    cases accepted
    have some : (ofList credentials).elements.isEmpty = false := by
      rcases List.exists_mem_of_ne_nil credentials (by simpa using none) with ⟨first, mem⟩
      have inside := (mem_ofList credentials first).mpr mem
      cases elements : (ofList credentials).elements with
      | nil =>
        rw [elements] at inside
        cases inside
      | cons _ _ => rfl
    have few : ¬maxCredentialsPerGrant < (ofList credentials).elements.length :=
      not_lt.mpr ((length_ofList_le credentials).trans (not_lt.mp tooMany))
    refine ⟨.ofList (ofList credentials).elements, ?_⟩
    rw [credentialScope, some, Bool.and_false, if_neg Bool.false_ne_true, credentialSet, some,
      if_neg Bool.false_ne_true, if_neg few]

/-- The registry after a request was accepted. -/
structure Accepted (reg : GrantRegistry) (now : Nat) (fresh : GrantRequestId)
    (req : GrantRequest) (after : GrantRegistry) : Prop where
  after_eq : after = { reg with
    lastSeenMono := now
    pendingRequests := reg.pendingRequests.insert fresh req }
  unresolved : req.resolved = false
  rpIds : ∃ rpIds, validateRpIds req.rpIds = .ok rpIds
  credentials : ∃ credentials,
    credentialScope req.allowEmptyCredentials req.credentials = .ok credentials

theorem requestGrantInner_ok {reg : GrantRegistry} {id : GrantRequestId}
    (attempt : reg.requestGrantInner now params allowEmptyCredentials fresh = (.ok id, after)) :
    id = fresh /\ ∃ req, reg.Accepted now fresh req after /\
      req.requestedTtlSecs = params.requestedTtlSecs := by
  unfold requestGrantInner at attempt
  rcases lt_or_ge now reg.lastSeenMono with late | order
  · rw [checkClock_of_lt late] at attempt
    cases attempt
  · rw [checkClock_of_le order] at attempt
    dsimp only at attempt
    split at attempt
    · cases attempt
    · rename_i rpIds validated
      split at attempt
      · cases attempt
      · rename_i credentials scope
        split_ifs at attempt
        · cases attempt
        · cases attempt
        · cases attempt
          exact ⟨rfl, _, ⟨rfl, rfl, ⟨rpIds, validated⟩, credentialScope_again scope⟩, rfl⟩

variable {reg after : GrantRegistry} {now : Nat} {fresh : GrantRequestId} {req : GrantRequest}

/-- The registry has as many active grants as it may have. -/
def IsFull (reg : GrantRegistry) : Prop :=
  reg.maxConcurrentGrants <= reg.activeCount

section

variable (accepted : reg.Accepted now fresh req after)

include accepted

theorem Accepted.found : after.pendingRequests.get fresh = some req := by
  rw [accepted.after_eq]
  exact get_insert_self _ _ _

/-- A full registry refuses and keeps the request. -/
theorem Accepted.approve_of_full (full : reg.IsFull) (grantId : GrantId) :
    after.approveGrant now fresh grantId =
      (.error (.maxConcurrentGrantsExceeded reg.maxConcurrentGrants), after) := by
  have order : after.lastSeenMono <= now := by
    rw [accepted.after_eq]
  have same : { after with lastSeenMono := now } = after := by
    rw [accepted.after_eq]
  have stillFull : after.maxConcurrentGrants <= after.activeCount := by
    rw [accepted.after_eq]
    exact full
  have refused : after.approvable fresh =
      .error (.maxConcurrentGrantsExceeded reg.maxConcurrentGrants) := by
    rw [approvable, accepted.found]
    simp only [accepted.unresolved, Bool.false_eq_true, if_false, if_pos stillFull]
    rw [accepted.after_eq]
  rw [approveGrant, checkClock_of_le order, same]
  simp only [refused]

theorem Accepted.approve_of_not_full (room : ¬reg.IsFull) (grantId : GrantId) :
    ∃ rpIds credentials, after.approveGrant now fresh grantId =
      (.ok grantId, after.afterApproval now fresh grantId req rpIds credentials) := by
  have order : after.lastSeenMono <= now := by
    rw [accepted.after_eq]
  have stillRoom : ¬after.maxConcurrentGrants <= after.activeCount := by
    rw [accepted.after_eq]
    exact room
  rcases accepted.rpIds with ⟨rpIds, validated⟩
  rcases accepted.credentials with ⟨credentials, scope⟩
  have checks : after.approvable fresh = .ok (req, rpIds, credentials) := by
    rw [approvable, accepted.found]
    simp only [accepted.unresolved, Bool.false_eq_true, if_false, if_neg stillRoom, validated, scope]
  refine ⟨rpIds, credentials, ?_⟩
  rw [approveGrant, checkClock_of_le order]
  have same : approvable { after with lastSeenMono := now } fresh = after.approvable fresh := rfl
  simp only [same, checks]
  rfl

/-- Once the issued grant is revoked, nothing was added. -/
theorem Accepted.withdrawn
    (revocation : (after.afterApproval now fresh grantId req rpIds credentials).revokeGrant
      grantId = (.ok .revoked, revoked)) : reg.NoMore (revoked.cancelClaimsForGrant grantId) := by
  unfold revokeGrant at revocation
  rw [afterApproval, get_insert_self] at revocation
  simp only [issuedGrant, ne_eq, not_true_eq_false, if_false, Prod.mk.injEq, true_and] at revocation
  subst revocation
  have grants : after.grants = reg.grants := by
    rw [accepted.after_eq]
  have requests : after.pendingRequests = reg.pendingRequests.insert fresh req := by
    rw [accepted.after_eq]
  constructor
  · intro id active
    rw [isGrantActive, cancelClaimsForGrant, get_insert, get_insert, grants] at active
    split_ifs at active
    · cases active
    · exact active
  · intro id isOpen
    rw [isRequestOpen, cancelClaimsForGrant, get_insert, requests, get_insert] at isOpen
    split_ifs at isOpen
    · cases isOpen
    · exact isOpen

end

end GrantRegistry

namespace PolicyRuntime

def hasActiveGrant (runtime : PolicyRuntime) (profileId : ProfileId) (grantId : GrantId) : Bool :=
  (runtime.grants.get profileId).any (fun reg => reg.isGrantActive grantId)

def hasOpenRequest (runtime : PolicyRuntime) (profileId : ProfileId) (requestId : GrantRequestId) :
    Bool :=
  (runtime.grants.get profileId).any (fun reg => reg.isRequestOpen requestId)

/-- Neither an active grant nor an open request was added for any profile. -/
structure NoMore (before after : PolicyRuntime) : Prop where
  grants : ∀ profileId id, after.hasActiveGrant profileId id = true ->
    before.hasActiveGrant profileId id = true
  requests : ∀ profileId id, after.hasOpenRequest profileId id = true ->
    before.hasOpenRequest profileId id = true

theorem NoMore.of_registries {after : PolicyRuntime}
    (registries : ∀ profileId reg, after.grants.get profileId = some reg ->
      ∃ old, before.grants.get profileId = some old /\ old.NoMore reg) : before.NoMore after := by
  constructor <;> intro profileId id held
  · rcases (Option.any_eq_true _ _).mp held with ⟨reg, found, active⟩
    rcases registries profileId reg found with ⟨old, was, noMore⟩
    exact (Option.any_eq_true _ _).mpr ⟨old, was, noMore.grants id active⟩
  · rcases (Option.any_eq_true _ _).mp held with ⟨reg, found, isOpen⟩
    rcases registries profileId reg found with ⟨old, was, noMore⟩
    exact (Option.any_eq_true _ _).mpr ⟨old, was, noMore.requests id isOpen⟩

theorem NoMore.of_shrinks {after : PolicyRuntime}
    (shrinks : ∀ profileId, RegistryShrinks (before.grants.get profileId)
      (after.grants.get profileId)) : before.NoMore after := by
  apply NoMore.of_registries
  intro profileId reg found
  have move := shrinks profileId
  rw [found] at move
  generalize before.grants.get profileId = old at move
  cases move with
  | shrunk smaller => exact ⟨_, rfl, smaller.noMore⟩

/-- Identifiers that no registry has seen. -/
def Unused (runtime : PolicyRuntime) (requestId : GrantRequestId) (grantId : GrantId) : Prop :=
  ∀ profileId reg, runtime.grants.get profileId = some reg ->
    reg.pendingRequests.get requestId = none /\ reg.grants.get grantId = none

section Launch

variable {runtime : PolicyRuntime} {fresh id : GrantRequestId} {grantId : GrantId}

theorem adminRequestGrantInner_error
    (attempt : runtime.adminRequestGrantInner params allowEmptyCredentials fresh =
      (.error error, requested)) : runtime.NoMore requested := by
  apply NoMore.of_shrinks
  intro profileId
  unfold adminRequestGrantInner at attempt
  split at attempt
  · cases attempt
    exact .refl _
  · rename_i reg registered
    have spec := reg.requestGrantInner_spec runtime.clockSecs params allowEmptyCredentials fresh
    generalize reg.requestGrantInner runtime.clockSecs params allowEmptyCredentials fresh =
      outcome at spec attempt
    rcases outcome with ⟨_, _⟩
    rcases attempt with ⟨rfl, rfl⟩
    cases spec with
    | refused shrinks => exact .of_insert registered shrinks profileId

theorem adminRequestGrantInner_ok
    (attempt : runtime.adminRequestGrantInner params allowEmptyCredentials fresh =
      (.ok id, requested)) :
    id = fresh /\ ∃ reg req after, runtime.grants.get params.profileId = some reg /\
      reg.requestGrantInner runtime.clockSecs params allowEmptyCredentials fresh =
        (.ok fresh, after) /\
      reg.Accepted runtime.clockSecs fresh req after /\
      requested = { runtime with grants := runtime.grants.insert params.profileId after } := by
  unfold adminRequestGrantInner at attempt
  split at attempt
  · cases attempt
  · rename_i reg registered
    generalize outcome : reg.requestGrantInner runtime.clockSecs params allowEmptyCredentials
      fresh = result at attempt
    rcases result with ⟨_, changed⟩
    rcases attempt with ⟨rfl, rfl⟩
    rcases requestGrantInner_ok outcome with ⟨rfl, req, accepted, -⟩
    exact ⟨rfl, reg, req, changed, registered, outcome, accepted, rfl⟩

variable {reg after : GrantRegistry} {req : GrantRequest} {profileId : ProfileId}

section

variable (unused : runtime.Unused fresh grantId)

include unused

/-- Another registry has nothing to approve. -/
theorem Unused.approve_other (found : runtime.grants.get other = some tried) (now : Nat) :
    (tried.approveGrant now fresh grantId).1.toOption = none /\
      tried.Shrinks (tried.approveGrant now fresh grantId).2 := by
  have spec := tried.approveGrant_spec now fresh grantId
  generalize tried.approveGrant now fresh grantId = outcome at spec ⊢
  rcases outcome with ⟨_, _⟩
  cases spec with
  | late _ shrinks => exact ⟨rfl, shrinks⟩
  | refused _ _ shrinks => exact ⟨rfl, shrinks⟩
  | issued _ checks =>
    have stored := (approvable_ok checks).1
    rw [(unused other tried found).1] at stored
    cases stored

section

variable (registered : runtime.grants.get profileId = some reg)
  (accepted : reg.Accepted runtime.clockSecs fresh req after)

include registered accepted

theorem adminApproveGrant_of_full (full : reg.IsFull) :
    ∃ error refused, adminApproveGrant
        { runtime with grants := runtime.grants.insert profileId after } fresh grantId =
          (.error error, refused) /\ refused.hasOpenRequest profileId fresh = true := by
  have tried := tryEach_spec (fun reg : GrantRegistry =>
    ((reg.approveGrant runtime.clockSecs fresh grantId).1.toOption,
      (reg.approveGrant runtime.clockSecs fresh grantId).2))
    (runtime.grants.insert profileId after)
  have refusal := accepted.approve_of_full full grantId
  rw [adminApproveGrant]
  generalize tryEach _ (runtime.grants.insert profileId after) = outcome at tried ⊢
  rcases outcome with ⟨_, _⟩
  cases tried with
  | failed all changed =>
    refine ⟨_, _, rfl, ?_⟩
    rw [hasOpenRequest, changed, get_insert_self, Option.map_some, refusal]
    simp [isRequestOpen, accepted.found, accepted.unresolved]
  | @succeeded _ result key value found success changed others =>
    by_cases same : key = profileId
    · subst same
      rw [get_insert_self] at found
      cases found
      rw [refusal] at success
      cases success
    · rw [get_insert_of_ne _ _ same] at found
      rw [(unused.approve_other found _).1] at success
      cases success

/-- The revocation finds the issued grant, because no other registry has it. -/
theorem withdrawn_noMore {approved : PolicyRuntime} (issued : approved.grants.get profileId =
      some (after.afterApproval runtime.clockSecs fresh grantId req rpIds credentials))
    (shrunk : ∀ other, other ≠ profileId ->
      RegistryShrinks (runtime.grants.get other) (approved.grants.get other)) :
    runtime.NoMore (approved.adminRevokeGrant grantId).2 := by
  have stored : (after.afterApproval runtime.clockSecs fresh grantId req rpIds
      credentials).grants.get grantId =
        some (after.issuedGrant runtime.clockSecs req rpIds credentials) :=
    get_insert_self _ _ _
  have elsewhere : ∀ other changed, other ≠ profileId -> approved.grants.get other = some changed ->
        changed.isGrantActive grantId = false /\
          ∃ old, runtime.grants.get other = some old /\ old.NoMore changed := by
    intro other changed different found
    have move := shrunk other different
    rw [found] at move
    generalize was : runtime.grants.get other = entry at move
    cases move with
    | @shrunk old _ smaller =>
      refine ⟨?_, old, rfl, smaller.noMore⟩
      rw [Bool.eq_false_iff]
      intro active
      have before := smaller.noMore.grants grantId active
      rw [isGrantActive, (unused other old was).2] at before
      cases before
  have active : (after.afterApproval runtime.clockSecs fresh grantId req rpIds
      credentials).isGrantActive grantId = true := by
    rw [isGrantActive, stored]
    rfl
  have searched : ∃ entry, approved.grants.find (fun reg => reg.isGrantActive grantId) =
      some entry :=
    find_isSome issued active
  rcases searched with ⟨⟨key, found⟩, search⟩
  rcases find_some search with ⟨there, active⟩
  have same : key = profileId := by
    by_contra different
    rw [(elsewhere key found different there).1] at active
    cases active
  subst same
  rw [issued] at there
  cases there
  rcases revocation : (after.afterApproval runtime.clockSecs fresh grantId req rpIds
    credentials).revokeGrant grantId with ⟨answer, revoked⟩
  have answered : answer = .ok .revoked := by
    rw [revokeGrant, stored] at revocation
    cases revocation
    rfl
  subst answered
  rw [adminRevokeGrant, search]
  simp only [revocation]
  apply NoMore.of_registries
  intro other changed became
  rw [get_insert] at became
  split_ifs at became with same
  · cases became
    subst same
    exact ⟨reg, registered, accepted.withdrawn revocation⟩
  · exact (elsewhere other changed same became).2

/-- With room left the grant is issued, and a revocation takes everything back. -/
theorem adminApproveGrant_of_not_full (room : ¬reg.IsFull) :
    ∃ approved, adminApproveGrant
        { runtime with grants := runtime.grants.insert profileId after } fresh grantId =
          (.ok grantId, approved) /\ runtime.NoMore (approved.adminRevokeGrant grantId).2 := by
  have tried := tryEach_spec (fun reg : GrantRegistry =>
    ((reg.approveGrant runtime.clockSecs fresh grantId).1.toOption,
      (reg.approveGrant runtime.clockSecs fresh grantId).2))
    (runtime.grants.insert profileId after)
  rcases accepted.approve_of_not_full room grantId with ⟨_, _, issued⟩
  rw [adminApproveGrant]
  generalize tryEach _ (runtime.grants.insert profileId after) = outcome at tried ⊢
  rcases outcome with ⟨_, left⟩
  cases tried with
  | failed all changed =>
    have missed := all profileId after (get_insert_self _ _ _)
    rw [issued] at missed
    cases missed
  | @succeeded _ result key value found success changed others =>
    have same : key = profileId := by
      by_contra different
      rw [get_insert_of_ne _ _ different] at found
      rw [(unused.approve_other found _).1] at success
      cases success
    subst same
    rw [get_insert_self] at found
    cases found
    rw [issued] at success changed
    cases success
    have shrunk : ∀ other, other ≠ key ->
        RegistryShrinks (runtime.grants.get other) (left.get other) := by
      intro other different
      rcases others other different with same | ⟨_, there, -, became⟩
      · rw [same, get_insert_of_ne _ _ different]
        exact .refl _
      · rw [get_insert_of_ne _ _ different] at there
        rw [became, there]
        exact .shrunk (unused.approve_other there _).2
    refine ⟨_, rfl, ?_⟩
    exact withdrawn_noMore unused registered accepted changed shrunk

end

end

end Launch

end PolicyRuntime

end ControlVault.Engine
