import ControlVault.Engine.Scenario

namespace ControlVault.Engine

open Foundation Core IntentStore CeremonyTuple

/-!
# Does the user's approval reach the ceremony?

A pending request is stored with the canonical name of its relying party, and so
is the approval it leads to.  The intent behind it keeps the name as the principal
wrote it.  An authorization searches for an intent with the canonical name, so it
finds the intent of the request only if the principal wrote the name in canonical
form; otherwise it takes another approved intent for the same ceremony, or fails.
-/

variable {runtime : PolicyRuntime} {intent : Intent}

namespace PolicyRuntime

/-- A handle without a grant whose intent is claimed is consumed. -/
theorem consumeAuthorization_of_claimed {id : IntentId}
    (isOpen : runtime.IsOpen handle) (current : runtime.IsCurrent handle)
    (noGrant : handle.grantId = none) (named : handle.intentId = some id)
    (found : runtime.intents.get id = some intent) (claimed : intent.state = .claimed) :
    (runtime.consumeAuthorization handle).1 = .ok intent.consumeInfo := by
  have outcome := runtime.consumeAuthorization_spec handle
  generalize runtime.consumeAuthorization handle = result at outcome ⊢
  rcases result with ⟨_, _⟩
  cases outcome with
  | closed notOpen => exact absurd isOpen notOpen
  | invalidated _ refused =>
    rcases refused with stale | failed
    · exact absurd current stale
    · rw [consumeGrantChecks, noGrant] at failed
      cases failed
  | unchanged _ unclaimed => exact absurd claimed (unclaimed id intent named found)
  | partialClaim _ _ _ _ noClaim =>
    rw [consumeGrantClaim, noGrant] at noClaim
    cases noClaim
  | taken _ otherNamed otherFound _ _ =>
    rw [named] at otherNamed
    cases otherNamed
    rw [found] at otherFound
    cases otherFound
    rfl

/-- The approval leads to a handle, and the handle to what was asked for. -/
def Delivers (env : Env) (runtime : PolicyRuntime) (bound : BoundApprovalResult)
    (req : CeremonyTuple) (ceremony : CeremonyId) : Prop :=
  ∃ handle after info, runtime.authorizeBound env bound ⟨req, true⟩ ceremony =
      ((.allow .allowed, some handle), after) /\
    (after.consumeAuthorization handle).1 = .ok info /\
    info.profileId = req.profileId /\ info.action = req.action /\
    info.rpId = req.rpId.canonical /\ info.credentialRef = req.credentialRef

/-- An approval without a grant delivers exactly when there is an intent to claim. -/
theorem delivers_iff (allows : runtime.BoundAllows bound ⟨req, true⟩ snap)
    (noGrant : bound.grantId = none) (ceremony : CeremonyId) :
    runtime.Delivers env bound req ceremony <->
      ∃ id intent, runtime.Claimable bound.toCeremonyTuple id intent := by
  constructor
  · rintro ⟨handle, after, info, allowed, -⟩
    have authorized := runtime.authorizeBound_spec env bound ⟨req, true⟩ ceremony
    rw [allowed] at authorized
    cases authorized with
    | opened checks claimable _ => exact ⟨_, _, claimable⟩
    | openedWithGrant checks claimable => exact ⟨_, _, claimable⟩
  · rintro ⟨id, intent, claimable⟩
    rcases authorizeBound_of_claimable env allows noGrant claimable ceremony with
      ⟨_, taken, otherClaimable, allowed⟩
    have tuple : taken.toCeremonyTuple = req.normalized :=
      otherClaimable.tuple.trans allows.tuple
    refine ⟨_, _, Intent.consumeInfo { taken with state := .claimed }, allowed, ?_, ?_, ?_, ?_, ?_⟩
    · apply consumeAuthorization_of_claimed
      · exact Table.get_insert_self _ _ _
      · exact ⟨allows.generation, allows.digest⟩
      · exact noGrant
      · rfl
      · exact (get_put _ _ _ _).trans (if_pos rfl)
      · rfl
    · exact (congrArg profileId tuple :)
    · exact (congrArg action tuple :)
    · exact (congrArg rpId tuple :)
    · exact (congrArg credentialRef tuple :)

end PolicyRuntime

section Request

variable {env : Env} {state waiting approved : PolicyRuntime} {params : CreateIntentParams}
  {freshIntent : IntentId} {freshPending id : PendingRequestId} {freshGrant : GrantId}
  {bound : BoundApprovalResult}

/-- What a state looks like right after the creation of a pending request. -/
structure PendingAdded (state waiting : PolicyRuntime) (params : CreateIntentParams)
    (freshIntent : IntentId) (freshPending : PendingRequestId) : Prop where
  current : waiting.current = state.current
  clockMillis : waiting.clockMillis = state.clockMillis
  request : waiting.pendingRequests.get freshPending =
    some (state.waitingRequest params freshIntent .isolatedIntent none)
  added : ∃ deadline, waiting.intents.get freshIntent =
    some (newIntent state.clockMillis deadline params)
  others : ∀ other, other ≠ freshIntent -> waiting.intents.get other =
    (state.intents.get other).map (fun intent => intent.swept state.clockMillis)

theorem PendingAdded.of_created
    (created : state.principalCreatePendingIntent params freshIntent freshPending =
      (.ok id, waiting)) : PendingAdded state waiting params freshIntent freshPending := by
  have spec := state.principalCreatePendingIntent_spec params freshIntent freshPending
  rw [created] at spec
  cases spec with
  | created stored =>
    cases stored with
    | @added deadline =>
      refine ⟨rfl, rfl, Table.get_insert_self _ _ _, ⟨deadline, ?_⟩, ?_⟩
      · exact (get_put _ _ _ _).trans (if_pos rfl)
      · intro other different
        rw [<- get_cleanupExpired]
        exact (get_put _ _ _ _).trans (if_neg different)

/-- The intents that can be claimed once the request is approved: its own, if its
relying party was written in canonical form, and those that could be claimed before. -/
structure RequestApproved (state approved : PolicyRuntime)
    (params : CreateIntentParams) (freshIntent : IntentId) (bound : BoundApprovalResult) : Prop where
  result : bound = ⟨params.toCeremonyTuple.normalized, freshIntent, none⟩
  allows : ∃ snap, approved.BoundAllows bound ⟨params.toCeremonyTuple, true⟩ snap
  own : ∀ intent, approved.Claimable params.toCeremonyTuple freshIntent intent ->
    params.rpId.IsCanonical
  canonical : params.rpId.IsCanonical ->
    ∃ intent, approved.Claimable params.toCeremonyTuple freshIntent intent
  others : ∀ other intent, other ≠ freshIntent ->
    (approved.Claimable params.toCeremonyTuple other intent <->
      state.Claimable params.toCeremonyTuple other intent)

/-- A sweep hides no intent that can be claimed and reveals none. -/
theorem swept_claimable (same : approved.intents.get other =
      (state.intents.get other).map (fun intent => intent.swept state.clockMillis))
    (clock : approved.clockMillis = state.clockMillis) :
    approved.Claimable query other intent <-> state.Claimable query other intent := by
  constructor
  · rintro ⟨found, inTime, isApproved, tuple⟩
    rw [same] at found
    rcases Option.map_eq_some_iff.mp found with ⟨_, stored, rfl⟩
    rcases Intent.eq_of_swept_approved isApproved with ⟨originalInTime, unchanged⟩
    rw [unchanged] at isApproved tuple ⊢
    exact ⟨stored, originalInTime, isApproved, tuple⟩
  · rintro ⟨found, inTime, isApproved, tuple⟩
    refine ⟨?_, clock ▸ inTime, isApproved, tuple⟩
    rw [same, found, Option.map_some, Intent.swept_of_not_overdue inTime]

theorem RequestApproved.of_resolved
    (added : PendingAdded state waiting params freshIntent freshPending)
    (resolved : waiting.ceremonyResolvePending env params.toCeremonyTuple freshGrant =
      (.ok bound, approved)) :
    RequestApproved state approved params freshIntent bound := by
  have spec := waiting.ceremonyResolvePending_spec env params.toCeremonyTuple freshGrant
  rw [resolved] at spec
  cases spec with
  | @resolved grantId granted id req snap intents selected checks approval grant =>
    -- The request that was just added waits, so it is the one that was selected.
    rcases PolicyRuntime.uniqueWaiting_ok selected with ⟨found, -, -, unique⟩
    have same := unique freshPending _ added.request rfl rfl
    subst same
    rw [added.request] at found
    cases found
    cases grant with
    | isolated =>
      have allows := PolicyRuntime.resolveChecks_ok checks
      have settled := waiting.intents.approve_spec waiting.clockMillis freshIntent
      rw [show waiting.intents.approve waiting.clockMillis freshIntent = _ from approval] at settled
      rcases added.added with ⟨_, stored⟩
      cases settled with
      | moved found inTime =>
        rw [stored] at found
        cases found
        refine ⟨rfl, ⟨snap, ?_⟩, ?_, ?_, ?_⟩
        · exact ⟨normalized_normalized _, allows.generation, allows.digest,
            allows.profile, fun _ => rfl⟩
        · intro intent claimable
          have own := claimable.found
          change (put _ _ _).get _ = _ at own
          rw [get_put, if_pos rfl] at own
          cases own
          exact (congrArg rpId claimable.tuple).symm
        · intro canonical
          refine ⟨_, (get_put _ _ _ _).trans (if_pos rfl), inTime, rfl, ?_⟩
          exact (normalized_of_canonical canonical).symm
        · intro other intent different
          apply swept_claimable
          · rw [<- added.others other different]
            exact (get_put _ _ _ _).trans (if_neg different)
          · exact added.clockMillis
    | existing kind => cases kind
    | approved kind => cases kind

/-- An approved request delivers exactly when the principal wrote the relying party in
canonical form, or another intent for the same ceremony can be claimed in its place. -/
theorem approved_request_delivers_iff {env : Env} {state waiting approved : PolicyRuntime}
    {params : CreateIntentParams} {freshIntent : IntentId} {freshPending id : PendingRequestId}
    {freshGrant : GrantId} {bound : BoundApprovalResult}
    (created : state.principalCreatePendingIntent params freshIntent freshPending =
      (.ok id, waiting))
    (resolved : waiting.ceremonyResolvePending env params.toCeremonyTuple freshGrant =
      (.ok bound, approved)) (ceremony : CeremonyId) :
    approved.Delivers env bound params.toCeremonyTuple ceremony <->
      params.rpId.IsCanonical ∨ ∃ other intent, other ≠ freshIntent /\
        state.Claimable params.toCeremonyTuple other intent := by
  have req := RequestApproved.of_resolved (.of_created created) resolved
  rcases req with ⟨rfl, ⟨_, allows⟩, own, canonical, others⟩
  rw [PolicyRuntime.delivers_iff allows rfl ceremony]
  have query : ∀ other intent, approved.Claimable params.toCeremonyTuple.normalized other intent <->
        approved.Claimable params.toCeremonyTuple other intent := by
    intro other intent
    constructor <;>
    · rintro ⟨found, inTime, isApproved, tuple⟩
      exact ⟨found, inTime, isApproved, by simpa using tuple⟩
  constructor
  · rintro ⟨other, intent, claimable⟩
    rw [query] at claimable
    by_cases same : other = freshIntent
    · subst same
      exact .inl (own intent claimable)
    · exact .inr ⟨other, intent, same, (others other intent same).mp claimable⟩
  · rintro (isCanonical | ⟨other, intent, different, claimable⟩)
    · rcases canonical isCanonical with ⟨intent, claimable⟩
      exact ⟨freshIntent, intent, (query _ _).mpr claimable⟩
    · exact ⟨other, intent, (query _ _).mpr ((others other intent different).mpr claimable)⟩

end Request

namespace Sample

/-- A request for this spelling of the relying party. -/
def spelled (rpId : String) : CreateIntentParams :=
  ⟨tuple rpId none, false, none⟩

/-- The state in which that request waits. -/
def waitingFor (rpId : String) : PolicyRuntime :=
  (start.principalCreatePendingIntent (spelled rpId) ⟨5⟩ ⟨7⟩).2

/-- The state in which it was approved. -/
def approvedFor (rpId : String) : PolicyRuntime :=
  ((waitingFor rpId).ceremonyResolvePending sampleEnv (spelled rpId).toCeremonyTuple ⟨8⟩).2

end Sample

section Samples

open Sample

/-- With the canonical spelling the approved request leads to a ceremony. -/
theorem approved_request_delivers_sample :
    (approvedFor "example.com").Delivers sampleEnv
      ⟨tuple "example.com" none, ⟨5⟩, none⟩ (tuple "example.com" none) ⟨6⟩ := by
  have created : (start.principalCreatePendingIntent (spelled "example.com")
      ⟨5⟩ ⟨7⟩).1 = .ok ⟨7⟩ := by
    decide +kernel
  have resolved : ((waitingFor "example.com").ceremonyResolvePending sampleEnv
      (spelled "example.com").toCeremonyTuple ⟨8⟩).1 =
        .ok ⟨tuple "example.com" none, ⟨5⟩, none⟩ := by
    decide +kernel
  exact (approved_request_delivers_iff (Prod.ext created rfl) (Prod.ext resolved rfl) ⟨6⟩).mpr
    (.inl (by decide +kernel))

/-- The user approves a request for `Example.com`, and nothing can be done with it. -/
theorem approved_request_undelivered :
    (start.principalCreatePendingIntent (spelled "Example.com") ⟨5⟩ ⟨7⟩).1 = .ok ⟨7⟩ /\
    ((waitingFor "Example.com").ceremonyResolvePending sampleEnv
      (spelled "Example.com").toCeremonyTuple ⟨8⟩).1 = .ok ⟨tuple "example.com" none, ⟨5⟩, none⟩ /\
    ((approvedFor "Example.com").authorizeBound sampleEnv
      ⟨tuple "example.com" none, ⟨5⟩, none⟩ ⟨tuple "Example.com" none, true⟩ ⟨6⟩).1 =
        (.deny .intentNotFound .retry, none) /\
    ¬ (approvedFor "Example.com").Delivers sampleEnv
      ⟨tuple "example.com" none, ⟨5⟩, none⟩ (tuple "Example.com" none) ⟨6⟩ := by
  have refused : ((approvedFor "Example.com").authorizeBound sampleEnv
      ⟨tuple "example.com" none, ⟨5⟩, none⟩ ⟨tuple "Example.com" none, true⟩ ⟨6⟩).1 =
        (.deny .intentNotFound .retry, none) := by
    decide +kernel
  refine ⟨by decide +kernel, by decide +kernel, refused, ?_⟩
  rintro ⟨handle, after, info, allowed, -⟩
  rw [allowed] at refused
  cases refused

end Samples

end ControlVault.Engine
