import ControlVault.Engine.GrantUse

namespace ControlVault.Engine

open Foundation Core PolicyRuntime IntentStore

/-!
# What failed calls leave behind

Creating a delegated request stores the intent and then asks for a grant;
consuming an authorization consumes the intent and then the claim on the grant.
Neither takes back what the first store has recorded when the second refuses:
the new intent stays, and a rollback finds the intent consumed and not claimed.
-/

/-- A failed creation leaves the intents as a sweep does and every request as it was. -/
def CreationTraceless (runtime : PolicyRuntime)
    (result : Except PendingCreateError (PendingRequestId × GrantRequestId) × PolicyRuntime) : Prop :=
  ∀ error, result.1 = .error error ->
    (∀ id, result.2.intents.get id = (runtime.intents.cleanupExpired runtime.clockMillis).get id) /\
    (∀ profileId, (result.2.grants.get profileId).map GrantRegistry.pendingRequests =
      (runtime.grants.get profileId).map GrantRegistry.pendingRequests) /\
    result.2.pendingRequests = runtime.pendingRequests

/-- A failed consumption makes no intent consumed. -/
def ConsumptionTraceless (runtime : PolicyRuntime)
    (result : Except ReasonCode IntentConsumeInfo × PolicyRuntime) : Prop :=
  ∀ reason, result.1 = .error reason -> ∀ id intent, result.2.intents.get id = some intent ->
    intent.state = .consumed -> runtime.intents.get id = some intent

/-- The intent of the handle is claimed, but its grant has no claim to consume. -/
def ClaimMissing (runtime : PolicyRuntime) (handle : AuthorizationHandle) : Prop :=
  runtime.Consumable handle /\ ∃ id intent, handle.intentId = some id /\
    runtime.intents.get id = some intent /\ intent.state = .claimed /\
    consumeGrantClaim { runtime with intents := runtime.consumedIntents id intent } handle = none

variable {runtime : PolicyRuntime} {handle : AuthorizationHandle}

theorem consumptionTraceless_iff :
    ConsumptionTraceless runtime (runtime.consumeAuthorization handle) <->
      ¬ClaimMissing runtime handle := by
  have outcome := runtime.consumeAuthorization_spec handle
  generalize runtime.consumeAuthorization handle = result at outcome ⊢
  rcases result with ⟨_, _⟩
  cases outcome with
  | closed notOpen =>
    exact iff_of_true (fun _ _ _ _ same _ => same) (fun missing => notOpen missing.1.isOpen)
  | unchanged _ unclaimed =>
    refine iff_of_true (fun _ _ _ _ same _ => same) ?_
    rintro ⟨_, id, intent, named, found, claimed, _⟩
    exact unclaimed id intent named found claimed
  | invalidated isOpen refused =>
    change ConsumptionTraceless runtime (_, runtime.invalidateCeremony handle.ceremonyId) <-> _
    rw [invalidateCeremony_eq isOpen]
    refine iff_of_true (fun _ _ other intent found state => ?_) ?_
    · cases named : handle.intentId with
      | none => simpa [named] using found
      | some =>
        simp only [named, get_rollbackClaim, Option.map_eq_some_iff] at found
        rcases found with ⟨before, stored, same⟩
        split_ifs at same
        · subst same
          cases state
        · exact same ▸ stored
    · rintro ⟨consumable, -⟩
      rcases refused with stale | refused
      · exact stale consumable.current
      · exact nomatch refused.symm.trans consumable.grant
  | partialClaim consumable named found claimed noClaim =>
    refine iff_of_false (fun traceless => ?_)
      (not_not.mpr ⟨consumable, _, _, named, found, claimed, noClaim⟩)
    have consumption : Consumption runtime handle (invalidateCeremony { runtime with
        intents := runtime.consumedIntents _ _ } handle.ceremonyId) :=
      .of_taken consumable named found claimed rfl rfl
    rcases consumption.intent with ⟨id, _, _, claimedBefore, state, consumedAfter⟩
    rw [traceless _ rfl id _ consumedAfter rfl, Option.some.injEq] at claimedBefore
    rw [<- claimedBefore] at state
    cases state
  | taken consumable named found claimed claim =>
    refine iff_of_true (fun _ failed => nomatch failed) ?_
    rintro ⟨-, _, _, otherNamed, otherFound, -, noClaim⟩
    cases claim with
    | unneeded noGrant => simp [consumeGrantClaim, noGrant] at noClaim
    | taken granted registered claim unused =>
      simp [consumeGrantClaim, granted, GrantRegistry.consumeClaimByCeremony, claim, unused,
        show runtime.grants.get handle.profileId = _ from registered] at noClaim

variable {params : CreateIntentParams} {wanted : GrantRequestParams} {freshIntent : IntentId}
  {freshRequest : GrantRequestId} {freshPending : PendingRequestId}

/-- The intent is created, but the grant for it is not requested. -/
def GrantRefused (runtime : PolicyRuntime) (params : CreateIntentParams)
    (wanted : GrantRequestParams) (freshIntent : IntentId) (freshRequest : GrantRequestId) : Prop :=
  (runtime.intents.create runtime.clockMillis params freshIntent).1.isOk = true /\
    (runtime.grants.get params.profileId).any (fun reg =>
      (reg.requestGrant runtime.clockSecs wanted freshRequest).1.isOk) = false

theorem creationTraceless_iff (unused : runtime.intents.get freshIntent = none) :
    CreationTraceless runtime (runtime.principalCreatePendingDelegated params wanted
        freshIntent freshRequest freshPending) <->
      ¬GrantRefused runtime params wanted freshIntent freshRequest := by
  unfold GrantRefused principalCreatePendingDelegated
  have created := runtime.intents.create_spec runtime.clockMillis params freshIntent
  generalize runtime.intents.create runtime.clockMillis params freshIntent = made at created ⊢
  rcases made with ⟨_, _⟩
  cases created with
  | full =>
    exact iff_of_true (fun _ _ => ⟨fun _ => rfl, fun _ => rfl, rfl⟩) (fun refused => nomatch refused.1)
  | added =>
    have traced : ∀ {result : Except PendingCreateError _ × PolicyRuntime} {intent error},
        result.2.intents = (runtime.intents.cleanupExpired runtime.clockMillis).put freshIntent intent ->
        result.1 = .error error -> ¬CreationTraceless runtime result := by
      intro result intent error stored failed traceless
      have same := (traceless error failed).1 freshIntent
      simp [stored, get_put, unused] at same
    cases runtime.grants.get params.profileId with
    | none => exact iff_of_false (traced rfl rfl) (not_not.mpr ⟨rfl, rfl⟩)
    | some reg =>
      dsimp only [Option.any_some]
      rcases reg.requestGrant runtime.clockSecs wanted freshRequest with ⟨_ | _, _⟩
      · exact iff_of_false (traced rfl rfl) (not_not.mpr ⟨rfl, rfl⟩)
      · exact iff_of_true (fun _ failed => nomatch failed) (fun refused => nomatch refused.2)

/-- Failed calls leave no trace unless the second store refuses what the first has recorded. -/
theorem failures_traceless_iff (unused : runtime.intents.get freshIntent = none) :
    (CreationTraceless runtime (runtime.principalCreatePendingDelegated params wanted
        freshIntent freshRequest freshPending) /\
      ConsumptionTraceless runtime (runtime.consumeAuthorization handle)) <->
      ¬GrantRefused runtime params wanted freshIntent freshRequest /\
        ¬ClaimMissing runtime handle :=
  and_congr (creationTraceless_iff unused) consumptionTraceless_iff

namespace Sample

/-- A grant for no time is refused, and the intent stays. -/
theorem refused_grant_leaves_intent :
    Started sampleEnv start [] start /\
      ¬CreationTraceless start (start.principalCreatePendingDelegated ⟨delegatedTuple, false, none⟩
        { grantParams with requestedTtlSecs := 0 } ⟨5⟩ ⟨6⟩ ⟨7⟩) :=
  ⟨started [] (by decide), fun traceless => absurd ((traceless _ rfl).1 ⟨5⟩) (by decide +kernel)⟩

/-- The runtime after a ceremony, with its intent consumed and its claim used. -/
def used : PolicyRuntime :=
  reached sampleEnv start
    (delegatedCeremony ++ [.tick 1 0, .consumeAuthorization grantedHandle])

/-- A request whose deadline does not fit the clock. -/
def overlong : Except PendingCreateError (PendingRequestId × GrantRequestId) × PolicyRuntime :=
  used.principalCreatePendingDelegated ⟨delegatedTuple, false, some (2 ^ 64 - 1)⟩ grantParams
    ⟨15⟩ ⟨16⟩ ⟨17⟩

/-- It is refused, and so is the handle of the ceremony that is over; neither leaves a trace. -/
theorem used_failures_traceless :
    (used.intents.get ⟨5⟩).map Intent.state = some .consumed /\ overlong.1.isOk = false /\
      (used.consumeAuthorization grantedHandle).1.isOk = false /\
      CreationTraceless used overlong /\
      ConsumptionTraceless used (used.consumeAuthorization grantedHandle) := by
  refine ⟨by decide +kernel, by decide +kernel, by decide +kernel, ?_⟩
  have unused : used.intents.get ⟨15⟩ = none := by decide +kernel
  have closed : (used.pending.get grantedHandle.ceremonyId).all (fun auth => auth.invalidated) := by
    decide +kernel
  refine (failures_traceless_iff unused).mpr ⟨?_, ?_⟩
  · exact fun refused => absurd refused.1 (by decide +kernel)
  · intro missing
    rw [missing.1.isOpen] at closed
    cases closed

end Sample

end ControlVault.Engine
