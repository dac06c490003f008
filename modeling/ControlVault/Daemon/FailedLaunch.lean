import ControlVault.Daemon.Browsers
import ControlVault.Daemon.Scenario
import ControlVault.Engine.Withdrawal

namespace ControlVault.Daemon

open Foundation Core Engine Browser Broker SignContextRegistry Broker.Sample BrowserLease Table
  PolicyRuntime BrowserProcessManager

/-!
# What a failed launch leaves behind

`Authority` lists what a browser launch acquires; `NoMore` says that a call added
none of it.  A launch takes back what it acquired, so a failure can be followed
through the stages: each leaves at most the token and the lease of the launch in
addition, and `rollBack` removes those.

Two failures break this.  A grant request that cannot be approved, because the
profile has its limit of active grants, stays open.  And the administrator's
launch keeps the registration token of a browser that did not start.
-/

inductive Authority
  | grant (profileId : ProfileId) (grantId : GrantId)
  | grantRequest (profileId : ProfileId) (requestId : GrantRequestId)
  | signToken (token : BearerToken)
  | registrationToken (token : BearerToken)
  | lease (leaseId : BrowserLeaseId)
  | activeBrowser (profileId : ProfileId) (sessionId : PrincipalSessionId)
      (leaseId : BrowserLeaseId)
  | sharedBrowser (profileId : ProfileId) (leaseId : BrowserLeaseId)

namespace AgentRuntime

def has (runtime : AgentRuntime) : Authority -> Bool
  | .grant profileId grantId => runtime.policyRuntime.hasActiveGrant profileId grantId
  | .grantRequest profileId requestId => runtime.policyRuntime.hasOpenRequest profileId requestId
  | .signToken token => (runtime.registry.entries.get token).isSome
  | .registrationToken token => (runtime.registry.registrationEntries.get token).isSome
  | .lease leaseId => (runtime.browserManager.get leaseId).any isLive
  | .activeBrowser profileId sessionId leaseId =>
    (runtime.profiles.get profileId).any (fun profile =>
      profile.activeBrowser.get sessionId = some leaseId)
  | .sharedBrowser profileId leaseId =>
    (runtime.profiles.get profileId).any (fun profile =>
      profile.sharedBrowser.map SharedBrowserLease.leaseId = some leaseId)

def NoMore (before after : AgentRuntime) : Prop :=
  ∀ authority, after.has authority = true -> before.has authority = true

namespace NoMore

theorem refl (runtime : AgentRuntime) : NoMore runtime runtime :=
  fun _ => id

theorem trans (earlier : NoMore first second) (later : NoMore second third) : NoMore first third :=
  fun authority held => earlier authority (later authority held)

section

variable (runtime : AgentRuntime)

theorem of_policy (noMore : runtime.policyRuntime.NoMore policyRuntime) :
    NoMore runtime (runtime.withPolicy policyRuntime) := by
  intro authority held
  cases authority with
  | grant profileId grantId => exact noMore.grants profileId grantId held
  | grantRequest profileId requestId => exact noMore.requests profileId requestId held
  | _ => exact held

theorem of_registry {reg : SignContextRegistry}
    (signs : ∀ token, (reg.entries.get token).isSome = true ->
      (runtime.registry.entries.get token).isSome = true)
    (registrations : ∀ token, (reg.registrationEntries.get token).isSome = true ->
      (runtime.registry.registrationEntries.get token).isSome = true) :
    NoMore runtime (runtime.withRegistry reg) := by
  intro authority held
  cases authority with
  | signToken token => exact signs token held
  | registrationToken token => exact registrations token held
  | _ => exact held

theorem of_entries {reg : SignContextRegistry} (entries : reg.entries = runtime.registry.entries)
    (registrations : reg.registrationEntries = runtime.registry.registrationEntries) :
    NoMore runtime (runtime.withRegistry reg) :=
  of_registry runtime (by rw [entries]; exact fun _ => id)
    (by rw [registrations]; exact fun _ => id)

theorem of_browsers {mgr : BrowserProcessManager}
    (leases : ∀ leaseId, (mgr.get leaseId).any isLive = true ->
      (runtime.browserManager.get leaseId).any isLive = true) :
    NoMore runtime (runtime.withBrowsers mgr) := by
  intro authority held
  cases authority with
  | lease leaseId => exact leases leaseId held
  | _ => exact held

/-- A profile's tables may lose entries. -/
theorem of_modifyProfile (profileId : ProfileId) (actives : ∀ profile sessionId leaseId,
      (update profile).activeBrowser.get sessionId = some leaseId ->
        profile.activeBrowser.get sessionId = some leaseId)
    (shared : ∀ profile leaseId,
      (update profile).sharedBrowser.map SharedBrowserLease.leaseId = some leaseId ->
        profile.sharedBrowser.map SharedBrowserLease.leaseId = some leaseId) :
    NoMore runtime (runtime.modifyProfile profileId update) := by
  have profiles : ∀ other (test : ProfileRuntime -> Bool),
      (∀ profile, test (update profile) = true -> test profile = true) ->
        ((runtime.modifyProfile profileId update).profiles.get other).any test = true ->
          (runtime.profiles.get other).any test = true := by
    intro other test weaker held
    rw [modifyProfile, get_modify] at held
    split_ifs at held with same
    · rw [Option.any_map, Option.any_eq_true] at held
      rcases held with ⟨profile, found, kept⟩
      exact (Option.any_eq_true _ _).mpr ⟨profile, found, weaker profile kept⟩
    · exact held
  intro authority held
  cases authority with
  | activeBrowser other sessionId leaseId =>
    refine profiles other _ (fun profile kept => ?_) held
    exact decide_eq_true (actives profile sessionId leaseId (of_decide_eq_true kept))
  | sharedBrowser other leaseId =>
    refine profiles other _ (fun profile kept => ?_) held
    exact decide_eq_true (shared profile leaseId (of_decide_eq_true kept))
  | _ => exact held

end

end NoMore

/-! ## The end of a lease -/

theorem endLease_lease (runtime : AgentRuntime) (leaseId : BrowserLeaseId) :
    (runtime.endLease leaseId).has (.lease leaseId) = false := by
  change ((runtime.browserManager.discard leaseId).get leaseId).any isLive = false
  rw [BrowserProcessManager.discard, get_remove, if_pos rfl]
  rfl

theorem NoMore.of_endLease (runtime : AgentRuntime) (leaseId : BrowserLeaseId) :
    NoMore runtime (runtime.endLease leaseId) := by
  intro authority held
  cases authority with
  | signToken token =>
    change ((runtime.registry.revokeByLease leaseId).entries.get token).isSome = true at held
    rw [revokeByLease_entries] at held
    cases found : runtime.registry.entries.get token with
    | none =>
      rw [found] at held
      cases held
    | some =>
      change (runtime.registry.entries.get token).isSome = true
      rw [found]
      rfl
  | registrationToken token =>
    change ((runtime.registry.revokeByLease leaseId).registrationEntries.get token).isSome = true
      at held
    rwa [revokeByLease_registrationEntries] at held
  | lease other =>
    by_cases same : other = leaseId
    · rw [same, endLease_lease] at held
      cases held
    · change ((runtime.browserManager.discard leaseId).get other).any isLive = true at held
      rwa [discard_get_of_ne _ same] at held
  | _ => exact held

/-! ## Taking a launch back -/

/-- The token and the lease of a started browser. -/
def Started.Owns (started : Started) : Authority -> Prop
  | .signToken token => token = started.token
  | .registrationToken token => token = started.token
  | .lease leaseId => leaseId = started.leaseId
  | _ => False

/-- Nothing was added but what belongs to the started browser. -/
def AtMost (before after : AgentRuntime) (started : Started) : Prop :=
  ∀ authority, after.has authority = true ->
    started.Owns authority ∨ before.has authority = true

theorem NoMore.atMost {after : AgentRuntime} (earlier : AtMost before middle started)
    (later : NoMore middle after) : AtMost before after started :=
  fun authority held => earlier authority (later authority held)

theorem rollBack_has (runtime : AgentRuntime) (started : Started) {authority : Authority}
    (owned : started.Owns authority) : (runtime.rollBack started).has authority = false := by
  cases authority with
  | signToken token =>
    have same : token = started.token := owned
    change ((revokeByLease _ started.leaseId).entries.get token).isSome = false
    rw [revokeByLease_entries, withRegistry, revokeRegistration_entries, revoke_entries,
      if_pos same]
    rfl
  | registrationToken token =>
    have same : token = started.token := owned
    change ((revokeByLease _ started.leaseId).registrationEntries.get token).isSome = false
    rw [revokeByLease_registrationEntries, withRegistry, revokeRegistration_registrationEntries,
      if_pos same]
    rfl
  | lease =>
    cases owned
    exact endLease_lease _ _
  | _ => cases owned

theorem NoMore.of_rollBack (runtime : AgentRuntime) (started : Started) :
    NoMore runtime (runtime.rollBack started) := by
  refine trans (of_registry runtime ?_ ?_) (of_endLease _ started.leaseId)
  · intro token held
    rw [revokeRegistration_entries, revoke_entries] at held
    split_ifs at held
    · cases held
    · exact held
  · intro token held
    rw [revokeRegistration_registrationEntries, revoke_registrationEntries] at held
    split_ifs at held
    · cases held
    · exact held

theorem AtMost.rollBack {after : AgentRuntime} (atMost : AtMost before after started) :
    NoMore before (after.rollBack started) := by
  intro authority held
  rcases atMost authority (NoMore.of_rollBack after started authority held) with owned | before
  · rw [rollBack_has after started owned] at held
    cases held
  · exact before

/-! ## The stages of a launch -/

/-- Neither the policy runtime nor a store was touched. -/
structure SamePolicy (before after : AgentRuntime) : Prop where
  policyRuntime : after.policyRuntime = before.policyRuntime
  credentialStorage : after.credentialStorage = before.credentialStorage

theorem SamePolicy.trans (earlier : SamePolicy first second)
    (later : SamePolicy second third) : SamePolicy first third :=
  ⟨later.policyRuntime.trans earlier.policyRuntime,
    later.credentialStorage.trans earlier.credentialStorage⟩

/-- The leases that a principal's launch could return to, in the order of its search. -/
def earlierLeases (profile : ProfileRuntime) (sessionId : PrincipalSessionId) :
    List BrowserLeaseId :=
  (match profile.profileConfig.browserScope with
    | .profile => profile.sharedBrowser.map SharedBrowserLease.leaseId
    | .session => none).toList ++ (profile.activeBrowser.get sessionId).toList

/-- What a browser needs to start, with the registry as the launch finds it. -/
structure Starts (reg : SignContextRegistry) (profileId : ProfileId) (profile : ProfileRuntime)
    (occasion : LaunchOccasion) (endpointId : EndpointId) : Prop where
  endpoint : profile.endpointId = some endpointId
  command : ∃ program arguments,
    profile.profileConfig.browserCommand = some (program :: arguments)
  token : ∃ token entered, occasion.token = .ok token /\
    reg.registerPendingRegistration token ⟨profileId, profile.profileConfig⟩ = (.ok (), entered)
  process : ∃ process, occasion.spawned = .ok process

/-- What a search through leases returns: the first live one, or nothing once all are ended. -/
inductive Searched (runtime : AgentRuntime) (leases : List BrowserLeaseId) :
    Option BrowserEnsured × AgentRuntime -> Prop
  | found {leaseId : BrowserLeaseId} {answer : BrowserEnsured} {after : AgentRuntime}
      (mem : leaseId ∈ leases) (live : (liveEndpoint runtime.browserManager leaseId).isSome) :
      Searched runtime leases (some answer, after)
  | cleared {after : AgentRuntime}
      (stale : ∀ leaseId ∈ leases, liveEndpoint runtime.browserManager leaseId = none)
      (noMore : NoMore runtime after) (same : SamePolicy runtime after)
      (registry : after.registry = leases.foldl revokeByLease runtime.registry)
      (live : liveEndpoint after.browserManager = liveEndpoint runtime.browserManager) :
      Searched runtime leases (none, after)

section Stages

variable {env : Env} {runtime after : AgentRuntime} {profileId : ProfileId}
  {profile : ProfileRuntime} {session : ManagedPrincipalSession} {startUrl : Option Text}
  {occasion : LaunchOccasion} {started : Started} {error : ProtocolError}
  {reg : SignContextRegistry} {ctx : RegisterContext} {token : BearerToken} {endpoint : Text}

namespace Searched

theorem nothing (runtime : AgentRuntime) : Searched runtime [] (none, runtime) :=
  .cleared (List.forall_mem_nil _) (.refl _) ⟨rfl, rfl⟩ rfl rfl

theorem stale {leaseId : BrowserLeaseId} {change : ProfileRuntime -> ProfileRuntime}
    (stale : liveEndpoint runtime.browserManager leaseId = none)
    (noMore : NoMore (runtime.endLease leaseId)
      ((runtime.endLease leaseId).modifyProfile profileId change)) :
    Searched runtime [leaseId]
      (none, (runtime.endLease leaseId).modifyProfile profileId change) := by
  refine .cleared (by simpa using stale) ((NoMore.of_endLease runtime _).trans noMore)
    ⟨rfl, rfl⟩ rfl ?_
  funext other
  change liveEndpoint (runtime.browserManager.discard leaseId) other = _
  by_cases same : other = leaseId
  · rw [same, stale, liveEndpoint, BrowserProcessManager.discard, get_remove, if_pos rfl]
  · rw [liveEndpoint, discard_get_of_ne _ same, liveEndpoint]

theorem append {leases others : List BrowserLeaseId} {middle : AgentRuntime}
    {result : Option BrowserEnsured × AgentRuntime}
    (first : Searched runtime leases (none, middle)) (second : Searched middle others result) :
    Searched runtime (leases ++ others) result := by
  rcases first with - | ⟨stale, noMore, same, registry, live⟩
  cases second with
  | found mem alive => exact .found (List.mem_append_right _ mem) (live ▸ alive)
  | cleared stale' noMore' same' registry' live' =>
    refine .cleared ?_ (noMore.trans noMore') (same.trans same') ?_ (live'.trans live)
    · intro leaseId mem
      rcases List.mem_append.mp mem with mem | mem
      · exact stale leaseId mem
      · exact live ▸ stale' leaseId mem
    · rw [registry', registry, List.foldl_append]

end Searched

theorem reuseBrowser_spec (runtime : AgentRuntime) (profileId : ProfileId)
    (profile : ProfileRuntime) (sessionId : PrincipalSessionId) :
    Searched runtime (earlierLeases profile sessionId)
      (runtime.reuseBrowser profileId profile sessionId) := by
  have active : ∀ runtime : AgentRuntime, Searched runtime
      (profile.activeBrowser.get sessionId).toList
      (runtime.reuseActive profileId profile sessionId) := by
    intro runtime
    unfold reuseActive
    split
    · rename_i absent
      rw [absent]
      exact .nothing runtime
    · rename_i leaseId noted
      rw [noted]
      split
      · rename_i live
        exact .found (List.mem_singleton_self leaseId) (Option.isSome_of_mem live)
      · rename_i stale
        refine .stale stale (.of_modifyProfile _ _ ?_ fun _ _ => id)
        intro profile other leaseId named
        rw [ProfileRuntime.withoutActive, get_remove] at named
        split_ifs at named
        exact named
  unfold reuseBrowser reuseShared earlierLeases
  cases profile.profileConfig.browserScope with
  | session => exact active runtime
  | profile =>
    cases profile.sharedBrowser with
    | none => exact active runtime
    | some shared =>
      dsimp only
      cases live : liveEndpoint runtime.browserManager shared.leaseId with
      | some => exact .found List.mem_cons_self (Option.isSome_of_mem live)
      | none =>
        have first : Searched runtime [shared.leaseId]
            (none, (runtime.endLease shared.leaseId).modifyProfile profileId (.withShared none)) :=
          .stale live (.of_modifyProfile _ _ (fun _ _ _ => id) (fun _ _ named => by cases named))
        exact first.append (active _)

/-- A refused registration changes no entry. -/
theorem NoMore.of_refused {message : Text}
    (refused : runtime.registry.registerPendingRegistration token ctx =
      (.error message, reg)) : NoMore runtime (runtime.withRegistry reg) := by
  have spec := runtime.registry.registerPendingRegistration_spec token ctx
  rw [refused] at spec
  cases spec with
  | mismatched => exact of_entries runtime rfl rfl
  | duplicate _ made _ => exact of_entries runtime made.entries made.registrationEntries

/-- A registration that succeeds adds one token, which was in no entry of the kind. -/
theorem registered_entries
    (entered : runtime.registry.registerPendingRegistration token ctx = (.ok (), reg)) :
    reg.entries = runtime.registry.entries /\
      reg.registrationEntries = runtime.registry.registrationEntries.insert token ctx /\
      (runtime.registry.registrationEntries.get token).isSome = false := by
  have spec := runtime.registry.registerPendingRegistration_spec token ctx
  rw [entered] at spec
  cases spec with
  | entered made free =>
    exact ⟨made.entries, by rw [<- made.registrationEntries], Bool.eq_false_iff.mpr free⟩

/-- A launch adds the token that it enters and the lease that it starts. -/
theorem AtMost.of_launch {mgr : BrowserProcessManager}
    (entered : runtime.registry.registerPendingRegistration started.token ctx = (.ok (), reg))
    (leases : ∀ other ≠ started.leaseId, mgr.get other = runtime.browserManager.get other) :
    AtMost runtime ((runtime.withRegistry reg).withBrowsers mgr) started := by
  rcases registered_entries entered with ⟨entries, registrations, -⟩
  intro authority held
  cases authority with
  | signToken other =>
    right
    change (reg.entries.get other).isSome = true at held
    rwa [entries] at held
  | registrationToken other =>
    change (reg.registrationEntries.get other).isSome = true at held
    rw [registrations, get_insert] at held
    split_ifs at held with same
    · exact .inl same
    · exact .inr held
  | lease other =>
    by_cases same : other = started.leaseId
    · exact .inl same
    · change (mgr.get other).any isLive = true at held
      rw [leases other same] at held
      exact .inr held
  | _ => exact .inr held

/-- A browser that starts adds at most its token and its lease, and always has an address. -/
theorem startBrowser_spec {result : Except ProtocolError Started}
    (outcome : runtime.startBrowser profileId profile startUrl occasion = (result, after)) :
    match result with
    | .error _ => NoMore runtime after
    | .ok started => AtMost runtime after started /\ SamePolicy runtime after /\
      Starts runtime.registry profileId profile occasion started.endpointId /\
      ∃ endpoint, after.browserManager.leaseCdpEndpoint started.leaseId = some endpoint := by
  unfold startBrowser at outcome
  split at outcome
  · cases outcome
    exact .refl _
  · cases outcome
    exact .refl _
  · cases outcome
    exact .refl _
  · rename_i endpoint command
    split at outcome
    · cases outcome
      exact .refl _
    · rename_i drawn
      split at outcome
      · rename_i refused
        cases outcome
        exact .of_refused refused
      · rename_i reg entered
        rcases registered_entries entered with ⟨entries, registrations, -⟩
        cases spawned : occasion.spawned with
        | error =>
          rw [spawned] at outcome
          cases outcome
          refine .of_registry runtime ?_ ?_
          · rw [revokeRegistration_entries, entries]
            exact fun _ => id
          · intro other held
            rw [revokeRegistration_registrationEntries, registrations, get_insert] at held
            split_ifs at held
            · cases held
            · exact held
        | ok process =>
          rw [spawned] at outcome
          cases outcome
          refine ⟨.of_launch entered fun _ => get_insert_of_ne _ _, ⟨rfl, rfl⟩,
            ⟨endpoint, ⟨_, _, command⟩, ⟨_, _, drawn, entered⟩, _, spawned⟩,
            process.cdpEndpoint, ?_⟩
          change ((insert _ _ _).get _).bind cdpEndpoint = _
          rw [get_insert_self]
          rfl

theorem Starts.startBrowser {endpointId : EndpointId}
    (starts : Starts runtime.registry profileId profile occasion endpointId) :
    ∃ started after, runtime.startBrowser profileId profile startUrl occasion =
      (.ok started, after) /\ started.endpointId = endpointId := by
  rcases starts with ⟨endpoint, ⟨_, _, command⟩, ⟨_, _, drawn, entered⟩, _, spawned⟩
  simp [AgentRuntime.startBrowser, endpoint, command, drawn, entered, spawned, launchPending]

theorem requestBrowserGrant_eq (params : GrantRequestParams) :
    runtime.requestBrowserGrant profile params occasion =
      runtime.policyRuntime.adminRequestGrantInner params (isDynamic profile.profileConfig)
        occasion.freshRequest := by
  unfold requestBrowserGrant
  cases isDynamic profile.profileConfig <;> rfl

/-- A sign context can only be refused with nothing entered; a fresh entry can be bound. -/
theorem enterSignContext_error
    (outcome : runtime.enterSignContext profileId profile started grantId = (.error error, after)) :
    ∃ reg, reg.entries = runtime.registry.entries /\
      reg.registrationEntries = runtime.registry.registrationEntries /\
      after = (runtime.withRegistry reg).withPolicy
        (runtime.policyRuntime.adminRevokeGrant grantId).2 := by
  have spec := runtime.registry.registerPending_spec started.token
    ⟨profileId, grantId, profile.profileConfig⟩ (.activating started.leaseId
      (max 1 (min (sessionTtlSecs profile.profileConfig) maxActiveTtlSecs)))
  unfold enterSignContext at outcome
  generalize runtime.registry.registerPending started.token _ _ = attempt at spec outcome
  cases spec with
  | mismatched message =>
    cases outcome
    exact ⟨_, rfl, rfl, rfl⟩
  | duplicate message made present =>
    cases outcome
    exact ⟨_, made.entries, made.registrationEntries, rfl⟩
  | @entered funded made free =>
    dsimp only at outcome
    rw [bindLease_of_free (get_insert_self _ _ _) rfl] at outcome
    cases outcome

theorem enterSignContext_ok
    (outcome : runtime.enterSignContext profileId profile started grantId = (.ok (), after)) :
    after.browserManager = runtime.browserManager := by
  unfold enterSignContext at outcome
  split at outcome
  · cases outcome
  · split at outcome
    · cases outcome
    · cases outcome
      rfl

/-- The grant of the browser is accepted as a request, but the profile has its limit of
active grants. -/
def GrantLimitReached (env : Env) (runtime : AgentRuntime) (profileId : ProfileId)
    (profile : ProfileRuntime) (session : ManagedPrincipalSession) (endpointId : EndpointId)
    (occasion : LaunchOccasion) : Prop :=
  ∃ reg, runtime.policyRuntime.grants.get profileId = some reg /\ reg.IsFull /\
    ∃ id after, reg.requestGrantInner runtime.policyRuntime.clockSecs
      (browserGrantParams env runtime profileId profile session.sessionId
        session.processDigest.bytes endpointId)
      (isDynamic profile.profileConfig) occasion.freshRequest = (.ok id, after)

section

variable (unused : runtime.policyRuntime.Unused occasion.freshRequest occasion.freshGrant)

include unused

/-- A request that cannot be approved stays. -/
theorem authorizeBrowser_of_limit
    (limit : GrantLimitReached env runtime profileId profile session started.endpointId occasion) :
    ∃ error after, runtime.authorizeBrowser env profileId profile session started occasion =
      (.error error, after) /\
        after.has (.grantRequest profileId occasion.freshRequest) = true := by
  rcases limit with ⟨reg, registered, full, _, changed, accepted⟩
  rcases GrantRegistry.requestGrantInner_ok accepted with ⟨rfl, _, stored, -⟩
  rcases adminApproveGrant_of_full unused registered stored full with
    ⟨error, refused, approval, isOpen⟩
  unfold authorizeBrowser
  dsimp only
  rw [requestBrowserGrant_eq, adminRequestGrantInner]
  have named : runtime.policyRuntime.grants.get (browserGrantParams env runtime profileId
      profile session.sessionId session.processDigest.bytes started.endpointId).profileId =
        some reg := registered
  simp only [named, accepted]
  have approval : adminApproveGrant { runtime.policyRuntime with
      grants := runtime.policyRuntime.grants.insert (browserGrantParams env runtime profileId
        profile session.sessionId session.processDigest.bytes started.endpointId).profileId changed }
      occasion.freshRequest occasion.freshGrant = (.error error, refused) := approval
  simp only [approval]
  exact ⟨_, _, rfl, isOpen⟩

/-- Every other failure leaves nothing that a roll back does not remove. -/
theorem authorizeBrowser_error
    (outcome : runtime.authorizeBrowser env profileId profile session started occasion =
      (.error error, after))
    (room : ¬GrantLimitReached env runtime profileId profile session started.endpointId
      occasion) : NoMore runtime after := by
  unfold authorizeBrowser at outcome
  dsimp only at outcome
  rw [requestBrowserGrant_eq] at outcome
  split at outcome
  · rename_i refused
    cases outcome
    exact .of_policy runtime (adminRequestGrantInner_error refused)
  · rename_i id requested accepted
    rcases adminRequestGrantInner_ok accepted with
      ⟨rfl, reg, _, changed, registered, attempt, stored, rfl⟩
    have notFull : ¬reg.IsFull := fun full =>
      room ⟨reg, registered, full, occasion.freshRequest, changed, attempt⟩
    rcases adminApproveGrant_of_not_full unused registered stored notFull with
      ⟨_, approval, withdrawn⟩
    rw [approval] at outcome
    rcases enterSignContext_error outcome with ⟨reg, entries, registrations, rfl⟩
    exact (NoMore.of_policy runtime withdrawn).trans
      (.of_entries (runtime.withPolicy _) entries registrations)

end

theorem authorizeBrowser_ok
    (outcome : runtime.authorizeBrowser env profileId profile session started occasion =
      (.ok (), after)) : after.browserManager = runtime.browserManager := by
  unfold authorizeBrowser at outcome
  dsimp only at outcome
  split at outcome
  · cases outcome
  · split at outcome
    · cases outcome
    · rw [enterSignContext_ok outcome]
      rfl

theorem exposeBrowser_error
    (exposed : runtime.browserManager.leaseCdpEndpoint started.leaseId = some endpoint)
    (outcome : runtime.exposeBrowser profileId profile sessionId started = (.error error, after)) :
    False := by
  unfold exposeBrowser at outcome
  rw [exposed] at outcome
  dsimp only at outcome
  split at outcome <;> cases outcome

/-- Without the limit a launch that fails has added nothing but its token and its lease. -/
theorem finish_error
    (unused : runtime.policyRuntime.Unused occasion.freshRequest occasion.freshGrant)
    (exposed : runtime.browserManager.leaseCdpEndpoint started.leaseId = some endpoint)
    (outcome : runtime.finishPrincipalBrowserLaunch env profileId profile session started
      occasion = (.error error, after))
    (room : needsGrant env runtime profileId profile = true ->
      ¬GrantLimitReached env runtime profileId profile session started.endpointId occasion) :
    NoMore runtime after := by
  unfold finishPrincipalBrowserLaunch at outcome
  split at outcome
  · rename_i needed
    split at outcome
    · rename_i failed
      cases outcome
      exact authorizeBrowser_error unused failed (room needed)
    · rename_i authorized
      rw [<- authorizeBrowser_ok authorized] at exposed
      exact (exposeBrowser_error exposed outcome).elim
  · exact (exposeBrowser_error exposed outcome).elim

theorem needsGrant_congr (same : SamePolicy runtime after) :
    needsGrant env after profileId profile = needsGrant env runtime profileId profile := by
  rw [needsGrant, storageOf, same.credentialStorage]
  rfl

theorem GrantLimitReached.congr {endpointId : EndpointId} (same : SamePolicy runtime after) :
    GrantLimitReached env after profileId profile session endpointId occasion <->
      GrantLimitReached env runtime profileId profile session endpointId occasion := by
  have params : browserGrantParams env after profileId profile session.sessionId
      session.processDigest.bytes endpointId = browserGrantParams env runtime profileId profile
        session.sessionId session.processDigest.bytes endpointId := by
    rw [browserGrantParams, storageOf, same.credentialStorage]
    rfl
  rw [GrantLimitReached, params, same.policyRuntime]
  rfl

end Stages

/-! ## Both launches -/

/-- A principal's launch finds no earlier browser alive, starts one, and gets as far as its
grant, which the profile has no room for. -/
def EndsAtGrantLimit (env : Env) (runtime : AgentRuntime) (profileId : ProfileId)
    (profile : ProfileRuntime) (session : ManagedPrincipalSession) (occasion : LaunchOccasion) :
    Prop :=
  profile.profileConfig.browserCdpExpose.getD .pipe = .port /\
    needsGrant env runtime profileId profile = true /\
    (∀ leaseId ∈ earlierLeases profile session.sessionId,
      liveEndpoint runtime.browserManager leaseId = none) /\
    ∃ endpointId,
      Starts ((earlierLeases profile session.sessionId).foldl revokeByLease runtime.registry)
        profileId profile occasion endpointId /\
      GrantLimitReached env runtime profileId profile session endpointId occasion

/-- An administrator's launch gets as far as the process, which does not start. -/
def EndsAtProcess (runtime : AgentRuntime) (profileId : ProfileId) (occasion : LaunchOccasion) :
    Prop :=
  ∃ profile endpointId command token reg message,
    runtime.profiles.get profileId = some profile /\ profile.endpointId = some endpointId /\
      profile.profileConfig.browserCommand = some command /\
      (runtime.browserManager.findLiveLeaseForProfile occasion.probe profileId).1 = none /\
      occasion.token = .ok token /\
      runtime.registry.registerPendingRegistration token ⟨profileId, profile.profileConfig⟩ =
        (.ok (), reg) /\
      occasion.spawned = .error message

section Launches

variable {env : Env} {runtime after : AgentRuntime} {profileId : ProfileId}
  {profile : ProfileRuntime} {session : ManagedPrincipalSession} {startUrl : Option Text}
  {occasion : LaunchOccasion} {error : ProtocolError}

section

variable (unused : runtime.policyRuntime.Unused occasion.freshRequest occasion.freshGrant)

include unused

theorem handleEnsureBrowser_error
    (room : ¬EndsAtGrantLimit env runtime profileId profile session occasion)
    (outcome : runtime.handleEnsureBrowser env profileId profile session startUrl occasion =
      (.error error, after)) : NoMore runtime after := by
  unfold handleEnsureBrowser at outcome
  split at outcome
  · cases outcome
    exact .refl _
  · rename_i trusted
    split at outcome
    · cases outcome
    · rename_i cleared reuse
      have searched := runtime.reuseBrowser_spec profileId profile session.sessionId
      rw [reuse] at searched
      rcases searched with - | ⟨vacant, cleared_noMore, clearedPolicy, clearedRegistry, -⟩
      unfold launchForPrincipal at outcome
      split at outcome
      · rename_i failed
        cases outcome
        exact cleared_noMore.trans (startBrowser_spec failed)
      · rename_i started launched start
        rcases startBrowser_spec start with ⟨atMost, launchedPolicy, starts, _, exposed⟩
        have same := clearedPolicy.trans launchedPolicy
        split at outcome
        · rename_i failed finish
          cases outcome
          rw [<- same.policyRuntime] at unused
          have finished := finish_error unused exposed finish ?_
          · exact cleared_noMore.trans (AtMost.rollBack (finished.atMost atMost))
          · intro needed limit
            rw [needsGrant_congr same] at needed
            rw [clearedRegistry] at starts
            exact room ⟨not_not.mp trusted, needed, vacant, started.endpointId, starts,
              (GrantLimitReached.congr same).mp limit⟩
        · cases outcome

theorem handleEnsureBrowser_of_limit
    (limit : EndsAtGrantLimit env runtime profileId profile session occasion) :
    ∃ error after, runtime.handleEnsureBrowser env profileId profile session startUrl
      occasion = (.error error, after) /\
        after.has (.grantRequest profileId occasion.freshRequest) = true := by
  rcases limit with ⟨trusted, needed, vacant, _, starts, limit⟩
  have searched := runtime.reuseBrowser_spec profileId profile session.sessionId
  rcases reuse : runtime.reuseBrowser profileId profile session.sessionId with ⟨answer, cleared⟩
  rw [reuse] at searched
  rcases searched with ⟨mem, live⟩ | ⟨-, -, clearedPolicy, registry, -⟩
  · rw [vacant _ mem] at live
    cases live
  rw [<- registry] at starts
  rcases starts.startBrowser with ⟨started, launched, start, rfl⟩
  have same := clearedPolicy.trans (startBrowser_spec start).2.1
  rw [<- same.policyRuntime] at unused
  rw [<- needsGrant_congr same] at needed
  rcases authorizeBrowser_of_limit unused ((GrantLimitReached.congr same).mpr limit) with
    ⟨error, refused, authorized, isOpen⟩
  have finished : launched.finishPrincipalBrowserLaunch env profileId profile session started
      occasion = (.error error, refused) := by
    rw [finishPrincipalBrowserLaunch, if_pos needed, authorized]
  refine ⟨error, refused.rollBack started, ?_, isOpen⟩
  rw [handleEnsureBrowser, if_neg (not_not.mpr trusted), reuse]
  dsimp only
  rw [launchForPrincipal, start]
  dsimp only
  rw [finished]

end

theorem NoMore.of_search (runtime : AgentRuntime) (occasion : LaunchOccasion)
    (profileId : ProfileId) :
    NoMore runtime (runtime.withBrowsers
      (runtime.browserManager.findLiveLeaseForProfile occasion.probe profileId).2) := by
  apply of_browsers
  intro leaseId held
  have same := congrArg (Option.any (fun state => !state.isTerminal)) (searchLive_state
    occasion.probe profileId (runtime.browserManager.toList.map Prod.fst) leaseId
    runtime.browserManager)
  rw [Option.any_map, Option.any_map] at same
  exact same.symm.trans held

theorem startAdminBrowser_error {endpointId : EndpointId} {config : BrowserConfig}
    (outcome : runtime.startAdminBrowser env profileId profile endpointId config occasion =
      (.error error, after)) :
    NoMore runtime after ∨ ∃ token reg message, occasion.token = .ok token /\
      runtime.registry.registerPendingRegistration token ⟨profileId, profile.profileConfig⟩ =
        (.ok (), reg) /\ occasion.spawned = .error message := by
  unfold startAdminBrowser at outcome
  split at outcome
  · cases outcome
    exact .inl (.refl _)
  · rename_i token drawn
    split at outcome
    · rename_i refused
      cases outcome
      exact .inl (.of_refused refused)
    · rename_i reg entered
      split at outcome
      · rename_i message _ failed
        unfold launchPending at failed
        split at failed
        · rename_i spawned
          exact .inr ⟨token, reg, _, drawn, entered, spawned⟩
        · cases failed
      · rename_i leaseId mgr launched
        unfold launchPending at launched
        split at launched
        · cases launched
        · cases launched
          rw [get_insert_self] at outcome
          cases outcome

theorem handleLaunchBrowser_error (started : ¬EndsAtProcess runtime profileId occasion)
    (outcome : runtime.handleLaunchBrowser env profileId startUrl occasion =
      (.error error, after)) : NoMore runtime after := by
  unfold handleLaunchBrowser at outcome
  split at outcome
  · cases outcome
    exact .refl _
  · rename_i profile found
    split at outcome
    · cases outcome
      exact .refl _
    · cases outcome
      exact .refl _
    · rename_i endpointId command endpoint configured
      split at outcome
      · cases outcome
      · rename_i mgr search
        have searched := NoMore.of_search runtime occasion profileId
        rw [search] at searched
        rcases startAdminBrowser_error outcome with noMore | ⟨token, reg, message, launch⟩
        · exact searched.trans noMore
        · refine absurd ?_ started
          exact ⟨profile, endpointId, command, token, reg, message, found, endpoint,
            configured, by rw [search], launch⟩

theorem handleLaunchBrowser_of_process (failed : EndsAtProcess runtime profileId occasion) :
    ∃ token error after, runtime.handleLaunchBrowser env profileId startUrl occasion =
      (.error error, after) /\ after.has (.registrationToken token) = true /\
        runtime.has (.registrationToken token) = false := by
  rcases failed with ⟨profile, _, _, token, reg, message, found, endpoint,
    configured, none, drawn, entered, spawned⟩
  rcases registered_entries entered with ⟨-, registrations, free⟩
  rcases search : runtime.browserManager.findLiveLeaseForProfile occasion.probe profileId with
    ⟨_, mgr⟩
  rw [search] at none
  cases none
  have entered : (runtime.withBrowsers mgr).registry.registerPendingRegistration token
      ⟨profileId, profile.profileConfig⟩ = (.ok (), reg) := entered
  refine ⟨token, .internal ("failed to launch browser: " ++ message) .fixRequest,
    (runtime.withBrowsers mgr).withRegistry reg, ?_, ?_, free⟩
  · unfold handleLaunchBrowser
    simp only [found, endpoint, configured, search]
    unfold startAdminBrowser
    simp only [drawn, entered, spawned, launchPending]
  · change (reg.registrationEntries.get token).isSome = true
    rw [registrations, get_insert_self]
    rfl

end Launches

/-- A launch that fails adds no authority, unless it is a principal's and fails at the limit
of active grants, or the administrator's and fails at the process. -/
theorem failed_launch_noMore_iff (env : Env) (runtime : AgentRuntime)
    (profileId : ProfileId) (profile : ProfileRuntime) (session : ManagedPrincipalSession)
    (startUrl : Option Text) (occasion : LaunchOccasion)
    (unused : runtime.policyRuntime.Unused occasion.freshRequest occasion.freshGrant) :
    ((∀ error after, runtime.handleEnsureBrowser env profileId profile session startUrl
          occasion = (.error error, after) -> NoMore runtime after) <->
        ¬EndsAtGrantLimit env runtime profileId profile session occasion) /\
      ((∀ error after, runtime.handleLaunchBrowser env profileId startUrl occasion =
          (.error error, after) -> NoMore runtime after) <->
        ¬EndsAtProcess runtime profileId occasion) := by
  refine ⟨⟨?_, ?_⟩, ⟨?_, ?_⟩⟩
  · intro noMore limit
    rcases handleEnsureBrowser_of_limit unused limit with ⟨error, after, outcome, isOpen⟩
    have before := noMore error after outcome _ isOpen
    rcases (Option.any_eq_true _ _).mp before with ⟨reg, registered, wasOpen⟩
    rw [GrantRegistry.isRequestOpen, (unused profileId reg registered).1] at wasOpen
    cases wasOpen
  · intro room error after outcome
    exact handleEnsureBrowser_error unused room outcome
  · intro noMore failed
    rcases handleLaunchBrowser_of_process failed with ⟨_, error, after, outcome, held, free⟩
    rw [noMore error after outcome _ held] at free
    cases free
  · intro started error after outcome
    exact handleLaunchBrowser_error started outcome

end AgentRuntime

/-! ## Failures in a small daemon -/

namespace Sample

open AgentRuntime

def browsing : AgentProfileConfig :=
  { config none with
    browserCommand := some ["browser"]
    browserCdpExpose := some .port }

/-- One profile with a browser and, from the broker's sample, one active grant. -/
def host : AgentRuntime :=
  runtimeFor (empty.insert agent (profileFor browsing)) (fun _ => .new .empty)

def principal (number : Nat) : ManagedPrincipalSession where
  sessionId := ⟨BitVec.ofNat _ (100 * number)⟩
  processDigest := ⟨0⟩
  capability := ⟨BitVec.ofNat _ number⟩
  deadline := 1000

/-- The launch with the given number draws identifiers of its own. -/
def launch (number : Nat) (spawned : Except Text SpawnedBrowser) : LaunchOccasion where
  token := .ok ⟨BitVec.ofNat _ number⟩
  spawned
  probe := fun _ => .running
  freshLease := ⟨BitVec.ofNat _ (100 * number + 1)⟩
  freshSession := ⟨BitVec.ofNat _ (100 * number + 2)⟩
  freshRequest := ⟨BitVec.ofNat _ (100 * number + 3)⟩
  freshGrant := ⟨BitVec.ofNat _ (100 * number + 4)⟩

def unstarted : LaunchOccasion :=
  launch 1 (.error "no such file")

/-- A principal of its own asks for a browser, which starts. -/
def ensure (runtime : AgentRuntime) (number : Nat) :
    Except ProtocolError BrowserEnsured × AgentRuntime :=
  runtime.handleEnsureBrowser sampleEnv agent
    ((runtime.profiles.get agent).getD (profileFor browsing)) (principal number) none
    (launch number (.ok ⟨number, "ws"⟩))

/-- Four principals were given browsers, each with a grant. -/
def crowded : AgentRuntime :=
  [1, 2, 3, 4].foldl (fun runtime number => (ensure runtime number).2) host

theorem host_unused : host.policyRuntime.Unused unstarted.freshRequest unstarted.freshGrant := by
  have checked : host.policyRuntime.grants.values.all (fun reg =>
      (reg.pendingRequests.get unstarted.freshRequest).isNone &&
        (reg.grants.get unstarted.freshGrant).isNone) = true := by
    decide +kernel
  intro profileId reg registered
  have passes := List.all_eq_true.mp checked reg ((mem_values _ _).mpr ⟨profileId, registered⟩)
  rw [Bool.and_eq_true, Option.isNone_iff_eq_none, Option.isNone_iff_eq_none] at passes
  exact passes

/-- A principal whose browser does not start is left with nothing. -/
theorem unstarted_browser_leaves_nothing :
    (host.handleEnsureBrowser sampleEnv agent (profileFor browsing) (principal 1) none
        unstarted).1.isOk = false /\
      ∀ error after, host.handleEnsureBrowser sampleEnv agent (profileFor browsing)
        (principal 1) none unstarted = (.error error, after) -> NoMore host after := by
  refine ⟨by decide +kernel, (failed_launch_noMore_iff sampleEnv host agent
    (profileFor browsing) (principal 1) none unstarted host_unused).1.mpr ?_⟩
  rintro ⟨-, -, -, _, ⟨-, -, -, _, spawned⟩, -⟩
  cases spawned

/-- The administrator's launch of the same browser keeps a registration token, and a
principal's launch that meets the limit of active grants keeps its request. -/
theorem failed_launches_add_authority :
    (host.handleLaunchBrowser sampleEnv agent none unstarted).1.isOk = false /\
      host.has (.registrationToken ⟨1⟩) = false /\
      (host.handleLaunchBrowser sampleEnv agent none unstarted).2.has
        (.registrationToken ⟨1⟩) = true /\
      (ensure crowded 5).1.isOk = false /\
      crowded.has (.grantRequest agent ⟨503⟩) = false /\
      (ensure crowded 5).2.has (.grantRequest agent ⟨503⟩) = true := by
  decide +kernel

end Sample

end ControlVault.Daemon
