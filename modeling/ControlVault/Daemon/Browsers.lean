import ControlVault.Daemon.State

namespace ControlVault.Daemon

open Foundation Core Engine Browser Storage
open Broker

/-!
# Browsers of a profile

A principal is given the browser it has, the one its profile shares, or a new
one; the administrator can launch one as well.  A launch acquires one thing after
the other: a token with a registration context, a process with its lease, a grant
and a sign context that is bound to the lease.  The two launches differ in what
they undo when a later part fails.

The browsers of principals stand in two tables of their profile.  Those of the
administrator stand in none.
-/

/-- The answers of the outside world during one launch. -/
structure LaunchOccasion where
  token : Except Text BearerToken
  spawned : Except Text SpawnedBrowser
  probe : BrowserLeaseId -> ChildStatus
  freshLease : BrowserLeaseId
  /-- The session that an administrator's launch makes up. -/
  freshSession : PrincipalSessionId
  freshRequest : GrantRequestId
  freshGrant : GrantId

structure BrowserEnsured where
  (status cdpEndpoint : Text)
  shared : Bool

structure BrowserLaunched where
  leaseId : BrowserLeaseId
  pid : Nat
  (startUrl cdpEndpoint : Option Text)

/-! ## Shared browsers -/

def SharedBrowserLease.attach (shared : SharedBrowserLease) (sessionId : PrincipalSessionId) :
    SharedBrowserLease :=
  if sessionId ∈ shared.attachedSessions then shared
  else { shared with attachedSessions := sessionId :: shared.attachedSessions }

inductive SharedDetachOutcome
  | keep
  | terminate (leaseId : BrowserLeaseId)

/-- The last session to leave takes the entry with it. -/
def detachSessionFromShared (shared : Option SharedBrowserLease) (sessionId : PrincipalSessionId) :
    SharedDetachOutcome × Option SharedBrowserLease :=
  match shared with
  | none => (.keep, none)
  | some lease =>
    if sessionId ∉ lease.attachedSessions then (.keep, some lease)
    else
      let left := lease.attachedSessions.filter (fun other => other ≠ sessionId)
      if left.isEmpty then (.terminate lease.leaseId, none)
      else (.keep, some { lease with attachedSessions := left })

namespace ProfileRuntime

def withoutActive (sessionId : PrincipalSessionId) (profile : ProfileRuntime) : ProfileRuntime :=
  { profile with activeBrowser := profile.activeBrowser.remove sessionId }

def withShared (shared : Option SharedBrowserLease) (profile : ProfileRuntime) : ProfileRuntime :=
  { profile with sharedBrowser := shared }

/-- The session uses the lease from now on. -/
def withActive (sessionId : PrincipalSessionId) (leaseId : BrowserLeaseId)
    (profile : ProfileRuntime) : ProfileRuntime :=
  { profile with activeBrowser := profile.activeBrowser.insert sessionId leaseId }

end ProfileRuntime

namespace AgentRuntime

variable (env : Env)

/-! ## The end of a lease -/

variable (runtime : AgentRuntime)

/-- Revoke the sign contexts of a lease, stop its process and forget it. -/
def endLease (leaseId : BrowserLeaseId) : AgentRuntime :=
  { runtime with
    registry := runtime.registry.revokeByLease leaseId
    browserManager := runtime.browserManager.discard leaseId }

/-- A shared browser stays as long as another session is attached. -/
def cleanupBrowserForSession (profileId : ProfileId) (sessionId : PrincipalSessionId) : AgentRuntime :=
  match runtime.profiles.get profileId with
  | none => runtime
  | some profile =>
    let removed := runtime.modifyProfile profileId (.withoutActive sessionId)
    match profile.activeBrowser.get sessionId, profile.profileConfig.browserScope with
    | none, _ => removed
    | some leaseId, .session => removed.endLease leaseId
    | some _, .profile =>
      match detachSessionFromShared profile.sharedBrowser sessionId with
      | (.keep, shared) => removed.modifyProfile profileId (.withShared shared)
      | (.terminate leaseId, shared) =>
        (removed.modifyProfile profileId (.withShared shared)).endLease leaseId

/-! ## What a launch needs -/

def noEndpoint (profileId : ProfileId) : ProtocolError :=
  .notFound ("profile '" ++ profileId.value ++ "' has no active endpoint")

def noBrowserCommand (profileId : ProfileId) : ProtocolError :=
  .badRequest ("profile '" ++ profileId.value ++ "' has no browser_command configured")

variable (config : AgentProfileConfig)

/-- The relying parties of a browser. -/
def browserRpIds : List Text :=
  if !config.rpIds.isEmpty then config.rpIds else config.allowedRpIds

def browserConfig (startUrl : Option Text) (cdpExpose : CdpExposeMode) : BrowserConfig where
  startUrl := startUrl.or config.startUrl
  rpIds := browserRpIds config
  loginTimeoutSecs := 300
  cdpExpose

/-- The credentials of the profile's store that its browsers may use. -/
def browserCredentials (store : LocalStorageAdapter) :
    List CredentialRef :=
  ((store.enumerate .none).filter (fun cred =>
    (browserRpIds config).any (fun rpId => rpId.asciiLower = cred.rpId.asciiLower) &&
      config.credentialRefs.all (fun references =>
        references.elem (.withDefaultDomain env cred.id)))).map
    (fun cred => .withDefaultDomain env cred.id)

/-- Without configured references a grant covers whatever the store holds later. -/
def isDynamic : Bool :=
  config.credentialRefs.isNone

def sessionTtlSecs : Nat :=
  (config.maxSessionTtl.map BoundedDuration.secs).getD 300

def browserGrantParams (profileId : ProfileId) (profile : ProfileRuntime)
    (sessionId : PrincipalSessionId) (principalDigest : BitVec 256) (endpointId : EndpointId) :
    GrantRequestParams where
  profileId
  sessionId
  endpointId
  principalDigest
  rpIds := browserRpIds profile.profileConfig
  credentials :=
    if isDynamic profile.profileConfig then []
    else
      browserCredentials env profile.profileConfig (runtime.storageOf profileId profile)
  requestedTtlSecs := sessionTtlSecs profile.profileConfig

/-- Some credential is in scope, or may be later. -/
def needsGrant (profileId : ProfileId) (profile : ProfileRuntime) : Bool :=
  isDynamic profile.profileConfig ||
    !(browserCredentials env profile.profileConfig (runtime.storageOf profileId profile)).isEmpty

/-- `admin_request_dynamic_grant` or `admin_request_grant`. -/
def requestBrowserGrant (profile : ProfileRuntime) (params : GrantRequestParams)
    (occasion : LaunchOccasion) :
    Except GrantError GrantRequestId × PolicyRuntime :=
  if isDynamic profile.profileConfig then
    runtime.policyRuntime.adminRequestDynamicGrant params occasion.freshRequest
  else runtime.policyRuntime.adminRequestGrant params occasion.freshRequest

/-! ## Browsers for principals -/

/-- The address of a browser that may still be used. -/
def liveEndpoint (mgr : BrowserProcessManager) (leaseId : BrowserLeaseId) :
    Option (LeaseState × Text) :=
  match mgr.get leaseId with
  | none => none
  | some lease =>
    if lease.isLive then lease.cdpEndpoint.map (fun endpoint => (lease.state, endpoint)) else none

section

variable (profileId : ProfileId) (profile : ProfileRuntime) (sessionId : PrincipalSessionId)

/-- Attach to the browser of the profile; a stale one is ended. -/
def reuseShared : Option BrowserEnsured × AgentRuntime :=
  match profile.profileConfig.browserScope, profile.sharedBrowser with
  | .profile, some shared =>
    match liveEndpoint runtime.browserManager shared.leaseId with
    | some (state, endpoint) =>
      (some ⟨state.label, endpoint, true⟩,
        (runtime.modifyProfile profileId (.withShared (some (shared.attach sessionId)))
          ).modifyProfile profileId (.withActive sessionId shared.leaseId))
    | none =>
      (none, (runtime.endLease shared.leaseId).modifyProfile profileId (.withShared none))
  | _, _ => (none, runtime)

/-- Return to the browser of the session; a stale one is ended. -/
def reuseActive : Option BrowserEnsured × AgentRuntime :=
  match profile.activeBrowser.get sessionId with
  | none => (none, runtime)
  | some leaseId =>
    match liveEndpoint runtime.browserManager leaseId with
    | some (state, endpoint) => (some ⟨state.label, endpoint, false⟩, runtime)
    | none =>
      (none, (runtime.endLease leaseId).modifyProfile profileId (.withoutActive sessionId))

end

/-- What a started browser is known by. -/
structure Started where
  endpointId : EndpointId
  token : BearerToken
  leaseId : BrowserLeaseId

/-- Enter a token for registrations and start a browser with it. -/
def startBrowser (profileId : ProfileId) (profile : ProfileRuntime) (startUrl : Option Text)
    (occasion : LaunchOccasion) :
    Except ProtocolError Started × AgentRuntime :=
  match profile.endpointId, profile.profileConfig.browserCommand with
  | none, _ => (.error (noEndpoint profileId), runtime)
  | some _, none => (.error (noBrowserCommand profileId), runtime)
  | some _, some [] =>
    (.error (.badRequest "browser_command must contain an executable"), runtime)
  | some endpointId, some (_ :: _) =>
    match occasion.token with
    | .error message =>
      (.error (.internal ("failed to generate browser bearer token: " ++ message) .abort), runtime)
    | .ok token =>
      match runtime.registry.registerPendingRegistration token ⟨profileId, profile.profileConfig⟩ with
      | (.error message, reg) =>
        (.error (.internal ("failed to register browser registration context: " ++ message) .abort),
          runtime.withRegistry reg)
      | (.ok (), reg) =>
        match runtime.browserManager.launchPending runtime.instant
            (browserConfig profile.profileConfig startUrl .port) endpointId profileId
            occasion.freshLease occasion.spawned with
        | (.error message, _) =>
          (.error (.internal ("failed to launch browser: " ++ message) .fixRequest),
            runtime.withRegistry (reg.revokeRegistration token))
        | (.ok leaseId, mgr) =>
          (.ok ⟨endpointId, token, leaseId⟩, (runtime.withRegistry reg).withBrowsers mgr)

def maxActiveTtlSecs : Nat := 86400

section

variable (profileId : ProfileId) (profile : ProfileRuntime)

/-- Enter a sign context for the approved grant and bind it to the lease. -/
def enterSignContext (started : Started)
    (grantId : GrantId) : Except ProtocolError Unit × AgentRuntime :=
  let revoked := (runtime.policyRuntime.adminRevokeGrant grantId).2
  match runtime.registry.registerPending started.token ⟨profileId, grantId, profile.profileConfig⟩
      (.activating started.leaseId
        (max 1 (min (sessionTtlSecs profile.profileConfig) maxActiveTtlSecs))) with
  | (.error message, reg) =>
    (.error (.internal ("failed to register browser sign context: " ++ message) .abort),
      (runtime.withRegistry reg).withPolicy revoked)
  | (.ok (), entered) =>
    match entered.bindLease started.token started.leaseId with
    | (.error message, reg) =>
      (.error (.internal ("failed to bind browser sign context: " ++ message) .abort),
        (runtime.withRegistry (reg.revoke started.token)).withPolicy revoked)
    | (.ok (), reg) => (.ok (), runtime.withRegistry reg)

/-- Request and approve the grant of a browser, then enter it for signing.  A request that
was not approved stays. -/
def authorizeBrowser
    (session : ManagedPrincipalSession) (started : Started) (occasion : LaunchOccasion) :
    Except ProtocolError Unit × AgentRuntime :=
  let params := browserGrantParams env runtime profileId profile session.sessionId
    session.processDigest.bytes started.endpointId
  match runtime.requestBrowserGrant profile params occasion with
  | (.error error, policyRuntime) =>
    (.error (.internal
      ("failed to prepare browser authentication grant: " ++ error.message) .abort),
      runtime.withPolicy policyRuntime)
  | (.ok requestId, requested) =>
    match requested.adminApproveGrant requestId occasion.freshGrant with
    | (.error error, policyRuntime) =>
      (.error (.internal
        ("failed to activate browser authentication grant: " ++ error.message) .abort),
        runtime.withPolicy policyRuntime)
    | (.ok grantId, approved) =>
      (runtime.withPolicy approved).enterSignContext profileId profile started grantId

/-- Hand the browser's address to the session and note the browser as its own. -/
def exposeBrowser (sessionId : PrincipalSessionId) (started : Started) :
    Except ProtocolError BrowserEnsured × AgentRuntime :=
  match runtime.browserManager.leaseCdpEndpoint started.leaseId with
  | none =>
    (.error (.internal "port-mode browser did not expose a CDP endpoint" .abort), runtime)
  | some endpoint =>
    let used := runtime.modifyProfile profileId (.withActive sessionId started.leaseId)
    let answer := fun shared =>
      (⟨LeaseState.authenticationPending.label, endpoint, shared⟩ : BrowserEnsured)
    match profile.profileConfig.browserScope with
    | .session => (.ok (answer false), used)
    | .profile =>
      (.ok (answer true),
        used.modifyProfile profileId (.withShared (some ⟨started.leaseId, [sessionId]⟩)))

def finishPrincipalBrowserLaunch
    (session : ManagedPrincipalSession) (started : Started) (occasion : LaunchOccasion) :
    Except ProtocolError BrowserEnsured × AgentRuntime :=
  if needsGrant env runtime profileId profile then
    match runtime.authorizeBrowser env profileId profile session started occasion with
    | (.error error, after) => (.error error, after)
    | (.ok (), after) => after.exposeBrowser profileId profile session.sessionId started
  else runtime.exposeBrowser profileId profile session.sessionId started

end

/-- Take the token and the lease of a launch back. -/
def rollBack (started : Started) : AgentRuntime :=
  (runtime.withRegistry
    ((runtime.registry.revoke started.token).revokeRegistration started.token)).endLease
      started.leaseId

section

variable (profileId : ProfileId) (profile : ProfileRuntime)

def launchForPrincipal
    (session : ManagedPrincipalSession) (startUrl : Option Text) (occasion : LaunchOccasion) :
    Except ProtocolError BrowserEnsured × AgentRuntime :=
  match runtime.startBrowser profileId profile startUrl occasion with
  | (.error error, after) => (.error error, after)
  | (.ok started, launched) =>
    match launched.finishPrincipalBrowserLaunch env profileId profile session started occasion with
    | (.error error, after) => (.error error, after.rollBack started)
    | (.ok answer, after) => (.ok answer, after)

/-- The part of `handle_ensure_browser` that looks for a browser to return to. -/
def reuseBrowser (sessionId : PrincipalSessionId) : Option BrowserEnsured × AgentRuntime :=
  match runtime.reuseShared profileId profile sessionId with
  | (some answer, after) => (some answer, after)
  | (none, after) => after.reuseActive profileId profile sessionId

def handleEnsureBrowser
    (session : ManagedPrincipalSession) (startUrl : Option Text) (occasion : LaunchOccasion) :
    Except ProtocolError BrowserEnsured × AgentRuntime :=
  if profile.profileConfig.browserCdpExpose.getD .pipe ≠ .port then
    (.error (.forbidden
      "Playwright browser discovery requires browser_cdp_expose = 'port' (trusted agents only)"),
      runtime)
  else
    match runtime.reuseBrowser profileId profile session.sessionId with
    | (some answer, after) => (.ok answer, after)
    | (none, cleared) =>
      cleared.launchForPrincipal env profileId profile session startUrl occasion

end

/-! ## Browsers for the administrator -/

/-- Authorize a browser as far as it goes; failures are only logged. -/
def authorizeAdminBrowser (profileId : ProfileId) (profile : ProfileRuntime) (started : Started)
    (occasion : LaunchOccasion) : AgentRuntime :=
  let params := browserGrantParams env runtime profileId profile occasion.freshSession 0
    started.endpointId
  match runtime.requestBrowserGrant profile params occasion with
  | (.error _, policyRuntime) => runtime.withPolicy policyRuntime
  | (.ok requestId, requested) =>
    match requested.adminApproveGrant requestId occasion.freshGrant with
    | (.error _, policyRuntime) => runtime.withPolicy policyRuntime
    | (.ok grantId, approved) =>
      match runtime.registry.registerPending started.token
          ⟨profileId, grantId, profile.profileConfig⟩ .backend with
      | (.error _, reg) => (runtime.withPolicy approved).withRegistry reg
      | (.ok (), entered) =>
        (runtime.withPolicy approved).withRegistry
          (entered.bindLease started.token started.leaseId).2

/-- Enter a token and start a browser.  A token whose browser did not start stays. -/
def startAdminBrowser (profileId : ProfileId) (profile : ProfileRuntime) (endpointId : EndpointId)
    (config : BrowserConfig) (occasion : LaunchOccasion) :
    Except ProtocolError BrowserLaunched × AgentRuntime :=
  match occasion.token with
  | .error message =>
    (.error (.internal ("failed to generate bearer token: " ++ message) .abort), runtime)
  | .ok token =>
    match runtime.registry.registerPendingRegistration token ⟨profileId, profile.profileConfig⟩ with
    | (.error message, reg) =>
      (.error (.internal ("failed to register registration context: " ++ message) .abort),
        runtime.withRegistry reg)
    | (.ok (), reg) =>
      match runtime.browserManager.launchPending runtime.instant config endpointId profileId
          occasion.freshLease occasion.spawned with
      | (.error message, _) =>
        (.error (.internal ("failed to launch browser: " ++ message) .fixRequest),
          runtime.withRegistry reg)
      | (.ok leaseId, mgr) =>
        let launched := (runtime.withRegistry reg).withBrowsers mgr
        match mgr.get leaseId with
        | none =>
          (.error (.internal "browser lease not found after launch" .abort), launched)
        | some lease =>
          (.ok ⟨leaseId, lease.pid, config.startUrl, lease.cdpEndpoint⟩,
            if needsGrant env launched profileId profile then
              launched.authorizeAdminBrowser env profileId profile
                ⟨endpointId, token, leaseId⟩ occasion
            else launched)

/-- The profile need not be enabled.  The configuration guarantees that a command is not
empty. -/
def handleLaunchBrowser (profileId : ProfileId) (startUrl : Option Text)
    (occasion : LaunchOccasion) : Except ProtocolError BrowserLaunched × AgentRuntime :=
  match runtime.profiles.get profileId with
  | none =>
    (.error (.notFound ("profile '" ++ profileId.value ++ "' not found")), runtime)
  | some profile =>
    match profile.endpointId, profile.profileConfig.browserCommand with
    | none, _ => (.error (noEndpoint profileId), runtime)
    | some _, none => (.error (noBrowserCommand profileId), runtime)
    | some endpointId, some _ =>
      match runtime.browserManager.findLiveLeaseForProfile occasion.probe profileId with
      | (some (leaseId, lease), mgr) =>
        (.ok ⟨leaseId, lease.pid, lease.startUrl, lease.cdpEndpoint⟩, runtime.withBrowsers mgr)
      | (none, mgr) =>
        (runtime.withBrowsers mgr).startAdminBrowser env profileId profile endpointId
          (browserConfig profile.profileConfig startUrl
            (profile.profileConfig.browserCdpExpose.getD .pipe))
          occasion

/-! ## Browsers that end by themselves -/

/-- Drop an ended lease from a profile's tables; whether it stood in one. -/
def dropLease (leaseId : BrowserLeaseId) (profile : ProfileRuntime) : ProfileRuntime :=
  { profile with
    activeBrowser := profile.activeBrowser.retain (fun _ active => active ≠ leaseId)
    sharedBrowser := profile.sharedBrowser.filter (fun shared => shared.leaseId ≠ leaseId) }

def namesLease (leaseId : BrowserLeaseId) (profile : ProfileRuntime) : Bool :=
  profile.activeBrowser.values.elem leaseId ||
    profile.sharedBrowser.any (fun shared => shared.leaseId = leaseId)

/-- What the runtime loop does about one lease that has exited or expired.  A lease that no
profile names stays with the manager. -/
def processEnd (leaseId : BrowserLeaseId) : AgentRuntime :=
  { runtime with
    registry := runtime.registry.revokeByLease leaseId
    profiles := runtime.profiles.mapValues (fun _ => dropLease leaseId)
    browserManager :=
      if runtime.profiles.values.any (namesLease leaseId) then
        runtime.browserManager.remove leaseId
      else runtime.browserManager }

/-- The part of a round of the runtime loop that looks after browsers. -/
def checkBrowsers (probe : BrowserLeaseId -> ChildStatus) : AgentRuntime :=
  let exits := runtime.browserManager.checkExits probe
  let exited := exits.1.foldl processEnd (runtime.withBrowsers exits.2)
  let expiries := exited.browserManager.checkExpired exited.instant
  expiries.1.foldl processEnd (exited.withBrowsers expiries.2)

end AgentRuntime

end ControlVault.Daemon
