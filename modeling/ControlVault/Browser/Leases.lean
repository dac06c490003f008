import ControlVault.Core.Config
import ControlVault.Foundation.Table

namespace ControlVault.Browser

open Foundation Core

/-!
# Browser leases

The process manager keeps one lease for each browser it started.  A lease waits
for a first assertion, is then active for a limited time, and ends when it is
revoked, expires or the process exits.  The operating system decides whether a
process starts and whether it still runs; both are arguments here.

Instants are counted in milliseconds.
-/

inductive LeaseState
  | authenticationPending
  | active
  | revoked
  | browserExit
  | principalExit
  | daemonShutdown
  deriving DecidableEq

namespace LeaseState

def isTerminal : LeaseState -> Bool
  | authenticationPending | active => false
  | revoked | browserExit | principalExit | daemonShutdown => true

def label : LeaseState -> Text
  | authenticationPending => "authentication-pending"
  | active => "active"
  | revoked => "revoked"
  | browserExit => "browser-exit"
  | principalExit => "principal-exit"
  | daemonShutdown => "daemon-shutdown"

/-- The table of valid transitions, apart from the activation. -/
def mayBecome : LeaseState -> LeaseState -> Bool
  | authenticationPending, revoked => true
  | authenticationPending, browserExit => true
  | authenticationPending, principalExit => true
  | authenticationPending, daemonShutdown => true
  | active, revoked => true
  | active, browserExit => true
  | active, principalExit => true
  | active, daemonShutdown => true
  | revoked, browserExit => true
  | revoked, principalExit => true
  | revoked, daemonShutdown => true
  | principalExit, daemonShutdown => true
  | browserExit, daemonShutdown => true
  | _, _ => false

end LeaseState

inductive TransitionError
  | invalidTransition (source target : LeaseState)
  | notFound

inductive ActivationError
  | notFound
  | notPending (current : LeaseState)
  | loginDeadlineExpired

/-- The part of a launch configuration that the lease depends on. -/
structure BrowserConfig where
  startUrl : Option Text
  rpIds : List Text
  loginTimeoutSecs : Nat
  cdpExpose : CdpExposeMode

/-- A lease.  Its identifier is its key; `child` says that the manager still holds
the process. -/
structure BrowserLease where
  endpointId : EndpointId
  profileId : ProfileId
  state : LeaseState
  (pid loginDeadline ttlDeadline : Nat)
  (child childReaped : Bool)
  (cdpEndpoint startUrl : Option Text)
  deriving DecidableEq

/-- A lease whose browser may still be used. -/
def BrowserLease.isLive (lease : BrowserLease) : Bool :=
  !lease.state.isTerminal

/-- What the operating system says about a child process. -/
inductive ChildStatus
  | running
  | exited (code : Option Int)
  | failed
  deriving DecidableEq

/-- A started browser process and the control address it was found at, if any was asked for. -/
structure SpawnedBrowser where
  pid : Nat
  cdpEndpoint : Text

def minTtlSecs : Nat := 1
def maxTtlClampSecs : Nat := 86400
def minLoginTimeoutSecs : Nat := 10
def maxLoginTimeoutSecs : Nat := 600

def clampTtl (secs : Nat) : Nat :=
  if secs < minTtlSecs then minTtlSecs else if maxTtlClampSecs < secs then maxTtlClampSecs else secs

def clampLoginTimeout (secs : Nat) : Nat :=
  if secs < minLoginTimeoutSecs then minLoginTimeoutSecs
  else if maxLoginTimeoutSecs < secs then maxLoginTimeoutSecs
  else secs

abbrev BrowserProcessManager := Table BrowserLeaseId BrowserLease

namespace BrowserProcessManager

section

variable (mgr : BrowserProcessManager)

/-- `launch_pending_with_agent_endpoint`, with the lease that the call generates. -/
def launchPending (now : Nat) (config : BrowserConfig)
    (endpointId : EndpointId) (profileId : ProfileId) (fresh : BrowserLeaseId)
    (spawned : Except Text SpawnedBrowser) : Except Text BrowserLeaseId × BrowserProcessManager :=
  match spawned with
  | .error message => (.error message, mgr)
  | .ok process =>
    let loginDeadline := now + clampLoginTimeout config.loginTimeoutSecs * 1000
    (.ok fresh, mgr.insert fresh
      { endpointId
        profileId
        state := .authenticationPending
        pid := process.pid
        loginDeadline
        ttlDeadline := loginDeadline
        child := true
        childReaped := false
        cdpEndpoint := if config.cdpExpose = .port then some process.cdpEndpoint else none
        startUrl := config.startUrl })

def activateAfterAssertion (now : Nat) (leaseId : BrowserLeaseId)
    (sessionTtlSecs : Nat) : Except ActivationError LeaseState × BrowserProcessManager :=
  match mgr.get leaseId with
  | none => (.error .notFound, mgr)
  | some lease =>
    if lease.state ≠ .authenticationPending then (.error (.notPending lease.state), mgr)
    else if lease.loginDeadline <= now then (.error .loginDeadlineExpired, mgr)
    else
      (.ok .active, mgr.insert leaseId
        { lease with
          state := .active
          ttlDeadline := now + clampTtl sessionTtlSecs * 1000 })

def transition (leaseId : BrowserLeaseId) (target : LeaseState) :
    Except TransitionError LeaseState × BrowserProcessManager :=
  match mgr.get leaseId with
  | none => (.error .notFound, mgr)
  | some lease =>
    if lease.state.mayBecome target then
      (.ok target, mgr.insert leaseId { lease with state := target })
    else (.error (.invalidTransition lease.state target), mgr)

def revoke (leaseId : BrowserLeaseId) : BrowserProcessManager :=
  (mgr.transition leaseId .revoked).2

/-- The process is signalled, waited for and let go. -/
def terminate (leaseId : BrowserLeaseId) : BrowserProcessManager :=
  mgr.modify leaseId (fun lease => { lease with child := false })

def terminateAll : BrowserProcessManager :=
  mgr.mapValues (fun _ lease => { lease with child := false })

/-- Revoke, terminate and remove a lease.  Its directory is cleaned up on the way. -/
def discard (leaseId : BrowserLeaseId) : BrowserProcessManager :=
  ((mgr.revoke leaseId).terminate leaseId).remove leaseId

def leaseCdpEndpoint (leaseId : BrowserLeaseId) : Option Text :=
  (mgr.get leaseId).bind BrowserLease.cdpEndpoint

end

/-- Visit the leases of a profile until a live one is found whose process still runs.  A
process that is found to have exited is marked as reaped on the way. -/
def searchLive (probe : BrowserLeaseId -> ChildStatus) (profileId : ProfileId) :
    List BrowserLeaseId -> BrowserProcessManager ->
      Option (BrowserLeaseId × BrowserLease) × BrowserProcessManager
  | [], mgr => (none, mgr)
  | leaseId :: rest, mgr =>
    match mgr.get leaseId with
    | none => (none, mgr)
    | some lease =>
      if lease.profileId = profileId /\ lease.isLive then
        match lease.child, probe leaseId with
        | true, .exited _ =>
          searchLive probe profileId rest
            (mgr.insert leaseId { lease with childReaped := true })
        | true, .failed => searchLive probe profileId rest mgr
        | _, _ => (some (leaseId, lease), mgr)
      else searchLive probe profileId rest mgr

def findLiveLeaseForProfile (mgr : BrowserProcessManager)
    (probe : BrowserLeaseId -> ChildStatus) (profileId : ProfileId) :
    Option (BrowserLeaseId × BrowserLease) × BrowserProcessManager :=
  searchLive probe profileId (mgr.toList.map Prod.fst) mgr

/-- A live lease whose process turns out to have exited since the last look. -/
def hasExited (probe : BrowserLeaseId -> ChildStatus) (leaseId : BrowserLeaseId)
    (lease : BrowserLease) : Bool :=
  !lease.childReaped && lease.isLive && lease.child && probe leaseId != .running

def checkExits (mgr : BrowserProcessManager) (probe : BrowserLeaseId -> ChildStatus) :
    List BrowserLeaseId × BrowserProcessManager :=
  ((mgr.toList.filter (fun entry => hasExited probe entry.1 entry.2)).map Prod.fst,
    mgr.mapValues (fun leaseId lease =>
      if hasExited probe leaseId lease then
        { lease with
          state := .browserExit
          child := false
          childReaped := true }
      else lease))

def hasExpired (now : Nat) (lease : BrowserLease) : Bool :=
  lease.isLive && lease.ttlDeadline <= now

def checkExpired (mgr : BrowserProcessManager) (now : Nat) :
    List BrowserLeaseId × BrowserProcessManager :=
  ((mgr.toList.filter (fun entry => hasExpired now entry.2)).map Prod.fst,
    mgr.mapValues (fun _ lease =>
      if hasExpired now lease then
        { lease with
          state := .revoked
          child := false }
      else lease))

/-! ## Which leases an operation touches -/

theorem searchLive_state (probe : BrowserLeaseId -> ChildStatus) (profileId : ProfileId)
    (leaseIds : List BrowserLeaseId) (other : BrowserLeaseId) :
    ∀ mgr : BrowserProcessManager,
      ((searchLive probe profileId leaseIds mgr).2.get other).map BrowserLease.state =
        (mgr.get other).map BrowserLease.state := by
  induction leaseIds with
  | nil => exact fun mgr => rfl
  | cons leaseId rest ih =>
    intro mgr
    rw [searchLive]
    split
    · rfl
    · rename_i lease found
      split_ifs
      · split
        · rw [ih, Table.get_insert]
          split_ifs with same
          · rw [same, found]
            rfl
          · rfl
        · exact ih mgr
        · rfl
      · exact ih mgr

variable (mgr : BrowserProcessManager)

theorem revoke_get_of_ne (different : other ≠ leaseId) :
    (mgr.revoke leaseId).get other = mgr.get other := by
  unfold revoke transition
  split
  · rfl
  · split_ifs
    · exact Table.get_insert_of_ne _ _ different
    · rfl

theorem discard_get_of_ne (different : other ≠ leaseId) :
    (mgr.discard leaseId).get other = mgr.get other := by
  unfold discard terminate
  rw [Table.get_remove, if_neg different, Table.get_modify_of_ne _ _ different,
    revoke_get_of_ne mgr different]

end BrowserProcessManager

end ControlVault.Browser
