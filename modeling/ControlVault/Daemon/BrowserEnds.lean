import ControlVault.Daemon.FailedLaunch

namespace ControlVault.Daemon.AgentRuntime

open Foundation Core Broker Browser Table BrowserProcessManager SignContextRegistry BrowserLease

/-!
# Browsers that end by themselves

In each round the runtime loop asks for the browsers whose process has exited, and
then for those whose time is over.  An ended browser takes with it its lease, the
sign contexts that are bound to the lease and its places in the profiles.
-/

/-- The lease that an authority hangs on. -/
def leaseOf (runtime : AgentRuntime) : Authority -> Option BrowserLeaseId
  | .signToken token => (runtime.registry.entries.get token).bind LeaseEntry.leaseId
  | .lease leaseId | .activeBrowser _ _ leaseId | .sharedBrowser _ leaseId => some leaseId
  | _ => none

/-- What hung on the ended leases is gone, and nothing else. -/
structure Loses (runtime : AgentRuntime) (ended : BrowserLeaseId -> Prop) (after : AgentRuntime) :
    Prop where
  has : ∀ authority, after.has authority = true <-> runtime.has authority = true /\
    ∀ leaseId, runtime.leaseOf authority = some leaseId -> ¬ended leaseId
  leaseOf : ∀ authority, after.has authority = true ->
    after.leaseOf authority = runtime.leaseOf authority

theorem Loses.trans (first : Loses runtime ended middle) (second : Loses middle ending last) :
    Loses runtime (fun leaseId => ended leaseId ∨ ending leaseId) last := by
  constructor
  · intro authority
    have same := first.leaseOf authority
    rw [second.has, first.has] at *
    grind
  · intro authority held
    rw [second.leaseOf authority held, first.leaseOf authority ((second.has authority).mp held).1]

/-- The lease has ended before the loop learns of it. -/
theorem processEnd_loses (runtime : AgentRuntime) (ended : runtime.has (.lease leaseId) = false) :
    Loses runtime (· = leaseId) (runtime.processEnd leaseId) := by
  constructor
  · intro authority
    cases authority with
    | signToken token =>
      simp only [has, leaseOf, processEnd, revokeByLease_entries]
      cases runtime.registry.entries.get token <;> simp [imp_not_comm]
    | registrationToken => simp [has, leaseOf, processEnd, revokeByLease_registrationEntries]
    | lease =>
      simp only [has, leaseOf, processEnd] at ended ⊢
      grind [get_remove]
    | activeBrowser profileId =>
      simp only [has, leaseOf, processEnd, get_mapValues]
      cases runtime.profiles.get profileId <;> simp [dropLease]
    | sharedBrowser profileId =>
      simp only [has, leaseOf, processEnd, get_mapValues]
      cases runtime.profiles.get profileId <;> simp [dropLease]
      grind
    | _ => simp [has, leaseOf, processEnd]
  · intro authority held
    cases authority with
    | signToken =>
      simp only [has, leaseOf, processEnd, revokeByLease_entries] at held ⊢
      grind [Option.filter_eq_some_iff, Option.isSome_iff_exists]
    | _ => rfl

theorem foldl_processEnd (leaseIds : List BrowserLeaseId) (runtime : AgentRuntime)
    (ended : ∀ leaseId ∈ leaseIds, runtime.has (.lease leaseId) = false) :
    Loses runtime (· ∈ leaseIds) (leaseIds.foldl processEnd runtime) := by
  induction leaseIds generalizing runtime with
  | nil => exact ⟨by simp, fun _ _ => rfl⟩
  | cons leaseId rest ih =>
    have first := processEnd_loses runtime (ended leaseId List.mem_cons_self)
    simp only [List.mem_cons]
    refine first.trans (ih _ fun other mem => ?_)
    grind [first.has (.lease other)]

/-- The manager lists the leases that it ends. -/
theorem sweep (swept : List BrowserLeaseId × BrowserProcessManager)
    (left : ∀ leaseId, (swept.2.get leaseId).any isLive = true <->
      (runtime.browserManager.get leaseId).any isLive = true /\ leaseId ∉ swept.1) :
    Loses runtime (· ∈ swept.1) (swept.1.foldl processEnd (runtime.withBrowsers swept.2)) := by
  have later := foldl_processEnd swept.1 (runtime.withBrowsers swept.2) fun leaseId mem =>
    Bool.eq_false_iff.mpr fun live => ((left leaseId).mp live).2 mem
  refine ⟨fun authority => ?_, later.leaseOf⟩
  rw [later.has]
  cases authority with
  | lease leaseId =>
    simp only [has, withBrowsers, left, leaseOf]
    grind
  | _ => rfl

/-- A round takes what hung on the browsers that the manager finds to have exited or expired. -/
theorem checkBrowsers_loses (runtime : AgentRuntime) (probe : BrowserLeaseId -> ChildStatus) :
    let exits := runtime.browserManager.checkExits probe
    let exited := exits.1.foldl processEnd (runtime.withBrowsers exits.2)
    let expiries := exited.browserManager.checkExpired exited.instant
    Loses runtime (fun leaseId => leaseId ∈ exits.1 ∨ leaseId ∈ expiries.1)
      (runtime.checkBrowsers probe) := by
  refine (sweep (checkExits _ probe) fun leaseId => ?_).trans
    (sweep (checkExpired _ _) fun leaseId => ?_)
  · simp only [checkExits, get_mapValues]
    cases found : runtime.browserManager.get leaseId <;> simp [mem_toList, found]
    grind [isLive, LeaseState.isTerminal, hasExited]
  · simp only [checkExpired, get_mapValues]
    generalize List.foldl _ _ _ = exited
    cases found : exited.browserManager.get leaseId <;> simp [mem_toList, found]
    grind [isLive, LeaseState.isTerminal, hasExpired]

end ControlVault.Daemon.AgentRuntime
