import ControlVault.Browser.Leases

namespace ControlVault.Browser

open Foundation Core Table BrowserProcessManager

/-!
# The life of a lease

The calls of the manager in any order and at any time, from any leases.  A lease
that ended stays so, and a lease is activated in time and for a limited time.

The search for a live lease goes by the state alone.  It also finds a lease whose
process was terminated, and one whose deadline passed after the last check.
-/

inductive LeaseCall
  | activateAfterAssertion (leaseId : BrowserLeaseId) (sessionTtlSecs : Nat)
  /-- `revoke`, `principal_exit`, `mark_browser_exit` and `daemon_shutdown`, by their target. -/
  | transition (leaseId : BrowserLeaseId) (target : LeaseState)
  | terminate (leaseId : BrowserLeaseId)
  | terminateAll
  | checkExpired
  | findLive (probe : BrowserLeaseId -> ChildStatus) (profileId : ProfileId)

def LeaseCall.apply (now : Nat) (mgr : BrowserProcessManager) :
    LeaseCall -> BrowserProcessManager
  | activateAfterAssertion leaseId secs => (mgr.activateAfterAssertion now leaseId secs).2
  | transition leaseId target => (mgr.transition leaseId target).2
  | terminate leaseId => mgr.terminate leaseId
  | terminateAll => mgr.terminateAll
  | checkExpired => (mgr.checkExpired now).2
  | findLive probe profileId => (mgr.findLiveLeaseForProfile probe profileId).2

/-- The leases after some calls, each at its time. -/
def BrowserProcessManager.after (mgr : BrowserProcessManager) (calls : List (Nat × LeaseCall)) :
    BrowserProcessManager :=
  calls.foldl (fun mgr call => call.2.apply call.1 mgr) mgr

/-- The manager holds the process of the lease, and its deadline lies ahead. -/
def BrowserLease.Usable (now : Nat) (lease : BrowserLease) : Prop :=
  lease.child = true /\ now < lease.ttlDeadline

/-- What one call may do to a lease. -/
inductive LeaseMove (now : Nat) (before after : BrowserLease) : Prop
  | kept (same : after.state = before.state)
  | ended (gone : after.isLive = false)
  | activated (secs : Nat) (pending : before.state = .authenticationPending)
      (inTime : now < before.loginDeadline)
      (limited : after.ttlDeadline = now + clampTtl secs * 1000)

theorem mayBecome_over {source : LeaseState} (valid : source.mayBecome target = true) :
    (!target.isTerminal) = false := by
  revert valid
  cases source <;> cases target <;> decide

section

variable {mgr : BrowserProcessManager} {leaseId : BrowserLeaseId} {before : BrowserLease}
  (stored : mgr.get leaseId = some before)

include stored

theorem insert_move (move : leaseId = other -> LeaseMove now before changed) :
    ∃ after, (mgr.insert other changed).get leaseId = some after /\
      LeaseMove now before after := by
  rw [get_insert]
  split_ifs with same
  · exact ⟨changed, rfl, move same⟩
  · exact ⟨before, stored, .kept rfl⟩

/-- No call removes a lease. -/
theorem LeaseCall.move (call : LeaseCall) :
    ∃ after, (call.apply now mgr).get leaseId = some after /\ LeaseMove now before after := by
  cases call with
  | activateAfterAssertion other secs =>
    rw [apply, BrowserProcessManager.activateAfterAssertion]
    split
    · exact ⟨before, stored, .kept rfl⟩
    · rename_i lease found
      split_ifs with notPending late
      · exact ⟨before, stored, .kept rfl⟩
      · exact ⟨before, stored, .kept rfl⟩
      · refine insert_move stored ?_
        rintro rfl
        cases stored.symm.trans found
        exact .activated secs (not_not.mp notPending) (Nat.lt_of_not_le late) rfl
  | transition other target =>
    rw [apply, BrowserProcessManager.transition]
    split
    · exact ⟨before, stored, .kept rfl⟩
    · split_ifs with valid
      · exact insert_move stored (fun _ => .ended (mayBecome_over valid))
      · exact ⟨before, stored, .kept rfl⟩
  | terminate other =>
    rw [apply, BrowserProcessManager.terminate, get_modify, stored]
    split_ifs
    · exact ⟨_, rfl, .kept rfl⟩
    · exact ⟨_, rfl, .kept rfl⟩
  | terminateAll =>
    rw [apply, BrowserProcessManager.terminateAll, get_mapValues, stored]
    exact ⟨_, rfl, .kept rfl⟩
  | checkExpired =>
    rw [apply, BrowserProcessManager.checkExpired, get_mapValues, stored]
    refine ⟨_, rfl, ?_⟩
    dsimp only
    split_ifs
    · exact .ended rfl
    · exact .kept rfl
  | findLive probe profileId =>
    have same := searchLive_state probe profileId (mgr.toList.map Prod.fst) leaseId mgr
    rw [stored] at same
    rcases Option.map_eq_some_iff.mp same with ⟨after, found, kept⟩
    exact ⟨after, found, .kept kept⟩

theorem after_ended (gone : before.isLive = false) (calls : List (Nat × LeaseCall)) :
    ∃ lease, (mgr.after calls).get leaseId = some lease /\ lease.isLive = false := by
  induction calls generalizing mgr before with
  | nil => exact ⟨before, stored, gone⟩
  | cons call rest ih =>
    rcases call.2.move stored with ⟨after, found, move⟩
    refine ih found ?_
    cases move with
    | kept same => rwa [BrowserLease.isLive, same]
    | ended gone => exact gone
    | activated _ pending =>
      rw [BrowserLease.isLive, pending] at gone
      cases gone

end

theorem searchLive_some
    (answer : (searchLive probe profileId leaseIds mgr).1 = some (leaseId, lease)) :
    ∃ stored, mgr.get leaseId = some stored /\ stored.profileId = profileId /\
      stored.isLive = true /\ lease = { stored with childReaped := lease.childReaped } := by
  induction leaseIds generalizing mgr with
  | nil => cases answer
  | cons first rest ih =>
    rw [searchLive] at answer
    split at answer
    · cases answer
    · rename_i visited found
      split_ifs at answer with suitable
      · split at answer
        · rcases ih answer with ⟨stored, here, facts⟩
          rw [get_insert] at here
          split_ifs at here with same
          · cases here
            exact ⟨visited, same ▸ found, facts⟩
          · exact ⟨stored, here, facts⟩
        · exact ih answer
        · cases answer
          exact ⟨lease, found, suitable.1, suitable.2, rfl⟩
      · exact ih answer

/-- The search answers with usable leases only, in whatever order it goes and whatever processes run,
exactly if all live leases of the profile are usable. -/
theorem findLive_usable_iff (mgr : BrowserProcessManager) (now : Nat) (profileId : ProfileId) :
    (∀ order probe leaseId lease, mgr.Reordered order ->
        (findLiveLeaseForProfile order probe profileId).1 = some (leaseId, lease) ->
          lease.Usable now) <->
      ∀ leaseId lease, mgr.get leaseId = some lease -> lease.profileId = profileId ->
        lease.isLive = true -> lease.Usable now := by
  constructor
  · intro sound leaseId lease stored named live
    refine sound _ (fun _ => .running) leaseId lease (.insert stored) ?_
    change (searchLive _ profileId (leaseId :: _) _).1 = _
    rw [searchLive]
    simp [named, live]
  · intro usable order probe leaseId lease reordered answer
    rcases searchLive_some answer with ⟨stored, found, named, live, same⟩
    rw [same]
    exact usable leaseId stored ((reordered.get_eq leaseId).trans found) named live

/-- The life of leases is as it should be up to a search, exactly if every live lease of the profile
is usable then. -/
theorem lease_cycle_iff (mgr : BrowserProcessManager) (calls : List (Nat × LeaseCall))
    (now : Nat) (profileId : ProfileId) :
    ((∀ leaseId lease, mgr.get leaseId = some lease -> lease.isLive = false ->
          ∃ later, (mgr.after calls).get leaseId = some later /\ later.isLive = false) /\
        (∀ call leaseId before after, (mgr.after calls).get leaseId = some before ->
          (LeaseCall.apply now (mgr.after calls) call).get leaseId = some after ->
          before.state ≠ .active -> after.state = .active -> now < before.loginDeadline /\
            ∃ secs, 1 <= secs /\ secs <= 86400 /\ after.ttlDeadline = now + secs * 1000) /\
        (∀ leaseId lease, ((mgr.after calls).checkExpired now).2.get leaseId = some lease ->
          lease.ttlDeadline <= now -> lease.isLive = false) /\
        ∀ order probe leaseId lease, (mgr.after calls).Reordered order ->
          (findLiveLeaseForProfile order probe profileId).1 = some (leaseId, lease) ->
            lease.child = true /\ now < lease.ttlDeadline) <->
      ∀ leaseId lease, (mgr.after calls).get leaseId = some lease ->
        lease.profileId = profileId -> lease.isLive = true -> lease.Usable now := by
  rw [<- findLive_usable_iff]
  refine ⟨fun sound => sound.2.2.2, fun usable => ⟨?_, ?_, ?_, usable⟩⟩
  · exact fun leaseId lease stored gone => after_ended stored gone calls
  · intro call leaseId before after stored changed inactive active
    rcases call.move stored with ⟨_, found, move⟩
    cases found.symm.trans changed
    cases move with
    | kept same => exact absurd (same.symm.trans active) inactive
    | ended gone =>
      rw [BrowserLease.isLive, active] at gone
      cases gone
    | activated secs _ inTime limited =>
      refine ⟨inTime, clampTtl secs, ?_, ?_, limited⟩ <;>
        unfold clampTtl minTtlSecs maxTtlClampSecs <;> split_ifs <;> omega
  · intro leaseId lease found late
    rw [checkExpired, get_mapValues, Option.map_eq_some_iff] at found
    rcases found with ⟨before, _, rfl⟩
    split_ifs at late ⊢ with expired
    · rfl
    · simpa [hasExpired, late] using expired

namespace Sample

def lease : BrowserLease where
  endpointId := ⟨1⟩
  profileId := ⟨"agent"⟩
  state := .active
  pid := 7
  loginDeadline := 1000
  ttlDeadline := 1000
  child := true
  childReaped := false
  cdpEndpoint := none
  startUrl := none

def mgr : BrowserProcessManager :=
  Table.empty.insert ⟨1⟩ lease

/-- A terminated browser and one whose time is over are found. -/
theorem ended_browsers_found :
    (((mgr.after [(0, .terminate ⟨1⟩)]).findLiveLeaseForProfile (fun _ => .running)
        ⟨"agent"⟩).1.map (fun found => found.2.child)) = some false /\
      ((mgr.after []).findLiveLeaseForProfile (fun _ => .running) ⟨"agent"⟩).1 =
        some (⟨1⟩, lease) /\ lease.ttlDeadline <= 2000 := by
  decide

end Sample

end ControlVault.Browser
