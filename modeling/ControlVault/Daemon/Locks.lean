import ControlVault.Daemon.Scenario
import ControlVault.Foundation.Locks

namespace ControlVault.Daemon

open Foundation Core Broker Broker.Sample

/-!
# The locks of the agent runtime

The handlers of the runtime run on several threads: one for the runtime loop, one
for each request of an administrator or a principal, one for each connection of a
browser and one for each endpoint.  Each call is described here by the mutexes it
takes, in the nesting of the source; a guard that is a temporary of a statement
is held to the end of that statement.

All calls but two kinds follow one order of the mutexes.  An endpoint event looks
up its session while it holds the lifecycle lock, whereas requests of principals
take the lifecycle lock with the session table held.  A signature that activates
a lease takes the browser manager while the store is locked, whereas a launch
reads the store with the browser manager locked.  `deadlock_free_iff` says that
these two crossings are the only ones.

The lease that a waiting request could name is never set, so the branches that
would end it take no lock.  Mutexes inside the token registry, the policy runtime
and the audit gate are held only within single calls of these components.
-/

inductive Mutex
  | sessions (profileId : ProfileId)
  | lifecycle (profileId : ProfileId)
  | endpointId (profileId : ProfileId)
  | currentPending (profileId : ProfileId)
  | activeBrowser (profileId : ProfileId)
  | sharedBrowsers (profileId : ProfileId)
  | operation (owner : CredentialNamespace)
  | storage (owner : CredentialNamespace)
  | browserManager
  | endpointManager
  deriving DecidableEq

/-- What a principal asks for; `plain` stands for the requests that need no further lock. -/
inductive PrincipalCall
  | plain
  | status
  | authority
  | doctor
  | createIntent
  | cancelIntent
  | requestDelegation
  | cancelDelegation
  | browserStatus
  | browserControl
  | ensureBrowser
  | endpointStatus

/-- The calls of the runtime.  A profile named in a call is a configured one. -/
inductive DaemonCall
  | endpointEvent (profileId : ProfileId)
  | reapExpiredSessions
  | cleanupExpiredPending
  | reapStoppedWorkers
  | checkBrowsers
  | principal (profileId : ProfileId) (call : PrincipalCall)
  | sign (profileId : ProfileId) (activating : Bool)
  | register (profileId : ProfileId)
  | ceremony (profileId : ProfileId)
  | adminStatus
  | launchPrincipal (profileId : ProfileId)
  | terminatePrincipal (profileId : ProfileId)
  | waitPrincipal
  | showProfile (profileId : ProfileId)
  | checkProfile (profileId : ProfileId)
  | enableProfile (profileId : ProfileId)
  | disableProfile (profileId : ProfileId)
  | reloadPolicy
  | credentialCommand
  | revokeCredential
  | revokeGrant (profileId : ProfileId)
  | listSessions
  | revokeSession
  | requestDelegation (profileId : ProfileId)
  | launchBrowser (profileId : ProfileId)

namespace DaemonCall

open LockCode Mutex

section Code

variable (profiles : List ProfileId) (mode : ProfileId -> AgentMode)

/-- The store and the operation lock of a profile are those of its namespace. -/
def ownerOf (profileId : ProfileId) : CredentialNamespace :=
  .of profileId (mode profileId)

/-- The same code for every profile in turn. -/
def forEach (body : ProfileId -> LockCode Mutex) : LockCode Mutex :=
  steps (profiles.map body)

/-- The code for one of the profiles, or none. -/
def forSome (body : ProfileId -> LockCode Mutex) : LockCode Mutex :=
  profiles.foldr (fun profileId rest => either (body profileId) rest) skip

def cleanupBrowserForSession (profileId : ProfileId) : LockCode Mutex :=
  hold (lifecycle profileId) (steps
    [touch (activeBrowser profileId), maybe (touch (sharedBrowsers profileId)),
      maybe (touch browserManager)])

def cleanupAllBrowsersForProfile (profileId : ProfileId) : LockCode Mutex :=
  steps
    [touch (activeBrowser profileId), touch (sharedBrowsers profileId), maybe (touch browserManager)]

/-- The sessions are taken out of their tables first, then each is cleaned up. -/
def reapSessions : LockCode Mutex :=
  seq (forEach profiles (fun profileId => touch (sessions profileId)))
    (forEach profiles (fun profileId =>
      many (seq (touch (currentPending profileId)) (cleanupBrowserForSession profileId))))

/-- Empty the slot of a profile and end its browsers. -/
def clearProfile (profileId : ProfileId) : LockCode Mutex :=
  seq (touch (currentPending profileId)) (cleanupAllBrowsersForProfile profileId)

/-- The endpoint manager stays locked while the index of the new endpoint is built, and each read
for the index locks the store of the profile. -/
def createProfileEndpoint (profileId : ProfileId) : LockCode Mutex :=
  hold endpointManager (many (touch (storage (ownerOf mode profileId))))

/-- What a request of a principal does with the session table locked. -/
def principalCode (profileId : ProfileId) : PrincipalCall -> LockCode Mutex
  | .plain => skip
  | .status => touch endpointManager
  | .authority => seq (touch (activeBrowser profileId)) (maybe (touch (currentPending profileId)))
  | .doctor => seq (touch (endpointId profileId)) (touch (activeBrowser profileId))
  | .createIntent =>
    seq (touch (endpointId profileId)) (maybe (steps
      [maybe (touch (storage (ownerOf mode profileId))), maybe (touch (currentPending profileId)),
        maybe (touch (storage (ownerOf mode profileId))),
        maybe (touch (currentPending profileId))]))
  | .cancelIntent => hold (lifecycle profileId) (maybe (touch (currentPending profileId)))
  | .requestDelegation =>
    hold (lifecycle profileId) (steps [touch (endpointId profileId),
        maybe (seq (createProfileEndpoint mode profileId) (maybe (touch (endpointId profileId)))),
        maybe (touch (endpointId profileId))])
  | .cancelDelegation =>
    hold (lifecycle profileId) (maybe (steps
      [touch (currentPending profileId), touch (currentPending profileId),
        touch (currentPending profileId)]))
  | .browserStatus =>
    -- The guard of the first table is a temporary that outlives the look into the slot.
    seq (hold (activeBrowser profileId) (maybe (touch (currentPending profileId))))
      (maybe (hold browserManager (maybe (touch (sharedBrowsers profileId)))))
  | .browserControl =>
    seq (hold (activeBrowser profileId) (maybe (touch (currentPending profileId))))
      (maybe (seq (touch browserManager) (maybe (touch browserManager))))
  | .ensureBrowser =>
    hold (lifecycle profileId) (hold browserManager (steps
      [maybe (seq (touch (sharedBrowsers profileId)) (maybe (seq (touch (sharedBrowsers profileId))
            (maybe (touch (activeBrowser profileId)))))),
        maybe (seq (touch (activeBrowser profileId)) (maybe (touch (activeBrowser profileId)))),
        maybe (touch (endpointId profileId)),
        maybe (touch (storage (ownerOf mode profileId))),
        maybe (seq (touch (activeBrowser profileId)) (maybe (touch (sharedBrowsers profileId))))]))
  | .endpointStatus => seq (touch (endpointId profileId)) (maybe (touch endpointManager))

/-- The mutexes of a call. -/
def code : DaemonCall -> LockCode Mutex
  | endpointEvent profileId =>
    hold (lifecycle profileId) (seq (touch (endpointId profileId))
      (maybe (seq (touch (currentPending profileId))
        -- `has_session` locks the session table.
        (maybe (seq (touch (sessions profileId)) (maybe (touch (currentPending profileId))))))))
  | reapExpiredSessions => reapSessions profiles
  | cleanupExpiredPending => forEach profiles (fun profileId => touch (currentPending profileId))
  | reapStoppedWorkers =>
    hold endpointManager (many (forEach profiles (fun profileId =>
      maybe (touch (endpointId profileId)))))
  | checkBrowsers =>
    hold browserManager (many (forEach profiles (fun profileId => steps
      [touch (currentPending profileId), touch (activeBrowser profileId),
        touch (sharedBrowsers profileId)])))
  | principal profileId call => hold (sessions profileId) (principalCode mode profileId call)
  | sign profileId activating =>
    hold (operation (ownerOf mode profileId)) (maybe (hold (storage (ownerOf mode profileId))
      (if activating then maybe (touch browserManager) else skip)))
  | register profileId =>
    hold (operation (ownerOf mode profileId)) (maybe (touch (storage (ownerOf mode profileId))))
  | ceremony profileId =>
    hold (operation (ownerOf mode profileId)) (many (touch (storage (ownerOf mode profileId))))
  | adminStatus => touch endpointManager
  | launchPrincipal profileId =>
    maybe (seq (reapSessions profiles) (touch (sessions profileId)))
  | terminatePrincipal profileId =>
    seq (touch (sessions profileId)) (many (cleanupBrowserForSession profileId))
  | waitPrincipal =>
    many (seq (forEach profiles (fun profileId => maybe (touch (sessions profileId))))
      (forSome profiles cleanupBrowserForSession))
  | showProfile profileId => touch (sessions profileId)
  | checkProfile profileId => seq (touch (endpointId profileId)) (touch (activeBrowser profileId))
  | enableProfile profileId =>
    seq (touch (endpointId profileId)) (either (either (touch (endpointId profileId))
          (hold (lifecycle profileId)
            (seq (createProfileEndpoint mode profileId) (maybe (touch (endpointId profileId))))))
        (hold endpointManager (touch (endpointId profileId))))
  | disableProfile profileId => seq (clearProfile profileId) (touch (sessions profileId))
  | reloadPolicy => forEach profiles clearProfile
  | credentialCommand =>
    forEach profiles (fun profileId => maybe
      (hold (operation (ownerOf mode profileId)) (touch (storage (ownerOf mode profileId)))))
  | revokeCredential => forEach profiles clearProfile
  | revokeGrant profileId => clearProfile profileId
  | listSessions => forEach profiles (fun profileId => maybe (touch (sessions profileId)))
  | revokeSession =>
    seq (forEach profiles (fun profileId => maybe (touch (sessions profileId))))
      (forSome profiles (fun profileId =>
        seq (touch (currentPending profileId)) (cleanupBrowserForSession profileId)))
  | requestDelegation profileId =>
    hold (sessions profileId) (maybe (hold (lifecycle profileId) (steps
      [touch (endpointId profileId), maybe (touch (endpointId profileId)),
        touch (endpointId profileId)])))
  | launchBrowser profileId =>
    seq (touch (endpointId profileId)) (maybe (hold browserManager
      (maybe (touch (storage (ownerOf mode profileId))))))

end Code

/-! ## The two crossings -/

/-- The calls that take the lifecycle lock of a profile with its session table locked. -/
inductive TakesLifecycle (profileId : ProfileId) : DaemonCall -> Prop
  | cancelIntent : TakesLifecycle profileId (principal profileId .cancelIntent)
  | cancelDelegation : TakesLifecycle profileId (principal profileId .cancelDelegation)
  | ensureBrowser : TakesLifecycle profileId (principal profileId .ensureBrowser)
  | principalDelegation : TakesLifecycle profileId (principal profileId .requestDelegation)
  | adminDelegation : TakesLifecycle profileId (requestDelegation profileId)

/-- The calls that read the store of a profile with the browser manager locked. -/
inductive Launches (profileId : ProfileId) : DaemonCall -> Prop
  | ensureBrowser : Launches profileId (principal profileId .ensureBrowser)
  | launchBrowser : Launches profileId (launchBrowser profileId)

/-- Both sides of one of the crossings are among the calls. -/
def Crossed (mode : ProfileId -> AgentMode) (allowed : DaemonCall -> Prop) : Prop :=
  (∃ profileId call, allowed (endpointEvent profileId) /\ TakesLifecycle profileId call /\
    allowed call) ∨
  ∃ profileId other call, ownerOf mode profileId = ownerOf mode other /\
    allowed (sign profileId true) /\ Launches other call /\ allowed call

/-- The systems of threads that run the allowed calls. -/
def Runs (profiles : List ProfileId) (mode : ProfileId -> AgentMode) (allowed : DaemonCall -> Prop)
    (system : LockSystem Mutex) : Prop :=
  LockSystem.Reachable (fun code => ∃ call, allowed call /\ code = call.code profiles mode) system

/-! ## One order for all other calls -/

section Ranks

variable {events : ProfileId -> Bool} {activates : CredentialNamespace -> Bool}

/-- The order of the mutexes.  It depends on which side of each crossing occurs: the session
table comes after the lifecycle lock where endpoint events do, and a store comes before the
browser manager where signatures activate leases. -/
def rank (events : ProfileId -> Bool) (activates : CredentialNamespace -> Bool) : Mutex -> Nat
  | sessions profileId => if events profileId then 1 else 0
  | lifecycle profileId => if events profileId then 0 else 1
  | endpointManager => 2
  | operation _ => 3
  | storage owner => if activates owner then 4 else 9
  | browserManager => 5
  | activeBrowser _ => 6
  | currentPending _ => 7
  | sharedBrowsers _ => 7
  | endpointId _ => 8

theorem cleanupBrowserForSession_ordered (profileId : ProfileId) :
    (cleanupBrowserForSession profileId).Ordered (rank events activates) [] := by
  cases side : events profileId <;> simp [cleanupBrowserForSession, rank, side]

theorem clearProfile_ordered (profileId : ProfileId) :
    (clearProfile profileId).Ordered (rank events activates) [] := by
  simp [clearProfile, cleanupAllBrowsersForProfile]

variable {held : List Mutex} {body : ProfileId -> LockCode Mutex}

section

variable (ordered : ∀ profileId, (body profileId).Ordered (rank events activates) held)

include ordered

theorem forEach_ordered : (forEach profiles body).Ordered (rank events activates) held := by
  rw [forEach, ordered_steps]
  intro code mem
  rcases List.mem_map.mp mem with ⟨profileId, _, rfl⟩
  exact ordered profileId

theorem forSome_ordered : (forSome profiles body).Ordered (rank events activates) held := by
  induction profiles with
  | nil => trivial
  | cons profileId rest ih => exact ⟨ordered profileId, ih⟩

end

theorem reapSessions_ordered (profiles : List ProfileId) :
    (reapSessions profiles).Ordered (rank events activates) [] := by
  refine ⟨forEach_ordered ?_, forEach_ordered ?_⟩
  · simp
  · intro profileId
    exact ⟨by simp, cleanupBrowserForSession_ordered profileId⟩

variable (profiles : List ProfileId)

/-- A request that stays away from the lifecycle lock follows the order on either side. -/
theorem principal_ordered (profileId : ProfileId) (call : PrincipalCall)
    (sessionSide : TakesLifecycle profileId (principal profileId call) -> events profileId = false)
    (launchSide : Launches profileId (principal profileId call) ->
      activates (ownerOf mode profileId) = false) :
    ((principal profileId call).code profiles mode).Ordered (rank events activates) [] := by
  cases call with
  | ensureBrowser =>
    simp [code, principalCode, rank, sessionSide .ensureBrowser, launchSide .ensureBrowser]
  | cancelIntent => simp [code, principalCode, rank, sessionSide .cancelIntent]
  | cancelDelegation => simp [code, principalCode, rank, sessionSide .cancelDelegation]
  | requestDelegation =>
    cases use : activates (ownerOf mode profileId) <;>
      simp [code, principalCode, createProfileEndpoint, rank, sessionSide .principalDelegation, use]
  | createIntent =>
    cases side : events profileId <;> cases use : activates (ownerOf mode profileId) <;>
      simp [code, principalCode, rank, side, use]
  | plain => simp [code, principalCode]
  | status | authority | doctor | browserStatus | browserControl | endpointStatus =>
    cases side : events profileId <;> simp [code, principalCode, rank, side]

theorem code_ordered (call : DaemonCall)
    (eventSide : ∀ profileId, call = endpointEvent profileId -> events profileId = true)
    (sessionSide : ∀ profileId, TakesLifecycle profileId call -> events profileId = false)
    (signSide : ∀ profileId, call = sign profileId true -> activates (ownerOf mode profileId) = true)
    (launchSide : ∀ profileId, Launches profileId call -> activates (ownerOf mode profileId) = false) :
    (call.code profiles mode).Ordered (rank events activates) [] := by
  cases call with
  | endpointEvent profileId => simp [code, rank, eventSide profileId rfl]
  | principal profileId call =>
    exact principal_ordered profiles profileId call (sessionSide profileId) (launchSide profileId)
  | requestDelegation profileId => simp [code, rank, sessionSide profileId .adminDelegation]
  | launchBrowser profileId => simp [code, rank, launchSide profileId .launchBrowser]
  | sign profileId activating =>
    cases activating with
    | true => simp [code, rank, signSide profileId rfl]
    | false => cases use : activates (ownerOf mode profileId) <;> simp [code, rank, use]
  | register profileId | ceremony profileId =>
    cases use : activates (ownerOf mode profileId) <;> simp [code, rank, use]
  | credentialCommand =>
    refine forEach_ordered ?_
    intro profileId
    cases use : activates (ownerOf mode profileId) <;> simp [rank, use]
  | reapExpiredSessions => exact reapSessions_ordered profiles
  | launchPrincipal =>
    rw [code, ordered_maybe]
    exact ⟨reapSessions_ordered profiles, by simp⟩
  | terminatePrincipal profileId => exact ⟨by simp, cleanupBrowserForSession_ordered profileId⟩
  | waitPrincipal =>
    refine ⟨forEach_ordered ?_, forSome_ordered cleanupBrowserForSession_ordered⟩
    simp
  | revokeSession =>
    refine ⟨forEach_ordered ?_, forSome_ordered ?_⟩
    · simp
    · intro profileId
      exact ⟨by simp, cleanupBrowserForSession_ordered profileId⟩
  | reloadPolicy | revokeCredential => exact forEach_ordered clearProfile_ordered
  | revokeGrant profileId => exact clearProfile_ordered profileId
  | disableProfile profileId => exact ⟨clearProfile_ordered profileId, by simp⟩
  | cleanupExpiredPending | listSessions =>
    refine forEach_ordered ?_
    simp
  | reapStoppedWorkers | checkBrowsers =>
    refine ⟨by simp, forEach_ordered ?_⟩
    simp [rank]
  | enableProfile profileId =>
    cases side : events profileId <;> cases use : activates (ownerOf mode profileId) <;>
      simp [code, createProfileEndpoint, rank, side, use]
  | adminStatus | showProfile profileId | checkProfile profileId => simp [code]

end Ranks

/-! ## Both sides together -/

section Crossing

variable (profiles : List ProfileId) (mode : ProfileId -> AgentMode) {profileId : ProfileId}

theorem TakesLifecycle.begins (takes : TakesLifecycle profileId call) :
    (call.code profiles mode).Begins
      ([.acquire (sessions profileId)] ++ [.acquire (lifecycle profileId)]) := by
  cases takes with
  | cancelIntent | cancelDelegation | ensureBrowser | principalDelegation =>
    exact .hold (.hold (.nil _))
  | adminDelegation => exact .hold (.left (.hold (.nil _)))

theorem endpointEvent_begins (profileId : ProfileId) :
    ((endpointEvent profileId).code profiles mode).Begins
      ([.acquire (lifecycle profileId), .acquire (endpointId profileId),
          .release (endpointId profileId), .acquire (currentPending profileId),
          .release (currentPending profileId)] ++ [.acquire (sessions profileId)]) :=
  .hold (.touched (.left (.touched (.left (.first (.hold (.nil _)))))))

theorem sign_begins (profileId : ProfileId) :
    ((sign profileId true).code profiles mode).Begins
      ([.acquire (operation (ownerOf mode profileId)),
          .acquire (storage (ownerOf mode profileId))] ++ [.acquire browserManager]) :=
  .hold (.left (.hold (.left (.hold (.nil _)))))

/-- What a launch has done when it turns to the store. -/
def launchStart (profileId : ProfileId) : DaemonCall -> List (LockAction Mutex)
  | principal _ _ =>
    [.acquire (sessions profileId), .acquire (lifecycle profileId), .acquire browserManager,
      .acquire (activeBrowser profileId), .release (activeBrowser profileId),
      .acquire (endpointId profileId), .release (endpointId profileId)]
  | _ => [.acquire (endpointId profileId), .release (endpointId profileId), .acquire browserManager]

theorem Launches.begins (launches : Launches profileId call) :
    (call.code profiles mode).Begins
      (launchStart profileId call ++ [.acquire (storage (ownerOf mode profileId))]) := by
  cases launches with
  | ensureBrowser =>
    have looked : (maybe (seq (touch (activeBrowser profileId))
        (maybe (touch (activeBrowser profileId))))).Performs
          [.acquire (activeBrowser profileId), .release (activeBrowser profileId)] :=
      .left (.seq (performs_touch _) (.right .skip))
    have found : (maybe (touch (endpointId profileId))).Performs
        [.acquire (endpointId profileId), .release (endpointId profileId)] :=
      .left (performs_touch _)
    have reads : (touch (storage (ownerOf mode profileId))).Begins
        [.acquire (storage (ownerOf mode profileId))] :=
      .hold (.nil skip)
    exact .hold (.hold (.hold (.passed
      (@Begins.after _ _ _ _ [_, _] looked (@Begins.after _ _ _ _ [_, _] found
        (.first (.left reads)))))))
  | launchBrowser => exact .touched (.left (.hold (.left (.hold (.nil _)))))

variable {profiles mode}

theorem deadlock_of_event (event : allowed (endpointEvent profileId))
    (takes : TakesLifecycle profileId call) (permitted : allowed call) :
    ∃ system, Runs profiles mode allowed system /\ system.Deadlocked := by
  refine LockSystem.reachable_deadlock ⟨call, permitted, rfl⟩ ⟨_, event, rfl⟩
    (takes.begins profiles mode) (endpointEvent_begins profiles mode profileId) ?_ ?_ ?_ ?_
  · simp [Unhindered]
  · simp [Unhindered, heldAfter]
  · simp [heldAfter]
  · simp [heldAfter]

theorem deadlock_of_sign (shared : ownerOf mode profileId = ownerOf mode other)
    (signs : allowed (sign profileId true)) (launches : Launches other call)
    (permitted : allowed call) :
    ∃ system, Runs profiles mode allowed system /\ system.Deadlocked := by
  refine LockSystem.reachable_deadlock ⟨_, signs, rfl⟩ ⟨call, permitted, rfl⟩
    (sign_begins profiles mode profileId) (launches.begins profiles mode) ?_ ?_ ?_ ?_
  · simp [Unhindered]
  · cases launches <;> simp [Unhindered, heldAfter, launchStart]
  · simp [heldAfter, shared]
  · cases launches <;> simp [heldAfter, launchStart]

end Crossing

open Classical in
/-- Calls that stay on one side of each crossing never deadlock, whatever their number and
interleaving; calls from both sides can. -/
theorem deadlock_free_iff (profiles : List ProfileId) (mode : ProfileId -> AgentMode)
    (allowed : DaemonCall -> Prop) :
    (∀ system, Runs profiles mode allowed system -> ¬ system.Deadlocked) <->
      ¬ Crossed mode allowed := by
  constructor
  · rintro free (⟨profileId, call, event, takes, permitted⟩ |
      ⟨profileId, other, call, shared, signs, launches, permitted⟩)
    · rcases deadlock_of_event event takes permitted with ⟨system, runs, deadlocked⟩
      exact free system runs deadlocked
    · rcases deadlock_of_sign shared signs launches permitted with ⟨system, runs, deadlocked⟩
      exact free system runs deadlocked
  · intro apart system runs
    let events := fun profileId => decide (allowed (endpointEvent profileId))
    let activates := fun owner => decide (∃ profileId, ownerOf mode profileId = owner /\
      allowed (sign profileId true))
    have ordered : ∀ code, (∃ call, allowed call /\ code = call.code profiles mode) ->
        code.Ordered (rank events activates) [] := by
      rintro _ ⟨call, permitted, rfl⟩
      refine code_ordered profiles call ?_ ?_ ?_ ?_
      · rintro profileId rfl
        exact decide_eq_true permitted
      · intro profileId takes
        exact decide_eq_false (fun event =>
          apart (.inl ⟨profileId, call, event, takes, permitted⟩))
      · rintro profileId rfl
        exact decide_eq_true ⟨profileId, rfl, permitted⟩
      · intro profileId launches
        refine decide_eq_false ?_
        rintro ⟨signer, shared, signs⟩
        exact apart (.inr ⟨signer, profileId, call, shared, signs, launches, permitted⟩)
    exact LockSystem.Reachable.not_deadlocked ordered runs

/-- Two threads are enough for each crossing: an endpoint event and a cancelled intent, or a
signature that activates its browser and a request for a browser. -/
theorem two_threads_deadlock :
    (∃ system, Runs [agent] (fun _ => .isolated) (fun call => call ∈ [endpointEvent agent,
          principal agent .cancelIntent]) system /\ system.Deadlocked) /\
      ∃ system, Runs [agent] (fun _ => .isolated) (fun call => call ∈ [sign agent true,
          principal agent .ensureBrowser]) system /\ system.Deadlocked := by
  constructor
  · exact deadlock_of_event List.mem_cons_self .cancelIntent
      (List.mem_cons_of_mem _ List.mem_cons_self)
  · exact deadlock_of_sign rfl List.mem_cons_self .ensureBrowser
      (List.mem_cons_of_mem _ List.mem_cons_self)

end DaemonCall

end ControlVault.Daemon
