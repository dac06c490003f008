import ControlVault.Core.Ids
import ControlVault.Foundation.Table

namespace ControlVault.Hid

open Foundation Core Table

/-!
# The endpoints of the daemon

A registry follows the life of each endpoint and bounds the number of those whose
life has not ended.  The manager keeps the worker of each endpoint beside it.  It
tells the registry of every change, but ignores what the registry answers.

An active endpoint has to be drained before it can be destroyed.  A worker that is
only cancelled stops as well, and reaping it removes it from the manager while the
registry still counts the endpoint.
-/

inductive EndpointState
  | creating
  | ready
  | active
  | draining
  | destroyed
  | failed
  deriving DecidableEq

def EndpointState.isTerminal : EndpointState -> Bool
  | destroyed | failed => true
  | _ => false

def isValidTransition : EndpointState -> EndpointState -> Bool
  | .creating, .ready | .ready, .active | .active, .draining | .draining, .destroyed => true
  | .creating, .failed | .ready, .failed | .active, .failed | .draining, .failed => true
  | _, _ => false

structure EndpointHandle where
  id : EndpointId
  generation : Nat

structure EndpointEntry where
  handle : EndpointHandle
  state : EndpointState

/-- The entry in a new state, unless the handle is stale or the change is not allowed. -/
def EndpointEntry.move (entry : EndpointEntry) (handle : EndpointHandle) (target : EndpointState) :
    Option EndpointEntry :=
  if entry.handle.generation ≠ handle.generation ∨ isValidTransition entry.state target = false then
    none
  else
    some ⟨{ entry.handle with
      generation := entry.handle.generation + if target = .destroyed then 1 else 0 }, target⟩

inductive CreateError
  | shutdown
  | capacityExceeded (max current : Nat)

structure EndpointRegistry where
  endpoints : Table EndpointId EndpointEntry
  nextGeneration : Nat
  isShutdown : Bool
  maxEndpoints : Nat

namespace EndpointRegistry

variable (reg : EndpointRegistry)

def activeCount : Nat :=
  reg.endpoints.count (fun entry => !entry.state.isTerminal)

def createEndpoint (fresh : EndpointId) : Except CreateError EndpointHandle × EndpointRegistry :=
  if reg.isShutdown then (.error .shutdown, reg)
  else if reg.maxEndpoints <= reg.activeCount then
    (.error (.capacityExceeded reg.maxEndpoints reg.activeCount), reg)
  else
    (.ok ⟨fresh, reg.nextGeneration⟩,
      { reg with
        endpoints := reg.endpoints.insert fresh ⟨⟨fresh, reg.nextGeneration⟩, .creating⟩
        nextGeneration := reg.nextGeneration + 1 })

variable (handle : EndpointHandle)

/-- Whether the change of state was made, and the registry behind it. -/
def transition (target : EndpointState) : Bool × EndpointRegistry :=
  match (reg.endpoints.get handle.id).bind (fun entry => entry.move handle target) with
  | none => (false, reg)
  | some moved => (true, { reg with endpoints := reg.endpoints.insert handle.id moved })

def markReady := reg.transition handle .ready

def markActive := reg.transition handle .active

def markDraining := reg.transition handle .draining

def markDestroyed := reg.transition handle .destroyed

def markFailed := reg.transition handle .failed

def shutdown : EndpointRegistry :=
  { reg with isShutdown := true }

end EndpointRegistry

inductive RuntimeState
  | running
  | shuttingDown
  deriving DecidableEq

structure RuntimeEntry where
  endpointHandle : EndpointHandle
  state : RuntimeState

/-- What may fail before the worker of a new endpoint starts. -/
inductive StartFailure
  | beforeStart (message : Text)
  | device (message : Text)

/-- A creation is rejected by the registry or by the callback before the start. -/
inductive ManagerError
  | createRejected (error : CreateError ⊕ Text)
  | deviceCreationFailed (message : Text)
  | shutdown

def StartFailure.error : StartFailure -> ManagerError
  | beforeStart message => .createRejected (.inr message)
  | device message => .deviceCreationFailed message

inductive WorkerOutcome
  | clean
  | failed
  | panicked

/-- What becomes of an endpoint while everything is shut down. -/
inductive ShutdownTurn
  | outOfTime
  | timedOut
  | joined (outcome : WorkerOutcome)

structure EndpointManager where
  registry : EndpointRegistry
  runtimes : Table EndpointId RuntimeEntry

namespace EndpointManager

variable (mgr : EndpointManager)

def new (maxEndpoints : Nat) : EndpointManager :=
  ⟨⟨.empty, 1, false, maxEndpoints⟩, .empty⟩

def startWorker (handle : EndpointHandle) : Except ManagerError EndpointId × EndpointManager :=
  let (isReady, reg) := mgr.registry.markReady handle
  if !isReady then
    (.error (.deviceCreationFailed "mark_ready transition failed"),
      { mgr with registry := (reg.markFailed handle).2 })
  else
    let (isActive, reg) := reg.markActive handle
    if !isActive then
      (.error (.deviceCreationFailed "mark_active transition failed"),
        { mgr with registry := (reg.markFailed handle).2 })
    else
      (.ok handle.id,
        { registry := reg
          runtimes := mgr.runtimes.insert handle.id ⟨handle, .running⟩ })

def createAndStart (daemonCancelled : Bool) (fresh : EndpointId)
    (failure : Option StartFailure) : Except ManagerError EndpointId × EndpointManager :=
  if daemonCancelled then (.error .shutdown, mgr)
  else
    match mgr.registry.createEndpoint fresh with
    | (.error error, _) => (.error (.createRejected (.inl error)), mgr)
    | (.ok handle, reg) =>
      match failure with
      | some failure =>
        (.error failure.error, { mgr with registry := (reg.markFailed handle).2 })
      | none => startWorker { mgr with registry := reg } handle

def cancel (id : EndpointId) : EndpointManager :=
  { mgr with
    runtimes := mgr.runtimes.modify id (fun entry => { entry with state := .shuttingDown }) }

def cancelAll : EndpointManager :=
  { registry := mgr.registry.shutdown
    runtimes := mgr.runtimes.mapValues (fun _ entry => { entry with state := .shuttingDown }) }

/-- The worker has been joined: the endpoint goes. -/
def remove (id : EndpointId) (handle : EndpointHandle) : EndpointManager where
  registry := (mgr.registry.markDestroyed handle).2
  runtimes := mgr.runtimes.remove id

def drain (handle : EndpointHandle) : EndpointManager :=
  { mgr with registry := (mgr.registry.markDraining handle).2 }

/-- Destroy an endpoint; the join returns the outcome of the worker unless it times out. -/
def destroy (id : EndpointId) (join : Option WorkerOutcome) : Option WorkerOutcome × EndpointManager :=
  match mgr.runtimes.get id with
  | none => (some .clean, mgr)
  | some entry =>
    let drained := (mgr.drain entry.endpointHandle).cancel id
    match join with
    | none => (none, drained)
    | some outcome => (some outcome, drained.remove id entry.endpointHandle)

def shutdownOne (turn : ShutdownTurn) (id : EndpointId) : EndpointManager :=
  match mgr.runtimes.get id with
  | none => mgr
  | some entry =>
    match turn with
    | .outOfTime => mgr.cancel id
    | .timedOut => (mgr.drain entry.endpointHandle).cancel id
    | .joined _ => (mgr.drain entry.endpointHandle).remove id entry.endpointHandle

def shutdownAll (turn : EndpointId -> ShutdownTurn) : EndpointManager :=
  (mgr.runtimes.toList.map Prod.fst).foldl (fun current id => current.shutdownOne (turn id) id)
    mgr.cancelAll

/-- Remove a worker that is shutting down and has stopped. -/
def reapStopped (id : EndpointId) (hasStopped : Bool) : EndpointManager :=
  match mgr.runtimes.get id with
  | none => mgr
  | some entry =>
    if entry.state = .shuttingDown /\ hasStopped then mgr.remove id entry.endpointHandle
    else mgr

def retryDestroy (id : EndpointId) (join : Option WorkerOutcome) :
    Option (Option WorkerOutcome) × EndpointManager :=
  match mgr.runtimes.get id with
  | none => (none, mgr)
  | some entry =>
    if entry.state ≠ .shuttingDown then (none, mgr)
    else
      match join with
      | none => (some none, mgr)
      | some outcome => (some (some outcome), mgr.remove id entry.endpointHandle)

inductive Operation
  | create (daemonCancelled : Bool) (fresh : EndpointId) (failure : Option StartFailure)
  | cancel (id : EndpointId)
  | cancelAll
  | destroy (id : EndpointId) (join : Option WorkerOutcome)
  | shutdownAll (turn : EndpointId -> ShutdownTurn)
  | reapStopped (id : EndpointId) (hasStopped : Bool)
  | retryDestroy (id : EndpointId) (join : Option WorkerOutcome)

def step : Operation -> EndpointManager
  | .create daemonCancelled fresh failure => (mgr.createAndStart daemonCancelled fresh failure).2
  | .cancel id => mgr.cancel id
  | .cancelAll => mgr.cancelAll
  | .destroy id join => (mgr.destroy id join).2
  | .shutdownAll turn => mgr.shutdownAll turn
  | .reapStopped id hasStopped => mgr.reapStopped id hasStopped
  | .retryDestroy id join => (mgr.retryDestroy id join).2

/-- Every endpoint that counts has a runtime. -/
def Accounted : Prop :=
  ∀ id entry, mgr.registry.endpoints.get id = some entry -> entry.state.isTerminal = false ->
    (mgr.runtimes.get id).isSome = true

/-- The operation removes no endpoint that was not drained. -/
def Drained : Operation -> Prop
  | .reapStopped id true | .retryDestroy id (some _) =>
    ∀ runtime entry, mgr.runtimes.get id = some runtime -> runtime.state = .shuttingDown ->
      mgr.registry.endpoints.get id = some entry -> entry.state ≠ .active
  | _ => True

/-- The endpoints are accounted for after the operation, and a creation is refused for lack of
room only if all the room is taken by runtimes. -/
def KeepsCapacity (op : Operation) : Prop :=
  (mgr.step op).Accounted /\ ∀ daemonCancelled fresh failure max current,
      op = .create daemonCancelled fresh failure ->
      (mgr.createAndStart daemonCancelled fresh failure).1 =
        .error (.createRejected (.inl (.capacityExceeded max current))) ->
      max <= mgr.runtimes.toList.length

/-- A property of every step of a run. -/
def Always (property : EndpointManager -> Operation -> Prop) :
    EndpointManager -> List Operation -> Prop
  | _, [] => True
  | mgr, op :: ops =>
    property mgr op /\ Always property (mgr.step op) ops

end EndpointManager

/-! ## One endpoint -/

/-- What a change of state makes of an entry. -/
def EndpointEntry.moved (entry : EndpointEntry) (handle : EndpointHandle) (target : EndpointState) :
    EndpointEntry :=
  (entry.move handle target).getD entry

namespace EndpointRegistry

variable {reg : EndpointRegistry} {handle : EndpointHandle}

theorem get_transition (id : EndpointId) :
    (reg.transition handle target).2.endpoints.get id =
      if id = handle.id then (reg.endpoints.get id).map (fun entry => entry.moved handle target)
      else reg.endpoints.get id := by
  unfold transition
  by_cases same : id = handle.id
  · subst same
    cases found : reg.endpoints.get handle.id with
    | none => simp [found]
    | some entry =>
      cases moved : entry.move handle target <;> simp [EndpointEntry.moved, found, moved]
  · cases (reg.endpoints.get handle.id).bind (fun entry => entry.move handle target) <;>
      simp [get_insert, same]

theorem transition_eq (found : reg.endpoints.get handle.id = some ⟨handle, state⟩)
    (valid : isValidTransition state target = true) (kept : target ≠ .destroyed) :
    reg.transition handle target =
      (true, { reg with endpoints := reg.endpoints.insert handle.id ⟨handle, target⟩ }) := by
  simp [transition, EndpointEntry.move, found, valid, kept]

end EndpointRegistry

/-- An endpoint that counts has a runtime with its handle, and is active or draining. -/
def Matches (id : EndpointId) : Option EndpointEntry -> Option RuntimeEntry -> Prop
  | none, none => True
  | none, some runtime => runtime.endpointHandle.id = id
  | some entry, none => entry.state.isTerminal = true
  | some entry, some runtime => runtime.endpointHandle.id = id /\
      (entry.state.isTerminal = true ∨ entry.handle = runtime.endpointHandle /\
        (entry.state = .active ∨ entry.state = .draining))

namespace Matches

variable {id : EndpointId}

theorem named (matched : Matches id entry (some known)) : known.endpointHandle.id = id := by
  cases entry with
  | none => exact matched
  | some => exact matched.1

theorem cancelled (matched : Matches id entry runtime) :
    Matches id entry (runtime.map (fun known => { known with state := .shuttingDown })) := by
  cases entry <;> cases runtime <;> exact matched

theorem accounted (matched : Matches id (some entry) runtime)
    (counts : entry.state.isTerminal = false) : runtime.isSome = true := by
  cases runtime with
  | none => simp_all [Matches]
  | some => rfl

theorem ended {ended : EndpointEntry} (matched : Matches id entry runtime)
    (terminal : ended.state.isTerminal = true) : Matches id (some ended) runtime := by
  cases runtime with
  | none => exact terminal
  | some => exact ⟨matched.named, .inl terminal⟩

theorem drained (matched : Matches id entry (some known)) :
    Matches id (entry.map (fun entry => entry.moved known.endpointHandle .draining)) (some known) /\
      ∀ after, entry.map (fun entry => entry.moved known.endpointHandle .draining) = some after ->
        after.state ≠ .active := by
  cases entry with
  | none => exact ⟨matched, nofun⟩
  | some entry =>
    rcases entry with ⟨_, state⟩
    rcases known with ⟨⟨_, _⟩, _⟩
    cases state <;>
      simp_all [Matches, EndpointEntry.moved, EndpointEntry.move, isValidTransition,
        EndpointState.isTerminal]

theorem removed_iff (matched : Matches id entry (some known)) :
    (∀ before, entry = some before -> before.state ≠ .active) <->
      Matches id (entry.map (fun entry => entry.moved known.endpointHandle .destroyed)) none := by
  cases entry with
  | none => simp [Matches]
  | some entry =>
    rcases entry with ⟨_, state⟩
    cases state <;>
      simp_all [Matches, EndpointEntry.moved, EndpointEntry.move, isValidTransition,
        EndpointState.isTerminal]

end Matches

/-! ## The manager -/

namespace EndpointManager

variable {mgr : EndpointManager} {id : EndpointId} {runtime : RuntimeEntry}

def Sound (mgr : EndpointManager) : Prop :=
  ∀ id, Matches id (mgr.registry.endpoints.get id) (mgr.runtimes.get id)

def Inactive (mgr : EndpointManager) (id : EndpointId) : Prop :=
  ∀ entry, mgr.registry.endpoints.get id = some entry -> entry.state ≠ .active

theorem Sound.accounted (sound : mgr.Sound) : mgr.Accounted := by
  intro id entry found counts
  have matched := sound id
  rw [found] at matched
  exact matched.accounted counts

theorem Sound.cancel (sound : mgr.Sound) (id : EndpointId) : (mgr.cancel id).Sound := by
  intro other
  rw [EndpointManager.cancel, get_modify]
  split_ifs
  · exact (sound other).cancelled
  · exact sound other

theorem Sound.cancelAll (sound : mgr.Sound) : mgr.cancelAll.Sound := by
  intro id
  rw [EndpointManager.cancelAll, get_mapValues]
  exact (sound id).cancelled

section Known

variable (sound : mgr.Sound) (found : mgr.runtimes.get id = some runtime)

include sound found

theorem Sound.matched : Matches id (mgr.registry.endpoints.get id) (some runtime) :=
  found ▸ sound id

theorem Sound.drain :
    (mgr.drain runtime.endpointHandle).Sound /\
      (mgr.drain runtime.endpointHandle).Inactive id := by
  have matched := sound.matched found
  have named := matched.named
  constructor
  · intro other
    rw [EndpointManager.drain, EndpointRegistry.markDraining, EndpointRegistry.get_transition, named]
    split_ifs with same
    · rw [same, found]
      exact matched.drained.1
    · exact sound other
  · rw [Inactive, EndpointManager.drain, EndpointRegistry.markDraining,
      EndpointRegistry.get_transition, if_pos named.symm]
    exact matched.drained.2

/-- An endpoint leaves with its runtime exactly if it is not active. -/
theorem Sound.remove_iff :
    ((mgr.remove id runtime.endpointHandle).Accounted <-> mgr.Inactive id) /\
      (mgr.Inactive id -> (mgr.remove id runtime.endpointHandle).Sound) := by
  have matched := sound.matched found
  have named := matched.named
  have removed : mgr.Inactive id -> (mgr.remove id runtime.endpointHandle).Sound := by
    intro inactive other
    rw [remove, EndpointRegistry.markDestroyed, EndpointRegistry.get_transition, named, get_remove]
    split_ifs with same
    · rw [same]
      exact matched.removed_iff.mp inactive
    · exact sound other
  refine ⟨⟨?_, fun inactive => (removed inactive).accounted⟩, removed⟩
  intro accounted
  apply matched.removed_iff.mpr
  have here : (mgr.remove id runtime.endpointHandle).registry.endpoints.get id = _ :=
    (EndpointRegistry.get_transition id).trans (if_pos named.symm)
  have gone := (get_remove mgr.runtimes id id).trans (if_pos rfl)
  rw [<- here]
  cases left : (mgr.remove id runtime.endpointHandle).registry.endpoints.get id with
  | none => trivial
  | some entry =>
    by_contra counts
    have missing := accounted id entry left (Bool.eq_false_iff.mpr counts)
    rw [remove, gone] at missing
    cases missing

end Known

section

variable (sound : mgr.Sound)

include sound

theorem Sound.shutdownOne (turn : ShutdownTurn) (id : EndpointId) :
    (mgr.shutdownOne turn id).Sound := by
  unfold EndpointManager.shutdownOne
  cases found : mgr.runtimes.get id with
  | none => exact sound
  | some =>
    rcases sound.drain found with ⟨drained, inactive⟩
    cases turn with
    | outOfTime => exact sound.cancel id
    | timedOut => exact drained.cancel id
    | joined => exact (drained.remove_iff found).2 inactive

theorem Sound.shutdownAll (turn : EndpointId -> ShutdownTurn) :
    (mgr.shutdownAll turn).Sound := by
  unfold EndpointManager.shutdownAll
  generalize mgr.runtimes.toList.map Prod.fst = ids
  have start := sound.cancelAll
  generalize mgr.cancelAll = current at start
  induction ids generalizing current with
  | nil => exact start
  | cons head tail ih =>
    exact ih _ (start.shutdownOne (turn head) head)

theorem Sound.destroy (id : EndpointId) (join : Option WorkerOutcome) :
    (mgr.destroy id join).2.Sound := by
  unfold EndpointManager.destroy
  cases found : mgr.runtimes.get id with
  | none => exact sound
  | some runtime =>
    rcases sound.drain found with ⟨drained, inactive⟩
    cases join with
    | none => exact drained.cancel id
    | some =>
      have cancelled : ((mgr.drain runtime.endpointHandle).cancel id).runtimes.get id =
          some { runtime with state := .shuttingDown } := by
        rw [EndpointManager.cancel, get_modify_self]
        exact congrArg (Option.map _) found
      exact ((drained.cancel id).remove_iff cancelled).2 inactive

/-- A new endpoint ends up active with its worker, or failed. -/
theorem Sound.createAndStart (daemonCancelled : Bool) (fresh : EndpointId)
    (failure : Option StartFailure) :
    (mgr.createAndStart daemonCancelled fresh failure).2.Sound := by
  unfold EndpointManager.createAndStart EndpointRegistry.createEndpoint
  split_ifs
  · exact sound
  · exact sound
  · exact sound
  · cases failure with
    | some failure =>
      dsimp only
      rw [EndpointRegistry.markFailed,
        EndpointRegistry.transition_eq (get_insert_self _ _ _) rfl (by decide)]
      intro other
      by_cases same : other = fresh
      · rw [same, get_insert_self]
        exact (sound fresh).ended rfl
      · simpa [get_insert, same] using sound other
    | none =>
      dsimp only
      rw [startWorker, EndpointRegistry.markReady,
        EndpointRegistry.transition_eq (get_insert_self _ _ _) rfl (by decide)]
      dsimp only
      rw [EndpointRegistry.markActive,
        EndpointRegistry.transition_eq (get_insert_self _ _ _) rfl (by decide)]
      intro other
      by_cases same : other = fresh
      · simp [same, Matches]
      · simpa [get_insert, same] using sound other

/-- Reaping a worker leaves the endpoints accounted for exactly if it removes none that is
active. -/
theorem Sound.reapStopped (id : EndpointId) (hasStopped : Bool) :
    ((mgr.reapStopped id hasStopped).Accounted <-> mgr.Drained (.reapStopped id hasStopped)) /\
      (mgr.Drained (.reapStopped id hasStopped) -> (mgr.reapStopped id hasStopped).Sound) := by
  unfold EndpointManager.reapStopped Drained
  cases found : mgr.runtimes.get id with
  | none => grind [sound.accounted]
  | some runtime =>
    by_cases stopping : runtime.state = .shuttingDown /\ hasStopped = true
    · have removal := sound.remove_iff found
      unfold Inactive at removal
      grind
    · grind [sound.accounted]

end

/-- A worker that joins when it is destroyed again is reaped. -/
theorem retryDestroy_eq (mgr : EndpointManager) (id : EndpointId) (outcome : WorkerOutcome) :
    (mgr.retryDestroy id (some outcome)).2 = mgr.reapStopped id true := by
  unfold retryDestroy EndpointManager.reapStopped
  cases mgr.runtimes.get id with
  | none => rfl
  | some runtime =>
    by_cases stopping : runtime.state = .shuttingDown
    · simp [stopping]
    · simp [stopping]

/-- Under the invariant an operation keeps the endpoints accounted for exactly if it removes only
drained ones. -/
theorem Sound.step (sound : mgr.Sound) (op : Operation) :
    ((mgr.step op).Accounted <-> mgr.Drained op) /\
      (mgr.Drained op -> (mgr.step op).Sound) := by
  have kept : (mgr.step op).Sound -> mgr.Drained op ->
      ((mgr.step op).Accounted <-> mgr.Drained op) /\
        (mgr.Drained op -> (mgr.step op).Sound) :=
    fun after drained => ⟨iff_of_true after.accounted drained, fun _ => after⟩
  cases op with
  | create => exact kept (sound.createAndStart _ _ _) trivial
  | cancel id => exact kept (sound.cancel id) trivial
  | cancelAll => exact kept sound.cancelAll trivial
  | destroy id join => exact kept (sound.destroy id join) trivial
  | shutdownAll turn => exact kept (sound.shutdownAll turn) trivial
  | reapStopped id hasStopped => exact sound.reapStopped id hasStopped
  | retryDestroy id join =>
    cases join with
    | none =>
      have unchanged : mgr.step (.retryDestroy id none) = mgr := by
        grind [EndpointManager.step, retryDestroy]
      exact kept (unchanged.symm ▸ sound) trivial
    | some outcome =>
      rw [EndpointManager.step, retryDestroy_eq]
      exact sound.reapStopped id true

/-- Endpoints that are accounted for do not take more room than there are runtimes. -/
theorem Accounted.activeCount_le (accounted : mgr.Accounted) :
    mgr.registry.activeCount <= mgr.runtimes.toList.length := by
  rw [EndpointRegistry.activeCount, count, values, List.countP_map, List.countP_eq_length_filter,
    <- List.length_map Prod.fst, <- List.length_map Prod.fst]
  refine (List.subperm_of_subset ?_ ?_).length_le
  · exact (nodup_keys _).sublist (List.filter_sublist.map _)
  · intro id mem
    rcases List.mem_map.mp mem with ⟨⟨_, entry⟩, inside, rfl⟩
    rcases List.mem_filter.mp inside with ⟨stored, counts⟩
    have present := accounted _ entry ((mem_toList _ _ _).mp stored) (by simpa using counts)
    rcases Option.isSome_iff_exists.mp present with ⟨runtime, found⟩
    exact List.mem_map.mpr ⟨(_, runtime), (mem_toList _ _ _).mpr found, rfl⟩

theorem Sound.keepsCapacity_iff (sound : mgr.Sound) (op : Operation) :
    mgr.KeepsCapacity op <-> mgr.Drained op := by
  rw [<- (sound.step op).1]
  refine and_iff_left ?_
  rintro daemonCancelled fresh failure max current rfl refused
  have full : max = mgr.registry.maxEndpoints /\
      mgr.registry.maxEndpoints <= mgr.registry.activeCount := by
    unfold EndpointManager.createAndStart EndpointRegistry.createEndpoint at refused
    split_ifs at refused with _ _ full
    · cases refused
    · cases refused
    · cases refused
      exact ⟨rfl, full⟩
    · cases failure with
      | some failure => cases failure <;> cases refused
      | none =>
        unfold startWorker at refused
        dsimp only at refused
        split_ifs at refused <;> cases refused
  rw [full.1]
  exact full.2.trans sound.accounted.activeCount_le

/-- Endpoints take up room only while they have a runtime, in every run in which workers are
reaped only from endpoints that were drained. -/
theorem capacity_kept_iff (maxEndpoints : Nat) (ops : List Operation) :
    Always KeepsCapacity (new maxEndpoints) ops <->
      Always Drained (new maxEndpoints) ops := by
  have start : (new maxEndpoints).Sound := fun _ => trivial
  generalize new maxEndpoints = mgr at start
  induction ops generalizing mgr with
  | nil => exact Iff.rfl
  | cons op ops ih =>
    unfold Always
    rw [start.keepsCapacity_iff]
    refine and_congr_right ?_
    intro drained
    exact ih _ ((start.step op).2 drained)

def sampleRun : List Operation :=
  [.create false ⟨1⟩ none, .cancel ⟨1⟩, .reapStopped ⟨1⟩ true, .create false ⟨2⟩ none]

/-- The worker of the only endpoint is cancelled and reaped, and its place stays taken. -/
theorem reaped_endpoint_counts : ¬ Always KeepsCapacity (new 1) sampleRun := by
  intro kept
  have accounted : ((((new 1).step (.create false ⟨1⟩ none)).step (.cancel ⟨1⟩)).step
      (.reapStopped ⟨1⟩ true)).Accounted := kept.2.2.1.1
  cases accounted ⟨1⟩ ⟨⟨⟨1⟩, 1⟩, .active⟩ rfl rfl

end EndpointManager

end ControlVault.Hid
