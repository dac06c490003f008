import ControlVault.Foundation.Locks

namespace ControlVault.Foundation

open List

/-!
# Threads that share data behind locks

The threads of `Locks` have no data.  Here the code of a thread is a sequence of stages: a stage
reads and changes the shared data in one piece and says which locks are taken and released on the
way to the next stage.  Threads start at any time and interleave at every lock action and every
stage.

The rule for such systems at the end of this file is that of a critical section: if threads enter
only while none is inside, then the shared data change as if the sections were executed one after
another, and no thread waits in a cycle.
-/

universe u v w

/-- A thread: the lock actions up to its next stage, the stage, and the locks it holds. -/
structure Worker (Lock : Type u) (Stage : Type v) where
  todo : List (LockAction Lock)
  stage : Stage
  held : List Lock

/-- What a stage leaves: the shared data, the lock actions that follow, and the next stage. -/
structure StageOutcome (Shared : Type w) (Lock : Type u) (Stage : Type v) where
  shared : Shared
  todo : List (LockAction Lock)
  next : Stage

structure Workshop (Shared : Type w) (Lock : Type u) (Stage : Type v) where
  shared : Shared
  workers : List (Worker Lock Stage)

variable {Shared : Type w} {Lock : Type u} {Stage : Type v}

/-- One thread goes on by itself. -/
inductive WorkerStep [DecidableEq Lock]
    (program : Shared -> Stage -> Option (StageOutcome Shared Lock Stage)) :
    Shared -> Worker Lock Stage -> Shared -> Worker Lock Stage -> Prop
  | acquire (shared : Shared) (lock : Lock) (rest : List (LockAction Lock)) (stage : Stage)
      (held : List Lock) :
      WorkerStep program shared ⟨.acquire lock :: rest, stage, held⟩ shared
        ⟨rest, stage, lock :: held⟩
  | release (shared : Shared) (lock : Lock) (rest : List (LockAction Lock)) (stage : Stage)
      (held : List Lock) :
      WorkerStep program shared ⟨.release lock :: rest, stage, held⟩ shared
        ⟨rest, stage, held.erase lock⟩
  | act (held : List Lock) (performed : program shared stage = some outcome) :
      WorkerStep program shared ⟨[], stage, held⟩ outcome.shared ⟨outcome.todo, outcome.next, held⟩

/-- The stages of one thread that nobody disturbs, up to a number of them. -/
def conduct (program : Shared -> Stage -> Option (StageOutcome Shared Lock Stage)) :
    Nat -> Shared -> Stage -> Shared × Stage
  | 0, shared, stage => (shared, stage)
  | count + 1, shared, stage =>
    match program shared stage with
    | none => (shared, stage)
    | some outcome => conduct program count outcome.shared outcome.next

variable {stage : Stage} {program : Shared -> Stage -> Option (StageOutcome Shared Lock Stage)}
  {shared : Shared}

theorem conduct_done (done : program shared stage = none) (count : Nat) :
    conduct program count shared stage = (shared, stage) := by
  cases count with
  | zero => rfl
  | succ => rw [conduct, done]

theorem conduct_step (performed : program shared stage = some outcome) (count : Nat) :
    conduct program (count + 1) shared stage =
      conduct program count outcome.shared outcome.next := by
  rw [conduct, performed]

namespace Workshop

/-- The threads without their data. -/
def locks (workshop : Workshop Shared Lock Stage) : LockSystem Lock :=
  workshop.workers.map (fun worker => ⟨worker.todo, worker.held⟩)

/-- A thread starts, or goes on; the event is the thread before its step. -/
inductive Step [DecidableEq Lock]
    (program : Shared -> Stage -> Option (StageOutcome Shared Lock Stage)) (begins : Stage -> Prop) :
    Workshop Shared Lock Stage -> Option (Worker Lock Stage) -> Workshop Shared Lock Stage -> Prop
  | start {shared : Shared} {workers : List (Worker Lock Stage)} {stage : Stage}
      (permitted : begins stage) :
      Step program begins ⟨shared, workers⟩ none ⟨shared, workers ++ [⟨[], stage, []⟩]⟩
  | move {shared next : Shared} {before after : List (Worker Lock Stage)}
      {worker moved : Worker Lock Stage} (step : WorkerStep program shared worker next moved)
      (free : ∀ lock rest, worker.todo = .acquire lock :: rest ->
        ∀ other ∈ before ++ worker :: after, lock ∉ other.held) :
      Step program begins ⟨shared, before ++ worker :: after⟩ (some worker)
        ⟨next, before ++ moved :: after⟩

end Workshop

/-! ## Critical sections -/

section Solo

variable {begins : Stage -> Prop} {idle : Shared -> Prop}
  {outside enters : Worker Lock Stage -> Prop} {inside : Shared -> Worker Lock Stage -> Prop}

/-- A thread outside the section holds nothing and changes nothing, and is inside once it enters.
A thread inside stays there or leaves the data in order. -/
structure Solo [DecidableEq Lock]
    (program : Shared -> Stage -> Option (StageOutcome Shared Lock Stage))
    (begins : Stage -> Prop) (idle : Shared -> Prop) (outside enters : Worker Lock Stage -> Prop)
    (inside : Shared -> Worker Lock Stage -> Prop) : Prop where
  starts : ∀ stage, begins stage -> outside ⟨[], stage, []⟩
  bare : ∀ worker, outside worker -> worker.held = []
  approaching : ∀ shared worker next moved, outside worker ->
    WorkerStep program shared worker next moved ->
      next = shared /\ (outside moved ∨ enters worker /\ (idle shared -> inside shared moved))
  working : ∀ shared worker next moved, inside shared worker ->
    WorkerStep program shared worker next moved ->
      inside next moved ∨ idle next /\ outside moved
  unlocked : ∀ shared worker lock rest, inside shared worker ->
    worker.todo = .acquire lock :: rest -> lock ∉ worker.held

/-- At most one thread is inside. -/
inductive Alone (idle : Shared -> Prop) (outside : Worker Lock Stage -> Prop)
    (inside : Shared -> Worker Lock Stage -> Prop) : Workshop Shared Lock Stage -> Prop
  | nobody {shared : Shared} (resting : idle shared)
      (others : ∀ worker ∈ workers, outside worker) : Alone idle outside inside ⟨shared, workers⟩
  | somebody {shared : Shared} {before after : List (Worker Lock Stage)} {worker : Worker Lock Stage}
      (present : inside shared worker) (front : ∀ other ∈ before, outside other)
      (back : ∀ other ∈ after, outside other) :
      Alone idle outside inside ⟨shared, before ++ worker :: after⟩

variable {worker : Worker Lock Stage} {after before : List (Worker Lock Stage)}
  {event : Option (Worker Lock Stage)} {start finish : Workshop Shared Lock Stage}
  {events : List (Option (Worker Lock Stage))}

theorem outside_replace {moved : Worker Lock Stage}
    (others : ∀ other ∈ before ++ worker :: after, outside other) (left : outside moved) :
    ∀ other ∈ before ++ moved :: after, outside other := by
  rw [forall_mem_append, forall_mem_cons] at others ⊢
  exact ⟨others.1, left, others.2.2⟩

/-- Two ways to pick a thread from a list pick the same place, or one lies before the other. -/
theorem pick_cases {front back : List (Worker Lock Stage)} {other : Worker Lock Stage}
    (same : before ++ worker :: after = front ++ other :: back) :
    (before = front /\ worker = other /\ after = back) ∨
      (∃ middle, front = before ++ worker :: middle /\ after = middle ++ other :: back) ∨
        ∃ middle, before = front ++ other :: middle /\ back = middle ++ worker :: after := by
  rcases append_eq_append_iff.mp same with ⟨rest, split, tail⟩ | ⟨rest, split, tail⟩
  · cases rest with
    | nil =>
      rw [append_nil] at split
      cases tail
      exact .inl ⟨split.symm, rfl, rfl⟩
    | cons first middle =>
      cases tail
      exact .inr (.inl ⟨middle, split, rfl⟩)
  · cases rest with
    | nil =>
      rw [append_nil] at split
      cases tail
      exact .inl ⟨split, rfl, rfl⟩
    | cons first middle =>
      cases tail
      exact .inr (.inr ⟨middle, split, rfl⟩)

theorem getElem?_pick {found : Worker Lock Stage} {index : Nat}
    (located : (before ++ worker :: after)[index]? = some found) :
    (index = before.length /\ found = worker) ∨ found ∈ before ∨ found ∈ after := by
  rcases Nat.lt_trichotomy index before.length with smaller | same | larger
  · rw [getElem?_append_left smaller] at located
    exact .inr (.inl (mem_of_getElem? located))
  · rw [same, getElem?_append_right (Nat.le_refl _), Nat.sub_self] at located
    exact .inl ⟨same, (Option.some.inj located).symm⟩
  · have place : index - before.length = (index - before.length - 1) + 1 := by omega
    rw [getElem?_append_right (Nat.le_of_lt larger), place] at located
    exact .inr (.inr (mem_of_getElem? located))

variable [DecidableEq Lock]

/-- At most one thread stays inside if threads outside disturb neither the resting data nor the
thread inside, and enter only while none is inside. -/
theorem Alone.step {before after : Workshop Shared Lock Stage}
    (alone : Alone idle outside inside before)
    (taken : Workshop.Step program begins before event after)
    (starts : ∀ stage, begins stage -> outside ⟨[], stage, []⟩)
    (approaching : ∀ shared worker next moved, outside worker ->
      WorkerStep program shared worker next moved ->
        (outside moved /\ (idle shared -> idle next) /\
            ∀ other, inside shared other -> inside next other) ∨
          enters worker /\ next = shared /\ (idle shared -> inside shared moved))
    (working : ∀ shared worker next moved, inside shared worker ->
      WorkerStep program shared worker next moved -> inside next moved ∨ idle next /\ outside moved)
    (admitted : ∀ worker, event = some worker -> enters worker ->
      ∀ other ∈ before.workers, ¬inside before.shared other) :
    Alone idle outside inside after := by
  cases taken with
  | @start shared workers stage permitted =>
    have fresh := forall_mem_singleton.mpr (starts stage permitted)
    generalize same : (⟨shared, workers⟩ : Workshop Shared Lock Stage) = current at alone
    cases alone with
    | nobody resting others =>
      cases same
      exact .nobody resting (forall_mem_append.mpr ⟨others, fresh⟩)
    | @somebody _ front back worker present first last =>
      cases same
      rw [append_assoc]
      exact .somebody present first (forall_mem_append.mpr ⟨last, fresh⟩)
  | @move shared next front back worker moved step free =>
    generalize same : (⟨shared, front ++ worker :: back⟩ : Workshop Shared Lock Stage) = current
      at alone
    cases alone with
    | @nobody _ workers resting others =>
      cases same
      have place := others worker (mem_append_cons_self)
      rcases approaching shared worker next moved place step with
        ⟨away, rested, _⟩ | ⟨_, rfl, arrived⟩
      · exact .nobody (rested resting) (outside_replace others away)
      · rw [forall_mem_append, forall_mem_cons] at others
        exact .somebody (arrived resting) others.1 others.2.2
    | @somebody _ first last owner present ahead behind =>
      have equal := congrArg Workshop.workers same
      cases congrArg Workshop.shared same
      have passes : outside worker -> outside moved /\ inside next owner := by
        intro place
        rcases approaching shared worker next moved place step with
          ⟨away, _, undisturbed⟩ | ⟨entering, _, _⟩
        · exact ⟨away, undisturbed owner present⟩
        · exact absurd present (admitted worker rfl entering owner (equal ▸ mem_append_cons_self))
      rcases pick_cases equal with ⟨rfl, rfl, rfl⟩ | ⟨middle, rfl, rfl⟩ | ⟨middle, rfl, rfl⟩
      · rcases working shared worker next moved present step with stays | ⟨resting, away⟩
        · exact .somebody stays ahead behind
        · refine .nobody resting ?_
          rw [forall_mem_append, forall_mem_cons]
          exact ⟨ahead, away, behind⟩
      · rcases passes (ahead worker mem_append_cons_self) with ⟨away, stays⟩
        have replaced := (Alone.somebody stays (outside_replace ahead away) behind : Alone idle outside inside _)
        rwa [append_assoc] at replaced
      · rcases passes (behind worker mem_append_cons_self) with ⟨away, stays⟩
        rw [append_assoc]
        exact .somebody stays ahead (outside_replace behind away)

section

variable (solo : Solo program begins idle outside enters inside)

include solo

/-- A step of a thread outside the section while another thread is inside does not enter. -/
theorem Solo.step
    {before after : Workshop Shared Lock Stage} (alone : Alone idle outside inside before)
    (taken : Workshop.Step program begins before event after)
    (admitted : ∀ worker, event = some worker -> enters worker ->
      ∀ other ∈ before.workers, ¬inside before.shared other) :
    Alone idle outside inside after := by
  refine alone.step taken solo.starts ?_ solo.working admitted
  intro shared worker next moved away step
  rcases solo.approaching shared worker next moved away step with ⟨rfl, left | ⟨entering, arrived⟩⟩
  · exact .inl ⟨left, id, fun _ => id⟩
  · exact .inr ⟨entering, rfl, arrived⟩

/-- Only the thread inside holds locks, and it does not wait for itself. -/
theorem Solo.not_deadlocked (alone : Alone idle outside inside workshop) :
    ¬workshop.locks.Deadlocked := by
  rintro ⟨index, cycle⟩
  rcases Relation.TransGen.head'_iff.mp cycle with ⟨_, waits, _⟩
  rcases Relation.TransGen.tail'_iff.mp cycle with ⟨_, _, waited⟩
  rcases waits with ⟨lock, _, awaits, holder, held⟩
  rcases waited with ⟨other, _, _, owned, kept⟩
  have bare : ∀ worker : Worker Lock Stage, outside worker -> ∀ taken, taken ∉ worker.held := by
    intro worker away taken mem
    rw [solo.bare worker away] at mem
    cases mem
  have located : ∀ {place : Nat} {found : LockThread Lock}, workshop.locks[place]? = some found ->
      ∃ worker, workshop.workers[place]? = some worker /\ found = ⟨worker.todo, worker.held⟩ := by
    intro place found same
    rw [Workshop.locks, getElem?_map, Option.map_eq_some_iff] at same
    rcases same with ⟨worker, here, rfl⟩
    exact ⟨worker, here, rfl⟩
  rcases located holder with ⟨_, firstHere, rfl⟩
  rcases located owned with ⟨second, secondHere, rfl⟩
  cases alone with
  | nobody resting others =>
    exact bare second (others second (mem_of_getElem? secondHere)) other kept
  | @somebody shared before after worker present front back =>
    have onlyInside : ∀ {place : Nat} {found : Worker Lock Stage} {taken : Lock},
        (before ++ worker :: after)[place]? = some found -> taken ∈ found.held ->
          place = before.length /\ found = worker := by
      intro place found taken here mem
      rcases getElem?_pick here with same | early | late
      · exact same
      · exact absurd mem (bare found (front found early) taken)
      · exact absurd mem (bare found (back found late) taken)
    rcases onlyInside firstHere held with ⟨rfl, rfl⟩
    rcases onlyInside secondHere kept with ⟨rfl, rfl⟩
    rcases awaits with ⟨rest, _, found⟩
    rcases located found with ⟨_, here, same⟩
    rw [secondHere] at here
    cases here
    have todo : second.todo = .acquire lock :: rest := (congrArg LockThread.rest same).symm
    exact solo.unlocked shared second lock rest present todo held

/-- The rule of the critical section: in a run that admits threads only while none is inside, at
most one is inside. -/
theorem Solo.run {admits : Workshop Shared Lock Stage -> Option (Worker Lock Stage) -> Prop}
    (admitted : ∀ workshop worker, admits workshop (some worker) -> enters worker ->
      (∀ lock rest, worker.todo = .acquire lock :: rest ->
        ∀ other ∈ workshop.workers, lock ∉ other.held) ->
        ∀ other ∈ workshop.workers, ¬inside workshop.shared other)
    (first : Alone idle outside inside start)
    (run : Run (fun before event after =>
      Workshop.Step program begins before event after /\ admits before event) start events finish) :
    Alone idle outside inside finish := by
  refine run.invariant ?_ first
  rintro before event after alone ⟨taken, permitted⟩
  refine solo.step alone taken ?_
  rintro worker rfl entering
  cases taken with
  | move step free => exact admitted _ worker permitted entering free

end

/-- The section is the code that holds one lock.  Threads outside may hold other locks and change
other data. -/
structure Guarded (program : Shared -> Stage -> Option (StageOutcome Shared Lock Stage))
    (begins : Stage -> Prop) (lock : Lock) (idle : Shared -> Prop)
    (outside : Worker Lock Stage -> Prop) (inside : Shared -> Worker Lock Stage -> Prop) : Prop where
  starts : ∀ stage, begins stage -> outside ⟨[], stage, []⟩
  holds : ∀ shared worker, inside shared worker -> lock ∈ worker.held
  approaching : ∀ shared worker next moved, outside worker ->
    WorkerStep program shared worker next moved ->
      (outside moved /\ (idle shared -> idle next) /\
          ∀ other, inside shared other -> inside next other) ∨
        (∃ rest, worker.todo = .acquire lock :: rest) /\ next = shared /\
          (idle shared -> inside shared moved)
  working : ∀ shared worker next moved, inside shared worker ->
    WorkerStep program shared worker next moved -> inside next moved ∨ idle next /\ outside moved

/-- The rule of the lock: in every run at most one thread is inside. -/
theorem Guarded.run (guarded : Guarded program begins lock idle outside inside)
    (first : Alone idle outside inside start)
    (run : Run (Workshop.Step program begins) start events finish) :
    Alone idle outside inside finish := by
  refine run.invariant ?_ first
  intro before event after alone taken
  refine alone.step taken guarded.starts guarded.approaching guarded.working ?_
  rintro worker rfl ⟨rest, waits⟩ other mem present
  cases taken with
  | move step free => exact free lock rest waits other mem (guarded.holds _ other present)

end Solo

/-! ## Routes

Where a thread stands between two stages is known from the locks it held when the earlier stage was
done and the actions from there to the later one. -/

section Routes

variable [DecidableEq Lock] {routes : Stage -> List (List Lock × List (LockAction Lock))}

/-- The thread is on one of the routes to its stage. -/
def Worker.OnRoute (routes : Stage -> List (List Lock × List (LockAction Lock)))
    (worker : Worker Lock Stage) : Prop :=
  ∃ route ∈ routes worker.stage, ∃ done, route.2 = done ++ worker.todo /\
    worker.held = heldAfter route.1 done

theorem heldAfter_append (held : List Lock) (first second : List (LockAction Lock)) :
    heldAfter held (first ++ second) = heldAfter (heldAfter held first) second := by
  induction first generalizing held with
  | nil => rfl
  | cons action rest ih =>
    cases action with
    | acquire lock => exact ih _
    | release lock => exact ih _

variable {held : List Lock} {action : LockAction Lock} {rest : List (LockAction Lock)}

theorem Unhindered.of_append {foreign : List Lock} {first second : List (LockAction Lock)}
    (clear : Unhindered foreign held (first ++ second)) :
    Unhindered foreign (heldAfter held first) second := by
  induction first generalizing held with
  | nil => exact clear
  | cons action rest ih =>
    cases action with
    | acquire lock => exact ih clear.2.2
    | release lock => exact ih clear

/-- A thread that performed the next action is still on its route. -/
theorem Worker.OnRoute.advance (placed : Worker.OnRoute routes ⟨action :: rest, stage, held⟩) :
    Worker.OnRoute routes ⟨rest, stage, heldAfter held [action]⟩ := by
  rcases placed with ⟨route, mem, done, whole, rfl⟩
  refine ⟨route, mem, done ++ [action], ?_, (heldAfter_append _ _ _).symm⟩
  rw [append_assoc]
  exact whole

theorem Worker.OnRoute.arrived (placed : Worker.OnRoute routes ⟨[], stage, held⟩) :
    ∃ route ∈ routes stage, held = heldAfter route.1 route.2 := by
  rcases placed with ⟨route, mem, _, whole, same⟩
  rw [append_nil] at whole
  exact ⟨route, mem, whole ▸ same⟩

theorem Worker.OnRoute.unlocked {worker : Worker Lock Stage} {lock : Lock}
    (placed : worker.OnRoute routes)
    (clear : ∀ route ∈ routes worker.stage, Unhindered [] route.1 route.2)
    (next : worker.todo = .acquire lock :: rest) : lock ∉ worker.held := by
  rcases placed with ⟨route, mem, _, whole, same⟩
  have remaining := clear route mem
  rw [whole, next] at remaining
  rw [same]
  exact remaining.of_append.2.1

/-- What holds behind each action of each route holds of a thread that performed an action. -/
theorem Worker.OnRoute.behind (placed : Worker.OnRoute routes ⟨action :: rest, stage, held⟩)
    (holds : List Lock -> List (LockAction Lock) -> Prop)
    (everywhere : ∀ route ∈ routes stage, ∀ count < route.2.length,
      holds (heldAfter route.1 (route.2.take (count + 1))) (route.2.drop (count + 1))) :
    holds (heldAfter held [action]) rest := by
  rcases placed with ⟨route, mem, done, whole, rfl⟩
  have split : route.2 = (done ++ [action]) ++ rest := by
    rw [append_assoc]
    exact whole
  have length : (done ++ [action]).length = done.length + 1 := length_append
  have here := everywhere route mem done.length (by rw [split]; simp)
  rwa [<- length, split, take_left, drop_left, heldAfter_append] at here

end Routes

/-! ## Schedules -/

section Schedules

variable [DecidableEq Lock] {permits : Workshop Shared Lock Stage -> Worker Lock Stage -> Bool}

/-- The step of one thread, unless it waits or is done. -/
def Worker.next (program : Shared -> Stage -> Option (StageOutcome Shared Lock Stage))
    (shared : Shared) (workers : List (Worker Lock Stage)) :
    Worker Lock Stage -> Option (Shared × Worker Lock Stage)
  | ⟨.acquire lock :: rest, stage, held⟩ =>
    if workers.any (fun other => decide (lock ∈ other.held)) then none
    else some (shared, ⟨rest, stage, lock :: held⟩)
  | ⟨.release lock :: rest, stage, held⟩ => some (shared, ⟨rest, stage, held.erase lock⟩)
  | ⟨[], stage, held⟩ =>
    (program shared stage).map (fun outcome => (outcome.shared, ⟨outcome.todo, outcome.next, held⟩))

/-- The threads at the listed positions make one step each, as long as it is permitted. -/
def Workshop.follow (program : Shared -> Stage -> Option (StageOutcome Shared Lock Stage))
    (permits : Workshop Shared Lock Stage -> Worker Lock Stage -> Bool) :
    Workshop Shared Lock Stage -> List Nat -> Option (Workshop Shared Lock Stage)
  | workshop, [] => some workshop
  | workshop, index :: rest =>
    match workshop.workers.drop index with
    | [] => none
    | worker :: after =>
      if permits workshop worker then
        match worker.next program workshop.shared workshop.workers with
        | none => none
        | some (shared, moved) =>
          Workshop.follow program permits
            ⟨shared, workshop.workers.take index ++ moved :: after⟩ rest
      else none

theorem Worker.next_step
    {worker : Worker Lock Stage} (next : worker.next program shared workers = some (left, moved)) :
    WorkerStep program shared worker left moved /\
      ∀ lock rest, worker.todo = .acquire lock :: rest -> ∀ other ∈ workers, lock ∉ other.held := by
  rcases worker with ⟨todo, _, held⟩
  cases todo with
  | nil =>
    rw [Worker.next, Option.map_eq_some_iff] at next
    rcases next with ⟨_, performed, same⟩
    cases same
    refine ⟨.act held performed, ?_⟩
    intro lock rest same
    cases same
  | cons action rest =>
    cases action with
    | acquire lock =>
      rw [Worker.next] at next
      split at next
      · cases next
      · rename_i free
        cases next
        refine ⟨.acquire .., ?_⟩
        rintro lock rest ⟨⟩ other mem taken
        exact free (any_eq_true.mpr ⟨other, mem, decide_eq_true taken⟩)
    | release lock =>
      cases next
      refine ⟨.release .., ?_⟩
      intro lock rest same
      cases same

theorem Workshop.follow_run {workshop : Workshop Shared Lock Stage}
    (followed : workshop.follow program permits schedule = some finish) :
    ∃ events, Run (fun before event after => Workshop.Step program begins before event after /\
      ∀ worker, event = some worker -> permits before worker = true) workshop events finish := by
  induction schedule generalizing workshop with
  | nil =>
    cases followed
    exact ⟨[], .nil⟩
  | cons index rest ih =>
    rw [Workshop.follow] at followed
    cases suffix : workshop.workers.drop index with
    | nil =>
      rw [suffix] at followed
      cases followed
    | cons worker after =>
      simp only [suffix] at followed
      split at followed
      · rename_i permitted
        cases moves : worker.next program workshop.shared workshop.workers with
        | none =>
          rw [moves] at followed
          cases followed
        | some step =>
          rcases step with ⟨shared, moved⟩
          rw [moves] at followed
          rcases ih followed with ⟨_, run⟩
          have whole : workshop.workers.take index ++ worker :: after = workshop.workers := by
            rw [<- suffix, take_append_drop]
          rcases Worker.next_step moves with ⟨step, _⟩
          have taken : Workshop.Step program begins
              ⟨workshop.shared, workshop.workers.take index ++ worker :: after⟩ (some worker)
              ⟨shared, workshop.workers.take index ++ moved :: after⟩ :=
            .move step (by rwa [whole])
          rw [whole] at taken
          refine ⟨_, Run.append (.single ⟨taken, ?_⟩) run⟩
          rintro _ ⟨⟩
          exact permitted
      · cases followed

end Schedules

end ControlVault.Foundation
