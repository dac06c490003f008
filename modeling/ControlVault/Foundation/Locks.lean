import ControlVault.Foundation.Run
import Mathlib.Logic.Relation
import Mathlib.Order.Basic

namespace ControlVault.Foundation

open List

/-!
# Locks held in nested scopes

Code that takes locks for the length of a block is described by its nesting
alone: which lock is held around which code, what comes after what, and where
the code may take one of two ways or repeat itself.  `Performs` lists the
sequences of acquisitions and releases that such code can perform.

A system is a list of threads, each in the middle of one sequence.  Threads are
started at any time and interleave at every acquisition; an acquisition waits
while some thread holds the lock, also the waiting thread itself.  A cycle of
waiting threads never ends.

The classical remedy is a rank: if every lock is taken only while locks of
smaller rank are held, then the ranks of the awaited locks increase along a chain
of waiting threads, so the chain does not close.  Conversely two threads that
can each reach a point where they hold what the other takes next do form a
cycle.
-/

universe u v w

variable {Lock : Type u}

inductive LockAction (Lock : Type u)
  | acquire (lock : Lock)
  | release (lock : Lock)
  deriving DecidableEq

/-- The nesting of a piece of code. -/
inductive LockCode (Lock : Type u)
  | skip
  | hold (lock : Lock) (body : LockCode Lock)
  | seq (first second : LockCode Lock)
  | either (first second : LockCode Lock)
  | many (body : LockCode Lock)

namespace LockCode

/-- A lock that is taken and released at once. -/
def touch (lock : Lock) : LockCode Lock :=
  hold lock skip

/-- Code that may be passed over. -/
def maybe (body : LockCode Lock) : LockCode Lock :=
  either body skip

/-- One piece of code after the other. -/
def steps : List (LockCode Lock) -> LockCode Lock
  | [] => skip
  | first :: rest => seq first (steps rest)

/-- The sequences that the code can perform. -/
inductive Performs : LockCode Lock -> List (LockAction Lock) -> Prop
  | skip : Performs skip []
  | hold {body : LockCode Lock} {trace : List (LockAction Lock)} :
      Performs body trace -> Performs (hold lock body) (.acquire lock :: (trace ++ [.release lock]))
  | seq {after : List (LockAction Lock)} :
      Performs first before -> Performs second after -> Performs (seq first second) (before ++ after)
  | left :
      Performs first trace -> Performs (either first second) trace
  | right :
      Performs second trace -> Performs (either first second) trace
  | none : Performs (many body) []
  | again {after : List (LockAction Lock)} :
      Performs body before -> Performs (many body) after -> Performs (many body) (before ++ after)

variable (code : LockCode Lock)

/-- Some sequence of the code begins with the given actions. -/
def Begins (start : List (LockAction Lock)) : Prop :=
  ∃ rest, code.Performs (start ++ rest)

theorem performs_exists : ∃ trace, code.Performs trace := by
  induction code with
  | skip => exact ⟨_, .skip⟩
  | hold lock body ih =>
    rcases ih with ⟨trace, performs⟩
    exact ⟨_, .hold performs⟩
  | seq first second firstHypothesis secondHypothesis =>
    rcases firstHypothesis with ⟨_, performsFirst⟩
    rcases secondHypothesis with ⟨_, performsSecond⟩
    exact ⟨_, .seq performsFirst performsSecond⟩
  | either first second firstHypothesis _ =>
    rcases firstHypothesis with ⟨_, performs⟩
    exact ⟨_, .left performs⟩
  | many => exact ⟨_, .none⟩

theorem Begins.nil : code.Begins [] := by
  rcases code.performs_exists with ⟨trace, performs⟩
  exact ⟨trace, performs⟩

variable {body second : LockCode Lock}

theorem Begins.hold (begins : body.Begins start) :
    (hold lock body).Begins (.acquire lock :: start) := by
  rcases begins with ⟨rest, performs⟩
  refine ⟨rest ++ [.release lock], ?_⟩
  rw [<- append_assoc]
  exact .hold performs

theorem Begins.first {first : LockCode Lock} (begins : first.Begins start) :
    (seq first second).Begins start := by
  rcases begins with ⟨rest, performs⟩
  rcases second.performs_exists with ⟨after, performsSecond⟩
  refine ⟨rest ++ after, ?_⟩
  rw [<- append_assoc]
  exact .seq performs performsSecond

theorem Begins.after {first : LockCode Lock} {before : List (LockAction Lock)}
    (performs : first.Performs before) (begins : second.Begins start) :
    (seq first second).Begins (before ++ start) := by
  rcases begins with ⟨rest, performsSecond⟩
  refine ⟨rest, ?_⟩
  rw [append_assoc]
  exact .seq performs performsSecond

theorem Begins.left {first : LockCode Lock} (begins : first.Begins start) :
    (either first second).Begins start := by
  rcases begins with ⟨rest, performs⟩
  exact ⟨rest, .left performs⟩

theorem performs_touch (lock : Lock) : (touch lock).Performs [.acquire lock, .release lock] :=
  .hold .skip

theorem Begins.touched (begins : second.Begins start) :
    (seq (touch lock) second).Begins (.acquire lock :: .release lock :: start) :=
  Begins.after (performs_touch lock) begins

theorem Begins.passed (begins : second.Begins start) : (seq (maybe body) second).Begins start :=
  Begins.after (.right .skip) begins

end LockCode

/-! ## Systems of threads -/

structure LockThread (Lock : Type u) where
  rest : List (LockAction Lock)
  held : List Lock

/-- The threads, in the order of their start.  A finished thread has nothing left to do. -/
abbrev LockSystem (Lock : Type u) := List (LockThread Lock)

namespace LockSystem

/-- No thread holds the lock. -/
def Free (system : LockSystem Lock) (lock : Lock) : Prop :=
  ∀ thread ∈ system, lock ∉ thread.held

variable [DecidableEq Lock]

/-- One thread starts, takes a free lock or releases one. -/
inductive Step (allowed : LockCode Lock -> Prop) :
    LockSystem Lock -> Unit -> LockSystem Lock -> Prop
  | start {code : LockCode Lock} {trace : List (LockAction Lock)}
      (permitted : allowed code) (performs : code.Performs trace) :
      Step allowed system () (system ++ [⟨trace, []⟩])
  | acquire {after : LockSystem Lock} {lock : Lock} {rest : List (LockAction Lock)} {held : List Lock}
      (free : Free (before ++ ⟨.acquire lock :: rest, held⟩ :: after) lock) :
      Step allowed (before ++ ⟨.acquire lock :: rest, held⟩ :: after) ()
        (before ++ ⟨rest, lock :: held⟩ :: after)
  | release {after : LockSystem Lock} {lock : Lock} {rest : List (LockAction Lock)} {held : List Lock} :
      Step allowed (before ++ ⟨.release lock :: rest, held⟩ :: after) ()
        (before ++ ⟨rest, held.erase lock⟩ :: after)

/-- A system that threads of the allowed code can get into. -/
def Reachable (allowed : LockCode Lock -> Prop) (system : LockSystem Lock) : Prop :=
  ∃ events, Run (Step allowed) [] events system

omit [DecidableEq Lock]

/-- A thread waits for a lock. -/
def Awaits (system : LockSystem Lock) (index : Nat) (lock : Lock) : Prop :=
  ∃ rest held, system[index]? = some ⟨.acquire lock :: rest, held⟩

/-- A thread waits for a lock that another one, or the same one, holds. -/
def WaitsFor (system : LockSystem Lock) (index other : Nat) : Prop :=
  ∃ lock thread, system.Awaits index lock /\ system[other]? = some thread /\ lock ∈ thread.held

/-- Threads each of which waits for the next. -/
def Deadlocked (system : LockSystem Lock) : Prop :=
  ∃ index, Relation.TransGen system.WaitsFor index index

/-- Two threads that each hold what the other waits for. -/
theorem deadlocked_pair {firstLock secondLock : Lock} {firstRest secondRest : List (LockAction Lock)}
    {firstHeld secondHeld : List Lock} (firstHolds : firstLock ∈ firstHeld)
    (secondHolds : secondLock ∈ secondHeld) :
    LockSystem.Deadlocked
      [⟨.acquire secondLock :: firstRest, firstHeld⟩, ⟨.acquire firstLock :: secondRest, secondHeld⟩] := by
  refine ⟨0, .tail (.single (b := 1) ?_) ?_⟩
  · exact ⟨secondLock, _, ⟨firstRest, _, rfl⟩, rfl, secondHolds⟩
  · exact ⟨firstLock, _, ⟨secondRest, _, rfl⟩, rfl, firstHolds⟩

end LockSystem

/-! ## Ranks -/

section Ranks

variable {Rank : Type v} [Preorder Rank] (rank : Lock -> Rank)

/-- Locks are taken in the order of their ranks. -/
def LockCode.Ordered : List Lock -> LockCode Lock -> Prop
  | _, .skip => True
  | held, .hold lock body => (∀ other ∈ held, rank other < rank lock) /\ body.Ordered (lock :: held)
  | held, .seq first second => first.Ordered held /\ second.Ordered held
  | held, .either first second => first.Ordered held /\ second.Ordered held
  | held, .many body => body.Ordered held

variable {rank}
variable (held : List Lock)

@[simp] theorem LockCode.ordered_skip : skip.Ordered rank held :=
  trivial

@[simp] theorem LockCode.ordered_hold (lock : Lock) (body : LockCode Lock) :
    (hold lock body).Ordered rank held <->
      (∀ other ∈ held, rank other < rank lock) /\ body.Ordered rank (lock :: held) :=
  Iff.rfl

@[simp] theorem LockCode.ordered_seq (first second : LockCode Lock) :
    (seq first second).Ordered rank held <->
      first.Ordered rank held /\ second.Ordered rank held :=
  Iff.rfl

@[simp] theorem LockCode.ordered_either (first second : LockCode Lock) :
    (either first second).Ordered rank held <->
      first.Ordered rank held /\ second.Ordered rank held :=
  Iff.rfl

@[simp] theorem LockCode.ordered_many (body : LockCode Lock) :
    (many body).Ordered rank held <-> body.Ordered rank held :=
  Iff.rfl

@[simp] theorem LockCode.ordered_touch (lock : Lock) :
    (touch lock).Ordered rank held <-> ∀ other ∈ held, rank other < rank lock :=
  and_iff_left trivial

@[simp] theorem LockCode.ordered_maybe (body : LockCode Lock) :
    (maybe body).Ordered rank held <-> body.Ordered rank held :=
  and_iff_left trivial

@[simp] theorem LockCode.ordered_steps (codes : List (LockCode Lock)) :
    (steps codes).Ordered rank held <-> ∀ code ∈ codes, code.Ordered rank held := by
  induction codes with
  | nil => simp [steps]
  | cons first rest ih =>
    rw [forall_mem_cons, <- ih]
    rfl

variable (rank) [DecidableEq Lock]

/-- The same for the rest of a sequence. -/
def OrderedTrace : List Lock -> List (LockAction Lock) -> Prop
  | _, [] => True
  | held, .acquire lock :: rest =>
    (∀ other ∈ held, rank other < rank lock) /\ OrderedTrace (lock :: held) rest
  | held, .release lock :: rest => OrderedTrace (held.erase lock) rest

variable {rank}

theorem LockCode.Performs.ordered {code : LockCode Lock} (performs : code.Performs trace) :
    ∀ {held : List Lock} {rest : List (LockAction Lock)}, code.Ordered rank held ->
      OrderedTrace rank held rest -> OrderedTrace rank held (trace ++ rest) := by
  induction performs with
  | skip | none =>
    intro held rest _ remaining
    exact remaining
  | @hold lock body trace _ ih =>
    intro held rest ordered remaining
    rw [cons_append, append_assoc]
    refine ⟨ordered.1, ih ordered.2 ?_⟩
    change OrderedTrace rank ((lock :: held).erase lock) rest
    rwa [erase_cons_head]
  | seq _ _ firstHypothesis secondHypothesis =>
    intro held rest ordered remaining
    rw [append_assoc]
    exact firstHypothesis ordered.1 (secondHypothesis ordered.2 remaining)
  | left _ ih =>
    intro held rest ordered remaining
    exact ih ordered.1 remaining
  | right _ ih =>
    intro held rest ordered remaining
    exact ih ordered.2 remaining
  | again _ _ firstHypothesis restHypothesis =>
    intro held rest ordered remaining
    rw [append_assoc]
    exact firstHypothesis ordered (restHypothesis ordered remaining)

namespace LockSystem

/-- Every thread takes its remaining locks in the order of their ranks. -/
def Ordered (rank : Lock -> Rank) (system : LockSystem Lock) : Prop :=
  ∀ thread ∈ system, OrderedTrace rank thread.held thread.rest

variable {allowed : LockCode Lock -> Prop} {system : LockSystem Lock}

theorem Step.ordered (ordered : ∀ code, allowed code -> code.Ordered rank [])
    {before after : LockSystem Lock} {event : Unit} (holds : before.Ordered rank)
    (step : Step allowed before event after) :
    after.Ordered rank := by
  cases step with
  | @start _ code trace permitted performs =>
    intro thread mem
    rcases mem_append.mp mem with old | new
    · exact holds thread old
    · rcases mem_singleton.mp new with rfl
      have finished : OrderedTrace rank [] (trace ++ []) :=
        performs.ordered (ordered code permitted) trivial
      rwa [append_nil] at finished
  | @acquire front back lock rest held _ =>
    intro thread mem
    rcases mem_append.mp mem with old | later
    · exact holds thread (mem_append_left _ old)
    · rcases mem_cons.mp later with rfl | old
      · exact (holds ⟨.acquire lock :: rest, held⟩ (mem_append_right _ mem_cons_self)).2
      · exact holds thread (mem_append_right _ (mem_cons_of_mem _ old))
  | @release front back lock rest held =>
    intro thread mem
    rcases mem_append.mp mem with old | later
    · exact holds thread (mem_append_left _ old)
    · rcases mem_cons.mp later with rfl | old
      · exact holds ⟨.release lock :: rest, held⟩ (mem_append_right _ mem_cons_self)
      · exact holds thread (mem_append_right _ (mem_cons_of_mem _ old))

theorem Reachable.ordered (ordered : ∀ code, allowed code -> code.Ordered rank [])
    (reachable : Reachable allowed system) : system.Ordered rank := by
  rcases reachable with ⟨_, run⟩
  refine run.invariant ?_ ?_
  · intro before event after holds step
    exact step.ordered ordered holds
  · intro thread never
    cases never

/-- A waiting thread that is waited for waits for a lock of greater rank. -/
theorem Ordered.rank_lt {next : Lock} (ordered : system.Ordered rank)
    (holder : system[other]? = some thread) (held : lock ∈ thread.held)
    (awaits : system.Awaits other next) : rank lock < rank next := by
  rcases awaits with ⟨_, _, found⟩
  rw [holder] at found
  cases found
  exact (ordered _ (mem_of_getElem? holder)).1 lock held

theorem Ordered.rank_lt_of_transGen (ordered : system.Ordered rank)
    (chain : Relation.TransGen system.WaitsFor index other) :
    ∃ lock, system.Awaits index lock /\
      ∀ next, system.Awaits other next -> rank lock < rank next := by
  induction chain with
  | single waits =>
    rcases waits with ⟨lock, thread, awaits, holder, held⟩
    exact ⟨lock, awaits, fun next later => ordered.rank_lt holder held later⟩
  | tail _ waits ih =>
    rcases ih with ⟨lock, awaits, below⟩
    rcases waits with ⟨middle, _, awaitsMiddle, holder, held⟩
    exact ⟨lock, awaits, fun next later =>
      calc rank lock
        _ < rank middle := below middle awaitsMiddle
        _ < rank next := ordered.rank_lt holder held later⟩

/-- Code that takes its locks in the order of one rank never deadlocks. -/
theorem Reachable.not_deadlocked (ordered : ∀ code, allowed code -> code.Ordered rank [])
    (reachable : Reachable allowed system) : ¬ system.Deadlocked := by
  rintro ⟨index, cycle⟩
  rcases (reachable.ordered ordered).rank_lt_of_transGen cycle with ⟨lock, awaits, below⟩
  exact lt_irrefl _ (below lock awaits)

end LockSystem

end Ranks

/-! ## Two threads in each other's way -/

section Crossing

variable [DecidableEq Lock]

/-- The locks held after a sequence. -/
def heldAfter : List Lock -> List (LockAction Lock) -> List Lock
  | held, [] => held
  | held, .acquire lock :: rest => heldAfter (lock :: held) rest
  | held, .release lock :: rest => heldAfter (held.erase lock) rest

/-- The sequence can be performed while other threads hold the given locks. -/
def Unhindered (foreign : List Lock) : List Lock -> List (LockAction Lock) -> Prop
  | _, [] => True
  | held, .acquire lock :: rest =>
    lock ∉ foreign /\ lock ∉ held /\ Unhindered foreign (lock :: held) rest
  | held, .release lock :: rest => Unhindered foreign (held.erase lock) rest

namespace LockSystem

variable (allowed : LockCode Lock -> Prop)

/-- A thread goes on alone through a sequence that nobody hinders. -/
theorem advance (others : LockSystem Lock) (rest : List (LockAction Lock))
    (start : List (LockAction Lock)) :
    ∀ held, Unhindered (others.flatMap LockThread.held) held start ->
      ∃ events, Run (Step allowed) (others ++ [⟨start ++ rest, held⟩]) events
        (others ++ [⟨rest, heldAfter held start⟩]) := by
  induction start with
  | nil =>
    intro held _
    exact ⟨[], .nil⟩
  | cons action later ih =>
    intro held clear
    cases action with
    | acquire =>
      rcases ih _ clear.2.2 with ⟨events, run⟩
      refine ⟨[()] ++ events, Run.append (.single ?_) run⟩
      refine .acquire ?_
      intro thread mem
      rcases mem_append.mp mem with other | own
      · intro held
        exact clear.1 (mem_flatMap.mpr ⟨thread, other, held⟩)
      · rcases mem_singleton.mp own with rfl
        exact clear.2.1
    | release =>
      rcases ih _ clear with ⟨events, run⟩
      exact ⟨[()] ++ events, Run.append (.single .release) run⟩

variable {allowed}

/-- Two pieces of code that each can hold what the other takes next. -/
theorem reachable_deadlock (firstAllowed : allowed first) (secondAllowed : allowed second)
    (firstBegins : first.Begins (firstStart ++ [.acquire secondLock]))
    (secondBegins : second.Begins (secondStart ++ [.acquire firstLock]))
    (firstClear : Unhindered [] [] firstStart)
    (secondClear : Unhindered (heldAfter [] firstStart) [] secondStart)
    (firstHolds : firstLock ∈ heldAfter [] firstStart)
    (secondHolds : secondLock ∈ heldAfter [] secondStart) :
    ∃ system, Reachable allowed system /\ system.Deadlocked := by
  rcases firstBegins with ⟨firstRest, firstPerforms⟩
  rcases secondBegins with ⟨secondRest, secondPerforms⟩
  rw [append_assoc] at firstPerforms secondPerforms
  let waitingFirst : LockThread Lock := ⟨.acquire secondLock :: firstRest, heldAfter [] firstStart⟩
  rcases advance allowed [] ([.acquire secondLock] ++ firstRest) firstStart []
      firstClear with ⟨_, firstRun⟩
  rcases advance allowed [waitingFirst] ([.acquire firstLock] ++ secondRest)
      secondStart [] (by simpa [waitingFirst] using secondClear) with ⟨_, secondRun⟩
  have startFirst : Run (Step allowed) [] [()] [⟨firstStart ++ ([.acquire secondLock] ++ firstRest), []⟩] :=
    .single (.start firstAllowed firstPerforms)
  have startSecond : Run (Step allowed) [waitingFirst] [()]
      [waitingFirst, ⟨secondStart ++ ([.acquire firstLock] ++ secondRest), []⟩] :=
    .single (.start secondAllowed secondPerforms)
  exact ⟨_, ⟨_, ((startFirst.append firstRun).append startSecond).append secondRun⟩,
    deadlocked_pair firstHolds secondHolds⟩

end LockSystem

end Crossing

end ControlVault.Foundation
