import Mathlib.Data.List.Basic

namespace ControlVault.Foundation

open List

/-!
# Finite runs of a labelled transition system

A run records its events, oldest first.  Safety statements about the daemon
are statements about the event list and the state reached, so the induction
rules below carry both: an invariant may mention everything that happened
before.  Rules that depend on an assumption about the events, such as fresh
identifiers, take a predicate that every prefix inherits.
-/

universe u v

variable {State : Type u} {Event : Type v}

/-- Runs from a fixed state, extended by one event at the end. -/
inductive Run (step : State -> Event -> State -> Prop) (start : State) :
    List Event -> State -> Prop
  | nil : Run step start [] start
  | snoc {middle finish : State} {events : List Event} {event : Event} :
      Run step start events middle -> step middle event finish ->
        Run step start (events ++ [event]) finish

namespace Run

variable {step : State -> Event -> State -> Prop} {start : State} {event : Event} {finish : State}
  {events : List Event}

theorem single (taken : step start event finish) : Run step start [event] finish := by
  exact .snoc .nil taken

theorem append (before : Run step start first middle) (after : Run step middle second finish) :
    Run step start (first ++ second) finish := by
  induction after with
  | nil => rwa [append_nil]
  | snoc _ last ih =>
    rw [<- append_assoc]
    exact .snoc ih last

section

variable (run : Run step start events finish)

include run

theorem split :
    ∀ first second, events = first ++ second ->
      ∃ middle, Run step start first middle /\ Run step middle second finish := by
  induction run with
  | nil =>
    intro first second same
    rcases append_eq_nil_iff.mp same.symm with ⟨rfl, rfl⟩
    exact ⟨start, .nil, .nil⟩
  | @snoc middle finish events event initial last ih =>
    intro first second same
    rcases eq_nil_or_concat second with rfl | ⟨earlier, _, rfl⟩
    · rw [append_nil] at same
      subst same
      exact ⟨finish, .snoc initial last, .nil⟩
    · rw [concat_eq_append, <- append_assoc] at same
      rcases append_inj' same rfl with ⟨prefixSame, lastSame⟩
      cases lastSame
      rcases ih first earlier prefixSame with ⟨cut, before, after⟩
      refine ⟨cut, before, ?_⟩
      rw [concat_eq_append]
      exact .snoc after last

theorem of_nil (empty : events = []) : finish = start := by
  cases run with
  | nil => rfl
  | snoc _ _ => exact absurd empty (by simp)

theorem of_single (one : events = [event]) : step start event finish := by
  cases run with
  | nil => exact absurd one.symm (cons_ne_nil _ _)
  | @snoc middle _ earlier last initial taken =>
    rcases append_inj' (one.trans (nil_append [event]).symm) rfl with ⟨empty, same⟩
    cases same
    rwa [initial.of_nil empty] at taken

end

/-- A run with a named event in the middle passes through the two states around it. -/
theorem split_at (run : Run step start (first ++ event :: second) finish) :
    ∃ before after, Run step start first before /\ step before event after /\
      Run step after second finish := by
  rcases run.split first (event :: second) rfl with ⟨before, initial, rest⟩
  rcases rest.split [event] second rfl with ⟨after, one, remaining⟩
  exact ⟨before, after, initial, one.of_single rfl, remaining⟩

section

variable (run : Run step start events finish)

include run

/-- Every event of a run happened between two states of the run. -/
theorem mem_split (mem : event ∈ events) :
    ∃ first second before after, events = first ++ event :: second /\ Run step start first before /\
      step before event after /\ Run step after second finish := by
  rcases append_of_mem mem with ⟨first, second, rfl⟩
  rcases run.split_at with ⟨before, after, initial, taken, rest⟩
  exact ⟨first, second, before, after, rfl, initial, taken, rest⟩

/-- The history rule.  The invariant may inspect the events so far, and the
assumption on events is available at every prefix of the run. -/
theorem history {allowed : List Event -> Prop} {invariant : List Event -> State -> Prop}
    (shorter : ∀ events event, allowed (events ++ [event]) -> allowed events)
    (initially : invariant [] start)
    (preserved : ∀ events event before after, allowed (events ++ [event]) ->
      Run step start events before -> invariant events before -> step before event after ->
        invariant (events ++ [event]) after) (permitted :
    allowed events) : invariant events finish := by
  induction run with
  | nil => exact initially
  | snoc initial last ih =>
    exact preserved _ _ _ _ permitted initial (ih (shorter _ _ permitted)) last

/-- A run of a system is a run of every system that permits more. -/
theorem imp
    (permitted : ∀ before event after, step before event after -> wider before event after) :
    Run wider start events finish := by
  induction run with
  | nil => exact .nil
  | snoc _ last ih => exact .snoc ih (permitted _ _ _ last)

/-- The plain invariant rule: preserved by each step, hence by every run. -/
theorem invariant {holds : State -> Prop}
    (preserved : ∀ before event after, holds before -> step before event after -> holds after)
    (initially : holds start) : holds finish := by
  induction run with
  | nil => exact initially
  | snoc _ last ih => exact preserved _ _ _ ih last

end

end Run

end ControlVault.Foundation
