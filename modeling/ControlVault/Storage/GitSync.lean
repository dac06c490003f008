import ControlVault.Foundation.Text

namespace ControlVault.Storage

open Foundation

/-!
# Git transactions of the pass store

Operations may nest, and an implicit one is opened only outside all others.  The
first access inside the outermost operation pulls, and its end commits and pushes
if something was changed.  Every call holds the mutex of the state, so a run is a
list of calls.  The outcome of a pull is only logged; that of a push is an
argument of the call that ends the operation.
-/

structure SyncState where
  enabled : Bool
  depth : Nat
  (prepared dirty : Bool)
  messages : List Text

inductive GitAct
  | prepare
  | finalize (message : Text) (succeeded : Bool)

inductive SyncCall
  | beginOperation
  | beginImplicitOperation
  | prepareIfNeeded
  | markDirty (message : Text)
  | endOperation (pushed : Bool)

namespace SyncState

variable (state : SyncState)

def new (enabled : Bool) : SyncState :=
  ⟨enabled, 0, false, false, []⟩

def beginOperation : SyncState :=
  if !state.enabled then state
  else { state with
    prepared := state.depth != 0 && state.prepared
    depth := state.depth + 1 }

/-- The answer says whether the caller has to end the operation. -/
def beginImplicitOperation : Bool × SyncState :=
  if !state.enabled || state.depth != 0 then (false, state)
  else (true, { state with depth := 1, prepared := false })

def prepareIfNeeded : List GitAct × SyncState :=
  if !state.enabled || state.depth == 0 || state.prepared then ([], state)
  else ([.prepare], { state with prepared := true })

def markDirty (message : Text) : SyncState :=
  if !state.enabled then state
  else { state with
    dirty := true
    messages :=
      if state.messages.contains message then state.messages else state.messages ++ [message] }

def finalizeMessage : List Text -> Text
  | [only] => only
  | _ => "Update Passless authenticator state."

def endOperation (pushed : Bool) : List GitAct × SyncState :=
  if !state.enabled || state.depth == 0 then ([], state)
  else if state.depth - 1 != 0 then ([], { state with depth := state.depth - 1 })
  else if !state.dirty then ([], { state with depth := 0, prepared := false, messages := [] })
  else
    ((if state.prepared then [] else [.prepare]) ++
        [.finalize (finalizeMessage state.messages) pushed],
      { state with
        depth := 0
        prepared := false
        dirty := !pushed
        messages := if pushed then [] else state.messages })

def step : SyncCall -> List GitAct × SyncState
  | .beginOperation => ([], state.beginOperation)
  | .beginImplicitOperation => ([], state.beginImplicitOperation.2)
  | .prepareIfNeeded => state.prepareIfNeeded
  | .markDirty message => ([], state.markDirty message)
  | .endOperation pushed => state.endOperation pushed

/-- Everything that the calls do to the repository, and the state after them. -/
def run (state : SyncState) : List SyncCall -> List GitAct × SyncState
  | [] => ([], state)
  | call :: rest => ((state.step call).1 ++ ((state.step call).2.run rest).1,
      ((state.step call).2.run rest).2)

/-- Between the calls some operation is open, so at most one is outermost. -/
def Busy (state : SyncState) : List SyncCall -> Prop
  | [] => True
  | [_] => True
  | call :: rest => (state.step call).2.depth ≠ 0 /\ (state.step call).2.Busy rest

/-- At most one pull, and after it at most one push, which ends the operation. -/
def Disciplined (outcome : List GitAct × SyncState) : Prop :=
  outcome.1 = [] ∨ outcome.1 = [.prepare] ∨
    ∃ message pushed, outcome.1 = [.prepare, .finalize message pushed] /\ outcome.2.depth = 0

/-- What the open operation did so far. -/
@[mk_iff inside_iff] structure Inside (acts : List GitAct) (state : SyncState) : Prop where
  busy : state.depth ≠ 0
  acts_eq : acts = if state.prepared then [.prepare] else []

variable {state : SyncState}

/-- A call inside an operation stays inside or ends it. -/
theorem Inside.step (inside : Inside acts state) (call : SyncCall) :
    Disciplined (acts ++ (state.step call).1, (state.step call).2) /\
      ((state.step call).2.depth ≠ 0 ->
        Inside (acts ++ (state.step call).1) (state.step call).2) := by
  rcases state with ⟨enabled, depth, prepared, dirty, messages⟩
  cases call with
  | endOperation pushed =>
    by_cases outermost : depth - 1 = 0 <;> cases enabled <;> cases prepared <;> cases dirty <;>
      simp_all [step, endOperation, Disciplined, inside_iff]
  | _ =>
    cases enabled <;> cases prepared <;>
      simp_all [step, beginOperation, beginImplicitOperation, prepareIfNeeded, markDirty,
        Disciplined, inside_iff]

theorem Inside.run (inside : Inside acts state) (busy : state.Busy (call :: rest)) :
    Disciplined (acts ++ (state.run (call :: rest)).1, (state.run (call :: rest)).2) := by
  induction rest generalizing state acts call with
  | nil => simpa [run] using (inside.step call).1
  | cons next rest ih =>
    have later := ih ((inside.step call).2 busy.1) busy.2
    rwa [List.append_assoc] at later

/-- Outside all operations a call touches nothing, and a new operation has done nothing yet. -/
theorem step_of_idle (idle : state.depth = 0) (call : SyncCall) :
    (state.step call).1 = [] /\
      ((state.step call).2.depth ≠ 0 -> Inside [] (state.step call).2) := by
  rcases state with ⟨enabled, depth, prepared, dirty, messages⟩
  cases call <;> cases enabled <;>
    simp_all [step, beginOperation, beginImplicitOperation, prepareIfNeeded, markDirty,
      endOperation, inside_iff]

theorem run_of_idle (idle : state.depth = 0) (busy : state.Busy calls) :
    Disciplined (state.run calls) := by
  cases calls with
  | nil => exact .inl rfl
  | cons call rest =>
    rcases step_of_idle idle call with ⟨nothing, opened⟩
    cases rest with
    | nil => exact .inl (by simp [run, nothing])
    | cons next rest =>
      have inside := (opened busy.1).run busy.2
      rwa [<- nothing] at inside

/-- Only a push that succeeds clears the mark. -/
theorem step_dirty (dirty : state.dirty = true) (call : SyncCall) :
    (state.step call).2.dirty = true ∨ ∃ message, .finalize message true ∈ (state.step call).1 := by
  cases call with
  | endOperation pushed =>
    unfold step endOperation
    cases pushed <;> split_ifs <;> simp_all
  | _ =>
    simp only [step, beginOperation, beginImplicitOperation, prepareIfNeeded, markDirty]
    split_ifs <;> simp_all

theorem run_dirty (dirty : state.dirty = true) (calls : List SyncCall) :
    (state.run calls).2.dirty = true ∨ ∃ message, .finalize message true ∈ (state.run calls).1 := by
  induction calls generalizing state with
  | nil => exact .inl dirty
  | cons call rest ih =>
    rcases step_dirty dirty call with still | ⟨message, pushed⟩
    · rcases ih still with still | ⟨message, pushed⟩
      · exact .inl still
      · exact .inr ⟨message, List.mem_append_right _ pushed⟩
    · exact .inr ⟨message, List.mem_append_left _ pushed⟩

/-- An outermost operation pulls at most once and pushes at most once, at its end and after the
pull; and a change is marked until a push after it succeeded. -/
theorem transactions_disciplined (state : SyncState) (calls : List SyncCall) :
    (state.depth = 0 -> state.Busy calls -> Disciplined (state.run calls)) /\
      ∀ change, state.enabled = true ->
        ((state.markDirty change).run calls).2.dirty = true ∨
          ∃ message, .finalize message true ∈ ((state.markDirty change).run calls).1 := by
  refine ⟨fun idle busy => run_of_idle idle busy, ?_⟩
  intro change enabled
  exact run_dirty (by simp [markDirty, enabled]) calls

/-- An operation with another one inside. -/
def nestedCalls : List SyncCall :=
  [.beginOperation, .markDirty "PIN", .beginOperation, .endOperation true, .endOperation true]

/-- The inner operation neither prepares nor finalizes a second time. -/
theorem nested_calls_disciplined :
    (new true).run nestedCalls = ([.prepare, .finalize "PIN" true], new true) /\
      Disciplined ((new true).run nestedCalls) :=
  ⟨rfl, (transactions_disciplined _ _).1 rfl ⟨by decide, by decide, by decide, by decide, trivial⟩⟩

end SyncState

end ControlVault.Storage
