import ControlVault.Audit.Opening
import ControlVault.Foundation.Run

namespace ControlVault.Audit

open Foundation Directory Table

/-!
# Runs of the audit log

The daemon opens the gate, records events and drops the gate, in any order that
makes sense, and it may crash at any point of opening and recording.  A run
starts with an empty directory.  A record is acknowledged when `record` returned
a receipt; the invariant at the end of this file says that whatever happened, the
directory still holds every acknowledged record, unless a crash tore the header of
a new segment.
-/

structure AuditState where
  gate : Option AuditGate
  directory : Directory

inductive AuditAction
  | opened (maxSize : Nat) (clock : Clock)
      (performed : Performed (Except AuditError AuditGate))
  | recorded (event : AuditEvent) (now : UInt64) (result : Except AuditError AuditReceipt)
  | dropped
  | crashed

inductive AuditStep (host : Host) : AuditState -> AuditAction -> AuditState -> Prop
  | opened (dir : Directory) (maxSize : Nat) (clock : Clock)
      {performed : Performed (Except AuditError AuditGate)} :
      openGate host dir maxSize clock = performed ->
        AuditStep host ⟨none, dir⟩ (.opened maxSize clock performed)
          ⟨performed.result.toOption, dir.applyAll performed.operations⟩
  | recorded (gate : AuditGate) (dir : Directory) (event : AuditEvent) (now : UInt64)
      {ops : List FileOperation} {result : Except AuditError AuditReceipt}
      {left : AuditGate} :
      record host gate dir event now = ⟨ops, result, left⟩ ->
        AuditStep host ⟨some gate, dir⟩ (.recorded event now result)
          ⟨some left, dir.applyAll ops⟩
  | dropped (gate : Option AuditGate) (dir : Directory) :
      AuditStep host ⟨gate, dir⟩ .dropped ⟨none, dir⟩
  | crashedOpening (maxSize : Nat) (clock : Clock) :
      Interrupted dir (openGate host dir maxSize clock).operations left ->
        AuditStep host ⟨none, dir⟩ .crashed ⟨none, left⟩
  | crashedRecording {gate : AuditGate} {dir left : Directory} (event : AuditEvent)
      (now : UInt64) :
      Interrupted dir (record host gate dir event now).operations left ->
        AuditStep host ⟨some gate, dir⟩ .crashed ⟨none, left⟩

def newLog : AuditState :=
  ⟨none, empty⟩

/-- Runs of the audit log from an empty directory. -/
abbrev Sessions (host : Host) (events : List AuditAction) (state : AuditState) : Prop :=
  Run (AuditStep host) newLog events state

/-! ## Acknowledged records -/

structure Acknowledgement where
  event : AuditEvent
  monotonicMs : UInt64
  receipt : AuditReceipt

def AuditAction.acknowledgement : AuditAction -> Option Acknowledgement
  | recorded event now (.ok receipt) => some ⟨event, now, receipt⟩
  | _ => none

/-- The records that were acknowledged in a run, oldest first. -/
def acknowledged (events : List AuditAction) : List Acknowledgement :=
  events.filterMap AuditAction.acknowledgement

/-- The frame is the acknowledged record. -/
structure Acknowledgement.Names (acknowledgement : Acknowledgement) (frame : DecodedFrame) :
    Prop where
  sequence : frame.sequence = acknowledgement.receipt.sequence
  hash : frame.currentHash = acknowledgement.receipt.hash
  payload : frame.payload = acknowledgement.event.json
  wallTimeMs : frame.wallTimeMs = acknowledgement.event.timestampMs.toNat
  monotonicMs : frame.monotonicMs = acknowledgement.monotonicMs.toNat

/-- Every acknowledged record is at its place in a chain. -/
def Holds (frames : List DecodedFrame) (acks : List Acknowledgement) : Prop :=
  ∀ acknowledgement ∈ acks, ∃ frame,
    frames[acknowledgement.receipt.sequence - 1]? = some frame /\ acknowledgement.Names frame

variable {frames more : List DecodedFrame} {event : AuditAction} {events : List AuditAction}
  {dir : Directory} {gate : AuditGate} {now : UInt64}

theorem Holds.longer (holds : Holds frames acks) (included : frames <+: more) :
    Holds more acks := by
  rcases included with ⟨_, rfl⟩
  intro acknowledgement mem
  rcases holds acknowledgement mem with ⟨frame, place, names⟩
  refine ⟨frame, ?_, names⟩
  rw [List.getElem?_append_left (List.getElem?_eq_some_iff.mp place).1, place]

theorem acknowledged_snoc (events : List AuditAction) (event : AuditAction) :
    acknowledged (events ++ [event]) = acknowledged events ++ event.acknowledgement.toList := by
  rw [acknowledged, acknowledged]
  cases found : event.acknowledgement <;> simp [found]

theorem acknowledged_snoc_none (silent : event.acknowledgement = none) :
    acknowledged (events ++ [event]) = acknowledged events := by
  rw [acknowledged_snoc, silent, Option.toList_none, List.append_nil]

theorem nextFrame_names (host : Host) (gate : AuditGate) (event : AuditEvent)
    (now : UInt64) :
    Acknowledgement.Names
      ⟨event, now, gate.sequence + 1, (nextFrame host gate event now).currentHash⟩
      (nextFrame host gate event now) :=
  ⟨rfl, rfl, rfl, rfl, rfl⟩

/-! ## No acknowledged record is lost -/

variable {host : Host}

theorem Recoverable.shorter (recoverable : Recoverable host dir more) (included : frames <+: more) :
    Recoverable host dir frames := by
  rcases recoverable with ⟨segs, tail, anchor, disk, noFrame, behind, kept⟩
  exact ⟨segs, tail, anchor, disk, noFrame, behind, included.trans kept⟩

/-- What an open gate and its directory keep of a chain.  A broken gate writes no more. -/
def Working (host : Host) (gate : AuditGate) (dir : Directory)
    (frames : List DecodedFrame) : Prop :=
  (∃ segs anchor, Healthy host gate dir segs anchor /\ frames <+: segs.flatten) ∨
    gate.circuitBroken = true /\ Recoverable host dir frames

/-- What a state keeps of a chain. -/
def AuditState.Keeps (host : Host) (frames : List DecodedFrame) (state : AuditState) : Prop :=
  match state.gate with
  | none => LeftBehind host state.directory frames
  | some gate => Working host gate state.directory frames

theorem record_broken (broken : gate.circuitBroken = true) (dir : Directory)
    (event : AuditEvent) (now : UInt64) :
    record host gate dir event now =
      ⟨[], .error circuitBroken, gate⟩ := by
  rw [record, if_pos broken]

section

variable (working : Working host gate dir frames)

include working

theorem Working.leftBehind : LeftBehind host dir frames := by
  rcases working with ⟨_, _, healthy, included⟩ | ⟨_, recoverable⟩
  · exact .inr (.inl ((healthy.disk.recoverable healthy.behind).shorter included))
  · exact .inr (.inl recoverable)

theorem Working.interrupted {left : Directory} {event : AuditEvent}
    (interrupted : Interrupted dir (record host gate dir event now).operations
      left) : LeftBehind host left frames := by
  rcases working with ⟨_, _, healthy, included⟩ | ⟨broken, recoverable⟩
  · rcases healthy.record_interrupted interrupted with torn | recoverable
    · exact .inl torn
    · exact .inr (.inl (recoverable.shorter included))
  · rw [record_broken broken] at interrupted
    rw [interrupted.of_nil]
    exact .inr (.inl recoverable)

/-- A record that is not acknowledged keeps the chain; an acknowledged one is added to it. -/
theorem Working.recorded {left : AuditGate} {event : AuditEvent} {ops : List FileOperation}
    {result : Except AuditError AuditReceipt}
    (recorded : record host gate dir event now = ⟨ops, result, left⟩) :
    (∃ error, result = .error error /\ Working host left (dir.applyAll ops) frames) ∨
      ∃ receipt more frame, result = .ok receipt /\
        Working host left (dir.applyAll ops) (more ++ [frame]) /\
          frames <+: more /\ more.length + 1 = receipt.sequence /\
            Acknowledgement.Names ⟨event, now, receipt⟩ frame := by
  rcases working with ⟨segs, anchor, healthy, included⟩ | ⟨broken, recoverable⟩
  · by_cases admissible : Admissible gate event
    · rcases admissible.small_or_overlong with small | overlong
      · rcases healthy.record_accepted small admissible.sequence now with
          ⟨_, _, newSegments, accepted, after, grown, _⟩
        rw [recorded] at accepted
        cases accepted
        refine .inr ⟨_, segs.flatten, _, rfl, .inl ⟨newSegments, _, after, ?_⟩, included, ?_,
          nextFrame_names host gate event now⟩
        · exact grown ▸ List.prefix_rfl
        · rw [<- healthy.current.sequence]
      · rcases healthy.record_overlong admissible overlong now with
          ⟨_, _, _, failed, broken, disk, behind, same⟩
        rw [recorded] at failed
        cases failed
        have recoverable := disk.recoverable behind
        rw [same] at recoverable
        exact .inl ⟨_, rfl, .inr ⟨broken, recoverable.shorter included⟩⟩
    · rcases record_refused host dir healthy.current.closed admissible now with
        ⟨_, _, refused⟩
      rw [recorded] at refused
      cases refused
      exact .inl ⟨_, rfl, .inl ⟨segs, anchor, healthy, included⟩⟩
  · rw [record_broken broken] at recorded
    cases recorded
    exact .inl ⟨_, rfl, .inr ⟨broken, recoverable⟩⟩

end

/-- One step keeps every record that was acknowledged before it, and the one it acknowledges. -/
theorem AuditStep.keeps {before after : AuditState} (step : AuditStep host before event after)
    (keeps : before.Keeps host frames) (holds : Holds frames (acknowledged events)) :
    ∃ more, after.Keeps host more /\ Holds more (acknowledged (events ++ [event])) := by
  cases step with
  | @opened dir maxSize clock performed opening =>
    rw [acknowledged_snoc_none rfl]
    have leftBehind : LeftBehind host dir frames := keeps
    rcases leftBehind.opens maxSize clock with
      ⟨_, ops, gate, segs, anchor, opened, healthy, included⟩ |
        ⟨_, ops, error, failed⟩
    · rw [opening] at opened
      subst opened
      exact ⟨frames, .inl ⟨segs, anchor, healthy, included⟩, holds⟩
    · have completed := leftBehind.interrupted (Interrupted.complete dir
        (openGate host dir maxSize clock).operations)
      rw [opening] at failed completed
      subst failed
      exact ⟨frames, completed, holds⟩
  | @recorded gate dir event now ops result left recording =>
    have working : Working host gate dir frames := keeps
    rcases working.recorded recording with
      ⟨_, rfl, after⟩ | ⟨_, more, frame, rfl, after, included, number, names⟩
    · rw [acknowledged_snoc_none rfl]
      exact ⟨frames, after, holds⟩
    · refine ⟨more ++ [frame], after, ?_⟩
      rw [acknowledged_snoc]
      intro acknowledgement mem
      rcases List.mem_append.mp mem with earlier | new
      · exact holds.longer (included.trans (List.prefix_append _ _)) acknowledgement earlier
      · rcases List.mem_singleton.mp new with rfl
        refine ⟨frame, ?_, names⟩
        rw [<- number, Nat.add_sub_cancel, List.getElem?_concat_length]
  | dropped gate =>
    rw [acknowledged_snoc_none rfl]
    refine ⟨frames, ?_, holds⟩
    cases gate with
    | none => exact keeps
    | some => exact Working.leftBehind keeps
  | crashedOpening maxSize clock interrupted =>
    rw [acknowledged_snoc_none rfl]
    exact ⟨frames, LeftBehind.interrupted keeps interrupted, holds⟩
  | crashedRecording event now interrupted =>
    rw [acknowledged_snoc_none rfl]
    exact ⟨frames, Working.interrupted keeps interrupted, holds⟩

/-- In every state of a run all acknowledged records are kept. -/
theorem sessions_keep (run : Sessions host events state) :
    ∃ frames, state.Keeps host frames /\ Holds frames (acknowledged events) := by
  induction run with
  | nil => exact ⟨[], .inr (.inr ⟨rfl, rfl⟩), nofun⟩
  | snoc _ step ih =>
    rcases ih with ⟨_, keeps, holds⟩
    exact step.keeps keeps holds

/-! ## A small run -/

def sampleEvent : AuditEvent :=
  ⟨1700000000000, [0x7b, 0x7d], by decide⟩

/-- A new log with room for one such event in a segment. -/
def sampleDirectory : Directory :=
  Directory.applyAll empty (openGate sampleHost empty 200 ⟨0, 0⟩).operations

def sampleRecord : Performed (Except AuditError AuditReceipt × AuditGate) :=
  record sampleHost (initialGate 200) sampleDirectory sampleEvent 7

def sampleGate : AuditGate :=
  sampleRecord.result.2

/-- The log once the event is recorded. -/
def sampleLog : Directory :=
  sampleDirectory.applyAll sampleRecord.operations

def sampleEvents : List AuditAction :=
  [.opened 200 ⟨0, 0⟩ (openGate sampleHost empty 200 ⟨0, 0⟩),
    .recorded sampleEvent 7 sampleRecord.result.1]

theorem sampleOpened_step :
    AuditStep sampleHost newLog (.opened 200 ⟨0, 0⟩ (openGate sampleHost empty 200 ⟨0, 0⟩))
      ⟨some (initialGate 200), sampleDirectory⟩ :=
  .opened empty 200 ⟨0, 0⟩ rfl

theorem record_step (host : Host) (gate : AuditGate) (dir : Directory) (event : AuditEvent)
    (now : UInt64) :
    AuditStep host ⟨some gate, dir⟩
      (.recorded event now (record host gate dir event now).result.1)
      ⟨some (record host gate dir event now).result.2,
        dir.applyAll (record host gate dir event now).operations⟩ :=
  .recorded gate dir event now rfl

theorem sample_run : Sessions sampleHost sampleEvents ⟨some sampleGate, sampleLog⟩ := by
  have recorded : AuditStep sampleHost ⟨some (initialGate 200), sampleDirectory⟩
      (.recorded sampleEvent 7 sampleRecord.result.1) ⟨some sampleGate, sampleLog⟩ := by
    unfold sampleGate sampleLog sampleRecord
    exact record_step ..
  exact .snoc (.single sampleOpened_step) recorded

theorem sampleRecord_accepted : sampleRecord.result.1 =
    .ok ⟨1, (nextFrame sampleHost (initialGate 200) sampleEvent 7).currentHash⟩ := by
  decide +kernel

theorem sample_acknowledged : acknowledged sampleEvents ≠ [] := by
  rw [sampleEvents, sampleRecord_accepted]
  exact List.cons_ne_nil _ _

end ControlVault.Audit
