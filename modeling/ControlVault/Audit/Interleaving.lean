import ControlVault.Audit.RoundTrip
import ControlVault.Audit.Threads

namespace ControlVault.Audit

open Foundation Directory DecodedFrame List

/-!
# Interleaved calls of `record`

The guards of `record` make a critical section of a call that does not rotate.  A call that rotates
leaves the section and comes back with the frame it built before, and in between another call may
write a record with the same number.  Also the rotation takes the guards in the opposite order.

While no call takes `sequence` for a new record between these two points, calls follow one another
as if the section had not been left, the frames on disk are one chain, and nobody waits in a cycle.
-/

variable {host : Host} {shared : SharedGate} {frame : DecodedFrame}

/-! ## The shared data at each stage -/

/-- The gate agrees with the log on disk; its breaker is left open. -/
structure Resting (host : Host) (shared : SharedGate) : Prop where
  writer : shared.writerName = shared.gate.segmentName
  healthy : ∃ segs anchor,
    Healthy host { shared.gate with circuitBroken := false } shared.directory segs anchor

/-- The frame is the next record of the gate. -/
def Fresh (host : Host) (gate : AuditGate) (frame : DecodedFrame) : Prop :=
  ∃ event now, Admissible gate event /\ frame = nextFrame host gate event now

variable {gate : AuditGate} {worker : Worker GateMutex RecordStage} {dir : Directory}
  {workshop : Workshop SharedGate GateMutex RecordStage}

theorem Fresh.congr {other : AuditGate} (fresh : Fresh host gate frame)
    (sequence : other.sequence = gate.sequence) (lastHash : other.lastHash = gate.lastHash) :
    Fresh host other frame := by
  rcases fresh with ⟨event, now, admissible, rfl⟩
  refine ⟨event, now, ⟨admissible.payload, ?_⟩, ?_⟩
  · rw [sequence]
    exact admissible.sequence
  · rw [nextFrame, nextFrame, sequence, lastHash]

/-- The anchor in memory plays no part. -/
theorem Resting.with_anchor (resting : Resting host shared) (anchor : AnchorState) :
    Resting host { shared with gate := { shared.gate with anchor } } := by
  rcases resting with ⟨writer, segs, old, disk, behind, current⟩
  exact ⟨writer, segs, old, disk, behind, current.segmentName, current.segmentIndex,
    current.writerOffset, current.sequence, current.lastHash, rfl⟩

/-- The shared data once all fields are switched to a new segment. -/
def SharedGate.settled (shared : SharedGate) (index : Nat) : SharedGate :=
  { shared with
    gate :=
      { shared.gate with
        segmentName := segmentName index
        writerOffset := headerSize
        segmentIndex := index }
    writerName := segmentName index }

/-- The new segment exists, and some fields are switched to it. -/
structure Switching (host : Host) (shared : SharedGate) (frame : DecodedFrame) (index : Nat) :
    Prop where
  resting : Resting host (shared.settled index)
  fresh : Fresh host shared.gate frame

/-- The frame is on disk, and `sequence` and `last_hash` are still those of the frame before. -/
structure Appended (host : Host) (shared : SharedGate) (frame : DecodedFrame) : Prop where
  writer : shared.writerName = shared.gate.segmentName
  log : ∃ before last anchor,
    Disk host shared.directory (before ++ [last ++ [frame]]) [] (some anchor) /\ Current
        { shared.gate with
          circuitBroken := false
          sequence := frame.sequence
          lastHash := frame.currentHash }
        (before ++ [last ++ [frame]])

/-- What a thread in the section finds when it reaches a stage. -/
def Progress (host : Host) (shared : SharedGate) : RecordStage -> Prop
  | .checking _ _ => False
  | .sealing event _ =>
    Resting host shared /\ event.json.length % 2 ^ 32 <= maxPayloadSize
  | .naming frame | .comparing frame _ | .creating frame | .switchingIno frame | .writing frame =>
    Resting host shared /\ Fresh host shared.gate frame
  | .switchingPath frame index | .switchingName frame index => Switching host shared frame index
  | .switchingWriter frame index offset =>
    Switching host shared frame index /\ shared.gate.segmentName = segmentName index /\
      offset = headerSize
  | .switchingIndex frame index =>
    Switching host shared frame index /\ shared.gate.segmentName = segmentName index /\
      shared.gate.writerOffset = headerSize /\ shared.writerName = segmentName index
  | .indexing frame => Appended host shared frame
  | .anchoring frame index => Appended host shared frame /\ index = shared.gate.segmentIndex
  | .keeping _ _ | .finished _ => Resting host shared

/-! ## The locks at each stage -/

/-- The mutexes that a thread holds when it reaches a stage. -/
def guardsAt : RecordStage -> List GateMutex
  | .checking _ _ | .finished _ => []
  | .sealing _ _ | .comparing _ _ | .writing _ | .anchoring _ _ => [.writer, .lastHash, .sequence]
  | .naming _ => [.segmentName, .writer, .lastHash, .sequence]
  | .creating _ => [.sequence, .lastHash, .writer, .segmentIndex]
  | .switchingPath _ _ => [.currentSegment, .sequence]
  | .switchingName _ _ => [.segmentName, .sequence]
  | .switchingWriter _ _ _ => [.writer, .sequence]
  | .switchingIndex _ _ => [.segmentIndex, .sequence]
  | .switchingIno _ => [.segmentFileIno, .sequence]
  | .indexing _ => [.segmentIndex, .writer, .lastHash, .sequence]
  | .keeping _ _ => [.anchor, .writer, .lastHash, .sequence]

/-- The ways to a stage for a thread that finds the data in order. -/
def recordRoutes : RecordStage -> List (List GateMutex × List (LockAction GateMutex))
  | .checking _ _ => []
  | .sealing _ _ => [([], takeGuards)]
  | .naming _ => [([.writer, .lastHash, .sequence], [.acquire .segmentName])]
  | .comparing _ _ =>
    [([.segmentName, .writer, .lastHash, .sequence], [.release .segmentName])]
  | .creating _ =>
    [([.writer, .lastHash, .sequence], dropGuards ++ [.acquire .segmentIndex, .acquire .writer,
      .acquire .lastHash, .acquire .sequence])]
  | .switchingPath _ _ =>
    [([.sequence, .lastHash, .writer, .segmentIndex], [.release .writer, .release .lastHash,
      .release .segmentIndex, .acquire .currentSegment])]
  | .switchingName _ _ =>
    [([.currentSegment, .sequence], [.release .currentSegment, .acquire .segmentName])]
  | .switchingWriter _ _ _ =>
    [([.segmentName, .sequence], [.release .segmentName, .acquire .writer])]
  | .switchingIndex _ _ => [([.writer, .sequence], [.release .writer, .acquire .segmentIndex])]
  | .switchingIno _ =>
    [([.segmentIndex, .sequence], [.release .segmentIndex, .acquire .segmentFileIno])]
  | .writing _ =>
    [([.writer, .lastHash, .sequence], []),
      ([.segmentFileIno, .sequence], [.release .segmentFileIno, .release .sequence] ++ takeGuards)]
  | .indexing _ => [([.writer, .lastHash, .sequence], [.acquire .segmentIndex])]
  | .anchoring _ _ =>
    [([.segmentIndex, .writer, .lastHash, .sequence], [.release .segmentIndex])]
  | .keeping _ _ => [([.writer, .lastHash, .sequence], [.acquire .anchor])]
  | .finished _ =>
    [([.writer, .lastHash, .sequence], dropGuards),
      ([.anchor, .writer, .lastHash, .sequence], .release .anchor :: dropGuards)]

theorem recordRoutes_arrive (stage : RecordStage) :
    ∀ route ∈ recordRoutes stage, heldAfter route.1 route.2 = guardsAt stage := by
  cases stage <;> dsimp only [recordRoutes, guardsAt] <;> decide

theorem recordRoutes_clear (stage : RecordStage) :
    ∀ route ∈ recordRoutes stage, Unhindered [] route.1 route.2 := by
  cases stage <;> simp [recordRoutes, takeGuards, dropGuards, Unhindered]

/-- The stages on the way to which a call gives `sequence` up and takes it again. -/
def RecordStage.rotating : RecordStage -> Bool
  | .creating _ | .writing _ => true
  | _ => false

/-- Behind the first action of a route `sequence` is held, except around a rotation and after the
last guard is dropped. -/
theorem recordRoutes_sequence (stage : RecordStage) :
    ∀ route ∈ recordRoutes stage, ∀ count < route.2.length,
      .sequence ∈ heldAfter route.1 (route.2.take (count + 1)) ∨ stage.rotating = true ∨
        route.2.drop (count + 1) = [] /\ guardsAt stage = [] := by
  cases stage <;> dsimp only [recordRoutes, guardsAt, RecordStage.rotating] <;> decide

/-! ## One stage -/

section

variable (resting : Resting host shared)

include resting

theorem Resting.length :
    (shared.directory.get shared.gate.segmentName).elim 0 (fun file => file.content.length) =
      shared.gate.writerOffset := by
  rcases resting.healthy with ⟨segs, _, healthy⟩
  rcases eq_nil_or_concat segs with rfl | ⟨_, _, rfl⟩
  · exact absurd rfl healthy.disk.stored.nonempty
  rw [concat_eq_append] at healthy
  rcases healthy.current.file with ⟨name, _, offset⟩
  have file := healthy.disk.stored.last_file
  rw [<- name] at file
  rw [file, Option.elim_some, append_nil, length_contentAfter]
  exact offset.symm

theorem Resting.startSegment_eq (fresh : Fresh host shared.gate frame) :
    ∃ dir, startSegment host shared frame = ⟨{ shared with directory := dir },
          [.release .writer, .release .lastHash, .release .segmentIndex, .acquire .currentSegment],
          .switchingPath frame (shared.gate.segmentIndex + 1)⟩ /\
      Switching host { shared with directory := dir } frame (shared.gate.segmentIndex + 1) := by
  rcases resting.healthy with ⟨segs, anchor, healthy⟩
  rcases fresh with ⟨event, now, admissible, same⟩
  have current := healthy.current
  have nonempty := healthy.disk.stored.nonempty
  have positive := length_pos_iff.mpr nonempty
  have next : shared.gate.segmentIndex + 1 = segs.length := by
    have index : shared.gate.segmentIndex = segs.length - 1 := current.segmentIndex
    omega
  have number : shared.gate.sequence = segs.flatten.length := current.sequence
  have hash : shared.gate.lastHash = finalHash 0 segs.flatten := current.lastHash
  have first : 1 + segs.flatten.length < 2 ^ 64 := by
    have room := admissible.sequence
    omega
  have absent : shared.directory.get (segmentName segs.length) = none := by
    rw [healthy.disk.stored.files, if_neg (lt_irrefl _)]
  have complete := healthy.disk.segment_complete first
  have settled := current.rotated nonempty
  refine ⟨shared.directory.applyAll (createSegment host (segmentName segs.length)
    (nextHeader segs)), ?_, ⟨rfl, segs ++ [[]], anchor, ?_, healthy.behind.add_segment,
      settled⟩, event, now, ⟨admissible.payload, admissible.sequence⟩, same⟩
  · rw [startSegment, next, absent, if_neg (by simp), nextHeader, headerAt, number, hash,
      Nat.add_comm 1]
  · exact complete

theorem Resting.writeFrame_cases (fresh : Fresh host shared.gate frame) :
    (∃ left, writeFrame shared frame =
        ⟨left, dropGuards, .finished (.error (.io "partial write"))⟩ /\ Resting host left) ∨
      ∃ left, writeFrame shared frame = ⟨left, [.acquire .segmentIndex], .indexing frame⟩ /\
        Appended host left frame := by
  rcases resting.healthy with ⟨segs, anchor, healthy⟩
  rcases fresh with ⟨event, now, admissible, rfl⟩
  rcases eq_nil_or_concat segs with rfl | ⟨before, last, rfl⟩
  · exact absurd rfl healthy.disk.stored.nonempty
  rw [concat_eq_append] at healthy
  have current := healthy.current
  rcases current.file with ⟨name, _, offset⟩
  have writer : shared.writerName = segmentName before.length := resting.writer.trans name
  have place : shared.gate.writerOffset = endOffset last := offset
  rcases admissible.small_or_overlong with small | overlong
  · have fits : (encodeFrame (nextFrame host shared.gate event now)).length <= maxWrite :=
      small_fits small now
    have continues : Extends host (before ++ [last]).flatten
        (nextFrame host shared.gate event now) :=
      current.extends small admissible.sequence now
    have advanced := current.advanced continues
    refine .inr ⟨_, if_neg fits.not_gt, ?_⟩
    · refine ⟨resting.writer, before, last, anchor, ?_, ?_⟩
      · rw [take_of_length_le fits, writer, place]
        exact (healthy.disk.write_tail _).frame_tail continues
      · exact ⟨advanced.segmentName, advanced.segmentIndex, advanced.writerOffset,
          advanced.sequence, advanced.lastHash, rfl⟩
  · have exceeds : maxWrite < (encodeFrame (nextFrame host shared.gate event now)).length :=
      overlong_exceeds overlong
    refine .inl ⟨_, if_pos exceeds, resting.writer, before ++ [last], anchor, ?_, healthy.behind,
      current⟩
    · rw [writer, place]
      exact (healthy.disk.write_tail _).cut_tail

end

theorem Appended.anchorFrame_eq (appended : Appended host shared frame) :
    ∃ left anchor, anchorFrame host shared frame shared.gate.segmentIndex =
        ⟨left, [.acquire .anchor], .keeping frame anchor⟩ /\ Resting host left := by
  rcases appended.log with ⟨before, last, _, disk, current⟩
  let anchor : AnchorState := ⟨shared.gate.segmentIndex, frame.sequence, frame.currentHash⟩
  have newest : tip (before ++ [last ++ [frame]]) = anchor := by
    have number : frame.sequence = _ := current.sequence
    have hash : frame.currentHash = _ := current.lastHash
    have position : shared.gate.segmentIndex = _ := current.segmentIndex
    rw [tip, <- number, <- hash, <- position]
  have behind := behind_tip before last frame []
  rw [newest] at behind
  have performed : anchorFrame host shared frame shared.gate.segmentIndex = ⟨{ shared with
          gate := { shared.gate with sequence := frame.sequence, lastHash := frame.currentHash }
          directory := shared.directory.applyAll (anchorOperations host anchor) },
        [.acquire .anchor], .keeping frame anchor⟩ := by
    rw [anchorFrame, disk.writeAnchor_eq]
  exact ⟨_, anchor, performed, appended.writer, before ++ [last ++ [frame]], anchor,
    disk.anchor_complete anchor, behind, current⟩

/-- A stage that finds the data as it should leaves them as the next stage should find them. -/
theorem Progress.act (progress : Progress host shared stage)
    (performed : recordProgram host shared stage = some outcome) :
    Progress host outcome.shared outcome.next /\
      (guardsAt stage, outcome.todo) ∈ recordRoutes outcome.next := by
  cases stage with
  | checking => exact progress.elim
  | sealing event now =>
    rcases progress with ⟨resting, payload⟩
    cases performed
    rw [sealFrame]
    split
    · exact ⟨resting, mem_cons_self⟩
    · rename_i room
      exact ⟨⟨resting, event, now, ⟨payload, Nat.lt_of_not_le room⟩, rfl⟩, mem_cons_self⟩
  | naming | switchingPath =>
    cases performed
    exact ⟨progress, mem_cons_self⟩
  | comparing =>
    cases performed
    rw [compareSize]
    split
    · exact ⟨progress, mem_cons_self⟩
    · exact ⟨progress, mem_cons_self⟩
  | creating =>
    rcases progress.1.startSegment_eq progress.2 with ⟨_, started, switching⟩
    cases performed
    rw [started]
    exact ⟨switching, mem_cons_self⟩
  | switchingName =>
    have offset := progress.resting.length
    cases performed
    exact ⟨⟨⟨progress.resting, progress.fresh.congr rfl rfl⟩, rfl, offset⟩, mem_cons_self⟩
  | switchingWriter =>
    rcases progress with ⟨switching, name, place⟩
    cases performed
    exact ⟨⟨⟨switching.resting, switching.fresh.congr rfl rfl⟩, name, place, rfl⟩, mem_cons_self⟩
  | switchingIndex frame index =>
    rcases progress with ⟨switching, name, offset, writer⟩
    have settled : shared.settled index =
        { shared with gate := { shared.gate with segmentIndex := index } } := by
      simp only [SharedGate.settled, name, offset, writer]
    have resting := switching.resting
    rw [settled] at resting
    cases performed
    exact ⟨⟨resting, switching.fresh.congr rfl rfl⟩, mem_cons_self⟩
  | switchingIno =>
    cases performed
    exact ⟨progress, mem_cons_of_mem _ mem_cons_self⟩
  | writing =>
    cases performed
    rcases progress.1.writeFrame_cases progress.2 with
      ⟨left, written, resting⟩ | ⟨left, written, appended⟩
    · rw [written]
      exact ⟨resting, mem_cons_self⟩
    · rw [written]
      exact ⟨appended, mem_cons_self⟩
  | indexing =>
    cases performed
    exact ⟨⟨progress, rfl⟩, mem_cons_self⟩
  | anchoring =>
    rcases progress with ⟨appended, rfl⟩
    rcases appended.anchorFrame_eq with ⟨_, anchor, anchored, resting⟩
    cases performed
    rw [anchored]
    exact ⟨resting, mem_cons_self⟩
  | keeping frame anchor =>
    cases performed
    exact ⟨progress.with_anchor anchor, mem_cons_of_mem _ mem_cons_self⟩
  | finished => cases performed

/-- In each stage of the section the log on disk is one chain. -/
theorem Progress.stored (progress : Progress host shared stage) :
    ∃ segs, Stored host shared.directory segs [] := by
  have ofResting : ∀ left : SharedGate, Resting host left ->
      ∃ segs, Stored host left.directory segs [] := by
    rintro left ⟨_, segs, anchor, healthy⟩
    exact ⟨segs, healthy.disk.stored⟩
  have ofAppended : ∀ frame, Appended host shared frame ->
      ∃ segs, Stored host shared.directory segs [] := by
    rintro frame ⟨_, before, last, anchor, disk, _⟩
    exact ⟨_, disk.stored⟩
  cases stage with
  | checking => exact progress.elim
  | sealing | naming | comparing | creating | switchingIno | writing => exact ofResting _ progress.1
  | switchingPath | switchingName => exact ofResting (shared.settled _) progress.resting
  | switchingWriter | switchingIndex => exact ofResting (shared.settled _) progress.1.resting
  | indexing frame => exact ofAppended frame progress
  | anchoring frame index => exact ofAppended frame progress.1
  | keeping | finished => exact ofResting _ progress

/-! ## The section -/

/-- Before the first guard, or after the last one. -/
inductive OutsideSection : Worker GateMutex RecordStage -> Prop
  | arriving (event : AuditEvent) (now : UInt64) :
      OutsideSection ⟨[], .checking event now, []⟩
  | waiting (event : AuditEvent) (now : UInt64)
      (payload : event.json.length % 2 ^ 32 <= maxPayloadSize) :
      OutsideSection ⟨takeGuards, .sealing event now, []⟩
  | ended (result : Except AuditError AuditReceipt) : OutsideSection ⟨[], .finished result, []⟩

/-- The next action takes `sequence` for a new record. -/
def entersSection (worker : Worker GateMutex RecordStage) : Bool :=
  match worker.stage with
  | .sealing _ _ => decide (worker.todo = takeGuards)
  | _ => false

/-- The call is on one of the routes, in a stage that finds the data in order, and holds `sequence`
unless it rotates. -/
structure InSection (host : Host) (shared : SharedGate) (worker : Worker GateMutex RecordStage) :
    Prop where
  placed : worker.OnRoute recordRoutes
  progress : Progress host shared worker.stage
  locked : .sequence ∈ worker.held ∨ worker.stage.rotating = true

theorem InSection.advance (inside : InSection host shared ⟨action :: rest, stage, held⟩) :
    InSection host shared ⟨rest, stage, heldAfter held [action]⟩ ∨
      Resting host shared /\ OutsideSection ⟨rest, stage, heldAfter held [action]⟩ := by
  have placed := inside.placed.advance
  rcases inside.placed.behind
      (fun held todo => .sequence ∈ held ∨ stage.rotating = true ∨ todo = [] /\ guardsAt stage = [])
      (recordRoutes_sequence stage) with kept | rotating | ⟨rfl, bare⟩
  · exact .inl ⟨placed, inside.progress, .inl kept⟩
  · exact .inl ⟨placed, inside.progress, .inr rotating⟩
  · rcases placed.arrived with ⟨route, mem, held⟩
    rw [recordRoutes_arrive stage route mem] at held
    rw [held]
    have progress := inside.progress
    cases stage with
    | checking => exact progress.elim
    | finished result => exact .inr ⟨progress, .ended result⟩
    | _ => cases bare

/-- Every stage of the section is executed with `sequence` held. -/
theorem sequence_mem_guardsAt (progress : Progress host shared stage)
    (performed : recordProgram host shared stage = some outcome) : .sequence ∈ guardsAt stage := by
  cases stage with
  | checking => exact progress.elim
  | finished result => cases performed
  | _ => dsimp only [guardsAt]; decide

theorem record_approaching {next : SharedGate} (outside : OutsideSection worker)
    (step : WorkerStep (recordProgram host) shared worker next moved) :
    next = shared /\ (OutsideSection moved ∨
      entersSection worker = true /\ (Resting host shared -> InSection host shared moved)) := by
  cases outside with
  | arriving =>
    cases step with
    | act held performed =>
      cases performed
      rw [checkCall]
      split
      · exact ⟨rfl, .inl (.ended _)⟩
      split
      · exact ⟨rfl, .inl (.ended _)⟩
      · rename_i payload
        exact ⟨rfl, .inl (.waiting _ _ (Nat.le_of_not_lt payload))⟩
  | waiting event now payload =>
    cases step with
    | acquire =>
      refine ⟨rfl, .inr ⟨by simp only [entersSection, decide_true], ?_⟩⟩
      intro resting
      refine ⟨⟨([], takeGuards), mem_cons_self, [.acquire .sequence], rfl, rfl⟩,
        ⟨resting, payload⟩, .inl mem_cons_self⟩
  | ended result =>
    cases step with
    | act held performed => cases performed

theorem record_solo (host : Host) :
    Solo (recordProgram host) RecordStage.Begins (Resting host) OutsideSection
      (fun worker => entersSection worker = true) (InSection host) where
  starts := by
    rintro _ ⟨event, now, rfl⟩
    exact .arriving event now
  bare := by
    rintro _ (_ | _ | _) <;> rfl
  approaching := fun _ _ _ _ outside step => record_approaching outside step
  working := by
    rintro shared worker next moved inside step
    cases step with
    | acquire | release => exact inside.advance
    | act held performed =>
      rcases inside.placed.arrived with ⟨route, mem, guards⟩
      rw [recordRoutes_arrive _ route mem] at guards
      rcases inside.progress.act performed with ⟨progress, way⟩
      have locked := sequence_mem_guardsAt inside.progress performed
      rw [<- guards] at way locked
      exact .inl ⟨⟨_, way, [], rfl, rfl⟩, progress, .inl locked⟩
  unlocked := fun _ _ _ _ inside next =>
    inside.placed.unlocked (recordRoutes_clear _) next

/-! ## Runs -/

/-- The call has given its guards up for a rotation and does not hold `sequence` again. -/
def givenUp (worker : Worker GateMutex RecordStage) : Bool :=
  worker.stage.rotating && decide (.sequence ∉ worker.held)

/-- A call that takes `sequence` for a new record does so while no call has given its guards up. -/
def undisturbed (workshop : Workshop SharedGate GateMutex RecordStage)
    (worker : Worker GateMutex RecordStage) : Bool :=
  !entersSection worker || workshop.workers.all (fun other => !givenUp other)

/-- Threads that start calls on one gate at any time and interleave at every lock action. -/
abbrev RecordStep (host : Host) :=
  Workshop.Step (recordProgram host) RecordStage.Begins

/-- The numbers on disk are those of one chain. -/
def OneChain (host : Host) (dir : Directory) : Prop :=
  ∃ segs, Stored host dir segs [] /\
    segs.flatten.map sequence = range' 1 segs.flatten.length

theorem Stored.oneChain (stored : Stored host dir segs []) : OneChain host dir :=
  ⟨segs, stored, stored.linked.numbers stored.inRange⟩

theorem Alone.oneChain (alone : Alone (Resting host) OutsideSection (InSection host) workshop) :
    OneChain host workshop.shared.directory := by
  cases alone with
  | nobody resting others =>
    rcases resting.healthy with ⟨segs, _, healthy⟩
    exact healthy.disk.stored.oneChain
  | somebody present front back =>
    rcases present.progress.stored with ⟨_, stored⟩
    exact stored.oneChain

/-- A gate that was just opened, with nobody at work. -/
def openedWorkshop (gate : AuditGate) (dir : Directory) :
    Workshop SharedGate GateMutex RecordStage :=
  ⟨⟨gate, gate.segmentName, dir⟩, []⟩

theorem Sessions.opened_resting (past : Sessions host events ⟨none, dir⟩)
    (opened : openGate host dir maxSize clock = ⟨ops, .ok gate⟩) :
    Resting host ⟨gate, gate.segmentName, dir.applyAll ops⟩ := by
  rcases sessions_keep past with ⟨frames, keeps, _⟩
  have leftBehind : LeftBehind host dir frames := keeps
  rcases leftBehind.opens maxSize clock with
    ⟨_, _, _, segs, anchor, same, healthy, _⟩ | ⟨_, _, _, failed⟩
  · rw [opened] at same
    cases same
    have current := healthy.current
    exact ⟨rfl, segs, anchor, healthy.disk, healthy.behind, current.segmentName,
      current.segmentIndex, current.writerOffset, current.sequence, current.lastHash, rfl⟩
  · rw [opened] at failed
    cases failed

theorem entersSection_todo (enters : entersSection worker = true) : worker.todo = takeGuards := by
  unfold entersSection at enters
  split at enters
  · exact of_decide_eq_true enters
  · cases enters

/-- Where a call may enter, nobody is inside. -/
theorem undisturbed_empty (calm : undisturbed workshop worker = true)
    (enters : entersSection worker = true)
    (free : ∀ lock rest, worker.todo = .acquire lock :: rest ->
      ∀ other ∈ workshop.workers, lock ∉ other.held) :
    ∀ other ∈ workshop.workers, ¬InSection host workshop.shared other := by
  intro other mem inside
  have unlocked := free _ _ (entersSection_todo enters) other mem
  rw [undisturbed, enters, Bool.not_true, Bool.false_or, all_eq_true] at calm
  have quiet := calm other mem
  rcases inside.locked with kept | rotating
  · exact unlocked kept
  · rw [givenUp, rotating, decide_eq_true unlocked] at quiet
    cases quiet

/-- While no call takes `sequence` between the two halves of a rotating call, the log stays one
chain and no threads wait for one another. -/
theorem undisturbed_calls_keep_chain {events : List AuditAction} {dir : Directory}
    {maxSize : Nat} {clock : Clock} {ops : List FileOperation} {gate : AuditGate}
    (past : Sessions host events ⟨none, dir⟩)
    (opened : openGate host dir maxSize clock = ⟨ops, .ok gate⟩)
    {schedule : List (Option (Worker GateMutex RecordStage))}
    {finish : Workshop SharedGate GateMutex RecordStage}
    (run : Run (fun before event after => RecordStep host before event after /\
        ∀ worker, event = some worker -> undisturbed before worker = true)
      (openedWorkshop gate (dir.applyAll ops)) schedule finish) :
    OneChain host finish.shared.directory /\ ¬finish.locks.Deadlocked := by
  have first : Alone (Resting host) OutsideSection (InSection host)
      (openedWorkshop gate (dir.applyAll ops)) :=
    .nobody (past.opened_resting opened) nofun
  have alone : Alone (Resting host) OutsideSection (InSection host) finish := by
    refine (record_solo host).run ?_ first run
    intro workshop worker permitted enters free
    exact undisturbed_empty (permitted worker rfl) enters free
  exact ⟨Alone.oneChain alone, (record_solo host).not_deadlocked alone⟩

/-! ## Sample schedules -/

/-- A new log with room for one small event in a segment, and two calls. -/
def sampleCalls (first second : AuditEvent) : Workshop SharedGate GateMutex RecordStage :=
  ⟨⟨initialGate 200, (initialGate 200).segmentName, sampleDirectory⟩,
    [⟨[], .checking first 7, []⟩, ⟨[], .checking second 8, []⟩]⟩

theorem start_undisturbed (workshop : Workshop SharedGate GateMutex RecordStage)
    (event : AuditEvent) (now : UInt64) :
    RecordStep host workshop none
        ⟨workshop.shared, workshop.workers ++ [⟨[], .checking event now, []⟩]⟩ /\
      ∀ worker, none = some worker -> undisturbed workshop worker = true :=
  ⟨.start ⟨event, now, rfl⟩, nofun⟩

theorem sampleCalls_run (first second : AuditEvent) :
    Run (fun before event after => RecordStep sampleHost before event after /\
        ∀ worker, event = some worker -> undisturbed before worker = true)
      (openedWorkshop (initialGate 200) sampleDirectory) [none, none]
      (sampleCalls first second) :=
  .snoc (.single (start_undisturbed _ first 7)) (start_undisturbed _ second 8)

/-- The second call waits at the guards of the first one, and rotates later. -/
def calmSchedule : List Nat :=
  [0, 0, 1] ++ replicate 18 0 ++ replicate 49 1

/-- One call after the other writes records 1 and 2 of one chain. -/
theorem calm_calls_keep_chain :
    ∃ finish : Workshop SharedGate GateMutex RecordStage, finish.workers.map Worker.stage =
          [.finished (.ok ⟨1, (nextFrame sampleHost (initialGate 200) sampleEvent 7).currentHash⟩),
            .finished (.ok ⟨2, (nextFrame sampleHost sampleGate sampleEvent 8).currentHash⟩)] /\
        OneChain sampleHost finish.shared.directory /\ ¬finish.locks.Deadlocked := by
  have evaluated : ((sampleCalls sampleEvent sampleEvent).follow (recordProgram sampleHost)
      undisturbed calmSchedule).map (fun finish => finish.workers.map Worker.stage) =
        some [.finished (.ok ⟨1, (nextFrame sampleHost (initialGate 200) sampleEvent 7).currentHash⟩),
          .finished (.ok ⟨2, (nextFrame sampleHost sampleGate sampleEvent 8).currentHash⟩)] := by
    decide +kernel
  rcases Option.map_eq_some_iff.mp evaluated with ⟨finish, followed, stages⟩
  rcases Workshop.follow_run followed with ⟨_, run⟩
  have opened : openGate sampleHost Table.empty 200 ⟨0, 0⟩ = _ := openGate_blank
  have whole := (sampleCalls_run sampleEvent sampleEvent).append run
  exact ⟨finish, stages, undisturbed_calls_keep_chain .nil opened whole⟩

/-- Exporting one chain gives consecutive numbers. -/
theorem OneChain.exported (chain : OneChain host dir) {count : Nat}
    (absent : dir.get (segmentName count) = none) (few : count <= 10 ^ 6) :
    ∃ frames, exportRecords host dir (listSegments dir) = .ok frames /\
      frames.map sequence = range' 1 frames.length := by
  rcases chain with ⟨segs, stored, numbers⟩
  have fits : segs.length <= 10 ^ 6 := by
    have file := stored.files count
    rw [absent] at file
    split at file
    · cases file
    · omega
  exact ⟨_, (stored.read fits).2, numbers⟩

/-- The first call gives its guards up, the second one records, the first one goes on. -/
def forkingSchedule : List Nat :=
  replicate 12 0 ++ replicate 20 1 ++ replicate 38 0

/-- The rotation of the first call has two mutexes and the second call the other two. -/
def crossingSchedule : List Nat :=
  replicate 14 0 ++ replicate 3 1

theorem sampleCalls_follow {first second : AuditEvent} {schedule : List Nat}
    {finish : Workshop SharedGate GateMutex RecordStage}
    (followed : (sampleCalls first second).follow (recordProgram sampleHost) (fun _ _ => true)
      schedule = some finish) :
    ∃ events, Run (RecordStep sampleHost) (openedWorkshop (initialGate 200) sampleDirectory) events
      finish := by
  rcases Workshop.follow_run followed with ⟨_, run⟩
  exact ⟨_, ((sampleCalls_run first second).imp (fun _ _ _ taken => taken.1)).append
    (run.imp (fun _ _ _ taken => taken.1))⟩

/-- Both calls write a record with number 1. -/
theorem forkingSchedule_forks :
    ∃ events finish, Run (RecordStep sampleHost) (openedWorkshop (initialGate 200) sampleDirectory)
        events finish /\ ¬OneChain sampleHost finish.shared.directory := by
  have evaluated : ((sampleCalls largeEvent sampleEvent).follow (recordProgram sampleHost)
      (fun _ _ => true) forkingSchedule).any (fun finish =>
        decide (finish.shared.directory.get (segmentName 2) = none) &&
        decide ((exportRecords sampleHost finish.shared.directory
          (listSegments finish.shared.directory)).map (map DecodedFrame.sequence) =
            .ok [1, 1])) = true := by
    decide +kernel
  rcases (Option.any_eq_true _ _).mp evaluated with ⟨finish, followed, facts⟩
  simp only [Bool.and_eq_true, decide_eq_true_eq] at facts
  rcases facts with ⟨absent, numbers⟩
  rcases sampleCalls_follow followed with ⟨events, run⟩
  refine ⟨events, finish, run, ?_⟩
  intro chain
  rcases chain.exported absent (by decide) with ⟨frames, exported, consecutive⟩
  rw [exported] at numbers
  have same : frames.map sequence = [1, 1] := Except.ok.inj numbers
  have length : frames.length = 2 := by
    rw [<- length_map sequence, same]
    rfl
  rw [same, length] at consecutive
  exact absurd consecutive (by decide)

theorem crossingSchedule_locks :
    ∃ events finish, Run (RecordStep sampleHost) (openedWorkshop (initialGate 200) sampleDirectory)
        events finish /\ finish.locks.Deadlocked := by
  have evaluated : ((sampleCalls largeEvent sampleEvent).follow (recordProgram sampleHost)
      (fun _ _ => true) crossingSchedule).map (fun finish =>
        finish.workers.map (fun worker => (worker.todo, worker.held))) =
        some [([.acquire .lastHash, .acquire .sequence], [.writer, .segmentIndex]),
          ([.acquire .writer], [.lastHash, .sequence])] := by
    decide +kernel
  rcases Option.map_eq_some_iff.mp evaluated with ⟨finish, followed, locks⟩
  rcases sampleCalls_follow followed with ⟨events, run⟩
  refine ⟨events, finish, run, ?_⟩
  have pairs : finish.locks = (finish.workers.map (fun worker => (worker.todo, worker.held))).map
      (fun pair => ⟨pair.1, pair.2⟩) := by
    rw [map_map]
    rfl
  rw [pairs, locks]
  exact LockSystem.deadlocked_pair mem_cons_self mem_cons_self

/-- A call that enters between the two halves of a rotating call forks the chain, or waits with it
forever. -/
theorem disturbed_rotation_fails :
    (openGate sampleHost Table.empty 200 ⟨0, 0⟩).result = .ok (initialGate 200) /\
      (∃ events finish, Run (RecordStep sampleHost)
          (openedWorkshop (initialGate 200) sampleDirectory) events finish /\
        ¬OneChain sampleHost finish.shared.directory) /\
      ∃ events finish, Run (RecordStep sampleHost)
          (openedWorkshop (initialGate 200) sampleDirectory) events finish /\
        finish.locks.Deadlocked := by
  exact ⟨rfl, forkingSchedule_forks, crossingSchedule_locks⟩

end ControlVault.Audit
