import ControlVault.Audit.Breaker
import ControlVault.Foundation.Workers

namespace ControlVault.Audit

open Foundation Directory

/-!
# Calls of `record` on several threads

The fields of a gate are behind eight mutexes.  A call of `record` takes `sequence`, `last_hash` and
`writer` in this order, builds its frame, and keeps the three to the end, except that it gives all
of them up before a rotation and takes them again behind it.  A rotation takes `segment_index`,
`writer`, `last_hash` and `sequence` in this order, and switches the fields to the new segment one
by one, with `sequence` alone held throughout.

A stage below is the code between two lock actions.  `conduct_record` compares the stages of one
thread with the sequential `record`.
-/

inductive GateMutex
  | sequence
  | lastHash
  | writer
  | segmentName
  | segmentIndex
  | anchor
  | currentSegment
  | segmentFileIno
  deriving DecidableEq

/-- The fields of the gate, the file that the writer has open, and the directory. -/
structure SharedGate where
  gate : AuditGate
  writerName : Text
  directory : Directory

inductive RecordStage
  /-- Before the first mutex. -/
  | checking (event : AuditEvent) (now : UInt64)
  | sealing (event : AuditEvent) (now : UInt64)
  | naming (frame : DecodedFrame)
  | comparing (frame : DecodedFrame) (name : Text)
  | creating (frame : DecodedFrame)
  | switchingPath (frame : DecodedFrame) (index : Nat)
  | switchingName (frame : DecodedFrame) (index : Nat)
  | switchingWriter (frame : DecodedFrame) (index offset : Nat)
  | switchingIndex (frame : DecodedFrame) (index : Nat)
  | switchingIno (frame : DecodedFrame)
  | writing (frame : DecodedFrame)
  | indexing (frame : DecodedFrame)
  | anchoring (frame : DecodedFrame) (index : Nat)
  | keeping (frame : DecodedFrame) (anchor : AnchorState)
  | finished (result : Except AuditError AuditReceipt)
  deriving DecidableEq

/-- The three guards of `record`. -/
def takeGuards : List (LockAction GateMutex) :=
  [.acquire .sequence, .acquire .lastHash, .acquire .writer]

def dropGuards : List (LockAction GateMutex) :=
  [.release .writer, .release .lastHash, .release .sequence]

section Program

variable (host : Host) (shared : SharedGate)

/-- The checks of a call before the first mutex. -/
def checkCall (event : AuditEvent) (now : UInt64) :
    StageOutcome SharedGate GateMutex RecordStage :=
  if shared.gate.circuitBroken then
    ⟨shared, [], .finished (.error circuitBroken)⟩
  else if maxPayloadSize < event.json.length % 2 ^ 32 then
    ⟨shared, [], .finished (.error (.schemaViolation "payload too large"))⟩
  else ⟨shared, takeGuards, .sealing event now⟩

/-- Number, previous hash and hash of the record. -/
def sealFrame (event : AuditEvent) (now : UInt64) :
    StageOutcome SharedGate GateMutex RecordStage :=
  if 2 ^ 64 <= shared.gate.sequence + 1 then ⟨shared, dropGuards, .finished (.error .overflow)⟩
  else
    ⟨shared, [.acquire .segmentName], .naming (nextFrame host shared.gate event now)⟩

/-- The guards are dropped if the file of the given name would become too large. -/
def compareSize (frame : DecodedFrame) (name : Text) :
    StageOutcome SharedGate GateMutex RecordStage :=
  if shouldRotate { shared.gate with segmentName := name } shared.directory frame then
    ⟨shared, dropGuards ++ [.acquire .segmentIndex, .acquire .writer, .acquire .lastHash,
      .acquire .sequence], .creating frame⟩
  else ⟨shared, [], .writing frame⟩

/-- The file is created and gets its header; the guards but `sequence` are dropped. -/
def startSegment (frame : DecodedFrame) :
    StageOutcome SharedGate GateMutex RecordStage :=
  let index := shared.gate.segmentIndex + 1
  let name := segmentName index
  if (shared.directory.get name).isSome then
    ⟨shared, [.release .sequence, .release .lastHash, .release .writer, .release .segmentIndex],
      .finished (.error (.rotationFailed "create segment: EEXIST: File exists"))⟩
  else
    ⟨{ shared with
        directory := shared.directory.applyAll (createSegment host name
          ⟨schemaVersion, index, shared.gate.sequence + 1, shared.gate.lastHash⟩) },
      [.release .writer, .release .lastHash, .release .segmentIndex, .acquire .currentSegment],
      .switchingPath frame index⟩

/-- The frame is written through the writer, and taken back if it was not written whole. -/
def writeFrame (frame : DecodedFrame) :
    StageOutcome SharedGate GateMutex RecordStage :=
  let bytes := encodeFrame frame
  let offset := shared.gate.writerOffset
  let written := shared.directory.apply (.write shared.writerName offset (bytes.take maxWrite))
  if maxWrite < bytes.length then
    ⟨{ shared with
        gate := { shared.gate with circuitBroken := true }
        directory := written.apply (.setLength shared.writerName offset) },
      dropGuards, .finished (.error (.io "partial write"))⟩
  else
    ⟨{ shared with
        gate := { shared.gate with writerOffset := offset + bytes.length }
        directory := written },
      [.acquire .segmentIndex], .indexing frame⟩

/-- The anchor on disk and the fields behind the guards move to the new record. -/
def anchorFrame (frame : DecodedFrame) (index : Nat) :
    StageOutcome SharedGate GateMutex RecordStage :=
  let anchor : AnchorState := ⟨index, frame.sequence, frame.currentHash⟩
  match writeAnchor host shared.directory anchor with
  | .error error =>
    ⟨{ shared with gate := { shared.gate with circuitBroken := true } }, dropGuards,
      .finished (.error (.io ("write anchor: " ++ error.message)))⟩
  | .ok ops =>
    ⟨{ shared with
        gate := { shared.gate with sequence := frame.sequence, lastHash := frame.currentHash }
        directory := shared.directory.applyAll ops },
      [.acquire .anchor], .keeping frame anchor⟩

def recordProgram :
    RecordStage -> Option (StageOutcome SharedGate GateMutex RecordStage)
  | .checking event now => some (checkCall shared event now)
  | .sealing event now => some (sealFrame host shared event now)
  | .naming frame =>
    some ⟨shared, [.release .segmentName], .comparing frame shared.gate.segmentName⟩
  | .comparing frame name => some (compareSize shared frame name)
  | .creating frame => some (startSegment host shared frame)
  | .switchingPath frame index =>
    some ⟨shared, [.release .currentSegment, .acquire .segmentName], .switchingName frame index⟩
  | .switchingName frame index =>
    -- the new writer reads the length of its file before its mutex is taken
    some ⟨{ shared with gate := { shared.gate with segmentName := segmentName index } },
      [.release .segmentName, .acquire .writer],
      .switchingWriter frame index
        ((shared.directory.get (segmentName index)).elim 0 (fun file => file.content.length))⟩
  | .switchingWriter frame index offset =>
    some ⟨{ shared with
        gate := { shared.gate with writerOffset := offset }
        writerName := segmentName index },
      [.release .writer, .acquire .segmentIndex], .switchingIndex frame index⟩
  | .switchingIndex frame index =>
    some ⟨{ shared with gate := { shared.gate with segmentIndex := index } },
      [.release .segmentIndex, .acquire .segmentFileIno], .switchingIno frame⟩
  | .switchingIno frame =>
    some ⟨shared, [.release .segmentFileIno, .release .sequence] ++ takeGuards, .writing frame⟩
  | .writing frame => some (writeFrame shared frame)
  | .indexing frame =>
    some ⟨shared, [.release .segmentIndex], .anchoring frame shared.gate.segmentIndex⟩
  | .anchoring frame index => some (anchorFrame host shared frame index)
  | .keeping frame anchor =>
    some ⟨{ shared with gate := { shared.gate with anchor } },
      .release .anchor :: dropGuards, .finished (.ok ⟨frame.sequence, frame.currentHash⟩)⟩
  | .finished _ => none

/-- Every call starts with its checks. -/
def RecordStage.Begins (stage : RecordStage) : Prop :=
  ∃ event now, stage = .checking event now

end Program

/-! ## One thread alone -/

variable {dir : Directory}

/-- The shared data and the stage once a call is over. -/
def settledOutcome (dir : Directory)
    (performed : Performed (Except AuditError AuditReceipt × AuditGate)) : SharedGate × RecordStage :=
  (⟨performed.result.2, performed.result.2.segmentName, dir.applyAll performed.operations⟩,
    .finished performed.result.1)

theorem conduct_finished (count : Nat) (shared : SharedGate)
    (result : Except AuditError AuditReceipt) :
    conduct (recordProgram host) count shared (.finished result) = (shared, .finished result) :=
  conduct_done rfl count

theorem conduct_writing (count : Nat) (frame : DecodedFrame) :
    conduct (recordProgram host) (count + 4) ⟨gate, gate.segmentName, dir⟩ (.writing frame) =
      settledOutcome dir (appendFrame host gate dir frame) := by
  have performed : recordProgram host ⟨gate, gate.segmentName, dir⟩ (.writing frame) =
    some (writeFrame ⟨gate, gate.segmentName, dir⟩ frame) := rfl
  rw [conduct_step performed, writeFrame, appendFrame]
  dsimp only
  split
  · rfl
  · rw [conduct_step rfl, conduct_step rfl, anchorFrame]
    rw [writeAnchor_write]
    cases writeAnchor host dir ⟨gate.segmentIndex, frame.sequence, frame.currentHash⟩ with
    | error => exact conduct_finished ..
    | ok =>
      rw [conduct_step rfl, conduct_finished]
      rfl

/-- A segment that was just created holds its header. -/
theorem length_createSegment (name : Text) (header : SegmentHeader) :
    ((dir.applyAll (createSegment host name header)).get name).elim 0
      (fun file => file.content.length) = headerSize := by
  rw [createSegment, applyAll_cons, applyAll_cons, apply, apply, applyAll_cons, applyAll_cons,
    applyAll_nil, apply, apply, Table.get_modify_self, Table.get_insert_self, Option.map_some, Option.elim_some, overwrite,
    List.drop_nil, List.append_nil, List.length_append, SegmentHeader.length_encode]
  rfl

theorem conduct_creating (count : Nat) (frame : DecodedFrame) :
    conduct (recordProgram host) (count + 10) ⟨gate, gate.segmentName, dir⟩ (.creating frame) =
      match (rotateSegment host gate dir).result with
      | .error error =>
        settledOutcome dir ⟨(rotateSegment host gate dir).operations, .error error, gate⟩
      | .ok rotated =>
        settledOutcome (dir.applyAll (rotateSegment host gate dir).operations)
          (appendFrame host rotated
            (dir.applyAll (rotateSegment host gate dir).operations) frame) := by
  have performed : recordProgram host ⟨gate, gate.segmentName, dir⟩ (.creating frame) =
    some (startSegment host ⟨gate, gate.segmentName, dir⟩ frame) := rfl
  rw [conduct_step performed, startSegment, rotateSegment]
  split
  · exact conduct_finished ..
  · rw [conduct_step rfl, conduct_step rfl]
    rw [length_createSegment]
    exact conduct_writing count frame

/-- A call that nobody disturbs is the sequential call. -/
theorem conduct_record (host : Host) (gate : AuditGate) (dir : Directory) (event : AuditEvent)
    (now : UInt64) :
    conduct (recordProgram host) 14 ⟨gate, gate.segmentName, dir⟩ (.checking event now) =
      settledOutcome dir (record host gate dir event now) := by
  have checked : recordProgram host ⟨gate, gate.segmentName, dir⟩ (.checking event now) =
    some (checkCall ⟨gate, gate.segmentName, dir⟩ event now) := rfl
  rw [conduct_step checked, checkCall, record]
  split
  · exact conduct_finished ..
  split
  · exact conduct_finished ..
  have numbered : recordProgram host ⟨gate, gate.segmentName, dir⟩ (.sealing event now) =
    some (sealFrame host ⟨gate, gate.segmentName, dir⟩ event now) := rfl
  rw [conduct_step numbered, sealFrame]
  split
  · exact conduct_finished ..
  have compared : ∀ frame, recordProgram host ⟨gate, gate.segmentName, dir⟩
      (.comparing frame gate.segmentName) =
    some (compareSize ⟨gate, gate.segmentName, dir⟩ frame gate.segmentName) := fun _ => rfl
  rw [conduct_step rfl, conduct_step (compared _), compareSize]
  dsimp only
  split
  · rw [conduct_creating 0]
    cases (rotateSegment host gate dir).result with
    | error => rfl
    | ok =>
      dsimp only [settledOutcome]
      rw [applyAll_append]
  · exact conduct_writing 6 _

end ControlVault.Audit
