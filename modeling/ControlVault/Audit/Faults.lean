import ControlVault.Audit.Sessions

namespace ControlVault.Audit

open Foundation Directory

/-!
# Recording when file operations fail

`record` describes a call whose file operations succeed.  Here every write, every sync and
truncation, every creation or opening of a file and the renaming of the anchor may fail, in any
combination, while the daemon goes on.  Without a failure the call is the one of `record`.

A failure while a frame is appended breaks the gate.  Of a rotation only the first sync does:
from the creation of the new segment file on, an error leaves the gate as it was.
-/

/-- The file operations of a call that can fail. -/
inductive FaultPoint
  | syncCurrent
  | createSegment
  | writeHeader
  | fsyncHeader
  | fsyncRotation
  | reopenSegment
  | writeRecord
  | shortWrite
  | truncateRecord
  | fsyncRecord
  | fsyncDir
  | openAnchor
  | writeAnchor
  | fsyncAnchor
  | renameAnchor
  | fsyncAnchorDir
  deriving DecidableEq

abbrev Faults :=
  FaultPoint -> Option Fault

/-- What a call of `record` leaves: besides the directory, the result and the gate, the number of
the frame that was handed to a write. -/
structure Attempt where
  directory : Directory
  result : Except AuditError AuditReceipt
  gate : AuditGate
  written : Option Nat

section Calls

variable (host : Host) (faults : Faults)

/-! ## The anchor -/

def anchorSteps (state : AnchorState) : List (FaultPoint × FileOperation) :=
  [(.openAnchor, .openTruncated anchorTemporaryName (ownStat host)),
    (.writeAnchor, .write anchorTemporaryName 0 (encodeAnchor host.env state)),
    (.fsyncAnchor, .sync anchorTemporaryName),
    (.renameAnchor, .rename anchorTemporaryName anchorName),
    (.fsyncAnchorDir, .syncDirectory)]

def anchorFault (point : FaultPoint) (message : Text) : AuditError :=
  match point with
  | .openAnchor => .io ("open anchor tmp: " ++ message)
  | .renameAnchor => .io ("renameat anchor: " ++ message)
  | .fsyncAnchorDir => .io ("fsync dir: " ++ message)
  | _ => .io message

def writeAnchorWith (dir : Directory) (state : AnchorState) :
    Except AuditError Unit × Directory :=
  if (dir.get anchorTemporaryName).any (fun file => file.stat.symlink) then
    (.error (.io "open anchor tmp: ELOOP: Too many symbolic links encountered"), dir)
  else
    match attempt faults dir (anchorSteps host state) with
    | (.error (point, fault), left) => (.error (anchorFault point fault.message), left)
    | (.ok (), left) => (.ok (), left)

/-! ## Rotation -/

def rotationSteps (gate : AuditGate) : List (FaultPoint × FileOperation) :=
  let name := segmentName (gate.segmentIndex + 1)
  let header : SegmentHeader :=
    ⟨schemaVersion, gate.segmentIndex + 1, gate.sequence + 1, gate.lastHash⟩
  [(.createSegment, .create name (ownStat host)),
    (.writeHeader, .write name 0 (header.encode host.env)),
    (.fsyncHeader, .sync name),
    (.fsyncRotation, .syncDirectory)]

def rotationFault (point : FaultPoint) (message : Text) : AuditError :=
  match point with
  | .createSegment => .rotationFailed ("create segment: " ++ message)
  | .fsyncRotation => .io ("fsync dir: " ++ message)
  | _ => .io message

/-- The result of a rotation, the gate behind it, and the directory. -/
def rotateWith (gate : AuditGate) (dir : Directory) :
    Except AuditError Unit × AuditGate × Directory :=
  let name := segmentName (gate.segmentIndex + 1)
  match faults .syncCurrent with
  | some fault =>
    (.error (.rotationFailed ("sync current: " ++ fault.message)),
      { gate with circuitBroken := true }, dir)
  | none =>
    if (dir.get name).isSome then
      (.error (.rotationFailed "create segment: EEXIST: File exists"), gate, dir)
    else
      match attempt faults dir (rotationSteps host gate) with
      | (.error (point, fault), left) =>
        (.error (rotationFault point fault.message), gate, left)
      | (.ok (), left) =>
        match faults .reopenSegment with
        | some fault =>
          (.error (.io ("openat " ++ name ++ ": " ++ fault.message)), gate, left)
        | none =>
          (.ok (), gate.rotated, left)

/-! ## Records -/

section

variable (gate : AuditGate) (dir : Directory) (frame : DecodedFrame) (offset : Nat)
  (error : AuditError)

def breakGate : Attempt where
  directory := dir
  result := .error error
  gate := { gate with circuitBroken := true, writerOffset := offset }
  written := some frame.sequence

/-- Cut off what was written of a frame, if that succeeds, and break the gate. -/
def takeBack : Attempt :=
  match faults .truncateRecord with
  | some _ => breakGate gate dir frame offset error
  | none =>
    breakGate gate (dir.apply (.setLength gate.segmentName gate.writerOffset)) frame
      gate.writerOffset error

end

/-- The bytes that the write of a frame transfers when it reports no error. -/
def transferred : Nat :=
  match faults .shortWrite with
  | some fault => min fault.transferred maxWrite
  | none => maxWrite

def appendWith (gate : AuditGate) (dir : Directory) (frame : DecodedFrame) : Attempt :=
  let bytes := encodeFrame frame
  let write := fun count : Nat =>
    dir.apply (.write gate.segmentName gate.writerOffset (bytes.take count))
  match faults .writeRecord with
  | some fault =>
    takeBack faults gate (write fault.transferred) frame gate.writerOffset
      (.io ("write record: " ++ fault.message))
  | none =>
    if transferred faults < bytes.length then
      takeBack faults gate (write (transferred faults)) frame
        (gate.writerOffset + transferred faults) (.io "partial write")
    else
      let offset := gate.writerOffset + bytes.length
      match faults .fsyncRecord with
      | some fault =>
        takeBack faults gate (write bytes.length) frame offset
          (.io ("fsync record: " ++ fault.message))
      | none =>
        match faults .fsyncDir with
        | some fault =>
          breakGate gate (write bytes.length) frame offset
            (.io ("fsync dir: I/O error: fsync dir: " ++ fault.message))
        | none =>
          let anchor : AnchorState := ⟨gate.segmentIndex, frame.sequence, frame.currentHash⟩
          match writeAnchorWith host faults (write bytes.length) anchor with
          | (.error error, left) =>
            breakGate gate left frame offset (.io ("write anchor: " ++ error.message))
          | (.ok (), left) =>
            { directory := left
              result := .ok ⟨frame.sequence, frame.currentHash⟩
              gate := gate.advanced frame
              written := some frame.sequence }

def recordWith (gate : AuditGate) (dir : Directory) (event : AuditEvent)
    (now : UInt64) : Attempt :=
  if gate.circuitBroken then
    ⟨dir, .error circuitBroken, gate, none⟩
  else if maxPayloadSize < event.json.length % 2 ^ 32 then
    ⟨dir, .error (.schemaViolation "payload too large"), gate, none⟩
  else if 2 ^ 64 <= gate.sequence + 1 then ⟨dir, .error .overflow, gate, none⟩
  else
    let frame := nextFrame host gate event now
    if shouldRotate gate dir frame then
      match rotateWith host faults gate dir with
      | (.error error, left, rotated) => ⟨rotated, .error error, left, none⟩
      | (.ok (), left, rotated) => appendWith host faults left rotated frame
    else appendWith host faults gate dir frame

end Calls

/-! ## Agreement with calls that do not fail -/

def noFaults : Faults :=
  fun _ => none

variable {dir : Directory}

theorem writeAnchorWith_noFaults (state : AnchorState) :
    writeAnchorWith host noFaults dir state =
      match writeAnchor host dir state with
      | .error error => (.error error, dir)
      | .ok ops => (.ok (), dir.applyAll ops) := by
  unfold writeAnchorWith writeAnchor
  split
  · rfl
  · rfl

theorem rotateWith_noFaults :
    rotateWith host noFaults gate dir = ((rotateSegment host gate dir).result.map (fun _ => ()),
        ((rotateSegment host gate dir).result.toOption.getD gate),
        dir.applyAll (rotateSegment host gate dir).operations) := by
  unfold rotateWith rotateSegment
  dsimp only [noFaults]
  split
  · rfl
  · rfl

/-- The call as `record` performs it. -/
def Attempt.Agrees (attempt : Attempt) (dir : Directory)
    (performed : Performed (Except AuditError AuditReceipt × AuditGate)) : Prop :=
  attempt.directory = dir.applyAll performed.operations /\
    attempt.result = performed.result.1 /\ attempt.gate = performed.result.2

/-- Writing to a file does not change what kind of file any name stands for. -/
theorem symlink_write (dir : Directory) (name other : Text) (offset : Nat) (bytes : Bytes) :
    ((dir.apply (.write name offset bytes)).get other).any (fun file => file.stat.symlink) =
      (dir.get other).any (fun file => file.stat.symlink) := by
  rw [apply]
  by_cases same : other = name
  · subst same
    rw [Table.get_modify_self]
    cases dir.get other with
    | none | some => rfl
  · rw [Table.get_modify_of_ne _ _ same]

theorem writeAnchor_write (name : Text) (offset : Nat) (bytes : Bytes) (state : AnchorState) :
    writeAnchor host (dir.apply (.write name offset bytes)) state = writeAnchor host dir state := by
  rw [writeAnchor, symlink_write, writeAnchor]

theorem appendWith_noFaults (frame : DecodedFrame) :
    (appendWith host noFaults gate dir frame).Agrees dir (appendFrame host gate dir frame) := by
  unfold appendWith appendFrame
  have whole : transferred noFaults = maxWrite := rfl
  rw [whole]
  dsimp only [noFaults]
  by_cases exceeds : maxWrite < (encodeFrame frame).length
  · rw [if_pos exceeds, if_pos exceeds]
    exact ⟨rfl, rfl, rfl⟩
  · rw [if_neg exceeds, if_neg exceeds, List.take_length, List.take_of_length_le (not_lt.mp exceeds)]
    rw [writeAnchorWith_noFaults, writeAnchor_write]
    cases writeAnchor host dir ⟨gate.segmentIndex, frame.sequence, frame.currentHash⟩ with
    | error | ok => exact ⟨rfl, rfl, rfl⟩

/-- Without faults, the recording that may fail anywhere does what `record` does: the same
operations, answer and gate. -/
theorem recordWith_noFaults (host : Host) (gate : AuditGate) (dir : Directory)
    (event : AuditEvent) (now : UInt64) :
    (recordWith host noFaults gate dir event now).Agrees dir
      (record host gate dir event now) := by
  unfold recordWith record
  split
  · exact ⟨rfl, rfl, rfl⟩
  · split
    · exact ⟨rfl, rfl, rfl⟩
    · split
      · exact ⟨rfl, rfl, rfl⟩
      · dsimp only
        split
        · rw [rotateWith_noFaults]
          cases (rotateSegment host gate dir).result with
          | error => exact ⟨rfl, rfl, rfl⟩
          | ok rotated =>
            let changed := dir.applyAll (rotateSegment host gate dir).operations
            let frame := nextFrame host gate event now
            have agrees : (appendWith host noFaults rotated changed frame).Agrees changed
                (appendFrame host rotated changed frame) := appendWith_noFaults frame
            refine ⟨?_, agrees.2⟩
            rw [applyAll_append]
            exact agrees.1
        · exact appendWith_noFaults _

end ControlVault.Audit
