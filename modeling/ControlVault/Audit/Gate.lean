import ControlVault.Audit.Segments

namespace ControlVault.Audit

open Foundation

/-!
# The audit gate

The gate appends records to the last segment, starts a new segment when a
record would make the last one too large, and after each record replaces the
anchor, a small file that names the record.  Opening the gate verifies what is
there, cuts off an incomplete tail, and appends a record of its own when it had
to recover.

A call yields the list of file operations it performs together with its
result, so that a crash in the middle of a call can be described.  File
operations succeed, except that one system call does not write more than
`maxWrite` bytes.
-/

/-- The most bytes that one `write` transfers on Linux. -/
def maxWrite : Nat := 0x7ffff000

structure AuditGate where
  segmentName : Text
  (writerOffset sequence : Nat)
  lastHash : Hash
  circuitBroken : Bool
  (maxSegmentSize segmentIndex : Nat)
  anchor : AnchorState
  deriving DecidableEq

/-- An event in the form in which it is stored, and the time it carries.  The serialised
form is a vector, so it has fewer than 2^63 bytes. -/
structure AuditEvent where
  timestampMs : UInt64
  json : Bytes
  allocated : json.length < 2 ^ 63
  deriving DecidableEq

structure AuditReceipt where
  sequence : Nat
  hash : Hash
  deriving DecidableEq

/-- The file operations of a call and its result. -/
structure Performed (α : Type) where
  operations : List FileOperation
  result : α

def anchorName : Text := "audit.anchor"
def anchorTemporaryName : Text := "audit.anchor.tmp"

section Calls

variable (host : Host)

/-- The attributes of the files that the gate creates. -/
def ownStat : FileStat :=
  ⟨false, auditFileMode, host.uid⟩

/-! ## The anchor -/

variable (dir : Directory)

def loadAnchor : Except AuditError (Option AnchorState) :=
  match dir.get anchorName with
  | none => .ok none
  | some file =>
    if file.stat.symlink then .error (.symlinkDetected anchorName)
    else if file.stat.mode ≠ auditFileMode then
      .error (.modeMismatch ("anchor mode " ++ octal file.stat.mode ++
        " != expected " ++ octal auditFileMode))
    else if file.stat.uid ≠ host.uid then
      .error (.ownerMismatch ("anchor uid " ++ decimal file.stat.uid ++
        " != expected " ++ decimal host.uid))
    else if file.content.length < anchorSize then .error unexpectedEof
    else (decodeAnchor host.env (file.content.take anchorSize)).map some

/-- The operations that replace the anchor. -/
def anchorOperations (state : AnchorState) : List FileOperation :=
  [.openTruncated anchorTemporaryName (ownStat host),
    .write anchorTemporaryName 0 (encodeAnchor host.env state),
    .sync anchorTemporaryName,
    .rename anchorTemporaryName anchorName,
    .syncDirectory]

/-- Write the new anchor beside the old one and rename it. -/
def writeAnchor (state : AnchorState) :
    Except AuditError (List FileOperation) :=
  if (dir.get anchorTemporaryName).any (fun file => file.stat.symlink) then
    .error (.io "open anchor tmp: ELOOP: Too many symbolic links encountered")
  else
    .ok (anchorOperations host state)

/-! ## Segments -/

/-- A new segment that holds only its header. -/
def createSegment (name : Text) (header : SegmentHeader) : List FileOperation :=
  [.create name (ownStat host), .write name 0 (header.encode host.env), .sync name,
    .syncDirectory]

section

variable (gate : AuditGate)

/-- The gate at the start of a new segment. -/
def AuditGate.rotated : AuditGate :=
  { gate with
    segmentName := Audit.segmentName (gate.segmentIndex + 1)
    writerOffset := headerSize
    segmentIndex := gate.segmentIndex + 1 }

def rotateSegment (dir : Directory) :
    Performed (Except AuditError AuditGate) :=
  let nextIndex := gate.segmentIndex + 1
  let name := segmentName nextIndex
  if (dir.get name).isSome then
    ⟨[.sync gate.segmentName], .error (.rotationFailed "create segment: EEXIST: File exists")⟩
  else
    ⟨.sync gate.segmentName ::
        createSegment host name ⟨schemaVersion, nextIndex, gate.sequence + 1, gate.lastHash⟩,
      .ok gate.rotated⟩

/-- The frame of the next record of a gate. -/
def nextFrame (event : AuditEvent) (now : UInt64) : DecodedFrame where
  sequence := gate.sequence + 1
  wallTimeMs := event.timestampMs.toNat
  monotonicMs := now.toNat
  payload := event.json
  previousHash := gate.lastHash
  currentHash := computeRecordHash host.env gate.lastHash (gate.sequence + 1)
    event.timestampMs.toNat now.toNat event.json

/-- The gate behind an appended frame. -/
def AuditGate.advanced (frame : DecodedFrame) : AuditGate :=
  { gate with
    writerOffset := gate.writerOffset + (encodeFrame frame).length
    sequence := frame.sequence
    lastHash := frame.currentHash
    anchor := ⟨gate.segmentIndex, frame.sequence, frame.currentHash⟩ }

/-- Append a frame to the current segment and move the anchor to it. -/
def appendFrame (dir : Directory) (frame : DecodedFrame) :
    Performed (Except AuditError AuditReceipt × AuditGate) :=
  let bytes := encodeFrame frame
  let write := FileOperation.write gate.segmentName gate.writerOffset (bytes.take maxWrite)
  if maxWrite < bytes.length then
    ⟨[write, .setLength gate.segmentName gate.writerOffset, .sync gate.segmentName],
      .error (.io "partial write"), { gate with circuitBroken := true }⟩
  else
    let anchor : AnchorState := ⟨gate.segmentIndex, frame.sequence, frame.currentHash⟩
    let written := [write, .sync gate.segmentName, .syncDirectory]
    match writeAnchor host dir anchor with
    | .error error =>
      ⟨written, .error (.io ("write anchor: " ++ error.message)),
        { gate with circuitBroken := true, writerOffset := gate.writerOffset + bytes.length }⟩
    | .ok ops =>
      ⟨written ++ ops, .ok ⟨frame.sequence, frame.currentHash⟩, gate.advanced frame⟩

/-- Whether the frame would make the current segment too large. -/
def shouldRotate (dir : Directory) (frame : DecodedFrame) : Bool :=
  (dir.get gate.segmentName).any (fun file =>
    decide (gate.maxSegmentSize < file.content.length + (encodeFrame frame).length))

def circuitBroken : AuditError :=
  .circuitBroken "audit subsystem is in failed state"

def record (dir : Directory) (event : AuditEvent)
    (now : UInt64) : Performed (Except AuditError AuditReceipt × AuditGate) :=
  if gate.circuitBroken then ⟨[], .error circuitBroken, gate⟩
  else if maxPayloadSize < event.json.length % 2 ^ 32 then
    ⟨[], .error (.schemaViolation "payload too large"), gate⟩
  else if 2 ^ 64 <= gate.sequence + 1 then ⟨[], .error .overflow, gate⟩
  else
    let frame := nextFrame host gate event now
    if shouldRotate gate dir frame then
      let rotation := rotateSegment host gate dir
      match rotation.result with
      | .error error => ⟨rotation.operations, .error error, gate⟩
      | .ok rotated =>
        let appended := appendFrame host rotated (dir.applyAll rotation.operations) frame
        ⟨rotation.operations ++ appended.operations, appended.result⟩
    else appendFrame host gate dir frame

end

/-! ## Recovery -/

inductive RecoveryReason
  | incompleteTailTruncated
  | anchorViolation

def RecoveryReason.label : RecoveryReason -> Text
  | incompleteTailTruncated => "incomplete_tail_truncated"
  | anchorViolation => "anchor_violation"

variable (timestampMs : UInt64)

section

variable (reason : RecoveryReason) (truncatedSize anchorSegment anchorSequence : UInt64)

/-- The parts of the text of the event `daemon.recover`. -/
def recoverParts : List Text :=
  ["\x7b\"v\":2,\"ts\":", decimal timestampMs.toNat,
    ",\"kind\":\"daemon.recover\",\"reason\":\"", reason.label,
    "\",\"truncated_size\":", decimal truncatedSize.toNat,
    ",\"anchor_segment\":", decimal anchorSegment.toNat,
    ",\"anchor_sequence\":", decimal anchorSequence.toNat, "\x7d"]

theorem length_recoverParts_le :
    ∀ part ∈ recoverParts timestampMs reason truncatedSize anchorSegment anchorSequence,
      part.length <= 40 := by
  have number : ∀ value : UInt64, (decimal value.toNat).length <= 40 := by
    intro value
    apply length_decimal_le (by decide)
    have bound := value.toNat_lt
    omega
  have label : reason.label.length <= 40 := by
    cases reason <;> decide
  unfold recoverParts
  simp only [List.forall_mem_cons]
  exact ⟨by decide, number _, by decide, label, by decide, number _, by decide, number _,
    by decide, number _, by decide, List.forall_mem_nil _⟩

end

theorem length_flatten_le {parts : List Text} {bound : Nat}
    (short : ∀ part ∈ parts, part.length <= bound) :
    parts.flatten.length <= parts.length * bound := by
  induction parts with
  | nil => exact Nat.zero_le _
  | cons head tail ih =>
    have first := short head List.mem_cons_self
    have rest := ih (fun part mem => short part (List.mem_cons_of_mem _ mem))
    rw [List.flatten_cons, List.length_append, List.length_cons, Nat.succ_mul]
    omega

section

variable (reason : RecoveryReason) (truncatedSize anchorSegment anchorSequence : UInt64)

/-- A recovery event is far from the limit on payloads. -/
theorem length_recoverParts :
    (Text.utf8 (recoverParts timestampMs reason truncatedSize anchorSegment
      anchorSequence).flatten).length <= maxPayloadSize := by
  have characters := length_flatten_le
    (length_recoverParts_le timestampMs reason truncatedSize anchorSegment anchorSequence)
  have count : (recoverParts timestampMs reason truncatedSize anchorSegment
      anchorSequence).length = 11 := rfl
  have bytes := Text.length_utf8_le
    (recoverParts timestampMs reason truncatedSize anchorSegment anchorSequence).flatten
  rw [maxPayloadSize]
  omega

/-- The event `daemon.recover`, as it is serialised. -/
def daemonRecover : AuditEvent where
  timestampMs
  json := Text.utf8 (recoverParts timestampMs reason truncatedSize anchorSegment
    anchorSequence).flatten
  allocated := (length_recoverParts ..).trans_lt (by decide)

end

/-! ## Opening -/

def initialHeader : SegmentHeader :=
  ⟨schemaVersion, 0, 1, 0⟩

def initialAnchor : AnchorState :=
  ⟨0, 0, 0⟩

/-- A gate at the start of a new log. -/
def initialGate (maxSize : Nat) : AuditGate where
  segmentName := segmentName 0
  writerOffset := headerSize
  sequence := 0
  lastHash := 0
  circuitBroken := false
  maxSegmentSize := maxSize
  segmentIndex := 0
  anchor := initialAnchor

def createInitialSegment (maxSize : Nat) :
    Performed (Except AuditError AuditGate) :=
  let name := segmentName 0
  if (dir.get name).isSome then
    ⟨[], .error (.rotationFailed "create initial segment: EEXIST: File exists")⟩
  else
    let created := createSegment host name initialHeader
    match writeAnchor host dir initialAnchor with
    | .error error => ⟨created, .error error⟩
    | .ok ops =>
      ⟨created ++ ops, .ok (initialGate maxSize)⟩

/-- What opening finds in a directory with at least one segment. -/
structure Inspection where
  segmentName : Text
  (segmentIndex lastSequence lastValidOffset fileSize nextSequence : Nat)
  nextHash : Hash
  anchor : Option AnchorState

variable (found : Inspection)

/-- There are bytes behind the last valid record. -/
def Inspection.hasTailGarbage : Bool :=
  decide (found.lastValidOffset < found.fileSize)

/-- The number that `current_sequence` shows, with the wrap-around of a release build. -/
def Inspection.sequence : Nat :=
  (found.nextSequence + (2 ^ 64 - 1)) % 2 ^ 64

/-- The anchor is behind the last record. -/
def Inspection.anchorBehind : Bool :=
  found.anchor.any (fun anchor =>
    decide (anchor.sequence < found.lastSequence ∨ anchor.segmentIndex < found.segmentIndex))

def Inspection.needsRecovery : Bool :=
  found.hasTailGarbage || found.anchorBehind

/-- The comparison of the anchor with the last segment. -/
def Inspection.checkAnchor : Except AuditError Unit :=
  match found.anchor with
  | none => .ok ()
  | some anchor =>
    if found.segmentIndex < anchor.segmentIndex then
      .error (.anchorViolation "anchor points to deleted segment")
    else if found.hasTailGarbage /\ anchor.segmentIndex = found.segmentIndex /\
        found.lastSequence < anchor.sequence then
      .error (.anchorViolation ("anchor attests into truncated region: anchor seq " ++
        decimal anchor.sequence ++ " > last valid seq " ++ decimal found.lastSequence))
    else .ok ()

/-- The findings of the tolerant loop over the last segment; without a record the next
number and hash are those of the header. -/
def Inspection.of (name : Text) (index : Nat) (info : RecordInfo) (fileSize : Nat)
    (header : SegmentHeader) (anchor : Option AnchorState) : Inspection where
  segmentName := name
  segmentIndex := index
  lastSequence := info.sequence
  lastValidOffset := info.offset
  fileSize
  nextSequence :=
    if info.offset <= headerSize then header.firstSequence else (info.sequence + 1) % 2 ^ 64
  nextHash := if info.offset <= headerSize then header.previousFinalHash else info.hash
  anchor

/-- The part of opening that only reads, for a directory whose last segment has a given name. -/
def inspect (anchor : Option AnchorState) (name : Text) :
    Except AuditError Inspection := do
  verifyAllSegments host dir (listSegments dir)
  let index <- extractSegmentIndex name
  let info <- readLastValidRecordInfo host dir name
  let content <- openFileAt dir name
  let header <- readSegmentHeader host dir name
  let found := Inspection.of name index info content.length header anchor
  found.checkAnchor
  return found

/-- The gate over an inspected directory, once the tail is cut off. -/
def Inspection.gate (maxSize : Nat) : AuditGate where
  segmentName := found.segmentName
  writerOffset := found.lastValidOffset
  sequence := found.sequence
  lastHash := found.nextHash
  circuitBroken := false
  maxSegmentSize := maxSize
  segmentIndex := found.segmentIndex
  anchor := found.anchor.getD ⟨found.segmentIndex, found.sequence, found.nextHash⟩

/-- Cutting off the incomplete tail. -/
def Inspection.truncation : List FileOperation :=
  if found.hasTailGarbage then
    [.setLength found.segmentName found.lastValidOffset, .sync found.segmentName]
  else []

/-- The event that reports a recovery. -/
def Inspection.recovery (anchor : AnchorState) (timestampMs : UInt64) :
    AuditEvent :=
  daemonRecover timestampMs
    (if found.hasTailGarbage then .incompleteTailTruncated else .anchorViolation)
    (.ofNat (if found.hasTailGarbage then found.fileSize - found.lastValidOffset else 0))
    (.ofNat anchor.segmentIndex) (.ofNat anchor.sequence)

/-- The times at which a recovery event is built and recorded. -/
structure Clock where
  (timestampMs monotonicMs : UInt64)

/-- Append the recovery event, if there is something to report. -/
def recover (gate : AuditGate) (dir : Directory) (clock : Clock) :
    Performed (Except AuditError AuditGate) :=
  if found.needsRecovery then
    let recorded := record host gate dir (found.recovery gate.anchor clock.timestampMs)
      clock.monotonicMs
    match recorded.result with
    | (.error error, _) => ⟨recorded.operations, .error error⟩
    | (.ok _, left) => ⟨recorded.operations, .ok left⟩
  else ⟨[], .ok gate⟩

/-- The part of opening that writes. -/
def resume (dir : Directory) (maxSize : Nat) (clock : Clock) :
    Performed (Except AuditError AuditGate) :=
  let truncated := dir.applyAll found.truncation
  let gate := found.gate maxSize
  match found.anchor with
  | some _ =>
    let recovered := recover host found gate truncated clock
    ⟨found.truncation ++ recovered.operations, recovered.result⟩
  | none =>
    match writeAnchor host truncated gate.anchor with
    | .error error => ⟨found.truncation, .error error⟩
    | .ok ops =>
      let recovered := recover host found gate (truncated.applyAll ops) clock
      ⟨found.truncation ++ (ops ++ recovered.operations), recovered.result⟩

def openGate (maxSize : Nat) (clock : Clock) :
    Performed (Except AuditError AuditGate) :=
  match loadAnchor host dir with
  | .error error => ⟨[], .error error⟩
  | .ok anchor =>
    match (listSegments dir).getLast? with
    | none =>
      if anchor.any (fun state => decide (0 < state.sequence)) then
        ⟨[], .error (.anchorViolation "anchor references deleted segments")⟩
      else createInitialSegment host dir maxSize
    | some name =>
      match inspect host dir anchor name with
      | .error error => ⟨[], .error error⟩
      | .ok found => resume host found dir maxSize clock

end Calls

end ControlVault.Audit
