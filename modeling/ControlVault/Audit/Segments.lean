import ControlVault.Audit.Format
import ControlVault.Foundation.Directory
import ControlVault.Foundation.SortedSet

namespace ControlVault.Audit

open Foundation Core

/-!
# Reading and verifying the segments

Three loops read the frames of a segment.  The strict one stops with an error
at the first frame that is not whole, not sealed or not linked to the frame
before it; the tolerant one, used for the last segment, stops there without an
error; the third counts frames by their length fields alone.  The strict one
and the counting one take a rest of fewer than four bytes for the end of the
file.
-/

/-- What the gate takes from the system it runs on. -/
structure Host where
  env : Env
  uid : Nat

def auditFileMode : Nat := 0o600

def octal (number : Nat) : Text :=
  Nat.toDigits 8 number

def openFileAt (dir : Directory) (name : Text) : Except AuditError Bytes :=
  match dir.get name with
  | none => .error (.io ("openat " ++ name ++ ": ENOENT: No such file or directory"))
  | some file =>
    if file.stat.symlink then
      .error (.io ("openat " ++ name ++ ": ELOOP: Too many symbolic links encountered"))
    else .ok file.content

def checkFileAt (host : Host) (dir : Directory) (name : Text) : Except AuditError Unit :=
  match dir.get name with
  | none => .error (.io ("fstatat " ++ name ++ ": ENOENT: No such file or directory"))
  | some file =>
    if file.stat.symlink then .error (.symlinkDetected name)
    else if file.stat.mode ≠ auditFileMode then
      .error (.modeMismatch ("file " ++ name ++ " mode " ++ octal file.stat.mode ++
        " != expected " ++ octal auditFileMode))
    else if file.stat.uid ≠ host.uid then
      .error (.ownerMismatch ("file " ++ name ++ " uid " ++ decimal file.stat.uid ++
        " != expected " ++ decimal host.uid))
    else .ok ()

/-! ## Names -/

def segmentPrefix : Text := "audit-"
def segmentSuffix : Text := ".log"

def segmentName (index : Nat) : Text :=
  segmentPrefix ++ paddedDecimal 6 index ++ segmentSuffix

def isSegmentName (name : Text) : Bool :=
  segmentPrefix.isPrefixOf name && segmentSuffix.isSuffixOf name

/-- The names of all segments, sorted. -/
def listSegments (dir : Directory) : List Text :=
  (SortedSet.ofList ((dir.toList.map Prod.fst).filter isSegmentName)).elements

/-- The part of a name between the fixed prefix and the fixed suffix. -/
def stripName (name : Text) : Option Text :=
  if segmentPrefix.isPrefixOf name then
    let rest := name.drop segmentPrefix.length
    if segmentSuffix.isSuffixOf rest then some (rest.take (rest.length - segmentSuffix.length))
    else none
  else none

def extractSegmentIndex (name : Text) : Except AuditError Nat :=
  match stripName name with
  | none => .error (.invalidFrame "bad segment name")
  | some index =>
    match parseUnsigned 64 index with
    | none => .error (.invalidFrame "bad segment index")
    | some number => .ok number

/-! ## Frames one after another -/

variable (host : Host)

def readSegmentHeader (dir : Directory) (name : Text) : Except AuditError SegmentHeader := do
  let content <- openFileAt dir name
  if content.length < headerSize then throw unexpectedEof
  SegmentHeader.decode host.env (content.take headerSize)

/-- The outcome of reading the bytes of one frame. -/
inductive FrameRead
  | endOfFile
  | failed (error : AuditError)
  | frame (raw rest : Bytes)

/-- Read the bytes of one frame; errors name the place that reads. -/
def readFrameIn (place : Text) (rest : Bytes) : FrameRead :=
  if rest.length < 4 then .endOfFile
  else if ofLittleEndian (slice rest 0 4) ≠ frameMagic then
    .failed (.invalidFrame ("bad frame magic" ++ place))
  else if rest.length < 4 + 8 then .failed unexpectedEof
  else
    let frameLen := ofLittleEndian (slice rest 4 8)
    if frameLen < frameOverhead ∨ maxFrameSize < frameLen then
      .failed (.invalidFrame ("bad frame length" ++ place ++ ": " ++ decimal frameLen))
    else if rest.length < 12 + frameLen then .failed unexpectedEof
    else .frame (rest.take (12 + frameLen)) (rest.drop (12 + frameLen))

def readFrame (rest : Bytes) : FrameRead :=
  readFrameIn [] rest

/-- Where a loop over the frames of a segment stands.  The hash is both the last
one read and the one expected in front of the next frame. -/
structure ChainCursor where
  sequence : Nat
  lastHash : Hash
  (expectedSequence offset : Nat)

def ChainCursor.start (header : SegmentHeader) : ChainCursor where
  sequence := 0
  lastHash := header.previousFinalHash
  expectedSequence := header.firstSequence
  offset := headerSize

/-- The cursor behind a record; the expected number wraps around as in a release build. -/
def ChainCursor.advance (cursor : ChainCursor) (record : DecodedFrame) (size : Nat) :
    ChainCursor where
  sequence := record.sequence
  lastHash := record.currentHash
  expectedSequence := (cursor.expectedSequence + 1) % 2 ^ 64
  offset := cursor.offset + size

inductive RecordRead
  | endOfFile
  | failed (error : AuditError)
  | record (raw : Bytes) (frame : DecodedFrame) (rest : Bytes)

/-- Read one frame and check that it continues the chain. -/
def readRecord (cursor : ChainCursor) (rest : Bytes) : RecordRead :=
  match readFrame rest with
  | .endOfFile => .endOfFile
  | .failed error => .failed error
  | .frame raw later =>
    match decodeFrame host.env raw with
    | .error error => .failed error
    | .ok record =>
      if record.previousHash ≠ cursor.lastHash then
        .failed (.hashMismatch (hexOf cursor.lastHash) (hexOf record.previousHash))
      else if record.sequence ≠ cursor.expectedSequence then
        .failed (.sequenceGap cursor.expectedSequence record.sequence)
      else .record raw record later

/-- The strict loop. -/
def walkStrict : Nat -> ChainCursor -> Bytes -> Except AuditError ChainCursor
  | 0, cursor, _ => .ok cursor
  | fuel + 1, cursor, rest =>
    match readRecord host cursor rest with
    | .endOfFile => .ok cursor
    | .failed error => .error error
    | .record raw frame later => walkStrict fuel (cursor.advance frame raw.length) later

/-- The tolerant loop. -/
def walkValid : Nat -> ChainCursor -> Bytes -> ChainCursor
  | 0, cursor, _ => cursor
  | fuel + 1, cursor, rest =>
    match readRecord host cursor rest with
    | .record raw frame later => walkValid fuel (cursor.advance frame raw.length) later
    | _ => cursor

/-- The counting loop. -/
def countFrames : Nat -> Nat -> Bytes -> Except AuditError Nat
  | 0, count, _ => .ok count
  | fuel + 1, count, rest =>
    match readFrame rest with
    | .endOfFile => .ok count
    | .failed error => .error error
    | .frame _ later => countFrames fuel (count + 1) later

/-- What a loop over a segment reports: the last number, the last hash, the offset behind it. -/
structure RecordInfo where
  sequence : Nat
  hash : Hash
  offset : Nat
  deriving DecidableEq

def ChainCursor.info (cursor : ChainCursor) : RecordInfo :=
  ⟨cursor.sequence, cursor.lastHash, cursor.offset⟩

def noRecords : RecordInfo :=
  ⟨0, 0, headerSize⟩

/-- Both readers of the last record, with the loop of either. -/
def readLast (walk : Nat -> ChainCursor -> Bytes -> Except AuditError ChainCursor) (dir : Directory)
    (name : Text) : Except AuditError RecordInfo := do
  let content <- openFileAt dir name
  if content.length <= headerSize then return noRecords
  let header <- SegmentHeader.decode host.env (content.take headerSize)
  let cursor <- walk content.length (.start header) (content.drop headerSize)
  return cursor.info

def readLastRecordInfo : Directory -> Text -> Except AuditError RecordInfo :=
  readLast host (walkStrict host)

def readLastValidRecordInfo : Directory -> Text -> Except AuditError RecordInfo :=
  readLast host (fun fuel cursor rest => .ok (walkValid host fuel cursor rest))

def countRecordsInSegment (dir : Directory) (name : Text) : Except AuditError Nat := do
  let content <- openFileAt dir name
  if content.length <= headerSize then return 0
  countFrames content.length 0 (content.drop headerSize)

/-- The loop of the export, up to parsing the payloads. -/
def exportFrames : Nat -> Bytes -> Except AuditError (List DecodedFrame)
  | 0, _ => .ok []
  | fuel + 1, rest =>
    match readFrameIn " in export" rest with
    | .endOfFile => .ok []
    | .failed error => .error error
    | .frame raw later => do
        let record <- decodeFrame host.env raw
        let records <- exportFrames fuel later
        return record :: records

def exportSegment (dir : Directory) (name : Text) :
    Except AuditError (List DecodedFrame) := do
  checkFileAt host dir name
  let content <- openFileAt dir name
  if content.length <= headerSize then return []
  let _ <- SegmentHeader.decode host.env (content.take headerSize)
  exportFrames host content.length (content.drop headerSize)

/-! ## All segments -/

/-- The check that a header continues the chain.  The number of the first record is
only checked in the first segment. -/
def checkContinuation (position : Nat) (expectedHash : Hash) (header : SegmentHeader) :
    Except AuditError Unit :=
  if position = 0 then
    if header.firstSequence ≠ 1 then .error (.sequenceGap 1 header.firstSequence)
    else if header.previousFinalHash ≠ 0 then
      .error (.hashMismatch (hexOf 0) (hexOf header.previousFinalHash))
    else .ok ()
  else if header.previousFinalHash ≠ expectedHash then
    .error (.hashMismatch (hexOf expectedHash) (hexOf header.previousFinalHash))
  else .ok ()

def readInfo (isLast : Bool) (dir : Directory) (name : Text) : Except AuditError RecordInfo :=
  if isLast then readLastValidRecordInfo host dir name
  else readLastRecordInfo host dir name

/-- The checks of one segment at a position, from the hash that the chain has reached
to the one it reaches behind the segment. -/
def verifySegment (dir : Directory) (position : Nat) (expectedHash : Hash) (isLast : Bool)
    (name : Text) : Except AuditError Hash := do
  let index <- extractSegmentIndex name
  if index ≠ position then throw (.sequenceGap position index)
  checkFileAt host dir name
  let header <- readSegmentHeader host dir name
  if header.segmentIndex ≠ index then
    throw (.invalidFrame ("header index " ++ decimal header.segmentIndex ++
      " != filename index " ++ decimal index))
  checkContinuation position expectedHash header
  let info <- readInfo host isLast dir name
  return if 0 < info.sequence then info.hash else header.previousFinalHash

def verifyFrom (dir : Directory) : Nat -> Hash -> List Text -> Except AuditError Unit
  | _, _, [] => .ok ()
  | position, expectedHash, name :: rest =>
    match verifySegment host dir position expectedHash rest.isEmpty name with
    | .error error => .error error
    | .ok reached => verifyFrom dir (position + 1) reached rest

def verifyAllSegments (dir : Directory) (segs : List Text) : Except AuditError Unit :=
  verifyFrom host dir 0 0 segs

def countAll (dir : Directory) : List Text -> Except AuditError Nat
  | [] => .ok 0
  | name :: rest =>
    match countRecordsInSegment dir name with
    | .error error => .error error
    | .ok count =>
      match countAll dir rest with
      | .error error => .error error
      | .ok total => .ok (count + total)

def verifyAll (dir : Directory) : Except AuditError Nat :=
  match verifyAllSegments host dir (listSegments dir) with
  | .error error => .error error
  | .ok () => countAll dir (listSegments dir)

/-- The records that `export_verified` reads, before it parses and limits them. -/
def exportRecords (dir : Directory) : List Text -> Except AuditError (List DecodedFrame)
  | [] => .ok []
  | name :: rest => do
      let records <- exportSegment host dir name
      let later <- exportRecords dir rest
      return records ++ later

end ControlVault.Audit
