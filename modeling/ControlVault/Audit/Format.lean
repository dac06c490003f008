import ControlVault.Core.Ids
import ControlVault.Foundation.Decimal

namespace ControlVault.Audit

open Foundation Core List

/-!
# The file format of the audit log

The log is a sequence of segment files.  A segment is a header followed by
frames, one for each record.  Headers, frames and the anchor that names the
last acknowledged record each carry an unkeyed hash of their own fields, and a
frame also carries the hash of the frame before it.

The codecs below are followed by their two directions: what was encoded is
decoded to the same value, and what is decoded was encoded, up to the bytes a
frame may hold behind its hashes, which no field and no hash covers.
-/

abbrev Hash := BitVec 256

def segmentMagic : Nat := 0x41554453
def frameMagic : Nat := 0x41554449
def anchorMagic : Nat := 0x41554441
def schemaVersion : Nat := 1
def headerSize : Nat := 4 + 4 + 8 + 8 + 32 + 32
def anchorSize : Nat := 4 + 4 + 8 + 8 + 32 + 32
def frameOverhead : Nat := 8 + 8 + 8 + 4 + 32 + 32
def maxPayloadSize : Nat := 64 * 1024
def maxFrameSize : Nat := frameOverhead + maxPayloadSize
def hashDomain : Text := "passless/audit/record/v1"
def headerDomain : Text := "passless/audit/header/v1"
def anchorDomain : Text := "passless/audit/anchor/v1"

inductive AuditError
  | io (message : Text)
  | symlinkDetected (message : Text)
  | invalidFrame (message : Text)
  | hashMismatch (expected actual : Text)
  | sequenceGap (expected actual : Nat)
  | circuitBroken (message : Text)
  | schemaViolation (message : Text)
  | rotationFailed (message : Text)
  | truncatedRecord
  | overflow
  | ownerMismatch (message : Text)
  | modeMismatch (message : Text)
  | anchorViolation (message : Text)
  deriving DecidableEq

def AuditError.message : AuditError -> Text
  | io text => "I/O error: " ++ text
  | symlinkDetected text => "symlink detected: " ++ text
  | invalidFrame text => "invalid frame: " ++ text
  | hashMismatch expected actual =>
    "hash mismatch: expected " ++ expected ++ ", got " ++ actual
  | sequenceGap expected actual =>
    "sequence gap: expected " ++ decimal expected ++ ", got " ++ decimal actual
  | circuitBroken text => "circuit broken: " ++ text
  | schemaViolation text => "schema violation: " ++ text
  | rotationFailed text => "rotation failed: " ++ text
  | truncatedRecord => "truncated record"
  | overflow => "sequence overflow"
  | ownerMismatch text => "owner mismatch: " ++ text
  | modeMismatch text => "mode mismatch: " ++ text
  | anchorViolation text => "anchor violation: " ++ text

/-- What `read_exact` reports at the end of a file. -/
def unexpectedEof : AuditError :=
  .io "failed to fill whole buffer"

/-! ## Hashes as bytes -/

def hashOfBytes (bytes : Bytes) : Hash :=
  BitVec.ofNat 256 (ofLittleEndian bytes.reverse)

theorem bytesOf_eq (hash : Hash) : bytesOf hash = (littleEndian 32 hash.toNat).reverse :=
  (reverse_littleEndian 32 hash.toNat).symm

@[simp] theorem hashOfBytes_bytesOf (hash : Hash) : hashOfBytes (bytesOf hash) = hash := by
  have bounded : hash.toNat < 256 ^ 32 := hash.isLt
  rw [hashOfBytes, bytesOf_eq, reverse_reverse, ofLittleEndian_littleEndian bounded,
    BitVec.ofNat_toNat, BitVec.setWidth_eq]

theorem bytesOf_hashOfBytes {bytes : Bytes} (length : bytes.length = 32) :
    bytesOf (hashOfBytes bytes) = bytes := by
  have bounded := ofLittleEndian_lt bytes.reverse
  have written := littleEndian_ofLittleEndian bytes.reverse
  rw [length_reverse, length] at bounded written
  have value : (hashOfBytes bytes).toNat = ofLittleEndian bytes.reverse :=
    (BitVec.toNat_ofNat _ _).trans (Nat.mod_eq_of_lt bounded)
  rw [bytesOf_eq, value, written, reverse_reverse]

variable {length : Nat} {data : Bytes}

theorem littleEndian_slice (inside : start + length <= data.length) :
    littleEndian length (ofLittleEndian (slice data start length)) = slice data start length := by
  have written := littleEndian_ofLittleEndian (slice data start length)
  rwa [length_slice inside] at written

theorem ofLittleEndian_slice_lt (inside : start + length <= data.length) :
    ofLittleEndian (slice data start length) < 256 ^ length := by
  have bounded := ofLittleEndian_lt (slice data start length)
  rwa [length_slice inside] at bounded

/-! ## Sealed blocks

A header and an anchor have one layout: a magic number, a version, two numbers
and a hash, followed by a digest of these. -/

structure SealedBlock where
  (magic version first second : Nat)
  hash : Hash

namespace SealedBlock

/-- Every number is in the range of its width. -/
structure InRange (block : SealedBlock) : Prop where
  magic : block.magic < 2 ^ 32
  version : block.version < 2 ^ 32
  first : block.first < 2 ^ 64
  second : block.second < 2 ^ 64

def fields (block : SealedBlock) : Bytes :=
  littleEndian 4 block.magic ++ (littleEndian 4 block.version ++ (littleEndian 8 block.first ++
    (littleEndian 8 block.second ++ bytesOf block.hash)))

def ofFields (data : Bytes) : SealedBlock where
  magic := ofLittleEndian (slice data 0 4)
  version := ofLittleEndian (slice data 4 4)
  first := ofLittleEndian (slice data 8 8)
  second := ofLittleEndian (slice data 16 8)
  hash := hashOfBytes (slice data 24 32)

@[simp] theorem length_fields (block : SealedBlock) : block.fields.length = 56 := by
  simp [fields]

theorem ofFields_append {block : SealedBlock} (inRange : block.InRange) (rest : Bytes) :
    ofFields (block.fields ++ rest) = block := by
  have magic : ofLittleEndian (littleEndian 4 block.magic) = block.magic :=
    ofLittleEndian_littleEndian inRange.magic
  have version : ofLittleEndian (littleEndian 4 block.version) = block.version :=
    ofLittleEndian_littleEndian inRange.version
  have first : ofLittleEndian (littleEndian 8 block.first) = block.first :=
    ofLittleEndian_littleEndian inRange.first
  have second : ofLittleEndian (littleEndian 8 block.second) = block.second :=
    ofLittleEndian_littleEndian inRange.second
  simp only [ofFields, fields, append_assoc]
  simp (disch := simp) only [slice_append_left, slice_append_right, length_littleEndian,
    Nat.reduceSub]
  rw [magic, version, first, second, hashOfBytes_bytesOf]

theorem ofFields_inRange (long : 56 <= data.length) : (ofFields data).InRange :=
  ⟨ofLittleEndian_slice_lt (by omega), ofLittleEndian_slice_lt (by omega),
    ofLittleEndian_slice_lt (by omega), ofLittleEndian_slice_lt (by omega)⟩

theorem fields_ofFields (long : 56 <= data.length) :
    (ofFields data).fields ++ data.drop 56 = data := by
  have last : bytesOf (hashOfBytes (slice data 24 32)) = slice data 24 32 :=
    bytesOf_hashOfBytes (length_slice (by omega))
  rw [fields, ofFields, littleEndian_slice (by omega), littleEndian_slice (by omega),
    littleEndian_slice (by omega), littleEndian_slice (by omega), last]
  simp only [append_assoc]
  rw [slice_append_drop data 24 32, slice_append_drop data 16 8, slice_append_drop data 8 8,
    slice_append_drop data 4 4, slice_append_drop data 0 4, drop_zero]

section Sealed

variable (digest : Bytes -> Hash)

/-- The fields followed by their digest. -/
def sealWith (block : SealedBlock) : Bytes :=
  block.fields ++ bytesOf (digest block.fields)

@[simp] theorem length_sealWith (block : SealedBlock) : (block.sealWith digest).length = 88 := by
  simp [sealWith]

theorem ofFields_sealWith {block : SealedBlock} (inRange : block.InRange) :
    ofFields (block.sealWith digest) = block :=
  ofFields_append inRange _

theorem digest_sealWith (block : SealedBlock) :
    digest (slice (block.sealWith digest) 0 56) =
      hashOfBytes (slice (block.sealWith digest) 56 32) := by
  have front : slice (block.sealWith digest) 0 56 = block.fields :=
    slice_append_left _ (length_fields block)
  have back : slice (block.sealWith digest) 56 32 = bytesOf (digest block.fields) := by
    exact slice_all (length_bytesOf _)
  rw [front, back, hashOfBytes_bytesOf]

/-- Bytes whose digest is right are a sealed block. -/
theorem sealWith_ofFields (length : data.length = 88)
    (matching : digest (slice data 0 56) = hashOfBytes (slice data 56 32)) :
    (ofFields data).sealWith digest = data := by
  have joined := fields_ofFields (show 56 <= data.length by omega)
  have front : slice data 0 56 = (ofFields data).fields := by
    have start := slice_append_left (data.drop 56) (length_fields (ofFields data))
    rwa [joined] at start
  have back : slice data 56 32 = data.drop 56 := by
    rw [slice, take_of_length_le]
    rw [length_drop]
    omega
  have written : bytesOf (hashOfBytes (data.drop 56)) = data.drop 56 := by
    apply bytesOf_hashOfBytes
    rw [length_drop]
    omega
  rw [front, back] at matching
  rw [sealWith, matching, written, joined]

end Sealed

end SealedBlock

variable (env : Env)

/-! ## Segment headers -/

structure SegmentHeader where
  (version segmentIndex firstSequence : Nat)
  previousFinalHash : Hash

def computeHeaderHash (headerBytes : Bytes) : Hash :=
  env.sha256 (headerDomain.utf8 ++ headerBytes)

namespace SegmentHeader

def block (header : SegmentHeader) : SealedBlock where
  magic := segmentMagic
  version := header.version
  first := header.segmentIndex
  second := header.firstSequence
  hash := header.previousFinalHash

def encode (header : SegmentHeader) : Bytes :=
  header.block.sealWith (computeHeaderHash env)

def decode (data : Bytes) : Except AuditError SegmentHeader :=
  let block := SealedBlock.ofFields data
  if block.magic ≠ segmentMagic then .error (.invalidFrame "bad segment magic")
  else if block.version ≠ schemaVersion then
    .error (.schemaViolation ("unsupported version: " ++ decimal block.version))
  else
    let expectedHash := computeHeaderHash env (slice data 0 56)
    let actualHash := hashOfBytes (slice data 56 32)
    if expectedHash ≠ actualHash then
      .error (.hashMismatch (hexOf expectedHash) (hexOf actualHash))
    else .ok ⟨block.version, block.first, block.second, block.hash⟩

/-- A header that the daemon writes: its own version, numbers in range. -/
structure Valid (header : SegmentHeader) : Prop where
  version : header.version = schemaVersion
  segmentIndex : header.segmentIndex < 2 ^ 64
  firstSequence : header.firstSequence < 2 ^ 64

variable {header : SegmentHeader}

theorem Valid.inRange (valid : header.Valid) : header.block.InRange :=
  ⟨show segmentMagic < 2 ^ 32 by decide, valid.version.trans_lt (by decide), valid.segmentIndex,
    valid.firstSequence⟩

@[simp] theorem length_encode (header : SegmentHeader) : (header.encode env).length = headerSize :=
  SealedBlock.length_sealWith _ _

theorem decode_encode (valid : header.Valid) : decode env (header.encode env) = .ok header := by
  have split : SealedBlock.ofFields (header.encode env) = header.block :=
    SealedBlock.ofFields_sealWith _ valid.inRange
  have digest : computeHeaderHash env (slice (header.encode env) 0 56) =
      hashOfBytes (slice (header.encode env) 56 32) :=
    SealedBlock.digest_sealWith _ _
  have version : header.block.version = schemaVersion := valid.version
  rw [decode, split, if_neg (not_not_intro version)]
  exact if_neg (not_not_intro digest)

/-- Bytes that decode as a header are the encoding of a valid one. -/
theorem decode_ok (length : data.length = headerSize) (decoded : decode env data = .ok header) :
    header.Valid /\ data = header.encode env := by
  have inRange : (SealedBlock.ofFields data).InRange :=
    SealedBlock.ofFields_inRange (length.ge.trans' (by decide))
  rw [decode] at decoded
  dsimp only at decoded
  split_ifs at decoded with magic version digest
  cases decoded
  refine ⟨⟨not_not.mp version, inRange.first, inRange.second⟩, ?_⟩
  have restored := SealedBlock.sealWith_ofFields _ length (not_not.mp digest)
  rw [encode, block, <- not_not.mp magic]
  exact restored.symm

end SegmentHeader

/-! ## Anchors -/

structure AnchorState where
  (segmentIndex sequence : Nat)
  hash : Hash
  deriving DecidableEq

namespace AnchorState

def block (state : AnchorState) : SealedBlock where
  magic := anchorMagic
  version := schemaVersion
  first := state.segmentIndex
  second := state.sequence
  hash := state.hash

structure Valid (state : AnchorState) : Prop where
  segmentIndex : state.segmentIndex < 2 ^ 64
  sequence : state.sequence < 2 ^ 64

end AnchorState

def computeAnchorHash (anchorBytes : Bytes) : Hash :=
  env.sha256 (anchorDomain.utf8 ++ anchorBytes)

def encodeAnchor (state : AnchorState) : Bytes :=
  state.block.sealWith (computeAnchorHash env)

def decodeAnchor (data : Bytes) : Except AuditError AnchorState :=
  let block := SealedBlock.ofFields data
  if block.magic ≠ anchorMagic then .error (.anchorViolation "bad anchor magic")
  else if block.version ≠ schemaVersion then
    .error (.schemaViolation ("unsupported anchor version: " ++ decimal block.version))
  else if hashOfBytes (slice data 56 32) ≠ computeAnchorHash env (slice data 0 56) then
    .error (.anchorViolation "anchor hash mismatch")
  else .ok ⟨block.first, block.second, block.hash⟩

@[simp] theorem length_encodeAnchor (state : AnchorState) :
    (encodeAnchor env state).length = anchorSize :=
  SealedBlock.length_sealWith _ _

theorem decodeAnchor_encodeAnchor {state : AnchorState} (valid : state.Valid) :
    decodeAnchor env (encodeAnchor env state) = .ok state := by
  have inRange : state.block.InRange :=
    ⟨show anchorMagic < 2 ^ 32 by decide, show schemaVersion < 2 ^ 32 by decide,
      valid.segmentIndex, valid.sequence⟩
  have split : SealedBlock.ofFields (encodeAnchor env state) = state.block :=
    SealedBlock.ofFields_sealWith _ inRange
  have digest : computeAnchorHash env (slice (encodeAnchor env state) 0 56) =
      hashOfBytes (slice (encodeAnchor env state) 56 32) :=
    SealedBlock.digest_sealWith _ _
  have magic : state.block.magic = anchorMagic := rfl
  have version : state.block.version = schemaVersion := rfl
  rw [decodeAnchor, split, if_neg (not_not_intro digest.symm)]
  rfl

/-! ## Frames -/

structure DecodedFrame where
  (sequence wallTimeMs monotonicMs : Nat)
  payload : Bytes
  (previousHash currentHash : Hash)
  deriving DecidableEq

def computeRecordHash (previousHash : Hash) (sequence wallTimeMs monotonicMs : Nat)
    (payload : Bytes) : Hash :=
  env.sha256 (hashDomain.utf8 ++ bytesOf previousHash ++ littleEndian 8 sequence ++
    littleEndian 8 wallTimeMs ++ littleEndian 8 monotonicMs ++ littleEndian 4 payload.length ++
    payload)

variable (frame : DecodedFrame)

/-- The hash of the fields of a frame. -/
def DecodedFrame.hash : Hash :=
  computeRecordHash env frame.previousHash frame.sequence frame.wallTimeMs frame.monotonicMs
    frame.payload

/-- The fields of a frame behind its magic number and its length. -/
def DecodedFrame.body : Bytes :=
  littleEndian 8 frame.sequence ++ (littleEndian 8 frame.wallTimeMs ++
    (littleEndian 8 frame.monotonicMs ++ (littleEndian 4 frame.payload.length ++
      (frame.payload ++ (bytesOf frame.previousHash ++ bytesOf frame.currentHash)))))

def encodeFrame : Bytes :=
  littleEndian 4 frameMagic ++ (littleEndian 8 (frameOverhead + frame.payload.length) ++ frame.body)

/-- The length that the body of a frame gives for its payload. -/
def payloadLength (body : Bytes) : Nat :=
  ofLittleEndian (slice body 24 4)

/-- The fields that the body of a frame holds. -/
def readBody (body : Bytes) : DecodedFrame where
  sequence := ofLittleEndian (slice body 0 8)
  wallTimeMs := ofLittleEndian (slice body 8 8)
  monotonicMs := ofLittleEndian (slice body 16 8)
  payload := slice body 28 (payloadLength body)
  previousHash := hashOfBytes (slice body (28 + payloadLength body) 32)
  currentHash := hashOfBytes (slice body (28 + payloadLength body + 32) 32)

def decodeFrame (data : Bytes) : Except AuditError DecodedFrame :=
  if data.length < 4 + 8 then .error .truncatedRecord
  else if ofLittleEndian (slice data 0 4) ≠ frameMagic then
    .error (.invalidFrame "bad frame magic")
  else
    let frameLen := ofLittleEndian (slice data 4 8)
    if frameLen < frameOverhead ∨ maxFrameSize < frameLen then
      .error (.invalidFrame ("bad frame length: " ++ decimal frameLen ++ " (min " ++
        decimal frameOverhead ++ ", max " ++ decimal maxFrameSize ++ ")"))
    else if data.length < 12 + frameLen then .error .truncatedRecord
    else
      let body := slice data 12 frameLen
      if maxPayloadSize < payloadLength body then
        .error (.invalidFrame "payload too large")
      else if body.length < 28 + payloadLength body + 64 then .error .truncatedRecord
      else
        let frame := readBody body
        if frame.hash env ≠ frame.currentHash then
          .error (.hashMismatch (hexOf (frame.hash env)) (hexOf frame.currentHash))
        else .ok frame

namespace DecodedFrame

/-- A frame as the daemon writes it: numbers in range, and its own hash. -/
structure Sealed (frame : DecodedFrame) : Prop where
  sequence : frame.sequence < 2 ^ 64
  wallTimeMs : frame.wallTimeMs < 2 ^ 64
  monotonicMs : frame.monotonicMs < 2 ^ 64
  payload : frame.payload.length <= maxPayloadSize
  hash : frame.hash env = frame.currentHash

variable (frame : DecodedFrame)

theorem length_body : frame.body.length = frameOverhead + frame.payload.length := by
  simp [body, frameOverhead]
  omega

@[simp] theorem length_encodeFrame :
    (encodeFrame frame).length = 12 + (frameOverhead + frame.payload.length) := by
  rw [encodeFrame, length_append, length_append, length_littleEndian, length_littleEndian,
    length_body]
  omega

private theorem body_eq :
    frame.body = (littleEndian 8 frame.sequence ++ (littleEndian 8 frame.wallTimeMs ++
      (littleEndian 8 frame.monotonicMs ++ littleEndian 4 frame.payload.length))) ++
        (frame.payload ++ (bytesOf frame.previousHash ++ bytesOf frame.currentHash)) := by
  simp only [body, append_assoc]

theorem payloadLength_body {frame : DecodedFrame} (complete : frame.Sealed env) :
    payloadLength frame.body = frame.payload.length := by
  have small : frame.payload.length <= 65536 := complete.payload
  rw [payloadLength, body]
  simp (disch := simp) only [slice_append_left, slice_append_right, length_littleEndian,
    Nat.reduceSub]
  exact ofLittleEndian_littleEndian (by omega)

theorem readBody_body {frame : DecodedFrame} (complete : frame.Sealed env) :
    readBody frame.body = frame := by
  have sequence : ofLittleEndian (littleEndian 8 frame.sequence) = frame.sequence :=
    ofLittleEndian_littleEndian complete.sequence
  have wallTimeMs : ofLittleEndian (littleEndian 8 frame.wallTimeMs) = frame.wallTimeMs :=
    ofLittleEndian_littleEndian complete.wallTimeMs
  have monotonicMs : ofLittleEndian (littleEndian 8 frame.monotonicMs) = frame.monotonicMs :=
    ofLittleEndian_littleEndian complete.monotonicMs
  have front : ∀ start length, slice frame.body (28 + start) length =
      slice (frame.payload ++ (bytesOf frame.previousHash ++ bytesOf frame.currentHash)) start
        length := by
    intro start length
    rw [body_eq]
    exact slice_append_add _ start length (by simp)
  have payload : slice frame.body 28 frame.payload.length = frame.payload := by
    have start := front 0 frame.payload.length
    rwa [slice_append_left _ rfl] at start
  have previousHash : slice frame.body (28 + frame.payload.length) 32 =
      bytesOf frame.previousHash := by
    have start := slice_append_add (bytesOf frame.previousHash ++ bytesOf frame.currentHash) 0 32
      (rfl : frame.payload.length = _)
    rw [Nat.add_zero] at start
    rw [front, start, slice_append_left _ (length_bytesOf _)]
  have currentHash : slice frame.body (28 + frame.payload.length + 32) 32 =
      bytesOf frame.currentHash := by
    rw [Nat.add_assoc, front, slice_append_add _ 32 32 rfl,
      slice_append_right _ _ (length_bytesOf _).le, length_bytesOf, slice_all (length_bytesOf _)]
  rw [readBody, payloadLength_body env complete, previousHash, currentHash, hashOfBytes_bytesOf,
    hashOfBytes_bytesOf]
  simp (disch := simp) only [body, slice_append_left, slice_append_right, length_littleEndian,
    Nat.reduceSub]
  rw [sequence, wallTimeMs, monotonicMs]

theorem magic_encodeFrame (rest : Bytes) :
    ofLittleEndian (slice (encodeFrame frame ++ rest) 0 4) = frameMagic := by
  rw [encodeFrame, append_assoc, slice_append_left _ (length_littleEndian 4 _)]
  exact ofLittleEndian_littleEndian (by decide)

theorem size_encodeFrame {frame : DecodedFrame} (short : frame.payload.length < 2 ^ 63)
    (rest : Bytes) :
    ofLittleEndian (slice (encodeFrame frame ++ rest) 4 8) =
      frameOverhead + frame.payload.length := by
  rw [encodeFrame, append_assoc, append_assoc, slice_append_right _ _ (by simp),
    length_littleEndian, slice_append_left _ (length_littleEndian 8 _)]
  apply ofLittleEndian_littleEndian
  rw [frameOverhead]
  omega

theorem sized_encodeFrame {frame : DecodedFrame} (short : frame.payload.length <= maxPayloadSize) :
    ¬ (frameOverhead + frame.payload.length < frameOverhead ∨
      maxFrameSize < frameOverhead + frame.payload.length) := by
  rw [maxFrameSize]
  omega

theorem decodeFrame_encodeFrame {frame : DecodedFrame} (complete : frame.Sealed env)
    (rest : Bytes) : decodeFrame env (encodeFrame frame ++ rest) = .ok frame := by
  have small : frame.payload.length <= 65536 := complete.payload
  have length : (encodeFrame frame ++ rest).length =
      12 + (frameOverhead + frame.payload.length) + rest.length := by
    rw [length_append, length_encodeFrame]
  have bodyLength := length_body frame
  rw [frameOverhead] at bodyLength
  have magic := magic_encodeFrame frame rest
  have size := size_encodeFrame (show frame.payload.length < 2 ^ 63 by omega) rest
  have content : slice (encodeFrame frame ++ rest) 12 (frameOverhead + frame.payload.length) =
      frame.body := by
    rw [encodeFrame, append_assoc, append_assoc, slice_append_right _ _ (by simp),
      length_littleEndian, slice_append_right _ _ (by simp), length_littleEndian]
    exact slice_append_left _ (length_body frame)
  have short : ¬ (encodeFrame frame ++ rest).length < 4 + 8 := by omega
  have whole : ¬ (encodeFrame frame ++ rest).length <
      12 + (frameOverhead + frame.payload.length) := by omega
  have allowed : ¬ maxPayloadSize < frame.payload.length := complete.payload.not_gt
  have room : ¬ frame.body.length < 28 + frame.payload.length + 64 := by omega
  rw [decodeFrame, if_neg short, if_neg (not_not_intro magic)]
  simp only [size, content, payloadLength_body env complete, readBody_body env complete,
    if_neg (sized_encodeFrame complete.payload), if_neg whole, if_neg allowed, if_neg room]
  exact if_neg (not_not_intro complete.hash)

/-- A body that is long enough for its fields starts with them. -/
theorem body_readBody (long : 28 + payloadLength data + 64 <= data.length) :
    (readBody data).body ++ data.drop (92 + payloadLength data) = data /\
      (readBody data).payload.length = payloadLength data := by
  have payload : (readBody data).payload.length = payloadLength data := length_slice (by omega)
  have previousHash : bytesOf (readBody data).previousHash =
      slice data (28 + payloadLength data) 32 := bytesOf_hashOfBytes (length_slice (by omega))
  have currentHash : bytesOf (readBody data).currentHash =
      slice data (28 + payloadLength data + 32) 32 := bytesOf_hashOfBytes (length_slice (by omega))
  refine ⟨?_, payload⟩
  rw [body, payload, previousHash, currentHash]
  change littleEndian 8 (ofLittleEndian (slice data 0 8)) ++
    (littleEndian 8 (ofLittleEndian (slice data 8 8)) ++
      (littleEndian 8 (ofLittleEndian (slice data 16 8)) ++
        (littleEndian 4 (ofLittleEndian (slice data 24 4)) ++
          (slice data 28 (payloadLength data) ++ _)))) ++ _ = data
  rw [littleEndian_slice (by omega), littleEndian_slice (by omega), littleEndian_slice (by omega),
    littleEndian_slice (by omega)]
  simp only [append_assoc]
  have last : 92 + payloadLength data = 28 + payloadLength data + 32 + 32 := by omega
  rw [last, slice_append_drop, slice_append_drop, slice_append_drop, slice_append_drop data 24 4,
    slice_append_drop data 16 8, slice_append_drop data 8 8, slice_append_drop data 0 8, drop_zero]

end DecodedFrame

end ControlVault.Audit
