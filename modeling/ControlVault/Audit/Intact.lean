import ControlVault.Audit.Layout

namespace ControlVault.Audit

open Foundation Core DecodedFrame List SegmentScan

/-!
# What a successful verification says

`verify_all` walks the last segment with the tolerant loop and then counts its
frames by their length fields, it never compares the two, it takes up to three
bytes behind the last frame for the end of the file, it does not compare the
number of the first record of a later segment with the segment before it, and a
frame may hold bytes that its hash does not cover.  `Exact` collects the checks
that are missing; with them, and only with them, an accepted log is intact.
-/

variable {host : Host} {dir : Directory}

/-- The log is exactly one chain: every segment is the header that belongs there followed
by whole frames, the chain starts with the zero hash and the numbers are one to `count`. -/
def Intact (host : Host) (dir : Directory) (count : Nat) : Prop :=
  ∃ segs : List (List DecodedFrame), Laid host dir 0 1 0 (listSegments dir) segs /\
      Linked host.env 0 1 segs.flatten /\ segs.flatten.map sequence = range' 1 count

/-- The chain covers the whole segment, and the length field of a frame only its fields. -/
structure SegmentScan.Exact (scan : SegmentScan) : Prop where
  noRest : scan.left = []
  noSlack : ∀ piece ∈ scan.pieces,
    ofLittleEndian (slice piece.raw 4 8) = frameOverhead + piece.frame.payload.length

/-- Every header gives the number that comes next, and the numbers stay in range. -/
def Numbered : Nat -> List SegmentScan -> Prop
  | _, [] => True
  | next, scan :: rest =>
    scan.header.firstSequence = next /\ next + scan.pieces.length <= 2 ^ 64 /\
      Numbered (next + scan.pieces.length) rest

/-- The checks that `verify_all` does not make. -/
def Exact (host : Host) (dir : Directory) : Prop :=
  ∀ scans, Verified host dir 0 0 (listSegments dir) scans ->
    (∀ scan ∈ scans, scan.Exact) /\ Numbered 1 scans

namespace Scanned

variable {name : Text} {scan : SegmentScan}

section

variable (scanned : Scanned host dir name scan)

include scanned

/-- Behind an exact scan there are only encoded frames. -/
theorem body_eq (exact : scan.Exact) : scan.body = encodeFrames scan.frames := by
  rw [SegmentScan.body, exact.noRest, append_nil, encodeFrames, SegmentScan.frames, flatMap_map]
  apply flatMap_congr
  intro piece mem
  rcases scanned.walked.piece mem with ⟨sized, _, decoded⟩
  apply eq_encodeFrame sized decoded
  rw [sized, exact.noSlack piece mem]

theorem linked :
    Linked host.env scan.header.previousFinalHash scan.header.firstSequence scan.frames :=
  scanned.walked.linked

/-- The hash taken over from a segment is the one its chain reached, as long as its numbers
are positive and in range. -/
theorem reached_eq (positive : 0 < scan.header.firstSequence)
    (inRange : scan.header.firstSequence + scan.pieces.length <= 2 ^ 64) :
    scan.reached = finalHash scan.header.previousFinalHash scan.frames := by
  have count : scan.frames.length = scan.pieces.length := length_map _
  have number := scanned.walked.sequence
  have last := scanned.linked.lastNumber (by rwa [count])
  change scan.finish.sequence = (scan.frames.getLast?.map sequence).getD 0 at number
  rw [last] at number
  rw [reached]
  by_cases empty : scan.frames = []
  · rw [if_pos empty] at number
    rw [number, if_neg (by decide), empty, finalHash_nil]
  · have some := length_pos_iff.mpr empty
    rw [if_neg empty, Option.getD_some] at number
    rw [if_pos (by omega)]
    exact scanned.walked.lastHash

end

end Scanned

variable {names : List Text} {scans : List SegmentScan} {position next count : Nat} {hash : Hash}
  {frames : List DecodedFrame} {header : SegmentHeader}

/-- Accepted segments with exact scans are laid out as one chain. -/
theorem Verified.laid (verified : Verified host dir position hash names scans)
    (started : position = 0 -> next = 1 /\ hash = 0) (positive : 0 < next)
    (exact : ∀ scan ∈ scans, scan.Exact) (numbered : Numbered next scans) :
    Laid host dir position next hash names (scans.map SegmentScan.frames) /\
      Linked host.env hash next (scans.map SegmentScan.frames).flatten := by
  induction verified generalizing next with
  | nil => exact ⟨.nil _ _ _, trivial⟩
  | @cons position hash name rest scan scans accepted remaining ih =>
    rcases numbered with ⟨first, _, later⟩
    have count : scan.frames.length = scan.pieces.length := length_map _
    have previousHash : scan.header.previousFinalHash = hash := by
      have continues := accepted.continues
      rw [Continues] at continues
      by_cases start : position = 0
      · rw [if_pos start] at continues
        rw [continues.2, (started start).2]
      · rwa [if_neg start] at continues
    have header : scan.header = headerAt position next hash := by
      rw [<- first, <- previousHash, <- accepted.headerIndex, headerAt,
        <- accepted.scanned.header.version]
    have reached : scan.reached = finalHash hash scan.frames := by
      rw [<- previousHash]
      exact accepted.scanned.reached_eq (by rwa [first]) (by rwa [first])
    rw [reached] at ih
    rw [<- count] at later
    rcases ih (fun start => absurd start (Nat.succ_ne_zero _)) (by omega)
      (fun other mem => exact other (mem_cons_of_mem _ mem)) later with
      ⟨laid, linked⟩
    have frames : Linked host.env hash next scan.frames := by
      rw [<- first, <- previousHash]
      exact accepted.scanned.linked
    have bounded : next < 2 ^ 64 := by
      rw [<- first]
      exact accepted.scanned.header.firstSequence
    constructor
    · refine .cons ?_ ?_ laid
      · rw [<- header]
        exact accepted.scanned.header
      · rcases accepted.scanned.file with ⟨stat, regular, file⟩
        refine ⟨stat, regular, ?_⟩
        rw [file, content, segmentContent, header,
          accepted.scanned.body_eq (exact scan mem_cons_self)]
    · rw [map_cons, flatten_cons, linked_append bounded]
      refine ⟨frames, ?_⟩
      cases scans with
      | nil => exact trivial
      | cons =>
        have next : next + scan.frames.length < 2 ^ 64 := by
          rcases later with ⟨number, _, _⟩
          rw [<- number]
          cases remaining with
          | cons otherAccepted _ => exact otherAccepted.scanned.header.firstSequence
        rwa [Nat.mod_eq_of_lt next]

section

variable (header : SegmentHeader) (frames : List DecodedFrame) (left : Bytes)

/-- The scan of a segment that holds encoded frames. -/
def encodedScan :
    SegmentScan where
  header
  pieces := frames.map encodedPiece
  finish := (ChainCursor.start header).after frames
  left

theorem encodedScan_header : (encodedScan header frames left).header = header :=
  rfl

theorem encodedScan_frames : (encodedScan header frames left).frames = frames :=
  map_encodedPiece frames

end

theorem scanned_encoded {name : Text} {left : Bytes} (valid : header.Valid)
    (file : ∃ stat : FileStat, stat.symlink = false /\ dir.get name =
      some ⟨header.encode host.env ++ (encodeFrames frames ++ left), stat⟩)
    (linked : Linked host.env header.previousFinalHash header.firstSequence frames)
    (stuck : Stuck host ((ChainCursor.start header).after frames) left) :
    Scanned host dir name (encodedScan header frames left) := by
  have body : (encodedScan header frames left).body = encodeFrames frames ++ left := by
    rw [SegmentScan.body, encodedScan, flatMap_encodedPiece]
  refine ⟨?_, valid, ?_, stuck⟩
  · rw [content, body]
    exact file
  · rw [body]
    exact walked_encodeFrames left linked

theorem encodedScan_exact (complete : ∀ frame ∈ frames, frame.Sealed env) :
    (encodedScan header frames []).Exact := by
  refine ⟨rfl, ?_⟩
  intro piece mem
  rcases mem_map.mp mem with ⟨frame, inside, rfl⟩
  have sized := (readFrame_frame (readFrame_encodeFrame (complete frame inside) [])).2.1
  have length := length_encodeFrame frame
  change ofLittleEndian (slice (encodeFrame frame) 4 8) = frameOverhead + frame.payload.length
  omega

/-- Conversely, the scans of segments that are laid out as one chain are exact. -/
theorem Verified.exact_of_laid {segs : List (List DecodedFrame)}
    (verified : Verified host dir position hash names scans)
    (laid : Laid host dir position next hash names segs) (positive : 0 < next)
    (linked : Linked host.env hash next segs.flatten)
    (inRange : next + segs.flatten.length <= 2 ^ 64) :
    (∀ scan ∈ scans, scan.Exact) /\ Numbered next scans := by
  induction verified generalizing next segs with
  | nil =>
    exact ⟨fun _ mem => absurd mem not_mem_nil, trivial⟩
  | @cons position hash name rest scan scans accepted _ ih =>
    cases laid with
    | @cons _ _ _ frames _ segs _ header file later =>
      rw [flatten_cons] at linked inRange
      rw [length_append] at inRange
      have bounded : next < 2 ^ 64 := header.firstSequence
      rcases (linked_append bounded).mp linked with ⟨front, back⟩
      have canonical : Scanned host dir name
          (encodedScan (headerAt position next hash) frames []) := by
        apply scanned_encoded header _ front (stuck_of_short _ (by decide))
        rw [append_nil]
        exact file
      rcases accepted.scanned.unique canonical with rfl
      have count : (frames.map encodedPiece).length = frames.length := length_map _
      have reached := accepted.scanned.reached_eq (by exact positive) (by
        change next + (frames.map encodedPiece).length <= 2 ^ 64
        omega)
      rw [encodedScan_frames] at reached
      rw [reached] at ih
      have exactRest : (∀ scan ∈ scans, scan.Exact) /\ Numbered (next + frames.length) scans := by
        by_cases full : next + frames.length < 2 ^ 64
        · rw [Nat.mod_eq_of_lt full] at back
          exact ih later (by omega) back (by omega)
        · have empty : segs.flatten = [] :=
            length_eq_zero_iff.mp (by omega)
          apply ih later (by omega) _ (by omega)
          rw [empty]
          trivial
      rcases exactRest with ⟨exactLater, numbered⟩
      refine ⟨?_, rfl, ?_, ?_⟩
      · intro other mem
        rcases mem_cons.mp mem with rfl | inside
        · exact encodedScan_exact front.complete
        · exact exactLater other inside
      · change next + (frames.map encodedPiece).length <= 2 ^ 64
        omega
      · change Numbered (next + (frames.map encodedPiece).length) scans
        rw [count]
        exact numbered

/-- The total number of records in a list of scans. -/
def totalRecords (scans : List SegmentScan) : Nat :=
  (scans.map SegmentScan.frames).flatten.length

theorem totalRecords_cons (scan : SegmentScan) (scans : List SegmentScan) :
    totalRecords (scan :: scans) = scan.pieces.length + totalRecords scans := by
  rw [totalRecords, map_cons, flatten_cons, length_append, SegmentScan.frames, length_map]
  rfl

theorem Verified.countAll_eq (verified : Verified host dir position hash names scans)
    (exact : ∀ scan ∈ scans, scan.Exact) :
    countAll dir names = .ok (totalRecords scans) := by
  induction verified with
  | nil => rfl
  | @cons position hash name rest scan scans accepted _ ih =>
    have noRest := (exact scan mem_cons_self).noRest
    rw [countAll, accepted.scanned.countRecordsInSegment_eq (by rw [noRest]; decide),
      ih (fun other mem => exact other (mem_cons_of_mem _ mem)),
      totalRecords_cons]

theorem Numbered.total :
    ∀ {next : Nat}, Numbered next scans -> next <= 2 ^ 64 ->
      next + totalRecords scans <= 2 ^ 64 := by
  induction scans with
  | nil =>
    intro next _ bounded
    exact bounded
  | cons scan rest ih =>
    rintro next ⟨_, inRange, later⟩ _
    rw [totalRecords_cons, <- Nat.add_assoc]
    exact ih later inRange

theorem verifyAll_ok (verified : verifyAll host dir = .ok count) :
    ∃ scans, Verified host dir 0 0 (listSegments dir) scans /\
      countAll dir (listSegments dir) = .ok count := by
  rw [verifyAll] at verified
  cases checked : verifyAllSegments host dir (listSegments dir) with
  | error =>
    rw [checked] at verified
    cases verified
  | ok =>
    rw [checked] at verified
    rcases verifyAllSegments_ok_iff.mp checked with ⟨scans, accepted⟩
    exact ⟨scans, accepted, verified⟩

/-- The scans of an intact log make the checks that `verify_all` omits. -/
theorem Intact.exact (intact : Intact host dir count) : Exact host dir := by
  rcases intact with ⟨segs, laid, linked, numbers⟩
  intro scans accepted
  have length : segs.flatten.length = count := by
    rw [<- length_map sequence, numbers, length_range']
  apply accepted.exact_of_laid laid Nat.one_pos linked
  rw [length]
  rcases Nat.eq_zero_or_pos count with rfl | _
  · decide
  · have last : count ∈ segs.flatten.map sequence := by
      rw [numbers, mem_range'_1]
      omega
    rcases mem_map.mp last with ⟨frame, mem, _⟩
    have bounded := (linked.complete frame mem).sequence
    omega

/-- In an exact log the tolerant loop reaches the end of every file. -/
theorem Exact.offset (exact : Exact host dir)
    (accepted : Verified host dir 0 0 (listSegments dir) scans) {name : Text}
    (mem : name ∈ listSegments dir) {info : RecordInfo} {content : Bytes}
    (read : readLastValidRecordInfo host dir name = .ok info)
    (opened : openFileAt dir name = .ok content) : info.offset = content.length := by
  rcases accepted.scan_of_mem mem with ⟨scan, inside, scanned⟩
  have noRest := ((exact scans accepted).1 scan inside).noRest
  rw [scanned.readLastValidRecordInfo_eq] at read
  rw [scanned.opened] at opened
  cases read
  cases opened
  have bytes := scanned.walked.bytes
  rw [noRest, append_nil] at bytes
  rw [content, length_append, SegmentHeader.length_encode]
  split
  · next empty => rw [empty, length_nil, Nat.add_zero, noRecords]
  · rw [bytes]
    exact scanned.walked.offset

/-- A log that `verify_all` accepts is intact exactly when the checks it omits hold. -/
theorem verified_intact_iff {count : Nat} (verified : verifyAll host dir = .ok count) :
    Intact host dir count <-> Exact host dir := by
  constructor
  · intro intact
    exact intact.exact
  · intro exact
    rcases verifyAll_ok verified with ⟨scans, accepted, counted⟩
    rcases exact scans accepted with ⟨exactScans, numbered⟩
    rcases accepted.laid (fun _ => ⟨rfl, rfl⟩) Nat.one_pos exactScans numbered with ⟨laid, linked⟩
    have total : totalRecords scans = count :=
      Except.ok.inj ((accepted.countAll_eq exactScans).symm.trans counted)
    refine ⟨_, laid, linked, ?_⟩
    rw [linked.numbers (numbered.total (by decide))]
    exact congrArg (range' 1) total

/-- Decoding finds an encoded record whatever follows it, and a frame that decodes is the encoding
of its record, exactly if the length of the frame is that of its fields. -/
theorem frames_canonical_iff {env : Env} {raw : Bytes} {frame : DecodedFrame}
    (whole : raw.length = 12 + ofLittleEndian (slice raw 4 8))
    (decoded : decodeFrame env raw = .ok frame) :
    ((∀ record : DecodedFrame, record.Sealed env -> ∀ rest,
        decodeFrame env (encodeFrame record ++ rest) = .ok record) /\ encodeFrame frame = raw) <->
      ofLittleEndian (slice raw 4 8) = frameOverhead + frame.payload.length := by
  constructor
  · rintro ⟨_, rfl⟩
    rw [length_encodeFrame] at whole
    omega
  · intro agree
    constructor
    · intro record complete rest
      exact decodeFrame_encodeFrame env complete rest
    · exact (eq_encodeFrame whole decoded (agree ▸ whole)).symm

/-! ## Small logs -/

/-- A host whose hash is SHA-256. -/
def sampleHost : Host :=
  ⟨sampleEnv, 1000⟩

/-- A record with an empty object, in its place in the chain. -/
def emptyRecord (sequence : Nat) (previousHash : Hash) : DecodedFrame where
  sequence
  wallTimeMs := 1700000000000
  monotonicMs := 7
  payload := [0x7b, 0x7d]
  previousHash
  currentHash := computeRecordHash sampleEnv previousHash sequence 1700000000000 7 [0x7b, 0x7d]

def sampleFrame : DecodedFrame :=
  emptyRecord 1 0

def sampleSegment : Bytes :=
  segmentContent sampleHost.env 0 1 0 [sampleFrame]

/-- A directory whose only file is a first segment. -/
def singleSegment (content : Bytes) : Directory :=
  Table.empty.insert (segmentName 0) ⟨content, ⟨false, auditFileMode, 1000⟩⟩

/-- A second segment goes on where the first ends. -/
def twoSegments : Directory :=
  (singleSegment sampleSegment).insert (segmentName 1)
    ⟨segmentContent sampleEnv 1 2 sampleFrame.currentHash [emptyRecord 2 sampleFrame.currentHash],
      ⟨false, auditFileMode, 1000⟩⟩

/-- Two records in two segments are verified. -/
theorem sample_intact_iff :
    verifyAll sampleHost twoSegments = .ok 2 /\
      (Intact sampleHost twoSegments 2 <-> Exact sampleHost twoSegments) := by
  have verified : verifyAll sampleHost twoSegments = .ok 2 := by
    decide +kernel
  exact ⟨verified, verified_intact_iff verified⟩

/-- The first byte of the payload of the only record is replaced. -/
def alteredSegment : Bytes :=
  sampleSegment.set (headerSize + 12 + 28) 0x5b

/-- The tolerant loop stops before the altered record, the counting loop counts it. -/
theorem altered_record_accepted :
    verifyAll sampleHost (singleSegment alteredSegment) = .ok 1 /\
      ¬ Intact sampleHost (singleSegment alteredSegment) 1 := by
  have verified : verifyAll sampleHost (singleSegment alteredSegment) = .ok 1 := by
    decide +kernel
  have listed : segmentName 0 ∈ listSegments (singleSegment alteredSegment) := by
    decide +kernel
  have read : readLastValidRecordInfo sampleHost (singleSegment alteredSegment) (segmentName 0) =
      .ok ⟨0, 0, headerSize⟩ := by
    decide +kernel
  have opened : openFileAt (singleSegment alteredSegment) (segmentName 0) = .ok alteredSegment := by
    decide +kernel
  have longer : headerSize < alteredSegment.length := by
    decide +kernel
  refine ⟨verified, ?_⟩
  intro intact
  rcases verifyAll_ok verified with ⟨_, accepted, _⟩
  exact longer.ne (intact.exact.offset accepted listed read opened)

/-- The frame of the first record is its encoding. -/
theorem sample_frame_canonical :
    decodeFrame sampleHost.env (sampleSegment.drop headerSize) = .ok sampleFrame /\
      (∀ record : DecodedFrame, record.Sealed sampleHost.env -> ∀ rest,
          decodeFrame sampleHost.env (encodeFrame record ++ rest) = .ok record) /\
        encodeFrame sampleFrame = sampleSegment.drop headerSize := by
  have decoded : decodeFrame sampleHost.env (sampleSegment.drop headerSize) =
      .ok sampleFrame := by
    decide +kernel
  exact ⟨decoded, (frames_canonical_iff (by decide +kernel) decoded).mpr (by decide +kernel)⟩

/-- The sample frame with a byte behind its hashes. -/
def paddedFrame : Bytes :=
  littleEndian 4 frameMagic ++ littleEndian 8 (frameOverhead + 3) ++ sampleFrame.body ++ [0]

/-- No hash covers the byte behind the hashes. -/
theorem padded_frame_accepted :
    paddedFrame.length = 12 + ofLittleEndian (slice paddedFrame 4 8) /\
      decodeFrame sampleHost.env paddedFrame = .ok sampleFrame /\
        encodeFrame sampleFrame ≠ paddedFrame := by
  decide +kernel

end ControlVault.Audit
