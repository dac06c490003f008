import ControlVault.Audit.Walk
import ControlVault.Foundation.Fallible

namespace ControlVault.Audit

open Foundation SegmentHeader List

/-!
# What verification accepts

A segment file with a valid header has exactly one scan: its frames as far as
they form a chain, and the bytes behind them.  All readers of a segment report
parts of the scan.  `Verified` lists the scans of the segments that passed the
verification together with every check that was made, and nothing else.
-/

variable {name : Text} {host : Host} {dir : Directory}

/-- A segment taken apart: the header, the frames that form a chain, the rest. -/
structure SegmentScan where
  header : SegmentHeader
  pieces : List Piece
  finish : ChainCursor
  left : Bytes

namespace SegmentScan

def frames (scan : SegmentScan) : List DecodedFrame :=
  scan.pieces.map Piece.frame

/-- The bytes behind the header. -/
def body (scan : SegmentScan) : Bytes :=
  scan.pieces.flatMap Piece.raw ++ scan.left

def content (host : Host) (scan : SegmentScan) : Bytes :=
  scan.header.encode host.env ++ scan.body

/-- The hash that verification takes over from the segment.  A last number zero counts
as a segment without records. -/
def reached (scan : SegmentScan) : Hash :=
  if 0 < scan.finish.sequence then scan.finish.lastHash else scan.header.previousFinalHash

end SegmentScan

/-- The file of a segment has the given scan. -/
structure Scanned (host : Host) (dir : Directory) (name : Text) (scan : SegmentScan) :
    Prop where
  file : ∃ stat : FileStat, stat.symlink = false /\ dir.get name = some ⟨scan.content host, stat⟩
  header : scan.header.Valid
  walked : Walked host (.start scan.header) scan.body scan.pieces scan.finish scan.left
  stuck : Stuck host scan.finish scan.left

theorem openFileAt_ok_iff :
    openFileAt dir name = .ok content <->
      ∃ stat : FileStat, stat.symlink = false /\ dir.get name = some ⟨content, stat⟩ := by
  rw [openFileAt]
  cases found : dir.get name with
  | none => simp
  | some file =>
    rcases file with ⟨_, stat⟩
    cases link : stat.symlink with
    | true =>
      dsimp only
      rw [if_pos link]
      constructor
      · intro never
        cases never
      · rintro ⟨other, regular, same⟩
        cases same
        rw [link] at regular
        cases regular
    | false =>
      dsimp only
      rw [if_neg (by rw [link]; exact Bool.false_ne_true)]
      constructor
      · intro same
        cases same
        exact ⟨stat, link, rfl⟩
      · rintro ⟨other, _, same⟩
        cases same
        rfl

namespace Scanned

variable {scan : SegmentScan}

theorem opened (scanned : Scanned host dir name scan) :
    openFileAt dir name = .ok (scan.content host) :=
  openFileAt_ok_iff.mpr scanned.file

private theorem take_content (host : Host) (scan : SegmentScan) :
    (scan.content host).take headerSize = scan.header.encode host.env := by
  rw [SegmentScan.content, <- length_encode host.env scan.header, take_left]

private theorem drop_content (host : Host) (scan : SegmentScan) :
    (scan.content host).drop headerSize = scan.body := by
  rw [SegmentScan.content, <- length_encode host.env scan.header, drop_left]

private theorem length_content (host : Host) (scan : SegmentScan) :
    (scan.content host).length = headerSize + scan.body.length := by
  rw [SegmentScan.content, length_append, length_encode]

section

variable (scanned : Scanned host dir name scan)

include scanned

theorem readSegmentHeader_eq : readSegmentHeader host dir name = .ok scan.header := by
  have long : ¬ (scan.content host).length < headerSize := by
    rw [length_content]
    omega
  rw [readSegmentHeader, bind_eq_ok]
  refine ⟨_, scanned.opened, ?_⟩
  rw [guard_eq_ok, take_content]
  exact ⟨long, decode_encode _ scanned.header⟩

theorem pieces_nil (empty : scan.body = []) :
    scan.pieces = [] /\ scan.left = [] /\ scan.finish = .start scan.header := by
  have walked := scanned.walked
  have split := walked.bytes
  rw [empty] at split walked
  rcases append_eq_nil_iff.mp split.symm with ⟨_, left⟩
  have stop : Stuck host (.start scan.header) [] := stuck_of_short _ (by decide)
  rcases (Walked.stop (.start scan.header) []).unique stop walked scanned.stuck with
    ⟨pieces, finish, _⟩
  exact ⟨pieces.symm, left, finish.symm⟩

/-- What a reader reports whose loop gets to the end of the frames.  For a file that ends
with the header it is not the cursor but a fixed value. -/
theorem readLast_eq {walk : Nat -> ChainCursor -> Bytes -> Except AuditError ChainCursor}
    (walked : ∀ fuel, scan.body.length <= fuel ->
      walk fuel (.start scan.header) scan.body = .ok scan.finish) :
    readLast host walk dir name =
      .ok (if scan.body = [] then noRecords else scan.finish.info) := by
  have length := length_content host scan
  rw [readLast, bind_eq_ok]
  refine ⟨_, scanned.opened, ?_⟩
  by_cases empty : scan.body = []
  · rw [if_pos empty, if_pos (by rw [length, empty]; exact le_rfl)]
    rfl
  · have positive := length_pos_iff.mpr empty
    rw [if_neg empty, if_neg (by omega), bind_eq_ok, take_content]
    refine ⟨_, decode_encode _ scanned.header, ?_⟩
    rw [drop_content, bind_eq_ok]
    exact ⟨_, walked _ (by omega), rfl⟩

theorem readLastValidRecordInfo_eq :
    readLastValidRecordInfo host dir name =
      .ok (if scan.body = [] then noRecords else scan.finish.info) :=
  scanned.readLast_eq (fun _ enough =>
    congrArg _ (walkValid_of_walked scanned.walked scanned.stuck enough))

theorem readLastRecordInfo_eq (short : scan.left.length < 4) :
    readLastRecordInfo host dir name =
      .ok (if scan.body = [] then noRecords else scan.finish.info) :=
  scanned.readLast_eq (fun _ => walkStrict_of_walked scanned.walked short)

/-- The strict reader fails when more than three bytes are left over. -/
theorem readLastRecordInfo_short
    (read : readLastRecordInfo host dir name = .ok info) : scan.left.length < 4 := by
  have length := length_content host scan
  rw [readLastRecordInfo, readLast, bind_eq_ok] at read
  rcases read with ⟨_, opened, read⟩
  rw [scanned.opened] at opened
  cases opened
  by_cases empty : scan.body = []
  · rw [(scanned.pieces_nil empty).2.1]
    decide
  · have positive := length_pos_iff.mpr empty
    rw [if_neg (by omega), bind_eq_ok, take_content] at read
    rcases read with ⟨header, decoded, read⟩
    rw [decode_encode _ scanned.header] at decoded
    cases decoded
    rw [drop_content, bind_eq_ok] at read
    rcases read with ⟨_, walk, _⟩
    rcases walkStrict_ok _ (by omega) walk with ⟨_, _, walked, short⟩
    rw [(scanned.walked.unique scanned.stuck walked (stuck_of_short _ short)).2.2]
    exact short

theorem countRecordsInSegment_eq (short : scan.left.length < 4) :
    countRecordsInSegment dir name = .ok scan.pieces.length := by
  have length := length_content host scan
  rw [countRecordsInSegment, bind_eq_ok]
  refine ⟨_, scanned.opened, ?_⟩
  by_cases empty : scan.body = []
  · rw [if_pos (by rw [length, empty]; exact le_rfl), (scanned.pieces_nil empty).1]
    rfl
  · have positive := length_pos_iff.mpr empty
    rw [if_neg (by omega), drop_content, countFrames_of_walked scanned.walked short (by omega),
      Nat.zero_add]

theorem exportSegment_eq
    (file : checkFileAt host dir name = .ok ()) (short : scan.left.length < 4) :
    exportSegment host dir name = .ok scan.frames := by
  have length := length_content host scan
  rw [exportSegment, bind_eq_ok]
  refine ⟨_, file, ?_⟩
  rw [bind_eq_ok]
  refine ⟨_, scanned.opened, ?_⟩
  by_cases empty : scan.body = []
  · rw [if_pos (by rw [length, empty]; exact le_rfl), SegmentScan.frames,
      (scanned.pieces_nil empty).1]
    rfl
  · have positive := length_pos_iff.mpr empty
    rw [if_neg (by omega), bind_eq_ok, take_content]
    refine ⟨_, decode_encode _ scanned.header, ?_⟩
    rw [drop_content, exportFrames_of_walked scanned.walked short (by omega), SegmentScan.frames]

theorem unique (otherScanned : Scanned host dir name other) : scan = other := by
  have header : scan.header = other.header := by
    have read := scanned.readSegmentHeader_eq
    rw [otherScanned.readSegmentHeader_eq] at read
    exact (Except.ok.inj read).symm
  have content : scan.content host = other.content host := by
    have read := scanned.opened
    rw [otherScanned.opened] at read
    exact (Except.ok.inj read).symm
  have body : scan.body = other.body := by
    rw [<- drop_content host scan, content, drop_content]
  have walked := scanned.walked
  rw [header, body] at walked
  rcases walked.unique scanned.stuck otherScanned.walked otherScanned.stuck with
    ⟨pieces, finish, left⟩
  cases scan
  cases header
  cases pieces
  cases finish
  cases left
  rfl

end

end Scanned

variable {header : SegmentHeader} {position : Nat} {expectedHash : Hash} {names : List Text}

theorem exists_scanned (read : readSegmentHeader host dir name = .ok header) :
    ∃ scan, Scanned host dir name scan /\ scan.header = header := by
  rw [readSegmentHeader, bind_eq_ok] at read
  rcases read with ⟨content, opened, read⟩
  rw [guard_eq_ok] at read
  rcases read with ⟨_, decoded⟩
  have length : (content.take headerSize).length = headerSize := by
    rw [length_take]
    omega
  rcases decode_ok _ length decoded with ⟨valid, encoded⟩
  rcases exists_walked host (.start header) (content.drop headerSize) with
    ⟨pieces, finish, left, walked, stuck⟩
  have body : pieces.flatMap Piece.raw ++ left = content.drop headerSize := walked.bytes.symm
  refine ⟨⟨header, pieces, finish, left⟩, ⟨?_, valid, ?_, stuck⟩, rfl⟩
  · rcases openFileAt_ok_iff.mp opened with ⟨stat, regular, found⟩
    refine ⟨stat, regular, ?_⟩
    rw [found, SegmentScan.content, SegmentScan.body, body, <- encoded, take_append_drop]
  · rw [SegmentScan.body, body]
    exact walked

/-- The header continues the chain, as far as verification checks it. -/
def Continues (position : Nat) (expectedHash : Hash) (header : SegmentHeader) : Prop :=
  if position = 0 then header.firstSequence = 1 /\ header.previousFinalHash = 0
  else header.previousFinalHash = expectedHash

theorem checkContinuation_ok_iff :
    checkContinuation position expectedHash header = .ok () <->
      Continues position expectedHash header := by
  rw [checkContinuation, Continues]
  by_cases first : position = 0
  · rw [if_pos first, if_pos first, error_ite_eq_ok, error_ite_eq_ok, not_not, not_not]
    exact ⟨fun facts => ⟨facts.1, facts.2.1⟩, fun facts => ⟨facts.1, facts.2, rfl⟩⟩
  · rw [if_neg first, if_neg first, error_ite_eq_ok, not_not]
    exact ⟨And.left, fun same => ⟨same, rfl⟩⟩

/-- Everything that verification requires of one segment. -/
structure SegmentAccepted (host : Host) (dir : Directory) (position : Nat)
    (expectedHash : Hash) (isLast : Bool) (name : Text) (scan : SegmentScan) : Prop where
  index : extractSegmentIndex name = .ok position
  file : checkFileAt host dir name = .ok ()
  scanned : Scanned host dir name scan
  headerIndex : scan.header.segmentIndex = position
  continues : Continues position expectedHash scan.header
  complete : isLast = false -> scan.left.length < 4

private theorem info_reached (scanned : Scanned host dir name scan) :
    (if 0 < (if scan.body = [] then noRecords else scan.finish.info).sequence then
      (if scan.body = [] then noRecords else scan.finish.info).hash
      else scan.header.previousFinalHash) = scan.reached := by
  rw [SegmentScan.reached]
  by_cases empty : scan.body = []
  · rw [if_pos empty, (scanned.pieces_nil empty).2.2]
    rfl
  · rw [if_neg empty]
    rfl

theorem verifySegment_ok_iff :
    verifySegment host dir position expectedHash isLast name = .ok reached <->
      ∃ scan, SegmentAccepted host dir position expectedHash isLast name scan /\
        scan.reached = reached := by
  rw [verifySegment]
  simp only [bind_eq_ok, guard_eq_ok, not_not, pure_eq_ok]
  constructor
  · rintro ⟨index, parsed, rfl, _, file, header, read, headerIndex, _, continues, info, infoRead,
      rfl⟩
    rcases exists_scanned read with ⟨scan, scanned, rfl⟩
    have complete : isLast = false -> scan.left.length < 4 := by
      rintro rfl
      exact scanned.readLastRecordInfo_short infoRead
    have infoEq : info = if scan.body = [] then noRecords else scan.finish.info := by
      cases isLast with
      | true => exact Except.ok.inj (infoRead.symm.trans scanned.readLastValidRecordInfo_eq)
      | false =>
        exact Except.ok.inj (infoRead.symm.trans (scanned.readLastRecordInfo_eq (complete rfl)))
    refine ⟨scan, ⟨parsed, file, scanned, headerIndex, checkContinuation_ok_iff.mp continues,
      complete⟩, ?_⟩
    rw [infoEq, info_reached scanned]
  · rintro ⟨scan, accepted, rfl⟩
    refine ⟨position, accepted.index, rfl, (), accepted.file, scan.header,
      accepted.scanned.readSegmentHeader_eq, accepted.headerIndex, (),
      checkContinuation_ok_iff.mpr accepted.continues,
      if scan.body = [] then noRecords else scan.finish.info, ?_, info_reached accepted.scanned⟩
    cases isLast with
    | true => exact accepted.scanned.readLastValidRecordInfo_eq
    | false => exact accepted.scanned.readLastRecordInfo_eq (accepted.complete rfl)

/-- The scans of consecutive segments that pass the verification. -/
inductive Verified (host : Host) (dir : Directory) :
    Nat -> Hash -> List Text -> List SegmentScan -> Prop
  | nil (position : Nat) (expectedHash : Hash) : Verified host dir position expectedHash [] []
  | cons {position : Nat} {expectedHash : Hash} {name : Text} {rest : List Text}
      {scan : SegmentScan} {scans : List SegmentScan} :
      SegmentAccepted host dir position expectedHash rest.isEmpty name scan ->
        Verified host dir (position + 1) scan.reached rest scans ->
          Verified host dir position expectedHash (name :: rest) (scan :: scans)

theorem verifyFrom_ok_iff :
    ∀ {position : Nat} {expectedHash : Hash},
      verifyFrom host dir position expectedHash names = .ok () <->
        ∃ scans, Verified host dir position expectedHash names scans := by
  induction names with
  | nil =>
    intro position expectedHash
    exact ⟨fun _ => ⟨[], .nil position expectedHash⟩, fun _ => rfl⟩
  | cons name rest ih =>
    intro position expectedHash
    rw [verifyFrom]
    constructor
    · intro verified
      cases segment : verifySegment host dir position expectedHash rest.isEmpty name with
      | error =>
        rw [segment] at verified
        cases verified
      | ok =>
        rw [segment] at verified
        rcases verifySegment_ok_iff.mp segment with ⟨_, accepted, rfl⟩
        rcases ih.mp verified with ⟨_, later⟩
        exact ⟨_, .cons accepted later⟩
    · rintro ⟨_, verified⟩
      cases verified with
      | cons accepted later =>
        rw [verifySegment_ok_iff.mpr ⟨_, accepted, rfl⟩]
        exact ih.mpr ⟨_, later⟩

theorem verifyAllSegments_ok_iff :
    verifyAllSegments host dir names = .ok () <->
      ∃ scans, Verified host dir 0 0 names scans :=
  verifyFrom_ok_iff

namespace Verified

variable {scans : List SegmentScan}

section

variable (verified : Verified host dir position expectedHash names scans)

include verified

theorem index (found : names[place]? = some name) :
    extractSegmentIndex name = .ok (position + place) := by
  induction verified generalizing place with
  | nil => cases found
  | cons accepted _ ih =>
    cases place with
    | zero =>
      cases found
      exact accepted.index
    | succ place =>
      rw [ih found, Nat.add_assoc, Nat.add_comm 1 place]

theorem scan_of_mem (mem : name ∈ names) : ∃ scan ∈ scans, Scanned host dir name scan := by
  induction verified with
  | nil => cases mem
  | cons accepted _ ih =>
    rcases mem_cons.mp mem with rfl | later
    · exact ⟨_, mem_cons_self, accepted.scanned⟩
    · rcases ih later with ⟨scan, inside, scanned⟩
      exact ⟨scan, mem_cons_of_mem _ inside, scanned⟩

theorem exportRecords_eq (short : ∀ scan ∈ scans, scan.left.length < 4) :
    exportRecords host dir names = .ok (scans.map SegmentScan.frames).flatten := by
  induction verified with
  | nil => rfl
  | @cons position hash name rest scan scans accepted _ ih =>
    rw [exportRecords, accepted.scanned.exportSegment_eq accepted.file (short scan mem_cons_self),
      ih (fun other mem => short other (mem_cons_of_mem _ mem))]
    rfl

end

end Verified

end ControlVault.Audit
