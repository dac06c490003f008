import ControlVault.Audit.Gate
import ControlVault.Audit.Intact
import Mathlib.Data.List.GetD

namespace ControlVault.Audit

open Foundation List

/-!
# Directories that hold a log

`Stored` describes a directory by the chain it holds: which files exist under
segment names, what each of them contains, and the bytes behind the last record.
As long as the number of a segment fits six digits the sorted list of names is
the list of segments in order, and the verification accepts the directory.  With
a million and one segments the order of the names is no longer the order of the
numbers, and no verification succeeds.
-/

/-! ## Names in order -/

theorem isSegmentName_segmentName (index : Nat) : isSegmentName (segmentName index) = true := by
  rw [isSegmentName, Bool.and_eq_true, isPrefixOf_iff_prefix, isSuffixOf_iff_suffix]
  exact ⟨⟨_, (append_assoc ..).symm⟩, ⟨_, rfl⟩⟩

theorem stripName_segmentName (index : Nat) :
    stripName (segmentName index) = some (paddedDecimal 6 index) := by
  have start : segmentPrefix.isPrefixOf (segmentName index) = true := by
    apply isPrefixOf_iff_prefix.mpr
    exact ⟨_, (append_assoc ..).symm⟩
  have rest : (segmentName index).drop segmentPrefix.length =
      paddedDecimal 6 index ++ segmentSuffix := by
    rw [segmentName, append_assoc, drop_left]
  have back : segmentSuffix.isSuffixOf (paddedDecimal 6 index ++ segmentSuffix) = true := by
    rw [isSuffixOf_iff_suffix]
    exact ⟨_, rfl⟩
  rw [stripName, if_pos start, rest]
  rw [if_pos back, length_append, Nat.add_sub_cancel, take_left]

variable {index second first : Nat} {name : Text}

theorem extractSegmentIndex_segmentName (fits : index < 2 ^ 64) :
    extractSegmentIndex (segmentName index) = .ok index := by
  rw [extractSegmentIndex, stripName_segmentName]
  dsimp only
  rw [parseUnsigned_paddedDecimal, if_pos fits]

theorem extractSegmentIndex_ok
    (parsed : extractSegmentIndex (segmentName index) = .ok number) : index = number := by
  by_cases fits : index < 2 ^ 64
  · rw [extractSegmentIndex_segmentName fits] at parsed
    exact Except.ok.inj parsed
  · rw [extractSegmentIndex, stripName_segmentName] at parsed
    dsimp only at parsed
    rw [parseUnsigned_paddedDecimal, if_neg fits] at parsed
    cases parsed

theorem segmentName_injective (same : segmentName first = segmentName second) : first = second := by
  have middle := congrArg stripName same
  rw [stripName_segmentName, stripName_segmentName] at middle
  exact paddedDecimal_injective 6 (Option.some.inj middle)

/-- Putting texts of one length between fixed ones keeps their order. -/
private theorem append_lt {first second : Text} (rest : Text) :
    first.length = second.length -> first < second -> first ++ rest < second ++ rest := by
  induction first generalizing second with
  | nil =>
    intro same less
    rw [length_eq_zero_iff.mp same.symm] at less
    exact absurd less (lt_irrefl _)
  | cons head tail ih =>
    intro same less
    cases second with
    | nil => exact absurd same (by simp)
    | cons =>
      rw [cons_append, cons_append, cons_lt_cons_iff]
      rcases cons_lt_cons_iff.mp less with smaller | ⟨equal, later⟩
      · exact .inl smaller
      · exact .inr ⟨equal, ih (Nat.succ.inj same) later⟩

private theorem append_left_lt (front : Text) {first second : Text} (less : first < second) :
    front ++ first < front ++ second := by
  induction front with
  | nil => exact less
  | cons head tail ih =>
    exact cons_lt_cons_iff.mpr (.inr ⟨rfl, ih⟩)

theorem segmentName_lt (less : first < second) (fits : second < 10 ^ 6) :
    segmentName first < segmentName second := by
  rw [segmentName, segmentName, append_assoc, append_assoc]
  apply append_left_lt
  apply append_lt _ _ (paddedDecimal_lt (by decide) less fits)
  rw [length_paddedDecimal (by decide) (less.trans fits), length_paddedDecimal (by decide) fits]

/-- The name of the segment after the 999999th comes before it. -/
theorem segmentName_million : segmentName (10 ^ 6) < segmentName (10 ^ 6 - 1) := by
  decide +kernel

theorem mem_listSegments :
    name ∈ listSegments dir <->
      (∃ file, dir.get name = some file) /\ isSegmentName name = true := by
  rw [listSegments, SortedSet.mem_ofList, mem_filter, mem_map]
  constructor
  · rintro ⟨⟨⟨key, file⟩, mem, rfl⟩, segment⟩
    exact ⟨⟨file, (dir.mem_toList key file).mp mem⟩, segment⟩
  · rintro ⟨⟨file, found⟩, segment⟩
    exact ⟨⟨(name, file), (dir.mem_toList name file).mpr found, rfl⟩, segment⟩

theorem listSegments_increasing (dir : Directory) : (listSegments dir).Pairwise (· < ·) :=
  SortedSet.increasing _

/-- The files of the log and the chain they hold; `tail` is behind the last record. -/
structure Stored (host : Host) (dir : Directory) (segs : List (List DecodedFrame))
    (tail : Bytes) : Prop where
  nonempty : segs ≠ []
  files : ∀ index, dir.get (segmentName index) = if index < segs.length then
      some ⟨segmentContent host.env index (1 + (segs.take index).flatten.length)
        (finalHash 0 (segs.take index).flatten) (segs.getD index []) ++
          (if index + 1 = segs.length then tail else []), ownStat host⟩
    else none
  only : ∀ name file, dir.get name = some file -> isSegmentName name = true ->
    ∃ index, name = segmentName index
  linked : Linked host.env 0 1 segs.flatten
  inRange : 1 + segs.flatten.length <= 2 ^ 64
  firstInRange : 1 + segs.dropLast.flatten.length < 2 ^ 64

namespace Stored

variable {host : Host} {dir : Directory} {segs : List (List DecodedFrame)} {tail : Bytes}

theorem mem_names (stored : Stored host dir segs tail) (name : Text) :
    name ∈ listSegments dir <->
      name ∈ (range segs.length).map segmentName := by
  rw [mem_listSegments, mem_map]
  constructor
  · rintro ⟨⟨file, found⟩, segment⟩
    rcases stored.only name file found segment with ⟨index, rfl⟩
    refine ⟨index, mem_range.mpr ?_, rfl⟩
    by_contra outside
    rw [stored.files, if_neg outside] at found
    cases found
  · rintro ⟨index, inside, rfl⟩
    exact ⟨⟨_, (stored.files index).trans (if_pos (mem_range.mp inside))⟩,
      isSegmentName_segmentName index⟩

/-- Up to a million segments are listed in the order of their numbers. -/
theorem listSegments_eq (stored : Stored host dir segs tail) (fits : segs.length <= 10 ^ 6) :
    listSegments dir = (range segs.length).map segmentName := by
  apply List.Pairwise.eq_of_mem_iff (listSegments_increasing dir) _ stored.mem_names
  rw [pairwise_map]
  apply pairwise_lt_range.imp_of_mem
  intro first second _ inside less
  exact segmentName_lt less ((mem_range.mp inside).trans_le fits)

/-- The scans of the segments, from what the chain has reached before them. -/
def scansFrom : Nat -> Nat -> Hash -> List (List DecodedFrame) -> Bytes -> List SegmentScan
  | _, _, _, [], _ => []
  | position, first, hash, frames :: rest, tail =>
    encodedScan (headerAt position first hash) frames (if rest = [] then tail else []) ::
      scansFrom (position + 1) (first + frames.length) (finalHash hash frames) rest tail

theorem scansFrom_frames (segs : List (List DecodedFrame)) (tail : Bytes) :
    ∀ position first hash,
      (scansFrom position first hash segs tail).map SegmentScan.frames = segs := by
  induction segs with
  | nil =>
    intro _ _ _
    rfl
  | cons frames rest ih =>
    intro position first hash
    rw [scansFrom, map_cons, ih, encodedScan_frames]

theorem checkFileAt_own {dir : Directory} (found : dir.get name = some ⟨content, ownStat host⟩) :
    checkFileAt host dir name = .ok () := by
  rw [checkFileAt, found]
  simp [ownStat]

section Split

variable {before rest : List (List DecodedFrame)} {frames : List DecodedFrame}

section

variable (stored : Stored host dir segs tail) (split : segs = before ++ frames :: rest)

include stored split

theorem file_at :
    dir.get (segmentName before.length) =
      some ⟨contentAfter host.env before frames ++ (if rest = [] then tail else []),
        ownStat host⟩ := by
  have file := stored.files before.length
  simpa [contentAfter, split] using file

theorem first_lt : 1 + before.flatten.length < 2 ^ 64 := by
  have first := stored.firstInRange
  have initial : segs.dropLast = before ++ (frames :: rest).dropLast := by
    rw [split, dropLast_append_of_ne_nil (cons_ne_nil _ _)]
  rw [initial, flatten_append, length_append] at first
  omega

end

end Split

section

variable (stored : Stored host dir segs tail)

include stored

section

variable (fits : segs.length <= 10 ^ 6) (noFrame : ∀ raw later, readFrame tail ≠ .frame raw later)

include fits noFrame

/-- A stored log passes the verification, from every segment on. -/
theorem verified_from :
    ∀ after before, segs = before ++ after ->
      Verified host dir before.length (finalHash 0 before.flatten)
        ((range' before.length after.length).map segmentName)
        (scansFrom before.length (1 + before.flatten.length) (finalHash 0 before.flatten) after
          tail) := by
  intro after
  induction after with
  | nil =>
    intro before split
    exact .nil _ _
  | cons frames rest ih =>
    intro before split
    have later := ih (before ++ [frames]) (by rw [split, append_assoc]; rfl)
    rw [flatten_append, length_append, length_append, finalHash_append, flatten_singleton,
      <- Nat.add_assoc] at later
    have position : before.length < segs.length := by
      rw [split, length_append, length_cons]
      omega
    have first := stored.first_lt split
    have linked := stored.linked
    rw [split, flatten_append, linked_append (by decide), flatten_cons, Nat.mod_eq_of_lt first,
      linked_append first] at linked
    have file := stored.file_at split
    rw [contentAfter, segmentContent, append_assoc] at file
    have header : (headerAfter before).Valid :=
      ⟨rfl, (position.trans_le fits).trans (by decide), first⟩
    have scanned : Scanned host dir (segmentName before.length)
        (encodedScan (headerAfter before) frames (if rest = [] then tail else [])) := by
      apply scanned_encoded header ⟨_, rfl, file⟩ linked.2.1
      split
      · exact stuck_of_readFrame _ noFrame
      · exact stuck_of_short _ (by decide)
    have reached := scanned.reached_eq (Nat.add_pos_left Nat.one_pos _) (by
      have total := stored.inRange
      rw [split, flatten_append, length_append, flatten_cons, length_append] at total
      change 1 + before.flatten.length + (frames.map encodedPiece).length <= 2 ^ 64
      rw [length_map]
      omega)
    rw [encodedScan_frames] at reached
    refine .cons ⟨extractSegmentIndex_segmentName header.segmentIndex, checkFileAt_own file,
      scanned, rfl, ?_, ?_⟩ ?_
    · rw [Continues]
      split
      · next start =>
          rw [length_eq_zero_iff.mp start]
          exact ⟨rfl, rfl⟩
      · rfl
    · intro notLast
      have more : rest ≠ [] := by
        rintro rfl
        cases notLast
      rw [if_neg more]
      exact Nat.zero_lt_succ 3
    · rw [reached]
      exact later

theorem verified : Verified host dir 0 0 (listSegments dir) (scansFrom 0 1 0 segs tail) := by
  have all := stored.verified_from fits noFrame segs [] rfl
  rw [stored.listSegments_eq fits, range_eq_range']
  exact all

end

/-- No verification succeeds with more than a million segments. -/
theorem le_million (verified : Verified host dir 0 0 (listSegments dir) scans) :
    segs.length <= 10 ^ 6 := by
  by_contra many
  have position : ∀ index, index < segs.length ->
      (listSegments dir)[index]? = some (segmentName index) := by
    intro index inside
    have mem := (stored.mem_names (segmentName index)).mpr
      (mem_map.mpr ⟨index, mem_range.mpr inside, rfl⟩)
    rcases mem_iff_getElem?.mp mem with ⟨_, found⟩
    have same := extractSegmentIndex_ok (verified.index found)
    rw [Nat.zero_add] at same
    subst same
    exact found
  have early := position (10 ^ 6 - 1) (by omega)
  have late := position (10 ^ 6) (by omega)
  have less := pairwise_iff_getElem.mp (listSegments_increasing dir) (10 ^ 6 - 1) (10 ^ 6)
    (List.getElem?_eq_some_iff.mp early).1 (List.getElem?_eq_some_iff.mp late).1 (by decide)
  rw [(List.getElem?_eq_some_iff.mp early).2, (List.getElem?_eq_some_iff.mp late).2] at less
  exact lt_asymm less segmentName_million

end

/-! ## Inspection -/

/-- What opening finds in a stored log, with its last segment apart. -/
def foundIn (before : List (List DecodedFrame)) (last : List DecodedFrame) (tail : Bytes)
    (anchor : Option AnchorState) : Inspection where
  segmentName := Audit.segmentName before.length
  segmentIndex := before.length
  lastSequence := if last = [] then 0 else (before.flatten ++ last).length
  lastValidOffset := headerSize + (encodeFrames last).length
  fileSize := headerSize + (encodeFrames last).length + tail.length
  nextSequence := ((before.flatten ++ last).length + 1) % 2 ^ 64
  nextHash := finalHash 0 (before.flatten ++ last)
  anchor

theorem encodeFrames_eq_nil : encodeFrames frames = [] <-> frames = [] := by
  constructor
  · intro empty
    cases frames with
    | nil => rfl
    | cons =>
      have length := congrArg List.length empty
      rw [encodeFrames, flatMap_cons, length_append, DecodedFrame.length_encodeFrame,
        length_nil] at length
      omega
  · rintro rfl
    rfl

section Last

variable {before : List (List DecodedFrame)} {last : List DecodedFrame}

section

variable (stored : Stored host dir (before ++ [last]) tail)

include stored

theorem listSegments_getLast (fits : (before ++ [last]).length <= 10 ^ 6) :
    (listSegments dir).getLast? = some (segmentName before.length) := by
  rw [stored.listSegments_eq fits, getLast?_map, length_append, length_singleton, range_succ,
    getLast?_append]
  rfl

theorem last_file :
    dir.get (segmentName before.length) =
      some ⟨contentAfter host.env before last ++ tail, ownStat host⟩ :=
  stored.file_at rfl

theorem last_first : 1 + before.flatten.length < 2 ^ 64 :=
  stored.first_lt rfl

theorem last_linked :
    Linked host.env (finalHash 0 before.flatten) (1 + before.flatten.length) last := by
  have linked := stored.linked
  rw [flatten_append, linked_append (by decide), flatten_singleton,
    Nat.mod_eq_of_lt stored.last_first] at linked
  exact linked.2

theorem last_scanned (fits : (before ++ [last]).length <= 10 ^ 6)
    (noFrame : ∀ raw later, readFrame tail ≠ .frame raw later) :
    Scanned host dir (segmentName before.length)
      (encodedScan (headerAfter before) last tail) := by
  have file := stored.last_file
  rw [contentAfter, segmentContent, append_assoc] at file
  rw [length_append] at fits
  have index : before.length < 2 ^ 64 := by omega
  exact scanned_encoded ⟨rfl, index, stored.last_first⟩ ⟨_, rfl, file⟩ stored.last_linked
    (stuck_of_readFrame _ noFrame)

end

section

variable (stored : Stored host dir (before ++ [last]) tail)
  (fits : (before ++ [last]).length <= 10 ^ 6)
  (noFrame : ∀ raw later, readFrame tail ≠ .frame raw later)

include stored fits noFrame

private theorem last_info :
    ∃ info, readLastValidRecordInfo host dir (segmentName before.length) = .ok info /\
      info.sequence = (if last = [] then 0 else (before.flatten ++ last).length) /\
      info.offset = headerSize + (encodeFrames last).length /\
      (last ≠ [] -> info.hash = finalHash 0 (before.flatten ++ last)) := by
  have scanned := stored.last_scanned fits noFrame
  have body : (encodedScan (headerAfter before) last tail).body = encodeFrames last ++ tail := by
    rw [SegmentScan.body, encodedScan, flatMap_encodedPiece]
  have inRange := stored.inRange
  rw [flatten_append, flatten_singleton, length_append] at inRange
  refine ⟨_, scanned.readLastValidRecordInfo_eq, ?_⟩
  rw [body]
  by_cases empty : encodeFrames last ++ tail = []
  · have none := encodeFrames_eq_nil.mp (append_eq_nil_iff.mp empty).1
    rw [if_pos empty, none]
    exact ⟨rfl, rfl, fun some => absurd rfl some⟩
  · rw [if_neg empty]
    have number := scanned.walked.sequence
    have offset := scanned.walked.offset
    have hash := scanned.walked.lastHash
    change _ = (((encodedScan _ last tail).frames).getLast?.map DecodedFrame.sequence).getD 0
      at number
    change _ = finalHash (finalHash 0 before.flatten) ((encodedScan _ last tail).frames) at hash
    rw [encodedScan_frames, stored.last_linked.lastNumber (by omega)] at number
    rw [encodedScan_frames, <- finalHash_append] at hash
    change _ = headerSize + ((last.map encodedPiece).flatMap Piece.raw).length at offset
    rw [flatMap_encodedPiece] at offset
    refine ⟨?_, offset, fun _ => hash⟩
    change (encodedScan _ last tail).finish.sequence = _
    rw [number]
    by_cases none : last = []
    · rw [if_pos none, if_pos none]
      rfl
    · rw [if_neg none, if_neg none, Option.getD_some, length_append]
      omega

/-- The inspection of a stored log finds the end of the chain and compares the anchor. -/
theorem inspect_eq (anchor : Option AnchorState) :
    inspect host dir anchor (segmentName before.length) =
      (foundIn before last tail anchor).checkAnchor >>= fun _ =>
        pure (foundIn before last tail anchor) := by
  have accepted : verifyAllSegments host dir (listSegments dir) = .ok () :=
    verifyAllSegments_ok_iff.mpr ⟨_, stored.verified fits noFrame⟩
  have scanned := stored.last_scanned fits noFrame
  rcases stored.last_info fits noFrame with ⟨info, read, number, offset, hash⟩
  have first := stored.last_first
  have index : before.length < 2 ^ 64 := by
    rw [length_append] at fits
    omega
  have opened := openFileAt_ok_iff.mpr ⟨_, rfl, stored.last_file⟩
  have length : (contentAfter host.env before last ++ tail).length =
        headerSize + (encodeFrames last).length + tail.length := by
    rw [contentAfter, segmentContent, length_append, length_append, SegmentHeader.length_encode]
  have same : Inspection.of (segmentName before.length) before.length info
      (headerSize + (encodeFrames last).length + tail.length)
      (headerAfter before) anchor =
        foundIn before last tail anchor := by
    rw [Inspection.of, foundIn, number, offset]
    by_cases none : last = []
    · rw [none, append_nil, Nat.add_comm before.flatten.length, Nat.mod_eq_of_lt first]
      rfl
    · have some := length_pos_iff.mpr (mt encodeFrames_eq_nil.mp none)
      have longer : ¬ headerSize + (encodeFrames last).length <= headerSize := by omega
      simp only [if_neg none, if_neg longer, hash none]
  rw [inspect, accepted, extractSegmentIndex_segmentName index, read, opened,
    scanned.readSegmentHeader_eq]
  change (Inspection.of _ _ _ (List.length _) _ _).checkAnchor >>= _ = _
  rw [length, encodedScan_header, same]

end

end Last

end Stored

end ControlVault.Audit
