import ControlVault.Audit.Stored

namespace ControlVault.Audit

open Foundation Core Directory Table List Option

/-!
# File operations on a stored log

The calls of the gate are made of three groups of file operations: replacing
the anchor, appending a frame to the last segment, and starting a new segment.
For each group it is stated what it leaves when it completes and what a crash
may leave of it.  `Disk` is the description of a directory that these groups
transform: the chain, the bytes behind it, and the anchor.
-/

variable {host : Host} {dir : Directory} {segs before : List (List DecodedFrame)}
  {last : List DecodedFrame} {tail : Bytes} {anchor : Option AnchorState}

/-- A directory that holds a log, its anchor, and perhaps an unfinished new anchor. -/
structure Disk (host : Host) (dir : Directory) (segs : List (List DecodedFrame))
    (tail : Bytes) (anchor : Option AnchorState) : Prop where
  stored : Stored host dir segs tail
  anchored : dir.get anchorName =
    anchor.map (fun state => ⟨encodeAnchor host.env state, ownStat host⟩)
  temporary : ∀ file, dir.get anchorTemporaryName = some file -> file.stat = ownStat host

theorem anchorName_not_segment : isSegmentName anchorName = false := by
  decide

theorem anchorTemporaryName_not_segment : isSegmentName anchorTemporaryName = false := by
  decide

theorem ne_of_isSegmentName (segment : isSegmentName name = true)
    (noSegment : isSegmentName other = false) : name ≠ other := by
  rintro rfl
  rw [segment] at noSegment
  cases noSegment

variable {other : Directory} {state : AnchorState} {frame : DecodedFrame}

/-- Only the files under segment names matter for the chain. -/
theorem Stored.congr (stored : Stored host dir segs tail)
    (same : ∀ name, isSegmentName name = true -> other.get name = dir.get name) :
    Stored host other segs tail where
  nonempty := stored.nonempty
  files := fun index => (same _ (isSegmentName_segmentName index)).trans (stored.files index)
  only := fun name file found segment => stored.only name file (by rwa [<- same name segment]) segment
  linked := stored.linked
  inRange := stored.inRange
  firstInRange := stored.firstInRange

theorem Disk.loadAnchor_eq (disk : Disk host dir segs tail anchor)
    (valid : ∀ state, anchor = some state -> state.Valid) : loadAnchor host dir = .ok anchor := by
  rw [loadAnchor, disk.anchored]
  cases anchor with
  | none => rfl
  | some state =>
    have whole : (encodeAnchor host.env state).take anchorSize =
        encodeAnchor host.env state :=
      take_of_length_le (length_encodeAnchor _ _).le
    simp only [map_some, ownStat, ne_eq, length_encodeAnchor, whole,
      decodeAnchor_encodeAnchor host.env (valid state rfl)]
    rfl

/-! ## Replacing the anchor -/

theorem Disk.writeAnchor_eq (disk : Disk host dir segs tail anchor) (state : AnchorState) :
    writeAnchor host dir state = .ok (anchorOperations host state) := by
  rw [writeAnchor, if_neg, anchorOperations]
  cases found : dir.get anchorTemporaryName with
  | none => exact Bool.false_ne_true
  | some file =>
    rw [any_some, disk.temporary file found]
    exact Bool.false_ne_true

private theorem overwrite_nil (bytes : Bytes) : overwrite [] 0 bytes = bytes := by
  rw [overwrite, drop_nil]
  exact append_nil _

private theorem openTruncated_spec (disk : Disk host dir segs tail anchor) :
    dir.apply (.openTruncated anchorTemporaryName (ownStat host)) =
      dir.insert anchorTemporaryName ⟨[], ownStat host⟩ := by
  rw [apply]
  cases found : dir.get anchorTemporaryName with
  | none => rfl
  | some file =>
    dsimp only
    rw [disk.temporary file found]

/-- Files other than the unfinished anchor do not matter for the rest of the description. -/
theorem Disk.of_temporary (disk : Disk host dir segs tail anchor)
    (same : ∀ name, name ≠ anchorTemporaryName -> other.get name = dir.get name)
    (temporary : ∀ file, other.get anchorTemporaryName = some file -> file.stat = ownStat host) :
    Disk host other segs tail anchor where
  stored := disk.stored.congr (by
    intro name segment
    exact same name (ne_of_isSegmentName segment anchorTemporaryName_not_segment))
  anchored := (same _ (by decide)).trans disk.anchored
  temporary

/-- The directory once bytes were written to an emptied unfinished anchor. -/
def withTemporary (host : Host) (dir : Directory) (bytes : Bytes) : Directory :=
  apply (dir.insert anchorTemporaryName ⟨[], ownStat host⟩)
    (.write anchorTemporaryName 0 bytes)

theorem get_withTemporary (bytes : Bytes) :
    (withTemporary host dir bytes).get anchorTemporaryName = some ⟨bytes, ownStat host⟩ := by
  rw [withTemporary, apply, get_modify_self, get_insert_self, map_some, overwrite_nil]

section

variable (disk : Disk host dir segs tail anchor)

include disk

theorem Disk.write_temporary (bytes : Bytes) :
    Disk host (withTemporary host dir bytes) segs tail anchor := by
  apply disk.of_temporary
  · intro name different
    rw [withTemporary, apply, get_modify_of_ne _ _ different, get_insert_of_ne _ _ different]
  · intro file found
    cases found
    rfl

theorem Disk.rename (finished : dir.get anchorTemporaryName =
      some ⟨encodeAnchor host.env state, ownStat host⟩) :
    Disk host (dir.apply (.rename anchorTemporaryName anchorName)) segs tail (some state) := by
  rw [apply, finished]
  constructor
  · apply disk.stored.congr
    intro name segment
    rw [get_insert_of_ne _ _ (ne_of_isSegmentName segment anchorName_not_segment), get_remove,
      if_neg (ne_of_isSegmentName segment anchorTemporaryName_not_segment)]
  · rfl
  · intro file found
    rw [get_insert_of_ne _ _ (by decide), get_remove] at found
    cases found

/-- A crash while the anchor is replaced leaves the old anchor or the new one. -/
theorem Disk.anchor_interrupted (interrupted : Interrupted dir (anchorOperations host state) left) :
    Disk host left segs tail anchor ∨ Disk host left segs tail (some state) := by
  cases interrupted with
  | stopped => exact .inl disk
  | continued interrupted =>
    rw [openTruncated_spec disk] at interrupted
    cases interrupted with
    | stopped =>
      refine .inl (disk.of_temporary (fun name different => get_insert_of_ne _ _ different) ?_)
      intro file found
      cases found
      rfl
    | torn => exact .inl (disk.write_temporary _)
    | continued interrupted =>
      have written := disk.write_temporary (encodeAnchor host.env state)
      cases interrupted with
      | stopped => exact .inl written
      | continued interrupted =>
        cases interrupted with
        | stopped => exact .inl written
        | continued interrupted =>
          have renamed := written.rename (get_withTemporary _)
          cases interrupted with
          | stopped => exact .inr renamed
          | continued interrupted =>
            cases interrupted
            exact .inr renamed

theorem Disk.anchor_complete (state : AnchorState) :
    Disk host (dir.applyAll (anchorOperations host state)) segs tail (some state) := by
  rw [anchorOperations, applyAll_cons, openTruncated_spec disk]
  exact (disk.write_temporary _).rename (get_withTemporary _)

end

/-! ## Changing the last segment -/

/-- The segments in front of the last one, whose file may be missing. -/
structure Front (host : Host) (dir : Directory) (before : List (List DecodedFrame)) : Prop where
  files : ∀ index, index < before.length -> dir.get (segmentName index) =
    some ⟨segmentContent host.env index (1 + (before.take index).flatten.length)
      (finalHash 0 (before.take index).flatten) (before.getD index []), ownStat host⟩
  none : ∀ index, before.length < index -> dir.get (segmentName index) = none
  only : ∀ name file, dir.get name = some file -> isSegmentName name = true ->
    ∃ index, name = segmentName index
  linked : Linked host.env 0 1 before.flatten
  first : 1 + before.flatten.length < 2 ^ 64

theorem Stored.front (stored : Stored host dir (before ++ [last]) tail) :
    Front host dir before := by
  have length : (before ++ [last]).length = before.length + 1 := length_append
  refine ⟨?_, ?_, stored.only, ?_, stored.last_first⟩
  · intro index smaller
    rw [stored.files, if_pos (by omega), if_neg (by omega), append_nil,
      take_append_of_le_length smaller.le, getD_append _ _ _ _ smaller]
  · intro index larger
    rw [stored.files, if_neg (by omega)]
  · have linked := stored.linked
    rw [flatten_append, linked_append (by decide)] at linked
    exact linked.1

theorem Stored.whole (stored : Stored host dir segs [])
    (first : 1 + segs.flatten.length < 2 ^ 64) : Front host dir segs := by
  refine ⟨?_, ?_, stored.only, stored.linked, first⟩
  · intro index smaller
    rw [stored.files, if_pos smaller, ite_self, append_nil]
  · intro index larger
    rw [stored.files, if_neg (by omega)]

/-- A file for the last segment completes a log. -/
theorem Front.close (front : Front host dir before)
    (same : ∀ name, name ≠ segmentName before.length -> other.get name = dir.get name)
    (file : other.get (segmentName before.length) =
      some ⟨contentAfter host.env before newLast ++ newTail, ownStat host⟩)
    (linked : Linked host.env (finalHash 0 before.flatten) (1 + before.flatten.length) newLast)
    (inRange : 1 + before.flatten.length + newLast.length <= 2 ^ 64) :
    Stored host other (before ++ [newLast]) newTail := by
  have length : (before ++ [newLast]).length = before.length + 1 := length_append
  refine ⟨append_ne_nil_of_right_ne_nil _ (cons_ne_nil _ _), ?_, ?_, ?_, ?_, ?_⟩
  · intro index
    rcases Nat.lt_trichotomy index before.length with smaller | rfl | larger
    · rw [same _ (fun equal => smaller.ne (segmentName_injective equal)), front.files index smaller,
        if_pos (by omega), if_neg (by omega), append_nil, take_append_of_le_length smaller.le,
        getD_append _ _ _ _ smaller]
    · rw [file]
      simp [contentAfter]
    · rw [same _ (fun equal => larger.ne' (segmentName_injective equal)), front.none index larger,
        if_neg (by omega)]
  · intro name content found segment
    by_cases lastName : name = segmentName before.length
    · exact ⟨_, lastName⟩
    · rw [same _ lastName] at found
      exact front.only name content found segment
  · rw [flatten_append, linked_append (by decide), Nat.mod_eq_of_lt front.first, flatten_singleton]
    exact ⟨front.linked, linked⟩
  · rwa [flatten_append, length_append, flatten_singleton, <- Nat.add_assoc]
  · rw [dropLast_concat]
    exact front.first

/-- Changing a segment file does not concern the anchor. -/
theorem Disk.of_segment (disk : Disk host dir segs tail anchor) (index : Nat)
    (same : ∀ name, name ≠ segmentName index -> other.get name = dir.get name)
    (stored : Stored host other newSegments newTail) :
    Disk host other newSegments newTail anchor where
  stored
  anchored := (same _ (ne_of_isSegmentName (isSegmentName_segmentName index)
    anchorName_not_segment).symm).trans disk.anchored
  temporary := fun file found => disk.temporary file
    (by rwa [<- same _ (ne_of_isSegmentName (isSegmentName_segmentName index)
      anchorTemporaryName_not_segment).symm])

/-- The offset behind the last record. -/
def endOffset (last : List DecodedFrame) : Nat :=
  headerSize + (encodeFrames last).length

theorem length_contentAfter (env : Env) (before : List (List DecodedFrame))
    (frames : List DecodedFrame) :
    (contentAfter env before frames).length = endOffset frames := by
  rw [contentAfter, segmentContent, length_append, SegmentHeader.length_encode, endOffset]

theorem overwrite_end (content bytes : Bytes) :
    overwrite content content.length bytes = content ++ bytes := by
  rw [overwrite]
  simp

theorem setLength_front (content rest : Bytes) :
    Foundation.setLength (content ++ rest) content.length = content := by
  rw [Foundation.setLength]
  simp

private theorem last_inRange (stored : Stored host dir (before ++ [last]) tail) :
    1 + before.flatten.length + last.length <= 2 ^ 64 := by
  have inRange := stored.inRange
  rwa [flatten_append, length_append, flatten_singleton, <- Nat.add_assoc] at inRange

theorem Disk.write_tail (disk : Disk host dir (before ++ [last]) [] anchor) (bytes : Bytes) :
    Disk host (dir.apply (.write (segmentName before.length) (endOffset last) bytes))
      (before ++ [last]) bytes anchor := by
  have same : ∀ name, name ≠ segmentName before.length ->
      (dir.apply (.write (segmentName before.length) (endOffset last) bytes)).get name =
        dir.get name :=
    fun name different => get_modify_of_ne _ _ different
  apply disk.of_segment before.length same
  apply disk.stored.front.close same _ disk.stored.last_linked (last_inRange disk.stored)
  have file := disk.stored.last_file
  rw [append_nil] at file
  rw [apply, get_modify_self, file, map_some, <- length_contentAfter host.env before last,
    overwrite_end]

theorem Disk.cut_tail (disk : Disk host dir (before ++ [last]) tail anchor) :
    Disk host (dir.apply (.setLength (segmentName before.length) (endOffset last)))
      (before ++ [last]) [] anchor := by
  have same : ∀ name, name ≠ segmentName before.length ->
      (dir.apply (.setLength (segmentName before.length) (endOffset last))).get name =
        dir.get name :=
    fun name different => get_modify_of_ne _ _ different
  apply disk.of_segment before.length same
  apply disk.stored.front.close same _ disk.stored.last_linked (last_inRange disk.stored)
  rw [apply, get_modify_self, disk.stored.last_file, map_some,
    <- length_contentAfter host.env before last, setLength_front, append_nil]

/-- The frame that continues a chain. -/
structure Extends (host : Host) (frames : List DecodedFrame) (frame : DecodedFrame) : Prop where
  complete : frame.Sealed host.env
  previousHash : frame.previousHash = finalHash 0 frames
  sequence : frame.sequence = frames.length + 1

/-- A whole frame behind the last record is the last record. -/
theorem Disk.frame_tail (disk : Disk host dir (before ++ [last]) (encodeFrame frame) anchor)
    (continues : Extends host (before ++ [last]).flatten frame) :
    Disk host dir (before ++ [last ++ [frame]]) [] anchor := by
  have stored := disk.stored
  have number := continues.sequence
  have bounded := continues.complete.sequence
  have previousHash := continues.previousHash
  rw [flatten_append, flatten_singleton, length_append] at number
  rw [flatten_append, flatten_singleton, finalHash_append] at previousHash
  apply disk.of_segment before.length (fun _ _ => rfl)
  apply stored.front.close (fun _ _ => rfl)
  · rw [stored.last_file, contentAfter, contentAfter, segmentContent, segmentContent,
      encodeFrames_append, encodeFrames_singleton, append_nil, append_assoc]
  · rw [linked_append stored.last_first]
    refine ⟨stored.last_linked, continues.complete, previousHash, ?_, trivial⟩
    omega
  · rw [length_append, length_singleton]
    omega

section

variable (disk : Disk host dir (before ++ [last]) [] anchor)
  (continues : Extends host (before ++ [last]).flatten frame)

include disk continues

/-- Appending a frame: a crash leaves a part of the frame, or the whole frame with the old
anchor or with the new one. -/
theorem Disk.append_interrupted (interrupted : Interrupted dir
      ([.write (segmentName before.length) (endOffset last) (encodeFrame frame),
        .sync (segmentName before.length), .syncDirectory] ++ anchorOperations host state) left) :
    (∃ count, count < (encodeFrame frame).length /\
      Disk host left (before ++ [last]) ((encodeFrame frame).take count) anchor) ∨
    Disk host left (before ++ [last ++ [frame]]) [] anchor ∨
    Disk host left (before ++ [last ++ [frame]]) [] (some state) := by
  have appended := (disk.write_tail (encodeFrame frame)).frame_tail continues
  have nonempty : 0 < (encodeFrame frame).length := by
    rw [DecodedFrame.length_encodeFrame]
    omega
  rcases interrupted.of_append with early | late
  · cases early with
    | stopped => exact .inl ⟨0, nonempty, disk⟩
    | torn _ _ _ _ count =>
      have written := disk.write_tail ((encodeFrame frame).take count)
      by_cases part : count < (encodeFrame frame).length
      · exact .inl ⟨count, part, written⟩
      · rw [take_of_length_le (not_lt.mp part)] at written ⊢
        exact .inr (.inl appended)
    | continued early =>
      cases early with
      | stopped => exact .inr (.inl appended)
      | continued early =>
        cases early with
        | stopped => exact .inr (.inl appended)
        | continued early =>
          cases early
          exact .inr (.inl appended)
  · exact .inr (appended.anchor_interrupted late)

theorem Disk.append_complete (state : AnchorState) :
    Disk host (dir.applyAll
      ([.write (segmentName before.length) (endOffset last) (encodeFrame frame),
        .sync (segmentName before.length), .syncDirectory] ++ anchorOperations host state))
      (before ++ [last ++ [frame]]) [] (some state) := by
  exact ((disk.write_tail (encodeFrame frame)).frame_tail continues).anchor_complete state

end

/-! ## Starting a segment -/

/-- A segment file ends before its header does. -/
def HeaderTorn (dir : Directory) : Prop :=
  ∃ name file, isSegmentName name = true /\ dir.get name = some file /\
    file.content.length < headerSize

/-- The directory once bytes were written to a new segment. -/
def withSegment (host : Host) (dir : Directory) (name : Text) (bytes : Bytes) : Directory :=
  apply (dir.insert name ⟨[], ownStat host⟩) (.write name 0 bytes)

theorem get_withSegment (name other : Text) (bytes : Bytes) :
    (withSegment host dir name bytes).get other =
      if other = name then some ⟨bytes, ownStat host⟩ else dir.get other := by
  rw [withSegment, apply]
  by_cases same : other = name
  · subst same
    rw [if_pos rfl, get_modify_self, get_insert_self, map_some, overwrite_nil]
  · rw [if_neg same, get_modify_of_ne _ _ same, get_insert_of_ne _ _ same]

/-- The header of the segment after a chain. -/
def nextHeader (segs : List (List DecodedFrame)) : SegmentHeader :=
  headerAt segs.length (1 + segs.flatten.length) (finalHash 0 segs.flatten)

theorem Disk.segment_written (disk : Disk host dir segs [] anchor)
    (first : 1 + segs.flatten.length < 2 ^ 64) :
    Disk host (withSegment host dir (segmentName segs.length)
      ((nextHeader segs).encode host.env)) (segs ++ [[]]) [] anchor := by
  have same : ∀ name, name ≠ segmentName segs.length ->
      (withSegment host dir (segmentName segs.length)
        ((nextHeader segs).encode host.env)).get name = dir.get name := by
    intro name different
    rw [get_withSegment, if_neg different]
  apply disk.of_segment segs.length same
  refine (disk.stored.whole first).close same ?_ ?_ first.le
  · rw [get_withSegment, if_pos rfl]
    rfl
  · trivial

/-- A crash while a segment is started comes before it, tears its header, or comes after it. -/
theorem createSegment_interrupted (segment : isSegmentName name = true)
    (interrupted : Interrupted dir (createSegment host name header) left) :
    left = dir ∨ HeaderTorn left ∨
      left = withSegment host dir name (header.encode host.env) := by
  have length := SegmentHeader.length_encode host.env header
  cases interrupted with
  | stopped => exact .inl rfl
  | continued interrupted =>
    cases interrupted with
    | stopped =>
      exact .inr (.inl ⟨name, ⟨[], ownStat host⟩, segment, get_insert_self _ _ _,
        Nat.zero_lt_succ 87⟩)
    | torn _ _ _ _ count =>
      by_cases part : count < headerSize
      · refine .inr (.inl ⟨name, _, segment, (get_withSegment _ _ _).trans (if_pos rfl), ?_⟩)
        rw [length_take]
        omega
      · right
        right
        rw [take_of_length_le (by omega)]
        rfl
    | continued interrupted =>
      cases interrupted with
      | stopped => exact .inr (.inr rfl)
      | continued interrupted =>
        cases interrupted with
        | stopped => exact .inr (.inr rfl)
        | continued interrupted =>
          cases interrupted
          exact .inr (.inr rfl)

section

variable (disk : Disk host dir segs [] anchor) (first : 1 + segs.flatten.length < 2 ^ 64)

include disk first

/-- A crash while a segment is started leaves the log as it was, a torn header, or the log
with an empty segment at its end. -/
theorem Disk.segment_interrupted (interrupted : Interrupted dir
      (createSegment host (segmentName segs.length) (nextHeader segs)) left) :
    Disk host left segs [] anchor ∨ HeaderTorn left ∨
      Disk host left (segs ++ [[]]) [] anchor := by
  rcases createSegment_interrupted (isSegmentName_segmentName _) interrupted with rfl | torn | rfl
  · exact .inl disk
  · exact .inr (.inl torn)
  · exact .inr (.inr (disk.segment_written first))

theorem Disk.segment_complete :
    Disk host (dir.applyAll
      (createSegment host (segmentName segs.length) (nextHeader segs)))
      (segs ++ [[]]) [] anchor :=
  disk.segment_written first

end

theorem disk_initial (host : Host) :
    Disk host (withSegment host empty (segmentName 0) (initialHeader.encode host.env))
      [[]] [] none := by
  refine ⟨⟨cons_ne_nil _ _, ?_, ?_, trivial, by decide, by decide⟩, ?_, ?_⟩
  · intro index
    rw [get_withSegment]
    by_cases zero : index = 0
    · subst zero
      exact congrArg some (congrArg (StoredFile.mk · _) (append_nil _).symm)
    · have outside : ¬ index < [([] : List DecodedFrame)].length := by
        rw [length_singleton]
        omega
      rw [if_neg (fun same => zero (segmentName_injective same)), if_neg outside, get_empty]
  · intro name file found _
    rw [get_withSegment] at found
    split at found
    · next same => exact ⟨0, same⟩
    · cases found
  · rfl
  · intro file found
    cases found

end ControlVault.Audit
