import ControlVault.Audit.Disk

namespace ControlVault.Audit

open Foundation Directory List

/-!
# The calls of the gate on a stored log

A gate is current when it agrees with the log on disk.  For a current gate a
call of `record` either refuses the event and changes nothing, or appends one
frame, perhaps in a new segment, or runs into the limit of one write.  The file
operations of each case are known, so every directory that a crash may leave is
known as well.
-/

variable {host : Host} {dir : Directory} {segs before : List (List DecodedFrame)}
  {last : List DecodedFrame} {tail : Bytes} {anchor : Option AnchorState} {gate : AuditGate}

/-- The gate stands at the end of the stored log. -/
structure Current (gate : AuditGate) (segs : List (List DecodedFrame)) : Prop where
  segmentName : gate.segmentName = segmentName (segs.length - 1)
  segmentIndex : gate.segmentIndex = segs.length - 1
  writerOffset : gate.writerOffset = endOffset (segs.getLastD [])
  sequence : gate.sequence = segs.flatten.length
  lastHash : gate.lastHash = finalHash 0 segs.flatten
  closed : gate.circuitBroken = false

/-- The anchor of the last record. -/
def tip (segs : List (List DecodedFrame)) : AnchorState :=
  ⟨segs.length - 1, segs.flatten.length, finalHash 0 segs.flatten⟩

private theorem length_snoc (before : List (List DecodedFrame)) (last : List DecodedFrame) :
    (before ++ [last]).length - 1 = before.length := by
  rw [length_append, length_singleton, Nat.add_sub_cancel]

private theorem getLastD_snoc (before : List (List DecodedFrame)) (last : List DecodedFrame) :
    (before ++ [last]).getLastD [] = last := by
  rw [getLastD_eq_getLast?, getLast?_concat, Option.getD_some]

theorem Current.file (current : Current gate (before ++ [last])) :
    gate.segmentName = Audit.segmentName before.length /\ gate.segmentIndex = before.length /\
      gate.writerOffset = endOffset last := by
  rw [current.segmentName, current.segmentIndex, current.writerOffset, length_snoc, getLastD_snoc]
  exact ⟨rfl, rfl, rfl⟩

variable {event : AuditEvent} {frame : DecodedFrame} {state : AnchorState} {left : Directory}
  {ops : List FileOperation}

theorem Current.extends (current : Current gate segs)
    (small : event.json.length <= maxPayloadSize) (room : gate.sequence + 1 < 2 ^ 64)
    (now : UInt64) :
    Extends host segs.flatten (nextFrame host gate event now) where
  complete :=
    { sequence := room
      wallTimeMs := event.timestampMs.toNat_lt
      monotonicMs := now.toNat_lt
      payload := small
      hash := rfl }
  previousHash := current.lastHash
  sequence := congrArg (· + 1) current.sequence

/-! ## Appending a frame -/

/-- The operations that append a frame to a segment and move the anchor. -/
def appendOperations (host : Host) (index : Nat) (last : List DecodedFrame) (frame : DecodedFrame) :
    List FileOperation :=
  [.write (segmentName index) (endOffset last) (encodeFrame frame), .sync (segmentName index),
    .syncDirectory] ++ anchorOperations host ⟨index, frame.sequence, frame.currentHash⟩

theorem appendFrame_eq (disk : Disk host dir (before ++ [last]) tail anchor)
    (current : Current gate (before ++ [last])) (fits : (encodeFrame frame).length <= maxWrite) :
    appendFrame host gate dir frame =
      ⟨appendOperations host before.length last frame, .ok ⟨frame.sequence, frame.currentHash⟩,
        gate.advanced frame⟩ := by
  rcases current.file with ⟨name, index, offset⟩
  rw [appendFrame, if_neg fits.not_gt]
  dsimp only
  rw [disk.writeAnchor_eq]
  rw [take_of_length_le fits, appendOperations, AuditGate.advanced, name, index, offset]

theorem Current.advanced (current : Current gate (before ++ [last]))
    (continues : Extends host (before ++ [last]).flatten frame) :
    Current (gate.advanced frame) (before ++ [last ++ [frame]]) := by
  rcases current.file with ⟨name, index, offset⟩
  constructor
  · rw [length_snoc]
    exact name
  · rw [length_snoc]
    exact index
  · change gate.writerOffset + _ = _
    rw [getLastD_snoc, offset, endOffset, endOffset, encodeFrames_append, encodeFrames_singleton,
      length_append, Nat.add_assoc]
  · change frame.sequence = _
    rw [continues.sequence, flatten_append, flatten_append, flatten_singleton, flatten_singleton,
      length_append, length_append, length_append]
    rfl
  · change frame.currentHash = _
    rw [flatten_append, flatten_singleton, <- append_assoc, finalHash_snoc]
  · exact current.closed

theorem Extends.tip_eq (continues : Extends host (before ++ [last]).flatten frame) :
    tip (before ++ [last ++ [frame]]) = ⟨before.length, frame.sequence, frame.currentHash⟩ := by
  rw [tip, length_snoc, continues.sequence, flatten_append, flatten_append, flatten_singleton,
    flatten_singleton, <- append_assoc, finalHash_snoc, length_append]
  rfl

/-! ## Rotation -/

/-- The operations of a rotation. -/
def rotationOperations (host : Host) (segs : List (List DecodedFrame)) : List FileOperation :=
  .sync (segmentName (segs.length - 1)) ::
    createSegment host (segmentName segs.length) (nextHeader segs)

theorem rotateSegment_eq (stored : Stored host dir segs tail) (current : Current gate segs) :
    rotateSegment host gate dir = ⟨rotationOperations host segs, .ok gate.rotated⟩ := by
  have positive := length_pos_iff.mpr stored.nonempty
  have next : gate.segmentIndex + 1 = segs.length := by
    rw [current.segmentIndex]
    omega
  have absent : dir.get (segmentName segs.length) = none := by
    rw [stored.files, if_neg (lt_irrefl _)]
  rw [rotateSegment, next, absent, if_neg (by simp), AuditGate.rotated, next, rotationOperations,
    current.segmentName, nextHeader, headerAt, current.sequence, current.lastHash, Nat.add_comm 1]

theorem Current.rotated (current : Current gate segs) (nonempty : segs ≠ []) :
    Current gate.rotated (segs ++ [[]]) := by
  have positive := length_pos_iff.mpr nonempty
  have next : gate.segmentIndex + 1 = segs.length := by
    rw [current.segmentIndex]
    omega
  constructor
  · rw [length_snoc, <- next]
    rfl
  · rw [length_snoc, <- next]
    rfl
  · rw [getLastD_snoc]
    rfl
  · rw [flatten_append, flatten_singleton, append_nil]
    exact current.sequence
  · rw [flatten_append, flatten_singleton, append_nil]
    exact current.lastHash
  · exact current.closed

/-! ## Anchors that are not ahead of the log -/

/-- The anchor names a record of the log or an earlier one.  A log without anchor is new. -/
def Behind (segs : List (List DecodedFrame)) (tail : Bytes) : Option AnchorState -> Prop
  | none => segs = [[]] /\ tail = []
  | some state =>
    state.segmentIndex < segs.length /\ state.sequence <= segs.flatten.length /\
      (state.segmentIndex + 1 = segs.length -> segs.getLastD [] = [] ->
        state.sequence = 0)

theorem Behind.add_segment (behind : Behind segs tail (some state)) :
    Behind (segs ++ [[]]) tail (some state) := by
  rcases behind with ⟨_, _, _⟩
  refine ⟨?_, ?_, ?_⟩
  · rw [length_append]
    omega
  · rwa [flatten_append, flatten_singleton, append_nil]
  · intro final
    rw [length_append, length_singleton] at final
    omega

theorem Behind.add_frame (behind : Behind (before ++ [last]) tail (some state)) :
    Behind (before ++ [last ++ [frame]]) tail (some state) := by
  rcases behind with ⟨index, sequence, _⟩
  refine ⟨?_, ?_, ?_⟩
  · rw [length_append] at index ⊢
    exact index
  · rw [flatten_append, length_append, flatten_singleton] at sequence ⊢
    rw [length_append]
    omega
  · intro _ empty
    rw [getLastD_snoc] at empty
    exact absurd empty (append_ne_nil_of_right_ne_nil _ (cons_ne_nil _ _))

theorem behind_tip (before : List (List DecodedFrame)) (last : List DecodedFrame)
    (frame : DecodedFrame) (tail : Bytes) :
    Behind (before ++ [last ++ [frame]]) tail (some (tip (before ++ [last ++ [frame]]))) := by
  refine ⟨?_, le_rfl, ?_⟩
  · rw [tip, length_append]
    exact Nat.lt_succ_self _
  · intro _ empty
    rw [getLastD_snoc] at empty
    exact absurd empty (append_ne_nil_of_right_ne_nil _ (cons_ne_nil _ _))

/-- A gate in working order on the log it has written. -/
structure Healthy (host : Host) (gate : AuditGate) (dir : Directory)
    (segs : List (List DecodedFrame)) (anchor : AnchorState) : Prop where
  disk : Disk host dir segs [] (some anchor)
  behind : Behind segs [] (some anchor)
  current : Current gate segs

/-- A directory from which no acknowledged record has been lost. -/
def Recoverable (host : Host) (dir : Directory) (frames : List DecodedFrame) : Prop :=
  ∃ segs tail anchor, Disk host dir segs tail anchor /\
    (∀ raw later, readFrame tail ≠ .frame raw later) /\ Behind segs tail anchor /\
      frames <+: segs.flatten

theorem readFrame_nil (raw later : Bytes) : readFrame [] ≠ .frame raw later := by
  intro read
  cases read

theorem Disk.recoverable (disk : Disk host dir segs [] (some state))
    (behind : Behind segs [] (some state)) : Recoverable host dir segs.flatten :=
  ⟨segs, [], some state, disk, readFrame_nil, behind, prefix_rfl⟩

/-! ## Recording -/

/-- The event passes the checks that come before anything is written. -/
structure Admissible (gate : AuditGate) (event : AuditEvent) : Prop where
  payload : event.json.length % 2 ^ 32 <= maxPayloadSize
  sequence : gate.sequence + 1 < 2 ^ 64

instance (gate : AuditGate) (event : AuditEvent) : Decidable (Admissible gate event) :=
  decidable_of_iff (event.json.length % 2 ^ 32 <= maxPayloadSize /\ gate.sequence + 1 < 2 ^ 64)
    ⟨fun facts => ⟨facts.1, facts.2⟩, fun facts => ⟨facts.payload, facts.sequence⟩⟩

theorem record_refused (host : Host) (dir : Directory) (closed : gate.circuitBroken = false)
    (refused : ¬ Admissible gate event) (now : UInt64) :
    ∃ error : AuditError, (∀ text, error ≠ .io text) /\
      record host gate dir event now = ⟨[], .error error, gate⟩ := by
  rw [record, if_neg (by rw [closed]; exact Bool.false_ne_true)]
  by_cases large : maxPayloadSize < event.json.length % 2 ^ 32
  · rw [if_pos large]
    exact ⟨.schemaViolation _, nofun, rfl⟩
  · rw [if_neg large]
    by_cases full : 2 ^ 64 <= gate.sequence + 1
    · rw [if_pos full]
      exact ⟨.overflow, nofun, rfl⟩
    · exact absurd ⟨not_lt.mp large, not_le.mp full⟩ refused

/-- What precedes the frame of a record: nothing, or a rotation. -/
structure Staged (host : Host) (gate : AuditGate) (dir : Directory)
    (segs : List (List DecodedFrame)) (anchor : AnchorState) (ops : List FileOperation)
    (staged : AuditGate) (before : List (List DecodedFrame)) (last : List DecodedFrame) : Prop where
  disk : Disk host (dir.applyAll ops) (before ++ [last]) [] (some anchor)
  behind : Behind (before ++ [last]) [] (some anchor)
  current : Current staged (before ++ [last])
  flatten : (before ++ [last]).flatten = segs.flatten
  grown : segs.length <= (before ++ [last]).length
  interrupted : ∀ left, Interrupted dir ops left ->
    HeaderTorn left ∨ Recoverable host left segs.flatten

theorem Healthy.staged (healthy : Healthy host gate dir segs state)
    (admissible : Admissible gate event) (now : UInt64) :
    ∃ ops staged before last,
      Staged host gate dir segs state ops staged before last /\
        record host gate dir event now =
          ⟨ops ++ (appendFrame host staged (dir.applyAll ops)
              (nextFrame host gate event now)).operations,
            (appendFrame host staged (dir.applyAll ops)
              (nextFrame host gate event now)).result⟩ := by
  have current := healthy.current
  have nonempty := healthy.disk.stored.nonempty
  have first : 1 + segs.flatten.length < 2 ^ 64 := by
    rw [<- current.sequence]
    have room := admissible.sequence
    omega
  rw [record, if_neg (by rw [current.closed]; exact Bool.false_ne_true),
    if_neg admissible.payload.not_gt, if_neg admissible.sequence.not_ge]
  by_cases rotate : shouldRotate gate dir (nextFrame host gate event now) = true
  · have complete := healthy.disk.segment_complete first
    refine ⟨rotationOperations host segs, gate.rotated, segs, [],
      ⟨complete, healthy.behind.add_segment, current.rotated nonempty, ?_, ?_, ?_⟩, ?_⟩
    · rw [flatten_append, flatten_singleton, append_nil]
    · rw [length_append]
      exact Nat.le_add_right _ _
    · intro left interrupted
      cases interrupted with
      | stopped => exact .inr (healthy.disk.recoverable healthy.behind)
      | continued interrupted =>
        rcases healthy.disk.segment_interrupted first interrupted with same | torn | added
        · exact .inr (same.recoverable healthy.behind)
        · exact .inl torn
        · have recoverable := added.recoverable healthy.behind.add_segment
          rw [flatten_append, flatten_singleton, append_nil] at recoverable
          exact .inr recoverable
    · rw [if_pos rotate, rotateSegment_eq healthy.disk.stored current]
  · rcases eq_nil_or_concat segs with rfl | ⟨before, last, rfl⟩
    · exact absurd rfl nonempty
    rw [concat_eq_append] at healthy current ⊢
    refine ⟨[], gate, before, last, ⟨healthy.disk, healthy.behind, current, rfl, le_rfl, ?_⟩, ?_⟩
    · intro left interrupted
      rw [interrupted.of_nil]
      exact .inr (healthy.disk.recoverable healthy.behind)
    · rw [if_neg rotate]
      rfl

theorem Admissible.small_or_overlong (admissible : Admissible gate event) :
    event.json.length <= maxPayloadSize ∨ 2 ^ 32 <= event.json.length := by
  have payload := admissible.payload
  by_cases overlong : 2 ^ 32 <= event.json.length
  · exact .inr overlong
  · rw [Nat.mod_eq_of_lt (by omega)] at payload
    exact .inl payload

theorem small_fits (small : event.json.length <= maxPayloadSize) (now : UInt64) :
    (encodeFrame (nextFrame host gate event now)).length <= maxWrite := by
  rw [DecodedFrame.length_encodeFrame]
  rw [maxPayloadSize] at small
  change 12 + (92 + event.json.length) <= 0x7ffff000
  omega

/-- A payload that wraps around the check of its size does not fit one write. -/
theorem overlong_exceeds (overlong : 2 ^ 32 <= frame.payload.length) :
    maxWrite < (encodeFrame frame).length := by
  rw [DecodedFrame.length_encodeFrame]
  change 0x7ffff000 < 12 + (92 + frame.payload.length)
  omega

/-- A crash while a frame is appended loses no record. -/
theorem Disk.append_recoverable (disk : Disk host dir (before ++ [last]) [] (some state))
    (behind : Behind (before ++ [last]) [] (some state))
    (continues : Extends host (before ++ [last]).flatten frame)
    (interrupted : Interrupted dir (appendOperations host before.length last frame) left) :
    Recoverable host left (before ++ [last]).flatten := by
  have grown : (before ++ [last]).flatten <+: (before ++ [last ++ [frame]]).flatten := by
    rw [flatten_append, flatten_append, flatten_singleton, flatten_singleton, <- append_assoc]
    exact prefix_append _ _
  have newest := behind_tip before last frame []
  rw [continues.tip_eq] at newest
  rcases disk.append_interrupted continues interrupted with ⟨_, part, torn⟩ | old | new
  · exact ⟨_, _, _, torn, readFrame_torn continues.complete part, behind, prefix_rfl⟩
  · exact ⟨_, _, _, old, readFrame_nil, behind.add_frame, grown⟩
  · exact ⟨_, _, _, new, readFrame_nil, newest, grown⟩

section

variable {staged : AuditGate} (stage : Staged host gate dir segs state ops staged before last)

include stage

theorem Staged.append_interrupted
    (continues : Extends host segs.flatten frame) (fits : (encodeFrame frame).length <= maxWrite)
    (interrupted : Interrupted (dir.applyAll ops)
      (appendFrame host staged (dir.applyAll ops) frame).operations left) :
    Recoverable host left segs.flatten := by
  rw [<- stage.flatten] at continues ⊢
  rw [appendFrame_eq stage.disk stage.current fits] at interrupted
  exact stage.disk.append_recoverable stage.behind continues interrupted

theorem Staged.overlong_interrupted
    (overlong : 2 ^ 32 <= frame.payload.length) (allocated : frame.payload.length < 2 ^ 63)
    (interrupted : Interrupted (dir.applyAll ops)
      (appendFrame host staged (dir.applyAll ops) frame).operations left) :
    Recoverable host left segs.flatten := by
  rcases stage.current.file with ⟨name, _, offset⟩
  have exceeds := overlong_exceeds overlong
  have noFrame : ∀ count raw later, readFrame ((encodeFrame frame).take count) ≠ .frame raw later :=
    readFrame_overlong (by rw [maxPayloadSize]; omega) allocated
  rw [appendFrame, if_pos exceeds, name, offset] at interrupted
  rw [<- stage.flatten]
  have written := stage.disk.write_tail ((encodeFrame frame).take maxWrite)
  have cut := written.cut_tail
  cases interrupted with
  | stopped => exact stage.disk.recoverable stage.behind
  | torn _ _ _ _ count =>
    have part := stage.disk.write_tail (((encodeFrame frame).take maxWrite).take count)
    rw [take_take] at part ⊢
    exact ⟨_, _, _, part, noFrame _, stage.behind, prefix_rfl⟩
  | continued interrupted =>
    cases interrupted with
    | stopped => exact ⟨_, _, _, written, noFrame _, stage.behind, prefix_rfl⟩
    | continued interrupted =>
      cases interrupted with
      | stopped => exact cut.recoverable stage.behind
      | continued interrupted =>
        cases interrupted
        exact cut.recoverable stage.behind

end

section Record

variable (healthy : Healthy host gate dir segs state)

include healthy

/-- An event of admissible size becomes the next record. -/
theorem Healthy.record_accepted (small : event.json.length <= maxPayloadSize)
    (room : gate.sequence + 1 < 2 ^ 64) (now : UInt64) :
    ∃ ops left newSegments, record host gate dir event now =
        ⟨ops, .ok ⟨gate.sequence + 1, (nextFrame host gate event now).currentHash⟩,
          left⟩ /\
      Healthy host left (dir.applyAll ops) newSegments (tip newSegments) /\
      newSegments.flatten = segs.flatten ++ [nextFrame host gate event now] /\
      segs.length <= newSegments.length := by
  have payload : event.json.length % 2 ^ 32 <= maxPayloadSize := (Nat.mod_le _ _).trans small
  rcases healthy.staged ⟨payload, room⟩ now with
    ⟨_, _, before, last, stage, recorded⟩
  have continues : Extends host (before ++ [last]).flatten
      (nextFrame host gate event now) := by
    rw [stage.flatten]
    exact healthy.current.extends small room now
  rw [appendFrame_eq stage.disk stage.current (small_fits small now)] at recorded
  refine ⟨_, _, before ++ [last ++ [nextFrame host gate event now]], recorded,
    ⟨?_, behind_tip .., stage.current.advanced continues⟩, ?_, ?_⟩
  · rw [applyAll_append, continues.tip_eq]
    exact stage.disk.append_complete continues _
  · rw [<- stage.flatten, flatten_append, flatten_append, flatten_singleton, flatten_singleton,
      append_assoc]
  · have grown := stage.grown
    rwa [length_append] at grown ⊢

/-- A record with such a payload is taken back and the gate is broken. -/
theorem Healthy.record_overlong (admissible : Admissible gate event)
    (overlong : 2 ^ 32 <= event.json.length) (now : UInt64) :
    ∃ ops left newSegments, record host gate dir event now =
        ⟨ops, .error (.io "partial write"), left⟩ /\
      left.circuitBroken = true /\
      Disk host (dir.applyAll ops) newSegments [] (some state) /\
      Behind newSegments [] (some state) /\ newSegments.flatten = segs.flatten := by
  rcases healthy.staged admissible now with
    ⟨_, _, before, last, stage, recorded⟩
  rcases stage.current.file with ⟨name, _, offset⟩
  have exceeds : maxWrite < (encodeFrame (nextFrame host gate event now)).length :=
    overlong_exceeds overlong
  rw [appendFrame, if_pos exceeds, name, offset] at recorded
  refine ⟨_, _, before ++ [last], recorded, rfl, ?_, stage.behind, stage.flatten⟩
  rw [applyAll_append]
  exact (stage.disk.write_tail _).cut_tail

/-- A crash during `record` leaves a torn header, or a directory without loss. -/
theorem Healthy.record_interrupted
    (interrupted : Interrupted dir (record host gate dir event now).operations left) :
    HeaderTorn left ∨ Recoverable host left segs.flatten := by
  by_cases admissible : Admissible gate event
  · rcases healthy.staged admissible now with
      ⟨_, _, _, _, stage, recorded⟩
    rw [recorded] at interrupted
    rcases interrupted.of_append with early | late
    · exact stage.interrupted left early
    · right
      rcases admissible.small_or_overlong with small | overlong
      · exact stage.append_interrupted
          (healthy.current.extends small admissible.sequence now)
          (small_fits small now) late
      · exact stage.overlong_interrupted overlong event.allocated late
  · rcases record_refused host dir healthy.current.closed admissible now with
      ⟨_, _, refused⟩
    rw [refused] at interrupted
    rw [interrupted.of_nil]
    exact .inr (healthy.disk.recoverable healthy.behind)

end Record

end ControlVault.Audit
