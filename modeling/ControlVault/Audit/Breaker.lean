import ControlVault.Audit.Faults

namespace ControlVault.Audit

open Foundation Core Directory List

/-!
# The circuit breaker

A call that fails on disk is meant to be the last one that writes.  It is, unless the failure falls
into a rotation after the first sync: then the gate still stands in the old segment while the file
of the next one may exist.  A smaller record that fits the old segment is appended there, behind the
back of the header of the new file, and the log can no longer be opened.

`Guarded` excludes this window.  In runs of guarded calls a failure on disk breaks the gate, no
number is written twice, and the directory can be opened again.
-/

/-- The errors that report a failed file operation. -/
def AuditError.OnDisk : AuditError -> Bool
  | .io _ | .rotationFailed _ => true
  | _ => false

structure RecordCall where
  event : AuditEvent
  monotonicMs : UInt64
  faults : Faults

/-- The operations of a rotation whose failure leaves the gate unbroken. -/
def rotationPoints : List FaultPoint :=
  [.createSegment, .writeHeader, .fsyncHeader, .fsyncRotation, .reopenSegment]

/-- No operation of a rotation fails once the old segment is synced. -/
def Guarded (host : Host) (gate : AuditGate) (dir : Directory) (call : RecordCall) : Prop :=
  gate.circuitBroken = false -> Admissible gate call.event ->
    shouldRotate gate dir (nextFrame host gate call.event call.monotonicMs) = true ->
      call.faults .syncCurrent = none -> ∀ point ∈ rotationPoints, call.faults point = none

def RecordCall.attempt (host : Host) (gate : AuditGate) (dir : Directory) (call : RecordCall) :
    Attempt :=
  recordWith host call.faults gate dir call.event call.monotonicMs

variable {host : Host} {gate : AuditGate} {dir : Directory} {segs before : List (List DecodedFrame)}
  {last : List DecodedFrame} {state : AnchorState} {faults : Faults}

/-! ## A failed write -/

/-- A call that failed on disk, broke the gate and lost no record. -/
structure Tripped (host : Host) (frames : List DecodedFrame) (number : Nat) (attempt : Attempt) :
    Prop where
  failed : ∃ error, attempt.result = .error error /\ error.OnDisk = true
  broken : attempt.gate.circuitBroken = true
  kept : Recoverable host attempt.directory frames
  written : attempt.written = none ∨ attempt.written = some number

variable {frames : List DecodedFrame} {error : AuditError} {frame : DecodedFrame}

theorem breakGate_tripped (onDisk : error.OnDisk = true) (kept : Recoverable host dir frames) :
    Tripped host frames frame.sequence (breakGate gate dir frame offset error) :=
  ⟨⟨error, rfl, onDisk⟩, rfl, kept, .inr rfl⟩

theorem takeBack_tripped (onDisk : error.OnDisk = true) (kept : Recoverable host dir frames)
    (cut : Recoverable host (dir.apply (.setLength gate.segmentName gate.writerOffset)) frames) :
    Tripped host frames frame.sequence (takeBack faults gate dir frame offset error) := by
  unfold takeBack
  split
  · exact breakGate_tripped onDisk kept
  · exact breakGate_tripped onDisk cut

/-- Whatever part of a frame was written, it can be cut off again. -/
theorem Disk.cut_recoverable (disk : Disk host dir (before ++ [last]) [] (some state))
    (behind : Behind (before ++ [last]) [] (some state)) (bytes : Bytes) :
    Recoverable host ((dir.apply (.write (segmentName before.length) (endOffset last) bytes)).apply
        (.setLength (segmentName before.length) (endOffset last)))
      (before ++ [last]).flatten :=
  (disk.write_tail bytes).cut_tail.recoverable behind

/-- Replacing the anchor succeeds, or leaves what a crash could have left. -/
theorem Disk.writeAnchorWith_cases {tail : Bytes} {anchor : Option AnchorState}
    (disk : Disk host dir segs tail anchor) (faults : Faults) (next : AnchorState) :
    (∃ error left, writeAnchorWith host faults dir next = (.error error, left) /\
        Interrupted dir (anchorOperations host next) left) ∨
      writeAnchorWith host faults dir next =
        (.ok (), dir.applyAll (anchorOperations host next)) := by
  have regular : ¬(dir.get anchorTemporaryName).any (fun file => file.stat.symlink) = true := by
    cases found : dir.get anchorTemporaryName with
    | none => exact Bool.false_ne_true
    | some file =>
      rw [Option.any_some, disk.temporary file found]
      exact Bool.false_ne_true
  have interrupted : Interrupted dir (anchorOperations host next)
      (attempt faults dir (anchorSteps host next)).2 :=
    attempt_interrupted dir (anchorSteps host next)
  rw [writeAnchorWith, if_neg regular]
  cases outcome : attempt faults dir (anchorSteps host next) with
  | mk result left =>
    rw [outcome] at interrupted
    cases result with
    | error => exact .inl ⟨_, left, rfl, interrupted⟩
    | ok _ =>
      rw [(attempt_ok outcome).2]
      exact .inr rfl

section

variable (disk : Disk host dir (before ++ [last]) [] (some state))
  (behind : Behind (before ++ [last]) [] (some state)) (current : Current gate (before ++ [last]))

include disk behind current

theorem appendWith_spec (continues : Extends host (before ++ [last]).flatten frame) :
    Tripped host (before ++ [last]).flatten frame.sequence (appendWith host faults gate dir frame) ∨
      ∃ left, Disk host left (before ++ [last ++ [frame]]) []
          (some ⟨before.length, frame.sequence, frame.currentHash⟩) /\
        appendWith host faults gate dir frame =
          ⟨left, .ok ⟨frame.sequence, frame.currentHash⟩, gate.advanced frame,
            some frame.sequence⟩ := by
  rcases current.file with ⟨name, index, offset⟩
  have cut := disk.cut_recoverable behind
  have part : ∀ count, Recoverable host (dir.apply (.write (segmentName before.length)
      (endOffset last) ((encodeFrame frame).take count))) (before ++ [last]).flatten :=
    fun count => disk.append_recoverable behind continues (.torn _ _ _ _ count _)
  have appended := (disk.write_tail (encodeFrame frame)).frame_tail continues
  have anchored : ∀ left, Interrupted (dir.apply (.write (segmentName before.length)
      (endOffset last) (encodeFrame frame)))
      (anchorOperations host ⟨before.length, frame.sequence, frame.currentHash⟩) left ->
      Recoverable host left (before ++ [last]).flatten :=
    fun left interrupted => disk.append_recoverable behind continues
      (.continued (.continued (.continued interrupted)))
  unfold appendWith
  rw [<- name, <- offset] at cut part appended anchored
  cases faults .writeRecord with
  | some => exact .inl (takeBack_tripped rfl (part _) (cut _))
  | none =>
    dsimp only
    split
    · exact .inl (takeBack_tripped rfl (part _) (cut _))
    · cases faults .fsyncRecord with
      | some => exact .inl (takeBack_tripped rfl (part _) (cut _))
      | none =>
        cases faults .fsyncDir with
        | some => exact .inl (breakGate_tripped rfl (part _))
        | none =>
          rw [take_length, index]
          rcases appended.writeAnchorWith_cases faults
              ⟨before.length, frame.sequence, frame.currentHash⟩ with
            ⟨_, left, failed, interrupted⟩ | succeeded
          · rw [failed]
            exact .inl (breakGate_tripped rfl (anchored left interrupted))
          · rw [succeeded]
            refine .inr ⟨_, appended.anchor_complete _, ?_⟩
            rw [AuditGate.advanced, index]

theorem appendWith_overlong
    (overlong : 2 ^ 32 <= frame.payload.length) (allocated : frame.payload.length < 2 ^ 63) :
    Tripped host (before ++ [last]).flatten frame.sequence
      (appendWith host faults gate dir frame) := by
  rcases current.file with ⟨name, _, offset⟩
  have exceeds := overlong_exceeds overlong
  have short : transferred faults <= maxWrite := by
    unfold transferred
    split
    · exact min_le_right _ _
    · exact le_rfl
  have cut := disk.cut_recoverable behind
  have part : ∀ count, Recoverable host (dir.apply (.write (segmentName before.length)
      (endOffset last) ((encodeFrame frame).take count))) (before ++ [last]).flatten :=
    fun count => ⟨_, _, _, disk.write_tail _,
      readFrame_overlong (by rw [maxPayloadSize]; omega) allocated count, behind, prefix_rfl⟩
  unfold appendWith
  rw [<- name, <- offset] at cut part
  cases faults .writeRecord with
  | some => exact takeBack_tripped rfl (part _) (cut _)
  | none =>
    dsimp only
    rw [if_pos (short.trans_lt exceeds)]
    exact takeBack_tripped rfl (part _) (cut _)

end

/-! ## Rotation -/

section

variable (host : Host) (faults : Faults) (gate : AuditGate) (dir : Directory)
  (segs : List (List DecodedFrame)) (state : AnchorState)

/-- What a rotation comes to: it breaks the gate, escapes the breaker, or succeeds. -/
inductive RotatedWith : Except AuditError Unit × AuditGate × Directory -> Prop
  | tripped {error : AuditError} {fault : Fault} (onDisk : error.OnDisk = true)
      (found : faults .syncCurrent = some fault) :
      RotatedWith (.error error, { gate with circuitBroken := true }, dir)
  | escaped {error : AuditError} {point : FaultPoint} {fault : Fault} {left : Directory}
      (onDisk : error.OnDisk = true) (synced : faults .syncCurrent = none)
      (inside : point ∈ rotationPoints) (found : faults point = some fault) :
      RotatedWith (.error error, gate, left)
  | rotated (sound : ∀ point ∈ rotationPoints, faults point = none)
      (disk : Disk host left (segs ++ [[]]) [] (some state)) :
      RotatedWith (.ok (), gate.rotated, left)

end

theorem rotationFault_onDisk (point : FaultPoint) (message : Text) :
    (rotationFault point message).OnDisk = true := by
  unfold rotationFault
  split
  · rfl
  · rfl
  · rfl

theorem Healthy.rotateWith_spec (healthy : Healthy host gate dir segs state)
    (room : gate.sequence + 1 < 2 ^ 64) (faults : Faults) :
    RotatedWith host faults gate dir segs state (rotateWith host faults gate dir) := by
  have current := healthy.current
  have stored := healthy.disk.stored
  have positive := length_pos_iff.mpr stored.nonempty
  have next : gate.segmentIndex + 1 = segs.length := by
    rw [current.segmentIndex]
    omega
  have absent : ¬(dir.get (segmentName (gate.segmentIndex + 1))).isSome = true := by
    rw [next, stored.files, if_neg (lt_irrefl _)]
    exact Bool.false_ne_true
  have ops : (rotationSteps host gate).map Prod.snd =
      createSegment host (segmentName segs.length) (nextHeader segs) := by
    rw [nextHeader, Nat.add_comm 1, <- current.sequence, <- current.lastHash, <- next]
    rfl
  have first : 1 + segs.flatten.length < 2 ^ 64 := by
    rw [<- current.sequence]
    omega
  have points : rotationPoints = (rotationSteps host gate).map Prod.fst ++ [.reopenSegment] := rfl
  unfold rotateWith
  cases synced : faults .syncCurrent with
  | some => exact .tripped rfl synced
  | none =>
    dsimp only
    rw [if_neg absent]
    cases outcome : attempt faults dir (rotationSteps host gate) with
    | mk result =>
      cases result with
      | error stopped =>
        rcases stopped with ⟨point, fault⟩
        rcases attempt_error outcome with ⟨found, mem⟩
        refine .escaped (rotationFault_onDisk point fault.message) synced ?_ found
        exact mem_append_left _ mem
      | ok _ =>
        cases reopened : faults .reopenSegment with
        | some => exact .escaped rfl synced (by decide) reopened
        | none =>
          rcases attempt_ok outcome with ⟨sound, rfl⟩
          rw [ops]
          refine .rotated ?_ (healthy.disk.segment_complete first)
          have steps : ∀ point ∈ (rotationSteps host gate).map Prod.fst, faults point = none := by
            intro point mem
            rcases mem_map.mp mem with ⟨step, found, rfl⟩
            exact sound step found
          rw [points, forall_mem_append]
          exact ⟨steps, forall_mem_singleton.mpr reopened⟩

/-! ## A whole call -/

section

variable (host : Host) (gate : AuditGate) (dir : Directory) (segs : List (List DecodedFrame))
  (call : RecordCall)

/-- What a call comes to at a gate in working order. -/
inductive RecordedWith : Attempt -> Prop
  | refused {error : AuditError} (guarded : Guarded host gate dir call)
      (other : error.OnDisk = false) :
      RecordedWith ⟨dir, .error error, gate, none⟩
  | accepted {attempt : Attempt}
      (guarded : Guarded host gate dir call) (result : attempt.result = .ok receipt)
      (healthy : Healthy host attempt.gate attempt.directory newSegments (tip newSegments))
      (included : segs.flatten <+: newSegments.flatten)
      (written : attempt.written = some (gate.sequence + 1))
      (number : attempt.gate.sequence = gate.sequence + 1) :
      RecordedWith attempt
  | tripped {attempt : Attempt} (guarded : Guarded host gate dir call)
      (tripped : Tripped host segs.flatten (gate.sequence + 1) attempt) :
      RecordedWith attempt
  | escaped {error : AuditError} (unguarded : ¬Guarded host gate dir call)
      (onDisk : error.OnDisk = true) :
      RecordedWith ⟨left, .error error, gate, none⟩

end

section Call

variable {call : RecordCall} (healthy : Healthy host gate dir segs state)
  (admissible : Admissible gate call.event)

include healthy admissible

/-- The frame of an admissible event is appended at the end of the log, perhaps in a new
segment. -/
theorem Healthy.append_recorded {staged : AuditGate} {changed : Directory}
    (guarded : Guarded host gate dir call)
    (disk : Disk host changed (before ++ [last]) [] (some state))
    (behind : Behind (before ++ [last]) [] (some state))
    (current : Current staged (before ++ [last]))
    (flatten : (before ++ [last]).flatten = segs.flatten) :
    RecordedWith host gate dir segs call (appendWith host call.faults staged changed
        (nextFrame host gate call.event call.monotonicMs)) := by
  rcases admissible.small_or_overlong with small | overlong
  · have continues : Extends host segs.flatten (nextFrame host gate call.event call.monotonicMs) :=
      healthy.current.extends small admissible.sequence call.monotonicMs
    rw [<- flatten] at continues
    rcases appendWith_spec disk behind current continues with tripped | ⟨_, appended, same⟩
    · rw [flatten] at tripped
      exact .tripped guarded tripped
    · rw [same]
      rw [<- continues.tip_eq] at appended
      refine .accepted guarded rfl ⟨appended, behind_tip .., current.advanced continues⟩ ?_ rfl rfl
      rw [<- flatten, flatten_append, flatten_append, flatten_singleton, flatten_singleton,
        <- append_assoc]
      exact prefix_append _ _
  · let frame := nextFrame host gate call.event call.monotonicMs
    have tripped : Tripped host (before ++ [last]).flatten frame.sequence
        (appendWith host call.faults staged changed frame) :=
      appendWith_overlong disk behind current overlong call.event.allocated
    rw [flatten] at tripped
    exact .tripped guarded tripped

theorem Healthy.rotate_recorded
    (rotate : shouldRotate gate dir (nextFrame host gate call.event call.monotonicMs) = true) :
    RecordedWith host gate dir segs call
      (match rotateWith host call.faults gate dir with
        | (.error error, left, rotated) => ⟨rotated, .error error, left, none⟩
        | (.ok (), left, rotated) => appendWith host call.faults left rotated
            (nextFrame host gate call.event call.monotonicMs)) := by
  have spec := healthy.rotateWith_spec admissible.sequence call.faults
  generalize rotateWith host call.faults gate dir = outcome at spec
  cases spec with
  | @tripped error fault onDisk found =>
    refine .tripped ?_ ⟨⟨error, rfl, onDisk⟩, rfl, healthy.disk.recoverable healthy.behind, .inl rfl⟩
    intro _ _ _ synced
    rw [found] at synced
    cases synced
  | @escaped error point fault left onDisk synced inside found =>
    refine .escaped ?_ onDisk
    intro guarded
    have sound := guarded healthy.current.closed admissible rotate synced point inside
    rw [found] at sound
    cases sound
  | @rotated left sound disk =>
    refine healthy.append_recorded admissible (fun _ _ _ _ => sound) disk
      healthy.behind.add_segment (healthy.current.rotated healthy.disk.stored.nonempty) ?_
    rw [flatten_append, flatten_singleton, append_nil]

end Call

theorem Healthy.recordWith_spec (healthy : Healthy host gate dir segs state) (call : RecordCall) :
    RecordedWith host gate dir segs call (call.attempt host gate dir) := by
  unfold RecordCall.attempt recordWith
  rw [if_neg (by rw [healthy.current.closed]; exact Bool.false_ne_true)]
  split
  next large => exact .refused (fun _ admissible => absurd admissible.payload large.not_ge) rfl
  next small =>
    split
    next full => exact .refused (fun _ admissible => absurd admissible.sequence full.not_gt) rfl
    next room =>
      have admissible : Admissible gate call.event := ⟨not_lt.mp small, not_le.mp room⟩
      dsimp only
      split
      next rotate => exact healthy.rotate_recorded admissible rotate
      next stay =>
        rcases eq_nil_or_concat segs with rfl | ⟨_, _, rfl⟩
        · exact absurd rfl healthy.disk.stored.nonempty
        · rw [concat_eq_append] at healthy ⊢
          exact healthy.append_recorded admissible (fun _ _ rotate => absurd rotate stay)
            healthy.disk healthy.behind healthy.current rfl

/-! ## Runs of calls -/

/-- The calls of a run, one after another. -/
def attempts (host : Host) : AuditGate -> Directory -> List RecordCall -> List Attempt
  | _, _, [] => []
  | gate, dir, call :: rest =>
    let attempt := call.attempt host gate dir
    attempt :: attempts host attempt.gate attempt.directory rest

/-- The gate and the directory behind a run. -/
def finish (host : Host) : AuditGate -> Directory -> List RecordCall -> AuditGate × Directory
  | gate, dir, [] => (gate, dir)
  | gate, dir, call :: rest =>
    let attempt := call.attempt host gate dir
    finish host attempt.gate attempt.directory rest

/-- Every call of a run is guarded in the state it meets. -/
def AllGuarded (host : Host) : AuditGate -> Directory -> List RecordCall -> Prop
  | _, _, [] => True
  | gate, dir, call :: rest =>
    Guarded host gate dir call /\
      AllGuarded host (call.attempt host gate dir).gate (call.attempt host gate dir).directory rest

def Attempt.FailedOnDisk (attempt : Attempt) : Prop :=
  ∃ error, attempt.result = .error error /\ error.OnDisk = true

/-- A call that fails on disk breaks the gate. -/
def Trips (host : Host) (gate : AuditGate) (dir : Directory) (call : RecordCall) : Prop :=
  (call.attempt host gate dir).FailedOnDisk ->
    (call.attempt host gate dir).gate.circuitBroken = true

theorem attempt_broken (broken : gate.circuitBroken = true) (call : RecordCall) :
    call.attempt host gate dir = ⟨dir, .error circuitBroken, gate, none⟩ := by
  rw [RecordCall.attempt, recordWith, if_pos broken, circuitBroken]

theorem attempts_broken (broken : gate.circuitBroken = true) (calls : List RecordCall) :
    ∀ attempt ∈ attempts host gate dir calls,
      attempt = ⟨dir, .error circuitBroken, gate, none⟩ := by
  induction calls with
  | nil =>
    intro attempt mem
    cases mem
  | cons call rest ih =>
    rw [attempts, attempt_broken broken]
    intro attempt mem
    rcases mem_cons.mp mem with rfl | later
    · rfl
    · exact ih attempt later

variable {calls : List RecordCall}

/-- A call trips the breaker or needs not to exactly when it is guarded. -/
theorem Working.trips_iff (working : Working host gate dir frames) (call : RecordCall) :
    Trips host gate dir call <-> Guarded host gate dir call := by
  unfold Trips
  rcases working with ⟨_, _, healthy, _⟩ | ⟨broken, _⟩
  · have spec := healthy.recordWith_spec call
    generalize call.attempt host gate dir = attempt at spec ⊢
    cases spec with
    | refused guarded other =>
      refine iff_of_true ?_ guarded
      rintro ⟨error, same, onDisk⟩
      cases same
      rw [other] at onDisk
      cases onDisk
    | accepted guarded result =>
      refine iff_of_true ?_ guarded
      rintro ⟨error, same, _⟩
      rw [result] at same
      cases same
    | tripped guarded tripped => exact iff_of_true (fun _ => tripped.broken) guarded
    | escaped unguarded onDisk =>
      refine iff_of_false ?_ unguarded
      intro trips
      have broken := trips ⟨_, rfl, onDisk⟩
      rw [healthy.current.closed] at broken
      cases broken
  · rw [attempt_broken broken]
    refine iff_of_true (fun _ => broken) ?_
    intro closed
    rw [broken] at closed
    cases closed

/-- What a guarded call preserves. -/
structure StepKept (host : Host) (gate : AuditGate) (frames : List DecodedFrame)
    (attempt : Attempt) : Prop where
  working : Working host attempt.gate attempt.directory frames
  numbers : gate.sequence <= attempt.gate.sequence ∨ attempt.gate.circuitBroken = true
  written : ∀ number, attempt.written = some number ->
    number = gate.sequence + 1 /\
      (attempt.gate.sequence = number ∨ attempt.gate.circuitBroken = true)

theorem Working.step (working : Working host gate dir frames)
    (guarded : Guarded host gate dir call) :
    StepKept host gate frames (call.attempt host gate dir) := by
  rcases working with ⟨segs, anchor, healthy, included⟩ | ⟨broken, recoverable⟩
  · have spec := healthy.recordWith_spec call
    generalize call.attempt host gate dir = attempt at spec ⊢
    cases spec with
    | refused =>
      exact ⟨.inl ⟨segs, anchor, healthy, included⟩, .inl le_rfl, nofun⟩
    | accepted _ result after grown written number =>
      refine ⟨.inl ⟨_, _, after, included.trans grown⟩, .inl (by omega), ?_⟩
      intro count same
      rw [written] at same
      cases same
      exact ⟨rfl, .inl number⟩
    | tripped _ tripped =>
      refine ⟨.inr ⟨tripped.broken, tripped.kept.shorter included⟩, .inr tripped.broken, ?_⟩
      intro count same
      rcases tripped.written with none | some
      · rw [none] at same
        cases same
      · rw [some] at same
        cases same
        exact ⟨rfl, .inr tripped.broken⟩
    | escaped unguarded => exact absurd guarded unguarded
  · rw [attempt_broken broken]
    exact ⟨.inr ⟨broken, recoverable⟩, .inl le_rfl, nofun⟩

/-- The numbers that the calls of a run hand to a write. -/
def writtenNumbers (made : List Attempt) : List Nat :=
  made.filterMap Attempt.written

theorem writtenNumbers_broken (broken : gate.circuitBroken = true) (calls : List RecordCall) :
    writtenNumbers (attempts host gate dir calls) = [] := by
  rw [writtenNumbers, filterMap_eq_nil_iff]
  intro attempt mem
  rw [attempts_broken broken calls attempt mem]

theorem Working.numbers_grow :
    ∀ {gate : AuditGate} {dir : Directory}, Working host gate dir frames ->
      AllGuarded host gate dir calls ->
        (∀ number ∈ writtenNumbers (attempts host gate dir calls), gate.sequence < number) /\
          (writtenNumbers (attempts host gate dir calls)).Pairwise (· < ·) := by
  induction calls with
  | nil =>
    intro gate dir working guarded
    exact ⟨fun _ mem => (not_mem_nil mem).elim, List.Pairwise.nil⟩
  | cons call rest ih =>
    intro gate dir working guarded
    have step := working.step guarded.1
    rcases ih step.working guarded.2 with ⟨later, growing⟩
    rw [attempts]
    generalize call.attempt host gate dir = attempt at step later growing ⊢
    have above : ∀ number ∈ writtenNumbers (attempts host attempt.gate attempt.directory rest),
        gate.sequence < number := by
      intro number mem
      rcases step.numbers with ordered | broken
      · exact ordered.trans_lt (later number mem)
      · rw [writtenNumbers_broken broken] at mem
        cases mem
    cases written : attempt.written with
    | none =>
      rw [writtenNumbers, filterMap_cons_none written]
      exact ⟨above, growing⟩
    | some number =>
      rcases step.written number written with ⟨_, advanced⟩
      rw [writtenNumbers, filterMap_cons_some written, forall_mem_cons, pairwise_cons]
      refine ⟨⟨by omega, above⟩, ?_, growing⟩
      intro other mem
      rcases advanced with same | broken
      · rw [<- same]
        exact later other mem
      · change other ∈ writtenNumbers (attempts host attempt.gate attempt.directory rest) at mem
        rw [writtenNumbers_broken broken] at mem
        cases mem

theorem Working.finish :
    ∀ {gate : AuditGate} {dir : Directory}, Working host gate dir frames ->
      AllGuarded host gate dir calls ->
        Working host (finish host gate dir calls).1 (finish host gate dir calls).2
          frames := by
  induction calls with
  | nil =>
    intro gate dir working _
    exact working
  | cons call rest ih =>
    intro gate dir working guarded
    exact ih (working.step guarded.1).working guarded.2

theorem Working.all_trip :
    ∀ {gate : AuditGate} {dir : Directory}, Working host gate dir frames ->
      AllGuarded host gate dir calls ->
        (attempts host gate dir calls).Pairwise (fun earlier later =>
          earlier.FailedOnDisk -> later.result = .error circuitBroken) := by
  induction calls with
  | nil =>
    intro gate dir _ _
    exact List.Pairwise.nil
  | cons call rest ih =>
    intro gate dir working guarded
    refine pairwise_cons.mpr ⟨?_, ih (working.step guarded.1).working guarded.2⟩
    intro later mem failed
    have broken := (working.trips_iff call).mpr guarded.1 failed
    rw [attempts_broken broken rest later mem]

/-- No header is torn, and opening depends only on the number of segments and of records. -/
def Reopens (host : Host) (dir : Directory) (frames : List DecodedFrame) : Prop :=
  ¬HeaderTorn dir /\ ∀ maxSize clock,
    OpensWith host dir frames (openGate host dir maxSize clock)

theorem Working.reopens (working : Working host gate dir frames) : Reopens host dir frames := by
  have recoverable : Recoverable host dir frames := by
    rcases working with ⟨segs, anchor, healthy, included⟩ | ⟨_, recoverable⟩
    · exact (healthy.disk.recoverable healthy.behind).shorter included
    · exact recoverable
  refine ⟨?_, recoverable.opens⟩
  rcases recoverable with ⟨_, _, _, disk, _⟩
  exact disk.stored.not_torn

/-- In every run of guarded calls a failure on disk is the last thing that happens to the log: later
calls report the broken gate, no number is written twice, and the directory opens again.  At the
next call the breaker works exactly if that call is guarded as well. -/
theorem guarded_calls_trip {events : List AuditAction} {gate : AuditGate} {dir : Directory}
    (run : Sessions host events ⟨some gate, dir⟩) {calls : List RecordCall}
    (guarded : AllGuarded host gate dir calls) :
    (attempts host gate dir calls).Pairwise (fun earlier later =>
        earlier.FailedOnDisk -> later.result = .error circuitBroken) /\
      (writtenNumbers (attempts host gate dir calls)).Nodup /\
      (∃ frames, Holds frames (acknowledged events) /\
        Reopens host (finish host gate dir calls).2 frames) /\
      ∀ call, Trips host (finish host gate dir calls).1 (finish host gate dir calls).2 call <->
        Guarded host (finish host gate dir calls).1 (finish host gate dir calls).2 call := by
  rcases sessions_keep run with ⟨frames, keeps, holds⟩
  have working : Working host gate dir frames := keeps
  have finished := working.finish guarded
  refine ⟨working.all_trip guarded, ?_, ⟨frames, holds, finished.reopens⟩, finished.trips_iff⟩
  refine List.Pairwise.imp ?_ (working.numbers_grow guarded).2
  intro first second less
  exact less.ne

/-! ## Two small runs -/

/-- Exactly one operation fails. -/
def faultAt (point : FaultPoint) : Faults :=
  fun other => if other = point then some ⟨0, "EIO: I/O error"⟩ else none

/-- An event that does not fit behind the header of the small log. -/
def largeEvent : AuditEvent :=
  ⟨1700000000000, replicate 10 0x20, by decide⟩

def sampleOpening : List AuditAction :=
  [.opened 200 ⟨0, 0⟩ (openGate sampleHost Table.empty 200 ⟨0, 0⟩)]

theorem sampleOpening_run :
    Sessions sampleHost sampleOpening ⟨some (initialGate 200), sampleDirectory⟩ :=
  .single sampleOpened_step

/-- The sync of the only record fails; another call follows. -/
def unsyncedCalls : List RecordCall :=
  [⟨sampleEvent, 7, faultAt .fsyncRecord⟩, ⟨sampleEvent, 8, noFaults⟩]

theorem unsyncedCalls_guarded :
    AllGuarded sampleHost (initialGate 200) sampleDirectory unsyncedCalls := by
  refine ⟨?_, ?_, trivial⟩
  · intro _ _ rotate
    have stays : shouldRotate (initialGate 200) sampleDirectory
        (nextFrame sampleHost (initialGate 200) sampleEvent 7) = false := by decide +kernel
    rw [stays] at rotate
    cases rotate
  · intro closed
    have broken : (RecordCall.attempt sampleHost (initialGate 200) sampleDirectory
        ⟨sampleEvent, 7, faultAt .fsyncRecord⟩).gate.circuitBroken = true := by decide +kernel
    rw [broken] at closed
    cases closed

/-- The record that cannot be made durable trips the breaker, and the next call is refused. -/
theorem unsynced_record_trips :
    (attempts sampleHost (initialGate 200) sampleDirectory unsyncedCalls).map Attempt.result =
        [.error (.io "fsync record: EIO: I/O error"), .error circuitBroken] /\
      (attempts sampleHost (initialGate 200) sampleDirectory unsyncedCalls).Pairwise
        (fun earlier later => earlier.FailedOnDisk -> later.result = .error circuitBroken) /\
      (writtenNumbers (attempts sampleHost (initialGate 200) sampleDirectory
        unsyncedCalls)).Nodup := by
  have trips := guarded_calls_trip sampleOpening_run unsyncedCalls_guarded
  exact ⟨by decide +kernel, trips.1, trips.2.1⟩

/-- The sync of a new header fails; the next event fits into the old segment. -/
def escapingCalls : List RecordCall :=
  [⟨largeEvent, 7, faultAt .fsyncHeader⟩, ⟨sampleEvent, 8, noFaults⟩]

/-- The second record is accepted, and the log can no longer be opened. -/
theorem escaped_failure_forks :
    Sessions sampleHost sampleOpening ⟨some (initialGate 200), sampleDirectory⟩ /\
      (attempts sampleHost (initialGate 200) sampleDirectory escapingCalls).map Attempt.result =
        [.error (.io "EIO: I/O error"),
          .ok ⟨1, (nextFrame sampleHost (initialGate 200) sampleEvent 8).currentHash⟩] /\
      (openGate sampleHost (finish sampleHost (initialGate 200) sampleDirectory escapingCalls).2 200
          ⟨0, 0⟩).result =
        .error (.hashMismatch
          (hexOf (nextFrame sampleHost (initialGate 200) sampleEvent 8).currentHash) (hexOf 0)) :=
  ⟨sampleOpening_run, by decide +kernel, by decide +kernel⟩

end ControlVault.Audit
