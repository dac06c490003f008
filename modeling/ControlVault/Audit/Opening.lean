import ControlVault.Audit.Calls

namespace ControlVault.Audit

open Foundation Directory Stored Inspection List Table

/-!
# Opening the gate

Opening a directory without segments starts a log.  Opening a log that the
daemon has left behind cuts off an incomplete tail, and appends a record when it
found a tail or an anchor behind the log.  Neither a torn header nor more than a
million segments pass the verification, so opening fails there and performs no
operation at all.
-/

variable {host : Host} {dir : Directory} {segs before : List (List DecodedFrame)}
  {last : List DecodedFrame} {tail : Bytes} {anchor : Option AnchorState} {maxSize : Nat}
  {clock : Clock}

/-! ## Inspecting a log -/

theorem Behind.valid (behind : Behind segs tail anchor) (fits : segs.length <= 10 ^ 6)
    (inRange : 1 + segs.flatten.length <= 2 ^ 64) :
    ∀ state, anchor = some state -> state.Valid := by
  rintro state rfl
  rcases behind with ⟨_, _, _⟩
  exact ⟨by omega, by omega⟩

theorem Behind.checkAnchor (behind : Behind (before ++ [last]) tail anchor) :
    (foundIn before last tail anchor).checkAnchor = .ok () := by
  cases anchor with
  | none => rfl
  | some state =>
    rcases behind with ⟨index, sequence, empty⟩
    rw [length_append, length_singleton] at index empty
    rw [flatten_append, flatten_singleton] at sequence
    rw [getLastD_eq_getLast?, getLast?_concat] at empty
    have reached : state.segmentIndex = before.length ->
        state.sequence <= (foundIn before last tail (some state)).lastSequence := by
      intro same
      change _ <= if last = [] then 0 else (before.flatten ++ last).length
      split
      · next none => rw [empty (by omega) none]
      · exact sequence
    have inside : ¬ (foundIn before last tail (some state)).segmentIndex < state.segmentIndex := by
      change ¬ before.length < state.segmentIndex
      omega
    change (if _ then _ else if _ then _ else _) = _
    rw [if_neg inside, if_neg]
    rintro ⟨_, same, ahead⟩
    exact absurd (reached same) ahead.not_ge

theorem Stored.current (stored : Stored host dir (before ++ [last]) tail)
    (anchor : Option AnchorState) (maxSize : Nat) :
    Current ((foundIn before last tail anchor).gate maxSize) (before ++ [last]) := by
  have length : (before ++ [last]).length - 1 = before.length := by
    rw [length_append, length_singleton, Nat.add_sub_cancel]
  have final : (before ++ [last]).getLastD [] = last := by
    rw [getLastD_eq_getLast?, getLast?_concat, Option.getD_some]
  have frames : (before ++ [last]).flatten = before.flatten ++ last := by
    rw [flatten_append, flatten_singleton]
  have inRange := stored.inRange
  rw [frames] at inRange
  constructor
  · rw [length]
    rfl
  · rw [length]
    rfl
  · rw [final]
    rfl
  · change (((before.flatten ++ last).length + 1) % 2 ^ 64 + (2 ^ 64 - 1)) % 2 ^ 64 = _
    rw [frames]
    omega
  · rw [frames]
    rfl
  · rfl

/-- Opening a stored log depends on the comparison of the anchor. -/
theorem Stored.openGate_eq (stored : Stored host dir (before ++ [last]) tail)
    (noFrame : ∀ raw later, readFrame tail ≠ .frame raw later)
    (fits : (before ++ [last]).length <= 10 ^ 6) (loaded : loadAnchor host dir = .ok anchor) :
    openGate host dir maxSize clock =
      match (foundIn before last tail anchor).checkAnchor with
      | .error error => ⟨[], .error error⟩
      | .ok _ => resume host (foundIn before last tail anchor) dir maxSize
          clock := by
  rw [openGate, loaded]
  rw [stored.listSegments_getLast fits]
  dsimp only
  rw [stored.inspect_eq fits noFrame anchor]
  cases (foundIn before last tail anchor).checkAnchor with
  | error | ok => rfl

section Inspected

variable (disk : Disk host dir (before ++ [last]) tail anchor)
  (noFrame : ∀ raw later, readFrame tail ≠ .frame raw later)
  (behind : Behind (before ++ [last]) tail anchor) (fits : (before ++ [last]).length <= 10 ^ 6)

include disk noFrame behind fits

theorem Disk.inspected :
    loadAnchor host dir = .ok anchor /\
      (listSegments dir).getLast? = some (segmentName before.length) /\
      inspect host dir anchor (segmentName before.length) =
        .ok (foundIn before last tail anchor) := by
  have found := disk.stored.inspect_eq fits noFrame anchor
  rw [behind.checkAnchor] at found
  exact ⟨disk.loadAnchor_eq (behind.valid fits disk.stored.inRange),
    disk.stored.listSegments_getLast fits, found⟩

theorem Disk.openGate_eq :
    openGate host dir maxSize clock =
      resume host (foundIn before last tail anchor) dir maxSize clock := by
  rw [disk.stored.openGate_eq noFrame fits (disk.inspected noFrame behind fits).1,
    behind.checkAnchor]

end Inspected

/-! ## Cutting off the tail -/

theorem Disk.truncated (disk : Disk host dir (before ++ [last]) tail anchor) :
    Disk host (dir.applyAll (foundIn before last tail anchor).truncation)
      (before ++ [last]) [] anchor := by
  rw [truncation]
  split
  · exact disk.cut_tail
  · next clean =>
      have short : ¬ endOffset last < endOffset last + tail.length := by
        intro longer
        exact clean (decide_eq_true longer)
      have empty : tail = [] := length_eq_zero_iff.mp (by omega)
      subst empty
      exact disk

theorem Disk.truncation_interrupted (disk : Disk host dir (before ++ [last]) tail anchor)
    (interrupted : Interrupted dir (foundIn before last tail anchor).truncation left) :
    Disk host left (before ++ [last]) tail anchor ∨ Disk host left (before ++ [last]) [] anchor := by
  rw [truncation] at interrupted
  split at interrupted
  · have cut := disk.cut_tail
    cases interrupted with
    | stopped => exact .inl disk
    | continued interrupted =>
      cases interrupted with
      | stopped => exact .inr cut
      | continued interrupted =>
        cases interrupted
        exact .inr cut
  · rw [interrupted.of_nil]
    exact .inl disk

/-! ## Opening a log -/

theorem recover_operations (found : Inspection) (gate : AuditGate) (dir : Directory)
    (clock : Clock) :
    (recover host found gate dir clock).operations = if found.needsRecovery then
        (record host gate dir (found.recovery gate.anchor clock.timestampMs)
          clock.monotonicMs).operations
      else [] := by
  rw [recover]
  split
  · dsimp only
    split
    all_goals rfl
  · rfl

variable {left gate : AuditGate} {found : Inspection} {ops : List FileOperation}

theorem recover_accepted (needed : found.needsRecovery = true)
    (recorded : record host gate dir (found.recovery gate.anchor clock.timestampMs)
      clock.monotonicMs = ⟨ops, .ok receipt, left⟩) :
    recover host found gate dir clock = ⟨ops, .ok left⟩ := by
  rw [recover, if_pos needed, recorded]

theorem recover_refused (needed : found.needsRecovery = true)
    (recorded : record host gate dir (found.recovery gate.anchor clock.timestampMs)
      clock.monotonicMs = ⟨ops, .error error, left⟩) :
    recover host found gate dir clock = ⟨ops, .error error⟩ := by
  rw [recover, if_pos needed, recorded]

theorem Inspection.length_recovery (found : Inspection) (anchor : AnchorState)
    (timestampMs : UInt64) : (found.recovery anchor timestampMs).json.length <= maxPayloadSize :=
  length_recoverParts ..

theorem resume_anchored (anchored : found.anchor = some state) :
    resume host found dir maxSize clock =
      ⟨found.truncation ++ (recover host found (found.gate maxSize)
          (dir.applyAll found.truncation) clock).operations,
        (recover host found (found.gate maxSize)
          (dir.applyAll found.truncation) clock).result⟩ := by
  rw [resume, anchored]

theorem resume_unanchored (missing : found.anchor = none)
    (written : writeAnchor host (dir.applyAll found.truncation)
      (found.gate maxSize).anchor = .ok ops) :
    resume host found dir maxSize clock =
      ⟨found.truncation ++ (ops ++ (recover host found (found.gate maxSize)
          ((dir.applyAll found.truncation).applyAll ops) clock).operations),
        (recover host found (found.gate maxSize)
          ((dir.applyAll found.truncation).applyAll ops) clock).result⟩ := by
  rw [resume, missing]
  rw [written]

section Log

variable {state : AnchorState} (disk : Disk host dir (before ++ [last]) tail (some state))
  (behind : Behind (before ++ [last]) tail (some state))

include disk behind

theorem Disk.healthy (maxSize : Nat) :
    Healthy host ((foundIn before last tail (some state)).gate maxSize)
      (dir.applyAll (foundIn before last tail (some state)).truncation)
      (before ++ [last]) state :=
  ⟨disk.truncated, behind, disk.stored.current _ _⟩

section

variable (noFrame : ∀ raw later, readFrame tail ≠ .frame raw later)

include noFrame

theorem Disk.resume_interrupted {left : Directory} (interrupted : Interrupted dir
      (resume host (foundIn before last tail (some state)) dir maxSize
        clock).operations left) :
    HeaderTorn left ∨ Recoverable host left (before ++ [last]).flatten := by
  have healthy := disk.healthy behind maxSize
  rcases Interrupted.of_append interrupted with early | late
  · rcases disk.truncation_interrupted early with uncut | cut
    · exact .inr ⟨_, _, _, uncut, noFrame, behind, prefix_rfl⟩
    · exact .inr (cut.recoverable behind)
  · rw [recover_operations] at late
    split at late
    · exact healthy.record_interrupted late
    · rw [late.of_nil]
      exact .inr (healthy.disk.recoverable behind)

section

variable (fits : (before ++ [last]).length <= 10 ^ 6)

include fits

/-- A log that needs no recovery is opened without touching it. -/
theorem Disk.opened_quietly
    (quiet : (foundIn before last tail (some state)).needsRecovery = false) :
    openGate host dir maxSize clock =
        ⟨[], .ok ((foundIn before last tail (some state)).gate maxSize)⟩ /\
      Healthy host ((foundIn before last tail (some state)).gate maxSize) dir
        (before ++ [last]) state := by
  have clean := (Bool.or_eq_false_iff.mp quiet).1
  have uncut : (foundIn before last tail (some state)).truncation = [] := by
    rw [truncation, clean]
    rfl
  have healthy := disk.healthy behind maxSize
  rw [uncut] at healthy
  refine ⟨?_, healthy⟩
  rw [disk.openGate_eq noFrame behind fits, resume_anchored rfl, uncut, recover, quiet]
  rfl

/-- A log that needs recovery grows by the record of the recovery. -/
theorem Disk.opened_recovering
    (needed : (foundIn before last tail (some state)).needsRecovery = true)
    (room : (before ++ [last]).flatten.length + 1 < 2 ^ 64) :
    ∃ ops gate newSegments,
      openGate host dir maxSize clock = ⟨ops, .ok gate⟩ /\
      Healthy host gate (dir.applyAll ops) newSegments (tip newSegments) /\
      (before ++ [last]).flatten <+: newSegments.flatten := by
  have healthy := disk.healthy behind maxSize
  rw [<- healthy.current.sequence] at room
  rcases healthy.record_accepted (length_recovery ..) room clock.monotonicMs with
    ⟨ops, left, newSegments, recorded, after, frames, _⟩
  refine ⟨(foundIn before last tail (some state)).truncation ++ ops, left, newSegments,
    ?_, ?_, ?_⟩
  · rw [disk.openGate_eq noFrame behind fits, resume_anchored rfl, recover_accepted needed recorded]
  · rw [applyAll_append]
    exact after
  · rw [frames]
    exact prefix_append _ _

/-- Without a number for the record of the recovery, opening fails. -/
theorem Disk.opening_full (needed : (foundIn before last tail (some state)).needsRecovery = true)
    (full : ¬ (before ++ [last]).flatten.length + 1 < 2 ^ 64) :
    ∃ ops error, openGate host dir maxSize clock = ⟨ops, .error error⟩ := by
  have healthy := disk.healthy behind maxSize
  rw [<- healthy.current.sequence] at full
  rcases record_refused host (dir.applyAll _) healthy.current.closed
      (fun admissible => full admissible.sequence) clock.monotonicMs with ⟨_, _, recorded⟩
  rw [disk.openGate_eq noFrame behind fits, resume_anchored rfl, recover_refused needed recorded]
  exact ⟨_, _, rfl⟩

end

end

end Log

/-! ## Opening a new log -/

theorem behind_initial : Behind [[]] [] (some initialAnchor) :=
  ⟨Nat.zero_lt_one, le_rfl, fun _ _ => rfl⟩

theorem initialGate_healthy (disk : Disk host dir [[]] [] (some initialAnchor)) :
    Healthy host (initialGate maxSize) dir [[]] initialAnchor :=
  ⟨disk, behind_initial, ⟨rfl, rfl, rfl, rfl, rfl, rfl⟩⟩

/-- A new log whose anchor is missing gets its anchor. -/
theorem Disk.opened_unanchored (disk : Disk host dir [[]] [] none) :
    openGate host dir maxSize clock =
      ⟨anchorOperations host initialAnchor, .ok (initialGate maxSize)⟩ := by
  have behind : Behind ([] ++ [[]]) [] none := ⟨rfl, rfl⟩
  have written : writeAnchor host (dir.applyAll (foundIn [] [] [] none).truncation)
      ((foundIn [] [] [] none).gate maxSize).anchor =
        .ok (anchorOperations host initialAnchor) := disk.writeAnchor_eq initialAnchor
  have listed : Disk host dir ([] ++ [[]]) [] none := disk
  rw [listed.openGate_eq readFrame_nil behind (by decide), resume_unanchored rfl written]
  exact congrArg (Performed.mk · _) (append_nil _)

theorem openGate_blank :
    openGate host empty maxSize clock =
      ⟨createSegment host (segmentName 0) initialHeader ++ anchorOperations host initialAnchor,
        .ok (initialGate maxSize)⟩ :=
  rfl

variable {left : Directory} {frames : List DecodedFrame}

theorem blank_interrupted (interrupted : Interrupted empty
      (openGate host empty maxSize clock).operations left) :
    left = empty ∨ HeaderTorn left ∨ Recoverable host left [] := by
  have unanchored : ∀ {dir}, Disk host dir [[]] [] none -> Recoverable host dir [] :=
    fun disk => ⟨_, _, _, disk, readFrame_nil, ⟨rfl, rfl⟩, nil_prefix⟩
  rcases interrupted.of_append with early | late
  · rcases createSegment_interrupted (isSegmentName_segmentName 0) early with same | torn | rfl
    · exact .inl same
    · exact .inr (.inl torn)
    · exact .inr (.inr (unanchored (disk_initial host)))
  · rcases (disk_initial host).anchor_interrupted late with old | new
    · exact .inr (.inr (unanchored old))
    · exact .inr (.inr (new.recoverable behind_initial))

/-! ## Directories that cannot be opened -/

/-- Opening fails before it writes, or the directory is new or passes the verification. -/
theorem openGate_cases (host : Host) (dir : Directory) (maxSize : Nat) (clock : Clock) :
    listSegments dir = [] ∨
      (∃ error, openGate host dir maxSize clock = ⟨[], .error error⟩) ∨
      ∃ scans, Verified host dir 0 0 (listSegments dir) scans := by
  rw [openGate]
  cases loadAnchor host dir with
  | error error => exact .inr (.inl ⟨error, rfl⟩)
  | ok anchor =>
    cases final : (listSegments dir).getLast? with
    | none => exact .inl (getLast?_eq_none_iff.mp final)
    | some name =>
      dsimp only
      cases inspected : inspect host dir anchor name with
      | error error => exact .inr (.inl ⟨error, rfl⟩)
      | ok found =>
        rw [inspect, bind_eq_ok] at inspected
        rcases inspected with ⟨_, verified, _⟩
        exact .inr (.inr (verifyAllSegments_ok_iff.mp verified))

theorem HeaderTorn.openGate_error (torn : HeaderTorn dir) (host : Host)
    (maxSize : Nat) (clock : Clock) :
    ∃ error, openGate host dir maxSize clock = ⟨[], .error error⟩ := by
  rcases torn with ⟨name, file, segment, found, short⟩
  have listed : name ∈ listSegments dir := mem_listSegments.mpr ⟨⟨file, found⟩, segment⟩
  rcases openGate_cases host dir maxSize clock with none | failed | ⟨_, verified⟩
  · rw [none] at listed
    cases listed
  · exact failed
  · rcases verified.scan_of_mem listed with ⟨_, _, scanned⟩
    rcases scanned.file with ⟨_, _, stored⟩
    rw [found] at stored
    cases stored
    rw [SegmentScan.content, length_append, SegmentHeader.length_encode] at short
    omega

theorem Stored.openGate_error (stored : Stored host dir segs tail)
    (many : ¬ segs.length <= 10 ^ 6) (maxSize : Nat) (clock : Clock) :
    ∃ error, openGate host dir maxSize clock = ⟨[], .error error⟩ := by
  rcases openGate_cases host dir maxSize clock with none | failed | ⟨_, verified⟩
  · have listed := (stored.mem_names (segmentName 0)).mpr
      (mem_map.mpr ⟨0, mem_range.mpr (by omega), rfl⟩)
    rw [none] at listed
    cases listed
  · exact failed
  · exact absurd (stored.le_million verified) many

/-! ## Between two openings -/

/-- A directory that calls and crashes may leave: torn, new, or without loss of the records. -/
def LeftBehind (host : Host) (dir : Directory) (frames : List DecodedFrame) : Prop :=
  HeaderTorn dir ∨ Recoverable host dir frames ∨ dir = empty /\ frames = []

/-- No segment has a torn header, there are at most a million segments, and the record of a
recovery, if there is to be one, has a number. -/
structure Openable (host : Host) (dir : Directory) : Prop where
  headers : ¬ HeaderTorn dir
  segments : (listSegments dir).length <= 10 ^ 6
  number : ∀ anchor name found, loadAnchor host dir = .ok anchor ->
    (listSegments dir).getLast? = some name ->
    inspect host dir anchor name = .ok found -> found.needsRecovery = true ->
      found.sequence + 1 < 2 ^ 64

theorem Stored.length_listSegments (stored : Stored host dir segs tail) :
    (listSegments dir).length = segs.length := by
  have names : (listSegments dir).Nodup :=
    (listSegments_increasing dir).imp (fun less => ne_of_lt less)
  have numbers : ((range segs.length).map segmentName).Nodup :=
    nodup_range.map (fun _ _ same => segmentName_injective same)
  rw [((perm_ext_iff_of_nodup names numbers).mpr stored.mem_names).length_eq, length_map,
    length_range]

theorem Stored.not_torn (stored : Stored host dir segs tail) : ¬ HeaderTorn dir := by
  rintro ⟨name, file, segment, found, short⟩
  rcases stored.only name file found segment with ⟨_, rfl⟩
  rw [stored.files] at found
  split at found
  · cases found
    rw [length_append, segmentContent, length_append, SegmentHeader.length_encode] at short
    omega
  · cases found

theorem Recoverable.interrupted (recoverable : Recoverable host dir frames)
    (interrupted : Interrupted dir (openGate host dir maxSize clock).operations
      left) : HeaderTorn left ∨ Recoverable host left frames := by
  rcases recoverable with ⟨segs, _, anchor, disk, noFrame, behind, included⟩
  have kept : ∀ {other}, HeaderTorn other ∨ Recoverable host other segs.flatten ->
      HeaderTorn other ∨ Recoverable host other frames := by
    rintro other (torn | ⟨newSegments, newTail, newAnchor, newDisk, rest, newBehind, more⟩)
    · exact .inl torn
    · exact .inr ⟨_, _, _, newDisk, rest, newBehind, included.trans more⟩
  by_cases fits : segs.length <= 10 ^ 6
  · cases anchor with
    | none =>
      rcases behind with ⟨rfl, rfl⟩
      rw [disk.opened_unanchored] at interrupted
      apply kept
      right
      rcases disk.anchor_interrupted interrupted with old | new
      · exact ⟨_, _, _, old, noFrame, ⟨rfl, rfl⟩, prefix_rfl⟩
      · exact new.recoverable behind_initial
    | some state =>
      rcases eq_nil_or_concat segs with rfl | ⟨_, _, rfl⟩
      · exact absurd rfl disk.stored.nonempty
      rw [concat_eq_append] at disk behind fits kept
      rw [disk.openGate_eq noFrame behind fits] at interrupted
      exact kept (disk.resume_interrupted behind noFrame interrupted)
  · rcases disk.stored.openGate_error fits maxSize clock with ⟨_, failed⟩
    rw [failed] at interrupted
    rw [interrupted.of_nil]
    exact .inr ⟨_, _, _, disk, noFrame, behind, included⟩

/-- Opening, completed or not, loses no record. -/
theorem LeftBehind.interrupted (leftBehind : LeftBehind host dir frames)
    (interrupted : Interrupted dir (openGate host dir maxSize clock).operations
      left) : LeftBehind host left frames := by
  rcases leftBehind with torn | recoverable | ⟨rfl, rfl⟩
  · rcases torn.openGate_error host maxSize clock with ⟨_, failed⟩
    rw [failed] at interrupted
    rw [interrupted.of_nil]
    exact .inl torn
  · rcases recoverable.interrupted interrupted with torn | kept
    · exact .inl torn
    · exact .inr (.inl kept)
  · rcases blank_interrupted interrupted with same | torn | kept
    · exact .inr (.inr ⟨same, rfl⟩)
    · exact .inl torn
    · exact .inr (.inl kept)

theorem Disk.openable_iff (disk : Disk host dir (before ++ [last]) tail anchor)
    (noFrame : ∀ raw later, readFrame tail ≠ .frame raw later)
    (behind : Behind (before ++ [last]) tail anchor) (fits : (before ++ [last]).length <= 10 ^ 6) :
    Openable host dir <->
      ((foundIn before last tail anchor).needsRecovery = true ->
        (before ++ [last]).flatten.length + 1 < 2 ^ 64) := by
  have number : (foundIn before last tail anchor).sequence =
      (before ++ [last]).flatten.length := (disk.stored.current anchor 0).sequence
  rcases disk.inspected noFrame behind fits with ⟨loaded, final, inspected⟩
  rw [<- number]
  constructor
  · intro openable
    exact openable.number _ _ _ loaded final inspected
  · intro room
    refine ⟨disk.stored.not_torn, disk.stored.length_listSegments.trans_le fits, ?_⟩
    intro otherAnchor name found otherLoaded otherFinal otherInspected
    rw [loaded] at otherLoaded
    rw [final] at otherFinal
    cases otherLoaded
    cases otherFinal
    rw [inspected] at otherInspected
    cases otherInspected
    exact room

/-- What opening makes of a directory, and that it depends only on whether it is openable. -/
def OpensWith (host : Host) (dir : Directory) (frames : List DecodedFrame)
    (performed : Performed (Except AuditError AuditGate)) : Prop :=
  (Openable host dir /\ ∃ ops gate segs state, performed = ⟨ops, .ok gate⟩ /\
      Healthy host gate (dir.applyAll ops) segs state /\ frames <+: segs.flatten) ∨
  (¬ Openable host dir /\ ∃ ops error, performed = ⟨ops, .error error⟩)

theorem Recoverable.opens (recoverable : Recoverable host dir frames) (maxSize : Nat)
    (clock : Clock) :
    OpensWith host dir frames (openGate host dir maxSize clock) := by
  rcases recoverable with ⟨segs, tail, anchor, disk, noFrame, behind, included⟩
  by_cases fits : segs.length <= 10 ^ 6
  · cases anchor with
    | none =>
      rcases behind with ⟨rfl, rfl⟩
      have listed : Disk host dir ([] ++ [[]]) [] none := disk
      have openable : Openable host dir :=
        (listed.openable_iff noFrame ⟨rfl, rfl⟩ fits).mpr nofun
      exact .inl ⟨openable, _, _, _, _, disk.opened_unanchored,
        initialGate_healthy (disk.anchor_complete initialAnchor), included⟩
    | some state =>
      rcases eq_nil_or_concat segs with rfl | ⟨before, last, rfl⟩
      · exact absurd rfl disk.stored.nonempty
      rw [concat_eq_append] at disk behind fits included
      have openable := disk.openable_iff noFrame behind fits
      by_cases needed : (foundIn before last tail (some state)).needsRecovery = true
      · by_cases room : (before ++ [last]).flatten.length + 1 < 2 ^ 64
        · rcases disk.opened_recovering behind noFrame fits needed room with
            ⟨ops, gate, newSegments, opened, healthy, grown⟩
          exact .inl ⟨openable.mpr (fun _ => room), ops, gate, newSegments, _, opened,
            healthy, included.trans grown⟩
        · exact .inr ⟨fun able => room (openable.mp able needed),
            disk.opening_full behind noFrame fits needed room⟩
      · rcases disk.opened_quietly behind noFrame fits (Bool.eq_false_iff.mpr needed) with
          ⟨opened, healthy⟩
        exact .inl ⟨openable.mpr (fun recovery => absurd recovery needed), [], _, _, _, opened,
          healthy, included⟩
  · refine .inr ⟨?_, [], disk.stored.openGate_error fits maxSize clock⟩
    intro openable
    exact fits (disk.stored.length_listSegments.symm.trans_le openable.segments)

theorem LeftBehind.opens (leftBehind : LeftBehind host dir frames) (maxSize : Nat)
    (clock : Clock) :
    OpensWith host dir frames (openGate host dir maxSize clock) := by
  rcases leftBehind with torn | recoverable | ⟨rfl, rfl⟩
  · exact .inr ⟨fun openable => openable.headers torn, [],
      torn.openGate_error host maxSize clock⟩
  · exact recoverable.opens maxSize clock
  · refine .inl ⟨⟨?_, Nat.zero_le _, ?_⟩, _, _, [[]], initialAnchor, openGate_blank,
      initialGate_healthy ?_, nil_prefix⟩
    · rintro ⟨name, file, _, found, _⟩
      cases found
    · intro anchor name found _ final
      cases final
    · exact (disk_initial host).anchor_complete initialAnchor

end ControlVault.Audit
