import ControlVault.Audit.RoundTrip
import Mathlib.Data.List.Infix

namespace ControlVault.Audit

open Foundation Directory Inspection List

/-!
# The anchor and lost records

Opening compares the anchor with the last segment only when bytes are left
behind the last valid record, only when the anchor names that segment, and only
by number.  A log that is cut inside a frame is therefore rejected, and one that
is cut at the end of a frame is accepted although the anchor names a record that
is gone.
-/

variable {host : Host} {dir : Directory} {before : List (List DecodedFrame)}

/-! ## Arbitrary logs -/

/-- The verified chain contains the record that the anchor names. -/
def AnchorHeld (host : Host) (dir : Directory) (state : AnchorState) : Prop :=
  state.sequence = 0 ∨ ∃ scans, Verified host dir 0 0 (listSegments dir) scans /\
    ∃ scan ∈ scans, ∃ frame ∈ scan.frames,
      frame.sequence = state.sequence /\ frame.currentHash = state.hash

/-- Opening compares the anchor with a segment if it is the last one, bytes are left behind its
records and the anchor names it. -/
structure Compared (dir : Directory) (state : AnchorState) (name : Text) (scan : SegmentScan) :
    Prop where
  last : (listSegments dir).getLast? = some name
  garbage : scan.left ≠ []
  index : extractSegmentIndex name = .ok state.segmentIndex

/-- What is to be known besides: the numbers of some segment do not begin behind the anchor's, they
reach it unless that was compared, and a record with that number has the anchor's hash. -/
def AnchorCovered (host : Host) (dir : Directory) (state : AnchorState) : Prop :=
  state.sequence = 0 ∨ ∃ name ∈ listSegments dir, ∃ scan, Scanned host dir name scan /\
    scan.header.firstSequence <= state.sequence /\
    (Compared dir state name scan ∨
      state.sequence < scan.header.firstSequence + scan.frames.length) /\
    ∀ frame ∈ scan.frames, frame.sequence = state.sequence -> frame.currentHash = state.hash

/-- No segment numbers its records beyond the largest number. -/
def Unwrapped (host : Host) (dir : Directory) : Prop :=
  ∀ name ∈ listSegments dir, ∀ scan, Scanned host dir name scan ->
    scan.header.firstSequence + scan.frames.length <= 2 ^ 64

variable {scan : SegmentScan} {scans : List SegmentScan} {length : Nat}

theorem Verified.name_of_mem {position : Nat} {hash : Hash} {names : List Text}
    (verified : Verified host dir position hash names scans) (mem : scan ∈ scans) :
    ∃ name ∈ names, Scanned host dir name scan := by
  induction verified with
  | nil => cases mem
  | cons accepted _ ih =>
    rcases mem_cons.mp mem with rfl | later
    · exact ⟨_, mem_cons_self, accepted.scanned⟩
    · rcases ih later with ⟨name, inside, scanned⟩
      exact ⟨name, mem_cons_of_mem _ inside, scanned⟩

variable {found : Inspection}

section

variable {state : AnchorState} (anchored : found.anchor = some state)
  (same : state.segmentIndex = found.segmentIndex)

include anchored same

theorem Inspection.checkAnchor_clean (clean : found.hasTailGarbage = false) :
    found.checkAnchor = .ok () := by
  rw [checkAnchor, anchored]
  dsimp only
  rw [same, clean, if_neg (lt_irrefl _), if_neg]
  rintro ⟨garbage, _⟩
  cases garbage

theorem Inspection.checkAnchor_ahead (garbage : found.hasTailGarbage = true)
    (ahead : found.lastSequence < state.sequence) :
    ∃ error, found.checkAnchor = .error error := by
  rw [checkAnchor, anchored]
  dsimp only
  rw [same, if_neg (lt_irrefl _), if_pos ⟨garbage, rfl, ahead⟩]
  exact ⟨_, rfl⟩

end

section Numbers

variable {name : Text} {state : AnchorState} (scanned : Scanned host dir name scan)
  (unwrapped : scan.header.firstSequence + scan.frames.length <= 2 ^ 64)

include scanned unwrapped

theorem Scanned.number {place : Nat} {frame : DecodedFrame}
    (found : scan.frames[place]? = some frame) :
    frame.sequence = scan.header.firstSequence + place := by
  have inside := (List.getElem?_eq_some_iff.mp found).1
  rw [scanned.linked.number_at scanned.header.firstSequence found]
  exact Nat.mod_eq_of_lt (by omega)

/-- The last number of a segment, as the tolerant reader reports it. -/
theorem Scanned.finish_lt (positive : 0 < scan.finish.sequence) :
    scan.finish.sequence < scan.header.firstSequence + scan.frames.length := by
  have last := scanned.walked.sequence
  change _ = (scan.frames.getLast?.map DecodedFrame.sequence).getD 0 at last
  cases final : scan.frames.getLast? with
  | none =>
    rw [last, final] at positive
    cases positive
  | some frame =>
    rw [final] at last
    rw [getLast?_eq_getElem?] at final
    have inside := (List.getElem?_eq_some_iff.mp final).1
    have number : frame.sequence = scan.header.firstSequence + (scan.frames.length - 1) :=
      scanned.number unwrapped final
    change scan.finish.sequence = frame.sequence at last
    omega

/-- Where opening compares the anchor and succeeds, the records reach its number. -/
theorem Compared.reaches {maxSize : Nat} {clock : Clock} {gate : AuditGate}
    (compared : Compared dir state name scan) (positive : state.sequence ≠ 0)
    (loaded : loadAnchor host dir = .ok (some state))
    (opened : (openGate host dir maxSize clock).result = .ok gate) :
    state.sequence < scan.header.firstSequence + scan.frames.length := by
  rw [openGate, loaded, compared.last] at opened
  dsimp only at opened
  cases inspected : inspect host dir (some state) name with
  | error error =>
    rw [inspected] at opened
    cases opened
  | ok found =>
    simp only [inspect, bind_eq_ok, pure_eq_ok] at inspected
    rcases inspected with ⟨_, _, index, parsed, info, read, content, file, header, _, _, checked, -⟩
    rw [compared.index] at parsed
    cases parsed
    rw [scanned.opened] at file
    cases file
    have body : scan.body ≠ [] := fun empty => compared.garbage (append_eq_nil_iff.mp empty).2
    rw [scanned.readLastValidRecordInfo_eq, if_neg body] at read
    cases read
    have garbage : (Inspection.of name state.segmentIndex scan.finish.info
        (scan.content host).length header (some state)).hasTailGarbage = true := by
      have more := length_pos_iff.mpr compared.garbage
      apply decide_eq_true
      change scan.finish.offset < (scan.content host).length
      rw [scanned.walked.offset, SegmentScan.content, SegmentScan.body, length_append,
        length_append, SegmentHeader.length_encode]
      change headerSize + _ < _
      omega
    have bounded : state.sequence <= scan.finish.sequence := by
      by_contra ahead
      rcases checkAnchor_ahead rfl rfl garbage (not_le.mp ahead) with ⟨_, rejected⟩
      rw [rejected] at checked
      cases checked
    have reached := scanned.finish_lt unwrapped (by omega)
    omega

end Numbers

/-- The chain contains the record of the anchor exactly if the anchor is covered. -/
theorem anchorHeld_iff_covered {state : AnchorState} {maxSize : Nat} {clock : Clock}
    {gate : AuditGate} (unwrapped : Unwrapped host dir)
    (loaded : loadAnchor host dir = .ok (some state))
    (opened : (openGate host dir maxSize clock).result = .ok gate) :
    AnchorHeld host dir state <-> AnchorCovered host dir state := by
  by_cases none : state.sequence = 0
  · exact iff_of_true (.inl none) (.inl none)
  · constructor
    · rintro (zero | ⟨scans, verified, scan, mem, frame, inside, number, hash⟩)
      · exact .inl zero
      rcases verified.name_of_mem mem with ⟨name, listed, scanned⟩
      have fits := unwrapped name listed scan scanned
      rcases mem_iff_getElem?.mp inside with ⟨place, found⟩
      have short := (List.getElem?_eq_some_iff.mp found).1
      have at_place := scanned.number fits found
      refine .inr ⟨name, listed, scan, scanned, by omega, .inr (by omega), ?_⟩
      intro other otherInside same
      rcases mem_iff_getElem?.mp otherInside with ⟨otherPlace, otherFound⟩
      have otherNumber := scanned.number fits otherFound
      have samePlace : otherPlace = place := by omega
      rw [samePlace, found] at otherFound
      cases otherFound
      exact hash
    · rintro (zero | ⟨name, listed, scan, scanned, first, reaches, hashes⟩)
      · exact .inl zero
      have fits := unwrapped name listed scan scanned
      have short : state.sequence < scan.header.firstSequence + scan.frames.length := by
        rcases reaches with compared | short
        · exact compared.reaches scanned fits none loaded opened
        · exact short
      rcases openGate_cases host dir maxSize clock with empty | ⟨_, failed⟩ | ⟨scans, verified⟩
      · rw [empty] at listed
        cases listed
      · rw [failed] at opened
        cases opened
      · rcases verified.scan_of_mem listed with ⟨other, mem, otherScanned⟩
        cases scanned.unique otherScanned
        have found := getElem?_eq_getElem
          (show state.sequence - scan.header.firstSequence < scan.frames.length by omega)
        have number := scanned.number fits found
        have inside := mem_of_getElem? found
        exact .inr ⟨scans, verified, scan, mem, _, inside, by omega, hashes _ inside (by omega)⟩

/-! ## Cutting the last segment -/

/-- The ends of the header and of the frames of a segment. -/
def frameBoundaries (frames : List DecodedFrame) : List Nat :=
  frames.inits.map endOffset

variable {front : List DecodedFrame}

theorem mem_frameBoundaries :
    length ∈ frameBoundaries frames <-> ∃ front, front <+: frames /\ endOffset front = length := by
  rw [frameBoundaries, mem_map]
  simp only [mem_inits]

/-- A cut behind the header keeps whole frames and a part of the next one. -/
theorem take_encodeFrames :
    ∀ {count : Nat}, count < (encodeFrames frames).length ->
      ∃ front frame back part, frames = front ++ frame :: back /\
        part < (encodeFrame frame).length /\ count = (encodeFrames front).length + part := by
  induction frames with
  | nil =>
    intro count short
    exact absurd short (Nat.not_lt_zero _)
  | cons head rest ih =>
    intro count short
    rw [encodeFrames, flatMap_cons, length_append] at short
    by_cases inside : count < (encodeFrame head).length
    · exact ⟨[], head, rest, count, rfl, inside, (Nat.zero_add _).symm⟩
    · have later : count - (encodeFrame head).length < (encodeFrames rest).length := by
        rw [encodeFrames]
        omega
      rcases ih later with ⟨front, frame, back, part, rfl, torn, length⟩
      refine ⟨head :: front, frame, back, part, rfl, torn, ?_⟩
      rw [encodeFrames, flatMap_cons, length_append]
      rw [encodeFrames] at length
      omega

theorem endOffset_mono (included : front <+: frames) : endOffset front <= endOffset frames := by
  rcases included with ⟨_, rfl⟩
  rw [endOffset, endOffset, encodeFrames_append, length_append]
  omega

theorem torn_not_boundary (torn : part < (encodeFrame frame).length) (positive : 0 < part) :
    endOffset front + part ∉ frameBoundaries (front ++ frame :: back) := by
  intro boundary
  rcases mem_frameBoundaries.mp boundary with ⟨_, included, length⟩
  have whole : front ++ [frame] <+: front ++ frame :: back :=
    ⟨back, by rw [append_assoc]; rfl⟩
  have next : endOffset (front ++ [frame]) = endOffset front + (encodeFrame frame).length := by
    rw [endOffset, endOffset, encodeFrames_append, encodeFrames_singleton, length_append,
      Nat.add_assoc]
  rcases prefix_or_prefix_of_prefix included whole with shorter | longer
  · rcases prefix_concat_iff.mp shorter with rfl | shorter
    · omega
    · have bound := endOffset_mono shorter
      omega
  · have bound := endOffset_mono longer
    omega

section Cut

variable {back : List DecodedFrame} {frame : DecodedFrame} {part : Nat}

theorem Disk.cut {anchor : Option AnchorState}
    (disk : Disk host dir (before ++ [front ++ frame :: back]) [] anchor)
    (torn : part < (encodeFrame frame).length) :
    Disk host (dir.apply (.setLength (segmentName before.length) (endOffset front + part)))
      (before ++ [front]) ((encodeFrame frame).take part) anchor := by
  have same : ∀ name, name ≠ segmentName before.length ->
      (dir.apply (.setLength (segmentName before.length) (endOffset front + part))).get name =
        dir.get name :=
    fun name different => Table.get_modify_of_ne _ _ different
  have linked := disk.stored.last_linked
  rw [linked_append disk.stored.last_first] at linked
  have inRange := disk.stored.inRange
  rw [flatten_append, flatten_singleton, length_append, length_append] at inRange
  apply disk.of_segment before.length same
  apply disk.stored.front.close same _ linked.1 (by omega)
  have content : contentAfter host.env before (front ++ frame :: back) ++ [] =
        contentAfter host.env before front ++ (encodeFrame frame ++ encodeFrames back) := by
    rw [append_nil, contentAfter, segmentContent, encodeFrames_append]
    rfl
  have length := length_contentAfter host.env before front
  rw [apply, Table.get_modify_self, disk.stored.last_file, Option.map_some, content, <- length,
    Foundation.setLength, take_length_add_append, take_append_of_le_length torn.le, length_append,
    length_append, Nat.sub_eq_zero_of_le (by omega), replicate_zero, append_nil]

theorem cut_behind_tip (before : List (List DecodedFrame)) (front back : List DecodedFrame)
    (frame : DecodedFrame) (tail : Bytes) :
    (Stored.foundIn before front tail
        (some (tip (before ++ [front ++ frame :: back])))).lastSequence <
      (tip (before ++ [front ++ frame :: back])).sequence /\
    (tip (before ++ [front ++ frame :: back])).segmentIndex = before.length := by
  constructor
  · change (if front = [] then 0 else (before.flatten ++ front).length) <
      (before ++ [front ++ frame :: back]).flatten.length
    rw [flatten_append, flatten_singleton, length_append, length_append, length_append, length_cons]
    split <;> omega
  · change (before ++ [front ++ frame :: back]).length - 1 = before.length
    rw [length_append, length_singleton, Nat.add_sub_cancel]

variable (disk : Disk host dir (before ++ [front ++ frame :: back]) []
    (some (tip (before ++ [front ++ frame :: back]))))
  (fits : (before ++ [front ++ frame :: back]).length <= 10 ^ 6)

include disk fits

section

variable (torn : part < (encodeFrame frame).length) (maxSize : Nat) (clock : Clock)

include torn maxSize clock

theorem Disk.cut_openGate :
    openGate host (dir.apply (.setLength (segmentName before.length) (endOffset front + part)))
      maxSize clock = match (Stored.foundIn before front ((encodeFrame frame).take part)
          (some (tip (before ++ [front ++ frame :: back])))).checkAnchor with
        | .error error => ⟨[], .error error⟩
        | .ok _ => resume host (Stored.foundIn before front ((encodeFrame frame).take part)
            (some (tip (before ++ [front ++ frame :: back]))))
            (dir.apply (.setLength (segmentName before.length) (endOffset front + part)))
            maxSize clock := by
  have cut := disk.cut torn
  have complete : frame.Sealed host.env := by
    apply disk.stored.last_linked.complete
    exact mem_append_right _ mem_cons_self
  have valid : (tip (before ++ [front ++ frame :: back])).Valid := by
    have inRange := disk.stored.inRange
    refine ⟨?_, ?_⟩
    · rw [(cut_behind_tip before front back frame []).2]
      rw [length_append] at fits
      omega
    · change (before ++ [front ++ frame :: back]).flatten.length < 2 ^ 64
      omega
  have loaded := cut.loadAnchor_eq (fun state same => by cases same; exact valid)
  have few : (before ++ [front]).length <= 10 ^ 6 := by
    rw [length_append] at fits ⊢
    exact fits
  exact cut.stored.openGate_eq (readFrame_torn complete torn) few loaded

/-- Opening the cut log succeeds exactly when no part of a frame is left. -/
theorem Disk.open_cut_iff :
    (∃ gate, (openGate host
      (dir.apply (.setLength (segmentName before.length) (endOffset front + part)))
      maxSize clock).result = .ok gate) <-> part = 0 := by
  rcases cut_behind_tip before front back frame ((encodeFrame frame).take part) with ⟨ahead, index⟩
  rw [disk.cut_openGate fits torn]
  constructor
  · rintro ⟨gate, opened⟩
    by_contra some
    have garbage : (Stored.foundIn before front ((encodeFrame frame).take part)
        (Option.some (tip (before ++ [front ++ frame :: back])))).hasTailGarbage = true := by
      apply decide_eq_true
      change endOffset front < endOffset front + ((encodeFrame frame).take part).length
      rw [length_take]
      omega
    rcases checkAnchor_ahead rfl index garbage ahead with ⟨_, rejected⟩
    rw [rejected] at opened
    cases opened
  · rintro rfl
    have clean : (Stored.foundIn before front []
        (some (tip (before ++ [front ++ frame :: back])))).hasTailGarbage = false :=
      decide_eq_false (lt_irrefl _)
    have quiet : (Stored.foundIn before front []
        (some (tip (before ++ [front ++ frame :: back])))).needsRecovery = false := by
      rw [needsRecovery, clean]
      apply decide_eq_false
      rintro (older | earlier)
      · exact lt_asymm ahead older
      · rw [index] at earlier
        exact lt_irrefl _ earlier
    rw [take_zero, checkAnchor_clean rfl index clean]
    rw [resume_anchored rfl, recover, quiet]
    exact ⟨_, rfl⟩

end

end Cut

/-- Every shorter length of the last segment, and what opening makes of it. -/
theorem Disk.open_shorter_iff
    (disk : Disk host dir (before ++ [last]) [] (some (tip (before ++ [last]))))
    (fits : (before ++ [last]).length <= 10 ^ 6) (shorter : length < endOffset last)
    (maxSize : Nat) (clock : Clock) :
    (∃ gate, (openGate host (dir.apply (.setLength (segmentName before.length) length))
      maxSize clock).result = .ok gate) <-> length ∈ frameBoundaries last := by
  by_cases header : length < headerSize
  · have torn : HeaderTorn (dir.apply (.setLength (segmentName before.length) length)) := by
      have file : (dir.apply (.setLength (segmentName before.length) length)).get
          (segmentName before.length) = some ⟨Foundation.setLength
            (contentAfter host.env before last ++ []) length, ownStat host⟩ := by
        rw [apply, Table.get_modify_self, disk.stored.last_file, Option.map_some]
      refine ⟨_, _, isSegmentName_segmentName _, file, ?_⟩
      rw [Foundation.setLength, length_append, length_take, length_replicate]
      omega
    refine iff_of_false ?_ ?_
    · rintro ⟨gate, opened⟩
      rcases torn.openGate_error host maxSize clock with ⟨_, failed⟩
      rw [failed] at opened
      cases opened
    · intro boundary
      rcases mem_frameBoundaries.mp boundary with ⟨front, _, rfl⟩
      rw [endOffset] at header
      omega
  · have inside : length - headerSize < (encodeFrames last).length := by
      rw [endOffset] at shorter
      omega
    rcases take_encodeFrames inside with ⟨front, _, _, part, rfl, torn, _⟩
    have same : length = endOffset front + part := by
      rw [endOffset]
      omega
    rw [same, disk.open_cut_iff fits torn]
    constructor
    · rintro rfl
      exact mem_frameBoundaries.mpr ⟨front, prefix_append _ _, (Nat.add_zero _).symm⟩
    · intro boundary
      by_contra some
      exact torn_not_boundary torn (Nat.pos_of_ne_zero some) boundary

/-- For arbitrary files, an opened log contains the record of its anchor exactly when the anchor is
covered; for a log that the gate wrote and that lost bytes at its end, opening fails exactly
when the cut is not at the end of the header or of a frame. -/
theorem anchor_detects_loss_iff (host : Host) :
    (∀ dir state maxSize clock gate, Unwrapped host dir ->
      loadAnchor host dir = .ok (some state) ->
        (openGate host dir maxSize clock).result = .ok gate ->
          (AnchorHeld host dir state <-> AnchorCovered host dir state)) /\
    ∀ firstSize firstClock performed events state,
      Sessions host (.opened firstSize firstClock performed :: events) state ->
        (∀ event ∈ events, event.Calm) -> (listSegments state.directory).length < 10 ^ 6 ->
          ∃ before last, RoundTrip host state.directory (acknowledged events) (before ++ [last]) /\
            ∀ length maxSize clock, length < endOffset last ->
              ((∀ gate, (openGate host
                  (state.directory.apply (.setLength (segmentName before.length) length))
                  maxSize clock).result ≠ .ok gate) <-> length ∉ frameBoundaries last) := by
  constructor
  · intro dir state maxSize clock gate unwrapped loaded opened
    exact anchorHeld_iff_covered unwrapped loaded opened
  · intro firstSize firstClock performed events state run calm few
    rcases calm_log run calm with ⟨segs, written⟩
    have fits : segs.length <= 10 ^ 6 := by
      rw [written.disk.stored.length_listSegments] at few
      exact few.le
    rcases eq_nil_or_concat segs with rfl | ⟨before, last, rfl⟩
    · exact absurd rfl written.disk.stored.nonempty
    rw [concat_eq_append] at written fits
    refine ⟨before, last, written.roundTrip fits, ?_⟩
    intro length maxSize clock shorter
    rw [<- not_exists, written.disk.open_shorter_iff fits shorter]

/-- The small log, cut back to the header of its segment. -/
def sampleCut : Directory :=
  sampleLog.apply (.setLength (segmentName 0) headerSize)

theorem sampleCut_frames {name : Text} (listed : name ∈ listSegments sampleCut)
    (scanned : Scanned sampleHost sampleCut name scan) : scan.frames = [] := by
  have names : listSegments sampleCut = [segmentName 0] := by
    decide +kernel
  have size : (openFileAt sampleCut (segmentName 0)).map length = .ok headerSize := by
    decide +kernel
  rw [names] at listed
  rcases mem_singleton.mp listed with rfl
  have length : (scan.content sampleHost).length = headerSize := by
    rw [scanned.opened] at size
    exact Except.ok.inj size
  rw [SegmentScan.content, length_append, SegmentHeader.length_encode] at length
  have empty : scan.body = [] := length_eq_zero_iff.mp (by omega)
  rw [SegmentScan.frames, (scanned.pieces_nil empty).1]
  rfl

theorem sampleCut_opened :
    ∃ state gate, loadAnchor sampleHost sampleCut = .ok (some state) /\ state.sequence = 1 /\
      (openGate sampleHost sampleCut 200 ⟨0, 0⟩).result = .ok gate := by
  have accepted :
      (loadAnchor sampleHost sampleCut).toOption.join.map AnchorState.sequence = some 1 /\
        (openGate sampleHost sampleCut 200 ⟨0, 0⟩).result.toOption.isSome = true := by
    decide +kernel
  rcases accepted with ⟨anchored, opened⟩
  rcases Option.map_eq_some_iff.mp anchored with ⟨state, present, sequence⟩
  rcases Option.isSome_iff_exists.mp opened with ⟨gate, result⟩
  have loaded : loadAnchor sampleHost sampleCut = .ok (some state) := by
    cases read : loadAnchor sampleHost sampleCut with
    | error error =>
      rw [read] at present
      cases present
    | ok anchor =>
      rw [read] at present
      exact congrArg Except.ok present
  refine ⟨state, gate, loaded, sequence, ?_⟩
  cases performed : (openGate sampleHost sampleCut 200 ⟨0, 0⟩).result with
  | error error =>
    rw [performed] at result
    cases result
  | ok other =>
    rw [performed] at result
    exact congrArg Except.ok (Option.some_inj.mp result)

/-- The acknowledged record is cut off, and opening succeeds. -/
theorem lost_record_accepted :
    ∃ state gate, loadAnchor sampleHost sampleCut = .ok (some state) /\ state.sequence = 1 /\
      (openGate sampleHost sampleCut 200 ⟨0, 0⟩).result = .ok gate /\
      ¬ AnchorHeld sampleHost sampleCut state := by
  rcases sampleCut_opened with ⟨state, gate, loaded, sequence, opened⟩
  refine ⟨state, gate, loaded, sequence, opened, ?_⟩
  rintro (none | ⟨scans, verified, scan, mem, frame, inside, _⟩)
  · rw [sequence] at none
    cases none
  · rcases verified.name_of_mem mem with ⟨name, listed, scanned⟩
    rw [sampleCut_frames listed scanned] at inside
    cases inside

/-- The small run again, with one segment and one record, and the cut log, whose anchor is neither
held nor covered. -/
theorem sample_detects_loss_iff :
    (∃ state, Unwrapped sampleHost sampleCut /\
      loadAnchor sampleHost sampleCut = .ok (some state) /\
        (AnchorHeld sampleHost sampleCut state <-> AnchorCovered sampleHost sampleCut state)) /\
    ∃ before last,
      RoundTrip sampleHost sampleLog (acknowledged [.recorded sampleEvent 7 sampleRecord.result.1])
        (before ++ [last]) /\
      ∀ length maxSize clock, length < endOffset last ->
        ((∀ gate, (openGate sampleHost
          (sampleLog.apply (.setLength (segmentName before.length) length)) maxSize
          clock).result ≠ .ok gate) <-> length ∉ frameBoundaries last) := by
  constructor
  · rcases sampleCut_opened with ⟨state, gate, loaded, _, opened⟩
    have unwrapped : Unwrapped sampleHost sampleCut := by
      intro name listed scan scanned
      rw [sampleCut_frames listed scanned]
      exact scanned.header.firstSequence.le
    exact ⟨state, unwrapped, loaded, (anchor_detects_loss_iff sampleHost).1 _ _ _ _ _ unwrapped
      loaded opened⟩
  · have calm :
        ∀ event ∈ [AuditAction.recorded sampleEvent 7 sampleRecord.result.1], event.Calm := by
      rw [sampleRecord_accepted, forall_mem_singleton]
      trivial
    have few : (listSegments sampleLog).length < 10 ^ 6 := by
      decide +kernel
    have outcome := (anchor_detects_loss_iff sampleHost).2 200 ⟨0, 0⟩ _ _ _ sample_run calm
    dsimp only at outcome
    exact outcome few

end ControlVault.Audit
